import Blockhost.Orchestrator.SafeExtraction

/-! The extraction of a downloaded or uploaded server. Each entry is resolved when its turn comes,
and entries make no links.
-/

namespace Blockhost.BedrockDownload

open Library FileTree SafeExtraction

/-- An entry of a zip archive, which may fail to open or break off while it is copied. -/
structure ZipEntry where
  name : String
  opens : Bool := true
  reads : Bool := true

/-- An entry without content, which is passed over. -/
def ZipEntry.isDir (entry : ZipEntry) : Bool :=
  entry.name = "" || entry.name.toList.getLast? = some '/'

/-- `(dest_dir / name).resolve()`, when it is below the destination. -/
def outPath (tree : LinkTree) (dest : RawPath) (name : String) : Option Location :=
  match tree.realpath dest, tree.realpath (tarPath dest name) with
  | some root, some place =>
      if root ≠ [] ∧ root.isPrefixOf place ∧ root ≠ place then some place else none
  | _, _ => none

def writeEntry (entry : ZipEntry) (place : Location) : TarM Unit := do
  mkdirParents place.dropLast.reverse
  refuse (!entry.opens) .system
  openWrite place
  refuse (!entry.reads) .system

def extractEntry (dest : RawPath) (entry : ZipEntry) : TarM Unit := fun volume =>
  if entry.isDir then .ok () volume
  else
    match outPath volume.tree dest entry.name with
    | none => .error .system volume
    | some place => writeEntry entry place volume

/-- `safe_extract_zip`: the disk with the destination, and what the entries make of it. -/
def safeExtractZip (tree : LinkTree) (dest : RawPath) (entries : List ZipEntry)
    : Except ExtractionFailure (LinkTree × EStateM.Result TarFailure Volume Unit) := do
  let before ← makeTarget tree dest
  return (before, entries.forM (extractEntry dest) { tree := before })

-- Directories

theorem mkdirParents_keeps {relation : Volume → Volume → Prop} [IsPreorder Volume relation]
    (one : ∀ path, Keeps relation (mkdir path)) (path : RawPath)
    : Keeps relation (mkdirParents path) := by
  have here := fun path => makeDirectory_keeps one path
  induction path with
  | nil => exact here []
  | cons last above ih =>
      exact (here _).tryCatch fun failure =>
        (Keeps.refuse _ failure).bind fun _ => ih.bind fun _ => here _

/-- A name below the destination, or another name that a file there had before. -/
def Reached (before : LinkTree) (root name : Location) : Prop :=
  ∃ place, root <+: place ∧ (place = name ∨ before.SameFile place name)

theorem reached_below {before : LinkTree} {root place : Location} (inside : root <+: place)
    : Reached before root place :=
  ⟨place, inside, .inl rfl⟩

abbrev Below (before : LinkTree) (root : Location) : Touch → Prop :=
  Touch.Within root (Reached before root)

/-- By induction on the path. -/
theorem mkdirParents_below {before : LinkTree} {root : Location} {path : RawPath}
    {volume : Volume} (upper : UpperInside volume.tree root path.reverse)
    : Noted (Below before root) (mkdirParents path) volume := by
  have here {last : String} {above : RawPath} {middle : Volume}
      (upper : UpperInside middle.tree root (last :: above).reverse)
      : Noted (Below before root) (makeDirectory (last :: above).reverse) middle :=
    makeDirectory_missing (fun _ => reached_below) (upper _ (List.prefix_refl _))
  induction path generalizing volume with
  | nil => exact makeDirectory_missing (fun _ => reached_below) (upper [] List.nil_prefix)
  | cons last above ih =>
      refine (here upper).tryCatch fun failure middle failed => ?_
      have first : MoreDirs volume middle := by
        simpa only [failed, finalState]
          using makeDirectory_keeps mkdir_moreDirs (last :: above).reverse volume
      refine (Noted.refuse _ _).bind fun _ _ passed => ?_
      rw [(refuse_ok passed).2]
      refine (ih ((upper.moreDirs first).above (by simp))).bind fun _ next made => ?_
      have second : MoreDirs middle next := by
        simpa only [made, finalState] using mkdirParents_keeps mkdir_moreDirs above middle
      exact here ((upper.moreDirs first).moreDirs second)

-- Entries

variable {tree before : LinkTree} {dest : RawPath} {root place : Location}
variable {volume next : Volume}

theorem outPath_some {name : String} (found : outPath tree dest name = some place)
    (home : tree.LeadsTo dest root)
    : tree.LeadsTo (tarPath dest name) place ∧ root <+: place ∧ root ≠ place := by
  unfold outPath at found
  split at found
  · rename_i _ _ resolved known
    obtain ⟨⟨_, below, strict⟩, ⟨⟩⟩ := Option.ite_none_right_eq_some.mp found
    rw [home.unique (leadsTo_of_realpath resolved)]
    exact ⟨leadsTo_of_realpath known, List.isPrefixOf_iff_prefix.mp below, strict⟩
  · cases found

theorem sameFile_of_mem_names {name : Location} (member : name ∈ tree.names place)
    : place = name ∨ tree.SameFile place name := by
  have listed := mem_names.mp member
  cases number : tree.inode place with
  | none =>
      rw [number] at listed
      exact .inl listed.symm
  | some inode =>
      rw [number] at listed
      exact .inr (sameFile_iff.mpr ⟨inode, number, listed⟩)

theorem dropLast_inside (inside : root <+: place) (strict : root ≠ place)
    : root <+: place.dropLast := by
  obtain ⟨rest, rfl⟩ := inside
  rw [List.dropLast_append_of_ne_nil (by simpa using strict)]
  exact List.prefix_append ..

theorem upperInside_settled (settled : tree.Settled place) (inside : root <+: place)
    (stored : tree.lookup root ≠ none)
    : UpperInside tree root place := by
  intro front within other leads missing
  obtain rfl := leads.unique (settled.above within).leadsTo
  rcases List.prefix_or_prefix_of_prefix within inside with higher | lower
  · exact absurd missing (tree.lookup_of_prefix stored higher)
  · exact lower

theorem writeEntry_keeps {relation : Volume → Volume → Prop} [IsPreorder Volume relation]
    (make : ∀ path, Keeps relation (mkdir path)) (write : ∀ path, Keeps relation (openWrite path))
    (entry : ZipEntry) (place : Location)
    : Keeps relation (writeEntry entry place) :=
  (mkdirParents_keeps make _).bind fun _ => (Keeps.refuse _ _).bind fun _ =>
    (write place).bind fun _ => .refuse _ _

theorem writeEntry_below (entry : ZipEntry) (grown : Grown { tree := before } volume)
    (settled : volume.tree.Settled place) (inside : root <+: place) (strict : root ≠ place)
    (stored : volume.tree.lookup root ≠ none)
    : Noted (Below before root) (writeEntry entry place) volume := by
  have upper := upperInside_settled settled.parent (dropLast_inside inside strict) stored
  refine (mkdirParents_below (by simpa using upper)).bind fun _ middle made => ?_
  have more : MoreDirs volume middle := by
    simpa only [made, finalState]
      using mkdirParents_keeps mkdir_moreDirs place.dropLast.reverse volume
  refine (Noted.refuse _ _).bind fun _ _ passed => ?_
  rw [(refuse_ok passed).2]
  have later : Grown volume middle := by
    simpa only [made, finalState]
      using mkdirParents_keeps mkdir_grown place.dropLast.reverse volume
  refine (openWrite_within (fun _ => reached_below) fun other leads => ?_).bind fun _ _ _ =>
    .refuse _ _
  have here := (leadsTo_congr more.linkText place other).mp leads
  obtain rfl := here.unique settled.leadsTo
  refine ⟨inside, fun name member => ⟨other, inside, ?_⟩⟩
  -- The extraction gives no file a second name.
  rcases sameFile_of_mem_names member with same | shared
  · exact .inl same
  · exact (trans_of Grown grown later).shared other name shared

-- Archives

variable {entry : ZipEntry} {entries : List ZipEntry}
variable {result : EStateM.Result TarFailure Volume Unit}

theorem extractEntry_keeps {relation : Volume → Volume → Prop} [IsPreorder Volume relation]
    (make : ∀ path, Keeps relation (mkdir path)) (write : ∀ path, Keeps relation (openWrite path))
    (dest : RawPath) (entry : ZipEntry)
    : Keeps relation (extractEntry dest entry) := by
  intro volume
  unfold extractEntry
  split
  · exact refl_of relation volume
  · split
    · exact refl_of relation volume
    · exact writeEntry_keeps make write entry _ volume

theorem extractEntry_grown (done : extractEntry dest entry volume = .ok () next)
    : Grown volume next := by
  simpa only [done, finalState] using
    extractEntry_keeps mkdir_grown openWrite_grown dest entry volume

theorem extractEntry_below (grown : Grown { tree := before } volume)
    (home : volume.tree.LeadsTo dest root) (stored : volume.tree.lookup root ≠ none)
    : Noted (Below before root) (extractEntry dest entry) volume := by
  intro touch member
  unfold extractEntry at member
  split at member
  · exact .inl member
  · split at member
    · exact .inl member
    · rename_i place found
      obtain ⟨leads, inside, strict⟩ := outPath_some found home
      exact writeEntry_below entry grown leads.settled inside strict stored touch member

/-- By induction on the entries. -/
theorem forM_below (grown : Grown { tree := before } volume)
    (home : volume.tree.LeadsTo dest root) (stored : volume.tree.lookup root ≠ none)
    : Noted (Below before root) (entries.forM (extractEntry dest)) volume := by
  induction entries generalizing volume with
  | nil => exact .pure ()
  | cons entry rest ih =>
      refine (extractEntry_below grown home stored).bind fun _ middle done => ?_
      have later := extractEntry_grown done
      exact ih (trans_of Grown grown later) ((leadsTo_congr later.links dest root).mpr home)
        (by rwa [later.kept root stored])

/-- An entry that is extracted is in a file, under the name that it was resolved to. -/
def Present (dest : RawPath) (root : Location) (volume : Volume) (entry : ZipEntry) : Prop :=
  entry.isDir = false
    → ∃ place, volume.tree.LeadsTo (tarPath dest entry.name) place
        ∧ root <+: place ∧ root ≠ place
        ∧ ∃ regular inode, volume.tree.lookup place = some (.file (.node regular inode))

theorem extractEntry_present (home : volume.tree.LeadsTo dest root)
    (done : extractEntry dest entry volume = .ok () next)
    : Present dest root next entry := by
  intro content
  have grown := extractEntry_grown done
  unfold extractEntry at done
  rw [content, if_neg Bool.false_ne_true] at done
  split at done
  · cases done
  · rename_i place found
    obtain ⟨leads, inside, strict⟩ := outPath_some found home
    obtain ⟨_, middle, made, later⟩ := state_bind_ok done
    obtain ⟨_, _, passed, rest⟩ := state_bind_ok later
    obtain ⟨_, last, written, ended⟩ := state_bind_ok rest
    obtain ⟨_, rfl⟩ := refuse_ok ended
    obtain ⟨other, there, stored⟩ := openWrite_node written
    have here := (leadsTo_congr grown.links place other).mp there
    refine ⟨place, (leadsTo_congr grown.links _ place).mpr leads, inside, strict, ?_⟩
    exact here.unique leads.settled.leadsTo ▸ stored

/-- By induction on the entries. -/
theorem forM_present (home : volume.tree.LeadsTo dest root)
    (done : entries.forM (extractEntry dest) volume = .ok () next)
    : ∀ entry ∈ entries, Present dest root next entry := by
  induction entries generalizing volume with
  | nil => exact fun _ none => absurd none List.not_mem_nil
  | cons first rest ih =>
      obtain ⟨_, middle, here, later⟩ := state_bind_ok done
      have home' := (leadsTo_congr (extractEntry_grown here).links dest root).mpr home
      have grown : Grown middle next := by
        have kept := Keeps.forM fun entry (_ : entry ∈ rest) =>
          extractEntry_keeps mkdir_grown openWrite_grown dest entry
        simpa only [later, finalState] using kept middle
      intro entry member content
      rcases List.mem_cons.mp member with rfl | more
      · obtain ⟨place, leads, inside, strict, stored⟩ := extractEntry_present home here content
        refine ⟨place, (leadsTo_congr grown.links _ place).mpr leads, inside, strict, ?_⟩
        obtain ⟨regular, inode, file⟩ := stored
        exact ⟨regular, inode, (grown.kept place (by simp [file])).trans file⟩
      · exact ih home' later entry more content

/-- Whatever the entries are called, and wherever the extraction breaks off, it changes no entry
outside of the destination, loses nothing and makes no link; it writes only to files below the
destination, which may have had other names outside before; and when it does not break off, every
entry with content is in a file strictly below the destination.
-/
theorem zip_extraction_contained (done : safeExtractZip tree dest entries = .ok (before, result))
    : ∃ root, before.LeadsTo dest root ∧ before.isDir root = true
        ∧ Grown { tree := before } (finalState result)
        ∧ (∀ place, ¬ root <+: place
          → (finalState result).tree.lookup place = before.lookup place)
        ∧ (∀ touch ∈ (finalState result).touched, root <+: touch.place
          ∧ ∀ name ∈ touch.names, Reached before root name)
        ∧ ∀ after, result = .ok () after → ∀ entry ∈ entries, Present dest root after entry := by
  obtain ⟨_, made, same⟩ := except_bind_ok done
  cases same
  unfold makeTarget at made
  split at made
  · rename_i volume reached
    cases made
    obtain ⟨root, found, dir⟩ := mkdirParents_found reached
    rw [List.reverse_reverse] at found
    let clean : Volume := { tree := volume.tree }
    have home : clean.tree.LeadsTo dest root := leadsTo_of_find found
    have stored : clean.tree.lookup root ≠ none := by simp [clean, isDir_eq_true.mp dir]
    have below : Noted (Below clean.tree root) (entries.forM (extractEntry dest)) clean :=
      forM_below (refl_of Grown clean) home stored
    refine ⟨root, home, dir, ?_, fun place away => ?_, fun touch member => ?_,
      fun after ended => forM_present home ended⟩
    · exact Keeps.forM (fun entry _ => extractEntry_keeps mkdir_grown openWrite_grown dest entry) _
    · obtain ⟨more, noted, changes⟩ :=
        Keeps.forM (fun entry (_ : entry ∈ entries) =>
          extractEntry_keeps mkdir_recorded openWrite_recorded dest entry) clean
      by_contra changed
      obtain ⟨_, touch, member, rfl⟩ := changes place changed
      have listed := noted ▸ List.mem_append_right _ member
      rcases below touch listed with none | inside
      · cases none
      · exact away inside.place
    · rcases below touch member with none | inside
      · cases none
      · exact ⟨inside.place, inside.names⟩
  · cases made

/-- An upload whose second entry names a place outside. -/
theorem escaping_upload_contained
    : ∃ before result, safeExtractZip .empty ["tmp", "extract"]
          [⟨"bedrock_server", true, true⟩, ⟨"../../etc/passwd", true, true⟩]
        = .ok (before, result)
      ∧ ∃ root, ∀ place, ¬ root <+: place
        → (finalState result).tree.lookup place = before.lookup place := by
  have succeeds
      : (safeExtractZip .empty ["tmp", "extract"]
          [⟨"bedrock_server", true, true⟩, ⟨"../../etc/passwd", true, true⟩]).map (fun _ => ())
        = .ok () := by
    decide +kernel
  obtain ⟨⟨before, result⟩, done, _⟩ := except_map_ok succeeds
  obtain ⟨root, _, _, _, elsewhere, _⟩ := zip_extraction_contained done
  exact ⟨before, result, done, root, elsewhere⟩

end Blockhost.BedrockDownload
