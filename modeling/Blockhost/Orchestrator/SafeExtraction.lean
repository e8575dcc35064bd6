import Blockhost.Library.TarGrowth
import Blockhost.Orchestrator.BackupPaths

/-! The extraction of a backup archive for a restore. Names and types of all members are checked
first, then where each of them leads; after that nothing can lead elsewhere.
-/

namespace Blockhost.SafeExtraction

open Library FileTree

-- The checks

inductive ExtractionFailure where
  | refused (error : BackupRestoreError)
  | failed (failure : TarFailure)
  /-- Links that lead in a circle. -/
  | circle
deriving DecidableEq, Repr

def startsWith (text beginning : String) : Bool := beginning.toList.isPrefixOf text.toList

/-- `getmember`, which takes the last member of a name. -/
def getmember (members : List TarMember) (name : String) : Option TarMember :=
  members.reverse.find? (fun member => member.name = name)

def checkMember (member : TarMember) : Except BackupRestoreError Unit :=
  if isAbsolute member.name || (pathParts member.name).contains ".." then
    .error ⟨"unsafe_archive", "Unsafe archive member: " ++ member.name⟩
  else if member.isLink then
    .error ⟨"unsafe_archive", "Archive links are not allowed: " ++ member.name⟩
  else .ok ()

def hasWorldChild (members : List TarMember) : Bool :=
  members.any fun member =>
    startsWith member.name "bedrock/worlds/" || startsWith member.name "java/world"

def checkWorld (members : List TarMember) : Except BackupRestoreError Unit :=
  if (getmember members "bedrock/worlds").isSome then .ok ()
  else if (getmember members "java/world").isSome then .ok ()
  else if hasWorldChild members then .ok ()
  else .error ⟨"invalid_archive", "Archive does not contain a world directory"⟩

/-- `_validate_archive_members` -/
def validateArchiveMembers (members : List TarMember) : Except BackupRestoreError Unit := do
  members.forM checkMember
  checkWorld members

/-- `mkdir(parents=True, exist_ok=True)`, for a path from its last name up. -/
def mkdirParents : RawPath → TarM Unit
  | [] => makeDirectory []
  | last :: above =>
      tryCatch (makeDirectory (last :: above).reverse) fun failure => do
        refuse (failure = .exists) failure
        mkdirParents above
        makeDirectory (last :: above).reverse

/-- Where the member will be made, which must be below the target. -/
def checkDestination (tree : LinkTree) (target : RawPath) (targetRoot : Location)
    (member : TarMember) : Except ExtractionFailure Unit :=
  match tree.realpath (tarPath target member.name) with
  | none => .error .circle
  | some destination =>
      if targetRoot.isPrefixOf destination then .ok ()
      else
        .error (.refused ⟨"unsafe_archive", "Unsafe archive member: " ++ member.name⟩)

structure Extracted where
  before : LinkTree
  targetRoot : Location
  after : Volume

def makeTarget (tree : LinkTree) (target : RawPath) : Except ExtractionFailure LinkTree :=
  match mkdirParents target.reverse { tree } with
  | .ok _ made => .ok made.tree
  | .error failure _ => .error (.failed failure)

def resolveTarget (tree : LinkTree) (target : RawPath) : Except ExtractionFailure Location :=
  match tree.realpath target with
  | none => .error .circle
  | some targetRoot => .ok targetRoot

/-- `extractall` without a filter; so many steps are enough. -/
def extracting (referenced : TarMember → Option TarMember) (tree : LinkTree) (target : RawPath)
    (members : List TarMember) : Extraction :=
  let tasks := extractAll target (fun _ => true) members
  (Extraction.step referenced)^[3 * tasks.length] { volume := { tree }, later := tasks }

def outcome (state : Extraction) : Except ExtractionFailure Volume :=
  match state.raised with
  | some failure => .error (.failed failure)
  | none => .ok state.volume

/-- `_extract_safely` -/
def extractSafely (referenced : TarMember → Option TarMember) (tree : LinkTree)
    (target : RawPath) (members : List TarMember) : Except ExtractionFailure Extracted := do
  (validateArchiveMembers members).mapError .refused
  let before ← makeTarget tree target
  let targetRoot ← resolveTarget before target
  members.forM (checkDestination before target targetRoot)
  let after ← outcome (extracting referenced before target members)
  return { before, targetRoot, after }

-- What the checks establish

/-- A world where restores look for one, or something in it. -/
def isWorldEntry (name : String) : Bool :=
  name = "bedrock/worlds" || name = "java/world" || startsWith name "bedrock/worlds/"
  || startsWith name "java/world/"

/-- The names for which the check finds a world. -/
def acceptedName (name : String) : Bool :=
  name = "bedrock/worlds" || startsWith name "bedrock/worlds/" || startsWith name "java/world"

/-- Whatever the check finds only begins like the world of a Java server. -/
def OnlyBeginsLikeWorld (members : List TarMember) : Prop :=
  ∀ member ∈ members, acceptedName member.name → ¬ isWorldEntry member.name

instance (members : List TarMember) : Decidable (OnlyBeginsLikeWorld members) :=
  inferInstanceAs (Decidable (∀ member ∈ members, _ → _))

variable {referenced : TarMember → Option TarMember} {tree : LinkTree} {target : RawPath}
  {members : List TarMember} {extracted : Extracted}

theorem acceptedName_of_isWorldEntry {name : String} (world : isWorldEntry name = true)
    : acceptedName name = true := by
  simp only [isWorldEntry, Bool.or_eq_true, decide_eq_true_eq] at world
  simp only [acceptedName, Bool.or_eq_true, decide_eq_true_eq]
  rcases world with ((bedrock | rfl) | below) | java
  · exact .inl (.inl bedrock)
  · exact .inr (by decide)
  · exact .inl (.inr below)
  · have longer : "java/world".toList <+: "java/world/".toList := by decide
    exact .inr (List.isPrefixOf_iff_prefix.mpr
      (longer.trans (List.isPrefixOf_iff_prefix.mp java)))

theorem getmember_some {name : String} (found : (getmember members name).isSome)
    : ∃ member ∈ members, member.name = name := by
  obtain ⟨member, known⟩ := Option.isSome_iff_exists.mp found
  have listed := List.mem_of_find?_eq_some known
  exact ⟨member, by simpa using listed, by simpa using List.find?_some known⟩

theorem checkWorld_ok (checked : checkWorld members = .ok ())
    : ∃ member ∈ members, acceptedName member.name = true := by
  unfold checkWorld at checked
  split at checked
  · rename_i bedrock
    obtain ⟨member, listed, named⟩ := getmember_some bedrock
    exact ⟨member, listed, by simp [acceptedName, named]⟩
  split at checked
  · rename_i java
    obtain ⟨member, listed, named⟩ := getmember_some java
    exact ⟨member, listed, by rw [named]; decide⟩
  split at checked
  · rename_i child
    obtain ⟨member, listed, begins⟩ := List.any_eq_true.mp child
    refine ⟨member, listed, ?_⟩
    simp only [acceptedName, Bool.or_eq_true] at begins ⊢
    rcases begins with bedrock | java
    · exact .inl (.inr bedrock)
    · exact .inr java
  · cases checked

theorem checkMember_ok {member : TarMember} (checked : checkMember member = .ok ())
    : isAbsolute member.name = false ∧ ".." ∉ systemParts member.name ∧ member.isLink = false := by
  unfold checkMember at checked
  split at checked
  · cases checked
  · rename_i clean
    split at checked
    · cases checked
    · rename_i plain
      simp only [Bool.or_eq_true, not_or, Bool.not_eq_true] at clean plain
      refine ⟨clean.1, ?_, plain⟩
      intro up
      have listed : ".." ∈ pathParts member.name := by
        simp only [systemParts, pathParts, List.mem_filter] at up ⊢
        simpa using up
      simpa using clean.2.symm.trans (List.contains_iff_mem.mpr listed)

/-- By induction on the path. -/
theorem mkdirParents_grown (path : RawPath) : Keeps Grown (mkdirParents path) := by
  have here := fun path => makeDirectory_keeps mkdir_grown path
  induction path with
  | nil => exact here []
  | cons last above ih =>
      exact (here _).tryCatch fun failure =>
        (Keeps.refuse _ failure).bind fun _ => ih.bind fun _ => here _

theorem mkdirParents_found {path : RawPath} {volume next : Volume}
    (made : mkdirParents path volume = .ok () next)
    : ∃ place, next.tree.find path.reverse = some place ∧ next.tree.isDir place = true := by
  cases path with
  | nil => exact makeDirectory_found made
  | cons last above =>
      unfold mkdirParents at made
      cases first : makeDirectory (last :: above).reverse volume with
      | ok value middle =>
          rw [tryCatch_ok first] at made
          cases made
          exact makeDirectory_found first
      | error failure middle =>
          rw [tryCatch_error first] at made
          obtain ⟨_, _, _, later⟩ := state_bind_ok made
          obtain ⟨_, _, _, again⟩ := state_bind_ok later
          exact makeDirectory_found again

theorem linkFreePlan {root : Location} (found : tree.find target = some root)
    (dir : tree.isDir root = true)
    (checked : ∀ member ∈ members, checkMember member = .ok ())
    (inside : ∀ member ∈ members, tree.LeadsInside root (tarPath target member.name))
    : LinkFreePlan tree target root (extractAll target (fun _ => true) members) := by
  have tasks : ∀ task ∈ extractAll target (fun _ => true) members,
      task.LinkFree ∧ ∃ member ∈ members, task.path = tarPath target member.name := by
    intro task listed
    rcases List.mem_append.mp listed with made | attributes
    · obtain ⟨member, kept, rfl⟩ := List.mem_map.mp made
      have present := (List.mem_filter.mp kept).1
      exact ⟨(checkMember_ok (checked member present)).2.2, member, present, rfl⟩
    · obtain ⟨member, sorted, rfl⟩ := List.mem_map.mp attributes
      have kept := (List.mem_filter.mp ((List.mem_insertionSort _).mp sorted)).1
      exact ⟨trivial, member, (List.mem_filter.mp kept).1, rfl⟩
  refine ⟨found, dir, fun task listed => (tasks task listed).1, ?_, ?_⟩
  · intro task listed
    obtain ⟨_, member, present, path⟩ := tasks task listed
    obtain ⟨relative, plain, _⟩ := checkMember_ok (checked member present)
    exact ⟨systemParts member.name, by simp [path, tarPath, relative], plain⟩
  · intro task listed
    obtain ⟨_, member, present, path⟩ := tasks task listed
    exact path ▸ inside member present

-- Contained extractions

/-- Every member was made below the target, nothing was done elsewhere, and no name is a new link
or a further name of a file.
-/
structure Extracted.Contained (tree : LinkTree) (target : RawPath) (members : List TarMember)
    (extracted : Extracted) : Prop where
  found : extracted.after.tree.LeadsTo target extracted.targetRoot
  made
    : ∀ member ∈ members, ∃ place,
      extracted.after.tree.LeadsTo (tarPath target member.name) place
      ∧ extracted.targetRoot <+: place ∧ extracted.after.tree.lookup place ≠ none
  touched : ∀ touch ∈ extracted.after.touched, extracted.targetRoot <+: touch.place
  elsewhere
    : ∀ place, ¬ extracted.targetRoot <+: place
      → extracted.after.tree.lookup place = extracted.before.lookup place
  noLink
    : ∀ place text, extracted.after.tree.linkText place = some text
      → tree.linkText place = some text
  noName
    : ∀ place other, extracted.after.tree.SameFile place other
      → place = other ∨ tree.SameFile place other

theorem extractSafely_ok (done : extractSafely referenced tree target members = .ok extracted)
    : (∀ member ∈ members, checkMember member = .ok ())
      ∧ (∃ member ∈ members, acceptedName member.name = true)
      ∧ Grown { tree } { tree := extracted.before }
      ∧ extracted.before.find target = some extracted.targetRoot
      ∧ extracted.before.isDir extracted.targetRoot = true
      ∧ (∀ member ∈ members,
          extracted.before.LeadsInside extracted.targetRoot (tarPath target member.name))
      ∧ (extracting referenced extracted.before target members).raised = none
      ∧ (extracting referenced extracted.before target members).volume = extracted.after := by
  obtain ⟨_, validated, later⟩ := except_bind_ok done
  obtain ⟨_, each, world⟩ := except_bind_ok (except_mapError_ok validated)
  obtain ⟨before, targetMade, rest⟩ := except_bind_ok later
  obtain ⟨targetRoot, resolved, more⟩ := except_bind_ok rest
  obtain ⟨_, destinations, last⟩ := except_bind_ok more
  obtain ⟨after, ended, same⟩ := except_bind_ok last
  cases same
  have leads : before.realpath target = some targetRoot := by
    unfold resolveTarget at resolved
    split at resolved
    · cases resolved
    · rename_i known
      exact Except.ok.inj resolved ▸ known
  obtain ⟨grown, place, found, dir⟩
      : Grown { tree } { tree := before } ∧ ∃ place, before.find target = some place
        ∧ before.isDir place = true := by
    unfold makeTarget at targetMade
    split at targetMade
    · rename_i made
      cases targetMade
      have grown := mkdirParents_grown target.reverse { tree }
      rw [made] at grown
      have there := mkdirParents_found made
      rw [List.reverse_reverse] at there
      exact ⟨⟨grown.kept, grown.links, grown.shared⟩, there⟩
    · cases targetMade
  obtain rfl := (leadsTo_of_find found).unique (leadsTo_of_realpath leads)
  refine ⟨except_forM_ok each, checkWorld_ok world, grown, found, dir, ?_, ?_⟩
  · intro member listed
    have checked := except_forM_ok destinations member listed
    unfold checkDestination at checked
    split at checked
    · cases checked
    · rename_i destination known
      split at checked
      · rename_i below
        exact (leadsTo_of_realpath known).inside (List.isPrefixOf_iff_prefix.mp below)
      · cases checked
  · unfold outcome at ended
    split at ended
    · cases ended
    · rename_i quiet
      exact ⟨quiet, Except.ok.inj ended⟩

theorem extractSafely_contained
    (done : extractSafely referenced tree target members = .ok extracted)
    : extracted.Contained tree target members := by
  obtain ⟨checked, _, grownBefore, found, dir, inside, quiet, after⟩ := extractSafely_ok done
  have plan := linkFreePlan found dir checked inside
  have growing
      : (extracting referenced extracted.before target members).Growing
          { tree := extracted.before } (extractAll target (fun _ => true) members) :=
    plan.grows referenced _
  have sound
      : (extracting referenced extracted.before target members).Sound (fun _ => True) target
          extracted.targetRoot :=
    (plan.run (fun _ _ => trivial) (fun _ _ _ _ => trivial) referenced _).2
  have made
      : ∀ task ∈ extractAll target (fun _ => true) members, task.weight = 2
        → LeadsToStored (extracting referenced extracted.before target members).volume.tree
            task.path :=
    plan.made referenced (Nat.le_refl _) quiet
  have elsewhere
      : ∀ place, ¬ extracted.targetRoot <+: place
        → (extracting referenced extracted.before target members).volume.tree.lookup place
          = extracted.before.lookup place := by
    intro place away
    obtain ⟨tasks, run⟩ := Extraction.steps_iterate referenced
      { volume := { tree := extracted.before },
        later := extractAll target (fun _ => true) members } _
    exact sound.outside run away
  have grown := growing.grown
  have within := sound.within
  rw [after] at made grown within elsewhere
  have whole : Grown { tree } extracted.after :=
    trans_of Grown grownBefore grown
  refine {
    found := (leadsTo_congr grown.links _ _).mpr (leadsTo_of_find found)
    made := ?_
    touched := fun touch member => (within touch member).place
    elsewhere
    noLink := fun place text linked => by rwa [whole.links] at linked
    noName := whole.shared
  }
  intro member listed
  have task : .make member (tarPath target member.name)
        (if member.type = .hardLink then some (tarPath target member.linkname) else none)
        (member.type ≠ .directory)
      ∈ extractAll target (fun _ => true) members :=
    List.mem_append_left _ (List.mem_map.mpr ⟨member, by simpa using listed, rfl⟩)
  obtain ⟨place, leads, stored⟩ := made _ task rfl
  exact ⟨place, leads, inside member listed place ((leadsTo_congr grown.links _ _).mp leads),
    stored⟩

/-- An extraction that raises nothing is contained; and the archive holds a world unless all that
the check took for one only begins like the world of a Java server.
-/
theorem extraction_contained_iff
    (done : extractSafely referenced tree target members = .ok extracted)
    : extracted.Contained tree target members
        ∧ (∃ member ∈ members, isWorldEntry member.name = true)
      ↔ ¬ OnlyBeginsLikeWorld members := by
  obtain ⟨_, ⟨accepted, listed, taken⟩, _⟩ := extractSafely_ok done
  have contained := extractSafely_contained done
  constructor
  · rintro ⟨_, member, present, world⟩ only
    refine only member present ?_ world
    exact acceptedName_of_isWorldEntry world
  · intro some
    refine ⟨contained, ?_⟩
    simp only [OnlyBeginsLikeWorld, not_forall, not_not] at some
    obtain ⟨member, present, _, world⟩ := some
    exact ⟨member, present, world⟩

private def serverDisk : LinkTree :=
  ((FileTree.empty : LinkTree).makeDirs ["srv", "servers", "1"]).getD .empty

private def restoreTmp : RawPath := ["srv", "servers", "1", "restore", "tmp"]

/-- The archive of a Java world is extracted. -/
theorem java_world_contained
    : ∃ extracted, extractSafely (fun _ => none) serverDisk restoreTmp
          [⟨"java/world", .directory, "", 0o755⟩, ⟨"java/world/level.dat", .regular, "", 0o644⟩]
        = .ok extracted
      ∧ extracted.Contained serverDisk restoreTmp
          [⟨"java/world", .directory, "", 0o755⟩, ⟨"java/world/level.dat", .regular, "", 0o644⟩]
      ∧ ∃ member ∈
          [⟨"java/world", .directory, "", 0o755⟩, ⟨"java/world/level.dat", .regular, "", 0o644⟩],
        isWorldEntry (TarMember.name member) = true := by
  have succeeds
      : (extractSafely (fun _ => none) serverDisk restoreTmp
          [⟨"java/world", .directory, "", 0o755⟩,
            ⟨"java/world/level.dat", .regular, "", 0o644⟩]).map Extracted.targetRoot
        = .ok restoreTmp := by
    decide +kernel
  obtain ⟨extracted, done, _⟩ := except_map_ok succeeds
  exact ⟨extracted, done, (extraction_contained_iff done).mpr (by decide)⟩

/-- A settings file of another program passes for a world. -/
theorem no_world_extracted
    : ∃ extracted, extractSafely (fun _ => none) serverDisk restoreTmp
          [⟨"java/worldedit.yml", .regular, "", 0o644⟩] = .ok extracted
      ∧ ¬ ∃ member ∈ [⟨"java/worldedit.yml", .regular, "", 0o644⟩],
        isWorldEntry (TarMember.name member) = true := by
  have succeeds
      : (extractSafely (fun _ => none) serverDisk restoreTmp
          [⟨"java/worldedit.yml", .regular, "", 0o644⟩]).map Extracted.targetRoot
        = .ok restoreTmp := by
    decide +kernel
  obtain ⟨extracted, done, _⟩ := except_map_ok succeeds
  exact ⟨extracted, done, by decide⟩

end Blockhost.SafeExtraction
