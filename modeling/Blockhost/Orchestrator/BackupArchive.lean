import Blockhost.Library.Result
import Blockhost.Orchestrator.BackupJobs

/-! What the archive of a backup holds: the world below one name, and configuration files beside
it.
-/

namespace Blockhost

open Library

variable {Content : Type}

/-- The levels of the archive between the folder that a restore moves and the world. -/
def archiveLevels (server : Server) (serverDir path : RawPath) : Location :=
  if isJavaFlavor server.flavor ∨ path = serverDir ++ ["worlds"] then []
  else pathParts (worldName server)

def configFiles (server : Server) : List String :=
  if isJavaFlavor server.flavor then javaConfigFiles else bedrockConfigFiles

theorem includedBackupPaths_eq (tree : FileTree Content) (server : Server)
    (serverDir : RawPath)
    : includedBackupPaths tree server serverDir (worldName server)
      = (if tree.pathExists (activeWorldPath tree server serverDir) then
          [(activeWorldPath tree server serverDir,
            restoredWorlds server []
              ++ archiveLevels server serverDir (activeWorldPath tree server serverDir))]
        else [])
        ++ includedConfigFiles tree serverDir (archiveFolder server) (configFiles server) := by
  have candidates : ∀ javaFlavor,
      serverDir ++ [if javaFlavor then "world" else "worlds"]
        ∈ worldCandidates serverDir (worldName server) javaFlavor := by
    intro javaFlavor
    cases javaFlavor <;> simp [worldCandidates]
  unfold includedBackupPaths activeWorldPath archiveLevels configFiles archiveFolder
    restoredWorlds archiveFolder
  cases flavor : isJavaFlavor server.flavor with
  | true =>
      simp only [if_true, true_or]
      cases found : resolveExistingWorldPath tree serverDir (worldName server) true with
      | some path =>
          rw [Option.getD_some, if_pos (List.find?_some found)]
          rfl
      | none =>
          have missing := List.find?_eq_none.mp found _ (candidates true)
          rw [Option.getD_none, if_neg (by simpa using missing)]
  | false =>
      simp only [Bool.false_eq_true, if_false, false_or]
      cases found : resolveExistingWorldPath tree serverDir (worldName server) false with
      | some path =>
          simp only [Option.getD_some, if_pos (List.find?_some found)]
          split
          · rename_i same
            rw [same]
            rfl
          · rfl
      | none =>
          have missing : tree.pathExists (serverDir ++ ["worlds"]) = false := by
            simpa using List.find?_eq_none.mp found _ (candidates false)
          simp only [Option.getD_none, missing, Bool.false_eq_true, if_false]

theorem runBackupJob_ok {faults : Faults} {tree : FileTree Content} {serversRoot : Location}
    {server : Server} {archive : List (Member Content)}
    (backedUp : runBackupJob faults tree serversRoot server = .ok archive)
    : ∃ serverDir, requireServerDir tree serversRoot server = .ok serverDir
      ∧ archive
        = writeArchive tree
            (includedBackupPaths tree server serverDir (worldName server)) := by
  obtain ⟨serverDir, required, backedUp⟩ := except_bind_ok backedUp
  obtain ⟨_, _, backedUp⟩ := except_bind_ok backedUp
  obtain ⟨_, _, backedUp⟩ := except_bind_ok backedUp
  refine ⟨serverDir, required, ?_⟩
  split at backedUp
  · cases backedUp
  · obtain ⟨_, _, backedUp⟩ := except_bind_ok backedUp
    obtain ⟨_, _, backedUp⟩ := except_bind_ok backedUp
    exact (Except.ok.inj backedUp).symm

theorem mem_addToTar {tree : FileTree Content} {source archiveName : Location}
    {member : Member Content}
    : member ∈ addToTar tree source archiveName
      ↔ ∃ rest, member.1 = archiveName ++ rest
        ∧ tree.lookup (source ++ rest) = some member.2 := by
  unfold addToTar
  rw [List.mem_map]
  constructor
  · rintro ⟨taken, known, rfl⟩
    exact ⟨taken.1, rfl, (mem_collect.mp known).2⟩
  · rintro ⟨rest, named, stored⟩
    refine ⟨(rest, member.2), mem_collect.mpr ⟨?_, stored⟩, ?_⟩
    · by_cases own : rest = []
      · exact own ▸ List.mem_cons_self
      · exact List.mem_cons_of_mem _
          (FileTree.mem_below.mpr ⟨own, by rw [stored]; simp⟩)
    · rw [← named]

theorem addToTar_nodup (tree : FileTree Content) (source archiveName : Location)
    : ((addToTar tree source archiveName).map Prod.fst).Nodup := by
  have names : ([] :: tree.below source).Nodup := by
    rw [List.nodup_cons]
    exact ⟨fun own => (FileTree.mem_below.mp own).1 rfl, tree.below_nodup source⟩
  have taken := (collect_names tree source ([] :: tree.below source)).nodup names
  unfold addToTar
  rw [List.map_map]
  have same
      : (Prod.fst ∘ fun member : Member Content => (archiveName ++ member.1, member.2))
        = (archiveName ++ ·) ∘ Prod.fst := rfl
  rw [same, ← List.map_map]
  exact taken.map (fun left right => List.append_cancel_left)

theorem mem_writeArchive {tree : FileTree Content} {includes : List (RawPath × RawPath)}
    {member : Member Content}
    : member ∈ writeArchive tree includes
      ↔ ∃ entry ∈ includes, ∃ source, tree.locate entry.1 = some source
        ∧ member ∈ addToTar tree source entry.2 := by
  unfold writeArchive
  rw [List.mem_flatMap]
  constructor
  · rintro ⟨entry, included, known⟩
    cases located : tree.locate entry.1 with
    | none =>
        rw [located] at known
        cases known
    | some source =>
        rw [located] at known
        exact ⟨entry, included, source, located, known⟩
  · rintro ⟨entry, included, source, located, known⟩
    exact ⟨entry, included, by rw [located]; exact known⟩

/-- Names in an archive are distinct when no included name is above another one, by induction on
the included paths.
-/
theorem writeArchive_nodup {tree : FileTree Content} {includes : List (RawPath × RawPath)}
    (apart
      : includes.Pairwise (fun left right => ¬ left.2 <+: right.2 ∧ ¬ right.2 <+: left.2))
    : ((writeArchive tree includes).map Prod.fst).Nodup := by
  induction includes with
  | nil => exact List.nodup_nil
  | cons entry rest ih =>
      rw [List.pairwise_cons] at apart
      unfold writeArchive at ih ⊢
      rw [List.flatMap_cons, List.map_append]
      cases located : tree.locate entry.1 with
      | none => exact ih apart.2
      | some source =>
          refine List.nodup_append.mpr ⟨addToTar_nodup tree source entry.2, ih apart.2, ?_⟩
          intro name here other there
          rintro rfl
          obtain ⟨member, known, rfl⟩ := List.mem_map.mp here
          obtain ⟨second, later, same⟩ := List.mem_map.mp there
          obtain ⟨rest', named, _⟩ := mem_addToTar.mp known
          obtain ⟨next, included, source', _, added⟩ := mem_writeArchive.mp later
          obtain ⟨rest'', named', _⟩ := mem_addToTar.mp added
          have first : entry.2 <+: member.1 := ⟨rest', named.symm⟩
          have again : next.2 <+: member.1 := ⟨rest'', by rw [← named', same]⟩
          rcases List.prefix_or_prefix_of_prefix first again with above | above
          · exact (apart.1 next included).1 above
          · exact (apart.1 next included).2 above

theorem restoredWorlds_apart (server : Server) {name : String}
    (other : name ≠ "world" ∧ name ≠ "worlds") (rest more : Location)
    : ¬ restoredWorlds server [] ++ rest <+: [archiveFolder server, name] ++ more
      ∧ ¬ [archiveFolder server, name] ++ more <+: restoredWorlds server [] ++ rest := by
  unfold restoredWorlds
  cases isJavaFlavor server.flavor with
  | true => simp [List.cons_prefix_cons, other.1, Ne.symm other.1]
  | false => simp [List.cons_prefix_cons, other.2, Ne.symm other.2]

theorem configFiles_not_world {server : Server}
    : ∀ name ∈ configFiles server, name ≠ "world" ∧ name ≠ "worlds" := by
  unfold configFiles
  split <;> decide

theorem restoredConfigFiles_not_world
    : ∀ name ∈ restoredConfigFiles, name ≠ "world" ∧ name ≠ "worlds" := by
  decide

theorem mem_includedConfigFiles {tree : FileTree Content} {serverDir : Location}
    {folder : String} {names : List String} {entry : RawPath × RawPath}
    (plain : ".." ∉ serverDir ++ names)
    (included : entry ∈ includedConfigFiles tree serverDir folder names)
    : ∃ name ∈ names, entry = (serverDir ++ [name], [folder, name])
      ∧ tree.locate (serverDir ++ [name]) = some (serverDir ++ [name])
      ∧ tree.isFile (serverDir ++ [name]) = true := by
  obtain ⟨name, kept, rfl⟩ := List.mem_map.mp included
  obtain ⟨member, present⟩ := List.mem_filter.mp kept
  refine ⟨name, member, rfl, ?_⟩
  split at present
  · cases present
  · rename_i location located
    have names : ".." ∉ serverDir ++ [name] := by
      intro parent
      refine plain (List.mem_append.mpr ((List.mem_append.mp parent).imp_right ?_))
      intro last
      rw [List.mem_singleton.mp last]
      exact member
    have same : location = serverDir ++ [name] :=
      (tree.locate_some located).trans (normalizeFrom_of_plain names)
    rw [same] at located present
    exact ⟨located, present⟩

section Archive

variable {tree : FileTree Content} {server : Server} {serverDir : Location}

private theorem configFiles_plain (plain : ".." ∉ serverDir)
    : ".." ∉ serverDir ++ configFiles server := by
  rw [List.mem_append, not_or]
  refine ⟨plain, ?_⟩
  unfold configFiles
  split <;> decide

theorem mem_archive (plain : ".." ∉ serverDir) {member : Member Content}
    (known
      : member ∈ writeArchive tree
          (includedBackupPaths tree server serverDir (worldName server)))
    : (tree.pathExists (activeWorldPath tree server serverDir) = true
        ∧ ∃ rest,
            member.1
              = restoredWorlds server []
                ++ archiveLevels server serverDir (activeWorldPath tree server serverDir)
                ++ rest
            ∧ tree.lookup (normalizePath (activeWorldPath tree server serverDir) ++ rest)
              = some member.2)
      ∨ ∃ name ∈ configFiles server, member.1 = [archiveFolder server, name]
        ∧ tree.isFile (serverDir ++ [name]) = true := by
  rw [includedBackupPaths_eq] at known
  obtain ⟨entry, included, source, located, added⟩ := mem_writeArchive.mp known
  obtain ⟨rest, named, stored⟩ := mem_addToTar.mp added
  rcases List.mem_append.mp included with world | config
  · left
    split at world
    · rename_i present
      rw [List.mem_singleton.mp world] at located named
      rw [tree.locate_some located] at stored
      exact ⟨present, rest, named, stored⟩
    · cases world
  · right
    obtain ⟨name, listed, rfl, here, isFile⟩ :=
      mem_includedConfigFiles (configFiles_plain plain) config
    dsimp only at located
    rw [here] at located
    cases located
    -- Nothing lies below a file, so the member is the file itself.
    have own : rest = [] := by
      by_contra deeper
      rw [FileTree.isFile_eq_true] at isFile
      obtain ⟨content, isFile⟩ := isFile
      rw [tree.ancestor_dir (by rw [stored]; simp) deeper] at isFile
      cases isFile
    rw [own, List.append_nil] at named
    exact ⟨name, listed, named, isFile⟩

theorem world_archived
    (present : tree.pathExists (activeWorldPath tree server serverDir) = true)
    {rest : Location} {entry : Entry Content}
    (stored
      : tree.lookup (normalizePath (activeWorldPath tree server serverDir) ++ rest) = some entry)
    : (restoredWorlds server []
          ++ archiveLevels server serverDir (activeWorldPath tree server serverDir) ++ rest,
        entry)
      ∈ writeArchive tree (includedBackupPaths tree server serverDir (worldName server)) := by
  obtain ⟨location, located, _⟩ := (tree.pathExists_eq_true).mp present
  rw [includedBackupPaths_eq, if_pos present]
  refine mem_writeArchive.mpr ⟨_, List.mem_append_left _ (List.mem_singleton.mpr rfl),
    location, located, mem_addToTar.mpr ⟨rest, rfl, ?_⟩⟩
  rw [tree.locate_some located]
  exact stored

theorem archive_nodup (plain : ".." ∉ serverDir)
    : ((writeArchive tree
          (includedBackupPaths tree server serverDir (worldName server))).map Prod.fst).Nodup
    := by
  refine writeArchive_nodup ?_
  rw [includedBackupPaths_eq, List.pairwise_append]
  have names : (configFiles server).Nodup := by
    unfold configFiles
    split <;> decide
  refine ⟨?_, ?_, ?_⟩
  · split
    · exact List.pairwise_singleton _ _
    · exact List.Pairwise.nil
  · refine List.Pairwise.map _ ?_ (names.filter _)
    intro left right different
    simp [List.cons_prefix_cons, different, Ne.symm different]
  · intro world known config included
    obtain ⟨name, listed, rfl, _⟩ :=
      mem_includedConfigFiles (configFiles_plain plain) included
    split at known
    · rw [List.mem_singleton.mp known]
      simpa using restoredWorlds_apart server (configFiles_not_world name listed) _ []
    · cases known

end Archive

end Blockhost
