import Blockhost.Orchestrator.BackupArchive
import Blockhost.Orchestrator.BackupContainment
import Blockhost.Orchestrator.RestoreStages

/-! A backup and a restore of it on the same server. The restored world is the archived one
exactly when the archive has it at the level at which the restore looks for it.
-/

namespace Blockhost

open Library

variable {Content : Type}

theorem remade_lookup {tree next : FileTree Content} {path : Location} (real : path ≠ [])
    (made : (safeRmtree tree path).makeDirs path = some next) (rest : Location)
    : next.lookup (path ++ rest) = if rest = [] then some .dir else none := by
  rw [(FileTree.makeDirs_some made).2]
  by_cases own : rest = []
  · rw [if_pos own, if_pos (by simp [own])]
  · have below : ¬ path ++ rest <+: path := by
      intro above
      have shorter := above.length_le
      rw [List.length_append] at shorter
      have positive := List.length_pos_of_ne_nil own
      omega
    rw [if_neg own, if_neg below]
    exact safeRmtree_gone real (List.prefix_append path rest)

theorem remade_apart {tree next : FileTree Content} {path other : Location}
    (made : (safeRmtree tree path).makeDirs path = some next) (outside : ¬ path <+: other)
    (notAbove : ¬ other <+: path)
    : next.lookup other = tree.lookup other := by
  rw [(FileTree.makeDirs_some made).2, if_neg notAbove]
  refine safeRmtree_apart outside ?_
  rintro rfl
  exact notAbove (List.dropLast_prefix path)

section Places

variable (server : Server) (serverDir : Location) (jobId : Uuid)

theorem restoredWorlds_eq
    : restoredWorlds server (restoreTmpDir serverDir jobId)
      = restoreTmpDir serverDir jobId ++ restoredWorlds server [] := by
  unfold restoredWorlds
  rw [List.nil_append]

theorem rollbackRoot_apart (left right : Location)
    : ¬ rollbackRoot serverDir jobId ++ left <+: restoreTmpDir serverDir jobId ++ right := by
  unfold rollbackRoot restoreTmpDir
  simp [List.append_assoc, List.cons_prefix_cons]

theorem restoreTmpDir_apart (left right : Location)
    : ¬ restoreTmpDir serverDir jobId ++ left <+: rollbackRoot serverDir jobId ++ right := by
  unfold rollbackRoot restoreTmpDir
  simp [List.append_assoc, List.cons_prefix_cons]

variable {serverDir}

theorem restoreTmpDir_plain (plain : ".." ∉ serverDir)
    : ".." ∉ restoreTmpDir serverDir jobId := by
  have named := uuidText_ne_parent jobId
  unfold restoreTmpDir runtimeTmp
  simp [plain, Ne.symm named]

theorem rollbackRoot_plain (plain : ".." ∉ serverDir)
    : ".." ∉ rollbackRoot serverDir jobId := by
  have named := uuidText_ne_parent jobId
  unfold rollbackRoot runtimeTmp
  simp [plain, Ne.symm named]

theorem restoredWorlds_plain (plain : ".." ∉ serverDir)
    : ".." ∉ restoredWorlds server (restoreTmpDir serverDir jobId) := by
  have tmp := restoreTmpDir_plain jobId plain
  rw [restoredWorlds_eq, List.mem_append, not_or]
  refine ⟨tmp, ?_⟩
  unfold restoredWorlds archiveFolder
  cases isJavaFlavor server.flavor <;> decide

end Places

section Extraction

variable {task : RestoreTask Content} {serverDir : Location}
  {backedTree tree extracted : FileTree Content} {active : RawPath}

/-- An extraction holds the archived world under the archive's levels, and no configuration file
that the backup did not find.
-/
structure ExtractedBackup (task : RestoreTask Content) (serverDir : Location) (active : RawPath)
    (backedTree extracted : FileTree Content)
    : Prop where
  stored : backedTree.lookup (normalizePath active) ≠ none
  isDir
    : extracted.lookup (restoredWorlds task.server (restoreTmpDir serverDir task.jobId))
      = some .dir
  world
    : ∀ rest,
        extracted.lookup
            (restoredWorlds task.server (restoreTmpDir serverDir task.jobId)
              ++ archiveLevels task.server serverDir active ++ rest)
          = backedTree.lookup (normalizePath active ++ rest)
  config
    : ∀ name ∈ restoredConfigFiles,
        extracted.isFile
            (restoreTmpDir serverDir task.jobId ++ [archiveFolder task.server, name]) = true
        → backedTree.isFile (serverDir ++ [name]) = true

theorem Staged.missing (staged : Staged task serverDir tree extracted) {rest : Location}
    (real : rest ≠ []) (apart : ∀ member ∈ task.archive, ¬ rest <+: member.1)
    : extracted.lookup (restoreTmpDir serverDir task.jobId ++ rest) = none := by
  obtain ⟨opened, opens, extracts⟩ := staged.extracts
  rw [extract_untouched extracts, remade_lookup (by simp [restoreTmpDir]) opens, if_neg real]
  intro member known above
  exact apart member known ((List.prefix_append_right_inj _).mp above)

theorem Staged.extractedBackup (staged : Staged task serverDir tree extracted)
    (plain : ".." ∉ serverDir)
    (archived
      : task.archive
        = writeArchive backedTree
            (includedBackupPaths backedTree task.server serverDir (worldName task.server)))
    : ExtractedBackup task serverDir (activeWorldPath backedTree task.server serverDir)
        backedTree extracted := by
  obtain ⟨opened, opens, extracts⟩ := staged.extracts
  have once : (task.archive.map Prod.fst).Nodup := archived ▸ archive_nodup plain
  have missing : ∀ {rest : Location}, rest ≠ []
      → (∀ member ∈ writeArchive backedTree
            (includedBackupPaths backedTree task.server serverDir (worldName task.server)),
          ¬ rest <+: member.1)
      → extracted.lookup (restoreTmpDir serverDir task.jobId ++ rest) = none :=
    archived ▸ staged.missing
  have real : restoredWorlds task.server [] ≠ [] := by simp [restoredWorlds]
  have isDir := staged.world
  rw [restoredWorlds_eq] at isDir
  have present
      : backedTree.pathExists (activeWorldPath backedTree task.server serverDir) = true := by
    by_contra absent
    rw [missing real] at isDir
    · cases isDir
    · intro member known above
      rcases mem_archive plain known with ⟨present, _⟩ | ⟨name, listed, named, _⟩
      · exact absent present
      · rw [named] at above
        exact (restoredWorlds_apart task.server (configFiles_not_world name listed) [] []).1
          (by simpa using above)
  constructor
  · obtain ⟨location, located, stored⟩ := (backedTree.pathExists_eq_true).mp present
    rw [← backedTree.locate_some located]
    exact stored
  · exact staged.world
  · intro rest
    rw [restoredWorlds_eq, List.append_assoc, List.append_assoc]
    cases stored : backedTree.lookup
        (normalizePath (activeWorldPath backedTree task.server serverDir) ++ rest) with
    | some entry =>
        have known := world_archived present stored
        rw [← archived, List.append_assoc] at known
        exact extract_member extracts once known
    | none =>
        refine missing (by simp [real]) ?_
        intro member known above
        rcases mem_archive plain known with ⟨_, deeper, named, found⟩ | ⟨name, listed, named, _⟩
        · rw [named, ← List.append_assoc, List.prefix_append_right_inj] at above
          refine absurd stored (backedTree.lookup_of_prefix (by rw [found]; simp) ?_)
          exact (List.prefix_append_right_inj _).mpr above
        · rw [named] at above
          exact (restoredWorlds_apart task.server (configFiles_not_world name listed) _ []).1
            (by simpa using above)
  · intro name copied isFile
    by_contra absent
    rw [FileTree.isFile_eq_true] at isFile
    obtain ⟨content, isFile⟩ := isFile
    rw [missing (List.cons_ne_nil _ _)] at isFile
    · cases isFile
    · intro member known above
      rcases mem_archive plain known with ⟨_, deeper, named, _⟩ | ⟨other, _, named, found⟩
      · rw [named, List.append_assoc] at above
        exact (restoredWorlds_apart task.server (restoredConfigFiles_not_world name copied) _
          []).2 (by simpa using above)
      · rw [named] at above
        have same : name = other := by simpa [List.cons_prefix_cons] using above
        exact absent (same ▸ found)

end Extraction

namespace RestoreStages

variable {task : RestoreTask Content} {serverDir : Location} {active : RawPath}
  {tree : FileTree Content} (stages : RestoreStages task serverDir active tree)

/-- Where the world that was moved away lies. -/
def movedWorld (task : RestoreTask Content) (serverDir : Location) (active : RawPath)
    : Location :=
  rollbackRoot serverDir task.jobId ++ [active.getLast?.getD ""]

theorem readied_restoreTmp (rest : Location)
    : stages.readied.lookup (restoreTmpDir serverDir task.jobId ++ rest)
      = stages.extracted.lookup (restoreTmpDir serverDir task.jobId ++ rest) := by
  refine remade_apart stages.readies ?_ ?_
  · simpa using rollbackRoot_apart serverDir task.jobId [] rest
  · simpa using restoreTmpDir_apart serverDir task.jobId rest []

theorem readied_rollback (rest : Location)
    : stages.readied.lookup (rollbackRoot serverDir task.jobId ++ rest)
      = if rest = [] then some .dir else none :=
  remade_lookup (by simp [rollbackRoot]) stages.readies rest

theorem renames (plain : ".." ∉ serverDir)
    : stages.cleared.locate active = some (normalizePath active)
      ∧ active.getLast? ≠ some ".."
      ∧ stages.cleared.rename (restoredWorlds task.server (restoreTmpDir serverDir task.jobId))
          (normalizePath active)
        = some stages.swapped := by
  obtain ⟨named, old, new, sourceAt, targetAt, renamed⟩ := replace_some stages.swaps
  have source := stages.cleared.locate_some sourceAt
  have target := stages.cleared.locate_some targetAt
  have names := restoredWorlds_plain task.server task.jobId plain
  unfold normalizePath at source
  rw [normalizeFrom_of_plain names, List.nil_append] at source
  rw [source, target] at renamed
  rw [target] at targetAt
  exact ⟨targetAt, named, renamed⟩

theorem clears_cases (plain : ".." ∉ serverDir)
    : stages.readied.pathExists active = false ∧ stages.cleared = stages.readied
      ∨ stages.readied.rename (normalizePath active) (movedWorld task serverDir active)
        = some stages.cleared := by
  have clears := stages.clears
  unfold moveAway at clears
  split at clears
  · right
    obtain ⟨named, old, new, sourceAt, targetAt, renamed⟩ := replace_some clears
    have source := stages.readied.locate_some sourceAt
    have target := stages.readied.locate_some targetAt
    have names : ".." ∉ movedWorld task serverDir active := by
      have rollback := rollbackRoot_plain task.jobId plain
      rw [movedWorld, List.mem_append, not_or]
      refine ⟨rollback, ?_⟩
      intro last
      rw [List.mem_singleton] at last
      rw [← last, List.getLast?_concat] at named
      exact named rfl
    unfold normalizePath at target
    rw [← movedWorld, normalizeFrom_of_plain names, List.nil_append] at target
    rw [source, target] at renamed
    exact renamed
  · rename_i missing
    exact .inl ⟨by simpa using missing, (Option.some.inj clears).symm⟩

theorem active_not_above (stages : RestoreStages task serverDir active tree)
    (plain : ".." ∉ serverDir)
    : ¬ normalizePath active <+: rollbackRoot serverDir task.jobId
      ∧ ¬ normalizePath active
        <+: restoredWorlds task.server (restoreTmpDir serverDir task.jobId) := by
  obtain ⟨located, _, renamed⟩ := stages.renames plain
  have rollback := stages.readied_rollback []
  have restored := stages.readied_restoreTmp (restoredWorlds task.server [])
  rw [← restoredWorlds_eq, stages.staged.world] at restored
  rw [List.append_nil] at rollback
  rcases stages.clears_cases plain with ⟨missing, same⟩ | movedAway
  · have absent : stages.readied.lookup (normalizePath active) = none := by
      by_contra stored
      rw [same] at located
      rw [(stages.readied.pathExists_eq_true).mpr ⟨_, located, stored⟩] at missing
      cases missing
    constructor
    · intro above
      exact stages.readied.lookup_of_prefix (by rw [rollback]; simp) above absent
    · intro above
      exact stages.readied.lookup_of_prefix (by rw [restored]; simp) above absent
  · obtain ⟨movable, after⟩ := FileTree.rename_some movedAway
    constructor
    · intro above
      exact movable.outside (above.trans (List.prefix_append _ _))
    · intro above
      refine (FileTree.rename_some renamed).1.stored ?_
      rw [after, if_neg, if_pos above]
      rw [restoredWorlds_eq]
      exact rollbackRoot_apart serverDir task.jobId _ _

theorem swapped_world (plain : ".." ∉ serverDir) (rest : Location)
    : stages.swapped.lookup (normalizePath active ++ rest)
      = stages.extracted.lookup
        (restoredWorlds task.server (restoreTmpDir serverDir task.jobId) ++ rest) := by
  obtain ⟨_, _, renamed⟩ := stages.renames plain
  rw [FileTree.rename_moved renamed]
  have kept := stages.readied_restoreTmp (restoredWorlds task.server [] ++ rest)
  rw [← List.append_assoc, ← restoredWorlds_eq] at kept
  rw [← kept]
  rcases stages.clears_cases plain with ⟨_, same⟩ | movedAway
  · rw [same]
  · rw [(FileTree.rename_some movedAway).2, if_neg, if_neg]
    · intro within
      rcases List.prefix_or_prefix_of_prefix within (List.prefix_append _ rest) with
        above | below
      · exact (stages.active_not_above plain).2 above
      · exact (FileTree.rename_some renamed).1.outside below
    · rw [restoredWorlds_eq, List.append_assoc]
      exact rollbackRoot_apart serverDir task.jobId _ _

theorem swapped_beside (plain : ".." ∉ serverDir) {rest : Location}
    (notActive : ¬ normalizePath active <+: restoreTmpDir serverDir task.jobId ++ rest)
    (notWorld : ¬ restoredWorlds task.server [] <+: rest)
    : stages.swapped.lookup (restoreTmpDir serverDir task.jobId ++ rest)
      = stages.extracted.lookup (restoreTmpDir serverDir task.jobId ++ rest) := by
  obtain ⟨_, _, renamed⟩ := stages.renames plain
  rw [(FileTree.rename_some renamed).2, if_neg notActive, if_neg, ← stages.readied_restoreTmp]
  · rcases stages.clears_cases plain with ⟨_, same⟩ | movedAway
    · rw [same]
    · rw [(FileTree.rename_some movedAway).2, if_neg, if_neg notActive]
      exact rollbackRoot_apart serverDir task.jobId _ _
  · rw [restoredWorlds_eq, List.prefix_append_right_inj]
    exact notWorld

theorem active_not_above_tmp (stages : RestoreStages task serverDir active tree)
    (plain : ".." ∉ serverDir)
    : ¬ normalizePath active <+: restoreTmpDir serverDir task.jobId := by
  intro above
  refine (stages.active_not_above plain).2 ?_
  rw [restoredWorlds_eq]
  exact above.trans (List.prefix_append _ _)

theorem active_not_above_serverDir (stages : RestoreStages task serverDir active tree)
    (plain : ".." ∉ serverDir)
    : ¬ normalizePath active <+: serverDir := by
  intro above
  refine (stages.active_not_above plain).1 (above.trans ?_)
  unfold rollbackRoot runtimeTmp
  rw [List.append_assoc]
  exact List.prefix_append _ _

theorem configured_world {backedTree : FileTree Content} (plain : ".." ∉ serverDir)
    (backup : ExtractedBackup task serverDir active backedTree stages.extracted)
    (outsideTmp : ¬ restoreTmpDir serverDir task.jobId <+: normalizePath active)
    (isDir : backedTree.lookup (normalizePath active) = some .dir) (rest : Location)
    : stages.configured.lookup (normalizePath active ++ rest)
      = stages.swapped.lookup (normalizePath active ++ rest) := by
  refine copyConfigFiles_lookup stages.configures ?_ ?_
  · simp [restoreTmpDir, runtimeTmp]
  · intro name copied reached
    have notServerDir := stages.active_not_above_serverDir plain
    have target : serverDir ++ [name] <+: normalizePath active := by
      have own : normalizePath active <+: serverDir ++ [name]
          → serverDir ++ [name] <+: normalizePath active := by
        intro within
        rcases List.prefix_concat_iff.mp within with same | above
        · rw [same]
        · exact absurd above notServerDir
      rcases reached with same | same
      · exact own ⟨rest, same⟩
      · have within : normalizePath active <+: serverDir ++ [name] ++ [name] :=
          ⟨rest, by simpa using same⟩
        rcases List.prefix_concat_iff.mp within with whole | above
        · rw [whole]
          exact List.prefix_append _ _
        · exact own above
    have found : backedTree.lookup (serverDir ++ [name]) = some .dir := by
      obtain ⟨deeper, same⟩ := target
      rw [← same] at isDir
      cases deeper with
      | nil => simpa using isDir
      | cons first more =>
          exact backedTree.ancestor_dir (by rw [isDir]; simp) (List.cons_ne_nil first more)
    have notActive
        : ¬ normalizePath active
          <+: restoreTmpDir serverDir task.jobId ++ [archiveFolder task.server, name] := by
      intro within
      rcases List.prefix_or_prefix_of_prefix within (List.prefix_append _ _) with above | below
      · exact stages.active_not_above_tmp plain above
      · exact outsideTmp below
    have apart := (restoredWorlds_apart task.server (restoredConfigFiles_not_world name copied)
      [] []).1
    rw [List.append_nil, List.append_nil] at apart
    have source := stages.swapped_beside plain notActive apart
    rw [List.append_assoc, List.singleton_append, Bool.eq_false_iff]
    intro brought
    have read := backup.config name copied (by
      unfold FileTree.isFile at brought ⊢
      rw [← source]
      exact brought)
    rw [FileTree.isFile_eq_true, found] at read
    obtain ⟨content, read⟩ := read
    cases read

theorem final_lookup (plain : ".." ∉ serverDir)
    (outsideTmp : ¬ restoreTmpDir serverDir task.jobId <+: normalizePath active)
    (outsideRollback : ¬ rollbackRoot serverDir task.jobId <+: normalizePath active)
    (rest : Location)
    : (safeRmtree stages.disposed (restoreTmpDir serverDir task.jobId)).lookup
        (normalizePath active ++ rest)
      = stages.configured.lookup (normalizePath active ++ rest) := by
  rw [safeRmtree_beside outsideTmp (stages.active_not_above_tmp plain)]
  unfold disposed
  split
  · exact safeRmtree_beside outsideRollback (stages.active_not_above plain).1 rest
  · rfl

/-- A world in the rollback directory goes with it. The directory was empty, so the world is put
directly into it, under the name of the world that was moved away.
-/
theorem disposed_in_rollback (plain : ".." ∉ serverDir)
    (inside : rollbackRoot serverDir task.jobId <+: normalizePath active)
    : stages.disposed.lookup (normalizePath active) = none := by
  obtain ⟨located, named, renamed⟩ := stages.renames plain
  obtain ⟨movable, _⟩ := FileTree.rename_some renamed
  have rollback := stages.readied_rollback
  obtain ⟨rest, below⟩ := inside
  rcases stages.clears_cases plain with ⟨missing, same⟩ | movedAway
  · have absent : stages.readied.lookup (normalizePath active) = none := by
      by_contra stored
      rw [same] at located
      rw [(stages.readied.pathExists_eq_true).mpr ⟨_, located, stored⟩] at missing
      cases missing
    have deeper : rest ≠ [] := by
      rintro rfl
      rw [← below, rollback, if_pos rfl] at absent
      cases absent
    have parent := movable.parent
    rw [same, FileTree.isDir_eq_true, ← below, List.dropLast_append_of_ne_nil deeper, rollback]
      at parent
    obtain ⟨last, rfl⟩ : ∃ last, rest = [last] := by
      obtain ⟨front, last, rfl⟩ := (List.eq_nil_or_concat rest).resolve_left deeper
      rw [List.concat_eq_append, List.dropLast_concat] at parent
      split at parent
      · rename_i empty
        exact ⟨last, by rw [empty]; rfl⟩
      · cases parent
    have moved : movedWorld task serverDir active = normalizePath active := by
      rcases List.eq_nil_or_concat active with empty | ⟨front, name, concat⟩
      · exact absurd (by rw [empty]; rfl) movable.real
      · rw [List.concat_eq_append] at concat
        rw [concat, List.getLast?_concat, ne_eq, Option.some.injEq] at named
        have end_ := normalizePath_concat front named
        rw [← concat, ← below] at end_
        have same := (List.append_inj_right' end_ rfl)
        rw [← below, movedWorld, concat, List.getLast?_concat, same]
        rfl
    unfold disposed
    rw [← movedWorld, moved]
    split
    · exact safeRmtree_gone (by simp [rollbackRoot]) ⟨[last], below⟩
    · rename_i gone
      by_contra stored
      have here := stages.configured.locate_plain (normalizePath_plain active) stored
      exact gone ((stages.configured.pathExists_eq_true).mpr ⟨_, here, stored⟩)
  · have away := (FileTree.rename_some movedAway).1
    have stored := away.stored
    rw [← below, rollback] at stored
    split at stored
    · rename_i own
      refine absurd ?_ away.outside
      rw [← below, own, List.append_nil, movedWorld]
      exact List.prefix_append _ _
    · contradiction

end RestoreStages

/-- A restore puts the archived world back: the archive has it where the restore looks, and its
place is outside the directories that the restore removes.
-/
structure RestoresInPlace (server : Server) (serverDir : Location) (jobId : Uuid)
    (path : RawPath)
    : Prop where
  level : isJavaFlavor server.flavor = true ∨ path = serverDir ++ ["worlds"]
  outsideTmp : ¬ restoreTmpDir serverDir jobId <+: normalizePath path
  outsideRollback : ¬ rollbackRoot serverDir jobId <+: normalizePath path

theorem archiveLevels_ne_nil {tree : FileTree Content} {server : Server} {serverDir : Location}
    (deep
      : ¬ (isJavaFlavor server.flavor = true
        ∨ activeWorldPath tree server serverDir = serverDir ++ ["worlds"]))
    (notAbove : ¬ normalizePath (activeWorldPath tree server serverDir) <+: serverDir)
    (plain : ".." ∉ serverDir)
    : archiveLevels server serverDir (activeWorldPath tree server serverDir) ≠ [] := by
  unfold archiveLevels
  rw [if_neg deep]
  rw [not_or, Bool.not_eq_true] at deep
  obtain ⟨bedrock, notWorlds⟩ := deep
  have active : resolveExistingWorldPath tree serverDir (worldName server) false
      = some (activeWorldPath tree server serverDir) := by
    unfold activeWorldPath at notWorlds ⊢
    rw [if_neg (by simp [bedrock])] at notWorlds ⊢
    cases found : resolveExistingWorldPath tree serverDir (worldName server) false with
    | none =>
        rw [found] at notWorlds
        exact absurd rfl notWorlds
    | some path => rfl
  intro unnamed
  have joined : ∀ base, joinPath base (worldName server) = base
      ∨ joinPath base (worldName server) = [] := by
    intro base
    unfold joinPath
    split
    · exact .inr unnamed
    · exact .inl (by rw [unnamed, List.append_nil])
  have atRoot : activeWorldPath tree server serverDir = []
      → normalizePath (activeWorldPath tree server serverDir) <+: serverDir := by
    intro empty
    rw [empty]
    exact List.nil_prefix
  rcases (resolveExistingWorldPath_bedrock active).2 with ⟨_, path⟩ | ⟨_, path⟩ | path
  · rcases joined serverDir with same | empty
    · refine notAbove ?_
      rw [path, same, normalizePath, normalizeFrom_of_plain plain]
      exact List.prefix_refl _
    · exact notAbove (atRoot (path.trans empty))
  · rcases joined (serverDir ++ ["worlds"]) with same | empty
    · exact notWorlds (path.trans same)
    · exact notAbove (atRoot (path.trans empty))
  · exact notWorlds path

/-- Whenever a backup and a later restore of it both complete, the restored world is the archived
one exactly when the server runs Java or its world is the directory of worlds itself.
-/
theorem restored_world_same_iff {backupFaults restoreFaults : Faults}
    {backedTree tree final : FileTree Content} {task : RestoreTask Content}
    {serverDir : Location}
    (backedUp
      : runBackupJob backupFaults backedTree task.serversRoot task.server = .ok task.archive)
    (restored : runRestoreJob restoreFaults task tree = (final, .completed))
    (required : requireServerDir tree task.serversRoot task.server = .ok serverDir)
    (layout
      : activeWorldPath tree task.server serverDir
        = activeWorldPath backedTree task.server serverDir)
    : FileTree.SameBelow (normalizePath (activeWorldPath tree task.server serverDir)) final
        backedTree
      ↔ RestoresInPlace task.server serverDir task.jobId
          (activeWorldPath tree task.server serverDir) := by
  obtain ⟨backedDir, requiredBefore, archived⟩ := runBackupJob_ok backedUp
  obtain ⟨restoredDir, requiredAfter, stages, rfl⟩ := runRestoreJob_completed restored
  rw [required] at requiredAfter
  cases requiredAfter
  have sameDir : backedDir = serverDir := by
    obtain ⟨raw, configured, rfl⟩ := requireServerDir_ok required
    obtain ⟨_, again, rfl⟩ := requireServerDir_ok requiredBefore
    rw [configured] at again
    cases again
    rfl
  rw [sameDir] at archived
  have plain := requireServerDir_plain required
  have backup := stages.staged.extractedBackup plain archived
  rw [← layout] at backup
  constructor
  · intro same
    have top := same []
    rw [List.append_nil] at top
    have outsideTmp
        : ¬ restoreTmpDir serverDir task.jobId
          <+: normalizePath (activeWorldPath tree task.server serverDir) := by
      intro inside
      rw [safeRmtree_gone (by simp [restoreTmpDir]) inside] at top
      exact backup.stored top.symm
    have outsideRollback
        : ¬ rollbackRoot serverDir task.jobId
          <+: normalizePath (activeWorldPath tree task.server serverDir) := by
      intro inside
      rw [safeRmtree_none (stages.disposed_in_rollback plain inside)] at top
      exact backup.stored top.symm
    refine ⟨?_, outsideTmp, outsideRollback⟩
    by_contra deep
    -- The restored directory is a copy of the archived one at a deeper level of itself.
    have isDir
        : backedTree.lookup (normalizePath (activeWorldPath tree task.server serverDir))
          = some .dir := by
      have arrived := stages.swapped_world plain []
      rw [List.append_nil, List.append_nil, backup.isDir] at arrived
      have final := stages.final_lookup plain outsideTmp outsideRollback []
      rw [List.append_nil, copyConfigFiles_dir stages.configures arrived] at final
      rw [← top, final]
    refine archiveLevels_ne_nil deep (stages.active_not_above_serverDir plain) plain ?_
    refine FileTree.no_copy_below backup.stored ?_
    intro rest
    rw [List.append_assoc, ← same, stages.final_lookup plain outsideTmp outsideRollback,
      stages.configured_world plain backup outsideTmp isDir, stages.swapped_world plain,
      ← List.append_assoc, backup.world]
  · rintro ⟨level, outsideTmp, outsideRollback⟩ rest
    have world := backup.world
    have levels : archiveLevels task.server serverDir
        (activeWorldPath tree task.server serverDir) = [] :=
      if_pos level
    rw [levels, List.append_nil] at world
    have isDir := world []
    rw [List.append_nil, List.append_nil, backup.isDir] at isDir
    rw [stages.final_lookup plain outsideTmp outsideRollback,
      stages.configured_world plain backup outsideTmp isDir.symm, stages.swapped_world plain,
      world]

private def worldOf (place : Location) (content : Nat) : FileTree Nat :=
  ((FileTree.empty.makeDirs (["servers", "a"] ++ place)).bind
    (fun tree => tree.writeFile (["servers", "a"] ++ place ++ ["level.dat"]) content)).getD
    .empty

private def hosted (flavor : ServerFlavor) : Server where
  id := 0
  nodeId := none
  ownerId := 1
  worldName := "home"
  mcConfig := { serverDir := some "/servers/a" }
  flavor := flavor
  lastActivity := 0

private def restoreOf (flavor : ServerFlavor) (place : Location) : RestoreTask Nat where
  serversRoot := ["servers"]
  server := hosted flavor
  jobId := 7
  archive :=
    (runBackupJob (fun _ => none) (worldOf place 1) ["servers"] (hosted flavor)).toOption.getD
      []

private def restored (flavor : ServerFlavor) (place : Location) : FileTree Nat × RestoreStatus :=
  runRestoreJob (fun _ => none) (restoreOf flavor place) (worldOf place 2)

private theorem restored_completed {flavor : ServerFlavor} {place : Location}
    (done : (restored flavor place).2 = .completed)
    : runRestoreJob (fun _ => none) (restoreOf flavor place) (worldOf place 2)
      = ((restored flavor place).1, .completed) :=
  Prod.ext rfl done

/-- The world of a Java server comes back after a change. -/
theorem java_world_restored
    : FileTree.SameBelow
        (normalizePath (activeWorldPath (worldOf ["home"] 2) (hosted .paper) ["servers", "a"]))
        (restored .paper ["home"]).1 (worldOf ["home"] 1) := by
  have backedUp
      : runBackupJob (fun _ => none) (worldOf ["home"] 1) (restoreOf .paper ["home"]).serversRoot
          (restoreOf .paper ["home"]).server
        = .ok (restoreOf .paper ["home"]).archive := by
    decide +kernel
  have completed : (restored .paper ["home"]).2 = .completed := by decide +kernel
  exact (restored_world_same_iff backedUp (restored_completed completed) (by decide +kernel)
    (by decide +kernel)).mpr ⟨.inl rfl, by decide +kernel, by decide +kernel⟩

/-- The world of a Bedrock server comes back one level too deep. -/
theorem bedrock_world_lost
    : ¬ ∀ (backupFaults restoreFaults : Faults) (backedTree tree final : FileTree Nat)
        (task : RestoreTask Nat) (serverDir : Location),
        runBackupJob backupFaults backedTree task.serversRoot task.server = .ok task.archive
        → runRestoreJob restoreFaults task tree = (final, .completed)
        → requireServerDir tree task.serversRoot task.server = .ok serverDir
        → activeWorldPath tree task.server serverDir
          = activeWorldPath backedTree task.server serverDir
        → FileTree.SameBelow (normalizePath (activeWorldPath tree task.server serverDir)) final
          backedTree := by
  intro same
  have completed : (restored .bedrock ["worlds", "home"]).2 = .completed := by decide +kernel
  have atFile := same (fun _ => none) (fun _ => none) (worldOf ["worlds", "home"] 1)
    (worldOf ["worlds", "home"] 2) (restored .bedrock ["worlds", "home"]).1
    (restoreOf .bedrock ["worlds", "home"]) ["servers", "a"] (by decide +kernel)
    (restored_completed completed) (by decide +kernel) (by decide +kernel) ["level.dat"]
  revert atFile
  decide +kernel

end Blockhost
