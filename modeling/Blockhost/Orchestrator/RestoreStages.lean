import Blockhost.Library.Result
import Blockhost.Orchestrator.BackupJobs

/-! The stages of a restore that completes, and what each call of it does to the other paths. -/

namespace Blockhost

open Library

variable {Content : Type}

section SafeRmtree

variable {tree : FileTree Content} {path other : Location}

theorem safeRmtree_gone (real : path ≠ []) (within : path <+: other)
    : (safeRmtree tree path).lookup other = none := by
  have gone : (tree.remove path).lookup other = none := by
    rw [FileTree.lookup_remove real, if_pos within]
  unfold safeRmtree
  split
  · dsimp only
    split
    · simp only [FileTree.remove] at gone ⊢
      rw [gone, ite_self]
    · exact gone
  · rename_i missing
    by_contra stored
    exact missing (FileTree.exists?_eq_true.mpr (tree.lookup_of_prefix stored within))

theorem safeRmtree_none (missing : tree.lookup other = none)
    : (safeRmtree tree path).lookup other = none := by
  unfold safeRmtree
  split
  · dsimp only
    split
    · simp [FileTree.remove, missing]
    · simp [FileTree.remove, missing]
  · exact missing

theorem safeRmtree_apart (outside : ¬ path <+: other) (notParent : other ≠ path.dropLast)
    : (safeRmtree tree path).lookup other = tree.lookup other := by
  have kept : (tree.remove path).lookup other = tree.lookup other :=
    if_neg (fun within => outside within.1)
  unfold safeRmtree
  split
  · dsimp only
    split
    · rename_i childless
      by_cases inParent : path.dropLast <+: other
      · obtain ⟨rest, rfl⟩ := inParent
        have missing : (tree.remove path).lookup (path.dropLast ++ rest) = none := by
          by_contra stored
          have member := FileTree.mem_below.mpr ⟨by simpa using notParent, stored⟩
          rw [childless] at member
          cases member
        rw [← kept, missing]
        simp only [FileTree.remove] at missing ⊢
        rw [missing, ite_self]
      · rw [← kept]
        exact if_neg (fun within => inParent within.1)
    · exact kept
  · rfl

theorem safeRmtree_beside (notBelow : ¬ path <+: other) (notAbove : ¬ other <+: path)
    (rest : Location)
    : (safeRmtree tree path).lookup (other ++ rest) = tree.lookup (other ++ rest) := by
  refine safeRmtree_apart ?_ ?_
  · intro within
    rcases List.prefix_or_prefix_of_prefix within (List.prefix_append other rest) with
      below | above
    · exact notBelow below
    · exact notAbove above
  · intro same
    have parent := List.dropLast_prefix path
    rw [← same] at parent
    exact notAbove ((List.prefix_append other rest).trans parent)

end SafeRmtree

theorem replace_some {tree next : FileTree Content} {source target : RawPath}
    (replaced : replace tree source target = some next)
    : target.getLast? ≠ some ".."
      ∧ ∃ old new, tree.locate source = some old ∧ tree.locate target = some new
        ∧ tree.rename old new = some next := by
  unfold replace at replaced
  split at replaced
  · cases replaced
  · rename_i named
    rw [not_or] at named
    obtain ⟨old, sourceAt, replaced⟩ := Option.bind_eq_some_iff.mp replaced
    obtain ⟨new, targetAt, renamed⟩ := Option.bind_eq_some_iff.mp replaced
    exact ⟨named.2, old, new, sourceAt, targetAt, renamed⟩

/-- The copies leave every path alone under whose name no file was brought, by induction on the
names; they never reach into the directory that they read.
-/
theorem copyConfigFiles_lookup {source dir : Location} {names : List String}
    {tree next : FileTree Content}
    (copied : copyConfigFiles source dir names tree = some next)
    (deep : dir.length + 2 ≤ source.length) {other : Location}
    (spared
      : ∀ name ∈ names, other = dir ++ [name] ∨ other = dir ++ [name, name]
        → tree.isFile (source ++ [name]) = false)
    : next.lookup other = tree.lookup other := by
  induction names generalizing tree with
  | nil =>
      cases copied
      rfl
  | cons name rest ih =>
      rw [copyConfigFiles] at copied
      have later := fun later member => spared later (List.mem_cons_of_mem name member)
      split at copied
      · rename_i brought
        obtain ⟨middle, first, copied⟩ := Option.bind_eq_some_iff.mp copied
        have apart : ¬ (other = dir ++ [name] ∨ other = dir ++ [name, name]) := by
          intro reached
          rw [spared name List.mem_cons_self reached] at brought
          cases brought
        rw [not_or] at apart
        rw [← FileTree.copyFile_lookup first apart.1 (by simpa using apart.2)]
        refine ih copied ?_
        intro next member reached
        have unread : middle.lookup (source ++ [next]) = tree.lookup (source ++ [next]) := by
          refine FileTree.copyFile_lookup first ?_ ?_
          · intro same
            have lengths := congrArg List.length same
            simp at lengths
            omega
          · intro same
            have lengths := congrArg List.length same
            simp at lengths
            omega
        have absent := later next member reached
        unfold FileTree.isFile at absent ⊢
        rw [unread]
        exact absent
      · exact ih copied later

/-- Directories stay directories, by induction on the names. -/
theorem copyConfigFiles_dir {source dir : Location} {names : List String}
    {tree next : FileTree Content}
    (copied : copyConfigFiles source dir names tree = some next) {other : Location}
    (isDir : tree.lookup other = some .dir)
    : next.lookup other = some .dir := by
  induction names generalizing tree with
  | nil =>
      cases copied
      exact isDir
  | cons name rest ih =>
      rw [copyConfigFiles] at copied
      split at copied
      · obtain ⟨middle, first, copied⟩ := Option.bind_eq_some_iff.mp copied
        refine ih copied ?_
        unfold FileTree.copyFile at first
        split at first
        · obtain ⟨⟨_, _, plain⟩, after⟩ := FileTree.writeFile_some first
          rw [after, if_neg, isDir]
          intro same
          rw [← same, FileTree.isDir_eq_true.mpr isDir] at plain
          cases plain
        · cases first
      · exact ih copied isDir

section Steps

variable {state next : RestoreState Content}

theorem call_ok {faults : Faults} {point : JobCall}
    (done : call faults point state = .ok () next)
    : next = state := by
  unfold call at done
  split at done
  · cases done
    rfl
  · cases done

theorem callWhen_ok {faults : Faults} {point : JobCall} {wanted : Bool}
    (done : callWhen wanted faults point state = .ok () next)
    : next = state := by
  unfold callWhen at done
  split at done
  · exact call_ok done
  · cases done
    rfl

theorem change_ok {message : String} {operation : FileTree Content → Option (FileTree Content)}
    (done : change message operation state = .ok () next)
    : ∃ tree, operation state.tree = some tree ∧ next = { state with tree } := by
  unfold change at done
  split at done
  · rename_i tree changed
    cases done
    exact ⟨tree, changed, rfl⟩
  · cases done

theorem check_ok {α : Type} {outcome : FileTree Content → Except BackupRestoreError α}
    {value : α} (done : check outcome state = .ok value next)
    : outcome state.tree = .ok value ∧ next = state := by
  unfold check at done
  split at done
  · rename_i result checked
    cases done
    exact ⟨checked, rfl⟩
  · cases done

theorem moveIn_ok {active rollback : RawPath} {restored : Location}
    (done : moveIn active rollback restored state = .ok () next)
    : ∃ tree, replace state.tree restored active = some tree ∧ next = { state with tree } := by
  unfold moveIn at done
  split at done
  · rename_i tree moved
    cases done
    exact ⟨tree, moved, rfl⟩
  · cases done

end Steps

/-- The extraction of a restore, from its empty directory on. -/
structure Staged (task : RestoreTask Content) (serverDir : Location)
    (tree extracted : FileTree Content)
    : Prop where
  extracts
    : ∃ opened,
        (safeRmtree tree (restoreTmpDir serverDir task.jobId)).makeDirs
            (restoreTmpDir serverDir task.jobId)
          = some opened
        ∧ extract (restoreTmpDir serverDir task.jobId) task.archive opened = some extracted
  world
    : extracted.lookup
        (restoredWorlds task.server (restoreTmpDir serverDir task.jobId))
      = some .dir

theorem stageRestore_ok {faults : Faults} {task : RestoreTask Content} {serverDir restored}
    {state next : RestoreState Content}
    (done : stageRestore faults task serverDir state = .ok restored next)
    : Staged task serverDir state.tree next.tree
      ∧ restored = restoredWorlds task.server (restoreTmpDir serverDir task.jobId)
      ∧ next.restoreTmp = some (restoreTmpDir serverDir task.jobId) := by
  unfold stageRestore at done
  obtain ⟨_, _, noted, done⟩ := state_bind_ok done
  cases noted
  obtain ⟨_, _, emptied, done⟩ := state_bind_ok done
  obtain ⟨_, same, rfl⟩ := change_ok emptied
  cases same
  obtain ⟨_, _, made, done⟩ := state_bind_ok done
  obtain ⟨opened, opens, rfl⟩ := change_ok made
  obtain ⟨_, _, updated, done⟩ := state_bind_ok done
  cases call_ok updated
  obtain ⟨_, _, checked, done⟩ := state_bind_ok done
  obtain ⟨_, rfl⟩ := check_ok checked
  obtain ⟨_, _, unpacked, done⟩ := state_bind_ok done
  obtain ⟨extracted, extracts, rfl⟩ := change_ok unpacked
  obtain ⟨_, _, found, done⟩ := state_bind_ok done
  obtain ⟨isWorld, rfl⟩ := check_ok found
  cases done
  split at isWorld
  · rename_i isDir
    exact ⟨⟨⟨opened, opens, extracts⟩, FileTree.isDir_eq_true.mp isDir⟩, rfl, rfl⟩
  · cases isWorld

/-- The trees that a restore passes through, up to the last removal. -/
structure RestoreStages (task : RestoreTask Content) (serverDir : Location) (active : RawPath)
    (tree : FileTree Content)
    where
  extracted : FileTree Content
  readied : FileTree Content
  cleared : FileTree Content
  swapped : FileTree Content
  configured : FileTree Content
  staged : Staged task serverDir tree extracted
  readies
    : (safeRmtree extracted (rollbackRoot serverDir task.jobId)).makeDirs
        (rollbackRoot serverDir task.jobId)
      = some readied
  clears
    : moveAway active (rollbackRoot serverDir task.jobId ++ [active.getLast?.getD ""]) readied
      = some cleared
  swaps
    : replace cleared (restoredWorlds task.server (restoreTmpDir serverDir task.jobId)) active
      = some swapped
  configures
    : copyConfigFiles (restoreTmpDir serverDir task.jobId ++ [archiveFolder task.server])
        serverDir restoredConfigFiles swapped
      = some configured

/-- The tree without the world that was moved away. -/
def RestoreStages.disposed {task : RestoreTask Content} {serverDir : Location}
    {active : RawPath} {tree : FileTree Content}
    (stages : RestoreStages task serverDir active tree)
    : FileTree Content :=
  if stages.configured.pathExists
      (rollbackRoot serverDir task.jobId ++ [active.getLast?.getD ""]) then
    safeRmtree stages.configured (rollbackRoot serverDir task.jobId)
  else stages.configured

theorem restoreSteps_ok {faults : Faults} {task : RestoreTask Content}
    {tree : FileTree Content} {next : RestoreState Content}
    (done : restoreSteps faults task { tree } = .ok () next)
    : ∃ serverDir, requireServerDir tree task.serversRoot task.server = .ok serverDir
      ∧ next.restoreTmp = some (restoreTmpDir serverDir task.jobId)
      ∧ ∃ stages : RestoreStages task serverDir
            (activeWorldPath tree task.server serverDir) tree,
          next.tree = stages.disposed := by
  unfold restoreSteps at done
  obtain ⟨_, _, updated, done⟩ := state_bind_ok done
  cases call_ok updated
  obtain ⟨_, _, verified, done⟩ := state_bind_ok done
  cases call_ok verified
  obtain ⟨_, _, checked, done⟩ := state_bind_ok done
  obtain ⟨_, rfl⟩ := check_ok checked
  obtain ⟨serverDir, _, found, done⟩ := state_bind_ok done
  obtain ⟨required, rfl⟩ := check_ok found
  obtain ⟨_, _, resolved, done⟩ := state_bind_ok done
  obtain ⟨same, rfl⟩ := check_ok resolved
  cases same
  obtain ⟨_, _, noted, done⟩ := state_bind_ok done
  cases noted
  obtain ⟨_, _, updated, done⟩ := state_bind_ok done
  cases call_ok updated
  obtain ⟨_, _, stopped, done⟩ := state_bind_ok done
  cases callWhen_ok stopped
  obtain ⟨restored, staging, extracting, done⟩ := state_bind_ok done
  obtain ⟨staged, rfl, noted⟩ := stageRestore_ok extracting
  obtain ⟨_, _, updated, done⟩ := state_bind_ok done
  cases call_ok updated
  obtain ⟨_, _, rollbackNoted, done⟩ := state_bind_ok done
  cases rollbackNoted
  obtain ⟨_, _, emptied, done⟩ := state_bind_ok done
  obtain ⟨_, same, rfl⟩ := change_ok emptied
  cases same
  obtain ⟨_, _, made, done⟩ := state_bind_ok done
  obtain ⟨readied, readies, rfl⟩ := change_ok made
  obtain ⟨_, _, updated, done⟩ := state_bind_ok done
  cases call_ok updated
  obtain ⟨_, _, movedAway, done⟩ := state_bind_ok done
  obtain ⟨cleared, clears, rfl⟩ := change_ok movedAway
  obtain ⟨_, _, movedIn, done⟩ := state_bind_ok done
  obtain ⟨swapped, swaps, rfl⟩ := moveIn_ok movedIn
  obtain ⟨_, _, copied, done⟩ := state_bind_ok done
  obtain ⟨configured, configures, rfl⟩ := change_ok copied
  obtain ⟨_, _, started, done⟩ := state_bind_ok done
  cases callWhen_ok started
  obtain ⟨_, _, updated, done⟩ := state_bind_ok done
  cases call_ok updated
  obtain ⟨_, same, rfl⟩ := change_ok done
  cases same
  exact ⟨serverDir, required, noted,
    ⟨staging.tree, readied, cleared, swapped, configured, staged, readies, clears, swaps,
      configures⟩, rfl⟩

theorem rollBack_not_completed (task : RestoreTask Content) (state : RestoreState Content)
    : (rollBack task state).2 ≠ .completed := by
  unfold rollBack
  repeat' split
  all_goals simp

theorem runRestoreJob_completed {faults : Faults} {task : RestoreTask Content}
    {tree final : FileTree Content}
    (completed : runRestoreJob faults task tree = (final, .completed))
    : ∃ serverDir, requireServerDir tree task.serversRoot task.server = .ok serverDir
      ∧ ∃ stages : RestoreStages task serverDir
            (activeWorldPath tree task.server serverDir) tree,
          final = safeRmtree stages.disposed (restoreTmpDir serverDir task.jobId) := by
  unfold runRestoreJob at completed
  dsimp only at completed
  split at completed
  · rename_i next done
    obtain ⟨serverDir, required, noted, stages, same⟩ := restoreSteps_ok done
    refine ⟨serverDir, required, stages, ?_⟩
    rw [noted, same] at completed
    exact (congrArg Prod.fst completed).symm
  · rename_i failure state _
    exact absurd (congrArg Prod.snd completed) (rollBack_not_completed task state)

end Blockhost
