import Blockhost.Library.TarContainment
import Mathlib

/-! Archives without links. Their extraction ends, leaves what was stored as it was and makes no
link; and when nothing is raised, every member is there.
-/

namespace Library

open FileTree

-- Growth

/-- What was stored is as it was, and no name is a new link or a further name of a file. -/
structure Grown (before after : Volume) : Prop where
  kept
    : ∀ place, before.tree.lookup place ≠ none
      → after.tree.lookup place = before.tree.lookup place
  links : ∀ place, after.tree.linkText place = before.tree.linkText place
  shared
    : ∀ place other, after.tree.SameFile place other
      → place = other ∨ before.tree.SameFile place other

theorem sameFile_iff {tree : LinkTree} {place other : Location}
    : tree.SameFile place other
      ↔ ∃ number, tree.inode place = some number ∧ tree.inode other = some number := by
  have numbered : ∀ here number, tree.inode here = some number
      ↔ ∃ regular, tree.lookup here = some (.file (.node regular number)) := by
    intro here number
    unfold inode
    split <;> simp_all
  simp only [SameFile, numbered]
  constructor
  · rintro ⟨regular, also, number, first, second⟩
    exact ⟨number, ⟨regular, first⟩, also, second⟩
  · rintro ⟨number, ⟨regular, first⟩, also, second⟩
    exact ⟨regular, also, number, first, second⟩

instance : IsPreorder Volume Grown where
  refl _ := ⟨fun _ _ => rfl, fun _ => rfl, fun _ _ same => .inr same⟩
  trans before middle after first second := {
    kept := fun place stored => by
      rw [second.kept place (first.kept place stored ▸ stored), first.kept place stored]
    links := fun place => (second.links place).trans (first.links place)
    shared := fun place other same =>
      (second.shared place other same).elim .inl (first.shared place other)
  }

theorem MoreDirs.grown {before after : Volume} (more : MoreDirs before after)
    : Grown before after where
  kept place stored := (more place).resolve_right fun missing => stored missing.1
  links := more.linkText
  shared place other same := by
    rw [sameFile_iff] at same
    exact .inr (sameFile_iff.mpr (by simpa only [more.inode] using same))

/-- By induction on the numbers. -/
private theorem le_foldr_max {numbers : List Nat} {number : Nat} (member : number ∈ numbers)
    : number ≤ numbers.foldr max 0 := by
  induction numbers with
  | nil => cases member
  | cons first rest ih =>
      rw [List.foldr_cons]
      rcases List.mem_cons.mp member with rfl | later
      · exact Nat.le_max_left ..
      · exact (ih later).trans (Nat.le_max_right ..)

theorem inode_ne_fresh (tree : LinkTree) (place : Location)
    : tree.inode place ≠ some tree.freshInode := by
  intro known
  have stored : tree.lookup place ≠ none := by
    intro missing
    simp [inode, missing] at known
  have listed : tree.freshInode ∈ tree.support.filterMap tree.inode :=
    List.mem_filterMap.mpr ⟨place, tree.finite place stored, known⟩
  have bound := le_foldr_max listed
  unfold freshInode at bound
  omega

theorem newFile_grown {volume : Volume} {tree : LinkTree} {place : Location} {regular : Bool}
    {names : List Location} (missing : volume.tree.lookup place = none)
    (made : putLeaf (newFile regular) volume.tree place = some tree)
    : Grown volume (volume.touch tree place names) := by
  have stored := (writeFile_some made).2
  have own : tree.inode place = some volume.tree.freshInode := by
    simp [inode, stored, newFile]
  have others : ∀ other, other ≠ place → tree.inode other = volume.tree.inode other := by
    intro other away
    simp [inode, stored, away]
  refine ⟨?_, ?_, ?_⟩
  · intro other present
    have away : other ≠ place := by
      rintro rfl
      exact present missing
    simp [Volume.touch, stored, away]
  · intro other
    by_cases here : other = place
    · simp [Volume.touch, linkText, stored, here, missing, newFile]
    · simp [Volume.touch, linkText, stored, here]
  · intro first second same
    obtain ⟨number, left, right⟩ := sameFile_iff.mp same
    change tree.inode first = some number at left
    change tree.inode second = some number at right
    by_cases firstHere : first = place
    · by_cases secondHere : second = place
      · exact .inl (firstHere.trans secondHere.symm)
      · rw [firstHere, own] at left
        rw [others second secondHere, ← left] at right
        exact absurd right (inode_ne_fresh _ _)
    · by_cases secondHere : second = place
      · rw [secondHere, own] at right
        rw [others first firstHere, ← right] at left
        exact absurd left (inode_ne_fresh _ _)
      · rw [others first firstHere] at left
        rw [others second secondHere] at right
        exact .inr (sameFile_iff.mpr ⟨number, left, right⟩)

theorem Grown.note {volume : Volume} {place : Location} {names : List Location}
    : Grown volume (volume.touch volume.tree place names) :=
  ⟨fun _ _ => rfl, fun _ => rfl, fun _ _ same => .inr same⟩

theorem mkdir_grown (path : RawPath) : Keeps Grown (mkdir path) :=
  fun volume => (mkdir_moreDirs path volume).grown

theorem openWrite_grown (path : RawPath) : Keeps Grown (openWrite path) := by
  intro volume
  rcases openWrite_cases path volume with same | ⟨place, _, ⟨tree, missing, made, final⟩ | final⟩
  · rw [same]
    exact refl_of Grown volume
  · rw [final]
    exact newFile_grown missing made
  · rw [final]
    exact .note

theorem chmod_grown (path : RawPath) : Keeps Grown (chmod path) := by
  intro volume
  rcases chmod_cases path volume with same | ⟨place, _, final⟩
  · rw [same]
    exact refl_of Grown volume
  · rw [final]
    exact .note

theorem makeNode_grown (path : RawPath)
    : Keeps Grown (makeEntry (putLeaf (newFile false)) path) := by
  intro volume
  rcases makeEntry_cases (putLeaf (newFile false)) path volume with
    same | ⟨place, tree, _, missing, made, final⟩
  · rw [same]
    exact refl_of Grown volume
  · rw [final]
    exact newFile_grown missing made

-- Members that are no links

def TarMember.isLink (member : TarMember) : Bool :=
  member.type = .symlink || member.type = .hardLink

def TarTask.LinkFree : TarTask → Prop
  | .make member _ _ _ => member.isLink = false
  | _ => True

variable {referenced : TarMember → Option TarMember} {member : TarMember} {path : RawPath}
  {source : Option RawPath} {task : TarTask} {copies : List TarTask} {volume next : Volume}

theorem makeMember_grown (free : member.isLink = false)
    : Keeps Grown (makeMember referenced member path source) := by
  unfold makeMember
  split
  · exact (openWrite_grown path).bind fun _ => .pure _
  · exact (openWrite_grown path).bind fun _ => .pure _
  · exact (makeDirectory_keeps mkdir_grown path).bind fun _ => .pure _
  · exact (makeNode_grown path).bind fun _ => .pure _
  · exact (makeNode_grown path).bind fun _ => .pure _
  · rename_i type
    simp [TarMember.isLink, type] at free
  · rename_i type
    simp [TarMember.isLink, type] at free

theorem perform_grown (free : task.LinkFree) : Keeps Grown (task.perform referenced) := by
  cases task with
  | make member path source setAttributes =>
      refine (makeUpper_keeps mkdir_grown path).bind fun _ => ?_
      exact (makeMember_grown free).bind fun _ => .pure _
  | attributes path => exact (chmod_grown path).bind fun _ => .pure _
  | chmodFile path =>
      refine Keeps.bind ?_ (fun _ => .pure _)
      intro volume
      rcases chmodRegular_cases path volume with same | same
      · exact same ▸ chmod_grown path volume
      · exact same ▸ refl_of Grown volume
  | writeText path wanted =>
      refine Keeps.bind ?_ (fun _ => .pure _)
      intro volume
      rcases writeIf_cases wanted path volume with same | same
      · exact same ▸ openWrite_grown path volume
      · exact same ▸ refl_of Grown volume

-- Members that are made

def Never (failure : TarFailure) {α : Type} (action : TarM α) : Prop :=
  ∀ volume next, action volume ≠ .error failure next

section Failures

variable {failure : TarFailure} {α β : Type}

theorem Never.bind {first : TarM α} {second : α → TarM β} (before : Never failure first)
    (after : ∀ value, Never failure (second value))
    : Never failure (first >>= second) := by
  intro volume next failed
  cases outcome : first volume with
  | ok value middle =>
      rw [state_bind_run outcome] at failed
      exact after value middle next failed
  | error other middle =>
      rw [state_bind_error outcome] at failed
      cases failed
      exact before volume next outcome

theorem Never.pure (value : α) : Never failure (Pure.pure value : TarM α) := by
  rintro volume next ⟨⟩

theorem makeEntry_never (put : LinkTree → Location → Option LinkTree)
    : Never .extract (makeEntry put path) := by
  intro volume next failed
  unfold makeEntry at failed
  repeat' split at failed
  all_goals cases failed

theorem openWrite_never : Never .extract (openWrite path) := by
  intro volume next failed
  unfold openWrite at failed
  repeat' split at failed
  all_goals cases failed

/-- By induction on the path. -/
theorem makedirs_never : Never .extract (makedirs path) := by
  induction path with
  | nil =>
      unfold makedirs
      exact makeEntry_never _
  | cons last above ih =>
      intro volume next failed
      unfold makedirs at failed
      split at failed
      · split at failed
        · split at failed
          · cases failed
          · exact makeEntry_never _ _ _ failed
        · split at failed
          · cases failed
          · exact makeEntry_never _ _ _ failed
        · rename_i made
          cases failed
          exact ih _ _ made
      · exact makeEntry_never _ _ _ failed

theorem makeUpper_never : Never .extract (makeUpper path) := by
  intro volume next failed
  unfold makeUpper at failed
  split at failed
  · cases failed
  · exact makedirs_never _ _ failed

theorem makeDirectory_never : Never .extract (makeDirectory path) := by
  intro volume next failed
  unfold makeDirectory at failed
  cases outcome : mkdir path volume with
  | ok value middle =>
      rw [tryCatch_ok outcome] at failed
      cases failed
  | error other middle =>
      rw [tryCatch_error outcome] at failed
      rcases acceptDirectory_cases path other middle with ⟨accepted, _⟩ | refused
      · rw [accepted] at failed
        cases failed
      · rw [refused] at failed
        cases failed
        exact makeEntry_never _ _ _ outcome

theorem makeMember_never (free : member.isLink = false)
    : Never .extract (makeMember referenced member path source) := by
  unfold makeMember
  split
  · exact openWrite_never.bind fun _ => .pure _
  · exact openWrite_never.bind fun _ => .pure _
  · exact makeDirectory_never.bind fun _ => .pure _
  · exact (makeEntry_never _).bind fun _ => .pure _
  · exact (makeEntry_never _).bind fun _ => .pure _
  · rename_i type
    simp [TarMember.isLink, type] at free
  · rename_i type
    simp [TarMember.isLink, type] at free

end Failures

def LeadsToStored (tree : LinkTree) (path : RawPath) : Prop :=
  ∃ place, tree.LeadsTo path place ∧ tree.lookup place ≠ none

theorem LeadsToStored.grown {before after : Volume} (stored : LeadsToStored before.tree path)
    (grown : Grown before after)
    : LeadsToStored after.tree path := by
  obtain ⟨place, leads, present⟩ := stored
  refine ⟨place, (leadsTo_congr grown.links path place).mpr leads, ?_⟩
  rwa [grown.kept place present]

theorem openWrite_node (done : openWrite path volume = .ok () next)
    : ∃ place, next.tree.LeadsTo path place
        ∧ ∃ regular inode, next.tree.lookup place = some (.file (.node regular inode)) := by
  have grown := openWrite_grown path volume
  rw [done] at grown
  unfold openWrite at done
  split at done
  · cases done
  · rename_i place found
    have leads := (leadsTo_congr grown.links path place).mpr (leadsTo_of_find found)
    refine ⟨place, leads, ?_⟩
    split at done
    · split at done
      · cases done
      · rename_i tree made
        cases done
        exact ⟨true, _, by simp [Volume.touch, (writeFile_some made).2, newFile]; rfl⟩
    · rename_i regular inode stored
      cases done
      exact ⟨regular, inode, stored⟩
    · cases done

theorem openWrite_stored (done : openWrite path volume = .ok () next)
    : LeadsToStored next.tree path := by
  obtain ⟨place, leads, regular, inode, stored⟩ := openWrite_node done
  exact ⟨place, leads, by simp [stored]⟩

theorem makeEntry_ok {put : LinkTree → Location → Option LinkTree}
    (done : makeEntry put path volume = .ok () next)
    : ∃ place tree, volume.tree.findName path = some place ∧ volume.tree.lookup place = none
      ∧ put volume.tree place = some tree ∧ next = volume.touch tree place [place] := by
  unfold makeEntry at done
  split at done
  · cases done
  · rename_i place found
    split at done
    · cases done
    · rename_i missing
      split at done
      · cases done
      · rename_i tree made
        cases done
        exact ⟨place, tree, found, by simpa using missing, made, rfl⟩

theorem makeNode_stored (done : makeEntry (putLeaf (newFile false)) path volume = .ok () next)
    : LeadsToStored next.tree path := by
  have grown := makeNode_grown path volume
  rw [done] at grown
  obtain ⟨place, tree, found, missing, made, rfl⟩ := makeEntry_ok done
  have leads := leadsTo_of_findName found (linkText_of_missing missing)
  refine ⟨place, (leadsTo_congr grown.links path place).mpr leads, ?_⟩
  simp [Volume.touch, (writeFile_some made).2]

theorem makeDirectory_found (done : makeDirectory path volume = .ok () next)
    : ∃ place, next.tree.find path = some place ∧ next.tree.isDir place = true := by
  unfold makeDirectory at done
  cases outcome : mkdir path volume with
  | ok value middle =>
      rw [tryCatch_ok outcome] at done
      cases done
      have grown := mkdir_grown path volume
      rw [outcome] at grown
      obtain ⟨place, tree, found, _, made, rfl⟩ := makeEntry_ok outcome
      have dir : tree.lookup place = some .dir := by simp [(makeDirs_some made).2]
      refine ⟨place, walk_grown grown.kept ?_ found, isDir_eq_true.mpr dir⟩
      simp [Volume.touch, linkText, dir]
  | error other middle =>
      rw [tryCatch_error outcome] at done
      rcases acceptDirectory_cases path other middle with ⟨accepted, there⟩ | refused
      · rw [accepted] at done
        cases done
        exact (Option.any_eq_true _ _).mp there
      · rw [refused] at done
        cases done

theorem makeDirectory_stored (done : makeDirectory path volume = .ok () next)
    : LeadsToStored next.tree path := by
  obtain ⟨place, found, isDir⟩ := makeDirectory_found done
  exact ⟨place, leadsTo_of_find found, by simp [isDir_eq_true.mp isDir]⟩

theorem makeMember_stored (free : member.isLink = false)
    (done : makeMember referenced member path source volume = .ok copies next)
    : LeadsToStored next.tree path ∧ copies = [] := by
  have rest : ∀ {action : TarM Unit}, (do action; return ([] : List TarTask)) volume
      = .ok copies next → action volume = .ok () next ∧ copies = [] := by
    intro action made
    obtain ⟨_, _, first, last⟩ := state_bind_ok made
    cases last
    exact ⟨first, rfl⟩
  unfold makeMember at done
  cases type : member.type with
  | regular | otherFile =>
      rw [type] at done
      exact ⟨openWrite_stored (rest done).1, (rest done).2⟩
  | directory =>
      rw [type] at done
      exact ⟨makeDirectory_stored (rest done).1, (rest done).2⟩
  | fifo | device =>
      rw [type] at done
      exact ⟨makeNode_stored (rest done).1, (rest done).2⟩
  | symlink | hardLink => simp [TarMember.isLink, type] at free

def TarTask.weight : TarTask → Nat
  | .make .. => 2
  | _ => 1

theorem perform_left (free : task.LinkFree)
    (done : task.perform referenced volume = .ok copies next)
    : (copies = [] ∨ copies = [.attributes task.path] ∧ task.weight = 2)
      ∧ (task.weight = 2 → LeadsToStored next.tree task.path) := by
  cases task with
  | make member path source setAttributes =>
      obtain ⟨_, middle, _, made⟩ := state_bind_ok done
      obtain ⟨left, last, first, same⟩ := state_bind_ok made
      obtain ⟨stored, rfl⟩ := makeMember_stored free first
      cases same
      refine ⟨?_, fun _ => stored⟩
      split
      · exact .inr ⟨rfl, rfl⟩
      · exact .inl rfl
  | attributes path | chmodFile path | writeText path wanted =>
      obtain ⟨_, _, _, same⟩ := state_bind_ok done
      cases same
      exact ⟨.inl rfl, nofun⟩

theorem perform_never (free : task.LinkFree) (makes : task.weight = 2)
    : Never .extract (task.perform referenced) := by
  cases task with
  | make member path source setAttributes =>
      exact makeUpper_never.bind fun _ => (makeMember_never free).bind fun _ => .pure _
  | attributes | chmodFile | writeText => cases makes

-- Whole extractions

namespace Extraction

/-- What is left to do, where making a member leaves another task. -/
def left (state : Extraction) : Nat :=
  (state.current.map TarTask.weight).sum
    + (state.later.map (fun task => task.weight + 1)).sum

/-- An extraction of tasks that make no link. -/
structure Growing (start : Volume) (tasks : List TarTask) (state : Extraction) : Prop where
  grown : Grown start state.volume
  free : ∀ task ∈ state.current ++ state.later, task.LinkFree
  single : state.current.length ≤ 1
  planned : ∀ task ∈ state.current ++ state.later, ∃ plan ∈ tasks, task.path = plan.path
  made
    : state.raised = none → ∀ task ∈ tasks, task.weight = 2
      → task ∈ state.current ++ state.later ∨ LeadsToStored state.volume.tree task.path

variable {start : Volume} {tasks : List TarTask} {state : Extraction}

theorem Growing.step (growing : state.Growing start tasks)
    (referenced : TarMember → Option TarMember)
    : (state.step referenced).Growing start tasks := by
  rcases step_cases referenced state with
    ⟨none, ⟨_, same⟩ | ⟨task, later, more, same⟩⟩ | ⟨task, rest, current, outcome⟩
  · rwa [same]
  · have all : state.current ++ state.later = [task] ++ later := by simp [none, more]
    obtain ⟨grown, free, _, planned, made⟩ := growing
    rw [all] at free planned made
    rw [same]
    exact ⟨grown, free, Nat.le_refl 1, planned, made⟩
  · have alone : rest = [] := by
      have single := growing.single
      rw [current] at single
      exact List.length_eq_zero_iff.mp (by simpa using single)
    subst alone
    have free := growing.free task (by simp [current])
    have kept : Keeps Grown (task.perform referenced) := perform_grown free
    have grows := kept state.volume
    rcases outcome with ⟨copies, next, done, same⟩ | ⟨next, done, same⟩
      | ⟨failure, next, done, same⟩
    all_goals
      rw [done] at grows
      have grown := trans_of Grown growing.grown grows
      rw [same]
    · obtain ⟨left, stored⟩ := perform_left free done
      have freeCopies : ∀ copy ∈ copies, copy.LinkFree ∧ copy.path = task.path := by
        intro copy member
        refine ⟨?_, perform_path done copy member⟩
        rcases left with rfl | ⟨rfl, _⟩
        · cases member
        · rw [List.mem_singleton.mp member]
          trivial
      refine ⟨grown, ?_, ?_, ?_, ?_⟩
      · intro other member
        simp only [List.append_nil, List.mem_append] at member
        rcases member with copy | waiting
        · exact (freeCopies other copy).1
        · exact growing.free other (List.mem_append_right _ waiting)
      · rcases left with rfl | ⟨rfl, _⟩ <;> simp
      · intro other member
        simp only [List.append_nil, List.mem_append] at member
        rcases member with copy | waiting
        · rw [(freeCopies other copy).2]
          exact growing.planned task (by simp [current])
        · exact growing.planned other (List.mem_append_right _ waiting)
      · intro quiet other member makes
        rcases growing.made quiet other member makes with waiting | before
        · rw [current, List.singleton_append, List.mem_cons] at waiting
          rcases waiting with rfl | waiting
          · exact .inr (stored makes)
          · exact .inl (List.mem_append_right _ waiting)
        · exact .inr (before.grown grows)
    · have others : ∀ other ∈ [] ++ state.later, other ∈ state.current ++ state.later :=
        fun other member => List.mem_append_right _ (by simpa using member)
      refine ⟨grown, fun other member => growing.free other (others other member), by simp,
        fun other member => growing.planned other (others other member), ?_⟩
      intro quiet other member makes
      rcases growing.made quiet other member makes with waiting | before
      · rw [current, List.singleton_append, List.mem_cons] at waiting
        rcases waiting with rfl | waiting
        · exact absurd done (perform_never free makes _ _)
        · exact .inl (by simpa using waiting)
      · exact .inr (before.grown grows)
    · exact ⟨grown, by simp, by simp, by simp, by simp⟩

theorem finished_iff_left : state.finished = true ↔ state.left = 0 := by
  have heavy : ∀ task : TarTask, 0 < task.weight := fun task => by
    cases task <;> simp [TarTask.weight]
  cases current : state.current with
  | nil => cases later : state.later <;> simp [finished, left, current, later]
  | cons task rest =>
      have more := heavy task
      simp [finished, left, current]
      omega

theorem Growing.left_step (growing : state.Growing start tasks)
    (referenced : TarMember → Option TarMember) (unfinished : state.finished = false)
    : (state.step referenced).left < state.left := by
  rcases step_cases referenced state with
    ⟨none, ⟨noneLater, _⟩ | ⟨task, later, more, same⟩⟩ | ⟨task, rest, current, outcome⟩
  · simp [finished, none, noneLater] at unfinished
  · rw [same]
    simp [left, none, more]
  · have free := growing.free task (by simp [current])
    have heavy : 0 < task.weight := by cases task <;> simp [TarTask.weight]
    rcases outcome with ⟨copies, next, done, same⟩ | ⟨next, _, same⟩ | ⟨failure, next, _, same⟩
    all_goals rw [same]
    · have less : (copies.map TarTask.weight).sum < task.weight := by
        rcases (perform_left free done).1 with rfl | ⟨rfl, makes⟩
        · simpa using heavy
        · rw [makes]
          exact Nat.one_lt_two
      simp [left, current]
      omega
    · simp [left, current]
      omega
    · simp [left, current]
      omega

/-- An extraction without links ends, by induction on the number of steps. -/
theorem Growing.finishes (growing : state.Growing start tasks)
    (referenced : TarMember → Option TarMember) {count : Nat} (enough : state.left ≤ count)
    : ((Extraction.step referenced)^[count] state).finished = true := by
  induction count generalizing state with
  | zero => exact finished_iff_left.mpr (Nat.le_zero.mp enough)
  | succ count ih =>
      rw [Function.iterate_succ_apply]
      refine ih (growing.step referenced) ?_
      cases ended : state.finished with
      | false =>
          have less := growing.left_step referenced ended
          omega
      | true =>
          have same : state.step referenced = state := by
            simp only [finished, Bool.and_eq_true, List.isEmpty_iff] at ended
            simp [Extraction.step, ended]
          rw [same, finished_iff_left.mp ended]
          omega

end Extraction

-- Extractions that stay inside

/-- Tasks that make no link, with paths that lead inside a directory before any of them is
performed.
-/
structure LinkFreePlan (tree : LinkTree) (target : RawPath) (root : Location)
    (tasks : List TarTask) : Prop where
  found : tree.find target = some root
  dir : tree.isDir root = true
  free : ∀ task ∈ tasks, task.LinkFree
  names : ∀ task ∈ tasks, ∃ names, task.path = target ++ names ∧ ".." ∉ names
  inside : ∀ task ∈ tasks, tree.LeadsInside root task.path

theorem TarTask.LinkFree.contained {fitting : Location → Prop} {tree : LinkTree}
    {root : Location} (free : task.LinkFree) (inside : FileInside fitting tree root task.path)
    : task.Contained fitting tree root := by
  cases task with
  | make member path source setAttributes =>
      simp only [TarTask.Contained, TarMember.Contained]
      cases type : member.type with
      | regular | otherFile => exact inside
      | directory | fifo | device => exact inside.leadsInside
      | symlink | hardLink => simp [LinkFree, TarMember.isLink, type] at free
  | attributes path | chmodFile path | writeText path wanted => exact inside

namespace LinkFreePlan

variable {tree : LinkTree} {target : RawPath} {root : Location} {tasks : List TarTask}

/-- What the tasks have made leads none of them elsewhere. -/
theorem stepsInside (plan : LinkFreePlan tree target root tasks) {fitting : Location → Prop}
    (inner : ∀ place, root <+: place → fitting place)
    (shared : ∀ place name, root <+: place → tree.SameFile place name → fitting name)
    (referenced : TarMember → Option TarMember) {state : Extraction}
    (growing : state.Growing { tree } tasks) (sound : state.Sound fitting target root)
    : Extraction.StepsInside referenced fitting target root state state.current.head?
        (state.step referenced) := by
  have dir : state.volume.tree.linkText root = none := by simp [linkText, sound.dir]
  have found := walk_grown growing.grown.kept dir plan.found
  refine ⟨⟨rfl, rfl⟩, found, ?_⟩
  intro task first
  have member : task ∈ state.current ++ state.later := by
    obtain ⟨rest, current⟩ := List.head?_eq_some_iff.mp first
    simp [current]
  obtain ⟨planned, listed, same⟩ := growing.planned task member
  refine (growing.free task member).contained ?_
  rw [same]
  intro place leads
  have within := (plan.inside planned listed).congr growing.grown.links place leads
  refine ⟨within, ?_⟩
  intro name named
  rw [mem_names] at named
  cases here : state.volume.tree.inode place with
  | none =>
      rw [here] at named
      exact named ▸ inner place within
  | some inode =>
      rw [here] at named
      rcases growing.grown.shared place name (sameFile_iff.mpr ⟨inode, here, named⟩) with
        rfl | old
      · exact inner place within
      · exact shared place name within old

/-- No task leads the later ones elsewhere, by induction on the number of steps. -/
theorem run (plan : LinkFreePlan tree target root tasks) {fitting : Location → Prop}
    (inner : ∀ place, root <+: place → fitting place)
    (shared : ∀ place name, root <+: place → tree.SameFile place name → fitting name)
    (referenced : TarMember → Option TarMember) (count : Nat)
    : ((Extraction.step referenced)^[count] { volume := { tree }, later := tasks }).Growing
        { tree } tasks
      ∧ ((Extraction.step referenced)^[count] { volume := { tree }, later := tasks }).Sound
        fitting target root := by
  induction count with
  | zero =>
      exact ⟨⟨refl_of Grown _, plan.free, Nat.zero_le 1, fun task member => ⟨task, member, rfl⟩,
        fun _ task member _ => .inl member⟩,
        ⟨isDir_eq_true.mp plan.dir, plan.names, nofun⟩⟩
  | succ count ih =>
      obtain ⟨growing, sound⟩ := ih
      rw [Function.iterate_succ_apply']
      exact ⟨growing.step referenced,
        sound.step inner (plan.stepsInside inner shared referenced growing sound)⟩

/-- In a directory whose files have no name outside, every run stays inside. -/
theorem runsInside (plan : LinkFreePlan tree target root tasks)
    (closed : ∀ place name, root <+: place → tree.SameFile place name → root <+: name)
    {referenced : TarMember → Option TarMember} {performed : List (Option TarTask)}
    {finish : Extraction}
    (run
      : Run (Extraction.Steps referenced) { volume := { tree }, later := tasks } performed finish)
    : Run (Extraction.StepsInside referenced (root <+: ·) target root)
        { volume := { tree }, later := tasks } performed finish := by
  have start := plan.run (fun _ inside => inside) closed referenced 0
  have held : Run (Extraction.StepsInside referenced (root <+: ·) target root)
        { volume := { tree }, later := tasks } performed finish
      ∧ finish.Growing { tree } tasks ∧ finish.Sound (root <+: ·) target root := by
    induction run with
    | done => exact ⟨.done, start⟩
    | next _ taken ih =>
        obtain ⟨inside, growing, sound⟩ := ih
        obtain ⟨rfl, rfl⟩ := taken
        have stays := plan.stepsInside (fun _ inside => inside) closed referenced growing sound
        exact ⟨inside.next stays, growing.step referenced,
          sound.step (fun _ inside => inside) stays⟩
  exact held.1

theorem grows (plan : LinkFreePlan tree target root tasks)
    (referenced : TarMember → Option TarMember) (count : Nat)
    : ((Extraction.step referenced)^[count] { volume := { tree }, later := tasks }).Growing
        { tree } tasks :=
  (plan.run (fun _ _ => trivial) (fun _ _ _ _ => trivial) referenced count).1

theorem made (plan : LinkFreePlan tree target root tasks)
    (referenced : TarMember → Option TarMember) {count : Nat} (enough : 3 * tasks.length ≤ count)
    (quiet
      : ((Extraction.step referenced)^[count] { volume := { tree }, later := tasks }).raised
        = none)
    : ∀ task ∈ tasks, task.weight = 2 → LeadsToStored
        ((Extraction.step referenced)^[count] { volume := { tree }, later := tasks }).volume.tree
        task.path := by
  have start : ({ volume := { tree }, later := tasks } : Extraction).left ≤ 3 * tasks.length := by
    simp only [Extraction.left, List.map_nil, List.sum_nil, Nat.zero_add]
    clear enough quiet plan
    induction tasks with
    | nil => simp
    | cons task rest ih =>
        have light : task.weight ≤ 2 := by cases task <;> simp [TarTask.weight]
        simp only [List.map_cons, List.sum_cons, List.length_cons]
        omega
  have ended
      : ((Extraction.step referenced)^[count] { volume := { tree }, later := tasks }).finished
        = true :=
    (plan.grows referenced 0).finishes referenced (start.trans enough)
  have growing := plan.grows referenced count
  generalize (Extraction.step referenced)^[count] { volume := { tree }, later := tasks } = state
    at quiet growing ended
  simp only [Extraction.finished, Bool.and_eq_true, List.isEmpty_iff] at ended
  intro task member makes
  refine (growing.made quiet task member makes).resolve_left ?_
  simp [ended]

end LinkFreePlan

end Library
