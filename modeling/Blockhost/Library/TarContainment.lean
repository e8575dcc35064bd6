import Blockhost.Library.Tarfile
import Blockhost.Library.Run

/-! Where an extraction works. What a task changes is noted; and where the path of a task leads
inside a directory at that moment, all that it notes is inside.
-/

namespace Library

open FileTree

-- What calls change

/-- Whatever changes is noted, and directories stay. -/
def Recorded (before after : Volume) : Prop :=
  ∃ more, after.touched = before.touched ++ more
    ∧ ∀ place, after.tree.lookup place ≠ before.tree.lookup place
      → before.tree.lookup place ≠ some .dir ∧ ∃ touch ∈ more, touch.place = place

instance : IsPreorder Volume Recorded where
  refl before := ⟨[], by simp, fun _ changed => absurd rfl changed⟩
  trans before middle after := by
    rintro ⟨first, noted, changes⟩ ⟨second, more, later⟩
    refine ⟨first ++ second, by rw [more, noted, List.append_assoc], ?_⟩
    intro place changed
    by_cases same : middle.tree.lookup place = before.tree.lookup place
    · obtain ⟨plain, touch, member, here⟩ := later place (same ▸ changed)
      exact ⟨same ▸ plain, touch, List.mem_append_right _ member, here⟩
    · obtain ⟨plain, touch, member, here⟩ := changes place same
      exact ⟨plain, touch, List.mem_append_left _ member, here⟩

theorem Recorded.touch {volume : Volume} {tree : LinkTree} {place : Location}
    {names : List Location} (plain : volume.tree.lookup place ≠ some .dir)
    (elsewhere : ∀ other, other ≠ place → tree.lookup other = volume.tree.lookup other)
    : Recorded volume (volume.touch tree place names) := by
  refine ⟨[⟨place, names⟩], rfl, ?_⟩
  intro other changed
  have here : other = place := by
    by_contra away
    exact changed (elsewhere other away)
  exact ⟨here ▸ plain, ⟨place, names⟩, by simp, here.symm⟩

theorem Recorded.note {volume : Volume} {place : Location} {names : List Location}
    : Recorded volume (volume.touch volume.tree place names) :=
  ⟨[⟨place, names⟩], rfl, fun _ changed => absurd rfl changed⟩

theorem Recorded.dir {before after : Volume} (recorded : Recorded before after) {place : Location}
    (dir : before.tree.lookup place = some .dir)
    : after.tree.lookup place = some .dir := by
  obtain ⟨_, _, changes⟩ := recorded
  by_contra changed
  exact (changes place (by rwa [dir])).1 dir

/-- What is put under a missing name changes no other place. -/
def PutsOne (put : LinkTree → Location → Option LinkTree) : Prop :=
  ∀ tree place next, tree.isDir place.dropLast = true → tree.lookup place = none
    → put tree place = some next → ∀ other, other ≠ place → next.lookup other = tree.lookup other

theorem putsOne_leaf (leaf : LinkTree → Leaf) : PutsOne (putLeaf leaf) := by
  intro tree place next _ _ put other away
  rw [(writeFile_some put).2, if_neg away]

theorem putsOne_makeDirs : PutsOne FileTree.makeDirs := by
  intro tree place next parent missing put other away
  rw [(makeDirs_some put).2]
  split
  · rename_i above
    cases place using List.reverseRecOn with
    | nil => exact absurd (List.prefix_nil.mp above) away
    | append_singleton dir name =>
        rw [List.dropLast_concat, isDir_eq_true] at parent
        rcases List.prefix_concat_iff.mp above with same | ⟨rest, rfl⟩
        · exact absurd same away
        · cases rest with
          | nil => simpa using parent.symm
          | cons first more =>
              have stored : tree.lookup (other ++ first :: more) ≠ none := by simp [parent]
              exact (tree.ancestor_dir stored (List.cons_ne_nil first more)).symm
  · rfl

section Calls

variable {put : LinkTree → Location → Option LinkTree} {path : RawPath} {volume : Volume}

theorem makeEntry_cases (put : LinkTree → Location → Option LinkTree) (path : RawPath)
    (volume : Volume)
    : finalState (makeEntry put path volume) = volume
      ∨ ∃ place tree, volume.tree.findName path = some place ∧ volume.tree.lookup place = none
        ∧ put volume.tree place = some tree
        ∧ finalState (makeEntry put path volume) = volume.touch tree place [place] := by
  unfold makeEntry
  split
  · exact .inl rfl
  · rename_i place found
    split
    · exact .inl rfl
    · rename_i missing
      split
      · exact .inl rfl
      · rename_i tree made
        exact .inr ⟨place, tree, found, by simpa using missing, made, rfl⟩

theorem makeEntry_recorded (one : PutsOne put) (path : RawPath)
    : Keeps Recorded (makeEntry put path) := by
  intro volume
  rcases makeEntry_cases put path volume with same | ⟨place, tree, found, missing, made, final⟩
  · rw [same]
    exact refl_of Recorded volume
  · rw [final]
    have parent := walk_missing found (by simp [volume.tree.root]) missing
    exact .touch (by simp [missing]) (one _ _ _ parent missing made)

theorem openWrite_cases (path : RawPath) (volume : Volume)
    : finalState (openWrite path volume) = volume
      ∨ ∃ place, volume.tree.find path = some place
        ∧ ((∃ tree, volume.tree.lookup place = none
            ∧ putLeaf (newFile true) volume.tree place = some tree
            ∧ finalState (openWrite path volume) = volume.touch tree place [place])
          ∨ finalState (openWrite path volume)
            = volume.touch volume.tree place (volume.tree.names place)) := by
  unfold openWrite
  split
  · exact .inl rfl
  · rename_i place found
    split
    · rename_i missing
      split
      · exact .inl rfl
      · rename_i tree made
        exact .inr ⟨place, found, .inl ⟨tree, missing, made, rfl⟩⟩
    · exact .inr ⟨place, found, .inr rfl⟩
    · exact .inl rfl

theorem openWrite_recorded (path : RawPath) : Keeps Recorded (openWrite path) := by
  intro volume
  rcases openWrite_cases path volume with
    same | ⟨place, found, ⟨tree, missing, made, final⟩ | final⟩
  · rw [same]
    exact refl_of Recorded volume
  · rw [final]
    have parent := walk_missing found (by simp [volume.tree.root]) missing
    exact .touch (by simp [missing]) (putsOne_leaf _ _ _ _ parent missing made)
  · rw [final]
    exact .note

theorem chmod_cases (path : RawPath) (volume : Volume)
    : finalState (chmod path volume) = volume
      ∨ ∃ place, volume.tree.find path = some place
        ∧ finalState (chmod path volume)
          = volume.touch volume.tree place (volume.tree.names place) := by
  unfold chmod
  split
  · exact .inl rfl
  · rename_i place found
    exact .inr ⟨place, (Option.filter_eq_some_iff.mp found).1, rfl⟩

theorem chmod_recorded (path : RawPath) : Keeps Recorded (chmod path) := by
  intro volume
  rcases chmod_cases path volume with same | ⟨place, _, final⟩
  · rw [same]
    exact refl_of Recorded volume
  · rw [final]
    exact .note

theorem chmodRegular_cases (path : RawPath) (volume : Volume)
    : chmodRegular path volume = chmod path volume ∨ chmodRegular path volume = .ok () volume := by
  unfold chmodRegular
  split
  · exact .inl rfl
  · exact .inr rfl

theorem acceptDirectory_cases (path : RawPath) (failure : TarFailure) (volume : Volume)
    : acceptDirectory path failure volume = .ok () volume ∧ volume.tree.pathIsDir path = true
      ∨ acceptDirectory path failure volume = .error failure volume := by
  unfold acceptDirectory
  split
  · rename_i accepted
    exact .inl ⟨rfl, accepted.2⟩
  · exact .inr rfl

theorem writeIf_cases (wanted : LinkTree → Bool) (path : RawPath) (volume : Volume)
    : writeIf wanted path volume = openWrite path volume
      ∨ writeIf wanted path volume = .ok () volume := by
  unfold writeIf
  split
  · exact .inl rfl
  · exact .inr rfl

theorem unlinkName_cases (path : RawPath) (volume : Volume)
    : finalState (unlinkName path volume) = volume
      ∨ ∃ place, volume.tree.findName path = some place ∧ volume.tree.isFile place = true
        ∧ finalState (unlinkName path volume)
          = volume.touch (volume.tree.remove place) place [place] := by
  unfold unlinkName
  split
  · exact .inl rfl
  · rename_i place found
    obtain ⟨here, file⟩ := Option.filter_eq_some_iff.mp found
    exact .inr ⟨place, here, file, rfl⟩

theorem unlinkName_recorded (path : RawPath) : Keeps Recorded (unlinkName path) := by
  intro volume
  rcases unlinkName_cases path volume with same | ⟨place, _, file, final⟩
  · rw [same]
    exact refl_of Recorded volume
  · rw [final]
    refine .touch ?_ (fun other away => by rw [lookup_remove_leaf file, if_neg away])
    obtain ⟨leaf, stored⟩ := isFile_eq_true.mp file
    simp [stored]

theorem linkName_cases (source path : RawPath) (volume : Volume)
    : finalState (linkName source path volume) = volume
      ∨ ∃ leaf, linkName source path volume = makeEntry (putLeaf fun _ => leaf) path volume := by
  unfold linkName
  split
  · exact .inr ⟨_, rfl⟩
  · exact .inl rfl

theorem linkName_recorded (source path : RawPath) : Keeps Recorded (linkName source path) := by
  intro volume
  rcases linkName_cases source path volume with same | ⟨leaf, made⟩
  · rw [same]
    exact refl_of Recorded volume
  · rw [made]
    exact makeEntry_recorded (putsOne_leaf _) path volume

end Calls

-- What tasks change

/-- By induction on the path. -/
theorem makedirs_keeps {relation : Volume → Volume → Prop} [IsPreorder Volume relation]
    (kept : ∀ path, Keeps relation (mkdir path)) (path : RawPath)
    : Keeps relation (makedirs path) := by
  induction path with
  | nil => exact kept []
  | cons last above ih =>
      intro volume
      unfold makedirs
      split
      · have higher := ih volume
        split
        all_goals
          rename_i made
          rw [made] at higher
        · split
          · exact higher
          · exact trans_of relation higher (kept _ _)
        · split
          · exact higher
          · exact trans_of relation higher (kept _ _)
        · exact higher
      · exact kept _ volume

theorem makeUpper_keeps {relation : Volume → Volume → Prop} [IsPreorder Volume relation]
    (kept : ∀ path, Keeps relation (mkdir path)) (path : RawPath)
    : Keeps relation (makeUpper path) := by
  intro volume
  unfold makeUpper
  split
  · exact refl_of relation volume
  · exact makedirs_keeps kept _ volume

theorem makeDirectory_keeps {relation : Volume → Volume → Prop} [IsPreorder Volume relation]
    (kept : ∀ path, Keeps relation (mkdir path)) (path : RawPath)
    : Keeps relation (makeDirectory path) := by
  refine (kept path).tryCatch ?_
  intro failure volume
  rcases acceptDirectory_cases path failure volume with ⟨accepted, _⟩ | refused
  · exact accepted ▸ refl_of relation volume
  · exact refused ▸ refl_of relation volume

theorem mkdir_recorded (path : RawPath) : Keeps Recorded (mkdir path) :=
  makeEntry_recorded putsOne_makeDirs path

theorem clearName_recorded (path : RawPath) : Keeps Recorded (clearName path) := by
  intro volume
  unfold clearName
  split
  · exact unlinkName_recorded path volume
  · exact refl_of Recorded volume

theorem makeSymlink_recorded (text : String) (path : RawPath)
    : Keeps Recorded (makeSymlink text path) :=
  (clearName_recorded path).bind fun _ =>
    (Keeps.refuse _ _).bind fun _ => makeEntry_recorded (putsOne_leaf _) path

variable {referenced : TarMember → Option TarMember}

theorem orCopy_keeps {relation : Volume → Volume → Prop} [IsPreorder Volume relation]
    {link : TarM Unit} (kept : Keeps relation link) (member : TarMember) (path : RawPath)
    (absent : TarFailure)
    : Keeps relation (orCopy referenced member path absent link) := by
  refine (kept.bind fun _ => .pure _).tryCatch fun _ => ?_
  cases referenced member with
  | none => exact .throw absent
  | some other => exact .pure _

theorem makeMember_recorded (member : TarMember) (path : RawPath) (source : Option RawPath)
    : Keeps Recorded (makeMember referenced member path source) := by
  have file := (openWrite_recorded path).bind (fun _ => Keeps.pure ([] : List TarTask))
  have entry := (makeEntry_recorded (putsOne_leaf (newFile false)) path).bind
    (fun _ => Keeps.pure ([] : List TarTask))
  unfold makeMember
  split
  · exact file
  · exact file
  · exact (makeDirectory_keeps mkdir_recorded path).bind fun _ => .pure _
  · exact entry
  · exact entry
  · exact orCopy_keeps (makeSymlink_recorded _ path) _ _ _
  · intro volume
    unfold makeHardLink
    split
    · exact orCopy_keeps (.throw _) _ _ _ volume
    · split
      · exact orCopy_keeps (linkName_recorded _ path) _ _ _ volume
      · exact orCopy_keeps (.throw _) _ _ _ volume

theorem orCopy_path {member : TarMember} {path : RawPath} {absent : TarFailure} {link : TarM Unit}
    {copies : List TarTask} {volume next : Volume}
    (done : orCopy referenced member path absent link volume = .ok copies next)
    : ∀ copy ∈ copies, copy.path = path := by
  unfold orCopy at done
  cases outcome : (do link; return ([] : List TarTask)) volume with
  | ok value middle =>
      rw [tryCatch_ok outcome] at done
      obtain ⟨_, _, _, made⟩ := state_bind_ok outcome
      cases done
      cases made
      simp
  | error failure middle =>
      rw [tryCatch_error outcome] at done
      cases found : referenced member with
      | none =>
          rw [found] at done
          cases done
      | some other =>
          rw [found] at done
          cases done
          simp [TarTask.path]

theorem makeMember_path {member : TarMember} {path : RawPath} {source : Option RawPath}
    {copies : List TarTask} {volume next : Volume}
    (done : makeMember referenced member path source volume = .ok copies next)
    : ∀ copy ∈ copies, copy.path = path := by
  have none_left : ∀ {action : TarM Unit},
      (do action; return ([] : List TarTask)) volume = .ok copies next → copies = [] := by
    intro action made
    obtain ⟨_, _, _, last⟩ := state_bind_ok made
    cases last
    rfl
  unfold makeMember at done
  cases type : member.type with
  | symlink =>
      rw [type] at done
      exact orCopy_path done
  | hardLink =>
      rw [type] at done
      cases source with
      | none => exact orCopy_path done
      | some source =>
          by_cases there : volume.tree.pathFound source
          · exact orCopy_path ((if_pos there).symm.trans done)
          · exact orCopy_path ((if_neg there).symm.trans done)
  | regular | otherFile | directory | fifo | device =>
      rw [type] at done
      simp [none_left done]

theorem perform_path {task : TarTask} {copies : List TarTask} {volume next : Volume}
    (done : task.perform referenced volume = .ok copies next)
    : ∀ copy ∈ copies, copy.path = task.path := by
  cases task with
  | make member path source setAttributes =>
      obtain ⟨_, middle, _, made⟩ := state_bind_ok done
      obtain ⟨left, last, member, same⟩ := state_bind_ok made
      cases same
      intro copy listed
      rcases List.mem_append.mp listed with linked | attributes
      · exact makeMember_path member copy linked
      · split at attributes
        · rw [List.mem_singleton.mp attributes]
          rfl
        · cases attributes
  | attributes path | chmodFile path | writeText path wanted =>
      obtain ⟨_, _, _, same⟩ := state_bind_ok done
      cases same
      simp

theorem perform_recorded (task : TarTask) : Keeps Recorded (task.perform referenced) := by
  cases task with
  | make member path source setAttributes =>
      refine (makeUpper_keeps mkdir_recorded path).bind fun _ => ?_
      exact (makeMember_recorded member path source).bind fun _ => .pure _
  | attributes path => exact (chmod_recorded path).bind fun _ => .pure _
  | chmodFile path =>
      refine Keeps.bind ?_ (fun _ => .pure _)
      intro volume
      rcases chmodRegular_cases path volume with same | same
      · exact same ▸ chmod_recorded path volume
      · exact same ▸ refl_of Recorded volume
  | writeText path wanted =>
      refine Keeps.bind ?_ (fun _ => .pure _)
      intro volume
      rcases writeIf_cases wanted path volume with same | same
      · exact same ▸ openWrite_recorded path volume
      · exact same ▸ refl_of Recorded volume

-- New directories

/-- Directories are made where nothing is, and everything else stays. -/
def MoreDirs (before after : Volume) : Prop :=
  ∀ place, after.tree.lookup place = before.tree.lookup place
    ∨ before.tree.lookup place = none ∧ after.tree.lookup place = some .dir

instance : IsPreorder Volume MoreDirs where
  refl _ _ := .inl rfl
  trans before middle after first second place := by
    rcases first place with same | ⟨missing, made⟩
    · rw [← same]
      exact second place
    · rcases second place with same | ⟨absent, _⟩
      · exact .inr ⟨missing, same.trans made⟩
      · simp [made] at absent

theorem mkdir_moreDirs (path : RawPath) : Keeps MoreDirs (mkdir path) := by
  intro volume place
  unfold mkdir
  rcases makeEntry_cases FileTree.makeDirs path volume with
    same | ⟨dir, tree, _, missing, made, final⟩
  · exact .inl (by rw [same])
  · rw [final]
    obtain ⟨clear, stored⟩ := makeDirs_some made
    simp only [Volume.touch, stored]
    split
    · rename_i above
      have plain := clear place ((List.mem_inits _ _).mpr above)
      cases found : volume.tree.lookup place with
      | none => exact .inr ⟨rfl, rfl⟩
      | some entry =>
          cases entry with
          | dir => exact .inl rfl
          | file leaf => simp [isFile, found] at plain
    · exact .inl rfl

namespace MoreDirs

variable {before after : Volume}

theorem linkText (more : MoreDirs before after) (place : Location)
    : after.tree.linkText place = before.tree.linkText place := by
  rcases more place with same | ⟨missing, made⟩
  · simp [FileTree.linkText, same]
  · simp [FileTree.linkText, missing, made]

theorem inode (more : MoreDirs before after) (place : Location)
    : after.tree.inode place = before.tree.inode place := by
  rcases more place with same | ⟨missing, made⟩
  · simp [FileTree.inode, same]
  · simp [FileTree.inode, missing, made]

theorem missing (more : MoreDirs before after) {place : Location}
    (missing : after.tree.lookup place = none)
    : before.tree.lookup place = none := by
  rcases more place with same | ⟨_, made⟩
  · rw [← same, missing]
  · simp [made] at missing

end MoreDirs

theorem mem_names {tree : LinkTree} {place other : Location}
    : other ∈ tree.names place
      ↔ match tree.inode place with
        | none => other = place
        | some number => tree.inode other = some number := by
  unfold names
  cases number : tree.inode place with
  | none => simp
  | some number =>
      simp only [List.mem_filter, mem_listing, decide_eq_true_eq, and_iff_right_iff_imp]
      intro known missing
      simp [inode, missing] at known

-- Where tasks work

/-- What a computation notes is allowed. -/
def Noted (allowed : Touch → Prop) {α : Type} (action : TarM α) (volume : Volume) : Prop :=
  ∀ touch ∈ (finalState (action volume)).touched, touch ∈ volume.touched ∨ allowed touch

namespace Noted

variable {allowed : Touch → Prop} {α β : Type} {volume : Volume}

theorem of_same {action : TarM α} (same : finalState (action volume) = volume)
    : Noted allowed action volume := by
  intro touch member
  rw [same] at member
  exact .inl member

theorem of_touch {action : TarM α} {tree : LinkTree} {place : Location} {names : List Location}
    (final : finalState (action volume) = volume.touch tree place names)
    (granted : allowed ⟨place, names⟩)
    : Noted allowed action volume := by
  intro touch member
  rw [final] at member
  rcases List.mem_append.mp member with earlier | here
  · exact .inl earlier
  · exact .inr (List.mem_singleton.mp here ▸ granted)

theorem pure (value : α) : Noted allowed (Pure.pure value : TarM α) volume := of_same rfl

theorem throw (failure : TarFailure)
    : Noted allowed (MonadExcept.throw failure : TarM α) volume :=
  of_same rfl

theorem refuse (wrong : Bool) (failure : TarFailure)
    : Noted allowed (Library.refuse wrong failure : TarM Unit) volume := by
  refine of_same ?_
  cases wrong <;> rfl

theorem bind {first : TarM α} {second : α → TarM β} (before : Noted allowed first volume)
    (after : ∀ value middle, first volume = .ok value middle
      → Noted allowed (second value) middle)
    : Noted allowed (first >>= second) volume := by
  intro touch member
  cases outcome : first volume with
  | ok value middle =>
      rw [state_bind_run outcome] at member
      rcases after value middle outcome touch member with earlier | granted
      · exact before touch (by rwa [outcome])
      · exact .inr granted
  | error failure middle =>
      rw [state_bind_error outcome] at member
      exact before touch (by rwa [outcome])

theorem tryCatch {action : TarM α} {handler : TarFailure → TarM α}
    (before : Noted allowed action volume)
    (after : ∀ failure middle, action volume = .error failure middle
      → Noted allowed (handler failure) middle)
    : Noted allowed (MonadExcept.tryCatch action handler) volume := by
  intro touch member
  cases outcome : action volume with
  | ok value middle =>
      rw [tryCatch_ok outcome] at member
      exact before touch (by rwa [outcome])
  | error failure middle =>
      rw [tryCatch_error outcome] at member
      rcases after failure middle outcome touch member with earlier | granted
      · exact before touch (by rwa [outcome])
      · exact .inr granted

end Noted

/-- What is missing on the way of a path is inside. -/
def UpperInside (tree : LinkTree) (root : Location) (path : RawPath) : Prop :=
  ∀ front, front <+: path → ∀ place, tree.LeadsTo front place → tree.lookup place = none
    → root <+: place

/-- The name at the end of a path is inside, whatever it stands for. -/
def NameInside (tree : LinkTree) (root : Location) (path : RawPath) : Prop :=
  ∀ dirs last, path = dirs ++ [last] → ∀ dir, tree.LeadsTo dirs dir → root <+: dir ++ [last]

/-- A touch inside, of a file whose names are all as required. -/
structure Touch.Within (root : Location) (fitting : Location → Prop) (touch : Touch) : Prop where
  place : root <+: touch.place
  names : ∀ name ∈ touch.names, fitting name

/-- A path leads inside, to something whose names are all as required. -/
def FileInside (fitting : Location → Prop) (tree : LinkTree) (root : Location) (path : RawPath)
    : Prop :=
  ∀ place, tree.LeadsTo path place → root <+: place ∧ ∀ name ∈ tree.names place, fitting name

theorem FileTree.isDir_dropLast {tree : LinkTree} {dir : Location} (isDir : tree.isDir dir = true)
    : tree.isDir dir.dropLast = true := by
  cases dir using List.reverseRecOn with
  | nil => exact isDir
  | append_singleton above name =>
      rw [List.dropLast_concat, isDir_eq_true]
      exact tree.closed above name (by simp [isDir_eq_true.mp isDir])

section Paths

variable {fitting : Location → Prop} {root : Location} {path : RawPath} {before after : Volume}

theorem UpperInside.above {tree : LinkTree} (upper : UpperInside tree root path) {above : RawPath}
    (higher : above <+: path)
    : UpperInside tree root above :=
  fun front within => upper front (within.trans higher)

theorem UpperInside.moreDirs (upper : UpperInside before.tree root path)
    (more : MoreDirs before after)
    : UpperInside after.tree root path := by
  intro front within place leads missing
  exact upper front within place ((leadsTo_congr more.linkText front place).mp leads)
    (more.missing missing)

theorem upperInside_of_inside {tree : LinkTree} {target names extra : RawPath}
    (found : tree.find target = some root) (stored : tree.lookup root ≠ none)
    (plain : ".." ∉ names)
    (inside : ∀ other, tree.LeadsTo (target ++ names) other → root <+: other ++ extra)
    : UpperInside tree root (target ++ names) := by
  intro front within place leads missing
  obtain ⟨back, whole⟩ := within
  have target_within := List.prefix_append target names
  rcases List.prefix_or_prefix_of_prefix ⟨back, whole⟩ target_within with
    ⟨rest, rfl⟩ | ⟨more, rfl⟩
  · by_cases longer : rest = []
    · have home := leads.unique (leadsTo_of_find (by simpa [longer] using found))
      exact absurd missing (home ▸ stored)
    · obtain ⟨dir, walked, isDir⟩ := walk_front found longer
      have home := leads.unique (leadsTo_of_find walked)
      simp [home, isDir_eq_true.mp isDir] at missing
  · rw [List.append_assoc, List.append_right_inj] at whole
    subst whole
    have later : ".." ∉ back := fun member => plain (List.mem_append_right more member)
    rw [← List.append_assoc] at inside
    exact inside_of_missing inside stored leads missing later

theorem NameInside.moreDirs (inside : NameInside before.tree root path)
    (more : MoreDirs before after)
    : NameInside after.tree root path :=
  fun dirs last whole dir leads =>
    inside dirs last whole dir ((leadsTo_congr more.linkText dirs dir).mp leads)

theorem FileInside.moreDirs (inside : FileInside fitting before.tree root path)
    (more : MoreDirs before after)
    : FileInside fitting after.tree root path := by
  intro place leads
  obtain ⟨within, every⟩ := inside place ((leadsTo_congr more.linkText path place).mp leads)
  refine ⟨within, fun name member => every name ?_⟩
  simpa only [mem_names, more.inode] using member

theorem LeadsInside.moreDirs (inside : before.tree.LeadsInside root path)
    (more : MoreDirs before after)
    : after.tree.LeadsInside root path :=
  FileTree.LeadsInside.congr inside more.linkText

-- Names that are found

/-- Where a directory is found on the way of a path, the name at its end is inside. -/
def NameFound (tree : LinkTree) (root : Location) (path : RawPath) : Prop :=
  ∀ dirs last, path = dirs ++ [last] → ∀ dir, tree.find dirs = some dir → tree.isDir dir = true
    → root <+: dir ++ [last]

theorem NameInside.found {tree : LinkTree} (inside : NameInside tree root path)
    : NameFound tree root path :=
  fun dirs last whole dir found _ => inside dirs last whole dir (leadsTo_of_find found)

theorem NameFound.remove {tree : LinkTree} (inside : NameFound tree root path) {gone : Location}
    (leaf : tree.isFile gone = true)
    : NameFound (tree.remove gone) root path := by
  intro dirs last whole dir found isDir
  have dirs_kept := lookup_remove_leaf leaf dir
  rw [isDir_eq_true] at isDir
  have other : dir ≠ gone := by
    rintro rfl
    simp [isDir] at dirs_kept
  rw [if_neg other, isDir] at dirs_kept
  exact inside dirs last whole dir (walk_remove leaf other found)
    (isDir_eq_true.mpr dirs_kept.symm)

theorem NameFound.place {tree : LinkTree} (inside : NameFound tree root path) {place : Location}
    (found : tree.findName path = some place)
    : root <+: place ∨ tree.isDir place = true := by
  cases path using List.reverseRecOn with
  | nil =>
      cases found
      simp [tree.root]
  | append_singleton dirs last =>
      obtain ⟨dir, walked, isDir, named⟩ := walk_name found
      rcases named rfl with rfl | ⟨_, rfl⟩ | ⟨_, rfl⟩
      · exact .inl (inside dirs last rfl dir walked isDir)
      · exact .inr isDir
      · exact .inr (isDir_dropLast isDir)

-- Calls that work inside

variable {volume : Volume} {put : LinkTree → Location → Option LinkTree}

theorem makeEntry_noted {allowed : Touch → Prop}
    (granted
      : ∀ place, volume.tree.findName path = some place → volume.tree.lookup place = none
        → allowed ⟨place, [place]⟩)
    : Noted allowed (makeEntry put path) volume := by
  rcases makeEntry_cases put path volume with same | ⟨place, tree, found, missing, _, final⟩
  · exact .of_same same
  · exact .of_touch final (granted place found missing)

variable (alone : ∀ place, root <+: place → fitting place)

include alone

theorem Touch.within_alone {place : Location} (inside : root <+: place)
    : Touch.Within root fitting ⟨place, [place]⟩ :=
  ⟨inside, fun name member => alone name (List.mem_singleton.mp member ▸ inside)⟩

theorem makeEntry_within
    (inside
      : ∀ place, volume.tree.LeadsTo path place → volume.tree.lookup place = none
        → root <+: place)
    : Noted (Touch.Within root fitting) (makeEntry put path) volume := by
  refine makeEntry_noted fun place found missing => Touch.within_alone alone ?_
  exact inside place (leadsTo_of_findName found (linkText_of_missing missing)) missing

theorem makeName_within (inside : NameFound volume.tree root path)
    : Noted (Touch.Within root fitting) (makeEntry put path) volume := by
  refine makeEntry_noted fun place found missing => Touch.within_alone alone ?_
  rcases inside.place found with within | isDir
  · exact within
  · simp [missing] at isDir

theorem openWrite_within (inside : FileInside fitting volume.tree root path)
    : Noted (Touch.Within root fitting) (openWrite path) volume := by
  rcases openWrite_cases path volume with same | ⟨place, found, ⟨tree, _, _, final⟩ | final⟩
  · exact .of_same same
  all_goals obtain ⟨within, names⟩ := inside place (leadsTo_of_find found)
  · exact .of_touch final (Touch.within_alone alone within)
  · exact .of_touch final ⟨within, names⟩

/-- By induction on the path. -/
theorem makedirs_within (upper : UpperInside volume.tree root path.reverse)
    : Noted (Touch.Within root fitting) (makedirs path) volume := by
  induction path generalizing volume with
  | nil => exact makeEntry_within alone (upper [] List.nil_prefix)
  | cons last above ih =>
      have higher := ih (upper.above (by simp))
      have more := makedirs_keeps mkdir_moreDirs above volume
      have here : ∀ next, MoreDirs volume next
          → Noted (Touch.Within root fitting) (mkdir (last :: above).reverse) next :=
        fun next grown => makeEntry_within alone (upper.moreDirs grown _ (List.prefix_refl _))
      intro touch member
      unfold makedirs at member
      split at member
      · split at member
        all_goals
          rename_i made
          rw [made] at more
          have noted := fun touch => higher touch
          simp only [made, finalState] at noted
        · split at member
          · exact noted touch member
          · rcases here _ more touch member with earlier | within
            · exact noted touch earlier
            · exact .inr within
        · split at member
          · exact noted touch member
          · rcases here _ more touch member with earlier | within
            · exact noted touch earlier
            · exact .inr within
        · exact noted touch member
      · exact here volume (refl_of MoreDirs volume) touch member

theorem makeUpper_within (upper : UpperInside volume.tree root path.dropLast)
    : Noted (Touch.Within root fitting) (makeUpper path) volume := by
  intro touch member
  unfold makeUpper at member
  split at member
  · exact .inl member
  · exact makedirs_within alone (by simpa using upper) touch member

theorem makeDirectory_missing
    (inside
      : ∀ place, volume.tree.LeadsTo path place → volume.tree.lookup place = none
        → root <+: place)
    : Noted (Touch.Within root fitting) (makeDirectory path) volume := by
  refine (makeEntry_within alone inside).tryCatch ?_
  intro failure middle _
  refine .of_same ?_
  rcases acceptDirectory_cases path failure middle with ⟨accepted, _⟩ | refused
  · rw [accepted]
    rfl
  · rw [refused]
    rfl

theorem makeDirectory_within (inside : volume.tree.LeadsInside root path)
    : Noted (Touch.Within root fitting) (makeDirectory path) volume :=
  makeDirectory_missing alone fun place leads _ => inside place leads

theorem clearName_within (inside : NameFound volume.tree root path)
    : Noted (Touch.Within root fitting) (clearName path) volume
      ∧ NameFound (finalState (clearName path volume)).tree root path := by
  by_cases present : (volume.tree.findName path).any volume.tree.exists?
  · have same : clearName path volume = unlinkName path volume := if_pos present
    unfold Noted
    rw [same]
    rcases unlinkName_cases path volume with failed | ⟨place, found, leaf, final⟩
    · rw [failed]
      exact ⟨fun touch member => .inl member, inside⟩
    · have within : root <+: place := by
        refine (inside.place found).resolve_right ?_
        obtain ⟨content, stored⟩ := isFile_eq_true.mp leaf
        simp [stored]
      refine ⟨Noted.of_touch final (Touch.within_alone alone within), ?_⟩
      rw [final]
      exact inside.remove leaf
  · have same : clearName path volume = .ok () volume := if_neg present
    unfold Noted
    rw [same]
    exact ⟨fun touch member => .inl member, inside⟩

theorem makeSymlink_within (inside : NameFound volume.tree root path)
    (text : String)
    : Noted (Touch.Within root fitting) (makeSymlink text path) volume := by
  obtain ⟨cleared, found⟩ := clearName_within alone inside
  refine cleared.bind fun _ middle done => ?_
  rw [done] at found
  refine Noted.bind (.refuse _ _) fun _ next checked => ?_
  rw [(refuse_ok checked).2]
  exact makeName_within alone found

theorem linkName_within (inside : NameFound volume.tree root path)
    (source : RawPath)
    : Noted (Touch.Within root fitting) (linkName source path) volume := by
  rcases linkName_cases source path volume with same | ⟨leaf, made⟩
  · exact .of_same same
  · intro touch member
    rw [made] at member
    exact makeName_within alone inside touch member

omit alone in
theorem chmod_within (inside : FileInside fitting volume.tree root path)
    : Noted (Touch.Within root fitting) (chmod path) volume := by
  rcases chmod_cases path volume with same | ⟨place, found, final⟩
  · exact .of_same same
  · obtain ⟨within, names⟩ := inside place (leadsTo_of_find found)
    exact .of_touch final ⟨within, names⟩

-- Tasks that work inside

omit alone in
theorem orCopy_noted {allowed : Touch → Prop} {link : TarM Unit}
    (linked : Noted allowed link volume) (member : TarMember) (absent : TarFailure)
    : Noted allowed (orCopy referenced member path absent link) volume := by
  refine (linked.bind fun _ _ _ => .pure _).tryCatch fun _ middle _ => ?_
  cases referenced member with
  | none => exact .throw absent
  | some other => exact .pure _

/-- Where the path of a member must lead: a link takes a name, a directory or device is made
where nothing is, and a file may be written under all its names.
-/
def TarMember.Contained (member : TarMember) (fitting : Location → Prop) (tree : LinkTree)
    (root : Location) (path : RawPath) : Prop :=
  match member.type with
  | .symlink | .hardLink => NameInside tree root path
  | .directory | .fifo | .device => tree.LeadsInside root path
  | .regular | .otherFile => FileInside fitting tree root path

def TarTask.Contained (task : TarTask) (fitting : Location → Prop) (tree : LinkTree)
    (root : Location) : Prop :=
  match task with
  | .make member path _ _ => member.Contained fitting tree root path
  | .attributes path | .chmodFile path | .writeText path _ => FileInside fitting tree root path

omit alone in
theorem FileInside.leadsInside {tree : LinkTree} (inside : FileInside fitting tree root path)
    : tree.LeadsInside root path :=
  fun place leads => (inside place leads).1

omit alone in
theorem TarMember.Contained.moreDirs {member : TarMember}
    (inside : member.Contained fitting before.tree root path) (more : MoreDirs before after)
    : member.Contained fitting after.tree root path := by
  unfold TarMember.Contained at inside ⊢
  split
  all_goals rename_i type; rw [type] at inside
  · exact NameInside.moreDirs inside more
  · exact NameInside.moreDirs inside more
  · exact LeadsInside.moreDirs inside more
  · exact LeadsInside.moreDirs inside more
  · exact LeadsInside.moreDirs inside more
  · exact FileInside.moreDirs inside more
  · exact FileInside.moreDirs inside more

omit alone in
theorem TarMember.Contained.upper {member : TarMember} {tree : LinkTree} {target names : RawPath}
    (inside : member.Contained fitting tree root (target ++ names))
    (found : tree.find target = some root) (stored : tree.lookup root ≠ none)
    (plain : ".." ∉ names)
    : UpperInside tree root (target ++ names).dropLast := by
  have leading : tree.LeadsInside root (target ++ names)
      → UpperInside tree root (target ++ names).dropLast := by
    intro within
    have whole : ∀ other, tree.LeadsTo (target ++ names) other → root <+: other ++ [] := by
      simpa [LeadsInside] using within
    exact (upperInside_of_inside found stored plain whole).above (List.dropLast_prefix _)
  have named : NameInside tree root (target ++ names)
      → UpperInside tree root (target ++ names).dropLast := by
    intro within
    cases names using List.reverseRecOn with
    | nil =>
        have whole : ∀ other, tree.LeadsTo (target ++ []) other → root <+: other ++ [] := by
          intro other leads
          rw [List.append_nil] at leads
          simp [leads.unique (leadsTo_of_find found)]
        exact (upperInside_of_inside found stored plain whole).above (List.dropLast_prefix _)
    | append_singleton names last =>
        have earlier : ".." ∉ names := fun member => plain (by simp [member])
        rw [← List.append_assoc] at within ⊢
        rw [List.dropLast_concat]
        exact upperInside_of_inside found stored earlier (within _ last rfl)
  unfold TarMember.Contained at inside
  split at inside
  · exact named inside
  · exact named inside
  · exact leading inside
  · exact leading inside
  · exact leading inside
  · exact leading (FileInside.leadsInside inside)
  · exact leading (FileInside.leadsInside inside)

theorem makeMember_within {member : TarMember} {source : Option RawPath}
    (inside : member.Contained fitting volume.tree root path)
    : Noted (Touch.Within root fitting) (makeMember referenced member path source) volume := by
  unfold TarMember.Contained at inside
  unfold makeMember
  split
  all_goals rename_i type; rw [type] at inside
  · exact (openWrite_within alone inside).bind fun _ _ _ => .pure _
  · exact (openWrite_within alone inside).bind fun _ _ _ => .pure _
  · exact (makeDirectory_within alone inside).bind fun _ _ _ => .pure _
  · exact (makeEntry_within alone fun place leads _ => inside place leads).bind
      fun _ _ _ => .pure _
  · exact (makeEntry_within alone fun place leads _ => inside place leads).bind
      fun _ _ _ => .pure _
  · exact orCopy_noted (makeSymlink_within alone (NameInside.found inside) _) _ _
  · have linked := fun source => linkName_within alone (NameInside.found inside) source
    cases source with
    | none => exact orCopy_noted (.throw _) _ _
    | some source =>
        by_cases there : volume.tree.pathFound source
        · have made : makeHardLink referenced member path (some source) volume
              = orCopy referenced member path .extract (linkName source path) volume := if_pos there
          unfold Noted
          rw [made]
          exact orCopy_noted (linked source) _ _
        · have absent : makeHardLink referenced member path (some source) volume
              = orCopy referenced member path .key (throw .system) volume := if_neg there
          unfold Noted
          rw [absent]
          exact orCopy_noted (.throw _) _ _

theorem perform_within {task : TarTask} {target names : RawPath}
    (inside : task.Contained fitting volume.tree root)
    (found : volume.tree.find target = some root) (stored : volume.tree.lookup root ≠ none)
    (whole : task.path = target ++ names) (plain : ".." ∉ names)
    : Noted (Touch.Within root fitting) (task.perform referenced) volume := by
  cases task with
  | make member path source setAttributes =>
      obtain rfl : path = target ++ names := whole
      have upper := TarMember.Contained.upper inside found stored plain
      refine (makeUpper_within alone upper).bind fun _ middle done => ?_
      have more := makeUpper_keeps mkdir_moreDirs (target ++ names) volume
      rw [done] at more
      refine Noted.bind ?_ fun _ _ _ => .pure _
      exact makeMember_within alone (TarMember.Contained.moreDirs inside more)
  | attributes path => exact (chmod_within inside).bind fun _ _ _ => .pure _
  | chmodFile path =>
      refine Noted.bind ?_ (fun _ _ _ => .pure _)
      unfold Noted
      rcases chmodRegular_cases path volume with same | same
      · exact same ▸ chmod_within inside
      · exact same ▸ fun touch member => .inl member
  | writeText path wanted =>
      refine Noted.bind ?_ (fun _ _ _ => .pure _)
      unfold Noted
      rcases writeIf_cases wanted path volume with same | same
      · exact same ▸ openWrite_within alone inside
      · exact same ▸ fun touch member => .inl member

end Paths

-- Runs

namespace Extraction

/-- One step performs the first of the current tasks, if there is one. -/
def Steps (referenced : TarMember → Option TarMember) (before : Extraction)
    (task : Option TarTask) (after : Extraction) : Prop :=
  task = before.current.head? ∧ after = before.step referenced

/-- A step with the directory still under its own path, and with a task whose path leads inside at
that moment.
-/
def StepsInside (referenced : TarMember → Option TarMember) (fitting : Location → Prop)
    (target : RawPath) (root : Location) (before : Extraction) (task : Option TarTask)
    (after : Extraction) : Prop :=
  Steps referenced before task after ∧ before.volume.tree.find target = some root
    ∧ ∀ performed, task = some performed → performed.Contained fitting before.volume.tree root

/-- All that was noted is inside, and what remains can only be led out by links. -/
structure Sound (fitting : Location → Prop) (target : RawPath) (root : Location)
    (state : Extraction) : Prop where
  dir : state.volume.tree.lookup root = some .dir
  plain
    : ∀ task ∈ state.current ++ state.later,
      ∃ names, task.path = target ++ names ∧ ".." ∉ names
  within : ∀ touch ∈ state.volume.touched, touch.Within root fitting

variable {fitting : Location → Prop} {target : RawPath} {root : Location}
  {before after : Extraction} {task : Option TarTask}

theorem steps_iterate (referenced : TarMember → Option TarMember) (start : Extraction)
    (count : Nat)
    : ∃ tasks, Run (Steps referenced) start tasks ((step referenced)^[count] start) := by
  induction count with
  | zero => exact ⟨[], .done⟩
  | succ count ih =>
      obtain ⟨tasks, run⟩ := ih
      rw [Function.iterate_succ_apply']
      exact ⟨_, run.next ⟨rfl, rfl⟩⟩

/-- A symbolic link whose directory is looked up and found inside, or any other task whose file is
found inside with all its names.
-/
def taskInside (tree : LinkTree) (root : Location) (task : TarTask) : Bool :=
  let file := (tree.realpath task.path).any fun place =>
    root.isPrefixOf place && (tree.names place).all root.isPrefixOf
  match task with
  | .make member path _ _ =>
      match member.type with
      | .symlink => (tree.realpath path.dropLast).any root.isPrefixOf
      | .hardLink => false
      | _ => file
  | _ => file

theorem taskInside_contained {tree : LinkTree} {root : Location} {task : TarTask}
    (checked : taskInside tree root task = true)
    : task.Contained (root <+: ·) tree root := by
  have file (found : (tree.realpath task.path).any (fun place =>
      root.isPrefixOf place && (tree.names place).all root.isPrefixOf) = true)
      : FileInside (root <+: ·) tree root task.path := by
    simp only [Option.any_eq_true, Bool.and_eq_true, List.all_eq_true,
      List.isPrefixOf_iff_prefix] at found
    obtain ⟨place, leads, within, names⟩ := found
    intro other again
    obtain rfl := (leadsTo_of_realpath leads).unique again
    exact ⟨within, names⟩
  cases task with
  | make member path source setAttributes =>
      cases type : member.type with
      | symlink =>
          simp only [taskInside, TarTask.Contained, TarMember.Contained, type, Option.any_eq_true,
            List.isPrefixOf_iff_prefix] at checked ⊢
          obtain ⟨place, leads, within⟩ := checked
          rintro dirs last rfl dir again
          rw [List.dropLast_concat] at leads
          obtain rfl := (leadsTo_of_realpath leads).unique again
          exact within.trans (List.prefix_append ..)
      | hardLink => simp [taskInside, type] at checked
      | regular | otherFile =>
          simp only [taskInside, TarTask.Contained, TarMember.Contained, type] at checked ⊢
          exact file checked
      | directory | fifo | device =>
          simp only [taskInside, TarTask.Contained, TarMember.Contained, type] at checked ⊢
          exact (file checked).leadsInside
  | attributes path | chmodFile path | writeText path wanted => exact file checked

theorem run_of_tasksInside {start : Extraction} {target : RawPath} {root : Location}
    (count : Nat)
    (checked
      : ∀ earlier < count,
        let state := (step referenced)^[earlier] start
        state.volume.tree.find target = some root
          ∧ state.current.head?.all (taskInside state.volume.tree root) = true)
    : ∃ tasks, Run (StepsInside referenced (root <+: ·) target root) start tasks
        ((step referenced)^[count] start) := by
  induction count with
  | zero => exact ⟨[], .done⟩
  | succ count ih =>
      obtain ⟨tasks, run⟩ := ih fun earlier within => checked earlier (by omega)
      obtain ⟨found, inside⟩ := checked count (by omega)
      rw [Function.iterate_succ_apply']
      refine ⟨_, run.next ⟨⟨rfl, rfl⟩, found, ?_⟩⟩
      intro task first
      exact taskInside_contained ((Option.all_eq_true _ _).mp inside task first)

theorem step_cases (referenced : TarMember → Option TarMember) (state : Extraction)
    : state.current = []
        ∧ (state.later = [] ∧ state.step referenced = state
          ∨ ∃ task later, state.later = task :: later
            ∧ state.step referenced = { state with current := [task], later })
      ∨ ∃ task rest, state.current = task :: rest
        ∧ ((∃ copies next, task.perform referenced state.volume = .ok copies next
              ∧ state.step referenced
                = { state with volume := next, current := copies ++ rest })
            ∨ (∃ next, task.perform referenced state.volume = .error .extract next
              ∧ state.step referenced = { state with volume := next, current := [] })
            ∨ ∃ failure next, task.perform referenced state.volume = .error failure next
              ∧ state.step referenced = { volume := next, raised := some failure }) := by
  unfold step
  split
  · rename_i none noneLater
    exact .inl ⟨none, .inl ⟨noneLater, rfl⟩⟩
  · rename_i task later none more
    exact .inl ⟨none, .inr ⟨task, later, more, rfl⟩⟩
  · rename_i task rest some
    refine .inr ⟨task, rest, some, ?_⟩
    cases outcome : task.perform referenced state.volume with
    | ok copies next => exact .inl ⟨copies, next, rfl, rfl⟩
    | error failure next =>
        by_cases member : failure = .extract
        · exact .inr (.inl ⟨next, by rw [member], by rw [member]⟩)
        · refine .inr (.inr ⟨failure, next, rfl, ?_⟩)
          cases failure <;> first | contradiction | rfl

theorem step_recorded (taken : Steps referenced before task after)
    : Recorded before.volume after.volume := by
  obtain ⟨_, rfl⟩ := taken
  rcases step_cases referenced before with
    ⟨_, ⟨_, same⟩ | ⟨_, _, _, same⟩⟩ | ⟨performed, _, _, outcome⟩
  · rw [same]
    exact refl_of Recorded before.volume
  · rw [same]
    exact refl_of Recorded before.volume
  · have recorded
        : Recorded before.volume (finalState (performed.perform referenced before.volume)) :=
      perform_recorded performed before.volume
    rcases outcome with ⟨_, _, done, same⟩ | ⟨_, done, same⟩ | ⟨_, _, done, same⟩
    all_goals
      rw [done] at recorded
      rw [same]
      exact recorded

theorem run_recorded {start finish : Extraction} {tasks : List (Option TarTask)}
    (run : Run (Steps referenced) start tasks finish)
    : Recorded start.volume finish.volume :=
  run.invariant (fun state => Recorded start.volume state.volume) (fun _ => True)
    (fun _ taken kept => trans_of Recorded kept (step_recorded taken)) (fun _ _ => trivial)
    (refl_of Recorded start.volume)

theorem Sound.step (alone : ∀ place, root <+: place → fitting place)
    (sound : before.Sound fitting target root)
    (taken : StepsInside referenced fitting target root before task after)
    : after.Sound fitting target root := by
  obtain ⟨steps, found, inside⟩ := taken
  have dir := (step_recorded steps).dir sound.dir
  obtain ⟨rfl, rfl⟩ := steps
  rcases step_cases referenced before with
    ⟨none, ⟨_, same⟩ | ⟨task, later, more, same⟩⟩ | ⟨performed, rest, current, outcome⟩
  · rwa [same]
  · rw [same] at dir ⊢
    refine ⟨dir, ?_, sound.within⟩
    intro other member
    exact sound.plain other (by simpa [none, more] using member)
  · obtain ⟨names, whole, plain⟩ := sound.plain performed (by simp [current])
    have noted : Noted (Touch.Within root fitting) (performed.perform referenced) before.volume :=
      perform_within alone (inside performed (by simp [current])) found (by simp [sound.dir])
        whole plain
    have within : ∀ next, finalState (performed.perform referenced before.volume) = next
        → ∀ touch ∈ next.touched, touch.Within root fitting := by
      rintro next rfl touch member
      exact (noted touch member).elim (sound.within touch) id
    rcases outcome with
      ⟨copies, next, done, same⟩ | ⟨next, done, same⟩ | ⟨failure, next, done, same⟩
    all_goals rw [same] at dir ⊢
    · refine ⟨dir, ?_, within next (by rw [done]; rfl)⟩
      intro other member
      simp only [List.append_assoc, List.mem_append] at member
      rcases member with copy | waiting
      · exact ⟨names, (perform_path done other copy).trans whole, plain⟩
      · exact sound.plain other (by simpa [current] using .inr waiting)
    · refine ⟨dir, ?_, within next (by rw [done]; rfl)⟩
      intro other member
      exact sound.plain other (List.mem_append_right _ (by simpa using member))
    · exact ⟨dir, by simp, within next (by rw [done]; rfl)⟩

theorem Sound.run (alone : ∀ place, root <+: place → fitting place)
    {start finish : Extraction} {tasks : List (Option TarTask)}
    (sound : start.Sound fitting target root)
    (run : Run (StepsInside referenced fitting target root) start tasks finish)
    : finish.Sound fitting target root :=
  run.invariant (Sound fitting target root) (fun _ => True)
    (fun _ taken kept => kept.step alone taken) (fun _ _ => trivial) sound

theorem Sound.outside {start finish : Extraction} {tasks : List (Option TarTask)}
    (sound : finish.Sound fitting target root) (run : Run (Steps referenced) start tasks finish)
    {place : Location} (away : ¬ root <+: place)
    : finish.volume.tree.lookup place = start.volume.tree.lookup place := by
  obtain ⟨more, noted, changes⟩ := run_recorded run
  by_contra changed
  obtain ⟨_, touch, member, rfl⟩ := changes place changed
  exact away (sound.within touch (noted ▸ List.mem_append_right _ member)).place

end Extraction

end Library
