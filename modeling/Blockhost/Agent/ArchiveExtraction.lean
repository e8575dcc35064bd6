import Blockhost.Library.TarGrowth

/-! The archives that `provision_server` and `provision_version` unpack into a new directory. The
filter looks at names and types; where a name leads is decided by the links of earlier members.
-/

namespace Blockhost.ArchiveExtraction

open Library FileTree

def fileFormat (mode : Nat) : Nat := mode &&& 0o170000

def isFifo (mode : Nat) : Bool := fileFormat mode = 0o010000

def isSocket (mode : Nat) : Bool := fileFormat mode = 0o140000

/-- `_tar_extract_filter` -/
def tarExtractFilter (member : TarMember) : Bool :=
  let name := member.name.toList
  if name.head? = some '/' ∨ name.head? = some '\\' ∨ ['.', '.'] <:+: name then false
  else if member.type ∉ [.regular, .directory, .symlink, .hardLink] then false
  else !(isFifo member.mode || isSocket member.mode)

def binaryNames : List String :=
  ["bedrock_server", "bedrock_server.exe", "bedrock_server_symbols.debug"]

/-- `is_file` -/
def pathIsFile (tree : LinkTree) (path : RawPath) : Bool :=
  match (tree.find path).bind tree.lookup with
  | some (.file (.node true _)) => true
  | _ => false

inductive Provisioning where
  | server (members : List TarMember)
  | version (members : List TarMember) (hash : String)
deriving DecidableEq, Repr

namespace Provisioning

/-- What is done after the directory was made: by `provision_server`, and by `provision_version`,
which stores a hash if one is given or can be computed.
-/
def tasks (target : RawPath) : Provisioning → List TarTask
  | server members =>
      extractAll target tarExtractFilter members
        ++ ["bedrock_server", "bedrock_server.exe"].map (fun name => .chmodFile (target ++ [name]))
  | version members hash =>
      extractAll target tarExtractFilter members
        ++ binaryNames.map (fun name => .chmodFile (target ++ [name]))
        ++ [.writeText (target ++ [".blockhost_version_meta.json"]) (fun tree =>
            hash ≠ "" || binaryNames.any (fun name => pathIsFile tree (target ++ [name])))]

def start (provisioning : Provisioning) (tree : LinkTree) (target : RawPath) : Extraction where
  volume := { tree }
  later := provisioning.tasks target

end Provisioning

-- Names that the filter lets through

variable {member : TarMember} {target : RawPath}

theorem filtered_path (passed : tarExtractFilter member = true)
    : ∃ names, tarPath target member.name = target ++ names ∧ ".." ∉ names := by
  have relative : isAbsolute member.name = false := by
    by_contra absolute
    simp [tarExtractFilter, of_decide_eq_true (Bool.not_eq_false _ ▸ absolute)] at passed
  refine ⟨systemParts member.name, by simp [tarPath, relative], ?_⟩
  intro up
  have dots : ['.', '.'] <:+: member.name.toList := infix_of_mem_systemParts up
  simp [tarExtractFilter, dots] at passed

theorem tasks_plain (provisioning : Provisioning)
    : ∀ task ∈ provisioning.tasks target, ∃ names, task.path = target ++ names ∧ ".." ∉ names := by
  have extracted : ∀ members, ∀ task ∈ extractAll target tarExtractFilter members,
      ∃ names, task.path = target ++ names ∧ ".." ∉ names := by
    intro members task listed
    rcases List.mem_append.mp listed with made | later
    · obtain ⟨member, kept, rfl⟩ := List.mem_map.mp made
      exact filtered_path (List.mem_filter.mp kept).2
    · obtain ⟨member, sorted, rfl⟩ := List.mem_map.mp later
      have kept := (List.mem_insertionSort _).mp sorted
      exact filtered_path (List.mem_filter.mp (List.mem_filter.mp kept).1).2
  have programs : ∀ names : List String, ".." ∉ names → ∀ task ∈ names.map (fun name =>
      TarTask.chmodFile (target ++ [name])), ∃ more, task.path = target ++ more ∧ ".." ∉ more := by
    intro names plain task listed
    obtain ⟨name, member, rfl⟩ := List.mem_map.mp listed
    refine ⟨[name], rfl, ?_⟩
    rw [List.mem_singleton]
    rintro rfl
    exact plain member
  intro task listed
  cases provisioning with
  | server members =>
      rcases List.mem_append.mp listed with member | program
      · exact extracted members task member
      · exact programs _ (by decide) task program
  | version members hash =>
      rcases List.mem_append.mp listed with earlier | last
      · rcases List.mem_append.mp earlier with member | program
        · exact extracted members task member
        · exact programs _ (by decide) task program
      · rw [List.mem_singleton.mp last]
        exact ⟨[".blockhost_version_meta.json"], rfl, by decide⟩

-- Where provisioning works

/-- The directory was made and is found under its path. -/
structure Prepared (tree : LinkTree) (target : RawPath) (root : Location) : Prop where
  found : tree.find target = some root
  dir : tree.isDir root = true

variable {referenced : TarMember → Option TarMember} {provisioning : Provisioning}
  {tree : LinkTree} {root : Location} {finish : Extraction} {tasks : List (Option TarTask)}

theorem Prepared.sound (prepared : Prepared tree target root) (provisioning : Provisioning)
    : (provisioning.start tree target).Sound (root <+: ·) target root where
  dir := isDir_eq_true.mp prepared.dir
  plain := tasks_plain provisioning
  within touch member := by cases member

/-- While each task has a path that leads inside at that moment, to a file with all its names
inside, everything that is created, replaced or gets new permissions is inside, and what is
outside stays.
-/
theorem provisioning_stays_inside (prepared : Prepared tree target root)
    (run
      : Run (Extraction.StepsInside referenced (root <+: ·) target root)
          (provisioning.start tree target) tasks finish)
    : (∀ touch ∈ finish.volume.touched,
        root <+: touch.place ∧ ∀ name ∈ touch.names, root <+: name)
      ∧ ∀ place, ¬ root <+: place → finish.volume.tree.lookup place = tree.lookup place := by
  have sound := (prepared.sound provisioning).run (fun _ inside => inside) run
  have steps : Run (Extraction.Steps referenced) (provisioning.start tree target) tasks finish :=
    List.map_id tasks ▸ run.map id fun _ _ _ taken => taken.1
  refine ⟨?_, fun place away => sound.outside steps away⟩
  intro touch member
  exact ⟨(sound.within touch member).place, (sound.within touch member).names⟩

/-- An archive without links whose names lead inside beforehand stays inside a directory whose files
have no name elsewhere.
-/
theorem linkFree_archive_inside (prepared : Prepared tree target root)
    (free : ∀ task ∈ provisioning.tasks target, task.LinkFree)
    (leads : ∀ task ∈ provisioning.tasks target, tree.LeadsInside root task.path)
    (closed : ∀ place name, root <+: place → tree.SameFile place name → root <+: name)
    (run : Run (Extraction.Steps referenced) (provisioning.start tree target) tasks finish)
    : Run (Extraction.StepsInside referenced (root <+: ·) target root)
        (provisioning.start tree target) tasks finish := by
  have plan : LinkFreePlan tree target root (provisioning.tasks target) :=
    ⟨prepared.found, prepared.dir, free, tasks_plain provisioning, leads⟩
  exact plan.runsInside closed run

private def systemDisk : LinkTree :=
  let servers := ((FileTree.empty : LinkTree).makeDirs ["srv", "servers", "1"]).getD .empty
  (servers.makeDirs ["etc"]).getD .empty

private def serverDir : RawPath := ["srv", "servers", "1"]

private theorem systemDisk_prepared : Prepared systemDisk serverDir serverDir :=
  ⟨by decide +kernel, by decide +kernel⟩

/-- A directory, a link to it, and a file that is named through the link. -/
private def linkedArchive : Provisioning :=
  .server
    [⟨"worlds", .directory, "", 0o755⟩,
      ⟨"saves", .symlink, "worlds", 0o777⟩,
      ⟨"saves/level.dat", .regular, "", 0o644⟩]

/-- The archive is unpacked to its end, inside. -/
theorem file_stays_inside
    : ∃ tasks finish,
        Run (Extraction.StepsInside (fun _ => none) (serverDir <+: ·) serverDir serverDir)
          (linkedArchive.start systemDisk serverDir) tasks finish
        ∧ finish.finished = true ∧ finish.raised = none
        ∧ (∀ touch ∈ finish.volume.touched,
            serverDir <+: touch.place ∧ ∀ name ∈ touch.names, serverDir <+: name)
        ∧ ∀ place, ¬ serverDir <+: place
          → finish.volume.tree.lookup place = systemDisk.lookup place := by
  let start := linkedArchive.start systemDisk serverDir
  let next := Extraction.step fun _ => none
  have checked : ∀ earlier < 13,
      (next^[earlier] start).volume.tree.find serverDir = some serverDir
        ∧ (next^[earlier] start).current.head?.all
            (Extraction.taskInside (next^[earlier] start).volume.tree serverDir) = true := by
    decide +kernel
  obtain ⟨tasks, run⟩ := Extraction.run_of_tasksInside 13 checked
  have ended : (next^[13] start).finished = true ∧ (next^[13] start).raised = none := by
    decide +kernel
  exact ⟨tasks, _, run, ended.1, ended.2, provisioning_stays_inside systemDisk_prepared run⟩

/-- A link leads the next member out of the directory. -/
theorem link_leads_out
    : Prepared systemDisk serverDir serverDir
      ∧ ∃ tasks finish,
        Run (Extraction.Steps fun _ => none)
          ((Provisioning.server
            [⟨"x", .symlink, "/etc", 0o777⟩, ⟨"x/passwd", .regular, "", 0o644⟩]).start
              systemDisk serverDir)
          tasks finish
        ∧ ∃ touch ∈ finish.volume.touched, ¬ serverDir <+: touch.place := by
  refine ⟨systemDisk_prepared, ?_⟩
  obtain ⟨tasks, run⟩ := Extraction.steps_iterate (fun _ => none)
    ((Provisioning.server
      [⟨"x", .symlink, "/etc", 0o777⟩, ⟨"x/passwd", .regular, "", 0o644⟩]).start
        systemDisk serverDir) 4
  exact ⟨tasks, _, run, by decide +kernel⟩

end Blockhost.ArchiveExtraction
