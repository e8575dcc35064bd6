import Blockhost.Agent.ServerFiles

/-! Files in the folders of the file policy survive the endpoints of the agent that do not name
them. Only the provisioning endpoint takes the directory for its own.
-/

namespace Blockhost

open Library

variable {Content : Type}

/-- A file stays, from one state of a disk to a later one. -/
def FileKept (path : Location) (before after : DiskState Content) : Prop :=
  FileTree.KeepsFile path before.tree after.tree

instance (path : Location) : IsPreorder (DiskState Content) (FileKept path) where
  refl before := refl_of (FileTree.KeepsFile path) before.tree
  trans _ _ _ first second := trans_of (FileTree.KeepsFile path) first second

section Steps

variable {path : Location}

/-- An operation on the disk succeeds, or raises and changes nothing, by its faults. -/
theorem onDisk_cases (operation : FileTree Content → Option (FileTree Content))
    (state : DiskState Content)
    : (∃ tree, operation state.tree = some tree
        ∧ onDisk operation state = .ok () { tree, faults := state.faults.tail })
      ∨ ∃ next, onDisk operation state = .error internalError next
        ∧ next.tree = state.tree := by
  unfold onDisk
  split
  · exact .inr ⟨_, rfl, rfl⟩
  · cases done : operation state.tree with
    | none => exact .inr ⟨_, rfl, rfl⟩
    | some tree => exact .inl ⟨tree, rfl, rfl⟩

theorem onDisk_keeps {operation : FileTree Content → Option (FileTree Content)}
    (kept : ∀ tree next, operation tree = some next → FileTree.KeepsFile path tree next)
    : Keeps (FileKept path) (onDisk operation) := by
  intro state
  rcases onDisk_cases operation state with ⟨tree, changed, done⟩ | ⟨next, failed, same⟩
  · rw [done]
    exact kept state.tree tree changed
  · rw [failed]
    exact .of_lookup (by rw [finalState, same])

theorem aside_keeps : Keeps (FileKept path) (aside : DiskM Content Unit) :=
  onDisk_keeps (fun tree next same => by
    cases same
    exact refl_of (FileTree.KeepsFile path) tree)

theorem storedFiles_keeps : Keeps (FileKept path) (storedFiles : DiskM Content _) :=
  Keeps.get.bind (fun state => Keeps.pure state.tree)

theorem readText_keeps (file : Location)
    : Keeps (FileKept path) (readText file : DiskM Content Content) := by
  refine storedFiles_keeps.bind ?_
  intro tree
  split
  · exact Keeps.pure _
  · exact Keeps.throw _

theorem makeDirs_keeps (dir : Location)
    : Keeps (FileKept path) (onDisk (·.makeDirs dir) : DiskM Content Unit) :=
  onDisk_keeps (fun _ _ => FileTree.keepsFile_makeDirs)

theorem writeFile_keeps {target : Location} (content : Content) (other : path ≠ target)
    : Keeps (FileKept path) (onDisk (·.writeFile target content)) :=
  onDisk_keeps (fun _ _ written => FileTree.keepsFile_writeFile written other)

theorem unlink_keeps {target : Location} (other : path ≠ target)
    : Keeps (FileKept path) (onDisk (·.unlink target) : DiskM Content Unit) :=
  onDisk_keeps (fun _ _ unlinked => FileTree.keepsFile_unlink unlinked other)

theorem createMissing_keeps (target : RawPath) (content : Content)
    : Keeps (FileKept path) (onDisk (createMissing target content)) := by
  refine onDisk_keeps ?_
  intro tree next created
  unfold createMissing at created
  split at created
  · cases created
    exact refl_of (FileTree.KeepsFile path) tree
  · rename_i missing
    obtain ⟨place, located, written⟩ := Option.bind_eq_some_iff.mp created
    intro found stored
    refine FileTree.keepsFile_writeFile written ?_ found stored
    rintro rfl
    exact missing ((tree.pathExists_eq_true).mpr ⟨path, located, by rw [stored]; simp⟩)

end Steps

section ServerDirectory

variable {dir rest : Location} (policy : inAllowedRoot rest = true)

/-- A path below a root has the root and a further name, by the policy's test. -/
theorem inAllowedRoot_cases (policy : inAllowedRoot rest = true)
    : ∃ root name more, rest = root :: name :: more ∧ allowedRoots.contains root = true := by
  unfold inAllowedRoot at policy
  split at policy
  · exact ⟨_, _, _, rfl, policy⟩
  · cases policy

/-- A path in an allowed root has more than one part. -/
theorem root_entry_other (policy : inAllowedRoot rest = true) (name : String)
    : dir ++ rest ≠ dir ++ [name] := by
  obtain ⟨root, inner, more, rfl, _⟩ := inAllowedRoot_cases policy
  simp

theorem other_root (policy : inAllowedRoot rest = true) {name : String}
    (outside : allowedRoots.contains name = false) (deeper : Location)
    : ¬ dir ++ name :: deeper <+: dir ++ rest := by
  obtain ⟨root, inner, more, rfl, allowed⟩ := inAllowedRoot_cases policy
  rw [List.prefix_append_right_inj, List.cons_prefix_cons]
  rintro ⟨rfl, _⟩
  rw [outside] at allowed
  cases allowed

include policy

theorem writeEntry_keeps (name : String) (content : Content)
    : Keeps (FileKept (dir ++ rest)) (onDisk (·.writeFile (dir ++ [name]) content)) :=
  writeFile_keeps content (root_entry_other policy name)

theorem copyProperties_keeps
    : Keeps (FileKept (dir ++ rest))
        (onDisk (·.copyFile (dir ++ ["server.properties"]) (dir ++ ["server.properties.bak"]))
          : DiskM Content Unit) := by
  refine onDisk_keeps ?_
  intro tree next copied
  refine .of_lookup (FileTree.copyFile_lookup copied (root_entry_other policy _) ?_)
  intro same
  have outside : ¬ dir ++ "server.properties.bak" :: ["server.properties"] <+: dir ++ rest :=
    other_root policy (by decide) ["server.properties"]
  rw [same, List.append_assoc, List.singleton_append] at outside
  exact outside (List.prefix_refl _)

theorem renameProperties_keeps
    : Keeps (FileKept (dir ++ rest))
        (onDisk (·.rename (dir ++ ["server.tmp"]) (dir ++ ["server.properties"]))
          : DiskM Content Unit) :=
  onDisk_keeps (fun _ _ renamed =>
    FileTree.keepsFile_rename renamed (other_root policy (by decide) [])
      (other_root policy (by decide) []))

/-- Each step writes entries of the root only. -/
theorem setServerProperty_keeps (texts : ServerTexts Content) (key value : String)
    : Keeps (FileKept (dir ++ rest)) (setServerProperty texts dir key value) :=
  (makeDirs_keeps dir).bind fun _ => storedFiles_keeps.bind fun _ =>
    (Keeps.onlyIf _ (writeEntry_keeps policy _ _)).bind fun _ =>
      (readText_keeps _).bind fun _ => (copyProperties_keeps policy).bind fun _ =>
        (writeEntry_keeps policy _ _).bind fun _ => renameProperties_keeps policy

theorem unlinkServerJars_keeps
    : Keeps (FileKept (dir ++ rest)) (unlinkServerJars dir : DiskM Content Unit) := by
  refine storedFiles_keeps.bind fun tree => Keeps.forM ?_
  intro name member
  refine (unlink_keeps ?_).ignoreFailure
  have jar := (List.mem_filter.mp member).2
  unfold isServerJar at jar
  split at jar
  · exact root_entry_other policy _
  · cases jar

end ServerDirectory

section Endpoints

variable {agent : Agent Content} {serverId : String} {rest : Location}

theorem checkServerId_keeps {path : Location}
    : Keeps (FileKept path) (checkServerId serverId : DiskM Content Unit) :=
  Keeps.refuse _ _

/-- A start keeps what lies below the open roots: each of its writes goes to another path. -/
theorem agentStartServer_keeps (payload : StartPayload) (policy : inAllowedRoot rest = true)
    : Keeps (FileKept (agent.serverDir serverId ++ rest))
        (agentStartServer agent serverId payload) := by
  have properties : Keeps (FileKept (agent.serverDir serverId ++ rest))
      (writeStartProperties agent (agent.serverDir serverId) payload) := by
    unfold writeStartProperties
    split
    · exact Keeps.pure ()
    · refine storedFiles_keeps.bind fun tree => ?_
      split
      · exact (setServerProperty_keeps policy _ _ _).bind fun _ =>
          Keeps.onlyIf _ (setServerProperty_keeps policy _ _ _)
      · exact writeEntry_keeps policy _ _
  have java : Keeps (FileKept (agent.serverDir serverId ++ rest))
      (prepareJavaStart agent (agent.serverDir serverId) payload) := by
    refine (writeEntry_keeps policy _ _).bind fun _ => ?_
    split
    · exact aside_keeps.bind fun _ => (unlinkServerJars_keeps policy).bind fun _ =>
        createMissing_keeps _ _
    · exact storedFiles_keeps.bind fun _ => Keeps.refuse _ _
  have bedrock : Keeps (FileKept (agent.serverDir serverId ++ rest))
      (prepareBedrockStart agent (agent.serverDir serverId) payload) := by
    refine (Keeps.refuse _ _).bind fun _ => ?_
    unfold ensureServerLayout
    split
    · exact Keeps.throw _
    · exact (makeDirs_keeps _).bind fun _ => Keeps.forM fun asset _ =>
        Keeps.onlyIf _ (createMissing_keeps _ _).ignoreFailure
  have prepared : Keeps (FileKept (agent.serverDir serverId ++ rest))
      (prepareStart agent (agent.serverDir serverId) payload) := by
    unfold prepareStart
    split
    · exact java
    · exact bedrock
  exact checkServerId_keeps.bind fun _ => (makeDirs_keeps _).bind fun _ =>
    properties.bind fun _ => prepared.bind fun _ => aside_keeps.bind fun _ =>
      (createMissing_keeps _ _).bind fun _ => aside_keeps

theorem agentStopServer_keeps {path : Location}
    : Keeps (FileKept path) (agentStopServer serverId : DiskM Content Unit) :=
  checkServerId_keeps.bind fun _ => aside_keeps

theorem agentClearJars_keeps (policy : inAllowedRoot rest = true)
    : Keeps (FileKept (agent.serverDir serverId ++ rest)) (agentClearJars agent serverId) :=
  checkServerId_keeps.bind fun _ => unlinkServerJars_keeps policy

theorem agentSyncConfig_keeps (uploads : List (String × Content))
    (policy : inAllowedRoot rest = true)
    : Keeps (FileKept (agent.serverDir serverId ++ rest))
        (agentSyncConfig agent serverId uploads) :=
  checkServerId_keeps.bind fun _ => (makeDirs_keeps _).bind fun _ =>
    (Keeps.forM fun upload _ => writeEntry_keeps policy upload.1 upload.2).bind fun _ =>
      Keeps.refuse _ _

theorem agentUpdateProperties_keeps (values : List (String × String))
    (policy : inAllowedRoot rest = true)
    : Keeps (FileKept (agent.serverDir serverId ++ rest))
        (agentUpdateProperties agent serverId values) :=
  checkServerId_keeps.bind fun _ =>
    Keeps.forM fun value _ => setServerProperty_keeps policy agent.texts value.1 value.2

/-- Downloads keep every file that they do not name, file by file. -/
theorem agentDownloadMods_keeps {path : Location} {files : List (ModFile Content)}
    (unnamed
      : ∀ file ∈ files, path ≠ agent.serverDir serverId ++ [file.subdir, file.filename])
    : Keeps (FileKept path) (agentDownloadMods agent serverId files) := by
  refine checkServerId_keeps.bind fun _ => ?_
  split
  · exact Keeps.throw _
  · refine Keeps.forM fun file member => ?_
    have other := unnamed file member
    refine (makeDirs_keeps _).bind fun _ => ?_
    split
    · exact writeFile_keeps _ other
    · exact storedFiles_keeps.bind fun _ =>
        (Keeps.onlyIf _ (unlink_keeps other)).bind fun _ => Keeps.throw _

theorem agentDeleteMod_keeps {path : Location} {filename subdir : String}
    (unnamed : path ≠ agent.serverDir serverId ++ [subdir, filename])
    : Keeps (FileKept path) (agentDeleteMod agent serverId filename subdir) := by
  refine checkServerId_keeps.bind fun _ => ?_
  split
  · exact Keeps.throw _
  · exact storedFiles_keeps.bind fun _ => (Keeps.refuse _ _).bind fun _ => unlink_keeps unnamed

end Endpoints

end Blockhost
