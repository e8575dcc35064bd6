import Blockhost.Api.Schemas
import Blockhost.Orchestrator.BackupPaths

/-! Containment of the world paths in the server's directory. The configured name reaches the
path joins unchecked, so everything depends on where the name leads.
-/

namespace Blockhost

open Library

variable {Content : Type}

/-- A path that lies strictly below a directory once it is resolved. -/
def StrictlyInside (serverDir : Location) (path : RawPath) : Prop :=
  ∃ rest, rest ≠ [] ∧ normalizePath path = serverDir ++ rest

/-- Everything that a backup archives and a restore replaces lies inside. -/
structure WorldPathsContained (tree : FileTree Content) (server : Server)
    (serverDir : Location)
    : Prop where
  archived
    : ∀ entry ∈ includedBackupPaths tree server serverDir (worldName server),
        StrictlyInside serverDir entry.1
  replaced : StrictlyInside serverDir (activeWorldPath tree server serverDir)

/-- Where the configured name leads to something that exists, from the server directory or, for
Bedrock, else from its directory of worlds, that lies inside.
-/
structure WorldNameContained (tree : FileTree Content) (server : Server)
    (serverDir : Location)
    : Prop where
  fromRoot
    : worldName server ≠ ""
      → tree.pathExists (joinPath serverDir (worldName server)) = true
      → StrictlyInside serverDir (joinPath serverDir (worldName server))
  fromWorlds
    : isJavaFlavor server.flavor = false
      → (worldName server = ""
        ∨ tree.pathExists (joinPath serverDir (worldName server)) = false)
      → tree.pathExists (joinPath (serverDir ++ ["worlds"]) (worldName server)) = true
      → StrictlyInside serverDir (joinPath (serverDir ++ ["worlds"]) (worldName server))

theorem requireServerDir_ok {tree : FileTree Content} {serversRoot serverDir : Location}
    {server : Server}
    (required : requireServerDir tree serversRoot server = .ok serverDir)
    : ∃ raw, server.mcConfig.serverDir = some raw
      ∧ serverDir = normalizePath (pathParts raw) := by
  unfold requireServerDir at required
  split at required
  · cases required
  · cases required
  · rename_i raw _ configured
    dsimp only at required
    split at required
    · cases required
    · split at required
      · cases required
        exact ⟨raw, configured, rfl⟩
      · cases required

theorem requireServerDir_plain {tree : FileTree Content} {serversRoot serverDir : Location}
    {server : Server}
    (required : requireServerDir tree serversRoot server = .ok serverDir)
    : ".." ∉ serverDir := by
  obtain ⟨raw, _, rfl⟩ := requireServerDir_ok required
  exact normalizePath_plain _

theorem strictlyInside_child {serverDir : Location} {name : String} (plain : ".." ∉ serverDir)
    (isName : name ≠ "..")
    : StrictlyInside serverDir (serverDir ++ [name]) := by
  have names : ".." ∉ serverDir ++ [name] := by
    simpa [plain] using Ne.symm isName
  exact ⟨[name], List.cons_ne_nil name [], normalizeFrom_of_plain names⟩

theorem resolveExistingWorldPath_java {tree : FileTree Content} {serverDir : RawPath}
    {name : String} {path : RawPath}
    (resolved : resolveExistingWorldPath tree serverDir name true = some path)
    : tree.pathExists path = true
      ∧ (name ≠ "" ∧ path = joinPath serverDir name ∨ path = serverDir ++ ["world"]) := by
  have stored := List.find?_some resolved
  have member := List.mem_of_find?_eq_some resolved
  refine ⟨stored, ?_⟩
  unfold worldCandidates at member
  split at member
  · rename_i named
    simp only [List.singleton_append, if_true, List.mem_cons, List.not_mem_nil, or_false]
      at member
    exact member.imp_left (fun same => ⟨named, same⟩)
  · simp only [List.nil_append, if_true, List.mem_singleton] at member
    exact .inr member

theorem resolveExistingWorldPath_bedrock {tree : FileTree Content} {serverDir : RawPath}
    {name : String} {path : RawPath}
    (resolved : resolveExistingWorldPath tree serverDir name false = some path)
    : tree.pathExists path = true
      ∧ (name ≠ "" ∧ path = joinPath serverDir name
        ∨ (name = "" ∨ tree.pathExists (joinPath serverDir name) = false)
          ∧ path = joinPath (serverDir ++ ["worlds"]) name
        ∨ path = serverDir ++ ["worlds"]) := by
  have stored := List.find?_some resolved
  refine ⟨stored, ?_⟩
  unfold resolveExistingWorldPath worldCandidates at resolved
  split at resolved
  · rename_i named
    simp only [List.singleton_append, List.find?_cons] at resolved
    cases atRoot : tree.pathExists (joinPath serverDir name) with
    | true =>
        rw [atRoot] at resolved
        exact .inl ⟨named, (Option.some.inj resolved).symm⟩
    | false =>
        rw [atRoot] at resolved
        have later : path ∈
            [joinPath (serverDir ++ ["worlds"]) name, serverDir ++ ["worlds"]] :=
          List.mem_of_find?_eq_some (p := tree.pathExists) (by
            simpa [List.find?_cons] using resolved)
        rcases List.mem_cons.mp later with same | last
        · exact .inr (.inl ⟨.inr rfl, same⟩)
        · exact .inr (.inr (List.mem_singleton.mp last))
  · rename_i unnamed
    have member := List.mem_of_find?_eq_some resolved
    simp only [List.nil_append, Bool.false_eq_true, if_false, List.mem_cons, List.not_mem_nil,
      or_false] at member
    rw [not_not] at unnamed
    exact .inr (member.imp_left (fun same => ⟨.inl unnamed, same⟩))

theorem resolveExistingWorldPath_first {tree : FileTree Content} {serverDir : RawPath}
    {name : String} (javaFlavor : Bool) (named : name ≠ "")
    (stored : tree.pathExists (joinPath serverDir name) = true)
    : resolveExistingWorldPath tree serverDir name javaFlavor
      = some (joinPath serverDir name) := by
  unfold resolveExistingWorldPath worldCandidates
  rw [if_pos named, List.singleton_append, List.find?_cons, stored]

theorem resolveExistingWorldPath_worlds {tree : FileTree Content} {serverDir : RawPath}
    {name : String}
    (missing : name = "" ∨ tree.pathExists (joinPath serverDir name) = false)
    (stored : tree.pathExists (joinPath (serverDir ++ ["worlds"]) name) = true)
    : resolveExistingWorldPath tree serverDir name false
      = some (joinPath (serverDir ++ ["worlds"]) name) := by
  unfold resolveExistingWorldPath worldCandidates
  rcases missing with unnamed | absent
  · rw [if_neg (not_not.mpr unnamed)]
    simp [stored]
  · split <;> simp [stored, absent]

theorem includedConfigFiles_inside {tree : FileTree Content} {serverDir : Location}
    (plain : ".." ∉ serverDir) {folder : String} {names : List String}
    (areNames : ".." ∉ names)
    : ∀ entry ∈ includedConfigFiles tree serverDir folder names,
        StrictlyInside serverDir entry.1 := by
  intro entry member
  obtain ⟨name, known, rfl⟩ := List.mem_map.mp member
  have named := List.mem_of_mem_filter known
  exact strictlyInside_child plain (fun parent => areNames (parent ▸ named))

theorem WorldNameContained.resolved {tree : FileTree Content} {server : Server}
    {serverDir : Location} (contained : WorldNameContained tree server serverDir)
    (plain : ".." ∉ serverDir) {path : RawPath}
    (found
      : resolveExistingWorldPath tree serverDir (worldName server)
          (isJavaFlavor server.flavor)
        = some path)
    : StrictlyInside serverDir path := by
  cases flavor : isJavaFlavor server.flavor with
  | true =>
      rw [flavor] at found
      obtain ⟨stored, ⟨named, rfl⟩ | rfl⟩ := resolveExistingWorldPath_java found
      · exact contained.fromRoot named stored
      · exact strictlyInside_child plain (by decide)
  | false =>
      rw [flavor] at found
      obtain ⟨stored, ⟨named, rfl⟩ | ⟨missing, rfl⟩ | rfl⟩ :=
        resolveExistingWorldPath_bedrock found
      · exact contained.fromRoot named stored
      · exact contained.fromWorlds flavor missing stored
      · exact strictlyInside_child plain (by decide)

theorem includedBackupPaths_cases {tree : FileTree Content} {server : Server}
    {serverDir : RawPath} {name : String} {entry : RawPath × RawPath}
    (included : entry ∈ includedBackupPaths tree server serverDir name)
    : resolveExistingWorldPath tree serverDir name (isJavaFlavor server.flavor) = some entry.1
      ∨ entry.1 = serverDir ++ ["worlds"]
      ∨ ∃ folder,
          entry ∈ includedConfigFiles tree serverDir folder javaConfigFiles
          ∨ entry ∈ includedConfigFiles tree serverDir folder bedrockConfigFiles := by
  unfold includedBackupPaths at included
  cases flavor : isJavaFlavor server.flavor with
  | true =>
      rw [if_pos flavor] at included
      rcases List.mem_append.mp included with world | config
      · split at world
        · rename_i path found
          rw [List.mem_singleton.mp world]
          exact .inl found
        · cases world
      · exact .inr (.inr ⟨"java", .inl config⟩)
  | false =>
      rw [if_neg (by rw [flavor]; decide)] at included
      rcases List.mem_append.mp included with world | config
      · split at world
        · rename_i path found
          split at world
          · rw [List.mem_singleton.mp world]
            exact .inr (.inl rfl)
          · rw [List.mem_singleton.mp world]
            exact .inl found
        · split at world
          · rw [List.mem_singleton.mp world]
            exact .inr (.inl rfl)
          · cases world
      · exact .inr (.inr ⟨"bedrock", .inr config⟩)

/-- For every server row, the world paths lie inside the server's directory exactly when the
places that its name leads to do.
-/
theorem world_paths_contained_iff {tree : FileTree Content} {serversRoot serverDir : Location}
    {server : Server}
    (required : requireServerDir tree serversRoot server = .ok serverDir)
    : WorldPathsContained tree server serverDir ↔ WorldNameContained tree server serverDir := by
  have plain := requireServerDir_plain required
  have active
      : activeWorldPath tree server serverDir
        = (resolveExistingWorldPath tree serverDir (worldName server)
            (isJavaFlavor server.flavor)).getD
          (serverDir ++ [if isJavaFlavor server.flavor then "world" else "worlds"]) := by
    unfold activeWorldPath
    cases isJavaFlavor server.flavor <;> rfl
  constructor
  · intro contained
    have replaced := contained.replaced
    rw [active] at replaced
    constructor
    · intro named stored
      rw [resolveExistingWorldPath_first _ named stored] at replaced
      exact replaced
    · intro bedrock missing stored
      rw [bedrock, resolveExistingWorldPath_worlds missing stored] at replaced
      exact replaced
  · intro contained
    constructor
    · intro entry included
      rcases includedBackupPaths_cases included with found | worlds | ⟨folder, java | bedrock⟩
      · exact contained.resolved plain found
      · rw [worlds]
        exact strictlyInside_child plain (by decide)
      · exact includedConfigFiles_inside plain (by decide) entry java
      · exact includedConfigFiles_inside plain (by decide) entry bedrock
    · rw [active]
      cases found : resolveExistingWorldPath tree serverDir (worldName server)
          (isJavaFlavor server.flavor) with
      | some path => exact contained.resolved plain found
      | none =>
          refine strictlyInside_child plain ?_
          split <;> decide

theorem WorldNameContained.of_plain_name {tree : FileTree Content} {serversRoot : Location}
    {server : Server} {serverDir : Location}
    (required : requireServerDir tree serversRoot server = .ok serverDir) {part : String}
    (relative : isAbsolute (worldName server) = false)
    (single : pathParts (worldName server) = [part]) (isName : part ≠ "..")
    : WorldNameContained tree server serverDir := by
  have plain := requireServerDir_plain required
  have worlds : ".." ∉ serverDir ++ ["worlds"] := by simpa using plain
  constructor
  · intro _ _
    rw [joinPath, relative, single, if_neg (by decide)]
    exact strictlyInside_child plain isName
  · intro _ _ _
    obtain ⟨_, _, inside⟩ := strictlyInside_child worlds isName
    rw [joinPath, relative, single, if_neg (by decide)]
    refine ⟨["worlds", part], List.cons_ne_nil _ _, ?_⟩
    have names : ".." ∉ serverDir ++ ["worlds"] ++ [part] := by
      simpa [plain] using Ne.symm isName
    unfold normalizePath
    rw [normalizeFrom_of_plain names]
    simp

private def twoServers : FileTree Unit :=
  ((FileTree.empty.makeDirs ["servers", "a", "world"]).bind
    (fun tree => tree.makeDirs ["servers", "b"])).getD .empty

private def configured (name : String) : Server where
  id := 0
  nodeId := none
  ownerId := 1
  worldName := name
  mcConfig := { serverDir := some "/servers/a" }
  flavor := .paper
  lastActivity := 0

/-- The world paths of a server whose world is called `world` lie inside. -/
theorem plain_world_contained
    : WorldPathsContained twoServers (configured "world") ["servers", "a"] :=
  have required : requireServerDir twoServers ["servers"] (configured "world")
      = .ok ["servers", "a"] := by decide
  (world_paths_contained_iff required).mpr
    (.of_plain_name required (by decide) (by decide : _ = ["world"]) (by decide))

/-- The endpoints accept a world name that leads to the directory of another server. -/
theorem accepted_world_name_escapes
    : ¬ ∀ (tree : FileTree Unit) (serversRoot serverDir : Location) (server : Server)
        (worldName : WorldName) (levelName : Option LevelName),
        server.worldName = worldName.val
        → server.mcConfig.levelName = levelName.map Subtype.val
        → requireServerDir tree serversRoot server = .ok serverDir
        → WorldPathsContained tree server serverDir := by
  intro contained
  obtain ⟨rest, _, inside⟩ :=
    (contained twoServers ["servers"] ["servers", "a"] (configured "../b") ⟨"../b", by decide⟩
      none rfl rfl (by decide)).replaced
  have replaced : normalizePath (activeWorldPath twoServers (configured "../b") ["servers", "a"])
      = ["servers", "b"] := by decide
  rw [replaced] at inside
  simp at inside

end Blockhost
