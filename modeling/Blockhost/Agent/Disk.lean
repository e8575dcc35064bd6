import Blockhost.Database.Identifiers
import Blockhost.Library.Archive

/-! The disk of a node and the file policy of its agent. -/

namespace Blockhost

open Library

/-- The disk below which an agent keeps the directories of its servers. It makes the root
directory when it starts, and only directories lie directly in it.
-/
structure AgentDisk (Content : Type) where
  tree : FileTree Content
  serversRoot : Location
  ready : tree.lookup serversRoot = some .dir
  plain : ∀ name, tree.isFile (serversRoot ++ [name]) = false

def AgentDisk.serverDir {Content : Type} (disk : AgentDisk Content) (serverId : String)
    : Location :=
  disk.serversRoot ++ [serverId]

/-- A server identifier must be an identifier, so it is a single name. -/
def validateServerId (serverId : String) : Bool := (parseUuid serverId).isSome

def allowedRoots : List String :=
  ["world", "world_nether", "world_the_end", "worlds", "mods", "plugins", "config",
    "behavior_packs", "resource_packs", "skin_packs", "world_templates",
    "development_behavior_packs", "development_resource_packs", "development_skin_packs"]

def allowedRootFiles : List String :=
  ["server.properties", "allowlist.json", "permissions.json", "valid_known_packs.json",
    "world_behavior_packs.json", "world_resource_packs.json", "eula.txt", "ops.json",
    "whitelist.json", "banned-players.json", "banned-ips.json"]

/-- What lies inside one of the folders that the file policy opens. -/
def inAllowedRoot : Location → Bool
  | root :: _ :: _ => allowedRoots.contains root
  | _ => false

/-- Names that the extraction takes for a path traversal. -/
def traverses (name : Location) : Bool :=
  (posixText name).head? = some '/' || (posixText name).head? = some '\\'
  || decide (['.', '.'] <:+: posixText name)

theorem AgentDisk.clear {Content : Type} (disk : AgentDisk Content) (serverId : String)
    : disk.tree.Clear (disk.serverDir serverId) := by
  intro path member
  rcases List.prefix_concat_iff.mp ((List.mem_inits _ _).mp member) with same | above
  · rw [same]
    exact disk.plain serverId
  · obtain ⟨rest, whole⟩ := above
    have stored := disk.ready
    rw [Bool.eq_false_iff, ne_eq, FileTree.isFile_eq_true]
    rintro ⟨content, file⟩
    rw [← whole] at stored
    cases rest with
    | nil =>
        rw [List.append_nil, file] at stored
        cases stored
    | cons first later =>
        rw [disk.tree.ancestor_dir (by rw [stored]; simp) (List.cons_ne_nil first later)] at file
        cases file

end Blockhost
