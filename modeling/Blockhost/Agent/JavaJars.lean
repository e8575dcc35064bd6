import Blockhost.Api.ServerOperations
import Mathlib.Logic.Function.Basic

/-! The jars of an agent's Java servers. A start takes the jar of its version from a directory
that all servers of the node share, or downloads it there, and hands a link to it to the
runtime.
-/

namespace Blockhost.JavaJars

open Library

-- What is asked for

/-- The flavors whose jars can be looked up; a start of another one does not reach the agent.
-/
def hasProvider : ServerFlavor → Bool
  | .javaVanilla | .paper | .purpur => true
  | _ => false

/-- The version that a start of a Java server asks for. -/
def requestedVersion (server : Server) : String :=
  if givenText server.mcVersion then server.mcVersion.getD "" else "1.21.4"

-- The disk of an agent

/-- Where a start is: before its check for the cached jar, before the download, in the download
with its open file, how much it has written and what is still to come, and then before it
cleans up the server's directory, before it links the jar and before the runtime starts.
-/
inductive Phase where
  | asked
  | missing
  | writing (file : Nat) (written : Nat) (rest : Bytes)
  | ready
  | cleaned
  | linked
deriving DecidableEq, Repr

structure StartRequest where
  serverId : Uuid
  flavor : ServerFlavor
  version : String
  phase : Phase := .asked
deriving DecidableEq, Repr

/-- What a start has handed to the runtime: the content of the executable, if there is one. -/
structure Handed where
  flavor : ServerFlavor
  version : String
  executable : Option Bytes
deriving DecidableEq, Repr

/-- Files by number, `java-jars` with the file of each version's name, the links to these names
in the directories of the servers, and the starts under way. A file without a name stays while
it is open.
-/
structure AgentNode where
  files : Nat → Bytes := fun _ => []
  next : Nat := 0
  jars : String → Option Nat := fun _ => none
  links : Uuid → String → Bool := fun _ _ => false
  starts : Nat → Option StartRequest := fun _ => none
  handed : List Handed := []

inductive Event where
  | ask (id : Nat) (server : Server)
  | check (id : Nat)
  | openFile (id : Nat)
  | receive (id : Nat) (size : Nat)
  | endStream (id : Nat)
  | failDownload (id : Nat)
  | clean (id : Nat) (kept : List String)
  | link (id : Nat)
  | hand (id : Nat)
  | raise (id : Nat)
  | crash

/-- Write into a file at an offset; a gap before it is filled with zeros. -/
def writeAt (offset : Nat) (chunk content : Bytes) : Bytes :=
  content.take offset ++ List.replicate (offset - content.length) 0 ++ chunk
    ++ content.drop (offset + chunk.length)

namespace AgentNode

/-- What is under the name of a version in `java-jars`. -/
def jar (version : String) (node : AgentNode) : Option Bytes :=
  (node.jars version).map node.files

/-- What the link `server-{version}.jar` leads to. -/
def executable (serverId : Uuid) (version : String) (node : AgentNode) : Option Bytes :=
  if node.links serverId version then node.jar version else none

def setStart (id : Nat) (start : Option StartRequest) (node : AgentNode) : AgentNode :=
  { node with starts := Function.update node.starts id start }

def setFile (file : Nat) (content : Bytes) (node : AgentNode) : AgentNode :=
  { node with files := Function.update node.files file content }

def setJar (version : String) (file : Option Nat) (node : AgentNode) : AgentNode :=
  { node with jars := Function.update node.jars version file }

def setLinks (serverId : Uuid) (links : String → Bool) (node : AgentNode) : AgentNode :=
  { node with links := Function.update node.links serverId links }

/-- `open(cached_jar_path, "wb")`: the file of that name, emptied, or a new one. -/
def openJar (version : String) (node : AgentNode) : Nat × AgentNode :=
  match node.jars version with
  | some file => (file, node.setFile file [])
  | none =>
      (node.next,
        { (node.setFile node.next []).setJar version (some node.next) with
          next := node.next + 1 })

/-- A start begins, for a server whose jar has an address. -/
def ask (id : Nat) (server : Server) (node : AgentNode) : Option AgentNode :=
  if hasProvider server.flavor ∧ (node.starts id).isNone then
    some (node.setStart id (some
      {
        serverId := server.id,
        flavor := server.flavor,
        version := requestedVersion server
      }))
  else none

/-- `cached_jar_path.exists()` -/
def check (id : Nat) (start : StartRequest) (node : AgentNode) : Option AgentNode :=
  match start.phase with
  | .asked =>
      let found := (node.jars start.version).isSome
      some (node.setStart id
        (some { start with phase := if found then .ready else .missing }))
  | _ => none

/-- The answer to the download begins, with the content of the address. -/
def openFile (release : ServerFlavor → String → Bytes) (id : Nat) (start : StartRequest)
    (node : AgentNode)
    : Option AgentNode :=
  match start.phase with
  | .missing =>
      let opened := node.openJar start.version
      some (opened.2.setStart id
        (some { start with phase := .writing opened.1 0 (release start.flavor start.version) }))
  | _ => none

/-- A next part of the content is written. -/
def receive (id size : Nat) (start : StartRequest) (node : AgentNode) : Option AgentNode :=
  match start.phase with
  | .writing file written rest =>
      let chunk := rest.take size
      some ((node.setFile file (writeAt written chunk (node.files file))).setStart id
        (some
          { start with phase := .writing file (written + chunk.length) (rest.drop size) }))
  | _ => none

/-- The stream ends; without a length in the answer it may do so early. -/
def endStream (id : Nat) (start : StartRequest) (node : AgentNode) : Option AgentNode :=
  match start.phase with
  | .writing .. => some (node.setStart id (some { start with phase := .ready }))
  | _ => none

/-- The download raises: what is under the name is removed and the start refused. -/
def failDownload (id : Nat) (start : StartRequest) (node : AgentNode) : Option AgentNode :=
  match start.phase with
  | .missing | .writing .. => some ((node.setJar start.version none).setStart id none)
  | _ => none

/-- Remove the links in the server's directory, except those that cannot be removed. -/
def clean (id : Nat) (kept : List String) (start : StartRequest) (node : AgentNode)
    : Option AgentNode :=
  match start.phase with
  | .ready =>
      let links := fun version => node.links start.serverId version && version ∈ kept
      some ((node.setLinks start.serverId links).setStart id
        (some { start with phase := .cleaned }))
  | _ => none

/-- Link the jar unless its link leads somewhere; a link that leads nowhere makes the start
fail.
-/
def link (id : Nat) (start : StartRequest) (node : AgentNode) : Option AgentNode :=
  match start.phase with
  | .cleaned =>
      if (node.executable start.serverId start.version).isSome then
        some (node.setStart id (some { start with phase := .linked }))
      else if node.links start.serverId start.version then some (node.setStart id none)
      else
        some ((node.setLinks start.serverId
          (Function.update (node.links start.serverId) start.version true)).setStart id
          (some { start with phase := .linked }))
  | _ => none

def hand (id : Nat) (start : StartRequest) (node : AgentNode) : Option AgentNode :=
  match start.phase with
  | .linked =>
      let executable := node.executable start.serverId start.version
      some { node.setStart id none with
        handed := node.handed ++ [⟨start.flavor, start.version, executable⟩] }
  | _ => none

/-- Anything outside the download raises. -/
def raise (id : Nat) (start : StartRequest) (node : AgentNode) : Option AgentNode :=
  match start.phase with
  | .missing | .writing .. => none
  | _ => some (node.setStart id none)

/-- One event. With a crash of the agent all starts are gone, and the disk stays. -/
def step (release : ServerFlavor → String → Bytes) (node : AgentNode) : Event → Option AgentNode
  | .ask id server => node.ask id server
  | .check id => (node.starts id).bind (fun start => node.check id start)
  | .openFile id => (node.starts id).bind (fun start => node.openFile release id start)
  | .receive id size => (node.starts id).bind (fun start => node.receive id size start)
  | .endStream id => (node.starts id).bind (fun start => node.endStream id start)
  | .failDownload id => (node.starts id).bind (fun start => node.failDownload id start)
  | .clean id kept => (node.starts id).bind (fun start => node.clean id kept start)
  | .link id => (node.starts id).bind (fun start => node.link id start)
  | .hand id => (node.starts id).bind (fun start => node.hand id start)
  | .raise id => (node.starts id).bind (fun start => node.raise id start)
  | .crash => some { node with starts := fun _ => none }

end AgentNode

end Blockhost.JavaJars
