import Blockhost.Agent.Disk
import Blockhost.Api.Schemas
import Blockhost.Library.RawPath
import Blockhost.Library.Result

/-! The endpoints of an agent that change a server's directory. Every step on the disk may fail,
and a failed endpoint leaves what its earlier steps have done.
-/

namespace Blockhost

open Library

variable {Content : Type}

/-- A disk, and which of the coming steps on it fail. -/
structure DiskState (Content : Type) where
  tree : FileTree Content
  faults : List Bool := []

abbrev DiskM (Content : Type) := EStateM HttpError (DiskState Content)

/-- One step on the disk. An operating system error is an unhandled exception. -/
def onDisk (operation : FileTree Content → Option (FileTree Content)) : DiskM Content Unit :=
  fun state =>
    match state.faults with
    | true :: faults => .error internalError { state with faults }
    | faults =>
        match operation state.tree with
        | none => .error internalError { state with faults := faults.tail }
        | some tree => .ok () { tree, faults := faults.tail }

def aside : DiskM Content Unit := onDisk some

def storedFiles : DiskM Content (FileTree Content) := do
  return (← get).tree

def readText (path : Location) : DiskM Content Content := do
  match (← storedFiles).lookup path with
  | some (.file content) => return content
  | _ => throw internalError

/-- Create something where nothing is stored yet. -/
def createMissing (path : RawPath) (content : Content) (tree : FileTree Content)
    : Option (FileTree Content) :=
  if tree.pathExists path then some tree
  else (tree.locate path).bind (fun place => tree.writeFile place content)

/-- Contents that the programs write on their own; the text of a properties file with one key
set depends on the text before.
-/
structure ServerTexts (Content : Type) where
  blank : Content
  eula : Content
  fifo : Content
  link : String → Content
  properties : List (String × String) → Content
  withProperty : String → String → Content → Content
  isEmpty : Content → Bool

/-- `set_java_server_property` and `set_bedrock_server_property`, which do the same. -/
def setServerProperty (texts : ServerTexts Content) (dir : Location) (key value : String)
    : DiskM Content Unit := do
  let path := dir ++ ["server.properties"]
  onDisk (·.makeDirs dir)
  let tree ← storedFiles
  onlyIf (!tree.exists? path) (onDisk (·.writeFile path texts.blank))
  let text ← readText path
  onDisk (·.copyFile path (dir ++ ["server.properties.bak"]))
  onDisk (·.writeFile (dir ++ ["server.tmp"]) (texts.withProperty key value text))
  onDisk (·.rename (dir ++ ["server.tmp"]) path)

def writeServerProperties (texts : ServerTexts Content) (dir : Location)
    (values : List (String × String))
    : DiskM Content Unit := do
  let path := dir ++ ["server.properties"]
  onDisk (·.makeDirs dir)
  let tree ← storedFiles
  onlyIf (tree.exists? path) (onDisk (·.copyFile path (dir ++ ["server.properties.bak"])))
  onDisk (·.writeFile (dir ++ ["server.tmp"]) (texts.properties values))
  onDisk (·.rename (dir ++ ["server.tmp"]) path)

/-- An entry of the directory of an installed Bedrock version. -/
inductive VersionAsset (Content : Type) where
  | folder
  | binary
  | plain (content : Content)

/-- An agent with its installed versions; a version that is missing is downloaded, which may
fail.
-/
structure Agent (Content : Type) where
  serversRoot : Location
  texts : ServerTexts Content
  versionAssets : String → Except HttpError (List (String × VersionAsset Content))

def Agent.serverDir (agent : Agent Content) (serverId : String) : Location :=
  agent.serversRoot ++ [serverId]

def checkServerId (serverId : String) : DiskM Content Unit :=
  refuse (!validateServerId serverId) ⟨400, "Invalid server ID format"⟩

/-- `server-*.jar` in the server's directory itself. -/
def isServerJar : Location → Bool
  | [name] =>
      "server-".toList.isPrefixOf name.toList && ".jar".toList.isSuffixOf name.toList
  | _ => false

/-- Remove the server's jars, as far as they can be removed. -/
def unlinkServerJars (dir : Location) : DiskM Content Unit := do
  let tree ← storedFiles
  ((tree.below dir).filter isServerJar).forM
    (fun name => ignoreFailure (onDisk (·.unlink (dir ++ name))))

structure StartPayload where
  port : Nat
  requestedVersion : Option String := none
  executablePath : Option String := none
  serverProperties : Option (List (String × String)) := none
  jarDownloadUrl : Option String := none

/-- `bool(text)` of an optional text. -/
def givenText : Option String → Bool
  | none | some "" => false
  | some _ => true

def StartPayload.isJava (payload : StartPayload) : Bool :=
  givenText payload.jarDownloadUrl
  || (payload.executablePath.getD "").endsWith ".jar"

/-- A first start writes the properties of the request, a later one only sets the ports. -/
def writeStartProperties (agent : Agent Content) (dir : Location) (payload : StartPayload)
    : DiskM Content Unit := do
  match payload.serverProperties with
  | none => pure ()
  | some values =>
      let path := dir ++ ["server.properties"]
      if (← storedFiles).exists? path then
        setServerProperty agent.texts dir "server-port" (toString payload.port)
        onlyIf (!payload.isJava)
          (setServerProperty agent.texts dir "server-portv6" (toString (payload.port + 1)))
      else onDisk (·.writeFile path (agent.texts.properties values))

/-- Accept the licence and link the requested jar, or check the given executable. -/
def prepareJavaStart (agent : Agent Content) (dir : Location) (payload : StartPayload)
    : DiskM Content Unit := do
  onDisk (·.writeFile (dir ++ ["eula.txt"]) agent.texts.eula)
  if givenText payload.jarDownloadUrl then
    let version :=
      if givenText payload.requestedVersion then payload.requestedVersion.getD ""
      else "latest"
    -- The jar is in the cache of the agent or is downloaded into it.
    aside
    unlinkServerJars dir
    onDisk (createMissing (joinPath dir ("server-" ++ version ++ ".jar"))
      (agent.texts.link version))
  else
    let tree ← storedFiles
    let executable := pathParts (payload.executablePath.getD "")
    refuse (!(givenText payload.executablePath && (tree.locate executable).any tree.isFile))
      ⟨404, "Java executable not found on agent"⟩

/-- Link or copy one asset unless something with its name is there. -/
def linkAsset (agent : Agent Content) (dir : Location) (asset : String × VersionAsset Content)
    : DiskM Content Unit :=
  onlyIf (!".blockhost".toList.isPrefixOf asset.1.toList)
    (ignoreFailure (onDisk (createMissing (dir ++ [asset.1])
      (match asset.2 with
        | .plain content => content
        | _ => agent.texts.link asset.1))))

def ensureServerLayout (agent : Agent Content) (dir : Location) (version : String)
    : DiskM Content Unit := do
  match agent.versionAssets version with
  | .error failure => throw failure
  | .ok assets =>
      onDisk (·.makeDirs dir)
      assets.forM (linkAsset agent dir)

def prepareBedrockStart (agent : Agent Content) (dir : Location) (payload : StartPayload)
    : DiskM Content Unit := do
  let version := (payload.requestedVersion.getD "").trimAscii.toString
  refuse (version = "") ⟨400, "requested_version is required on agent"⟩
  ensureServerLayout agent dir version

def prepareStart (agent : Agent Content) (dir : Location) (payload : StartPayload)
    : DiskM Content Unit :=
  if payload.isJava then prepareJavaStart agent dir payload
  else prepareBedrockStart agent dir payload

def agentStartServer (agent : Agent Content) (serverId : String) (payload : StartPayload)
    : DiskM Content Unit := do
  let dir := agent.serverDir serverId
  checkServerId serverId
  onDisk (·.makeDirs dir)
  writeStartProperties agent dir payload
  prepareStart agent dir payload
  -- The runtime ends an old process, makes the pipe of the console and starts the unit.
  aside
  onDisk (createMissing (dir ++ ["stdin.fifo"]) agent.texts.fifo)
  aside

def agentStopServer (serverId : String) : DiskM Content Unit := do
  checkServerId serverId
  aside

def agentClearJars (agent : Agent Content) (serverId : String) : DiskM Content Unit := do
  checkServerId serverId
  unlinkServerJars (agent.serverDir serverId)

def configFileNames : List String := ["server.properties", "allowlist.json", "permissions.json"]

/-- Uploaded configuration files go straight into the server's directory. -/
def agentSyncConfig (agent : Agent Content) (serverId : String)
    (uploads : List (String × Content))
    : DiskM Content Unit := do
  let dir := agent.serverDir serverId
  let written := uploads.filter
    (fun upload => configFileNames.contains upload.1 && !agent.texts.isEmpty upload.2)
  checkServerId serverId
  onDisk (·.makeDirs dir)
  written.forM (fun upload => onDisk (·.writeFile (dir ++ [upload.1]) upload.2))
  refuse written.isEmpty ⟨400, "No config files provided"⟩

def agentUpdateProperties (agent : Agent Content) (serverId : String)
    (values : List (String × String))
    : DiskM Content Unit := do
  checkServerId serverId
  let dir := agent.serverDir serverId
  values.forM (fun value => setServerProperty agent.texts dir value.1 value.2)

inductive Upload (Content : Type) where
  | empty
  | broken
  | archive (members : List (Member Content))

/-- `rmtree(ignore_errors=True)` -/
def wipe (dir : Location) : DiskM Content Unit :=
  modify (fun state => { state with tree := state.tree.remove dir })

/-- Extract an upload; a failure wipes the directory once more. -/
def unpackUpload (dir : Location) : Upload Content → DiskM Content Unit
  | .archive members =>
      tryCatch
        (onDisk (extract dir (members.filter (fun member => !traverses member.1))))
        (fun failure => do
          wipe dir
          throw ⟨500, "Provisioning failed: " ++ failure.detail⟩)
  | _ => do
      wipe dir
      throw ⟨400, "Invalid tar archive"⟩

/-- Replace the server's directory by an uploaded archive. -/
def agentProvisionServer (agent : Agent Content) (serverId : String) (upload : Upload Content)
    : DiskM Content Unit := do
  let dir := agent.serverDir serverId
  checkServerId serverId
  refuse (match upload with | .empty => true | _ => false) ⟨400, "Empty file uploaded"⟩
  wipe dir
  onDisk (·.makeDirs dir)
  unpackUpload dir upload

def allowedModSubdirs : List String := ["mods", "plugins"]

/-- A mod to download, and what the network answers for it. -/
structure ModFile (Content : Type) where
  url : String
  filename : String
  subdir : String
  answer : Except HttpError Content

/-- `repr` of a text; every character beyond ASCII counts as printable. -/
def pyRepr (text : String) : String :=
  let letters := text.toList
  let (single, double) := (Char.ofNat 39, Char.ofNat 34)
  let quote := if letters.contains single && !letters.contains double then double else single
  let shown (letter : Char) : List Char :=
    if letter = quote || letter = '\\' then ['\\', letter]
    else if letter = '\n' then ['\\', 'n']
    else if letter = '\r' then ['\\', 'r']
    else if letter = '\t' then ['\\', 't']
    else if letter.toNat < 32 || letter.toNat = 127 then
      ['\\', 'x', Nat.digitChar (letter.toNat / 16), Nat.digitChar (letter.toNat % 16)]
    else [letter]
  String.ofList ([quote] ++ letters.flatMap shown ++ [quote])

def modSubdirError (subdir : String) : Option HttpError :=
  if allowedModSubdirs.contains subdir then none
  else some ⟨400, "Invalid subdir " ++ pyRepr subdir ++ ". Allowed: ['mods', 'plugins']"⟩

def modFilenameError (filename : String) : Option HttpError :=
  if filename = "." || filename.toList.contains '/' then
    some ⟨400, "Filename must not contain path separators"⟩
  else if !".jar".toList.isSuffixOf filename.toList then
    some ⟨400, "Only .jar files are permitted"⟩
  else if filename.toList.head? = some '.' then some ⟨400, "Invalid filename"⟩
  else none

def modUrlError (url : String) : Option HttpError :=
  if "https://cdn.modrinth.com/".toList.isPrefixOf url.toList then none
  else some ⟨400, "URL must start with 'https://cdn.modrinth.com/' (SSRF guard)"⟩

def modFileError (file : ModFile Content) : Option HttpError :=
  (modUrlError file.url <|> modFilenameError file.filename) <|> modSubdirError file.subdir

/-- Download one mod over what has its name; a failed download leaves nothing under the name. -/
def downloadMod (dir : Location) (file : ModFile Content) : DiskM Content Unit := do
  let path := dir ++ [file.subdir, file.filename]
  onDisk (·.makeDirs (dir ++ [file.subdir]))
  match file.answer with
  | .ok content => onDisk (·.writeFile path content)
  | .error failure =>
      let tree ← storedFiles
      onlyIf (tree.exists? path) (onDisk (·.unlink path))
      throw failure

def agentDownloadMods (agent : Agent Content) (serverId : String)
    (files : List (ModFile Content))
    : DiskM Content Unit := do
  checkServerId serverId
  match files.findSome? modFileError with
  | some failure => throw failure
  | none => files.forM (downloadMod (agent.serverDir serverId))

def agentDeleteMod (agent : Agent Content) (serverId filename subdir : String)
    : DiskM Content Unit := do
  checkServerId serverId
  match modSubdirError subdir <|> modFilenameError filename with
  | some failure => throw failure
  | none =>
      let path := agent.serverDir serverId ++ [subdir, filename]
      let tree ← storedFiles
      refuse (!tree.exists? path) ⟨404, "Mod " ++ pyRepr filename ++ " not found"⟩
      onDisk (·.unlink path)

end Blockhost
