import Blockhost.Agent.ServerFiles
import Blockhost.Library.Run
import Blockhost.Orchestrator.BackupPaths

/-! The operations of the control plane on a server, with the requests to the agent in which they
end. The nodes mount one shared storage, so the files stay where they are when a server changes
its node.
-/

namespace Blockhost

open Library

variable {Content : Type}

/-- The control plane's own disk, the storage of the nodes, the server's row, and how many
provisioning jobs of it wait.
-/
structure Site (Content : Type) where
  control : DiskState Content
  node : DiskState Content
  server : Server
  jobs : Nat := 0

abbrev SiteM (Content : Type) := EStateM HttpError (Site Content)

/-- The agents, the directory in which the control plane prepares servers, and the server that
the requests name.
-/
structure Backend (Content : Type) where
  agent : Agent Content
  serversDir : Location
  id : Uuid

def Backend.serverId (backend : Backend Content) : String := uuidText backend.id

def Backend.controlDir (backend : Backend Content) : Location :=
  backend.serversDir ++ [backend.serverId]

def Backend.nodeDir (backend : Backend Content) : Location :=
  backend.agent.serverDir backend.serverId

def onControl (action : DiskM Content Unit) : SiteM Content Unit := fun site =>
  match action site.control with
  | .ok _ control => .ok () { site with control }
  | .error failure control => .error failure { site with control }

def onNode (action : DiskM Content Unit) : SiteM Content Unit := fun site =>
  match action site.node with
  | .ok _ node => .ok () { site with node }
  | .error failure node => .error failure { site with node }

def requestAgent (action : DiskM Content Unit) : SiteM Content Unit := do
  let site ← get
  onlyIf site.server.nodeId.isSome (onNode action)

def currentServer : SiteM Content Server := do
  return (← get).server

def updateServer (change : Server → Server) : SiteM Content Unit :=
  modify (fun site => { site with server := change site.server })

def setState (state : ServerState) (server : Server) : Server := { server with state }

/-- The answer of checks and services that the files do not depend on. -/
def proceed (answer : Except HttpError Unit) : SiteM Content Unit :=
  match answer with
  | .ok _ => pure ()
  | .error failure => throw failure

structure StartAnswers where
  permission : Except HttpError Unit := .ok ()
  isRunning : Bool := false
  /-- Billing, and the capacity of the nodes. -/
  admission : Except HttpError Unit := .ok ()
  /-- A node for a server that has none, or whose node is dead or full. -/
  newNode : Option Uuid := none
  /-- A port, the address of the jar and the JDK. -/
  requirements : Except HttpError Unit := .ok ()
  port : Nat := 25565
  templateVersion : Option String := none
  properties : List (String × String) := []
  jarUrl : String := ""

def startPayload (server : Server) (answers : StartAnswers) : StartPayload :=
  if isJavaFlavor server.flavor then
    { port := answers.port
      requestedVersion :=
        if givenText server.mcVersion then server.mcVersion else some "1.21.4"
      serverProperties := some answers.properties
      jarDownloadUrl := some answers.jarUrl }
  else
    { port := answers.port
      requestedVersion :=
        if givenText answers.templateVersion then answers.templateVersion
        else some "recommended"
      serverProperties := some answers.properties }

def assignNode (newNode : Option Uuid) : SiteM Content Unit :=
  match newNode with
  | none => pure ()
  | some node =>
      updateServer (fun server => { server with nodeId := some node, state := .provisioning })

def startServerProcess (backend : Backend Content) (server : Server) (answers : StartAnswers)
    : SiteM Content Unit :=
  tryCatch
    (do
      proceed answers.requirements
      refuse server.nodeId.isNone internalError
      requestAgent
        (agentStartServer backend.agent backend.serverId (startPayload server answers)))
    (fun failure =>
      throw ⟨503,
        "Failed to start " ++ (if isJavaFlavor server.flavor then "Java" else "Bedrock")
          ++ " process: " ++ failure.detail⟩)

def doStartServer (backend : Backend Content) (answers : StartAnswers)
    : SiteM Content Unit := do
  proceed answers.admission
  assignNode answers.newNode
  let server ← currentServer
  refuse (isJavaFlavor server.flavor && server.state = .provisioning)
    ⟨409, "Server is still provisioning; check /provision-status and try again"⟩
  startServerProcess backend server answers
  updateServer (setState .running)

def stopServerProcess (backend : Backend Content) : SiteM Content Unit := do
  requestAgent (agentStopServer backend.serverId)
  updateServer (setState .suspended)

def startServer (backend : Backend Content) (answers : StartAnswers)
    : SiteM Content Unit := do
  proceed answers.permission
  let server ← currentServer
  onlyIf (!(server.state = .running && answers.isRunning)) (doStartServer backend answers)

def stopServer (backend : Backend Content) (permission : Except HttpError Unit)
    : SiteM Content Unit := do
  proceed permission
  stopServerProcess backend

def toggleServer (backend : Backend Content) (answers : StartAnswers)
    : SiteM Content Unit := do
  proceed answers.permission
  let server ← currentServer
  if server.state = .running && answers.isRunning then stopServerProcess backend
  else doStartServer backend answers

def switchServerSoftware (backend : Backend Content) (permission : Except HttpError Unit)
    (sanitized : Except HttpError Unit) (target : ServerFlavor) (version : String)
    : SiteM Content Unit := do
  proceed permission
  let server ← currentServer
  refuse (isJavaFlavor server.flavor ≠ isJavaFlavor target)
    ⟨400, "Cross-platform switching (Java <-> Bedrock) is not supported."⟩
  onlyIf (server.state = .running) (requestAgent (agentStopServer backend.serverId))
  if isJavaFlavor target then
    ignoreFailure (requestAgent (agentClearJars backend.agent backend.serverId))
    updateServer (fun server =>
      { server with flavor := target, mcVersion := some version, state := .suspended })
  else
    proceed sanitized
    updateServer (fun server => { server with flavor := target, state := .suspended })

/-- The request only schedules the job. -/
def reprovisionJavaServer (backend : Backend Content) (permission jarUrl : Except HttpError Unit)
    : SiteM Content Unit := do
  proceed permission
  let server ← currentServer
  refuse (!isJavaFlavor server.flavor) ⟨400, "Only Java servers can be reprovisioned"⟩
  refuse (!givenText server.mcVersion) ⟨400, "Server has no mc_version"⟩
  onControl (onDisk (·.makeDirs backend.controlDir))
  proceed jarUrl
  updateServer (setState .provisioning)
  modify (fun site => { site with jobs := site.jobs + 1 })

/-- What a provisioning job downloads and writes, and whether its upload reaches the agent. -/
structure JobAnswers (Content : Type) where
  jar : Except HttpError Content
  properties : List (String × String) := []
  delivery : Except HttpError Unit := .ok ()

/-- The control plane's copy of the server, without the pipe and the logs. -/
def serverArchive (tree : FileTree Content) (dir : Location) : List (Member Content) :=
  collect tree dir ((tree.below dir).filter
    (fun name => !(["stdin.fifo", "logs"].contains (name.head?.getD ""))))

def provisionRemoteJavaServer (backend : Backend Content) (answers : JobAnswers Content)
    : SiteM Content Unit := do
  let site ← get
  let archive := serverArchive site.control.tree backend.controlDir
  proceed answers.delivery
  requestAgent
    (agentProvisionServer backend.agent backend.serverId (.archive archive))

/-- The part of the job on the control plane. -/
def prepareJavaServer (backend : Backend Content) (answers : JobAnswers Content) (dir : Location)
    : DiskM Content Unit := do
  match answers.jar with
  | .error failure => throw failure
  | .ok jar =>
      onDisk (·.makeDirs dir)
      onDisk (·.writeFile (dir ++ ["server.jar"]) jar)
      onDisk (·.writeFile (dir ++ ["eula.txt"]) backend.agent.texts.eula)
      writeServerProperties backend.agent.texts dir answers.properties
      setServerProperty backend.agent.texts dir "online-mode" "false"

def provisionSteps (backend : Backend Content) (answers : JobAnswers Content)
    : SiteM Content Unit := do
  onControl (prepareJavaServer backend answers backend.controlDir)
  updateServer (setState .created)
  provisionRemoteJavaServer backend answers

def runProvisionJob (backend : Backend Content) (answers : JobAnswers Content)
    : SiteM Content Unit := do
  modify (fun site => { site with jobs := site.jobs - 1 })
  tryCatch (provisionSteps backend answers)
    (fun _ => updateServer (setState .suspended))

/-- The background job of a reprovision, when one waits. -/
def provisionJavaServer (backend : Backend Content) (answers : JobAnswers Content)
    : SiteM Content Unit := do
  let site ← get
  onlyIf (0 < site.jobs) (runProvisionJob backend answers)

def syncServerConfig (backend : Backend Content) (delivery : Except HttpError Unit)
    : SiteM Content Unit := do
  let site ← get
  let dir := backend.controlDir
  let files := configFileNames.filterMap (fun name =>
    match site.control.tree.lookup (dir ++ [name]) with
    | some (.file content) => some (name, content)
    | _ => none)
  onlyIf (!files.isEmpty) (do
    proceed delivery
    requestAgent (agentSyncConfig backend.agent backend.serverId files))

def updateServerProperties (backend : Backend Content) (permission : Except HttpError Unit)
    (values : List (String × String))
    : SiteM Content Unit := do
  let blocked := ["server-port", "server-portv6"]
  refuse (values.any (fun value => blocked.contains value.1))
    ⟨400, "Cannot modify protected properties: "
      ++ ", ".intercalate (blocked.filter (fun key => values.any (fun value => value.1 = key)))⟩
  proceed permission
  requestAgent (agentUpdateProperties backend.agent backend.serverId values)

/-- A change of the configuration reaches the agent while the server runs. -/
def updateServerConfigOnNode (backend : Backend Content) (permission : Except HttpError Unit)
    (values : List (String × String))
    : SiteM Content Unit := do
  proceed permission
  let server ← currentServer
  onlyIf (server.state = .running)
    (requestAgent (agentUpdateProperties backend.agent backend.serverId values))

def installSubdir : ServerFlavor → Option String
  | .fabric => some "mods"
  | .paper | .purpur => some "plugins"
  | _ => none

def modsUnsupported : ServerFlavor → HttpError
  | .forge | .neoforge => ⟨400, "coming_soon"⟩
  | _ => ⟨400, "mods_not_supported"⟩

/-- A file that the mod index names for an installation. -/
structure ResolvedMod (Content : Type) where
  url : String
  filename : String
  answer : Except HttpError Content

def ResolvedMod.toModFile (subdir : String) (file : ResolvedMod Content) : ModFile Content where
  url := file.url
  filename := file.filename
  subdir := subdir
  answer := file.answer

/-- The part of an installation after the server is found. -/
def installModOn (backend : Backend Content) (server : Server)
    (resolved : Except HttpError (List (ResolvedMod Content)))
    : SiteM Content Unit :=
  match installSubdir server.flavor with
  | none => throw (modsUnsupported server.flavor)
  | some subdir => do
      refuse (!givenText server.mcVersion)
        ⟨400, "Server has no mc_version; cannot filter Modrinth results"⟩
      match resolved with
      | .error failure => throw failure
      | .ok mods =>
          onlyIf (!mods.isEmpty) (requestAgent
            (agentDownloadMods backend.agent backend.serverId
              (mods.map (ResolvedMod.toModFile subdir))))

/-- Install the files that the mod index gives for a mod and its dependencies. -/
def installMod (backend : Backend Content) (permission : Except HttpError Unit)
    (resolved : Except HttpError (List (ResolvedMod Content)))
    : SiteM Content Unit := do
  proceed permission
  let server ← currentServer
  installModOn backend server resolved

def deleteInstalledModOn (backend : Backend Content) (server : Server) (filename : String)
    : SiteM Content Unit :=
  match installSubdir server.flavor with
  | none => throw (modsUnsupported server.flavor)
  | some subdir => do
      refuse (filename = "." || filename.toList.contains '/') ⟨400, "Invalid filename"⟩
      refuse (!".jar".toList.isSuffixOf filename.toList)
        ⟨400, "Only .jar files can be removed"⟩
      requestAgent (agentDeleteMod backend.agent backend.serverId filename subdir)

def deleteInstalledMod (backend : Backend Content) (permission : Except HttpError Unit)
    (filename : String)
    : SiteM Content Unit := do
  proceed permission
  let server ← currentServer
  deleteInstalledModOn backend server filename

inductive ServerOperation (Content : Type) where
  | start (answers : StartAnswers)
  | stop (permission : Except HttpError Unit)
  | toggle (answers : StartAnswers)
  | switchSoftware (permission sanitized : Except HttpError Unit) (target : ServerFlavor)
    (version : String)
  | reprovision (permission jarUrl : Except HttpError Unit)
  | provisionJob (answers : JobAnswers Content)
  | configSync (delivery : Except HttpError Unit)
  | updateConfig (permission : Except HttpError Unit) (values : List (String × String))
  | updateProperties (permission : Except HttpError Unit) (values : List (String × String))
  | installMod (permission : Except HttpError Unit)
    (resolved : Except HttpError (List (ResolvedMod Content)))
  | deleteMod (permission : Except HttpError Unit) (filename : String)

def performOperation (backend : Backend Content) : ServerOperation Content → SiteM Content Unit
  | .start answers => startServer backend answers
  | .stop permission => stopServer backend permission
  | .toggle answers => toggleServer backend answers
  | .switchSoftware permission sanitized target version =>
      switchServerSoftware backend permission sanitized target version
  | .reprovision permission jarUrl => reprovisionJavaServer backend permission jarUrl
  | .provisionJob answers => provisionJavaServer backend answers
  | .configSync delivery => syncServerConfig backend delivery
  | .updateConfig permission values => updateServerConfigOnNode backend permission values
  | .updateProperties permission values => updateServerProperties backend permission values
  | .installMod permission resolved => installMod backend permission resolved
  | .deleteMod permission filename => deleteInstalledMod backend permission filename

end Blockhost
