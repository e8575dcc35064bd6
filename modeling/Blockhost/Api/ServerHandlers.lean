import Blockhost.Orchestrator.ControlPlane

/-! The handlers that start, stop and watch a server: the user's requests, the proxy that wakes
a server on a connection, and the restarts of backup and restore jobs. What a start does to the
files of its node is in `Blockhost.Api.ServerOperations`; here it is one request to an agent.
-/

namespace Blockhost.ControlPlane

open Library

/-- `is_running` of the lifecycle. No server runs on the local runtime, whose starts all fail. -/
def isRunning (router : Router) (serverId : Uuid) : Handler Bool := do
  match ← ask (.route router serverId) with
  | none => pure false
  | some nodeId => ask (.askStatus nodeId serverId)

/-- `start_server` of the lifecycle up to its last commit. The local runtime gets no executable
and raises.
-/
def startServerProcess (router : Router) (serverId : Uuid) : Handler Unit := do
  let _ ← raising (← ask (.checkLaunch serverId))
  match ← ask (.routeStart router serverId) with
  | none => throw .exception
  | some nodeId =>
      if ← ask (.call nodeId (.start serverId)) then ask (.finishStart serverId)
      else throw .exception

/-- `stop_server` of the lifecycle, with the commit of its caller. -/
def stopServerProcess (router : Router) (serverId : Uuid) : Handler Unit := do
  match ← ask (.route router serverId) with
  | none => ask (.suspend serverId)
  | some nodeId =>
      if ← ask (.call nodeId (.stop serverId)) then ask (.suspend serverId)
      else throw .exception

/-- The error of a start without a node. -/
def noCapacity (woken : Bool) : Raised :=
  if woken then
    .http
      ⟨503, "Network is scaling up! A new node is booting. Please wait 60 seconds and try "
        ++ "again."⟩
  else .http ⟨503, "No capacity is currently available. Please try again shortly."⟩

/-- A server without a node looks for one. -/
def findNode (site : Site) (server : Server) : Handler Bool := do
  let assigned ← raising (← ask (.assignNode server))
  if !assigned && site.settings.productionMode then throw (noCapacity (← ask .wakeUpNode))
  pure assigned

/-- The last part of a start, which turns every other exception into an HTTP error. The process
forgets where it has sent the server's requests so far.
-/
def launchServer (router : Router) (server : Server) : Handler Unit :=
  tryCatch
    (do
      ask (.forgetRoute router server.id)
      startServerProcess router server.id)
    (fun failure =>
      match failure with
      | .http error => throw (.http error)
      | _ =>
          throw (.http
            ⟨503, "Failed to start "
              ++ (if isJavaFlavor server.flavor then "Java" else "Bedrock") ++ " process"⟩))

/-- The part of a start after the choice of a node. -/
def prepareAndLaunch (router : Router) (server : Server) : Handler Unit := do
  raising (← ask (.prepare server))
  ask (.touch server.id)
  launchServer router server

/-- `_do_start_server` on the session's copy of a server, which a commit makes fresh. -/
def doStartServer (site : Site) (router : Router) (server : Server) : Handler Unit := do
  let check ← raising (← ask (.checkNode server))
  let assigned ← if check = .stays then pure false else findNode site server
  if check = .detached || assigned then do
    let server ← existing (← ask (.loadServer server.id))
    prepareAndLaunch router server
  else prepareAndLaunch router server

/-- A violated port constraint becomes a conflict. -/
def startOrConflict (site : Site) (server : Server) : Handler Unit :=
  tryCatch (doStartServer site .api server) (fun failure =>
    match failure with
    | .integrity =>
        throw (.http ⟨409, "Port allocation conflict. Please try again in 2 seconds."⟩)
    | other => throw other)

def refreshServerNode (serverId : Uuid) : Handler Unit := do
  let server ← existing (← ask (.loadServer serverId))
  match server.nodeId with
  | none => pure ()
  | some nodeId => ask (.refreshRam nodeId)

/-- Only a server that the database takes for running is asked for. -/
def actuallyRunning (server : Server) : Handler Bool :=
  if server.state = .running then isRunning .api server.id else pure false

def startServer (site : Site) (user : User) (serverId : Uuid) : Handler Unit := do
  let server ← raising (← ask (.serverForUser user serverId "start_stop"))
  if ← actuallyRunning server then pure ()
  else do
    startOrConflict site server
    refreshServerNode serverId

def stopServer (user : User) (serverId : Uuid) : Handler Unit := do
  let server ← raising (← ask (.serverForUser user serverId "start_stop"))
  stopServerProcess .api server.id
  refreshServerNode serverId

def toggleServer (site : Site) (user : User) (serverId : Uuid) : Handler Unit := do
  let server ← raising (← ask (.serverForUser user serverId "start_stop"))
  if ← actuallyRunning server then stopServerProcess .api server.id
  else startOrConflict site server

/-- `_sync_trigger_wakeup` of the game proxy. -/
def triggerWakeup (site : Site) (serverId : Uuid) : Handler Unit := do
  match ← ask (.loadServer serverId) with
  | none => pure ()
  | some server =>
      if server.state = .suspended then doStartServer site .proxy server else pure ()

/-- `wake_server_internal` -/
def wakeServerInternal (site : Site) (serverId : Uuid) : Handler Unit := do
  match ← ask (.loadServer serverId) with
  | none => throw (.http ⟨404, "Server not found"⟩)
  | some server =>
      if server.state = .suspended then doStartServer site .api server else pure ()

/-- The reconciliation of `_compute_server_stats`, on the session's copy of the server. -/
def computeServerStats (serverId : Uuid) : Handler Unit := do
  let server ← existing (← ask (.loadServer serverId))
  let processRunning ← isRunning .api serverId
  if processRunning && (server.state = .suspended || server.state = .created) then
    ask (.reconcileRunning serverId)
  else if !processRunning && server.state = .running then ask (.suspend serverId)
  else pure ()

def restartForJob (serverId : Uuid) : Handler Unit := do
  stopServerProcess .api serverId
  startServerProcess .api serverId

/-- `_provision_minecraft_server` of a resource that has just been paid for. After a failed start
it names a state that does not exist, which raises as well.
-/
def provisionMinecraftServer (serverId : Uuid) : Handler Unit := do
  match ← ask (.loadServer serverId) with
  | none => pure ()
  | some _ => startServerProcess .api serverId

/-- `create_server` -/
def createServerForUser (user : User) (payload : CreateServerRequest) : Handler Unit := do
  raising (← ask (.createServer user payload))

end Blockhost.ControlPlane
