import Blockhost.Database.Identifiers
import Blockhost.Library.Json
import Blockhost.Services.NodePlacement

/-! The token check of a node agent. -/

namespace Blockhost

/-- Comparison of two texts in constant time, which refuses texts beyond ASCII. -/
def compareDigest (left right : String) : Except String Bool :=
  if left.toList.all (·.val < 128) && right.toList.all (·.val < 128) then
    .ok (left = right)
  else .error "comparing strings with non-ASCII characters is not supported"

def verifyNodeAgentToken (sha256 : String → String) (settings : Settings) (node : Node)
    (token : String)
    : Except String Bool :=
  if token = "" then .ok false
  else
    match node.agentTokenHash with
    | none | some "" =>
        if node.approved then compareDigest token settings.workerAgentToken else .ok false
    | some expected => compareDigest (sha256 token) expected

end Blockhost

/-! The WebSocket session of a node agent: registration, heartbeats, and the cleanup that runs
however the session ends.
-/

namespace Blockhost

open Library

/-- Text, hash and column conversions that the session calls. -/
structure SessionFunctions where
  str : Json → String
  strip : String → String
  parseInt : String → Option Int
  sha256 : String → String
  parseTime : String → Option Instant
  intColumn : Json → Option Int
  floatColumn : Json → Option Rat

/-- One connection; `halted` tells whether the agent answers the call to `/agent/halt-all`. -/
structure Connection where
  token : String
  clientHost : Option String := none
  halted : Bool := true

/-- A received text with the time of its arrival; a text that is not JSON has no value. -/
abbrev Received := Instant × Option Json

/-- How the server ends a session by itself. -/
inductive Ending where
  | closed (code : Nat) (reason : String)
  | raised (error : String)
deriving DecidableEq, Repr

structure RegisterRequest where
  nodeName : Json
  nodeIp : String
  nodePort : Int

/-- An early exit, with the node name that the cleanup will see. -/
structure Refusal where
  nodeName : Json
  ending : Ending

def unknownName : Json := .text "unknown"

def resolveNodeIp (functions : SessionFunctions) (connection : Connection)
    (registerData : Fields)
    : String :=
  let reportedIp :=
    functions.strip (functions.str ((registerData.get "ip_address").orElse (.text "")))
  if reportedIp ≠ "" then reportedIp
  else
    match connection.clientHost with
    | none | some "" => "127.0.0.1"
    | some host => host

/-- The exits of the first message that come before any query. -/
def parseRegister (functions : SessionFunctions) (connection : Connection)
    (message : Option Json)
    : Except Refusal RegisterRequest :=
  match message with
  | none => .error ⟨unknownName, .raised "JSONDecodeError"⟩
  | some value =>
      match value.fields? with
      | none => .error ⟨unknownName, .raised "AttributeError"⟩
      | some message =>
          if !(message.get "type").isText "register" then
            .error ⟨unknownName, .closed 4001 "Must register first"⟩
          else
            match ((message.get "data").orElse (.object [])).fields? with
            | none => .error ⟨unknownName, .raised "AttributeError"⟩
            | some registerData =>
                let nodeName := registerData.get "name"
                if !nodeName.truthy then
                  .error ⟨nodeName, .closed 4001 "Missing node name"⟩
                else
                  let agentPort := (registerData.get "agent_port").orElse (.int 9000)
                  match agentPort.toInt functions.parseInt with
                  | .error .overflow => .error ⟨nodeName, .raised "OverflowError"⟩
                  | .error .value => .error ⟨nodeName, .closed 4001 "Invalid agent port"⟩
                  | .ok nodePort =>
                      if nodePort < 1 || nodePort > 65535 then
                        .error ⟨nodeName, .closed 4001 "Invalid agent port"⟩
                      else
                        .ok {
                          nodeName,
                          nodeIp := resolveNodeIp functions connection registerData,
                          nodePort
                        }

def nodeNamed (db : Database) : Json → Except String (Option Node)
  | .text name => .ok (db.nodes.rows.find? (fun node => node.name = name))
  | .null => .ok none
  | _ => .error "ProgrammingError"

def changeNode (nodeId : Uuid) (change : Change Node.id) (db : Database) : Database :=
  { db with nodes := db.nodes.modify nodeId change }

def changeServers (test : Server → Bool) (change : Change Server.id) (db : Database) : Database :=
  { db with servers := db.servers.update (change.when test) }

/-- A node that registers itself is approved and has no token of its own. -/
def newNode (now : Instant) (request : RegisterRequest) (name : String) (id : Uuid) : Node where
  id := id
  name := name
  ipAddress := request.nodeIp
  agentPort := request.nodePort
  statusUpdatedAt := now
  approved := true

def reportAddress (request : RegisterRequest) (node : Node) (db : Database) : Database :=
  let moved :=
    if node.ipAddress = request.nodeIp then db
    else
      changeServers (fun server => server.nodeId = some node.id)
        { apply := fun server => { server with vmIpv4 := some request.nodeIp } } db
  changeNode node.id
    { apply := fun node =>
        { node with ipAddress := request.nodeIp, agentPort := request.nodePort } }
    moved

/-- The node of a session: `committed` is what the database keeps if the session is refused
now, `working` what it gets if the session is admitted.
-/
structure Enrolment where
  committed : Database
  working : Database
  node : Node

def enrolNode (settings : Settings) (now : Instant) (request : RegisterRequest)
    (db : Database)
    : Except Ending Enrolment :=
  match request.nodeName with
  | .text name =>
      match db.nodes.rows.find? (fun node => node.name = name) with
      | some node =>
          .ok { committed := db, working := reportAddress request node db, node }
      | none =>
          if settings.allowAutoNodeRegistration then
            let registered :=
              { db with nodes := db.nodes.create ⟨newNode now request name, fun _ => rfl⟩ }
            .ok {
              committed := registered,
              working := registered,
              node := newNode now request name db.nodes.freshKey
            }
          else .error (.closed 4003 "Node not registered by admin")
  | _ => .error (.raised "ProgrammingError")

def suspendActiveServers (nodeId : Uuid) (except : List Uuid) : Database → Database :=
  changeServers
    (fun server =>
      server.nodeId = some nodeId && server.state.reservesRam && server.id ∉ except)
    suspendServer

def bringOnline (now : Instant) (nodeId : Uuid) : Database → Database :=
  changeNode nodeId
    { apply := fun node =>
        { node with status := .online, statusUpdatedAt := now, lastHeartbeat := some now } }

/-- The checks of an enrolled node. A node that was offline is told to halt what it still runs,
and its servers are suspended.
-/
def admitNode (functions : SessionFunctions) (settings : Settings) (connection : Connection)
    (now : Instant) (enrolment : Enrolment)
    : Except Ending Database :=
  let node := enrolment.node
  match verifyNodeAgentToken functions.sha256 settings node connection.token with
  | .error error => .error (.raised error)
  | .ok false => .error (.closed 1008 "Invalid token")
  | .ok true =>
      if !node.approved then .error (.closed 4003 "Node not approved")
      else if node.status = .offline && !connection.halted then
        .error (.closed 4003 "Split-brain recovery failed")
      else
        let recovered :=
          if node.status = .offline then suspendActiveServers node.id [] enrolment.working
          else enrolment.working
        .ok (refreshNodeAllocatedRam settings now node.id (bringOnline now node.id recovered))

/-- What the first message leads to: the committed database, the node name that the cleanup
will see, and the node of the session or the exit.
-/
structure Registration where
  db : Database
  nodeName : Json
  outcome : Except Ending Uuid

def registerSession (functions : SessionFunctions) (settings : Settings)
    (connection : Connection) (first : Received) (db : Database)
    : Registration :=
  match parseRegister functions connection first.2 with
  | .error refusal => ⟨db, refusal.nodeName, .error refusal.ending⟩
  | .ok request =>
      match enrolNode settings first.1 request db with
      | .error ending => ⟨db, request.nodeName, .error ending⟩
      | .ok enrolment =>
          match admitNode functions settings connection first.1 enrolment with
          | .error ending => ⟨enrolment.committed, request.nodeName, .error ending⟩
          | .ok next => ⟨next, request.nodeName, .ok enrolment.node.id⟩

def require (fields : Fields) (name : String) : Except String Json :=
  match fields.lookup? name with
  | none => .error "KeyError"
  | some value => .ok value

def store {Value : Type} (column : Json → Option Value) (value : Json) : Except String Value :=
  match column value with
  | none => .error "DataError"
  | some stored => .ok stored

def entries (fields : Fields) (name : String) : Except String Fields :=
  match (fields.lookup? name).getD (.object []) with
  | .object inner => .ok inner
  | _ => .error "AttributeError"

def reportPlayers (functions : SessionFunctions) (now : Instant) (db : Database)
    (report : String × Json)
    : Except String Database :=
  match parseUuid report.1 with
  | none => .ok db
  | some serverId =>
      match report.2.positive? with
      | none => .error "TypeError"
      | some true => do
          let count ← store functions.intColumn report.2
          .ok (changeServers (fun server => server.id = serverId)
            { apply := fun server =>
                { server with playersOnline := count, lastActivity := now } } db)
      | some false =>
          .ok (changeServers (fun server => server.id = serverId)
            { apply := fun server => { server with playersOnline := 0 } } db)

/-- The health of a deployment; two kinds of trouble are also states. -/
def applyHealth (status : Json) (deployment : AppDeployment) : AppDeployment :=
  match status with
  | .text "healthy" => { deployment with healthStatus := .healthy }
  | .text "unhealthy" => { deployment with healthStatus := .unhealthy }
  | .text "crash_loop" => { deployment with healthStatus := .crashLoop, state := .crashLoop }
  | .text "quota_exceeded" =>
      { deployment with healthStatus := .quotaExceeded, state := .quotaExceeded }
  | _ => deployment

theorem applyHealth_id (status : Json) (deployment : AppDeployment)
    : (applyHealth status deployment).id = deployment.id := by
  unfold applyHealth
  split <;> rfl

/-- The time of the last healthy probe, if the agent reports one that can be read. -/
def lastHealthyAt (functions : SessionFunctions) (health : Fields) (previous : Option Instant)
    : Option Instant :=
  match health.get "last_healthy_at" with
  | .text time =>
      if time = "" then previous else (functions.parseTime time).or previous
  | _ => previous

/-- Reports about unknown deployments, deployments of other nodes and reports that are no
objects are skipped.
-/
def reportDeployment (functions : SessionFunctions) (nodeId : Uuid) (db : Database)
    (report : String × Json)
    : Except String Database :=
  match (parseUuid report.1).bind db.appDeployments.get?, report.2.fields? with
  | some deployment, some health =>
      if deployment.nodeId = some nodeId then do
        let restartCount ←
          store functions.intColumn ((health.lookup? "restart_count").getD (.int 0))
        let change (deployment : AppDeployment) : AppDeployment :=
          { applyHealth (health.get "status") deployment with
            restartCount
            lastHealthyAt := lastHealthyAt functions health deployment.lastHealthyAt }
        .ok { db with
          appDeployments :=
            db.appDeployments.modify deployment.id ⟨change, applyHealth_id _⟩ }
      else .ok db
  | _, _ => .ok db

/-- The servers that the agent reports: those with a readable identifier. -/
def reportedServers (reports : Fields) : List Uuid :=
  reports.filterMap (fun report => parseUuid report.1)

/-- Apply the statistics of one heartbeat; an error leaves nothing committed. -/
def applyHeartbeat (functions : SessionFunctions) (settings : Settings) (now : Instant)
    (nodeId : Uuid) (stats : Fields) (db : Database)
    : Except String Database := do
  let totalRamMb ← store functions.intColumn (← require stats "total_ram_mb")
  let cpuUsagePercent ← store functions.floatColumn (← require stats "cpu_usage_percent")
  let cpuCores ← store functions.floatColumn (← require stats "cpu_cores")
  let measured :=
    changeNode nodeId
      { apply := fun node =>
          { node with totalRamMb, cpuUsagePercent, cpuCores, lastHeartbeat := some now } }
      db
  let emptied :=
    changeServers (fun server => server.nodeId = some nodeId)
      { apply := fun server => { server with playersOnline := 0 } } measured
  let running ←
    if ((stats.lookup? "running_servers").getD (.object [])).truthy then
      entries stats "running_servers"
    else .ok []
  let counted ← running.foldlM (reportPlayers functions now) emptied
  let reconciled := suspendActiveServers nodeId (reportedServers running) counted
  let refreshed := refreshNodeAllocatedRam settings now nodeId reconciled
  (← entries stats "deployment_health").foldlM (reportDeployment functions nodeId) refreshed

/-- Every message after the first one. Only heartbeats count, and only while the node exists and
is not offline.
-/
def receiveMessage (functions : SessionFunctions) (settings : Settings) (nodeId : Uuid)
    (received : Received) (db : Database)
    : Except Ending Database :=
  match received.2.map Json.fields? with
  | none => .error (.raised "JSONDecodeError")
  | some none => .error (.raised "TypeError")
  | some (some message) =>
      match message.lookup? "type" with
      | none => .error (.raised "KeyError")
      | some kind =>
          if !kind.isText "heartbeat" then .ok db
          else
            match message.lookup? "data", db.nodes.get? nodeId with
            | none, _ => .error (.raised "KeyError")
            | some _, none => .ok db
            | some data, some node =>
                if node.status = .offline then .error (.closed 4002 "Node marked offline")
                else
                  match data.fields? with
                  | none => .error (.raised "TypeError")
                  | some stats =>
                      match applyHeartbeat functions settings received.1 nodeId stats db with
                      | .error error => .error (.raised error)
                      | .ok next => .ok next

/-- The messages of an admitted session, up to the one that ends it. -/
def serveSession (functions : SessionFunctions) (settings : Settings) (nodeId : Uuid)
    : List Received → Database → Database
  | [], db => db
  | received :: later, db =>
      match receiveMessage functions settings nodeId received db with
      | .error _ => db
      | .ok next => serveSession functions settings nodeId later next

/-- The cleanup of every session that was accepted. It looks its node up by the name in force,
and commits nothing when the failover raises.
-/
def cleanUpSession (nodeName : Json) (db : Database) : Database :=
  match nodeNamed db nodeName with
  | .ok (some node) =>
      match suspendRunningServersOnNode db node.id with
      | .ok _ =>
          changeNode node.id { apply := fun node => { node with status := .offline } } db
      | .error _ => db
  | _ => db

/-- A whole session: after its last message the agent disconnects. -/
def nodeAgentWebsocket (functions : SessionFunctions) (settings : Settings)
    (connection : Connection) (messages : List Received) (db : Database)
    : Database :=
  if connection.token = "" then db
  else
    match messages with
    | [] => cleanUpSession unknownName db
    | first :: later =>
        let registration := registerSession functions settings connection first db
        cleanUpSession registration.nodeName
          (match registration.outcome with
            | .error _ => registration.db
            | .ok nodeId => serveSession functions settings nodeId later registration.db)

end Blockhost
