import Blockhost.Api.ServersMigration

/-! A cycle of the node rebalancer: the rescue of orphaned servers, one migration at most, and the
shutdown of idle nodes. Here all nodes share their files, so that a migration copies nothing.
-/

namespace Blockhost.ControlPlane

open Library

def startReassigned (site : Site) (serverId : Uuid) : Handler Bool :=
  tryCatch
    (do
      let server ← existing (← ask (.loadServer serverId))
      doStartServer site .api server
      ask (.markMigrated serverId)
      ask .recordMigration
      pure true)
    (fun _ => pure false)

/-- `_migrate_server`. A stop that fails is ignored; a server without a port on its new node stays
where it is.
-/
def rebalanceServer (site : Site) (choice : MigrationChoice) : Handler Bool := do
  let serverId := choice.server.id
  let _ ← ask (.call choice.source.id (.stop serverId))
  ask (.suspend serverId)
  if ← raising (← ask (.reassign serverId choice.target)) then do
    ask (.forgetRoute .api serverId)
    if choice.server.state = .running then startReassigned site serverId
    else do
      ask (.suspend serverId)
      ask (.markMigrated serverId)
      ask .recordMigration
      pure true
  else pure false

/-- The first phase, and whether it has tried a migration. -/
def consolidate (site : Site) (nodes : List Uuid) : Handler Bool := do
  if nodes.length < 2 then pure false
  else if ← ask .mayMigrate then
    match ← ask (.consolidation nodes) with
    | none => pure false
    | some choice => do
        let _ ← rebalanceServer site choice
        pure true
  else pure false

/-- The second phase, and whether it ends the cycle. -/
def relieve (site : Site) (nodes : List Uuid) : Handler Bool := do
  if ← ask .mayMigrate then
    match ← ask (.overflow nodes) with
    | .nothing => pure false
    | .noRoom => do
        let _ ← ask .wakeUpNode
        pure true
    | .migrate choice => do
        let _ ← rebalanceServer site choice
        pure true
  else pure false

/-- The third phase visits the online nodes one by one. -/
def shutDownNodes (allOnline : List Uuid) : List Uuid → Handler Unit
  | [] => pure ()
  | nodeId :: rest => do
      raising (← ask (.shutDown nodeId allOnline))
      shutDownNodes allOnline rest

/-- `_rebalance_cycle` -/
def rebalanceCycle (site : Site) : Handler Unit := do
  match ← ask .healthyNodes with
  | [] => pure ()
  | first :: others => do
      raising (← ask (.rescueOrphans first))
      ask (.rescueDeployments first)
      if ← consolidate site (first :: others) then pure ()
      else if ← relieve site (first :: others) then pure ()
      else do
        let allOnline ← ask .onlineNodes
        shutDownNodes allOnline allOnline

end Blockhost.ControlPlane

/-! The programs of the control plane, as they take turns: the handlers of users, of node agents
and of the workers, and what happens on the nodes by itself.
-/

namespace Blockhost.ControlPlane

open Library

-- Nodes

/-- The messages of an admitted session, up to the one that ends it. -/
def receiveMessages (nodeId : Uuid) : List Received → Handler Unit
  | [] => pure ()
  | received :: later => do
      match ← ask (.heartbeat nodeId received) with
      | .error _ => pure ()
      | .ok () => receiveMessages nodeId later

/-- A session after its first message: a node that was offline halts what it still runs before it
is online. However the session ends, its node is taken for disconnected.
-/
def nodeSession (token : String) (request : RegisterRequest) (messages : List Received)
    : Handler Unit := do
  match ← ask (.admitSession token request) with
  | .error _ => pure ()
  | .ok node => do
      let halted ←
        if node.status = .offline then ask (.call node.id .haltAll) else pure true
      if halted then do
        ask (.completeAdmission request node)
        receiveMessages node.id messages
      else pure ()
  ask (.cleanUp request.nodeName)

def refusing (outcome : Except HttpError Unit) : Handler Unit :=
  match outcome with
  | .error error => throw (.http error)
  | .ok () => pure ()

def drainHandler (nodeId : Uuid) : Handler Unit := do refusing (← ask (.drain nodeId))

def undrainHandler (nodeId : Uuid) : Handler Unit := do refusing (← ask (.undrain nodeId))

-- Payments

/-- A stop whose failure is only logged. -/
def tryStop (serverId : Uuid) : Handler Unit := do
  match ← ask (.route .api serverId) with
  | none => pure ()
  | some nodeId => do
      let _ ← ask (.call nodeId (.stop serverId))

def tryStops : List Uuid → Handler Unit
  | [] => pure ()
  | serverId :: rest => do
      tryStop serverId
      tryStops rest

def sweepSubscriptions : Handler Unit := do
  let overdue ← ask .overdueServers
  tryStops overdue.2
  ask (.sweep overdue.1)

-- All programs

/-- The programs that may take turns. -/
inductive FleetHandler (site : Site) : Handler Unit → Prop where
  | create (user : User) (payload : CreateServerRequest)
      : FleetHandler site (createServerForUser user payload)
  | start (user : User) (serverId : Uuid) : FleetHandler site (startServer site user serverId)
  | stop (user : User) (serverId : Uuid) : FleetHandler site (stopServer user serverId)
  | toggle (user : User) (serverId : Uuid) : FleetHandler site (toggleServer site user serverId)
  | wakeUp (serverId : Uuid) : FleetHandler site (triggerWakeup site serverId)
  | wake (serverId : Uuid) : FleetHandler site (wakeServerInternal site serverId)
  | migrate (user : User) (serverId : Uuid)
      : FleetHandler site (do let _ ← migrateServer site user serverId)
  | stats (serverId : Uuid) : FleetHandler site (computeServerStats serverId)
  | job (serverId : Uuid) : FleetHandler site (restartForJob serverId)
  | provision (serverId : Uuid) : FleetHandler site (provisionMinecraftServer serverId)
  | rebalance : FleetHandler site (rebalanceCycle site)
  | session (token : String) (request : RegisterRequest) (messages : List Received)
      : FleetHandler site (nodeSession token request messages)
  | drain (nodeId : Uuid) : FleetHandler site (drainHandler nodeId)
  | undrain (nodeId : Uuid) : FleetHandler site (undrainHandler nodeId)
  | sweep : FleetHandler site sweepSubscriptions
  | paddle (delivery : PaddleDelivery) : FleetHandler site (ask (.paddle delivery))
  | processEnds (nodeId serverId : Uuid) : FleetHandler site (ask (.endProcess nodeId serverId))
  | requestArrives (index : Nat) : FleetHandler site (ask (.deliver index))

abbrev FleetPool (World : Type) := Pool FleetAction FleetAnswer Raised (Fleet World)

-- A small fleet

def sampleSite : Site where
  functions :=
    { str := fun _ => ""
      strip := id
      parseInt := fun _ => none
      sha256 := id
      parseTime := fun _ => none
      intColumn := fun _ => none
      floatColumn := fun _ => none }

def sampleUser : User where
  id := 7
  email := "owner@example.com"
  authHash := "hash"
  nickname := "owner"

def sampleServer (id nodeId : Uuid) (port : Int) (state : ServerState) : Server where
  id := id
  nodeId := some nodeId
  ownerId := 7
  worldName := "lobby"
  state := state
  vmPort := port
  lastActivity := 0

def samplePlan : BillingPlan where
  id := "pro"
  ramMb := 2048
  cpuLimit := 100
  storageMb := 10240
  playerLimit := 25
  price := 39900
  durationDays := 30

def sampleSubscription (id serverId : Uuid) : BillingSubscription where
  id := id
  userId := 7
  serverId := some serverId
  planId := "pro"
  startsAt := 0
  expiresAt := days 30
  createdAt := 0
  updatedAt := 0

def sampleNode (id : Uuid) (totalRamMb : Int) : Node where
  id := id
  name := "node"
  ipAddress := "10.0.0.1"
  status := .online
  statusUpdatedAt := 0
  totalRamMb := totalRamMb
  lastHeartbeat := some 0

/-- Two online nodes, of which the second one has little memory. -/
def sampleDatabase (servers : Table Server.id) : Database where
  servers := servers
  nodes := ⟨[sampleNode 1 8192, sampleNode 2 3000], by decide⟩
  plans := ⟨[samplePlan], by decide⟩
  subscriptions := ⟨[sampleSubscription 0 0, sampleSubscription 1 5], by decide⟩

/-- Every call is answered, except those at some places. -/
def sampleInputs (refused : List Nat) : Stream' (Outside String) := fun place =>
  { now := 0, reply := if place ∈ refused then .refused else .answered, freshWorld := "new" }

def answeredCalls (_ : FleetAction) : Outside String where
  now := 0
  freshWorld := "new"

end Blockhost.ControlPlane
