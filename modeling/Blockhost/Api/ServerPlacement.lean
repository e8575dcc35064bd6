import Blockhost.Api.PortAllocation
import Blockhost.Api.Servers
import Blockhost.Orchestrator.BackupPaths

/-! The database transactions that give a server its node and its port: creation, start with
failover, and the migration that a user asks for.
-/

namespace Blockhost

open Library

/-- What a handler raises: an HTTP error, a violated constraint of the database, or any other
exception.
-/
inductive Raised where
  | http (error : HttpError)
  | integrity
  | exception
deriving DecidableEq, Repr

def paymentRequired : BillingError → HttpError
  | .subscriptionSuspended =>
      ⟨402, "Subscription is suspended. Renew before starting this server."⟩
  | .subscriptionRequired =>
      ⟨402, "An active subscription is required to start this server. Choose a plan in Billing."⟩
  | _ => ⟨402, "Active subscription has no resource limits. Contact support."⟩

/-- No two servers of one node have the same port. -/
def UniqueNodePorts (servers : Table Server.id) : Prop :=
  servers.rows.Pairwise (fun left right =>
    left.nodeId ≠ none → left.nodeId = right.nodeId → left.vmPort ≠ right.vmPort)

instance (servers : Table Server.id) : Decidable (UniqueNodePorts servers) :=
  inferInstanceAs (Decidable (servers.rows.Pairwise _))

/-- A transaction that violates the constraint is rolled back. -/
def commitServers (next : Database) : Except Raised Database :=
  if UniqueNodePorts next.servers then .ok next else .error .integrity

def detachServer : Change Server.id where
  apply server := { server with nodeId := none, vmIpv4 := none }

def placeServer (node : Node) (port : Int) : Change Server.id where
  apply server :=
    { server with nodeId := some node.id, vmIpv4 := some node.ipAddress, vmPort := port }

/-- Put a server on a node and keep its port. -/
def moveServer (node : Node) : Change Server.id where
  apply server := { server with nodeId := some node.id, vmIpv4 := some node.ipAddress }

def setServerState (state : ServerState) : Change Server.id where
  apply server := { server with state }

def changeServer (serverId : Uuid) (change : Change Server.id) (db : Database) : Database :=
  { db with servers := db.servers.modify serverId change }

theorem get?_changeServer (serverId other : Uuid) (change : Change Server.id) (db : Database)
    : (changeServer serverId change db).servers.get? other
      = if serverId = other then (db.servers.get? other).map change.apply
        else db.servers.get? other := by
  simp only [changeServer, Table.get?_modify, eq_comm]

/-- The memory of the plan that a server needs on its node. -/
def requiredRamMb (settings : Settings) (db : Database) (now : Instant) (serverId : Uuid) : Int :=
  (getEffectiveServerResourceLimits settings db now serverId).ramMb

-- Start with failover

/-- What the first transaction of a start finds out about the node of the server. -/
inductive NodeCheck where
  | stays
  | detached
  | unassigned
deriving DecidableEq, Repr

def nodeIsDead (node : Node) : Bool := node.status = .offline || node.status = .starting

def nodeIsFull (settings : Settings) (db : Database) (now : Instant) (serverId : Uuid)
    (node : Node)
    : Bool :=
  node.totalRamMb - computeNodeAllocatedRamMb settings db now node.id
    < requiredRamMb settings db now serverId

/-- A server leaves a node that is gone, dead or full. The server is the session's copy. -/
def checkStartNode (settings : Settings) (now : Instant) (server : Server) (db : Database)
    : Except Raised (Database × NodeCheck) :=
  match ensureActiveSubscriptionForStart settings db now server.id with
  | .error failure => .error (.http (paymentRequired failure))
  | .ok () =>
      match server.nodeId with
      | none => .ok (db, .unassigned)
      | some nodeId =>
          match db.nodes.get? nodeId with
          | none => .ok (changeServer server.id detachServer db, .detached)
          | some node =>
              if nodeIsDead node || nodeIsFull settings db now server.id node then
                .ok (changeServer server.id detachServer db, .detached)
              else .ok (db, .stays)

/-- The node's memory is computed before the placement is flushed. -/
def assignBestNode (settings : Settings) (now : Instant) (tests : PortTests) (server : Server)
    (db : Database)
    : Except Raised (Database × Bool) :=
  match selectBestNode settings db now (requiredRamMb settings db now server.id) with
  | none => .ok (db, false)
  | some node =>
      match allocatePort settings tests db server.flavor (some node.id) with
      | .error failure =>
          .error (.http ⟨503, "Failed to allocate port on new node: " ++ failure⟩)
      | .ok port =>
          let placed :=
            changeServer server.id (setServerState .provisioning)
              (changeServer server.id (placeServer node port)
                (refreshNodeAllocatedRam settings now node.id db))
          (commitServers placed).map (fun next => (next, true))

/-- The server's directory enters its configuration; a server without a port gets one. -/
def configureServer (serversDir : String) (server : Server) (port : Int) : Change Server.id where
  apply row :=
    { row with
      vmPort := if server.vmPort = 0 then port else row.vmPort
      mcConfig :=
        { server.mcConfig with serverDir := some (serverDirText serversDir server.id) } }

/-- The configuration of a process; `lookedUp` tells whether the version was found. -/
def prepareServerForStart (settings : Settings) (serversDir : String) (tests : PortTests)
    (lookedUp : Bool) (server : Server) (db : Database)
    : Except Raised Database := do
  let java := isJavaFlavor server.flavor
  if java && server.state = .provisioning then
    throw (.http
      ⟨409, "Server is still provisioning; check /provision-status and try again"⟩)
  let port ←
    if server.vmPort = 0 then
      match allocatePort settings tests db server.flavor server.nodeId with
      | .ok port => pure port
      | .error failure =>
          throw (.http
            ⟨503, "Failed to allocate " ++ (if java then "TCP" else "UDP") ++ " port: "
              ++ failure⟩)
    else pure server.vmPort
  if !java && !lookedUp then
    throw (.http ⟨503, "Failed to materialize Bedrock server folder"⟩)
  commitServers (changeServer server.id (configureServer serversDir server port) db)

/-- The checks of `start_server` of the lifecycle; `lookedUp` tells whether the directory lies in
the one that the caller names, and the version and the JDK are found.
-/
def checkLaunch (settings : Settings) (now : Instant) (lookedUp : Bool) (serverId : Uuid)
    (db : Database)
    : Except Raised Server :=
  match db.servers.get? serverId with
  | none => .error .exception
  | some server =>
      match ensureActiveSubscriptionForStart settings db now serverId with
      | .error failure => .error (.http (paymentRequired failure))
      | .ok () =>
          if server.vmPort = 0 || server.mcConfig.serverDir.isNone || !lookedUp then
            .error .exception
          else .ok server

/-- The last transaction of a start. The agent returns the port that it was given. -/
def markRunning (settings : Settings) : Change Server.id where
  apply server :=
    { server with
      state := .running
      vmIpv4 :=
        if server.nodeId.isSome && server.vmIpv4.isSome then server.vmIpv4
        else some settings.minecraftPublicHost }

-- Creation

/-- The node and the port of a new server; the wake-up of a node is committed in any case. -/
def choosePlacement (settings : Settings) (now : Instant) (tests : PortTests)
    (providerStarts : Bool) (flavor : ServerFlavor) (db : Database)
    : Database × Except HttpError (Option Node × Int) :=
  let selected := selectBestNode settings db now 0
  let woken := autoWakeupOfflineNode now providerStarts db
  if selected.isNone && woken.2 then
    (woken.1,
      .error
        ⟨202, "Network is scaling up! A new server node is booting for you. Please wait 60 "
          ++ "seconds and try creating your server again."⟩)
  else if selected.isNone && settings.productionMode then
    (db,
      .error
        ⟨503, "All server nodes are full and no offline nodes are available to scale up."⟩)
  else
    match allocatePort settings tests db flavor (selected.map Node.id) with
    | .error failure =>
        (db,
          .error
            ⟨503, "Failed to allocate " ++ (if flavor = .bedrock then "UDP" else "TCP")
              ++ " port: " ++ failure⟩)
    | .ok port => (db, .ok (selected, port))

/-- `create_server` with the choice of its node and port; the port goes into the new row.
`diskRefusal` is the refusal of the disk guard.
-/
def createPlacedServer (settings : Settings) (serversDir : String) (tests : PortTests)
    (diskRefusal : Option HttpError) (providerStarts : Bool) (now : Instant) (user : User)
    (payload : CreateServerRequest) (db : Database)
    : Database × Except Raised Unit :=
  match diskRefusal with
  | some refusal => (db, .error (.http refusal))
  | none =>
      if serverLimitReached settings db user then
        (db,
          .error (.http
            ⟨403, "Server limit reached (" ++ toString settings.maxServersPerUser
              ++ "). Delete an existing server or contact support."⟩))
      else
        match choosePlacement settings now tests providerStarts payload.flavor db with
        | (next, .error refusal) => (next, .error (.http refusal))
        | (_, .ok (node, port)) =>
            match createServer settings serversDir db now user payload (.ok node) with
            | .error refusal => (db, .error (.http refusal))
            | .ok created =>
                match commitServers
                    (changeServer db.servers.freshKey
                      { apply := fun server => { server with vmPort := port } } created) with
                | .error failure => (db, .error failure)
                | .ok next => (next, .ok ())

-- Migration on demand

/-- Online nodes other than the old one compete with their stored free memory. -/
def chooseMigrationNode (settings : Settings) (db : Database) (now : Instant)
    (serverId oldNode : Uuid)
    : Option Node :=
  let candidates :=
    db.nodes.rows.filter (fun node => node.id ≠ oldNode && node.status = .online)
  (candidates.foldl
    (fun choice node =>
      choice.offer (requiredRamMb settings db now serverId)
        (node.totalRamMb - node.usedRamMb) node)
    ({} : BestNode)).best

/-- The server goes to another node and keeps its port. -/
def moveToMigrationNode (settings : Settings) (now : Instant) (serverId oldNode : Uuid)
    (db : Database)
    : Except Raised (Database × Node) :=
  match chooseMigrationNode settings db now serverId oldNode with
  | none => .error (.http ⟨503, "No other healthy node available for migration."⟩)
  | some node =>
      (commitServers (changeServer serverId (moveServer node) db)).map (fun next => (next, node))

def moveBack (serverId : Uuid) (oldNode : Node) (db : Database) : Except Raised Database :=
  commitServers (changeServer serverId (moveServer oldNode) db)

/-- Migrations of the last hour are counted; a limit of zero or less means none. -/
def canRunMigrationNow (settings : Settings) (now : Instant) (migrationTimes : List Instant)
    : Bool :=
  settings.maxMigrationsPerHour ≤ 0
  || ((migrationTimes.filter (fun time => now - seconds 3600 ≤ time)).length : Int)
    < settings.maxMigrationsPerHour

def serverInMigrationCooldown (settings : Settings) (now : Instant) (server : Server) : Bool :=
  match server.mcConfig.lastMigratedAt with
  | none => false
  | some last =>
      0 < settings.migrationCooldownSeconds
      && now - last < seconds settings.migrationCooldownSeconds

def markServerMigrated (now : Instant) : Change Server.id where
  apply server :=
    { server with mcConfig := { server.mcConfig with lastMigratedAt := some now } }

/-- The guards of a migration; `s3Missing` lists the unset variables of the object storage. -/
def checkMigration (settings : Settings) (now : Instant) (s3Missing : List String)
    (migrationTimes : List Instant) (server : Server)
    : Except Raised Unit := do
  if s3Missing ≠ [] then
    throw (.http
      ⟨503, "S3 is not configured for migrations. Set: " ++ ", ".intercalate s3Missing⟩)
  if !canRunMigrationNow settings now migrationTimes then
    throw (.http ⟨429, "Too many migrations recently. Try again later."⟩)
  if serverInMigrationCooldown settings now server then
    throw (.http
      ⟨429, "This server was migrated recently. Wait for the cooldown before migrating again."⟩)

-- What a transaction commits

theorem commitServers_ok {db next : Database} (committed : commitServers db = .ok next)
    : next = db ∧ UniqueNodePorts db.servers := by
  unfold commitServers at committed
  split at committed
  · rename_i valid
    cases committed
    exact ⟨rfl, valid⟩
  · cases committed

theorem checkStartNode_ok {settings : Settings} {now : Instant} {server : Server}
    {db next : Database} {check : NodeCheck}
    (checked : checkStartNode settings now server db = .ok (next, check))
    : next = db ∧ check = .stays ∧ server.nodeId ≠ none
      ∨ next = db ∧ check = .unassigned ∧ server.nodeId = none
      ∨ next = changeServer server.id detachServer db ∧ check = .detached := by
  unfold checkStartNode at checked
  split at checked
  · cases checked
  · split at checked
    · rename_i unassigned
      cases checked
      exact .inr (.inl ⟨rfl, rfl, unassigned⟩)
    · rename_i assigned
      split at checked
      · cases checked
        exact .inr (.inr ⟨rfl, rfl⟩)
      · split at checked
        · cases checked
          exact .inr (.inr ⟨rfl, rfl⟩)
        · cases checked
          exact .inl ⟨rfl, rfl, by rw [assigned]; exact Option.some_ne_none _⟩

theorem assignBestNode_ok {settings : Settings} {now : Instant} {tests : PortTests}
    {server : Server} {db next : Database} {assigned : Bool}
    (done : assignBestNode settings now tests server db = .ok (next, assigned))
    : (assigned = false ∧ next = db
        ∧ selectBestNode settings db now (requiredRamMb settings db now server.id) = none)
      ∨ ∃ node port, assigned = true
        ∧ selectBestNode settings db now (requiredRamMb settings db now server.id) = some node
        ∧ allocatePort settings tests db server.flavor (some node.id) = .ok port
        ∧ next = changeServer server.id (setServerState .provisioning)
            (changeServer server.id (placeServer node port)
              (refreshNodeAllocatedRam settings now node.id db))
        ∧ UniqueNodePorts next.servers := by
  unfold assignBestNode at done
  split at done
  · rename_i selected
    cases done
    exact .inl ⟨rfl, rfl, selected⟩
  · rename_i node selected
    split at done
    · cases done
    · rename_i port allocated
      dsimp only at done
      cases committed : commitServers (changeServer server.id (setServerState .provisioning)
          (changeServer server.id (placeServer node port)
            (refreshNodeAllocatedRam settings now node.id db))) with
      | error failure =>
          rw [committed] at done
          cases done
      | ok stored =>
          rw [committed] at done
          cases done
          obtain ⟨rfl, valid⟩ := commitServers_ok committed
          exact .inr ⟨node, port, rfl, selected, allocated, rfl, valid⟩

theorem prepareServerForStart_ok {settings : Settings} {serversDir : String}
    {tests : PortTests} {lookedUp : Bool} {server : Server} {db next : Database}
    (prepared : prepareServerForStart settings serversDir tests lookedUp server db = .ok next)
    : ∃ port, (server.vmPort = 0
        → allocatePort settings tests db server.flavor server.nodeId = .ok port)
      ∧ next = changeServer server.id (configureServer serversDir server port) db
      ∧ UniqueNodePorts next.servers := by
  unfold prepareServerForStart at prepared
  simp only [bind, Except.bind, throw, throwThe, MonadExceptOf.throw, pure, Except.pure]
    at prepared
  split at prepared
  · cases prepared
  · split at prepared
    · cases allocated : allocatePort settings tests db server.flavor server.nodeId with
      | error failure =>
          simp only [allocated] at prepared
          cases prepared
      | ok port =>
          simp only [allocated] at prepared
          split at prepared
          · cases prepared
          · obtain ⟨rfl, valid⟩ := commitServers_ok prepared
            exact ⟨port, fun _ => rfl, rfl, valid⟩
    · rename_i given
      split at prepared
      · cases prepared
      · obtain ⟨rfl, valid⟩ := commitServers_ok prepared
        exact ⟨server.vmPort, fun missing => absurd missing given, rfl, valid⟩

theorem moveToMigrationNode_ok {settings : Settings} {now : Instant} {serverId oldId : Uuid}
    {db next : Database} {node : Node}
    (moved : moveToMigrationNode settings now serverId oldId db = .ok (next, node))
    : chooseMigrationNode settings db now serverId oldId = some node
      ∧ next = changeServer serverId (moveServer node) db
      ∧ UniqueNodePorts next.servers := by
  unfold moveToMigrationNode at moved
  cases chosen : chooseMigrationNode settings db now serverId oldId with
  | none =>
      rw [chosen] at moved
      cases moved
  | some best =>
      rw [chosen] at moved
      dsimp only at moved
      cases committed : commitServers (changeServer serverId (moveServer best) db) with
      | error failure =>
          rw [committed] at moved
          cases moved
      | ok stored =>
          rw [committed] at moved
          cases moved
          obtain ⟨rfl, valid⟩ := commitServers_ok committed
          exact ⟨rfl, rfl, valid⟩

theorem chooseMigrationNode_some {settings : Settings} {db : Database} {now : Instant}
    {serverId oldId : Uuid} {node : Node}
    (chosen : chooseMigrationNode settings db now serverId oldId = some node)
    : node ∈ db.nodes.rows ∧ node.id ≠ oldId ∧ node.status = .online := by
  unfold chooseMigrationNode at chosen
  dsimp only at chosen
  have step (choice : BestNode) (node : Node) :=
    (choice.offer_best (requiredRamMb settings db now serverId)
      (node.totalRamMb - node.usedRamMb) node).imp_right (congrArg BestNode.best)
  rcases bestNode_foldl step
      (db.nodes.rows.filter (fun node => node.id ≠ oldId && node.status = .online)) {}
    with none | ⟨best, member, found⟩
  · rw [none] at chosen
    cases chosen
  · rw [found] at chosen
    cases chosen
    obtain ⟨known, test⟩ := List.mem_filter.mp member
    simp only [Bool.and_eq_true, decide_eq_true_eq] at test
    exact ⟨known, test⟩

/-- A creation adds one row, and at most stores the used memory of one node. -/
structure AddsServer (db next : Database) (row : Server) : Prop where
  rows : next.servers.rows = db.servers.rows ++ [row]
  id : row.id = db.servers.freshKey
  state : row.state = .created
  nodes
    : next.nodes = db.nodes
      ∨ ∃ nodeId usedRamMb,
        next.nodes = db.nodes.modify nodeId { apply := fun node => { node with usedRamMb } }

theorem AddsServer.get? {db next : Database} {row stored : Server} {serverId : Uuid}
    (adds : AddsServer db next row) (found : db.servers.get? serverId = some stored)
    : next.servers.get? serverId = some stored := by
  unfold Table.get? at found ⊢
  rw [adds.rows, List.find?_append, found, Option.some_or]

theorem AddsServer.change {db next : Database} {row : Server} (adds : AddsServer db next row)
    (change : Change Server.id) (kept : (change.apply row).state = row.state)
    : AddsServer db (changeServer db.servers.freshKey change next) (change.apply row) where
  rows := by
    unfold changeServer
    rw [Table.rows_modify, adds.rows, List.map_append, List.map_singleton, if_pos adds.id]
    congr 1
    refine (List.map_congr_left ?_).trans (List.map_id _)
    intro other stored
    exact if_neg (Nat.ne_of_lt (db.servers.lt_freshKey stored))
  id := (change.kept row).trans adds.id
  state := kept.trans adds.state
  nodes := adds.nodes

theorem createServer_adds {settings : Settings} {serversDir : String} {db next : Database}
    {now : Instant} {user : User} {payload : CreateServerRequest} {node : Option Node}
    (created : createServer settings serversDir db now user payload (.ok node) = .ok next)
    : next = db ∨ ∃ row, AddsServer db next row ∧ row.nodeId = node.map Node.id
        ∧ row.flavor = payload.flavor := by
  unfold createServer at created
  split at created
  · cases created
  · have added : AddsServer db (addServer serversDir now user payload node db)
        (newServer serversDir now user payload node db.servers.freshKey) :=
      ⟨rfl, rfl, rfl, .inl rfl⟩
    have granted (plan : BillingPlan) := added.change (applyPlanLimitsToServer plan) rfl
    dsimp only at created
    split at created
    · cases created
      exact .inl rfl
    · cases created
      exact .inr ⟨_, ⟨added.rows, added.id, added.state, .inr ⟨_, _, rfl⟩⟩, rfl, rfl⟩
    · rename_i plan _ _
      cases created
      exact .inr ⟨_, ⟨(granted plan).rows, (granted plan).id, rfl, .inl rfl⟩, rfl, rfl⟩
    · rename_i plan _ _ _
      cases created
      exact .inr ⟨_, ⟨(granted plan).rows, (granted plan).id, rfl, .inr ⟨_, _, rfl⟩⟩, rfl, rfl⟩

theorem createPlacedServer_cases {settings : Settings} {serversDir : String}
    {tests : PortTests} {diskRefusal : Option HttpError} {providerStarts : Bool}
    {now : Instant} {user : User} {payload : CreateServerRequest} {db next : Database}
    {answer : Except Raised Unit}
    (done : createPlacedServer settings serversDir tests diskRefusal providerStarts now user
      payload db = (next, answer))
    : next = db
      ∨ next = (autoWakeupOfflineNode now providerStarts db).1
      ∨ ∃ row, AddsServer db next row
        ∧ row.nodeId = (selectBestNode settings db now 0).map Node.id
        ∧ row.flavor = payload.flavor
        ∧ allocatePort settings tests db row.flavor row.nodeId = .ok row.vmPort
        ∧ UniqueNodePorts next.servers := by
  unfold createPlacedServer at done
  split at done
  · cases done
    exact .inl rfl
  · split at done
    · cases done
      exact .inl rfl
    · cases chosen : choosePlacement settings now tests providerStarts payload.flavor db with
      | mk woken placement =>
          simp only [chosen] at done
          cases placement with
          | error refusal =>
              cases done
              unfold choosePlacement at chosen
              dsimp only at chosen
              split at chosen
              · cases chosen
                exact .inr (.inl rfl)
              · split at chosen
                · cases chosen
                  exact .inl rfl
                · split at chosen <;> cases chosen
                  exact .inl rfl
          | ok placed =>
              obtain ⟨node, port⟩ := placed
              obtain ⟨allocated, selected⟩ : allocatePort settings tests db payload.flavor
                  (node.map Node.id) = .ok port ∧ node = selectBestNode settings db now 0 := by
                unfold choosePlacement at chosen
                dsimp only at chosen
                split at chosen
                · cases chosen
                · split at chosen
                  · cases chosen
                  · split at chosen
                    · cases chosen
                    · rename_i found
                      cases chosen
                      exact ⟨found, rfl⟩
              dsimp only at done
              split at done
              · cases done
                exact .inl rfl
              · rename_i created creation
                split at done
                · cases done
                  exact .inl rfl
                · rename_i stored committed
                  cases done
                  obtain ⟨rfl, valid⟩ := commitServers_ok committed
                  rcases createServer_adds creation with rfl | ⟨row, adds, onNode, flavor⟩
                  · refine .inl ?_
                    unfold changeServer
                    rw [Table.modify_absent created.servers.freshKey_notMem]
                  · refine .inr (.inr ⟨_, adds.change
                      { apply := fun server => { server with vmPort := port } } rfl,
                      by rw [← selected]; exact onNode, flavor, ?_, valid⟩)
                    change allocatePort settings tests db row.flavor row.nodeId = .ok port
                    rw [onNode, flavor]
                    exact allocated

end Blockhost
