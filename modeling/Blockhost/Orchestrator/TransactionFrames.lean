import Blockhost.Orchestrator.ControlPlaneRuns

/-! What the transactions of the control plane leave alone: few of them write the node, the port
or the running state of a server, or register a node.
-/

namespace Blockhost.ControlPlane

open Library

-- Servers

/-- A row keeps its node, its port and its flavor, and does not become running. -/
structure CalmRow (before after : Server) : Prop where
  node : after.nodeId = before.nodeId
  port : after.vmPort = before.vmPort
  flavor : after.flavor = before.flavor
  running : after.state = .running → before.state = .running

theorem CalmRow.refl (row : Server) : CalmRow row row := ⟨rfl, rfl, rfl, id⟩

theorem CalmRow.trans {first second third : Server} (left : CalmRow first second)
    (right : CalmRow second third)
    : CalmRow first third where
  node := right.node.trans left.node
  port := right.port.trans left.port
  flavor := right.flavor.trans left.flavor
  running live := left.running (right.running live)

/-- Every row of the servers is rewritten so, and none is added or removed. -/
def CalmServers (db next : Database) : Prop :=
  ∃ change : Change Server.id, next.servers = db.servers.update change
    ∧ ∀ row, CalmRow row (change.apply row)

namespace CalmServers

variable {db middle next : Database}

theorem of_same (same : next.servers = db.servers) : CalmServers db next := by
  refine ⟨⟨id, fun _ => rfl⟩, ?_, CalmRow.refl⟩
  rw [same]
  cases table : db.servers with
  | mk rows unique => simp [Table.update]

theorem trans (first : CalmServers db middle) (second : CalmServers middle next)
    : CalmServers db next := by
  obtain ⟨left, leftSame, leftCalm⟩ := first
  obtain ⟨right, rightSame, rightCalm⟩ := second
  refine ⟨⟨fun row => right.apply (left.apply row), fun row => ?_⟩, ?_,
    fun row => (leftCalm row).trans (rightCalm (left.apply row))⟩
  · rw [right.kept, left.kept]
  · rw [rightSame, leftSame]
    simp [Table.update]

theorem when {change : Change Server.id} (calm : ∀ row, CalmRow row (change.apply row))
    {test : Server → Bool} (same : next.servers = db.servers.update (change.when test))
    : CalmServers db next := by
  refine ⟨_, same, fun row => ?_⟩
  unfold Change.when
  dsimp only
  split
  · exact calm row
  · exact .refl row

theorem modify {change : Change Server.id} (calm : ∀ row, CalmRow row (change.apply row))
    (changed : Uuid) (same : next.servers = db.servers.modify changed change)
    : CalmServers db next := by
  refine ⟨_, same, fun row => ?_⟩
  unfold Change.at
  dsimp only
  split
  · exact calm row
  · exact .refl row

theorem changeServer {change : Change Server.id}
    (calm : ∀ row, CalmRow row (change.apply row)) (changed : Uuid) (db : Database)
    : CalmServers db (changeServer changed change db) :=
  modify calm changed rfl

theorem home (calm : CalmServers db next) (serverId : Uuid)
    : serverNode next serverId = serverNode db serverId := by
  obtain ⟨change, same, calm⟩ := calm
  unfold serverNode
  rw [same, Table.get?_update]
  cases db.servers.get? serverId with
  | none => rfl
  | some row => exact (calm row).node

end CalmServers

-- Nodes

def connected (node : Node) : Bool := node.status = .online || node.status = .draining

def registered (db : Database) (nodeId : Uuid) : Bool := (db.nodes.get? nodeId).any connected

def NodesStay (db next : Database) : Prop :=
  ∀ nodeId, registered next nodeId = true → registered db nodeId = true

namespace NodesStay

variable {db middle next : Database}

theorem of_same (same : next.nodes = db.nodes) : NodesStay db next := by
  intro nodeId present
  unfold registered at present ⊢
  rw [← same]
  exact present

theorem trans (first : NodesStay db middle) (second : NodesStay middle next)
    : NodesStay db next :=
  fun nodeId present => first nodeId (second nodeId present)

theorem modify {changed : Uuid} {change : Change Node.id}
    (was : ∀ row, db.nodes.get? changed = some row → connected (change.apply row) = true
      → connected row = true)
    (same : next.nodes = db.nodes.modify changed change)
    : NodesStay db next := by
  intro nodeId present
  unfold registered at present ⊢
  rw [same, Table.get?_modify] at present
  cases found : db.nodes.get? nodeId with
  | none =>
      rw [found] at present
      split at present <;> cases present
  | some row =>
      rw [found] at present
      split at present
      · rename_i here
        subst here
        exact was row found present
      · exact present

theorem create {template : Template Node.id}
    (offline : ∀ id, connected (template.make id) = false)
    (same : next.nodes = db.nodes.create template)
    : NodesStay db next := by
  intro nodeId present
  unfold registered at present ⊢
  rw [same, Table.create, Table.get?_insert] at present
  split at present
  · rw [Option.any_some, offline] at present
    cases present
  · exact present

end NodesStay

/-- A transaction that writes the servers calmly and registers no node. -/
structure Calm (db next : Database) : Prop where
  servers : CalmServers db next
  nodes : NodesStay db next

namespace Calm

variable {db middle next : Database}

theorem of_same (servers : next.servers = db.servers) (nodes : next.nodes = db.nodes)
    : Calm db next :=
  ⟨.of_same servers, .of_same nodes⟩

theorem refl (db : Database) : Calm db db := of_same rfl rfl

theorem of_eq (same : next = db) : Calm db next := by
  rw [same]
  exact .refl db

theorem trans (first : Calm db middle) (second : Calm middle next) : Calm db next :=
  ⟨first.servers.trans second.servers, first.nodes.trans second.nodes⟩

end Calm

theorem calm_refresh (settings : Settings) (now : Instant) (nodeId : Uuid) (db : Database)
    : Calm db (refreshNodeAllocatedRam settings now nodeId db) :=
  ⟨.of_same rfl, .modify (fun _ _ present => present) rfl⟩

theorem calm_changeServer {change : Change Server.id}
    (calm : ∀ row, CalmRow row (change.apply row)) (changed : Uuid) (db : Database)
    : Calm db (changeServer changed change db) :=
  ⟨.changeServer calm changed db, .of_same rfl⟩

theorem calm_changeServers {change : Change Server.id}
    (calm : ∀ row, CalmRow row (change.apply row)) (test : Server → Bool) (db : Database)
    : Calm db (changeServers test change db) :=
  ⟨.when calm rfl, .of_same rfl⟩

theorem calm_wakeUp (now : Instant) (providerStarts : Bool) (db : Database)
    : Calm db (autoWakeupOfflineNode now providerStarts db).1 := by
  rcases autoWakeupOfflineNode_cases now providerStarts db with same | ⟨node, _, _, same⟩
  · rw [same]
    exact .refl db
  · rw [same]
    exact ⟨.of_same rfl, .modify (fun _ _ present => by cases present) rfl⟩

-- Sessions of nodes

theorem calm_suspendActive (nodeId : Uuid) (except : List Uuid) (db : Database)
    : Calm db (suspendActiveServers nodeId except db) :=
  calm_changeServers (fun _ => ⟨rfl, rfl, rfl, fun live => by cases live⟩) _ db

theorem calm_reportAddress (request : RegisterRequest) (node : Node) (db : Database)
    : Calm db (reportAddress request node db) := by
  unfold reportAddress
  split
  · exact ⟨.of_same rfl, .modify (fun _ _ present => present) rfl⟩
  · refine ⟨.when ?_ rfl, .modify (fun _ _ present => present) rfl⟩
    exact fun _ => ⟨rfl, rfl, rfl, id⟩

theorem calm_admitSession (functions : SessionFunctions) (settings : Settings) (now : Instant)
    (token : String) (request : RegisterRequest) (db : Database)
    : Calm db (admitSession functions settings now token request db).1 := by
  unfold admitSession enrolNode
  split
  · exact .refl db
  · rename_i enrolled
    split at enrolled
    · split at enrolled
      · cases enrolled
        exact .refl db
      · split at enrolled
        · cases enrolled
          exact ⟨.of_same rfl, .create (fun _ => rfl) rfl⟩
        · cases enrolled
    · cases enrolled

theorem completeAdmission_frame (settings : Settings) (now : Instant)
    (request : RegisterRequest) (node : Node) (db : Database)
    : CalmServers db (completeAdmission settings now request node db)
      ∧ ∀ nodeId, nodeId ≠ node.id
        → registered (completeAdmission settings now request node db) nodeId = true
        → registered db nodeId = true := by
  have others {db next : Database} {change : Change Node.id}
      (same : next.nodes = db.nodes.modify node.id change) (nodeId : Uuid)
      (other : nodeId ≠ node.id) (present : registered next nodeId = true)
      : registered db nodeId = true := by
    unfold registered at present ⊢
    rw [same, Table.get?_modify, if_neg other] at present
    exact present
  unfold completeAdmission
  dsimp only
  have reported := calm_reportAddress request node db
  have recovered : Calm db (if node.status = .offline then
      suspendActiveServers node.id [] (reportAddress request node db)
      else reportAddress request node db) := by
    split
    · exact reported.trans (calm_suspendActive node.id [] _)
    · exact reported
  constructor
  · exact recovered.servers.trans (.of_same rfl)
  · intro nodeId other present
    have refreshed := (calm_refresh settings now node.id _).nodes nodeId present
    exact recovered.nodes nodeId (others rfl nodeId other refreshed)

theorem calm_cleanUp (nodeName : Json) (db : Database)
    : Calm db (cleanUpSession nodeName db) := by
  unfold cleanUpSession
  split
  · split
    · exact ⟨.of_same rfl, .modify (fun _ _ present => by cases present) rfl⟩
    · exact .refl db
  · exact .refl db

theorem drainNode_frame {nodeId : Uuid} {db next : Database}
    (drained : drainNode nodeId db = .ok next)
    : next.servers = db.servers
      ∧ ∀ other, other ≠ nodeId → registered next other = true → registered db other = true := by
  unfold drainNode at drained
  split at drained
  · cases drained
  · split at drained
    · cases drained
    · cases drained
      refine ⟨rfl, ?_⟩
      intro other different present
      unfold registered changeNode at present
      rw [Table.get?_modify, if_neg different] at present
      exact present

theorem calm_undrain {now : Instant} {nodeId : Uuid} {db next : Database}
    (undrained : undrainNode now nodeId db = .ok next)
    : Calm db next := by
  unfold undrainNode at undrained
  split at undrained
  · cases undrained
  · rename_i node found
    split at undrained
    · cases undrained
    · rename_i draining
      split at undrained
      · cases undrained
      · cases undrained
        refine ⟨.of_same rfl, .modify ?_ rfl⟩
        intro row stored _
        cases found.symm.trans stored
        unfold connected
        rw [not_not.mp draining]
        rfl

-- Heartbeats

theorem calm_reportPlayers {functions : SessionFunctions} {now : Instant}
    {db next : Database} {report : String × Json}
    (reported : reportPlayers functions now db report = .ok next)
    : Calm db next := by
  obtain ⟨_, rfl⟩ := reportPlayers_ok_iff.mp reported
  refine ⟨⟨countPlayers functions now report, rfl, ?_⟩, .of_same rfl⟩
  intro row
  dsimp only [countPlayers]
  split <;> exact ⟨rfl, rfl, rfl, id⟩

theorem calm_reportDeployment {functions : SessionFunctions} {nodeId : Uuid}
    {db next : Database} {report : String × Json}
    (reported : reportDeployment functions nodeId db report = .ok next)
    : Calm db next := by
  rcases reportDeployment_ok reported with rfl | ⟨_, _, _, _, _, rfl⟩
  · exact .refl _
  · exact .of_same rfl rfl

/-- Calm reports in a row, by induction on them. -/
theorem calm_foldlM {Report Error : Type} {report : Database → Report → Except Error Database}
    (calm : ∀ {db next : Database} {item : Report}, report db item = .ok next → Calm db next)
    (items : List Report) {db next : Database} (done : items.foldlM report db = .ok next)
    : Calm db next := by
  induction items generalizing db with
  | nil =>
      cases done
      exact .refl _
  | cons item rest ih =>
      rw [List.foldlM_cons] at done
      obtain ⟨middle, first, later⟩ := except_bind_ok done
      exact (calm first).trans (ih later)

theorem calm_heartbeat {functions : SessionFunctions} {settings : Settings} {now : Instant}
    {nodeId : Uuid} {stats : Fields} {db next : Database}
    (applied : applyHeartbeat functions settings now nodeId stats db = .ok next)
    : Calm db next := by
  obtain ⟨_, _, _, counted, running, health, _, _, folded, done⟩ := applyHeartbeat_parts applied
  have measured := calm_foldlM calm_reportPlayers running folded
  refine (Calm.trans ⟨.when (fun _ => ⟨rfl, rfl, rfl, id⟩) rfl,
    .modify (fun _ _ present => present) rfl⟩ measured).trans ?_
  exact ((calm_suspendActive nodeId (reportedServers running) counted).trans
    (calm_refresh settings now nodeId _)).trans (calm_foldlM calm_reportDeployment health done)

theorem calm_receive {functions : SessionFunctions} {settings : Settings} {nodeId : Uuid}
    {received : Received} {db next : Database}
    (handled : receiveMessage functions settings nodeId received db = .ok next)
    : Calm db next := by
  rcases receiveMessage_ok handled with rfl | ⟨_, applied⟩
  · exact .refl _
  · exact calm_heartbeat applied

-- Payments

theorem calm_sweep (settings : Settings) (time : Instant) (db : Database)
    : Calm db (processSubscriptionExpirations settings time db).1 := by
  refine ⟨.when ?_ rfl, .of_same rfl⟩
  exact fun _ => ⟨rfl, rfl, rfl, fun live => by cases live⟩

theorem calm_paddle (delivery : PaddleDelivery) (db : Database) : Calm db (delivery.apply db) := by
  obtain ⟨_, _, kept | ⟨kind, id, stopped⟩⟩ := delivery.apply_frame db
  · rw [kept]
    exact .of_same rfl rfl
  · rw [stopped]
    cases kind with
    | minecraftServer =>
        refine ⟨.modify ?_ id rfl, .of_same rfl⟩
        exact fun _ => ⟨rfl, rfl, rfl, fun live => by cases live⟩
    | appDeployment => exact .of_same rfl rfl
    | databaseInstance => exact .of_same rfl rfl

-- Actions

/-- The actions that place a server, give it a port or make it running, and those that register
a node.
-/
def Notable : FleetAction → Prop
  | .createServer .. => True
  | .checkNode _ => True
  | .assignNode _ => True
  | .prepare _ => True
  | .finishStart _ => True
  | .reconcileRunning _ => True
  | .moveToMigrationNode .. => True
  | .moveBack .. => True
  | .rescueOrphans _ => True
  | .reassign .. => True
  | .shutDown .. => True
  | .completeAdmission .. => True
  | .drain _ => True
  | _ => False

variable {World : Type} {site : Site}

theorem calm_commitOnly {Error : Type} (fleet : Fleet World)
    {outcome : Except Error Database} (calm : ∀ {next}, outcome = .ok next → Calm fleet.db next)
    : Calm fleet.db (fleet.commitOnly outcome).1.db := by
  cases outcome with
  | error failure => exact .refl fleet.db
  | ok stored => exact calm rfl

theorem calm_action (action : FleetAction) (outside : Outside World) (fleet : Fleet World)
    (plain : ¬ Notable action)
    : Calm fleet.db (controlPlane World site action outside fleet).1.db := by
  cases action with
  | createServer user payload => exact absurd trivial plain
  | checkNode server => exact absurd trivial plain
  | assignNode server => exact absurd trivial plain
  | prepare server => exact absurd trivial plain
  | finishStart serverId => exact absurd trivial plain
  | reconcileRunning serverId => exact absurd trivial plain
  | moveToMigrationNode serverId oldNode => exact absurd trivial plain
  | moveBack serverId oldNode => exact absurd trivial plain
  | rescueOrphans nodeId => exact absurd trivial plain
  | reassign serverId target => exact absurd trivial plain
  | shutDown nodeId allOnline => exact absurd trivial plain
  | completeAdmission request node => exact absurd trivial plain
  | drain nodeId => exact absurd trivial plain
  | wakeUpNode => exact calm_wakeUp outside.now outside.succeeds fleet.db
  | touch serverId => exact calm_changeServer (fun _ => ⟨rfl, rfl, rfl, id⟩) serverId fleet.db
  | suspend serverId =>
      exact calm_changeServer (fun _ => ⟨rfl, rfl, rfl, fun live => by cases live⟩) serverId
        fleet.db
  | markMigrated serverId =>
      exact calm_changeServer (fun _ => ⟨rfl, rfl, rfl, id⟩) serverId fleet.db
  | refreshRam nodeId => exact calm_refresh site.settings outside.now nodeId fleet.db
  | route router serverId => exact .of_eq (routeServer_db ..)
  | routeStart router serverId => exact .of_eq (routeServer_db ..)
  | call nodeId request => exact .of_eq (callAgent_db ..)
  | deliver index => exact .of_eq (deliverDelayed_db ..)
  | deleteSnapshot serverId =>
      change Calm fleet.db (if outside.reply = .answered || outside.reply = .unanswered then
        (fleet.atTime outside.now).writeSnapshot serverId none else fleet.atTime outside.now).db
      split <;> exact .refl fleet.db
  | rescueDeployments nodeId =>
      have rescued (row : Option Node)
          : Calm fleet.db (row.elim fleet.db (fun node => rescueDeployments node fleet.db)) := by
        cases row with
        | none => exact .refl fleet.db
        | some node => exact .of_same rfl rfl
      exact rescued (fleet.db.nodes.get? nodeId)
  | admitSession token request =>
      exact calm_admitSession site.functions site.settings outside.now token request fleet.db
  | heartbeat nodeId received =>
      exact calm_commitOnly (fleet.atTime outside.now) calm_receive
  | cleanUp nodeName => exact calm_cleanUp nodeName fleet.db
  | undrain nodeId => exact calm_commitOnly (fleet.atTime outside.now) calm_undrain
  | sweep time => exact calm_sweep site.settings time fleet.db
  | paddle delivery => exact calm_paddle _ fleet.db
  | _ => exact .refl fleet.db

end Blockhost.ControlPlane
