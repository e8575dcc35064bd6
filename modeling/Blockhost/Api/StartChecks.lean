import Blockhost.Library.Result
import Blockhost.Services.StoredRam
import Mathlib.Data.List.Pairwise

/-! When the checks and the preparation of a start succeed, for a server whose subscription
entitles it.
-/

namespace Blockhost

open Library

variable {settings : Settings} {db : Database} {now : Instant} {tests : PortTests}
variable {server : Server}

-- Free ports

/-- Whether the host lets a server of the flavor bind a port. -/
def PortTests.free (tests : PortTests) (flavor : ServerFlavor) (port : Int) : Bool :=
  if flavor = .bedrock then tests.udpFree port else tests.tcpFree port

/-- On a node some port of the flavor's range is free, with all that a server occupies there. -/
def HasFreePort (settings : Settings) (tests : PortTests) (db : Database)
    (flavor : ServerFlavor) (nodeId : Option Uuid)
    : Prop :=
  ∃ port ∈ (portRangeFor settings flavor).ports, ∀ taken ∈ portFootprint flavor port,
    taken ≤ (portRangeFor settings flavor).finish
    ∧ taken ∉ collectReservedPorts db (portRangeFor settings flavor) nodeId
    ∧ tests.free flavor taken = true

theorem pickFreeUdpPort_iff {range : PortRange} {used : List Int}
    : (∃ port, pickFreeUdpPort tests range used = .ok port)
      ↔ ∃ port ∈ range.ports, port + 1 ≤ range.finish ∧ port ∉ used ∧ port + 1 ∉ used
        ∧ tests.udpFree port = true ∧ tests.udpFree (port + 1) = true := by
  simp only [pickFreeUdpPort_ok_iff, ← Option.isSome_iff_exists, List.find?_isSome,
    Bool.and_eq_true, decide_eq_true_eq, and_assoc]

theorem pickFreeTcpPort_iff {range : PortRange} {used : List Int}
    : (∃ port, pickFreeTcpPort tests range used = .ok port)
      ↔ ∃ port ∈ range.ports, port ∉ used ∧ tests.tcpFree port = true := by
  simp only [pickFreeTcpPort_ok_iff, ← Option.isSome_iff_exists, List.find?_isSome,
    Bool.and_eq_true, decide_eq_true_eq]

theorem allocatePort_iff {flavor : ServerFlavor} {nodeId : Option Uuid}
    : (∃ port, allocatePort settings tests db flavor nodeId = .ok port)
      ↔ validateServerPortPairs db (portRangeFor settings flavor) nodeId = .ok ()
        ∧ HasFreePort settings tests db flavor nodeId := by
  unfold allocatePort HasFreePort
  simp only [bind, Except.bind]
  cases validateServerPortPairs db (portRangeFor settings flavor) nodeId with
  | error failure => simp
  | ok _ =>
      by_cases bedrock : flavor = .bedrock
      · subst bedrock
        simp only [↓reduceIte, pickFreeUdpPort_iff, portFootprint, PortTests.free, true_and]
        refine exists_congr ?_
        intro port
        refine and_congr_right ?_
        intro member
        have bounds := mem_ports member
        simp
        grind
      · simp only [bedrock, ↓reduceIte, pickFreeTcpPort_iff, portFootprint, PortTests.free,
          true_and]
        refine exists_congr ?_
        intro port
        refine and_congr_right ?_
        intro member
        have bounds := mem_ports member
        simp
        grind

theorem allocatePort_other {flavor : ServerFlavor} {nodeId : Option Uuid} {port : Int}
    {other : Server} (allocated : allocatePort settings tests db flavor nodeId = .ok port)
    (member : other ∈ db.servers.rows) (counts : nodeId = none ∨ other.nodeId = nodeId)
    : port ≠ other.vmPort := by
  intro same
  obtain ⟨low, clear⟩ := allocatePort_ok allocated
  have own (flavor : ServerFlavor) (port : Int) : port ∈ portFootprint flavor port := by
    unfold portFootprint
    split <;> simp
  obtain ⟨high, free⟩ := clear port (own flavor port)
  refine free (reserved_of_footprint member counts (same ▸ low) ?_ high)
  exact same ▸ own other.flavor other.vmPort

-- The constraint of the database

theorem uniqueNodePorts_distinct {servers : Table Server.id} (unique : UniqueNodePorts servers)
    {left right : Server} (leftMember : left ∈ servers.rows) (rightMember : right ∈ servers.rows)
    (distinct : left.id ≠ right.id)
    : left.nodeId ≠ none → left.nodeId = right.nodeId → left.vmPort ≠ right.vmPort := by
  have symmetric : Std.Symm (fun first second : Server =>
      first.nodeId ≠ none → first.nodeId = second.nodeId → first.vmPort ≠ second.vmPort) := by
    constructor
    intro first second apart placed same port
    exact apart (by rw [← same]; exact placed) same.symm port.symm
  exact List.Pairwise.forall unique leftMember rightMember
    (fun same => distinct (congrArg Server.id same))

theorem uniqueNodePorts_modify {servers : Table Server.id} (unique : UniqueNodePorts servers)
    {changed : Uuid} {change : Change Server.id}
    (apart : ∀ row, servers.get? changed = some row → (change.apply row).nodeId ≠ none
      → ∀ other ∈ servers.rows, other.id ≠ changed
      → (change.apply row).nodeId = other.nodeId → (change.apply row).vmPort ≠ other.vmPort)
    : UniqueNodePorts (servers.modify changed change) := by
  have distinct : servers.rows.Pairwise (fun left right => left.id ≠ right.id) :=
    List.pairwise_map.mp servers.unique
  unfold UniqueNodePorts
  rw [Table.rows_modify, List.pairwise_map]
  refine (unique.and distinct).imp_of_mem ?_
  rintro left right leftStored rightStored ⟨was, different⟩ placed same
  by_cases leftChanged : left.id = changed
  · subst leftChanged
    have rightKept := fun same : right.id = left.id => different same.symm
    rw [if_pos rfl] at placed same ⊢
    rw [if_neg rightKept] at same ⊢
    exact apart left (Table.get?_of_mem leftStored) placed right rightStored rightKept same
  · rw [if_neg leftChanged] at placed same ⊢
    by_cases rightChanged : right.id = changed
    · subst rightChanged
      rw [if_pos rfl] at same ⊢
      exact (apart right (Table.get?_of_mem rightStored) (same ▸ placed) left leftStored
        leftChanged same.symm).symm
    · rw [if_neg rightChanged] at same ⊢
      exact was placed same

-- The preparation

/-- The server has a port, or gets one where it is. -/
def FindsPort (settings : Settings) (tests : PortTests) (db : Database) (server : Server)
    : Prop :=
  server.vmPort ≠ 0
  ∨ ∃ port, allocatePort settings tests db server.flavor server.nodeId = .ok port

/-- A Java server in provisioning is not started, and a Bedrock server needs its version. -/
structure Preparable (settings : Settings) (tests : PortTests) (lookedUp : Bool)
    (db : Database) (server : Server)
    : Prop where
  settled : isJavaFlavor server.flavor = true → server.state ≠ .provisioning
  port : FindsPort settings tests db server
  version : isJavaFlavor server.flavor = false → lookedUp = true

theorem uniqueNodePorts_configure {serversDir : String} {port : Int}
    (stored : db.servers.get? server.id = some server) (unique : UniqueNodePorts db.servers)
    (allocated : server.vmPort = 0
      → allocatePort settings tests db server.flavor server.nodeId = .ok port)
    : UniqueNodePorts
        (changeServer server.id (configureServer serversDir server port) db).servers := by
  refine uniqueNodePorts_modify unique ?_
  intro row found placed other member distinct same
  cases stored.symm.trans found
  change server.nodeId = other.nodeId at same
  change (if server.vmPort = 0 then port else server.vmPort) ≠ other.vmPort
  split
  · rename_i missing
    exact allocatePort_other (allocated missing) member (.inr same.symm)
  · exact uniqueNodePorts_distinct unique (Table.get?_some stored).1 member (Ne.symm distinct)
      placed same

theorem prepareServerForStart_iff {serversDir : String} {lookedUp : Bool}
    (stored : db.servers.get? server.id = some server) (unique : UniqueNodePorts db.servers)
    : (∃ next, prepareServerForStart settings serversDir tests lookedUp server db = .ok next)
      ↔ Preparable settings tests lookedUp db server := by
  unfold prepareServerForStart
  simp only [bind, Except.bind, throw, throwThe, MonadExceptOf.throw, pure, Except.pure]
  constructor
  · rintro ⟨next, done⟩
    split at done
    · cases done
    · rename_i settled
      have state : isJavaFlavor server.flavor = true → server.state ≠ .provisioning := by
        intro java provisioning
        exact settled (by simp [java, provisioning])
      split at done
      · cases allocated : allocatePort settings tests db server.flavor server.nodeId with
        | error failure =>
            simp only [allocated] at done
            cases done
        | ok port =>
            simp only [allocated] at done
            split at done
            · cases done
            · rename_i found
              exact ⟨state, .inr ⟨port, allocated⟩,
                fun bedrock => by simpa [bedrock] using found⟩
      · rename_i given
        split at done
        · cases done
        · rename_i found
          exact ⟨state, .inl given, fun bedrock => by simpa [bedrock] using found⟩
  · rintro ⟨settled, port, version⟩
    have state
        : ¬ (isJavaFlavor server.flavor && decide (server.state = .provisioning)) = true := by
      simpa using settled
    have found : ¬ (!isJavaFlavor server.flavor && !lookedUp) = true := by
      simpa using version
    have commits {port : Int} (allocated : server.vmPort = 0
        → allocatePort settings tests db server.flavor server.nodeId = .ok port)
        : commitServers (changeServer server.id (configureServer serversDir server port) db)
          = .ok (changeServer server.id (configureServer serversDir server port) db) :=
      if_pos (uniqueNodePorts_configure stored unique allocated)
    rw [if_neg state]
    by_cases missing : server.vmPort = 0
    · obtain ⟨port, allocated⟩ := port.resolve_left (fun given => given missing)
      simp only [missing, ↓reduceIte, allocated, if_neg found]
      exact ⟨_, commits (fun _ => allocated)⟩
    · simp only [missing, ↓reduceIte, if_neg found]
      exact ⟨_, commits (fun none => absurd none missing)⟩

-- The choice of a node

/-- The node of the server is up and has memory left for it. -/
def keepsNode (settings : Settings) (db : Database) (now : Instant) (server : Server) : Bool :=
  (server.nodeId.bind db.nodes.get?).any (fun node =>
    !(nodeIsDead node || nodeIsFull settings db now server.id node))

def leftNode (server : Server) (db : Database) : Database :=
  if server.nodeId.isSome then changeServer server.id detachServer db else db

def Server.placedOn (server : Server) (node : Node) (port : Int) : Server :=
  (setServerState .provisioning).apply ((placeServer node port).apply server)

def placedOn (settings : Settings) (now : Instant) (serverId : Uuid) (node : Node) (port : Int)
    (db : Database)
    : Database :=
  changeServer serverId (setServerState .provisioning)
    (changeServer serverId (placeServer node port)
      (refreshNodeAllocatedRam settings now node.id db))

theorem checkStartNode_entitled
    (entitled : ensureActiveSubscriptionForStart settings db now server.id = .ok ())
    : (keepsNode settings db now server = true
        → checkStartNode settings now server db = .ok (db, .stays))
      ∧ (keepsNode settings db now server = false
        → checkStartNode settings now server db
          = .ok (leftNode server db,
            if server.nodeId.isSome then .detached else .unassigned)) := by
  unfold keepsNode leftNode checkStartNode
  rw [entitled]
  cases home : server.nodeId with
  | none => simp
  | some nodeId =>
      cases found : db.nodes.get? nodeId with
      | none => simp [found]
      | some node => simp [found]

theorem checkStartNode_refused {failure : BillingError}
    (refused : ensureActiveSubscriptionForStart settings db now server.id = .error failure)
    : checkStartNode settings now server db = .error (.http (paymentRequired failure)) := by
  unfold checkStartNode
  rw [refused]

theorem keepsNode_unassigned (unassigned : server.nodeId = none)
    : keepsNode settings db now server = false := by
  unfold keepsNode
  rw [unassigned]
  rfl

theorem placedOn_get? {serverId : Uuid} {node : Node} {port : Int}
    (stored : db.servers.get? serverId = some server)
    : (placedOn settings now serverId node port db).servers.get? serverId
      = some (server.placedOn node port) := by
  unfold placedOn changeServer
  rw [Table.get?_modify, if_pos rfl, Table.get?_modify, if_pos rfl]
  exact congrArg (Option.map _ ∘ Option.map _) stored

theorem leftNode_get? (stored : db.servers.get? server.id = some server)
    : ∃ row, (leftNode server db).servers.get? server.id = some row ∧ row.nodeId = none
      ∧ ∀ node port, row.placedOn node port = server.placedOn node port := by
  unfold leftNode
  split
  · refine ⟨detachServer.apply server, ?_, rfl, fun _ _ => rfl⟩
    unfold changeServer
    rw [Table.get?_modify, if_pos rfl, stored]
    rfl
  · rename_i unassigned
    exact ⟨server, stored, by simpa using unassigned, fun _ _ => rfl⟩

theorem uniqueNodePorts_leftNode (unique : UniqueNodePorts db.servers)
    : UniqueNodePorts (leftNode server db).servers := by
  unfold leftNode
  split
  · exact uniqueNodePorts_modify unique (fun _ _ placed => absurd rfl placed)
  · exact unique

theorem uniqueNodePorts_placedOn {serverId : Uuid} {node : Node} {port : Int}
    {flavor : ServerFlavor} (unique : UniqueNodePorts db.servers)
    (allocated : allocatePort settings tests db flavor (some node.id) = .ok port)
    : UniqueNodePorts (placedOn settings now serverId node port db).servers := by
  have moved : UniqueNodePorts (changeServer serverId (placeServer node port)
      (refreshNodeAllocatedRam settings now node.id db)).servers :=
    uniqueNodePorts_modify unique (fun _ _ _ other member _ same =>
      allocatePort_other allocated member (.inr same.symm))
  refine uniqueNodePorts_modify moved ?_
  intro row found placed other member distinct same
  obtain ⟨known, key⟩ := Table.get?_some found
  have apart : row.nodeId ≠ none → row.nodeId = other.nodeId → row.vmPort ≠ other.vmPort :=
    uniqueNodePorts_distinct moved known member (fun equal => distinct (equal.symm.trans key))
  exact apart placed same

theorem assignBestNode_places {node : Node} {port : Int} (unique : UniqueNodePorts db.servers)
    (selected
      : selectBestNode settings db now (requiredRamMb settings db now server.id) = some node)
    (allocated : allocatePort settings tests db server.flavor (some node.id) = .ok port)
    : assignBestNode settings now tests server db
      = .ok (placedOn settings now server.id node port db, true) := by
  have commits : commitServers (placedOn settings now server.id node port db)
      = .ok (placedOn settings now server.id node port db) :=
    if_pos (uniqueNodePorts_placedOn unique allocated)
  unfold assignBestNode
  simp only [selected, allocated]
  exact congrArg (Except.map _) commits

theorem assignBestNode_misses
    (missing : selectBestNode settings db now (requiredRamMb settings db now server.id) = none)
    : assignBestNode settings now tests server db = .ok (db, false) := by
  unfold assignBestNode
  simp only [missing]

theorem assignBestNode_fails {node : Node} {refusal : String}
    (selected
      : selectBestNode settings db now (requiredRamMb settings db now server.id) = some node)
    (refused : allocatePort settings tests db server.flavor (some node.id) = .error refusal)
    : assignBestNode settings now tests server db
      = .error (.http ⟨503, "Failed to allocate port on new node: " ++ refusal⟩) := by
  unfold assignBestNode
  simp only [selected, refused]

end Blockhost

/-! The memory that the capacity check of a start finds free on the server's node. The sum of the
active workloads has the server itself in it when the state of its row reserves memory.
-/

namespace Blockhost

open Library

variable {settings : Settings} {db : Database} {now : Instant} {server : Server} {node : Node}
variable {next : Database}

theorem ensureActiveSubscriptionForStart_ram {serverId : Uuid}
    (entitled : ensureActiveSubscriptionForStart settings db now serverId = .ok ())
    : 0 < requiredRamMb settings db now serverId := by
  unfold ensureActiveSubscriptionForStart at entitled
  obtain ⟨_, _, entitled⟩ := except_bind_ok entitled
  unfold requiredRamMb getEffectiveServerResourceLimits
  cases found : activeSubscriptionForServer settings db now serverId with
  | none =>
      rw [found] at entitled
      cases entitled
  | some subscription =>
      rw [found] at entitled
      dsimp only at entitled ⊢
      cases known : db.plans.get? subscription.planId with
      | none =>
          rw [known] at entitled
          cases entitled
      | some plan =>
          rw [known] at entitled
          by_cases none : plan.ramMb ≤ 0
          · dsimp only at entitled
            rw [if_pos none] at entitled
            cases entitled
          · exact not_le.mp none

theorem checkStartNode_room {server : Server} {check : NodeCheck} {node : Node}
    (home : server.nodeId = some node.id)
    (stored : node ∈ db.nodes.rows) (alive : nodeIsDead node = false)
    (room : computeNodeAllocatedRamMb settings db now node.id
      + requiredRamMb settings db now server.id ≤ node.totalRamMb)
    (checked : checkStartNode settings now server db = .ok (next, check))
    : next = db ∧ check = .stays ∧ 0 < requiredRamMb settings db now server.id := by
  have free : nodeIsFull settings db now server.id node = false := by
    unfold nodeIsFull
    exact decide_eq_false (by omega)
  unfold checkStartNode at checked
  rw [home] at checked
  simp only [Table.get?_of_mem stored, alive, free] at checked
  cases entitled : ensureActiveSubscriptionForStart settings db now server.id with
  | error failure =>
      rw [entitled] at checked
      cases checked
  | ok _ =>
      rw [entitled] at checked
      cases checked
      exact ⟨rfl, rfl, ensureActiveSubscriptionForStart_ram entitled⟩

def otherWorkloadsRamMb (settings : Settings) (db : Database) (now : Instant)
    (serverId nodeId : Uuid)
    : Int :=
  total
    (fun server =>
      server.id ≠ serverId && (server.nodeId = some nodeId && server.state.reservesRam))
    (fun server => requiredRamMb settings db now server.id) db.servers.rows
  + deploymentsRamMb db DeploymentState.reservesRam nodeId

/-- The node has memory for the server beside its other active workloads. -/
def FitsBesideOthers (settings : Settings) (db : Database) (now : Instant) (serverId : Uuid)
    (node : Node)
    : Prop :=
  otherWorkloadsRamMb settings db now serverId node.id + requiredRamMb settings db now serverId
    ≤ node.totalRamMb

/-- The node has memory for the server once, but not twice. -/
def FitsOnce (settings : Settings) (db : Database) (now : Instant) (serverId : Uuid)
    (node : Node)
    : Prop :=
  FitsBesideOthers settings db now serverId node
  ∧ node.totalRamMb
    < otherWorkloadsRamMb settings db now serverId node.id
      + 2 * requiredRamMb settings db now serverId

theorem computeNodeAllocatedRamMb_split (stored : db.servers.get? server.id = some server)
    (placed : server.nodeId = some node.id)
    : computeNodeAllocatedRamMb settings db now node.id
      = otherWorkloadsRamMb settings db now server.id node.id
        + if server.state.reservesRam then requiredRamMb settings db now server.id else 0 := by
  obtain ⟨member, _⟩ := Table.get?_some stored
  have own : weight (fun row : Server => row.nodeId = some node.id && row.state.reservesRam)
      (fun row => requiredRamMb settings db now row.id) server
      = if server.state.reservesRam then requiredRamMb settings db now server.id else 0 := by
    simp [weight, placed]
  rw [computeNodeAllocatedRamMb_eq, serversRamMb, db.servers.total_split member,
    otherWorkloadsRamMb, ← own]
  unfold requiredRamMb
  omega

theorem checkStartNode_stays_iff (placed : server.nodeId = some node.id)
    (hosted : db.nodes.get? node.id = some node) (live : nodeIsDead node = false)
    (entitled : ensureActiveSubscriptionForStart settings db now server.id = .ok ())
    : checkStartNode settings now server db = .ok (db, .stays)
      ↔ computeNodeAllocatedRamMb settings db now node.id
          + requiredRamMb settings db now server.id
        ≤ node.totalRamMb := by
  have kept : keepsNode settings db now server
      = !nodeIsFull settings db now server.id node := by
    simp [keepsNode, placed, hosted, live]
  obtain ⟨stays, leaves⟩ := checkStartNode_entitled entitled
  have full : nodeIsFull settings db now server.id node = false
      ↔ computeNodeAllocatedRamMb settings db now node.id
          + requiredRamMb settings db now server.id
        ≤ node.totalRamMb := by
    unfold nodeIsFull
    rw [decide_eq_false_iff_not]
    omega
  rw [← full]
  cases room : nodeIsFull settings db now server.id node with
  | false => exact iff_of_true (stays (by rw [kept, room]; rfl)) rfl
  | true =>
      refine iff_of_false ?_ (fun fits => Bool.noConfusion fits)
      rw [leaves (by rw [kept, room]; rfl), placed]
      intro same
      cases congrArg (Except.map Prod.snd) same

/-- The check keeps exactly the servers that fit beside the others of their node, unless the
state of the row reserves memory and the node has room for the server once.
-/
theorem start_keeps_fitting_iff (stored : db.servers.get? server.id = some server)
    (placed : server.nodeId = some node.id) (hosted : db.nodes.get? node.id = some node)
    (live : nodeIsDead node = false)
    (entitled : ensureActiveSubscriptionForStart settings db now server.id = .ok ())
    : (checkStartNode settings now server db = .ok (db, .stays)
        ↔ FitsBesideOthers settings db now server.id node)
      ↔ ¬ (server.state.reservesRam = true ∧ FitsOnce settings db now server.id node) := by
  have positive : 0 < requiredRamMb settings db now server.id :=
    ensureActiveSubscriptionForStart_ram entitled
  rw [checkStartNode_stays_iff placed hosted live entitled,
    computeNodeAllocatedRamMb_split stored placed]
  unfold FitsOnce FitsBesideOthers
  cases server.state.reservesRam with
  | false => simp
  | true =>
      simp only [if_true, true_and]
      omega

private def smallNode : Node where
  id := 1
  name := "node"
  ipAddress := "10.0.0.1"
  status := .online
  statusUpdatedAt := 0
  totalRamMb := 1024

private def serverIn (state : ServerState) : Server where
  id := 7
  nodeId := some 1
  ownerId := 0
  worldName := "w"
  state
  lastActivity := 0

private def dbWith (state : ServerState) : Database where
  servers := ⟨[serverIn state], List.nodup_singleton _⟩
  nodes := ⟨[smallNode], List.nodup_singleton _⟩
  plans :=
    ⟨[{ id := "plan", ramMb := 1024, cpuLimit := 100, storageMb := 1024, playerLimit := 10,
        price := 0, durationDays := 30 }], List.nodup_singleton _⟩
  subscriptions :=
    ⟨[{ id := 0, userId := 0, serverId := some 7, planId := "plan", startsAt := 0,
        expiresAt := 10, createdAt := 0, updatedAt := 0 }], List.nodup_singleton _⟩

/-- A suspended server stays on a node whose memory it just fills. -/
theorem suspended_server_stays
    : FitsBesideOthers {} (dbWith .suspended) 0 7 smallNode
      ∧ checkStartNode {} 0 (serverIn .suspended) (dbWith .suspended)
        = .ok (dbWith .suspended, .stays) := by
  have fits : FitsBesideOthers {} (dbWith .suspended) 0 7 smallNode := by
    unfold FitsBesideOthers
    decide +kernel
  refine ⟨fits, ?_⟩
  refine ((start_keeps_fitting_iff rfl rfl rfl rfl (by decide +kernel)).mpr ?_).mpr fits
  exact fun reserves => Bool.noConfusion reserves.1

/-- A server whose process has died, in state running, leaves the node that it just fills. -/
theorem dead_server_leaves
    : FitsBesideOthers {} (dbWith .running) 0 7 smallNode
      ∧ checkStartNode {} 0 (serverIn .running) (dbWith .running)
        ≠ .ok (dbWith .running, .stays) := by
  refine ⟨?_, fun same => ?_⟩
  · unfold FitsBesideOthers
    decide +kernel
  · have detached : (checkStartNode {} 0 (serverIn .running) (dbWith .running)).map Prod.snd
        = .ok .detached := by
      decide +kernel
    cases detached.symm.trans (congrArg (Except.map Prod.snd) same)

end Blockhost
