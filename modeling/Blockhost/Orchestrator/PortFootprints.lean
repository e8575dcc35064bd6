import Blockhost.Api.StartChecks
import Blockhost.Orchestrator.FleetHandlers
import Blockhost.Orchestrator.TransactionFrames

/-! No two servers of a node use one port. The database keeps the first ports of a node's servers
apart; the second port of a Bedrock server is up to those that place servers. An allocation looks
for it, a migration on demand keeps the port of its server and does not.
-/

namespace Blockhost.ControlPlane

open Library

variable {World : Type} {site : Site}

-- Footprints

/-- Two servers, unless they are on different nodes, have no port in common. -/
def Apart (left right : Server) : Prop :=
  left.nodeId ≠ none → left.nodeId = right.nodeId
    → ∀ port ∈ left.footprint, port ∉ right.footprint

instance (left right : Server) : Decidable (Apart left right) :=
  inferInstanceAs (Decidable (_ → _ → ∀ port ∈ left.footprint, port ∉ right.footprint))

/-- Any two distinct servers are apart. -/
def DisjointFootprints (servers : Table Server.id) : Prop :=
  ∀ left ∈ servers.rows, ∀ right ∈ servers.rows, left.id ≠ right.id → Apart left right

instance (servers : Table Server.id) : Decidable (DisjointFootprints servers) :=
  inferInstanceAs (Decidable (∀ left ∈ servers.rows, ∀ right ∈ servers.rows,
    left.id ≠ right.id → Apart left right))

/-- One server is a Bedrock server, and the other one is on the port after its first. -/
def Interlocked (left right : Server) : Prop :=
  left.flavor = .bedrock ∧ right.vmPort = left.vmPort + 1
  ∨ right.flavor = .bedrock ∧ left.vmPort = right.vmPort + 1

theorem Apart.symm {left right : Server} (apart : Apart left right) : Apart right left := by
  intro placed same port theirs mine
  exact apart (by rw [← same]; exact placed) same.symm port mine theirs

theorem Server.footprint_congr {left right : Server} (flavor : left.flavor = right.flavor)
    (port : left.vmPort = right.vmPort)
    : left.footprint = right.footprint := by
  unfold Server.footprint
  rw [flavor, port]

theorem Apart.congr {left right left' right' : Server} (apart : Apart left right)
    (leftNode : left'.nodeId = left.nodeId) (rightNode : right'.nodeId = right.nodeId)
    (leftPorts : left'.footprint = left.footprint)
    (rightPorts : right'.footprint = right.footprint)
    : Apart left' right' := by
  unfold Apart at apart ⊢
  rw [leftNode, rightNode, leftPorts, rightPorts]
  exact apart

theorem apart_of_unlocked {left right : Server}
    (different : left.nodeId ≠ none → left.nodeId = right.nodeId → left.vmPort ≠ right.vmPort)
    (unlocked : left.nodeId = right.nodeId → ¬ Interlocked left right)
    : Apart left right := by
  intro placed same port mine theirs
  have distinct := different placed same
  have free := unlocked same
  unfold Interlocked at free
  unfold Server.footprint portFootprint at mine theirs
  split at mine <;> split at theirs <;> simp at mine theirs <;> grind

namespace DisjointFootprints

variable {servers : Table Server.id}

theorem modify (disjoint : DisjointFootprints servers) {changed : Uuid}
    {change : Change Server.id}
    (apart : ∀ row, servers.get? changed = some row → ∀ other ∈ servers.rows,
      other.id ≠ changed → Apart (change.apply row) other)
    : DisjointFootprints (servers.modify changed change) := by
  intro left leftMember right rightMember distinct
  rw [Table.rows_modify] at leftMember rightMember
  obtain ⟨left, leftStored, rfl⟩ := List.mem_map.mp leftMember
  obtain ⟨right, rightStored, rfl⟩ := List.mem_map.mp rightMember
  by_cases leftChanged : left.id = changed
  · by_cases rightChanged : right.id = changed
    · rw [if_pos leftChanged, if_pos rightChanged, change.kept, change.kept] at distinct
      exact absurd (leftChanged.trans rightChanged.symm) distinct
    · rw [if_pos leftChanged, if_neg rightChanged]
      subst leftChanged
      exact apart left (Table.get?_of_mem leftStored) right rightStored rightChanged
  · by_cases rightChanged : right.id = changed
    · rw [if_neg leftChanged, if_pos rightChanged]
      subst rightChanged
      exact (apart right (Table.get?_of_mem rightStored) left leftStored leftChanged).symm
    · rw [if_neg leftChanged, if_neg rightChanged] at distinct ⊢
      exact disjoint left leftStored right rightStored distinct

theorem calm {db next : Database} (disjoint : DisjointFootprints db.servers)
    (calm : CalmServers db next)
    : DisjointFootprints next.servers := by
  obtain ⟨change, same, calm⟩ := calm
  rw [same]
  intro left leftMember right rightMember distinct
  rw [Table.rows_update] at leftMember rightMember
  obtain ⟨left, leftStored, rfl⟩ := List.mem_map.mp leftMember
  obtain ⟨right, rightStored, rfl⟩ := List.mem_map.mp rightMember
  rw [change.kept, change.kept] at distinct
  exact (disjoint left leftStored right rightStored distinct).congr (calm left).node
    (calm right).node (Server.footprint_congr (calm left).flavor (calm left).port)
    (Server.footprint_congr (calm right).flavor (calm right).port)

end DisjointFootprints

-- Transactions

section Transactions

variable {settings : Settings} {tests : PortTests} {db current next : Database}

/-- The stored row of a server has a flavor. -/
def HasFlavor (db : Database) (serverId : Uuid) (flavor : ServerFlavor) : Prop :=
  ∀ row, db.servers.get? serverId = some row → row.flavor = flavor

def AllocationsSee (settings : Settings) (tests : PortTests) (node : Node)
    (fallback : Option Database)
    : List Server → Database → Prop
  | [], _ => True
  | server :: rest, current =>
      ¬ HiddenNeighbour settings tests current server.flavor node.id
      ∧ match replaceServer settings tests node server current with
        | .error _ => ∀ db, fallback = some db → AllocationsSee settings tests node fallback rest db
        | .ok next => AllocationsSee settings tests node fallback rest next

/-- A server of the target node and the moved one do not interlock. -/
def MovesApart (db : Database) (serverId nodeId : Uuid) : Prop :=
  ∀ row, db.servers.get? serverId = some row → ∀ other ∈ db.servers.rows,
    other.id ≠ serverId → other.nodeId = some nodeId → ¬ Interlocked row other

theorem disjoint_place {flavor : ServerFlavor} {node : Node} {port : Int} {serverId : Uuid}
    (disjoint : DisjointFootprints db.servers) (known : HasFlavor db serverId flavor)
    (allocated : allocatePort settings tests db flavor (some node.id) = .ok port)
    (visible : ¬ HiddenNeighbour settings tests db flavor node.id)
    : DisjointFootprints (db.servers.modify serverId (placeServer node port)) := by
  refine disjoint.modify (fun row stored other member _ _ sameNode => ?_)
  have sees := allocatePort_disjoint allocated member sameNode.symm visible
  rw [← known row stored] at sees
  exact sees

theorem disjoint_move {serverId : Uuid} {node : Node} (disjoint : DisjointFootprints db.servers)
    (apart : MovesApart db serverId node.id)
    (unique : UniqueNodePorts (changeServer serverId (moveServer node) db).servers)
    : DisjointFootprints (changeServer serverId (moveServer node) db).servers := by
  refine disjoint.modify (fun row stored other member distinct => ?_)
  obtain ⟨known, rfl⟩ := Table.get?_some stored
  refine apart_of_unlocked ?_ ?_
  · refine uniqueNodePorts_distinct unique (List.mem_map.mpr ⟨row, known, if_pos rfl⟩)
      (List.mem_map.mpr ⟨other, member, if_neg distinct⟩) ?_
    exact fun same => distinct same.symm
  · exact fun sameNode => apart row stored other member distinct sameNode.symm

theorem hasFlavor_place {serverId placed : Uuid} {node : Node} {port : Int}
    {flavor : ServerFlavor} (known : HasFlavor db serverId flavor)
    : HasFlavor (changeServer placed (placeServer node port) db) serverId flavor := by
  intro row stored
  unfold changeServer at stored
  rw [Table.get?_modify] at stored
  split at stored
  · cases found : db.servers.get? serverId with
    | none =>
        rw [found] at stored
        cases stored
    | some before =>
        rw [found] at stored
        cases stored
        exact known before found
  · exact known row stored

/-- The rescue of a list of servers, by induction on the list. -/
theorem disjoint_rescueServers {node : Node} (servers : List Server)
    (known : ∀ server ∈ servers, HasFlavor db server.id server.flavor
      ∧ HasFlavor current server.id server.flavor)
    (sees : AllocationsSee settings tests node (some db) servers current)
    (base : DisjointFootprints db.servers) (now : DisjointFootprints current.servers)
    : DisjointFootprints (rescueServers settings tests node db servers current).servers := by
  induction servers generalizing current with
  | nil => exact now
  | cons server rest ih =>
      obtain ⟨visible, later⟩ := sees
      have others := fun other member => known other (List.mem_cons_of_mem server member)
      unfold rescueServers
      cases replaced : replaceServer settings tests node server current with
      | error failure =>
          rw [replaced] at later
          exact ih (fun other member => ⟨(others other member).1, (others other member).1⟩)
            (later db rfl) base
      | ok next =>
          rw [replaced] at later
          obtain ⟨port, allocated, rfl⟩ := replaceServer_ok replaced
          exact ih
            (fun other member => ⟨(others other member).1, hasFlavor_place (others other member).2⟩)
            later
            (disjoint_place now (known server List.mem_cons_self).2 allocated visible)

/-- The shutdown of a node, by induction on its servers. -/
theorem disjoint_replaceServers {node : Node} (servers : List Server)
    (known : ∀ server ∈ servers, HasFlavor db server.id server.flavor)
    (sees : AllocationsSee settings tests node none servers db)
    (disjoint : DisjointFootprints db.servers)
    (replaced : replaceServers settings tests node servers db = .ok next)
    : DisjointFootprints next.servers := by
  induction servers generalizing db with
  | nil =>
      cases replaced
      exact disjoint
  | cons server rest ih =>
      obtain ⟨visible, later⟩ := sees
      unfold replaceServers at replaced
      cases first : replaceServer settings tests node server db with
      | error failure =>
          rw [first] at replaced
          cases replaced
      | ok placed =>
          rw [first] at replaced later
          obtain ⟨port, allocated, rfl⟩ := replaceServer_ok first
          exact ih
            (fun other member =>
              hasFlavor_place (known other (List.mem_cons_of_mem server member)))
            later (disjoint_place disjoint (known server List.mem_cons_self) allocated visible)
            replaced

theorem hasFlavor_stored {server : Server} (member : server ∈ db.servers.rows)
    : HasFlavor db server.id server.flavor := by
  intro row stored
  cases (Table.get?_of_mem member).symm.trans stored
  rfl

theorem disjoint_create {serversDir : String} {diskRefusal : Option HttpError}
    {providerStarts : Bool} {now : Instant} {user : User} {payload : CreateServerRequest}
    {answer : Except Raised Unit} (disjoint : DisjointFootprints db.servers)
    (visible : ∀ node, selectBestNode settings db now 0 = some node
      → ¬ HiddenNeighbour settings tests db payload.flavor node.id)
    (done : createPlacedServer settings serversDir tests diskRefusal providerStarts now user
      payload db = (next, answer))
    : DisjointFootprints next.servers := by
  rcases createPlacedServer_cases done with
    rfl | rfl | ⟨row, adds, onNode, flavor, allocated, unique⟩
  · exact disjoint
  · exact disjoint.calm (calm_wakeUp now providerStarts db).servers
  · have apart (other : Server) (member : other ∈ db.servers.rows) : Apart row other := by
      intro placed sameNode
      cases selected : selectBestNode settings db now 0 with
      | none =>
          rw [selected] at onNode
          exact absurd onNode placed
      | some node =>
          rw [selected] at onNode
          rw [onNode, flavor] at allocated
          have sees := allocatePort_disjoint allocated member (sameNode.symm.trans onNode)
            (visible node selected)
          rw [← flavor] at sees
          exact sees
    intro left leftMember right rightMember distinct
    rw [adds.rows] at leftMember rightMember
    rcases List.mem_append.mp leftMember with leftOld | leftNew
    · rcases List.mem_append.mp rightMember with rightOld | rightNew
      · exact disjoint left leftOld right rightOld distinct
      · cases List.mem_singleton.mp rightNew
        exact (apart left leftOld).symm
    · cases List.mem_singleton.mp leftNew
      rcases List.mem_append.mp rightMember with rightOld | rightNew
      · exact apart right rightOld
      · cases List.mem_singleton.mp rightNew
        exact absurd rfl distinct

theorem disjoint_assign {now : Instant} {server : Server} {assigned : Bool}
    (disjoint : DisjointFootprints db.servers) (known : HasFlavor db server.id server.flavor)
    (visible : ∀ node,
      selectBestNode settings db now (requiredRamMb settings db now server.id) = some node
      → ¬ HiddenNeighbour settings tests db server.flavor node.id)
    (done : assignBestNode settings now tests server db = .ok (next, assigned))
    : DisjointFootprints next.servers := by
  rcases assignBestNode_ok done with ⟨_, rfl, _⟩ | ⟨node, port, _, selected, allocated, rfl, _⟩
  · exact disjoint
  · have placed := disjoint_place disjoint known allocated (visible node selected)
    have provisioning (moved : Database)
        : CalmServers moved (changeServer server.id (setServerState .provisioning) moved) :=
      .changeServer (fun _ => ⟨rfl, rfl, rfl, fun live => by cases live⟩) server.id moved
    exact DisjointFootprints.calm placed (provisioning
      (changeServer server.id (placeServer node port)
        (refreshNodeAllocatedRam settings now node.id db)))

theorem disjoint_prepare {serversDir : String} {lookedUp : Bool} {server : Server}
    (disjoint : DisjointFootprints db.servers)
    (current : server.vmPort = 0 → HasFlavor db server.id server.flavor
      ∧ ∀ nodeId, serverNode db server.id = some nodeId → server.nodeId = some nodeId
        ∧ ¬ HiddenNeighbour settings tests db server.flavor nodeId)
    (done : prepareServerForStart settings serversDir tests lookedUp server db = .ok next)
    : DisjointFootprints next.servers := by
  obtain ⟨port, allocates, rfl, _⟩ := prepareServerForStart_ok done
  by_cases missing : server.vmPort = 0
  · obtain ⟨known, current⟩ := current missing
    refine disjoint.modify (fun row stored other member _ placed sameNode => ?_)
    cases onNode : row.nodeId with
    | none => exact absurd onNode placed
    | some nodeId =>
        have named : serverNode db server.id = some nodeId := by
          rw [serverNode, stored, Option.bind_some, onNode]
        obtain ⟨same, visible⟩ := current nodeId named
        have allocated := allocates missing
        rw [same] at allocated
        have sees := allocatePort_disjoint allocated member (sameNode.symm.trans onNode) visible
        rw [← known row stored] at sees
        have given : ((configureServer serversDir server port).apply row).vmPort = port :=
          if_pos missing
        unfold Server.footprint
        rw [given]
        exact sees
  · refine disjoint.calm (.changeServer (fun row => ?_) server.id db)
    exact ⟨rfl, if_neg missing, rfl, id⟩

theorem disjoint_reassign {serverId : Uuid} {target : Node} {done : Bool}
    (disjoint : DisjointFootprints db.servers)
    (visible : ∀ row, db.servers.get? serverId = some row
      → ¬ HiddenNeighbour settings tests db row.flavor target.id)
    (reassigned : reassignServer settings tests serverId target db = .ok (next, done))
    : DisjointFootprints next.servers := by
  rcases reassignServer_ok reassigned with ⟨_, rfl⟩ | ⟨_, server, found, replaced, _⟩
  · exact disjoint
  · obtain ⟨member, rfl⟩ := Table.get?_some found
    obtain ⟨port, allocated, rfl⟩ := replaceServer_ok replaced
    exact disjoint_place disjoint (hasFlavor_stored member) allocated (visible server found)

theorem disjoint_rescue {node : Node} (disjoint : DisjointFootprints db.servers)
    (sees : AllocationsSee settings tests node (some db) (orphanedServers db) db)
    (rescued : rescueOrphans settings tests node db = .ok next)
    : DisjointFootprints next.servers := by
  obtain ⟨rfl, _⟩ := rescueOrphans_ok rescued
  refine disjoint_rescueServers _ (fun server member => ?_) sees disjoint disjoint
  have stored := hasFlavor_stored (List.mem_filter.mp member).1
  exact ⟨stored, stored⟩

theorem disjoint_shutDown {providerStops : Bool} {nodeId : Uuid} {allOnline : List Uuid}
    (disjoint : DisjointFootprints db.servers)
    (sees : ∀ target rest, remainingNodes db nodeId allOnline = target :: rest
      → AllocationsSee settings tests target none (allServersOnNode db nodeId) db)
    (shut : shutDownIdleNode settings tests providerStops nodeId allOnline db = .ok next)
    : DisjointFootprints next.servers := by
  rcases shutDownIdleNode_ok shut with
    rfl | ⟨target, rest, reassigned, online, replaced, servers, _, _⟩
  · exact disjoint
  · rw [servers]
    refine disjoint_replaceServers _ (fun server member => ?_) (sees target rest online)
      disjoint replaced
    exact hasFlavor_stored (List.mem_filter.mp (List.mem_mergeSort.mp member)).1

end Transactions

-- Runs

/-- The steps that keep the footprints of a node disjoint: a moved server keeps a port only where
it interlocks with no other, and an allocation sees the neighbours of its port.
-/
def KeepsPorts (site : Site) (pool : FleetPool World) (action : FleetAction)
    (outside : Outside World)
    : Prop :=
  let db := pool.world.db
  let hides := HiddenNeighbour site.settings outside.tests db
  match action with
  | .createServer _ payload =>
      ∀ node, selectBestNode site.settings db outside.now 0 = some node
        → ¬ hides payload.flavor node.id
  | .assignNode server =>
      HasFlavor db server.id server.flavor
      ∧ ∀ node, selectBestNode site.settings db outside.now
          (requiredRamMb site.settings db outside.now server.id) = some node
        → ¬ hides server.flavor node.id
  | .prepare server =>
      server.vmPort = 0 → HasFlavor db server.id server.flavor
        ∧ ∀ nodeId, serverNode db server.id = some nodeId
          → server.nodeId = some nodeId ∧ ¬ hides server.flavor nodeId
  | .moveToMigrationNode serverId oldNode =>
      ∀ node, chooseMigrationNode site.settings db outside.now serverId oldNode = some node
        → MovesApart db serverId node.id
  | .moveBack serverId oldNode => MovesApart db serverId oldNode.id
  | .rescueOrphans nodeId =>
      ∀ node, db.nodes.get? nodeId = some node
        → AllocationsSee site.settings outside.tests node (some db) (orphanedServers db) db
  | .reassign serverId target =>
      ∀ row, db.servers.get? serverId = some row → ¬ hides row.flavor target.id
  | .shutDown nodeId allOnline =>
      ∀ target rest, remainingNodes db nodeId allOnline = target :: rest
        → AllocationsSee site.settings outside.tests target none (allServersOnNode db nodeId) db
  | _ => True

theorem disjoint_commit {Error Result : Type} {fleet : Fleet World}
    (disjoint : DisjointFootprints fleet.db.servers)
    {outcome : Except Error (Database × Result)}
    (kept : ∀ next result, outcome = .ok (next, result) → DisjointFootprints next.servers)
    : DisjointFootprints (fleet.commit outcome).1.db.servers := by
  cases outcome with
  | error failure => exact disjoint
  | ok stored => exact kept _ _ rfl

theorem disjoint_commitOnly {Error : Type} {fleet : Fleet World}
    (disjoint : DisjointFootprints fleet.db.servers) {outcome : Except Error Database}
    (kept : ∀ next, outcome = .ok next → DisjointFootprints next.servers)
    : DisjointFootprints (fleet.commitOnly outcome).1.db.servers := by
  cases outcome with
  | error failure => exact disjoint
  | ok stored => exact kept _ rfl

theorem keepsPorts_ok (pool : FleetPool World) (action : FleetAction)
    (outside : Outside World) (condition : KeepsPorts site pool action outside)
    (disjoint : DisjointFootprints pool.world.db.servers)
    : DisjointFootprints (controlPlane World site action outside pool.world).1.db.servers := by
  have started : DisjointFootprints (pool.world.atTime outside.now).db.servers := disjoint
  have quiet (plain : ¬ Notable action)
      : DisjointFootprints (controlPlane World site action outside pool.world).1.db.servers :=
    disjoint.calm (calm_action action outside pool.world plain).servers
  cases action with
  | createServer user payload => exact disjoint_create disjoint condition rfl
  | checkNode server =>
      refine disjoint_commit started (fun next check done => ?_)
      rcases checkStartNode_ok done with ⟨rfl, _, _⟩ | ⟨rfl, _, _⟩ | ⟨rfl, rfl⟩
      · exact disjoint
      · exact disjoint
      · exact started.modify (fun row _ other _ _ placed => absurd rfl placed)
  | assignNode server =>
      exact disjoint_commit started (fun _ _ done =>
        disjoint_assign disjoint condition.1 condition.2 done)
  | prepare server =>
      exact disjoint_commitOnly started (fun _ done => disjoint_prepare disjoint condition done)
  | finishStart serverId =>
      exact started.modify (fun row stored other member distinct =>
        (disjoint row (Table.get?_some stored).1 other member
          (by rw [(Table.get?_some stored).2]; exact distinct.symm)).congr rfl rfl rfl rfl)
  | reconcileRunning serverId =>
      exact started.modify (fun row stored other member distinct =>
        (disjoint row (Table.get?_some stored).1 other member
          (by rw [(Table.get?_some stored).2]; exact distinct.symm)).congr rfl rfl rfl rfl)
  | moveToMigrationNode serverId oldNode =>
      refine disjoint_commit started (fun next node done => ?_)
      obtain ⟨chosen, rfl, unique⟩ := moveToMigrationNode_ok done
      exact disjoint_move disjoint (condition node chosen) unique
  | moveBack serverId oldNode =>
      refine disjoint_commitOnly started (fun next done => ?_)
      obtain ⟨rfl, unique⟩ := commitServers_ok done
      exact disjoint_move disjoint condition unique
  | rescueOrphans nodeId =>
      refine disjoint_commitOnly started (fun next done => ?_)
      dsimp only [Fleet.atTime] at done
      cases found : pool.world.db.nodes.get? nodeId with
      | none =>
          rw [found] at done
          cases done
      | some node =>
          rw [found] at done
          exact disjoint_rescue disjoint (condition node found) done
  | reassign serverId target =>
      exact disjoint_commit started (fun _ _ done =>
        disjoint_reassign disjoint condition done)
  | shutDown nodeId allOnline =>
      exact disjoint_commitOnly started (fun _ done => disjoint_shutDown disjoint condition done)
  | completeAdmission request node =>
      exact disjoint.calm
        (completeAdmission_frame site.settings outside.now request node pool.world.db).1
  | drain nodeId =>
      refine disjoint_commitOnly started (fun next done => ?_)
      exact disjoint.calm (.of_same (drainNode_frame done).1)
  | _ => exact quiet id

/-- Runs whose steps keep footprints disjoint never have two servers of a node on one port. -/
theorem footprints_stay_disjoint {start finish : FleetPool World}
    (reached : Reachable
      (Pool.StepWhen (controlPlane World site) (FleetHandler site) (KeepsPorts site)) start finish)
    (initial : DisjointFootprints start.world.db.servers)
    : DisjointFootprints finish.world.db.servers :=
  Pool.world_invariant (fun fleet => DisjointFootprints fleet.db.servers) keepsPorts_ok reached
    initial

private def twoBedrockServers (port : Int) : Fleet String where
  db :=
    sampleDatabase
      ⟨[sampleServer 0 1 port .running, sampleServer 5 2 19132 .suspended],
        by simp [sampleServer]⟩
  disks nodeId serverId := if nodeId = 1 ∧ serverId = 0 then some "world" else none
  processes := [(1, 0)]

/-- The rest of a migration that is about to move its server. -/
private def moveUnderWay : Program FleetAction FleetAnswer Raised Unit :=
  .act (.moveToMigrationNode 0 1) (fun _ => .done ())

/-- A server with the port 19140 moves. -/
theorem distant_ports_stay_disjoint
    : DisjointFootprints
        (controlPlane String sampleSite (.moveToMigrationNode 0 1) { now := 0, freshWorld := "new" }
          (twoBedrockServers 19140)).1.db.servers := by
  have nextAction
      : [moveUnderWay][0]? = some (.act (.moveToMigrationNode 0 1) (fun _ => .done ())) := rfl
  have taken
      : Pool.Step (controlPlane String sampleSite) (FleetHandler sampleSite)
          ⟨twoBedrockServers 19140, [moveUnderWay]⟩
          (.advance 0 { now := 0, freshWorld := "new" }) _ := .advance nextAction
  have met
      : KeepsPorts sampleSite ⟨twoBedrockServers 19140, [moveUnderWay]⟩
          (.moveToMigrationNode 0 1) { now := 0, freshWorld := "new" } := by
    intro node _ row stored other member distinct _
    have first : sampleServer 0 1 19140 .running = row := Option.some.inj stored
    subst first
    rcases List.mem_pair.mp member with rfl | rfl
    · exact absurd rfl distinct
    · rintro (⟨_, same⟩ | ⟨_, same⟩) <;> cases same
  have moved
      : Pool.StepWhen (controlPlane String sampleSite) (FleetHandler sampleSite)
          (KeepsPorts sampleSite) ⟨twoBedrockServers 19140, [moveUnderWay]⟩
          (.advance 0 { now := 0, freshWorld := "new" }) _ :=
    ⟨taken, fun index outside action next turn running => by
      cases turn
      cases running
      exact met⟩
  exact footprints_stay_disjoint ((Reachable.refl _).next moved) (by decide +kernel)

/-- The end of a migration to the node of a server on the port before. -/
private def afterNeighbourMove : Fleet String :=
  ((do let _ ← migrateServer sampleSite sampleUser 0 : Handler Unit).run sampleSite
    (sampleInputs []) (twoBedrockServers 19133)).world

/-- A migration of a server on port 19133 to the node of one on port 19132 shares port 19133. -/
theorem kept_port_collides
    : ¬ ∀ (site : Site) (start finish : FleetPool String),
        Reachable (Pool.Step (controlPlane String site) (FleetHandler site)) start finish
        → DisjointFootprints start.world.db.servers
        → DisjointFootprints finish.world.db.servers := by
  intro disjoint
  obtain ⟨last, run⟩ : ∃ last,
      Reachable (Pool.Step (controlPlane String sampleSite) (FleetHandler sampleSite))
        ⟨twoBedrockServers 19133, []⟩ ⟨afterNeighbourMove, [last]⟩ :=
    Pool.run_alone (.migrate sampleUser 0) [] (sampleInputs []) (twoBedrockServers 19133)
  have before : DisjointFootprints (twoBedrockServers 19133).db.servers := by decide +kernel
  have collides : ¬ DisjointFootprints afterNeighbourMove.db.servers := by decide +kernel
  exact collides (disjoint sampleSite _ _ run before)

end Blockhost.ControlPlane
