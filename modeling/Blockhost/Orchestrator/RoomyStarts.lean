import Blockhost.Api.StartChecks
import Blockhost.Orchestrator.FleetHandlers
import Blockhost.Orchestrator.StartSteps

/-! Whether the start of an entitled server, for which there is room, comes to the runtime. A
server that gets a new node is in provisioning from then on, which the preparation of a Java
server takes for a reason to refuse.
-/

namespace Blockhost.ControlPlane

open Library

variable {World : Type} {site : Site} {inputs : FleetAction → Outside World} {server : Server}
variable {db : Database}

/-- What a start looks up after the choice of a node is there. -/
structure Launchable (site : Site) (inputs : FleetAction → Outside World) (server : Server)
    (db : Database)
    : Prop where
  port : FindsPort site.settings (inputs (.prepare server)).tests db server
  version : isJavaFlavor server.flavor = false → (inputs (.prepare server)).succeeds = true
  runtime : (inputs (.checkLaunch server.id)).succeeds = true

/-- The node that a server finds which has none or leaves its own. -/
def bestNodeFor (site : Site) (inputs : FleetAction → Outside World) (server : Server)
    (db : Database)
    : Option Node :=
  let placing := inputs (.assignNode server)
  let left := leftNode server db
  selectBestNode site.settings left placing.now
    (requiredRamMb site.settings left placing.now server.id)

def portOn (site : Site) (inputs : FleetAction → Outside World) (server : Server) (node : Node)
    (db : Database)
    : Except String Int :=
  allocatePort site.settings (inputs (.assignNode server)).tests (leftNode server db)
    server.flavor (some node.id)

def afterPlacement (site : Site) (inputs : FleetAction → Outside World) (server : Server)
    (node : Node) (port : Int) (db : Database)
    : Database :=
  placedOn site.settings (inputs (.assignNode server)).now server.id node port
    (leftNode server db)

/-- A start that calls the runtime keeps the node, or moves a Bedrock server to the one found. -/
inductive RoomyStart (site : Site) (inputs : FleetAction → Outside World) (server : Server)
    (node : Node) (db : Database)
    : Prop where
  | keeps
    (here : keepsNode site.settings db (inputs (.checkNode server)).now server = true)
    (launches : Launchable site inputs server db)
  | moves
    (leaves : keepsNode site.settings db (inputs (.checkNode server)).now server = false)
    (bedrock : isJavaFlavor server.flavor = false)
    (valid : validateServerPortPairs (leftNode server db)
      (portRangeFor site.settings server.flavor) (some node.id) = .ok ())
    (launches : ∀ port, portOn site inputs server node db = .ok port
      → Launchable site inputs (server.placedOn node port)
        (afterPlacement site inputs server node port db))

theorem checkLaunch_prepared {tests : PortTests} {now time : Instant} {lookedUp : Bool}
    {port : Int} (stored : db.servers.get? server.id = some server)
    (allocated : server.vmPort = 0
      → allocatePort site.settings tests db server.flavor server.nodeId = .ok port)
    (entitled : ensureActiveSubscriptionForStart site.settings db now server.id = .ok ())
    : (checkLaunch site.settings now lookedUp server.id
        (touchServer time server.id
          (changeServer server.id (configureServer site.serversDir server port) db))).isOk
      = lookedUp := by
  have row : ∃ row, (touchServer time server.id
        (changeServer server.id (configureServer site.serversDir server port) db)).servers.get?
          server.id = some row
      ∧ row.vmPort = (if server.vmPort = 0 then port else server.vmPort)
      ∧ row.mcConfig.serverDir.isNone = false := by
    refine ⟨{ (configureServer site.serversDir server port).apply server with
      lastActivity := time }, ?_, rfl, rfl⟩
    unfold touchServer changeServer
    rw [Table.get?_modify, if_pos rfl, Table.get?_modify, if_pos rfl, stored]
    rfl
  obtain ⟨row, found, ported, configured⟩ := row
  have open' : ensureActiveSubscriptionForStart site.settings
      (touchServer time server.id
        (changeServer server.id (configureServer site.serversDir server port) db)) now server.id
      = .ok () :=
    entitled
  have used : row.vmPort ≠ 0 := by
    rw [ported]
    split
    · rename_i missing
      have member := (Table.get?_some stored).1
      exact missing ▸ allocatePort_other (allocated missing) member (.inr rfl)
    · assumption
  unfold checkLaunch
  simp only [found, open', configured, used]
  cases lookedUp <;> rfl

theorem launchOutcome_reached (stored : db.servers.get? server.id = some server)
    (unique : UniqueNodePorts db.servers)
    (entitled : ensureActiveSubscriptionForStart site.settings db
      (inputs (.checkLaunch server.id)).now server.id = .ok ())
    : (launchOutcome site inputs server db).reached = true
      ↔ (isJavaFlavor server.flavor = true → server.state ≠ .provisioning)
        ∧ Launchable site inputs server db := by
  have prepares
      : (∃ next, prepareServerForStart site.settings site.serversDir
          (inputs (.prepare server)).tests (inputs (.prepare server)).succeeds server db
        = .ok next)
        ↔ _ :=
    prepareServerForStart_iff stored unique
  unfold launchOutcome
  dsimp only
  cases prepared : prepareServerForStart site.settings site.serversDir
      (inputs (.prepare server)).tests (inputs (.prepare server)).succeeds server db with
  | error failure =>
      refine ⟨nofun, ?_⟩
      rintro ⟨settled, port, version, _⟩
      obtain ⟨next, done⟩ := prepares.mpr ⟨settled, port, version⟩
      rw [prepared] at done
      cases done
  | ok next =>
      obtain ⟨settled, port, version⟩ := prepares.mp ⟨next, prepared⟩
      obtain ⟨given, allocated, rfl, _⟩ := prepareServerForStart_ok prepared
      dsimp only
      rw [checkLaunch_prepared stored allocated entitled]
      exact ⟨fun runtime => ⟨settled, port, version, runtime⟩,
        fun launches => launches.2.runtime⟩

theorem entitled_afterPlacement {node : Node} {port : Int} {now : Instant}
    (entitled : ensureActiveSubscriptionForStart site.settings db now server.id = .ok ())
    : ensureActiveSubscriptionForStart site.settings
        (afterPlacement site inputs server node port db) now server.id = .ok () := by
  have left : ensureActiveSubscriptionForStart site.settings (leftNode server db) now server.id
      = .ok () := by
    unfold leftNode
    split <;> exact entitled
  exact left

theorem placingOutcome_reached {detached : Bool} {node : Node}
    (stored : db.servers.get? server.id = some server) (unique : UniqueNodePorts db.servers)
    (entitled : ensureActiveSubscriptionForStart site.settings db
      (inputs (.checkLaunch server.id)).now server.id = .ok ())
    (found : bestNodeFor site inputs server db = some node) {port : Int}
    (allocated : portOn site inputs server node db = .ok port)
    : (placingOutcome site inputs server detached (leftNode server db)).reached = true
      ↔ isJavaFlavor server.flavor = false
        ∧ Launchable site inputs (server.placedOn node port)
          (afterPlacement site inputs server node port db) := by
  obtain ⟨row, left, _, same⟩ := leftNode_get? stored
  have placed : (afterPlacement site inputs server node port db).servers.get? server.id
      = some (server.placedOn node port) :=
    (placedOn_get? left).trans (congrArg some (same node port))
  have valid : UniqueNodePorts (leftNode server db).servers := uniqueNodePorts_leftNode unique
  have reached : (launchOutcome site inputs (server.placedOn node port)
      (afterPlacement site inputs server node port db)).reached = true ↔ _ :=
    launchOutcome_reached placed (uniqueNodePorts_placedOn valid allocated)
      (entitled_afterPlacement entitled)
  unfold placingOutcome
  dsimp only
  rw [assignBestNode_places valid found allocated]
  change (reloadedOutcome site inputs server.id
      (afterPlacement site inputs server node port db)).reached
    = true ↔ _
  unfold reloadedOutcome
  rw [placed]
  refine reached.trans (and_congr_left' ?_)
  change (isJavaFlavor server.flavor = true → ServerState.provisioning ≠ .provisioning) ↔ _
  cases isJavaFlavor server.flavor <;> simp

/-- The start of an entitled server with room calls the runtime if and only if it keeps its node
or is a Bedrock server, and what it looks up is there.
-/
theorem roomy_start_reaches_iff {fleet : Fleet World} {router : Router}
    (stored : fleet.db.servers.get? server.id = some server)
    (unique : UniqueNodePorts fleet.db.servers) (settled : server.state ≠ .provisioning)
    (entitled : ensureActiveSubscriptionForStart site.settings fleet.db
      (inputs (.checkNode server)).now server.id = .ok ())
    (still : ensureActiveSubscriptionForStart site.settings fleet.db
      (inputs (.checkLaunch server.id)).now server.id = .ok ())
    {node : Node} (found : bestNodeFor site inputs server fleet.db = some node)
    (room : HasFreePort site.settings (inputs (.assignNode server)).tests
      (leftNode server fleet.db) server.flavor (some node.id))
    : (doStartServer site router server).reaches (controlPlane World site) inputs
        (callsRuntime server.id) fleet = true
      ↔ RoomyStart site inputs server node fleet.db := by
  rw [doStartServer_ends.reached]
  obtain ⟨stays, leaves⟩ := checkStartNode_entitled entitled
  unfold startOutcome
  cases home : keepsNode site.settings fleet.db (inputs (.checkNode server)).now server with
  | true =>
      rw [stays home]
      refine (launchOutcome_reached stored unique still).trans ?_
      constructor
      · rintro ⟨_, launches⟩
        exact .keeps home launches
      · rintro (⟨_, launches⟩ | ⟨gone, _⟩)
        · exact ⟨fun _ => settled, launches⟩
        · cases home.symm.trans gone
  | false =>
      rw [leaves home]
      have allocates : (∃ port, portOn site inputs server node fleet.db = .ok port) ↔ _ :=
        allocatePort_iff
      have placing (detached : Bool)
          : (placingOutcome site inputs server detached (leftNode server fleet.db)).reached
              = true
            ↔ RoomyStart site inputs server node fleet.db := by
        cases allocated : portOn site inputs server node fleet.db with
        | error failure =>
            have never : ¬ ∃ port, portOn site inputs server node fleet.db = .ok port := by
              simp [allocated]
            constructor
            · intro reached
              unfold placingOutcome at reached
              dsimp only at reached
              rw [assignBestNode_fails found allocated] at reached
              cases reached
            · rintro (⟨here, _⟩ | ⟨_, _, valid, _⟩)
              · cases home.symm.trans here
              · exact absurd (allocates.mpr ⟨valid, room⟩) never
        | ok port =>
            refine (placingOutcome_reached stored unique still found allocated).trans ?_
            constructor
            · rintro ⟨bedrock, launches⟩
              refine .moves home bedrock (allocates.mp ⟨port, allocated⟩).1 ?_
              intro other given
              cases allocated.symm.trans given
              exact launches
            · rintro (⟨here, _⟩ | ⟨_, bedrock, _, launches⟩)
              · cases home.symm.trans here
              · exact ⟨bedrock, launches port allocated⟩
      cases server.nodeId.isSome with
      | true => exact placing true
      | false => exact placing false

/-- A paid server on a node that is offline. -/
def strandedServer (flavor : ServerFlavor) : Server :=
  { sampleServer 0 3 19134 .suspended with flavor, vmIpv4 := some "10.0.0.3" }

def strandedFleet (flavor : ServerFlavor) : Fleet String where
  db :=
    { sampleDatabase ⟨[strandedServer flavor], List.nodup_singleton _⟩ with
      nodes := ⟨[sampleNode 1 8192, { sampleNode 3 8192 with status := .offline }], by decide⟩ }

theorem stranded_room (flavor : ServerFlavor)
    : HasFreePort sampleSite.settings (answeredCalls (.assignNode (strandedServer flavor))).tests
        (leftNode (strandedServer flavor) (strandedFleet flavor).db) flavor (some 1) := by
  cases flavor <;> exact (allocatePort_iff.mp ⟨_, by rfl⟩).2

/-- A stranded Bedrock server starts on the other node. -/
theorem stranded_bedrock_starts
    : (doStartServer sampleSite .api (strandedServer .bedrock)).reaches
        (controlPlane String sampleSite) answeredCalls (callsRuntime 0) (strandedFleet .bedrock)
      = true := by
  have found : bestNodeFor sampleSite answeredCalls (strandedServer .bedrock)
      (strandedFleet .bedrock).db = some (sampleNode 1 8192) :=
    rfl
  have unique : UniqueNodePorts (strandedFleet .bedrock).db.servers := by decide
  have stored : (strandedFleet .bedrock).db.servers.get? (strandedServer .bedrock).id
      = some (strandedServer .bedrock) :=
    rfl
  have room := stranded_room .bedrock
  refine (roomy_start_reaches_iff stored unique nofun rfl rfl found room).mpr ?_
  refine .moves rfl rfl rfl ?_
  intro port allocated
  have given : portOn sampleSite answeredCalls (strandedServer .bedrock) (sampleNode 1 8192)
      (strandedFleet .bedrock).db = .ok 19132 :=
    rfl
  cases given.symm.trans allocated
  exact ⟨.inl (by decide), fun _ => rfl, rfl⟩

/-- A stranded Java server with room does not start. -/
theorem stranded_java_refused
    : ¬ ∀ (flavor : ServerFlavor) (fleet : Fleet String) (node : Node) (server : Server),
        fleet.db.servers.get? server.id = some server
        → UniqueNodePorts fleet.db.servers
        → server.flavor = flavor → server.state ≠ .provisioning
        → ensureActiveSubscriptionForStart sampleSite.settings fleet.db 0 server.id = .ok ()
        → bestNodeFor sampleSite answeredCalls server fleet.db = some node
        → HasFreePort sampleSite.settings {} (leftNode server fleet.db) server.flavor
          (some node.id)
        → (doStartServer sampleSite .api server).reaches (controlPlane String sampleSite)
          answeredCalls (callsRuntime server.id) fleet = true := by
  intro starts
  have reached := starts .paper (strandedFleet .paper) (sampleNode 1 8192)
    (strandedServer .paper) rfl (by decide) rfl (by decide) rfl rfl (stranded_room .paper)
  revert reached
  decide +kernel

end Blockhost.ControlPlane
