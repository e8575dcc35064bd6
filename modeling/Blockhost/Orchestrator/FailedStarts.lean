import Blockhost.Api.MigrationRuns
import Blockhost.Orchestrator.RoomyStarts

/-! What a failed start leaves of the placement of its server. The start commits three times
before it calls the runtime: it takes the server off its node, puts it on another one, and stores
a port. No failure undoes any of that.
-/

namespace Blockhost.ControlPlane

open Library

variable {World : Type} {site : Site} {inputs : FleetAction → Outside World} {server : Server}
variable {db : Database}

/-- The row is where it was, and not newly in provisioning. -/
structure SamePlacement (before after : Server) : Prop where
  nodeId : after.nodeId = before.nodeId
  vmIpv4 : after.vmIpv4 = before.vmIpv4
  vmPort : after.vmPort = before.vmPort
  state : after.state = .provisioning → before.state = .provisioning

/-- The server, if it was stored, still is where it was. -/
def PlacementKept (serverId : Uuid) (before after : Database) : Prop :=
  ∀ row, before.servers.get? serverId = some row
    → ∃ next, after.servers.get? serverId = some next ∧ SamePlacement row next

def preparedPort (site : Site) (inputs : FleetAction → Outside World) (server : Server)
    (db : Database)
    : Int :=
  let java := isJavaFlavor server.flavor
  let preparing := inputs (.prepare server)
  match allocatePort site.settings preparing.tests db server.flavor server.nodeId with
  | .error _ => server.vmPort
  | .ok port =>
      if server.vmPort = 0 && !(java && server.state = .provisioning)
          && (java || preparing.succeeds) then port
      else server.vmPort

/-- A start after which the server is where it was: it is refused, or it keeps its node, or it
finds none and had none, or it comes back to where it was; and no port is stored for it.
-/
inductive KeepsPlacement (site : Site) (inputs : FleetAction → Outside World) (server : Server)
    (db : Database)
    : Prop where
  | refused {failure : BillingError}
    (refused : ensureActiveSubscriptionForStart site.settings db
      (inputs (.checkNode server)).now server.id = .error failure)
  | stays
    (here : keepsNode site.settings db (inputs (.checkNode server)).now server = true)
    (port : preparedPort site inputs server db = server.vmPort)
  | waits
    (unassigned : server.nodeId = none)
    (missing : bestNodeFor site inputs server db = none)
    (port : site.settings.productionMode = false
      → preparedPort site inputs server db = server.vmPort)
  | full {node : Node} {refusal : String}
    (unassigned : server.nodeId = none)
    (found : bestNodeFor site inputs server db = some node)
    (refused : portOn site inputs server node db = .error refusal)
  | returns {node : Node} {port : Int}
    (leaves : keepsNode site.settings db (inputs (.checkNode server)).now server = false)
    (found : bestNodeFor site inputs server db = some node)
    (allocated : portOn site inputs server node db = .ok port)
    (home : server.nodeId = some node.id) (address : server.vmIpv4 = some node.ipAddress)
    (provisioning : server.state = .provisioning)
    (port : preparedPort site inputs (server.placedOn node port)
      (afterPlacement site inputs server node port db) = server.vmPort)

theorem SamePlacement.refl (row : Server) : SamePlacement row row := ⟨rfl, rfl, rfl, id⟩

theorem placementKept_iff {next : Database} {serverId : Uuid} {row : Server}
    (stored : db.servers.get? serverId = some server)
    (found : next.servers.get? serverId = some row)
    : PlacementKept serverId db next ↔ SamePlacement server row := by
  constructor
  · intro kept
    obtain ⟨other, known, same⟩ := kept server stored
    cases found.symm.trans known
    exact same
  · intro same before known
    cases stored.symm.trans known
    exact ⟨row, found, same⟩

theorem launchOutcome_row (site : Site) (inputs : FleetAction → Outside World)
    (stored : db.servers.get? server.id = some server)
    (unique : UniqueNodePorts db.servers)
    : ∃ row, (launchOutcome site inputs server db).stored.servers.get? server.id = some row
      ∧ row.nodeId = server.nodeId ∧ row.vmIpv4 = server.vmIpv4 ∧ row.state = server.state
      ∧ row.vmPort = preparedPort site inputs server db := by
  have prepares
      : (∃ next, prepareServerForStart site.settings site.serversDir
          (inputs (.prepare server)).tests (inputs (.prepare server)).succeeds server db
        = .ok next)
        ↔ _ :=
    prepareServerForStart_iff stored unique
  unfold launchOutcome preparedPort
  dsimp only
  cases prepared : prepareServerForStart site.settings site.serversDir
      (inputs (.prepare server)).tests (inputs (.prepare server)).succeeds server db with
  | error failure =>
      refine ⟨server, stored, rfl, rfl, rfl, ?_⟩
      split
      · rfl
      · rename_i port allocated
        split
        · rename_i passes
          simp only [Bool.and_eq_true, decide_eq_true_eq, Bool.not_eq_true',
            Bool.and_eq_false_imp, decide_eq_false_iff_not, Bool.or_eq_true] at passes
          obtain ⟨⟨missing, settled⟩, version⟩ := passes
          have bedrock (flavor : isJavaFlavor server.flavor = false)
              : (inputs (.prepare server)).succeeds = true :=
            version.resolve_left (fun java => nomatch flavor.symm.trans java)
          obtain ⟨next, done⟩ := prepares.mpr ⟨settled, .inr ⟨port, allocated⟩, bedrock⟩
          cases prepared.symm.trans done
        · rfl
  | ok next =>
      obtain ⟨settled, _, version⟩ := prepares.mp ⟨next, prepared⟩
      obtain ⟨port, allocated, rfl, _⟩ := prepareServerForStart_ok prepared
      refine ⟨{ (configureServer site.serversDir server port).apply server with
        lastActivity := (inputs (.touch server.id)).now }, ?_, rfl, rfl, rfl, ?_⟩
      · unfold touchServer changeServer
        dsimp only
        rw [Table.get?_modify, if_pos rfl, Table.get?_modify, if_pos rfl, stored]
        rfl
      · change (if server.vmPort = 0 then port else server.vmPort) = _
        by_cases missing : server.vmPort = 0
        · rw [if_pos missing, allocated missing]
          cases java : isJavaFlavor server.flavor with
          | true => simp [missing, settled java]
          | false => simp [missing, version java]
        · simp only [missing, ↓reduceIte, decide_false, Bool.false_and, Bool.false_eq_true]
          split <;> rfl

theorem reloadedOutcome_row (site : Site) (inputs : FleetAction → Outside World)
    {serverId : Uuid} {row : Server} (stored : db.servers.get? serverId = some row)
    (unique : UniqueNodePorts db.servers)
    : ∃ after,
        (reloadedOutcome site inputs serverId db).stored.servers.get? serverId = some after
      ∧ after.nodeId = row.nodeId ∧ after.vmIpv4 = row.vmIpv4 ∧ after.state = row.state
      ∧ after.vmPort = preparedPort site inputs row db := by
  have same : row.id = serverId := (Table.get?_some stored).2
  subst same
  unfold reloadedOutcome
  rw [stored]
  exact launchOutcome_row site inputs stored unique

-- Servers that look for a node

theorem not_kept_of_unassigned {next : Database} {row : Server}
    (stored : db.servers.get? server.id = some server) (assigned : server.nodeId ≠ none)
    (found : next.servers.get? server.id = some row) (lost : row.nodeId = none)
    : ¬ PlacementKept server.id db next := by
  intro kept
  have same := (placementKept_iff stored found).mp kept
  exact assigned (same.nodeId.symm.trans lost)

theorem KeepsPlacement.comesBack (keeps : KeepsPlacement site inputs server db)
    (entitled : ensureActiveSubscriptionForStart site.settings db
      (inputs (.checkNode server)).now server.id = .ok ())
    (leaves : keepsNode site.settings db (inputs (.checkNode server)).now server = false)
    (assigned : server.nodeId ≠ none)
    : ∃ node port, bestNodeFor site inputs server db = some node
      ∧ portOn site inputs server node db = .ok port := by
  cases keeps with
  | refused refused => cases entitled.symm.trans refused
  | stays here _ => cases leaves.symm.trans here
  | waits unassigned _ _ => exact absurd unassigned assigned
  | full unassigned _ _ => exact absurd unassigned assigned
  | returns _ found allocated _ _ _ _ => exact ⟨_, _, found, allocated⟩

theorem autoWakeup_servers (now : Instant) (providerStarts : Bool) (db : Database)
    : (autoWakeupOfflineNode now providerStarts db).1.servers = db.servers := by
  rcases autoWakeupOfflineNode_cases now providerStarts db with same | ⟨_, _, _, written⟩
  · rw [same]
  · rw [written]

section Placing

variable (stored : db.servers.get? server.id = some server) (unique : UniqueNodePorts db.servers)
variable (entitled : ensureActiveSubscriptionForStart site.settings db
  (inputs (.checkNode server)).now server.id = .ok ())
variable (leaves : keepsNode site.settings db (inputs (.checkNode server)).now server = false)

include stored entitled leaves

theorem full_keeps_iff {node : Node} {refusal : String}
    (found : bestNodeFor site inputs server db = some node)
    (refused : portOn site inputs server node db = .error refusal)
    : PlacementKept server.id db
        (placingOutcome site inputs server server.nodeId.isSome (leftNode server db)).stored
      ↔ KeepsPlacement site inputs server db := by
  obtain ⟨left, known, lost, _⟩ := leftNode_get? stored
  unfold placingOutcome
  dsimp only
  rw [assignBestNode_fails found refused]
  change PlacementKept server.id db (leftNode server db) ↔ _
  by_cases home : server.nodeId = none
  · have here : leftNode server db = db := if_neg (by simp [home])
    rw [here]
    exact iff_of_true ((placementKept_iff stored stored).mpr (.refl server))
      (.full home found refused)
  · refine iff_of_false (not_kept_of_unassigned stored home known lost) ?_
    intro keeps
    obtain ⟨other, _, same, allocated⟩ := keeps.comesBack entitled leaves home
    cases found.symm.trans same
    cases refused.symm.trans allocated

include unique

theorem missed_keeps_iff (missing : bestNodeFor site inputs server db = none)
    : PlacementKept server.id db
        (placingOutcome site inputs server server.nodeId.isSome (leftNode server db)).stored
      ↔ KeepsPlacement site inputs server db := by
  obtain ⟨left, found, lost, _⟩ := leftNode_get? stored
  unfold placingOutcome
  dsimp only
  rw [assignBestNode_misses missing]
  dsimp only
  cases home : server.nodeId with
  | none =>
      have here : leftNode server db = db := if_neg (by simp [home])
      rw [here]
      cases mode : site.settings.productionMode with
      | true =>
          have known : (autoWakeupOfflineNode (inputs .wakeUpNode).now
              (inputs .wakeUpNode).succeeds db).1.servers.get? server.id = some server := by
            rw [autoWakeup_servers]
            exact stored
          exact iff_of_true ((placementKept_iff stored known).mpr (.refl server))
            (.waits home missing (fun test => nomatch mode.symm.trans test))
      | false =>
          obtain ⟨row, known, nodeId, address, state, port⟩ :=
            launchOutcome_row site inputs stored unique
          refine (placementKept_iff stored known).trans ?_
          constructor
          · intro same
            exact .waits home missing (fun _ => port.symm.trans same.vmPort)
          · intro keeps
            cases keeps with
            | refused refused => cases entitled.symm.trans refused
            | stays here _ => cases leaves.symm.trans here
            | waits _ _ same =>
                exact ⟨nodeId, address, port.trans (same mode), fun waits => state ▸ waits⟩
            | full _ found _ => cases missing.symm.trans found
            | returns _ found _ _ _ _ _ => cases missing.symm.trans found
  | some nodeId =>
      have assigned : server.nodeId ≠ none := by simp [home]
      have gone : ¬ KeepsPlacement site inputs server db := by
        intro keeps
        obtain ⟨_, _, found, _⟩ := keeps.comesBack entitled leaves assigned
        cases missing.symm.trans found
      refine iff_of_false ?_ gone
      cases mode : site.settings.productionMode with
      | true =>
          have known : (autoWakeupOfflineNode (inputs .wakeUpNode).now
              (inputs .wakeUpNode).succeeds (leftNode server db)).1.servers.get? server.id
              = some left := by
            rw [autoWakeup_servers]
            exact found
          exact not_kept_of_unassigned stored assigned known lost
      | false =>
          obtain ⟨row, known, nodeId, _⟩ := reloadedOutcome_row site inputs found
            (uniqueNodePorts_leftNode unique)
          exact not_kept_of_unassigned stored assigned known (nodeId.trans lost)

theorem placed_keeps_iff {node : Node} {port : Int}
    (found : bestNodeFor site inputs server db = some node)
    (allocated : portOn site inputs server node db = .ok port)
    : PlacementKept server.id db
        (placingOutcome site inputs server server.nodeId.isSome (leftNode server db)).stored
      ↔ KeepsPlacement site inputs server db := by
  obtain ⟨left, known, _, same⟩ := leftNode_get? stored
  have placed : (afterPlacement site inputs server node port db).servers.get? server.id
      = some (server.placedOn node port) :=
    (placedOn_get? known).trans (congrArg some (same node port))
  have valid : UniqueNodePorts (leftNode server db).servers := uniqueNodePorts_leftNode unique
  unfold placingOutcome
  dsimp only
  rw [assignBestNode_places valid found allocated]
  obtain ⟨row, stays, nodeId, address, state, ports⟩ :=
    reloadedOutcome_row site inputs placed (uniqueNodePorts_placedOn valid allocated)
  refine (placementKept_iff stored stays).trans ?_
  constructor
  · intro kept
    exact .returns leaves found allocated (kept.nodeId.symm.trans nodeId)
      (kept.vmIpv4.symm.trans address) (kept.state state) (ports.symm.trans kept.vmPort)
  · intro keeps
    cases keeps with
    | refused refused => cases entitled.symm.trans refused
    | stays here _ => cases leaves.symm.trans here
    | waits _ missing _ => cases missing.symm.trans found
    | full _ other refused =>
        cases found.symm.trans other
        cases refused.symm.trans allocated
    | returns _ other again home ip provisioning kept =>
        cases found.symm.trans other
        cases allocated.symm.trans again
        exact ⟨nodeId.trans home.symm, address.trans ip.symm, ports.trans kept,
          fun _ => provisioning⟩

end Placing

theorem startOutcome_keeps_iff (stored : db.servers.get? server.id = some server)
    (unique : UniqueNodePorts db.servers)
    : PlacementKept server.id db (startOutcome site inputs server db).stored
      ↔ KeepsPlacement site inputs server db := by
  unfold startOutcome
  cases entitled : ensureActiveSubscriptionForStart site.settings db
      (inputs (.checkNode server)).now server.id with
  | error failure =>
      rw [checkStartNode_refused entitled]
      exact iff_of_true ((placementKept_iff stored stored).mpr (.refl server))
        (.refused entitled)
  | ok _ =>
      obtain ⟨stays, leaves⟩ := checkStartNode_entitled entitled
      cases home : keepsNode site.settings db (inputs (.checkNode server)).now server with
      | true =>
          rw [stays home]
          obtain ⟨row, known, nodeId, address, state, port⟩ :=
            launchOutcome_row site inputs stored unique
          refine (placementKept_iff stored known).trans ?_
          constructor
          · intro same
            exact .stays home (port.symm.trans same.vmPort)
          · intro keeps
            cases keeps with
            | refused refused => cases entitled.symm.trans refused
            | stays _ same =>
                exact ⟨nodeId, address, port.trans same, fun waits => state ▸ waits⟩
            | waits unassigned _ _ => cases home.symm.trans (keepsNode_unassigned unassigned)
            | full unassigned _ _ => cases home.symm.trans (keepsNode_unassigned unassigned)
            | returns leaves _ _ _ _ _ _ => cases home.symm.trans leaves
      | false =>
          have placing : PlacementKept server.id db
              (placingOutcome site inputs server server.nodeId.isSome
                (leftNode server db)).stored
              ↔ KeepsPlacement site inputs server db := by
            cases found : bestNodeFor site inputs server db with
            | none => exact missed_keeps_iff stored unique entitled home found
            | some node =>
                cases allocated : portOn site inputs server node db with
                | error refusal => exact full_keeps_iff stored entitled home found allocated
                | ok port => exact placed_keeps_iff stored unique entitled home found allocated
          rw [leaves home]
          cases assigned : server.nodeId.isSome <;> rw [assigned] at placing <;> exact placing

-- The request

theorem actuallyRunning_answers (site : Site) (server : Server) (fleet : Fleet World)
    : Handler.Ensures site (fun _ => True) (actuallyRunning server)
        (fun after result => after.db = fleet.db ∧ ∃ running, result = .ok running) fleet := by
  unfold actuallyRunning
  split
  · refine ensures_ask ?_
    intro _ routed target _ routing
    have same : routed.db = fleet.db := (records_route routing).db
    cases target with
    | none => exact ⟨same, _, rfl⟩
    | some nodeId =>
        refine ensures_only ?_
        intro _ asked running _ asking
        cases asking
        exact ⟨same, _, rfl⟩
  · exact ⟨rfl, _, rfl⟩

theorem refreshServerNode_returns {serverId : Uuid} {fleet : Fleet World} {row : Server}
    (found : fleet.db.servers.get? serverId = some row)
    : ((refreshServerNode serverId).settle (controlPlane World site) inputs fleet).2
      = .ok () := by
  obtain ⟨loaded, answer, took⟩ :=
    took_some site (.loadServer serverId) (inputs (.loadServer serverId)) fleet
  obtain ⟨answered, _⟩ := took_loadServer took
  cases answered.trans found
  refine (congrArg Prod.snd (settle_took took)).trans ?_
  obtain ⟨_, nodeId, _⟩ := row
  cases nodeId <;> rfl

theorem startServer_refused {user : User} {serverId : Uuid} {fleet : Fleet World}
    {refusal : HttpError}
    (refused : getServerForUser fleet.db serverId user "start_stop" = .error refusal)
    : ((startServer site user serverId).settle (controlPlane World site) inputs fleet).1.db
      = fleet.db := by
  obtain ⟨loaded, answer, took⟩ :=
    took_some site (.serverForUser user serverId "start_stop")
      (inputs (.serverForUser user serverId "start_stop")) fleet
  obtain ⟨answered, wrote⟩ := took_serverForUser took
  rw [refused] at answered
  cases answered
  unfold startServer
  rw [settle_took took]
  exact wrote.db

theorem startServer_granted (site : Site) (inputs : FleetAction → Outside World)
    {user : User} {serverId : Uuid} {fleet : Fleet World}
    (granted : getServerForUser fleet.db serverId user "start_stop" = .ok server)
    : ((startServer site user serverId).settle (controlPlane World site) inputs fleet).2 = .ok ()
      ∨ ∃ asked : Fleet World, asked.db = fleet.db
        ∧ (startServer site user serverId).settle (controlPlane World site) inputs fleet
          = (startOrConflict site server >>= fun _ => refreshServerNode serverId).settle
              (controlPlane World site) inputs asked := by
  obtain ⟨loaded, answer, took⟩ :=
    took_some site (.serverForUser user serverId "start_stop")
      (inputs (.serverForUser user serverId "start_stop")) fleet
  obtain ⟨answered, wrote⟩ := took_serverForUser took
  rw [granted] at answered
  cases answered
  have answers := (actuallyRunning_answers site server loaded).settle inputs (fun _ => trivial)
  cases asks : (actuallyRunning server).settle (controlPlane World site) inputs loaded with
  | mk asked result =>
      rw [asks] at answers
      obtain ⟨same, running, known⟩ := answers
      cases known
      cases running with
      | true =>
          left
          unfold startServer
          rw [settle_took took]
          exact congrArg Prod.snd (Program.settle_bind_ok asks)
      | false =>
          refine .inr ⟨asked, same.trans wrote.db, ?_⟩
          unfold startServer
          rw [settle_took took]
          exact Program.settle_bind_ok asks

/-- A start that fails leaves the placement of its server alone if and only if the server is
refused, stays, or finds nothing, and gets no port: the commits of the start are never undone.
-/
theorem failed_start_keeps_placement_iff {user : User} {serverId : Uuid} {fleet : Fleet World}
    (unique : UniqueNodePorts fleet.db.servers) {failure : Raised}
    (failed : ((startServer site user serverId).settle (controlPlane World site) inputs fleet).2
      = .error failure)
    : PlacementKept serverId fleet.db
        ((startServer site user serverId).settle (controlPlane World site) inputs fleet).1.db
      ↔ ∀ server, getServerForUser fleet.db serverId user "start_stop" = .ok server
        → KeepsPlacement site inputs server fleet.db := by
  cases granted : getServerForUser fleet.db serverId user "start_stop" with
  | error refusal =>
      rw [startServer_refused granted]
      constructor
      · intro _ server same
        cases same
      · intro _ row stored
        exact ⟨row, stored, .refl row⟩
  | ok server =>
      have stored := getServerForUser_ok granted
      obtain rfl : server.id = serverId := (Table.get?_some stored).2
      obtain returned | ⟨asked, same, goesOn⟩ := startServer_granted site inputs granted
      · cases failed.symm.trans returned
      · have ends : Ends site inputs server.id (startOrConflict site server) asked
            (startOutcome site inputs server asked.db) :=
          ends_handle (fun failure => by cases failure <;> exact ⟨_, rfl⟩) doStartServer_ends
        cases settled : (startOrConflict site server).settle (controlPlane World site) inputs
            asked with
        | mk started result =>
            have kept := ends.stored
            have found := ends.returned
            rw [settled] at kept found
            cases result with
            | error failure =>
                rw [goesOn, Program.settle_bind_error settled]
                have outcome : started.db = (startOutcome site inputs server fleet.db).stored :=
                  same ▸ kept failure rfl
                dsimp only
                rw [outcome]
                refine (startOutcome_keeps_iff stored unique).trans ?_
                simp
            | ok value =>
                obtain ⟨row, found⟩ := found rfl
                rw [goesOn, Program.settle_bind_ok settled, refreshServerNode_returns found]
                  at failed
                cases failed

/-- A server with a port on an online node, whose agent does not answer, stays where it is. -/
theorem unanswered_start_keeps_placement
    : PlacementKept 0 (sampleDatabase ⟨[sampleServer 0 1 19136 .suspended], by decide⟩)
        ((startServer sampleSite sampleUser 0).settle (controlPlane String sampleSite)
          (fun _ => { now := 0, reply := .refused, freshWorld := "new" })
          { db := sampleDatabase ⟨[sampleServer 0 1 19136 .suspended], by decide⟩ }).1.db := by
  have refused : ((startServer sampleSite sampleUser 0).settle (controlPlane String sampleSite)
      (fun _ => { now := 0, reply := .refused, freshWorld := "new" })
      { db := sampleDatabase ⟨[sampleServer 0 1 19136 .suspended], by decide⟩ }).2
      = .error (.http ⟨503, "Failed to start Bedrock process"⟩) := by
    decide +kernel
  refine (failed_start_keeps_placement_iff (by decide) refused).mpr ?_
  intro server granted
  cases granted
  exact .stays (by decide) (by decide)

/-- A Java server on a dead node is put on another one before its start is refused. -/
theorem stranded_java_start_moves
    : ∃ failure,
        ((startServer sampleSite sampleUser 0).settle (controlPlane String sampleSite)
          answeredCalls (strandedFleet .fabric)).2 = .error failure
        ∧ ¬ PlacementKept 0 (strandedFleet .fabric).db
          ((startServer sampleSite sampleUser 0).settle (controlPlane String sampleSite)
            answeredCalls (strandedFleet .fabric)).1.db := by
  refine ⟨.http ⟨409, "Server is still provisioning; check /provision-status and try again"⟩,
    by decide +kernel, ?_⟩
  intro kept
  obtain ⟨next, stored, same⟩ := kept (strandedServer .fabric) rfl
  have moved : (((startServer sampleSite sampleUser 0).settle (controlPlane String sampleSite)
      answeredCalls (strandedFleet .fabric)).1.db.servers.get? 0).map Server.nodeId
      = some (some 1) := by
    decide +kernel
  rw [stored] at moved
  cases (Option.some.inj moved).symm.trans same.nodeId

end Blockhost.ControlPlane
