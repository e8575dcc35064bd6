import Blockhost.Orchestrator.HandlerProtocols
import Blockhost.Orchestrator.TransactionFrames

/-! Every handler marks a server as running only at the end of a launch that it has checked: from
the check to the mark it goes straight on with that server.
-/

namespace Blockhost.ControlPlane

open Library

-- The protocol of a launch

def launched : FleetAction → Option Uuid
  | .routeStart _ serverId => some serverId
  | .call _ (.start serverId) => some serverId
  | .finishStart serverId => some serverId
  | _ => none

def launchWindow (window : Option Uuid)
    : (action : FleetAction) → FleetAnswer action → Option Uuid
  | .checkLaunch serverId, .ok _ => some serverId
  | action, _ => if launched action = window then window else none

def MayMark (window : Option Uuid) : FleetAction → Prop
  | .finishStart serverId => window = some serverId
  | _ => True

/-- A program keeps to the protocol from a window on. -/
abbrev Gated {Result : Type} (window : Option Uuid) (program : Handler Result) : Prop :=
  program.Follows launchWindow MayMark window

def AlwaysGated {Result : Type} (program : Handler Result) : Prop :=
  ∀ window, Gated window program

theorem Gated.close {Result : Type} {serverId : Uuid} {action : FleetAction}
    {next : FleetAnswer action → Handler Result}
    (gated : Gated (some serverId) (.act action next)) (unused : launched action ≠ some serverId)
    : Gated none (.act action next) := by
  refine ⟨?_, fun answer => ?_⟩
  · cases action with
    | finishStart marked =>
        have same : some serverId = some marked := gated.1
        exact absurd same.symm unused
    | _ => trivial
  · have later := gated.2 answer
    have same : launchWindow (some serverId) action answer = launchWindow none action answer := by
      unfold launchWindow
      split
      · rfl
      · rw [if_neg unused, ite_self]
    rw [← same]
    exact later

theorem gated_startServerProcess (router : Router) (serverId : Uuid)
    : AlwaysFollows launchWindow MayMark (startServerProcess router serverId) := by
  intro window
  refine ⟨trivial, fun checked => ?_⟩
  cases checked with
  | error failure => exact AlwaysFollows.throw failure _
  | ok row =>
      refine ⟨trivial, fun nodeId => ?_⟩
      cases nodeId with
      | none => exact AlwaysFollows.throw .exception _
      | some nodeId =>
          refine ⟨trivial, fun answered => ?_⟩
          cases answered with
          | false => exact AlwaysFollows.throw .exception _
          | true =>
              have opened : launchWindow (launchWindow (some serverId)
                  (.routeStart router serverId) (some nodeId)) (.call nodeId (.start serverId)) true
                  = some serverId := by
                simp [launchWindow, launched]
              refine ⟨opened, fun _ => trivial⟩

theorem servesGate : ServesHandlers launchWindow MayMark where
  plain {action} quiet _ := by
    cases action with
    | finishStart serverId => cases quiet
    | _ => trivial
  launch := gated_startServerProcess

-- All handlers

variable {site : Site}

theorem gated_rebalanceServer {choice : MigrationChoice}
    : AlwaysFollows launchWindow MayMark (rebalanceServer site choice) := by
  refine .andThen (fun _ => trivial) (fun _ => .andThen (fun _ => trivial) (fun _ => ?_))
  refine .andRaise (fun _ => trivial) (fun _ => .ite ?_ (.pure false))
  refine .andThen (fun _ => trivial) (fun _ => .ite (follows_startReassigned servesGate) ?_)
  exact .andThen (fun _ => trivial) (fun _ => .andThen (fun _ => trivial) (fun _ =>
    .andThen (fun _ => trivial) (fun _ => .pure true)))

theorem gated_consolidate {nodes : List Uuid}
    : AlwaysFollows launchWindow MayMark (consolidate site nodes) := by
  refine .ite (.pure false) (.andThen (fun _ => trivial) (fun _ => .ite ?_ (.pure false)))
  refine .andThen (fun _ => trivial) (fun choice => ?_)
  cases choice with
  | none => exact .pure false
  | some choice => exact gated_rebalanceServer.bind (fun _ => .pure true)

theorem gated_relieve {nodes : List Uuid}
    : AlwaysFollows launchWindow MayMark (relieve site nodes) := by
  refine .andThen (fun _ => trivial) (fun _ => .ite ?_ (.pure false))
  refine .andThen (fun _ => trivial) (fun choice => ?_)
  cases choice with
  | nothing => exact .pure false
  | noRoom => exact .andThen (fun _ => trivial) (fun _ => .pure true)
  | migrate choice => exact gated_rebalanceServer.bind (fun _ => .pure true)

/-- By induction on the nodes still to visit. -/
theorem gated_shutDownNodes {allOnline nodes : List Uuid}
    : AlwaysFollows launchWindow MayMark (shutDownNodes allOnline nodes) := by
  induction nodes with
  | nil => exact .pure ()
  | cons nodeId rest ih => exact .andRaise (fun _ => trivial) (fun _ => ih)

theorem gated_rebalanceCycle : AlwaysFollows launchWindow MayMark (rebalanceCycle site) := by
  refine .andThen (fun _ => trivial) (fun nodes => ?_)
  cases nodes with
  | nil => exact .pure ()
  | cons first others =>
      refine .andRaise (fun _ => trivial) (fun _ => .andThen (fun _ => trivial) (fun _ => ?_))
      refine gated_consolidate.bind (fun _ => .ite (.pure ()) ?_)
      refine gated_relieve.bind (fun _ => .ite (.pure ()) ?_)
      exact .andThen (fun _ => trivial) (fun _ => gated_shutDownNodes)

theorem FleetHandler.gated {site : Site} {program : Handler Unit}
    (known : FleetHandler site program)
    : AlwaysGated program :=
  FleetHandler.follows servesGate gated_rebalanceCycle known

end Blockhost.ControlPlane

/-! No server becomes running unless its subscription lets it start. Two transactions mark a server
as running: the last one of a launch, behind the gate, and the reconciliation of the statistics,
which follows the process and asks for no subscription.
-/

namespace Blockhost.ControlPlane

open Library

variable {World : Type} {site : Site}

/-- The gate of a start lets a server pass at the present time. -/
def Entitled (site : Site) (fleet : Fleet World) (serverId : Uuid) : Prop :=
  ensureActiveSubscriptionForStart site.settings fleet.db fleet.clock serverId = .ok ()

/-- The row of a server says that it is running. -/
def MarkedRunning (db : Database) (serverId : Uuid) : Prop :=
  ∃ row, db.servers.get? serverId = some row ∧ row.state = .running

instance (site : Site) (fleet : Fleet World) (serverId : Uuid)
    : Decidable (Entitled site fleet serverId) :=
  inferInstanceAs (Decidable (_ = _))

instance (db : Database) (serverId : Uuid) : Decidable (MarkedRunning db serverId) :=
  decidable_of_iff ((db.servers.get? serverId).map Server.state = some .running)
    Option.map_eq_some_iff

/-- Every server that becomes running is entitled when it does. -/
def MarksEntitled (site : Site) (before after : Fleet World) : Prop :=
  ∀ serverId, MarkedRunning after.db serverId → ¬ MarkedRunning before.db serverId
    → Entitled site after serverId

-- Who marks a server as running

section Writers

variable {settings : Settings} {tests : PortTests} {now : Instant} {db next : Database}
variable {serverId : Uuid}

/-- No server of a database becomes running. -/
def MarksNone (db next : Database) : Prop :=
  ∀ serverId, MarkedRunning next serverId → MarkedRunning db serverId

theorem MarksNone.refl (db : Database) : MarksNone db db := fun _ marked => marked

theorem MarksNone.trans {middle : Database} (first : MarksNone db middle)
    (second : MarksNone middle next)
    : MarksNone db next :=
  fun serverId marked => first serverId (second serverId marked)

theorem MarksNone.calm (calm : CalmServers db next) : MarksNone db next := by
  rintro serverId ⟨row, stored, running⟩
  obtain ⟨change, same, calm⟩ := calm
  rw [same, Table.get?_update] at stored
  obtain ⟨before, found, rfl⟩ := Option.map_eq_some_iff.mp stored
  exact ⟨before, found, (calm before).running running⟩

theorem MarksNone.change {change : Change Server.id}
    (quiet : ∀ row, (change.apply row).state = .running → row.state = .running)
    (changed : Uuid) (db : Database)
    : MarksNone db (changeServer changed change db) := by
  rintro serverId ⟨row, stored, running⟩
  unfold changeServer at stored
  rw [Table.get?_modify] at stored
  split at stored
  · obtain ⟨before, found, rfl⟩ := Option.map_eq_some_iff.mp stored
    exact ⟨before, found, quiet before running⟩
  · exact ⟨row, stored, running⟩

theorem marked_change {change : Change Server.id} {changed : Uuid}
    (marked : MarkedRunning (changeServer changed change db) serverId)
    : MarkedRunning db serverId ∨ serverId = changed := by
  by_cases this : serverId = changed
  · exact .inr this
  · obtain ⟨row, stored, running⟩ := marked
    unfold changeServer at stored
    rw [Table.get?_modify, if_neg this] at stored
    exact .inl ⟨row, stored, running⟩

theorem MarksNone.adds {row : Server} (adds : AddsServer db next row) : MarksNone db next := by
  rintro serverId ⟨stored, found, running⟩
  obtain ⟨member, rfl⟩ := Table.get?_some found
  rw [adds.rows] at member
  rcases List.mem_append.mp member with old | new
  · exact ⟨stored, Table.get?_of_mem old, running⟩
  · rw [List.mem_singleton.mp new, adds.state] at running
    cases running

theorem MarksNone.placed {node : Node} {server : Server}
    (replaced : replaceServer settings tests node server db = .ok next)
    : MarksNone db next := by
  obtain ⟨port, _, rfl⟩ := replaceServer_ok replaced
  exact .change (fun _ running => running) server.id db

theorem marksNone_create {serversDir : String} {diskRefusal : Option HttpError}
    {providerStarts : Bool} {user : User} {payload : CreateServerRequest}
    {answer : Except Raised Unit}
    (done : createPlacedServer settings serversDir tests diskRefusal providerStarts now user
      payload db = (next, answer))
    : MarksNone db next := by
  rcases createPlacedServer_cases done with rfl | rfl | ⟨row, adds, _⟩
  · exact .refl _
  · exact .calm (calm_wakeUp now providerStarts db).servers
  · exact .adds adds

theorem marksNone_checkNode {server : Server} {check : NodeCheck}
    (checked : checkStartNode settings now server db = .ok (next, check))
    : MarksNone db next := by
  rcases checkStartNode_ok checked with ⟨rfl, _, _⟩ | ⟨rfl, _, _⟩ | ⟨rfl, rfl⟩
  · exact .refl _
  · exact .refl _
  · exact .change (fun _ running => running) server.id db

theorem marksNone_assign {server : Server} {assigned : Bool}
    (done : assignBestNode settings now tests server db = .ok (next, assigned))
    : MarksNone db next := by
  rcases assignBestNode_ok done with ⟨_, rfl, _⟩ | ⟨node, port, _, _, _, rfl, _⟩
  · exact .refl _
  · have placed
        : MarksNone db (changeServer server.id (placeServer node port)
            (refreshNodeAllocatedRam settings now node.id db)) :=
      .change (fun _ running => running) server.id _
    exact placed.trans (.change (fun _ running => by cases running) server.id _)

theorem marksNone_prepare {serversDir : String} {lookedUp : Bool} {server : Server}
    (prepared : prepareServerForStart settings serversDir tests lookedUp server db = .ok next)
    : MarksNone db next := by
  obtain ⟨port, _, rfl, _⟩ := prepareServerForStart_ok prepared
  exact .change (fun _ running => running) server.id db

theorem marksNone_rescue {node : Node}
    (rescued : rescueOrphans settings tests node db = .ok next)
    : MarksNone db next := by
  obtain ⟨rfl, _⟩ := rescueOrphans_ok rescued
  exact rescueServers_invariant (MarksNone db) (orphanedServers db)
    (fun _ _ _ _ kept replaced => kept.trans (.placed replaced)) (.refl db) (.refl db)

theorem marksNone_reassign {target : Node} {done : Bool}
    (reassigned : reassignServer settings tests serverId target db = .ok (next, done))
    : MarksNone db next := by
  rcases reassignServer_ok reassigned with ⟨_, rfl⟩ | ⟨_, server, _, replaced, _⟩
  · exact .refl _
  · exact .placed replaced

theorem marksNone_shutDown {providerStops : Bool} {nodeId : Uuid} {allOnline : List Uuid}
    (shut : shutDownIdleNode settings tests providerStops nodeId allOnline db = .ok next)
    : MarksNone db next := by
  rcases shutDownIdleNode_ok shut with rfl | ⟨target, _, reassigned, _, replaced, servers, _⟩
  · exact .refl _
  · have kept := replaceServers_invariant (MarksNone db) (allServersOnNode db nodeId)
      (fun _ _ _ _ kept placed => kept.trans (.placed placed)) (.refl db) replaced
    exact kept.trans (.calm (.of_same servers))

end Writers

theorem marksNone_commit {Error Result : Type} {fleet : Fleet World}
    {outcome : Except Error (Database × Result)}
    (kept : ∀ next result, outcome = .ok (next, result) → MarksNone fleet.db next)
    : MarksNone fleet.db (fleet.commit outcome).1.db := by
  cases outcome with
  | error failure => exact .refl _
  | ok stored => exact kept _ _ rfl

theorem marksNone_commitOnly {Error : Type} {fleet : Fleet World}
    {outcome : Except Error Database}
    (kept : ∀ next, outcome = .ok next → MarksNone fleet.db next)
    : MarksNone fleet.db (fleet.commitOnly outcome).1.db := by
  cases outcome with
  | error failure => exact .refl _
  | ok stored => exact kept _ rfl

theorem marked_cases {action : FleetAction} {outside : Outside World} {fleet : Fleet World}
    {serverId : Uuid}
    (marked : MarkedRunning (controlPlane World site action outside fleet).1.db serverId)
    : MarkedRunning fleet.db serverId
      ∨ action = .finishStart serverId ∨ action = .reconcileRunning serverId := by
  have quiet
      (none : MarksNone fleet.db (controlPlane World site action outside fleet).1.db)
      : MarkedRunning fleet.db serverId
        ∨ action = .finishStart serverId ∨ action = .reconcileRunning serverId :=
    .inl (none serverId marked)
  cases action with
  | createServer user payload => exact quiet (marksNone_create rfl)
  | checkNode server => exact quiet (marksNone_commit (fun _ _ done => marksNone_checkNode done))
  | assignNode server => exact quiet (marksNone_commit (fun _ _ done => marksNone_assign done))
  | prepare server => exact quiet (marksNone_commitOnly (fun _ done => marksNone_prepare done))
  | finishStart changed =>
      rcases marked_change marked with known | rfl
      · exact .inl known
      · exact .inr (.inl rfl)
  | reconcileRunning changed =>
      rcases marked_change marked with known | rfl
      · exact .inl known
      · exact .inr (.inr rfl)
  | moveToMigrationNode moved oldNode =>
      refine quiet (marksNone_commit (fun next node done => ?_))
      obtain ⟨_, rfl, _⟩ := moveToMigrationNode_ok done
      exact .change (fun _ running => running) moved _
  | moveBack moved oldNode =>
      refine quiet (marksNone_commitOnly (fun next done => ?_))
      obtain ⟨rfl, _⟩ := commitServers_ok done
      exact .change (fun _ running => running) moved _
  | rescueOrphans nodeId =>
      refine quiet (marksNone_commitOnly (fun next done => ?_))
      dsimp only [Fleet.atTime] at done
      split at done
      · cases done
      · exact marksNone_rescue done
  | reassign moved target =>
      exact quiet (marksNone_commit (fun _ _ done => marksNone_reassign done))
  | shutDown nodeId allOnline =>
      exact quiet (marksNone_commitOnly (fun _ done => marksNone_shutDown done))
  | completeAdmission request node =>
      exact quiet (.calm
        (completeAdmission_frame site.settings outside.now request node fleet.db).1)
  | drain nodeId =>
      exact quiet (marksNone_commitOnly (fun _ done => .calm (.of_same (drainNode_frame done).1)))
  | _ => exact quiet (.calm (calm_action _ outside fleet id).servers)

-- Launches

def launching : Handler Unit → Option Uuid
  | .act action _ => launched action
  | _ => none

/-- A program under way is in no window, or is about to launch an entitled server. -/
def LaunchesEntitled (site : Site) (fleet : Fleet World) (program : Handler Unit) : Prop :=
  Gated none program
  ∨ ∃ serverId, Gated (some serverId) program ∧ launching program = some serverId
    ∧ Entitled site fleet serverId

/-- The steps under which only entitled servers are marked: a reconciliation finds an entitled
server, and no step ends the entitlement of a server that a program is about to launch.
-/
def KeepsEntitled (site : Site) (pool : FleetPool World) (action : FleetAction)
    (outside : Outside World)
    : Prop :=
  (∀ serverId row, action = .reconcileRunning serverId
    → pool.world.db.servers.get? serverId = some row → row.state ≠ .running
    → Entitled site (pool.world.atTime outside.now) serverId)
  ∧ ∀ program ∈ pool.running, ∀ serverId, launching program = some serverId
    → Entitled site pool.world serverId
    → Entitled site (controlPlane World site action outside pool.world).1 serverId

theorem checkLaunch_entitled {settings : Settings} {now : Instant} {lookedUp : Bool}
    {serverId : Uuid} {db : Database} {row : Server}
    (checked : checkLaunch settings now lookedUp serverId db = .ok row)
    : ensureActiveSubscriptionForStart settings db now serverId = .ok () := by
  unfold checkLaunch at checked
  split at checked
  · cases checked
  · split at checked
    · cases checked
    · rename_i entitled
      exact entitled

theorem entitled_window {action : FleetAction} {outside : Outside World} {fleet : Fleet World}
    {window : Option Uuid} {serverId : Uuid}
    (opened : launchWindow window action (controlPlane World site action outside fleet).2
      = some serverId)
    : Entitled site (controlPlane World site action outside fleet).1 serverId
      ∨ window = some serverId ∧ launched action = some serverId := by
  have stillOpen
      (opened : (if launched action = window then window else none) = some serverId)
      : window = some serverId ∧ launched action = some serverId := by
    split at opened
    · rename_i same
      exact ⟨opened, same.trans opened⟩
    · cases opened
  cases action with
  | checkLaunch checkedId =>
      have answered : (controlPlane World site (.checkLaunch checkedId) outside fleet).2
          = checkLaunch site.settings outside.now outside.succeeds checkedId fleet.db := rfl
      rw [answered] at opened
      cases checked
          : checkLaunch site.settings outside.now outside.succeeds checkedId fleet.db with
      | error failure =>
          rw [checked] at opened
          exact .inr (stillOpen opened)
      | ok row =>
          rw [checked] at opened
          cases opened
          exact .inl (checkLaunch_entitled checked)
  | _ => exact .inr (stillOpen opened)

theorem gated_none {program : Handler Unit} {serverId : Uuid}
    (gated : Gated (some serverId) program) (elsewhere : launching program ≠ some serverId)
    : Gated none program := by
  cases program with
  | done result => trivial
  | failed failure => trivial
  | act action next => exact gated.close elsewhere

theorem LaunchesEntitled.advance {pool : FleetPool World} {action : FleetAction}
    {outside : Outside World} {next : FleetAnswer action → Handler Unit}
    (condition : KeepsEntitled site pool action outside)
    (acting : .act action next ∈ pool.running)
    (launches : LaunchesEntitled site pool.world (.act action next))
    : LaunchesEntitled site (controlPlane World site action outside pool.world).1
        (next (controlPlane World site action outside pool.world).2) := by
  obtain ⟨window, gated, entitled⟩ :
      ∃ window, Gated window (.act action next)
        ∧ ∀ serverId, window = some serverId → Entitled site pool.world serverId := by
    rcases launches with outside | ⟨serverId, inside, _, entitled⟩
    · exact ⟨none, outside, fun _ same => by cases same⟩
    · exact ⟨some serverId, inside, fun _ same => by cases same; exact entitled⟩
  have later := gated.2 (controlPlane World site action outside pool.world).2
  cases opened
      : launchWindow window action (controlPlane World site action outside pool.world).2 with
  | none =>
      rw [opened] at later
      exact .inl later
  | some serverId =>
      rw [opened] at later
      by_cases about
          : launching (next (controlPlane World site action outside pool.world).2) = some serverId
      · refine .inr ⟨serverId, later, about, ?_⟩
        rcases entitled_window opened with now | ⟨same, launches⟩
        · exact now
        · exact condition.2 _ acting serverId launches (entitled serverId same)
      · exact .inl (gated_none later about)

/-- Along a run whose steps meet the condition, from programs that have not begun, every server
that becomes running is entitled when it does.
-/
theorem running_only_when_entitled {start before after : FleetPool World}
    {turn : Turn FleetAction FleetAnswer Raised (Outside World)}
    (reached : Reachable
      (Pool.StepWhen (controlPlane World site) (FleetHandler site) (KeepsEntitled site))
      start before)
    (taken : Pool.StepWhen (controlPlane World site) (FleetHandler site) (KeepsEntitled site)
      before turn after)
    (fresh : ∀ program ∈ start.running, FleetHandler site program)
    : MarksEntitled site before.world after.world := by
  have launches : ∀ program ∈ before.running, LaunchesEntitled site before.world program := by
    refine Pool.running_invariant (LaunchesEntitled site) ?_ ?_ ?_ reached ?_
    · exact fun _ _ known => .inl (known.gated none)
    · intro pool action outside other condition member launches
      rcases launches with outside | ⟨serverId, inside, about, entitled⟩
      · exact .inl outside
      · exact .inr ⟨serverId, inside, about, condition.2 other member serverId about entitled⟩
    · exact fun _ _ _ _ condition acting launches => launches.advance condition acting
    · exact fun program member => .inl ((fresh program member).gated none)
  intro serverId marked unmarked
  rcases taken.cases with ⟨_, _, rfl⟩ | ⟨index, outside, action, next, _, acts, condition, rfl⟩
  · exact absurd marked unmarked
  · have acting := List.mem_of_getElem? acts
    rcases marked_cases marked with known | rfl | rfl
    · exact absurd known unmarked
    · rcases launches _ acting with outside | ⟨_, inside, about, entitled⟩
      · cases outside.1
      · cases about
        exact condition.2 _ acting serverId rfl entitled
    · obtain ⟨row, stored, _⟩ := marked
      have changed : (before.world.db.servers.get? serverId).map
          (setServerState .running).apply = some row := by
        rw [← stored]
        exact ((Table.get?_modify ..).trans (if_pos rfl)).symm
      obtain ⟨old, found, _⟩ := Option.map_eq_some_iff.mp changed
      exact condition.1 serverId old rfl found (fun running => unmarked ⟨old, found, running⟩)

private def aliveServer (state : ServerState) : Fleet String where
  db :=
    { sampleDatabase ⟨[sampleServer 0 1 19132 state], by cases state <;> decide⟩ with
      subscriptions :=
        ⟨[{ sampleSubscription 0 0 with providerSubscriptionId := some "sub_1" }], by decide⟩ }
  processes := [(1, 0)]

/-- The pool after some actions of the statistics of a server. -/
private def polling (others : List (Handler Unit)) (fleet : Fleet String) (count : Nat)
    : FleetPool String :=
  Pool.afterLast (controlPlane String sampleSite) others count (computeServerStats 0)
    (sampleInputs []) fleet

private theorem lone_step {fleet : Fleet String} {action : FleetAction}
    {next : FleetAnswer action → Handler Unit} (outside : Outside String)
    (quiet : launched action = none)
    (entitled : ∀ serverId, action = .reconcileRunning serverId
      → Entitled sampleSite (fleet.atTime outside.now) serverId)
    : Pool.StepWhen (controlPlane String sampleSite) (FleetHandler sampleSite)
        (KeepsEntitled sampleSite) ⟨fleet, [.act action next]⟩ (.advance 0 outside)
        ⟨(controlPlane String sampleSite action outside fleet).1,
          [next (controlPlane String sampleSite action outside fleet).2]⟩ := by
  refine ⟨.advance rfl, fun index input acting later turn acts => ?_⟩
  cases turn
  cases acts
  refine ⟨fun serverId _ same _ _ => entitled serverId same, ?_⟩
  intro program member serverId about _
  cases List.mem_singleton.mp member
  cases quiet.symm.trans about

/-- The statistics mark a paid server whose process is alive. -/
theorem paid_server_reconciled
    : MarksEntitled sampleSite (polling [] (aliveServer .suspended) 3).world
        (polling [] (aliveServer .suspended) 4).world := by
  have loads
      : Pool.StepWhen (controlPlane String sampleSite) (FleetHandler sampleSite)
          (KeepsEntitled sampleSite) (polling [] (aliveServer .suspended) 0)
          (.advance 0 ((sampleInputs []).get 0)) (polling [] (aliveServer .suspended) 1) :=
    lone_step _ rfl (fun _ same => by cases same)
  have routes
      : Pool.StepWhen (controlPlane String sampleSite) (FleetHandler sampleSite)
          (KeepsEntitled sampleSite) (polling [] (aliveServer .suspended) 1)
          (.advance 0 ((sampleInputs []).get 1)) (polling [] (aliveServer .suspended) 2) :=
    lone_step _ rfl (fun _ same => by cases same)
  have asks
      : Pool.StepWhen (controlPlane String sampleSite) (FleetHandler sampleSite)
          (KeepsEntitled sampleSite) (polling [] (aliveServer .suspended) 2)
          (.advance 0 ((sampleInputs []).get 2)) (polling [] (aliveServer .suspended) 3) :=
    lone_step _ rfl (fun _ same => by cases same)
  have marks
      : Pool.StepWhen (controlPlane String sampleSite) (FleetHandler sampleSite)
          (KeepsEntitled sampleSite) (polling [] (aliveServer .suspended) 3)
          (.advance 0 ((sampleInputs []).get 3)) (polling [] (aliveServer .suspended) 4) :=
    lone_step _ rfl (fun _ same => by cases same; decide +kernel)
  refine running_only_when_entitled ((((Reachable.refl _).next loads).next routes).next asks)
    marks ?_
  intro program member
  cases List.mem_singleton.mp member
  exact .stats 0

private def paddleCancellation : PaddleDelivery where
  time := 0
  body :=
    some
      { eventId := .value "evt_1"
        eventType := .value "subscription.canceled"
        data := .value
          { id := .value "sub_1"
            customData := .value { serverId := .value "00000000000000000000000000000000" } } }

private def cancelledServer : Fleet String :=
  ((ask (.paddle paddleCancellation)).run sampleSite (sampleInputs [])
    (aliveServer .running)).world

/-- The statistics mark a server again whose subscription was cancelled while it ran. -/
theorem cancelled_server_marked_running
    : ¬ ∀ (site : Site) (start before after : FleetPool String)
        (turn : Turn FleetAction FleetAnswer Raised (Outside String)),
        start.running = []
        → Reachable (Pool.Step (controlPlane String site) (FleetHandler site)) start before
        → Pool.Step (controlPlane String site) (FleetHandler site) before turn after
        → MarksEntitled site before.world after.world := by
  intro entitled
  obtain ⟨last, cancelled⟩ : ∃ last,
      Reachable (Pool.Step (controlPlane String sampleSite) (FleetHandler sampleSite))
        ⟨aliveServer .running, []⟩ ⟨cancelledServer, [last]⟩ :=
    Pool.run_alone (.paddle paddleCancellation) [] (sampleInputs []) (aliveServer .running)
  have started
      : Pool.Step (controlPlane String sampleSite) (FleetHandler sampleSite)
          ⟨cancelledServer, [last]⟩ (.start (computeServerStats 0))
          ⟨cancelledServer, [last, computeServerStats 0]⟩ := .start (.stats 0)
  have reached
      : Reachable (Pool.Step (controlPlane String sampleSite) (FleetHandler sampleSite))
          ⟨aliveServer .running, []⟩ (polling [last] cancelledServer 3) :=
    (cancelled.next started).trans (Pool.reachable_afterLast [last] 3 _ _ _)
  have unmarked : ¬ MarkedRunning (polling [] cancelledServer 3).world.db 0 := by decide +kernel
  have marked : MarkedRunning (polling [] cancelledServer 4).world.db 0 := by decide +kernel
  have refused : ¬ Entitled sampleSite (polling [] cancelledServer 4).world 0 := by decide +kernel
  have marks :
      polling [last] cancelledServer 4 = polling [last] cancelledServer 3
        ∨ ∃ turn, Pool.Step (controlPlane String sampleSite) (FleetHandler sampleSite)
          (polling [last] cancelledServer 3) turn (polling [last] cancelledServer 4) :=
    Pool.afterLast_succ [last] 3 _ _ _
  rcases marks with same | ⟨turn, taken⟩
  · have marked : MarkedRunning (polling [last] cancelledServer 4).world.db 0 := marked
    rw [same] at marked
    exact unmarked marked
  · exact refused (entitled sampleSite _ _ _ turn rfl reached taken 0 marked unmarked)

end Blockhost.ControlPlane
