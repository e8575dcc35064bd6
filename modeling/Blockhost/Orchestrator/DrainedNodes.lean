import Blockhost.Services.BestNodes
import Blockhost.Orchestrator.HandlerProtocols
import Blockhost.Services.Failover

/-! A node that is drained: it stays out of use as long as no session of its agent is admitted,
and the rebalancer lists no drained node.
-/

namespace Blockhost.ControlPlane

open Library

variable {World : Type} {site : Site}

-- Targets of placements

/-- The node that an action chooses for a workload. -/
def chosenNode (site : Site) (action : FleetAction) (outside : Outside World)
    (fleet : Fleet World)
    : Option Uuid :=
  let db := fleet.db
  let now := outside.now
  match action with
  | .createServer _ _ => (selectBestNode site.settings db now 0).map Node.id
  | .assignNode server =>
      (selectBestNode site.settings db now
        (requiredRamMb site.settings db now server.id)).map Node.id
  | .moveToMigrationNode serverId oldNode =>
      (chooseMigrationNode site.settings db now serverId oldNode).map Node.id
  | .rescueOrphans nodeId | .rescueDeployments nodeId => some nodeId
  | .consolidation nodes =>
      (consolidation site.settings db now (currentNodes db nodes)).map (fun choice =>
        choice.target.id)
  | .overflow nodes =>
      match overflow site.settings db now (currentNodes db nodes) (currentNodes db nodes) with
      | .migrate choice => some choice.target.id
      | _ => none
  | .reassign _ target => some target.id
  | .shutDown nodeId allOnline => (remainingNodes db nodeId allOnline).head?.map Node.id
  | _ => none

/-- An action chooses another node, as far as it has the node from its program. -/
def Avoids (nodeId : Uuid) : FleetAction → Prop
  | .rescueOrphans chosen | .rescueDeployments chosen => chosen ≠ nodeId
  | .consolidation nodes | .overflow nodes => nodeId ∉ nodes
  | .reassign _ target => target.id ≠ nodeId
  | .shutDown _ allOnline => nodeId ∉ allOnline
  | _ => True

theorem currentNodes_listed {db : Database} {nodes : List Uuid} {node : Node}
    (member : node ∈ currentNodes db nodes)
    : node.id ∈ nodes := by
  obtain ⟨listed, known, found⟩ := List.mem_filterMap.mp member
  rw [(Table.get?_some found).2]
  exact known

theorem chosenNode_ne {nodeId : Uuid} {action : FleetAction} {fleet : Fleet World}
    (lacks : Lacks nodeId .online (roster fleet.db)) (avoids : Avoids nodeId action)
    (outside : Outside World)
    : chosenNode site action outside fleet ≠ some nodeId := by
  have offline {node : Node} (stored : node ∈ fleet.db.nodes.rows)
      (online : node.status = .online)
      : node.id ≠ nodeId :=
    fun own => lacks (nodeEntry node) (List.mem_map_of_mem stored) own online
  have selected (required : Int)
      : (selectBestNode site.settings fleet.db outside.now required).map Node.id
        ≠ some nodeId := by
    intro chosen
    obtain ⟨node, selected, own⟩ := Option.map_eq_some_iff.mp chosen
    obtain ⟨stored, online, _⟩ := (selectBestNodeOfTier_some selected).1
    exact offline stored online own
  intro chosen
  cases action with
  | createServer user payload => exact selected _ chosen
  | assignNode server => exact selected _ chosen
  | moveToMigrationNode serverId oldNode =>
      obtain ⟨node, migrated, own⟩ := Option.map_eq_some_iff.mp chosen
      obtain ⟨stored, _, online⟩ := chooseMigrationNode_some migrated
      exact offline stored online own
  | rescueOrphans listed => exact avoids (Option.some.inj chosen)
  | rescueDeployments listed => exact avoids (Option.some.inj chosen)
  | consolidation nodes =>
      obtain ⟨choice, made, own⟩ := Option.map_eq_some_iff.mp chosen
      refine avoids ?_
      rw [← own]
      exact currentNodes_listed (consolidation_some made).1.target
  | overflow nodes =>
      simp only [chosenNode] at chosen
      split at chosen
      · rename_i choice made
        refine avoids ?_
        rw [← Option.some.inj chosen]
        exact currentNodes_listed (overflow_migrate made (fun _ => id)).1.target
      · cases chosen
  | reassign serverId target => exact avoids (Option.some.inj chosen)
  | shutDown idle allOnline =>
      obtain ⟨node, first, own⟩ := Option.map_eq_some_iff.mp chosen
      have member := (List.mem_filter.mp (List.mem_of_head? first)).1
      refine avoids ?_
      rw [← own]
      exact currentNodes_listed member
  | _ => cases chosen

-- The lists of the rebalancer

def staysClean (nodeId : Uuid) (clean : Bool) : (action : FleetAction) → FleetAnswer action → Bool
  | .healthyNodes, nodes => clean && nodeId ∉ nodes
  | .onlineNodes, nodes => clean && nodeId ∉ nodes
  | .consolidation _, some choice => clean && choice.target.id ≠ nodeId
  | .overflow _, .migrate choice => clean && choice.target.id ≠ nodeId
  | _, _ => clean

def CleanAvoids (nodeId : Uuid) (clean : Bool) (action : FleetAction) : Prop :=
  clean = true → Avoids nodeId action

section Protocol

variable {nodeId : Uuid} {Result : Type}

/-- A program that is not clean may do anything, by induction on it. -/
theorem follows_unclean (program : Handler Result)
    : program.Follows (staysClean nodeId) (CleanAvoids nodeId) false := by
  induction program with
  | done result => trivial
  | failed error => trivial
  | act action next ih =>
      refine ⟨fun clean => Bool.noConfusion clean, fun answer => ?_⟩
      have unclean : staysClean nodeId false action answer = false := by
        unfold staysClean
        split <;> rfl
      rw [unclean]
      exact ih answer

theorem follows_unless {listed : Prop} [Decidable listed] {clean : Bool}
    {program : Handler Result}
    (unlisted : ¬ listed → AlwaysFollows (staysClean nodeId) (CleanAvoids nodeId) program)
    : program.Follows (staysClean nodeId) (CleanAvoids nodeId) (clean && ¬ listed) := by
  by_cases found : listed
  · simp only [found, not_true_eq_false, decide_false, Bool.and_false]
    exact follows_unclean program
  · exact unlisted found _

theorem servesDrain : ServesHandlers (staysClean nodeId) (CleanAvoids nodeId) where
  plain {action} quiet _ _ := by
    cases action with
    | rescueOrphans _ | rescueDeployments _ | consolidation _ | overflow _ => cases quiet
    | reassign _ _ | shutDown _ _ => cases quiet
    | _ => trivial
  launch router serverId := by
    refine .andRaise (fun _ _ => trivial) (fun _ => .andThen (fun _ _ => trivial) (fun node => ?_))
    cases node with
    | none => exact .throw .exception
    | some node =>
        refine .andThen (fun _ _ => trivial) (fun answered => ?_)
        exact .ite (.ask (fun _ _ => trivial)) (.throw .exception)

variable {site : Site}

theorem avoids_rebalanceServer {choice : MigrationChoice} (target : choice.target.id ≠ nodeId)
    : AlwaysFollows (staysClean nodeId) (CleanAvoids nodeId) (rebalanceServer site choice) := by
  refine .andThen (fun _ _ => trivial) (fun _ => .andThen (fun _ _ => trivial) (fun _ => ?_))
  refine .andRaise (fun _ _ => target) (fun _ => .ite ?_ (.pure false))
  refine .andThen (fun _ _ => trivial) (fun _ => .ite (follows_startReassigned servesDrain) ?_)
  exact .andThen (fun _ _ => trivial) (fun _ => .andThen (fun _ _ => trivial) (fun _ =>
    .andThen (fun _ _ => trivial) (fun _ => .pure true)))

theorem avoids_consolidate {nodes : List Uuid} (unlisted : nodeId ∉ nodes)
    : AlwaysFollows (staysClean nodeId) (CleanAvoids nodeId) (consolidate site nodes) := by
  refine .ite (.pure false) (.andThen (fun _ _ => trivial) (fun _ => .ite ?_ (.pure false)))
  intro clean
  refine ⟨fun _ => unlisted, fun answer => ?_⟩
  cases answer with
  | none => trivial
  | some choice =>
      exact follows_unless (fun apart =>
        (avoids_rebalanceServer apart).bind (fun _ => .pure true))

theorem avoids_relieve {nodes : List Uuid} (unlisted : nodeId ∉ nodes)
    : AlwaysFollows (staysClean nodeId) (CleanAvoids nodeId) (relieve site nodes) := by
  refine .andThen (fun _ _ => trivial) (fun _ => .ite ?_ (.pure false))
  intro clean
  refine ⟨fun _ => unlisted, fun answer => ?_⟩
  cases answer with
  | nothing => trivial
  | noRoom => exact AlwaysFollows.andThen (fun _ _ => trivial) (fun _ => .pure true) clean
  | migrate choice =>
      exact follows_unless (fun apart =>
        (avoids_rebalanceServer apart).bind (fun _ => .pure true))

/-- By induction on the nodes still to visit. -/
theorem avoids_shutDownNodes {allOnline nodes : List Uuid} (unlisted : nodeId ∉ allOnline)
    : AlwaysFollows (staysClean nodeId) (CleanAvoids nodeId) (shutDownNodes allOnline nodes) := by
  induction nodes with
  | nil => exact .pure ()
  | cons node rest ih => exact .andRaise (fun _ _ => unlisted) (fun _ => ih)

theorem avoids_rebalanceCycle
    : AlwaysFollows (staysClean nodeId) (CleanAvoids nodeId) (rebalanceCycle site) := by
  intro clean
  refine ⟨fun _ => trivial, fun nodes => follows_unless (fun unlisted => ?_)⟩
  cases nodes with
  | nil => exact .pure ()
  | cons first others =>
      have head : first ≠ nodeId := fun same => unlisted (by rw [same]; exact List.mem_cons_self)
      refine .andRaise (fun _ _ => head) (fun _ => .andThen (fun _ _ => head) (fun _ => ?_))
      refine (avoids_consolidate unlisted).bind (fun _ => .ite (.pure ()) ?_)
      refine (avoids_relieve unlisted).bind (fun _ => .ite (.pure ()) ?_)
      intro clean
      exact ⟨fun _ => trivial, fun allOnline =>
        follows_unless (fun unlisted => avoids_shutDownNodes unlisted)⟩

theorem staysClean_answer {action : FleetAction} {fleet : Fleet World}
    (lacks : Lacks nodeId .online (roster fleet.db)) (avoids : Avoids nodeId action)
    (outside : Outside World)
    : staysClean nodeId true action (controlPlane World site action outside fleet).2 = true := by
  have offline {nodes : List Node}
      (online : ∀ node ∈ nodes, node ∈ fleet.db.nodes.rows ∧ node.status = .online)
      : nodeId ∉ nodes.map Node.id := by
    intro listed
    obtain ⟨node, member, own⟩ := List.mem_map.mp listed
    obtain ⟨stored, connected⟩ := online node member
    exact lacks (nodeEntry node) (List.mem_map_of_mem stored) own connected
  cases action with
  | healthyNodes =>
      refine decide_eq_true (offline ?_)
      intro node member
      obtain ⟨stored, test⟩ := List.mem_filter.mp member
      rw [Bool.and_eq_true, decide_eq_true_eq] at test
      exact ⟨stored, test.1⟩
  | onlineNodes =>
      refine decide_eq_true (offline ?_)
      intro node member
      obtain ⟨stored, test⟩ := List.mem_filter.mp member
      exact ⟨stored, of_decide_eq_true test⟩
  | consolidation nodes =>
      change staysClean nodeId true (.consolidation nodes)
        (consolidation site.settings fleet.db outside.now (currentNodes fleet.db nodes)) = true
      cases made : consolidation site.settings fleet.db outside.now
          (currentNodes fleet.db nodes) with
      | none => rfl
      | some choice =>
          have listed := currentNodes_listed (consolidation_some made).1.target
          exact decide_eq_true (fun own => avoids (by rw [← own]; exact listed))
  | overflow nodes =>
      change staysClean nodeId true (.overflow nodes)
        (overflow site.settings fleet.db outside.now (currentNodes fleet.db nodes)
          (currentNodes fleet.db nodes)) = true
      cases made : overflow site.settings fleet.db outside.now (currentNodes fleet.db nodes)
          (currentNodes fleet.db nodes) with
      | nothing => rfl
      | noRoom => rfl
      | migrate choice =>
          have listed := currentNodes_listed (overflow_migrate made (fun _ => id)).1.target
          exact decide_eq_true (fun own => avoids (by rw [← own]; exact listed))
  | _ => rfl

end Protocol

-- Statuses

def NotUndrained (nodeId : Uuid) (action : FleetAction) : Prop := action ≠ .undrain nodeId

/-- The step admits no session of a node. -/
def NotAdmitted (nodeId : Uuid) : FleetAction → Prop
  | .completeAdmission _ node => node.id ≠ nodeId
  | _ => True

section Transactions

variable {nodeId : Uuid} {settings : Settings} {tests : PortTests} {node : Node}
variable {db next : Database}

theorem nodes_replaceServer {server : Server}
    (replaced : replaceServer settings tests node server db = .ok next)
    : next.nodes = db.nodes := by
  obtain ⟨port, _, rfl⟩ := replaceServer_ok replaced
  rfl

theorem nodes_rescueOrphans (rescued : rescueOrphans settings tests node db = .ok next)
    : next.nodes = db.nodes := by
  rw [(rescueOrphans_ok rescued).1]
  refine rescueServers_invariant (fun state => state.nodes = db.nodes) _ ?_ rfl rfl
  intro server _ current next same replaced
  exact (nodes_replaceServer replaced).trans same

theorem lacks_shutDown {providerStops : Bool} {idle : Uuid} {allOnline : List Uuid}
    (shut : shutDownIdleNode settings tests providerStops idle allOnline db = .ok next)
    (lacks : Lacks nodeId .online (roster db))
    : Lacks nodeId .online (roster next) := by
  rcases shutDownIdleNode_ok shut with rfl | ⟨target, _, reassigned, _, replaced, _, nodes, _⟩
  · exact lacks
  · have same : reassigned.nodes = db.nodes := by
      refine replaceServers_invariant (fun state => state.nodes = db.nodes) _ ?_ rfl replaced
      intro server _ current next same replaced
      exact (nodes_replaceServer replaced).trans same
    rw [same] at nodes
    rw [roster_entered (fun _ => rfl) nodes]
    exact lacks_enterStatus lacks (fun _ => by simp)

theorem lacks_create {serversDir : String} {diskRefusal : Option HttpError}
    {providerStarts : Bool} {now : Instant} {user : User} {payload : CreateServerRequest}
    (lacks : Lacks nodeId .online (roster db))
    : Lacks nodeId .online (roster (createPlacedServer settings serversDir tests diskRefusal
      providerStarts now user payload db).1) := by
  cases done : createPlacedServer settings serversDir tests diskRefusal providerStarts now user
      payload db with
  | mk next answer =>
      rcases createPlacedServer_cases done with rfl | rfl | ⟨row, adds, _⟩
      · exact lacks
      · rcases roster_wakeUp now providerStarts db with same | ⟨woken, same⟩
        · rw [same]
          exact lacks
        · rw [same]
          exact lacks_enterStatus lacks (fun _ => by simp)
      · rcases adds.nodes with same | ⟨refreshed, usedRamMb, same⟩
        · rw [roster_same same]
          exact lacks
        · rw [roster_kept (fun _ => rfl) same]
          exact lacks

theorem nodes_paddle (delivery : PaddleDelivery) (db : Database)
    : (delivery.apply db).nodes = db.nodes := by
  obtain ⟨_, _, kept | ⟨kind, id, stopped⟩⟩ := delivery.apply_frame db
  · rw [kept]
  · rw [stopped]
    cases kind <;> rfl

theorem lacks_commit {Error Result : Type} {fleet : Fleet World}
    {outcome : Except Error (Database × Result)} (lacks : Lacks nodeId .online (roster fleet.db))
    (kept : ∀ next result, outcome = .ok (next, result) → Lacks nodeId .online (roster next))
    : Lacks nodeId .online (roster (fleet.commit outcome).1.db) := by
  cases outcome with
  | error failure => exact lacks
  | ok stored => exact kept stored.1 stored.2 rfl

theorem lacks_commitOnly {Error : Type} {fleet : Fleet World}
    {outcome : Except Error Database} (lacks : Lacks nodeId .online (roster fleet.db))
    (kept : ∀ next, outcome = .ok next → Lacks nodeId .online (roster next))
    : Lacks nodeId .online (roster (fleet.commitOnly outcome).1.db) := by
  cases outcome with
  | error failure => exact lacks
  | ok stored => exact kept stored rfl

end Transactions

theorem lacks_action {nodeId : Uuid} {action : FleetAction} {fleet : Fleet World}
    (drained : NotUndrained nodeId action) (away : NotAdmitted nodeId action)
    (lacks : Lacks nodeId .online (roster fleet.db)) (outside : Outside World)
    : Lacks nodeId .online (roster (controlPlane World site action outside fleet).1.db) := by
  have present : Lacks nodeId .online (roster (fleet.atTime outside.now).db) := lacks
  have same {next : Database} (nodes : next.nodes = fleet.db.nodes)
      : Lacks nodeId .online (roster next) := by
    rw [roster_same nodes]
    exact lacks
  cases action with
  | createServer user payload => exact lacks_create lacks
  | checkNode server =>
      refine lacks_commit present (fun next result checked => same ?_)
      rcases checkStartNode_ok checked with ⟨rfl, _⟩ | ⟨rfl, _⟩ | ⟨rfl, _⟩ <;> rfl
  | assignNode server =>
      refine lacks_commit present (fun next result assigned => ?_)
      rcases assignBestNode_ok assigned with ⟨_, rfl, _⟩ | ⟨node, port, _, _, _, rfl, _⟩
      · exact lacks
      · rw [roster_kept (fun _ => rfl) rfl]
        exact lacks
  | wakeUpNode =>
      have woken : Lacks nodeId .online
          (roster (autoWakeupOfflineNode outside.now outside.succeeds fleet.db).1) := by
        rcases roster_wakeUp outside.now outside.succeeds fleet.db with kept | ⟨started, entered⟩
        · rw [kept]
          exact lacks
        · rw [entered]
          exact lacks_enterStatus lacks (fun _ => by simp)
      exact woken
  | prepare server =>
      refine lacks_commitOnly present (fun next prepared => same ?_)
      obtain ⟨port, _, rfl, _⟩ := prepareServerForStart_ok prepared
      rfl
  | moveToMigrationNode serverId oldNode =>
      refine lacks_commit present (fun next node moved => same ?_)
      obtain ⟨_, rfl, _⟩ := moveToMigrationNode_ok moved
      rfl
  | moveBack serverId oldNode =>
      refine lacks_commitOnly present (fun next moved => same ?_)
      obtain ⟨rfl, _⟩ := commitServers_ok moved
      rfl
  | refreshRam refreshed =>
      have kept := roster_refresh site.settings outside.now refreshed fleet.db
      rw [← kept] at lacks
      exact lacks
  | rescueOrphans chosen =>
      refine lacks_commitOnly present (fun next rescued => same ?_)
      split at rescued
      · cases rescued
      · exact nodes_rescueOrphans rescued
  | rescueDeployments chosen =>
      refine same ?_
      change ((fleet.db.nodes.get? chosen).elim fleet.db (fun node =>
        Blockhost.rescueDeployments node fleet.db)).nodes = fleet.db.nodes
      cases fleet.db.nodes.get? chosen <;> rfl
  | reassign serverId target =>
      refine lacks_commit present (fun next done reassigned => same ?_)
      rcases reassignServer_ok reassigned with ⟨_, rfl⟩ | ⟨_, server, _, replaced, _⟩
      · rfl
      · exact nodes_replaceServer replaced
  | shutDown idle allOnline =>
      exact lacks_commitOnly present (fun next shut => lacks_shutDown shut lacks)
  | admitSession token request =>
      have admitted : Lacks nodeId .online
          (roster (Blockhost.admitSession site.functions site.settings outside.now token request
            fleet.db).1) := by
        rcases roster_admitSession site.functions site.settings outside.now token request
            fleet.db with kept | ⟨id, name, added⟩
        · rw [kept]
          exact lacks
        · rw [added]
          exact lacks_append lacks (by simp)
      exact admitted
  | completeAdmission request node =>
      have entered := roster_completeAdmission site.settings outside.now request node fleet.db
      have kept : Lacks nodeId .online (enterStatus node.id .online (roster fleet.db)) :=
        lacks_enterStatus lacks (fun own => absurd own away)
      rw [← entered] at kept
      exact kept
  | heartbeat sender received =>
      refine lacks_commitOnly present (fun next handled => ?_)
      rw [roster_receive handled]
      exact lacks
  | cleanUp nodeName =>
      have cleaned : Lacks nodeId .online (roster (cleanUpSession nodeName fleet.db)) := by
        rcases roster_cleanUp nodeName fleet.db with ⟨kept, _⟩ | ⟨node, _, _, _, entered⟩
        · rw [kept]
          exact lacks
        · rw [entered]
          exact lacks_enterStatus lacks (fun _ => by simp)
      exact cleaned
  | drain drained =>
      refine lacks_commitOnly present (fun next done => ?_)
      rw [roster_drain done]
      exact lacks_enterStatus lacks (fun _ => by simp)
  | undrain undrained =>
      refine lacks_commitOnly present (fun next done => ?_)
      rw [roster_undrain done]
      exact lacks_enterStatus lacks (fun own => absurd (congrArg FleetAction.undrain own) drained)
  | paddle delivery => exact same (nodes_paddle _ fleet.db)
  | route router serverId => exact same (congrArg Database.nodes (routeServer_db ..))
  | routeStart router serverId => exact same (congrArg Database.nodes (routeServer_db ..))
  | call called request => exact same (congrArg Database.nodes (callAgent_db ..))
  | deliver index => exact same (congrArg Database.nodes (deliverDelayed_db ..))
  | deleteSnapshot serverId =>
      refine same ?_
      change (if outside.reply = .answered || outside.reply = .unanswered then
        (fleet.atTime outside.now).writeSnapshot serverId none
        else fleet.atTime outside.now).db.nodes = fleet.db.nodes
      split <;> rfl
  | _ => exact same rfl

-- Runs

inductive WatchEvent (World : Type) where
  | turn (turn : Turn FleetAction FleetAnswer Raised (Outside World))
  | sweep (now : Instant)

inductive WatchStep (site : Site)
    (condition : FleetPool World → FleetAction → Outside World → Prop)
    : FleetPool World → WatchEvent World → FleetPool World → Prop where
  | turn {before after : FleetPool World} {turn : Turn FleetAction FleetAnswer Raised _}
      (taken : Pool.StepWhen (controlPlane World site) (FleetHandler site) condition before turn
        after)
      : WatchStep site condition before (.turn turn) after
  | sweep {pool : FleetPool World} (now : Instant)
      : WatchStep site condition pool (.sweep now)
          { pool with world := pool.world.withDb (watchNodes now pool.world.db) }

def openSession (nodeId : Uuid) (nodeName : Json) (messages : List Received) : Handler Unit := do
  receiveMessages nodeId messages
  ask (.cleanUp nodeName)

/-- A node is out of use: it is not online, no selection finds it, and nothing that a handler may
do next chooses it.
-/
structure OutOfUse (site : Site) (nodeId : Uuid) (pool : FleetPool World) : Prop where
  status : Lacks nodeId .online (roster pool.world.db)
  selection
    : ∀ now requiredRamMb node,
      selectBestNode site.settings pool.world.db now requiredRamMb = some node
      → node.id ≠ nodeId
  choices
    : ∀ action next, .act action next ∈ pool.running
      → ∀ outside, chosenNode site action outside pool.world ≠ some nodeId

/-- A drained node and programs that know nothing of it. -/
structure DrainKept (nodeId : Uuid) (pool : FleetPool World) : Prop where
  status : Lacks nodeId .online (roster pool.world.db)
  programs
    : ∀ program ∈ pool.running,
      program.Follows (staysClean nodeId) (CleanAvoids nodeId) true

theorem DrainKept.outOfUse {nodeId : Uuid} {pool : FleetPool World}
    (kept : DrainKept nodeId pool)
    : OutOfUse site nodeId pool where
  status := kept.status
  selection := by
    intro now requiredRamMb node selected own
    obtain ⟨stored, online, _⟩ := (selectBestNodeOfTier_some selected).1
    exact kept.status (nodeEntry node) (List.mem_map_of_mem stored) own online
  choices := by
    intro action next member outside
    exact chosenNode_ne kept.status ((kept.programs _ member).1 rfl) outside

theorem DrainKept.step {nodeId : Uuid} {before after : FleetPool World}
    {event : WatchEvent World} (kept : DrainKept nodeId before)
    (taken : WatchStep site
      (fun _ action _ => NotUndrained nodeId action ∧ NotAdmitted nodeId action) before event
      after)
    : DrainKept nodeId after := by
  cases taken with
  | sweep now => exact ⟨lacks_watchNodes now kept.status, kept.programs⟩
  | turn taken =>
      rcases taken.cases with
        ⟨program, known, rfl⟩ | ⟨index, outside, action, next, _, running, ⟨drained, away⟩, rfl⟩
      · refine ⟨kept.status, ?_⟩
        intro other member
        rcases List.mem_append.mp member with old | new
        · exact kept.programs other old
        · rw [List.mem_singleton.mp new]
          exact known.follows servesDrain avoids_rebalanceCycle true
      · have acting := kept.programs _ (List.mem_of_getElem? running)
        have clean : staysClean nodeId true action
            (controlPlane World site action outside before.world).2 = true :=
          staysClean_answer kept.status (acting.1 rfl) outside
        refine ⟨lacks_action drained away kept.status outside, ?_⟩
        intro other member
        rcases List.mem_or_eq_of_mem_set member with old | rfl
        · exact kept.programs other old
        · have later := acting.2 (controlPlane World site action outside before.world).2
          rw [clean] at later
          exact later

/-- After a drain, whatever handlers take turns and however often the watchdog sweeps: until a
session of the node is admitted, or the drain is ended, the node is out of use. Sessions that are
open at the drain go on.
-/
theorem drained_stays_out_of_use (site : Site) {fleet : Fleet World} {nodeId : Uuid}
    {drained : Database} (drain : drainNode nodeId fleet.db = .ok drained)
    {sessions : List (Handler Unit)}
    (opened : ∀ program ∈ sessions, ∃ sender nodeName messages,
      program = openSession sender nodeName messages)
    {finish : FleetPool World}
    (reached : Reachable
      (WatchStep site
        (fun _ action _ => NotUndrained nodeId action ∧ NotAdmitted nodeId action))
      ⟨fleet.withDb drained, sessions⟩ finish)
    : OutOfUse site nodeId finish := by
  have start : DrainKept nodeId (⟨fleet.withDb drained, sessions⟩ : FleetPool World) := by
    refine ⟨?_, ?_⟩
    · change Lacks nodeId .online (roster drained)
      rw [roster_drain drain]
      intro entry member own
      obtain ⟨before, _, rfl⟩ := List.mem_map.mp member
      unfold NodeEntry.enter at own ⊢
      split at own
      · rename_i here
        rw [if_pos here]
        simp
      · rename_i elsewhere
        exact absurd own elsewhere
    · intro program member
      obtain ⟨sender, nodeName, messages, rfl⟩ := opened program member
      have ends : AlwaysFollows (staysClean nodeId) (CleanAvoids nodeId)
          (ask (.cleanUp nodeName)) := .ask (servesDrain.plain trivial)
      exact (follows_receiveMessages servesDrain).bind (fun _ => ends) true
  have kept : DrainKept nodeId finish := by
    refine reached.invariant (DrainKept nodeId) ?_ start
    intro before event after taken held
    exact held.step taken
  exact kept.outOfUse

private def drainedFleet : Fleet String where
  db :=
    { nodes :=
        ⟨[{ sampleNode 1 8192 with name := "first", approved := true, status := .draining }],
          by simp⟩ }

private def firstRequest : RegisterRequest where
  nodeName := .text "first"
  nodeIp := "10.0.0.1"
  nodePort := 9000

/-- The session of a drained node ends. -/
theorem disconnected_node_out_of_use
    : OutOfUse sampleSite 1
        (⟨(controlPlane String sampleSite (.cleanUp (.text "first"))
            { now := 0, freshWorld := "new" } drainedFleet).1, [pure ()]⟩ : FleetPool String) := by
  have drain : drainNode 1 drainedFleet.db = .ok drainedFleet.db := by rfl
  have ended
      : WatchStep sampleSite
          (fun _ action _ => NotUndrained 1 action ∧ NotAdmitted 1 action)
          (⟨drainedFleet, [openSession 1 (.text "first") []]⟩ : FleetPool String)
          (.turn (.advance 0 { now := 0, freshWorld := "new" }))
          ⟨(controlPlane String sampleSite (.cleanUp (.text "first"))
            { now := 0, freshWorld := "new" } drainedFleet).1, [pure ()]⟩ := by
    refine .turn ⟨.advance rfl, fun index outside action next turn running => ?_⟩
    cases turn
    cases running
    exact ⟨by simp [NotUndrained], trivial⟩
  exact drained_stays_out_of_use sampleSite drain
    (fun program member => ⟨1, .text "first", [], List.mem_singleton.mp member⟩)
    ((Reachable.refl _).next ended)

/-- The agent of a drained node connects once more. -/
private def reconnected : FleetPool String :=
  [(0, { now := 0, freshWorld := "new" }), (0, { now := 0, freshWorld := "new" })].foldl
    (Pool.advance (controlPlane String sampleSite))
    ⟨drainedFleet, [nodeSession "change-me-in-dev" firstRequest []]⟩

/-- A reconnection ends the drain. -/
theorem reconnected_node_online
    : ∃ drained, drainNode 1 drainedFleet.db = .ok drained
      ∧ ∃ finish, Reachable (WatchStep sampleSite (fun _ action _ => NotUndrained 1 action))
        (⟨drainedFleet.withDb drained, []⟩ : FleetPool String) finish
      ∧ ¬ OutOfUse sampleSite 1 finish := by
  have connects : ∀ program ∈ [nodeSession "change-me-in-dev" firstRequest []],
      FleetHandler sampleSite program := by
    intro program member
    rw [List.mem_singleton.mp member]
    exact .session _ _ _
  have reached : Reachable
      (Pool.StepWhen (controlPlane String sampleSite) (FleetHandler sampleSite)
        (fun _ action _ => NotUndrained 1 action))
      ⟨drainedFleet, []⟩ reconnected := by
    refine (Pool.reachable_starts _ connects _).trans (Pool.reachable_schedule _ _ ?_)
    intro count turn found action next running
    match count with
    | 0 | 1 =>
        cases found
        cases running
        simp [NotUndrained]
    | count + 2 => cases found
  refine ⟨drainedFleet.db, by rfl, reconnected,
    reached.map .turn (fun _ _ _ taken => .turn taken), ?_⟩
  intro out
  have online : ⟨1, "first", .online⟩ ∈ roster reconnected.world.db := by decide +kernel
  exact out.status _ online rfl rfl

end Blockhost.ControlPlane
