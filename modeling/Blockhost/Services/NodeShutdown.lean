import Blockhost.Api.StartChecks
import Blockhost.Services.RebalanceTransactions

/-! The third phase of the rebalancer step by step: the test for work, the flushed reassignment,
the call that powers the instance off, and the commit that comes after it.
-/

namespace Blockhost

open Library

/-- How the cloud provider reacts: it is not there, its call raises, or it stops the instance. -/
inductive ProviderReply where
  | missing
  | raises
  | stops
deriving DecidableEq, Repr

/-- What a visit learns from outside. -/
structure VisitOutcome where
  tests : PortTests := {}
  provider : ProviderReply := .stops
  commits : Bool := true

def nodeHasWork (db : Database) (nodeId : Uuid) : Bool :=
  !(runningServersOnNode db nodeId).isEmpty
  || db.appDeployments.rows.any (fun deployment =>
    deployment.nodeId = some nodeId && deployment.state.reservesRam)

/-- How the reassignment of a node's servers ends early: without a port, or with an exception of
the flush.
-/
inductive ReassignFailure where
  | noPort (failure : String)
  | raised
deriving DecidableEq, Repr

/-- Each server gets a fresh port on the target and is flushed. -/
def reassignServers (settings : Settings) (tests : PortTests) (target : Node)
    : List Server → Database → Except ReassignFailure Database
  | [], db => .ok db
  | server :: rest, db =>
      match replaceServer settings tests target server db with
      | .error failure => .error (.noPort failure)
      | .ok next =>
          if UniqueNodePorts next.servers then reassignServers settings tests target rest next
          else .error .raised

def setDeploymentNode (nodeId : Option Uuid) : Change AppDeployment.id where
  apply deployment := { deployment with nodeId }

def commitShutdown (nodeId : Uuid) (target : Node) (db : Database) : Database :=
  { db with
    appDeployments :=
      db.appDeployments.update
        ((setDeploymentNode (some target.id)).when
          (fun deployment => deployment.nodeId = some nodeId))
    nodes := db.nodes.modify nodeId (setNodeStatus .offline) }

/-- The database after a visit, whether the visit has called `stop_instance`, and whether an
exception has left the cycle.
-/
structure Visit where
  committed : Database
  stopped : Bool := false
  raised : Bool := false

/-- One node of the loop. The instance is stopped before the reassignment is committed. -/
def visitNode (settings : Settings) (outcome : VisitOutcome) (allOnline : List Uuid)
    (nodeId : Uuid) (db : Database)
    : Visit :=
  match db.nodes.get? nodeId with
  | none => { committed := db, raised := true }
  | some node =>
      if node.provider.isNone || node.providerInstanceId.isNone || nodeHasWork db nodeId then
        { committed := db }
      else
        match remainingNodes db nodeId allOnline with
        | [] => { committed := db }
        | target :: _ =>
            match reassignServers settings outcome.tests target (allServersOnNode db nodeId)
                db with
            | .error (.noPort _) => { committed := db }
            | .error .raised => { committed := db, raised := true }
            | .ok reassigned =>
                match outcome.provider with
                | .missing => { committed := db }
                | .raises => { committed := db, stopped := true }
                | .stops =>
                    if outcome.commits then
                      { committed := commitShutdown nodeId target reassigned, stopped := true }
                    else { committed := db, stopped := true }

/-- A node of the phase with the database that is committed when the loop comes to it. -/
structure PhaseVisit where
  db : Database
  nodeId : Uuid
  outcome : VisitOutcome

def PhaseVisit.result (settings : Settings) (allOnline : List Uuid) (visit : PhaseVisit) : Visit :=
  visitNode settings visit.outcome allOnline visit.nodeId visit.db

/-- The visits of the loop, up to an exception. -/
def visitNodes (settings : Settings) (outcomes : Uuid → VisitOutcome) (allOnline : List Uuid)
    : List Uuid → Database → List PhaseVisit
  | [], _ => []
  | nodeId :: rest, db =>
      let visit : PhaseVisit := ⟨db, nodeId, outcomes nodeId⟩
      let result := visit.result settings allOnline
      visit ::
        (if result.raised then []
          else visitNodes settings outcomes allOnline rest result.committed)

/-- The nodes that the phase lists at its start. -/
def onlineNodeIds (db : Database) : List Uuid :=
  (db.nodes.rows.filter (fun node => node.status = .online)).map Node.id

def shutdownPhase (settings : Settings) (outcomes : Uuid → VisitOutcome) (db : Database)
    : List PhaseVisit :=
  visitNodes settings outcomes (onlineNodeIds db) (onlineNodeIds db) db

-- When an instance is stopped

/-- A node without any work, whose servers and deployments have been reassigned, next to another
online node.
-/
structure PoweredOffEmpty (db : Database) (nodeId : Uuid) : Prop where
  servers
    : ∀ server ∈ db.servers.rows, server.nodeId = some nodeId → server.state.reservesRam = false
  deployments
    : ∀ deployment ∈ db.appDeployments.rows, deployment.nodeId = some nodeId
      → deployment.state.reservesRam = false
  databases
    : ∀ database ∈ db.databaseInstances.rows, database.nodeId = some nodeId
      → database.state.reservesRam = false
  serversReassigned : ∀ server ∈ db.servers.rows, server.nodeId ≠ some nodeId
  deploymentsReassigned
    : ∀ deployment ∈ db.appDeployments.rows, deployment.nodeId ≠ some nodeId
  otherOnline : ∃ other ∈ db.nodes.rows, other.id ≠ nodeId ∧ other.status = .online

/-- The way to the call: a node of a provider that is there, without running servers and active
deployments, with another online node that has a port for each of its servers.
-/
structure StopReached (settings : Settings) (outcome : VisitOutcome) (allOnline : List Uuid)
    (nodeId : Uuid) (db : Database)
    : Prop where
  hosted : ∃ node ∈ db.nodes.get? nodeId, node.provider.isSome ∧ node.providerInstanceId.isSome
  idle : nodeHasWork db nodeId = false
  ported
    : ∃ target ∈ (remainingNodes db nodeId allOnline).head?, ∃ reassigned,
      reassignServers settings outcome.tests target (allServersOnNode db nodeId) db
        = .ok reassigned
  provider : outcome.provider ≠ .missing

section Visits

variable {settings : Settings} {outcome : VisitOutcome} {allOnline : List Uuid}
variable {nodeId : Uuid} {db : Database}

theorem visitNode_stopped_iff
    : (visitNode settings outcome allOnline nodeId db).stopped = true
      ↔ StopReached settings outcome allOnline nodeId db := by
  constructor
  · intro stopped
    unfold visitNode at stopped
    cases known : db.nodes.get? nodeId with
    | none => simp [known] at stopped
    | some node =>
        simp only [known] at stopped
        split at stopped
        · cases stopped
        · rename_i eligible
          simp only [Bool.or_eq_true, not_or, Option.isNone_iff_eq_none, Bool.not_eq_true,
            ← Option.isSome_iff_ne_none] at eligible
          split at stopped
          · cases stopped
          · rename_i target others remaining
            split at stopped
            · cases stopped
            · cases stopped
            · rename_i reassigned done
              refine ⟨⟨node, known, eligible.1⟩, eligible.2,
                ⟨target, by rw [remaining]; rfl, reassigned, done⟩, ?_⟩
              intro missing
              rw [missing] at stopped
              cases stopped
  · rintro ⟨⟨node, known, provided, instance_⟩, idle, ⟨target, first, reassigned, done⟩, there⟩
    obtain ⟨others, remaining⟩ : ∃ others, remainingNodes db nodeId allOnline = target :: others :=
      List.head?_eq_some_iff.mp first
    have eligible
        : (node.provider.isNone || node.providerInstanceId.isNone || nodeHasWork db nodeId)
          = false := by
      rw [idle, Option.isNone_eq_false_iff.mpr provided, Option.isNone_eq_false_iff.mpr instance_]
      rfl
    have found : db.nodes.get? nodeId = some node := known
    simp only [visitNode, found, eligible, Bool.false_eq_true, if_false, remaining, done]
    cases reply : outcome.provider with
    | missing => exact absurd reply there
    | raises => rfl
    | stops => dsimp only; split <;> rfl

theorem StopReached.otherOnline (reached : StopReached settings outcome allOnline nodeId db)
    : ∃ other ∈ db.nodes.rows, other.id ≠ nodeId ∧ other.status = .online := by
  obtain ⟨target, first, _⟩ := reached.ported
  obtain ⟨stored, test⟩ := List.mem_filter.mp (List.mem_of_mem_head? first)
  obtain ⟨_, _, found⟩ := List.mem_filterMap.mp stored
  simp only [Bool.and_eq_true, decide_eq_true_eq] at test
  exact ⟨target, (Table.get?_some found).1, test.2, test.1⟩

end Visits

-- What is misjudged

/-- A node that a provider runs. -/
def hostedNode (db : Database) (nodeId : Uuid) : Bool :=
  (db.nodes.get? nodeId).any (fun node =>
    node.provider.isSome && node.providerInstanceId.isSome)

/-- No server or app deployment names the node, whatever its state, and no active database
instance does.
-/
def vacant (db : Database) (nodeId : Uuid) : Bool :=
  db.servers.rows.all (fun server => server.nodeId ≠ some nodeId)
  && db.appDeployments.rows.all (fun deployment => deployment.nodeId ≠ some nodeId)
  && db.databaseInstances.rows.all (fun database =>
    !(database.nodeId = some nodeId && database.state.reservesRam))

/-- A vacant node whose provider stops it is offline for the nodes that are listed after it. -/
def goesOffline (outcomes : Uuid → VisitOutcome) (db : Database) (nodeId : Uuid) : Bool :=
  hostedNode db nodeId && vacant db nodeId
  && ((outcomes nodeId).provider = .stops && (outcomes nodeId).commits)

def listedBefore (db : Database) (nodeId : Uuid) : List Uuid :=
  (onlineNodeIds db).takeWhile (fun other => other ≠ nodeId)

/-- The other nodes that can take the servers of a node when its turn comes. -/
def stillOnline (outcomes : Uuid → VisitOutcome) (db : Database) (nodeId : Uuid) : List Node :=
  currentNodes db ((onlineNodeIds db).filter (fun other =>
    other ≠ nodeId && other ∉ (listedBefore db nodeId).filter (goesOffline outcomes db)))

/-- Each server in turn finds a port on the target, where those before it have taken theirs. -/
def PortsFor (settings : Settings) (tests : PortTests) (target : Node)
    : List Server → Database → Prop
  | [], _ => True
  | server :: rest, db =>
      ∃ port, allocatePort settings tests db server.flavor (some target.id) = .ok port
        ∧ PortsFor settings tests target rest
            (changeServer server.id (placeServer target port) db)

/-- A node that is not vacant and still passes for idle, of a provider that is there, while
another node is online and has ports for its servers.
-/
structure Misjudged (settings : Settings) (outcomes : Uuid → VisitOutcome) (db : Database)
    (nodeId : Uuid)
    : Prop where
  hosted : hostedNode db nodeId = true
  provider : (outcomes nodeId).provider ≠ .missing
  idle : nodeHasWork db nodeId = false
  occupied : vacant db nodeId = false
  ported
    : ∃ target ∈ (stillOnline outcomes db nodeId).head?,
      PortsFor settings (outcomes nodeId).tests target (allServersOnNode db nodeId) db

section Reassignment

variable {settings : Settings} {tests : PortTests} {target : Node} {db other : Database}

theorem allocatePort_of_servers {flavor : ServerFlavor} {nodeId : Option Uuid}
    (same : other.servers = db.servers)
    : allocatePort settings tests other flavor nodeId
      = allocatePort settings tests db flavor nodeId := by
  unfold allocatePort validateServerPortPairs collectReservedPorts serversInRange
  rw [same]

/-- A port that is allocated on a node is free there, so the flush that places a server with it
does not raise.
-/
theorem uniqueNodePorts_placeServer (server : Server) {flavor : ServerFlavor} {port : Int}
    (unique : UniqueNodePorts db.servers)
    (allocated : allocatePort settings tests db flavor (some target.id) = .ok port)
    : UniqueNodePorts (changeServer server.id (placeServer target port) db).servers :=
  uniqueNodePorts_modify unique (fun _ _ _ _ member _ same =>
    allocatePort_other allocated member (.inr same.symm))

/-- The reassignment succeeds exactly with a port for each server, and is never cut off by the
flush. By induction on the servers.
-/
theorem reassignServers_cases {servers : List Server} (unique : UniqueNodePorts db.servers)
    (same : other.servers = db.servers)
    : ((∃ next, reassignServers settings tests target servers other = .ok next)
        ↔ PortsFor settings tests target servers db)
      ∧ reassignServers settings tests target servers other ≠ .error .raised := by
  induction servers generalizing db other with
  | nil => exact ⟨iff_of_true ⟨other, rfl⟩ trivial, nofun⟩
  | cons server rest ih =>
      simp only [reassignServers, replaceServer, PortsFor, allocatePort_of_servers same]
      cases allocated : allocatePort settings tests db server.flavor (some target.id) with
      | error failure => simp
      | ok port =>
          have placed
              : (changeServer server.id (placeServer target port) other).servers
                = (changeServer server.id (placeServer target port) db).servers :=
            congrArg (fun servers : Table Server.id =>
              servers.modify server.id (placeServer target port)) same
          have kept := uniqueNodePorts_placeServer server unique allocated
          simp only [placed, if_pos kept, Except.ok.injEq, exists_eq_left']
          exact ih kept placed

end Reassignment

-- The nodes that are gone

def switchOff (gone : List Uuid) (db : Database) : Database :=
  { db with
    nodes := db.nodes.update ((setNodeStatus .offline).when (fun node => node.id ∈ gone)) }

theorem switchOff_nil (db : Database) : switchOff [] db = db := by
  have nodes : (switchOff [] db).nodes = db.nodes := by
    refine Table.eq_of_rows_eq ((List.map_congr_left ?_).trans (List.map_id _))
    intro node _
    simp [Change.when]
  exact congrArg (fun nodes => { db with nodes := nodes }) nodes

section Turns

variable {settings : Settings} {outcomes : Uuid → VisitOutcome} {db : Database}
variable {nodeId : Uuid} {gone done rest : List Uuid}

theorem get?_switchOff (gone : List Uuid) (db : Database) (nodeId : Uuid)
    : (switchOff gone db).nodes.get? nodeId
      = (db.nodes.get? nodeId).map (fun node =>
        if nodeId ∈ gone then (setNodeStatus .offline).apply node else node) := by
  unfold switchOff
  rw [Table.get?_update]
  refine Option.map_congr ?_
  intro node found
  have same := (Table.get?_some found).2
  simp [Change.when, same]

theorem hosted_iff (gone : List Uuid)
    : hostedNode db nodeId = true
      ↔ ∃ node ∈ (switchOff gone db).nodes.get? nodeId,
        node.provider.isSome ∧ node.providerInstanceId.isSome := by
  unfold hostedNode
  rw [get?_switchOff]
  cases db.nodes.get? nodeId with
  | none => simp
  | some node => by_cases off : nodeId ∈ gone <;> simp [off, setNodeStatus]

theorem onlineNodeIds_nodup (db : Database) : (onlineNodeIds db).Nodup :=
  db.nodes.unique.sublist (List.filter_sublist.map Node.id)

theorem onlineNodeIds_get? (listed : nodeId ∈ onlineNodeIds db)
    : ∃ node, db.nodes.get? nodeId = some node ∧ node.status = .online ∧ node.id = nodeId := by
  obtain ⟨node, member, rfl⟩ := List.mem_map.mp listed
  obtain ⟨stored, online⟩ := List.mem_filter.mp member
  exact ⟨node, Table.get?_of_mem stored, by simpa using online, rfl⟩

theorem listedBefore_split (split : onlineNodeIds db = done ++ nodeId :: rest)
    : listedBefore db nodeId = done := by
  have nodup := onlineNodeIds_nodup db
  rw [split, List.nodup_append] at nodup
  unfold listedBefore
  rw [split, List.takeWhile_append_of_pos]
  · simp
  · intro other member
    simpa using nodup.2.2 other member nodeId List.mem_cons_self

/-- At its turn a node finds the others that are still online, in the order of the list. -/
theorem remainingNodes_switchOff (split : onlineNodeIds db = done ++ nodeId :: rest)
    : remainingNodes (switchOff (done.filter (goesOffline outcomes db)) db) nodeId
        (onlineNodeIds db)
      = stillOnline outcomes db nodeId := by
  unfold remainingNodes stillOnline currentNodes
  rw [listedBefore_split split, List.filter_filterMap, List.filterMap_filter]
  refine List.filterMap_congr ?_
  intro other listed
  obtain ⟨node, stored, online, rfl⟩ := onlineNodeIds_get? listed
  rw [get?_switchOff, stored]
  by_cases off : node.id ∈ done.filter (goesOffline outcomes db)
  · simp [off, setNodeStatus, Option.filter]
  · simp only [Option.map_some, if_neg off]
    by_cases same : node.id = nodeId <;> simp [Option.filter, online, off, same]

/-- The node that is listed next is still online. -/
theorem next_stillOnline (outcomes : Uuid → VisitOutcome) {next : Uuid}
    (split : onlineNodeIds db = done ++ nodeId :: next :: rest)
    : ∃ node, node ∈ stillOnline outcomes db nodeId := by
  have nodup := onlineNodeIds_nodup db
  rw [split, List.nodup_append, List.nodup_cons] at nodup
  obtain ⟨_, ⟨fresh, _⟩, apart⟩ := nodup
  have listed : next ∈ onlineNodeIds db := by simp [split]
  obtain ⟨node, stored, _, _⟩ := onlineNodeIds_get? listed
  refine ⟨node, List.mem_filterMap.mpr ⟨next, List.mem_filter.mpr ⟨listed, ?_⟩, stored⟩⟩
  have other : next ≠ nodeId := fun same => fresh (same ▸ List.mem_cons_self)
  have later : next ∉ done := fun earlier =>
    apart next earlier next (List.mem_cons_of_mem _ List.mem_cons_self) rfl
  simp [listedBefore_split split, other, later]

theorem vacant_iff
    : vacant db nodeId = true
      ↔ (∀ server ∈ db.servers.rows, server.nodeId ≠ some nodeId)
        ∧ (∀ deployment ∈ db.appDeployments.rows, deployment.nodeId ≠ some nodeId)
        ∧ ∀ database ∈ db.databaseInstances.rows, database.nodeId = some nodeId
          → database.state.reservesRam = false := by
  simp only [vacant, Bool.and_eq_true, and_assoc, List.all_eq_true, decide_eq_true_eq]
  refine and_congr_right' (and_congr_right' (forall₂_congr ?_))
  intro database _
  simp [imp_iff_not_or]

theorem reassignServers_switchOff {tests : PortTests} {target : Node}
    (unique : UniqueNodePorts db.servers) (gone : List Uuid)
    : ((∃ next, reassignServers settings tests target
          (allServersOnNode (switchOff gone db) nodeId) (switchOff gone db) = .ok next)
        ↔ PortsFor settings tests target (allServersOnNode db nodeId) db)
      ∧ reassignServers settings tests target (allServersOnNode (switchOff gone db) nodeId)
          (switchOff gone db)
        ≠ .error .raised :=
  reassignServers_cases unique rfl

/-- What reaches the call without being misjudged is vacant. -/
theorem StopReached.vacant (unique : UniqueNodePorts db.servers)
    (split : onlineNodeIds db = done ++ nodeId :: rest)
    (off : gone = done.filter (goesOffline outcomes db))
    (judged : ¬ Misjudged settings outcomes db nodeId)
    (reached : StopReached settings (outcomes nodeId) (onlineNodeIds db) nodeId
      (switchOff gone db))
    : vacant db nodeId = true := by
  by_contra occupied
  obtain ⟨target, first, ported⟩ := reached.ported
  rw [off, remainingNodes_switchOff split] at first
  exact judged {
    hosted := (hosted_iff gone).mpr reached.hosted
    provider := reached.provider
    idle := reached.idle
    occupied := Bool.eq_false_iff.mpr occupied
    ported := ⟨target, first, (reassignServers_switchOff unique gone).1.mp ported⟩ }

/-- A visit is safe unless its node is misjudged. -/
theorem visitNode_safe_iff (unique : UniqueNodePorts db.servers)
    (split : onlineNodeIds db = done ++ nodeId :: rest)
    (off : gone = done.filter (goesOffline outcomes db))
    : ((visitNode settings (outcomes nodeId) (onlineNodeIds db) nodeId
          (switchOff gone db)).stopped = true
        → PoweredOffEmpty (switchOff gone db) nodeId)
      ↔ ¬ Misjudged settings outcomes db nodeId := by
  rw [visitNode_stopped_iff]
  constructor
  · rintro safe ⟨isHosted, there, idle, occupied, target, first, ported⟩
    rw [← remainingNodes_switchOff split, ← off] at first
    have empty := safe ⟨(hosted_iff gone).mp isHosted, idle,
      ⟨target, first, (reassignServers_switchOff unique gone).1.mpr ported⟩, there⟩
    have isVacant := vacant_iff.mpr
      ⟨empty.serversReassigned, empty.deploymentsReassigned, empty.databases⟩
    cases occupied.symm.trans isVacant
  · intro judged reached
    obtain ⟨servers, deployments, databases⟩ :=
      vacant_iff.mp (reached.vacant unique split off judged)
    exact {
      servers := fun server stored named => absurd named (servers server stored)
      deployments := fun deployment stored named => absurd named (deployments deployment stored)
      databases := databases
      serversReassigned := servers
      deploymentsReassigned := deployments
      otherOnline := reached.otherOnline }

-- What a safe visit leaves

theorem visitNode_kept
    (silent : (visitNode settings (outcomes nodeId) allOnline nodeId db).stopped = false)
    : (visitNode settings (outcomes nodeId) allOnline nodeId db).committed = db := by
  unfold visitNode at silent ⊢
  repeat' split at silent
  all_goals simp_all

theorem commitShutdown_switchOff {target : Node} (isVacant : vacant db nodeId = true)
    : commitShutdown nodeId target (switchOff gone db) = switchOff (gone ++ [nodeId]) db := by
  have deployments
      : db.appDeployments.update ((setDeploymentNode (some target.id)).when
          (fun deployment => deployment.nodeId = some nodeId))
        = db.appDeployments := by
    refine Table.eq_of_rows_eq ((List.map_congr_left ?_).trans (List.map_id _))
    intro deployment stored
    simp [Change.when, (vacant_iff.mp isVacant).2.1 deployment stored]
  have nodes
      : (switchOff gone db).nodes.modify nodeId (setNodeStatus .offline)
        = (switchOff (gone ++ [nodeId]) db).nodes := by
    refine Table.eq_of_rows_eq ((List.map_map).trans (List.map_congr_left ?_))
    intro node _
    by_cases now : node.id = nodeId
    · subst now
      by_cases before : node.id ∈ gone <;> simp [Change.at, Change.when, setNodeStatus, before]
    · by_cases before : node.id ∈ gone <;>
        simp [Change.at, Change.when, setNodeStatus, before, now]
  unfold commitShutdown
  rw [nodes]
  exact congrArg (fun deployments => { switchOff (gone ++ [nodeId]) db with
    appDeployments := deployments }) deployments

theorem vacant_idle (isVacant : vacant db nodeId = true) : nodeHasWork db nodeId = false := by
  obtain ⟨servers, deployments, _⟩ := vacant_iff.mp isVacant
  unfold nodeHasWork runningServersOnNode
  rw [List.filter_eq_nil_iff.mpr (by
    intro server stored
    simp [servers server stored])]
  simp only [List.isEmpty_nil, Bool.not_true, Bool.false_or, List.any_eq_false]
  intro deployment stored
  simp [deployments deployment stored]

theorem visitNode_vacant {outcome : VisitOutcome} {allOnline : List Uuid} {target : Node}
    {others : List Node} (isHosted : hostedNode db nodeId = true)
    (isVacant : vacant db nodeId = true)
    (remaining : remainingNodes (switchOff gone db) nodeId allOnline = target :: others)
    : (visitNode settings outcome allOnline nodeId (switchOff gone db)).committed
      = if outcome.provider = .stops && outcome.commits then switchOff (gone ++ [nodeId]) db
        else switchOff gone db := by
  obtain ⟨node, known, provided, instance_⟩ := (hosted_iff gone).mp isHosted
  have found : (switchOff gone db).nodes.get? nodeId = some node := known
  have idle : nodeHasWork (switchOff gone db) nodeId = false := vacant_idle isVacant
  have none : allServersOnNode (switchOff gone db) nodeId = [] := by
    unfold allServersOnNode leastActiveFirst
    rw [List.filter_eq_nil_iff.mpr (by
      intro server stored
      simp [(vacant_iff.mp isVacant).1 server stored])]
    exact List.mergeSort_nil
  have eligible
      : (node.provider.isNone || node.providerInstanceId.isNone
          || nodeHasWork (switchOff gone db) nodeId) = false := by
    rw [idle, Option.isNone_eq_false_iff.mpr provided, Option.isNone_eq_false_iff.mpr instance_]
    rfl
  simp only [visitNode, found, eligible, Bool.false_eq_true, if_false, remaining, none,
    reassignServers, commitShutdown_switchOff isVacant]
  cases outcome.provider <;> cases outcome.commits <;> rfl

theorem visitNode_unraised {outcome : VisitOutcome} {allOnline : List Uuid} {node : Node}
    (known : db.nodes.get? nodeId = some node)
    (flushed : ∀ target,
      reassignServers settings outcome.tests target (allServersOnNode db nodeId) db
        ≠ .error .raised)
    : (visitNode settings outcome allOnline nodeId db).raised = false := by
  unfold visitNode
  simp only [known]
  repeat' split
  all_goals simp_all

/-- After a safe visit nothing has been raised, and the next node of the list finds those offline
that have gone.
-/
theorem visitNode_safe_next (unique : UniqueNodePorts db.servers) {next : Uuid}
    (split : onlineNodeIds db = done ++ nodeId :: next :: rest)
    (off : gone = done.filter (goesOffline outcomes db))
    (judged : ¬ Misjudged settings outcomes db nodeId)
    : (visitNode settings (outcomes nodeId) (onlineNodeIds db) nodeId
          (switchOff gone db)).raised = false
      ∧ (visitNode settings (outcomes nodeId) (onlineNodeIds db) nodeId
          (switchOff gone db)).committed
        = switchOff ((done ++ [nodeId]).filter (goesOffline outcomes db)) db := by
  have listed : nodeId ∈ onlineNodeIds db := by simp [split]
  obtain ⟨node, stored, _⟩ := onlineNodeIds_get? listed
  refine ⟨visitNode_unraised (by rw [get?_switchOff, stored]; rfl)
    (fun target => (reassignServers_switchOff unique gone).2), ?_⟩
  rw [List.filter_append, ← off]
  by_cases ready : hostedNode db nodeId = true ∧ vacant db nodeId = true
  · -- The next node is online still, so there is a target.
    obtain ⟨target, others, remaining⟩ : ∃ target others,
        remainingNodes (switchOff gone db) nodeId (onlineNodeIds db) = target :: others := by
      rw [off, remainingNodes_switchOff split]
      obtain ⟨node, member⟩ := next_stillOnline outcomes split
      exact List.exists_cons_of_ne_nil (List.ne_nil_of_mem member)
    rw [visitNode_vacant ready.1 ready.2 remaining]
    by_cases goes : ((outcomes nodeId).provider = .stops && (outcomes nodeId).commits) = true
    · simp [goesOffline, ready, goes]
    · simp [goesOffline, ready, goes]
  · have stays : goesOffline outcomes db nodeId = false := by
      simp only [goesOffline, Bool.and_eq_false_iff]
      grind
    have silent : (visitNode settings (outcomes nodeId) (onlineNodeIds db) nodeId
        (switchOff gone db)).stopped = false := by
      refine Bool.eq_false_iff.mpr fun stopped => ready ?_
      have reached := visitNode_stopped_iff.mp stopped
      exact ⟨(hosted_iff gone).mpr reached.hosted, reached.vacant unique split off judged⟩
    rw [visitNode_kept silent]
    simp [stays]

/-- The visits from a turn on are safe unless a node that is left is misjudged, by induction on
the nodes that are left.
-/
theorem visitNodes_safe_iff (unique : UniqueNodePorts db.servers)
    (split : onlineNodeIds db = done ++ rest)
    : (∀ visit ∈ visitNodes settings outcomes (onlineNodeIds db) rest
          (switchOff (done.filter (goesOffline outcomes db)) db),
        (visit.result settings (onlineNodeIds db)).stopped = true
        → PoweredOffEmpty visit.db visit.nodeId)
      ↔ ∀ nodeId ∈ rest, ¬ Misjudged settings outcomes db nodeId := by
  induction rest generalizing done with
  | nil => simp [visitNodes]
  | cons nodeId rest ih =>
      have here : _ ↔ ¬ Misjudged settings outcomes db nodeId :=
        visitNode_safe_iff unique split rfl
      unfold visitNodes
      rw [List.forall_mem_cons, List.forall_mem_cons]
      refine (and_congr_left' here).trans (and_congr_right ?_)
      intro judged
      cases rest with
      | nil => simp [visitNodes]
      | cons next rest =>
          obtain ⟨calm, committed⟩ := visitNode_safe_next unique split rfl judged
          simp only [PhaseVisit.result, calm, committed, Bool.false_eq_true, if_false]
          exact ih (by rw [split, List.append_assoc]; rfl)

end Turns

/-- The third phase powers off empty nodes only exactly when it misjudges no node that is online
at its start.
-/
theorem shutdown_phase_safe_iff (settings : Settings) (outcomes : Uuid → VisitOutcome)
    (db : Database) (unique : UniqueNodePorts db.servers)
    : (∀ visit ∈ shutdownPhase settings outcomes db,
        (visit.result settings (onlineNodeIds db)).stopped = true
        → PoweredOffEmpty visit.db visit.nodeId)
      ↔ ∀ nodeId ∈ onlineNodeIds db, ¬ Misjudged settings outcomes db nodeId := by
  have whole : _ ↔ ∀ nodeId ∈ onlineNodeIds db, ¬ Misjudged settings outcomes db nodeId :=
    visitNodes_safe_iff unique (List.nil_append _).symm
  rw [List.filter_nil, switchOff_nil] at whole
  exact whole

/-- The first of two nodes has nothing on it. -/
def emptiedNode : Database where
  servers :=
    ⟨[{ id := 0, nodeId := some 2, ownerId := 7, worldName := "lobby", state := .running,
        lastActivity := 0 }],
      by simp⟩
  nodes :=
    ⟨[{ id := 1, name := "first", ipAddress := "10.0.0.1", status := .online,
        statusUpdatedAt := 0, provider := some "aws", providerInstanceId := some "i-1" },
      { id := 2, name := "second", ipAddress := "10.0.0.2", status := .online,
        statusUpdatedAt := 0, provider := some "aws", providerInstanceId := some "i-2" }],
      by simp⟩

/-- The phase powers that node off, and keeps the other one. -/
theorem emptied_node_powered_off
    : ((visitNode {} {} (onlineNodeIds emptiedNode) 1 emptiedNode).stopped = true)
      ∧ ∀ visit ∈ shutdownPhase {} (fun _ => {}) emptiedNode,
        (visit.result {} (onlineNodeIds emptiedNode)).stopped = true
        → PoweredOffEmpty visit.db visit.nodeId := by
  refine ⟨by decide +kernel, (shutdown_phase_safe_iff {} _ emptiedNode (by decide)).mpr ?_⟩
  intro nodeId listed judged
  rcases List.mem_pair.mp listed with rfl | rfl
  · exact absurd judged.occupied (by decide)
  · exact absurd judged.idle (by decide)

def provisioningNode : Database :=
  { emptiedNode with
    servers :=
      ⟨[{ id := 0, nodeId := some 1, ownerId := 7, worldName := "lobby", state := .provisioning,
          lastActivity := 0 }],
        by simp⟩ }

/-- The phase powers that node off. -/
theorem provisioning_node_powered_off
    : ¬ ∀ (settings : Settings) (outcomes : Uuid → VisitOutcome) (db : Database),
        ∀ visit ∈ shutdownPhase settings outcomes db,
          (visit.result settings (onlineNodeIds db)).stopped = true
          → PoweredOffEmpty visit.db visit.nodeId := by
  intro safe
  have stopped
      : (visitNode {} {} (onlineNodeIds provisioningNode) 1 provisioningNode).stopped = true := by
    decide +kernel
  have empty := safe {} (fun _ => {}) provisioningNode ⟨provisioningNode, 1, {}⟩
    List.mem_cons_self stopped
  exact absurd (empty.servers _ List.mem_cons_self rfl) (by decide)

end Blockhost
