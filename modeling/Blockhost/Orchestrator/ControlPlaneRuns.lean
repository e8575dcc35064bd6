import Blockhost.Orchestrator.ControlPlane

/-! What single actions of the control plane do: a transaction writes to the database alone, and
a call of an agent to all but the database. Handlers are traced from one action to the next.
-/

namespace Blockhost.ControlPlane

open Library

variable {World Result Later : Type} {site : Site}

-- Tracing a handler

/-- The answer of an action, and the fleet that it leaves. -/
abbrev Took (site : Site) (action : FleetAction) (outside : Outside World)
    (before after : Fleet World) (answer : FleetAnswer action)
    : Prop :=
  controlPlane World site action outside before = (after, answer)

abbrev Handler.run (site : Site) (handler : Handler Result) (inputs : Stream' (Outside World))
    (fleet : Fleet World)
    : Outcome (Outside World) (Fleet World) Raised Result :=
  Program.run (controlPlane World site) handler inputs fleet

/-- The outcome of a handler that returns. -/
abbrev Returns (site : Site) (handler : Handler Result) (inputs : Stream' (Outside World))
    (fleet : Fleet World) (rest : Stream' (Outside World)) (finish : Fleet World)
    (result : Result)
    : Prop :=
  handler.run site inputs fleet = ⟨finish, rest, .ok result⟩

/-- The outcome of a handler that raises. -/
abbrev Raises (site : Site) (handler : Handler Result) (inputs : Stream' (Outside World))
    (fleet : Fleet World) (rest : Stream' (Outside World)) (finish : Fleet World)
    (failure : Raised)
    : Prop :=
  handler.run site inputs fleet = ⟨finish, rest, .error failure⟩

variable {fleet finish : Fleet World} {inputs rest : Stream' (Outside World)} {result : Result}

theorem run_ask {action : FleetAction} {next : FleetAnswer action → Handler Result}
    {after : Fleet World} {answer : FleetAnswer action}
    (took : Took site action inputs.head fleet after answer)
    : Handler.run site (ask action >>= next) inputs fleet
      = Handler.run site (next answer) inputs.tail after := by
  have stepped : Handler.run site (ask action >>= next) inputs fleet
      = Handler.run site (next (controlPlane World site action inputs.head fleet).2) inputs.tail
        (controlPlane World site action inputs.head fleet).1 := rfl
  rw [stepped, took]

/-- A handler that returns after a call returns from the state and the answer of that call. -/
theorem ask_returns {action : FleetAction} {next : FleetAnswer action → Handler Result}
    (ended : Returns site (ask action >>= next) inputs fleet rest finish result)
    : ∃ after answer, Took site action inputs.head fleet after answer
      ∧ Returns site (next answer) inputs.tail after rest finish result :=
  Program.run_perform ended

/-- A sequence that returns splits at the value of its first part. -/
theorem bind_returns {first : Handler Later} {second : Later → Handler Result}
    (ended : Returns site (first >>= second) inputs fleet rest finish result)
    : ∃ remaining middle value, Returns site first inputs fleet remaining middle value
      ∧ Returns site (second value) remaining middle rest finish result := by
  obtain ⟨middle, remaining, value, first, second⟩ := Program.run_bind_ok ended
  exact ⟨remaining, middle, value, first, second⟩

theorem bind_raises {first : Handler Later} {second : Later → Handler Result}
    {failure : Raised}
    (ended : Raises site (first >>= second) inputs fleet rest finish failure)
    : Raises site first inputs fleet rest finish failure
      ∨ ∃ remaining middle value, Returns site first inputs fleet remaining middle value
        ∧ Raises site (second value) remaining middle rest finish failure := by
  unfold Raises Handler.run at ended
  rw [Program.run_bind] at ended
  cases outcome : Program.run (controlPlane World site) first inputs fleet with
  | mk middle remaining result =>
      rw [outcome] at ended
      cases result with
      | error error =>
          cases ended
          exact .inl outcome
      | ok value => exact .inr ⟨remaining, middle, value, outcome, ended⟩

theorem ask_only {action : FleetAction} {answer : FleetAnswer action}
    (ended : Returns site (ask action) inputs fleet rest finish answer)
    : Took site action inputs.head fleet finish answer ∧ rest = inputs.tail := by
  have stepped : Handler.run site (ask action) inputs fleet
      = ⟨(controlPlane World site action inputs.head fleet).1, inputs.tail,
        .ok (controlPlane World site action inputs.head fleet).2⟩ := rfl
  rw [Returns, stepped, Outcome.mk.injEq, Except.ok.injEq] at ended
  exact ⟨Prod.ext ended.1 ended.2.2, ended.2.1.symm⟩

theorem raising_returns {outcome : Except Raised Later} {next : Later → Handler Result}
    (ended : Returns site (raising outcome >>= next) inputs fleet rest finish result)
    : ∃ value, outcome = .ok value ∧ Returns site (next value) inputs fleet rest finish result := by
  cases outcome with
  | error failure => cases ended
  | ok value => exact ⟨value, rfl, ended⟩

theorem existing_returns {Row : Type} {found : Option Row} {next : Row → Handler Result}
    (ended : Returns site (existing found >>= next) inputs fleet rest finish result)
    : ∃ row, found = some row ∧ Returns site (next row) inputs fleet rest finish result := by
  cases found with
  | none => cases ended
  | some row => exact ⟨row, rfl, ended⟩

/-- Where every recovery raises, only the handled part itself returns. -/
theorem handled_returns {handler : Handler Result} {recover : Raised → Handler Result}
    (raises : ∀ failure inputs (fleet : Fleet World),
      ∃ error, ((recover failure).run site inputs fleet).result = .error error)
    (ended : Returns site (tryCatch handler recover) inputs fleet rest finish result)
    : Returns site handler inputs fleet rest finish result := by
  unfold Returns Handler.run at ended ⊢
  rw [Program.run_handle] at ended
  cases outcome : Program.run (controlPlane World site) handler inputs fleet with
  | mk middle remaining value =>
      rw [outcome] at ended
      cases value with
      | ok value => exact ended
      | error failure =>
          obtain ⟨error, raised⟩ := raises failure remaining middle
          dsimp only at ended
          rw [Handler.run, ended] at raised
          cases raised

theorem returns_handled {handler : Handler Result} {recover : Raised → Handler Result}
    (ended : Returns site handler inputs fleet rest finish result)
    : Returns site (tryCatch handler recover) inputs fleet rest finish result := by
  unfold Returns Handler.run at ended ⊢
  rw [Program.run_handle, ended]

/-- The run of a sequence goes on where its first part has returned. -/
theorem returns_bind {first : Handler Later} {second : Later → Handler Result}
    {middle : Fleet World} {remaining : Stream' (Outside World)} {value : Later}
    (opening : Returns site first inputs fleet remaining middle value)
    : Handler.run site (first >>= second) inputs fleet
      = Handler.run site (second value) remaining middle := by
  unfold Returns Handler.run at opening
  unfold Handler.run
  rw [Program.run_bind, opening]

/-- A handler returns a result, whatever it leaves. -/
def Succeeds (site : Site) (handler : Handler Result) (inputs : Stream' (Outside World))
    (fleet : Fleet World) (result : Result)
    : Prop :=
  ∃ rest finish, Returns site handler inputs fleet rest finish result

theorem succeeds_ask {action : FleetAction} {next : FleetAnswer action → Handler Result}
    {after : Fleet World} {answer : FleetAnswer action}
    (took : Took site action inputs.head fleet after answer)
    (later : Succeeds site (next answer) inputs.tail after result)
    : Succeeds site (ask action >>= next) inputs fleet result := by
  obtain ⟨rest, finish, ended⟩ := later
  exact ⟨rest, finish, (run_ask took).trans ended⟩

theorem succeeds_raising {outcome : Except Raised Later} {next : Later → Handler Result}
    {value : Later} (good : outcome = .ok value)
    (later : Succeeds site (next value) inputs fleet result)
    : Succeeds site (raising outcome >>= next) inputs fleet result := by
  subst good
  exact later

theorem succeeds_existing {Row : Type} {found : Option Row} {next : Row → Handler Result}
    {row : Row} (present : found = some row)
    (later : Succeeds site (next row) inputs fleet result)
    : Succeeds site (existing found >>= next) inputs fleet result := by
  subst present
  exact later

/-- The second part has to succeed from wherever the first may return. -/
theorem succeeds_bind {first : Handler Later} {second : Later → Handler Result} {value : Later}
    (opening : Succeeds site first inputs fleet value)
    (later : ∀ remaining middle, Returns site first inputs fleet remaining middle value
      → Succeeds site (second value) remaining middle result)
    : Succeeds site (first >>= second) inputs fleet result := by
  obtain ⟨remaining, middle, first⟩ := opening
  obtain ⟨rest, finish, ended⟩ := later remaining middle first
  exact ⟨rest, finish, (returns_bind first).trans ended⟩

theorem succeeds_handled {handler : Handler Result} {recover : Raised → Handler Result}
    (ended : Succeeds site handler inputs fleet result)
    : Succeeds site (tryCatch handler recover) inputs fleet result := by
  obtain ⟨rest, finish, ended⟩ := ended
  exact ⟨rest, finish, returns_handled ended⟩

section Uses

variable {allowed : FleetAction → Prop}

theorem uses_ask {action : FleetAction} (permitted : allowed action)
    : Program.Uses allowed (ask action) :=
  ⟨permitted, fun _ => trivial⟩

theorem uses_raising (outcome : Except Raised Result)
    : Program.Uses allowed (raising outcome) := by
  cases outcome <;> trivial

theorem uses_existing {Row : Type} (found : Option Row)
    : Program.Uses allowed (existing found) := by
  cases found <;> trivial

end Uses

theorem took_some (site : Site) (action : FleetAction) (outside : Outside World)
    (before : Fleet World)
    : ∃ after answer, Took site action outside before after answer :=
  ⟨_, _, rfl⟩

-- Nodes of servers

section Nodes

variable {serverId : Uuid}

theorem serverNode_change (db : Database) (change : Change Server.id)
    : serverNode (changeServer serverId change db) serverId
      = (db.servers.get? serverId).bind (fun server => (change.apply server).nodeId) := by
  unfold serverNode changeServer
  rw [Table.get?_modify, if_pos rfl]
  cases db.servers.get? serverId <;> rfl

theorem serverNode_kept {change : Change Server.id}
    (kept : ∀ server, (change.apply server).nodeId = server.nodeId) (changed : Uuid)
    (db : Database)
    : serverNode (changeServer changed change db) serverId = serverNode db serverId := by
  unfold serverNode changeServer
  rw [Table.get?_modify]
  cases db.servers.get? serverId with
  | none => split <;> rfl
  | some server =>
      split
      · exact kept server
      · rfl

theorem routedNode_some {db : Database} {nodeId : Uuid}
    (routed : routedNode db serverId = some nodeId)
    : serverNode db serverId = some nodeId := by
  unfold routedNode at routed
  cases named : serverNode db serverId with
  | none =>
      rw [named] at routed
      cases routed
  | some recorded =>
      rw [named] at routed
      cases found : db.nodes.get? recorded with
      | none =>
          rw [Option.bind_some, found] at routed
          cases routed
      | some node =>
          rw [Option.bind_some, found] at routed
          cases routed
          rw [(Table.get?_some found).2]

theorem routedNode_known {db : Database} {nodeId : Uuid}
    (named : serverNode db serverId = some nodeId)
    (known : nodeId ∈ db.nodes.rows.map Node.id)
    : routedNode db serverId = some nodeId := by
  unfold routedNode
  rw [named, Option.bind_some]
  cases found : db.nodes.get? nodeId with
  | none => exact absurd known (Table.get?_eq_none.mp found)
  | some node =>
      rw [Option.map_some, (Table.get?_some found).2]

theorem serverNode_detached (db : Database)
    : serverNode (changeServer serverId detachServer db) serverId = none := by
  rw [serverNode_change]
  cases db.servers.get? serverId <;> rfl

theorem serverNode_placed {db : Database} {node : Node} {port : Int} {nodeId : Uuid}
    (named : serverNode (changeServer serverId (placeServer node port) db) serverId = some nodeId)
    : nodeId = node.id := by
  rw [serverNode_change] at named
  cases found : db.servers.get? serverId with
  | none =>
      rw [found] at named
      cases named
  | some server =>
      rw [found] at named
      cases named
      rfl

end Nodes

-- Transactions

/-- Only the database and the time may differ. -/
structure Wrote (before after : Fleet World) (db : Database) : Prop where
  db : after.db = db
  processes : after.processes = before.processes
  disks : after.disks = before.disks
  snapshots : after.snapshots = before.snapshots
  routes : after.routes = before.routes
  delayed : after.delayed = before.delayed
  migrationTimes : after.migrationTimes = before.migrationTimes

variable {outside : Outside World} {before after : Fleet World} {serverId nodeId : Uuid}

theorem wrote_withDb (outside : Outside World) (fleet : Fleet World) (db : Database)
    : Wrote fleet ((fleet.atTime outside.now).withDb db) db :=
  ⟨rfl, rfl, rfl, rfl, rfl, rfl, rfl⟩

theorem wrote_nothing (outside : Outside World) (fleet : Fleet World)
    : Wrote fleet (fleet.atTime outside.now) fleet.db :=
  ⟨rfl, rfl, rfl, rfl, rfl, rfl, rfl⟩

/-- A transaction commits, or raises and changes nothing. -/
def Committed {Error : Type} (before after : Fleet World)
    (outcome : Except Error (Database × Result)) (answer : Except Error Result)
    : Prop :=
  match outcome with
  | .error failure => answer = .error failure ∧ Wrote before after before.db
  | .ok (next, result) => answer = .ok result ∧ Wrote before after next

/-- By the two outcomes of the transaction. -/
theorem committed_commit {Error : Type} {outcome : Except Error (Database × Result)}
    {answer : Except Error Result}
    (took : (before.atTime outside.now).commit outcome = (after, answer))
    : Committed before after outcome answer := by
  cases outcome with
  | error failure =>
      cases took
      exact ⟨rfl, wrote_nothing outside before⟩
  | ok committed =>
      cases took
      exact ⟨rfl, wrote_withDb outside before _⟩

theorem Committed.of_answer {Error : Type} {outcome : Except Error (Database × Result)}
    {answer : Except Error Result} (committed : Committed before after outcome answer)
    (good : answer = .ok result)
    : ∃ next, outcome = .ok (next, result) ∧ Wrote before after next := by
  cases outcome with
  | error failure =>
      obtain ⟨raised, _⟩ := committed
      rw [good] at raised
      cases raised
  | ok stored =>
      obtain ⟨same, wrote⟩ := committed
      rw [good] at same
      cases same
      exact ⟨stored.1, rfl, wrote⟩

theorem Committed.of_ok {Error : Type} {outcome : Except Error (Database × Result)}
    {answer : Except Error Result} {next : Database}
    (committed : Committed before after outcome answer) (good : outcome = .ok (next, result))
    : answer = .ok result ∧ Wrote before after next := by
  subst good
  exact committed

theorem took_serverForUser {user : User} {requiredPermission : String}
    {answer : Except Raised Server}
    (took : Took site (.serverForUser user serverId requiredPermission) outside before after
      answer)
    : answer = (getServerForUser before.db serverId user requiredPermission).mapError .http
      ∧ Wrote before after before.db := by
  cases took
  exact ⟨rfl, wrote_nothing outside before⟩

theorem took_checkMigration {server : Server} {answer : Except Raised Unit}
    (took : Took site (.checkMigration server) outside before after answer)
    : answer = checkMigration site.settings outside.now site.s3Missing before.migrationTimes
        server
      ∧ Wrote before after before.db := by
  cases took
  exact ⟨rfl, wrote_nothing outside before⟩

theorem took_loadServer {answer : Option Server}
    (took : Took site (.loadServer serverId) outside before after answer)
    : answer = before.db.servers.get? serverId ∧ Wrote before after before.db := by
  cases took
  exact ⟨rfl, wrote_nothing outside before⟩

theorem took_loadNode {answer : Option Node}
    (took : Took site (.loadNode nodeId) outside before after answer)
    : answer = before.db.nodes.get? nodeId ∧ Wrote before after before.db := by
  cases took
  exact ⟨rfl, wrote_nothing outside before⟩

theorem took_suspend {answer : Unit}
    (took : Took site (.suspend serverId) outside before after answer)
    : Wrote before after (changeServer serverId (setServerState .suspended) before.db) := by
  cases took
  exact wrote_withDb outside before _

theorem took_moveToMigrationNode {oldNode : Uuid} {answer : Except Raised Node}
    (took : Took site (.moveToMigrationNode serverId oldNode) outside before after answer)
    : Committed before after
        (moveToMigrationNode site.settings outside.now serverId oldNode before.db) answer :=
  committed_commit took

theorem took_checkNode {server : Server} {answer : Except Raised NodeCheck}
    (took : Took site (.checkNode server) outside before after answer)
    : Committed before after (checkStartNode site.settings outside.now server before.db)
        answer :=
  committed_commit took

theorem took_assignNode {server : Server} {answer : Except Raised Bool}
    (took : Took site (.assignNode server) outside before after answer)
    : Committed before after
        (assignBestNode site.settings outside.now outside.tests server before.db) answer :=
  committed_commit took

theorem took_prepare {server : Server} {answer : Except Raised Unit}
    (took : Took site (.prepare server) outside before after answer)
    : Committed before after
        ((prepareServerForStart site.settings site.serversDir outside.tests outside.succeeds
          server before.db).map (fun next => (next, ()))) answer :=
  committed_commit took

theorem took_touch {answer : Unit}
    (took : Took site (.touch serverId) outside before after answer)
    : Wrote before after
        (changeServer serverId
          { apply := fun row => { row with lastActivity := outside.now } } before.db) := by
  cases took
  exact wrote_withDb outside before _

/-- The check writes nothing. -/
theorem took_checkLaunch {answer : Except Raised Server}
    (took : Took site (.checkLaunch serverId) outside before after answer)
    : answer = checkLaunch site.settings outside.now outside.succeeds serverId before.db
      ∧ Wrote before after before.db := by
  cases took
  exact ⟨rfl, wrote_nothing outside before⟩

theorem took_finishStart {answer : Unit}
    (took : Took site (.finishStart serverId) outside before after answer)
    : Wrote before after (changeServer serverId (markRunning site.settings) before.db) := by
  cases took
  exact wrote_withDb outside before _

theorem took_markMigrated {answer : Unit}
    (took : Took site (.markMigrated serverId) outside before after answer)
    : Wrote before after (changeServer serverId (markServerMigrated outside.now) before.db) := by
  cases took
  exact wrote_withDb outside before _

/-- The actions that concern the database alone. -/
def OnlyWrites : FleetAction → Prop
  | .route .. => False
  | .routeStart .. => False
  | .call .. => False
  | .forgetRoute .. => False
  | .recordMigration => False
  | .deleteSnapshot _ => False
  | .endProcess .. => False
  | .deliver _ => False
  | _ => True

/-- By cases on the actions that write only the database. -/
theorem wrote_transaction (site : Site) (action : FleetAction) (outside : Outside World)
    (fleet : Fleet World) (writes : OnlyWrites action)
    : Wrote fleet (controlPlane World site action outside fleet).1
        (controlPlane World site action outside fleet).1.db := by
  have transaction {Error Result : Type} (outcome : Except Error (Database × Result))
      : Wrote fleet ((fleet.atTime outside.now).commit outcome).1
        ((fleet.atTime outside.now).commit outcome).1.db := by
    cases outcome with
    | error failure => exact wrote_nothing outside fleet
    | ok stored => exact wrote_withDb outside fleet _
  cases action with
  | route router serverId => exact writes.elim
  | routeStart router serverId => exact writes.elim
  | call nodeId request => exact writes.elim
  | forgetRoute router serverId => exact writes.elim
  | recordMigration => exact writes.elim
  | deleteSnapshot serverId => exact writes.elim
  | endProcess nodeId serverId => exact writes.elim
  | deliver index => exact writes.elim
  | checkNode server => exact transaction _
  | assignNode server => exact transaction _
  | prepare server => exact transaction _
  | moveToMigrationNode serverId oldNode => exact transaction _
  | moveBack serverId oldNode => exact transaction _
  | rescueOrphans nodeId => exact transaction _
  | reassign serverId target => exact transaction _
  | shutDown nodeId allOnline => exact transaction _
  | heartbeat nodeId received => exact transaction _
  | drain nodeId => exact transaction _
  | undrain nodeId => exact transaction _
  | _ => exact wrote_withDb outside fleet _

def KeepsSnapshots : FleetAction → Prop
  | .call _ (.backup _) => False
  | .deleteSnapshot _ => False
  | .deliver _ => False
  | _ => True

/-- Only backups and deletions write snapshots; by cases on the action. -/
theorem keepsSnapshots_ok (action : FleetAction) (outside : Outside World)
    (fleet : Fleet World) (kept : KeepsSnapshots action)
    : (controlPlane World site action outside fleet).1.snapshots = fleet.snapshots := by
  cases action with
  | call nodeId request =>
      refine callAgent_snapshots ?_ outside.freshWorld outside.reply nodeId _
      intro serverId backup
      subst backup
      exact kept
  | deleteSnapshot serverId => exact kept.elim
  | deliver index => exact kept.elim
  | route router serverId => exact routeServer_snapshots ..
  | routeStart router serverId => exact routeServer_snapshots ..
  | forgetRoute router serverId => rfl
  | recordMigration => rfl
  | endProcess nodeId serverId => rfl
  | _ => exact (wrote_transaction site _ outside fleet (by trivial)).snapshots

-- Routes

theorem took_forgetRoute {router : Router} {answer : Unit}
    (took : Took site (.forgetRoute router serverId) outside before after answer)
    : after.db = before.db ∧ after.disks = before.disks ∧ after.snapshots = before.snapshots
      ∧ after.routes router serverId = none := by
  cases took
  exact ⟨rfl, rfl, rfl, if_pos ⟨rfl, rfl⟩⟩

/-- Without a cached route the start goes to the node of the row. -/
theorem took_routeStart (forgotten : before.routes .api serverId = none) {answer : Option Uuid}
    (took : Took site (.routeStart .api serverId) outside before after answer)
    : answer = routedNode before.db serverId ∧ after.db = before.db
      ∧ after.disks = before.disks ∧ after.snapshots = before.snapshots := by
  have same : routeServer .api outside.now serverId (before.atTime outside.now)
      = (after, answer) := took
  have missing : (before.atTime outside.now).routes .api serverId = none := forgotten
  unfold routeServer at same
  simp only [missing] at same
  cases same
  exact ⟨rfl, rfl, rfl, rfl⟩

-- Calls of agents

/-- A call leaves the database and the routes alone, and the disks and processes of the other
nodes.
-/
structure Called (nodeId : Uuid) (before after : Fleet World) : Prop where
  db : after.db = before.db
  routes : after.routes = before.routes
  otherDisks : ∀ node server, node ≠ nodeId → after.disks node server = before.disks node server
  otherProcesses : ∀ node server, node ≠ nodeId → (after.Live node server ↔ before.Live node server)

/-- A request touches its own node only, by cases on the request. -/
theorem called_serveRequest (freshWorld : World) (nodeId : Uuid) (fleet : Fleet World)
    (request : NodeRequest)
    : Called nodeId fleet (serveRequest freshWorld nodeId fleet request).1 := by
  have sameLive (node server : Uuid) (kept : Uuid × Uuid → Bool) (other : kept (node, server))
      : (node, server) ∈ fleet.processes.filter kept ↔ (node, server) ∈ fleet.processes :=
    ⟨fun member => (List.mem_filter.mp member).1, fun member => List.mem_filter.mpr ⟨member, other⟩⟩
  cases request with
  | start serverId =>
      refine ⟨rfl, rfl, fun _ _ other => if_neg (fun same => other same.1), ?_⟩
      intro node server other
      refine ⟨fun live => ?_, List.mem_cons_of_mem _⟩
      rcases List.mem_cons.mp live with same | old
      · exact absurd (congrArg Prod.fst same) other
      · exact old
  | stop serverId =>
      refine ⟨rfl, rfl, fun _ _ _ => rfl, fun node server other => sameLive node server _ ?_⟩
      simp [other]
  | backup serverId =>
      unfold serveRequest
      dsimp only
      split <;> exact ⟨rfl, rfl, fun _ _ _ => rfl, fun _ _ _ => Iff.rfl⟩
  | restore serverId =>
      unfold serveRequest
      dsimp only
      split
      · exact ⟨rfl, rfl, fun _ _ _ => rfl, fun _ _ _ => Iff.rfl⟩
      · exact ⟨rfl, rfl, fun _ _ other => if_neg (fun same => other same.1), fun _ _ _ => Iff.rfl⟩
  | purge serverId =>
      refine ⟨rfl, rfl, fun _ _ other => if_neg (fun same => other same.1),
        fun node server other => sameLive node server _ ?_⟩
      simp [other]
  | haltAll =>
      refine ⟨rfl, rfl, fun _ _ _ => rfl, fun node server other => sameLive node server _ ?_⟩
      simp [other]

/-- A call is served, or at most delayed, by cases on the reply. -/
theorem callAgent_cases (freshWorld : World) (reply : Reply) (nodeId : Uuid)
    (request : NodeRequest) (fleet : Fleet World)
    : reply.reaches = true
        ∧ (callAgent freshWorld reply nodeId request fleet).1
          = (serveRequest freshWorld nodeId fleet request).1
      ∨ reply.reaches = false
        ∧ ∃ delayed,
          (callAgent freshWorld reply nodeId request fleet).1 = { fleet with delayed } := by
  cases reply with
  | answered => exact .inl ⟨rfl, rfl⟩
  | unanswered => exact .inl ⟨rfl, rfl⟩
  | refused => exact .inr ⟨rfl, fleet.delayed, rfl⟩
  | delayed => exact .inr ⟨rfl, _, rfl⟩

/-- From the request that is served; a call that is not served changes no node. -/
theorem called_callAgent (freshWorld : World) (reply : Reply) (nodeId : Uuid)
    (request : NodeRequest) (fleet : Fleet World)
    : Called nodeId fleet (callAgent freshWorld reply nodeId request fleet).1 := by
  rcases callAgent_cases freshWorld reply nodeId request fleet
    with ⟨_, served⟩ | ⟨_, delayed, same⟩
  · rw [served]
    exact called_serveRequest freshWorld nodeId fleet request
  · rw [same]
    exact ⟨rfl, rfl, fun _ _ _ => rfl, fun _ _ _ => Iff.rfl⟩

/-- The action is the call of the agent, at its time. -/
theorem took_call {request : NodeRequest} {answer : Bool}
    (took : Took site (.call nodeId request) outside before after answer)
    : Called nodeId before after := by
  have called := called_callAgent outside.freshWorld outside.reply nodeId request
    (before.atTime outside.now)
  have same : callAgent outside.freshWorld outside.reply nodeId request
      (before.atTime outside.now) = (after, answer) := took
  rw [same] at called
  exact ⟨called.db, called.routes, called.otherDisks, called.otherProcesses⟩

theorem took_stop {answer : Bool}
    (took : Took site (.call nodeId (.stop serverId)) outside before after answer)
    : after.disks = before.disks ∧ after.snapshots = before.snapshots := by
  have same : (callAgent outside.freshWorld outside.reply nodeId (.stop serverId)
      (before.atTime outside.now)).1 = after := congrArg Prod.fst took
  rcases callAgent_cases outside.freshWorld outside.reply nodeId (.stop serverId)
      (before.atTime outside.now) with ⟨_, served⟩ | ⟨_, delayed, kept⟩
  · rw [← same, served]
    exact ⟨rfl, rfl⟩
  · rw [← same, kept]
    exact ⟨rfl, rfl⟩

/-- A backup stores what its node has, if it is answered; by cases on the reply. -/
theorem took_backup {content : World} (stored : before.disks nodeId serverId = some content)
    {answer : Bool}
    (took : Took site (.call nodeId (.backup serverId)) outside before after answer)
    : answer = decide (outside.reply = .answered) ∧ after.disks = before.disks
      ∧ (answer = true → after.snapshots serverId = some content) := by
  have same : callAgent outside.freshWorld outside.reply nodeId (.backup serverId)
      (before.atTime outside.now) = (after, answer) := took
  have present : (before.atTime outside.now).disks nodeId serverId = some content := stored
  unfold callAgent serveRequest at same
  simp only [present] at same
  cases reply : outside.reply <;> rw [reply] at same <;> cases same
  · exact ⟨rfl, rfl, fun _ => if_pos rfl⟩
  all_goals exact ⟨rfl, rfl, fun good => by cases good⟩

/-- By cases on the reply, as for a backup. -/
theorem took_restore {content : World} (stored : before.snapshots serverId = some content)
    {answer : Bool}
    (took : Took site (.call nodeId (.restore serverId)) outside before after answer)
    : answer = decide (outside.reply = .answered) ∧ after.snapshots = before.snapshots
      ∧ (answer = true → after.disks nodeId serverId = some content) := by
  have same : callAgent outside.freshWorld outside.reply nodeId (.restore serverId)
      (before.atTime outside.now) = (after, answer) := took
  have present : (before.atTime outside.now).snapshots serverId = some content := stored
  unfold callAgent serveRequest at same
  simp only [present] at same
  cases reply : outside.reply <;> rw [reply] at same <;> cases same
  · exact ⟨rfl, rfl, fun _ => if_pos ⟨rfl, rfl⟩⟩
  all_goals exact ⟨rfl, rfl, fun good => by cases good⟩

/-- The server is live where its start was answered; by cases on the reply. -/
theorem took_start {answer : Bool}
    (took : Took site (.call nodeId (.start serverId)) outside before after answer)
    : answer = decide (outside.reply = .answered) ∧ after.snapshots = before.snapshots
      ∧ (answer = true → after.Live nodeId serverId
        ∧ after.disks nodeId serverId
          = some ((before.disks nodeId serverId).getD outside.freshWorld)) := by
  have same : callAgent outside.freshWorld outside.reply nodeId (.start serverId)
      (before.atTime outside.now) = (after, answer) := took
  unfold callAgent serveRequest at same
  cases reply : outside.reply <;> rw [reply] at same <;> cases same
  · exact ⟨rfl, rfl, fun _ => ⟨List.mem_cons_self, if_pos ⟨rfl, rfl⟩⟩⟩
  all_goals exact ⟨rfl, rfl, fun good => by cases good⟩

/-- A purge that arrives empties the disk there, answered or not. -/
theorem took_purge {answer : Bool}
    (took : Took site (.call nodeId (.purge serverId)) outside before after answer)
    : after.snapshots = before.snapshots
      ∧ if outside.reply.reaches then after.disks nodeId serverId = none
        else after.disks = before.disks ∧ after.processes = before.processes := by
  have same : callAgent outside.freshWorld outside.reply nodeId (.purge serverId)
      (before.atTime outside.now) = (after, answer) := took
  unfold callAgent serveRequest at same
  cases reply : outside.reply <;> rw [reply] at same <;> cases same
  · exact ⟨rfl, if_pos ⟨rfl, rfl⟩⟩
  · exact ⟨rfl, rfl, rfl⟩
  · exact ⟨rfl, if_pos ⟨rfl, rfl⟩⟩
  · exact ⟨rfl, rfl, rfl⟩

-- The end of a migration

/-- The nodes and the database are as they were. -/
structure SameNodes (before after : Fleet World) : Prop where
  db : after.db = before.db
  processes : after.processes = before.processes
  disks : after.disks = before.disks
  routes : after.routes = before.routes

theorem took_recordMigration {answer : Unit}
    (took : Took site .recordMigration outside before after answer)
    : SameNodes before after := by
  cases took
  exact ⟨rfl, rfl, rfl, rfl⟩

/-- Whatever becomes of the snapshot. -/
theorem took_deleteSnapshot {answer : Unit}
    (took : Took site (.deleteSnapshot serverId) outside before after answer)
    : SameNodes before after := by
  have same : (if outside.reply = .answered || outside.reply = .unanswered then
      (before.atTime outside.now).writeSnapshot serverId none else before.atTime outside.now)
      = after := congrArg Prod.fst took
  rw [← same]
  split <;> exact ⟨rfl, rfl, rfl, rfl⟩

theorem Called.of_same {first : Fleet World} (called : Called nodeId before after)
    (same : SameNodes first before)
    : Called nodeId first after := by
  refine ⟨called.db.trans same.db, called.routes.trans same.routes, ?_, ?_⟩
  · intro node server other
    rw [called.otherDisks node server other, same.disks]
  · intro node server other
    rw [called.otherProcesses node server other, Fleet.Live, same.processes, Fleet.Live]

end Blockhost.ControlPlane
