import Blockhost.Services.BestNodes
import Blockhost.Orchestrator.ControlPlaneRuns
import Blockhost.Orchestrator.FleetHandlers

/-! A migration on demand keeps the world of its server exactly when its start does: the parts
of the migration are traced one after the other.
-/

namespace Blockhost.ControlPlane

open Library

variable {World : Type} {site : Site} {user : User} {serverId oldId : Uuid} {world : World}
variable {fleet middle finish : Fleet World} {inputs rest : Stream' (Outside World)}
variable {oldNode newNode : Node}

-- The old copy

theorem getServerForUser_ok {db : Database} {requiredPermission : String} {server : Server}
    (granted : getServerForUser db serverId user requiredPermission = .ok server)
    : db.servers.get? serverId = some server := by
  unfold getServerForUser at granted
  cases found : db.servers.get? serverId with
  | none =>
      rw [found] at granted
      cases granted
  | some row =>
      rw [found] at granted
      dsimp only at granted
      split at granted
      · cases granted
        rfl
      · split at granted
        · cases granted
        · split at granted
          · cases granted
            rfl
          · cases granted

/-- What the first part of a migration leaves: a suspended server, whose world is in the
snapshot and still on the disk.
-/
structure Saved (serverId : Uuid) (world : World) (before after : Fleet World) : Prop where
  db : after.db = suspendedDatabase serverId before.db
  disks : after.disks = before.disks
  snapshot : after.snapshots serverId = some world

theorem backUpOldCopy_returns
    (assigned : serverNode fleet.db serverId = some oldId)
    (stored : fleet.disks oldId serverId = some world)
    (ended : Returns site (backUpOldCopy user serverId) inputs fleet rest middle oldNode)
    : oldNode.id = oldId ∧ OldCopySaved site user serverId oldNode fleet inputs
      ∧ rest = inputs.drop 6 ∧ Saved serverId world fleet middle := by
  obtain ⟨fleet0, _, took0, ended⟩ := ask_returns ended
  obtain ⟨server, granted, ended⟩ := raising_returns ended
  obtain ⟨permitted, wrote0⟩ := took_serverForUser took0
  obtain ⟨fleet1, _, took1, ended⟩ := ask_returns ended
  obtain ⟨_, checked, ended⟩ := raising_returns ended
  obtain ⟨check, wrote1⟩ := took_checkMigration took1
  rw [check, wrote0.migrationTimes] at checked
  have allowed : getServerForUser fleet.db serverId user "start_stop" = .ok server := by
    cases outcome : getServerForUser fleet.db serverId user "start_stop" with
    | error failure => rw [permitted, outcome] at granted; cases granted
    | ok row => rw [permitted, outcome] at granted; cases granted; rfl
  have found : server.nodeId = some oldId := by
    rw [serverNode, getServerForUser_ok allowed] at assigned
    exact assigned
  rw [found] at ended
  obtain ⟨fleet2, answer2, took2, ended⟩ := ask_returns ended
  obtain ⟨loaded, wrote2⟩ := took_loadNode took2
  cases answer2 with
  | none => cases ended
  | some node =>
      obtain ⟨fleet3, _, took3, ended⟩ := ask_returns ended
      obtain ⟨fleet4, _, took4, ended⟩ := ask_returns ended
      obtain ⟨fleet5, saved, took5, ended⟩ := ask_returns ended
      have known : fleet.db.nodes.get? oldId = some node := by
        rw [loaded, wrote1.db, wrote0.db]
      have sameId : node.id = oldId := (Table.get?_some known).2
      have stopped := took_stop took3
      have suspended := took_suspend took4
      have disks4 : fleet4.disks = fleet.disks := by
        rw [suspended.disks, stopped.1, wrote2.disks, wrote1.disks, wrote0.disks]
      have stored4 : fleet4.disks node.id serverId = some world := by
        rw [disks4, sameId]
        exact stored
      obtain ⟨answer, disks5, snapshot⟩ := took_backup stored4 took5
      cases saved with
      | false => cases ended
      | true =>
          cases ended
          refine ⟨sameId, ⟨⟨server, allowed, checked, sameId ▸ found⟩, sameId ▸ known, ?_⟩,
            rfl, ?_, disks5.trans disks4, snapshot rfl⟩
          · exact of_decide_eq_true answer.symm
          · rw [(took_call took5).db, suspended.db, (took_call took3).db, wrote2.db, wrote1.db,
              wrote0.db, suspendedDatabase]

theorem OldCopySaved.succeeds
    (stored : fleet.disks oldNode.id serverId = some world)
    (saved : OldCopySaved site user serverId oldNode fleet inputs)
    : Succeeds site (backUpOldCopy user serverId) inputs fleet oldNode := by
  obtain ⟨server, allowed, checked, found⟩ := saved.permitted
  obtain ⟨fleet0, answer0, took0⟩ := took_some site
    (.serverForUser user serverId "start_stop") inputs.head fleet
  obtain ⟨permitted, wrote0⟩ := took_serverForUser took0
  rw [allowed] at permitted
  refine succeeds_ask took0 (succeeds_raising permitted ?_)
  obtain ⟨fleet1, answer1, took1⟩ := took_some site (.checkMigration server) inputs.tail.head
    fleet0
  obtain ⟨check, wrote1⟩ := took_checkMigration took1
  rw [wrote0.migrationTimes] at check
  refine succeeds_ask took1 (succeeds_raising (check.trans checked) ?_)
  rw [found]
  obtain ⟨fleet2, answer2, took2⟩ := took_some site (.loadNode oldNode.id)
    inputs.tail.tail.head fleet1
  obtain ⟨loaded, wrote2⟩ := took_loadNode took2
  rw [wrote1.db, wrote0.db, saved.known] at loaded
  subst loaded
  refine succeeds_ask took2 ?_
  obtain ⟨fleet3, answer3, took3⟩ := took_some site (.call oldNode.id (.stop serverId))
    inputs.tail.tail.tail.head fleet2
  obtain ⟨fleet4, answer4, took4⟩ := took_some site (.suspend serverId)
    inputs.tail.tail.tail.tail.head fleet3
  obtain ⟨fleet5, answer5, took5⟩ := took_some site (.call oldNode.id (.backup serverId))
    inputs.tail.tail.tail.tail.tail.head fleet4
  refine succeeds_ask took3 (succeeds_ask took4 (succeeds_ask took5 ?_))
  have disks4 : fleet4.disks = fleet.disks := by
    rw [(took_suspend took4).disks, (took_stop took3).1, wrote2.disks, wrote1.disks,
      wrote0.disks]
  have stored4 : fleet4.disks oldNode.id serverId = some world := by
    rw [disks4]
    exact stored
  obtain ⟨answer, _, _⟩ := took_backup stored4 took5
  have good : answer5 = true := answer.trans (decide_eq_true saved.answered)
  subst good
  exact ⟨_, _, rfl⟩

-- The new copy

/-- What the second part leaves: the server and its world on the new node. -/
structure Arrived (serverId : Uuid) (newNode : Node) (world : World)
    (before after : Fleet World)
    : Prop where
  db : after.db = changeServer serverId (moveServer newNode) before.db
  disk : after.disks newNode.id serverId = some world
  otherDisks
    : ∀ node server, node ≠ newNode.id → after.disks node server = before.disks node server
  snapshot : after.snapshots serverId = some world

theorem restoreOnNewNode_returns (saved : fleet.snapshots serverId = some world)
    (ended : Returns site (restoreOnNewNode serverId oldNode) inputs fleet rest finish newNode)
    : moveToMigrationNode site.settings inputs.head.now serverId oldNode.id fleet.db
        = .ok (changeServer serverId (moveServer newNode) fleet.db, newNode)
      ∧ (inputs.get 2).reply = .answered
      ∧ rest = inputs.drop 3 ∧ Arrived serverId newNode world fleet finish := by
  obtain ⟨fleet0, _, took0, ended⟩ := ask_returns ended
  obtain ⟨node, chosen, ended⟩ := raising_returns ended
  obtain ⟨next, moved, wrote0⟩ := (took_moveToMigrationNode took0).of_answer chosen
  obtain ⟨fleet1, _, took1, ended⟩ := ask_returns ended
  obtain ⟨fleet2, answer, took2, ended⟩ := ask_returns ended
  obtain ⟨db1, disks1, snapshots1, _⟩ := took_forgetRoute took1
  have stored1 : fleet1.snapshots serverId = some world := by
    rw [snapshots1, wrote0.snapshots]
    exact saved
  obtain ⟨good, snapshots2, copied⟩ := took_restore stored1 took2
  have called := took_call took2
  cases answer with
  | false =>
      -- the failed restore raises, or its rollback does
      obtain ⟨fleet3, _, took3, ended⟩ := ask_returns ended
      obtain ⟨_, _, ended⟩ := raising_returns ended
      obtain ⟨fleet4, _, took4, ended⟩ := ask_returns ended
      cases ended
  | true =>
      cases ended
      obtain ⟨_, rfl, _⟩ := moveToMigrationNode_ok moved
      refine ⟨moved, of_decide_eq_true good.symm, rfl, ?_, copied rfl, ?_, ?_⟩
      · rw [called.db, db1, wrote0.db]
      · intro node server other
        rw [called.otherDisks node server other, disks1, wrote0.disks]
      · rw [snapshots2, stored1]

theorem restoreOnNewNode_succeeds {next : Database}
    (saved : fleet.snapshots serverId = some world)
    (moved : moveToMigrationNode site.settings inputs.head.now serverId oldNode.id fleet.db
      = .ok (next, newNode))
    (answered : (inputs.get 2).reply = .answered)
    : Succeeds site (restoreOnNewNode serverId oldNode) inputs fleet newNode := by
  obtain ⟨fleet0, answer0, took0⟩ := took_some site
    (.moveToMigrationNode serverId oldNode.id) inputs.head fleet
  obtain ⟨chosen, wrote0⟩ := (took_moveToMigrationNode took0).of_ok moved
  refine succeeds_ask took0 (succeeds_raising chosen ?_)
  obtain ⟨fleet1, answer1, took1⟩ := took_some site (.forgetRoute .api serverId) inputs.tail.head
    fleet0
  obtain ⟨fleet2, answer2, took2⟩ := took_some site (.call newNode.id (.restore serverId))
    inputs.tail.tail.head fleet1
  refine succeeds_ask took1 (succeeds_ask took2 ?_)
  have saved1 : fleet1.snapshots serverId = some world := by
    rw [(took_forgetRoute took1).2.2.1, wrote0.snapshots]
    exact saved
  obtain ⟨good, _, _⟩ := took_restore saved1 took2
  have restored : answer2 = true := good.trans (decide_eq_true answered)
  subst restored
  exact ⟨_, _, rfl⟩

-- The start

/-- What a start leaves: the server runs on a node, on the world that it had there. -/
structure Launched (serverId nodeId : Uuid) (freshWorld : World) (before after : Fleet World)
    : Prop where
  node : serverNode after.db serverId = some nodeId
  live : after.Live nodeId serverId
  disk : after.disks nodeId serverId = some ((before.disks nodeId serverId).getD freshWorld)
  otherDisks
    : ∀ node server, node ≠ nodeId → after.disks node server = before.disks node server
  snapshots : after.snapshots = before.snapshots

theorem launchServer_returns {server : Server}
    (ended : Returns site (launchServer .api server) inputs fleet rest finish ())
    : ∃ ready nodeId,
      checkLaunch site.settings (inputs.get 1).now (inputs.get 1).succeeds server.id fleet.db
        = .ok ready
      ∧ (inputs.get 3).reply = .answered
      ∧ routedNode fleet.db server.id = some nodeId
      ∧ rest = inputs.drop 5
      ∧ Launched server.id nodeId (inputs.get 3).freshWorld fleet finish := by
  have ended : Returns site
      (do
        ask (.forgetRoute .api server.id)
        startServerProcess .api server.id)
      inputs fleet rest finish () := by
    refine handled_returns ?_ ended
    intro failure inputs fleet
    cases failure <;> exact ⟨_, rfl⟩
  obtain ⟨start, _, forgetting, ended⟩ := ask_returns ended
  obtain ⟨startDb, startDisks, startSnapshots, forgotten⟩ := took_forgetRoute forgetting
  obtain ⟨fleet0, _, took0, ended⟩ := ask_returns ended
  obtain ⟨ready, checked, ended⟩ := raising_returns ended
  obtain ⟨answer0, wrote0⟩ := took_checkLaunch took0
  obtain ⟨fleet1, answer1, took1, ended⟩ := ask_returns ended
  obtain ⟨routed, db1, disks1, snapshots1⟩ :=
    took_routeStart (by rw [wrote0.routes]; exact forgotten) took1
  cases answer1 with
  | none => cases ended
  | some nodeId =>
      obtain ⟨fleet2, answer2, took2, ended⟩ := ask_returns ended
      obtain ⟨good, snapshots2, started⟩ := took_start took2
      have called := took_call took2
      cases answer2 with
      | false => cases ended
      | true =>
          obtain ⟨took3, rest3⟩ := ask_only ended
          have wrote3 := took_finishStart took3
          rw [wrote0.db, startDb] at routed
          rw [startDb] at answer0
          have live3 : finish.Live nodeId server.id := by
            unfold Fleet.Live
            rw [wrote3.processes]
            exact (started rfl).1
          refine ⟨ready, nodeId, answer0.symm.trans checked, of_decide_eq_true good.symm,
            routed.symm, rest3, ?_, live3, ?_, ?_, ?_⟩
          · rw [wrote3.db, serverNode_kept (fun _ => rfl), called.db, db1, wrote0.db, startDb,
              routedNode_some routed.symm]
          · rw [wrote3.disks, (started rfl).2, disks1, wrote0.disks, startDisks]
            rfl
          · intro node other different
            rw [wrote3.disks, called.otherDisks node other different, disks1, wrote0.disks,
              startDisks]
          · rw [wrote3.snapshots, snapshots2, snapshots1, wrote0.snapshots, startSnapshots]

theorem Launched.after {before : Fleet World} {db : Database} {nodeId : Uuid}
    {freshWorld : World} (launched : Launched serverId nodeId freshWorld middle finish)
    (wrote : Wrote before middle db)
    : Launched serverId nodeId freshWorld before finish := by
  refine ⟨launched.node, launched.live, ?_, ?_, launched.snapshots.trans wrote.snapshots⟩
  · rw [launched.disk, wrote.disks]
  · intro node server other
    rw [launched.otherDisks node server other, wrote.disks]

theorem Launched.write {before : Fleet World} {db : Database} {nodeId : Uuid}
    {freshWorld : World} (launched : Launched serverId nodeId freshWorld before middle)
    (wrote : Wrote middle finish db) (same : serverNode db serverId = serverNode middle.db serverId)
    : Launched serverId nodeId freshWorld before finish := by
  refine ⟨?_, ?_, ?_, ?_, wrote.snapshots.trans launched.snapshots⟩
  · rw [wrote.db, same, launched.node]
  · unfold Fleet.Live
    rw [wrote.processes]
    exact launched.live
  · rw [wrote.disks, launched.disk]
  · intro node server other
    rw [wrote.disks, launched.otherDisks node server other]

theorem prepareAndLaunch_returns {server : Server}
    (ended : Returns site (prepareAndLaunch .api server) inputs fleet rest finish ())
    : ∃ next ready nodeId,
      prepareServerForStart site.settings site.serversDir inputs.head.tests
          inputs.head.succeeds server fleet.db
        = .ok next
      ∧ checkLaunch site.settings (inputs.get 3).now (inputs.get 3).succeeds server.id
          (changeServer server.id
            { apply := fun row => { row with lastActivity := (inputs.get 1).now } } next)
        = .ok ready
      ∧ (inputs.get 5).reply = .answered
      ∧ serverNode fleet.db server.id = some nodeId
      ∧ rest = inputs.drop 7
      ∧ Launched server.id nodeId (inputs.get 5).freshWorld fleet finish := by
  obtain ⟨fleet0, _, took0, ended⟩ := ask_returns ended
  obtain ⟨_, prepared, ended⟩ := raising_returns ended
  obtain ⟨next, outcome, wrote0⟩ := (took_prepare took0).of_answer prepared
  obtain ⟨fleet1, _, took1, ended⟩ := ask_returns ended
  have wrote1 := took_touch took1
  obtain ⟨ready, nodeId, checked, answered, routed, rest7, launched⟩ :=
    launchServer_returns ended
  cases stored : prepareServerForStart site.settings site.serversDir inputs.head.tests
      inputs.head.succeeds server fleet.db with
  | error failure =>
      rw [stored] at outcome
      cases outcome
  | ok db =>
      rw [stored] at outcome
      cases outcome
      obtain ⟨port, _, rfl, _⟩ := prepareServerForStart_ok stored
      rw [wrote1.db, wrote0.db] at checked routed
      have node := routedNode_some routed
      rw [serverNode_kept (fun _ => rfl), serverNode_kept (fun _ => rfl)] at node
      exact ⟨_, ready, nodeId, rfl, checked, answered, node, rest7,
        (launched.after wrote1).after wrote0⟩

theorem findNode_returns {server : Server} {chosen : Bool}
    (ended : Returns site (findNode site server) inputs fleet rest finish chosen)
    : ∃ placed,
      assignBestNode site.settings inputs.head.now inputs.head.tests server fleet.db
        = .ok (placed, chosen)
      ∧ Wrote fleet finish placed ∧ rest = inputs.tail := by
  obtain ⟨fleet0, _, took0, ended⟩ := ask_returns ended
  obtain ⟨assigned, placing, ended⟩ := raising_returns ended
  obtain ⟨placed, placement, wrote⟩ := (took_assignNode took0).of_answer placing
  dsimp only at ended
  split at ended
  · obtain ⟨fleet1, _, took1, ended⟩ := ask_returns ended
    cases ended
  · cases ended
    exact ⟨placed, placement, wrote, rfl⟩

theorem doStartServer_returns {server : Server}
    (loaded : fleet.db.servers.get? server.id = some server)
    (assigned : server.nodeId = some newNode.id)
    (ended : Returns site (doStartServer site .api server) inputs fleet rest finish ())
    : (∃ freshWorld, checkStartNode site.settings inputs.head.now server fleet.db
          = .ok (fleet.db, .stays)
        ∧ Launched server.id newNode.id freshWorld fleet finish)
      ∨ ∃ node moved placed prepared,
        StartsOn site node fleet.db inputs server moved placed prepared
        ∧ rest = inputs.drop 10
        ∧ Launched server.id node.id (inputs.get 8).freshWorld fleet finish := by
  obtain ⟨fleet0, _, took0, ended⟩ := ask_returns ended
  obtain ⟨check, checked, ended⟩ := raising_returns ended
  obtain ⟨next, outcome, wrote0⟩ := (took_checkNode took0).of_answer checked
  rcases checkStartNode_ok outcome with ⟨rfl, rfl, _⟩ | ⟨rfl, rfl, missing⟩ | ⟨rfl, rfl⟩
  · have launch : Returns site (prepareAndLaunch .api server) inputs.tail fleet0 rest finish () :=
      ended
    obtain ⟨next, ready, nodeId, _, _, _, node, _, launched⟩ :=
      prepareAndLaunch_returns launch
    rw [wrote0.db, serverNode, loaded, Option.bind_some, assigned] at node
    cases node
    exact .inl ⟨_, outcome, launched.after wrote0⟩
  · rw [assigned] at missing
    cases missing
  · obtain ⟨remaining, fleet1, chosen, finding, ended⟩ := bind_returns ended
    obtain ⟨placed, placement, wrote1, rfl⟩ := findNode_returns finding
    rw [wrote0.db] at placement
    obtain ⟨fleet2, _, took2, ended⟩ := ask_returns ended
    obtain ⟨moved, found, ended⟩ := existing_returns ended
    obtain ⟨answer2, wrote2⟩ := took_loadServer took2
    rw [found, wrote1.db] at answer2
    have sameId : moved.id = server.id := (Table.get?_some answer2.symm).2
    obtain ⟨next, ready, nodeId, prepared, checked, answered, named, rest7, launched⟩ :=
      prepareAndLaunch_returns ended
    rw [wrote2.db, wrote1.db] at named prepared
    rw [sameId] at named
    rcases assignBestNode_ok placement with
      ⟨rfl, rfl, _⟩ | ⟨node, port, rfl, selected, allocated, placedDb, _⟩
    · rw [serverNode_detached] at named
      cases named
    · rw [placedDb, serverNode_kept (fun _ => rfl)] at named
      cases serverNode_placed named
      rw [sameId] at checked launched
      exact .inr ⟨node, moved, placed, next,
        ⟨outcome, selected, placement, answer2.symm, prepared, ⟨ready, checked⟩, answered⟩,
        rest7, ((launched.after wrote2).after wrote1).after wrote0⟩

theorem startMigrated_returns {server : Server}
    (loaded : fleet.db.servers.get? serverId = some server)
    (assigned : server.nodeId = some newNode.id)
    (ended : Returns site (startMigrated site serverId) inputs fleet rest finish ())
    : (∃ freshWorld, checkStartNode site.settings inputs.tail.head.now server fleet.db
          = .ok (fleet.db, .stays)
        ∧ Launched serverId newNode.id freshWorld fleet finish)
      ∨ ∃ node moved placed prepared,
        StartsOn site node fleet.db inputs.tail server moved placed prepared
        ∧ rest = inputs.drop 12
        ∧ Launched serverId node.id (inputs.get 9).freshWorld fleet finish := by
  obtain ⟨_, rfl⟩ := Table.get?_some loaded
  have ended := handled_returns (by
    intro failure inputs fleet
    cases failure <;> exact ⟨_, rfl⟩) ended
  obtain ⟨fleet0, _, took0, ended⟩ := ask_returns ended
  obtain ⟨row, found, ended⟩ := existing_returns ended
  obtain ⟨answer0, wrote0⟩ := took_loadServer took0
  have same : row = server := by
    rw [found, loaded] at answer0
    exact Option.some.inj answer0
  subst same
  obtain ⟨remaining, fleet1, _, starting, ended⟩ := bind_returns ended
  obtain ⟨took2, rest2⟩ := ask_only ended
  have wrote2 := took_markMigrated took2
  have marked {nodeId : Uuid} {freshWorld : World}
      (launched : Launched row.id nodeId freshWorld fleet0 fleet1)
      : Launched row.id nodeId freshWorld fleet finish :=
    (launched.write wrote2 (serverNode_kept (fun _ => rfl) _ _)).after wrote0
  rcases doStartServer_returns (by rw [wrote0.db]; exact loaded) assigned starting
    with ⟨freshWorld, stays, launched⟩ | ⟨node, moved, placed, prepared, starts, rest1, launched⟩
  · rw [wrote0.db] at stays
    exact .inl ⟨freshWorld, stays, marked launched⟩
  · rw [wrote0.db] at starts
    exact .inr ⟨node, moved, placed, prepared, starts, by rw [rest2, rest1]; rfl,
      marked launched⟩

theorem prepareAndLaunch_succeeds {server ready : Server} {next : Database} {nodeId : Uuid}
    (named : serverNode fleet.db server.id = some nodeId)
    (known : nodeId ∈ fleet.db.nodes.rows.map Node.id)
    (prepared : prepareServerForStart site.settings site.serversDir inputs.head.tests
      inputs.head.succeeds server fleet.db = .ok next)
    (checked : checkLaunch site.settings (inputs.get 3).now (inputs.get 3).succeeds server.id
      (changeServer server.id
        { apply := fun row => { row with lastActivity := (inputs.get 1).now } } next)
      = .ok ready)
    (answered : (inputs.get 5).reply = .answered)
    : Succeeds site (prepareAndLaunch .api server) inputs fleet () := by
  obtain ⟨port, _, rfl, _⟩ := prepareServerForStart_ok prepared
  obtain ⟨fleet0, answer0, took0⟩ := took_some site (.prepare server) inputs.head fleet
  obtain ⟨good, wrote0⟩ := (took_prepare took0).of_ok (congrArg (Except.map _) prepared)
  refine succeeds_ask took0 (succeeds_raising good ?_)
  obtain ⟨fleet1, answer1, took1⟩ := took_some site (.touch server.id) inputs.tail.head fleet0
  refine succeeds_ask took1 (succeeds_handled ?_)
  have wrote1 := took_touch took1
  rw [wrote0.db] at wrote1
  obtain ⟨start, _, forgetting⟩ := took_some site (.forgetRoute .api server.id)
    inputs.tail.tail.head fleet1
  obtain ⟨startDb, _, _, forgotten⟩ := took_forgetRoute forgetting
  refine succeeds_ask forgetting ?_
  obtain ⟨fleet2, answer2, took2⟩ := took_some site (.checkLaunch server.id)
    inputs.tail.tail.tail.head start
  obtain ⟨allowed, wrote2⟩ := took_checkLaunch took2
  rw [startDb, wrote1.db] at allowed
  refine succeeds_ask took2 (succeeds_raising (allowed.trans checked) ?_)
  obtain ⟨fleet3, answer3, took3⟩ := took_some site (.routeStart .api server.id)
    inputs.tail.tail.tail.tail.head fleet2
  obtain ⟨routed, _⟩ := took_routeStart (by rw [wrote2.routes]; exact forgotten) took3
  have route : answer3 = some nodeId := by
    rw [routed, wrote2.db, startDb, wrote1.db]
    refine routedNode_known ?_ known
    rw [serverNode_kept (fun _ => rfl), serverNode_kept (fun _ => rfl)]
    exact named
  subst route
  refine succeeds_ask took3 ?_
  obtain ⟨fleet4, answer4, took4⟩ := took_some site (.call nodeId (.start server.id))
    inputs.tail.tail.tail.tail.tail.head fleet3
  have started : answer4 = true := (took_start took4).1.trans (decide_eq_true answered)
  subst started
  exact succeeds_ask took4 ⟨_, _, rfl⟩

theorem assignBestNode_node {settings : Settings} {now : Instant} {tests : PortTests}
    {server moved : Server} {db placed : Database} {node : Node}
    (assigned : assignBestNode settings now tests server db = .ok (placed, true))
    (selected : selectBestNode settings db now (requiredRamMb settings db now server.id)
      = some node)
    (stored : placed.servers.get? server.id = some moved)
    : serverNode placed server.id = some node.id
      ∧ node.id ∈ placed.nodes.rows.map Node.id := by
  rcases assignBestNode_ok assigned with ⟨none, _⟩ | ⟨best, port, _, chosen, _, rfl, _⟩
  · cases none
  · cases selected.symm.trans chosen
    constructor
    · rw [serverNode_kept (fun _ => rfl), serverNode_change]
      cases found : (refreshNodeAllocatedRam settings now node.id db).servers.get? server.id with
      | some row => rfl
      | none =>
          unfold changeServer at stored
          rw [Table.get?_modify, if_pos rfl, Table.get?_modify, if_pos rfl, found] at stored
          cases stored
    · have kept := Table.keys_modify db.nodes node.id
        { apply := fun row =>
            { row with usedRamMb := computeNodeAllocatedRamMb settings db now node.id } }
      exact kept.symm ▸ List.mem_map_of_mem (selectBestNodeOfTier_some selected).1.stored

theorem StartsOn.succeeds {node : Node} {server moved : Server} {placed prepared : Database}
    (starts : StartsOn site node fleet.db inputs server moved placed prepared)
    : Succeeds site (doStartServer site .api server) inputs fleet () := by
  obtain ⟨fleet0, answer0, took0⟩ := took_some site (.checkNode server) inputs.head fleet
  obtain ⟨check, wrote0⟩ := (took_checkNode took0).of_ok starts.detached
  refine succeeds_ask took0 (succeeds_raising check ?_)
  obtain ⟨fleet1, answer1, took1⟩ := took_some site (.assignNode server) inputs.tail.head fleet0
  have placement := starts.assigned
  obtain ⟨found, wrote1⟩ := (took_assignNode took1).of_ok (by rw [wrote0.db]; exact placement)
  have finding : Succeeds site (findNode site server) inputs.tail fleet0 true :=
    succeeds_ask took1 (succeeds_raising found ⟨_, _, rfl⟩)
  refine succeeds_bind finding ?_
  intro remaining middle returned
  obtain ⟨again, repeated, wroteAgain, rfl⟩ := findNode_returns returned
  rw [wrote0.db] at repeated
  cases repeated.symm.trans placement
  obtain ⟨fleet2, answer2, took2⟩ := took_some site (.loadServer server.id)
    inputs.tail.tail.head middle
  obtain ⟨loaded, wrote2⟩ := took_loadServer took2
  rw [wroteAgain.db, starts.reloaded] at loaded
  refine succeeds_ask took2 (succeeds_existing loaded ?_)
  have sameId : moved.id = server.id := (Table.get?_some starts.reloaded).2
  have db2 : fleet2.db = placed := by rw [wrote2.db, wroteAgain.db]
  obtain ⟨named, known⟩ :=
    assignBestNode_node starts.assigned starts.selected starts.reloaded
  obtain ⟨ready, checked⟩ := starts.ready
  rw [← sameId] at checked
  exact prepareAndLaunch_succeeds (by rw [db2, sameId]; exact named)
    (by rw [db2]; exact known) (by rw [db2]; exact starts.prepares) checked starts.answered

theorem startMigrated_succeeds {server : Server}
    (loaded : fleet.db.servers.get? serverId = some server)
    (starting : ∀ fleet0, fleet0.db = fleet.db
      → Succeeds site (doStartServer site .api server) inputs.tail fleet0 ())
    : Succeeds site (startMigrated site serverId) inputs fleet () := by
  obtain ⟨fleet0, answer0, took0⟩ := took_some site (.loadServer serverId) inputs.head fleet
  obtain ⟨found, wrote0⟩ := took_loadServer took0
  refine succeeds_handled (succeeds_ask took0 (succeeds_existing (found.trans loaded) ?_))
  exact succeeds_bind (starting fleet0 wrote0.db)
    (fun _ _ _ => ⟨_, _, rfl⟩)

-- The removal of the old copy

theorem removeOldCopy_returns
    (ended : Returns site (removeOldCopy serverId oldNode) inputs fleet rest finish ())
    : Called oldNode.id fleet finish
      ∧ if (inputs.get 2).reply.reaches then finish.disks oldNode.id serverId = none
        else finish.disks = fleet.disks ∧ finish.processes = fleet.processes := by
  obtain ⟨fleet0, _, took0, ended⟩ := ask_returns ended
  obtain ⟨fleet1, _, took1, ended⟩ := ask_returns ended
  obtain ⟨fleet2, _, took2, ended⟩ := ask_returns ended
  cases ended
  have recorded := took_recordMigration took0
  have deleted := took_deleteSnapshot took1
  obtain ⟨_, purged⟩ := took_purge took2
  refine ⟨((took_call took2).of_same deleted).of_same recorded, ?_⟩
  split
  · rename_i reached
    exact (if_pos reached).mp purged
  · rename_i missed
    obtain ⟨disks, processes⟩ := (if_neg missed).mp purged
    exact ⟨disks.trans (deleted.disks.trans recorded.disks),
      processes.trans (deleted.processes.trans recorded.processes)⟩

-- The migration

/-- The server is recorded on a node that has its world. -/
def OldCopy (serverId oldId : Uuid) (world : World) (fleet : Fleet World) : Prop :=
  serverNode fleet.db serverId = some oldId ∧ fleet.disks oldId serverId = some world

def SavesOldCopy : FleetAction → Prop
  | .serverForUser .. => True
  | .checkMigration _ => True
  | .loadNode _ => True
  | .suspend _ => True
  | .call _ (.stop _) => True
  | .call _ (.backup _) => True
  | _ => False

theorem callAgent_disks {request : NodeRequest} (stored : Uuid)
    (permitted : request = .stop stored ∨ request = .backup stored) (freshWorld : World)
    (reply : Reply) (nodeId : Uuid) (fleet : Fleet World)
    : (callAgent freshWorld reply nodeId request fleet).1.disks = fleet.disks := by
  have served : (serveRequest freshWorld nodeId fleet request).1.disks = fleet.disks := by
    rcases permitted with rfl | rfl
    · rfl
    · unfold serveRequest
      dsimp only
      split <;> rfl
  rcases callAgent_cases freshWorld reply nodeId request fleet
    with ⟨_, same⟩ | ⟨_, delayed, same⟩
  · rw [same, served]
  · rw [same]

theorem oldCopy_kept (site : Site) (action : FleetAction) (outside : Outside World)
    (fleet : Fleet World) (permitted : SavesOldCopy action)
    (held : OldCopy serverId oldId world fleet)
    : OldCopy serverId oldId world (controlPlane World site action outside fleet).1 := by
  cases action with
  | serverForUser user serverId requiredPermission => exact held
  | checkMigration server => exact held
  | loadNode nodeId => exact held
  | suspend suspended =>
      exact ⟨(serverNode_kept (fun _ => rfl) suspended fleet.db).trans held.1, held.2⟩
  | call nodeId request =>
      have known : ∃ stored, request = .stop stored ∨ request = .backup stored := by
        cases request with
        | stop stored => exact ⟨stored, .inl rfl⟩
        | backup stored => exact ⟨stored, .inr rfl⟩
        | _ => exact permitted.elim
      obtain ⟨stored, known⟩ := known
      constructor
      · exact (congrArg (serverNode · serverId) (callAgent_db ..)).trans held.1
      · have disks := callAgent_disks stored known outside.freshWorld outside.reply nodeId
          (fleet.atTime outside.now)
        exact (congrFun (congrFun disks oldId) serverId).trans held.2
  | _ => exact permitted.elim

theorem backUpOldCopy_uses (user : User) (serverId : Uuid)
    : Program.Uses SavesOldCopy (backUpOldCopy user serverId) := by
  refine (uses_ask trivial).bind fun answer => (uses_raising answer).bind fun server => ?_
  refine (uses_ask trivial).bind fun checked => (uses_raising checked).bind fun _ => ?_
  cases server.nodeId with
  | none => trivial
  | some nodeId =>
      refine (uses_ask trivial).bind fun found => ?_
      cases found with
      | none => trivial
      | some oldNode =>
          refine (uses_ask trivial).bind fun _ => (uses_ask trivial).bind fun _ => ?_
          refine (uses_ask trivial).bind fun saved => ?_
          cases saved <;> trivial

theorem restoreOnNewNode_uses (serverId : Uuid) (oldNode : Node)
    : Program.Uses KeepsSnapshots (restoreOnNewNode serverId oldNode) := by
  refine (uses_ask trivial).bind fun chosen => (uses_raising chosen).bind fun newNode => ?_
  refine (uses_ask trivial).bind fun _ => (uses_ask trivial).bind fun restored => ?_
  cases restored with
  | true => trivial
  | false =>
      refine (uses_ask trivial).bind fun moved => (uses_raising moved).bind fun _ => ?_
      exact (uses_ask trivial).bind fun _ => trivial

theorem startServerProcess_uses (router : Router) (serverId : Uuid)
    : Program.Uses KeepsSnapshots (startServerProcess router serverId) := by
  refine (uses_ask trivial).bind fun checked => (uses_raising checked).bind fun _ => ?_
  refine (uses_ask trivial).bind fun routed => ?_
  cases routed with
  | none => trivial
  | some nodeId =>
      refine (uses_ask trivial).bind fun started => ?_
      cases started with
      | false => trivial
      | true => exact uses_ask trivial

theorem prepareAndLaunch_uses (router : Router) (server : Server)
    : Program.Uses KeepsSnapshots (prepareAndLaunch router server) := by
  refine (uses_ask trivial).bind fun prepared => (uses_raising prepared).bind fun _ => ?_
  refine (uses_ask trivial).bind fun _ => Program.Uses.handle ?_ ?_
  · exact (uses_ask trivial).bind fun _ => startServerProcess_uses router server.id
  intro failure
  cases failure <;> trivial

theorem findNode_uses (site : Site) (server : Server)
    : Program.Uses KeepsSnapshots (findNode site server) := by
  refine (uses_ask trivial).bind fun assigned => (uses_raising assigned).bind fun found => ?_
  dsimp only
  split
  · exact (uses_ask trivial).bind fun _ => trivial
  · trivial

theorem doStartServer_uses (site : Site) (router : Router) (server : Server)
    : Program.Uses KeepsSnapshots (doStartServer site router server) := by
  have launch (assigned : Bool) (check : NodeCheck)
      : Program.Uses KeepsSnapshots
        (if check = .detached || assigned then do
          let server ← existing (← ask (.loadServer server.id))
          prepareAndLaunch router server
        else prepareAndLaunch router server : Handler Unit) := by
    split
    · refine (uses_ask trivial).bind fun found => (uses_existing found).bind fun row => ?_
      exact prepareAndLaunch_uses router row
    · exact prepareAndLaunch_uses router server
  refine (uses_ask trivial).bind fun checked => (uses_raising checked).bind fun check => ?_
  dsimp only
  split
  · exact launch false check
  · exact (findNode_uses site server).bind fun assigned => launch assigned check

theorem startMigrated_uses (site : Site) (serverId : Uuid)
    : Program.Uses KeepsSnapshots (startMigrated site serverId) := by
  refine Program.Uses.handle ?_ (fun failure => by cases failure <;> trivial)
  refine (uses_ask trivial).bind fun found => (uses_existing found).bind fun server => ?_
  exact (doStartServer_uses site .api server).bind fun _ => uses_ask trivial

theorem snapshot_kept {Result : Type} {handler : Handler Result}
    (used : Program.Uses KeepsSnapshots handler) (saved : fleet.snapshots serverId = some world)
    (inputs : Stream' (Outside World))
    : (handler.run site inputs fleet).world.snapshots serverId = some world :=
  used.invariant (fun fleet => fleet.snapshots serverId = some world)
    (fun action outside before kept held =>
      (congrFun (keepsSnapshots_ok action outside before kept) serverId).trans held)
    inputs saved

theorem removeOldCopy_raises {failure : Raised}
    (ended : Raises site (removeOldCopy serverId oldNode) inputs fleet rest finish failure)
    : False := by
  cases ended

theorem migrateServer_raises (assigned : serverNode fleet.db serverId = some oldId)
    (stored : fleet.disks oldId serverId = some world) {failure : Raised}
    (ended : Raises site (migrateServer site user serverId) inputs fleet rest finish failure)
    : HasWorld finish serverId world := by
  have raised {Result : Type} {handler : Handler Result} {fleet : Fleet World}
      {inputs : Stream' (Outside World)} (used : Program.Uses KeepsSnapshots handler)
      (saved : fleet.snapshots serverId = some world)
      (ended : Raises site handler inputs fleet rest finish failure)
      : HasWorld finish serverId world := by
    have kept : (handler.run site inputs fleet).world.snapshots serverId = some world :=
      snapshot_kept used saved inputs
    rw [ended] at kept
    exact .inl kept
  rcases bind_raises ended with first | ⟨_, fleet1, oldNode, returned, ended⟩
  · have kept := (backUpOldCopy_uses user serverId).invariant _
      (fun action outside before => oldCopy_kept site action outside before) inputs
      (⟨assigned, stored⟩ : OldCopy serverId oldId world fleet)
    rw [← Handler.run, first] at kept
    exact .inr ⟨oldId, kept⟩
  · obtain ⟨_, _, _, saved⟩ := backUpOldCopy_returns assigned stored returned
    rcases bind_raises ended with second | ⟨_, fleet2, newNode, returned, ended⟩
    · exact raised (restoreOnNewNode_uses serverId oldNode) saved.snapshot second
    · obtain ⟨_, _, _, arrived⟩ := restoreOnNewNode_returns saved.snapshot returned
      rcases bind_raises ended with third | ⟨_, fleet3, _, returned, ended⟩
      · exact raised (startMigrated_uses site serverId) arrived.snapshot third
      · rcases bind_raises ended with fourth | ⟨_, fleet4, _, returned, ended⟩
        · exact (removeOldCopy_raises fourth).elim
        · cases ended

theorem migration_end {start : Fleet World} {reply : Reply} {nodeId : Uuid} {freshWorld : World}
    {arrived launched : Fleet World}
    (saving : Saved serverId world start fleet)
    (arriving : Arrived serverId newNode world fleet arrived)
    (launching : Launched serverId nodeId freshWorld arrived launched)
    (removing : Called oldNode.id launched finish)
    (removed : if reply.reaches then finish.disks oldNode.id serverId = none
      else finish.disks = launched.disks ∧ finish.processes = launched.processes)
    : serverNode finish.db serverId = some nodeId
      ∧ if nodeId = oldNode.id ∧ reply.reaches = true then
          finish.disks nodeId serverId = none
        else
          finish.Live nodeId serverId
          ∧ finish.disks nodeId serverId
            = some (if nodeId = newNode.id then world
              else (start.disks nodeId serverId).getD freshWorld) := by
  have onNode : (arrived.disks nodeId serverId).getD freshWorld
      = if nodeId = newNode.id then world
        else (start.disks nodeId serverId).getD freshWorld := by
    split
    · rename_i same
      rw [same, arriving.disk, Option.getD_some]
    · rename_i other
      rw [arriving.otherDisks nodeId serverId other, saving.disks]
  refine ⟨by rw [removing.db, launching.node], ?_⟩
  split
  · rename_i purged
    rw [purged.1]
    exact (if_pos purged.2).mp removed
  · rename_i kept
    by_cases same : nodeId = oldNode.id
    · have missed : ¬ reply.reaches = true := fun reached => kept ⟨same, reached⟩
      obtain ⟨disks, processes⟩ := (if_neg missed).mp removed
      constructor
      · unfold Fleet.Live
        rw [processes]
        exact launching.live
      · rw [disks, launching.disk, onNode]
    · constructor
      · exact (removing.otherProcesses nodeId serverId same).mpr launching.live
      · rw [removing.otherDisks nodeId serverId same, launching.disk, onNode]

theorem arrived_server {db : Database} (newNode : Node)
    (assigned : serverNode db serverId = some oldId)
    : ∃ server, (arrivedDatabase serverId newNode db).servers.get? serverId = some server
      ∧ server.nodeId = some newNode.id := by
  unfold serverNode at assigned
  unfold arrivedDatabase suspendedDatabase changeServer
  rw [Table.get?_modify, if_pos rfl, Table.get?_modify, if_pos rfl]
  cases found : db.servers.get? serverId with
  | none =>
      rw [found] at assigned
      cases assigned
  | some server => exact ⟨_, rfl, rfl⟩

theorem migrateServer_returns (assigned : serverNode fleet.db serverId = some oldId)
    (stored : fleet.disks oldId serverId = some world)
    (ended : Returns site (migrateServer site user serverId) inputs fleet rest finish newNode)
    : ∃ nodeId, serverNode finish.db serverId = some nodeId
      ∧ ((finish.Live nodeId serverId ∧ finish.disks nodeId serverId = some world)
        ∨ ∃ oldNode node, oldNode.id = oldId ∧ node.id = nodeId
          ∧ StartSelects site user serverId oldNode newNode node fleet inputs
          ∧ if nodeId = oldNode.id ∧ (inputs.get 23).reply.reaches = true then
              finish.disks nodeId serverId = none
            else
              finish.Live nodeId serverId
              ∧ finish.disks nodeId serverId
                = some (if nodeId = newNode.id then world
                  else (fleet.disks nodeId serverId).getD (inputs.get 18).freshWorld)) := by
  obtain ⟨_, fleet1, oldNode, first, ended⟩ := bind_returns ended
  obtain ⟨_, fleet2, chosen, second, ended⟩ := bind_returns ended
  obtain ⟨_, fleet3, _, third, ended⟩ := bind_returns ended
  obtain ⟨_, fleet4, _, fourth, ended⟩ := bind_returns ended
  cases ended
  obtain ⟨sameId, copied, rfl, saved⟩ := backUpOldCopy_returns assigned stored first
  obtain ⟨moved, answered, rfl, arrived⟩ := restoreOnNewNode_returns saved.snapshot second
  obtain ⟨server, loaded, named⟩ := arrived_server newNode assigned
  have db2 : fleet2.db = arrivedDatabase serverId newNode fleet.db := by
    rw [arrived.db, saved.db, arrivedDatabase]
  obtain ⟨removing, removed⟩ := removeOldCopy_returns fourth
  rcases startMigrated_returns (by rw [db2]; exact loaded) named third
    with ⟨freshWorld, _, launched⟩ | ⟨node, row, placed, prepared, starts, rfl, launched⟩
  · obtain ⟨recorded, content⟩ := migration_end saved arrived launched removing removed
    have other := (chooseMigrationNode_some (moveToMigrationNode_ok moved).1).2.1
    rw [if_neg (fun purged => other purged.1), if_pos rfl] at content
    exact ⟨newNode.id, recorded, .inl content⟩
  · obtain ⟨recorded, content⟩ := migration_end saved arrived launched removing removed
    rw [db2] at starts
    rw [saved.db] at moved
    exact ⟨node.id, recorded, .inr ⟨oldNode, node, sameId, rfl,
      ⟨copied, moved, answered, server, row, placed, prepared, loaded, starts⟩, content⟩⟩

theorem StartSelects.other {node : Node}
    (selects : StartSelects site user serverId oldNode newNode node fleet inputs)
    : newNode.id ≠ oldNode.id :=
  (chooseMigrationNode_some (moveToMigrationNode_ok selects.2.1).1).2.1

theorem StartsOn.unique {db : Database} {node other : Node} {server moved row : Server}
    {placed prepared stored written : Database}
    (starts : StartsOn site node db inputs server moved placed prepared)
    (again : StartsOn site other db inputs server row stored written)
    : node = other :=
  Option.some.inj (starts.selected.symm.trans again.selected)

theorem StartSelects.returns {node : Node}
    (assigned : serverNode fleet.db serverId = some oldId)
    (stored : fleet.disks oldId serverId = some world)
    (selects : StartSelects site user serverId oldNode newNode node fleet inputs)
    : ∃ rest finish,
      Returns site (migrateServer site user serverId) inputs fleet rest finish newNode
      ∧ serverNode finish.db serverId = some node.id
      ∧ if node.id = oldNode.id ∧ (inputs.get 23).reply.reaches = true then
          finish.disks node.id serverId = none
        else
          finish.Live node.id serverId
          ∧ finish.disks node.id serverId
            = some (if node.id = newNode.id then world
              else (fleet.disks node.id serverId).getD (inputs.get 18).freshWorld) := by
  obtain ⟨copied, moved, answered, server, row, placed, prepared, loaded, starts⟩ := selects
  have sameId : oldNode.id = oldId := by
    obtain ⟨held, allowed, _, named⟩ := copied.permitted
    rw [serverNode, getServerForUser_ok allowed, Option.bind_some, named] at assigned
    exact Option.some.inj assigned
  subst sameId
  obtain ⟨_, fleet1, first⟩ := copied.succeeds stored
  obtain ⟨_, _, rfl, saved⟩ := backUpOldCopy_returns assigned stored first
  have restores : Succeeds site (restoreOnNewNode serverId oldNode) (inputs.drop 6) fleet1
      newNode :=
    restoreOnNewNode_succeeds saved.snapshot (by rw [saved.db]; exact moved) answered
  obtain ⟨_, fleet2, second⟩ := restores
  obtain ⟨_, _, rfl, arrived⟩ := restoreOnNewNode_returns saved.snapshot second
  have db2 : fleet2.db = arrivedDatabase serverId newNode fleet.db := by
    rw [arrived.db, saved.db, arrivedDatabase]
  have loaded2 : fleet2.db.servers.get? serverId = some server := by
    rw [db2]
    exact loaded
  have named : server.nodeId = some newNode.id := by
    obtain ⟨held, found, named⟩ := arrived_server newNode assigned
    cases loaded.symm.trans found
    exact named
  have launches : Succeeds site (startMigrated site serverId) ((inputs.drop 6).drop 3) fleet2
      () := by
    refine startMigrated_succeeds loaded2 ?_
    intro fleet0 sameDb
    exact StartsOn.succeeds (by rw [sameDb, db2]; exact starts)
  obtain ⟨_, fleet3, third⟩ := launches
  rcases startMigrated_returns loaded2 named third
    with ⟨freshWorld, stays, _⟩ | ⟨selected, _, _, _, restarts, rfl, launched⟩
  · rw [db2] at stays
    have checks := congrArg (Except.map Prod.snd) (stays.symm.trans starts.detached)
    cases checks
  · rw [db2] at restarts
    cases starts.unique restarts
    obtain ⟨rest, finish, fourth⟩ : ∃ rest finish,
        Returns site (removeOldCopy serverId oldNode) (((inputs.drop 6).drop 3).drop 12) fleet3
          rest finish () := ⟨_, _, rfl⟩
    obtain ⟨removing, removed⟩ := removeOldCopy_returns fourth
    refine ⟨rest, finish, ?_, migration_end saved arrived launched removing removed⟩
    exact (returns_bind first).trans ((returns_bind second).trans
      ((returns_bind third).trans (returns_bind fourth)))

/-- A migration keeps the world exactly when its start does. One direction follows the
migration to its end; the other runs the start that selects once more.
-/
theorem migration_keeps_world_iff (assigned : serverNode fleet.db serverId = some oldId)
    (stored : fleet.disks oldId serverId = some world)
    : WorldKept serverId world ((migrateServer site user serverId).run site inputs fleet)
      ↔ StartKeepsWorld site user serverId world fleet inputs := by
  constructor
  · intro kept oldNode newNode node selects
    obtain ⟨rest, finish, returned, recorded, content⟩ := selects.returns assigned stored
    rw [returned] at kept
    obtain ⟨nodeId, named, live, held⟩ := kept.2 newNode rfl
    cases recorded.symm.trans named
    by_cases restored : node.id = newNode.id
    · exact .inl restored
    · refine .inr ?_
      split at content
      · rw [content] at held
        cases held
      · rename_i notPurged
        split
        · rename_i back
          exact eq_false_of_ne_true (fun reached => notPurged ⟨back, reached⟩)
        · exact Option.some.inj (content.2.symm.trans held)
  · intro keeps
    cases outcome : (migrateServer site user serverId).run site inputs fleet with
    | mk finish rest result =>
        cases result with
        | error failure =>
            exact ⟨migrateServer_raises assigned stored outcome, fun _ good => by cases good⟩
        | ok newNode =>
            obtain ⟨nodeId, recorded, content⟩ :=
              migrateServer_returns assigned stored outcome
            have onNode : finish.Live nodeId serverId
                ∧ finish.disks nodeId serverId = some world := by
              rcases content with kept | ⟨oldNode, node, sameId, rfl, selects, content⟩
              · exact kept
              · rcases keeps oldNode newNode node selects with restored | elsewhere
                · rw [if_neg (fun purged => selects.other (restored.symm.trans purged.1)),
                    if_pos restored] at content
                  exact content
                · split at elsewhere
                  · rename_i back
                    rw [if_neg (fun purged => by
                        rw [elsewhere] at purged
                        cases purged.2),
                      if_neg (fun restored => selects.other (restored.symm.trans back)), back,
                      sameId, stored] at content
                    rw [back, sameId]
                    exact content
                  · rename_i other
                    rw [if_neg (fun purged => other purged.1), elsewhere, ite_self] at content
                    exact content
            exact ⟨.inr ⟨nodeId, recorded, onNode.2⟩,
              fun _ _ => ⟨nodeId, recorded, onNode.1, onNode.2⟩⟩

/-- The stored memory of the second node says that it is free. -/
private def twoNodes (resident : ServerState) : Fleet String where
  db :=
    sampleDatabase
      ⟨[sampleServer 0 1 19132 .running, sampleServer 5 2 19140 resident],
        by cases resident <;> decide⟩
  disks nodeId serverId := if nodeId = 1 ∧ serverId = 0 then some "world" else none

private def afterMigration (resident : ServerState)
    : Outcome (Outside String) (Fleet String) Raised Node :=
  (migrateServer sampleSite sampleUser 0).run sampleSite (sampleInputs []) (twoNodes resident)

/-- A new node whose other server is stopped keeps the world. -/
theorem free_node_keeps_world
    : StartKeepsWorld sampleSite sampleUser 0 "world" (twoNodes .suspended) (sampleInputs []) :=
  have recorded : serverNode (twoNodes .suspended).db 0 = some 1 := by decide
  (migration_keeps_world_iff recorded (by decide)).mp
    ⟨.inr ⟨2, by decide +kernel, by decide +kernel⟩,
      fun _ _ => ⟨2, by decide +kernel, by decide +kernel, by decide +kernel⟩⟩

/-- A new node that is full when the server starts sends it back to the old node, from which
the migration then removes it.
-/
theorem full_node_loses_world
    : ¬ ∀ (site : Site) (user : User) (serverId oldId : Uuid) (world : String)
        (fleet : Fleet String) (inputs : Stream' (Outside String)),
        serverNode fleet.db serverId = some oldId
        → fleet.disks oldId serverId = some world
        → WorldKept serverId world ((migrateServer site user serverId).run site inputs fleet) := by
  intro kept
  have lost := (kept sampleSite sampleUser 0 1 "world" (twoNodes .running) (sampleInputs [])
    (by decide) (by decide)).1
  have noSnapshot : (afterMigration .running).world.snapshots 0 = none := by decide +kernel
  have recorded : serverNode (afterMigration .running).world.db 0 = some 1 := by decide +kernel
  have removed : (afterMigration .running).world.disks 1 0 = none := by decide +kernel
  rcases lost with snapshot | ⟨nodeId, named, held⟩
  · cases noSnapshot.symm.trans snapshot
  · cases recorded.symm.trans named
    cases removed.symm.trans held

end Blockhost.ControlPlane
