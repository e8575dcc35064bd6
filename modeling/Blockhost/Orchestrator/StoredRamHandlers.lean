import Blockhost.Api.MigrationRuns
import Blockhost.Orchestrator.HandlerOutcomes
import Blockhost.Orchestrator.OperationHandlers
import Blockhost.Services.StoredRam

/-! What the operations on single servers do to the stored memory of the nodes. The server that an
operation writes is followed from its row at the start: where it is, and whether it reserves
memory there.
-/

namespace Blockhost.ControlPlane

open Library

variable {World : Type} {site : Site} {limit : Uuid → Int} {given : Outside World → Prop}
variable {start : Database} {fleet before after : Fleet World} {serverId : Uuid}
variable {home stale : Option Uuid} {reserves : Bool} {router : Router}

-- Reassignments

theorem map_unit_ok {outcome : Except Raised Database} {next : Database} {result : Unit}
    (done : outcome.map (fun next => (next, ())) = .ok (next, result))
    : outcome = .ok next := by
  cases outcome with
  | error failure => cases done
  | ok stored =>
      cases done
      rfl

theorem took_reassign {outside : Outside World} {serverId : Uuid} {target : Node}
    {answer : Except Raised Bool}
    (took : Took site (.reassign serverId target) outside before after answer)
    : Committed before after
        (reassignServer site.settings outside.tests serverId target before.db) answer :=
  committed_commit took

-- A server that stays on its node

structure Homed (limit : Uuid → Int) (stale : Option Uuid) (start : Database) (serverId : Uuid)
    (home : Option Uuid) (db : Database)
    : Prop where
  booked : Booked limit stale start db
  row : ∃ server, db.servers.get? serverId = some server ∧ server.nodeId = home

/-- Nothing is stale yet, and the server reserves memory as it did at the start. -/
structure Stands (limit : Uuid → Int) (start : Database) (serverId : Uuid) (home : Option Uuid)
    (reserves : Bool) (db : Database)
    : Prop where
  booked : Booked limit none start db
  row
    : ∃ server, db.servers.get? serverId = some server ∧ server.nodeId = home
      ∧ server.state.reservesRam = reserves

namespace Stands

variable {db : Database} {change : Change Server.id}

theorem keep (stands : Stands limit start serverId home reserves db)
    (kept : ∀ server, (change.apply server).state = server.state
      ∧ (change.apply server).nodeId = server.nodeId)
    : Stands limit start serverId home reserves (changeServer serverId change db) := by
  obtain ⟨server, found, node, state⟩ := stands.row
  refine ⟨stands.booked.changeKept ?_, change.apply server, ?_, ?_, ?_⟩
  · intro row _ nodeId
    exact serverShare_congr (change.kept row) (kept row).2 (congrArg _ (kept row).1)
  · rw [get?_changeServer, if_pos rfl, found]
    rfl
  · rw [(kept server).2, node]
  · rw [(kept server).1, state]

theorem steady (limit : Uuid → Int) (start : Database) (serverId : Uuid) (home : Option Uuid)
    (reserves : Bool)
    : Steady serverId
        (fun fleet : Fleet World => Stands limit start serverId home reserves fleet.db) where
  records same stands := same.db ▸ stands
  change kept written stands := written.db ▸ stands.keep kept

theorem enter (stands : Stands limit start serverId home reserves db)
    (stays : ∀ server, (change.apply server).nodeId = server.nodeId)
    : Homed limit home start serverId home (changeServer serverId change db) := by
  obtain ⟨server, found, node, _⟩ := stands.row
  refine ⟨stands.booked.changeAt ?_ stays, change.apply server, ?_, ?_⟩
  · intro row known
    rw [found] at known
    cases known
    exact node
  · rw [get?_changeServer, if_pos rfl, found]
    rfl
  · rw [stays, node]

theorem enterKept (stands : Stands limit start serverId home reserves db)
    (stays : ∀ server, (change.apply server).nodeId = server.nodeId)
    (reserving : ∀ server, (change.apply server).state.reservesRam = reserves)
    : Booked limit none start (changeServer serverId change db) := by
  obtain ⟨server, found, _, state⟩ := stands.row
  refine stands.booked.changeKept ?_
  intro row known nodeId
  rw [found] at known
  cases known
  exact serverShare_congr (change.kept server) (stays server) ((reserving server).trans state.symm)

end Stands

-- Start, stop and toggle

section Actions

variable {outside : Outside World} {nodeId : Uuid}

theorem took_refreshRam {answer : Unit}
    (took : Took site (.refreshRam nodeId) outside before after answer)
    : Records before after
        (refreshNodeAllocatedRam site.settings outside.now nodeId before.db) := by
  cases took
  exact ⟨rfl, rfl⟩

theorem took_askStatus {answer : Bool}
    (took : Took site (.askStatus nodeId serverId) outside before after answer)
    : answer = askStatus outside.reply nodeId serverId before
      ∧ Records before after before.db ∧ after.processes = before.processes := by
  cases took
  exact ⟨rfl, ⟨rfl, rfl⟩, rfl⟩

theorem took_route {answer : Option Uuid}
    (took : Took site (.route router serverId) outside before after answer)
    : answer = (routeServer router outside.now serverId before).2
      ∧ Records before after before.db ∧ after.processes = before.processes := by
  have same : (routeServer router outside.now serverId (before.atTime outside.now)).1 = after :=
    congrArg Prod.fst took
  have routed : (routeServer router outside.now serverId (before.atTime outside.now)).2 = answer :=
    congrArg Prod.snd took
  refine ⟨?_, same ▸ records_routeServer router outside.now serverId before,
    same ▸ routeServer_processes router outside.now serverId _⟩
  rw [← routed]
  unfold routeServer Fleet.atTime
  dsimp only
  cases before.routes router serverId with
  | none => rfl
  | some route =>
      obtain ⟨node, expiry⟩ := route
      dsimp only
      split <;> rfl

end Actions

/-- The limits at all times of an operation. -/
def Fixed (site : Site) (limit : Uuid → Int) (given : Outside World → Prop) (db : Database)
    : Prop :=
  ∀ outside, given outside
    → ∀ serverId, requiredRamMb site.settings db outside.now serverId = limit serverId

/-- The check of the node lets the server stay where it is, or the start is refused. -/
def StaysPut (site : Site) (given : Outside World → Prop) (server : Server) (db : Database)
    : Prop :=
  ∀ outside next check, given outside
    → checkStartNode site.settings outside.now server db = .ok (next, check)
    → next = db ∧ check = .stays

theorem refreshServerNode_ensures (fixed : Fixed site limit given start)
    (homed : Homed limit home start serverId home fleet.db)
    : Handler.Ensures site given (refreshServerNode serverId)
        (fun after _ => Booked limit none start after.db) fleet := by
  obtain ⟨row, found, here⟩ := homed.row
  refine ensures_ask ?_
  intro _ fleet0 loaded _ took0
  obtain ⟨rfl, wrote0⟩ := took_loadServer took0
  rw [found]
  have booked0 : Booked limit home start fleet0.db := wrote0.db ▸ homed.booked
  refine ensures_existing (fun missing => nomatch missing) ?_
  intro server present
  cases present
  cases on : row.nodeId with
  | none =>
      rw [on] at here
      subst here
      exact booked0
  | some nodeId =>
      refine ensures_only ?_
      intro outside fleet1 _ known took1
      rw [(took_refreshRam took1).db]
      refine booked0.refresh ?_ (fixed outside known)
      intro other same
      rw [← here, on] at same
      exact (Option.some.inj same).symm

/-- The node that a router asks for the server runs it, and every call is answered. -/
def Answers (given : Outside World → Prop) (router : Router) (serverId : Uuid)
    (fleet : Fleet World)
    : Prop :=
  ∀ outside, given outside
    → outside.reply = .answered
      ∧ ∃ nodeId, (routeServer router outside.now serverId fleet).2 = some nodeId
        ∧ fleet.Live nodeId serverId

/-- A server that is stored running and answers so. -/
def FoundRunning (given : Outside World → Prop) (server : Server) (fleet : Fleet World) : Prop :=
  server.state = .running ∧ Answers given .api server.id fleet

/-- A server that no node runs, or that is not even stored running. -/
def FoundStopped (server : Server) (fleet : Fleet World) : Prop :=
  server.state ≠ .running ∨ ∀ nodeId, ¬ fleet.Live nodeId server.id

theorem FoundRunning.wrote {server : Server} (runs : FoundRunning given server before)
    (wrote : Wrote before after before.db)
    : FoundRunning given server after := by
  refine ⟨runs.1, ?_⟩
  intro outside known
  obtain ⟨replied, nodeId, sent, live⟩ := runs.2 outside known
  refine ⟨replied, nodeId, ?_, ?_⟩
  · rw [← sent]
    unfold routeServer
    rw [wrote.routes, wrote.db]
    cases before.routes .api server.id with
    | none => rfl
    | some route =>
        dsimp only
        split <;> rfl
  · unfold Fleet.Live
    rw [wrote.processes]
    exact live

theorem FoundStopped.wrote {server : Server} (stopped : FoundStopped server before)
    (wrote : Wrote before after before.db)
    : FoundStopped server after := by
  refine stopped.imp_right ?_
  intro dead nodeId
  unfold Fleet.Live
  rw [wrote.processes]
  exact dead nodeId

theorem isRunning_ensures (serverId : Uuid) (fleet : Fleet World)
    : Handler.Ensures site given (isRunning router serverId)
        (fun after result => after.db = fleet.db
          ∧ ((∀ nodeId, ¬ fleet.Live nodeId serverId) → result = .ok false)
          ∧ (Answers given router serverId fleet → result = .ok true)) fleet := by
  refine ensures_ask ?_
  intro outside fleet0 routed known took0
  obtain ⟨rfl, same0, processes⟩ := took_route took0
  cases sent : (routeServer router outside.now serverId fleet).2 with
  | none =>
      refine ⟨same0.db, fun _ => rfl, ?_⟩
      intro answers
      obtain ⟨_, nodeId, other, _⟩ := answers outside known
      rw [sent] at other
      cases other
  | some nodeId =>
      refine ensures_only ?_
      intro later fleet1 answer told took1
      obtain ⟨rfl, same1, _⟩ := took_askStatus took1
      have live : fleet0.Live nodeId serverId ↔ fleet.Live nodeId serverId := by
        unfold Fleet.Live
        rw [processes]
      unfold askStatus
      refine ⟨same1.db.trans same0.db, ?_, ?_⟩
      · intro dead
        rw [decide_eq_false (live.not.mpr (dead nodeId)), Bool.and_false]
      · intro answers
        obtain ⟨_, other, same, runs⟩ := answers outside known
        rw [sent] at same
        cases same
        rw [decide_eq_true (live.mpr runs), decide_eq_true (answers later told).1]
        rfl

theorem actuallyRunning_ensures (server : Server) (fleet : Fleet World)
    : Handler.Ensures site given (actuallyRunning server)
        (fun after result => after.db = fleet.db
          ∧ (FoundStopped server fleet → result = .ok false)
          ∧ (FoundRunning given server fleet → result = .ok true)) fleet := by
  unfold actuallyRunning
  split
  next running =>
    refine (isRunning_ensures server.id fleet).mono ?_
    intro after result told
    refine ⟨told.1, ?_, fun found => told.2.2 found.2⟩
    intro stopped
    exact told.2.1 (stopped.resolve_left (not_not_intro running))
  next stopped => exact ⟨rfl, fun _ => rfl, fun found => absurd found.1 stopped⟩

theorem startOrConflict_launches {server : Server} {waiting running : Fleet World → Prop}
    (launches : Handler.Ensures site given (doStartServer site .api server)
      (StartEnds running waiting) fleet)
    : Handler.Ensures site given (startOrConflict site server) (StartEnds running waiting)
        fleet := by
  refine launches.handle (fun _ _ launched => launched) ?_
  intro world failure still
  cases failure <;> exact still

/-- No start of the server is allowed. -/
def StartRefused (site : Site) (given : Outside World → Prop) (serverId : Uuid) (db : Database)
    : Prop :=
  ∀ outside, given outside
    → ∃ failure,
      ensureActiveSubscriptionForStart site.settings db outside.now serverId = .error failure

theorem StartRefused.kept {db : Database} (refused : StartRefused site given serverId start)
    (booked : Booked limit stale start db)
    : StartRefused site given serverId db := by
  intro outside known
  obtain ⟨failure, same⟩ := refused outside known
  refine ⟨failure, ?_⟩
  rw [← same]
  unfold ensureActiveSubscriptionForStart ensureServerNotBillingSuspended
    activeSubscriptionForServer
  rw [booked.subscriptions, booked.plans]

theorem StartRefused.staysPut {db : Database} {server : Server}
    (refused : StartRefused site given server.id db)
    : StaysPut site given server db := by
  intro outside next check known checked
  obtain ⟨failure, same⟩ := refused outside known
  unfold checkStartNode at checked
  rw [same] at checked
  cases checked

theorem doStartServer_refused {server : Server}
    (refused : StartRefused site given server.id fleet.db)
    : Handler.Ensures site given (doStartServer site router server)
        (fun after result => after.db = fleet.db ∧ ∃ failure, result = .error failure) fleet := by
  refine ensures_ask ?_
  intro outside fleet0 checked known took0
  obtain ⟨failure, same⟩ := refused outside known
  rcases (took_checkNode took0).cases with ⟨raised, rfl, kept⟩ | ⟨next, check, stored, _, _⟩
  · exact ⟨kept.db, raised, rfl⟩
  · unfold checkStartNode at stored
    rw [same] at stored
    cases stored

theorem startOrConflict_refused {server : Server}
    (refused : StartRefused site given server.id fleet.db)
    : Handler.Ensures site given (startOrConflict site server)
        (fun after _ => after.db = fleet.db) fleet := by
  refine (doStartServer_refused refused).handle (fun _ _ ended => ended.1) ?_
  intro after failure ended
  cases failure <;> exact ended.1

theorem Stands.begin {server : Server} {db : Database} (booked : Booked limit none start db)
    (found : db.servers.get? serverId = some server)
    : Stands limit start serverId server.nodeId server.state.reservesRam db :=
  ⟨booked, server, found, rfl, rfl⟩

theorem serverForUser_ok {db : Database} {user : User} {requiredPermission : String}
    {server : Server}
    (permitted : (getServerForUser db serverId user requiredPermission).mapError Raised.http
      = .ok server)
    : getServerForUser db serverId user requiredPermission = .ok server := by
  cases granted : getServerForUser db serverId user requiredPermission with
  | error refusal =>
      rw [granted] at permitted
      cases permitted
  | ok row =>
      rw [granted] at permitted
      cases permitted
      rfl

theorem ensures_serverForUser {user : User} {requiredPermission : String}
    {next : Server → Handler Result} {post : Fleet World → Except Raised Result → Prop}
    (denied : ∀ after failure, Wrote fleet after fleet.db → post after (.error failure))
    (permitted : ∀ after server, Wrote fleet after fleet.db
      → getServerForUser fleet.db serverId user requiredPermission = .ok server
      → (next server).Ensures site given post after)
    : Handler.Ensures site given
        (ask (.serverForUser user serverId requiredPermission) >>= (raising · >>= next))
        post fleet := by
  refine ensures_ask ?_
  intro _ after _ _ took
  obtain ⟨rfl, wrote⟩ := took_serverForUser took
  refine ensures_raising (fun failure _ => denied after failure wrote) ?_
  intro server granted
  exact permitted after server wrote (serverForUser_ok granted)

theorem startOrConflict_ensures {server : Server} {running : Database → Prop}
    (booked : Booked limit none start fleet.db)
    (found : fleet.db.servers.get? server.id = some server)
    (stays : StaysPut site given server fleet.db)
    (finish : ∀ {db}, Stands limit start server.id server.nodeId server.state.reservesRam db
      → running (changeServer server.id (markRunning site.settings) db))
    : Handler.Ensures site given (startOrConflict site server)
        (StartEnds (fun after => running after.db)
          (fun after => Stands limit start server.id server.nodeId server.state.reservesRam
            after.db))
        fleet := by
  refine startOrConflict_launches (doStartServer_launches (Stands.steady ..) ?_ stays
    (Stands.begin booked found))
  intro before after stands written
  exact written.db ▸ finish stands

theorem startServer_ensures {user : User} (fixed : Fixed site limit given start)
    (booked : Booked limit none start fleet.db)
    (spared : ∀ server, getServerForUser fleet.db serverId user "start_stop" = .ok server
      → FoundRunning given server fleet ∨ StaysPut site given server fleet.db)
    : Handler.Ensures site given (startServer site user serverId)
        (fun after _ => Booked limit none start after.db) fleet := by
  refine ensures_serverForUser (fun _ _ wrote => wrote.db ▸ booked) ?_
  intro fleet0 server wrote0 granted
  have booked0 : Booked limit none start fleet0.db := wrote0.db ▸ booked
  have found := getServerForUser_ok granted
  obtain ⟨_, rfl⟩ := Table.get?_some found
  refine (actuallyRunning_ensures server fleet0).bind ?_ (fun _ _ same => same.1 ▸ booked0)
  intro fleet1 running same
  have same1 : fleet1.db = fleet.db := same.1.trans wrote0.db
  have booked1 : Booked limit none start fleet1.db := same1 ▸ booked
  cases running with
  | true => exact booked1
  | false =>
      have stays : StaysPut site given server fleet.db := by
        refine (spared server granted).resolve_left ?_
        intro runs
        cases same.2.2 (runs.wrote wrote0)
      rw [← same1] at found stays
      refine (startOrConflict_ensures booked1 found stays
        (fun stands => stands.enter (fun _ => rfl))).bind ?_ (fun _ _ still => still.booked)
      intro fleet2 _ homed
      exact refreshServerNode_ensures fixed homed

theorem stopServerProcess_ensures {suspended : Fleet World → Prop}
    (suspends : ∀ {before after}, before.db = fleet.db
      → Records before after (changeServer serverId (setServerState .suspended) before.db)
      → suspended after)
    : Handler.Ensures site given (stopServerProcess router serverId)
        (StartEnds suspended (fun after => after.db = fleet.db)) fleet := by
  refine ensures_ask ?_
  intro _ fleet0 routed _ took0
  have same0 := (records_route took0).db
  have stopping {fleet1 : Fleet World} (same : fleet1.db = fleet.db)
      : Handler.Ensures site given (ask (.suspend serverId))
        (StartEnds suspended (fun after => after.db = fleet.db)) fleet1 := by
    refine ensures_only ?_
    intro _ fleet2 _ _ took
    exact suspends same (took_suspend took).records
  cases routed with
  | none => exact stopping same0
  | some nodeId =>
      refine ensures_ask ?_
      intro _ fleet1 answered _ took1
      have same1 := (records_call took1).db.trans same0
      cases answered with
      | false => exact same1
      | true => exact stopping same1

theorem stopServer_ensures {user : User} (fixed : Fixed site limit given start)
    (booked : Booked limit none start fleet.db)
    : Handler.Ensures site given (stopServer user serverId)
        (fun after _ => Booked limit none start after.db) fleet := by
  refine ensures_serverForUser (fun _ _ wrote => wrote.db ▸ booked) ?_
  intro fleet0 server wrote0 granted
  have booked0 : Booked limit none start fleet0.db := wrote0.db ▸ booked
  have found := getServerForUser_ok granted
  obtain ⟨_, rfl⟩ := Table.get?_some found
  rw [← wrote0.db] at found
  have suspends {before after : Fleet World} (same : before.db = fleet0.db)
      (written : Records before after
        (changeServer server.id (setServerState .suspended) before.db))
      : Homed limit server.nodeId start server.id server.nodeId after.db := by
    rw [written.db, same]
    exact (Stands.begin booked0 found).enter (fun _ => rfl)
  refine (stopServerProcess_ensures suspends).bind ?_ (fun _ _ same => same ▸ booked0)
  intro fleet1 _ homed
  exact refreshServerNode_ensures fixed homed

/-- `toggle_server` refreshes nothing: either the start is refused and the server has no limit or
is not found running, or it is not found running and reserves memory already where it stays.
-/
theorem toggleServer_ensures {user : User} (booked : Booked limit none start fleet.db)
    (spared : ∀ server, getServerForUser fleet.db serverId user "start_stop" = .ok server
      → StartRefused site given serverId fleet.db
          ∧ (limit serverId = 0 ∨ FoundStopped server fleet)
        ∨ StaysPut site given server fleet.db ∧ server.state.reservesRam = true
          ∧ FoundStopped server fleet)
    : Handler.Ensures site given (toggleServer site user serverId)
        (fun after _ => Booked limit none start after.db) fleet := by
  refine ensures_serverForUser (fun _ _ wrote => wrote.db ▸ booked) ?_
  intro fleet0 server wrote0 granted
  have booked0 : Booked limit none start fleet0.db := wrote0.db ▸ booked
  have found := getServerForUser_ok granted
  obtain ⟨_, rfl⟩ := Table.get?_some found
  have spares := spared server granted
  refine (actuallyRunning_ensures server fleet0).bind ?_ (fun _ _ same => same.1 ▸ booked0)
  intro fleet1 running same
  have same1 : fleet1.db = fleet.db := same.1.trans wrote0.db
  have booked1 : Booked limit none start fleet1.db := same1 ▸ booked
  cases running with
  | true =>
      have runs : ¬ FoundStopped server fleet := by
        intro stopped
        cases same.2.1 (stopped.wrote wrote0)
      have free : limit server.id = 0 := by
        rcases spares with ⟨_, free | stopped⟩ | ⟨_, _, stopped⟩
        · exact free
        · exact absurd stopped runs
        · exact absurd stopped runs
      have suspends {before after : Fleet World} (same : before.db = fleet1.db)
          (written : Records before after
            (changeServer server.id (setServerState .suspended) before.db))
          : Booked limit none start after.db := by
        rw [written.db, same]
        exact booked1.changeFree free
      refine (stopServerProcess_ensures suspends).mono ?_
      intro after result ended
      cases result with
      | error failure => exact ended ▸ booked1
      | ok _ => exact ended
  | false =>
      rw [← same1] at found spares
      rcases spares with ⟨refused, _⟩ | ⟨stays, reserves, _⟩
      · refine (startOrConflict_refused refused).mono ?_
        intro after _ same2
        exact same2 ▸ booked1
      · have finish {db : Database}
            (stands : Stands limit start server.id server.nodeId server.state.reservesRam db)
            : Booked limit none start (changeServer server.id (markRunning site.settings) db) :=
          stands.enterKept (fun _ => rfl) (fun _ => reserves.symm)
        refine (startOrConflict_ensures booked1 found stays finish).mono ?_
        intro after result ended
        cases result with
        | error failure => exact ended.booked
        | ok _ => exact ended

-- Migrations

/-- A server without a limit, or one that reserves nothing. -/
def Light (limit : Uuid → Int) (serverId : Uuid) (db : Database) : Prop :=
  limit serverId = 0
  ∨ ∀ server, db.servers.get? serverId = some server → server.state.reservesRam = false

/-- Nothing is stale, and no move of the server makes a node stale. -/
structure Unburdened (limit : Uuid → Int) (start : Database) (serverId : Uuid) (db : Database)
    : Prop where
  booked : Booked limit none start db
  light : Light limit serverId db

theorem Unburdened.change {db : Database} {change : Change Server.id}
    (light : Unburdened limit start serverId db)
    (idles : ∀ server, server.state.reservesRam = false
      → (change.apply server).state.reservesRam = false)
    : Unburdened limit start serverId (changeServer serverId change db) := by
  rcases light.light with free | idle
  · exact ⟨light.booked.changeFree free, .inl free⟩
  · refine ⟨light.booked.changeKept ?_, .inr ?_⟩
    · intro server found nodeId
      rw [serverShare_idle (idle server found),
        serverShare_idle (idles server (idle server found))]
    · intro server written
      rw [get?_changeServer, if_pos rfl] at written
      obtain ⟨row, found, rfl⟩ := Option.map_eq_some_iff.mp written
      exact idles row (idle row found)

theorem loadAndStart_refused {Result : Type} {later : Unit → Handler Result}
    (light : Unburdened limit start serverId fleet.db)
    (refused : StartRefused site given serverId start)
    : Handler.Ensures site given
        (do
          let server ← existing (← ask (.loadServer serverId))
          doStartServer site .api server >>= later)
        (fun after result => Unburdened limit start serverId after.db
          ∧ ∃ failure, result = .error failure)
        fleet := by
  refine ensures_ask ?_
  intro _ fleet0 _ _ took0
  obtain ⟨rfl, wrote0⟩ := took_loadServer took0
  have light0 : Unburdened limit start serverId fleet0.db := wrote0.db ▸ light
  refine ensures_existing (fun _ => ⟨light0, _, rfl⟩) ?_
  intro server found
  obtain ⟨_, rfl⟩ := Table.get?_some found
  refine (doStartServer_refused (refused.kept light0.booked)).bind ?_ ?_
  · intro fleet1 _ ended
    obtain ⟨_, _, raised⟩ := ended
    cases raised
  · intro fleet1 failure ended
    exact ⟨ended.1 ▸ light0, failure, rfl⟩

theorem rebalanceServer_books {choice : MigrationChoice}
    (light : Unburdened limit start choice.server.id fleet.db)
    (refused : StartRefused site given choice.server.id start)
    : Handler.Ensures site given (rebalanceServer site choice)
        (fun after _ => Booked limit none start after.db) fleet := by
  refine ensures_ask ?_
  intro _ fleet0 _ _ took0
  have light0 : Unburdened limit start choice.server.id fleet0.db :=
    (records_call took0).db ▸ light
  refine ensures_ask ?_
  intro _ fleet1 _ _ took1
  have light1 : Unburdened limit start choice.server.id fleet1.db :=
    (took_suspend took1).db ▸ light0.change (fun _ _ => rfl)
  refine ensures_ask ?_
  intro _ fleet2 _ _ took2
  rcases (took_reassign took2).cases with ⟨failure, rfl, kept⟩ | ⟨next, done, outcome, rfl, written⟩
  · exact (kept.db ▸ light1).booked
  · have light2 : Unburdened limit start choice.server.id fleet2.db := by
      rw [written.db]
      rcases reassignServer_ok outcome with ⟨_, rfl⟩ | ⟨_, server, found, replaced, _⟩
      · exact light1
      · obtain ⟨port, _, rfl⟩ := replaceServer_ok replaced
        rw [(Table.get?_some found).2]
        exact light1.change (fun _ idle => idle)
    refine ensures_raising (fun _ raised => nomatch raised) ?_
    intro moved same
    split
    · refine ensures_ask ?_
      intro _ fleet3 _ _ took3
      have light3 : Unburdened limit start choice.server.id fleet3.db :=
        (records_forgetRoute took3).db ▸ light2
      split
      · refine (loadAndStart_refused light3 refused).handle ?_ ?_
        · intro after _ ended
          exact ended.1.booked
        · intro after _ ended
          exact ended.1.booked
      · refine ensures_ask ?_
        intro _ fleet4 _ _ took4
        have light4 : Unburdened limit start choice.server.id fleet4.db :=
          (took_suspend took4).db ▸ light3.change (fun _ _ => rfl)
        refine ensures_ask ?_
        intro _ fleet5 _ _ took5
        have light5 : Unburdened limit start choice.server.id fleet5.db :=
          (took_markMigrated took5).db ▸ light4.change (fun _ idle => idle)
        refine ensures_ask ?_
        intro _ fleet6 _ _ took6
        exact ((took_recordMigration took6).1 ▸ light5).booked
    · exact light2.booked

theorem took_moveBack {outside : Outside World} {oldNode : Node} {answer : Except Raised Unit}
    (took : Took site (.moveBack serverId oldNode) outside before after answer)
    : Committed before after ((moveBack serverId oldNode before.db).map (fun next => (next, ())))
        answer :=
  committed_commit took

/-- The guards of a migration refuse it: the user's rights, the object storage, the hourly cap or
the cooldown, or there is no node to migrate from.
-/
def MigrationRefused (site : Site) (given : Outside World → Prop) (user : User) (serverId : Uuid)
    (fleet : Fleet World)
    : Prop :=
  ∀ server, getServerForUser fleet.db serverId user "start_stop" = .ok server
    → server.nodeId.bind fleet.db.nodes.get? = none
      ∨ ∀ outside, given outside
        → ∃ failure,
          checkMigration site.settings outside.now site.s3Missing fleet.migrationTimes server
            = .error failure

theorem backUpOldCopy_refused {user : User}
    (refused : MigrationRefused site given user serverId fleet)
    : Handler.Ensures site given (backUpOldCopy user serverId)
        (fun after result => after.db = fleet.db ∧ ∃ failure, result = .error failure) fleet := by
  refine ensures_serverForUser (fun _ failure wrote => ⟨wrote.db, failure, rfl⟩) ?_
  intro fleet0 server wrote0 found
  have spared := refused server found
  refine ensures_ask ?_
  intro outside fleet1 _ known took1
  obtain ⟨rfl, wrote1⟩ := took_checkMigration took1
  have same1 : fleet1.db = fleet.db := wrote1.db.trans wrote0.db
  refine ensures_raising (fun failure _ => ⟨same1, failure, rfl⟩) ?_
  intro _ passed
  rcases spared with away | guarded
  · cases on : server.nodeId with
    | none => exact ⟨same1, _, rfl⟩
    | some nodeId =>
        rw [on] at away
        refine ensures_ask ?_
        intro _ fleet2 _ _ took2
        obtain ⟨rfl, wrote2⟩ := took_loadNode took2
        have missing : fleet1.db.nodes.get? nodeId = none := by
          rw [same1]
          exact away
        rw [missing]
        exact ⟨wrote2.db.trans same1, _, rfl⟩
  · obtain ⟨failure, raised⟩ := guarded outside known
    rw [wrote0.migrationTimes, raised] at passed
    cases passed

theorem backUpOldCopy_light {user : User} (light : Unburdened limit start serverId fleet.db)
    : Handler.Ensures site given (backUpOldCopy user serverId)
        (fun after _ => Unburdened limit start serverId after.db) fleet := by
  refine ensures_serverForUser (fun _ _ wrote => wrote.db ▸ light) ?_
  intro fleet0 server wrote0 _
  have light0 : Unburdened limit start serverId fleet0.db := wrote0.db ▸ light
  refine ensures_ask ?_
  intro _ fleet1 _ _ took1
  obtain ⟨rfl, wrote1⟩ := took_checkMigration took1
  have light1 : Unburdened limit start serverId fleet1.db := wrote1.db ▸ light0
  refine ensures_raising (fun _ _ => light1) ?_
  intro _ _
  cases server.nodeId with
  | none => exact light1
  | some nodeId =>
      refine ensures_ask ?_
      intro _ fleet2 loaded _ took2
      have light2 : Unburdened limit start serverId fleet2.db := (took_loadNode took2).2.db ▸ light1
      cases loaded with
      | none => exact light2
      | some oldNode =>
          refine ensures_ask ?_
          intro _ fleet3 _ _ took3
          have light3 : Unburdened limit start serverId fleet3.db :=
            (records_call took3).db ▸ light2
          refine ensures_ask ?_
          intro _ fleet4 _ _ took4
          have light4 : Unburdened limit start serverId fleet4.db :=
            (took_suspend took4).db ▸ light3.change (fun _ _ => rfl)
          refine ensures_ask ?_
          intro _ fleet5 answered _ took5
          have light5 : Unburdened limit start serverId fleet5.db :=
            (records_call took5).db ▸ light4
          cases answered <;> exact light5

theorem restoreOnNewNode_light {oldNode : Node}
    (light : Unburdened limit start serverId fleet.db)
    : Handler.Ensures site given (restoreOnNewNode serverId oldNode)
        (fun after _ => Unburdened limit start serverId after.db) fleet := by
  refine ensures_ask ?_
  intro outside fleet0 _ _ took0
  rcases (took_moveToMigrationNode took0).cases with
    ⟨failure, rfl, kept⟩ | ⟨next, newNode, moved, rfl, written⟩
  · have light0 : Unburdened limit start serverId fleet0.db := kept.db ▸ light
    exact light0
  · have light0 : Unburdened limit start serverId fleet0.db := by
      rw [written.db, (moveToMigrationNode_ok moved).2.1]
      exact light.change (fun _ idle => idle)
    refine ensures_ask ?_
    intro _ fleet1 _ _ took1
    have light1 : Unburdened limit start serverId fleet1.db :=
      (records_forgetRoute took1).db ▸ light0
    refine ensures_ask ?_
    intro _ fleet2 restored _ took2
    have light2 : Unburdened limit start serverId fleet2.db := (records_call took2).db ▸ light1
    cases restored with
    | true => exact light2
    | false =>
        refine ensures_ask ?_
        intro _ fleet3 _ _ took3
        rcases (took_moveBack took3).cases with
          ⟨failure, rfl, kept⟩ | ⟨next, _, outcome, rfl, written⟩
        · have light3 : Unburdened limit start serverId fleet3.db := kept.db ▸ light2
          exact light3
        · have light3 : Unburdened limit start serverId fleet3.db := by
            obtain ⟨same, _⟩ := commitServers_ok (map_unit_ok outcome)
            rw [written.db, same]
            exact light2.change (fun _ idle => idle)
          refine ensures_ask ?_
          intro _ fleet4 _ _ took4
          have light4 : Unburdened limit start serverId fleet4.db :=
            (records_forgetRoute took4).db ▸ light3
          exact light4

theorem migrateServer_books {user : User} (booked : Booked limit none start fleet.db)
    (spared : MigrationRefused site given user serverId fleet
      ∨ Unburdened limit start serverId fleet.db ∧ StartRefused site given serverId start)
    : Handler.Ensures site given (migrateServer site user serverId)
        (fun after _ => Booked limit none start after.db) fleet := by
  rcases spared with refused | ⟨light, refused⟩
  · refine (backUpOldCopy_refused refused).bind ?_ (fun _ _ ended => ended.1 ▸ booked)
    intro fleet0 _ ended
    obtain ⟨_, _, raised⟩ := ended
    cases raised
  · refine (backUpOldCopy_light light).bind ?_ (fun _ _ light => light.booked)
    intro fleet0 oldNode light0
    refine (restoreOnNewNode_light light0).bind ?_ (fun _ _ light => light.booked)
    intro fleet1 newNode light1
    have started : Handler.Ensures site given (startMigrated site serverId)
        (fun after result => Unburdened limit start serverId after.db
          ∧ ∃ failure, result = .error failure) fleet1 := by
      refine (loadAndStart_refused light1 refused).handle ?_ ?_
      · intro after _ ended
        obtain ⟨_, _, raised⟩ := ended
        cases raised
      · intro after failure ended
        cases failure <;> exact ⟨ended.1, _, rfl⟩
    refine started.bind ?_ (fun _ _ ended => ended.1.booked)
    intro fleet2 _ ended
    obtain ⟨_, _, raised⟩ := ended
    cases raised

-- The auto-sleeper and deletions

theorem haltServerProcess_ensures (serverId : Uuid) (fleet : Fleet World)
    : Handler.Ensures site given (haltServerProcess router serverId)
        (fun after _ => after.db = fleet.db) fleet := by
  refine ensures_ask ?_
  intro _ fleet0 routed _ took0
  have same0 := (records_route took0).db
  cases routed with
  | none => exact same0
  | some nodeId =>
      refine ensures_ask ?_
      intro _ fleet1 answered _ took1
      have same1 : fleet1.db = fleet.db := (records_call took1).db.trans same0
      cases answered <;> exact same1

/-- Some servers sleep without making a node stale: each has no limit or no node. -/
structure Restful (limit : Uuid → Int) (start : Database) (servers : List Uuid) (db : Database)
    : Prop where
  booked : Booked limit none start db
  light : ∀ serverId ∈ servers, limit serverId = 0 ∨ serverNode db serverId = none

theorem Restful.suspend {servers : List Uuid} {db : Database}
    (restful : Restful limit start servers db) (member : serverId ∈ servers)
    : Restful limit start servers (changeServer serverId (setServerState .suspended) db) := by
  refine ⟨?_, ?_⟩
  · rcases restful.light serverId member with free | homeless
    · exact restful.booked.changeFree free
    · refine restful.booked.changeKept ?_
      intro server found nodeId
      have off : server.nodeId ≠ some nodeId := by
        unfold serverNode at homeless
        rw [found, Option.bind_some] at homeless
        rw [homeless]
        exact (Option.some_ne_none _).symm
      rw [serverShare_away off, serverShare_idle rfl]
  · intro other later
    rw [serverNode_kept (fun _ => rfl)]
    exact restful.light other later

theorem sleepServer_ensures {servers : List Uuid} (fixed : Fixed site limit given start)
    (restful : Restful limit start servers fleet.db) (member : serverId ∈ servers)
    : Handler.Ensures site given (sleepServer serverId)
        (fun after _ => Restful limit start servers after.db) fleet := by
  have suspending {fleet0 : Fleet World} (restful0 : Restful limit start servers fleet0.db)
      : Handler.Ensures site given (ask (.suspend serverId))
        (fun after _ => Restful limit start servers after.db) fleet0 := by
    refine ensures_only ?_
    intro _ fleet1 _ _ took
    have restful1 : Restful limit start servers fleet1.db :=
      (took_suspend took).db ▸ restful0.suspend member
    exact restful1
  unfold sleepServer
  refine Program.Ensures.handle
    (?_ : Handler.Ensures site given _ (fun after _ => Restful limit start servers after.db) fleet)
    (fun _ _ restful => restful) (fun _ _ restful => restful)
  refine (haltServerProcess_ensures serverId fleet).bind ?_ (fun _ _ same => same ▸ restful)
  intro fleet0 _ same0
  refine ensures_ask ?_
  intro _ fleet1 _ _ took1
  have restful1 : Restful limit start servers fleet1.db :=
    ((took_loadServer took1).2.db.trans same0) ▸ restful
  refine ensures_existing (fun _ => restful1) ?_
  intro server _
  cases server.nodeId with
  | none => exact suspending restful1
  | some nodeId =>
      refine ensures_ask ?_
      intro outside fleet2 _ known took2
      have restful2 : Restful limit start servers fleet2.db := by
        rw [(took_refreshRam took2).db]
        exact ⟨restful1.booked.refresh (fun _ none => nomatch none) (fixed outside known),
          restful1.light⟩
      exact suspending restful2

/-- By induction on the idle servers. -/
theorem sleepServers_ensures (servers : List Uuid) (fixed : Fixed site limit given start)
    (restful : Restful limit start servers fleet.db)
    : Handler.Ensures site given (sleepServers servers)
        (fun after _ => Booked limit none start after.db) fleet := by
  induction servers generalizing fleet with
  | nil => exact restful.booked
  | cons serverId rest ih =>
      refine (sleepServer_ensures fixed restful List.mem_cons_self).bind ?_
        (fun _ _ ended => ended.booked)
      intro fleet1 _ ended
      exact ih ⟨ended.booked, fun other later => ended.light other (List.mem_cons_of_mem _ later)⟩

theorem stopBeforeDeletion_ensures (server : Server) (fleet : Fleet World)
    : Handler.Ensures site given (stopBeforeDeletion server)
        (fun after _ => after.db = fleet.db) fleet := by
  unfold stopBeforeDeletion
  split
  · exact (haltServerProcess_ensures server.id fleet).handle (fun _ _ same => same)
      (fun _ _ same => same)
  · exact rfl

theorem purgeServerData_ensures (serverId : Uuid) (nodeId : Option Uuid) (fleet : Fleet World)
    : Handler.Ensures site given (purgeServerData serverId nodeId)
        (fun after _ => after.db = fleet.db) fleet := by
  cases nodeId with
  | none => exact rfl
  | some nodeId =>
      refine ensures_ask ?_
      intro _ fleet0 loaded _ took0
      have same0 := (took_loadNode took0).2.db
      cases loaded with
      | none => exact same0
      | some node =>
          dsimp only
          split
          · exact same0
          · refine ensures_ask ?_
            intro _ fleet1 _ _ took1
            exact (records_call took1).db.trans same0

theorem prepareDeletion_ensures {user : User}
    : Handler.Ensures site given (prepareDeletion user serverId)
        (fun after result => after.db = fleet.db
          ∧ ∀ nodeId, result = .ok nodeId → serverNode fleet.db serverId = nodeId) fleet := by
  refine ensures_serverForUser (fun _ _ wrote => ⟨wrote.db, fun _ raised => nomatch raised⟩) ?_
  intro fleet0 server wrote0 present
  refine (stopBeforeDeletion_ensures server fleet0).bind ?_
    (fun _ _ same => ⟨same.trans wrote0.db, fun _ raised => nomatch raised⟩)
  intro fleet1 _ same1
  refine (purgeServerData_ensures serverId server.nodeId fleet1).bind ?_
    (fun _ _ same => ⟨same.trans (same1.trans wrote0.db), fun _ raised => nomatch raised⟩)
  intro fleet2 _ same2
  refine ⟨same2.trans (same1.trans wrote0.db), ?_⟩
  intro nodeId found
  cases found
  unfold serverNode
  rw [getServerForUser_ok present, Option.bind_some]

end Blockhost.ControlPlane
