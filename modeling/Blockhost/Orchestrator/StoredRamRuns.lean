import Blockhost.Api.StartChecks
import Blockhost.Orchestrator.StoredRamHandlers

/-! Whether the stored memory of the nodes stays current while operations run one after the other.
-/

namespace Blockhost.ControlPlane

open Library

variable {World : Type} {site : Site} {limit : Uuid → Int} {given : Outside World → Prop}
variable {start : Database} {serverId : Uuid}

/-- A node on which a server may stay when it is started: alive, and with room for the server
beside the workloads that reserve memory.
-/
def HasRoom (limit : Uuid → Int) (db : Database) (server : Server) : Prop :=
  ∃ node ∈ db.nodes.rows, server.nodeId = some node.id ∧ nodeIsDead node = false
    ∧ reservedRamMb limit db node.id + limit server.id ≤ node.totalRamMb

def OperationRun.Given (event : OperationRun World) (outside : Outside World) : Prop :=
  ∃ index, event.inputs.get index = outside

/-- An operation after some time in which the database stays; the limits of the servers are
fixed.
-/
structure OperationStep (site : Site) (limit : Uuid → Int) (before : Fleet World)
    (event : OperationRun World) (after : Fleet World)
    : Prop where
  undisturbed : event.fleet.db = before.db
  limits : Fixed site limit event.Given before.db
  ran : after = event.result site

/-- What keeps an operation from leaving a node stale. A start, a toggle or a migration of a server
that the user may not start does nothing at all.
-/
def SparesNodes (site : Site) (limit : Uuid → Int) (event : OperationRun World) : Prop :=
  let db := event.fleet.db
  match event.operation with
  | .stop _ _ | .delete _ _ _ => True
  | .start user serverId =>
      ∀ server, getServerForUser db serverId user "start_stop" = .ok server
        → FoundRunning event.Given server event.fleet
          ∨ HasRoom limit db server
          ∨ StartRefused site event.Given serverId db
  | .toggle user serverId =>
      ∀ server, getServerForUser db serverId user "start_stop" = .ok server
        → limit serverId = 0
          ∨ FoundStopped server event.fleet
            ∧ (StartRefused site event.Given serverId db
              ∨ HasRoom limit db server ∧ server.state.reservesRam = true)
  | .autoSleep =>
      ∀ server ∈ idleServers event.begins db, limit server.id = 0 ∨ server.nodeId = none
  | .rebalance choice =>
      Light limit choice.server.id db ∧ StartRefused site event.Given choice.server.id db
  | .migrate user serverId =>
      MigrationRefused site event.Given user serverId event.fleet
      ∨ Light limit serverId db ∧ StartRefused site event.Given serverId db

section Steps

variable {event : OperationRun World} {db : Database}

theorem Fixed.refused (fixed : Fixed site limit given db) (free : limit serverId = 0)
    : StartRefused site given serverId db := by
  intro outside known
  cases entitled : ensureActiveSubscriptionForStart site.settings db outside.now serverId with
  | error failure => exact ⟨failure, rfl⟩
  | ok _ =>
      have positive := ensureActiveSubscriptionForStart_ram entitled
      rw [fixed outside known serverId, free] at positive
      omega

theorem HasRoom.staysPut {server : Server} (room : HasRoom limit db server)
    (fixed : Fixed site limit given db)
    : StaysPut site given server db := by
  obtain ⟨node, stored, home, alive, room⟩ := room
  intro outside next check known checked
  have limits := fixed outside known
  obtain ⟨same, stays, _⟩ := checkStartNode_room home stored alive
    (by rw [computed_eq_reserved limits, limits server.id]; exact room) checked
  exact ⟨same, stays⟩

theorem ensures_result {Result : Type} {handler : Handler Result}
    {post : Fleet World → Except Raised Result → Prop}
    (ensured : Handler.Ensures site event.Given handler post event.fleet)
    : post (handler.run site event.inputs event.fleet).world
        (handler.run site event.inputs event.fleet).result :=
  ensured.run (fun index => ⟨index, rfl⟩)

theorem removeServer_books (booked : Booked limit none start db) {now : Instant}
    (fixed : ∀ serverId, requiredRamMb site.settings start now serverId = limit serverId)
    : Booked limit none start
        (removeServer site.settings now serverId (serverNode db serverId) db) := by
  have removed (nodeId : Option Uuid) (on : serverNode db serverId = nodeId)
      : Booked limit nodeId start
        { db with
          servers := db.servers.filter (fun server => server.id ≠ serverId)
          serverCollaborators :=
            db.serverCollaborators.filter
              (fun collaborator => collaborator.serverId ≠ serverId)
          bans := db.bans.filter (fun ban => ban.serverId ≠ serverId) } :=
    booked.remove on _ _
  unfold removeServer
  cases on : serverNode db serverId with
  | none => exact removed none on
  | some nodeId =>
      exact (removed (some nodeId) on).refresh (fun _ same => (Option.some.inj same).symm) fixed

theorem OperationRun.books (fixed : Fixed site limit event.Given event.fleet.db)
    (spares : SparesNodes site limit event)
    (booked : Booked limit none event.fleet.db event.fleet.db)
    : Booked limit none event.fleet.db (event.result site).db := by
  obtain ⟨operation, fleet, inputs⟩ := event
  cases operation with
  | start user serverId =>
      refine ensures_result (startServer_ensures fixed booked ?_)
      intro server granted
      obtain ⟨_, rfl⟩ := Table.get?_some (getServerForUser_ok granted)
      refine (spares server granted).imp_right ?_
      rintro (room | refused)
      · exact room.staysPut fixed
      · exact refused.staysPut
  | stop user serverId => exact ensures_result (stopServer_ensures fixed booked)
  | toggle user serverId =>
      refine ensures_result (toggleServer_ensures booked ?_)
      intro server granted
      rcases spares server granted with free | ⟨stopped, refused | ⟨room, reserves⟩⟩
      · exact .inl ⟨fixed.refused free, .inl free⟩
      · exact .inl ⟨refused, .inr stopped⟩
      · exact .inr ⟨room.staysPut fixed, reserves, stopped⟩
  | autoSleep =>
      refine ensures_result (sleepServers_ensures _ fixed ⟨booked, ?_⟩)
      intro serverId member
      obtain ⟨server, idle, rfl⟩ := List.mem_map.mp member
      refine (spares server idle).imp_right ?_
      intro homeless
      unfold serverNode
      rw [Table.get?_of_mem (List.mem_filter.mp idle).1, Option.bind_some, homeless]
  | rebalance choice =>
      exact ensures_result (rebalanceServer_books ⟨booked, spares.1⟩ spares.2)
  | migrate user serverId =>
      exact ensures_result (migrateServer_books booked
        (spares.imp_right (fun light => ⟨⟨booked, light.1⟩, light.2⟩)))
  | delete user serverId deletable =>
      have prepares : Handler.Ensures site
          (OperationRun.Given ⟨.delete user serverId deletable, fleet, inputs⟩)
          (prepareDeletion user serverId)
          (fun after result => after.db = fleet.db
            ∧ ∀ nodeId, result = .ok nodeId → serverNode fleet.db serverId = nodeId) fleet :=
        prepareDeletion_ensures
      obtain ⟨same, found⟩ := ensures_result prepares
      unfold OperationRun.result
      dsimp only
      generalize (prepareDeletion user serverId).run site inputs fleet = prepared at same found ⊢
      have kept : Booked limit none fleet.db prepared.world.db := same ▸ booked
      cases ended : prepared.result with
      | error failure => exact kept
      | ok nodeId =>
          dsimp only
          split
          · have here := found nodeId ended
            rw [← same] at here
            rw [← here]
            exact removeServer_books kept (fixed inputs.head ⟨0, rfl⟩)
          · exact kept

end Steps

/-- Operations after which no node is stale. -/
def SparingStep (site : Site) (limit : Uuid → Int) (before : Fleet World)
    (event : OperationRun World) (after : Fleet World)
    : Prop :=
  OperationStep site limit before event after ∧ SparesNodes site limit event

/-- The stored memory of every node is current after each operation of a run in which every
operation spares the nodes, if it is so at the start and the limits of the servers do not change.
-/
theorem sparing_runs_stay_current {begin finish : Fleet World}
    {events : List (OperationRun World)} {now later : Instant}
    (run : Run (SparingStep site limit) begin events finish)
    (current : RamCurrent site.settings now begin.db)
    (limits : ∀ serverId, requiredRamMb site.settings begin.db now serverId = limit serverId)
    (limitsLater
      : ∀ serverId, requiredRamMb site.settings begin.db later serverId = limit serverId)
    : RamCurrent site.settings later finish.db := by
  have books : Booked limit none begin.db finish.db := by
    refine run.invariant (fun fleet => Booked limit none begin.db fleet.db) (fun _ => True) ?_
      (fun _ _ => trivial) (.ofCurrent current limits)
    intro before event after _ step booked
    obtain ⟨⟨undisturbed, fixed, rfl⟩, spares⟩ := step
    rw [← undisturbed] at fixed booked
    exact booked.trans (event.books fixed spares booked.again)
  exact books.ramCurrent limitsLater

def hostFleet : Fleet String where
  db :=
    { sampleDatabase ⟨[sampleServer 0 1 19133 .running], by simp⟩ with
      nodes := ⟨[{ sampleNode 1 8192 with usedRamMb := 2048 }], by simp⟩ }
  processes := [(1, 0)]

/-- An operation on it in which every call is answered. -/
def hostRun (operation : FleetOperation) : OperationRun String where
  operation := operation
  fleet := hostFleet
  inputs := sampleInputs []

theorem hostRun_taken (operation : FleetOperation)
    : OperationStep sampleSite (requiredRamMb {} hostFleet.db 0) hostFleet (hostRun operation)
        ((hostRun operation).result sampleSite) where
  undisturbed := rfl
  limits outside known serverId := by
    obtain ⟨index, rfl⟩ := known
    rfl
  ran := rfl

/-- The start of the same server after it has been stopped. -/
def hostRestart : OperationRun String where
  operation := .start sampleUser 0
  fleet := (hostRun (.stop sampleUser 0)).result sampleSite
  inputs := sampleInputs []

/-- The server that has been stopped finds room on its node when it is started again. -/
theorem restarted_server_stays_current
    : RamCurrent sampleSite.settings 0 (hostRestart.result sampleSite).db := by
  have stopped : SparingStep sampleSite (requiredRamMb {} hostFleet.db 0) hostFleet
      (hostRun (.stop sampleUser 0)) hostRestart.fleet :=
    ⟨hostRun_taken _, trivial⟩
  have started : SparingStep sampleSite (requiredRamMb {} hostFleet.db 0) hostRestart.fleet
      hostRestart (hostRestart.result sampleSite) := by
    refine ⟨⟨rfl, ?_, rfl⟩, ?_⟩
    · rintro outside ⟨index, rfl⟩ serverId
      rfl
    · intro server granted
      cases granted
      exact .inr (.inl ⟨{ sampleNode 1 8192 with usedRamMb := 0 }, by decide +kernel⟩)
  have current : RamCurrent sampleSite.settings 0 hostFleet.db := by decide +kernel
  exact sparing_runs_stay_current ((Run.done.next stopped).next started) current (fun _ => rfl)
    (fun _ => rfl)

/-- A toggle that stops the same server does not. -/
theorem toggled_server_leaves_stale
    : RamCurrent {} 0 hostFleet.db
      ∧ Run (OperationStep sampleSite (requiredRamMb {} hostFleet.db 0)) hostFleet
          [hostRun (.toggle sampleUser 0)]
          ((hostRun (.toggle sampleUser 0)).result sampleSite)
      ∧ ¬ RamCurrent {} 0 ((hostRun (.toggle sampleUser 0)).result sampleSite).db :=
  ⟨by decide +kernel, Run.done.next (hostRun_taken _), by decide +kernel⟩

end Blockhost.ControlPlane
