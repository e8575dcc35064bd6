import Blockhost.Api.HeartbeatScope
import Blockhost.Orchestrator.OperationHandlers
import Mathlib

/-! Passes of the auto-sleeper beside heartbeats and console commands. A pass queries the idle
servers once and stops them one after the other; in between every commit of the others counts.
-/

namespace Blockhost.AutoSleeper

open Library
open ControlPlane (idleServers idleTimeoutMinutes)

-- Interleavings

/-- The committed rows, the time, and what each pass under way has still to stop. -/
structure SleepWorld where
  db : Database
  clock : Instant
  passes : List (List Uuid) := []

/-- A server that a pass under way has still to stop. -/
def SleepWorld.Pending (world : SleepWorld) (serverId : Uuid) : Prop :=
  ∃ pass ∈ world.passes, serverId ∈ pass

/-- Time passes, a pass makes its query, stops the next server or ends early, a node sends a
message, a command reaches a console, or something else is committed. A request for files and a
start record activity as a command does.
-/
inductive SleepEvent where
  | wait (elapsed : Nat)
  | beginPass
  | stop (index : Nat) (stopped : Bool)
  | endPass (index : Nat)
  | message (nodeId : Uuid) (message : Option Json)
  | command (serverId : Uuid)
  | other

def seenAt (now : Instant) (server : Server) : Server := { server with lastActivity := now }

def touchServer (now : Instant) : Change Server.id where
  apply := seenAt now

/-- The rows after a server has been stopped. The session holds the new state back until the
commit, so the memory of the node is computed before.
-/
def sleepServer (settings : Settings) (now : Instant) (serverId : Uuid) (db : Database)
    : Database :=
  let refreshed :=
    match (db.servers.get? serverId).bind Server.nodeId with
    | none => db
    | some nodeId => refreshNodeAllocatedRam settings now nodeId db
  changeServer serverId (setServerState .suspended) refreshed

/-- A stop that fails is rolled back, and the pass goes on. All else that is committed leaves
players and activity alone, and new servers have new identifiers.
-/
inductive SleepStep (functions : SessionFunctions) (settings : Settings)
    : SleepWorld → SleepEvent → SleepWorld → Prop where
  | wait {world : SleepWorld} {elapsed : Nat}
      : SleepStep functions settings world (.wait elapsed)
          { world with clock := world.clock + elapsed }
  | beginPass {world : SleepWorld}
      : SleepStep functions settings world .beginPass
          { world with
            passes := world.passes ++ [(idleServers world.clock world.db).map Server.id] }
  | stop {world : SleepWorld} {index : Nat} {stopped : Bool} {serverId : Uuid}
      {rest : List Uuid} (next : world.passes[index]? = some (serverId :: rest))
      : SleepStep functions settings world (.stop index stopped)
          { world with
            db := if stopped then sleepServer settings world.clock serverId world.db else world.db
            passes := world.passes.set index rest }
  | endPass {world : SleepWorld} {index : Nat}
      : SleepStep functions settings world (.endPass index)
          { world with passes := world.passes.set index [] }
  | message {world : SleepWorld} {nodeId : Uuid} {message : Option Json}
      : SleepStep functions settings world (.message nodeId message)
          { world with
            db := afterMessage functions settings nodeId (world.clock, message) world.db }
  | command {world : SleepWorld} {serverId : Uuid}
      : SleepStep functions settings world (.command serverId)
          { world with db := changeServer serverId (touchServer world.clock) world.db }
  | other {world : SleepWorld} {db : Database}
      (rows
        : ∀ id server, db.servers.get? id = some server
          → (∃ before, world.db.servers.get? id = some before
            ∧ server.playersOnline = before.playersOnline
            ∧ server.lastActivity = before.lastActivity)
            ∨ ¬ world.Pending id)
      : SleepStep functions settings world .other { world with db }

-- Activity

/-- A row shows players, or activity within the idle threshold. -/
def Active (now : Instant) (server : Server) : Prop :=
  0 < server.playersOnline ∨ now - seconds (idleTimeoutMinutes * 60) ≤ server.lastActivity

/-- Whichever server a pass stops next, its committed row shows no activity. -/
def StopsIdle (world : SleepWorld) : Prop :=
  ∀ (index : Nat) (serverId : Uuid) (rest : List Uuid),
    world.passes[index]? = some (serverId :: rest)
    → ∀ server, world.db.servers.get? serverId = some server → ¬ Active world.clock server

/-- A heartbeat that is applied reports no players of a server that waits for its stop, and no
command goes to such a server.
-/
def Quiet (functions : SessionFunctions) (world : SleepWorld) : SleepEvent → Prop
  | .message nodeId message =>
      ∀ stats ∈ heartbeatStats nodeId message world.db,
        Readable functions nodeId stats world.db
        → ∀ running ∈ runningReports stats, ∀ serverId, world.Pending serverId
          → ∀ count ∈ reportsOf running serverId, count.positive? ≠ some true
  | .command serverId => ¬ world.Pending serverId
  | _ => True

def QuietStep (functions : SessionFunctions) (settings : Settings) (before : SleepWorld)
    (event : SleepEvent) (after : SleepWorld)
    : Prop :=
  SleepStep functions settings before event after ∧ Quiet functions before event

-- Rows

variable {functions : SessionFunctions} {settings : Settings}

/-- A row shows no more players and no later activity than before. -/
structure Calmer (before after : Server) : Prop where
  players : after.playersOnline ≤ max 0 before.playersOnline
  activity : after.lastActivity = before.lastActivity

theorem Calmer.trans {before middle after : Server} (first : Calmer before middle)
    (second : Calmer middle after)
    : Calmer before after where
  players := second.players.trans (max_le (le_max_left _ _) first.players)
  activity := second.activity.trans first.activity

theorem Calmer.inactive {now : Instant} {before after : Server} (calmer : Calmer before after)
    (inactive : ¬ Active now before)
    : ¬ Active now after := by
  rintro (shown | recent)
  · have some : 0 < max 0 before.playersOnline := lt_of_lt_of_le shown calmer.players
    exact inactive (.inl ((lt_max_iff.mp some).resolve_left (lt_irrefl 0)))
  · exact inactive (.inr (calmer.activity ▸ recent))

theorem Active.earlier {now : Instant} {elapsed : Nat} {server : Server}
    (active : Active (now + elapsed) server)
    : Active now server := by
  refine active.imp_right (le_trans ?_)
  exact Int.sub_le_sub_right (Int.le_add_of_nonneg_right (Int.natCast_nonneg elapsed)) _

theorem idleServers_inactive {now : Instant} {db : Database} {server : Server}
    (idle : server ∈ idleServers now db)
    : ¬ Active now server := by
  have found := (List.mem_filter.mp idle).2
  simp only [Bool.and_eq_true, decide_eq_true_eq] at found
  obtain ⟨⟨_, none⟩, past⟩ := found
  rintro (shown | recent)
  · exact absurd shown (not_lt_of_ge (le_of_eq none))
  · exact absurd past (Int.not_lt.mpr recent)

theorem countAll_calmer (functions : SessionFunctions) (now : Instant) {running : Fields}
    {server : Server} (calm : ∀ count ∈ reportsOf running server.id, count.positive? ≠ some true)
    : Calmer server ((countAll functions now running).apply server) := by
  rw [countAll_apply]
  constructor
  · dsimp only
    cases last : (reportsOf running server.id).getLast? with
    | none => exact le_max_right _ _
    | some count =>
        have quiet := calm count (List.mem_of_getLast? last)
        simp [reportedPlayers, quiet]
  · refine if_neg ?_
    rw [List.any_eq_true]
    rintro ⟨count, member, positive⟩
    exact calm count member (by simpa using positive)

theorem applyHeartbeat_calmer {now : Instant} {nodeId serverId : Uuid} {stats running : Fields}
    {db next : Database} {server : Server}
    (applied : applyHeartbeat functions settings now nodeId stats db = .ok next)
    (reported : runningReports stats = some running)
    (calm : ∀ count ∈ reportsOf running serverId, count.positive? ≠ some true)
    (found : next.servers.get? serverId = some server)
    : ∃ before, db.servers.get? serverId = some before ∧ Calmer before server := by
  obtain ⟨totalRamMb, cpuUsagePercent, cpuCores, counted, own, reports, read, _, done, applied⟩ :=
    applyHeartbeat_parts applied
  cases reported.symm.trans read
  have finished := reportDeployments_servers applied
  have players := reportPlayers_servers done
  let reset : Change Server.id :=
    Change.when { apply := fun server => { server with playersOnline := 0 } }
      (fun server => server.nodeId = some nodeId)
  let suspend : Change Server.id :=
    suspendServer.when (fun server =>
      server.nodeId = some nodeId && server.state.reservesRam
        && server.id ∉ reportedServers running)
  have rows : next.servers.get? serverId
      = (((db.servers.get? serverId).map reset.apply).map
          (countAll functions now running).apply).map suspend.apply := by
    rw [finished]
    change (counted.servers.update suspend).get? serverId = _
    rw [Table.get?_update, players, Table.get?_update]
    change (((db.servers.update reset).get? serverId).map _).map _ = _
    rw [Table.get?_update]
  rw [rows, Option.map_map, Option.map_map] at found
  obtain ⟨before, stored, rfl⟩ := Option.map_eq_some_iff.mp found
  refine ⟨before, stored, ?_⟩
  have emptied : Calmer before (reset.apply before) := by
    by_cases home : before.nodeId = some nodeId
    · rw [show reset.apply before = { before with playersOnline := 0 } from
        if_pos (decide_eq_true home)]
      exact ⟨le_max_left _ _, rfl⟩
    · rw [show reset.apply before = before from if_neg (by simpa using home)]
      exact ⟨le_max_right _ _, rfl⟩
  have named : (reset.apply before).id = serverId := by
    rw [reset.kept, (Table.get?_some stored).2]
  have counted : Calmer (reset.apply before)
      ((countAll functions now running).apply (reset.apply before)) :=
    countAll_calmer functions now (by rw [named]; exact calm)
  refine (emptied.trans counted).trans ?_
  dsimp only [Function.comp_apply, suspend, Change.when]
  split <;> exact ⟨le_max_right _ _, rfl⟩

theorem afterMessage_calmer {now : Instant} {nodeId serverId : Uuid} {message : Option Json}
    {db : Database} {server : Server}
    (quiet
      : ∀ stats ∈ heartbeatStats nodeId message db, Readable functions nodeId stats db
        → ∀ running ∈ runningReports stats,
          ∀ count ∈ reportsOf running serverId, count.positive? ≠ some true)
    (found
      : (afterMessage functions settings nodeId (now, message) db).servers.get? serverId
        = some server)
    : ∃ before, db.servers.get? serverId = some before ∧ Calmer before server := by
  rcases afterMessage_cases functions settings nodeId (now, message) db with
    ⟨stats, next, sent, applied, after⟩ | ⟨_, after⟩
  · rw [after] at found
    have readable := applyHeartbeat_succeeds_iff.mp ⟨next, applied⟩
    obtain ⟨running, reported, _⟩ := readable.running
    exact applyHeartbeat_calmer applied reported (quiet stats sent readable running reported) found
  · rw [after] at found
    exact ⟨server, found, le_max_right _ _, rfl⟩

theorem sleepServer_servers (settings : Settings) (now : Instant) (serverId : Uuid)
    (db : Database)
    : (sleepServer settings now serverId db).servers
      = db.servers.modify serverId (setServerState .suspended) := by
  unfold sleepServer
  cases (db.servers.get? serverId).bind Server.nodeId <;> rfl

theorem sleepServer_calmer {now : Instant} {stopped serverId : Uuid} {db : Database}
    {server : Server}
    (found : (sleepServer settings now stopped db).servers.get? serverId = some server)
    : ∃ before, db.servers.get? serverId = some before ∧ Calmer before server := by
  rw [sleepServer_servers, Table.get?_modify] at found
  split at found
  · obtain ⟨before, stored, rfl⟩ := Option.map_eq_some_iff.mp found
    exact ⟨before, stored, le_max_right _ _, rfl⟩
  · exact ⟨server, found, le_max_right _ _, rfl⟩

-- Runs

/-- Every server that waits for its stop shows no activity. -/
def Rested (world : SleepWorld) : Prop :=
  ∀ serverId, world.Pending serverId
    → ∀ server, world.db.servers.get? serverId = some server → ¬ Active world.clock server

theorem Rested.stopsIdle {world : SleepWorld} (rested : Rested world) : StopsIdle world := by
  intro index serverId rest next server found
  exact rested serverId ⟨_, List.mem_of_getElem? next, List.mem_cons_self⟩ server found

theorem Rested.of_calmer {before after : SleepWorld} (rested : Rested before)
    (waiting : ∀ serverId, after.Pending serverId → before.Pending serverId)
    (clock : after.clock = before.clock)
    (calmer
      : ∀ serverId, before.Pending serverId
        → ∀ server, after.db.servers.get? serverId = some server
        → ∃ row, before.db.servers.get? serverId = some row ∧ Calmer row server)
    : Rested after := by
  intro serverId pending server found
  have waited := waiting serverId pending
  obtain ⟨row, stored, calm⟩ := calmer serverId waited server found
  rw [clock]
  exact calm.inactive (rested serverId waited row stored)

theorem pending_of_set {world : SleepWorld} {db : Database} {index : Nat} {rest : List Uuid}
    {serverId : Uuid} (shorter : serverId ∈ rest → world.Pending serverId)
    (pending
      : SleepWorld.Pending { world with db, passes := world.passes.set index rest } serverId)
    : world.Pending serverId := by
  obtain ⟨pass, member, listed⟩ := pending
  rcases List.mem_or_eq_of_mem_set member with old | rfl
  · exact ⟨pass, old, listed⟩
  · exact shorter listed

theorem QuietStep.rested {before after : SleepWorld} {event : SleepEvent}
    (step : QuietStep functions settings before event after) (rested : Rested before)
    : Rested after := by
  obtain ⟨taken, quiet⟩ := step
  have same (serverId : Uuid) (_ : before.Pending serverId) (server : Server)
      (found : before.db.servers.get? serverId = some server)
      : ∃ row, before.db.servers.get? serverId = some row ∧ Calmer row server :=
    ⟨server, found, le_max_right _ _, rfl⟩
  cases taken with
  | wait =>
      intro serverId pending server found active
      exact rested serverId pending server found active.earlier
  | beginPass =>
      rintro serverId ⟨pass, member, listed⟩ server found
      rcases List.mem_append.mp member with old | fresh
      · exact rested serverId ⟨pass, old, listed⟩ server found
      · cases List.mem_singleton.mp fresh
        obtain ⟨idle, queried, rfl⟩ := List.mem_map.mp listed
        have stored := Table.get?_of_mem (List.mem_of_mem_filter queried)
        cases stored.symm.trans found
        exact idleServers_inactive queried
  | @stop index stopped stoppedId rest next =>
      refine rested.of_calmer (fun serverId => pending_of_set ?_) rfl ?_
      · intro listed
        exact ⟨_, List.mem_of_getElem? next, List.mem_cons_of_mem _ listed⟩
      · intro serverId pending server found
        cases stopped with
        | false => exact same serverId pending server found
        | true => exact sleepServer_calmer found
  | endPass =>
      refine rested.of_calmer (fun serverId => pending_of_set ?_) rfl same
      exact fun listed => absurd listed List.not_mem_nil
  | message =>
      refine rested.of_calmer (fun _ pending => pending) rfl ?_
      intro serverId pending server found
      refine afterMessage_calmer (fun stats sent readable running reported => ?_) found
      exact quiet stats sent readable running reported serverId pending
  | @command touched =>
      refine rested.of_calmer (fun _ pending => pending) rfl ?_
      intro serverId pending server found
      have other : serverId ≠ touched := fun same => quiet (same ▸ pending)
      change (before.db.servers.modify touched _).get? serverId = some server at found
      rw [Table.get?_modify, if_neg other] at found
      exact same serverId pending server found
  | other rows =>
      refine rested.of_calmer (fun _ pending => pending) rfl ?_
      intro serverId pending server found
      rcases rows serverId server found with ⟨row, stored, players, activity⟩ | strange
      · exact ⟨row, stored, players ▸ le_max_right _ _, activity⟩
      · exact absurd pending strange

/-- While no heartbeat with players and no command comes between the query of a pass and the stop
of the server, the passes stop only servers whose committed rows show no activity.
-/
theorem quiet_passes_stop_idle_servers {start reached : SleepWorld} {events : List SleepEvent}
    (idle : start.passes = [])
    (run : Run (QuietStep functions settings) start events reached)
    : StopsIdle reached := by
  have initial : Rested start := by
    rintro serverId ⟨pass, member, _⟩
    rw [idle] at member
    exact absurd member List.not_mem_nil
  exact (run.invariant Rested (fun _ => True) (fun _ => QuietStep.rested) (fun _ _ => trivial)
    initial).stopsIdle

def idleNode : SleepWorld where
  db :=
    { movedServer with
      servers :=
        ⟨[{ id := 5, nodeId := some 2, ownerId := 7, worldName := "lobby", state := .running,
            lastActivity := 0 }],
          by simp⟩ }
  clock := seconds 1000

def idleNodeQueried : SleepWorld :=
  { idleNode with passes := [[5]] }

def idleNodeReported (players : Int) : SleepWorld :=
  { idleNodeQueried with
    db := afterMessage plainColumns {} 2 (idleNode.clock, (reportOnServer players).2) idleNode.db }

theorem idleNode_queried : SleepStep plainColumns {} idleNode .beginPass idleNodeQueried :=
  .beginPass

theorem idleNode_reported (players : Int)
    : SleepStep plainColumns {} idleNodeQueried (.message 2 (reportOnServer players).2)
        (idleNodeReported players) :=
  .message

/-- A report without players comes between the query and the stop. -/
theorem empty_report_stops_idle_servers : StopsIdle (idleNodeReported 0) := by
  have empty : Quiet plainColumns idleNodeQueried (.message 2 (reportOnServer 0).2) := by
    intro stats sent _ running reported serverId _ count counted
    cases sent
    cases reported
    obtain ⟨report, member, named⟩ := List.mem_filterMap.mp counted
    cases List.mem_singleton.mp member
    cases (Option.ite_none_right_eq_some.mp named).2
    decide
  exact quiet_passes_stop_idle_servers rfl
    ((Run.single ⟨idleNode_queried, trivial⟩).next ⟨idleNode_reported 0, empty⟩)

/-- Three players have joined after the query: the pass stops the server under them. -/
theorem pass_stops_server_with_players
    : ¬ ∀ (functions : SessionFunctions) (settings : Settings) (start reached : SleepWorld)
        (events : List SleepEvent),
      start.passes = [] → Run (SleepStep functions settings) start events reached
      → StopsIdle reached := by
  intro safe
  have idle := safe plainColumns {} idleNode (idleNodeReported 3) _ rfl
    ((Run.single idleNode_queried).next (idleNode_reported 3))
  have shown : ((idleNodeReported 3).db.servers.get? 5).map Server.playersOnline = some 3 := by
    decide
  obtain ⟨server, found, players⟩ := Option.map_eq_some_iff.mp shown
  exact idle 0 5 [] rfl server found (.inl (by rw [players]; decide))

end Blockhost.AutoSleeper
