import Blockhost.Orchestrator.HandlerOutcomes

/-! What a start of a server comes to, as a function of the database and of what comes in from
outside: whether the runtime is called, and what is stored if the start fails.
-/

namespace Blockhost.ControlPlane

open Library

variable {World : Type} {site : Site} {inputs : FleetAction → Outside World}
variable {fleet : Fleet World} {serverId : Uuid}

/-- The call of the runtime in `start_server` of the lifecycle. -/
def callsRuntime (serverId : Uuid) : FleetAction → Bool
  | .routeStart _ started => started = serverId
  | _ => false

structure StartOutcome where
  reached : Bool
  stored : Database

def StartOutcome.failed (stored : Database) : StartOutcome := ⟨false, stored⟩

def touchServer (now : Instant) (serverId : Uuid) (db : Database) : Database :=
  changeServer serverId { apply := fun row => { row with lastActivity := now } } db

/-- The part after the choice of a node. -/
def launchOutcome (site : Site) (inputs : FleetAction → Outside World) (server : Server)
    (db : Database)
    : StartOutcome :=
  let preparing := inputs (.prepare server)
  let launching := inputs (.checkLaunch server.id)
  match prepareServerForStart site.settings site.serversDir preparing.tests preparing.succeeds
      server db with
  | .error _ => .failed db
  | .ok prepared =>
      let touched := touchServer (inputs (.touch server.id)).now server.id prepared
      ⟨(checkLaunch site.settings launching.now launching.succeeds server.id touched).isOk,
        touched⟩

/-- The part after a commit, which makes the session's copy fresh. -/
def reloadedOutcome (site : Site) (inputs : FleetAction → Outside World) (serverId : Uuid)
    (db : Database)
    : StartOutcome :=
  match db.servers.get? serverId with
  | none => .failed db
  | some server => launchOutcome site inputs server db

/-- The part of a server that looks for a node. -/
def placingOutcome (site : Site) (inputs : FleetAction → Outside World) (server : Server)
    (detached : Bool) (db : Database)
    : StartOutcome :=
  let placing := inputs (.assignNode server)
  let waking := inputs .wakeUpNode
  match assignBestNode site.settings placing.now placing.tests server db with
  | .error _ => .failed db
  | .ok (placed, true) => reloadedOutcome site inputs server.id placed
  | .ok (same, false) =>
      if site.settings.productionMode then
        .failed (autoWakeupOfflineNode waking.now waking.succeeds same).1
      else if detached then reloadedOutcome site inputs server.id same
      else launchOutcome site inputs server same

/-- `_do_start_server` -/
def startOutcome (site : Site) (inputs : FleetAction → Outside World) (server : Server)
    (db : Database)
    : StartOutcome :=
  match checkStartNode site.settings (inputs (.checkNode server)).now server db with
  | .error _ => .failed db
  | .ok (same, .stays) => launchOutcome site inputs server same
  | .ok (same, .unassigned) => placingOutcome site inputs server false same
  | .ok (next, .detached) => placingOutcome site inputs server true next

/-- How a handler ends: it calls the runtime or fails, and a failure leaves this database. Only a
server that is stored can be started.
-/
structure Ends (site : Site) (inputs : FleetAction → Outside World) (serverId : Uuid)
    (handler : Handler Unit) (fleet : Fleet World) (outcome : StartOutcome)
    : Prop where
  reached
    : handler.reaches (controlPlane World site) inputs (callsRuntime serverId) fleet
      = outcome.reached
  stored
    : ∀ failure, (handler.settle (controlPlane World site) inputs fleet).2 = .error failure
      → (handler.settle (controlPlane World site) inputs fleet).1.db = outcome.stored
  returned
    : (handler.settle (controlPlane World site) inputs fleet).2 = .ok ()
      → ∃ row, (handler.settle (controlPlane World site) inputs fleet).1.db.servers.get? serverId
        = some row
  stops
    : outcome.reached = false
      → ∃ failure, (handler.settle (controlPlane World site) inputs fleet).2 = .error failure

-- Rules

theorem ends_throw (failure : Raised)
    : Ends site inputs serverId (throw failure) fleet (.failed fleet.db) :=
  ⟨rfl, fun _ _ => rfl, nofun, fun _ => ⟨failure, rfl⟩⟩

theorem settle_took {Result : Type} {action : FleetAction}
    {next : FleetAnswer action → Handler Result} {after : Fleet World}
    {answer : FleetAnswer action} (took : Took site action (inputs action) fleet after answer)
    : (ask action >>= next).settle (controlPlane World site) inputs fleet
      = (next answer).settle (controlPlane World site) inputs after := by
  refine settle_ask.trans ?_
  rw [took]

theorem reaches_ask {action : FleetAction} {next : FleetAnswer action → Handler Unit}
    {after : Fleet World} {answer : FleetAnswer action}
    (took : Took site action (inputs action) fleet after answer)
    : (ask action >>= next).reaches (controlPlane World site) inputs (callsRuntime serverId)
          fleet
      = (callsRuntime serverId action
        || (next answer).reaches (controlPlane World site) inputs (callsRuntime serverId)
          after) := by
  have reaches : (ask action >>= next).reaches (controlPlane World site) inputs
      (callsRuntime serverId) fleet
      = (callsRuntime serverId action
        || (next (controlPlane World site action (inputs action) fleet).2).reaches
          (controlPlane World site) inputs (callsRuntime serverId)
          (controlPlane World site action (inputs action) fleet).1) := rfl
  rw [reaches, took]

theorem ends_ask {action : FleetAction} {next : FleetAnswer action → Handler Unit}
    {after : Fleet World} {answer : FleetAnswer action} {outcome : StartOutcome}
    (quiet : callsRuntime serverId action = false)
    (took : Took site action (inputs action) fleet after answer)
    (later : Ends site inputs serverId (next answer) after outcome)
    : Ends site inputs serverId (ask action >>= next) fleet outcome := by
  have settles : (ask action >>= next).settle (controlPlane World site) inputs fleet
      = (next answer).settle (controlPlane World site) inputs after :=
    settle_took took
  refine ⟨?_, ?_, ?_, ?_⟩
  · rw [reaches_ask took, quiet, Bool.false_or]
    exact later.reached
  · rw [settles]
    exact later.stored
  · rw [settles]
    exact later.returned
  · rw [settles]
    exact later.stops

theorem ends_bind {Later : Type} {first : Handler Later} {second : Later → Handler Unit}
    {middle : Fleet World} {value : Later} {outcome : StartOutcome}
    (quiet
      : first.reaches (controlPlane World site) inputs (callsRuntime serverId) fleet = false)
    (ended : first.settle (controlPlane World site) inputs fleet = (middle, .ok value))
    (later : Ends site inputs serverId (second value) middle outcome)
    : Ends site inputs serverId (first >>= second) fleet outcome := by
  have settles : (first >>= second).settle (controlPlane World site) inputs fleet
      = (second value).settle (controlPlane World site) inputs middle :=
    Program.settle_bind_ok ended
  refine ⟨?_, ?_, ?_, ?_⟩
  · rw [Program.reaches_bind_ok ended, quiet, Bool.false_or]
    exact later.reached
  · rw [settles]
    exact later.stored
  · rw [settles]
    exact later.returned
  · rw [settles]
    exact later.stops

theorem ends_bind_error {Later : Type} {first : Handler Later} {second : Later → Handler Unit}
    {middle : Fleet World} {failure : Raised}
    (quiet
      : first.reaches (controlPlane World site) inputs (callsRuntime serverId) fleet = false)
    (ended : first.settle (controlPlane World site) inputs fleet = (middle, .error failure))
    : Ends site inputs serverId (first >>= second) fleet (.failed middle.db) := by
  have settles : (first >>= second).settle (controlPlane World site) inputs fleet
      = (middle, .error failure) :=
    Program.settle_bind_error ended
  refine ⟨?_, ?_, ?_, ?_⟩
  · rw [Program.reaches_bind_error ended]
    exact quiet
  · rw [settles]
    intro _ _
    rfl
  · rw [settles]
    exact nofun
  · rw [settles]
    intro _
    exact ⟨failure, rfl⟩

theorem ends_handle {handler : Handler Unit} {recover : Raised → Handler Unit}
    (raises : ∀ failure, ∃ other, recover failure = throw other)
    {outcome : StartOutcome} (ended : Ends site inputs serverId handler fleet outcome)
    : Ends site inputs serverId (tryCatch handler recover) fleet outcome := by
  have quiet (failure : Raised) (world : Fleet World)
      : (recover failure).reaches (controlPlane World site) inputs (callsRuntime serverId) world
        = false := by
    obtain ⟨other, raised⟩ := raises failure
    rw [raised]
    rfl
  have same : (tryCatch handler recover : Handler Unit).reaches (controlPlane World site) inputs
      (callsRuntime serverId) fleet = outcome.reached :=
    (Program.reaches_handle quiet).trans ended.reached
  cases settled : handler.settle (controlPlane World site) inputs fleet with
  | mk middle result =>
      have stored := ended.stored
      have returned := ended.returned
      have stops := ended.stops
      rw [settled] at stored returned stops
      cases result with
      | ok value =>
          have kept : (tryCatch handler recover : Handler Unit).settle (controlPlane World site)
              inputs fleet = (middle, .ok value) :=
            Program.settle_handle_ok settled
          refine ⟨same, ?_, ?_, ?_⟩
          · rw [kept]
            exact stored
          · rw [kept]
            exact returned
          · rw [kept]
            exact stops
      | error failure =>
          obtain ⟨other, recovered⟩ := raises failure
          have raised : (tryCatch handler recover : Handler Unit).settle (controlPlane World site)
              inputs fleet = (middle, .error other) := by
            rw [Program.settle_handle_error settled, recovered]
            rfl
          refine ⟨same, ?_, ?_, ?_⟩
          · rw [raised]
            intro _ _
            exact stored failure rfl
          · rw [raised]
            exact nofun
          · rw [raised]
            intro _
            exact ⟨other, rfl⟩

-- The start step by step

variable {router : Router} {server : Server}

/-- A launch that fails leaves the database alone, another one the row of the server. -/
structure LaunchEnd (serverId : Uuid) (db : Database) (after : Fleet World)
    (result : Except Raised Unit)
    : Prop where
  stored : ∀ failure, result = .error failure → after.db = db
  returned : result = .ok () → ∃ row, after.db.servers.get? serverId = some row

/-- `start_server` of the lifecycle writes nothing before its last commit, and returns after it.
-/
theorem startServerProcess_launchEnd
    : Handler.Ensures site (fun _ => True) (startServerProcess router serverId)
        (LaunchEnd serverId fleet.db) fleet := by
  refine ensures_ask ?_
  intro _ checked answer _ checking
  obtain ⟨answered, wrote⟩ := took_checkLaunch checking
  refine ensures_raising (fun _ _ => ⟨fun _ _ => wrote.db, nofun⟩) ?_
  intro server passed
  have known : ∃ row, fleet.db.servers.get? serverId = some row := by
    cases found : fleet.db.servers.get? serverId with
    | some row => exact ⟨row, rfl⟩
    | none =>
        rw [passed] at answered
        unfold checkLaunch at answered
        rw [found] at answered
        cases answered
  refine ensures_ask ?_
  intro _ routed target _ routing
  have routedSame : routed.db = fleet.db := (records_routeStart routing).db.trans wrote.db
  cases target with
  | none => exact ⟨fun _ _ => routedSame, nofun⟩
  | some nodeId =>
      refine ensures_ask ?_
      intro _ called answered _ calling
      have calledSame : called.db = fleet.db := (took_call calling).db.trans routedSame
      cases answered with
      | false => exact ⟨fun _ _ => calledSame, nofun⟩
      | true =>
          refine ensures_only ?_
          intro _ finished _ _ finishing
          refine ⟨nofun, ?_⟩
          intro _
          obtain ⟨row, found⟩ := known
          rw [(took_finishStart finishing).db, calledSame]
          unfold changeServer
          rw [Table.get?_modify, if_pos rfl, found]
          exact ⟨_, rfl⟩

theorem startServerProcess_ends
    : Ends site inputs serverId (startServerProcess router serverId) fleet
        ⟨(checkLaunch site.settings (inputs (.checkLaunch serverId)).now
          (inputs (.checkLaunch serverId)).succeeds serverId fleet.db).isOk, fleet.db⟩ := by
  obtain ⟨checked, answer, took⟩ :=
    took_some site (.checkLaunch serverId) (inputs (.checkLaunch serverId)) fleet
  have launches : Handler.Ensures site (fun _ => True) (startServerProcess router serverId)
      (LaunchEnd serverId fleet.db) fleet :=
    startServerProcess_launchEnd
  obtain ⟨stored, returned⟩ := launches.settle inputs (fun _ => trivial)
  obtain ⟨answered, wrote⟩ := took_checkLaunch took
  rw [← answered]
  cases answer with
  | error failure =>
      have early : Ends site inputs serverId (startServerProcess router serverId) fleet
          (.failed checked.db) :=
        ends_ask rfl took (ends_throw failure)
      exact ⟨early.reached, stored, returned, early.stops⟩
  | ok server =>
      obtain ⟨routed, _, routing⟩ :=
        took_some site (.routeStart router serverId) (inputs (.routeStart router serverId))
          checked
      refine ⟨(reaches_ask took).trans ?_, stored, returned, nofun⟩
      refine (congrArg (callsRuntime serverId _ || ·) (reaches_ask routing)).trans ?_
      simp [callsRuntime, Except.isOk, Except.toBool]

theorem launchServer_ends
    : Ends site inputs server.id (launchServer router server) fleet
        ⟨(checkLaunch site.settings (inputs (.checkLaunch server.id)).now
          (inputs (.checkLaunch server.id)).succeeds server.id fleet.db).isOk, fleet.db⟩ := by
  obtain ⟨forgotten, _, forgetting⟩ :=
    took_some site (.forgetRoute router server.id) (inputs (.forgetRoute router server.id)) fleet
  refine ends_handle ?_ (ends_ask rfl forgetting ?_)
  · intro failure
    cases failure
    all_goals exact ⟨_, rfl⟩
  · rw [← (took_forgetRoute forgetting).1]
    exact startServerProcess_ends

theorem prepareAndLaunch_ends
    : Ends site inputs server.id (prepareAndLaunch router server) fleet
        (launchOutcome site inputs server fleet.db) := by
  obtain ⟨prepared, answer, took⟩ :=
    took_some site (.prepare server) (inputs (.prepare server)) fleet
  refine ends_ask rfl took ?_
  have committed := took_prepare took
  unfold launchOutcome
  dsimp only
  cases outcome : prepareServerForStart site.settings site.serversDir
      (inputs (.prepare server)).tests (inputs (.prepare server)).succeeds server fleet.db with
  | error failure =>
      rw [outcome] at committed
      obtain ⟨rfl, wrote⟩ := committed
      dsimp only
      rw [← wrote.db]
      exact ends_throw failure
  | ok next =>
      rw [outcome] at committed
      obtain ⟨rfl, wrote⟩ := committed
      obtain ⟨touched, _, touching⟩ :=
        took_some site (.touch server.id) (inputs (.touch server.id)) prepared
      refine ends_ask rfl touching ?_
      have stored : touched.db = touchServer (inputs (.touch server.id)).now server.id next := by
        rw [← wrote.db]
        exact (took_touch touching).db
      dsimp only
      rw [← stored]
      exact launchServer_ends

theorem reload_ends
    : Ends site inputs serverId
        (do
          let server ← existing (← ask (.loadServer serverId))
          prepareAndLaunch router server)
        fleet (reloadedOutcome site inputs serverId fleet.db) := by
  obtain ⟨loaded, answer, took⟩ :=
    took_some site (.loadServer serverId) (inputs (.loadServer serverId)) fleet
  obtain ⟨answered, wrote⟩ := took_loadServer took
  refine ends_ask rfl took ?_
  unfold reloadedOutcome
  rw [← answered, ← wrote.db]
  cases answer with
  | none => exact ends_throw .exception
  | some server =>
      have same : server.id = serverId := (Table.get?_some answered.symm).2
      subst same
      exact prepareAndLaunch_ends

theorem findNode_quiet
    : (findNode site server).reaches (controlPlane World site) inputs (callsRuntime serverId)
          fleet
      = false := by
  refine Program.reaches_of_uses (Program.Uses.bind ?_ ?_)
  · exact uses_ask rfl
  · intro answer
    refine Program.Uses.bind (uses_raising answer) ?_
    intro assigned
    dsimp only
    split
    · exact ⟨rfl, fun _ => trivial⟩
    · trivial

theorem findNode_fails {failure : Raised}
    (failed : assignBestNode site.settings (inputs (.assignNode server)).now
      (inputs (.assignNode server)).tests server fleet.db = .error failure)
    : ∃ after, (findNode site server).settle (controlPlane World site) inputs fleet
        = (after, .error failure) ∧ after.db = fleet.db := by
  obtain ⟨after, answer, took⟩ :=
    took_some site (.assignNode server) (inputs (.assignNode server)) fleet
  have committed := took_assignNode took
  rw [failed] at committed
  obtain ⟨rfl, wrote⟩ := committed
  exact ⟨after, settle_took took, wrote.db⟩

theorem findNode_assigns {placed : Database}
    (done : assignBestNode site.settings (inputs (.assignNode server)).now
      (inputs (.assignNode server)).tests server fleet.db = .ok (placed, true))
    : ∃ after, (findNode site server).settle (controlPlane World site) inputs fleet
        = (after, .ok true) ∧ after.db = placed := by
  obtain ⟨after, answer, took⟩ :=
    took_some site (.assignNode server) (inputs (.assignNode server)) fleet
  have committed := took_assignNode took
  rw [done] at committed
  obtain ⟨rfl, wrote⟩ := committed
  exact ⟨after, settle_took took, wrote.db⟩

theorem findNode_misses {same : Database}
    (missed : assignBestNode site.settings (inputs (.assignNode server)).now
      (inputs (.assignNode server)).tests server fleet.db = .ok (same, false))
    : (site.settings.productionMode = true
        → ∃ after failure, (findNode site server).settle (controlPlane World site) inputs fleet
            = (after, .error failure)
          ∧ after.db
            = (autoWakeupOfflineNode (inputs .wakeUpNode).now (inputs .wakeUpNode).succeeds
                same).1)
      ∧ (site.settings.productionMode = false
        → ∃ after, (findNode site server).settle (controlPlane World site) inputs fleet
            = (after, .ok false) ∧ after.db = same) := by
  obtain ⟨after, answer, took⟩ :=
    took_some site (.assignNode server) (inputs (.assignNode server)) fleet
  have committed := took_assignNode took
  rw [missed] at committed
  obtain ⟨rfl, wrote⟩ := committed
  refine ⟨?_, ?_⟩
  · intro production
    obtain ⟨woken, answer, waking⟩ := took_some site .wakeUpNode (inputs .wakeUpNode) after
    refine ⟨woken, noCapacity answer, (settle_took took).trans ?_, ?_⟩
    · change Program.settle _ inputs
          (if (!false && site.settings.productionMode) = true then _ else _) after
        = _
      rw [production]
      exact settle_took waking
    · rw [← wrote.db]
      cases waking
      rfl
  · intro testing
    refine ⟨after, (settle_took took).trans ?_, wrote.db⟩
    change Program.settle _ inputs
        (if (!false && site.settings.productionMode) = true then _ else _) after
      = _
    rw [testing]
    rfl

theorem placing_ends {detached : Bool} {next : Bool → Handler Unit}
    (assigned : ∀ placed : Fleet World,
      Ends site inputs server.id (next true) placed
        (reloadedOutcome site inputs server.id placed.db))
    (unassigned : ∀ same : Fleet World,
      Ends site inputs server.id (next false) same
        (if detached then reloadedOutcome site inputs server.id same.db
        else launchOutcome site inputs server same.db))
    : Ends site inputs server.id (findNode site server >>= next) fleet
        (placingOutcome site inputs server detached fleet.db) := by
  unfold placingOutcome
  dsimp only
  cases outcome : assignBestNode site.settings (inputs (.assignNode server)).now
      (inputs (.assignNode server)).tests server fleet.db with
  | error failure =>
      obtain ⟨after, settled, same⟩ := findNode_fails outcome
      exact same ▸ ends_bind_error findNode_quiet settled
  | ok stored =>
      obtain ⟨placed, found⟩ := stored
      cases found with
      | true =>
          obtain ⟨after, settled, rfl⟩ := findNode_assigns outcome
          exact ends_bind findNode_quiet settled (assigned after)
      | false =>
          obtain ⟨fails, goesOn⟩ := findNode_misses outcome
          cases mode : site.settings.productionMode with
          | true =>
              obtain ⟨after, failure, settled, woken⟩ := fails mode
              have ends : Ends site inputs server.id (findNode site server >>= next) fleet
                  (.failed after.db) :=
                ends_bind_error findNode_quiet settled
              rw [woken] at ends
              exact ends
          | false =>
              obtain ⟨after, settled, rfl⟩ := goesOn mode
              exact ends_bind findNode_quiet settled (unassigned after)

theorem doStartServer_ends
    : Ends site inputs server.id (doStartServer site router server) fleet
        (startOutcome site inputs server fleet.db) := by
  obtain ⟨checked, answer, took⟩ :=
    took_some site (.checkNode server) (inputs (.checkNode server)) fleet
  have committed := took_checkNode took
  refine ends_ask rfl took ?_
  unfold startOutcome
  cases outcome : checkStartNode site.settings (inputs (.checkNode server)).now server
      fleet.db with
  | error failure =>
      rw [outcome] at committed
      obtain ⟨rfl, wrote⟩ := committed
      dsimp only
      rw [← wrote.db]
      exact ends_throw failure
  | ok stored =>
      rw [outcome] at committed
      obtain ⟨next, check⟩ := stored
      obtain ⟨rfl, wrote⟩ := committed
      cases check with
      | stays =>
          dsimp only
          rw [← wrote.db]
          exact prepareAndLaunch_ends
      | unassigned =>
          dsimp only
          rw [← wrote.db]
          exact placing_ends (fun _ => reload_ends) (fun _ => prepareAndLaunch_ends)
      | detached =>
          dsimp only
          rw [← wrote.db]
          exact placing_ends (fun _ => reload_ends) (fun _ => reload_ends)

end Blockhost.ControlPlane
