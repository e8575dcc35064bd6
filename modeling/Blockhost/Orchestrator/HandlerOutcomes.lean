import Blockhost.Api.ServerHandlers
import Blockhost.Library.Outcomes
import Blockhost.Orchestrator.ControlPlaneRuns

/-! What a handler ensures of the database and of the recorded migrations, whether it returns or
raises: the rules for its actions and for what it raises itself.
-/

namespace Blockhost.ControlPlane

open Library

variable {World Result Later : Type} {site : Site} {given : Outside World → Prop}
variable {post : Fleet World → Except Raised Result → Prop} {fleet : Fleet World}

abbrev Handler.Ensures (site : Site) (given : Outside World → Prop) (handler : Handler Result)
    (post : Fleet World → Except Raised Result → Prop) (fleet : Fleet World)
    : Prop :=
  Program.Ensures (controlPlane World site) given post handler fleet

theorem ensures_ask {action : FleetAction} {next : FleetAnswer action → Handler Result}
    (later : ∀ outside after answer, given outside
      → Took site action outside fleet after answer
      → (next answer).Ensures site given post after)
    : Handler.Ensures site given (ask action >>= next) post fleet :=
  fun outside known => later outside _ _ known rfl

theorem ensures_only {action : FleetAction}
    {post : Fleet World → Except Raised (FleetAnswer action) → Prop}
    (ended : ∀ outside after answer, given outside
      → Took site action outside fleet after answer → post after (.ok answer))
    : Handler.Ensures site given (ask action) post fleet :=
  fun outside known => ended outside _ _ known rfl

theorem ensures_raising {outcome : Except Raised Later} {next : Later → Handler Result}
    (raised : ∀ failure, outcome = .error failure → post fleet (.error failure))
    (returned : ∀ value, outcome = .ok value → (next value).Ensures site given post fleet)
    : Handler.Ensures site given (raising outcome >>= next) post fleet := by
  cases outcome with
  | error failure => exact raised failure rfl
  | ok value => exact returned value rfl

theorem ensures_existing {Row : Type} {found : Option Row} {next : Row → Handler Result}
    (missing : found = none → post fleet (.error .exception))
    (present : ∀ row, found = some row → (next row).Ensures site given post fleet)
    : Handler.Ensures site given (existing found >>= next) post fleet := by
  cases found with
  | none => exact missing rfl
  | some row => exact present row rfl

theorem settle_ask {inputs : FleetAction → Outside World} {action : FleetAction}
    {next : FleetAnswer action → Handler Result}
    : (ask action >>= next).settle (controlPlane World site) inputs fleet
      = (next (controlPlane World site action (inputs action) fleet).2).settle
          (controlPlane World site) inputs
          (controlPlane World site action (inputs action) fleet).1 :=
  rfl

-- Actions

variable {outside : Outside World} {before after : Fleet World} {serverId nodeId : Uuid}

/-- The database is written so, and no migration is recorded. -/
structure Records (before after : Fleet World) (db : Database) : Prop where
  db : after.db = db
  migrationTimes : after.migrationTimes = before.migrationTimes

theorem Wrote.records {db : Database} (wrote : Wrote before after db) : Records before after db :=
  ⟨wrote.db, wrote.migrationTimes⟩

theorem serveRequest_migrationTimes (freshWorld : World) (nodeId : Uuid) (fleet : Fleet World)
    (request : NodeRequest)
    : (serveRequest freshWorld nodeId fleet request).1.migrationTimes = fleet.migrationTimes := by
  cases request with
  | backup serverId => simp only [serveRequest]; split <;> rfl
  | restore serverId => simp only [serveRequest]; split <;> rfl
  | _ => rfl

theorem records_call {request : NodeRequest} {answer : Bool}
    (took : Took site (.call nodeId request) outside before after answer)
    : Records before after before.db := by
  have same : (callAgent outside.freshWorld outside.reply nodeId request
      (before.atTime outside.now)).1 = after := congrArg Prod.fst took
  refine ⟨(took_call took).db, ?_⟩
  rw [← same]
  rcases callAgent_cases outside.freshWorld outside.reply nodeId request
      (before.atTime outside.now) with ⟨_, served⟩ | ⟨_, delayed, kept⟩
  · rw [served]
    exact serveRequest_migrationTimes ..
  · rw [kept]
    rfl

theorem routeServer_migrationTimes (router : Router) (now : Instant) (serverId : Uuid)
    (fleet : Fleet World)
    : (routeServer router now serverId fleet).1.migrationTimes = fleet.migrationTimes := by
  unfold routeServer
  dsimp only
  split
  · rfl
  · split <;> rfl

theorem records_routeServer (router : Router) (now : Instant) (serverId : Uuid)
    (fleet : Fleet World)
    : Records fleet (routeServer router now serverId (fleet.atTime now)).1 fleet.db :=
  ⟨routeServer_db .., routeServer_migrationTimes ..⟩

theorem records_route {router : Router} {answer : Option Uuid}
    (took : Took site (.route router serverId) outside before after answer)
    : Records before after before.db := by
  have same : (routeServer router outside.now serverId (before.atTime outside.now)).1 = after :=
    congrArg Prod.fst took
  exact same ▸ records_routeServer router outside.now serverId before

theorem records_routeStart {router : Router} {answer : Option Uuid}
    (took : Took site (.routeStart router serverId) outside before after answer)
    : Records before after before.db := by
  have same : (routeServer router outside.now serverId (before.atTime outside.now)).1 = after :=
    congrArg Prod.fst took
  exact same ▸ records_routeServer router outside.now serverId before

theorem records_forgetRoute {router : Router} {answer : Unit}
    (took : Took site (.forgetRoute router serverId) outside before after answer)
    : Records before after before.db := by
  cases took
  exact ⟨rfl, rfl⟩

theorem Committed.cases {Error Result : Type} {outcome : Except Error (Database × Result)}
    {answer : Except Error Result} (committed : Committed before after outcome answer)
    : (∃ failure, answer = .error failure ∧ Records before after before.db)
      ∨ ∃ next result, outcome = .ok (next, result) ∧ answer = .ok result
        ∧ Records before after next := by
  cases outcome with
  | error failure => exact .inl ⟨failure, committed.1, committed.2.records⟩
  | ok stored => exact .inr ⟨_, _, rfl, committed.1, committed.2.records⟩

-- Starts

/-- A property that a start keeps up to its last transaction: only columns that concern neither
the node nor the state of the server are written.
-/
structure Steady (serverId : Uuid) (property : Fleet World → Prop) : Prop where
  records
    : ∀ {before after}, Records before after before.db → property before → property after
  change
    : ∀ {before after} {change : Change Server.id},
      (∀ server, (change.apply server).state = server.state
        ∧ (change.apply server).nodeId = server.nodeId)
      → Records before after (changeServer serverId change before.db)
      → property before → property after

/-- How a start ends: the server runs, or it still waits for its start. -/
def StartEnds (running waiting : Fleet World → Prop) (after : Fleet World)
    : Except Raised Unit → Prop
  | .ok () => running after
  | .error _ => waiting after

section Starts

variable {router : Router} {waiting running : Fleet World → Prop}

theorem startServerProcess_launches (steady : Steady serverId waiting)
    (finish : ∀ {before after}, waiting before
      → Records before after (changeServer serverId (markRunning site.settings) before.db)
      → running after)
    (holds : waiting fleet)
    : Handler.Ensures site given (startServerProcess router serverId)
        (StartEnds running waiting) fleet := by
  refine ensures_ask ?_
  intro _ fleet0 _ _ took0
  have waiting0 := steady.records (took_checkLaunch took0).2.records holds
  refine ensures_raising (fun _ _ => waiting0) ?_
  intro _ _
  refine ensures_ask ?_
  intro _ fleet1 routed _ took1
  have waiting1 := steady.records (records_routeStart took1) waiting0
  cases routed with
  | none => exact waiting1
  | some nodeId =>
      refine ensures_ask ?_
      intro _ fleet2 answered _ took2
      have waiting2 := steady.records (records_call took2) waiting1
      cases answered with
      | false => exact waiting2
      | true =>
          refine ensures_only ?_
          intro _ fleet3 _ _ took3
          exact finish waiting2 (took_finishStart took3).records

theorem prepareAndLaunch_launches {server : Server} (steady : Steady server.id waiting)
    (finish : ∀ {before after}, waiting before
      → Records before after (changeServer server.id (markRunning site.settings) before.db)
      → running after)
    (holds : waiting fleet)
    : Handler.Ensures site given (prepareAndLaunch router server) (StartEnds running waiting)
        fleet := by
  refine ensures_ask ?_
  intro outside fleet0 prepared _ took0
  rcases (took_prepare took0).cases with ⟨failure, raised, kept⟩ | ⟨next, _, stored, done, written⟩
  · subst raised
    exact steady.records kept holds
  · subst done
    cases outcome : prepareServerForStart site.settings site.serversDir outside.tests
        outside.succeeds server fleet.db with
    | error failure =>
        rw [outcome] at stored
        cases stored
    | ok db =>
        rw [outcome] at stored
        cases stored
        obtain ⟨port, _, rfl, _⟩ := prepareServerForStart_ok outcome
        have waiting0 := steady.change (fun _ => ⟨rfl, rfl⟩) written holds
        refine ensures_ask ?_
        intro _ fleet1 _ _ took1
        have waiting1 := steady.change (fun _ => ⟨rfl, rfl⟩) (took_touch took1).records waiting0
        have launches : Handler.Ensures site given
            (do
              ask (.forgetRoute router server.id)
              startServerProcess router server.id)
            (StartEnds running waiting) fleet1 := by
          refine ensures_ask ?_
          intro _ fleet2 _ _ took2
          exact startServerProcess_launches steady finish
            (steady.records (records_forgetRoute took2) waiting1)
        refine launches.handle (fun _ _ launched => launched) ?_
        intro world failure still
        cases failure <;> exact still

theorem doStartServer_launches {server : Server} (steady : Steady server.id waiting)
    (finish : ∀ {before after}, waiting before
      → Records before after (changeServer server.id (markRunning site.settings) before.db)
      → running after)
    (stays : ∀ outside next check, given outside
      → checkStartNode site.settings outside.now server fleet.db = .ok (next, check)
      → next = fleet.db ∧ check = .stays)
    (holds : waiting fleet)
    : Handler.Ensures site given (doStartServer site router server) (StartEnds running waiting)
        fleet := by
  refine ensures_ask ?_
  intro outside fleet0 checked known took0
  rcases (took_checkNode took0).cases with ⟨failure, raised, kept⟩
    | ⟨next, check, stored, done, written⟩
  · subst raised
    exact steady.records kept holds
  · subst done
    obtain ⟨rfl, rfl⟩ := stays outside next check known stored
    exact prepareAndLaunch_launches steady finish (steady.records written holds)

end Starts

end Blockhost.ControlPlane
