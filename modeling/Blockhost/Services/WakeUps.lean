import Blockhost.Api.RevisionRuns

/-! Who starts a deployment: requests of its owner, pushes, and visitors of the wake proxy,
next to the stops of the owner and of the sleeper. Each of the former schedules a provisioning
of its own.
-/

namespace Blockhost.WakeUps

open Library
open Deployments

-- Requests and runs

/-- Who has asked for a provisioning; a push has a token. -/
inductive Cause where
  | owner
  | visitor
deriving DecidableEq, Repr

structure Provisioning where
  cause : Cause
  session : ProvisioningRun

/-- The rows, the requests under way, the provisionings that are scheduled and in progress, the
stops between their two commits, and the looks of the sleeper that have found it running. Two
marks follow a run: that the owner has stopped the deployment and asked for no start since, and
that a visitor has started it all the same.
-/
structure Site where
  rows : Rows
  requests : List PendingRequest := []
  tasks : List Cause := []
  runs : List Provisioning := []
  stops : Nat := 0
  looks : Nat := 0
  stoppedByOwner : Bool := false
  startedByVisitor : Bool := false

/-- The steps of a provisioning after its choice of a node. -/
inductive RunStep where
  | announceBuild
  | recordBuild (imageTag : String)
  | finishBuild
  | recordBuildError (message : String)
  | startContainer
  | recordStart (container : StartedContainer) (now : Instant)
  | recordFailure (message : String)
  | drop

def RunStep.event : RunStep → DeploymentEvent
  | .announceBuild => .announceBuild 0
  | .recordBuild imageTag => .recordBuild 0 imageTag
  | .finishBuild => .finishBuild 0
  | .recordBuildError message => .recordBuildError 0 message
  | .startContainer => .startContainer 0
  | .recordStart container now => .recordStart 0 container now
  | .recordFailure message => .recordFailure 0 message
  | .drop => .dropRun 0

inductive Event where
  | openRequest (request : Request)
  | commitRequest (index : Nat) (id : Uuid) (now : Instant)
  | dropRequest (index : Nat)
  | wake
  | stop
  | endStop (loaded : DeploymentState)
  | look
  | endLook (suspends : Bool)
  | openRun (index : Nat) (node : Option Uuid)
  | abandon (index : Nat)
  | advance (index : Nat) (step : RunStep)

def Rows.withState (rows : Rows) (state : DeploymentState) : Rows :=
  { rows with deployment := { rows.deployment with state } }

/-- One step of a provisioning on the rows. The container is started again by a visitor where
the owner has stopped the deployment.
-/
def Site.advance (site : Site) (index : Nat) (step : RunStep) : Site :=
  match site.runs[index]? with
  | none => site
  | some run =>
      let after := performEvent ⟨site.rows, [], [run.session]⟩ step.event
      { site with
        rows := after.rows
        runs :=
          match after.runs with
          | [] => site.runs.eraseIdx index
          | session :: _ => site.runs.set index { run with session }
        startedByVisitor :=
          site.startedByVisitor
          || (site.stoppedByOwner && run.cause = .visitor && run.session.stage = .ready
            && step matches .startContainer) }

def perform (site : Site) : Event → Site
  | .openRequest request =>
      match openRequest site.rows request with
      | .error _ => site
      | .ok pending => { site with requests := site.requests ++ [pending] }
  | .commitRequest index id now =>
      match site.requests[index]? with
      | none => site
      | some pending =>
          let committed :=
            { site with
              rows := commitRequest pending id now site.rows
              requests := site.requests.eraseIdx index }
          if pending.added.isSome then
            { committed with tasks := site.tasks ++ [.owner], stoppedByOwner := false }
          else committed
  | .dropRequest index => { site with requests := site.requests.eraseIdx index }
  | .wake =>
      if site.rows.deployment.state = .suspended then
        { site with tasks := site.tasks ++ [.visitor] }
      else site
  | .stop =>
      { site with
        rows := Rows.withState site.rows .stopped
        stops := site.stops + 1
        stoppedByOwner := true }
  | .endStop loaded =>
      if site.stops = 0 then site
      else
        { site with
          rows :=
            Rows.withState site.rows
              (written (some loaded) .suspended site.rows.deployment.state)
          stops := site.stops - 1 }
  | .look =>
      if site.rows.deployment.state = .running then { site with looks := site.looks + 1 }
      else site
  | .endLook suspends =>
      if site.looks = 0 then site
      else
        { site with
          rows := if suspends then Rows.withState site.rows .suspended else site.rows
          looks := site.looks - 1 }
  | .openRun index node =>
      match site.tasks[index]? with
      | none => site
      | some cause =>
          let rows := Deployments.assignNode node site.rows
          { site with
            rows
            tasks := site.tasks.eraseIdx index
            runs := site.runs ++ [⟨cause, openRun rows⟩] }
  | .abandon index => { site with tasks := site.tasks.eraseIdx index }
  | .advance index step => site.advance index step

-- The law

/-- At most one provisioning is in progress, and no visitor has started what the owner stopped.
-/
structure Controlled (site : Site) : Prop where
  single : site.runs.length ≤ 1
  stopped : site.startedByVisitor = false

def scheduling (site : Site) : Nat := site.requests.countP (fun pending => pending.added.isSome)

def Quiet (site : Site) : Prop := scheduling site = 0 ∧ site.tasks = [] ∧ site.runs = []

/-- Whoever asks for a provisioning asks while there is none; a visitor who wakes the
deployment does not find it stopped by its owner, and its owner does not stop it between the
request of a visitor and the start of the container.
-/
def ClearEvent (site : Site) : Event → Prop
  | .openRequest request =>
      ∀ pending, openRequest site.rows request = .ok pending → pending.added.isSome = true
        → Quiet site
  | .wake =>
      site.rows.deployment.state = .suspended → Quiet site ∧ site.stoppedByOwner = false
  | .stop =>
      .visitor ∉ site.tasks
      ∧ ∀ run ∈ site.runs, run.cause = .visitor → run.session.stage = .started
  | _ => True

structure ClearStep (before : Site) (event : Event) (after : Site) : Prop where
  clear : ClearEvent before event
  performed : after = perform before event

-- The invariant

/-- Where the owner has stopped the deployment, what visitors have asked for has started its
container.
-/
structure Orderly (site : Site) : Prop where
  single : scheduling site + site.tasks.length + site.runs.length ≤ 1
  settled
    : site.stoppedByOwner = true → .visitor ∉ site.tasks
      ∧ ∀ run ∈ site.runs, run.cause = .visitor → run.session.stage = .started
  stopped : site.startedByVisitor = false

theorem Orderly.controlled {site : Site} (orderly : Orderly site) : Controlled site where
  single := by
    have bound := orderly.single
    omega
  stopped := orderly.stopped

/-- An item that is taken out of a list counts no more, by induction on the list. -/
theorem countP_eraseIdx {Item : Type} {items : List Item} {index : Nat} {item : Item}
    (found : items[index]? = some item) (test : Item → Bool)
    : (items.eraseIdx index).countP test + (if test item then 1 else 0) = items.countP test := by
  induction items generalizing index with
  | nil => cases found
  | cons first rest ih =>
      cases index with
      | zero =>
          cases found
          exact List.countP_cons.symm
      | succ index =>
          have shorter := ih found
          rw [List.eraseIdx_cons_succ, List.countP_cons, List.countP_cons]
          omega

theorem runStep_runs (rows : Rows) (session : ProvisioningRun) (step : RunStep)
    : (performEvent ⟨rows, [], [session]⟩ step.event).runs = []
      ∨ ∃ next, (performEvent ⟨rows, [], [session]⟩ step.event).runs = [next]
        ∧ (session.stage = .started → next.stage = .started) := by
  unfold performEvent RunStep.event
  cases step with
  | announceBuild | recordBuildError _ =>
      refine .inr ?_
      dsimp only [List.getElem?_cons_zero]
      split
      · exact ⟨session.expire, rfl, id⟩
      · exact ⟨session, rfl, id⟩
  | recordBuild _ | finishBuild =>
      refine .inr ?_
      dsimp only [List.getElem?_cons_zero]
      split
      · rename_i building
        exact ⟨_, rfl, fun started => nomatch building.symm.trans started⟩
      · exact ⟨session, rfl, id⟩
  | startContainer =>
      refine .inr ?_
      dsimp only [List.getElem?_cons_zero]
      split
      · exact ⟨_, rfl, fun _ => rfl⟩
      · exact ⟨session, rfl, id⟩
  | recordStart container now =>
      dsimp only [List.getElem?_cons_zero]
      split
      · exact .inl rfl
      · exact .inr ⟨session, rfl, id⟩
  | recordFailure _ | drop => exact .inl rfl

namespace Orderly

variable {site : Site}

theorem withRows (orderly : Orderly site) {next : Site}
    (requests : next.requests = site.requests) (tasks : next.tasks = site.tasks)
    (runs : next.runs = site.runs) (mark : next.stoppedByOwner = site.stoppedByOwner)
    (started : next.startedByVisitor = site.startedByVisitor)
    : Orderly next where
  single := by
    unfold scheduling
    rw [requests, tasks, runs]
    exact orderly.single
  settled := by
    rw [mark, tasks, runs]
    exact orderly.settled
  stopped := started.trans orderly.stopped

theorem openRequest (orderly : Orderly site) {request : Request}
    (clear : ClearEvent site (.openRequest request))
    : Orderly (perform site (.openRequest request)) := by
  unfold perform
  dsimp only
  split
  · exact orderly
  · rename_i pending opened
    refine ⟨?_, orderly.settled, orderly.stopped⟩
    have bound := orderly.single
    unfold scheduling at bound ⊢
    dsimp only
    rw [List.countP_append, List.countP_singleton]
    cases added : pending.added.isSome with
    | false => simpa using bound
    | true =>
        obtain ⟨none, noTasks, noRuns⟩ := clear pending opened added
        unfold scheduling at none
        simp [none, noTasks, noRuns]

theorem commitRequest (orderly : Orderly site) {index : Nat} {id : Uuid} {now : Instant}
    : Orderly (perform site (.commitRequest index id now)) := by
  unfold perform
  dsimp only
  split
  · exact orderly
  · rename_i pending found
    have bound := orderly.single
    have count := countP_eraseIdx found (fun pending => pending.added.isSome)
    unfold scheduling at bound
    split
    · rename_i added
      refine ⟨?_, nofun, orderly.stopped⟩
      unfold scheduling
      rw [if_pos added] at count
      rw [List.length_append, List.length_singleton]
      dsimp only
      omega
    · rename_i none
      refine ⟨?_, orderly.settled, orderly.stopped⟩
      unfold scheduling
      rw [if_neg none] at count
      dsimp only
      omega

theorem dropRequest (orderly : Orderly site) {index : Nat}
    : Orderly (perform site (.dropRequest index)) := by
  refine ⟨?_, orderly.settled, orderly.stopped⟩
  have fewer : (site.requests.eraseIdx index).countP (fun pending => pending.added.isSome)
      ≤ scheduling site :=
    (List.eraseIdx_sublist site.requests index).countP_le
  exact (Nat.add_le_add_right (Nat.add_le_add_right fewer _) _).trans orderly.single

theorem wake (orderly : Orderly site) (clear : ClearEvent site .wake)
    : Orderly (perform site .wake) := by
  unfold perform
  dsimp only
  split
  · rename_i suspended
    obtain ⟨⟨none, noTasks, noRuns⟩, started⟩ := clear suspended
    refine ⟨?_, ?_, orderly.stopped⟩
    · unfold scheduling at none ⊢
      simp [none, noTasks, noRuns]
    · intro marked
      cases started.symm.trans marked
  · exact orderly

theorem stop (orderly : Orderly site) (clear : ClearEvent site .stop)
    : Orderly (perform site .stop) :=
  ⟨orderly.single, fun _ => clear, orderly.stopped⟩

theorem openRun (orderly : Orderly site) {index : Nat} {node : Option Uuid}
    : Orderly (perform site (.openRun index node)) := by
  unfold perform
  dsimp only
  split
  · exact orderly
  · rename_i cause found
    have bound := orderly.single
    obtain ⟨inside, _⟩ := List.getElem?_eq_some_iff.mp found
    have length := List.length_eraseIdx_of_lt inside
    refine ⟨?_, ?_, orderly.stopped⟩
    · unfold scheduling at bound ⊢
      rw [length, List.length_append, List.length_singleton]
      dsimp only
      omega
    · intro marked
      obtain ⟨owners, started⟩ := orderly.settled marked
      refine ⟨fun member => owners (List.mem_of_mem_eraseIdx member), ?_⟩
      intro run member visiting
      rcases List.mem_append.mp member with earlier | added
      · exact started run earlier visiting
      · cases List.mem_singleton.mp added
        exact absurd (visiting ▸ List.mem_of_getElem? found) owners

theorem abandon (orderly : Orderly site) {index : Nat}
    : Orderly (perform site (.abandon index)) where
  single := by
    have fewer := List.length_eraseIdx_le site.tasks index
    have bound := orderly.single
    unfold scheduling at bound ⊢
    unfold perform
    dsimp only
    omega
  settled marked :=
    (orderly.settled marked).imp_left fun owners member =>
      owners (List.mem_of_mem_eraseIdx member)
  stopped := orderly.stopped

theorem advance (orderly : Orderly site) {index : Nat} {step : RunStep}
    : Orderly (perform site (.advance index step)) := by
  unfold perform Site.advance
  dsimp only
  split
  · exact orderly
  · rename_i run found
    have bound := orderly.single
    have member := List.mem_of_getElem? found
    refine ⟨?_, ?_, ?_⟩
    · unfold scheduling at bound ⊢
      dsimp only
      rcases runStep_runs site.rows run.session step with ended | ⟨next, going, _⟩
      · rw [ended]
        have fewer := List.length_eraseIdx_le site.runs index
        dsimp only
        omega
      · rw [going]
        dsimp only
        rw [List.length_set]
        exact bound
    · intro marked
      obtain ⟨owners, started⟩ := orderly.settled marked
      refine ⟨owners, ?_⟩
      rcases runStep_runs site.rows run.session step with ended | ⟨next, going, stays⟩
      · dsimp only
        rw [ended]
        exact fun other left => started other (List.mem_of_mem_eraseIdx left)
      · dsimp only
        rw [going]
        intro other left visiting
        rcases List.mem_or_eq_of_mem_set left with earlier | rfl
        · exact started other earlier visiting
        · exact stays (started run member visiting)
    · dsimp only
      rw [orderly.stopped, Bool.false_or]
      cases marked : site.stoppedByOwner with
      | false => rfl
      | true =>
          by_cases visiting : run.cause = .visitor
          · have started := (orderly.settled marked).2 run member visiting
            simp [started]
          · simp [visiting]

theorem step (orderly : Orderly site) {event : Event} {next : Site}
    (taken : ClearStep site event next)
    : Orderly next := by
  rw [taken.performed]
  cases event with
  | openRequest request => exact orderly.openRequest taken.clear
  | commitRequest index id now => exact orderly.commitRequest
  | dropRequest index => exact orderly.dropRequest
  | wake => exact orderly.wake taken.clear
  | stop => exact orderly.stop taken.clear
  | endStop loaded =>
      unfold perform
      dsimp only
      split
      · exact orderly
      · exact orderly.withRows rfl rfl rfl rfl rfl
  | look =>
      unfold perform
      dsimp only
      split
      · exact orderly.withRows rfl rfl rfl rfl rfl
      · exact orderly
  | endLook suspends =>
      unfold perform
      dsimp only
      split
      · exact orderly
      · exact orderly.withRows rfl rfl rfl rfl rfl
  | openRun index node => exact orderly.openRun
  | abandon index => exact orderly.abandon
  | advance index step => exact orderly.advance

end Orderly

-- All runs

/-- In every run of clear events from a site at rest, at most one provisioning is in progress,
and no visitor starts what the owner has stopped.
-/
theorem clear_runs_stay_controlled {start finish : Site} {events : List Event}
    (quiet : Quiet start) (fresh : start.startedByVisitor = false)
    (run : Run ClearStep start events finish)
    : Controlled finish := by
  obtain ⟨noRequests, noTasks, noRuns⟩ := quiet
  have initial : Orderly start := by
    refine ⟨?_, fun _ => ?_, fresh⟩
    · rw [noRequests, noTasks, noRuns]
      exact Nat.zero_le 1
    · rw [noTasks, noRuns]
      exact ⟨List.not_mem_nil, fun _ member => absurd member List.not_mem_nil⟩
  exact (run.invariant Orderly (fun _ => True) (fun _ taken orderly => orderly.step taken)
    (fun _ _ => trivial) initial).controlled

private def runningSite : Site where
  rows :=
    { deployment :=
        { id := 0, ownerId := 1, nodeId := some 1, state := .running, volumePath := "" }
      revisions := [] }

/-- The sleeper suspends the deployment, and one visitor wakes it up. -/
theorem one_visitor_wakes
    : ∃ finish,
        Run ClearStep runningSite
          [.look, .endLook true, .wake, .openRun 0 none, .advance 0 .startContainer,
            .advance 0 (.recordStart ⟨some "c", some 31000⟩ 0)] finish
        ∧ Controlled finish ∧ finish.rows.deployment.state = .running := by
  have run : Run ClearStep runningSite
      [.look, .endLook true, .wake, .openRun 0 none, .advance 0 .startContainer,
        .advance 0 (.recordStart ⟨some "c", some 31000⟩ 0)] _ :=
    .cons ⟨trivial, rfl⟩ <| .cons ⟨trivial, rfl⟩ <|
      .cons ⟨fun _ => ⟨⟨rfl, rfl, rfl⟩, rfl⟩, rfl⟩ <| .cons ⟨trivial, rfl⟩ <|
      .cons ⟨trivial, rfl⟩ <| .single ⟨trivial, rfl⟩
  exact ⟨_, run, clear_runs_stay_controlled ⟨rfl, rfl, rfl⟩ rfl run, rfl⟩

/-- A page that reloads starts a second provisioning, and a page of a stopped deployment starts
it again.
-/
theorem visitors_wake_twice_and_wake_stopped
    : (∃ finish,
        Run (fun before event after => after = perform before event) runningSite
          [.look, .endLook true, .wake, .wake, .openRun 0 none, .openRun 0 none] finish
        ∧ ¬ Controlled finish)
      ∧ ∃ finish,
        Run (fun before event after => after = perform before event) runningSite
          [.stop, .endStop .stopped, .wake, .openRun 0 none, .advance 0 .startContainer] finish
        ∧ ¬ Controlled finish := by
  refine ⟨⟨_, .of_foldl fun _ _ => rfl, fun controlled => ?_⟩, _,
    .of_foldl fun _ _ => rfl, fun controlled => ?_⟩
  · exact absurd controlled.single (by decide)
  · exact absurd controlled.stopped (by decide)

end Blockhost.WakeUps
