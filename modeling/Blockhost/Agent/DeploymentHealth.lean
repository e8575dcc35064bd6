import Blockhost.Database.Schema
import Blockhost.Library.Json
import Blockhost.Library.Numerals
import Blockhost.Runtime.DockerRuntime

/-! The agent's health loop over the containers of deployments. A pass looks at every running
container, keeps a record for its deployment and may stop it.
-/

namespace Blockhost.DeploymentHealth

open Library
open DockerRuntime (given labelStorageLimit)

-- Inspections

structure InspectResult where
  attrs : Fields
  labels : List (String × String)
  restartCount : Nat
  counted : Fields.lookup? attrs "RestartCount" = some (.int restartCount)
  uncounted
    : ∀ state, Fields.lookup? attrs "State" = some (.object state)
      → Fields.lookup? state "RestartCount" = none

/-- `attrs.get("State", {})`, of which only an object has members. -/
def stateOf (attrs : Fields) : Option Fields :=
  match Fields.lookup? attrs "State" with
  | none => some []
  | some state => state.fields?

/-- `int(state.get("RestartCount", 0))` -/
def restartCountOf (state : Fields) : Except Json.IntFailure Int :=
  ((Fields.lookup? state "RestartCount").getD (.int 0)).toInt (fun text => parseInt text.toList)

/-- The directory of a deployment: none below the root, one that is not measured, or its bytes.
-/
inductive Volume where
  | absent
  | unmeasured
  | measured (bytes : Nat)
deriving DecidableEq, Repr

/-- What a look at a container meets; an inspection that raises has no result. -/
structure Look where
  inspected : Option InspectResult
  volume : Volume := .absent

def overQuota (labels : List (String × String)) (volume : Volume) : Bool :=
  match (given (labels.lookup labelStorageLimit)).bind (fun limit => parseInt limit.toList),
      volume with
  | some storageLimitMb, .measured bytes => storageLimitMb < bytes / (1024 * 1024)
  | _, _ => false

-- The loop

inductive HealthStatus where
  | unknown
  | healthy
  | unhealthy
  | crashLoop
  | quotaExceeded
deriving DecidableEq, Repr

structure Health where
  status : HealthStatus := .unknown
  restartCount : Int := 0
  lastHealthyAt : Option Instant := none
  consecutiveFailures : Nat := 0
deriving DecidableEq, Repr

def Health.fail (health : Health) : Health :=
  { health with status := .unhealthy, consecutiveFailures := health.consecutiveFailures + 1 }

/-- A container that runs, by its number of restarts; also whether it is stopped. With three or
less the look raises after the reset, at the time of it: `datetime` is not imported. So the quota
is not looked at.
-/
def checkRestarts (restarts : Int) (health : Health) : Health × Bool :=
  let counted := { health with restartCount := restarts }
  if 3 < restarts then
    if 3 ≤ health.consecutiveFailures + 1 then
      ({ counted.fail with status := .crashLoop }, true)
    else (counted.fail, false)
  else ({ counted with status := .healthy, consecutiveFailures := 0 }.fail, false)

/-- One look at a container. Whatever raises counts as a failure. -/
def checkContainer (look : Look) (health : Health) : Health × Bool :=
  match look.inspected with
  | none => (health.fail, false)
  | some result =>
      match stateOf result.attrs with
      | none => (health.fail, false)
      | some state =>
          if (Fields.get state "Running").truthy then
            match restartCountOf state with
            | .error _ => (health.fail, false)
            | .ok restarts => checkRestarts restarts health
          else (health.fail, false)

/-- A container of the list, with the label and the status that it is listed with. -/
structure Listed where
  deploymentId : Option String
  state : String
  look : Look

/-- The records that the agent keeps and sends with its heartbeats. -/
abbrev Records := String → Option Health

/-- What a look leaves for a deployment, and whether it called for its stop. -/
structure Report where
  deploymentId : String
  health : Health
  stopped : Bool

/-- The deployment whose record a listed container changes. -/
def Listed.checked (listed : Listed) : Option String :=
  if listed.state = "running" then given listed.deploymentId else none

def visit (listed : Listed) (records : Records) : Records × List Report :=
  match listed.checked with
  | none => (records, [])
  | some deploymentId =>
      let (health, stopped) := checkContainer listed.look ((records deploymentId).getD {})
      (Function.update records deploymentId (some health), [{ deploymentId, health, stopped }])

def visitAll : List Listed → Records → Records × List Report
  | [], records => (records, [])
  | listed :: rest, records =>
      let (next, reports) := visit listed records
      let (last, later) := visitAll rest next
      (last, reports ++ later)

/-- A pass, by what it lists; a list that raises has none. -/
abbrev Pass := Option (List Listed)

/-- `_health_check_loop` -/
def healthCheckLoop : List Pass → Records → Records × List Report
  | [], records => (records, [])
  | pass :: passes, records =>
      let (next, reports) := visitAll (pass.getD []) records
      let (last, later) := healthCheckLoop passes next
      (last, reports ++ later)

-- What the reports should be

def Look.running (look : Look) : Option InspectResult :=
  look.inspected.filter (fun result =>
    (stateOf result.attrs).any (fun state => (Fields.get state "Running").truthy))

def Look.Crashing (look : Look) : Prop :=
  ∃ result, look.running = some result ∧ 3 < result.restartCount

def Look.Unhealthy (look : Look) : Prop := look.running = none ∨ look.Crashing

/-- A look with too many restarts after two or more unhealthy ones. -/
def CrashDue (earlier : List Look) (look : Look) : Prop :=
  look.Crashing
  ∧ ∃ front second last,
      earlier = front ++ [second, last] ∧ second.Unhealthy ∧ last.Unhealthy

def FirstCrashDue (earlier : List Look) (look : Look) : Prop :=
  CrashDue earlier look
  ∧ ∀ front other rest, earlier = front ++ other :: rest → ¬ CrashDue front other

structure Right (earlier : List Look) (look : Look) (report : Report) : Prop where
  crashLoop : report.health.status = .crashLoop ↔ FirstCrashDue earlier look
  crashStopped : FirstCrashDue earlier look → report.stopped = true
  healthy
    : ∀ result, look.running = some result → result.restartCount ≤ 3
      → overQuota result.labels look.volume = false
      → report.health.status = .healthy ∧ report.health.consecutiveFailures = 0
  quotaExceeded
    : ∀ result, look.running = some result → overQuota result.labels look.volume = true
      → report.health.status = .quotaExceeded ∧ report.stopped = true

def looksAmong (deploymentId : String) (containers : List Listed) : List Look :=
  containers.filterMap (fun listed =>
    if listed.checked = some deploymentId then some listed.look else none)

def looksOf (deploymentId : String) (passes : List Pass) : List Look :=
  passes.flatMap (fun pass => looksAmong deploymentId (pass.getD []))

def about (deploymentId : String) (reports : List Report) : List Report :=
  reports.filter (fun report => report.deploymentId = deploymentId)

def reportsOf (deploymentId : String) (passes : List Pass) : List Report :=
  about deploymentId (healthCheckLoop passes (fun _ => none)).2

def Exact (deploymentId : String) (passes : List Pass) : Prop :=
  List.length (reportsOf deploymentId passes) = (looksOf deploymentId passes).length
  ∧ ∀ earlier look later, looksOf deploymentId passes = earlier ++ look :: later
    → ∀ report ∈ (reportsOf deploymentId passes)[earlier.length]?, Right earlier look report

-- One look

variable {look : Look} {result : InspectResult} {health : Health}

theorem restartCountOf_state {state : Fields} (found : stateOf result.attrs = some state)
    : restartCountOf state = .ok 0 := by
  have missing : Fields.lookup? state "RestartCount" = none := by
    unfold stateOf at found
    cases held : Fields.lookup? result.attrs "State" with
    | none =>
        rw [held] at found
        cases found
        rfl
    | some value =>
        rw [held] at found
        cases value with
        | object fields =>
            cases found
            exact result.uncounted _ held
        | null | bool | int | float | nan | infinity | text | array => cases found
  simp only [restartCountOf, missing]
  rfl

theorem running_eq_some
    : look.running = some result
      ↔ look.inspected = some result
        ∧ ∃ state, stateOf result.attrs = some state
          ∧ (Fields.get state "Running").truthy = true := by
  unfold Look.running
  rw [Option.filter_eq_some_iff, Option.any_eq_true]

/-- A look at a container that runs leaves one failure, whatever there was. -/
theorem checkContainer_running (health : Health) (seen : look.running = some result)
    : checkContainer look health
      = ({ health with restartCount := 0, consecutiveFailures := 0 }.fail, false) := by
  obtain ⟨inspected, state, found, runs⟩ := running_eq_some.mp seen
  simp only [checkContainer, inspected, found, runs, if_true, restartCountOf_state found]
  rfl

theorem checkContainer_missing (health : Health) (unseen : look.running = none)
    : checkContainer look health = (health.fail, false) := by
  unfold checkContainer
  cases inspected : look.inspected with
  | none => rfl
  | some result =>
      dsimp only
      cases found : stateOf result.attrs with
      | none => rfl
      | some state =>
          refine if_neg ?_
          intro runs
          cases unseen.symm.trans (running_eq_some.mpr ⟨inspected, state, found, runs⟩)

def Reports (look : Look) (report : Report) : Prop :=
  ∃ health,
    report.health = (checkContainer look health).1
    ∧ report.stopped = (checkContainer look health).2

/-- Every look reports its deployment unhealthy, the container running or not. -/
theorem reports_unhealthy {report : Report} (reported : Reports look report)
    : report.health.status = .unhealthy := by
  obtain ⟨health, left, _⟩ := reported
  rw [left]
  cases seen : look.running with
  | none => rw [checkContainer_missing health seen]; rfl
  | some result => rw [checkContainer_running health seen]; rfl

/-- Nothing but failures is due at a look: the container does not run, or it has restarted too
often, is within its quota and has been looked at at most once before.
-/
def FailureDue (earlier : List Look) (look : Look) : Prop :=
  ∀ result, look.running = some result
    → 3 < result.restartCount
      ∧ overQuota result.labels look.volume = false
      ∧ earlier.length < 2

theorem right_of_failureDue {earlier : List Look} {report : Report}
    (reported : Reports look report) (due : FailureDue earlier look)
    : Right earlier look report := by
  have unhealthy := reports_unhealthy reported
  have early : ¬ FirstCrashDue earlier look := by
    rintro ⟨⟨⟨result, seen, _⟩, front, second, last, rfl, _⟩, _⟩
    have few := (due result seen).2.2
    simp only [List.length_append, List.length_cons] at few
    omega
  exact {
    crashLoop := iff_of_false (by simp [unhealthy]) early
    crashStopped := fun crash => absurd crash early
    healthy := fun result seen few _ => absurd (due result seen).1 few.not_gt
    quotaExceeded := fun result seen exceeded => by
      simp [(due result seen).2.1] at exceeded
  }

/-- A right report of a running container is one of a container that has restarted too often and
is within its quota, since the other reports do not come.
-/
theorem crashing_of_right {earlier : List Look} {report : Report}
    (reported : Reports look report) (right : Right earlier look report)
    (seen : look.running = some result)
    : 3 < result.restartCount ∧ overQuota result.labels look.volume = false := by
  have unhealthy := reports_unhealthy reported
  have within : overQuota result.labels look.volume = false := by
    refine Bool.eq_false_iff.mpr fun exceeded => ?_
    simpa [unhealthy] using (right.quotaExceeded result seen exceeded).1
  refine ⟨?_, within⟩
  by_contra few
  simpa [unhealthy] using (right.healthy result seen (Nat.le_of_not_lt few) within).1

-- Runs

theorem about_append (deploymentId : String) (first second : List Report)
    : about deploymentId (first ++ second)
      = about deploymentId first ++ about deploymentId second :=
  List.filter_append _ _

theorem visit_reports (deploymentId : String) (listed : Listed) (records : Records)
    : List.Forall₂ Reports
        (if listed.checked = some deploymentId then [listed.look] else [])
        (about deploymentId (visit listed records).2) := by
  unfold visit
  cases checked : listed.checked with
  | none => exact .nil
  | some other =>
      by_cases same : other = deploymentId
      · subst same
        simp only [if_true, about, decide_true, List.filter_cons_of_pos, List.filter_nil]
        exact .cons ⟨(records other).getD {}, rfl, rfl⟩ .nil
      · simp [about, same]

/-- By induction on the containers. -/
theorem visitAll_reports (deploymentId : String) (containers : List Listed)
    (records : Records)
    : List.Forall₂ Reports (looksAmong deploymentId containers)
        (about deploymentId (visitAll containers records).2) := by
  induction containers generalizing records with
  | nil => exact .nil
  | cons listed rest ih =>
      have split
          : looksAmong deploymentId (listed :: rest)
            = (if listed.checked = some deploymentId then [listed.look] else [])
              ++ looksAmong deploymentId rest := by
        unfold looksAmong
        rw [List.filterMap_cons]
        split <;> simp_all
      unfold visitAll
      rw [about_append, split]
      exact List.rel_append (visit_reports deploymentId listed records) (ih _)

/-- By induction on the passes. -/
theorem healthCheckLoop_reports (deploymentId : String) (passes : List Pass)
    (records : Records)
    : List.Forall₂ Reports (looksOf deploymentId passes)
        (about deploymentId (healthCheckLoop passes records).2) := by
  induction passes generalizing records with
  | nil => exact .nil
  | cons pass passes ih =>
      unfold healthCheckLoop
      rw [about_append, looksOf, List.flatMap_cons]
      exact List.rel_append (visitAll_reports deploymentId _ records) (ih _)

theorem report_at {earlier later : List Look} {reports : List Report}
    (reported : List.Forall₂ Reports (earlier ++ look :: later) reports)
    : ∃ report, reports[earlier.length]? = some report ∧ Reports look report := by
  induction earlier generalizing reports with
  | nil =>
      cases reported with
      | cons first rest => exact ⟨_, rfl, first⟩
  | cons head earlier ih =>
      cases reported with
      | cons first rest => exact ih rest

theorem two_last {Item : Type} {items : List Item} (enough : 2 ≤ items.length)
    : ∃ front second last, items = front ++ [second, last] := by
  have two : (items.drop (items.length - 2)).length = 2 := by
    rw [List.length_drop]
    omega
  obtain ⟨second, last, same⟩ := List.length_eq_two.mp two
  exact ⟨items.take (items.length - 2), second, last, by rw [← same, List.take_append_drop]⟩

/-- What is due somewhere is due somewhere for the first time, by induction on what came before.
-/
theorem exists_first {Item : Type} (due : List Item → Item → Prop) (items earlier : List Item)
    (item : Item) (later : List Item) (split : items = earlier ++ item :: later)
    (found : due earlier item)
    : ∃ front first rest, items = front ++ first :: rest
        ∧ due front first
        ∧ ∀ before other after, front = before ++ other :: after → ¬ due before other := by
  induction size : earlier.length using Nat.strong_induction_on generalizing earlier item later with
  | _ size ih =>
      by_cases sooner : ∃ before other after, earlier = before ++ other :: after ∧ due before other
      · obtain ⟨before, other, after, rfl, due⟩ := sooner
        refine ih before.length ?_ before other (after ++ item :: later) ?_ due rfl
        · simp [← size]
        · simp [split]
      · refine ⟨earlier, item, later, split, found, ?_⟩
        exact fun before other after same due => sooner ⟨before, other, after, same, due⟩

/-- The health machine is exact as long as nothing but failures is due. -/
theorem health_exact_iff (deploymentId : String) (passes : List Pass)
    : Exact deploymentId passes
      ↔ ∀ earlier look later, looksOf deploymentId passes = earlier ++ look :: later
        → FailureDue earlier look := by
  have reported : List.Forall₂ Reports (looksOf deploymentId passes)
      (reportsOf deploymentId passes) := healthCheckLoop_reports deploymentId passes _
  constructor
  · intro exact_
    have rights : ∀ {earlier look later},
        looksOf deploymentId passes = earlier ++ look :: later
        → ∃ report, Reports look report ∧ Right earlier look report := by
      intro earlier look later split
      obtain ⟨report, place, reports⟩ := report_at (split ▸ reported)
      exact ⟨report, reports, exact_.2 earlier look later split report place⟩
    have crashing : ∀ {earlier look later result},
        looksOf deploymentId passes = earlier ++ look :: later → look.running = some result
        → 3 < result.restartCount ∧ overQuota result.labels look.volume = false := by
      intro earlier look later result split seen
      obtain ⟨report, reports, right⟩ := rights split
      exact crashing_of_right reports right seen
    have unhealthy : ∀ earlier look later,
        looksOf deploymentId passes = earlier ++ look :: later → look.Unhealthy := by
      intro earlier look later split
      cases seen : look.running with
      | none => exact .inl seen
      | some result => exact .inr ⟨result, seen, (crashing split seen).1⟩
    intro earlier look later split result seen
    refine ⟨(crashing split seen).1, (crashing split seen).2, ?_⟩
    -- A third look would be due to find a crash loop, and there would be a first such.
    by_contra third
    obtain ⟨front, second, last, rfl⟩ := two_last (Nat.le_of_not_lt third)
    have due : CrashDue (front ++ [second, last]) look :=
      ⟨⟨result, seen, (crashing split seen).1⟩, front, second, last, rfl,
        unhealthy front second (last :: look :: later) (by simp [split]),
        unhealthy (front ++ [second]) last (look :: later) (by simp [split])⟩
    obtain ⟨before, first, rest, same, firstDue⟩ :=
      exists_first CrashDue _ _ look later split due
    obtain ⟨report, reports, right⟩ := rights same
    simpa [reports_unhealthy reports] using right.crashLoop.mpr firstDue
  · intro due
    refine ⟨reported.length_eq.symm, ?_⟩
    intro earlier look later split report found
    obtain ⟨other, place, reports⟩ := report_at (split ▸ reported)
    cases place.symm.trans found
    exact right_of_failureDue reports (due earlier look later split)

/-- A container that runs and has never been restarted. -/
def runningResult : InspectResult where
  attrs := [("State", .object [("Running", .bool true)]), ("RestartCount", .int 0)]
  labels := []
  restartCount := 0
  counted := rfl
  uncounted := by
    intro state found
    cases found
    rfl

def runningPass : Pass :=
  some [{ deploymentId := some "shop", state := "running",
          look := { inspected := some runningResult } }]

/-- A pass over a container that is well reports it unhealthy. -/
theorem well_reported_unhealthy
    : ¬ ∀ (deploymentId : String) (passes : List Pass), Exact deploymentId passes := by
  intro allExact
  have right := (allExact "shop" [runningPass]).2 [] { inspected := some runningResult } [] rfl
    _ rfl
  cases (right.healthy runningResult rfl (by decide) rfl).1

end Blockhost.DeploymentHealth
