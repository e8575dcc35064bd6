import Blockhost.Services.BillingRuns

/-! Sweeps at arbitrary times. A sweep moves a row by one stage, so what the readers see depends
on when the sweeps run.
-/

namespace Blockhost

open Library

-- Two sweeps at one time

/-- A row that has skipped its grace period: still active when the grace period is over. On
SQLite the second query takes every grace period for over.
-/
def BillingSubscription.overdue (settings : Settings) (now : Instant)
    (row : BillingSubscription)
    : Bool :=
  row.status = .active && row.expiresAt ≤ now && (settings.graceEnd row.expiresAt).all (· ≤ now)

theorem expireSubscription_twice {settings : Settings} {now : Instant}
    {row : BillingSubscription}
    : (expireSubscription settings now (expireSubscription settings now row)).status
        = (expireSubscription settings now row).status
      ↔ row.overdue settings now = false := by
  unfold BillingSubscription.overdue
  cases status : row.status with
  | active =>
      by_cases expired : row.expiresAt ≤ now
      · have moved
            : expireSubscription settings now row
              = { row with status := .gracePeriod, updatedAt := now } := by
          simp [expireSubscription, BillingSubscription.expiredActive, status, expired]
        rw [moved]
        cases ended : (settings.graceEnd row.expiresAt).all (· ≤ now) <;>
          simp [expireSubscription, BillingSubscription.expiredActive,
            BillingSubscription.expiredGrace, expired, ended]
      · have kept : expireSubscription settings now row = row := by
          simp [expireSubscription, BillingSubscription.expiredActive,
            BillingSubscription.expiredGrace, status, expired]
        simp [kept, expired]
  | gracePeriod =>
      cases ended : (settings.graceEnd row.expiresAt).all (· ≤ now) <;>
        simp [expireSubscription, BillingSubscription.expiredActive,
          BillingSubscription.expiredGrace, status, ended]
  | suspended =>
      simp [expireSubscription, BillingSubscription.expiredActive,
        BillingSubscription.expiredGrace, status]
  | cancelled =>
      simp [expireSubscription, BillingSubscription.expiredActive,
        BillingSubscription.expiredGrace, status]

theorem expireSubscription_no_grace {settings : Settings} {now : Instant}
    {row : BillingSubscription} (timely : row.overdue settings now = false)
    : (expireSubscription settings now row).expiredGrace settings now = false := by
  have same := expireSubscription_twice.mpr timely
  cases ended : (expireSubscription settings now row).expiredGrace settings now with
  | false => rfl
  | true =>
      have status : (expireSubscription settings now row).status = .gracePeriod := by
        simp only [BillingSubscription.expiredGrace, Bool.and_eq_true, decide_eq_true_eq] at ended
        exact ended.1
      have active : (expireSubscription settings now row).expiredActive now = false := by
        simp [BillingSubscription.expiredActive, status]
      rw [expireSubscription, active, ended] at same
      simp [status] at same

theorem processSubscriptionExpirations_servers {settings : Settings} {now : Instant}
    {db : Database}
    (none : ∀ row ∈ db.subscriptions.rows, row.expiredGrace settings now = false)
    : (processSubscriptionExpirations settings now db).1.servers.rows = db.servers.rows := by
  have empty : db.subscriptions.rows.filter (fun row => row.expiredGrace settings now) = [] :=
    List.filter_eq_nil_iff.mpr (fun row member => by simp [none row member])
  change db.servers.rows.map _ = _
  rw [empty]
  simp [Change.when]

/-- A second sweep at the same time changes no subscription status and no server state. -/
def SecondSweepIdle (settings : Settings) (now : Instant) (db : Database) : Prop :=
  let once := (processSubscriptionExpirations settings now db).1
  let twice := (processSubscriptionExpirations settings now once).1
  twice.subscriptions.rows.map (fun row => (row.id, row.status))
    = once.subscriptions.rows.map (fun row => (row.id, row.status))
  ∧ twice.servers.rows.map (fun server => (server.id, server.state))
    = once.servers.rows.map (fun server => (server.id, server.state))

theorem second_sweep_statuses (settings : Settings) (now : Instant) (db : Database)
    : let once := (processSubscriptionExpirations settings now db).1
      let twice := (processSubscriptionExpirations settings now once).1
      twice.subscriptions.rows.map (fun row => (row.id, row.status))
          = once.subscriptions.rows.map (fun row => (row.id, row.status))
        ↔ ∀ row ∈ db.subscriptions.rows, row.overdue settings now = false := by
  intro once twice
  change ((db.subscriptions.rows.map (expireSubscription settings now)).map
    (expireSubscription settings now)).map _
      = (db.subscriptions.rows.map (expireSubscription settings now)).map _ ↔ _
  rw [List.map_map, List.map_map, List.map_map, List.map_inj_left]
  refine forall₂_congr ?_
  intro row _
  simp only [Function.comp_apply, Prod.mk.injEq, expireSubscription_id, true_and]
  exact expireSubscription_twice

/-- A second sweep at the same time is idle exactly when no row was overdue before the first,
since without one it finds nothing to suspend.
-/
theorem second_sweep_idle_iff (settings : Settings) (now : Instant) (db : Database)
    : SecondSweepIdle settings now db
      ↔ ∀ row ∈ db.subscriptions.rows, row.overdue settings now = false := by
  have statuses := second_sweep_statuses settings now db
  constructor
  · rintro ⟨same, _⟩
    exact statuses.mp same
  · intro timely
    refine ⟨statuses.mpr timely, ?_⟩
    rw [processSubscriptionExpirations_servers]
    intro row member
    obtain ⟨source, stored, rfl⟩ := List.mem_map.mp member
    exact expireSubscription_no_grace (timely source stored)

/-- A row that expired at the epoch. -/
private def expiredTrial : BillingSubscription where
  id := 0
  userId := 1
  serverId := some 0
  planId := "trial"
  startsAt := 0
  expiresAt := 0
  createdAt := 0
  updatedAt := 0

/-- The first sweep after a long pause moves a row into its grace period, the second one out of
it.
-/
theorem overdue_row_moves_twice
    : ¬ ∀ (settings : Settings) (now : Instant) (db : Database),
        SecondSweepIdle settings now db := by
  intro idle
  have same := (idle {} (days 30) { subscriptions := ⟨[expiredTrial], by decide⟩ }).1
  exact absurd same (by decide)

-- Entitlement under any schedule

/-- A sweep at some time, or another change that leaves the rows of a server alone. -/
def ScheduleStep (settings : Settings) (serverId : Uuid) (before : Database)
    (event : Option Instant) (after : Database)
    : Prop :=
  match event with
  | some time => after = (processSubscriptionExpirations settings time before).1
  | none => serverRows after serverId = serverRows before serverId

def expireAlong (settings : Settings) (history : List (Option Instant))
    (row : BillingSubscription)
    : BillingSubscription :=
  history.foldl
    (fun current event => event.elim current (expireSubscription settings · current)) row

theorem expireAlong_concat (settings : Settings) (history : List (Option Instant))
    (event : Option Instant) (row : BillingSubscription)
    : expireAlong settings (history ++ [event]) row
      = event.elim (expireAlong settings history row)
          (expireSubscription settings · (expireAlong settings history row)) := by
  rw [expireAlong, List.foldl_append]
  rfl

theorem serverRows_sweep (settings : Settings) (now : Instant) (db : Database)
    (serverId : Uuid)
    : serverRows (processSubscriptionExpirations settings now db).1 serverId
      = (serverRows db serverId).map (expireSubscription settings now) := by
  change (db.subscriptions.rows.map (expireSubscription settings now)).filter _ = _
  rw [List.filter_map, serverRows]
  congr 1
  refine List.filter_congr ?_
  intro row _
  simp

/-- So does a whole run, by induction on the run. -/
theorem serverRows_run {settings : Settings} {serverId : Uuid} {before after : Database}
    {history : List (Option Instant)}
    (run : Run (ScheduleStep settings serverId) before history after)
    : serverRows after serverId
      = (serverRows before serverId).map (expireAlong settings history) := by
  induction run with
  | done => exact (List.map_id _).symm
  | @next middle after history event earlier taken ih =>
      cases event with
      | none =>
          rw [taken, ih]
          refine List.map_congr_left ?_
          intro row _
          rw [expireAlong_concat]
          rfl
      | some time =>
          rw [show after = _ from taken, serverRows_sweep, ih, List.map_map]
          refine List.map_congr_left ?_
          intro row _
          rw [expireAlong_concat]
          rfl

/-- A history of sweeps keeps the server and the expiry of a row, and brings no row back to life.
By induction on the history.
-/
theorem expireAlong_frame (settings : Settings) (history : List (Option Instant))
    (row : BillingSubscription)
    : (expireAlong settings history row).serverId = row.serverId
      ∧ (expireAlong settings history row).expiresAt = row.expiresAt
      ∧ ((expireAlong settings history row).live = true → row.live = true) := by
  induction history using List.reverseRecOn with
  | nil => exact ⟨rfl, rfl, id⟩
  | append_singleton earlier event ih =>
      rw [expireAlong_concat]
      cases event with
      | none => exact ih
      | some time =>
          obtain ⟨server, expiry, alive⟩ := ih
          refine ⟨?_, ?_, ?_⟩
          · rw [← server]
            exact expireSubscription_serverId settings time _
          · rw [← expiry]
            exact expireSubscription_expiresAt settings time _
          · exact fun live => alive (expireSubscription_live live)

/-- The stages of an active row before the end of its grace period: it is active until the first
sweep after its expiry, and from then on, where queries know the end, in its grace period. By
induction on the history.
-/
theorem expireAlong_active {settings : Settings} {row : BillingSubscription} {now : Instant}
    {history : List (Option Instant)} (postgresql : settings.dialect = .postgresql)
    (active : row.status = .active) (within : now < row.expiresAt + settings.graceDelta)
    (past : ∀ time, some time ∈ history → time ≤ now)
    : (expireAlong settings history row).status = .active
        ∧ (∀ time, some time ∈ history → time < row.expiresAt)
      ∨ (expireAlong settings history row).status = .gracePeriod
        ∧ ∃ time, some time ∈ history ∧ row.expiresAt ≤ time := by
  induction history using List.reverseRecOn with
  | nil => exact .inl ⟨active, by simp⟩
  | append_singleton earlier event ih =>
      have stage := ih (fun time member => past time (List.mem_append_left _ member))
      have expiry := (expireAlong_frame settings earlier row).2.1
      rw [expireAlong_concat]
      generalize expireAlong settings earlier row = current at expiry stage ⊢
      cases event with
      | none => simpa using stage
      | some time =>
          have early : time ≤ now := past time (by simp)
          have running : ¬ current.expiresAt + settings.graceDelta ≤ time :=
            not_le.mpr (expiry ▸ lt_of_le_of_lt early within)
          rcases stage with ⟨status, before⟩ | ⟨status, swept, member, late⟩
          · by_cases expired : row.expiresAt ≤ time
            · refine .inr ⟨?_, time, by simp, expired⟩
              simp [expireSubscription, BillingSubscription.expiredActive, status, expiry,
                expired]
            · refine .inl ⟨?_, ?_⟩
              · simp [expireSubscription, BillingSubscription.expiredActive,
                  BillingSubscription.expiredGrace, status, expiry, expired]
              · intro other member
                rcases List.mem_append.mp member with old | new
                · exact before other old
                · cases List.mem_singleton.mp new
                  exact not_le.mp expired
          · refine .inr ⟨?_, swept, List.mem_append_left _ member, late⟩
            simp [expireSubscription, BillingSubscription.expiredActive,
              BillingSubscription.expiredGrace, Settings.graceEnd, postgresql, status, running]

/-- No sweep before its expiry changes an active row, by induction on the history. -/
theorem expireAlong_early {settings : Settings} {row : BillingSubscription}
    {history : List (Option Instant)} (active : row.status = .active)
    (early : ∀ time, some time ∈ history → time < row.expiresAt)
    : expireAlong settings history row = row := by
  have within : row.entitledUntil settings = some row.expiresAt := by
    simp [BillingSubscription.entitledUntil, active]
  induction history using List.reverseRecOn with
  | nil => rfl
  | append_singleton earlier event ih =>
      rw [expireAlong_concat, ih (fun time member => early time (List.mem_append_left _ member))]
      cases event with
      | none => rfl
      | some time => exact expireSubscription_before within (early time (by simp))

theorem activeSubscriptionForServer_isSome {settings : Settings} {db : Database}
    {now : Instant} {serverId : Uuid}
    : (activeSubscriptionForServer settings db now serverId).isSome = true
      ↔ ∃ row ∈ serverRows db serverId, row.entitles settings now serverId = true := by
  constructor
  · intro found
    obtain ⟨row, same⟩ := Option.isSome_iff_exists.mp found
    obtain ⟨stored, entitled, _⟩ := activeSubscriptionForServer_some same
    refine ⟨row, List.mem_filter.mpr ⟨stored, ?_⟩, entitled⟩
    simpa using (BillingSubscription.entitles_iff.mp entitled).1
  · rintro ⟨row, member, entitled⟩
    by_contra missing
    have none := activeSubscriptionForServer_none.mp (Option.not_isSome_iff_eq_none.mp missing)
      row (List.mem_filter.mp member).1
    rw [entitled] at none
    cases none

theorem BillingSubscription.entitles_within {settings : Settings} {now : Instant}
    {serverId : Uuid} {row : BillingSubscription}
    (entitled : row.entitles settings now serverId = true)
    : now < row.expiresAt + settings.graceDelta := by
  obtain ⟨_, finish, lasts, early⟩ := BillingSubscription.entitles_iff.mp entitled
  have grace := settings.graceDelta_nonneg
  cases status : row.status with
  | active =>
      simp only [entitledUntil, status, Option.mem_some_iff] at lasts
      exact lt_of_lt_of_le (lasts ▸ early) (Int.le_add_of_nonneg_right grace)
  | gracePeriod =>
      simp only [entitledUntil, status] at lasts
      exact settings.graceEnd_le lasts ▸ early
  | suspended => simp [entitledUntil, status] at lasts
  | cancelled => simp [entitledUntil, status] at lasts

theorem BillingSubscription.entitles_sqlite {settings : Settings} {now : Instant}
    {serverId : Uuid} {row : BillingSubscription} (sqlite : settings.dialect = .sqlite)
    (entitled : row.entitles settings now serverId = true)
    : now < row.expiresAt := by
  obtain ⟨_, finish, lasts, early⟩ := BillingSubscription.entitles_iff.mp entitled
  cases status : row.status <;>
    simp_all [entitledUntil, Settings.graceEnd]

/-- A server is entitled by its only live row at a time exactly until the end of the grace period,
if and only if, when the time lies between the expiry and that end, a sweep has run since the
expiry and the database is not SQLite.
-/
theorem entitled_until_grace_iff (settings : Settings) {before after : Database}
    {history : List (Option Instant)} {serverId : Uuid} {row : BillingSubscription}
    {now : Instant} (run : Run (ScheduleStep settings serverId) before history after)
    (past : ∀ time, some time ∈ history → time ≤ now)
    (member : row ∈ serverRows before serverId) (active : row.status = .active)
    (only : ∀ other ∈ serverRows before serverId, other.live = true → other = row)
    : ((activeSubscriptionForServer settings after now serverId).isSome = true
          ↔ now < row.expiresAt + settings.graceDelta)
      ↔ (row.expiresAt ≤ now → now < row.expiresAt + settings.graceDelta
        → settings.dialect = .postgresql
          ∧ ∃ time, some time ∈ history ∧ row.expiresAt ≤ time) := by
  have names : row.serverId = some serverId := by
    simpa using (List.mem_filter.mp member).2
  obtain ⟨server, expiry, _⟩ := expireAlong_frame settings history row
  -- The only row that can entitle the server is the image of the given one.
  have reader
      : (activeSubscriptionForServer settings after now serverId).isSome = true
        ↔ (expireAlong settings history row).entitles settings now serverId = true := by
    rw [activeSubscriptionForServer_isSome, serverRows_run run]
    constructor
    · rintro ⟨image, mapped, entitled⟩
      obtain ⟨source, stored, rfl⟩ := List.mem_map.mp mapped
      have live := (expireAlong_frame settings history source).2.2
        (BillingSubscription.live_of_entitles entitled)
      rwa [only source stored live] at entitled
    · intro entitled
      exact ⟨_, List.mem_map_of_mem member, entitled⟩
  rw [reader]
  by_cases within : now < row.expiresAt + settings.graceDelta
  · cases dialect : settings.dialect with
    | postgresql =>
        rcases expireAlong_active dialect active within past with ⟨status, before⟩ |
          ⟨status, swept⟩
        · have entitled
              : (expireAlong settings history row).entitles settings now serverId = true
                ↔ now < row.expiresAt := by
            simp [BillingSubscription.entitles, status, server, names, expiry]
          simp only [entitled, within, iff_true, true_imp_iff, true_and]
          constructor
          · intro early late
            exact absurd early (not_lt.mpr late)
          · intro swept
            by_contra late
            obtain ⟨time, known, expired⟩ := swept (not_lt.mp late)
            exact absurd (before time known) (not_lt.mpr expired)
        · have entitled
              : (expireAlong settings history row).entitles settings now serverId = true := by
            simp [BillingSubscription.entitles, Settings.graceEnd, dialect, status, server, names,
              expiry, within]
          simp [entitled, within, swept]
    | sqlite =>
        have entitled
            : (expireAlong settings history row).entitles settings now serverId = true
              ↔ now < row.expiresAt := by
          constructor
          · intro entitled
            exact expiry ▸ BillingSubscription.entitles_sqlite dialect entitled
          · intro early
            rw [expireAlong_early active
              (fun time member => lt_of_le_of_lt (past time member) early)]
            simp [BillingSubscription.entitles, active, names, early]
        simp [entitled, within]
  · have closed
        : (expireAlong settings history row).entitles settings now serverId = false := by
      by_contra entitled
      have early := BillingSubscription.entitles_within (Bool.eq_true_of_not_eq_false entitled)
      exact within (expiry ▸ early)
    simp [closed, within]

/-- A server whose trial expired at the epoch, and nothing has run since. -/
private def afterExpiry : Database where
  subscriptions := ⟨[expiredTrial], by decide⟩

private theorem afterExpiry_only
    : ∀ other ∈ serverRows afterExpiry 0, other.live = true → other = expiredTrial := by
  intro other member _
  exact List.mem_singleton.mp (List.mem_filter.mp member).1

private theorem swept_afterExpiry
    : ScheduleStep { dialect := .postgresql } 0 afterExpiry (some (days 1))
        (processSubscriptionExpirations { dialect := .postgresql } (days 1) afterExpiry).1 :=
  rfl

/-- After a sweep on the first day the server is entitled for the rest of the grace period. -/
theorem swept_trial_entitled
    : (activeSubscriptionForServer { dialect := .postgresql }
          (processSubscriptionExpirations { dialect := .postgresql } (days 1) afterExpiry).1
          (days 2) 0).isSome = true
        ↔ days 2 < days 3 :=
  (entitled_until_grace_iff { dialect := .postgresql } (Run.done.next swept_afterExpiry)
    (by simp [days]) (List.mem_singleton_self expiredTrial) rfl afterExpiry_only).mpr
    (fun _ _ => ⟨rfl, days 1, by simp, by decide⟩)

/-- What a server is entitled to does not depend on the times of the sweeps. -/
def EntitlementIgnoresSweeps (settings : Settings) : Prop :=
  ∀ (before after : Database) (history : List (Option Instant)) (serverId : Uuid)
    (row : BillingSubscription) (now : Instant),
    Run (ScheduleStep settings serverId) before history after
  → (∀ time, some time ∈ history → time ≤ now)
  → row ∈ serverRows before serverId
  → row.status = .active
  → (∀ other ∈ serverRows before serverId, other.live = true → other = row)
  → ((activeSubscriptionForServer settings after now serverId).isSome = true
    ↔ now < row.expiresAt + settings.graceDelta)

/-- Before the first sweep after its expiry a row entitles nobody. -/
theorem unswept_trial_not_entitled
    : ¬ EntitlementIgnoresSweeps { dialect := .postgresql } := by
  intro law
  have entitled := (law afterExpiry afterExpiry [] 0 expiredTrial (days 2) .done (by simp)
    (List.mem_singleton_self expiredTrial) rfl afterExpiry_only).mpr (by decide)
  exact absurd entitled (by decide)

end Blockhost
