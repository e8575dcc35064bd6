import Blockhost.Config.Settings
import Blockhost.Database.Schema

/-! Which subscription entitles a server at a given time. -/

namespace Blockhost

open Library

def Settings.graceDelta (settings : Settings) : Instant :=
  days (max 0 settings.subscriptionGracePeriodDays)

theorem Settings.graceDelta_nonneg (settings : Settings) : 0 ≤ settings.graceDelta :=
  Int.mul_nonneg (le_max_left 0 settings.subscriptionGracePeriodDays) (by decide)

/-- `expires_at + grace_delta` in a query. On SQLite that is a number, which is before every
time.
-/
def Settings.graceEnd (settings : Settings) (expiresAt : Instant) : Option Instant :=
  match settings.dialect with
  | .postgresql => some (expiresAt + settings.graceDelta)
  | .sqlite => none

theorem Settings.graceEnd_le {settings : Settings} {expiresAt finish : Instant}
    (ends : settings.graceEnd expiresAt = some finish)
    : finish = expiresAt + settings.graceDelta := by
  unfold graceEnd at ends
  split at ends
  · exact (Option.some.inj ends).symm
  · contradiction

/-- The end of the time in which a row entitles its server; rows in the other two states
never do.
-/
def BillingSubscription.entitledUntil (settings : Settings) (row : BillingSubscription)
    : Option Instant :=
  match row.status with
  | .active => some row.expiresAt
  | .gracePeriod => settings.graceEnd row.expiresAt
  | .suspended => none
  | .cancelled => none

/-- The row test of `active_subscription_for_server`. -/
def BillingSubscription.entitles (settings : Settings) (now : Instant) (serverId : Uuid)
    (row : BillingSubscription)
    : Bool :=
  row.serverId = some serverId
  && ((row.status = .active && now < row.expiresAt)
    || (row.status = .gracePeriod && (settings.graceEnd row.expiresAt).any (now < ·)))

def activeSubscriptionForServer (settings : Settings) (db : Database) (now : Instant)
    (serverId : Uuid)
    : Option BillingSubscription :=
  latest BillingSubscription.expiresAt
    (db.subscriptions.rows.filter (fun row => row.entitles settings now serverId))

def unpaidServerLimits : ResourceLimits where
  ramMb := 0
  cpuQuotaPct := 0
  storageMb := 0
  playerLimit := 0

def BillingPlan.limits (plan : BillingPlan) : ResourceLimits where
  ramMb := plan.ramMb
  cpuQuotaPct := plan.cpuLimit
  storageMb := plan.storageMb
  playerLimit := plan.playerLimit

def getEffectiveServerResourceLimits (settings : Settings) (db : Database) (now : Instant)
    (serverId : Uuid)
    : ResourceLimits :=
  match activeSubscriptionForServer settings db now serverId with
  | none => unpaidServerLimits
  | some subscription =>
      match db.plans.get? subscription.planId with
      | none => unpaidServerLimits
      | some plan => plan.limits

theorem BillingSubscription.entitles_iff {settings : Settings} {now : Instant}
    {serverId : Uuid} {row : BillingSubscription}
    : row.entitles settings now serverId = true
      ↔ row.serverId = some serverId ∧ ∃ finish ∈ row.entitledUntil settings, now < finish := by
  cases status : row.status <;>
    simp [entitles, entitledUntil, status, Option.any_eq_true]

theorem activeSubscriptionForServer_some {settings : Settings} {db : Database}
    {now : Instant} {serverId : Uuid} {row : BillingSubscription}
    (found : activeSubscriptionForServer settings db now serverId = some row)
    : row ∈ db.subscriptions.rows
      ∧ row.entitles settings now serverId = true
      ∧ ∀ other ∈ db.subscriptions.rows, other.entitles settings now serverId = true
        → other.expiresAt ≤ row.expiresAt := by
  obtain ⟨member, last⟩ := latest_some found
  obtain ⟨stored, entitled⟩ := List.mem_filter.mp member
  refine ⟨stored, entitled, ?_⟩
  intro other member qualifies
  exact last other (List.mem_filter.mpr ⟨member, qualifies⟩)

theorem activeSubscriptionForServer_none {settings : Settings} {db : Database}
    {now : Instant} {serverId : Uuid}
    : activeSubscriptionForServer settings db now serverId = none
      ↔ ∀ row ∈ db.subscriptions.rows, row.entitles settings now serverId = false := by
  rw [activeSubscriptionForServer, latest_eq_none, List.filter_eq_nil_iff]
  simp only [Bool.not_eq_true]

theorem activeSubscriptionForServer_eq {settings : Settings} {db : Database}
    {now : Instant} {serverId : Uuid} {row : BillingSubscription}
    (member : row ∈ db.subscriptions.rows)
    (entitled : row.entitles settings now serverId = true)
    (only : ∀ other ∈ db.subscriptions.rows, other.entitles settings now serverId = true
      → other = row)
    : activeSubscriptionForServer settings db now serverId = some row := by
  cases found : activeSubscriptionForServer settings db now serverId with
  | none =>
      have none := activeSubscriptionForServer_none.mp found row member
      rw [entitled] at none
      contradiction
  | some other =>
      obtain ⟨stored, qualifies, _⟩ := activeSubscriptionForServer_some found
      rw [only other stored qualifies]

end Blockhost
