import Blockhost.Api.PaddleDeliveries
import Blockhost.Library.Run
import Blockhost.Services.Billing

/-! What happens to a resource when its subscription is suspended or cancelled. Only the sweep
calls a runtime, and only for the server that a row names.
-/

namespace Blockhost

open Library

/-- The two ways to lose entitlement. -/
inductive SuspensionEvent where
  | sweep (now : Instant)
  | paddle (delivery : PaddleDelivery)

def SuspensionStep (settings : Settings) (before : Database) (event : SuspensionEvent)
    (after : Database)
    : Prop :=
  match event with
  | .sweep now => after = (processSubscriptionExpirations settings now before).1
  | .paddle delivery => after = delivery.apply before

def suspendedServers (settings : Settings) (now : Instant) (db : Database) : List Uuid :=
  (db.subscriptions.rows.filter (fun row => row.expiredGrace settings now)).filterMap
    (fun row => row.serverId)

/-- The resources whose runtime gets a stop during an event. The sweep stops the servers that
exist, and the webhook talks to no runtime.
-/
def issuedStops (settings : Settings) (db : Database)
    : SuspensionEvent → List (ResourceType × Uuid)
  | .sweep now =>
      ((suspendedServers settings now db).filter
        (fun id => (db.servers.get? id).isSome)).map (fun id => (.minecraftServer, id))
  | .paddle _ => []

def resourceActive (db : Database) (resourceType : ResourceType) (id : Uuid) : Bool :=
  match resourceType with
  | .minecraftServer => (db.servers.get? id).any (fun server => server.state = .running)
  | .appDeployment =>
      (db.appDeployments.get? id).any (fun deployment =>
        deployment.state = .running || deployment.state = .building)
  | .databaseInstance =>
      (db.databaseInstances.get? id).any (fun database =>
        database.state = .running || database.state = .building)

def SuspensionEvent.closedStatus : SuspensionEvent → BillingSubscriptionStatus
  | .sweep _ => .suspended
  | .paddle _ => .cancelled

/-- Every existing resource of a row that loses its entitlement gets a stop, and is in no running
or building state afterwards.
-/
def LossStops (settings : Settings) (before : Database) (event : SuspensionEvent)
    (after : Database)
    : Prop :=
  ∀ old ∈ before.subscriptions.rows, ∀ new ∈ after.subscriptions.rows, new.id = old.id
  → old.status ≠ event.closedStatus → new.status = event.closedStatus
  → ∀ resourceType id, new.paysFor resourceType id = true
  → (getBillableResource before resourceType id).isSome = true
  → (resourceType, id) ∈ issuedStops settings before event
    ∧ resourceActive after resourceType id = false

/-- An event after which nothing runs unpaid: the rows that a sweep suspends pay for servers that
such rows name, and the row that a notification cancels was cancelled before or pays for nothing
that exists.
-/
def StopsEverything (settings : Settings) (before : Database) (event : SuspensionEvent)
    : Prop :=
  match event with
  | .sweep now =>
      ∀ row ∈ before.subscriptions.rows, row.expiredGrace settings now = true
      → ∀ resourceType id, row.paysFor resourceType id = true
      → (getBillableResource before resourceType id).isSome = true
      → resourceType = .minecraftServer ∧ id ∈ suspendedServers settings now before
  | .paddle delivery =>
      ∀ handled row, delivery.handled before = some handled
      → handled.cancelledRow before = some row
      → row.status ≠ .cancelled
      → ∀ resourceType id, row.paysFor resourceType id = true
      → (getBillableResource before resourceType id).isSome = false

theorem expireSubscription_suspends {settings : Settings} {now : Instant}
    {row : BillingSubscription}
    : row.status ≠ .suspended ∧ (expireSubscription settings now row).status = .suspended
      ↔ row.expiredGrace settings now = true := by
  unfold expireSubscription BillingSubscription.expiredActive BillingSubscription.expiredGrace
  cases status : row.status with
  | active => by_cases expired : row.expiresAt ≤ now <;> simp [status, expired]
  | gracePeriod =>
      cases ended : (settings.graceEnd row.expiresAt).all (· ≤ now) <;> simp [status]
  | suspended => simp
  | cancelled => simp [status]

@[simp] theorem expireSubscription_paysFor (settings : Settings) (now : Instant)
    (row : BillingSubscription) (resourceType : ResourceType) (id : Uuid)
    : (expireSubscription settings now row).paysFor resourceType id
      = row.paysFor resourceType id := by
  unfold expireSubscription
  split_ifs <;> rfl

theorem sweep_resourceActive {settings : Settings} {now : Instant} {db : Database} {id : Uuid}
    (stopped : id ∈ suspendedServers settings now db)
    : resourceActive (processSubscriptionExpirations settings now db).1 .minecraftServer id
      = false := by
  have servers
      : (processSubscriptionExpirations settings now db).1.servers
        = db.servers.update (Change.when ⟨suspendForBilling, fun _ => rfl⟩
            (fun server => server.id ∈ suspendedServers settings now db)) := rfl
  rw [resourceActive, servers, Table.get?_update]
  cases found : db.servers.get? id with
  | none => rfl
  | some server =>
      have same := (Table.get?_some found).2
      simp [Change.when, same, stopped, suspendForBilling]

theorem sweep_lossStops_iff (settings : Settings) (now : Instant) (db : Database)
    : LossStops settings db (.sweep now) (processSubscriptionExpirations settings now db).1
      ↔ StopsEverything settings db (.sweep now) := by
  constructor
  · intro stops row member expired resourceType id pays billable
    obtain ⟨open_, suspended⟩ := expireSubscription_suspends.mpr expired
    have issued := (stops row member (expireSubscription settings now row)
      (List.mem_map_of_mem member) (by simp) open_ suspended resourceType id (by simpa using pays)
      billable).1
    obtain ⟨server, listed, same⟩ := List.mem_map.mp issued
    cases same
    exact ⟨rfl, (List.mem_filter.mp listed).1⟩
  · intro everything old oldMember new newMember sameId open_ suspended resourceType id pays
      billable
    obtain ⟨source, stored, rfl⟩ := List.mem_map.mp newMember
    have isOld : source = old :=
      db.subscriptions.eq_of_key_eq stored oldMember (by simpa using sameId)
    subst isOld
    have expired := expireSubscription_suspends.mp ⟨open_, suspended⟩
    obtain ⟨rfl, listed⟩ :=
      everything source stored expired resourceType id (by simpa using pays) billable
    refine ⟨?_, sweep_resourceActive listed⟩
    rw [getBillableResource, Option.isSome_map] at billable
    exact List.mem_map_of_mem (List.mem_filter.mpr ⟨listed, billable⟩)

theorem HandledEvent.cancelledRow_mem {event : HandledEvent} {db : Database}
    {row : BillingSubscription} (selected : event.cancelledRow db = some row)
    : row ∈ db.subscriptions.rows := by
  unfold cancelledRow at selected
  split at selected
  · split at selected
    · cases selected
    · cases selected
    · split at selected
      · exact findSubscription_mem selected
      · cases selected
  · cases selected

theorem PaddleDelivery.cancels_only {delivery : PaddleDelivery} {db : Database}
    {old new : BillingSubscription} (member : old ∈ db.subscriptions.rows)
    (stored : new ∈ (delivery.apply db).subscriptions.rows) (same : new.id = old.id)
    (before : old.status ≠ .cancelled) (after : new.status = .cancelled)
    : (∃ event, delivery.handled db = some event ∧ event.cancelledRow db = some old)
      ∧ ∀ resourceType id, new.paysFor resourceType id = old.paysFor resourceType id := by
  have unchanged : new ∉ db.subscriptions.rows := by
    intro known
    have isOld := db.subscriptions.eq_of_key_eq known member same
    exact before (isOld ▸ after)
  rcases delivery.apply_change db with kept | ⟨event, reached, change⟩
  · exact absurd (kept ▸ stored) unchanged
  · obtain ⟨processed, claimed⟩ := claimEvent_frame delivery.time event.eventId event.eventType db
    rw [claimed] at change
    cases change with
    | ignored kept =>
        rw [kept] at stored
        exact absurd stored unchanged
    | cancelled subscriptionId resourceType resourceId selected result =>
        rw [result, stopResource_subscriptions] at stored
        cases found : event.cancelledRow { db with processedWebhookEvents := processed } with
        | none =>
            rw [found] at stored
            exact absurd stored unchanged
        | some row =>
            rw [found] at stored
            obtain ⟨source, known, sourceId, _, pays, cases_⟩ := markStored_source stored
            have isOld : source = old :=
              db.subscriptions.eq_of_key_eq known member (sourceId.symm.trans same)
            rcases cases_ with ⟨isRow, _⟩ | ⟨_, kept⟩
            · have rowMember : row ∈ db.subscriptions.rows := HandledEvent.cancelledRow_mem found
              have sameRow : row = old :=
                db.subscriptions.eq_of_key_eq rowMember member (isOld ▸ isRow.symm)
              exact ⟨⟨event, reached, sameRow ▸ found⟩, isOld ▸ pays⟩
            · exact absurd (kept ▸ known) unchanged
    | added subscriptionId resourceType resourceId ownerId plan billable missing result =>
        rw [result] at stored
        rcases List.mem_append.mp stored with known | added
        · exact absurd known unchanged
        · rw [List.mem_singleton.mp added] at after
          cases after
    | activated subscriptionId row found known result =>
        rw [result] at stored
        obtain ⟨source, present, _, _, _, ⟨_, active⟩ | ⟨_, kept⟩⟩ := markStored_source stored
        · rw [after] at active
          cases active
        · exact absurd (kept ▸ present) unchanged

theorem paddle_lossStops_iff (settings : Settings) (delivery : PaddleDelivery) (db : Database)
    : LossStops settings db (.paddle delivery) (delivery.apply db)
      ↔ StopsEverything settings db (.paddle delivery) := by
  constructor
  · intro stops event row reached selected open_ resourceType id pays
    by_contra billable
    obtain ⟨processed, stopped, stoppedId, subscriptionId, applied⟩ :=
      delivery.apply_cancelled reached selected
    have member := HandledEvent.cancelledRow_mem selected
    have marked
        : markSubscription delivery.time .cancelled subscriptionId row
          ∈ (delivery.apply db).subscriptions.rows := by
      rw [applied, stopResource_subscriptions]
      change _ ∈ (db.subscriptions.modify row.id _).rows
      rw [Table.rows_modify]
      exact List.mem_map.mpr ⟨row, member, by simp⟩
    have issued := (stops row member _ marked (by simp) open_ (by
      simp [SuspensionEvent.closedStatus]) resourceType id (by simpa using pays)
      (Bool.eq_true_of_not_eq_false billable)).1
    cases issued
  · intro everything old oldMember new newMember sameId open_ cancelled resourceType id pays
      billable
    obtain ⟨⟨event, reached, selected⟩, samePays⟩ :=
      delivery.cancels_only oldMember newMember sameId open_ cancelled
    have missing := everything event old reached selected open_ resourceType id
      (samePays resourceType id ▸ pays)
    rw [missing] at billable
    cases billable

/-- Along a run of sweeps and deliveries every loss of entitlement stops what was paid for
exactly when every event stops everything: no sweep suspends a row of an application or a
database, and no notification cancels a row of anything.
-/
theorem suspension_stops_iff (settings : Settings) {start finish : Database}
    {events : List SuspensionEvent}
    : Run (fun before event after => SuspensionStep settings before event after
          ∧ LossStops settings before event after) start events finish
      ↔ Run (fun before event after => SuspensionStep settings before event after
          ∧ StopsEverything settings before event) start events finish := by
  refine Run.congr ?_
  intro before event after
  refine and_congr_right ?_
  intro taken
  cases event with
  | sweep now =>
      rw [show after = _ from taken]
      exact sweep_lossStops_iff settings now before
  | paddle delivery =>
      rw [show after = _ from taken]
      exact paddle_lossStops_iff settings delivery before

private def runningServer : Server where
  id := 0
  nodeId := some 3
  ownerId := 1
  worldName := "world"
  state := .running
  lastActivity := 0

private def runningSubscription : BillingSubscription where
  id := 0
  userId := 1
  serverId := some 0
  planId := "pro"
  startsAt := 0
  expiresAt := days 30
  providerSubscriptionId := some "sub_1"
  createdAt := 0
  updatedAt := 0

private def paidServer : Database where
  servers := ⟨[runningServer], by decide⟩
  subscriptions := ⟨[runningSubscription], by decide⟩

private def cancellation : PaddleDelivery where
  time := days 1
  body :=
    some
      { eventId := .value "evt_1"
        eventType := .value "subscription.canceled"
        data := .value
          { id := .value "sub_1"
            customData := .value { serverId := .value "00000000000000000000000000000000" } } }

/-- A server whose subscription is cancelled at the provider keeps running on its node. -/
theorem cancelled_server_not_stopped
    : ¬ ∀ (settings : Settings) (start finish : Database) (events : List SuspensionEvent),
        Run (SuspensionStep settings) start events finish
        → Run (fun before event after => SuspensionStep settings before event after
            ∧ LossStops settings before event after) start events finish := by
  intro stops
  have taken : SuspensionStep {} paidServer (.paddle cancellation)
      (cancellation.apply paidServer) := rfl
  have run := stops {} paidServer _ _ (Run.done.next taken)
  obtain ⟨middle, none, _, lost⟩ := run.last []
  rw [none.nil_eq] at lost
  have everything := (paddle_lossStops_iff {} cancellation paidServer).mp lost
  have missing := everything _ runningSubscription rfl (by decide +kernel) (by decide)
    .minecraftServer 0 (by decide)
  exact absurd missing (by decide)

end Blockhost
