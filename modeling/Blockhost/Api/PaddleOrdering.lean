import Blockhost.Api.PaddleWebhook
import Blockhost.Library.Inbox
import Mathlib.Data.List.Find

/-! Deliveries of the notifications of one Paddle subscription. The webhook behaves as a
receiver that drops duplicates and lets every new notification overwrite the row's status,
whatever its time; so the last arrival decides.
-/

namespace Blockhost

open Library

inductive NotificationKind where
  | created
  | updated
  | canceled
deriving DecidableEq, Repr

def NotificationKind.eventType : NotificationKind → String
  | .created => "subscription.created"
  | .updated => "subscription.updated"
  | .canceled => "subscription.canceled"

/-- A notification with its identifier and the time at which it happened at Paddle. -/
structure Notification where
  eventId : { id : String // id ≠ "" }
  kind : NotificationKind
  status : Member String
  occurredAt : Instant
deriving DecidableEq, Repr

/-- What all notifications of one Paddle subscription have in common. -/
structure PaddleSubscription where
  id : { id : String // id ≠ "" }
  customData : Member CustomData

def Notification.data (subscription : PaddleSubscription) (notification : Notification)
    : PaddleData where
  id := .value subscription.id
  status := notification.status
  customData := subscription.customData

def Notification.payload (subscription : PaddleSubscription) (notification : Notification)
    : PaddlePayload where
  eventId := .value notification.eventId
  eventType := .value notification.kind.eventType
  data := .value (notification.data subscription)

def Notification.ident (notification : Notification) : String := notification.eventId.val

/-- A notification after which Paddle holds the subscription canceled. -/
def Notification.cancels (notification : Notification) : Bool :=
  notification.kind = .canceled || notification.status.get = some "canceled"

/-- A notification after which Paddle holds the subscription active or trialing. -/
def Notification.entitles (notification : Notification) : Bool :=
  !notification.cancels
  && (notification.status.get = some "active" || notification.status.get = some "trialing")

/-- One delivery at a time; a delivery that is not answered ok commits nothing. -/
def deliver (subscription : PaddleSubscription) (db : Database)
    (delivery : Instant × Notification)
    : Database :=
  match paddleWebhook delivery.1 "" true (some (delivery.2.payload subscription)) db with
  | .error _ => db
  | .ok (next, _) => next

def PaddleSubscription.resource (subscription : PaddleSubscription)
    : Option (ResourceType × Uuid) :=
  (subscription.customData.getD {}).bind namedResource

def subscriptionRow (subscription : PaddleSubscription) (db : Database)
    : Option BillingSubscription :=
  match subscription.resource with
  | some (resourceType, resourceId) =>
      findSubscription db subscription.id resourceType resourceId
  | none =>
      db.subscriptions.rows.find?
        (fun row => row.providerSubscriptionId = some subscription.id.val)

def rowStatus (subscription : PaddleSubscription) (db : Database)
    : Option BillingSubscriptionStatus :=
  (subscriptionRow subscription db).map (fun row => row.status)

def finalStatus (subscription : PaddleSubscription) (db : Database)
    (deliveries : List (Instant × Notification))
    : Option BillingSubscriptionStatus :=
  rowStatus subscription (deliveries.foldl (deliver subscription) db)

/-- The statuses that grant entitlement. -/
def Entitling (status : Option BillingSubscriptionStatus) : Prop :=
  status = some .active ∨ status = some .gracePeriod

/-- The notifications reach a resource that exists and has an owner. -/
def Handled (subscription : PaddleSubscription) (db : Database) : Prop :=
  ∃ resourceType resourceId ownerId,
    subscription.resource = some (resourceType, resourceId)
    ∧ getBillableResource db resourceType resourceId = some (some ownerId)

/-- Notifications arrive in any order and any number of times, each of them at least once. -/
def Delivers (events : List Notification) (deliveries : List (Instant × Notification)) : Prop :=
  ∀ notification, notification ∈ deliveries.map Prod.snd ↔ notification ∈ events

/-- The last notification at Paddle. -/
def IsLast (events : List Notification) (last : Notification) : Prop :=
  last ∈ events ∧ ∀ event ∈ events, event.occurredAt ≤ last.occurredAt

/-- What redelivery and reordering must not affect: the final status is the same for all
deliveries, entitles only if the last state does, and an older notification never makes a
canceled subscription active.
-/
structure OrderInsensitive (subscription : PaddleSubscription) (db : Database)
    (events : List Notification) (last : Notification)
    : Prop where
  agree
    : ∀ left right, Delivers events left → Delivers events right
      → finalStatus subscription db left = finalStatus subscription db right
  truthful
    : ∀ deliveries, Delivers events deliveries
      → Entitling (finalStatus subscription db deliveries)
      → last.entitles = true
  final
    : ∀ before time event after, Delivers events (before ++ (time, event) :: after)
      → ∀ canceled ∈ before.map Prod.snd, canceled.cancels = true
      → event.occurredAt < canceled.occurredAt
      → finalStatus subscription db before ≠ some .active
      → finalStatus subscription db (before ++ [(time, event)]) ≠ some .active

/-- What a new notification makes of the status, when a missing row can be created or not. -/
def overwriteStatus (plan : Bool) (status : Option BillingSubscriptionStatus)
    (notification : Notification)
    : Option BillingSubscriptionStatus :=
  if notification.cancels then status.map (fun _ => .cancelled)
  else if status.isSome || plan then some .active
  else none

def statusInbox (subscription : PaddleSubscription) (db : Database)
    : Inbox String (Option BillingSubscriptionStatus) where
  seen := db.processedWebhookEvents.rows.map ProcessedWebhookEvent.eventId
  state := rowStatus subscription db

-- The webhook refines the receiver

theorem cancelsSubscription_iff (subscription : PaddleSubscription)
    (notification : Notification)
    : cancelsSubscription notification.kind.eventType (notification.data subscription)
      = notification.cancels := by
  obtain ⟨_, kind, status, _⟩ := notification
  cases kind <;> rfl

theorem Notification.eventId_nonempty (notification : Notification)
    (subscription : PaddleSubscription)
    : (notification.payload subscription).eventId.nonempty = some notification.eventId.val := by
  simp [Notification.payload, Member.nonempty, Member.get, notification.eventId.property]

theorem Notification.eventType_nonempty (notification : Notification)
    (subscription : PaddleSubscription)
    : (notification.payload subscription).eventType.nonempty
      = some notification.kind.eventType := by
  obtain ⟨_, kind, _, _⟩ := notification
  cases kind <;> rfl

theorem deliver_eq (subscription : PaddleSubscription) (db : Database) (now : Instant)
    (notification : Notification)
    : deliver subscription db (now, notification)
      = if (db.processedWebhookEvents.get? notification.eventId.val).isSome then db
        else
          match subscription.customData.getD {} with
          | none => db
          | some customData =>
              (handleSubscriptionEvent now notification.kind.eventType
                (notification.data subscription) customData
                (claimEvent now notification.eventId.val notification.kind.eventType db)).1 := by
  have listed : notification.kind.eventType ∈ subscriptionEvents := by
    cases notification.kind <;> decide
  have data : (notification.payload subscription).data.getD {}
      = some (notification.data subscription) :=
    rfl
  have custom : (notification.data subscription).customData.getD {}
      = subscription.customData.getD {} :=
    rfl
  by_cases seen : (db.processedWebhookEvents.get? notification.eventId.val).isSome = true
  · simp [deliver, paddleWebhook, notification.eventId_nonempty, notification.eventType_nonempty,
      seen]
  · cases carried : subscription.customData.getD {} <;>
      simp [deliver, paddleWebhook, notification.eventId_nonempty,
        notification.eventType_nonempty, seen, listed, data, custom, carried]

theorem findSubscription_marked {db : Database} {now : Instant}
    {status : BillingSubscriptionStatus} {subscriptionId : String}
    {resourceType : ResourceType} {resourceId : Uuid} {row : BillingSubscription}
    (found : findSubscription db subscriptionId resourceType resourceId = some row)
    : findSubscription (markStored now status subscriptionId row db) subscriptionId
        resourceType resourceId
      = some (markSubscription now status subscriptionId row) := by
  let mark := fun other : BillingSubscription =>
    if other.id = row.id then markSubscription now status subscriptionId other else other
  have rows : (markStored now status subscriptionId row db).subscriptions.rows
      = db.subscriptions.rows.map mark := rfl
  have marked : mark row = markSubscription now status subscriptionId row := if_pos rfl
  suffices search : db.subscriptions.rows.find?
      ((fun other => decide (other.providerSubscriptionId = some subscriptionId)) ∘ mark)
      = some row by
    simp only [findSubscription, rows, List.find?_map, search, Option.map_some, marked]
  unfold findSubscription at found
  split at found
  · rename_i known provided
    cases found
    rw [← provided]
    refine List.find?_congr (fun other member => ?_)
    by_cases same : other.id = row.id
    · have equal : other = row :=
        db.subscriptions.eq_of_key_eq member (List.mem_of_find?_eq_some provided) same
      have carried := List.find?_some provided
      simp only [decide_eq_true_eq] at carried
      simp [mark, equal, carried]
    · simp [mark, same]
  · rename_i absent
    have stored : row ∈ db.subscriptions.rows :=
      (List.mem_filter.mp (latest_some found).1).1
    have own := db.subscriptions.get?_of_mem stored
    rw [← own]
    refine List.find?_congr (fun other member => ?_)
    have other_absent := List.find?_eq_none.mp absent other member
    by_cases same : other.id = row.id
    · simp [mark, same]
    · simpa [mark, same] using other_absent

theorem findSubscription_added {db : Database} {now : Instant} {subscriptionId : String}
    {resourceType : ResourceType} {resourceId ownerId : Uuid} {plan : BillingPlan}
    (missing : findSubscription db subscriptionId resourceType resourceId = none)
    : findSubscription
        (addPaddleSubscription now subscriptionId resourceType resourceId ownerId plan db)
        subscriptionId resourceType resourceId
      = some (paddleSubscription now subscriptionId resourceType resourceId ownerId plan
          db.subscriptions.freshKey) := by
  unfold findSubscription at missing
  split at missing
  · contradiction
  · rename_i absent
    simp [findSubscription, addPaddleSubscription, List.find?_append, absent,
      paddleSubscription]

theorem findSubscription_congr {left right : Database}
    (same : left.subscriptions = right.subscriptions) (subscriptionId : String)
    (resourceType : ResourceType) (resourceId : Uuid)
    : findSubscription left subscriptionId resourceType resourceId
      = findSubscription right subscriptionId resourceType resourceId := by
  unfold findSubscription
  rw [same]

theorem handleSubscriptionEvent_status (subscription : PaddleSubscription) (now : Instant)
    (notification : Notification) (db : Database) {customData : CustomData}
    {resourceType : ResourceType} {resourceId ownerId : Uuid}
    (names : namedResource customData = some (resourceType, resourceId))
    (exists_ : getBillableResource db resourceType resourceId = some (some ownerId))
    : let next :=
        (handleSubscriptionEvent now notification.kind.eventType
          (notification.data subscription) customData db).1
      (findSubscription next subscription.id resourceType resourceId).map
          (fun row => row.status)
        = overwriteStatus (firstActivePlan db).isSome
            ((findSubscription db subscription.id resourceType resourceId).map
              (fun row => row.status))
            notification
      ∧ next.processedWebhookEvents = db.processedWebhookEvents
      ∧ next.plans = db.plans
      ∧ getBillableResource next resourceType resourceId = some (some ownerId) := by
  have named : (notification.data subscription).id.nonempty = some subscription.id.val := by
    simp [Notification.data, Member.nonempty, Member.get, subscription.id.property]
  have stopped_processed (other : Database)
      : (stopResource resourceType resourceId other).processedWebhookEvents
        = other.processedWebhookEvents := by
    cases resourceType <;> rfl
  dsimp only
  unfold handleSubscriptionEvent
  simp only [named, names, exists_, cancelsSubscription_iff]
  cases cancels : notification.cancels with
  | true =>
      simp only [if_true, stopped_processed, stopResource_plans,
        getBillableResource_stopResource, overwriteStatus, cancels]
      rw [findSubscription_congr (stopResource_subscriptions _ _ _)]
      cases found : findSubscription db subscription.id resourceType resourceId with
      | none => exact ⟨by simp [markCancelled, found], rfl, rfl, exists_⟩
      | some row =>
          refine ⟨?_, rfl, rfl, exists_⟩
          simp only [markCancelled, findSubscription_marked found, Option.map_some,
            markSubscription_status]
  | false =>
      simp only [Bool.false_eq_true, if_false, overwriteStatus, cancels]
      cases found : findSubscription db subscription.id resourceType resourceId with
      | some row =>
          refine ⟨?_, rfl, rfl, exists_⟩
          simp [findSubscription_marked found]
      | none =>
          cases planned : firstActivePlan db with
          | none => exact ⟨by simp [found], rfl, rfl, exists_⟩
          | some plan =>
              refine ⟨?_, rfl, rfl, exists_⟩
              simp [findSubscription_added found, paddleSubscription]

theorem deliver_handled {subscription : PaddleSubscription} {db : Database}
    (handled : Handled subscription db) (delivery : Instant × Notification)
    : let next := deliver subscription db delivery
      statusInbox subscription next
        = (statusInbox subscription db).receive Notification.ident
            (overwriteStatus (firstActivePlan db).isSome) delivery.2
      ∧ next.plans = db.plans
      ∧ Handled subscription next := by
  obtain ⟨now, notification⟩ := delivery
  obtain ⟨resourceType, resourceId, ownerId, resource, exists_⟩ := handled
  obtain ⟨customData, carried, names⟩ := Option.bind_eq_some_iff.mp resource
  by_cases seen : notification.eventId.val ∈ (statusInbox subscription db).seen
  · have processed : (db.processedWebhookEvents.get? notification.eventId.val).isSome := by
      obtain ⟨event, member, same⟩ := List.mem_map.mp seen
      rw [← same, Table.get?_of_mem member]
      rfl
    rw [deliver_eq, if_pos processed]
    refine ⟨?_, rfl, resourceType, resourceId, ownerId, resource, exists_⟩
    exact (Inbox.receive_seen notification seen).symm
  · have unprocessed : db.processedWebhookEvents.get? notification.eventId.val = none :=
      Table.get?_eq_none.mpr seen
    let claimed := claimEvent now notification.eventId.val notification.kind.eventType db
    have result : deliver subscription db (now, notification)
        = (handleSubscriptionEvent now notification.kind.eventType
            (notification.data subscription) customData claimed).1 := by
      simp only [deliver_eq, unprocessed, Option.isSome_none, Bool.false_eq_true, if_false,
        carried, claimed]
    obtain ⟨events, frame⟩ :=
      claimEvent_frame now notification.eventId.val notification.kind.eventType db
    have claimedRows := claimEvent_fresh now notification.kind.eventType db seen
    have reaches : getBillableResource claimed resourceType resourceId = some (some ownerId) := by
      simp only [claimed, frame]
      exact exists_
    obtain ⟨status, processed, plans, still⟩ :=
      handleSubscriptionEvent_status subscription now notification claimed names reaches
    rw [result]
    refine ⟨?_, plans.trans (by simp only [claimed, frame]), resourceType, resourceId, ownerId,
      resource, still⟩
    rw [Inbox.receive_fresh notification seen]
    have search : findSubscription claimed subscription.id resourceType resourceId
        = findSubscription db subscription.id resourceType resourceId :=
      findSubscription_congr (by simp only [claimed, frame]) _ _ _
    have plan : firstActivePlan claimed = firstActivePlan db := by
      simp only [claimed, frame, firstActivePlan]
    rw [search, plan] at status
    simp only [statusInbox, rowStatus, subscriptionRow, resource, status, processed]
    simp only [claimed, claimedRows, Notification.ident]

/-- Deliveries to a resource are a run of the receiver, by induction from the last one. -/
theorem deliverAll_handled {subscription : PaddleSubscription} {db : Database}
    (handled : Handled subscription db) (deliveries : List (Instant × Notification))
    : let next := deliveries.foldl (deliver subscription) db
      statusInbox subscription next
        = (statusInbox subscription db).receiveAll Notification.ident
            (overwriteStatus (firstActivePlan db).isSome) (deliveries.map Prod.snd)
      ∧ next.plans = db.plans
      ∧ Handled subscription next := by
  induction deliveries using List.reverseRecOn with
  | nil => exact ⟨rfl, rfl, handled⟩
  | append_singleton deliveries delivery ih =>
      obtain ⟨inbox, plans, still⟩ := ih
      obtain ⟨received, kept, finally_⟩ := deliver_handled still delivery
      have plan : firstActivePlan (deliveries.foldl (deliver subscription) db)
          = firstActivePlan db := by
        simp only [firstActivePlan, plans]
      simp only [List.foldl_append, List.foldl_cons, List.foldl_nil, List.map_append,
        List.map_singleton, Inbox.receiveAll_concat, received, inbox, plan]
      exact ⟨trivial, kept.trans plans, finally_⟩

theorem deliver_unhandled {subscription : PaddleSubscription} {db : Database}
    (unhandled : ¬ Handled subscription db) (delivery : Instant × Notification)
    : let next := deliver subscription db delivery
      rowStatus subscription next = rowStatus subscription db
      ∧ ¬ Handled subscription next := by
  obtain ⟨now, notification⟩ := delivery
  have unchanged (events : Table ProcessedWebhookEvent.eventId)
      : rowStatus subscription { db with processedWebhookEvents := events }
          = rowStatus subscription db
        ∧ ¬ Handled subscription { db with processedWebhookEvents := events } :=
    ⟨rfl, unhandled⟩
  suffices reached : ∃ events,
      deliver subscription db (now, notification)
        = { db with processedWebhookEvents := events } by
    obtain ⟨events, same⟩ := reached
    simp only [same]
    exact unchanged events
  rw [deliver_eq]
  split
  · exact ⟨db.processedWebhookEvents, rfl⟩
  · split
    · exact ⟨db.processedWebhookEvents, rfl⟩
    · rename_i customData carried
      obtain ⟨events, frame⟩ :=
        claimEvent_frame now notification.eventId.val notification.kind.eventType db
      refine ⟨events, ?_⟩
      rw [frame]
      unfold handleSubscriptionEvent
      split
      · rename_i subscriptionId resourceType resourceId _ names
        have resource : subscription.resource = some (resourceType, resourceId) := by
          simp [PaddleSubscription.resource, carried, names]
        split
        · rfl
        · rfl
        · rename_i ownerId found
          exact absurd ⟨resourceType, resourceId, ownerId, resource, found⟩ unhandled
      · rfl

/-- Deliveries that reach no resource leave the status alone, by induction on them. -/
theorem finalStatus_unhandled {subscription : PaddleSubscription} {db : Database}
    (unhandled : ¬ Handled subscription db) (deliveries : List (Instant × Notification))
    : finalStatus subscription db deliveries = rowStatus subscription db := by
  unfold finalStatus
  induction deliveries generalizing db with
  | nil => rfl
  | cons delivery rest ih =>
      obtain ⟨same, still⟩ := deliver_unhandled unhandled delivery
      exact (ih still).trans same

theorem finalStatus_handled {subscription : PaddleSubscription} {db : Database}
    (handled : Handled subscription db) (deliveries : List (Instant × Notification))
    : finalStatus subscription db deliveries
      = ((statusInbox subscription db).receiveAll
          Notification.ident
          (overwriteStatus (firstActivePlan db).isSome) (deliveries.map Prod.snd)).state :=
  congrArg Inbox.state (deliverAll_handled handled deliveries).1

/-- The notifications write to the row: it exists or can be created. -/
def Writes (subscription : PaddleSubscription) (db : Database) : Prop :=
  Handled subscription db
  ∧ ((rowStatus subscription db).isSome = true ∨ (firstActivePlan db).isSome = true)

theorem finalStatus_idle {subscription : PaddleSubscription} {db : Database}
    (idle : ¬ Writes subscription db) (deliveries : List (Instant × Notification))
    : finalStatus subscription db deliveries = rowStatus subscription db := by
  by_cases handled : Handled subscription db
  · have missing : rowStatus subscription db = none := by
      cases status : rowStatus subscription db with
      | none => rfl
      | some _ => exact absurd ⟨handled, .inl (by simp [status])⟩ idle
    have planless : (firstActivePlan db).isSome = false := by
      cases planned : (firstActivePlan db).isSome with
      | false => rfl
      | true => exact absurd ⟨handled, .inr planned⟩ idle
    rw [finalStatus_handled handled, missing]
    refine Inbox.receiveAll_invariant (fun status => status = none) ?_ missing
    intro notification _ status none
    simp [overwriteStatus, none, planless]
  · exact finalStatus_unhandled handled deliveries

section Writing

variable {subscription : PaddleSubscription} {db : Database}

/-- A row exists or can be created, whatever has arrived so far. -/
private def Present (db : Database) (status : Option BillingSubscriptionStatus) : Prop :=
  status.isSome = true ∨ (firstActivePlan db).isSome = true

private theorem present_overwrite {notification : Notification}
    {status : Option BillingSubscriptionStatus} (present : Present db status)
    : Present db (overwriteStatus (firstActivePlan db).isSome status notification) := by
  unfold overwriteStatus Present at *
  cases status <;> cases notification.cancels <;> simp_all

private theorem overwrite_active {notification : Notification}
    {status : Option BillingSubscriptionStatus} (present : Present db status)
    (grants : notification.cancels = false)
    : overwriteStatus (firstActivePlan db).isSome status notification = some .active := by
  unfold overwriteStatus Present at *
  cases status <;> simp_all

theorem finalStatus_active (writes : Writes subscription db) {notification : Notification}
    (grants : notification.cancels = false)
    (fresh : notification.ident ∉ (statusInbox subscription db).seen)
    {deliveries : List (Instant × Notification)} (time : Instant)
    (first : ∀ other ∈ deliveries.map Prod.snd, other.ident ≠ notification.ident)
    : finalStatus subscription db (deliveries ++ [(time, notification)]) = some .active := by
  rw [finalStatus_handled writes.1, List.map_append, List.map_singleton,
    Inbox.receiveAll_last fresh first]
  refine overwrite_active ?_ grants
  exact Inbox.receiveAll_invariant (Present db) (fun _ _ _ => present_overwrite) writes.2

theorem finalStatus_cancelled (writes : Writes subscription db)
    {opening notification : Notification} (grants : opening.cancels = false)
    (cancels : notification.cancels = true)
    (opens : opening.ident ∉ (statusInbox subscription db).seen)
    (fresh : notification.ident ∉ (statusInbox subscription db).seen)
    {deliveries : List (Instant × Notification)} (time : Instant)
    (first : ∀ other ∈ opening :: deliveries.map Prod.snd, other.ident ≠ notification.ident)
    : finalStatus subscription db ((time, opening) :: deliveries ++ [(time, notification)])
      = some .cancelled := by
  rw [finalStatus_handled writes.1, List.map_append, List.map_singleton, List.map_cons,
    Inbox.receiveAll_last fresh first, Inbox.receiveAll_cons,
    Inbox.receive_fresh opening opens]
  have opened := overwrite_active writes.2 grants
  have kept : (Inbox.receiveAll Notification.ident
      (overwriteStatus (firstActivePlan db).isSome)
      ⟨(statusInbox subscription db).seen ++ [opening.ident], some .active⟩
      (deliveries.map Prod.snd)).state.isSome = true := by
    refine Inbox.receiveAll_invariant (fun status => Option.isSome status = true) ?_ rfl
    intro other _ status present
    unfold overwriteStatus
    cases status <;> cases other.cancels <;> simp_all
  change overwriteStatus _ (Inbox.receiveAll _ _ ⟨_, overwriteStatus _ _ opening⟩ _).state _ = _
  rw [show (statusInbox subscription db).state = rowStatus subscription db from rfl, opened]
  obtain ⟨status, present⟩ := Option.isSome_iff_exists.mp kept
  rw [present]
  simp [overwriteStatus, cancels]

theorem finalStatus_noneCancels (writes : Writes subscription db)
    {deliveries : List (Instant × Notification)}
    (none_ : ∀ notification ∈ deliveries.map Prod.snd, notification.cancels = false)
    (arrives
      : ∃ notification ∈ deliveries.map Prod.snd,
          notification.ident ∉ (statusInbox subscription db).seen)
    : finalStatus subscription db deliveries = some .active := by
  rw [finalStatus_handled writes.1]
  refine Inbox.receiveAll_reaches (Present db) (fun status => status = some .active) ?_ ?_
    writes.2 arrives
  · intro notification member status present
    exact overwrite_active present (none_ notification member)
  · rintro status rfl
    exact .inl rfl

theorem finalStatus_allCancel (writes : Writes subscription db)
    {deliveries : List (Instant × Notification)}
    (all : ∀ notification ∈ deliveries.map Prod.snd, notification.cancels = true)
    (arrives
      : ∃ notification ∈ deliveries.map Prod.snd,
          notification.ident ∉ (statusInbox subscription db).seen)
    : finalStatus subscription db deliveries
      = (rowStatus subscription db).map (fun _ => .cancelled) := by
  rw [finalStatus_handled writes.1]
  refine Inbox.receiveAll_reaches
    (fun status => status.map (fun _ => BillingSubscriptionStatus.cancelled)
      = (rowStatus subscription db).map (fun _ => .cancelled))
    (fun status => status = (rowStatus subscription db).map (fun _ => .cancelled)) ?_ ?_ rfl
    arrives
  · intro notification member status same
    simpa [overwriteStatus, all notification member] using same
  · rintro status rfl
    rw [Option.map_map]
    rfl

theorem finalStatus_cancel_last (writes : Writes subscription db) {notification : Notification}
    (cancels : notification.cancels = true) {deliveries : List (Instant × Notification)}
    (time : Instant) (before : finalStatus subscription db deliveries ≠ some .active)
    : finalStatus subscription db (deliveries ++ [(time, notification)]) ≠ some .active := by
  rw [finalStatus_handled writes.1] at before ⊢
  rw [List.map_append, List.map_singleton, Inbox.receiveAll_concat]
  by_cases seen : notification.ident ∈ (Inbox.receiveAll Notification.ident
      (overwriteStatus (firstActivePlan db).isSome) (statusInbox subscription db)
      (deliveries.map Prod.snd)).seen
  · rwa [Inbox.receive_seen notification seen]
  · rw [Inbox.receive_fresh notification seen]
    simp [overwriteStatus, cancels]

end Writing

theorem delivers_once (events : List Notification)
    : Delivers events (events.map (fun event => (0, event))) := by
  intro notification
  simp

/-- The deliveries of all notifications but one. -/
private def others (events : List Notification) (notification : Notification)
    : List (Instant × Notification) :=
  (events.filter (fun event => event ≠ notification)).map (fun event => (0, event))

private theorem mem_others {events : List Notification} {notification other : Notification}
    : other ∈ (others events notification).map Prod.snd
      ↔ other ∈ events ∧ other ≠ notification := by
  simp [others]

theorem delivers_last {events : List Notification} {notification : Notification}
    (member : notification ∈ events)
    : Delivers events (others events notification ++ [(0, notification)]) := by
  intro other
  rw [List.map_append, List.mem_append, mem_others]
  by_cases same : other = notification
  · simp [same, member]
  · simp [same]

theorem delivers_between {events : List Notification} {opening notification : Notification}
    (first : opening ∈ events) (member : notification ∈ events)
    : Delivers events ((0, opening) :: others events notification ++ [(0, notification)]) := by
  intro other
  have covered := delivers_last member other
  rw [List.cons_append, List.map_cons, List.mem_cons, covered]
  constructor
  · rintro (rfl | member)
    · exact first
    · exact member
  · exact .inr

/-- When the final status neither depends on the order nor entitles wrongly: notifications that
write to the row must all cancel it, or none of them while the last state entitles; others must
not leave a row that entitles wrongly.
-/
def OrderCondition (subscription : PaddleSubscription) (db : Database)
    (events : List Notification) (last : Notification)
    : Prop :=
  (Writes subscription db
    → (∀ event ∈ events, event.cancels = true)
      ∨ ((∀ event ∈ events, event.cancels = false) ∧ last.entitles = true))
  ∧ (¬ Writes subscription db
    → Entitling (rowStatus subscription db)
    → last.entitles = true)

theorem orderInsensitive_idle {subscription : PaddleSubscription} {db : Database}
    {events : List Notification} {last : Notification} (idle : ¬ Writes subscription db)
    : OrderInsensitive subscription db events last
      ↔ (Entitling (rowStatus subscription db) → last.entitles = true) := by
  constructor
  · intro insensitive entitles
    refine insensitive.truthful _ (delivers_once events) ?_
    rwa [finalStatus_idle idle]
  · intro truthful
    refine ⟨?_, ?_, ?_⟩
    · intro left right _ _
      rw [finalStatus_idle idle, finalStatus_idle idle]
    · intro deliveries _ entitles
      rw [finalStatus_idle idle] at entitles
      exact truthful entitles
    · intro before time event after _ _ _ _ _ inactive
      rw [finalStatus_idle idle] at inactive ⊢
      exact inactive

theorem mixed_disagrees {subscription : PaddleSubscription} {db : Database}
    {events : List Notification} (writes : Writes subscription db)
    (distinct : ∀ left ∈ events, ∀ right ∈ events, left.ident = right.ident → left = right)
    (fresh : ∀ event ∈ events, event.ident ∉ (statusInbox subscription db).seen)
    {granting cancelling : Notification} (first : granting ∈ events)
    (second : cancelling ∈ events) (grants : granting.cancels = false)
    (cancels : cancelling.cancels = true)
    : ∃ left right, Delivers events left ∧ Delivers events right
        ∧ finalStatus subscription db left ≠ finalStatus subscription db right := by
  refine ⟨_, _, delivers_last first, delivers_between first second, ?_⟩
  rw [finalStatus_active writes grants (fresh granting first) 0 ?_,
    finalStatus_cancelled writes grants cancels (fresh granting first)
      (fresh cancelling second) 0 ?_]
  · decide
  · intro other member same
    rcases List.mem_cons.mp member with rfl | later
    · have equal := distinct other first cancelling second same
      rw [equal, cancels] at grants
      contradiction
    · obtain ⟨stored, different⟩ := mem_others.mp later
      exact different (distinct other stored cancelling second same)
  · intro other member same
    obtain ⟨stored, different⟩ := mem_others.mp member
    exact different (distinct other stored granting first same)

/-- Redelivery and reordering do no harm exactly under the condition above. -/
theorem webhooks_order_insensitive_iff (subscription : PaddleSubscription) {db : Database}
    {events : List Notification} {last : Notification} (latest : IsLast events last)
    (distinct : ∀ left ∈ events, ∀ right ∈ events, left.ident = right.ident → left = right)
    (fresh
      : ∀ event ∈ events,
          event.ident ∉ db.processedWebhookEvents.rows.map ProcessedWebhookEvent.eventId)
    : OrderInsensitive subscription db events last
      ↔ OrderCondition subscription db events last := by
  unfold OrderCondition
  by_cases writes : Writes subscription db
  · have arrives {deliveries : List (Instant × Notification)}
        (covers : Delivers events deliveries)
        : ∃ notification ∈ deliveries.map Prod.snd,
            notification.ident ∉ (statusInbox subscription db).seen :=
      ⟨last, (covers last).mpr latest.1, fresh last latest.1⟩
    simp only [writes, true_imp_iff, not_true, false_imp_iff, and_true]
    constructor
    · intro insensitive
      by_cases granting : ∃ event ∈ events, event.cancels = false
      · obtain ⟨opening, first, grants⟩ := granting
        have none_ : ∀ event ∈ events, event.cancels = false := by
          intro event second
          by_contra cancels
          obtain ⟨left, right, one, two, differ⟩ :=
            mixed_disagrees writes distinct fresh first second grants
              (by simpa using cancels)
          exact differ (insensitive.agree left right one two)
        refine .inr ⟨none_, ?_⟩
        have covers := delivers_once events
        refine insensitive.truthful _ covers (.inl ?_)
        exact finalStatus_noneCancels writes
          (fun event member => none_ event ((covers event).mp member)) (arrives covers)
      · refine .inl (fun event member => ?_)
        by_contra grants
        exact granting ⟨event, member, by simpa using grants⟩
    · rintro (all | ⟨none_, entitles⟩)
      · have final {deliveries : List (Instant × Notification)}
            (covers : Delivers events deliveries) :=
          finalStatus_allCancel writes
            (fun event member => all event ((covers event).mp member)) (arrives covers)
        refine ⟨?_, ?_, ?_⟩
        · intro left right one two
          rw [final one, final two]
        · intro deliveries covers entitling
          rw [final covers] at entitling
          cases status : rowStatus subscription db <;> simp [Entitling, status] at entitling
        · intro before time event after covers _ _ _ _ inactive
          have member : event ∈ events := (covers event).mp (by simp)
          exact finalStatus_cancel_last writes (all event member) time inactive
      · have final {deliveries : List (Instant × Notification)}
            (covers : Delivers events deliveries) :=
          finalStatus_noneCancels writes
            (fun event member => none_ event ((covers event).mp member)) (arrives covers)
        refine ⟨?_, fun _ _ _ => entitles, ?_⟩
        · intro left right one two
          rw [final one, final two]
        · intro before time event after covers canceled member cancels
          have stored : canceled ∈ events := (covers canceled).mp (by
            rw [List.map_append]
            exact List.mem_append_left _ member)
          rw [none_ canceled stored] at cancels
          contradiction
  · simp only [writes, false_imp_iff, not_false_eq_true, true_imp_iff, true_and]
    exact orderInsensitive_idle writes

private def orderedServer : Server where
  id := 0
  nodeId := none
  ownerId := 1
  worldName := "world"
  lastActivity := 0

private def orderedPlan : BillingPlan where
  id := "basic"
  ramMb := 512
  cpuLimit := 50
  storageMb := 2048
  playerLimit := 10
  price := 19900
  durationDays := 30

private def beforeNotifications : Database where
  servers := ⟨[orderedServer], by decide⟩
  plans := ⟨[orderedPlan], by decide⟩

private def orderedSubscription : PaddleSubscription where
  id := ⟨"sub_1", by decide⟩
  customData := .value { serverId := .value "00000000-0000-0000-0000-000000000000" }

private def createdNotification : Notification where
  eventId := ⟨"evt_1", by decide⟩
  kind := .created
  status := .value "active"
  occurredAt := 1

private def updatedNotification : Notification where
  eventId := ⟨"evt_2", by decide⟩
  kind := .updated
  status := .value "active"
  occurredAt := 2

private def canceledNotification : Notification where
  eventId := ⟨"evt_3", by decide⟩
  kind := .canceled
  status := .value "canceled"
  occurredAt := 3

/-- A created and an updated notification of an active subscription commute. -/
theorem active_notifications_commute
    : OrderInsensitive orderedSubscription beforeNotifications
        [createdNotification, updatedNotification] updatedNotification :=
  (webhooks_order_insensitive_iff orderedSubscription ⟨by decide, by decide⟩ (by decide)
    (by decide)).mpr ⟨fun _ => .inr ⟨by decide, by decide⟩, fun _ _ => by decide⟩

/-- Any delivery of the notifications of one subscription is harmless. -/
def WebhooksOrderInsensitive : Prop :=
  ∀ (subscription : PaddleSubscription) (db : Database) (events : List Notification)
    (last : Notification),
    IsLast events last
  → (∀ left ∈ events, ∀ right ∈ events, left.ident = right.ident → left = right)
  → (∀ event ∈ events,
      event.ident ∉ db.processedWebhookEvents.rows.map ProcessedWebhookEvent.eventId)
  → OrderInsensitive subscription db events last

/-- A creation that arrives after the cancellation makes the subscription active again. -/
theorem late_creation_reactivates : ¬ WebhooksOrderInsensitive := by
  intro insensitive
  have reordered : Delivers [createdNotification, canceledNotification]
      [(0, canceledNotification), (1, createdNotification)] := by
    intro notification
    simp [or_comm]
  have entitles := (insensitive orderedSubscription beforeNotifications
    [createdNotification, canceledNotification] canceledNotification ⟨by decide, by decide⟩
    (by decide) (by decide)).truthful _ reordered (.inl (by decide))
  exact absurd entitles (by decide)

end Blockhost
