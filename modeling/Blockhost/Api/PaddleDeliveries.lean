import Blockhost.Api.PaddleWebhook

/-! Deliveries of the Paddle webhook as steps over the committed database: which of them reach a
handler, and everything that a handler can change.
-/

namespace Blockhost

open Library

/-- One delivery, with the random part of a made-up transaction identifier. -/
structure PaddleDelivery where
  time : Instant
  suffix : String := ""
  authentic : Bool := true
  body : Option PaddlePayload

structure HandledEvent where
  eventId : String
  eventType : String
  data : PaddleData
  customData : CustomData
deriving DecidableEq, Repr

def PaddleDelivery.event (delivery : PaddleDelivery) : Option HandledEvent :=
  if !delivery.authentic then none
  else
    match delivery.body with
    | none => none
    | some payload =>
        match payload.eventId.nonempty, payload.eventType.nonempty with
        | some eventId, some eventType =>
            if eventType ∈ subscriptionEvents ∨ eventType = "transaction.completed" then
              (payload.data.getD {}).bind (fun data =>
                (data.customData.getD {}).map (fun customData =>
                  { eventId, eventType, data, customData }))
            else none
        | _, _ => none

def recorded (db : Database) (eventId : String) : Bool :=
  (db.processedWebhookEvents.get? eventId).isSome

def PaddleDelivery.handled (db : Database) (delivery : PaddleDelivery) : Option HandledEvent :=
  delivery.event.filter (fun event => !recorded db event.eventId)

/-- The committed database after a delivery; a call that raises is rolled back. -/
def PaddleDelivery.apply (delivery : PaddleDelivery) (db : Database) : Database :=
  match paddleWebhook delivery.time delivery.suffix delivery.authentic delivery.body db with
  | .error _ => db
  | .ok (next, _) => next

/-- The ledger already has the transaction of a notification. -/
def transactionStored (db : Database) (suffix : String) (data : PaddleData) : Bool :=
  match data.id.getD ("txn_unknown_" ++ suffix) with
  | none => false
  | some transactionId =>
      db.transactions.rows.any (fun tx => tx.providerOrderId = transactionId)

def HandledEvent.perform (event : HandledEvent) (delivery : PaddleDelivery) (claimed : Database)
    : Except WebhookFailure (Database × List ProvisionTask) :=
  if event.eventType ∈ subscriptionEvents then
    .ok (handleSubscriptionEvent delivery.time event.eventType event.data event.customData
      claimed)
  else
    handleTransactionCompleted delivery.time delivery.suffix event.data event.customData claimed

/-- What the webhook makes of a delivery: the rows to commit, and the tasks of the background. -/
def PaddleDelivery.outcome (delivery : PaddleDelivery) (db : Database)
    : Except WebhookFailure (Database × List ProvisionTask) :=
  paddleWebhook delivery.time delivery.suffix delivery.authentic delivery.body db

theorem PaddleDelivery.outcome_no_event {delivery : PaddleDelivery} (db : Database)
    (absent : delivery.event = none)
    : delivery.outcome db = .ok (db, []) ∨ ∃ failure, delivery.outcome db = .error failure := by
  unfold event at absent
  unfold outcome paddleWebhook
  split at absent
  · rename_i forged
    rw [if_pos forged]
    exact .inr ⟨_, rfl⟩
  · rename_i authentic
    rw [if_neg authentic]
    cases body : delivery.body with
    | none => exact .inr ⟨_, rfl⟩
    | some payload =>
        cases named : payload.eventId.nonempty with
        | none => exact .inl (by simp only [named])
        | some eventId =>
            cases typed : payload.eventType.nonempty with
            | none => exact .inl (by simp only [named, typed])
            | some eventType =>
                simp only [body, named, typed] at absent ⊢
                by_cases known : (db.processedWebhookEvents.get? eventId).isSome
                · rw [if_pos known]
                  exact .inl rfl
                · rw [if_neg known]
                  split at absent
                  · rename_i kind
                    rw [if_pos kind]
                    cases carried : payload.data.getD {} with
                    | none => exact .inr ⟨_, rfl⟩
                    | some data =>
                        rw [carried, Option.bind_some, Option.map_eq_none_iff] at absent
                        simp only [absent]
                        exact .inr ⟨_, rfl⟩
                  · rename_i other
                    rw [if_neg other]
                    exact .inl rfl

theorem PaddleDelivery.outcome_event {delivery : PaddleDelivery} (db : Database)
    {event : HandledEvent} (carried : delivery.event = some event)
    : (event.eventType ∈ subscriptionEvents ∨ event.eventType = "transaction.completed")
      ∧ delivery.outcome db
        = if recorded db event.eventId then .ok (db, [])
          else
            event.perform delivery
              (claimEvent delivery.time event.eventId event.eventType db) := by
  unfold PaddleDelivery.event at carried
  split at carried
  · cases carried
  · rename_i authentic
    cases body : delivery.body with
    | none =>
        simp only [body] at carried
        cases carried
    | some payload =>
        simp only [body] at carried
        split at carried
        · rename_i eventId eventType named typed
          split at carried
          · rename_i kind
            obtain ⟨data, held, rest⟩ := Option.bind_eq_some_iff.mp carried
            obtain ⟨customData, custom, rfl⟩ := Option.map_eq_some_iff.mp rest
            refine ⟨kind, ?_⟩
            unfold outcome paddleWebhook HandledEvent.perform recorded
            simp only [if_neg authentic, body, named, typed, if_pos kind, held, custom]
          · cases carried
        · cases carried

theorem PaddleDelivery.apply_no_event {delivery : PaddleDelivery} (db : Database)
    (absent : delivery.event = none)
    : delivery.apply db = db := by
  change (match delivery.outcome db with
    | .error _ => db
    | .ok (next, _) => next) = db
  rcases outcome_no_event db absent with ignored | ⟨failure, raised⟩
  · rw [ignored]
  · rw [raised]

theorem PaddleDelivery.apply_event {delivery : PaddleDelivery} (db : Database)
    {event : HandledEvent} (carried : delivery.event = some event)
    : (event.eventType ∈ subscriptionEvents ∨ event.eventType = "transaction.completed")
      ∧ delivery.apply db
        = if recorded db event.eventId then db
          else
            match event.perform delivery
              (claimEvent delivery.time event.eventId event.eventType db) with
            | .error _ => db
            | .ok (next, _) => next := by
  obtain ⟨kind, outcome⟩ := outcome_event db carried
  refine ⟨kind, ?_⟩
  change (match delivery.outcome db with
    | .error _ => db
    | .ok (next, _) => next) = _
  rw [outcome]
  by_cases known : recorded db event.eventId = true
  · simp only [if_pos known]
  · simp only [if_neg known]

theorem PaddleDelivery.apply_unhandled {delivery : PaddleDelivery} {db : Database}
    (unhandled : delivery.handled db = none)
    : delivery.apply db = db := by
  cases carried : delivery.event with
  | none => exact apply_no_event db carried
  | some event =>
      have known : recorded db event.eventId = true := by
        simpa [handled, carried] using unhandled
      rw [(apply_event db carried).2, if_pos known]

theorem PaddleDelivery.handled_some {delivery : PaddleDelivery} {db : Database}
    {event : HandledEvent}
    : delivery.handled db = some event
      ↔ delivery.event = some event ∧ recorded db event.eventId = false := by
  rw [handled, Option.filter_eq_some_iff]
  simp

-- What a handler changes

/-- The row that an event makes active: the one its handler selects, unless the event cancels or
its transaction is not stored.
-/
def HandledEvent.activatedRow (event : HandledEvent) (suffix : String) (db : Database)
    : Option BillingSubscription :=
  match namedResource event.customData with
  | none => none
  | some (resourceType, resourceId) =>
      match getBillableResource db resourceType resourceId with
      | none => none
      | some ownerId? =>
          if event.eventType ∈ subscriptionEvents then
            if cancelsSubscription event.eventType event.data || ownerId?.isNone then none
            else event.data.id.nonempty.bind (findSubscription db · resourceType resourceId)
          else if transactionStored db suffix event.data then
            event.data.subscriptionId.nonempty.bind
              (findSubscription db · resourceType resourceId)
          else none

def HandledEvent.cancelledRow (event : HandledEvent) (db : Database)
    : Option BillingSubscription :=
  match event.data.id.nonempty, namedResource event.customData with
  | some subscriptionId, some (resourceType, resourceId) =>
      match getBillableResource db resourceType resourceId with
      | none | some none => none
      | some (some _) =>
          if event.eventType ∈ subscriptionEvents
              ∧ cancelsSubscription event.eventType event.data = true then
            findSubscription db subscriptionId resourceType resourceId
          else none
  | _, _ => none

/-- Everything that a handler can do to the database. -/
inductive PaddleChange (event : HandledEvent) (delivery : PaddleDelivery)
    (db next : Database)
    : Prop where
  | ignored (same : next = db)
  | cancelled (subscriptionId : String) (resourceType : ResourceType) (resourceId : Uuid)
      (selected
        : event.cancelledRow db = findSubscription db subscriptionId resourceType resourceId)
      (result
        : next
          = stopResource resourceType resourceId
              (markCancelled delivery.time subscriptionId (event.cancelledRow db) db))
  | added (subscriptionId : String) (resourceType : ResourceType) (resourceId ownerId : Uuid)
      (plan : BillingPlan)
      (billable : (getBillableResource db resourceType resourceId).isSome = true)
      (missing : findSubscription db subscriptionId resourceType resourceId = none)
      (result
        : next
          = addPaddleSubscription delivery.time subscriptionId resourceType resourceId ownerId
              plan db)
  | activated (subscriptionId : String) (row : BillingSubscription)
      (found : event.activatedRow delivery.suffix db = some row)
      (stored : row ∈ db.subscriptions.rows)
      (result : next = markStored delivery.time .active subscriptionId row db)

theorem findSubscription_mem {db : Database} {subscriptionId : String}
    {resourceType : ResourceType} {resourceId : Uuid} {row : BillingSubscription}
    (found : findSubscription db subscriptionId resourceType resourceId = some row)
    : row ∈ db.subscriptions.rows := by
  unfold findSubscription at found
  split at found
  · rename_i first
    cases found
    exact List.mem_of_find?_eq_some first
  · exact (List.mem_filter.mp (latest_some found).1).1

@[simp] theorem markSubscription_paysFor (now : Instant) (status : BillingSubscriptionStatus)
    (subscriptionId : String) (row : BillingSubscription) (resourceType : ResourceType)
    (id : Uuid)
    : (markSubscription now status subscriptionId row).paysFor resourceType id
      = row.paysFor resourceType id := by
  unfold markSubscription
  split <;> rfl

theorem markStored_source {now : Instant} {status : BillingSubscriptionStatus}
    {subscriptionId : String} {row : BillingSubscription} {db : Database}
    {marked : BillingSubscription}
    (member : marked ∈ (markStored now status subscriptionId row db).subscriptions.rows)
    : ∃ source ∈ db.subscriptions.rows,
        marked.id = source.id
        ∧ marked.serverId = source.serverId
        ∧ (∀ resourceType id, marked.paysFor resourceType id = source.paysFor resourceType id)
        ∧ (source.id = row.id ∧ marked.status = status
          ∨ source.id ≠ row.id ∧ marked = source) := by
  change marked ∈ (db.subscriptions.modify row.id _).rows at member
  rw [Table.rows_modify] at member
  obtain ⟨source, stored, rfl⟩ := List.mem_map.mp member
  refine ⟨source, stored, ?_⟩
  dsimp only
  split
  · rename_i same
    exact ⟨by simp, by simp, by simp, .inl ⟨same, by simp⟩⟩
  · rename_i other
    exact ⟨rfl, rfl, fun _ _ => rfl, .inr ⟨other, rfl⟩⟩

theorem markStored_kept (now : Instant) (status : BillingSubscriptionStatus)
    (subscriptionId : String) (row : BillingSubscription) {db : Database}
    {kept : BillingSubscription} (member : kept ∈ db.subscriptions.rows)
    : ∃ marked ∈ (markStored now status subscriptionId row db).subscriptions.rows,
        marked.id = kept.id ∧ marked.serverId = kept.serverId := by
  change ∃ marked ∈ (db.subscriptions.modify row.id _).rows, _
  rw [Table.rows_modify]
  refine ⟨_, List.mem_map_of_mem member, ?_⟩
  dsimp only
  split
  · exact ⟨by simp, by simp⟩
  · exact ⟨rfl, rfl⟩

theorem handleSubscriptionEvent_change {event : HandledEvent} (delivery : PaddleDelivery)
    (db : Database) (listed : event.eventType ∈ subscriptionEvents)
    : PaddleChange event delivery db
        (handleSubscriptionEvent delivery.time event.eventType event.data event.customData
          db).1 := by
  unfold handleSubscriptionEvent
  split
  · rename_i subscriptionId resourceType resourceId named resource
    split
    · exact .ignored rfl
    · exact .ignored rfl
    · rename_i ownerId owned
      dsimp only
      by_cases cancels : cancelsSubscription event.eventType event.data = true
      · rw [if_pos cancels]
        have selected
            : event.cancelledRow db
              = findSubscription db subscriptionId resourceType resourceId := by
          simp [HandledEvent.cancelledRow, named, resource, owned, listed, cancels]
        exact .cancelled subscriptionId resourceType resourceId selected (by rw [selected])
      · rw [if_neg cancels]
        cases found : findSubscription db subscriptionId resourceType resourceId with
        | none =>
            cases firstActivePlan db with
            | none => exact .ignored rfl
            | some plan =>
                exact .added subscriptionId resourceType resourceId ownerId plan
                  (by rw [owned]; rfl) found rfl
        | some row =>
            refine .activated subscriptionId row ?_ (findSubscription_mem found) rfl
            simp [HandledEvent.activatedRow, resource, owned, listed, cancels, named, found]
  · exact .ignored rfl

theorem handleTransactionCompleted_billable (now : Instant) (suffix : String)
    {data : PaddleData} {customData : CustomData} {db : Database}
    {resourceType : ResourceType} {resourceId : Uuid} {ownerId? : Option Uuid}
    (named : namedResource customData = some (resourceType, resourceId))
    (owned : getBillableResource db resourceType resourceId = some ownerId?)
    : handleTransactionCompleted now suffix data customData db
      = match data.subscriptionId.nonempty, transactionStored db suffix data with
        | none, false => .error (.raised "UnboundLocalError")
        | some _, false => .error (.raised "AttributeError")
        | none, true => .ok (db, [(resourceType, resourceId)])
        | some subscriptionId, true =>
            (grantTransaction now subscriptionId resourceType resourceId ownerId? db).map
              (fun granted => (granted, [(resourceType, resourceId)])) := by
  unfold handleTransactionCompleted
  rw [named]
  simp only [owned]
  rfl

theorem handleTransactionCompleted_change {event : HandledEvent} {delivery : PaddleDelivery}
    {db next : Database} {tasks : List ProvisionTask}
    (unlisted : event.eventType ∉ subscriptionEvents)
    (answered
      : handleTransactionCompleted delivery.time delivery.suffix event.data event.customData db
        = .ok (next, tasks))
    : PaddleChange event delivery db next := by
  cases resource : namedResource event.customData with
  | none =>
      rw [handleTransactionCompleted, resource] at answered
      cases answered
      exact .ignored rfl
  | some named =>
      obtain ⟨resourceType, resourceId⟩ := named
      cases owned : getBillableResource db resourceType resourceId with
      | none =>
          rw [handleTransactionCompleted, resource] at answered
          simp only [owned] at answered
          cases answered
          exact .ignored rfl
      | some ownerId? =>
          rw [handleTransactionCompleted_billable _ _ resource owned] at answered
          split at answered
          · cases answered
          · cases answered
          · cases answered
            exact .ignored rfl
          · rename_i subscriptionId named stored
            cases granted : grantTransaction delivery.time subscriptionId resourceType resourceId
                ownerId? db with
            | error failure =>
                rw [granted] at answered
                cases answered
            | ok result =>
                rw [granted] at answered
                cases answered
                unfold grantTransaction at granted
                split at granted
                · rename_i row found
                  cases granted
                  refine .activated subscriptionId row ?_ (findSubscription_mem found) rfl
                  simp [HandledEvent.activatedRow, resource, owned, unlisted, stored, named, found]
                · rename_i missing
                  split at granted
                  · cases granted
                    exact .ignored rfl
                  · cases granted
                  · cases granted
                    exact .added subscriptionId resourceType resourceId _ _ (by rw [owned]; rfl)
                      missing rfl

theorem PaddleDelivery.apply_change (delivery : PaddleDelivery) (db : Database)
    : delivery.apply db = db
      ∨ ∃ event, delivery.handled db = some event
          ∧ PaddleChange event delivery
              (claimEvent delivery.time event.eventId event.eventType db)
              (delivery.apply db) := by
  cases reached : delivery.handled db with
  | none => exact .inl (apply_unhandled reached)
  | some event =>
      obtain ⟨carried, fresh⟩ := handled_some.mp reached
      rw [(apply_event db carried).2, fresh]
      cases performed : event.perform delivery
          (claimEvent delivery.time event.eventId event.eventType db) with
      | error failure => exact .inl rfl
      | ok result =>
          refine .inr ⟨event, rfl, ?_⟩
          unfold HandledEvent.perform at performed
          split at performed
          · rename_i listed
            cases performed
            exact handleSubscriptionEvent_change delivery _ listed
          · rename_i unlisted
            exact handleTransactionCompleted_change unlisted performed

theorem PaddleDelivery.apply_cancelled {delivery : PaddleDelivery} {db : Database}
    {event : HandledEvent} {row : BillingSubscription}
    (reached : delivery.handled db = some event) (selected : event.cancelledRow db = some row)
    : ∃ processed resourceType resourceId subscriptionId,
        delivery.apply db
        = stopResource resourceType resourceId
            (markStored delivery.time .cancelled subscriptionId row
              { db with processedWebhookEvents := processed }) := by
  obtain ⟨carried, fresh⟩ := handled_some.mp reached
  obtain ⟨processed, claimed⟩ := claimEvent_frame delivery.time event.eventId event.eventType db
  unfold HandledEvent.cancelledRow at selected
  split at selected
  · rename_i subscriptionId resourceType resourceId named resource
    split at selected
    · cases selected
    · cases selected
    · rename_i owner owned
      split at selected
      · rename_i cancels
        refine ⟨processed, resourceType, resourceId, subscriptionId, ?_⟩
        have claimedOwner
            : getBillableResource { db with processedWebhookEvents := processed } resourceType
              resourceId = some (some owner) := owned
        have claimedRow
            : findSubscription { db with processedWebhookEvents := processed } subscriptionId
              resourceType resourceId = some row := selected
        rw [(apply_event db carried).2, fresh, claimed, HandledEvent.perform,
          if_pos cancels.1, handleSubscriptionEvent, named, resource]
        simp only [claimedOwner, claimedRow, cancels.2, if_true, Bool.false_eq_true, if_false]
        rfl
      · cases selected
  · cases selected

theorem PaddleDelivery.apply_frame (delivery : PaddleDelivery) (db : Database)
    : ∃ processed subscriptions,
        delivery.apply db
            = { db with processedWebhookEvents := processed, subscriptions := subscriptions }
          ∨ ∃ kind id,
            delivery.apply db
            = stopResource kind id
                { db with
                  processedWebhookEvents := processed
                  subscriptions := subscriptions } := by
  rcases delivery.apply_change db with same | ⟨event, _, change⟩
  · exact ⟨db.processedWebhookEvents, db.subscriptions, .inl same⟩
  · obtain ⟨processed, claimed⟩ := claimEvent_frame delivery.time event.eventId event.eventType db
    rw [claimed] at change
    cases change with
    | ignored same => exact ⟨processed, db.subscriptions, .inl same⟩
    | added _ _ _ _ _ _ _ result => exact ⟨processed, _, .inl result⟩
    | activated _ _ _ _ result => exact ⟨processed, _, .inl result⟩
    | cancelled _ kind id _ result =>
        unfold markCancelled at result
        split at result
        · exact ⟨processed, db.subscriptions, .inr ⟨kind, id, result⟩⟩
        · exact ⟨processed, _, .inr ⟨kind, id, result⟩⟩

theorem PaddleDelivery.apply_transactions (delivery : PaddleDelivery) (db : Database)
    : (delivery.apply db).transactions = db.transactions := by
  obtain ⟨_, _, kept | ⟨kind, id, stopped⟩⟩ := delivery.apply_frame db
  · rw [kept]
  · rw [stopped, stopResource_transactions]

theorem PaddleDelivery.apply_billable (delivery : PaddleDelivery) (db : Database)
    (kind : ResourceType) (id : Uuid)
    : (getBillableResource (delivery.apply db) kind id).isSome
      = (getBillableResource db kind id).isSome := by
  obtain ⟨_, _, kept | ⟨stoppedKind, stoppedId, stopped⟩⟩ := delivery.apply_frame db
  · rw [kept]
    rfl
  · rw [stopped, getBillableResource_stopResource]
    rfl

def receiveDeliveries (deliveries : List PaddleDelivery) (db : Database) : Database :=
  deliveries.foldl (fun current delivery => delivery.apply current) db

/-- The webhook never writes to the ledger, by induction on the deliveries. -/
theorem receiveDeliveries_transactions (deliveries : List PaddleDelivery) (db : Database)
    : (receiveDeliveries deliveries db).transactions = db.transactions := by
  induction deliveries generalizing db with
  | nil => rfl
  | cons delivery rest ih => exact (ih _).trans (delivery.apply_transactions db)

theorem receiveDeliveries_billable (deliveries : List PaddleDelivery) (db : Database)
    (kind : ResourceType) (id : Uuid)
    : (getBillableResource (receiveDeliveries deliveries db) kind id).isSome
      = (getBillableResource db kind id).isSome := by
  induction deliveries generalizing db with
  | nil => rfl
  | cons delivery rest ih => exact (ih _).trans (delivery.apply_billable db kind id)

end Blockhost
