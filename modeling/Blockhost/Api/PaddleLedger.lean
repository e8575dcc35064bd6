import Blockhost.Api.PaddleDeliveries

/-! The ledger of Paddle payments over any sequence of deliveries. Storing a payment raises, so
only a transaction that is already stored is ever answered ok.
-/

namespace Blockhost

open Library

/-- An event that reports a transaction for an existing resource. -/
structure CompletesTransaction (db : Database) (event : HandledEvent) (transactionId : String)
    : Prop where
  kind : event.eventType = "transaction.completed"
  identified : event.data.id = .value transactionId
  billable
    : ∃ resourceType resourceId,
        namedResource event.customData = some (resourceType, resourceId)
        ∧ (getBillableResource db resourceType resourceId).isSome = true

/-- How many ledger rows a Paddle transaction has. -/
def ledgerRows (db : Database) (transactionId : String) : Nat :=
  (db.transactions.rows.filter (fun tx => tx.providerOrderId = transactionId)).length

/-- The subscription rows after the change that a completed transaction asks for, unless the
database refuses it.
-/
def chargedSubscriptions (delivery : PaddleDelivery) (event : HandledEvent) (db : Database)
    : Option (Table BillingSubscription.id) :=
  match namedResource event.customData, event.data.subscriptionId.nonempty with
  | some (resourceType, resourceId), some subscriptionId =>
      ((grantTransaction delivery.time subscriptionId resourceType resourceId
        ((getBillableResource db resourceType resourceId).getD none) db).map
          Database.subscriptions).toOption
  | _, _ => some db.subscriptions

/-- The effects of an event: its ledger row is stored and its subscription change is made. -/
def EffectsCommitted (delivery : PaddleDelivery) (event : HandledEvent) (transactionId : String)
    (before after : Database)
    : Prop :=
  0 < ledgerRows after transactionId
  ∧ chargedSubscriptions delivery event before = some after.subscriptions

/-- Over a sequence of deliveries every transaction of an existing resource is in the ledger once
at the end; a new event is recorded together with its effects, and a recorded one changes
nothing.
-/
def LedgerExactlyOnce (before : Database) (deliveries : List PaddleDelivery) : Prop :=
  ∀ earlier delivery later, deliveries = earlier ++ delivery :: later
  → ∀ event transactionId, delivery.event = some event
  → CompletesTransaction before event transactionId
  → let reached := receiveDeliveries earlier before
    ledgerRows (receiveDeliveries deliveries before) transactionId = 1
    ∧ (recorded reached event.eventId = true → delivery.apply reached = reached)
    ∧ (recorded reached event.eventId = false
      → (recorded (delivery.apply reached) event.eventId = true
        ↔ EffectsCommitted delivery event transactionId reached (delivery.apply reached)))

theorem transactionStored_iff {db : Database} {suffix transactionId : String}
    {data : PaddleData} (identified : data.id = .value transactionId)
    : transactionStored db suffix data = true ↔ 0 < ledgerRows db transactionId := by
  unfold transactionStored ledgerRows
  rw [identified, List.length_pos_iff_exists_mem]
  simp [Member.getD]

theorem recorded_claimEvent (now : Instant) {db : Database} {eventId : String}
    (eventType : String) (fresh : recorded db eventId = false)
    : recorded (claimEvent now eventId eventType db) eventId = true := by
  have absent : db.processedWebhookEvents.get? eventId = none := by
    simpa [recorded] using fresh
  have member
      : eventId ∈ (claimEvent now eventId eventType db).processedWebhookEvents.rows.map
          ProcessedWebhookEvent.eventId := by
    rw [claimEvent_fresh now eventType db (Table.get?_eq_none.mp absent)]
    exact List.mem_append_right _ (List.mem_singleton_self eventId)
  by_contra unknown
  have missing := Table.get?_eq_none.mp (Option.not_isSome_iff_eq_none.mp unknown)
  exact missing member

theorem grantTransaction_claimed (now : Instant) (subscriptionId : String)
    (resourceType : ResourceType) (resourceId : Uuid) (ownerId? : Option Uuid) (db : Database)
    (processed : Table ProcessedWebhookEvent.eventId)
    : (grantTransaction now subscriptionId resourceType resourceId ownerId?
          { db with processedWebhookEvents := processed }).map Database.subscriptions
      = (grantTransaction now subscriptionId resourceType resourceId ownerId? db).map
          Database.subscriptions := by
  have sameRow
      : findSubscription { db with processedWebhookEvents := processed } subscriptionId
          resourceType resourceId
        = findSubscription db subscriptionId resourceType resourceId := rfl
  have samePlan
      : firstActivePlan { db with processedWebhookEvents := processed }
        = firstActivePlan db := rfl
  unfold grantTransaction
  rw [sameRow, samePlan]
  cases findSubscription db subscriptionId resourceType resourceId with
  | some row => rfl
  | none => cases firstActivePlan db <;> cases ownerId? <;> rfl

theorem grantTransaction_recorded {now : Instant} {subscriptionId : String}
    {resourceType : ResourceType} {resourceId : Uuid} {ownerId? : Option Uuid}
    {db granted : Database}
    (done : grantTransaction now subscriptionId resourceType resourceId ownerId? db
      = .ok granted)
    (eventId : String)
    : recorded granted eventId = recorded db eventId := by
  unfold grantTransaction at done
  split at done
  · cases done
    rfl
  · split at done <;> cases done <;> rfl

section Completed

variable {delivery : PaddleDelivery} {event : HandledEvent} {transactionId : String}
variable {db : Database}

theorem CompletesTransaction.perform (completes : CompletesTransaction db event transactionId)
    (delivery : PaddleDelivery)
    (processed : Table ProcessedWebhookEvent.eventId)
    : ∃ resourceType resourceId,
        namedResource event.customData = some (resourceType, resourceId)
        ∧ event.perform delivery { db with processedWebhookEvents := processed }
          = match event.data.subscriptionId.nonempty,
              transactionStored db delivery.suffix event.data with
            | none, false => .error (.raised "UnboundLocalError")
            | some _, false => .error (.raised "AttributeError")
            | none, true =>
                .ok ({ db with processedWebhookEvents := processed },
                  [(resourceType, resourceId)])
            | some subscriptionId, true =>
                (grantTransaction delivery.time subscriptionId resourceType resourceId
                  ((getBillableResource db resourceType resourceId).getD none)
                  { db with processedWebhookEvents := processed }).map
                    (fun granted => (granted, [(resourceType, resourceId)])) := by
  obtain ⟨resourceType, resourceId, named, billable⟩ := completes.billable
  obtain ⟨owner, owned⟩ := Option.isSome_iff_exists.mp billable
  have unlisted : event.eventType ∉ subscriptionEvents := by
    rw [completes.kind]
    decide
  refine ⟨resourceType, resourceId, named, ?_⟩
  have claimedOwner
      : getBillableResource { db with processedWebhookEvents := processed } resourceType
          resourceId = some owner := owned
  rw [HandledEvent.perform, if_neg unlisted,
    handleTransactionCompleted_billable _ _ named claimedOwner, owned]
  rfl

theorem apply_unstored (carried : delivery.event = some event)
    (completes : CompletesTransaction db event transactionId)
    (unstored : ledgerRows db transactionId = 0)
    : delivery.apply db = db := by
  rw [(delivery.apply_event db carried).2]
  split
  · rfl
  · obtain ⟨processed, claimed⟩ := claimEvent_frame delivery.time event.eventId event.eventType db
    have missing : transactionStored db delivery.suffix event.data = false := by
      rw [Bool.eq_false_iff, ne_eq, transactionStored_iff completes.identified, unstored]
      exact Nat.lt_irrefl 0
    obtain ⟨resourceType, resourceId, _, performed⟩ :=
      completes.perform delivery processed
    rw [claimed, performed, missing]
    cases event.data.subscriptionId.nonempty <;> rfl

theorem apply_stored (carried : delivery.event = some event)
    (completes : CompletesTransaction db event transactionId)
    (fresh : recorded db event.eventId = false) (stored : 0 < ledgerRows db transactionId)
    : match chargedSubscriptions delivery event db with
      | none => delivery.apply db = db
      | some subscriptions =>
          recorded (delivery.apply db) event.eventId = true
          ∧ (delivery.apply db).subscriptions = subscriptions := by
  have claims := recorded_claimEvent delivery.time event.eventType fresh
  have present : transactionStored db delivery.suffix event.data = true :=
    (transactionStored_iff completes.identified).mpr stored
  obtain ⟨processed, claimed⟩ := claimEvent_frame delivery.time event.eventId event.eventType db
  obtain ⟨resourceType, resourceId, named, performed⟩ :=
    completes.perform delivery processed
  have applied := (delivery.apply_event db carried).2
  rw [fresh, claimed, performed, present] at applied
  rw [claimed] at claims
  cases charged : event.data.subscriptionId.nonempty with
  | none =>
      simp only [charged, Bool.false_eq_true, if_false] at applied
      simp only [chargedSubscriptions, named, charged, applied]
      exact ⟨claims, trivial⟩
  | some subscriptionId =>
      simp only [charged, Bool.false_eq_true, if_false] at applied
      have same := grantTransaction_claimed delivery.time subscriptionId resourceType resourceId
        ((getBillableResource db resourceType resourceId).getD none) db processed
      cases granted : grantTransaction delivery.time subscriptionId resourceType resourceId
          ((getBillableResource db resourceType resourceId).getD none)
          { db with processedWebhookEvents := processed } with
      | error failure =>
          rw [granted] at applied same
          simp only [chargedSubscriptions, named, charged, ← same]
          exact applied
      | ok result =>
          rw [granted] at applied same
          simp only [chargedSubscriptions, named, charged, ← same]
          refine ⟨?_, by rw [applied]; rfl⟩
          rw [applied]
          exact (grantTransaction_recorded granted event.eventId).trans claims

theorem recorded_iff_effects (carried : delivery.event = some event)
    (completes : CompletesTransaction db event transactionId)
    (fresh : recorded db event.eventId = false)
    : recorded (delivery.apply db) event.eventId = true
      ↔ EffectsCommitted delivery event transactionId db (delivery.apply db) := by
  have sameLedger : ledgerRows (delivery.apply db) transactionId = ledgerRows db transactionId := by
    unfold ledgerRows
    rw [delivery.apply_transactions db]
  unfold EffectsCommitted
  rw [sameLedger]
  rcases Nat.eq_zero_or_pos (ledgerRows db transactionId) with unstored | stored
  · rw [apply_unstored carried completes unstored, unstored, fresh]
    simp
  · have outcome := apply_stored carried completes fresh stored
    cases charged : chargedSubscriptions delivery event db with
    | none =>
        rw [charged] at outcome
        rw [show delivery.apply db = db from outcome, fresh]
        simp
    | some subscriptions =>
        rw [charged] at outcome
        simp [outcome.1, outcome.2, stored]

end Completed

theorem CompletesTransaction.later {db : Database} {event : HandledEvent}
    {transactionId : String} (completes : CompletesTransaction db event transactionId)
    (earlier : List PaddleDelivery)
    : CompletesTransaction (receiveDeliveries earlier db) event transactionId where
  kind := completes.kind
  identified := completes.identified
  billable := by
    obtain ⟨resourceType, resourceId, named, billable⟩ := completes.billable
    exact ⟨resourceType, resourceId, named,
      (receiveDeliveries_billable earlier db resourceType resourceId).trans billable⟩

/-- The ledger is exactly-once over a sequence of deliveries exactly when every transaction that
it reports for an existing resource has been in the ledger once from the start.
-/
theorem paddle_ledger_exactly_once_iff (before : Database) (deliveries : List PaddleDelivery)
    : LedgerExactlyOnce before deliveries
      ↔ ∀ delivery ∈ deliveries, ∀ event transactionId, delivery.event = some event
        → CompletesTransaction before event transactionId
        → ledgerRows before transactionId = 1 := by
  have sameLedger
      : ∀ transactionId, ledgerRows (receiveDeliveries deliveries before) transactionId
          = ledgerRows before transactionId := by
    intro transactionId
    unfold ledgerRows
    rw [receiveDeliveries_transactions]
  constructor
  · intro once delivery member event transactionId carried completes
    obtain ⟨earlier, later, split⟩ := List.append_of_mem member
    have reached := once earlier delivery later split event transactionId carried completes
    exact (sameLedger transactionId).symm.trans reached.1
  · intro stored earlier delivery later split event transactionId carried completes
    have member : delivery ∈ deliveries := by
      rw [split]
      simp
    refine ⟨?_, ?_, ?_⟩
    · exact (sameLedger transactionId).trans
        (stored delivery member event transactionId carried completes)
    · intro known
      rw [(delivery.apply_event _ carried).2, if_pos known]
    · intro fresh
      exact recorded_iff_effects carried (completes.later earlier) fresh

private def chargedServer : Server where
  id := 0
  nodeId := none
  ownerId := 1
  worldName := "world"
  lastActivity := 0

private def firstCharge : PaddleDelivery where
  time := 0
  body :=
    some
      { eventId := .value "evt_1"
        eventType := .value "transaction.completed"
        data := .value
          { id := .value "txn_1"
            subscriptionId := .value "sub_1"
            customData := .value { serverId := .value "00000000000000000000000000000000" } } }

/-- The first payment for a server never reaches the ledger. -/
theorem first_charge_never_stored
    : ¬ ∀ (before : Database) (deliveries : List PaddleDelivery),
        LedgerExactlyOnce before deliveries := by
  intro once
  have reached := once { servers := ⟨[chargedServer], by decide⟩ } [firstCharge] [] firstCharge []
    rfl _ "txn_1" rfl
    ⟨rfl, rfl, .minecraftServer, 0, by decide +kernel, by decide +kernel⟩
  exact absurd reached.1 (by decide +kernel)

end Blockhost
