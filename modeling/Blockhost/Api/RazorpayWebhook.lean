import Blockhost.Api.PaddleWebhook
import Blockhost.Services.Billing

/-! The Razorpay webhook, which is the safety net of a payment: whatever the fulfilment of a
captured payment raises is logged and answered ok.
-/

namespace Blockhost.Razorpay

open Library

structure Entity where
  orderId : Member String := .missing
  id : Member String := .missing
deriving DecidableEq, Repr

structure Payment where
  entity : Member Entity := .missing
deriving DecidableEq, Repr

structure Content where
  payment : Member Payment := .missing
deriving DecidableEq, Repr

structure Payload where
  event : Member String := .missing
  payload : Member Content := .missing
deriving DecidableEq, Repr

/-- `get` through three levels, each of which may be missing but not null. -/
def Payload.entity (payload : Payload) : Option Entity := do
  let content ← payload.payload.getD {}
  let payment ← content.payment.getD {}
  payment.entity.getD {}

/-- An exception from outside the code, such as an error of the database or of the cache, before
the commit of the fulfilment or after it.
-/
inductive Fault where
  | none
  | beforeCommit
  | afterCommit
deriving DecidableEq, Repr

/-- A call, with whether its signature is valid and its body, if that is a JSON object. -/
structure WebhookCall where
  now : Instant
  authentic : Bool := true
  body : Option Payload
  fault : Fault := .none

/-- What a fulfilment commits; a failure before the commit is rolled back. -/
def fulfilled (call : WebhookCall) (orderId paymentId : String) (db : Database) : Database :=
  match call.fault, fulfillWebhookPayment db call.now orderId paymentId with
  | .none, .ok (some (next, _)) | .afterCommit, .ok (some (next, _)) => next
  | _, _ => db

/-- `razorpay_webhook` -/
def razorpayWebhook (call : WebhookCall) (db : Database) : Database × Except WebhookFailure Unit :=
  if !call.authentic then (db, .error (.http ⟨400, "Invalid webhook signature"⟩))
  else
    match call.body with
    | none => (db, .error (.raised "JSONDecodeError"))
    | some payload =>
        if payload.event.get ≠ some "payment.captured" then (db, .ok ())
        else
          match payload.entity with
          | none => (db, .error (.raised "AttributeError"))
          | some entity =>
              match entity.orderId.nonempty, entity.id.nonempty with
              | some orderId, some paymentId => (fulfilled call orderId paymentId db, .ok ())
              | _, _ => (db, .ok ())

-- Captured payments

def WebhookCall.captured (call : WebhookCall) : Option Entity :=
  if call.authentic then
    call.body.bind (fun payload =>
      if payload.event.get = some "payment.captured" then payload.entity else none)
  else none

/-- A captured payment names a pending order. -/
def Names (call : WebhookCall) (db : Database) (tx : BillingTransaction) : Prop :=
  ∃ entity orderId, call.captured = some entity
    ∧ entity.orderId.nonempty = some orderId
    ∧ db.transactions.rows.find? (fun tx => tx.providerOrderId = orderId && tx.status = .pending)
      = some tx

/-- An order is paid and has its subscription. -/
def Paid (db : Database) (transactionId : Uuid) : Prop :=
  ∃ tx subscription, db.transactions.get? transactionId = some tx
    ∧ tx.status = .paid
    ∧ tx.subscriptionId.bind db.subscriptions.get? = some subscription

/-- Every captured payment of a pending order that is answered ok is fulfilled. -/
def AcknowledgesPaid (call : WebhookCall) (db : Database) : Prop :=
  ∀ tx, Names call db tx → (razorpayWebhook call db).2 = .ok ()
    → Paid (razorpayWebhook call db).1 tx.id

/-- Nothing stands against the fulfilment of an order: the payment has an identifier that no
other order has, the server and an active plan are stored, and nothing fails before the commit.
-/
structure Fulfillable (call : WebhookCall) (db : Database) (tx : BillingTransaction) : Prop where
  identified
    : ∃ entity paymentId, call.captured = some entity ∧ entity.id.nonempty = some paymentId
      ∧ paymentIdUsed db tx paymentId = false
  server : (tx.serverId.bind db.servers.get?).isSome = true
  plan : ∃ plan, db.plans.get? tx.targetPlanId = some plan ∧ plan.active = true
  sound : call.fault ≠ .beforeCommit

variable {call : WebhookCall} {db : Database} {tx : BillingTransaction}

theorem razorpayWebhook_captured {entity : Entity} (captured : call.captured = some entity)
    : razorpayWebhook call db
      = match entity.orderId.nonempty, entity.id.nonempty with
        | some orderId, some paymentId => (fulfilled call orderId paymentId db, .ok ())
        | _, _ => (db, .ok ()) := by
  unfold WebhookCall.captured at captured
  split at captured
  · rename_i authentic
    obtain ⟨payload, body, rest⟩ := Option.bind_eq_some_iff.mp captured
    split at rest
    · rename_i event
      simp only [razorpayWebhook, authentic, body, event, rest]
      rfl
    · cases rest
  · cases captured

theorem Names.stored (names : Names call db tx)
    : db.transactions.get? tx.id = some tx ∧ tx.status = .pending := by
  obtain ⟨_, orderId, _, _, found⟩ := names
  have matched := List.find?_some found
  simp only [Bool.and_eq_true, decide_eq_true_eq] at matched
  exact ⟨Table.get?_of_mem (List.mem_of_find?_eq_some found), matched.2⟩

theorem Names.not_paid (names : Names call db tx) : ¬ Paid db tx.id := by
  rintro ⟨row, _, found, paid, _⟩
  obtain ⟨stored, pending⟩ := names.stored
  cases stored.symm.trans found
  cases pending.symm.trans paid

theorem paid_commitActivation (now : Instant) (server : Server) (plan : BillingPlan)
    (paymentId : String) (stored : db.transactions.get? tx.id = some tx)
    : Paid (commitActivation db now tx server plan paymentId).1 tx.id := by
  have paid
      : (commitActivation db now tx server plan paymentId).1.transactions.get? tx.id
        = some (commitActivation db now tx server plan paymentId).2.1 := by
    change (db.transactions.modify tx.id _).get? tx.id = some _
    rw [Table.get?_modify, if_pos rfl, stored]
    rfl
  have added
      : (commitActivation db now tx server plan paymentId).1.subscriptions.get?
          (commitActivation db now tx server plan paymentId).2.2.id
        = some (commitActivation db now tx server plan paymentId).2.2 :=
    (Table.get?_create _ _ _).trans (if_pos rfl)
  exact ⟨_, _, paid, rfl, added⟩

theorem fulfilled_pending {orderId : String} (paymentId : String)
    (found
      : db.transactions.rows.find?
          (fun tx => tx.providerOrderId = orderId && tx.status = .pending)
        = some tx)
    (pending : tx.status = .pending)
    : fulfilled call orderId paymentId db
      = match tx.serverId.bind db.servers.get?, db.plans.get? tx.targetPlanId with
        | some server, some plan =>
            if !plan.active || paymentIdUsed db tx paymentId || call.fault = .beforeCommit then db
            else (commitActivation db call.now tx server plan paymentId).1
        | _, _ => db := by
  unfold fulfilled fulfillWebhookPayment activateSubscription
  simp only [found, pending]
  cases tx.serverId.bind db.servers.get? with
  | none => cases call.fault <;> rfl
  | some server =>
      cases db.plans.get? tx.targetPlanId with
      | none => cases call.fault <;> rfl
      | some plan =>
          dsimp only
          cases plan.active with
          | false => cases call.fault <;> rfl
          | true =>
              cases paymentIdUsed db tx paymentId with
              | true => cases call.fault <;> rfl
              | false => cases call.fault <;> rfl

theorem paid_fulfilled_iff {orderId paymentId : String} {entity : Entity}
    (captured : call.captured = some entity) (identified : entity.id.nonempty = some paymentId)
    (ordered : entity.orderId.nonempty = some orderId) (names : Names call db tx)
    : Paid (fulfilled call orderId paymentId db) tx.id ↔ Fulfillable call db tx := by
  obtain ⟨stored, pending⟩ := names.stored
  obtain ⟨other, otherId, same, given, found⟩ := id names
  cases captured.symm.trans same
  cases ordered.symm.trans given
  rw [fulfilled_pending paymentId found pending]
  constructor
  · intro paid
    split at paid
    · rename_i server plan hosted planned
      split at paid
      · exact absurd paid names.not_paid
      · rename_i sound
        simp only [Bool.or_eq_true, Bool.not_eq_true', decide_eq_true_eq, not_or] at sound
        obtain ⟨⟨active, unused⟩, passes⟩ := sound
        refine ⟨⟨entity, paymentId, captured, identified, ?_⟩, ?_, ⟨plan, planned, ?_⟩, passes⟩
        · simpa using unused
        · rw [hosted]
          rfl
        · simpa using active
    · exact absurd paid names.not_paid
  · rintro ⟨⟨other, otherId, same, given, unused⟩, hosted, ⟨plan, planned, active⟩, passes⟩
    cases captured.symm.trans same
    cases identified.symm.trans given
    obtain ⟨server, hosted⟩ := Option.isSome_iff_exists.mp hosted
    simp only [hosted, planned, active, unused, passes, Bool.not_true, Bool.or_self,
      decide_false, Bool.false_eq_true, if_false]
    exact paid_commitActivation call.now server plan paymentId stored

/-- The webhook acknowledges a captured payment of a pending order rightly exactly when nothing
stands against its fulfilment.
-/
theorem acknowledgesPaid_iff (call : WebhookCall) (db : Database)
    : AcknowledgesPaid call db ↔ ∀ tx, Names call db tx → Fulfillable call db tx := by
  refine forall_congr' fun tx => forall_congr' fun names => ?_
  obtain ⟨entity, orderId, captured, ordered, _⟩ := id names
  rw [razorpayWebhook_captured captured, ordered]
  cases identified : entity.id.nonempty with
  | none =>
      refine iff_of_false (fun paid => names.not_paid (paid rfl)) ?_
      rintro ⟨⟨other, paymentId, same, given, _⟩, _⟩
      cases captured.symm.trans same
      cases identified.symm.trans given
  | some paymentId =>
      exact (forall_prop_of_true rfl).trans
        (paid_fulfilled_iff captured identified ordered names)

/-- A payment that comes after its plan was withdrawn. -/
private def latePayment : WebhookCall where
  now := 1
  body :=
    some {
      event := .value "payment.captured"
      payload := .value {
        payment := .value { entity := .value { orderId := .value "order_1", id := .value "pay_1" } }
      }
    }

private def orderedUpgrade : BillingTransaction where
  id := 0
  userId := 1
  serverId := some 0
  provider := "razorpay"
  providerOrderId := "order_1"
  amount := 500
  targetPlanId := "pro"

private def orderedServer : Server where
  id := 0
  nodeId := none
  ownerId := 1
  worldName := "world"
  lastActivity := 0

private def withdrawnPlan : BillingPlan where
  id := "pro"
  ramMb := 4096
  cpuLimit := 2
  storageMb := 10240
  playerLimit := 20
  price := 500
  durationDays := 30
  active := false

private def orderedDatabase : Database where
  servers := ⟨[orderedServer], by decide⟩
  plans := ⟨[withdrawnPlan], by decide⟩
  transactions := ⟨[orderedUpgrade], by decide⟩

/-- The payment of an order whose plan was withdrawn is answered ok, and the order stays pending
without a subscription.
-/
theorem withdrawn_plan_acknowledged
    : ¬ ∀ (call : WebhookCall) (db : Database), AcknowledgesPaid call db := by
  intro acknowledges
  have names : Names latePayment orderedDatabase orderedUpgrade :=
    ⟨_, "order_1", rfl, rfl, rfl⟩
  obtain ⟨row, subscription, found, paid, _⟩ :=
    acknowledges latePayment orderedDatabase orderedUpgrade names rfl
  have kept : (razorpayWebhook latePayment orderedDatabase).1 = orderedDatabase := rfl
  rw [kept] at found
  cases found
  cases paid

end Blockhost.Razorpay
