import Blockhost.Orchestrator.Resources

/-! Orders, activation of paid subscriptions, the start gate and the expiration sweep. A call
that raises rolls its session back, so it returns an error and no database.
-/

namespace Blockhost

open Library

inductive BillingError where
  | serverNotFound
  | planNotFound
  | transactionInconsistent
  | transactionNotPending
  | upgradeTargetMissing
  | paymentIdReused
  | orderNotFound
  | unauthorized
  | invalidSignature
  | subscriptionSuspended
  | subscriptionRequired
  | subscriptionInvalid
deriving DecidableEq, Repr

def BillingError.code : BillingError → String
  | .serverNotFound => "server_not_found"
  | .planNotFound => "plan_not_found"
  | .transactionInconsistent => "transaction_inconsistent"
  | .transactionNotPending => "transaction_not_pending"
  | .upgradeTargetMissing => "upgrade_target_missing"
  | .paymentIdReused => "payment_id_reused"
  | .orderNotFound => "order_not_found"
  | .unauthorized => "unauthorized"
  | .invalidSignature => "invalid_signature"
  | .subscriptionSuspended => "subscription_suspended"
  | .subscriptionRequired => "subscription_required"
  | .subscriptionInvalid => "subscription_invalid"

structure ProviderOrder where
  provider : String
  providerOrderId : String
  amount : Int
  currency : String
deriving DecidableEq, Repr

def newTransaction (user : User) (server : Server) (plan : BillingPlan)
    (order : ProviderOrder) (id : Uuid)
    : BillingTransaction where
  id := id
  userId := user.id
  serverId := some server.id
  provider := order.provider
  providerOrderId := order.providerOrderId
  amount := order.amount
  currency := order.currency
  targetPlanId := plan.id

def createUpgradeTransaction (db : Database) (user : User) (serverId : Uuid)
    (targetPlanId : String) (order : ProviderOrder)
    : Except BillingError Database := do
  let some server := db.servers.get? serverId | throw .serverNotFound
  if server.ownerId ≠ user.id then throw .serverNotFound
  let some plan := db.plans.get? targetPlanId | throw .planNotFound
  if !plan.active then throw .planNotFound
  return { db with
    transactions := db.transactions.create ⟨newTransaction user server plan order, fun _ => rfl⟩ }

def applyPlanLimitsToServer (plan : BillingPlan) : Change Server.id where
  apply server :=
    { server with
      mcConfig := { server.mcConfig with
        billingPlanId := some plan.id, resourceLimits := some plan.limits } }

/-- A row in one of the two states that activation cancels. -/
def BillingSubscription.live (row : BillingSubscription) : Bool :=
  row.status = .active || row.status = .gracePeriod

/-- Activation cancels the active and grace-period rows of the transaction's server. -/
def cancelExisting (now : Instant) (serverId : Option Uuid) (row : BillingSubscription)
    : BillingSubscription :=
  if row.serverId = serverId && row.live then
    { row with status := .cancelled, updatedAt := now }
  else row

@[simp] theorem cancelExisting_id (now : Instant) (serverId : Option Uuid)
    (row : BillingSubscription)
    : (cancelExisting now serverId row).id = row.id := by
  unfold cancelExisting
  split <;> rfl

def activatedSubscription (now : Instant) (tx : BillingTransaction) (plan : BillingPlan)
    (id : Uuid)
    : BillingSubscription where
  id := id
  userId := tx.userId
  serverId := tx.serverId
  planId := plan.id
  startsAt := now
  expiresAt := now + days plan.durationDays
  status := .active
  createdAt := now
  updatedAt := now

def payTransaction (now : Instant) (subscription : BillingSubscription)
    (providerPaymentId : String) (tx : BillingTransaction)
    : BillingTransaction :=
  { tx with
    status := .paid
    providerPaymentId := some providerPaymentId
    subscriptionId := some subscription.id
    completedAt := some now }

/-- The committed result of an activation: older rows cancelled, the new row added, the
transaction paid, the server's limits written and the change logged.
-/
def commitActivation (db : Database) (now : Instant) (tx : BillingTransaction)
    (server : Server) (plan : BillingPlan) (providerPaymentId : String)
    : Database × BillingTransaction × BillingSubscription :=
  let cancelled :=
    db.subscriptions.update ⟨cancelExisting now tx.serverId, cancelExisting_id now tx.serverId⟩
  let subscription := activatedSubscription now tx plan cancelled.freshKey
  let pay := payTransaction now subscription providerPaymentId
  ({ db with
      subscriptions := cancelled.create ⟨activatedSubscription now tx plan, fun _ => rfl⟩
      transactions := db.transactions.modify tx.id ⟨pay, fun _ => rfl⟩
      servers := db.servers.modify server.id (applyPlanLimitsToServer plan)
      billingAuditLogs :=
        db.billingAuditLogs ++ [{
          userId := tx.userId,
          serverId := tx.serverId,
          transactionId := some tx.id,
          action :=
            .subscriptionUpgraded plan.id tx.provider tx.providerOrderId providerPaymentId }] },
    pay tx, subscription)

/-- Another transaction holds the payment id, so the unique constraint refuses it. -/
def paymentIdUsed (db : Database) (tx : BillingTransaction) (providerPaymentId : String)
    : Bool :=
  db.transactions.rows.any
    (fun other => other.id ≠ tx.id && other.providerPaymentId = some providerPaymentId)

/-- Create the subscription of a transaction whose payment has been verified; a transaction
that is already paid returns the subscription it created.
-/
def activateSubscription (db : Database) (now : Instant) (tx : BillingTransaction)
    (providerPaymentId : String)
    : Except BillingError (Database × BillingTransaction × BillingSubscription) :=
  match tx.status with
  | .paid =>
      match tx.subscriptionId.bind db.subscriptions.get? with
      | none => .error .transactionInconsistent
      | some subscription => .ok (db, tx, subscription)
  | .pending =>
      match tx.serverId.bind db.servers.get?, db.plans.get? tx.targetPlanId with
      | some server, some plan =>
          if !plan.active then .error .upgradeTargetMissing
          else if paymentIdUsed db tx providerPaymentId then .error .paymentIdReused
          else .ok (commitActivation db now tx server plan providerPaymentId)
      | _, _ => .error .upgradeTargetMissing
  | _ => .error .transactionNotPending

/-- The checkout callback: the owner of an order proves the payment by its signature. -/
def verifyUpgradePayment (verifyProviderSignature : String → String → String → Bool)
    (db : Database) (now : Instant) (userId : Uuid)
    (providerOrderId providerPaymentId signature : String)
    : Except BillingError (Database × BillingTransaction × BillingSubscription) := do
  let some tx := db.transactions.rows.find? (fun tx => tx.providerOrderId = providerOrderId)
    | throw .orderNotFound
  if tx.userId ≠ userId then throw .unauthorized
  if tx.status ≠ .paid
      && !verifyProviderSignature providerOrderId providerPaymentId signature then
    throw .invalidSignature
  activateSubscription db now tx providerPaymentId

def fulfillWebhookPayment (db : Database) (now : Instant)
    (providerOrderId providerPaymentId : String)
    : Except BillingError (Option (Database × BillingTransaction × BillingSubscription)) :=
  match db.transactions.rows.find?
      (fun tx => tx.providerOrderId = providerOrderId && tx.status = .pending) with
  | none => .ok none
  | some tx => (activateSubscription db now tx providerPaymentId).map some

/-- An order only adds a pending transaction, by the branches of the function. -/
theorem createUpgradeTransaction_ok {db next : Database} {user : User} {serverId : Uuid}
    {targetPlanId : String} {order : ProviderOrder}
    (ordered : createUpgradeTransaction db user serverId targetPlanId order = .ok next)
    : ∃ server plan,
        next
        = { db with
            transactions :=
              db.transactions.create ⟨newTransaction user server plan order, fun _ => rfl⟩ } := by
  unfold createUpgradeTransaction at ordered
  simp only [bind, Except.bind, pure, Except.pure, throw, throwThe, MonadExceptOf.throw]
    at ordered
  repeat' split at ordered
  all_goals first | contradiction | exact ⟨_, _, (Except.ok.inj ordered).symm⟩

/-- A verified payment activates a stored transaction, by the checks before it. -/
theorem verifyUpgradePayment_ok {verify : String → String → String → Bool} {db : Database}
    {now : Instant} {userId : Uuid} {providerOrderId providerPaymentId signature : String}
    {result : Database × BillingTransaction × BillingSubscription}
    (verified : verifyUpgradePayment verify db now userId providerOrderId providerPaymentId
      signature = .ok result)
    : ∃ tx ∈ db.transactions.rows,
        activateSubscription db now tx providerPaymentId = .ok result := by
  unfold verifyUpgradePayment at verified
  simp only [bind, Except.bind, throw, throwThe, MonadExceptOf.throw] at verified
  split at verified
  · rename_i tx found
    repeat' split at verified
    all_goals first | contradiction | exact ⟨tx, List.mem_of_find?_eq_some found, verified⟩
  · contradiction

/-- So does a payment that a webhook reports. -/
theorem fulfillWebhookPayment_ok {db : Database} {now : Instant}
    {providerOrderId providerPaymentId : String}
    {result : Database × BillingTransaction × BillingSubscription}
    (fulfilled : fulfillWebhookPayment db now providerOrderId providerPaymentId
      = .ok (some result))
    : ∃ tx ∈ db.transactions.rows,
        activateSubscription db now tx providerPaymentId = .ok result := by
  unfold fulfillWebhookPayment at fulfilled
  split at fulfilled
  · cases fulfilled
  · rename_i tx found
    refine ⟨tx, List.mem_of_find?_eq_some found, ?_⟩
    cases activated : activateSubscription db now tx providerPaymentId with
    | error _ => rw [activated] at fulfilled; cases fulfilled
    | ok answer =>
        rw [activated] at fulfilled
        cases fulfilled
        rfl

def ensureServerNotBillingSuspended (db : Database) (serverId : Uuid)
    : Except BillingError Unit :=
  if db.subscriptions.rows.any
      (fun row => row.serverId = some serverId && row.status = .suspended) then
    .error .subscriptionSuspended
  else .ok ()

def ensureActiveSubscriptionForStart (settings : Settings) (db : Database) (now : Instant)
    (serverId : Uuid)
    : Except BillingError Unit := do
  ensureServerNotBillingSuspended db serverId
  match activeSubscriptionForServer settings db now serverId with
  | none => throw .subscriptionRequired
  | some subscription =>
      match db.plans.get? subscription.planId with
      | none => throw .subscriptionInvalid
      | some plan => if plan.ramMb ≤ 0 then throw .subscriptionInvalid

-- The expiration sweep

/-- The rows that the first query of the sweep selects. -/
def BillingSubscription.expiredActive (now : Instant) (row : BillingSubscription) : Bool :=
  row.status = .active && row.expiresAt ≤ now

/-- The rows that the second query selects. The session does not flush before it, so a row
that the first loop has just moved is still active there.
-/
def BillingSubscription.expiredGrace (settings : Settings) (now : Instant)
    (row : BillingSubscription)
    : Bool :=
  row.status = .gracePeriod && (settings.graceEnd row.expiresAt).all (· ≤ now)

def expireSubscription (settings : Settings) (now : Instant) (row : BillingSubscription)
    : BillingSubscription :=
  if row.expiredActive now then { row with status := .gracePeriod, updatedAt := now }
  else if row.expiredGrace settings now then
    { row with status := .suspended, updatedAt := now }
  else row

@[simp] theorem expireSubscription_id (settings : Settings) (now : Instant)
    (row : BillingSubscription)
    : (expireSubscription settings now row).id = row.id := by
  unfold expireSubscription
  split_ifs <;> rfl

/-- A server whose subscription was suspended is marked and loses its limits. Stopping it may
fail; the failure is logged and changes nothing here.
-/
def suspendForBilling (server : Server) : Server :=
  { server with
    state := .suspended
    mcConfig := { server.mcConfig with billingPlanId := none, resourceLimits := none } }

/-- One pass over all subscriptions, with the number of rows moved to the grace period and of
rows suspended.
-/
def processSubscriptionExpirations (settings : Settings) (now : Instant) (db : Database)
    : Database × Nat × Nat :=
  let expiredActive := db.subscriptions.rows.filter (fun row => row.expiredActive now)
  let expiredGrace := db.subscriptions.rows.filter (fun row => row.expiredGrace settings now)
  let stopped := expiredGrace.filterMap (fun row => row.serverId)
  ({ db with
      subscriptions :=
        db.subscriptions.update
          ⟨expireSubscription settings now, expireSubscription_id settings now⟩
      servers :=
        db.servers.update
          (Change.when ⟨suspendForBilling, fun _ => rfl⟩ (fun server => server.id ∈ stopped))
      billingAuditLogs :=
        db.billingAuditLogs ++ expiredGrace.map (fun row =>
          {
            userId := row.userId,
            serverId := row.serverId,
            transactionId := none,
            action := .subscriptionSuspended row.id row.expiresAt
          }) },
    expiredActive.length, expiredGrace.length)

@[simp] theorem cancelExisting_serverId (now : Instant) (serverId : Option Uuid)
    (row : BillingSubscription)
    : (cancelExisting now serverId row).serverId = row.serverId := by
  unfold cancelExisting
  split <;> rfl

theorem cancelExisting_live {now : Instant} {serverId : Option Uuid}
    {row : BillingSubscription} (same : row.serverId = serverId)
    : (cancelExisting now serverId row).live = false := by
  unfold cancelExisting
  cases live : row.live <;> simp [same, live]
  rfl

theorem cancelExisting_suspended (now : Instant) (serverId : Option Uuid)
    (row : BillingSubscription)
    : (cancelExisting now serverId row).status = .suspended ↔ row.status = .suspended := by
  unfold cancelExisting BillingSubscription.live
  cases status : row.status <;> split <;> simp_all

theorem BillingSubscription.live_of_entitles {settings : Settings} {now : Instant}
    {serverId : Uuid} {row : BillingSubscription}
    (entitled : row.entitles settings now serverId = true)
    : row.live = true := by
  obtain ⟨_, finish, within, _⟩ := BillingSubscription.entitles_iff.mp entitled
  cases status : row.status <;> simp_all [BillingSubscription.entitledUntil, live]

theorem expireSubscription_before {settings : Settings} {now finish : Instant}
    {row : BillingSubscription} (within : row.entitledUntil settings = some finish)
    (early : now < finish)
    : expireSubscription settings now row = row := by
  unfold expireSubscription BillingSubscription.expiredActive BillingSubscription.expiredGrace
  unfold BillingSubscription.entitledUntil at within
  cases status : row.status <;> simp_all

theorem expireSubscription_closed {settings : Settings} {now : Instant}
    {row : BillingSubscription} (closed : row.live = false)
    : expireSubscription settings now row = row := by
  unfold expireSubscription BillingSubscription.expiredActive BillingSubscription.expiredGrace
  unfold BillingSubscription.live at closed
  cases status : row.status <;> simp_all

@[simp] theorem expireSubscription_serverId (settings : Settings) (now : Instant)
    (row : BillingSubscription)
    : (expireSubscription settings now row).serverId = row.serverId := by
  unfold expireSubscription
  split_ifs <;> rfl

@[simp] theorem expireSubscription_expiresAt (settings : Settings) (now : Instant)
    (row : BillingSubscription)
    : (expireSubscription settings now row).expiresAt = row.expiresAt := by
  unfold expireSubscription
  split_ifs <;> rfl

/-- A sweep brings no row back to life, by the branch that it takes. -/
theorem expireSubscription_live {settings : Settings} {now : Instant}
    {row : BillingSubscription} (live : (expireSubscription settings now row).live = true)
    : row.live = true := by
  cases closed : row.live with
  | true => rfl
  | false => rwa [expireSubscription_closed closed, closed] at live

theorem cancelExisting_alive {now : Instant} {serverId : Option Uuid}
    {row : BillingSubscription} (live : (cancelExisting now serverId row).live = true)
    : row.serverId ≠ serverId ∧ cancelExisting now serverId row = row := by
  by_cases same : row.serverId = serverId
  · rw [cancelExisting_live same] at live
    contradiction
  · exact ⟨same, by simp [cancelExisting, same]⟩

end Blockhost
