import Blockhost.Library.Run
import Blockhost.Services.Billing

/-! Interleaved payment calls. A call locks the row of its order, reads what it needs, and commits
or fails; between these steps other calls run. The lock and the unique constraint on payment
identifiers make every order pay once.
-/

namespace Blockhost

open Library

/-- What an activation has read before its commit: the server and the plan, the live rows of the
server, and the time.
-/
structure ActivationView where
  server : Server
  plan : BillingPlan
  existing : List Uuid
  now : Instant

/-- A call that holds the lock of its order. -/
structure Activation where
  tx : BillingTransaction
  providerPaymentId : String
  view : Option ActivationView := none

/-- The committed database and the calls under way. -/
structure PaymentState where
  db : Database
  inFlight : List Activation := []

inductive PaymentCall where
  | verify (userId : Uuid) (providerOrderId providerPaymentId signature : String)
  | fulfill (providerOrderId providerPaymentId : String)

def PaymentCall.providerOrderId : PaymentCall → String
  | .verify _ providerOrderId _ _ => providerOrderId
  | .fulfill providerOrderId _ => providerOrderId

/-- What a call ends with; an exception outside the code has no billing error. -/
inductive PaymentResult where
  | returned (paid : Option (BillingTransaction × BillingSubscription))
  | raised (failure : Option BillingError)

/-- A call ends at once, or goes on with the lock of a pending order. -/
inductive PaymentStart where
  | ended (result : PaymentResult)
  | locks (tx : BillingTransaction) (providerPaymentId : String)

/-- The first part of `_activate_subscription`. -/
def beginActivation (db : Database) (tx : BillingTransaction) (providerPaymentId : String)
    : PaymentStart :=
  match tx.status with
  | .paid =>
      match tx.subscriptionId.bind db.subscriptions.get? with
      | none => .ended (.raised (some .transactionInconsistent))
      | some subscription => .ended (.returned (some (tx, subscription)))
  | .pending => .locks tx providerPaymentId
  | _ => .ended (.raised (some .transactionNotPending))

/-- The part of a call up to the activation. -/
def startCall (verifyProviderSignature : String → String → String → Bool) (db : Database)
    : PaymentCall → PaymentStart
  | .verify userId providerOrderId providerPaymentId signature =>
      match db.transactions.rows.find? (fun tx => tx.providerOrderId = providerOrderId) with
      | none => .ended (.raised (some .orderNotFound))
      | some tx =>
          if tx.userId ≠ userId then .ended (.raised (some .unauthorized))
          else if tx.status ≠ .paid
              && !verifyProviderSignature providerOrderId providerPaymentId signature then
            .ended (.raised (some .invalidSignature))
          else beginActivation db tx providerPaymentId
  | .fulfill providerOrderId providerPaymentId =>
      match db.transactions.rows.find?
          (fun tx => tx.providerOrderId = providerOrderId && tx.status = .pending) with
      | none => .ended (.returned none)
      | some tx => beginActivation db tx providerPaymentId

def readView (db : Database) (now : Instant) (tx : BillingTransaction)
    : Option ActivationView :=
  match tx.serverId.bind db.servers.get?, db.plans.get? tx.targetPlanId with
  | some server, some plan =>
      if !plan.active then none
      else
        some
          { server
            plan
            existing :=
              (db.subscriptions.rows.filter
                (fun row => row.serverId = tx.serverId && row.live)).map BillingSubscription.id
            now }
  | _, _ => none

def cancelRead (view : ActivationView) : Change BillingSubscription.id where
  apply row :=
    if row.id ∈ view.existing then { row with status := .cancelled, updatedAt := view.now }
    else row
  kept row := by split <;> rfl

def writeReadConfig (view : ActivationView) : Change Server.id where
  apply server := { server with mcConfig := ((applyPlanLimitsToServer view.plan).apply
    view.server).mcConfig }

def commitView (db : Database) (tx : BillingTransaction) (view : ActivationView)
    (providerPaymentId : String)
    : Database × BillingTransaction × BillingSubscription :=
  let cancelled := db.subscriptions.update (cancelRead view)
  let subscription := activatedSubscription view.now tx view.plan cancelled.freshKey
  let pay := payTransaction view.now subscription providerPaymentId
  ({ db with
      subscriptions :=
        cancelled.create ⟨activatedSubscription view.now tx view.plan, fun _ => rfl⟩
      transactions := db.transactions.modify tx.id ⟨pay, fun _ => rfl⟩
      servers := db.servers.modify view.server.id (writeReadConfig view)
      billingAuditLogs :=
        db.billingAuditLogs ++ [{
          userId := tx.userId
          serverId := tx.serverId
          transactionId := some tx.id
          action :=
            .subscriptionUpgraded view.plan.id tx.provider tx.providerOrderId
              providerPaymentId }] },
    pay tx, subscription)

/-- One step of one call. A lock is named by the identifier of its order. -/
inductive PaymentEvent where
  | start (call : PaymentCall)
  | read (lock : Uuid) (now : Instant)
  | commit (lock : Uuid)
  | fail (lock : Uuid)

def PaymentState.holder (state : PaymentState) (lock : Uuid) : Option Activation :=
  state.inFlight.find? (fun activation => activation.tx.id = lock)

def PaymentState.release (state : PaymentState) (lock : Uuid) : PaymentState :=
  { state with inFlight := state.inFlight.filter (fun activation => activation.tx.id ≠ lock) }

/-- The order of a call is locked by another one. -/
def PaymentState.blocked (state : PaymentState) (call : PaymentCall) : Bool :=
  state.inFlight.any (fun activation => activation.tx.providerOrderId = call.providerOrderId)

def paymentStep (verifyProviderSignature : String → String → String → Bool)
    (state : PaymentState)
    : PaymentEvent → Option (PaymentState × Option PaymentResult)
  | .start call =>
      if state.blocked call then none
      else
        match startCall verifyProviderSignature state.db call with
        | .ended result => some (state, some result)
        | .locks tx providerPaymentId =>
            some ({ state with inFlight := state.inFlight ++ [{ tx, providerPaymentId }] }, none)
  | .read lock now =>
      (state.holder lock).map (fun activation =>
        match readView state.db now activation.tx with
        | none => (state.release lock, some (.raised (some .upgradeTargetMissing)))
        | some view =>
            ({ state.release lock with
                inFlight :=
                  (state.release lock).inFlight ++ [{ activation with view := some view }] },
              none))
  | .commit lock =>
      (state.holder lock).bind (fun activation =>
        activation.view.map (fun view =>
          if paymentIdUsed state.db activation.tx activation.providerPaymentId then
            (state.release lock, some (.raised (some .paymentIdReused)))
          else
            let result := commitView state.db activation.tx view activation.providerPaymentId
            ({ state.release lock with db := result.1 }, some (.returned (some result.2)))))
  | .fail lock =>
      (state.holder lock).map (fun _ => (state.release lock, some (.raised none)))

/-- A possible step, with the result of the call that it ends. -/
def PaymentStep (verifyProviderSignature : String → String → String → Bool)
    (before : PaymentState) (event : PaymentEvent) (after : PaymentState)
    : Prop :=
  ∃ result, paymentStep verifyProviderSignature before event = some (after, result)

-- What a step can do

/-- Everything that a step can do. -/
inductive PaymentEffect (state : PaymentState)
    : PaymentState → Option PaymentResult → Prop where
  | ended (result : PaymentResult) : PaymentEffect state state (some result)
  | locked (tx : BillingTransaction) (providerPaymentId : String)
      (stored : tx ∈ state.db.transactions.rows)
      (pending : tx.status = .pending)
      (free : ∀ other ∈ state.inFlight, other.tx.providerOrderId ≠ tx.providerOrderId)
      : PaymentEffect state
          { state with inFlight := state.inFlight ++ [{ tx, providerPaymentId }] } none
  | viewed (activation : Activation) (view : ActivationView)
      (held : activation ∈ state.inFlight)
      : PaymentEffect state
          { state.release activation.tx.id with
            inFlight :=
              (state.release activation.tx.id).inFlight
                ++ [{ activation with view := some view }] }
          none
  | released (lock : Uuid) (failure : Option BillingError)
      : PaymentEffect state (state.release lock) (some (.raised failure))
  | committed (activation : Activation) (view : ActivationView)
      (held : activation ∈ state.inFlight)
      (unused : paymentIdUsed state.db activation.tx activation.providerPaymentId = false)
      : PaymentEffect state
          { state.release activation.tx.id with
            db := (commitView state.db activation.tx view activation.providerPaymentId).1 }
          (some (.returned (some
            (commitView state.db activation.tx view activation.providerPaymentId).2)))

theorem beginActivation_locks {db : Database} {tx locked : BillingTransaction}
    {providerPaymentId paymentId : String}
    (begun : beginActivation db tx providerPaymentId = .locks locked paymentId)
    : locked = tx ∧ tx.status = .pending := by
  unfold beginActivation at begun
  cases status : tx.status with
  | paid =>
      simp only [status] at begun
      split at begun <;> cases begun
  | pending =>
      simp only [status] at begun
      cases begun
      exact ⟨rfl, rfl⟩
  | failed =>
      simp only [status] at begun
      cases begun
  | refunded =>
      simp only [status] at begun
      cases begun

theorem startCall_locks {verify : String → String → String → Bool} {db : Database}
    {call : PaymentCall} {tx : BillingTransaction} {providerPaymentId : String}
    (started : startCall verify db call = .locks tx providerPaymentId)
    : tx ∈ db.transactions.rows ∧ tx.status = .pending
      ∧ tx.providerOrderId = call.providerOrderId := by
  cases call with
  | verify userId providerOrderId paymentId signature =>
      simp only [startCall] at started
      split at started
      · cases started
      · rename_i found
        split at started
        · cases started
        · split at started
          · cases started
          · obtain ⟨rfl, pending⟩ := beginActivation_locks started
            have named := List.find?_some found
            exact ⟨List.mem_of_find?_eq_some found, pending, of_decide_eq_true named⟩
  | fulfill providerOrderId paymentId =>
      simp only [startCall] at started
      split at started
      · cases started
      · rename_i found
        obtain ⟨rfl, pending⟩ := beginActivation_locks started
        have named := List.find?_some found
        simp only [Bool.and_eq_true, decide_eq_true_eq] at named
        exact ⟨List.mem_of_find?_eq_some found, pending, named.1⟩

theorem PaymentState.holder_some {state : PaymentState} {lock : Uuid} {activation : Activation}
    (held : state.holder lock = some activation)
    : activation ∈ state.inFlight ∧ activation.tx.id = lock :=
  ⟨List.mem_of_find?_eq_some held, by simpa using List.find?_some held⟩

theorem paymentStep_effect {verify : String → String → String → Bool}
    {state next : PaymentState} {event : PaymentEvent} {result : Option PaymentResult}
    (taken : paymentStep verify state event = some (next, result))
    : PaymentEffect state next result := by
  cases event with
  | start call =>
      simp only [paymentStep] at taken
      split at taken
      · cases taken
      · rename_i free
        split at taken
        · cases taken
          exact .ended _
        · rename_i tx providerPaymentId started
          cases taken
          obtain ⟨stored, pending, named⟩ := startCall_locks started
          refine .locked tx providerPaymentId stored pending ?_
          intro other member same
          refine free (List.any_eq_true.mpr ⟨other, member, ?_⟩)
          simp [same, named]
  | read lock now =>
      obtain ⟨activation, held, outcome⟩ := Option.map_eq_some_iff.mp taken
      obtain ⟨member, rfl⟩ := PaymentState.holder_some held
      split at outcome
      · cases outcome
        exact .released _ _
      · cases outcome
        exact .viewed activation _ member
  | commit lock =>
      obtain ⟨activation, held, rest⟩ := Option.bind_eq_some_iff.mp taken
      obtain ⟨view, read, outcome⟩ := Option.map_eq_some_iff.mp rest
      obtain ⟨member, rfl⟩ := PaymentState.holder_some held
      split at outcome
      · cases outcome
        exact .released _ _
      · rename_i unused
        cases outcome
        exact .committed activation view member (Bool.eq_false_iff.mpr unused)
  | fail lock =>
      obtain ⟨activation, held, outcome⟩ := Option.map_eq_some_iff.mp taken
      cases outcome
      exact .released _ _

def paidOrders (db : Database) : List BillingTransaction :=
  db.transactions.rows.filter (fun tx => tx.status = .paid)

/-- What every reachable state satisfies: one new subscription for each paid order, payments and
order identifiers that are unique, and one lock for each order under way, which is pending.
-/
structure PaymentInvariant (earlier : Nat) (state : PaymentState) : Prop where
  counted : state.db.subscriptions.rows.length = earlier + (paidOrders state.db).length
  payments
    : ∀ left ∈ state.db.transactions.rows, ∀ right ∈ state.db.transactions.rows,
      ∀ paymentId, left.providerPaymentId = some paymentId
      → right.providerPaymentId = some paymentId → left = right
  named
    : ∀ tx ∈ state.db.transactions.rows, tx.status = .paid
      → ∃ row ∈ state.db.subscriptions.rows, tx.subscriptionId = some row.id
  orders : (state.db.transactions.rows.map BillingTransaction.providerOrderId).Nodup
  locked
    : ∀ activation ∈ state.inFlight,
        activation.tx ∈ state.db.transactions.rows ∧ activation.tx.status = .pending
  exclusive : (state.inFlight.map (fun activation => activation.tx.id)).Nodup

section Invariant

variable {earlier : Nat} {state : PaymentState}

theorem PaymentInvariant.release (invariant : PaymentInvariant earlier state) (lock : Uuid)
    : PaymentInvariant earlier (state.release lock) where
  counted := invariant.counted
  payments := invariant.payments
  named := invariant.named
  orders := invariant.orders
  locked activation member := invariant.locked activation (List.mem_filter.mp member).1
  exclusive := invariant.exclusive.sublist (List.Sublist.map _ List.filter_sublist)

theorem PaymentState.release_free {lock : Uuid} {activation : Activation}
    (member : activation ∈ (state.release lock).inFlight)
    : activation.tx.id ≠ lock := by
  simpa using (List.mem_filter.mp member).2

theorem PaymentInvariant.lock (invariant : PaymentInvariant earlier state)
    {activation : Activation} (stored : activation.tx ∈ state.db.transactions.rows)
    (pending : activation.tx.status = .pending)
    (free : ∀ other ∈ state.inFlight, other.tx.id ≠ activation.tx.id)
    : PaymentInvariant earlier { state with inFlight := state.inFlight ++ [activation] } where
  counted := invariant.counted
  payments := invariant.payments
  named := invariant.named
  orders := invariant.orders
  locked other member := by
    rcases List.mem_append.mp member with old | new
    · exact invariant.locked other old
    · rw [List.mem_singleton.mp new]
      exact ⟨stored, pending⟩
  exclusive := by
    rw [List.map_append, List.nodup_append]
    refine ⟨invariant.exclusive, by simp, ?_⟩
    intro left old right new same
    obtain ⟨other, member, rfl⟩ := List.mem_map.mp old
    rw [List.map_singleton, List.mem_singleton] at new
    exact free other member (same.trans new)

theorem commitView_order {db : Database} {tx order : BillingTransaction} {view : ActivationView}
    {providerPaymentId : String} (stored : tx ∈ db.transactions.rows)
    (member : order ∈ (commitView db tx view providerPaymentId).1.transactions.rows)
    : order = (commitView db tx view providerPaymentId).2.1
      ∨ order ∈ db.transactions.rows ∧ order.id ≠ tx.id := by
  change order ∈ (db.transactions.modify tx.id _).rows at member
  rw [Table.rows_modify] at member
  obtain ⟨source, known, rfl⟩ := List.mem_map.mp member
  dsimp only
  split
  · rename_i same
    have isTx : source = tx := db.transactions.eq_of_key_eq known stored same
    exact .inl (isTx ▸ rfl)
  · rename_i other
    exact .inr ⟨known, other⟩

theorem PaymentInvariant.commit (invariant : PaymentInvariant earlier state)
    {activation : Activation} (held : activation ∈ state.inFlight) (view : ActivationView)
    (unused : paymentIdUsed state.db activation.tx activation.providerPaymentId = false)
    : PaymentInvariant earlier
        { state.release activation.tx.id with
          db := (commitView state.db activation.tx view activation.providerPaymentId).1 } := by
  obtain ⟨stored, pending⟩ := invariant.locked activation held
  have others : ∀ order ∈ state.db.transactions.rows, order.id ≠ activation.tx.id
      → order.providerPaymentId ≠ some activation.providerPaymentId := by
    intro order member different same
    have used : paymentIdUsed state.db activation.tx activation.providerPaymentId = true :=
      List.any_eq_true.mpr ⟨order, member, by simp [different, same]⟩
    rw [unused] at used
    cases used
  constructor
  · have paid := Table.length_filter_modify state.db.transactions
      ⟨payTransaction view.now (activatedSubscription view.now activation.tx view.plan
        (state.db.subscriptions.update (cancelRead view)).freshKey)
        activation.providerPaymentId, fun _ => rfl⟩
      (fun tx => tx.status = .paid) stored (by simp [pending]) (by simp [payTransaction])
    have counted := invariant.counted
    unfold paidOrders at counted ⊢
    change ((state.db.subscriptions.update (cancelRead view)).rows ++ [_]).length
      = earlier + ((state.db.transactions.modify activation.tx.id _).rows.filter _).length
    rw [paid, List.length_append, Table.rows_update, List.length_map, counted]
    simp only [List.length_singleton]
    omega
  · intro left first right second paymentId leftId rightId
    rcases commitView_order stored first with rfl | ⟨leftOld, leftOther⟩ <;>
      rcases commitView_order stored second with rfl | ⟨rightOld, rightOther⟩
    · rfl
    · cases leftId
      exact absurd rightId (others right rightOld rightOther)
    · cases rightId
      exact absurd leftId (others left leftOld leftOther)
    · exact invariant.payments left leftOld right rightOld paymentId leftId rightId
  · intro order member paid
    have rows
        : (commitView state.db activation.tx view
            activation.providerPaymentId).1.subscriptions.rows
          = state.db.subscriptions.rows.map (cancelRead view).apply
            ++ [(commitView state.db activation.tx view activation.providerPaymentId).2.2] := rfl
    rcases commitView_order stored member with rfl | ⟨old, other⟩
    · exact ⟨_, rows ▸ List.mem_append_right _ (List.mem_singleton_self _), rfl⟩
    · obtain ⟨row, known, created⟩ := invariant.named order old paid
      refine ⟨(cancelRead view).apply row,
        rows ▸ List.mem_append_left _ (List.mem_map_of_mem known), ?_⟩
      rw [(cancelRead view).kept]
      exact created
  · have same
        : (commitView state.db activation.tx view
            activation.providerPaymentId).1.transactions.rows.map
              BillingTransaction.providerOrderId
          = state.db.transactions.rows.map BillingTransaction.providerOrderId := by
      change (state.db.transactions.modify activation.tx.id _).rows.map _ = _
      rw [Table.rows_modify, List.map_map]
      refine List.map_congr_left ?_
      intro order _
      simp only [Function.comp_apply]
      split <;> rfl
    rw [same]
    exact invariant.orders
  · intro other member
    obtain ⟨known, open_⟩ := invariant.locked other (List.mem_filter.mp member).1
    refine ⟨?_, open_⟩
    have different := PaymentState.release_free member
    change other.tx ∈ (state.db.transactions.modify activation.tx.id _).rows
    rw [Table.rows_modify]
    exact List.mem_map.mpr ⟨other.tx, known, if_neg different⟩
  · exact (invariant.release activation.tx.id).exclusive

theorem PaymentInvariant.step (invariant : PaymentInvariant earlier state)
    {next : PaymentState} {result : Option PaymentResult}
    (effect : PaymentEffect state next result)
    : PaymentInvariant earlier next := by
  cases effect with
  | ended result => exact invariant
  | locked tx providerPaymentId stored pending free =>
      refine invariant.lock stored pending ?_
      intro other member same
      have isTx : other.tx = tx :=
        state.db.transactions.eq_of_key_eq (invariant.locked other member).1 stored same
      exact free other member (congrArg BillingTransaction.providerOrderId isTx)
  | viewed activation view held =>
      obtain ⟨stored, pending⟩ := invariant.locked activation held
      exact (invariant.release activation.tx.id).lock stored pending
        (fun other member => PaymentState.release_free member)
  | released lock failure => exact invariant.release lock
  | committed activation view held unused => exact invariant.commit held view unused

end Invariant

/-- The orders of a start are pending, and nobody has paid or called yet. -/
structure PendingOrders (start : PaymentState) : Prop where
  pending
    : ∀ tx ∈ start.db.transactions.rows, tx.status = .pending ∧ tx.providerPaymentId = none
  orders : (start.db.transactions.rows.map BillingTransaction.providerOrderId).Nodup
  idle : start.inFlight = []

theorem PendingOrders.invariant {start : PaymentState} (orders : PendingOrders start)
    : PaymentInvariant start.db.subscriptions.rows.length start where
  counted := by
    have none : paidOrders start.db = [] := by
      refine List.filter_eq_nil_iff.mpr ?_
      intro tx member
      simp [(orders.pending tx member).1]
    rw [none]
    rfl
  payments := by
    intro left first _ _ paymentId used
    rw [(orders.pending left first).2] at used
    cases used
  named := by
    intro tx member paid
    rw [(orders.pending tx member).1] at paid
    cases paid
  orders := orders.orders
  locked := by
    rw [orders.idle]
    intro activation member
    cases member
  exclusive := by
    rw [orders.idle]
    exact List.nodup_nil

theorem PaymentInvariant.reachable {verify : String → String → String → Bool} {earlier : Nat}
    {start state : PaymentState} (reached : Reachable (PaymentStep verify) start state)
    (invariant : PaymentInvariant earlier start)
    : PaymentInvariant earlier state :=
  reached.invariant (fun state => PaymentInvariant earlier state)
    (fun ⟨_, taken⟩ held => held.step (paymentStep_effect taken)) invariant

theorem PaymentInvariant.replay {earlier : Nat} {state : PaymentState}
    (invariant : PaymentInvariant earlier state)
    (verify : String → String → String → Bool) {tx : BillingTransaction}
    (member : tx ∈ paidOrders state.db) (paymentId signature : String)
    : ∃ row ∈ state.db.subscriptions.rows,
        tx.subscriptionId = some row.id
        ∧ paymentStep verify state
            (.start (.verify tx.userId tx.providerOrderId paymentId signature))
          = some (state, some (.returned (some (tx, row)))) := by
  obtain ⟨stored, status⟩ := List.mem_filter.mp member
  have paid : tx.status = .paid := of_decide_eq_true status
  obtain ⟨row, known, created⟩ := invariant.named tx stored paid
  refine ⟨row, known, created, ?_⟩
  have only : ∀ other ∈ state.db.transactions.rows,
      other.providerOrderId = tx.providerOrderId → other = tx :=
    fun other found same => List.inj_on_of_nodup_map invariant.orders found stored same
  have unblocked
      : state.blocked (.verify tx.userId tx.providerOrderId paymentId signature) = false := by
    refine List.any_eq_false.mpr ?_
    intro activation held same
    obtain ⟨found, pending⟩ := invariant.locked activation held
    rw [only activation.tx found (of_decide_eq_true same), paid] at pending
    cases pending
  have found
      : state.db.transactions.rows.find?
          (fun other => other.providerOrderId = tx.providerOrderId) = some tx := by
    cases search : state.db.transactions.rows.find?
        (fun other => other.providerOrderId = tx.providerOrderId) with
    | none =>
        have missing := List.find?_eq_none.mp search tx stored
        simp at missing
    | some other =>
        have same := List.find?_some search
        rw [only other (List.mem_of_find?_eq_some search) (of_decide_eq_true same)]
  have subscription : tx.subscriptionId.bind state.db.subscriptions.get? = some row := by
    rw [created]
    exact Table.get?_of_mem known
  simp [paymentStep, unblocked, startCall, found, paid, beginActivation, subscription]

end Blockhost
