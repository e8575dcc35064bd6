import Blockhost.Api.PaddleWebhook
import Blockhost.Api.Servers
import Blockhost.Library.Run

/-! Runs of the billing operations, and when an activated subscription opens the start gate. A
server has at most one live subscription row in every reachable state; the gate is closed by
any row that a sweep has suspended, which no activation removes.
-/

namespace Blockhost

open Library

/-- The database and the time of its last change. -/
structure BillingState where
  db : Database
  clock : Instant

/-- Server creations with their trials, orders, payments through either channel, expiration
sweeps and Paddle notifications.
-/
inductive BillingEvent where
  | createServer (serversDir : String) (user : User) (payload : CreateServerRequest)
      (placement : Except HttpError (Option Node))
  | createOrder (user : User) (serverId : Uuid) (targetPlanId : String) (order : ProviderOrder)
  | verifyPayment (verifyProviderSignature : String → String → String → Bool) (userId : Uuid)
      (providerOrderId providerPaymentId signature : String)
  | capturePayment (providerOrderId providerPaymentId : String)
  | sweep
  | notification (eventType : String) (data : PaddleData) (customData : CustomData)

/-- The committed state after an event; a call that raises leaves the state alone, and of the
Paddle notifications only cancellations belong to these runs.
-/
def handleBilling (settings : Settings) (now : Instant) (db : Database) : BillingEvent → Database
  | .createServer serversDir user payload placement =>
      match createServer settings serversDir db now user payload placement with
      | .error _ => db
      | .ok next => next
  | .createOrder user serverId targetPlanId order =>
      match createUpgradeTransaction db user serverId targetPlanId order with
      | .error _ => db
      | .ok next => next
  | .verifyPayment verify userId providerOrderId providerPaymentId signature =>
      match verifyUpgradePayment verify db now userId providerOrderId providerPaymentId
          signature with
      | .error _ => db
      | .ok (next, _, _) => next
  | .capturePayment providerOrderId providerPaymentId =>
      match fulfillWebhookPayment db now providerOrderId providerPaymentId with
      | .ok (some (next, _, _)) => next
      | _ => db
  | .sweep => (processSubscriptionExpirations settings now db).1
  | .notification eventType data customData =>
      if cancelsSubscription eventType data then
        (handleSubscriptionEvent now eventType data customData db).1
      else db

/-- One event at a time that is not earlier than the last change. -/
def BillingStep (settings : Settings) (before : BillingState) (event : BillingEvent)
    (after : BillingState)
    : Prop :=
  before.clock ≤ after.clock ∧ after.db = handleBilling settings after.clock before.db event

def serverRows (db : Database) (serverId : Uuid) : List BillingSubscription :=
  db.subscriptions.rows.filter (fun row => row.serverId = some serverId)

/-- A step that no billing event of the server takes part in: a sweep, which runs all the
time, or an event that leaves the rows of the server as they are.
-/
def UndisturbedStep (settings : Settings) (serverId : Uuid) (before : BillingState)
    (event : BillingEvent) (after : BillingState)
    : Prop :=
  BillingStep settings before event after
  ∧ (event = .sweep ∨ serverRows after.db serverId = serverRows before.db serverId)

/-- A state in which nobody has subscribed or ordered yet. -/
structure BillingState.Initial (state : BillingState) : Prop where
  subscriptions : state.db.subscriptions = .empty
  transactions : state.db.transactions = .empty

/-- What every reachable database satisfies: rows belong to stored servers, a server has at
most one live row, and a paid transaction's subscription is a row of its server.
-/
structure BillingInvariant (db : Database) : Prop where
  stored
    : ∀ row ∈ db.subscriptions.rows, ∀ serverId, row.serverId = some serverId
      → serverId ∈ db.servers.rows.map Server.id
  single
    : ∀ left ∈ db.subscriptions.rows, ∀ right ∈ db.subscriptions.rows,
      left.live = true → right.live = true
      → ∀ serverId, left.serverId = some serverId → right.serverId = some serverId
      → left = right
  owned
    : ∀ tx ∈ db.transactions.rows, tx.status = .paid
      → ∃ row ∈ db.subscriptions.rows,
          tx.subscriptionId = some row.id ∧ row.serverId = tx.serverId

/-- Everything that one event can do to the tables of the invariant. -/
inductive BillingChange (settings : Settings) (now : Instant) (db next : Database) : Prop where
  | unrelated
      (plans : next.plans = db.plans)
      (subscriptions : next.subscriptions = db.subscriptions)
      (transactions
        : ∀ tx ∈ next.transactions.rows, tx.status = .paid → tx ∈ db.transactions.rows)
      (servers
        : ∀ id ∈ db.servers.rows.map Server.id, id ∈ next.servers.rows.map Server.id)
  | trial (server : Server) (plan : BillingPlan)
      (plans : next.plans = db.plans)
      (subscriptions
        : next.subscriptions.rows
          = db.subscriptions.rows
            ++ [trialSubscription now server plan db.subscriptions.freshKey])
      (transactions : next.transactions = db.transactions)
      (fresh : server.id ∉ db.servers.rows.map Server.id)
      (servers
        : next.servers.rows.map Server.id = db.servers.rows.map Server.id ++ [server.id])
  | activation (tx : BillingTransaction) (server : Server) (plan : BillingPlan)
      (providerPaymentId : String)
      (ordered : tx ∈ db.transactions.rows)
      (names : tx.serverId = some server.id)
      (known : server ∈ db.servers.rows)
      (planned : plan ∈ db.plans.rows)
      (result : next = (commitActivation db now tx server plan providerPaymentId).1)
  | swept (result : next = (processSubscriptionExpirations settings now db).1)
  | cancelled (id : Uuid) (subscriptionId : String)
      (plans : next.plans = db.plans)
      (subscriptions
        : next.subscriptions
          = db.subscriptions.modify id
              ⟨markSubscription now .cancelled subscriptionId,
                markSubscription_id now .cancelled subscriptionId⟩)
      (transactions : next.transactions = db.transactions)
      (servers : next.servers.rows.map Server.id = db.servers.rows.map Server.id)

theorem BillingChange.refl (settings : Settings) (now : Instant) (db : Database)
    : BillingChange settings now db db :=
  .unrelated rfl rfl (fun _ member _ => member) (fun _ member => member)

/-- An activation finds its transaction paid already, or commits it, by the order of its checks. -/
theorem activateSubscription_ok {db next : Database} {now : Instant}
    {tx paid : BillingTransaction} {providerPaymentId : String}
    {subscription : BillingSubscription}
    (activated : activateSubscription db now tx providerPaymentId
      = .ok (next, paid, subscription))
    : (tx.status = .paid ∧ next = db ∧ ∃ id, tx.subscriptionId = some id
        ∧ db.subscriptions.get? id = some subscription)
      ∨ (tx.status = .pending ∧ ∃ server plan,
          tx.serverId = some server.id
          ∧ server ∈ db.servers.rows
          ∧ db.plans.get? tx.targetPlanId = some plan
          ∧ (next, paid, subscription)
            = commitActivation db now tx server plan providerPaymentId) := by
  unfold activateSubscription at activated
  cases status : tx.status with
  | paid =>
      simp only [status] at activated
      cases found : tx.subscriptionId.bind db.subscriptions.get? with
      | none => simp [found] at activated
      | some row =>
          simp only [found, Except.ok.injEq, Prod.mk.injEq] at activated
          obtain ⟨rfl, -, rfl⟩ := activated
          exact .inl ⟨rfl, rfl, Option.bind_eq_some_iff.mp found⟩
  | pending =>
      simp only [status] at activated
      split at activated
      · rename_i server plan foundServer foundPlan
        obtain ⟨serverId, names, stored⟩ := Option.bind_eq_some_iff.mp foundServer
        obtain ⟨member, rfl⟩ := Table.get?_some stored
        split_ifs at activated
        exact .inr ⟨rfl, server, plan, names, member, foundPlan,
          (Except.ok.inj activated).symm⟩
      · contradiction
  | failed => simp [status] at activated
  | refunded => simp [status] at activated

/-- An activation of a stored transaction is one of the changes, by its two outcomes. -/
theorem BillingChange.of_activation (settings : Settings) {db next : Database} {now : Instant}
    {tx paid : BillingTransaction} {providerPaymentId : String}
    {subscription : BillingSubscription} (ordered : tx ∈ db.transactions.rows)
    (activated : activateSubscription db now tx providerPaymentId
      = .ok (next, paid, subscription))
    : BillingChange settings now db next := by
  rcases activateSubscription_ok activated with
    ⟨_, rfl, _⟩ | ⟨_, server, plan, names, known, planned, committed⟩
  · exact .refl settings now next
  · exact .activation tx server plan providerPaymentId ordered names known
      (Table.get?_some planned).1 (congrArg Prod.fst committed)

/-- Every event makes one of the changes, by cases on the event. -/
theorem handleBilling_change (settings : Settings) (now : Instant) (db : Database)
    (event : BillingEvent)
    : BillingChange settings now db (handleBilling settings now db event) := by
  cases event with
  | createServer serversDir user payload placement =>
      simp only [handleBilling]
      cases created : createServer settings serversDir db now user payload placement with
      | error _ => exact .refl settings now db
      | ok next =>
          rcases createServer_ok created with
            rfl | ⟨servers, plans, transactions, subscriptions | ⟨server, plan, same, rows⟩⟩
          · exact .refl settings now next
          · refine .unrelated plans subscriptions ?_ ?_
            · intro tx member _
              exact transactions ▸ member
            · intro id member
              exact servers ▸ List.mem_append_left _ member
          · exact .trial server plan plans rows transactions
              (same ▸ db.servers.freshKey_notMem) (same ▸ servers)
  | createOrder user serverId targetPlanId order =>
      simp only [handleBilling]
      cases ordered : createUpgradeTransaction db user serverId targetPlanId order with
      | error _ => exact .refl settings now db
      | ok next =>
          obtain ⟨server, plan, rfl⟩ := createUpgradeTransaction_ok ordered
          refine .unrelated rfl rfl ?_ (fun _ member => member)
          intro tx member paid
          rcases List.mem_append.mp member with old | new
          · exact old
          · rw [List.mem_singleton.mp new] at paid
            contradiction
  | verifyPayment verify userId providerOrderId providerPaymentId signature =>
      simp only [handleBilling]
      split
      · exact .refl settings now db
      · rename_i verified
        obtain ⟨tx, ordered, activated⟩ := verifyUpgradePayment_ok verified
        exact .of_activation settings ordered activated
  | capturePayment providerOrderId providerPaymentId =>
      simp only [handleBilling]
      split
      · rename_i captured
        obtain ⟨tx, ordered, activated⟩ := fulfillWebhookPayment_ok captured
        exact .of_activation settings ordered activated
      · exact .refl settings now db
  | sweep => exact .swept rfl
  | notification eventType data customData =>
      simp only [handleBilling]
      split
      · rename_i cancels
        obtain ⟨plans, transactions, servers, same | ⟨id, subscriptionId, marked⟩⟩ :=
          handleSubscriptionEvent_cancels now customData db cancels
        · exact .unrelated plans same (fun _ member _ => transactions ▸ member)
            (fun _ member => servers ▸ member)
        · exact .cancelled id subscriptionId plans marked transactions servers
      · exact .refl settings now db

/-- No change removes a row or moves it to another server, by cases on the change. -/
theorem BillingChange.row_kept {settings : Settings} {now : Instant} {db next : Database}
    (change : BillingChange settings now db next)
    : ∀ row ∈ db.subscriptions.rows, ∃ kept ∈ next.subscriptions.rows,
        kept.id = row.id ∧ kept.serverId = row.serverId := by
  intro row member
  cases change with
  | unrelated _ subscriptions _ _ => exact ⟨row, subscriptions ▸ member, rfl, rfl⟩
  | trial _ _ _ subscriptions _ _ _ =>
      exact ⟨row, subscriptions ▸ List.mem_append_left _ member, rfl, rfl⟩
  | activation tx _ _ _ _ _ _ _ result =>
      subst result
      refine ⟨cancelExisting now tx.serverId row, ?_, by simp, by simp⟩
      exact List.mem_append_left _ (List.mem_map_of_mem member)
  | swept result =>
      subst result
      exact ⟨expireSubscription settings now row, List.mem_map_of_mem member, by simp, by simp⟩
  | cancelled id subscriptionId _ subscriptions _ _ =>
      rw [subscriptions, Table.rows_modify]
      refine ⟨_, List.mem_map_of_mem member, ?_, ?_⟩ <;> dsimp only <;> split <;>
        simp

theorem BillingChange.stored {settings : Settings} {now : Instant} {db next : Database}
    (change : BillingChange settings now db next) (invariant : BillingInvariant db)
    : ∀ row ∈ next.subscriptions.rows, ∀ serverId, row.serverId = some serverId
      → serverId ∈ next.servers.rows.map Server.id := by
  intro row member serverId names
  cases change with
  | unrelated _ subscriptions _ servers =>
      exact servers _ (invariant.stored row (subscriptions ▸ member) serverId names)
  | trial server plan _ subscriptions _ _ servers =>
      rw [subscriptions] at member
      rw [servers]
      rcases List.mem_append.mp member with old | new
      · exact List.mem_append_left _ (invariant.stored row old serverId names)
      · rw [List.mem_singleton.mp new] at names
        exact List.mem_append_right _ (by simpa [trialSubscription] using names.symm)
  | activation tx server plan _ _ belongs known _ result =>
      subst result
      have keys := db.servers.keys_modify server.id (applyPlanLimitsToServer plan)
      refine keys.symm ▸ ?_
      rcases List.mem_append.mp member with old | new
      · obtain ⟨source, stored, rfl⟩ := List.mem_map.mp old
        rw [cancelExisting_serverId] at names
        exact invariant.stored source stored serverId names
      · rw [List.mem_singleton.mp new] at names
        have same : server.id = serverId := Option.some.inj (belongs ▸ names)
        exact same ▸ List.mem_map_of_mem known
  | swept result =>
      subst result
      obtain ⟨source, stored, rfl⟩ := List.mem_map.mp member
      rw [expireSubscription_serverId] at names
      exact (Table.keys_update _ _).symm ▸ invariant.stored source stored serverId names
  | cancelled id subscriptionId _ subscriptions _ servers =>
      rw [subscriptions, Table.rows_modify] at member
      obtain ⟨source, stored, rfl⟩ := List.mem_map.mp member
      refine servers ▸ invariant.stored source stored serverId ?_
      dsimp only at names
      split at names
      · simpa using names
      · exact names

/-- At most one row of a server is live after a change: an activation cancels those before it. -/
theorem BillingChange.single {settings : Settings} {now : Instant} {db next : Database}
    (change : BillingChange settings now db next) (invariant : BillingInvariant db)
    : ∀ left ∈ next.subscriptions.rows, ∀ right ∈ next.subscriptions.rows,
      left.live = true → right.live = true
      → ∀ serverId, left.serverId = some serverId → right.serverId = some serverId
      → left = right := by
  intro left first right second leftLive rightLive serverId leftNames rightNames
  cases change with
  | unrelated _ subscriptions _ _ =>
      rw [subscriptions] at first second
      exact invariant.single left first right second leftLive rightLive serverId leftNames
        rightNames
  | trial server plan _ subscriptions _ fresh _ =>
      rw [subscriptions] at first second
      have absent (row : BillingSubscription) (old : row ∈ db.subscriptions.rows)
          : row.serverId ≠ some server.id :=
        fun names => fresh (invariant.stored row old server.id names)
      rcases List.mem_append.mp first with old | new <;>
        rcases List.mem_append.mp second with other | added
      · exact invariant.single left old right other leftLive rightLive serverId leftNames
          rightNames
      · rw [List.mem_singleton.mp added] at rightNames
        exact absurd (leftNames.trans rightNames.symm) (absent left old)
      · rw [List.mem_singleton.mp new] at leftNames
        exact absurd (rightNames.trans leftNames.symm) (absent right other)
      · rw [List.mem_singleton.mp new, List.mem_singleton.mp added]
  | activation tx server plan _ _ belongs _ _ result =>
      subst result
      have survivor (row : BillingSubscription)
          (old : row ∈ (db.subscriptions.rows.map (cancelExisting now tx.serverId)))
          (live : row.live = true)
          : row ∈ db.subscriptions.rows ∧ row.serverId ≠ tx.serverId := by
        obtain ⟨source, stored, rfl⟩ := List.mem_map.mp old
        obtain ⟨other, same⟩ := cancelExisting_alive live
        exact ⟨same.symm ▸ stored, by simpa using other⟩
      rcases List.mem_append.mp first with old | new <;>
        rcases List.mem_append.mp second with other | added
      · exact invariant.single left (survivor left old leftLive).1 right
          (survivor right other rightLive).1 leftLive rightLive serverId leftNames rightNames
      · rw [List.mem_singleton.mp added] at rightNames
        exact absurd (leftNames.trans rightNames.symm) (survivor left old leftLive).2
      · rw [List.mem_singleton.mp new] at leftNames
        exact absurd (rightNames.trans leftNames.symm) (survivor right other rightLive).2
      · rw [List.mem_singleton.mp new, List.mem_singleton.mp added]
  | swept result =>
      subst result
      obtain ⟨leftSource, leftStored, rfl⟩ := List.mem_map.mp first
      obtain ⟨rightSource, rightStored, rfl⟩ := List.mem_map.mp second
      rw [invariant.single leftSource leftStored rightSource rightStored
        (expireSubscription_live leftLive) (expireSubscription_live rightLive) serverId
        (by simpa using leftNames) (by simpa using rightNames)]
  | cancelled id subscriptionId _ subscriptions _ _ =>
      have survivor (row : BillingSubscription) (member : row ∈ next.subscriptions.rows)
          (live : row.live = true)
          : row ∈ db.subscriptions.rows := by
        rw [subscriptions, Table.rows_modify] at member
        obtain ⟨source, stored, rfl⟩ := List.mem_map.mp member
        dsimp only at live ⊢
        split
        · rename_i same
          simp [same, BillingSubscription.live] at live
        · exact stored
      exact invariant.single left (survivor left first leftLive) right
        (survivor right second rightLive) leftLive rightLive serverId leftNames rightNames

theorem BillingChange.owned {settings : Settings} {now : Instant} {db next : Database}
    (change : BillingChange settings now db next) (invariant : BillingInvariant db)
    : ∀ tx ∈ next.transactions.rows, tx.status = .paid
      → ∃ row ∈ next.subscriptions.rows,
          tx.subscriptionId = some row.id ∧ row.serverId = tx.serverId := by
  intro tx member paid
  have carried (old : tx ∈ db.transactions.rows)
      : ∃ row ∈ next.subscriptions.rows,
          tx.subscriptionId = some row.id ∧ row.serverId = tx.serverId := by
    obtain ⟨row, stored, created, same⟩ := invariant.owned tx old paid
    obtain ⟨kept, present, sameId, sameServer⟩ := change.row_kept row stored
    exact ⟨kept, present, sameId ▸ created, sameServer.trans same⟩
  cases change with
  | unrelated _ _ transactions _ => exact carried (transactions tx member paid)
  | trial _ _ _ _ transactions _ _ => exact carried (transactions ▸ member)
  | activation ordered _ plan providerPaymentId stored _ _ _ result =>
      subst result
      obtain ⟨source, known, rfl⟩ := List.mem_map.mp member
      by_cases same : source.id = ordered.id
      · have equal : source = ordered := db.transactions.eq_of_key_eq known stored same
        subst equal
        refine ⟨_, List.mem_append_right _ (List.mem_singleton_self _), ?_, ?_⟩
        · simp [Change.at, payTransaction]
        · simp [Change.at, payTransaction, activatedSubscription]
      · rw [Change.at_other _ same] at carried ⊢
        exact carried known
  | swept result =>
      subst result
      exact carried member
  | cancelled _ _ _ _ transactions _ => exact carried (transactions ▸ member)

/-- One step keeps the invariant, each part by its lemma on changes. -/
theorem BillingInvariant.step {settings : Settings} {before after : BillingState}
    {event : BillingEvent} (taken : BillingStep settings before event after)
    (invariant : BillingInvariant before.db)
    : BillingInvariant after.db := by
  have change := handleBilling_change settings after.clock before.db event
  rw [← taken.2] at change
  exact ⟨change.stored invariant, change.single invariant, change.owned invariant⟩

/-- The invariant holds in every reachable state, by induction on the run. -/
theorem BillingInvariant.reachable {settings : Settings} {start state : BillingState}
    (initial : start.Initial) (reached : Reachable (BillingStep settings) start state)
    : BillingInvariant state.db := by
  refine reached.invariant (fun state => BillingInvariant state.db)
    (fun taken => BillingInvariant.step taken) ?_
  refine ⟨?_, ?_, ?_⟩ <;> simp [initial.subscriptions, initial.transactions]

-- The start gate along a run

def Unsuspended (db : Database) (serverId : Uuid) : Prop :=
  ∀ row ∈ db.subscriptions.rows, row.serverId = some serverId → row.status ≠ .suspended

/-- A row that entitles a server beyond a time, on a plan with memory. -/
structure Covers (settings : Settings) (db : Database) (serverId : Uuid) (time : Instant)
    (row : BillingSubscription)
    : Prop where
  stored : row ∈ db.subscriptions.rows
  names : row.serverId = some serverId
  lasts : ∃ finish ∈ row.entitledUntil settings, time < finish
  planned : ∃ plan, db.plans.get? row.planId = some plan ∧ 0 < plan.ramMb

theorem Covers.entitles {settings : Settings} {db : Database} {serverId : Uuid}
    {time : Instant} {row : BillingSubscription} (covers : Covers settings db serverId time row)
    : row.entitles settings time serverId = true :=
  BillingSubscription.entitles_iff.mpr ⟨covers.names, covers.lasts⟩

theorem Covers.live {settings : Settings} {db : Database} {serverId : Uuid}
    {time : Instant} {row : BillingSubscription} (covers : Covers settings db serverId time row)
    : row.live = true :=
  BillingSubscription.live_of_entitles covers.entitles

theorem ensureServerNotBillingSuspended_ok {db : Database} {serverId : Uuid}
    : ensureServerNotBillingSuspended db serverId = .ok () ↔ Unsuspended db serverId := by
  unfold ensureServerNotBillingSuspended Unsuspended
  simp only [List.any_eq_true, Bool.and_eq_true, decide_eq_true_eq]
  constructor
  · intro passed row member names suspended
    rw [if_pos ⟨row, member, names, suspended⟩] at passed
    contradiction
  · intro unsuspended
    rw [if_neg]
    rintro ⟨row, member, names, suspended⟩
    exact unsuspended row member names suspended

/-- A start that is allowed has a row that covers it, by the checks in front of it. -/
theorem ensureActiveSubscriptionForStart_covers {settings : Settings} {db : Database}
    {time : Instant} {serverId : Uuid}
    (opened : ensureActiveSubscriptionForStart settings db time serverId = .ok ())
    : Unsuspended db serverId ∧ ∃ row, Covers settings db serverId time row := by
  unfold ensureActiveSubscriptionForStart at opened
  cases gate : ensureServerNotBillingSuspended db serverId with
  | error failure =>
      rw [gate] at opened
      contradiction
  | ok _ =>
      refine ⟨ensureServerNotBillingSuspended_ok.mp gate, ?_⟩
      simp only [gate, bind, Except.bind] at opened
      cases found : activeSubscriptionForServer settings db time serverId with
      | none => simp [found, throw, throwThe, MonadExceptOf.throw] at opened
      | some row =>
          obtain ⟨stored, entitled, _⟩ := activeSubscriptionForServer_some found
          obtain ⟨names, lasts⟩ := BillingSubscription.entitles_iff.mp entitled
          refine ⟨row, stored, names, lasts, ?_⟩
          simp only [found] at opened
          cases planned : db.plans.get? row.planId with
          | none => simp [planned, throw, throwThe, MonadExceptOf.throw] at opened
          | some plan =>
              refine ⟨plan, rfl, ?_⟩
              by_contra memory
              simp [planned, not_lt.mp memory, throw, throwThe, MonadExceptOf.throw] at opened

theorem ensureActiveSubscriptionForStart_ok {settings : Settings} {db : Database}
    {time : Instant} {serverId : Uuid} {row : BillingSubscription}
    (invariant : BillingInvariant db) (unsuspended : Unsuspended db serverId)
    (covers : Covers settings db serverId time row)
    : ensureActiveSubscriptionForStart settings db time serverId = .ok () := by
  have found : activeSubscriptionForServer settings db time serverId = some row := by
    refine activeSubscriptionForServer_eq covers.stored covers.entitles ?_
    intro other member entitled
    exact invariant.single other member row covers.stored
      (BillingSubscription.live_of_entitles entitled) covers.live serverId
      (BillingSubscription.entitles_iff.mp entitled).1 covers.names
  obtain ⟨plan, planned, memory⟩ := covers.planned
  have gate := ensureServerNotBillingSuspended_ok.mpr unsuspended
  simp [ensureActiveSubscriptionForStart, gate, found, planned, not_le.mpr memory, bind,
    Except.bind, pure, Except.pure]

theorem BillingChange.plans_eq {settings : Settings} {now : Instant} {db next : Database}
    (change : BillingChange settings now db next)
    : next.plans = db.plans := by
  cases change with
  | unrelated plans _ _ _ => exact plans
  | trial _ _ plans _ _ _ _ => exact plans
  | activation _ _ _ _ _ _ _ _ result => rw [result]; rfl
  | swept result => rw [result]; rfl
  | cancelled _ _ plans _ _ _ => exact plans

/-- A sweep before the end of the covering row leaves every row of the server alone. -/
theorem sweep_covered {settings : Settings} {db : Database} {serverId : Uuid}
    {now time : Instant} {row : BillingSubscription} (other : BillingSubscription)
    (invariant : BillingInvariant db) (covers : Covers settings db serverId time row)
    (early : now ≤ time) (member : other ∈ db.subscriptions.rows)
    (names : other.serverId = some serverId)
    : expireSubscription settings now other = other := by
  cases live : other.live with
  | false => exact expireSubscription_closed live
  | true =>
      have same : other = row :=
        invariant.single other member row covers.stored live covers.live serverId names
          covers.names
      obtain ⟨finish, within, later⟩ := covers.lasts
      exact expireSubscription_before (same ▸ within) (lt_of_le_of_lt early later)

theorem open_of_sameRows {settings : Settings} {db next : Database} {serverId : Uuid}
    {time : Instant} {row : BillingSubscription}
    (same : ∀ other, other.serverId = some serverId
      → (other ∈ next.subscriptions.rows ↔ other ∈ db.subscriptions.rows))
    (plans : next.plans = db.plans) (unsuspended : Unsuspended db serverId)
    (covers : Covers settings db serverId time row)
    : Unsuspended next serverId ∧ Covers settings next serverId time row := by
  constructor
  · intro other member names
    exact unsuspended other ((same other names).mp member) names
  · exact ⟨(same row covers.names).mpr covers.stored, covers.names, covers.lasts,
      plans ▸ covers.planned⟩

/-- An undisturbed step keeps the start allowed: it is a sweep, or the server's rows stay. -/
theorem UndisturbedStep.open {settings : Settings} {serverId : Uuid} {time : Instant}
    {before after : BillingState} {event : BillingEvent} {row : BillingSubscription}
    (taken : UndisturbedStep settings serverId before event after)
    (early : after.clock ≤ time) (invariant : BillingInvariant before.db)
    (unsuspended : Unsuspended before.db serverId)
    (covers : Covers settings before.db serverId time row)
    : Unsuspended after.db serverId ∧ Covers settings after.db serverId time row := by
  obtain ⟨⟨_, result⟩, apart⟩ := taken
  have change := handleBilling_change settings after.clock before.db event
  rw [← result] at change
  refine open_of_sameRows ?_ change.plans_eq unsuspended covers
  intro other names
  rcases apart with rfl | same
  · rw [result]
    constructor
    · intro member
      obtain ⟨source, stored, rfl⟩ := List.mem_map.mp member
      rw [expireSubscription_serverId] at names
      have kept := sweep_covered source invariant covers early stored names
      change expireSubscription settings after.clock source ∈ _
      rwa [kept]
    · intro member
      have kept := sweep_covered other invariant covers early member names
      exact kept ▸ List.mem_map_of_mem member
  · have equal := congrArg (fun rows => other ∈ rows) same
    simpa [serverRows, names] using equal

/-- The gate stays open along an undisturbed run up to a covered time, by induction on the
run.
-/
theorem Undisturbed.opens {settings : Settings} {serverId : Uuid} {time : Instant}
    {start finish : BillingState} {events : List BillingEvent} {row : BillingSubscription}
    (run : Run (UndisturbedStep settings serverId) start events finish)
    (early : finish.clock ≤ time) (invariant : BillingInvariant start.db)
    (unsuspended : Unsuspended start.db serverId)
    (covers : Covers settings start.db serverId time row)
    : ensureActiveSubscriptionForStart settings finish.db time serverId = .ok () := by
  have kept := run.invariant
    (fun state => BillingInvariant state.db ∧ (state.clock ≤ time
      → Unsuspended state.db serverId ∧ Covers settings state.db serverId time row))
    (fun _ => True) (fun _ taken earlier => ?_) (fun _ _ => trivial)
    ⟨invariant, fun _ => ⟨unsuspended, covers⟩⟩
  · obtain ⟨sound, opened⟩ := kept
    exact ensureActiveSubscriptionForStart_ok sound (opened early).1 (opened early).2
  · obtain ⟨sound, opened⟩ := earlier
    refine ⟨sound.step taken.1, fun within => ?_⟩
    obtain ⟨gate, entitled⟩ := opened (taken.1.1.trans within)
    exact taken.open within sound gate entitled

theorem commitActivation_open (settings : Settings) {db : Database} {now time : Instant}
    {tx : BillingTransaction} (server : Server) {plan : BillingPlan}
    (providerPaymentId : String) {serverId : Uuid} (names : tx.serverId = some serverId)
    (planned : db.plans.get? tx.targetPlanId = some plan) (memory : 0 < plan.ramMb)
    (until_ : time < now + days plan.durationDays)
    : let next := (commitActivation db now tx server plan providerPaymentId).1
      (Unsuspended next serverId ↔ Unsuspended db serverId)
      ∧ ∃ row, Covers settings next serverId time row := by
  have own : db.plans.get? plan.id = some plan := (Table.get?_some planned).2 ▸ planned
  constructor
  · constructor
    · intro gate row member belongs suspended
      refine gate (cancelExisting now tx.serverId row)
        (List.mem_append_left _ (List.mem_map_of_mem member)) (by simpa using belongs) ?_
      exact (cancelExisting_suspended now tx.serverId row).mpr suspended
    · intro gate row member belongs suspended
      rcases List.mem_append.mp member with old | new
      · obtain ⟨source, stored, rfl⟩ := List.mem_map.mp old
        exact gate source stored (by simpa using belongs)
          ((cancelExisting_suspended now tx.serverId source).mp suspended)
      · rw [List.mem_singleton.mp new] at suspended
        contradiction
  · refine ⟨_, List.mem_append_right _ (List.mem_singleton_self _), names, ?_, ?_⟩
    · exact ⟨_, rfl, until_⟩
    · exact ⟨plan, own, memory⟩

/-- In every reachable state, an activation opens the gate at a time within its period, along
every undisturbed run, exactly when no row of the server is suspended and, for a transaction
that was paid before, some row still covers that time.
-/
theorem renewal_unblocks_start_iff {settings : Settings} {start before : BillingState}
    (initial : start.Initial) (reached : Reachable (BillingStep settings) start before)
    (now : Instant) {tx : BillingTransaction} (stored : tx ∈ before.db.transactions.rows)
    (providerPaymentId : String) {next : Database} {paid : BillingTransaction}
    {subscription : BillingSubscription}
    (activated
      : activateSubscription before.db now tx providerPaymentId
        = .ok (next, paid, subscription))
    (serverId : Uuid) (names : tx.serverId = some serverId) (plan : BillingPlan)
    (planned : before.db.plans.get? subscription.planId = some plan) (memory : 0 < plan.ramMb)
    (time : Instant) (from_ : now ≤ time) (until_ : time < subscription.expiresAt)
    : (∀ events finish,
        Run (UndisturbedStep settings serverId) ⟨next, now⟩ events finish
        → finish.clock ≤ time
        → ensureActiveSubscriptionForStart settings finish.db time serverId = .ok ())
      ↔ Unsuspended before.db serverId
        ∧ (tx.status = .pending ∨ ∃ row, Covers settings before.db serverId time row) := by
  have invariant := BillingInvariant.reachable initial reached
  rcases activateSubscription_ok activated with
    ⟨status, rfl, _⟩ | ⟨status, server, target, _, _, found, committed⟩
  · simp only [status, reduceCtorEq, false_or]
    constructor
    · intro always
      exact ensureActiveSubscriptionForStart_covers (always [] ⟨_, now⟩ .done from_)
    · rintro ⟨unsuspended, row, covers⟩ events finish run early
      exact Undisturbed.opens run early invariant unsuspended covers
  · simp only [status, true_or, and_true]
    have added : next = _ := congrArg Prod.fst committed
    have planId : subscription.planId = target.id :=
      congrArg (fun result => result.2.2.planId) committed
    have expiry : subscription.expiresAt = now + days target.durationDays :=
      congrArg (fun result => result.2.2.expiresAt) committed
    have same : target = plan := by
      obtain ⟨member, _⟩ := Table.get?_some found
      obtain ⟨other, otherId⟩ := Table.get?_some planned
      exact before.db.plans.eq_of_key_eq member other (planId.symm.trans otherId.symm)
    subst same
    obtain ⟨gate, row, covers⟩ :=
      commitActivation_open settings server providerPaymentId names found memory
        (expiry ▸ until_)
    rw [← added] at gate covers
    have sound : BillingInvariant next := by
      have change := BillingChange.of_activation settings stored activated
      exact ⟨change.stored invariant, change.single invariant, change.owned invariant⟩
    constructor
    · intro always
      exact gate.mp (ensureActiveSubscriptionForStart_covers
        (always [] ⟨next, now⟩ .done from_)).1
    · intro unsuspended events finish run early
      exact Undisturbed.opens run early sound (gate.mpr unsuspended) covers

private def renewedPlan : BillingPlan where
  id := "pro"
  ramMb := 1024
  cpuLimit := 100
  storageMb := 10240
  playerLimit := 25
  price := 39900
  durationDays := 30

private def trialPlan : BillingPlan :=
  { renewedPlan with id := "trial", price := 0, durationDays := 7 }

private def renewingUser : User where
  id := 1
  email := "owner@example.com"
  authHash := "hash"
  nickname := "owner"

private def beforeTrial : BillingState where
  db := { users := ⟨[renewingUser], by decide⟩, plans := ⟨[trialPlan, renewedPlan], by decide⟩ }
  clock := 0

private def startTrial : BillingEvent :=
  .createServer "servers" renewingUser { worldName := ⟨"world", by decide⟩ } (.ok none)

private def orderRenewal : BillingEvent :=
  .createOrder renewingUser 0 "pro"
    { provider := "razorpay", providerOrderId := "order", amount := 39900, currency := "INR" }

private def trialHistory : List (Instant × BillingEvent) :=
  [(0, startTrial), (days 1, orderRenewal)]

/-- A trial, two sweeps after its end and after its grace period, and an order. -/
private def suspendedHistory : List (Instant × BillingEvent) :=
  [(0, startTrial), (days 7, .sweep), (days 10, .sweep), (days 11, orderRenewal)]

/-- Perform timed events one after the other. -/
def replay (settings : Settings) (start : BillingState) (events : List (Instant × BillingEvent))
    : BillingState :=
  events.foldl
    (fun state event => ⟨handleBilling settings event.1 state.db event.2, event.1⟩) start

/-- Events at nondecreasing times reach a state, by induction on the events. -/
theorem replay_reachable {settings : Settings} {start : BillingState}
    {events : List (Instant × BillingEvent)}
    (ordered : List.IsChain (· ≤ ·) (start.clock :: events.map Prod.fst))
    : Reachable (BillingStep settings) start (replay settings start events) := by
  induction events generalizing start with
  | nil => exact .refl start
  | cons event rest ih =>
      simp only [List.map_cons, List.isChain_cons_cons] at ordered
      have taken : BillingStep settings start event.2
          ⟨handleBilling settings event.1 start.db event.2, event.1⟩ :=
        ⟨ordered.1, rfl⟩
      exact ((Reachable.refl start).next taken).trans (ih ordered.2)

/-- The transaction that `orderRenewal` stores. -/
private def renewalTransaction : BillingTransaction where
  id := 0
  userId := 1
  serverId := some 0
  provider := "razorpay"
  providerOrderId := "order"
  amount := 39900
  targetPlanId := "pro"

/-- A renewal in the course of a trial opens the gate to the end of its period. -/
theorem renewal_during_trial_opens
    : ∃ next paid subscription,
        activateSubscription (replay {} beforeTrial trialHistory).db (days 2)
            renewalTransaction "payment"
          = .ok (next, paid, subscription)
        ∧ ∀ events finish,
            Run (UndisturbedStep {} 0) ⟨next, days 2⟩ events finish
            → finish.clock ≤ days 31
            → ensureActiveSubscriptionForStart {} finish.db (days 31) 0 = .ok () := by
  refine ⟨_, _, _, rfl, ?_⟩
  have reached : Reachable (BillingStep {}) beforeTrial (replay {} beforeTrial trialHistory) :=
    replay_reachable (by decide)
  have unsuspended : Unsuspended (replay {} beforeTrial trialHistory).db 0 :=
    ensureServerNotBillingSuspended_ok.mp (by decide)
  exact (renewal_unblocks_start_iff ⟨rfl, rfl⟩ reached (days 2)
    (List.mem_singleton_self renewalTransaction) "payment" rfl 0 rfl renewedPlan rfl
    (by decide) (days 31) (by decide) (by decide)).mpr ⟨unsuspended, .inl rfl⟩

/-- An activation opens the gate for its whole period along every undisturbed run. -/
def RenewalUnblocksStart (settings : Settings) : Prop :=
  ∀ start before, start.Initial → Reachable (BillingStep settings) start before
  → ∀ now, before.clock ≤ now
  → ∀ tx ∈ before.db.transactions.rows, ∀ providerPaymentId next paid subscription,
    activateSubscription before.db now tx providerPaymentId = .ok (next, paid, subscription)
  → ∀ serverId, tx.serverId = some serverId
  → ∀ plan, before.db.plans.get? subscription.planId = some plan → 0 < plan.ramMb
  → ∀ time, now ≤ time → time < subscription.expiresAt
  → ∀ events finish, Run (UndisturbedStep settings serverId) ⟨next, now⟩ events finish
  → finish.clock ≤ time
  → ensureActiveSubscriptionForStart settings finish.db time serverId = .ok ()

/-- A trial that expires, is suspended and is then renewed stays blocked. -/
theorem renewal_after_suspension_blocked : ¬ RenewalUnblocksStart {} := by
  intro unblocks
  have reached : Reachable (BillingStep {}) beforeTrial
      (replay {} beforeTrial suspendedHistory) :=
    replay_reachable (by decide)
  have opened := unblocks beforeTrial _ ⟨rfl, rfl⟩ reached (days 12) (by decide) _
    (List.mem_singleton_self _) "payment" _ _ _ rfl 0 rfl renewedPlan rfl (by decide) (days 12)
    (by decide) (by decide) [] _ .done (by decide)
  exact absurd opened (by decide)

end Blockhost
