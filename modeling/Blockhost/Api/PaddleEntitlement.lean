import Blockhost.Api.PaddleWebhook
import Mathlib.Algebra.Order.Group.Int

/-! What a paid notification grants. The handler writes neither plan nor expiry of a row that
exists, and gives a new row the first active plan, so the entitlement that the customer has
afterwards is the one the rows held before.
-/

namespace Blockhost

open Library

/-- A notification that reports a payment for a server: a created subscription that is not
canceled, an updated one that is active, or a completed transaction.
-/
structure PaymentNotification (payload : PaddlePayload) (data : PaddleData)
    (serverId : Uuid)
    : Prop where
  carries : payload.data.getD {} = some data
  names
    : ∃ customData, data.customData.getD {} = some customData
        ∧ namedResource customData = some (.minecraftServer, serverId)
  paid
    : (payload.eventType = .value "subscription.created" ∧ data.status.get ≠ some "canceled")
      ∨ (payload.eventType = .value "subscription.updated" ∧ data.status.get = some "active")
      ∨ payload.eventType = .value "transaction.completed"

/-- The Paddle subscription under which a delivery reaches the rows. A redelivery and a
notification without identifiers reach none.
-/
def reachedSubscription (db : Database) (payload : PaddlePayload) (data : PaddleData)
    : Option String :=
  match payload.eventId.nonempty with
  | none => none
  | some eventId =>
      if (db.processedWebhookEvents.get? eventId).isSome then none
      else if payload.eventType = .value "transaction.completed" then
        data.subscriptionId.nonempty
      else data.id.nonempty

def paidSubscriptions (db : Database) (now : Instant) (serverId ownerId : Uuid)
    (reached : Option String)
    : Table BillingSubscription.id :=
  match reached with
  | none => db.subscriptions
  | some subscriptionId =>
      match findSubscription db subscriptionId .minecraftServer serverId with
      | some row => (markStored now .active subscriptionId row db).subscriptions
      | none =>
          match firstActivePlan db with
          | none => db.subscriptions
          | some plan =>
              (addPaddleSubscription now subscriptionId .minecraftServer serverId ownerId plan
                db).subscriptions

theorem PaymentNotification.kind {payload : PaddlePayload} {data : PaddleData}
    {serverId : Uuid} (pays : PaymentNotification payload data serverId)
    : ∃ eventType,
        payload.eventType = .value eventType
        ∧ payload.eventType.nonempty = some eventType
        ∧ (eventType ∈ subscriptionEvents ∨ eventType = "transaction.completed") := by
  rcases pays.paid with ⟨created, _⟩ | ⟨updated, _⟩ | completed
  · exact ⟨_, created, by rw [created]; rfl, .inl (by decide)⟩
  · exact ⟨_, updated, by rw [updated]; rfl, .inl (by decide)⟩
  · exact ⟨_, completed, by rw [completed]; rfl, .inr rfl⟩

theorem PaymentNotification.not_cancels {payload : PaddlePayload} {data : PaddleData}
    {serverId : Uuid} {eventType : String} (pays : PaymentNotification payload data serverId)
    (kind : payload.eventType = .value eventType) (listed : eventType ∈ subscriptionEvents)
    : cancelsSubscription eventType data = false := by
  rcases pays.paid with ⟨created, status⟩ | ⟨updated, status⟩ | completed
  · have same : eventType = "subscription.created" := by simpa [kind] using created
    simp [cancelsSubscription, same, status]
  · have same : eventType = "subscription.updated" := by simpa [kind] using updated
    simp [cancelsSubscription, same, status]
  · have same : eventType = "transaction.completed" := by simpa [kind] using completed
    subst same
    exact absurd listed (by decide)

theorem handleSubscriptionEvent_paid (now : Instant) (db : Database) {eventType : String}
    {data : PaddleData} {customData : CustomData} {server : Server}
    (cancels : cancelsSubscription eventType data = false)
    (names : namedResource customData = some (.minecraftServer, server.id))
    (known : db.servers.get? server.id = some server)
    : (handleSubscriptionEvent now eventType data customData db).1.subscriptions
      = paidSubscriptions db now server.id server.ownerId data.id.nonempty := by
  unfold handleSubscriptionEvent paidSubscriptions
  cases data.id.nonempty with
  | none => rfl
  | some subscriptionId =>
      simp only [names, getBillableResource, known, Option.map_some, cancels,
        Bool.false_eq_true, if_false]
      cases findSubscription db subscriptionId .minecraftServer server.id with
      | some row => rfl
      | none =>
          cases firstActivePlan db with
          | none => rfl
          | some plan => rfl

theorem handleTransactionCompleted_paid (db : Database) {now : Instant} {suffix : String}
    {data : PaddleData} {customData : CustomData} {server : Server}
    {result : Database × List ProvisionTask}
    (names : namedResource customData = some (.minecraftServer, server.id))
    (known : db.servers.get? server.id = some server)
    (answered : handleTransactionCompleted now suffix data customData db = .ok result)
    : result.1.subscriptions
      = paidSubscriptions db now server.id server.ownerId data.subscriptionId.nonempty := by
  unfold handleTransactionCompleted at answered
  simp only [names, getBillableResource, known, Option.map_some] at answered
  unfold paidSubscriptions
  split at answered
  · contradiction
  · contradiction
  · rename_i named _
    simp only [named]
    cases answered
    rfl
  · rename_i subscriptionId named _
    simp only [named]
    unfold grantTransaction at answered
    cases found : findSubscription db subscriptionId .minecraftServer server.id with
    | some row =>
        rw [found] at answered
        cases answered
        rfl
    | none =>
        rw [found] at answered
        cases planned : firstActivePlan db with
        | none =>
            rw [planned] at answered
            cases answered
            rfl
        | some plan =>
            rw [planned] at answered
            cases answered
            rfl

theorem paddleWebhook_paid {now : Instant} {suffix : String} {authentic : Bool}
    {payload : PaddlePayload} {data : PaddleData} {db next : Database}
    {tasks : List ProvisionTask} {server : Server}
    (pays : PaymentNotification payload data server.id)
    (known : db.servers.get? server.id = some server)
    (answered : paddleWebhook now suffix authentic (some payload) db = .ok (next, tasks))
    : next.subscriptions
      = paidSubscriptions db now server.id server.ownerId
          (reachedSubscription db payload data) := by
  obtain ⟨customData, carried, names⟩ := pays.names
  obtain ⟨eventType, kind, typed, handled⟩ := pays.kind
  unfold paddleWebhook at answered
  unfold reachedSubscription
  cases authentic with
  | false => contradiction
  | true =>
      simp only [Bool.not_true, Bool.false_eq_true, if_false, typed] at answered
      cases named : payload.eventId.nonempty with
      | none =>
          rw [named] at answered
          cases answered
          rfl
      | some eventId =>
          simp only [named] at answered
          by_cases processed : (db.processedWebhookEvents.get? eventId).isSome = true
          · simp only [if_pos processed, Except.ok.injEq] at answered ⊢
            cases answered
            rfl
          · obtain ⟨events, claimed⟩ := claimEvent_frame now eventId eventType db
            simp only [if_neg processed, if_pos handled, pays.carries, carried, claimed]
              at answered
            simp only [if_neg processed]
            rcases handled with listed | completed
            · have other : payload.eventType ≠ .value "transaction.completed" := by
                rw [kind]
                intro same
                rw [Member.value.inj same] at listed
                exact absurd listed (by decide)
              have written := handleSubscriptionEvent_paid now
                { db with processedWebhookEvents := events }
                (pays.not_cancels kind listed) names known
              simp only [if_pos listed, Except.ok.injEq] at answered
              rw [answered] at written
              rwa [if_neg other]
            · have unlisted : eventType ∉ subscriptionEvents := by
                rw [completed]
                decide
              rw [if_neg unlisted] at answered
              rw [if_pos (completed ▸ kind)]
              exact handleTransactionCompleted_paid { db with processedWebhookEvents := events }
                names known answered

/-- The row that the start gate reads entitles the server for at least a period of the paid
plan, and is a row of that plan.
-/
def GrantsEntitlement (settings : Settings) (db : Database) (now : Instant) (serverId : Uuid)
    (paid : BillingPlan)
    : Prop :=
  ∃ row,
    activeSubscriptionForServer settings db now serverId = some row
    ∧ now + days paid.durationDays ≤ row.expiresAt
    ∧ row.planId = paid.id

def countsFor (settings : Settings) (now : Instant) (serverId : Uuid) (selected : Option Uuid)
    (row : BillingSubscription)
    : Bool :=
  if selected = some row.id then row.serverId = some serverId && now < row.expiresAt
  else row.entitles settings now serverId

/-- The rows already hold what was paid for: the longest-running one that counts is of the
paid plan and runs for at least a period of it.
-/
def EntitledAlready (settings : Settings) (db : Database) (now : Instant) (serverId : Uuid)
    (paid : BillingPlan) (selected : Option Uuid)
    : Prop :=
  ∃ row ∈ latest BillingSubscription.expiresAt
      (db.subscriptions.rows.filter (countsFor settings now serverId selected)),
    now + days paid.durationDays ≤ row.expiresAt ∧ row.planId = paid.id

/-- When a paid notification that reaches the given Paddle subscription grants what was paid
for: a new row gets the paid plan only if that is the first active one; otherwise the rows must
hold it already.
-/
def PaymentCondition (settings : Settings) (db : Database) (now : Instant) (serverId : Uuid)
    (paid : BillingPlan) (reached : Option String)
    : Prop :=
  match reached with
  | none => EntitledAlready settings db now serverId paid none
  | some subscriptionId =>
      match findSubscription db subscriptionId .minecraftServer serverId with
      | some row => EntitledAlready settings db now serverId paid (some row.id)
      | none => firstActivePlan db = some paid ∧ 0 < paid.durationDays

theorem markSubscription_entitles {settings : Settings} {now : Instant} {serverId : Uuid}
    {subscriptionId : String} (row : BillingSubscription)
    : (markSubscription now .active subscriptionId row).entitles settings now serverId
      = (row.serverId = some serverId && now < row.expiresAt) := by
  simp [BillingSubscription.entitles]

theorem grantsEntitlement_unreached {settings : Settings} {db next : Database} {now : Instant}
    {serverId : Uuid} {paid : BillingPlan} (same : next.subscriptions = db.subscriptions)
    : GrantsEntitlement settings next now serverId paid
      ↔ EntitledAlready settings db now serverId paid none := by
  have counts : countsFor settings now serverId none
      = fun row => row.entitles settings now serverId := by
    funext row
    simp [countsFor]
  simp only [GrantsEntitlement, EntitledAlready, activeSubscriptionForServer, same, counts,
    Option.mem_def]

theorem grantsEntitlement_marked {settings : Settings} {db next : Database} {now : Instant}
    {serverId : Uuid} {paid : BillingPlan} {subscriptionId : String}
    {selected : BillingSubscription}
    (marked
      : next.subscriptions = (markStored now .active subscriptionId selected db).subscriptions)
    : GrantsEntitlement settings next now serverId paid
      ↔ EntitledAlready settings db now serverId paid (some selected.id) := by
  let mark := fun row : BillingSubscription =>
    if row.id = selected.id then markSubscription now .active subscriptionId row else row
  have rows : next.subscriptions.rows = db.subscriptions.rows.map mark := by
    rw [marked]
    rfl
  have counts : (fun row => row.entitles settings now serverId) ∘ mark
      = countsFor settings now serverId (some selected.id) := by
    funext row
    by_cases same : row.id = selected.id
    · simp [mark, countsFor, same, markSubscription_entitles]
    · simp [mark, countsFor, same, Ne.symm same]
  have expiry (row : BillingSubscription) : (mark row).expiresAt = row.expiresAt := by
    by_cases same : row.id = selected.id <;> simp [mark, same]
  have plan (row : BillingSubscription) : (mark row).planId = row.planId := by
    by_cases same : row.id = selected.id <;> simp [mark, same]
  have found : activeSubscriptionForServer settings next now serverId
      = (latest BillingSubscription.expiresAt
          (db.subscriptions.rows.filter
            (countsFor settings now serverId (some selected.id)))).map mark := by
    rw [activeSubscriptionForServer, rows, List.filter_map, counts,
      latest_map BillingSubscription.expiresAt mark expiry]
  simp only [GrantsEntitlement, EntitledAlready, found, Option.map_eq_some_iff, Option.mem_def]
  constructor
  · rintro ⟨_, ⟨row, best, rfl⟩, enough, planned⟩
    exact ⟨row, best, expiry row ▸ enough, plan row ▸ planned⟩
  · rintro ⟨row, best, enough, planned⟩
    exact ⟨mark row, ⟨row, best, rfl⟩, (expiry row).symm ▸ enough, (plan row).symm ▸ planned⟩

theorem findSubscription_none {db : Database} {subscriptionId : String} {serverId : Uuid}
    (missing : findSubscription db subscriptionId .minecraftServer serverId = none)
    : ∀ row ∈ db.subscriptions.rows, row.serverId ≠ some serverId := by
  intro row member names
  unfold findSubscription at missing
  split at missing
  · contradiction
  · rw [latest_eq_none, List.filter_eq_nil_iff] at missing
    exact missing row member (by simp [BillingSubscription.paysFor, names])

theorem activeSubscriptionForServer_of_noRows {settings : Settings} {db : Database}
    {now : Instant} {serverId : Uuid}
    (empty : ∀ row ∈ db.subscriptions.rows, row.serverId ≠ some serverId)
    : activeSubscriptionForServer settings db now serverId = none := by
  rw [activeSubscriptionForServer_none]
  intro row member
  simp [BillingSubscription.entitles, empty row member]

theorem activeSubscriptionForServer_added {settings : Settings} {db next : Database}
    {now : Instant} {serverId ownerId : Uuid} {subscriptionId : String} {plan : BillingPlan}
    (empty : ∀ row ∈ db.subscriptions.rows, row.serverId ≠ some serverId)
    (added
      : next.subscriptions
        = (addPaddleSubscription now subscriptionId .minecraftServer serverId ownerId plan
            db).subscriptions)
    : activeSubscriptionForServer settings next now serverId
      = if 0 < plan.durationDays then
          some (paddleSubscription now subscriptionId .minecraftServer serverId ownerId plan
            db.subscriptions.freshKey)
        else none := by
  have rows : next.subscriptions.rows
      = db.subscriptions.rows
        ++ [paddleSubscription now subscriptionId .minecraftServer serverId ownerId plan
          db.subscriptions.freshKey] := by
    rw [added]
    rfl
  have closed : db.subscriptions.rows.filter
      (fun row => row.entitles settings now serverId) = [] :=
    latest_eq_none.mp (activeSubscriptionForServer_of_noRows empty)
  have period : now < now + days plan.durationDays ↔ 0 < plan.durationDays :=
    (lt_add_iff_pos_right now).trans days_pos
  unfold activeSubscriptionForServer
  rw [rows, List.filter_append, closed, List.nil_append]
  by_cases positive : 0 < plan.durationDays
  · rw [if_pos positive]
    simp [BillingSubscription.entitles, paddleSubscription, period,
      positive]
  · rw [if_neg positive]
    simp [BillingSubscription.entitles, paddleSubscription, period,
      positive]

theorem grantsEntitlement_added {settings : Settings} {db next : Database} {now : Instant}
    {serverId ownerId : Uuid} {subscriptionId : String} {plan paid : BillingPlan}
    (empty : ∀ row ∈ db.subscriptions.rows, row.serverId ≠ some serverId)
    (first : plan ∈ db.plans.rows) (second : paid ∈ db.plans.rows)
    (added
      : next.subscriptions
        = (addPaddleSubscription now subscriptionId .minecraftServer serverId ownerId plan
            db).subscriptions)
    : GrantsEntitlement settings next now serverId paid
      ↔ plan = paid ∧ 0 < paid.durationDays := by
  unfold GrantsEntitlement
  rw [activeSubscriptionForServer_added empty added]
  constructor
  · rintro ⟨row, found, _, planned⟩
    split at found
    · rename_i positive
      cases found
      have same : plan = paid := db.plans.eq_of_key_eq first second planned
      exact ⟨same, same ▸ positive⟩
    · contradiction
  · rintro ⟨rfl, positive⟩
    exact ⟨_, if_pos positive, le_refl _, rfl⟩

/-- An answered paid notification grants what was paid for exactly under the condition above,
by the three ways in which it can reach the rows.
-/
theorem payment_grants_entitlement_iff (settings : Settings) {now : Instant} {suffix : String}
    {authentic : Bool} {payload : PaddlePayload} {data : PaddleData} {db next : Database}
    {tasks : List ProvisionTask} {serverId : Uuid} {paid : BillingPlan}
    (pays : PaymentNotification payload data serverId)
    (known : serverId ∈ db.servers.rows.map Server.id) (planned : paid ∈ db.plans.rows)
    (answered : paddleWebhook now suffix authentic (some payload) db = .ok (next, tasks))
    : GrantsEntitlement settings next now serverId paid
      ↔ PaymentCondition settings db now serverId paid
          (reachedSubscription db payload data) := by
  obtain ⟨server, stored, rfl⟩ := List.mem_map.mp known
  have written := paddleWebhook_paid pays (Table.get?_of_mem stored) answered
  unfold PaymentCondition
  cases reached : reachedSubscription db payload data with
  | none =>
      rw [reached] at written
      exact grantsEntitlement_unreached written
  | some subscriptionId =>
      simp only [reached, paidSubscriptions] at written
      dsimp only
      cases found : findSubscription db subscriptionId .minecraftServer server.id with
      | some row =>
          rw [found] at written
          exact grantsEntitlement_marked written
      | none =>
          have empty := findSubscription_none found
          rw [found] at written
          cases chosen : firstActivePlan db with
          | none =>
              simp only [chosen] at written
              have closed : activeSubscriptionForServer settings next now server.id = none :=
                activeSubscriptionForServer_of_noRows (written ▸ empty)
              simp [GrantsEntitlement, closed]
          | some plan =>
              simp only [chosen] at written
              have first : plan ∈ db.plans.rows := List.mem_of_find?_eq_some chosen
              rw [grantsEntitlement_added empty first planned written, Option.some.injEq]

private def megaPlan : BillingPlan where
  id := "mega"
  ramMb := 4096
  cpuLimit := 300
  storageMb := 40960
  playerLimit := 75
  price := 149900
  durationDays := 30

private def freeTrialPlan : BillingPlan :=
  { megaPlan with id := "trial", ramMb := 512, price := 0, durationDays := 7 }

private def payingServer : Server where
  id := 0
  nodeId := none
  ownerId := 1
  worldName := "world"
  lastActivity := 0

private def runningTrial : BillingSubscription where
  id := 0
  userId := 1
  serverId := some 0
  planId := "trial"
  startsAt := 0
  expiresAt := days 7
  createdAt := 0
  updatedAt := 0

private def createdData : PaddleData where
  id := .value "sub_1"
  status := .value "active"
  customData :=
    .value
      {
        resourceType := .value "minecraft_server",
        serverId := .value "00000000-0000-0000-0000-000000000000"
      }

private def createdPayload : PaddlePayload where
  eventId := .value "evt_1"
  eventType := .value "subscription.created"
  data := .value createdData

private theorem createdPayload_pays : PaymentNotification createdPayload createdData 0 where
  carries := rfl
  names := ⟨_, rfl, by decide⟩
  paid := .inl ⟨rfl, by decide⟩

/-- A server without rows, where the paid plan is the only one. -/
private def beforeFirstPayment : Database where
  servers := ⟨[payingServer], by decide⟩
  plans := ⟨[megaPlan], by decide⟩

private def beforeUpgrade : Database where
  servers := ⟨[payingServer], by decide⟩
  plans := ⟨[freeTrialPlan, megaPlan], by decide⟩
  subscriptions := ⟨[runningTrial], by decide⟩

/-- The first payment for a server grants the plan when it is the first active one. -/
theorem first_payment_grants_entitlement
    : ∃ next tasks,
        paddleWebhook (days 1) "" true (some createdPayload) beforeFirstPayment
          = .ok (next, tasks)
        ∧ GrantsEntitlement {} next (days 1) 0 megaPlan := by
  have answers : ∃ next tasks,
      paddleWebhook (days 1) "" true (some createdPayload) beforeFirstPayment
        = .ok (next, tasks) :=
    ⟨_, _, rfl⟩
  obtain ⟨next, tasks, answered⟩ := answers
  have known : 0 ∈ beforeFirstPayment.servers.rows.map Server.id := by decide
  have condition : PaymentCondition {} beforeFirstPayment (days 1) 0 megaPlan
      (reachedSubscription beforeFirstPayment createdPayload createdData) :=
    ⟨rfl, by decide⟩
  exact ⟨next, tasks, answered, (payment_grants_entitlement_iff {} createdPayload_pays known
    (List.mem_singleton_self megaPlan) answered).mpr condition⟩

/-- Every answered paid notification grants what was paid for. -/
def PaymentGrantsEntitlement (settings : Settings) : Prop :=
  ∀ now suffix authentic payload data db next tasks serverId paid,
    PaymentNotification payload data serverId
  → serverId ∈ db.servers.rows.map Server.id
  → paid ∈ db.plans.rows
  → paddleWebhook now suffix authentic (some payload) db = .ok (next, tasks)
  → GrantsEntitlement settings next now serverId paid

/-- A payment in the course of a trial leaves the trial's plan and expiry. -/
theorem payment_keeps_trial : ¬ PaymentGrantsEntitlement {} := by
  intro grants
  obtain ⟨row, found, enough, planned⟩ :=
    grants (days 1) "" true createdPayload createdData beforeUpgrade _ _ 0 megaPlan
      createdPayload_pays (by decide) (by decide) rfl
  have kept : row.planId = "trial" := by
    cases found
    rfl
  rw [kept] at planned
  exact absurd planned (by decide)

end Blockhost
