import Blockhost.Api.PaddleDeliveries
import Blockhost.Api.PaddleEntitlement
import Blockhost.Services.BillingRuns

/-! Runs in which both payment providers write subscription rows. An activation cancels the older
rows of its server; a Paddle notification makes its row active whatever the others are.
-/

namespace Blockhost

open Library

inductive SubscriptionEvent where
  | billing (event : BillingEvent)
  | paddle (delivery : PaddleDelivery)

def handleSubscription (settings : Settings) (now : Instant) (db : Database)
    : SubscriptionEvent → Database
  | .billing event => handleBilling settings now db event
  | .paddle delivery => { delivery with time := now }.apply db

/-- One event at a time that is not earlier than the last change. -/
def SubscriptionStep (settings : Settings) (before : BillingState) (event : SubscriptionEvent)
    (after : BillingState)
    : Prop :=
  before.clock ≤ after.clock ∧ after.db = handleSubscription settings after.clock before.db event

/-- No server has two rows that are active or in their grace period. -/
def SingleLive (db : Database) : Prop :=
  ∀ left ∈ db.subscriptions.rows, ∀ right ∈ db.subscriptions.rows,
    left.live = true → right.live = true
    → ∀ serverId, left.serverId = some serverId → right.serverId = some serverId
    → left = right

/-- A delivery that makes a row active beside another live row of the same server. -/
def TakesOver (db : Database) (event : SubscriptionEvent) : Prop :=
  ∃ delivery handled row other serverId,
    event = .paddle delivery
    ∧ delivery.handled db = some handled
    ∧ handled.activatedRow delivery.suffix db = some row
    ∧ row.serverId = some serverId
    ∧ other ∈ db.subscriptions.rows
    ∧ other.serverId = some serverId
    ∧ other.live = true
    ∧ other ≠ row

section Marked

variable {now : Instant} {status : BillingSubscriptionStatus} {subscriptionId : String}
variable {row : BillingSubscription} {db : Database}

theorem BillingInvariant.markStored (invariant : BillingInvariant db)
    (stored : row ∈ db.subscriptions.rows)
    (alone
      : status = .active ∨ status = .gracePeriod
        → ∀ other ∈ db.subscriptions.rows, other.live = true
        → ∀ serverId, row.serverId = some serverId → other.serverId = some serverId
        → other = row)
    : BillingInvariant (markStored now status subscriptionId row db) where
  stored := by
    intro marked member serverId names
    obtain ⟨source, known, _, same, _, _⟩ := markStored_source member
    exact invariant.stored source known serverId (same ▸ names)
  single := by
    intro left first right second leftLive rightLive serverId leftNames rightNames
    obtain ⟨leftSource, leftKnown, leftId, leftServer, _, leftCase⟩ := markStored_source first
    obtain ⟨rightSource, rightKnown, rightId, rightServer, _, rightCase⟩ :=
      markStored_source second
    -- A marked row that is live was marked active, so the other one is the marked row too.
    have marked_alive : ∀ {marked source other : BillingSubscription},
        source ∈ db.subscriptions.rows → source.id = row.id → marked.status = status
        → marked.live = true → other ∈ db.subscriptions.rows → other.live = true
        → source.serverId = some serverId → other.serverId = some serverId
        → other = row := by
      intro marked source other known same taken live member alive names otherNames
      have isRow : source = row := db.subscriptions.eq_of_key_eq known stored same
      refine alone ?_ other member alive serverId (isRow ▸ names) otherNames
      simpa [BillingSubscription.live, taken] using live
    have sameId : leftSource.id = rightSource.id := by
      rcases leftCase with ⟨leftIs, leftStatus⟩ | ⟨leftOther, rfl⟩ <;>
        rcases rightCase with ⟨rightIs, rightStatus⟩ | ⟨rightOther, rfl⟩
      · exact leftIs.trans rightIs.symm
      · have isRow := marked_alive leftKnown leftIs leftStatus leftLive rightKnown rightLive
          (leftServer ▸ leftNames) rightNames
        exact absurd (congrArg BillingSubscription.id isRow) rightOther
      · have isRow := marked_alive rightKnown rightIs rightStatus rightLive leftKnown leftLive
          (rightServer ▸ rightNames) leftNames
        exact absurd (congrArg BillingSubscription.id isRow) leftOther
      · rw [invariant.single left leftKnown right rightKnown leftLive rightLive serverId
          leftNames rightNames]
    exact Table.eq_of_key_eq _ first second (leftId.trans (sameId.trans rightId.symm))
  owned := by
    intro tx member paid
    obtain ⟨source, known, created, names⟩ := invariant.owned tx member paid
    obtain ⟨marked, present, same, sameServer⟩ :=
      markStored_kept now status subscriptionId row known
    exact ⟨marked, present, same ▸ created, sameServer.trans names⟩

end Marked

theorem BillingInvariant.of_tables {db next : Database} (invariant : BillingInvariant db)
    (subscriptions : next.subscriptions = db.subscriptions)
    (transactions : next.transactions = db.transactions)
    (servers : next.servers.rows.map Server.id = db.servers.rows.map Server.id)
    : BillingInvariant next where
  stored := by
    rw [subscriptions, servers]
    exact invariant.stored
  single := by
    rw [subscriptions]
    exact invariant.single
  owned := by
    rw [subscriptions, transactions]
    exact invariant.owned

theorem BillingInvariant.addPaddleSubscription {db : Database} (invariant : BillingInvariant db)
    (now : Instant) {subscriptionId : String} {resourceType : ResourceType} {resourceId : Uuid}
    (ownerId : Uuid) (plan : BillingPlan)
    (billable : (getBillableResource db resourceType resourceId).isSome = true)
    (missing : findSubscription db subscriptionId resourceType resourceId = none)
    : BillingInvariant
        (addPaddleSubscription now subscriptionId resourceType resourceId ownerId plan db) := by
  have rows
      : (Blockhost.addPaddleSubscription now subscriptionId resourceType resourceId ownerId plan
          db).subscriptions.rows
        = db.subscriptions.rows
          ++ [paddleSubscription now subscriptionId resourceType resourceId ownerId plan
            db.subscriptions.freshKey] := rfl
  have new_names : ∀ serverId,
      (paddleSubscription now subscriptionId resourceType resourceId ownerId plan
        db.subscriptions.freshKey).serverId = some serverId
      → resourceType = .minecraftServer ∧ resourceId = serverId := by
    intro serverId names
    change (if resourceType = .minecraftServer then some resourceId else none) = _ at names
    split at names
    · rename_i isServer
      exact ⟨isServer, Option.some.inj names⟩
    · cases names
  have absent : ∀ row ∈ db.subscriptions.rows, ∀ serverId,
      (paddleSubscription now subscriptionId resourceType resourceId ownerId plan
        db.subscriptions.freshKey).serverId = some serverId
      → row.serverId ≠ some serverId := by
    intro row member serverId names
    obtain ⟨isServer, rfl⟩ := new_names serverId names
    subst isServer
    exact findSubscription_none missing row member
  constructor
  · intro row member serverId names
    rw [rows] at member
    rcases List.mem_append.mp member with old | new
    · exact invariant.stored row old serverId names
    · rw [List.mem_singleton.mp new] at names
      obtain ⟨isServer, rfl⟩ := new_names serverId names
      subst isServer
      rw [getBillableResource, Option.isSome_map] at billable
      obtain ⟨server, known⟩ := Option.isSome_iff_exists.mp billable
      obtain ⟨present, same⟩ := Table.get?_some known
      exact same ▸ List.mem_map_of_mem present
  · intro left first right second leftLive rightLive serverId leftNames rightNames
    rw [rows] at first second
    rcases List.mem_append.mp first with old | new <;>
      rcases List.mem_append.mp second with other | added
    · exact invariant.single left old right other leftLive rightLive serverId leftNames
        rightNames
    · rw [List.mem_singleton.mp added] at rightNames
      exact absurd leftNames (absent left old serverId rightNames)
    · rw [List.mem_singleton.mp new] at leftNames
      exact absurd rightNames (absent right other serverId leftNames)
    · rw [List.mem_singleton.mp new, List.mem_singleton.mp added]
  · intro tx member paid
    obtain ⟨row, known, created, names⟩ := invariant.owned tx member paid
    exact ⟨row, rows ▸ List.mem_append_left _ known, created, names⟩

theorem BillingInvariant.delivery {db : Database} (invariant : BillingInvariant db)
    (delivery : PaddleDelivery) (quiet : ¬ TakesOver db (.paddle delivery))
    : BillingInvariant (delivery.apply db) := by
  rcases delivery.apply_change db with same | ⟨event, reached, change⟩
  · rw [same]
    exact invariant
  · obtain ⟨processed, claimed⟩ := claimEvent_frame delivery.time event.eventId event.eventType db
    rw [claimed] at change
    have held : BillingInvariant { db with processedWebhookEvents := processed } :=
      invariant.of_tables rfl rfl rfl
    cases change with
    | ignored same => exact same ▸ held
    | cancelled subscriptionId resourceType resourceId selected result =>
        rw [result, selected]
        refine BillingInvariant.of_tables ?_ (stopResource_subscriptions _ _ _)
          (stopResource_transactions _ _ _) (stopResource_serverKeys _ _ _)
        unfold markCancelled
        split
        · exact held
        · rename_i row found
          refine held.markStored (findSubscription_mem found) ?_
          intro active
          rcases active with active | grace
          · cases active
          · cases grace
    | added subscriptionId resourceType resourceId ownerId plan billable missing result =>
        rw [result]
        exact held.addPaddleSubscription delivery.time ownerId plan billable missing
    | activated subscriptionId row found stored result =>
        rw [result]
        refine held.markStored stored ?_
        intro _ other member live serverId rowNames otherNames
        by_contra different
        exact quiet ⟨delivery, event, row, other, serverId, rfl, reached, found, rowNames, member,
          otherNames, live, different⟩

/-- A step that takes over no server. -/
def QuietStep (settings : Settings) (before : BillingState) (event : SubscriptionEvent)
    (after : BillingState)
    : Prop :=
  SubscriptionStep settings before event after ∧ ¬ TakesOver before.db event

theorem QuietStep.invariant {settings : Settings} {before after : BillingState}
    {event : SubscriptionEvent} (taken : QuietStep settings before event after)
    (invariant : BillingInvariant before.db)
    : BillingInvariant after.db := by
  obtain ⟨⟨ordered, result⟩, quiet⟩ := taken
  cases event with
  | billing event =>
      have step : BillingStep settings before event after := ⟨ordered, result⟩
      exact invariant.step step
  | paddle delivery =>
      rw [result]
      refine invariant.delivery { delivery with time := after.clock } ?_
      rintro ⟨timed, handled, row, other, serverId, same, reached, found, facts⟩
      cases same
      exact quiet ⟨delivery, handled, row, other, serverId, rfl, reached, found, facts⟩

/-- In every run whose steps take over no server, no state reached has two live rows of one
server.
-/
theorem quiet_run_single_live {settings : Settings} {start finish : BillingState}
    {events : List SubscriptionEvent} (initial : start.Initial)
    (run : Run (QuietStep settings) start events finish)
    : SingleLive finish.db := by
  have reached : Reachable (BillingStep settings) start start := .refl start
  have invariant : BillingInvariant finish.db :=
    run.invariant (fun state => BillingInvariant state.db) (fun _ => True)
      (fun _ taken earlier => taken.invariant earlier) (fun _ _ => trivial)
      (BillingInvariant.reachable initial reached)
  exact invariant.single

private def renewablePlan : BillingPlan where
  id := "pro"
  ramMb := 1024
  cpuLimit := 100
  storageMb := 10240
  playerLimit := 25
  price := 39900
  durationDays := 30

private def payingUser : User where
  id := 1
  email := "owner@example.com"
  authHash := "hash"
  nickname := "owner"

private def beforePayments : BillingState where
  db := { users := ⟨[payingUser], by decide⟩, plans := ⟨[renewablePlan], by decide⟩ }
  clock := 0

private def createPaidServer : SubscriptionEvent :=
  .billing (.createServer "servers" payingUser { worldName := ⟨"lobby", by decide⟩ }
    (.ok (some { id := 3, name := "node", ipAddress := "10.0.0.3", statusUpdatedAt := 0 })))

private def paddleActive (eventId eventType : String) : SubscriptionEvent :=
  .paddle
    { time := 0
      body :=
        some
          { eventId := .value eventId
            eventType := .value eventType
            data := .value
              { id := .value "sub_1"
                status := .value "active"
                customData := .value { serverId := .value "00000000000000000000000000000000" } } } }

private def razorpayOrder : SubscriptionEvent :=
  .billing (.createOrder payingUser 0 "pro"
    { provider := "razorpay", providerOrderId := "order", amount := 39900, currency := "INR" })

private def razorpayPayment : SubscriptionEvent :=
  .billing (.capturePayment "order" "payment")

private def afterPayments (events : List SubscriptionEvent) : BillingState :=
  events.foldl
    (fun state event =>
      ⟨handleSubscription {} (state.clock + days 1) state.db event, state.clock + days 1⟩)
    beforePayments

/-- The events form a run, by induction from the last one. -/
private theorem payments_run (events : List SubscriptionEvent)
    : Run (SubscriptionStep {}) beforePayments events (afterPayments events) := by
  induction events using List.reverseRecOn with
  | nil => exact .done
  | append_singleton earlier event ih =>
      rw [afterPayments, List.foldl_append]
      have later : (afterPayments earlier).clock ≤ (afterPayments earlier).clock + days 1 :=
        Int.le_add_of_nonneg_right (by decide)
      exact ih.next ⟨later, rfl⟩

private theorem created_quiet
    : ¬ TakesOver (afterPayments [createPaidServer]).db
        (paddleActive "evt_1" "subscription.created") := by
  rintro ⟨delivery, handled, row, other, serverId, same, reached, found, _, member, _⟩
  have none : (afterPayments [createPaidServer]).db.subscriptions.rows = [] := by decide +kernel
  rw [none] at member
  cases member

/-- A server that pays through Paddle alone has one live row. -/
theorem paddle_server_single_live
    : SingleLive (afterPayments [createPaidServer,
        paddleActive "evt_1" "subscription.created"]).db := by
  have created : Run (QuietStep {}) beforePayments [createPaidServer]
      (afterPayments [createPaidServer]) := by
    refine Run.done.next ⟨⟨by decide, rfl⟩, ?_⟩
    rintro ⟨_, _, _, _, _, same, _⟩
    cases same
  exact quiet_run_single_live ⟨rfl, rfl⟩ (created.next ⟨⟨by decide +kernel, rfl⟩, created_quiet⟩)

/-- A server that changes from Paddle to the other provider and then gets a late Paddle
notification has two live rows.
-/
theorem late_notification_doubles_subscription
    : ¬ ∀ (settings : Settings) (start finish : BillingState) (events : List SubscriptionEvent),
        start.Initial → Run (SubscriptionStep settings) start events finish
        → SingleLive finish.db := by
  intro single
  have run := payments_run [createPaidServer, paddleActive "evt_1" "subscription.created",
    razorpayOrder, razorpayPayment, paddleActive "evt_2" "subscription.updated"]
  have alone := single {} beforePayments _ _ ⟨rfl, rfl⟩ run
  revert alone
  generalize shape : (afterPayments [createPaidServer,
    paddleActive "evt_1" "subscription.created", razorpayOrder, razorpayPayment,
    paddleActive "evt_2" "subscription.updated"]).db.subscriptions.rows = rows
  intro alone
  have first : ∃ row ∈ rows, row.id = 0 ∧ row.live = true ∧ row.serverId = some 0 := by
    rw [← shape]
    decide +kernel
  have second : ∃ row ∈ rows, row.id = 1 ∧ row.live = true ∧ row.serverId = some 0 := by
    rw [← shape]
    decide +kernel
  obtain ⟨left, leftMember, leftId, leftLive, leftNames⟩ := first
  obtain ⟨right, rightMember, rightId, rightLive, rightNames⟩ := second
  have same := alone left (shape ▸ leftMember) right (shape ▸ rightMember) leftLive rightLive 0
    leftNames rightNames
  rw [same, rightId] at leftId
  cases leftId

end Blockhost
