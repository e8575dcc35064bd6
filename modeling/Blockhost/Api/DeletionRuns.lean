import Blockhost.Api.ResourceDeletions

/-! Runs of billing events, Paddle deliveries and deletions, and the subscriptions that they
leave to deleted resources.
-/

namespace Blockhost.Deletions

open Library

structure State where
  db : Database
  deleted : List Resource := []

inductive Event where
  | subscription (event : SubscriptionEvent)
  | deletion (user : User) (resource : Resource)
  | elsewhere

/-- Billing events, sweeps and Paddle deliveries, deletions, and changes of the other tables, at
any time. No identifier is given again.
-/
inductive Step (dialect : Dialect) (settings : Settings) (before : State) : Event → State → Prop
  | subscription {event : SubscriptionEvent} {now : Instant}
      (fresh : Gone before.deleted (handleSubscription settings now before.db event))
      : Step dialect settings before (.subscription event)
          { before with db := handleSubscription settings now before.db event }
  | deleted {user : User} {resource : Resource} {now : Instant} {db : Database}
      (done : deleteResource dialect settings now user before.db resource = .ok db)
      : Step dialect settings before (.deletion user resource) ⟨db, resource :: before.deleted⟩
  | refused {user : User} {resource : Resource} {now : Instant} {refusal : HttpError}
      (failed : deleteResource dialect settings now user before.db resource = .error refusal)
      : Step dialect settings before (.deletion user resource) before
  | elsewhere {db : Database}
      (subscriptions : db.subscriptions = before.db.subscriptions)
      (fresh : Gone before.deleted db)
      : Step dialect settings before .elsewhere { before with db }

/-- No row that names the resource is active or in its grace period. -/
def Unpaid (db : Database) (resource : Resource) : Prop :=
  ∀ row ∈ db.subscriptions.rows, row.paysFor resource.1 resource.2 = true → row.live = false

def Settled (state : State) : Prop :=
  ∀ resource ∈ state.deleted, Unpaid state.db resource

/-- Nobody has subscribed, and nothing has been deleted. -/
structure State.Initial (state : State) : Prop where
  subscriptions : state.db.subscriptions = .empty
  deleted : state.deleted = []

/-- The Paddle subscription that an event looks up. -/
def subscriptionOf (event : HandledEvent) : Option String :=
  if event.eventType ∈ subscriptionEvents then event.data.id.nonempty
  else event.data.subscriptionId.nonempty

/-- An event that makes the subscription of a stored resource active. -/
def grants (event : HandledEvent) (suffix : String) (db : Database) : Bool :=
  match namedResource event.customData with
  | none => false
  | some (resourceType, resourceId) =>
      match getBillableResource db resourceType resourceId with
      | none => false
      | some ownerId? =>
          if event.eventType ∈ subscriptionEvents then
            !cancelsSubscription event.eventType event.data && ownerId?.isSome
          else transactionStored db suffix event.data

/-- No event for a stored resource carries the subscription of a deleted one. Databases are
deleted when nothing pays for them, and on SQLite the other resources too.
-/
def Lawful (dialect : Dialect) (state : State) : Event → Prop
  | .subscription (.paddle delivery) =>
      ∀ event, delivery.handled state.db = some event
        → grants event delivery.suffix state.db = true
        → ∀ row ∈ state.db.subscriptions.rows, row.providerSubscriptionId ≠ none
        → row.providerSubscriptionId = subscriptionOf event
        → ∀ resource ∈ state.deleted, row.paysFor resource.1 resource.2 = false
  | .deletion user (.databaseInstance, id) =>
      (∃ found, getDatabase state.db id user = .ok found)
      → Unpaid state.db (.databaseInstance, id)
  | .deletion user (.appDeployment, id) =>
      (∃ found, getDeployment state.db id user = .ok found)
      → dialect = .postgresql ∨ Unpaid state.db (.appDeployment, id)
  | .deletion user (.minecraftServer, id) =>
      (∃ found, getServerForUser state.db id user "start_stop" = .ok found)
      → dialect = .postgresql ∨ Unpaid state.db (.minecraftServer, id)
  | _ => True

-- What a step leaves of the rows

/-- Rows name one resource each, no deleted resource is stored, and none is paid for. -/
structure Ended (state : State) : Prop where
  gone : Gone state.deleted state.db
  coherent : ∀ row ∈ state.db.subscriptions.rows, Coherent row
  settled : Settled state

/-- Rows that follow old ones or name no deleted resource. -/
def Inherits (deleted : List Resource) (db next : Database) : Prop :=
  ∀ row ∈ next.subscriptions.rows,
    (∃ old ∈ db.subscriptions.rows, Follows old row)
    ∨ Coherent row ∧ ∀ resource ∈ deleted, row.paysFor resource.1 resource.2 = false

theorem Ended.of_inherits {state : State} (ended : Ended state) {next : Database}
    (gone : Gone state.deleted next) (inherits : Inherits state.deleted state.db next)
    : Ended { state with db := next } where
  gone := gone
  coherent := by
    intro row member
    rcases inherits row member with ⟨old, known, same, _⟩ | ⟨coherent, _⟩
    · exact (ended.coherent old known).of_names same
    · exact coherent
  settled := by
    intro resource deleted row member pays
    rcases inherits row member with ⟨old, known, same, alive⟩ | ⟨_, others⟩
    · have closed := ended.settled resource deleted old known
        ((paysFor_of_names same resource).symm.trans pays)
      cases live : row.live with
      | false => rfl
      | true => exact absurd (alive live) (by simp [closed])
    · simp [others resource deleted] at pays

theorem Gone.names_other {deleted : List Resource} {db : Database} (gone : Gone deleted db)
    {row : BillingSubscription} (owner : Resource) (coherent : Coherent row)
    (pays : row.paysFor owner.1 owner.2 = true)
    (billable : (getBillableResource db owner.1 owner.2).isSome = true)
    : ∀ resource ∈ deleted, row.paysFor resource.1 resource.2 = false := by
  intro resource member
  by_contra named
  have same := coherent.paysFor_unique pays (eq_true_of_ne_false named)
  subst same
  simp [gone owner member] at billable

theorem billable_of_server {db : Database} {serverId : Uuid}
    (known : serverId ∈ db.servers.rows.map Server.id)
    : (getBillableResource db .minecraftServer serverId).isSome = true := by
  rw [getBillableResource, Option.isSome_map, Option.isSome_iff_ne_none, ne_eq,
    Table.get?_eq_none, not_not]
  exact known

theorem inherits_markStored {deleted : List Resource} (db : Database) (now : Instant)
    {status : BillingSubscriptionStatus} (subscriptionId : String) {row : BillingSubscription}
    (coherent : ∀ old ∈ db.subscriptions.rows, Coherent old)
    (known : row ∈ db.subscriptions.rows)
    (quiet
      : status = .cancelled
        ∨ ∀ resource ∈ deleted, row.paysFor resource.1 resource.2 = false)
    : Inherits deleted db (markStored now status subscriptionId row db) := by
  intro marked member
  change marked ∈ (db.subscriptions.modify row.id _).rows at member
  rw [Table.rows_modify] at member
  obtain ⟨old, stored, rfl⟩ := List.mem_map.mp member
  by_cases same : old.id = row.id
  · have isRow : old = row := db.subscriptions.eq_of_key_eq stored known same
    subst isRow
    simp only [if_true]
    rcases quiet with rfl | others
    · exact .inl ⟨old, stored, by simp, by simp [BillingSubscription.live]⟩
    · refine .inr ⟨(coherent old stored).of_names (by simp), ?_⟩
      intro resource member
      rw [paysFor_of_names (names_markSubscription ..), others resource member]
  · simp only [if_neg same]
    exact .inl ⟨old, stored, .refl old⟩

theorem inherits_billing {settings : Settings} {now : Instant} {state : State} {next : Database}
    (change : BillingChange settings now state.db next) (gone : Gone state.deleted next)
    : Inherits state.deleted state.db next := by
  have new_row {row : BillingSubscription} (serverId : Uuid)
      (same : names row = (some serverId, none, none))
      (known : serverId ∈ next.servers.rows.map Server.id)
      : Coherent row
        ∧ ∀ resource ∈ state.deleted, row.paysFor resource.1 resource.2 = false := by
    have coherent : Coherent row := .server serverId same
    simp only [names, Prod.mk.injEq] at same
    have pays : row.paysFor .minecraftServer serverId = true := by
      simp [BillingSubscription.paysFor, same.1]
    exact ⟨coherent, gone.names_other (.minecraftServer, serverId) coherent pays
      (billable_of_server known)⟩
  intro row member
  cases change with
  | unrelated _ subscriptions _ _ => exact .inl ⟨row, subscriptions ▸ member, .refl row⟩
  | trial server plan _ subscriptions _ _ servers =>
      rw [subscriptions] at member
      rcases List.mem_append.mp member with old | new
      · exact .inl ⟨row, old, .refl row⟩
      · rw [List.mem_singleton.mp new]
        exact .inr (new_row server.id rfl (by simp [servers]))
  | activation tx server plan providerPaymentId ordered named known planned result =>
      have rows
          : next.subscriptions.rows
            = state.db.subscriptions.rows.map (cancelExisting now tx.serverId)
              ++ [activatedSubscription now tx plan
                (state.db.subscriptions.update
                  ⟨cancelExisting now tx.serverId,
                    cancelExisting_id now tx.serverId⟩).freshKey] := by
        rw [result]
        rfl
      rw [rows] at member
      rcases List.mem_append.mp member with old | new
      · obtain ⟨source, stored, rfl⟩ := List.mem_map.mp old
        refine .inl ⟨source, stored, names_cancelExisting .., ?_⟩
        intro alive
        rwa [(cancelExisting_alive alive).2] at alive
      · rw [List.mem_singleton.mp new]
        refine .inr (new_row server.id ?_ ?_)
        · simp [names, activatedSubscription, named]
        · rw [result]
          change _ ∈ (state.db.servers.modify server.id _).rows.map Server.id
          rw [Table.keys_modify]
          exact List.mem_map_of_mem known
  | swept result =>
      rw [result] at member
      change row ∈ (state.db.subscriptions.update _).rows at member
      rw [Table.rows_update] at member
      obtain ⟨source, stored, rfl⟩ := List.mem_map.mp member
      exact .inl ⟨source, stored, names_expireSubscription .., expireSubscription_live⟩
  | cancelled id subscriptionId _ subscriptions _ _ =>
      rw [subscriptions, Table.rows_modify] at member
      obtain ⟨source, stored, rfl⟩ := List.mem_map.mp member
      refine .inl ⟨source, stored, ?_⟩
      dsimp only
      split
      · exact ⟨by simp, by simp [BillingSubscription.live]⟩
      · exact .refl source

theorem findSubscription_source {db : Database} {subscriptionId : String} (resource : Resource)
    {row : BillingSubscription}
    (found : findSubscription db subscriptionId resource.1 resource.2 = some row)
    : row.providerSubscriptionId = some subscriptionId
      ∨ row.paysFor resource.1 resource.2 = true := by
  unfold findSubscription at found
  split at found
  · rename_i carrier
    cases found
    exact .inl (by simpa using List.find?_some carrier)
  · exact .inr (List.mem_filter.mp (latest_some found).1).2

theorem activatedRow_source {event : HandledEvent} {suffix : String} {db : Database}
    {row : BillingSubscription} (found : event.activatedRow suffix db = some row)
    : grants event suffix db = true
      ∧ (row.providerSubscriptionId ≠ none ∧ row.providerSubscriptionId = subscriptionOf event
        ∨ ∃ resource : Resource,
            row.paysFor resource.1 resource.2 = true
            ∧ (getBillableResource db resource.1 resource.2).isSome = true) := by
  unfold HandledEvent.activatedRow at found
  unfold grants
  cases named : namedResource event.customData with
  | none => simp [named] at found
  | some resource =>
      obtain ⟨resourceType, resourceId⟩ := resource
      simp only [named] at found ⊢
      cases billable : getBillableResource db resourceType resourceId with
      | none => simp [billable] at found
      | some ownerId? =>
          simp only [billable] at found ⊢
          have source {subscriptionId : String}
              (selected : findSubscription db subscriptionId resourceType resourceId = some row)
              (carried : subscriptionOf event = some subscriptionId)
              : row.providerSubscriptionId ≠ none
                  ∧ row.providerSubscriptionId = subscriptionOf event
                ∨ ∃ resource : Resource,
                    row.paysFor resource.1 resource.2 = true
                    ∧ (getBillableResource db resource.1 resource.2).isSome = true := by
            rcases findSubscription_source (resourceType, resourceId) selected
              with same | pays
            · exact .inl (by simp [same, carried])
            · exact .inr ⟨(resourceType, resourceId), pays, by simp [billable]⟩
          by_cases listed : event.eventType ∈ subscriptionEvents
          · simp only [if_pos listed] at found ⊢
            split at found
            · cases found
            · rename_i quiet
              obtain ⟨subscriptionId, carried, selected⟩ := Option.bind_eq_some_iff.mp found
              refine ⟨?_, source selected (by simp [subscriptionOf, listed, carried])⟩
              simp only [Bool.or_eq_true, not_or, Bool.not_eq_true, Option.isNone_eq_false_iff]
                at quiet
              simp [quiet.1, quiet.2]
          · simp only [if_neg listed] at found ⊢
            split at found
            · rename_i stored
              obtain ⟨subscriptionId, carried, selected⟩ := Option.bind_eq_some_iff.mp found
              exact ⟨stored, source selected (by simp [subscriptionOf, listed, carried])⟩
            · cases found

theorem inherits_delivery (dialect : Dialect) {state : State} (ended : Ended state)
    (delivery : PaddleDelivery)
    (lawful : Lawful dialect state (.subscription (.paddle delivery)))
    : Inherits state.deleted state.db (delivery.apply state.db) := by
  intro row member
  rcases delivery.apply_change state.db with same | ⟨event, reached, change⟩
  · exact .inl ⟨row, same ▸ member, .refl row⟩
  · obtain ⟨processed, claimed⟩ :=
      claimEvent_frame delivery.time event.eventId event.eventType state.db
    rw [claimed] at change
    have kept : Inherits state.deleted state.db
        { state.db with processedWebhookEvents := processed } :=
      fun old known => .inl ⟨old, known, .refl old⟩
    cases change with
    | ignored same => exact kept row (same ▸ member)
    | cancelled subscriptionId resourceType resourceId selected result =>
        rw [result, stopResource_subscriptions, selected] at member
        unfold markCancelled at member
        split at member
        · exact kept row member
        · rename_i found
          exact inherits_markStored { state.db with processedWebhookEvents := processed }
            delivery.time subscriptionId ended.coherent (findSubscription_mem found) (.inl rfl)
            row member
    | added subscriptionId resourceType resourceId ownerId plan billable missing result =>
        rw [result] at member
        rcases List.mem_append.mp member with old | new
        · exact kept row old
        · rw [List.mem_singleton.mp new]
          have coherent : Coherent (paddleSubscription delivery.time subscriptionId resourceType
              resourceId ownerId plan state.db.subscriptions.freshKey) :=
            .resource (resourceType, resourceId) rfl
          refine .inr ⟨coherent,
            ended.gone.names_other (resourceType, resourceId) coherent ?_ billable⟩
          simp [BillingSubscription.paysFor, paddleSubscription]
    | activated subscriptionId marked found stored result =>
        rw [result] at member
        refine inherits_markStored { state.db with processedWebhookEvents := processed }
          delivery.time subscriptionId ended.coherent stored (.inr ?_) row member
        obtain ⟨granted, ⟨carries, same⟩ | ⟨resource, pays, billable⟩⟩ :=
          activatedRow_source found
        · exact lawful event reached granted marked stored carries same
        · exact ended.gone.names_other resource (ended.coherent marked stored) pays billable

theorem Unpaid.of_follows {db next : Database} {resource : Resource}
    (unpaid : Unpaid db resource)
    (follows
      : ∀ row ∈ next.subscriptions.rows, ∃ old ∈ db.subscriptions.rows, Follows old row)
    : Unpaid next resource := by
  intro row member pays
  obtain ⟨old, known, same, alive⟩ := follows row member
  have closed := unpaid old known ((paysFor_of_names same resource).symm.trans pays)
  cases live : row.live with
  | false => rfl
  | true => exact absurd (alive live) (by simp [closed])

theorem deletion_leaves {dialect : Dialect} {settings : Settings} {state : State} {now : Instant}
    {user : User} {resource : Resource} {db : Database} (ended : Ended state)
    (done : deleteResource dialect settings now user state.db resource = .ok db)
    (lawful : Lawful dialect state (.deletion user resource))
    : Removes resource state.db db
      ∧ (∀ row ∈ db.subscriptions.rows, ∃ old ∈ state.db.subscriptions.rows, Follows old row)
      ∧ Unpaid db resource := by
  obtain ⟨kind, id⟩ := resource
  cases kind with
  | minecraftServer =>
      obtain ⟨permitted, free, same, removes⟩ := deleteServer_ok done
      refine ⟨removes, fun row member => ⟨row, same ▸ member, .refl row⟩, ?_⟩
      intro row member pays
      rw [same] at member
      rcases lawful permitted with rfl | unpaid
      · -- The foreign key would have refused the deletion.
        have named := (ended.coherent row member).serverId pays
        have referenced := free rfl
        simp only [ControlPlane.serverReferenced, Bool.or_eq_false_iff, List.any_eq_false]
          at referenced
        simpa [named] using referenced.1.1.1.1.1.1.1 row member
      · exact unpaid row member pays
  | appDeployment =>
      obtain ⟨answer, answered, rfl⟩ := answer_ok done
      obtain ⟨permitted, same, removes⟩ := deleteDeployment_ok answered
      have rows := cancelBilling_rows dialect now "app_deployment" id state.db
      rw [← same] at rows
      have follows : ∀ row ∈ answer.db.subscriptions.rows,
          ∃ old ∈ state.db.subscriptions.rows, Follows old row := by
        intro row member
        obtain ⟨old, known, followed, _⟩ := rows row member
        exact ⟨old, known, followed⟩
      refine ⟨removes, follows, ?_⟩
      rcases lawful permitted with postgresql | unpaid
      · intro row member pays
        obtain ⟨old, known, followed, closed⟩ := rows row member
        rw [paysFor_of_names followed.1 (.appDeployment, id)] at pays
        simp only [BillingSubscription.paysFor, reduceCtorEq, decide_false, Bool.false_and,
          Bool.or_false, Bool.and_eq_true, decide_eq_true_eq] at pays
        exact closed postgresql (by rw [pays.2]; rfl) pays.1
      · exact unpaid.of_follows follows
  | databaseInstance =>
      obtain ⟨answer, answered, rfl⟩ := answer_ok done
      obtain ⟨permitted, same, removes⟩ := deleteDatabase_ok answered
      have follows : ∀ row ∈ answer.db.subscriptions.rows,
          ∃ old ∈ state.db.subscriptions.rows, Follows old row := by
        intro row member
        rw [same] at member
        obtain ⟨old, known, followed, _⟩ := cancelBilling_rows _ _ _ _ _ row member
        exact ⟨old, known, followed⟩
      exact ⟨removes, follows, (lawful permitted).of_follows follows⟩

-- Every run

theorem Ended.step {dialect : Dialect} {settings : Settings} {before after : State}
    {event : Event} (ended : Ended before) (taken : Step dialect settings before event after)
    (lawful : Lawful dialect before event)
    : Ended after := by
  cases taken with
  | @subscription event now fresh =>
      refine ended.of_inherits fresh ?_
      cases event with
      | billing event =>
          exact inherits_billing (handleBilling_change settings now before.db event) fresh
      | paddle delivery =>
          exact inherits_delivery dialect ended { delivery with time := now } lawful
  | @deleted user resource now db done =>
      obtain ⟨removes, follows, unpaid⟩ := deletion_leaves ended done lawful
      have kept : Ended { before with db := db } := by
        refine ended.of_inherits ?_ (fun row member => .inl (follows row member))
        exact fun other member => removes.gone ended.gone other (List.mem_cons_of_mem _ member)
      refine ⟨removes.gone ended.gone, kept.coherent, ?_⟩
      intro other member
      rcases List.mem_cons.mp member with rfl | earlier
      · exact unpaid
      · exact kept.settled other earlier
  | refused _ => exact ended
  | elsewhere subscriptions fresh =>
      refine ended.of_inherits fresh ?_
      intro row member
      exact .inl ⟨row, subscriptions ▸ member, .refl row⟩

/-- Where databases are deleted without a subscription, on SQLite the other resources too, and no
event for a stored resource carries the subscription of a deleted one, no row in any state
reached pays for a deleted resource.
-/
theorem deleted_resources_stay_unpaid {dialect : Dialect} {settings : Settings}
    {start finish : State} {events : List Event} (initial : start.Initial)
    (run : Run (fun before event after =>
        Step dialect settings before event after ∧ Lawful dialect before event)
      start events finish)
    : Settled finish := by
  have first : Ended start := by
    refine ⟨?_, ?_, ?_⟩
    · simp [Gone, initial.deleted]
    · simp [initial.subscriptions]
    · simp [Settled, initial.deleted]
  have last : Ended finish :=
    run.invariant Ended (fun _ => True) (fun _ taken earlier => earlier.step taken.1 taken.2)
      (fun _ _ => trivial) first
  exact last.settled

def tenant : User where
  id := 1
  email := "owner@example.com"
  authHash := "hash"
  nickname := "owner"

def hosted : State where
  db :=
    { users := ⟨[tenant], by decide⟩
      projects := ⟨[{ id := 2, ownerId := 1 }], by decide⟩
      appDeployments :=
        ⟨[{ id := 0, ownerId := 1, nodeId := none, volumePath := "/srv/0" }], by decide⟩
      databaseInstances := ⟨[{ id := 0, projectId := 2, nodeId := none }], by decide⟩
      plans :=
        ⟨[{ id := "pro", ramMb := 1024, cpuLimit := 100, storageMb := 10240, playerLimit := 25,
            price := 39900, durationDays := 30 }], by decide⟩ }

/-- The notification of a new subscription. -/
def subscribes (customData : CustomData) : SubscriptionEvent :=
  .paddle
    { time := 0
      body :=
        some
          { eventId := .value "evt_1"
            eventType := .value "subscription.created"
            data := .value { id := .value "sub_1", customData := .value customData } } }

def paidDatabase : SubscriptionEvent :=
  subscribes
    { resourceType := .value "database_instance"
      databaseId := .value "00000000000000000000000000000000" }

def paidDeployment : SubscriptionEvent :=
  subscribes
    { resourceType := .value "app_deployment"
      deploymentId := .value "00000000000000000000000000000000" }

def paid (event : SubscriptionEvent) : State :=
  { hosted with db := handleSubscription {} 0 hosted.db event }

theorem paid_step (dialect : Dialect) (event : SubscriptionEvent)
    : Step dialect {} hosted (.subscription event) (paid event) :=
  .subscription (fun _ member => absurd member List.not_mem_nil)

/-- A deployment that is deleted on PostgreSQL is paid for no more. -/
theorem deleted_deployment_is_unpaid
    : ∃ db, Settled ⟨db, [(.appDeployment, 0)]⟩
        ∧ db.subscriptions.rows.map BillingSubscription.status = [.cancelled] := by
  have permitted
      : ∃ answer, deleteDeployment .postgresql 1 tenant 0 (paid paidDeployment).db = .ok answer
          ∧ answer.db.subscriptions.rows.map BillingSubscription.status = [.cancelled] := by
    refine ⟨_, rfl, ?_⟩
    decide +kernel
  obtain ⟨answer, done, closed⟩ := permitted
  have removes
      : deleteResource .postgresql {} 1 tenant (paid paidDeployment).db (.appDeployment, 0)
        = .ok answer.db := by
    rw [deleteResource, done]
    rfl
  have initial : hosted.Initial := ⟨rfl, rfl⟩
  refine ⟨answer.db, deleted_resources_stay_unpaid initial
    ((Run.single ⟨paid_step _ paidDeployment, ?_⟩).next
      ⟨.deleted removes, fun _ => .inl rfl⟩), closed⟩
  intro _ _ _ _ _ _ _ resource member
  exact absurd member List.not_mem_nil

/-- A deleted database is still paid for: its deletion looks for another type of resource. -/
theorem deleted_database_keeps_subscription
    : ¬ ∀ (dialect : Dialect) (settings : Settings) (start finish : State) (events : List Event),
        start.Initial → Run (Step dialect settings) start events finish → Settled finish := by
  intro settled
  have permitted
      : ∃ answer, deleteDatabase .postgresql 1 tenant 0 (paid paidDatabase).db = .ok answer
          ∧ answer.db.subscriptions.rows.map
              (fun row => (row.paysFor .databaseInstance 0, row.live)) = [(true, true)] := by
    refine ⟨_, rfl, ?_⟩
    decide +kernel
  obtain ⟨answer, done, alive⟩ := permitted
  have removes
      : deleteResource .postgresql {} 1 tenant (paid paidDatabase).db (.databaseInstance, 0)
        = .ok answer.db := by
    rw [deleteResource, done]
    rfl
  have unpaid := settled .postgresql {} hosted _ _ ⟨rfl, rfl⟩
    ((Run.single (paid_step _ paidDatabase)).next (.deleted removes)) (.databaseInstance, 0)
    (by simp)
  obtain ⟨row, rows⟩ : ∃ row, answer.db.subscriptions.rows = [row] :=
    List.length_eq_one_iff.mp (by simpa using congrArg List.length alive)
  rw [rows] at alive
  simp only [List.map_cons, List.map_nil, List.cons.injEq, Prod.mk.injEq, and_true] at alive
  have closed := unpaid row (by simp [rows]) alive.1
  simp [alive.2] at closed

end Blockhost.Deletions
