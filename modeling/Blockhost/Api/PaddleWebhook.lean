import Blockhost.Api.Schemas
import Blockhost.Database.Identifiers
import Blockhost.Orchestrator.Resources

/-! The Paddle webhook: which rows a notification selects and what it writes to them. The
session does not flush on its own, and only a commit keeps what a call has added.
-/

namespace Blockhost

open Library

inductive Member (α : Type) where
  | missing
  | null
  | value (content : α)
deriving DecidableEq, Repr

/-- `get(key)`: null and missing members give nothing. -/
def Member.get {α : Type} : Member α → Option α
  | .value content => some content
  | _ => none

/-- `get(key, default)`: the default stands for a missing member only. -/
def Member.getD {α : Type} (default : α) : Member α → Option α
  | .missing => some default
  | .null => none
  | .value content => some content

def Member.nonempty (member : Member String) : Option String :=
  member.get.filter (fun text => text ≠ "")

structure CustomData where
  resourceType : Member String := .missing
  serverId : Member String := .missing
  deploymentId : Member String := .missing
  databaseId : Member String := .missing
deriving DecidableEq, Repr

structure PaddleData where
  id : Member String := .missing
  status : Member String := .missing
  subscriptionId : Member String := .missing
  customData : Member CustomData := .missing
deriving DecidableEq, Repr

structure PaddlePayload where
  eventId : Member String := .missing
  eventType : Member String := .missing
  data : Member PaddleData := .missing
deriving DecidableEq, Repr

/-- What a webhook call answers when it does not answer ok. -/
inductive WebhookFailure where
  | http (error : HttpError)
  | raised (exception : String)
deriving DecidableEq, Repr

abbrev ProvisionTask := ResourceType × Uuid

/-- The resource types that the handlers know. -/
def parseResourceType : String → Option ResourceType
  | "minecraft_server" => some .minecraftServer
  | "app_deployment" => some .appDeployment
  | "database_instance" => some .databaseInstance
  | _ => none

def resourceIdFromCustomData (resourceType : ResourceType) (customData : CustomData)
    : Option String :=
  match resourceType with
  | .minecraftServer => customData.serverId.nonempty
  | .appDeployment => customData.deploymentId.nonempty
  | .databaseInstance => customData.databaseId.nonempty

/-- The resource that a notification names, when its type and identifier are well formed. -/
def namedResource (customData : CustomData) : Option (ResourceType × Uuid) := do
  let typeText ← customData.resourceType.getD "minecraft_server"
  let resourceType ← parseResourceType typeText
  let idText ← resourceIdFromCustomData resourceType customData
  let resourceId ← parseUuid idText
  return (resourceType, resourceId)

/-- A resource that exists, with its owner; a database belongs to its project's owner. -/
def getBillableResource (db : Database) (resourceType : ResourceType) (resourceId : Uuid)
    : Option (Option Uuid) :=
  match resourceType with
  | .minecraftServer => (db.servers.get? resourceId).map (fun server => some server.ownerId)
  | .appDeployment =>
      (db.appDeployments.get? resourceId).map (fun deployment => some deployment.ownerId)
  | .databaseInstance =>
      (db.databaseInstances.get? resourceId).map (fun database =>
        (db.projects.get? database.projectId).map Project.ownerId)

/-- A canceled subscription stops its resource. -/
def stopResource (resourceType : ResourceType) (resourceId : Uuid) (db : Database)
    : Database :=
  match resourceType with
  | .minecraftServer =>
      { db with
        servers := db.servers.modify resourceId suspendServer }
  | .appDeployment =>
      { db with
        appDeployments := db.appDeployments.modify resourceId
          { apply := fun deployment => { deployment with state := .stopped } } }
  | .databaseInstance =>
      { db with
        databaseInstances := db.databaseInstances.modify resourceId
          { apply := fun database => { database with state := .stopped } } }

def BillingSubscription.paysFor (resourceType : ResourceType) (resourceId : Uuid)
    (row : BillingSubscription)
    : Bool :=
  (row.resourceId = some resourceId && row.resourceType = some resourceType)
  || (resourceType = .minecraftServer && row.serverId = some resourceId)

def findSubscription (db : Database) (subscriptionId : String) (resourceType : ResourceType)
    (resourceId : Uuid)
    : Option BillingSubscription :=
  match db.subscriptions.rows.find?
      (fun row => row.providerSubscriptionId = some subscriptionId) with
  | some row => some row
  | none =>
      latest BillingSubscription.createdAt
        (db.subscriptions.rows.filter (fun row => row.paysFor resourceType resourceId))

def firstActivePlan (db : Database) : Option BillingPlan :=
  db.plans.rows.find? (fun plan => plan.active)

/-- Write a status and the Paddle subscription into a row; a row that changes gets a new
modification time.
-/
def markSubscription (now : Instant) (status : BillingSubscriptionStatus)
    (subscriptionId : String) (row : BillingSubscription)
    : BillingSubscription :=
  if row.status = status ∧ row.providerSubscriptionId = some subscriptionId then row
  else
    { row with
      status, providerSubscriptionId := some subscriptionId, updatedAt := now }

@[simp] theorem markSubscription_id (now : Instant) (status : BillingSubscriptionStatus)
    (subscriptionId : String) (row : BillingSubscription)
    : (markSubscription now status subscriptionId row).id = row.id := by
  unfold markSubscription
  split <;> rfl

@[simp] theorem markSubscription_serverId (now : Instant)
    (status : BillingSubscriptionStatus) (subscriptionId : String) (row : BillingSubscription)
    : (markSubscription now status subscriptionId row).serverId = row.serverId := by
  unfold markSubscription
  split <;> rfl

@[simp] theorem markSubscription_expiresAt (now : Instant)
    (status : BillingSubscriptionStatus) (subscriptionId : String) (row : BillingSubscription)
    : (markSubscription now status subscriptionId row).expiresAt = row.expiresAt := by
  unfold markSubscription
  split <;> rfl

@[simp] theorem markSubscription_planId (now : Instant)
    (status : BillingSubscriptionStatus) (subscriptionId : String) (row : BillingSubscription)
    : (markSubscription now status subscriptionId row).planId = row.planId := by
  unfold markSubscription
  split <;> rfl

@[simp] theorem markSubscription_status (now : Instant) (status : BillingSubscriptionStatus)
    (subscriptionId : String) (row : BillingSubscription)
    : (markSubscription now status subscriptionId row).status = status := by
  unfold markSubscription
  split
  · rename_i same
    exact same.1
  · rfl

@[simp] theorem markSubscription_providerSubscriptionId (now : Instant)
    (status : BillingSubscriptionStatus) (subscriptionId : String) (row : BillingSubscription)
    : (markSubscription now status subscriptionId row).providerSubscriptionId
      = some subscriptionId := by
  unfold markSubscription
  split
  · rename_i same
    exact same.2
  · rfl

def markStored (now : Instant) (status : BillingSubscriptionStatus) (subscriptionId : String)
    (row : BillingSubscription) (db : Database)
    : Database :=
  { db with
    subscriptions := db.subscriptions.modify row.id
      ⟨markSubscription now status subscriptionId,
        markSubscription_id now status subscriptionId⟩ }

def paddleSubscription (now : Instant) (subscriptionId : String)
    (resourceType : ResourceType) (resourceId ownerId : Uuid) (plan : BillingPlan) (id : Uuid)
    : BillingSubscription where
  id := id
  userId := ownerId
  serverId := if resourceType = .minecraftServer then some resourceId else none
  resourceType := some resourceType
  resourceId := some resourceId
  planId := plan.id
  startsAt := now
  expiresAt := now + days plan.durationDays
  status := .active
  providerSubscriptionId := some subscriptionId
  createdAt := now
  updatedAt := now

/-- Store the row for a resource that has none. -/
def addPaddleSubscription (now : Instant) (subscriptionId : String)
    (resourceType : ResourceType) (resourceId ownerId : Uuid) (plan : BillingPlan)
    (db : Database)
    : Database :=
  { db with
    subscriptions := db.subscriptions.create
      ⟨paddleSubscription now subscriptionId resourceType resourceId ownerId plan,
        fun _ => rfl⟩ }

-- Event handlers

def cancelsSubscription (eventType : String) (data : PaddleData) : Bool :=
  eventType = "subscription.canceled" || data.status.get = some "canceled"

/-- Cancel the row that a notification selects, when there is one. -/
def markCancelled (now : Instant) (subscriptionId : String)
    (found : Option BillingSubscription) (db : Database)
    : Database :=
  match found with
  | none => db
  | some row => markStored now .cancelled subscriptionId row db

/-- Created, updated and canceled notifications of a subscription. Every status other than
canceled makes the row active.
-/
def handleSubscriptionEvent (now : Instant) (eventType : String) (data : PaddleData)
    (customData : CustomData) (db : Database)
    : Database × List ProvisionTask :=
  match data.id.nonempty, namedResource customData with
  | some subscriptionId, some (resourceType, resourceId) =>
      match getBillableResource db resourceType resourceId with
      | none | some none => (db, [])
      | some (some ownerId) =>
          let found := findSubscription db subscriptionId resourceType resourceId
          if cancelsSubscription eventType data then
            (stopResource resourceType resourceId (markCancelled now subscriptionId found db), [])
          else
            match found with
            | none =>
                match firstActivePlan db with
                | none => (db, [])
                | some plan =>
                    (addPaddleSubscription now subscriptionId resourceType resourceId ownerId
                      plan db, [(resourceType, resourceId)])
            | some row =>
                (markStored now .active subscriptionId row db,
                  if row.status = .active then [] else [(resourceType, resourceId)])
  | _, _ => (db, [])

def grantTransaction (now : Instant) (subscriptionId : String) (resourceType : ResourceType)
    (resourceId : Uuid) (ownerId? : Option Uuid) (db : Database)
    : Except WebhookFailure Database :=
  match findSubscription db subscriptionId resourceType resourceId with
  | some row => .ok (markStored now .active subscriptionId row db)
  | none =>
      match firstActivePlan db, ownerId? with
      | none, _ => .ok db
      | some _, none => .error (.raised "IntegrityError")
      | some plan, some ownerId =>
          .ok (addPaddleSubscription now subscriptionId resourceType resourceId ownerId plan db)

/-- A completed transaction. Storing its record reads `BillingTransactionStatus.success`, which
the enumeration does not have, and before that a row that is unbound when no subscription is
named; so a transaction that is not stored yet always raises. `suffix` completes the made-up
identifier of a transaction without one.
-/
def handleTransactionCompleted (now : Instant) (suffix : String) (data : PaddleData)
    (customData : CustomData) (db : Database)
    : Except WebhookFailure (Database × List ProvisionTask) :=
  match namedResource customData with
  | none => .ok (db, [])
  | some (resourceType, resourceId) =>
      match getBillableResource db resourceType resourceId with
      | none => .ok (db, [])
      | some ownerId? =>
          let stored :=
            match data.id.getD ("txn_unknown_" ++ suffix) with
            | none => false
            | some transactionId =>
                db.transactions.rows.any (fun tx => tx.providerOrderId = transactionId)
          match data.subscriptionId.nonempty, stored with
          | none, false => .error (.raised "UnboundLocalError")
          | some _, false => .error (.raised "AttributeError")
          | none, true => .ok (db, [(resourceType, resourceId)])
          | some subscriptionId, true =>
              (grantTransaction now subscriptionId resourceType resourceId ownerId? db).map
                (fun granted => (granted, [(resourceType, resourceId)]))

def subscriptionEvents : List String :=
  ["subscription.created", "subscription.updated", "subscription.canceled"]

/-- Remember a notification so that its redelivery is skipped. -/
def claimEvent (now : Instant) (eventId eventType : String) (db : Database) : Database :=
  match db.processedWebhookEvents.insert?
      { eventId, provider := "paddle", eventType, processedAt := now } with
  | none => db
  | some processedWebhookEvents => { db with processedWebhookEvents }

/-- One delivery. `authentic` is the outcome of the signature check, and no payload stands for
a body that is not JSON. An event of another type answers ok without a commit.
-/
def paddleWebhook (now : Instant) (suffix : String) (authentic : Bool)
    (body : Option PaddlePayload) (db : Database)
    : Except WebhookFailure (Database × List ProvisionTask) :=
  if !authentic then .error (.http ⟨401, "Invalid signature"⟩)
  else
    match body with
    | none => .error (.http ⟨400, "Invalid JSON body"⟩)
    | some payload =>
        match payload.eventId.nonempty, payload.eventType.nonempty with
        | some eventId, some eventType =>
            if (db.processedWebhookEvents.get? eventId).isSome then .ok (db, [])
            else
              let claimed := claimEvent now eventId eventType db
              if eventType ∈ subscriptionEvents ∨ eventType = "transaction.completed" then
                match payload.data.getD {} with
                | none => .error (.raised "AttributeError")
                | some data =>
                    match data.customData.getD {} with
                    | none => .error (.raised "AttributeError")
                    | some customData =>
                        if eventType ∈ subscriptionEvents then
                          .ok (handleSubscriptionEvent now eventType data customData claimed)
                        else handleTransactionCompleted now suffix data customData claimed
              else .ok (db, [])
        | _, _ => .ok (db, [])

@[simp] theorem stopResource_subscriptions (resourceType : ResourceType) (resourceId : Uuid)
    (db : Database)
    : (stopResource resourceType resourceId db).subscriptions = db.subscriptions := by
  cases resourceType <;> rfl

@[simp] theorem stopResource_plans (resourceType : ResourceType) (resourceId : Uuid)
    (db : Database)
    : (stopResource resourceType resourceId db).plans = db.plans := by
  cases resourceType <;> rfl

@[simp] theorem stopResource_transactions (resourceType : ResourceType) (resourceId : Uuid)
    (db : Database)
    : (stopResource resourceType resourceId db).transactions = db.transactions := by
  cases resourceType <;> rfl

theorem stopResource_serverKeys (resourceType : ResourceType) (resourceId : Uuid)
    (db : Database)
    : (stopResource resourceType resourceId db).servers.rows.map Server.id
      = db.servers.rows.map Server.id := by
  cases resourceType with
  | minecraftServer => exact Table.keys_modify _ _ _
  | appDeployment => rfl
  | databaseInstance => rfl

theorem getBillableResource_stopResource (stopped kind : ResourceType) (stoppedId id : Uuid)
    (db : Database)
    : getBillableResource (stopResource stopped stoppedId db) kind id
      = getBillableResource db kind id := by
  cases stopped <;> cases kind <;>
    simp only [stopResource, getBillableResource, Table.get?_modify] <;>
    split <;> simp only [Option.map_map] <;> rfl

theorem claimEvent_frame (now : Instant) (eventId eventType : String) (db : Database)
    : ∃ processed,
        claimEvent now eventId eventType db = { db with processedWebhookEvents := processed } := by
  unfold claimEvent
  cases db.processedWebhookEvents.insert?
      { eventId, provider := "paddle", eventType, processedAt := now } with
  | none => exact ⟨db.processedWebhookEvents, rfl⟩
  | some processed => exact ⟨processed, rfl⟩

theorem claimEvent_fresh (now : Instant) {eventId : String} (eventType : String) (db : Database)
    (fresh : eventId ∉ db.processedWebhookEvents.rows.map ProcessedWebhookEvent.eventId)
    : (claimEvent now eventId eventType db).processedWebhookEvents.rows.map
          ProcessedWebhookEvent.eventId
        = db.processedWebhookEvents.rows.map ProcessedWebhookEvent.eventId ++ [eventId] := by
  let event : ProcessedWebhookEvent :=
    { eventId, provider := "paddle", eventType, processedAt := now }
  have added := Table.insert?_fresh event fresh
  simp [claimEvent, event, added]

theorem handleSubscriptionEvent_cancels (now : Instant) {eventType : String}
    {data : PaddleData} (customData : CustomData) (db : Database)
    (cancels : cancelsSubscription eventType data = true)
    : let next := (handleSubscriptionEvent now eventType data customData db).1
      next.plans = db.plans
      ∧ next.transactions = db.transactions
      ∧ next.servers.rows.map Server.id = db.servers.rows.map Server.id
      ∧ (next.subscriptions = db.subscriptions
        ∨ ∃ id subscriptionId,
            next.subscriptions
              = db.subscriptions.modify id
                  ⟨markSubscription now .cancelled subscriptionId,
                    markSubscription_id now .cancelled subscriptionId⟩) := by
  dsimp only
  unfold handleSubscriptionEvent
  split
  · rename_i subscriptionId resourceType resourceId _ _
    split
    · exact ⟨rfl, rfl, rfl, .inl rfl⟩
    · exact ⟨rfl, rfl, rfl, .inl rfl⟩
    · simp only [cancels, if_true, stopResource_plans, stopResource_transactions,
        stopResource_serverKeys, stopResource_subscriptions]
      cases findSubscription db subscriptionId resourceType resourceId with
      | none => exact ⟨rfl, rfl, rfl, .inl rfl⟩
      | some row => exact ⟨rfl, rfl, rfl, .inr ⟨row.id, subscriptionId, rfl⟩⟩
  · exact ⟨rfl, rfl, rfl, .inl rfl⟩

end Blockhost
