import Blockhost.Api.MigrationRuns
import Blockhost.Api.SubscriptionRuns
import Blockhost.Orchestrator.ServerDeletion
import Blockhost.Services.AuthTokens
import Blockhost.Services.PlacementRuns

/-! The endpoints that delete a resource that subscriptions pay for. Each of them selects the
rows to cancel by a query of its own.
-/

namespace Blockhost.Deletions

open Library

abbrev Resource := ResourceType × Uuid

/-- The text of a kind in the column `resource_type`. -/
def typeText : ResourceType → String
  | .minecraftServer => "minecraft_server"
  | .appDeployment => "app_deployment"
  | .databaseInstance => "database_instance"

-- The endpoints

/-- What a deletion sends to the agent of the node, by method and URL. Failures are logged. -/
def agentRequests (node : Option Node) (paths : List (String × String))
    : List (String × String) :=
  match node with
  | none => []
  | some node =>
      if node.ipAddress = "" then []
      else
        paths.map (fun path =>
          (path.1, "http://" ++ node.ipAddress ++ ":" ++ toString node.agentPort ++ path.2))

/-- The query of a deletion. It compares the column with a text, for which the column type of
SQLite has no value.
-/
def selectSubscriptions (dialect : Dialect) (resourceType : String) (resourceId : Uuid)
    (db : Database)
    : Except String (List BillingSubscription) :=
  match dialect with
  | .sqlite => .error "(builtins.AttributeError) 'str' object has no attribute 'hex'"
  | .postgresql =>
      .ok (db.subscriptions.rows.filter (fun row =>
        row.resourceType.map typeText = some resourceType && row.resourceId = some resourceId))

/-- `sub.status = "cancelled"`, which changes no row that is cancelled. -/
def cancelRow (now : Instant) : Change BillingSubscription.id where
  apply row :=
    if row.status = .cancelled then row else { row with status := .cancelled, updatedAt := now }
  kept row := by split <;> rfl

def cancelBilling (dialect : Dialect) (now : Instant) (resourceType : String) (resourceId : Uuid)
    (db : Database)
    : Database :=
  match selectSubscriptions dialect resourceType resourceId db with
  | .error _ => db
  | .ok subs =>
      { db with
        subscriptions := db.subscriptions.update ((cancelRow now).when (fun row => row ∈ subs)) }

/-- What a deletion that answers 204 has sent and stored. -/
structure Deleted where
  requests : List (String × String)
  db : Database

def deleteDeployment (dialect : Dialect) (now : Instant) (user : User) (deploymentId : Uuid)
    (db : Database)
    : Except HttpError Deleted :=
  match getDeployment db deploymentId user with
  | .error refusal => .error refusal
  | .ok dep =>
      let cancelled := cancelBilling dialect now "app_deployment" dep.id db
      .ok
        { requests :=
            agentRequests (dep.nodeId.bind db.nodes.get?)
              [("POST", "/agent/deployments/" ++ uuidText dep.id ++ "/stop"),
                ("POST", "/agent/deployments/" ++ uuidText dep.id ++ "/delete-volume")]
          db :=
            { cancelled with
              appDeployments := cancelled.appDeployments.filter (fun row => row.id ≠ dep.id) } }

/-- Its query names another type than the rows of databases have. -/
def deleteDatabase (dialect : Dialect) (now : Instant) (user : User) (databaseId : Uuid)
    (db : Database)
    : Except HttpError Deleted :=
  match getDatabase db databaseId user with
  | .error refusal => .error refusal
  | .ok instance_ =>
      let cancelled := cancelBilling dialect now "database" instance_.id db
      .ok
        { requests :=
            agentRequests (instance_.nodeId.bind db.nodes.get?)
              [("POST", "/agent/databases/" ++ uuidText instance_.id ++ "/stop"),
                ("DELETE", "/agent/databases/" ++ uuidText instance_.id ++ "/delete")]
          db :=
            { cancelled with
              databaseInstances :=
                cancelled.databaseInstances.filter (fun row => row.id ≠ instance_.id) } }

/-- What a deletion of a server commits: it cancels no subscription. PostgreSQL checks the
foreign keys, SQLite does not.
-/
def deleteServer (dialect : Dialect) (settings : Settings) (now : Instant) (user : User)
    (serverId : Uuid) (db : Database)
    : Except HttpError Database :=
  match getServerForUser db serverId user "start_stop" with
  | .error refusal => .error refusal
  | .ok server =>
      if dialect = .postgresql && ControlPlane.serverReferenced db server.id then
        .error internalError
      else .ok (ControlPlane.removeServer settings now server.id server.nodeId db)

/-- The endpoint of a kind of resource. -/
def deleteResource (dialect : Dialect) (settings : Settings) (now : Instant) (user : User)
    (db : Database)
    : Resource → Except HttpError Database
  | (.minecraftServer, id) => deleteServer dialect settings now user id db
  | (.appDeployment, id) => (deleteDeployment dialect now user id db).map Deleted.db
  | (.databaseInstance, id) => (deleteDatabase dialect now user id db).map Deleted.db

-- Names of rows

/-- The columns that name a resource. -/
def names (row : BillingSubscription) : Option Uuid × Option ResourceType × Option Uuid :=
  (row.serverId, row.resourceType, row.resourceId)

/-- A row names one resource: by its server alone, or by its kind and identifier, with which the
server agrees.
-/
inductive Coherent (row : BillingSubscription) : Prop where
  | server (serverId : Uuid) (same : names row = (some serverId, none, none))
  | resource (resource : Resource)
      (same
        : names row
          = (if resource.1 = .minecraftServer then some resource.2 else none,
              some resource.1, some resource.2))

/-- A row after a change: the names stay, and it is not brought back to life. -/
def Follows (old row : BillingSubscription) : Prop :=
  names row = names old ∧ (row.live = true → old.live = true)

theorem Follows.refl (row : BillingSubscription) : Follows row row := ⟨rfl, id⟩

@[simp] theorem names_markSubscription (now : Instant) (status : BillingSubscriptionStatus)
    (subscriptionId : String) (row : BillingSubscription)
    : names (markSubscription now status subscriptionId row) = names row := by
  unfold markSubscription
  split <;> rfl

@[simp] theorem names_cancelExisting (now : Instant) (serverId : Option Uuid)
    (row : BillingSubscription)
    : names (cancelExisting now serverId row) = names row := by
  unfold cancelExisting
  split <;> rfl

@[simp] theorem names_expireSubscription (settings : Settings) (now : Instant)
    (row : BillingSubscription)
    : names (expireSubscription settings now row) = names row := by
  unfold expireSubscription
  split_ifs <;> rfl

@[simp] theorem names_cancelRow (now : Instant) (row : BillingSubscription)
    : names ((cancelRow now).apply row) = names row := by
  simp only [cancelRow]
  split <;> rfl

@[simp] theorem live_cancelRow (now : Instant) (row : BillingSubscription)
    : ((cancelRow now).apply row).live = false := by
  unfold cancelRow BillingSubscription.live
  dsimp only
  split
  · rename_i cancelled
    rw [cancelled]
    rfl
  · rfl

theorem paysFor_of_names {row old : BillingSubscription} (same : names row = names old)
    (resource : Resource)
    : row.paysFor resource.1 resource.2 = old.paysFor resource.1 resource.2 := by
  simp only [names, Prod.mk.injEq] at same
  obtain ⟨server, kind, id⟩ := same
  simp only [BillingSubscription.paysFor, server, kind, id]

theorem Coherent.of_names {row old : BillingSubscription} (coherent : Coherent old)
    (same : names row = names old)
    : Coherent row := by
  cases coherent with
  | server serverId named => exact .server serverId (same.trans named)
  | resource resource named => exact .resource resource (same.trans named)

theorem Coherent.named {row : BillingSubscription} (coherent : Coherent row)
    : ∃ named : Resource,
        (∀ resource : Resource, row.paysFor resource.1 resource.2 = true → resource = named)
        ∧ (named.1 = .minecraftServer → row.serverId = some named.2) := by
  cases coherent with
  | server serverId same =>
      simp only [names, Prod.mk.injEq] at same
      obtain ⟨server, noKind, noId⟩ := same
      refine ⟨(.minecraftServer, serverId), ?_, fun _ => server⟩
      rintro ⟨kind, id⟩ pays
      have paid : kind = .minecraftServer ∧ serverId = id := by
        simpa [BillingSubscription.paysFor, server, noKind, noId] using pays
      rw [paid.1, paid.2]
  | resource named same =>
      simp only [names, Prod.mk.injEq] at same
      obtain ⟨server, isKind, isId⟩ := same
      refine ⟨named, ?_, fun isServer => server.trans (if_pos isServer)⟩
      rintro ⟨kind, id⟩ pays
      have paid : named.2 = id ∧ named.1 = kind
          ∨ kind = .minecraftServer ∧ named.1 = .minecraftServer ∧ named.2 = id := by
        simpa [BillingSubscription.paysFor, server, isKind, isId] using pays
      rcases paid with ⟨sameId, sameKind⟩ | ⟨isServer, namedServer, sameId⟩
      · rw [← sameId, ← sameKind]
      · rw [isServer, ← namedServer, ← sameId]

/-- A coherent row pays for one resource, the one that it names. -/
theorem Coherent.paysFor_unique {row : BillingSubscription} (coherent : Coherent row)
    {resource other : Resource} (pays : row.paysFor resource.1 resource.2 = true)
    (otherPays : row.paysFor other.1 other.2 = true)
    : resource = other := by
  obtain ⟨named, only, _⟩ := coherent.named
  rw [only resource pays, only other otherPays]

theorem Coherent.serverId {row : BillingSubscription} (coherent : Coherent row) {id : Uuid}
    (pays : row.paysFor .minecraftServer id = true)
    : row.serverId = some id := by
  obtain ⟨named, only, carried⟩ := coherent.named
  cases only (.minecraftServer, id) pays
  exact carried rfl

-- What a deletion leaves

/-- The identifiers in the table of a kind. -/
def storedIds (db : Database) : ResourceType → List Uuid
  | .minecraftServer => db.servers.rows.map Server.id
  | .appDeployment => db.appDeployments.rows.map AppDeployment.id
  | .databaseInstance => db.databaseInstances.rows.map DatabaseInstance.id

theorem billable_eq_none {db : Database} {resource : Resource}
    : getBillableResource db resource.1 resource.2 = none
      ↔ resource.2 ∉ storedIds db resource.1 := by
  obtain ⟨kind, id⟩ := resource
  cases kind <;> simp only [getBillableResource, storedIds, Option.map_eq_none_iff,
    Table.get?_eq_none]

/-- None of the resources is stored. -/
def Gone (deleted : List Resource) (db : Database) : Prop :=
  ∀ resource ∈ deleted, getBillableResource db resource.1 resource.2 = none

/-- A deletion takes one identifier out of the tables. -/
structure Removes (resource : Resource) (db next : Database) : Prop where
  fewer : ∀ kind, storedIds next kind ⊆ storedIds db kind
  removed : resource.2 ∉ storedIds next resource.1

theorem Removes.gone {resource : Resource} {db next : Database} {deleted : List Resource}
    (removes : Removes resource db next) (gone : Gone deleted db)
    : Gone (resource :: deleted) next := by
  intro other member
  rw [billable_eq_none]
  rcases List.mem_cons.mp member with rfl | earlier
  · exact removes.removed
  · intro stored
    exact billable_eq_none.mp (gone other earlier) (removes.fewer other.1 stored)

theorem keys_without {Row : Type} {key : Row → Uuid} (table : Table key) (id : Uuid)
    : (table.filter (fun row => key row ≠ id)).rows.map key ⊆ table.rows.map key
      ∧ id ∉ (table.filter (fun row => key row ≠ id)).rows.map key := by
  rw [Table.rows_filter]
  refine ⟨List.map_subset key (List.filter_subset_self _), ?_⟩
  simp

/-- Each row comes from a stored one; where types are compared as texts, one that matched is no
longer live.
-/
theorem cancelBilling_rows (dialect : Dialect) (now : Instant) (resourceType : String)
    (resourceId : Uuid) (db : Database)
    : ∀ row ∈ (cancelBilling dialect now resourceType resourceId db).subscriptions.rows,
        ∃ old ∈ db.subscriptions.rows,
          Follows old row
          ∧ (dialect = .postgresql → old.resourceType.map typeText = some resourceType
            → old.resourceId = some resourceId → row.live = false) := by
  intro row member
  cases dialect with
  | sqlite => exact ⟨row, member, .refl row, (nomatch ·)⟩
  | postgresql =>
      change row ∈ (db.subscriptions.update _).rows at member
      rw [Table.rows_update] at member
      obtain ⟨old, stored, rfl⟩ := List.mem_map.mp member
      refine ⟨old, stored, ?_⟩
      by_cases chosen : old ∈ db.subscriptions.rows.filter (fun row =>
          row.resourceType.map typeText = some resourceType && row.resourceId = some resourceId)
      · simp only [Change.when, decide_eq_true chosen, if_true]
        exact ⟨⟨names_cancelRow now old, by simp⟩, fun _ _ _ => live_cancelRow now old⟩
      · simp only [Change.when, decide_eq_false chosen, Bool.false_eq_true, if_false]
        refine ⟨.refl old, ?_⟩
        intro _ kind id
        exact absurd (List.mem_filter.mpr ⟨stored, by simp [kind, id]⟩) chosen

/-- By the dialect: on SQLite the query raises, and nothing is cancelled. -/
theorem cancelBilling_frame (dialect : Dialect) (now : Instant) (resourceType : String)
    (resourceId : Uuid) (db : Database)
    : ∃ subscriptions,
        cancelBilling dialect now resourceType resourceId db = { db with subscriptions } := by
  cases dialect with
  | sqlite => exact ⟨db.subscriptions, rfl⟩
  | postgresql => exact ⟨_, rfl⟩

/-- What a deletion that succeeds has checked and removed, by its branches in order. -/
theorem deleteServer_ok {dialect : Dialect} {settings : Settings} {now : Instant} {user : User}
    {serverId : Uuid} {db next : Database}
    (done : deleteServer dialect settings now user serverId db = .ok next)
    : (∃ server, getServerForUser db serverId user "start_stop" = .ok server)
      ∧ (dialect = .postgresql → ControlPlane.serverReferenced db serverId = false)
      ∧ next.subscriptions = db.subscriptions
      ∧ Removes (.minecraftServer, serverId) db next := by
  unfold deleteServer at done
  cases granted : getServerForUser db serverId user "start_stop" with
  | error refusal => simp [granted] at done
  | ok server =>
      have same : server.id = serverId :=
        (Table.get?_some (ControlPlane.getServerForUser_ok granted)).2
      subst same
      simp only [granted] at done
      split at done
      · cases done
      · rename_i free
        cases done
        obtain ⟨fewer, removed⟩ := keys_without db.servers server.id
        refine ⟨⟨server, rfl⟩, ?_, ?_, ?_, ?_⟩
        · rintro rfl
          simpa using free
        · cases server.nodeId <;> rfl
        · intro kind
          cases kind <;> cases server.nodeId <;> first | exact fewer | exact fun _ => id
        · cases server.nodeId <;> exact removed

theorem deleteDeployment_ok {dialect : Dialect} {now : Instant} {user : User}
    {deploymentId : Uuid} {db : Database} {answer : Deleted}
    (done : deleteDeployment dialect now user deploymentId db = .ok answer)
    : (∃ deployment, getDeployment db deploymentId user = .ok deployment)
      ∧ answer.db.subscriptions
        = (cancelBilling dialect now "app_deployment" deploymentId db).subscriptions
      ∧ Removes (.appDeployment, deploymentId) db answer.db := by
  unfold deleteDeployment at done
  cases found : getDeployment db deploymentId user with
  | error refusal => simp [found] at done
  | ok dep =>
      obtain ⟨_, rfl⟩ := getDeployment_ok found
      simp only [found] at done
      cases done
      obtain ⟨subscriptions, cancelled⟩ :=
        cancelBilling_frame dialect now "app_deployment" dep.id db
      obtain ⟨fewer, removed⟩ := keys_without db.appDeployments dep.id
      refine ⟨⟨dep, rfl⟩, rfl, ?_, ?_⟩
      · intro kind
        simp only [cancelled]
        cases kind <;> first | exact fewer | exact fun _ => id
      · simp only [cancelled]
        exact removed

theorem getDatabase_ok {databaseId : Uuid} {user : User} {db : Database}
    {found : DatabaseInstance}
    (permitted : getDatabase db databaseId user = .ok found)
    : found.id = databaseId := by
  unfold getDatabase at permitted
  split at permitted
  · cases permitted
  · rename_i row known
    split at permitted
    · cases permitted
    · split at permitted
      · cases permitted
        exact (Table.get?_some known).2
      · cases permitted

theorem answer_ok {answer : Except HttpError Deleted} {db : Database}
    (done : answer.map Deleted.db = .ok db)
    : ∃ deleted, answer = .ok deleted ∧ deleted.db = db := by
  cases answer with
  | error refusal => cases done
  | ok deleted => exact ⟨deleted, rfl, Except.ok.inj done⟩

/-- Its cancellation looks for rows of type `database`, by its branches in order. -/
theorem deleteDatabase_ok {dialect : Dialect} {now : Instant} {user : User} {databaseId : Uuid}
    {db : Database} {answer : Deleted}
    (done : deleteDatabase dialect now user databaseId db = .ok answer)
    : (∃ found, getDatabase db databaseId user = .ok found)
      ∧ answer.db.subscriptions
        = (cancelBilling dialect now "database" databaseId db).subscriptions
      ∧ Removes (.databaseInstance, databaseId) db answer.db := by
  unfold deleteDatabase at done
  cases found : getDatabase db databaseId user with
  | error refusal => simp [found] at done
  | ok instance_ =>
      obtain ⟨_, rfl⟩ := getDatabase_ok found
      simp only [found] at done
      cases done
      obtain ⟨subscriptions, cancelled⟩ :=
        cancelBilling_frame dialect now "database" instance_.id db
      obtain ⟨fewer, removed⟩ := keys_without db.databaseInstances instance_.id
      refine ⟨⟨instance_, rfl⟩, rfl, ?_, ?_⟩
      · intro kind
        simp only [cancelled]
        cases kind <;> first | exact fewer | exact fun _ => id
      · simp only [cancelled]
        exact removed

end Blockhost.Deletions
