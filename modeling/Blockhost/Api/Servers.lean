import Blockhost.Api.Schemas
import Blockhost.Database.Identifiers
import Blockhost.Services.Billing
import Blockhost.Services.NodePlacement

/-! Creation of servers with their free trial, and updates of a server's configuration. -/

namespace Blockhost

open Library

def getServerForUser (db : Database) (serverId : Uuid) (user : User)
    (requiredPermission : String)
    : Except HttpError Server :=
  match db.servers.get? serverId with
  | none => .error ⟨404, "Server not found"⟩
  | some server =>
      if server.ownerId = user.id then .ok server
      else
        match db.serverCollaborators.rows.find? (fun collaborator =>
            collaborator.serverId = server.id && collaborator.userId = user.id) with
        | none => .error ⟨404, "Server not found"⟩
        | some collaborator =>
            if requiredPermission ∈ collaborator.permissions then .ok server
            else .error ⟨403, "Missing required permission: " ++ requiredPermission⟩

def serverDirText (serversDir : String) (serverId : Uuid) : String :=
  serversDir ++ "/" ++ uuidText serverId

def newServer (serversDir : String) (now : Instant) (user : User)
    (payload : CreateServerRequest) (node : Option Node) (id : Uuid)
    : Server where
  id := id
  nodeId := node.map Node.id
  ownerId := user.id
  worldName := payload.worldName
  state := .created
  vmIpv4 := node.map Node.ipAddress
  mcConfig :=
    {
      levelName := payload.config.bind (fun config => config.levelName.map Subtype.val),
      serverDir := some (serverDirText serversDir id)
    }
  flavor := payload.flavor
  mcVersion := payload.mcVersion
  lastActivity := now

def trialSubscription (now : Instant) (server : Server) (plan : BillingPlan) (id : Uuid)
    : BillingSubscription where
  id := id
  userId := server.ownerId
  serverId := some server.id
  planId := plan.id
  startsAt := now
  expiresAt := now + days 7
  status := .active
  createdAt := now
  updatedAt := now

def freePlan (db : Database) : Option BillingPlan :=
  db.plans.rows.find? (fun plan => plan.price = 0 && plan.active)

def grantTrial (now : Instant) (server : Server) (plan : BillingPlan) (db : Database)
    : Database :=
  { db with
    subscriptions := db.subscriptions.create ⟨trialSubscription now server plan, fun _ => rfl⟩
    servers := db.servers.modify server.id (applyPlanLimitsToServer plan) }

def addServer (serversDir : String) (now : Instant) (user : User)
    (payload : CreateServerRequest) (node : Option Node) (db : Database)
    : Database :=
  { db with
    servers := db.servers.create ⟨newServer serversDir now user payload node, fun _ => rfl⟩ }

/-- A user below the limit on servers may create another one. -/
def serverLimitReached (settings : Settings) (db : Database) (user : User) : Bool :=
  0 < settings.maxServersPerUser
  && settings.maxServersPerUser
    ≤ (db.servers.rows.filter (fun server => server.ownerId = user.id)).length

/-- Add a server and, when there is a free plan, its trial. Without a plan and without a node
nothing is committed. `placement` is the chosen node, or the refusal of a disk check, of the
node choice or of a port allocation.
-/
def createServer (settings : Settings) (serversDir : String) (db : Database) (now : Instant)
    (user : User) (payload : CreateServerRequest) (placement : Except HttpError (Option Node))
    : Except HttpError Database :=
  if serverLimitReached settings db user then
    .error ⟨403, "Server limit reached (" ++ toString settings.maxServersPerUser
      ++ "). Delete an existing server or contact support."⟩
  else
    match placement with
    | .error refusal => .error refusal
    | .ok node =>
        let server := newServer serversDir now user payload node db.servers.freshKey
        let added := addServer serversDir now user payload node db
        match freePlan db, server.nodeId with
        | none, none => .ok db
        | none, some nodeId => .ok (refreshNodeAllocatedRam settings now nodeId added)
        | some plan, none => .ok (grantTrial now server plan added)
        | some plan, some nodeId =>
            .ok (refreshNodeAllocatedRam settings now nodeId (grantTrial now server plan added))

theorem createServer_ok {settings : Settings} {serversDir : String} {db next : Database}
    {now : Instant} {user : User} {payload : CreateServerRequest}
    {placement : Except HttpError (Option Node)}
    (created : createServer settings serversDir db now user payload placement = .ok next)
    : next = db
      ∨ (next.servers.rows.map Server.id
            = db.servers.rows.map Server.id ++ [db.servers.freshKey]
          ∧ next.plans = db.plans
          ∧ next.transactions = db.transactions
          ∧ (next.subscriptions = db.subscriptions
            ∨ ∃ server plan,
                server.id = db.servers.freshKey
                ∧ next.subscriptions.rows
                  = db.subscriptions.rows
                    ++ [trialSubscription now server plan db.subscriptions.freshKey])) := by
  unfold createServer at created
  split at created
  · contradiction
  · split at created
    · contradiction
    · dsimp only at created
      split at created <;> cases created
      · exact .inl rfl
      · exact .inr ⟨Table.keys_create _ _, rfl, rfl, .inl rfl⟩
      · refine .inr ⟨?_, rfl, rfl, .inr ⟨_, _, rfl, rfl⟩⟩
        exact (Table.keys_modify _ _ _).trans (Table.keys_create _ _)
      · refine .inr ⟨?_, rfl, rfl, .inr ⟨_, _, rfl, rfl⟩⟩
        exact (Table.keys_modify _ _ _).trans (Table.keys_create _ _)

end Blockhost
