import Blockhost.Api.NodeRoster
import Blockhost.Api.SuspensionRuns
import Blockhost.Library.Program
import Blockhost.Orchestrator.Fleet
import Blockhost.Services.RebalanceTransactions

/-! The actions of the control plane: each is one database transaction, one call of an agent, or
one step of a router. The handlers are programs over these actions.
-/

namespace Blockhost.ControlPlane

open Library

/-- What the control plane is configured with. -/
structure Site where
  settings : Settings := {}
  serversDir : String := "servers"
  functions : SessionFunctions
  s3Missing : List String := []

/-- What an action learns from outside: the time, how a call ends, which ports the host has
free, whether a lookup or a cloud provider succeeds, and the world that a new directory gets.
-/
structure Outside (World : Type) where
  now : Instant
  reply : Reply := .answered
  tests : PortTests := {}
  succeeds : Bool := true
  diskRefusal : Option HttpError := none
  freshWorld : World

inductive FleetAction where
  | serverForUser (user : User) (serverId : Uuid) (requiredPermission : String)
  | loadServer (serverId : Uuid)
  | loadNode (nodeId : Uuid)
  | createServer (user : User) (payload : CreateServerRequest)
  | checkNode (server : Server)
  | assignNode (server : Server)
  | wakeUpNode
  | prepare (server : Server)
  | touch (serverId : Uuid)
  | checkLaunch (serverId : Uuid)
  | route (router : Router) (serverId : Uuid)
  | routeStart (router : Router) (serverId : Uuid)
  | call (nodeId : Uuid) (request : NodeRequest)
  | askStatus (nodeId serverId : Uuid)
  | finishStart (serverId : Uuid)
  | suspend (serverId : Uuid)
  | reconcileRunning (serverId : Uuid)
  | refreshRam (nodeId : Uuid)
  | checkMigration (server : Server)
  | moveToMigrationNode (serverId oldNode : Uuid)
  | moveBack (serverId : Uuid) (oldNode : Node)
  | forgetRoute (router : Router) (serverId : Uuid)
  | markMigrated (serverId : Uuid)
  | recordMigration
  | deleteSnapshot (serverId : Uuid)
  | healthyNodes
  | rescueOrphans (nodeId : Uuid)
  | rescueDeployments (nodeId : Uuid)
  | mayMigrate
  | consolidation (nodes : List Uuid)
  | overflow (nodes : List Uuid)
  | reassign (serverId : Uuid) (target : Node)
  | onlineNodes
  | shutDown (nodeId : Uuid) (allOnline : List Uuid)
  | admitSession (token : String) (request : RegisterRequest)
  | completeAdmission (request : RegisterRequest) (node : Node)
  | heartbeat (nodeId : Uuid) (received : Received)
  | cleanUp (nodeName : Json)
  | drain (nodeId : Uuid)
  | undrain (nodeId : Uuid)
  | overdueServers
  | sweep (time : Instant)
  | paddle (delivery : PaddleDelivery)
  | endProcess (nodeId serverId : Uuid)
  | deliver (index : Nat)

@[reducible] def FleetAnswer : FleetAction → Type
  | .serverForUser .. => Except Raised Server
  | .loadServer _ => Option Server
  | .loadNode _ => Option Node
  | .createServer .. => Except Raised Unit
  | .checkNode _ => Except Raised NodeCheck
  | .assignNode _ => Except Raised Bool
  | .wakeUpNode => Bool
  | .prepare _ => Except Raised Unit
  | .touch _ => Unit
  | .checkLaunch _ => Except Raised Server
  | .route .. | .routeStart .. => Option Uuid
  | .call .. => Bool
  | .askStatus .. => Bool
  | .finishStart _ | .suspend _ | .reconcileRunning _ | .refreshRam _ => Unit
  | .checkMigration _ => Except Raised Unit
  | .moveToMigrationNode .. => Except Raised Node
  | .moveBack .. => Except Raised Unit
  | .forgetRoute .. | .markMigrated _ | .recordMigration | .deleteSnapshot _ => Unit
  | .healthyNodes => List Uuid
  | .rescueOrphans _ => Except Raised Unit
  | .rescueDeployments _ => Unit
  | .mayMigrate => Bool
  | .consolidation _ => Option MigrationChoice
  | .overflow _ => OverflowChoice
  | .reassign .. => Except Raised Bool
  | .onlineNodes => List Uuid
  | .shutDown .. => Except Raised Unit
  | .admitSession .. => Except Ending Node
  | .completeAdmission .. => Unit
  | .heartbeat .. => Except Ending Unit
  | .cleanUp _ => Unit
  | .drain _ | .undrain _ => Except HttpError Unit
  | .overdueServers => Instant × List Uuid
  | .sweep _ | .paddle _ | .endProcess .. | .deliver _ => Unit

variable {World : Type}

/-- The answer of a node about a process; any failure counts as not running. -/
def askStatus (reply : Reply) (nodeId serverId : Uuid) (fleet : Fleet World) : Bool :=
  reply = .answered && decide (fleet.Live nodeId serverId)

def performAction (site : Site) (action : FleetAction) (outside : Outside World)
    (fleet : Fleet World)
    : Fleet World × FleetAnswer action :=
  let db := fleet.db
  let now := outside.now
  match action with
  | .serverForUser user serverId requiredPermission =>
      (fleet, (getServerForUser db serverId user requiredPermission).mapError .http)
  | .loadServer serverId => (fleet, db.servers.get? serverId)
  | .loadNode nodeId => (fleet, db.nodes.get? nodeId)
  | .createServer user payload =>
      let created :=
        createPlacedServer site.settings site.serversDir outside.tests outside.diskRefusal
          outside.succeeds now user payload db
      (fleet.withDb created.1, created.2)
  | .checkNode server => fleet.commit (checkStartNode site.settings now server db)
  | .assignNode server => fleet.commit (assignBestNode site.settings now outside.tests server db)
  | .wakeUpNode =>
      let woken := autoWakeupOfflineNode now outside.succeeds db
      (fleet.withDb woken.1, woken.2)
  | .prepare server =>
      fleet.commitOnly
        (prepareServerForStart site.settings site.serversDir outside.tests outside.succeeds
          server db)
  | .touch serverId =>
      (fleet.withDb
        (changeServer serverId { apply := fun server => { server with lastActivity := now } } db),
        ())
  | .checkLaunch serverId =>
      (fleet, checkLaunch site.settings now outside.succeeds serverId db)
  | .route router serverId => routeServer router now serverId fleet
  | .routeStart router serverId => routeServer router now serverId fleet
  | .call nodeId request => callAgent outside.freshWorld outside.reply nodeId request fleet
  | .askStatus nodeId serverId => (fleet, askStatus outside.reply nodeId serverId fleet)
  | .finishStart serverId =>
      (fleet.withDb (changeServer serverId (markRunning site.settings) db), ())
  | .suspend serverId =>
      (fleet.withDb (changeServer serverId (setServerState .suspended) db), ())
  | .reconcileRunning serverId =>
      (fleet.withDb (changeServer serverId (setServerState .running) db), ())
  | .refreshRam nodeId =>
      (fleet.withDb (refreshNodeAllocatedRam site.settings now nodeId db), ())
  | .checkMigration server =>
      (fleet, checkMigration site.settings now site.s3Missing fleet.migrationTimes server)
  | .moveToMigrationNode serverId oldNode =>
      fleet.commit (moveToMigrationNode site.settings now serverId oldNode db)
  | .moveBack serverId oldNode => fleet.commitOnly (moveBack serverId oldNode db)
  | .forgetRoute router serverId => (forgetRoute router serverId fleet, ())
  | .markMigrated serverId =>
      (fleet.withDb (changeServer serverId (markServerMigrated now) db), ())
  | .recordMigration => ({ fleet with migrationTimes := fleet.migrationTimes ++ [now] }, ())
  | .deleteSnapshot serverId =>
      (if outside.reply = .answered || outside.reply = .unanswered then
          fleet.writeSnapshot serverId none
        else fleet,
        ())
  | .healthyNodes => (fleet, (healthyOnlineNodes db now).map Node.id)
  | .rescueOrphans nodeId =>
      fleet.commitOnly
        (match db.nodes.get? nodeId with
        | none => .error .exception
        | some node => rescueOrphans site.settings outside.tests node db)
  | .rescueDeployments nodeId =>
      (fleet.withDb
        ((db.nodes.get? nodeId).elim db (fun node => rescueDeployments node db)), ())
  | .mayMigrate => (fleet, canRunMigrationNow site.settings now fleet.migrationTimes)
  | .consolidation nodes =>
      (fleet, consolidation site.settings db now (currentNodes db nodes))
  | .overflow nodes =>
      (fleet, overflow site.settings db now (currentNodes db nodes) (currentNodes db nodes))
  | .reassign serverId target =>
      fleet.commit (reassignServer site.settings outside.tests serverId target db)
  | .onlineNodes =>
      (fleet, (db.nodes.rows.filter (fun node => node.status = .online)).map Node.id)
  | .shutDown nodeId allOnline =>
      fleet.commitOnly
        (shutDownIdleNode site.settings outside.tests outside.succeeds nodeId allOnline db)
  | .admitSession token request =>
      let admitted := admitSession site.functions site.settings now token request db
      (fleet.withDb admitted.1, admitted.2)
  | .completeAdmission request node =>
      (fleet.withDb (completeAdmission site.settings now request node db), ())
  | .heartbeat nodeId received =>
      fleet.commitOnly (receiveMessage site.functions site.settings nodeId received db)
  | .cleanUp nodeName => (fleet.withDb (cleanUpSession nodeName db), ())
  | .drain nodeId => fleet.commitOnly (drainNode nodeId db)
  | .undrain nodeId => fleet.commitOnly (undrainNode now nodeId db)
  | .overdueServers => (fleet, (now, suspendedServers site.settings now db))
  | .sweep time =>
      (fleet.withDb (processSubscriptionExpirations site.settings time db).1, ())
  | .paddle delivery => (fleet.withDb ({ delivery with time := now }.apply db), ())
  | .endProcess nodeId serverId => (fleet.endProcess nodeId serverId, ())
  | .deliver index => (deliverDelayed outside.freshWorld index fleet, ())

/-- Every action takes place at a time, which the clock shows afterwards. -/
def controlPlane (World : Type) (site : Site)
    : Machine FleetAction FleetAnswer (Outside World) (Fleet World) :=
  fun action outside fleet => performAction site action outside (fleet.atTime outside.now)

abbrev Handler (Result : Type) := Program FleetAction FleetAnswer Raised Result

def ask (action : FleetAction) : Handler (FleetAnswer action) := Program.perform action

/-- An outcome that may be an exception. -/
def raising {Result : Type} : Except Raised Result → Handler Result
  | .error failure => throw failure
  | .ok result => pure result

def existing {Row : Type} : Option Row → Handler Row
  | none => throw .exception
  | some row => pure row

end Blockhost.ControlPlane
