import Blockhost.Database.Schema

/-! The control plane's database with what it governs: the processes and the disks of the nodes,
the migration snapshots, the caches of the routers, and requests that reach a node only after
their caller has given up.
-/

namespace Blockhost

open Library

inductive NodeRequest where
  | start (serverId : Uuid)
  | stop (serverId : Uuid)
  | backup (serverId : Uuid)
  | restore (serverId : Uuid)
  | purge (serverId : Uuid)
  | haltAll
deriving DecidableEq, Repr

/-- How a call ends: with the agent's answer, before it reached the agent, after its effect, or
with the request still on its way.
-/
inductive Reply where
  | answered
  | refused
  | unanswered
  | delayed
deriving DecidableEq, Repr

def Reply.reaches : Reply → Bool
  | .answered | .unanswered => true
  | .refused | .delayed => false

/-- The two processes of the control plane that route calls, each with a cache of its own: the
API and the game proxy.
-/
inductive Router where
  | api
  | proxy
deriving DecidableEq, Repr

structure Fleet (World : Type) where
  db : Database
  processes : List (Uuid × Uuid) := []
  disks : Uuid → Uuid → Option World := fun _ _ => none
  snapshots : Uuid → Option World := fun _ => none
  routes : Router → Uuid → Option (Option Uuid × Instant) := fun _ _ => none
  delayed : List (Uuid × NodeRequest) := []
  migrationTimes : List Instant := []
  clock : Instant := 0

variable {World : Type}

def Fleet.Live (fleet : Fleet World) (nodeId serverId : Uuid) : Prop :=
  (nodeId, serverId) ∈ fleet.processes

instance (fleet : Fleet World) (nodeId serverId : Uuid) : Decidable (fleet.Live nodeId serverId) :=
  inferInstanceAs (Decidable (_ ∈ _))

def Fleet.endProcess (nodeId serverId : Uuid) (fleet : Fleet World) : Fleet World :=
  { fleet with
    processes := fleet.processes.filter (fun process => process ≠ (nodeId, serverId)) }

/-- Replace a server's directory on a node. -/
def Fleet.writeDisk (nodeId serverId : Uuid) (content : Option World) (fleet : Fleet World)
    : Fleet World :=
  { fleet with
    disks := fun node server =>
      if node = nodeId ∧ server = serverId then content else fleet.disks node server }

def Fleet.writeSnapshot (serverId : Uuid) (content : Option World) (fleet : Fleet World)
    : Fleet World :=
  { fleet with
    snapshots := fun server => if server = serverId then content else fleet.snapshots server }

def Fleet.withDb (fleet : Fleet World) (db : Database) : Fleet World := { fleet with db }

def Fleet.atTime (fleet : Fleet World) (now : Instant) : Fleet World :=
  { fleet with clock := now }

/-- A transaction that raises leaves the database alone. -/
def Fleet.commit {Error Result : Type} (fleet : Fleet World)
    (outcome : Except Error (Database × Result))
    : Fleet World × Except Error Result :=
  match outcome with
  | .error failure => (fleet, .error failure)
  | .ok (next, result) => (fleet.withDb next, .ok result)

def Fleet.commitOnly {Error : Type} (fleet : Fleet World) (outcome : Except Error Database)
    : Fleet World × Except Error Unit :=
  fleet.commit (outcome.map (fun next => (next, ())))

/-- What an agent does, and whether it succeeds. A start makes a missing directory; a backup
needs one, and a restore needs a snapshot.
-/
def serveRequest (freshWorld : World) (nodeId : Uuid) (fleet : Fleet World)
    : NodeRequest → Fleet World × Bool
  | .start serverId =>
      ({ fleet.writeDisk nodeId serverId
            (some ((fleet.disks nodeId serverId).getD freshWorld)) with
          processes := (nodeId, serverId) :: fleet.processes },
        true)
  | .stop serverId => (fleet.endProcess nodeId serverId, true)
  | .backup serverId =>
      match fleet.disks nodeId serverId with
      | none => (fleet, false)
      | some content => (fleet.writeSnapshot serverId (some content), true)
  | .restore serverId =>
      match fleet.snapshots serverId with
      | none => (fleet, false)
      | some content => (fleet.writeDisk nodeId serverId (some content), true)
  | .purge serverId => ((fleet.endProcess nodeId serverId).writeDisk nodeId serverId none, true)
  | .haltAll =>
      ({ fleet with processes := fleet.processes.filter (fun process => process.1 ≠ nodeId) },
        true)

/-- A call of an agent, and whether its caller gets a good answer. -/
def callAgent (freshWorld : World) (reply : Reply) (nodeId : Uuid) (request : NodeRequest)
    (fleet : Fleet World)
    : Fleet World × Bool :=
  match reply with
  | .answered => serveRequest freshWorld nodeId fleet request
  | .refused => (fleet, false)
  | .unanswered => ((serveRequest freshWorld nodeId fleet request).1, false)
  | .delayed => ({ fleet with delayed := fleet.delayed ++ [(nodeId, request)] }, false)

/-- A delayed request reaches its agent. -/
def deliverDelayed (freshWorld : World) (index : Nat) (fleet : Fleet World) : Fleet World :=
  match fleet.delayed[index]? with
  | none => fleet
  | some (nodeId, request) =>
      let served := (serveRequest freshWorld nodeId fleet request).1
      { served with delayed := served.delayed.eraseIdx index }

def serverNode (db : Database) (serverId : Uuid) : Option Uuid :=
  (db.servers.get? serverId).bind Server.nodeId

/-- The known node of a server; none stands for the local runtime. -/
def routedNode (db : Database) (serverId : Uuid) : Option Uuid :=
  (serverNode db serverId).bind (fun nodeId =>
    (db.nodes.get? nodeId).map Node.id)

def routeCacheTtl : Instant := seconds 10

/-- `_get_runtime` of a router: a cached route is used until it expires. -/
def routeServer (router : Router) (now : Instant) (serverId : Uuid) (fleet : Fleet World)
    : Fleet World × Option Uuid :=
  let looked := routedNode fleet.db serverId
  let refreshed : Fleet World :=
    { fleet with
      routes := fun process server =>
        if process = router ∧ server = serverId then some (looked, now + routeCacheTtl)
        else fleet.routes process server }
  match fleet.routes router serverId with
  | none => (refreshed, looked)
  | some (node, expiry) => if now < expiry then (fleet, node) else (refreshed, looked)

def forgetRoute (router : Router) (serverId : Uuid) (fleet : Fleet World) : Fleet World :=
  { fleet with
    routes := fun process server =>
      if process = router ∧ server = serverId then none else fleet.routes process server }

-- What requests leave alone

@[simp] theorem serveRequest_db (freshWorld : World) (nodeId : Uuid) (fleet : Fleet World)
    (request : NodeRequest)
    : (serveRequest freshWorld nodeId fleet request).1.db = fleet.db := by
  cases request with
  | backup serverId => simp only [serveRequest]; split <;> rfl
  | restore serverId => simp only [serveRequest]; split <;> rfl
  | _ => rfl

@[simp] theorem callAgent_db (freshWorld : World) (reply : Reply) (nodeId : Uuid)
    (request : NodeRequest) (fleet : Fleet World)
    : (callAgent freshWorld reply nodeId request fleet).1.db = fleet.db := by
  cases reply with
  | answered => exact serveRequest_db ..
  | unanswered => exact serveRequest_db ..
  | refused => rfl
  | delayed => rfl

@[simp] theorem deliverDelayed_db (freshWorld : World) (index : Nat) (fleet : Fleet World)
    : (deliverDelayed freshWorld index fleet).db = fleet.db := by
  unfold deliverDelayed
  split
  · rfl
  · exact serveRequest_db ..

@[simp] theorem routeServer_db (router : Router) (now : Instant) (serverId : Uuid)
    (fleet : Fleet World)
    : (routeServer router now serverId fleet).1.db = fleet.db := by
  unfold routeServer
  dsimp only
  split
  · rfl
  · split <;> rfl

@[simp] theorem routeServer_processes (router : Router) (now : Instant) (serverId : Uuid)
    (fleet : Fleet World)
    : (routeServer router now serverId fleet).1.processes = fleet.processes := by
  unfold routeServer
  dsimp only
  split
  · rfl
  · split <;> rfl

@[simp] theorem routeServer_disks (router : Router) (now : Instant) (serverId : Uuid)
    (fleet : Fleet World)
    : (routeServer router now serverId fleet).1.disks = fleet.disks := by
  unfold routeServer
  dsimp only
  split
  · rfl
  · split <;> rfl

@[simp] theorem routeServer_snapshots (router : Router) (now : Instant) (serverId : Uuid)
    (fleet : Fleet World)
    : (routeServer router now serverId fleet).1.snapshots = fleet.snapshots := by
  unfold routeServer
  dsimp only
  split
  · rfl
  · split <;> rfl

theorem callAgent_snapshots {request : NodeRequest}
    (other : ∀ serverId, request ≠ .backup serverId) (freshWorld : World) (reply : Reply)
    (nodeId : Uuid) (fleet : Fleet World)
    : (callAgent freshWorld reply nodeId request fleet).1.snapshots = fleet.snapshots := by
  have served : (serveRequest freshWorld nodeId fleet request).1.snapshots = fleet.snapshots := by
    cases request with
    | backup serverId => exact absurd rfl (other serverId)
    | restore serverId => simp only [serveRequest]; split <;> rfl
    | _ => rfl
  cases reply with
  | answered => exact served
  | unanswered => exact served
  | refused => rfl
  | delayed => rfl

end Blockhost
