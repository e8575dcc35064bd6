import Blockhost.Orchestrator.Resources

/-! The memory accounting of a node and the failover of its servers. -/

namespace Blockhost

def ServerState.reservesRam : ServerState → Bool
  | .provisioning | .running | .syncing => true
  | _ => false

def DeploymentState.reservesRam : DeploymentState → Bool
  | .building | .running => true
  | _ => false

/-- The memory of the active workloads of a node. -/
def computeNodeAllocatedRamMb (settings : Settings) (db : Database) (now : Instant)
    (nodeId : Uuid)
    : Int :=
  let servers :=
    db.servers.rows.filter
      (fun server => server.nodeId = some nodeId && server.state.reservesRam)
  let deployments :=
    db.appDeployments.rows.filter (fun deployment =>
      deployment.nodeId = some nodeId && deployment.state.reservesRam)
  let reserved :=
    servers.foldl
      (fun total server =>
        total + (getEffectiveServerResourceLimits settings db now server.id).ramMb)
      0
  deployments.foldl (fun total deployment => total + deployment.ramLimitMb) reserved

/-- Store the computed memory in the node's row. -/
def refreshNodeAllocatedRam (settings : Settings) (now : Instant) (nodeId : Uuid)
    (db : Database)
    : Database :=
  let usedRamMb := computeNodeAllocatedRamMb settings db now nodeId
  { db with nodes := db.nodes.modify nodeId { apply := fun node => { node with usedRamMb } } }

def runningServersOnNode (db : Database) (nodeId : Uuid) : List Server :=
  db.servers.rows.filter (fun server => server.nodeId = some nodeId && server.state = .running)

/-- Failover of a node. A node without running servers needs none. For any other node the
function first imports `get_deployment_lifecycle_orchestrator`, which the lifecycle module does
not define, so it raises before it stops anything.
-/
def suspendRunningServersOnNode (db : Database) (nodeId : Uuid) : Except String (List Uuid) :=
  match runningServersOnNode db nodeId with
  | [] => .ok []
  | _ => .error "cannot import name 'get_deployment_lifecycle_orchestrator'"

end Blockhost

/-! The choice of a node for a server, by the memory that its active workloads leave free. -/

namespace Blockhost

open Library

def heartbeatStaleSeconds : Int := 120

def isNodeHeartbeatFresh (node : Node) (now : Instant) : Bool :=
  match node.lastHeartbeat with
  | none => false
  | some last => now - last ≤ seconds heartbeatStaleSeconds

/-- The memory of the running servers, of those being provisioned, and of the app deployments of
a node; unlike in `computeNodeAllocatedRamMb` a syncing server does not count.
-/
def placementRamMb (settings : Settings) (db : Database) (now : Instant) (nodeId : Uuid) : Int :=
  let servers :=
    db.servers.rows.filter (fun server =>
      server.nodeId = some nodeId
      && (server.state = .running || server.state = .provisioning))
  let deployments :=
    db.appDeployments.rows.filter (fun deployment =>
      deployment.nodeId = some nodeId && deployment.state.reservesRam)
  let active :=
    servers.foldl
      (fun total server =>
        total + (getEffectiveServerResourceLimits settings db now server.id).ramMb)
      0
  deployments.foldl (fun total deployment => total + deployment.ramLimitMb) active

/-- The candidate with the most free memory so far, the first one among equals. -/
structure BestNode where
  best : Option Node := none
  bestFree : Int := -1

/-- A candidate with enough memory replaces one with less. -/
def BestNode.offer (choice : BestNode) (required free : Int) (node : Node) : BestNode :=
  if free < required then choice
  else if choice.bestFree < free then ⟨some node, free⟩
  else choice

def considerNode (settings : Settings) (db : Database) (now : Instant) (requiredRamMb : Int)
    (choice : BestNode) (node : Node)
    : BestNode :=
  if isNodeHeartbeatFresh node now then
    choice.offer requiredRamMb (node.totalRamMb - placementRamMb settings db now node.id) node
  else choice

/-- `select_best_node`, for nodes of a tier. -/
def selectBestNodeOfTier (settings : Settings) (db : Database) (now : Instant)
    (requiredRamMb : Int) (requiredTier : NodeTier)
    : Option Node :=
  let candidates :=
    db.nodes.rows.filter (fun node => node.status = .online && node.tier = requiredTier)
  let choice := candidates.foldl (considerNode settings db now requiredRamMb) {}
  if choice.bestFree < 512 then none else choice.best

/-- `select_best_node` with its default tier. -/
def selectBestNode (settings : Settings) (db : Database) (now : Instant) (requiredRamMb : Int)
    : Option Node :=
  selectBestNodeOfTier settings db now requiredRamMb .shared

def autoWakeupOfflineNode (now : Instant) (providerStarts : Bool) (db : Database)
    : Database × Bool :=
  if db.nodes.rows.any (fun node => node.status = .starting) then (db, true)
  else
    match db.nodes.rows.find? (fun node =>
        node.status = .offline && node.provider.isSome && node.providerInstanceId.isSome) with
    | none => (db, false)
    | some node =>
        if providerStarts then
          ({ db with
              nodes :=
                db.nodes.modify node.id
                  { apply := fun node =>
                      { node with status := .starting, statusUpdatedAt := now } } },
            true)
        else (db, false)

theorem BestNode.offer_best (choice : BestNode) (required free : Int) (node : Node)
    : choice.offer required free node = choice
      ∨ choice.offer required free node = ⟨some node, free⟩ := by
  unfold offer
  split
  · exact .inl rfl
  · split
    · exact .inr rfl
    · exact .inl rfl

/-- A fold of choices ends with the first choice or with a candidate that passed, by induction on
the candidates.
-/
theorem bestNode_foldl_passing {consider : BestNode → Node → BestNode} {passes : Node → Prop}
    (step : ∀ choice node, consider choice node = choice
      ∨ passes node ∧ (consider choice node).best = some node)
    (candidates : List Node) (choice : BestNode)
    : (candidates.foldl consider choice).best = choice.best
      ∨ ∃ node ∈ candidates, passes node
        ∧ (candidates.foldl consider choice).best = some node := by
  induction candidates generalizing choice with
  | nil => exact .inl rfl
  | cons candidate rest ih =>
      rw [List.foldl_cons]
      rcases ih (consider choice candidate) with kept | ⟨node, member, passed, chosen⟩
      · rcases step choice candidate with same | ⟨passed, taken⟩
        · rw [same] at kept ⊢
          exact .inl kept
        · exact .inr ⟨candidate, List.mem_cons_self, passed, kept.trans taken⟩
      · exact .inr ⟨node, List.mem_cons_of_mem _ member, passed, chosen⟩

theorem bestNode_foldl {consider : BestNode → Node → BestNode}
    (step : ∀ choice node, consider choice node = choice
      ∨ (consider choice node).best = some node)
    (candidates : List Node) (choice : BestNode)
    : (candidates.foldl consider choice).best = choice.best
      ∨ ∃ node ∈ candidates, (candidates.foldl consider choice).best = some node := by
  have passing := fun choice node => (step choice node).imp_right (And.intro trivial)
  rcases bestNode_foldl_passing passing candidates choice with kept | ⟨node, member, _, chosen⟩
  · exact .inl kept
  · exact .inr ⟨node, member, chosen⟩

theorem autoWakeupOfflineNode_cases (now : Instant) (providerStarts : Bool) (db : Database)
    : (autoWakeupOfflineNode now providerStarts db).1 = db
      ∨ ∃ node ∈ db.nodes.rows, node.status = .offline
        ∧ (autoWakeupOfflineNode now providerStarts db).1
          = { db with
              nodes :=
                db.nodes.modify node.id
                  { apply := fun node =>
                      { node with status := .starting, statusUpdatedAt := now } } } := by
  unfold autoWakeupOfflineNode
  split
  · exact .inl rfl
  · split
    · exact .inl rfl
    · rename_i node found
      have test := List.find?_some found
      simp only [Bool.and_eq_true, decide_eq_true_eq] at test
      split
      · exact .inr ⟨node, List.mem_of_find?_eq_some found, test.1.1, rfl⟩
      · exact .inl rfl

end Blockhost
