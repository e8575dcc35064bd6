import Blockhost.Api.ServerPlacement

/-! The database transactions of the node rebalancer: the rescue of orphaned servers, the choice
of a server to migrate, its new node and port, and the shutdown of idle nodes.
-/

namespace Blockhost

open Library

def healthyOnlineNodes (db : Database) (now : Instant) : List Node :=
  db.nodes.rows.filter (fun node => node.status = .online && isNodeHeartbeatFresh node now)

def leastActiveFirst (servers : List Server) : List Server :=
  servers.mergeSort (fun left right => left.lastActivity ≤ right.lastActivity)

def allServersOnNode (db : Database) (nodeId : Uuid) : List Server :=
  leastActiveFirst (db.servers.rows.filter (fun server => server.nodeId = some nodeId))

def replaceServer (settings : Settings) (tests : PortTests) (node : Node) (server : Server)
    (db : Database)
    : Except String Database :=
  match allocatePort settings tests db server.flavor (some node.id) with
  | .error failure => .error failure
  | .ok port => .ok (changeServer server.id (placeServer node port) db)

-- Phase 0

def orphanedServers (db : Database) : List Server :=
  let offlineIds := (db.nodes.rows.filter (fun node => node.status ≠ .online)).map Node.id
  db.servers.rows.filter (fun server =>
    match server.nodeId with
    | none => true
    | some nodeId => nodeId ∈ offlineIds)

/-- A failed allocation rolls the earlier rescues back. -/
def rescueServers (settings : Settings) (tests : PortTests) (node : Node) (db : Database)
    : List Server → Database → Database
  | [], current => current
  | server :: rest, current =>
      match replaceServer settings tests node server current with
      | .error _ => rescueServers settings tests node db rest db
      | .ok next => rescueServers settings tests node db rest next

def rescueOrphans (settings : Settings) (tests : PortTests) (node : Node) (db : Database)
    : Except Raised Database :=
  commitServers (rescueServers settings tests node db (orphanedServers db) db)

def rescueDeployments (node : Node) (db : Database) : Database :=
  let offlineIds := (db.nodes.rows.filter (fun node => node.status ≠ .online)).map Node.id
  { db with
    appDeployments :=
      db.appDeployments.update
        (Change.when { apply := fun deployment => { deployment with nodeId := some node.id } }
          (fun deployment =>
            match deployment.nodeId with
            | none => true
            | some nodeId => nodeId ∈ offlineIds)) }

-- Phases 1 and 2

/-- A server to migrate, the node it leaves and the node it goes to. -/
structure MigrationChoice where
  server : Server
  source : Node
  target : Node

def currentNodes (db : Database) (nodes : List Uuid) : List Node := nodes.filterMap db.nodes.get?

/-- The node with room for a server that has the most memory free. -/
def consolidationTarget (settings : Settings) (db : Database) (now : Instant) (source : Node)
    (nodes : List Node) (server : Server)
    : Option Node :=
  (nodes.foldl
    (fun choice node =>
      if node.id = source.id then choice
      else
        choice.offer (requiredRamMb settings db now server.id)
          (node.totalRamMb - computeNodeAllocatedRamMb settings db now node.id) node)
    ({} : BestNode)).best

def consolidation (settings : Settings) (db : Database) (now : Instant) (nodes : List Node)
    : Option MigrationChoice :=
  let sorted :=
    nodes.mergeSort (fun left right =>
      computeNodeAllocatedRamMb settings db now left.id
        ≤ computeNodeAllocatedRamMb settings db now right.id)
  match sorted with
  | [] => none
  | source :: _ =>
      (leastActiveFirst (runningServersOnNode db source.id)).findSome? (fun server =>
        if serverInMigrationCooldown settings now server then none
        else
          (consolidationTarget settings db now source sorted server).map (fun target =>
            { server, source, target }))

def nodeOverloadedRatio : Rat := 17 / 20

/-- The part of a node's memory that its active workloads use. -/
def nodeActiveRamRatio (settings : Settings) (db : Database) (now : Instant) (node : Node)
    : Rat :=
  if node.totalRamMb ≤ 0 then 1
  else (computeNodeAllocatedRamMb settings db now node.id : Rat) / (node.totalRamMb : Rat)

/-- The node below the overload ratio that has the most memory free. -/
def overflowTarget (settings : Settings) (db : Database) (now : Instant) (source : Node)
    (nodes : List Node)
    : Option Node :=
  (nodes.foldl
    (fun (choice : BestNode) node =>
      let free := node.totalRamMb - computeNodeAllocatedRamMb settings db now node.id
      if node.id = source.id then choice
      else if choice.bestFree < free
          && nodeActiveRamRatio settings db now node < nodeOverloadedRatio then
        ⟨some node, free⟩
      else choice)
    ({} : BestNode)).best

/-- What the second phase does. -/
inductive OverflowChoice where
  | nothing
  | noRoom
  | migrate (choice : MigrationChoice)

/-- The first overloaded node decides, unless all its servers are in their cooldown. -/
def overflow (settings : Settings) (db : Database) (now : Instant) (nodes : List Node)
    : List Node → OverflowChoice
  | [] => .nothing
  | node :: rest =>
      if nodeActiveRamRatio settings db now node < nodeOverloadedRatio then
        overflow settings db now nodes rest
      else
        match overflowTarget settings db now node nodes with
        | none => .noRoom
        | some target =>
            match (leastActiveFirst (runningServersOnNode db node.id)).find? (fun server =>
                !serverInMigrationCooldown settings now server) with
            | none => overflow settings db now nodes rest
            | some server => .migrate { server, source := node, target }

/-- A server gets a fresh port on its new node; without one it stays. -/
def reassignServer (settings : Settings) (tests : PortTests) (serverId : Uuid) (target : Node)
    (db : Database)
    : Except Raised (Database × Bool) :=
  match db.servers.get? serverId with
  | none => .error .exception
  | some server =>
      match replaceServer settings tests target server db with
      | .error _ => .ok (db, false)
      | .ok next => (commitServers next).map (fun next => (next, true))

-- Phase 3

def replaceServers (settings : Settings) (tests : PortTests) (target : Node)
    : List Server → Database → Except String Database
  | [], db => .ok db
  | server :: rest, db =>
      match replaceServer settings tests target server db with
      | .error failure => .error failure
      | .ok next => replaceServers settings tests target rest next

def setNodeStatus (status : NodeState) : Change Node.id where
  apply node := { node with status }

def remainingNodes (db : Database) (nodeId : Uuid) (allOnline : List Uuid) : List Node :=
  (currentNodes db allOnline).filter (fun other => other.status = .online && other.id ≠ nodeId)

/-- Give the workloads of an idle node to another online node and stop the instance; without a
target, a port for each server or the provider's agreement nothing changes.
-/
def shutDownIdleNode (settings : Settings) (tests : PortTests) (providerStops : Bool)
    (nodeId : Uuid) (allOnline : List Uuid) (db : Database)
    : Except Raised Database :=
  match db.nodes.get? nodeId with
  | none => .error .exception
  | some node =>
      let idle :=
        (runningServersOnNode db nodeId).isEmpty
        && db.appDeployments.rows.all (fun deployment =>
          !(deployment.nodeId = some nodeId && deployment.state.reservesRam))
      if node.provider.isNone || node.providerInstanceId.isNone || !idle then .ok db
      else
        match remainingNodes db nodeId allOnline with
        | [] => .ok db
        | target :: _ =>
            match replaceServers settings tests target (allServersOnNode db nodeId) db with
            | .error _ => .ok db
            | .ok reassigned =>
                if !providerStops then .ok db
                else
                  commitServers
                    { reassigned with
                      appDeployments :=
                        reassigned.appDeployments.update
                          (Change.when
                            { apply := fun deployment =>
                                { deployment with nodeId := some target.id } }
                            (fun deployment => deployment.nodeId = some nodeId))
                      nodes := reassigned.nodes.modify nodeId (setNodeStatus .offline) }

-- Choices

section Choices

variable {settings : Settings} {db : Database} {now : Instant} {nodes : List Node}

/-- What both phases choose: a running server of one of the nodes that is in no cooldown, and
another one of the nodes.
-/
structure ChosenFrom (settings : Settings) (db : Database) (now : Instant) (nodes : List Node)
    (choice : MigrationChoice)
    : Prop where
  source : choice.source ∈ nodes
  target : choice.target ∈ nodes
  apart : choice.target.id ≠ choice.source.id
  server : choice.server ∈ runningServersOnNode db choice.source.id
  rested : serverInMigrationCooldown settings now choice.server = false

theorem mem_leastActiveFirst {servers : List Server} {server : Server}
    : server ∈ leastActiveFirst servers ↔ server ∈ servers :=
  List.mem_mergeSort

theorem consolidationTarget_some {source target : Node} {server : Server}
    (chosen : consolidationTarget settings db now source nodes server = some target)
    : target ∈ nodes ∧ target.id ≠ source.id
      ∧ requiredRamMb settings db now server.id
        ≤ target.totalRamMb - computeNodeAllocatedRamMb settings db now target.id := by
  have step (choice : BestNode) (node : Node)
      : (if node.id = source.id then choice
          else choice.offer (requiredRamMb settings db now server.id)
            (node.totalRamMb - computeNodeAllocatedRamMb settings db now node.id) node) = choice
        ∨ (node.id ≠ source.id ∧ requiredRamMb settings db now server.id
            ≤ node.totalRamMb - computeNodeAllocatedRamMb settings db now node.id)
          ∧ (if node.id = source.id then choice
            else choice.offer (requiredRamMb settings db now server.id)
              (node.totalRamMb - computeNodeAllocatedRamMb settings db now node.id) node).best
            = some node := by
    split
    · exact .inl rfl
    · rename_i apart
      unfold BestNode.offer
      split
      · exact .inl rfl
      · rename_i room
        split
        · exact .inr ⟨⟨apart, not_lt.mp room⟩, rfl⟩
        · exact .inl rfl
  unfold consolidationTarget at chosen
  rcases bestNode_foldl_passing step nodes {} with none | ⟨node, member, ⟨apart, room⟩, found⟩
  · rw [none] at chosen
    cases chosen
  · rw [found] at chosen
    cases chosen
    exact ⟨member, apart, room⟩

theorem consolidation_some {choice : MigrationChoice}
    (chosen : consolidation settings db now nodes = some choice)
    : ChosenFrom settings db now nodes choice
      ∧ (∀ node ∈ nodes, computeNodeAllocatedRamMb settings db now choice.source.id
        ≤ computeNodeAllocatedRamMb settings db now node.id)
      ∧ requiredRamMb settings db now choice.server.id
        ≤ choice.target.totalRamMb
          - computeNodeAllocatedRamMb settings db now choice.target.id := by
  unfold consolidation at chosen
  dsimp only at chosen
  split at chosen
  · cases chosen
  · rename_i source rest sorted
    let lighter (left right : Node) : Bool :=
      computeNodeAllocatedRamMb settings db now left.id
        ≤ computeNodeAllocatedRamMb settings db now right.id
    have ordered : (nodes.mergeSort lighter).Pairwise (fun left right => lighter left right) := by
      refine List.pairwise_mergeSort ?_ ?_ nodes
      · simp only [lighter, decide_eq_true_eq]
        exact fun _ _ _ => le_trans
      · simp only [lighter, Bool.or_eq_true, decide_eq_true_eq]
        exact fun _ _ => le_total _ _
    rw [sorted] at ordered
    have listed (node : Node) : node ∈ source :: rest ↔ node ∈ nodes := by
      rw [← sorted]
      exact List.mem_mergeSort
    obtain ⟨server, member, picked⟩ := List.exists_of_findSome?_eq_some chosen
    split at picked
    · cases picked
    · rename_i rested
      obtain ⟨target, fits, rfl⟩ := Option.map_eq_some_iff.mp picked
      rw [sorted] at fits
      obtain ⟨known, apart, room⟩ := consolidationTarget_some fits
      refine ⟨⟨(listed source).mp List.mem_cons_self, (listed target).mp known, apart,
        mem_leastActiveFirst.mp member, Bool.not_eq_true _ ▸ rested⟩, ?_, room⟩
      intro node stored
      rcases List.mem_cons.mp ((listed node).mpr stored) with rfl | later
      · exact le_refl _
      · exact of_decide_eq_true ((List.pairwise_cons.mp ordered).1 node later)

theorem overflowTarget_some {source target : Node}
    (chosen : overflowTarget settings db now source nodes = some target)
    : target ∈ nodes ∧ target.id ≠ source.id
      ∧ nodeActiveRamRatio settings db now target < nodeOverloadedRatio := by
  let consider (choice : BestNode) (node : Node) : BestNode :=
    let free := node.totalRamMb - computeNodeAllocatedRamMb settings db now node.id
    if node.id = source.id then choice
    else if choice.bestFree < free
        && nodeActiveRamRatio settings db now node < nodeOverloadedRatio then
      ⟨some node, free⟩
    else choice
  have step (choice : BestNode) (node : Node)
      : consider choice node = choice
        ∨ (node.id ≠ source.id ∧ nodeActiveRamRatio settings db now node < nodeOverloadedRatio)
          ∧ (consider choice node).best = some node := by
    dsimp only [consider]
    split
    · exact .inl rfl
    · rename_i apart
      split
      · rename_i test
        rw [Bool.and_eq_true, decide_eq_true_eq, decide_eq_true_eq] at test
        exact .inr ⟨⟨apart, test.2⟩, rfl⟩
      · exact .inl rfl
  unfold overflowTarget at chosen
  rcases bestNode_foldl_passing step nodes {} with none | ⟨node, member, ⟨apart, calm⟩, found⟩
  · rw [none] at chosen
    cases chosen
  · rw [found] at chosen
    cases chosen
    exact ⟨member, apart, calm⟩

theorem overflow_migrate {visited : List Node} {choice : MigrationChoice}
    (chosen : overflow settings db now nodes visited = .migrate choice)
    (listed : ∀ node ∈ visited, node ∈ nodes)
    : ChosenFrom settings db now nodes choice
      ∧ nodeOverloadedRatio ≤ nodeActiveRamRatio settings db now choice.source
      ∧ nodeActiveRamRatio settings db now choice.target < nodeOverloadedRatio := by
  induction visited with
  | nil => cases chosen
  | cons node rest ih =>
      have others := fun other member => listed other (List.mem_cons_of_mem node member)
      unfold overflow at chosen
      split at chosen
      · exact ih chosen others
      · rename_i overloaded
        split at chosen
        · cases chosen
        · rename_i target fits
          split at chosen
          · exact ih chosen others
          · rename_i server found
            cases chosen
            obtain ⟨known, apart, calm⟩ := overflowTarget_some fits
            have rested := List.find?_some found
            exact ⟨⟨listed node List.mem_cons_self, known, apart,
              mem_leastActiveFirst.mp (List.mem_of_find?_eq_some found),
              by simpa using rested⟩, Rat.not_lt.mp overloaded, calm⟩

end Choices

-- Induction rules

section Invariants

variable {settings : Settings} {tests : PortTests} {node : Node} {db current next : Database}

theorem replaceServer_ok {server : Server}
    (replaced : replaceServer settings tests node server db = .ok next)
    : ∃ port, allocatePort settings tests db server.flavor (some node.id) = .ok port
      ∧ next = changeServer server.id (placeServer node port) db := by
  unfold replaceServer at replaced
  cases allocated : allocatePort settings tests db server.flavor (some node.id) with
  | error failure =>
      rw [allocated] at replaced
      cases replaced
  | ok port =>
      rw [allocated] at replaced
      cases replaced
      exact ⟨port, rfl, rfl⟩

/-- What single rescues keep, all of them keep, by induction on the orphans. -/
theorem rescueServers_invariant (property : Database → Prop) (servers : List Server)
    (kept : ∀ server ∈ servers, ∀ current next, property current
      → replaceServer settings tests node server current = .ok next → property next)
    (base : property db) (now : property current)
    : property (rescueServers settings tests node db servers current) := by
  induction servers generalizing current with
  | nil => exact now
  | cons server rest ih =>
      have others := fun other member => kept other (List.mem_cons_of_mem server member)
      unfold rescueServers
      split
      · exact ih others base
      · rename_i placed
        exact ih others (kept server List.mem_cons_self _ _ now placed)

/-- What single moves keep, a whole shutdown keeps, by induction on the servers. -/
theorem replaceServers_invariant (property : Database → Prop) (servers : List Server)
    (kept : ∀ server ∈ servers, ∀ current next, property current
      → replaceServer settings tests node server current = .ok next → property next)
    (now : property db) (replaced : replaceServers settings tests node servers db = .ok next)
    : property next := by
  induction servers generalizing db with
  | nil =>
      cases replaced
      exact now
  | cons server rest ih =>
      unfold replaceServers at replaced
      split at replaced
      · cases replaced
      · rename_i placed
        exact ih (fun other member => kept other (List.mem_cons_of_mem server member))
          (kept server List.mem_cons_self _ _ now placed) replaced

theorem rescueOrphans_ok (rescued : rescueOrphans settings tests node db = .ok next)
    : next = rescueServers settings tests node db (orphanedServers db) db
      ∧ UniqueNodePorts next.servers := by
  obtain ⟨rfl, valid⟩ := commitServers_ok rescued
  exact ⟨rfl, valid⟩

theorem reassignServer_ok {serverId : Uuid} {done : Bool}
    (reassigned : reassignServer settings tests serverId node db = .ok (next, done))
    : (done = false ∧ next = db)
      ∨ done = true ∧ ∃ server, db.servers.get? serverId = some server
        ∧ replaceServer settings tests node server db = .ok next
        ∧ UniqueNodePorts next.servers := by
  unfold reassignServer at reassigned
  split at reassigned
  · cases reassigned
  · rename_i server found
    split at reassigned
    · cases reassigned
      exact .inl ⟨rfl, rfl⟩
    · rename_i moved replaced
      cases committed : commitServers moved with
      | error failure =>
          rw [committed] at reassigned
          cases reassigned
      | ok stored =>
          rw [committed] at reassigned
          cases reassigned
          obtain ⟨rfl, valid⟩ := commitServers_ok committed
          exact .inr ⟨rfl, server, found, replaced, valid⟩

theorem shutDownIdleNode_ok {providerStops : Bool} {nodeId : Uuid} {allOnline : List Uuid}
    (shut : shutDownIdleNode settings tests providerStops nodeId allOnline db = .ok next)
    : next = db
      ∨ ∃ target rest reassigned,
        remainingNodes db nodeId allOnline = target :: rest
        ∧ replaceServers settings tests target (allServersOnNode db nodeId) db = .ok reassigned
        ∧ next.servers = reassigned.servers
        ∧ next.nodes = reassigned.nodes.modify nodeId (setNodeStatus .offline)
        ∧ UniqueNodePorts next.servers := by
  unfold shutDownIdleNode at shut
  split at shut
  · cases shut
  · dsimp only at shut
    split at shut
    · cases shut
      exact .inl rfl
    · split at shut
      · cases shut
        exact .inl rfl
      · rename_i target rest online
        split at shut
        · cases shut
          exact .inl rfl
        · rename_i reassigned replaced
          split at shut
          · cases shut
            exact .inl rfl
          · obtain ⟨rfl, valid⟩ := commitServers_ok shut
            exact .inr ⟨target, rest, reassigned, online, replaced, rfl, rfl, valid⟩

end Invariants

end Blockhost
