import Blockhost.Orchestrator.FleetHandlers
import Blockhost.Orchestrator.TransactionFrames

/-! At most one registered node runs a server. The invariant is that every process on a registered
node is on the node that the row of its server names; what breaks it are the transactions that take
a server off a node where it is alive, late starts, and nodes that join with foreign processes.
-/

namespace Blockhost.ControlPlane

open Library

variable {World : Type} {site : Site}

/-- No server has processes on two nodes that are online or draining. -/
def SingleProcess (fleet : Fleet World) : Prop :=
  ∀ serverId left right, fleet.Live left serverId → fleet.Live right serverId
    → registered fleet.db left = true → registered fleet.db right = true → left = right

/-- Every process on a registered node is on the node of its server. -/
def AtHome (fleet : Fleet World) : Prop :=
  ∀ nodeId serverId, fleet.Live nodeId serverId → registered fleet.db nodeId = true
    → serverNode fleet.db serverId = some nodeId

theorem AtHome.single {fleet : Fleet World} (home : AtHome fleet) : SingleProcess fleet := by
  intro serverId left right leftLive rightLive leftKnown rightKnown
  have sameNode := (home left serverId leftLive leftKnown).symm.trans
    (home right serverId rightLive rightKnown)
  exact Option.some.inj sameNode

-- The condition

/-- No process of a server is alive on its node, as far as that is registered. -/
def Stopped (fleet : Fleet World) (serverId : Uuid) : Prop :=
  ∀ nodeId, serverNode fleet.db serverId = some nodeId → registered fleet.db nodeId = true
    → ¬ fleet.Live nodeId serverId

/-- A server that goes to a node is there already, or is stopped. -/
def MayMove (fleet : Fleet World) (serverId nodeId : Uuid) : Prop :=
  serverNode fleet.db serverId = some nodeId ∨ Stopped fleet serverId

/-- A node that is not registered yet runs processes of its own servers only. -/
def JoinsClean (fleet : Fleet World) (nodeId : Uuid) : Prop :=
  registered fleet.db nodeId = false
    → ∀ serverId, fleet.Live nodeId serverId → serverNode fleet.db serverId = some nodeId

section Transactions

variable {before after : Fleet World}

theorem AtHome.write (home : AtHome before) (same : after.processes = before.processes)
    (nodes : NodesStay before.db after.db)
    (kept : ∀ serverId nodeId, serverNode before.db serverId = some nodeId
      → registered after.db nodeId = true
      → serverNode after.db serverId = some nodeId ∨ Stopped before serverId)
    : AtHome after := by
  intro nodeId serverId live present
  have liveBefore : before.Live nodeId serverId := by
    unfold Fleet.Live at live ⊢
    rw [← same]
    exact live
  have was := nodes nodeId present
  have atHome := home nodeId serverId liveBefore was
  rcases kept serverId nodeId atHome present with stays | stopped
  · exact stays
  · exact absurd liveBefore (stopped nodeId atHome was)

theorem AtHome.calm (home : AtHome before) (same : after.processes = before.processes)
    (calm : Calm before.db after.db)
    : AtHome after :=
  home.write same calm.nodes (fun serverId _ named _ =>
    .inl ((calm.servers.home serverId).trans named))

theorem AtHome.join (home : AtHome before) (same : after.processes = before.processes)
    {joined : Uuid} (clean : JoinsClean before joined)
    (nodes : ∀ nodeId, nodeId ≠ joined → registered after.db nodeId = true
      → registered before.db nodeId = true)
    (calm : CalmServers before.db after.db)
    : AtHome after := by
  intro nodeId serverId live present
  have liveBefore : before.Live nodeId serverId := by
    unfold Fleet.Live at live ⊢
    rw [← same]
    exact live
  rw [calm.home serverId]
  cases known : registered before.db nodeId with
  | true => exact home nodeId serverId liveBefore known
  | false =>
      by_cases isJoined : nodeId = joined
      · subst isJoined
        exact clean known serverId liveBefore
      · rw [nodes nodeId isJoined present] at known
        cases known

theorem serverNode_other {db : Database} {changed serverId : Uuid} (other : serverId ≠ changed)
    (change : Change Server.id)
    : serverNode (changeServer changed change db) serverId = serverNode db serverId := by
  unfold serverNode changeServer
  rw [Table.get?_modify, if_neg other]

theorem serverNode_put {db : Database} {serverId nodeId : Uuid} {change : Change Server.id}
    (puts : ∀ row, (change.apply row).nodeId = some nodeId)
    (stored : db.servers.get? serverId ≠ none)
    : serverNode (changeServer serverId change db) serverId = some nodeId := by
  rw [serverNode_change]
  cases found : db.servers.get? serverId with
  | none => exact absurd found stored
  | some row => exact puts row

theorem MayMove.kept {serverId nodeId : Uuid} {change : Change Server.id} {db : Database}
    (may : MayMove before serverId nodeId) (same : db.servers = before.db.servers)
    (puts : ∀ row, (change.apply row).nodeId = some nodeId)
    (moved named : Uuid) (home : serverNode before.db moved = some named)
    : serverNode (changeServer serverId change db) moved = some named
      ∨ Stopped before moved := by
  have sameHome : serverNode db moved = serverNode before.db moved := by
    unfold serverNode
    rw [same]
  by_cases this : moved = serverId
  · subst this
    rcases may with already | stopped
    · cases already.symm.trans home
      refine .inl (serverNode_put puts ?_)
      intro missing
      rw [← sameHome, serverNode, missing] at home
      cases home
    · exact .inr stopped
  · exact .inl ((serverNode_other this change).trans (sameHome.trans home))

theorem AtHome.commit {Error Result : Type} (home : AtHome before)
    {outcome : Except Error (Database × Result)}
    (committed : ∀ next result, outcome = .ok (next, result) → NodesStay before.db next
      ∧ ∀ serverId nodeId, serverNode before.db serverId = some nodeId
        → registered next nodeId = true
        → serverNode next serverId = some nodeId ∨ Stopped before serverId)
    : AtHome (before.commit outcome).1 := by
  cases outcome with
  | error failure => exact home
  | ok stored =>
      obtain ⟨nodes, kept⟩ := committed stored.1 stored.2 rfl
      exact home.write rfl nodes kept

theorem AtHome.commitOnly {Error : Type} (home : AtHome before)
    {outcome : Except Error Database}
    (committed : ∀ next, outcome = .ok next → NodesStay before.db next
      ∧ ∀ serverId nodeId, serverNode before.db serverId = some nodeId
        → registered next nodeId = true
        → serverNode next serverId = some nodeId ∨ Stopped before serverId)
    : AtHome (before.commitOnly outcome).1 := by
  cases outcome with
  | error failure => exact home
  | ok stored =>
      obtain ⟨nodes, kept⟩ := committed stored rfl
      exact home.write rfl nodes kept

theorem MayMove.replaced {settings : Settings} {tests : PortTests} {node : Node}
    {server : Server} {current next : Database} (may : MayMove before server.id node.id)
    (replaced : replaceServer settings tests node server current = .ok next)
    {serverId nodeId : Uuid} (named : serverNode before.db serverId = some nodeId)
    (now : serverNode current serverId = some nodeId ∨ Stopped before serverId)
    : serverNode next serverId = some nodeId ∨ Stopped before serverId := by
  obtain ⟨port, _, rfl⟩ := replaceServer_ok replaced
  rcases now with here | stopped
  · by_cases this : serverId = server.id
    · subst this
      rcases may with already | stopped
      · cases already.symm.trans named
        refine .inl (serverNode_put (fun _ => rfl) ?_)
        intro missing
        rw [serverNode, missing] at here
        cases here
      · exact .inr stopped
    · exact .inl ((serverNode_other this _).trans here)
  · exact .inr stopped

end Transactions

-- Runs

end Blockhost.ControlPlane
