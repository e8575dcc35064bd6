import Blockhost.Api.Nodes

/-! Sessions that never pass authentication. Their only lasting effects are a node that
registered itself and the cleanup, which acts on whichever node has the claimed name.
-/

namespace Blockhost

open Library

/-- Every node, server and app deployment of the first database is a row of the second one. -/
structure RowsUnchanged (before after : Database) : Prop where
  nodes : ∀ node ∈ before.nodes.rows, node ∈ after.nodes.rows
  servers : ∀ server ∈ before.servers.rows, server ∈ after.servers.rows
  deployments
    : ∀ deployment ∈ before.appDeployments.rows,
        deployment ∈ after.appDeployments.rows

/-- The token check of the session returns true for an approved node. -/
def Authenticated (functions : SessionFunctions) (settings : Settings)
    (connection : Connection) (messages : List Received) (db : Database)
    : Prop :=
  ∃ now message later request enrolment,
    messages = (now, message) :: later
    ∧ parseRegister functions connection message = .ok request
    ∧ enrolNode settings now request db = .ok enrolment
    ∧ verifyNodeAgentToken functions.sha256 settings enrolment.node connection.token = .ok true
    ∧ enrolment.node.approved = true

def claimedName (functions : SessionFunctions) (connection : Connection)
    : List Received → Json
  | [] => unknownName
  | first :: _ =>
      match parseRegister functions connection first.2 with
      | .error refusal => refusal.nodeName
      | .ok request => request.nodeName

/-- The cleanup has nothing to do for a node, or cannot do it. -/
def CleanupHarmless (db : Database) (nodeName : Json) : Prop :=
  ∀ node, nodeNamed db nodeName = .ok (some node)
    → node.status = .offline ∨ runningServersOnNode db node.id ≠ []

theorem RowsUnchanged.trans {before middle after : Database}
    (first : RowsUnchanged before middle) (second : RowsUnchanged middle after)
    : RowsUnchanged before after where
  nodes node member := second.nodes node (first.nodes node member)
  servers server member := second.servers server (first.servers server member)
  deployments deployment member :=
    second.deployments deployment (first.deployments deployment member)

theorem RowsUnchanged.refl (db : Database) : RowsUnchanged db db :=
  ⟨fun _ => id, fun _ => id, fun _ => id⟩

theorem nodeNamed_mem {db : Database} {nodeName : Json} {node : Node}
    (found : nodeNamed db nodeName = .ok (some node))
    : node ∈ db.nodes.rows := by
  cases nodeName with
  | text name => exact List.mem_of_find?_eq_some (Except.ok.inj found)
  | null => cases found
  | _ => cases found

theorem suspendRunningServersOnNode_ok (db : Database) (nodeId : Uuid)
    : (∃ suspended, suspendRunningServersOnNode db nodeId = .ok suspended)
      ↔ runningServersOnNode db nodeId = [] := by
  unfold suspendRunningServersOnNode
  cases runningServersOnNode db nodeId <;> simp

theorem cleanUpSession_cases (nodeName : Json) (db : Database)
    : cleanUpSession nodeName db = db
      ∨ ∃ node,
          nodeNamed db nodeName = .ok (some node)
          ∧ runningServersOnNode db node.id = []
          ∧ cleanUpSession nodeName db
            = changeNode node.id
                { apply := fun node => { node with status := .offline } } db := by
  unfold cleanUpSession
  rcases named : nodeNamed db nodeName with error | found
  · exact .inl rfl
  · cases found with
    | none => exact .inl rfl
    | some node =>
        dsimp only
        cases failover : suspendRunningServersOnNode db node.id with
        | error error => exact .inl rfl
        | ok suspended =>
            have idle := (suspendRunningServersOnNode_ok db node.id).mp ⟨suspended, failover⟩
            exact .inr ⟨node, rfl, idle, rfl⟩

theorem rowsUnchanged_changeNode {db : Database} {node : Node} (change : Change Node.id)
    (stored : node ∈ db.nodes.rows)
    : RowsUnchanged db (changeNode node.id change db) ↔ change.apply node = node := by
  have changed : change.apply node ∈ (changeNode node.id change db).nodes.rows := by
    have image := List.mem_map_of_mem (f := (change.at node.id).apply) stored
    rw [Change.at_same change rfl] at image
    exact image
  constructor
  · intro unchanged
    exact (changeNode node.id change db).nodes.eq_of_key_eq changed
      (unchanged.nodes node stored) (change.kept node)
  · intro same
    refine ⟨?_, fun _ => id, fun _ => id⟩
    intro other known
    by_cases own : other.id = node.id
    · rw [db.nodes.eq_of_key_eq known stored own]
      rwa [same] at changed
    · have image := List.mem_map_of_mem (f := (change.at node.id).apply) known
      rw [Change.at_other change own] at image
      exact image

theorem cleanUpSession_unchanged_iff (nodeName : Json) (db : Database)
    : RowsUnchanged db (cleanUpSession nodeName db) ↔ CleanupHarmless db nodeName := by
  constructor
  · intro unchanged node found
    by_cases idle : runningServersOnNode db node.id = []
    · obtain ⟨suspended, failover⟩ := (suspendRunningServersOnNode_ok db node.id).mpr idle
      have marked
          : cleanUpSession nodeName db
            = changeNode node.id
                { apply := fun node => { node with status := .offline } } db := by
        simp only [cleanUpSession, found, failover]
      rw [marked, rowsUnchanged_changeNode _ (nodeNamed_mem found)] at unchanged
      exact .inl (congrArg Node.status unchanged).symm
    · exact .inr idle
  · intro harmless
    rcases cleanUpSession_cases nodeName db with same | ⟨node, found, idle, marked⟩
    · rw [same]
      exact .refl db
    · rcases harmless node found with offline | busy
      · rw [marked, rowsUnchanged_changeNode _ (nodeNamed_mem found)]
        simp only [← offline]
      · exact absurd idle busy

/-- A refused session of an unknown node has registered the node under its name. -/
structure SelfRegistered (db committed : Database) (nodeName : Json) : Prop where
  unknown : nodeNamed db nodeName = .ok none
  rows : RowsUnchanged db committed
  offline : ∀ node, nodeNamed committed nodeName = .ok (some node) → node.status = .offline

theorem enrolNode_committed {settings : Settings} {now : Instant} {request : RegisterRequest}
    {db : Database} {enrolment : Enrolment}
    (enrolled : enrolNode settings now request db = .ok enrolment)
    : enrolment.committed = db ∨ SelfRegistered db enrolment.committed request.nodeName := by
  unfold enrolNode at enrolled
  split at enrolled
  · rename_i name claimed
    rw [claimed]
    split at enrolled
    · rename_i node found
      cases enrolled
      exact .inl rfl
    · rename_i missing
      split at enrolled
      · cases enrolled
        refine .inr ⟨congrArg Except.ok missing, ?_, ?_⟩
        · exact ⟨fun _ member => List.mem_append_left _ member, fun _ => id, fun _ => id⟩
        · intro node found
          obtain old | new := List.mem_append.mp (nodeNamed_mem found)
          · have named := List.find?_some (Except.ok.inj found)
            exact absurd named (List.find?_eq_none.mp missing node old)
          · rw [List.mem_singleton.mp new]
            rfl
      · cases enrolled
  · cases enrolled

theorem admitNode_ok {functions : SessionFunctions} {settings : Settings}
    {connection : Connection} {now : Instant} {enrolment : Enrolment} {next : Database}
    (admitted : admitNode functions settings connection now enrolment = .ok next)
    : verifyNodeAgentToken functions.sha256 settings enrolment.node connection.token = .ok true
      ∧ enrolment.node.approved = true := by
  unfold admitNode at admitted
  dsimp only at admitted
  split at admitted
  · cases admitted
  · cases admitted
  · rename_i verified
    split at admitted
    · cases admitted
    · rename_i approved
      exact ⟨verified, by simpa using approved⟩

theorem refused_session (functions : SessionFunctions) (settings : Settings)
    (connection : Connection) (messages : List Received) (db : Database)
    (refused : ¬ Authenticated functions settings connection messages db)
    (token : connection.token ≠ "")
    : ∃ committed,
        nodeAgentWebsocket functions settings connection messages db
          = cleanUpSession (claimedName functions connection messages) committed
        ∧ (committed = db
          ∨ SelfRegistered db committed (claimedName functions connection messages)) := by
  unfold nodeAgentWebsocket claimedName
  rw [if_neg token]
  cases messages with
  | nil => exact ⟨db, rfl, .inl rfl⟩
  | cons first later =>
      obtain ⟨now, message⟩ := first
      unfold registerSession
      dsimp only
      cases parsed : parseRegister functions connection message with
      | error refusal => exact ⟨db, rfl, .inl rfl⟩
      | ok request =>
          dsimp only
          cases enrolled : enrolNode settings now request db with
          | error ending => exact ⟨db, rfl, .inl rfl⟩
          | ok enrolment =>
              dsimp only
              cases admitted : admitNode functions settings connection now enrolment with
              | error ending =>
                  exact ⟨enrolment.committed, rfl, enrolNode_committed enrolled⟩
              | ok next =>
                  obtain ⟨verified, approved⟩ := admitNode_ok admitted
                  exact absurd ⟨now, message, later, request, enrolment, rfl, parsed, enrolled,
                    verified, approved⟩ refused

/-- A session that never authenticates leaves every row alone exactly when it has no token or
the node with the claimed name, if there is one, is offline already or has a running server,
for which the failover raises.
-/
theorem unauthenticated_session_harmless_iff (functions : SessionFunctions)
    (settings : Settings) (connection : Connection) (messages : List Received)
    (db : Database)
    (refused : ¬ Authenticated functions settings connection messages db)
    : RowsUnchanged db (nodeAgentWebsocket functions settings connection messages db)
      ↔ connection.token = ""
        ∨ CleanupHarmless db (claimedName functions connection messages) := by
  by_cases token : connection.token = ""
  · have closed : nodeAgentWebsocket functions settings connection messages db = db :=
      if_pos token
    simp only [closed, token, RowsUnchanged.refl, true_or]
  · obtain ⟨committed, shape, unchanged | registered⟩ :=
      refused_session functions settings connection messages db refused token
    · subst unchanged
      simp only [shape, token, false_or, cleanUpSession_unchanged_iff]
    · have cleaned
          : RowsUnchanged committed
              (cleanUpSession (claimedName functions connection messages) committed) :=
        (cleanUpSession_unchanged_iff _ committed).mpr
          (fun node found => .inl (registered.offline node found))
      have idle : CleanupHarmless db (claimedName functions connection messages) := by
        intro node found
        rw [registered.unknown] at found
        cases found
      rw [shape]
      exact iff_of_true (registered.rows.trans cleaned) (.inr idle)

private def plainSession : SessionFunctions where
  str _ := ""
  strip := id
  parseInt _ := none
  sha256 text := "sha256:" ++ text
  parseTime _ := none
  intColumn _ := none
  floatColumn _ := none

private def worker (status : NodeState) : Node where
  id := 0
  name := "worker-1"
  ipAddress := "10.0.0.1"
  status := status
  statusUpdatedAt := 0
  approved := true
  agentTokenHash := some "sha256:secret"

private def withWorker (status : NodeState) : Database where
  nodes := ⟨[worker status], List.nodup_singleton _⟩

private def claim : Json :=
  .object [("type", .text "register"), ("data", .object [("name", .text "worker-1")])]

private def guess : Connection where
  token := "guess"

private theorem guess_refused (status : NodeState)
    : ¬ Authenticated plainSession {} guess [(1, some claim)] (withWorker status) := by
  rintro ⟨now, message, later, request, enrolment, same, parsed, enrolled, verified, _⟩
  cases same
  cases parsed
  cases enrolled
  cases status <;> exact absurd verified (by decide)

/-- A wrong token does nothing to a node that is offline already. -/
theorem guess_spares_offline_node
    : RowsUnchanged (withWorker .offline)
        (nodeAgentWebsocket plainSession {} guess [(1, some claim)] (withWorker .offline)) :=
  (unauthenticated_session_harmless_iff plainSession {} guess _ _
    (guess_refused .offline)).mpr (.inr (by rintro node ⟨⟩; exact .inl rfl))

/-- A wrong token under the name of an online node takes the node offline. -/
theorem guess_takes_node_offline
    : ¬ ∀ (functions : SessionFunctions) (settings : Settings) (connection : Connection)
        (messages : List Received) (db : Database),
        ¬ Authenticated functions settings connection messages db
        → RowsUnchanged db
            (nodeAgentWebsocket functions settings connection messages db) := by
  intro harmless
  have unchanged := harmless plainSession {} guess [(1, some claim)] (withWorker .online)
    (guess_refused .online)
  have kept := unchanged.nodes (worker .online) (List.mem_singleton_self _)
  exact absurd kept (by decide)

end Blockhost
