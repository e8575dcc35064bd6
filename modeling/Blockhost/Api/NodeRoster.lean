import Blockhost.Api.HeartbeatScope
import Blockhost.Api.Schemas

/-! The transactions of a node's admission around the call that halts its processes, and the
draining of nodes.
-/

namespace Blockhost

open Library

def checkAdmission (functions : SessionFunctions) (settings : Settings) (token : String)
    (node : Node)
    : Except Ending Node :=
  match verifyNodeAgentToken functions.sha256 settings node token with
  | .error error => .error (.raised error)
  | .ok false => .error (.closed 1008 "Invalid token")
  | .ok true =>
      if !node.approved then .error (.closed 4003 "Node not approved") else .ok node

/-- The first transaction: a node that registers itself is stored whatever the checks say. -/
def admitSession (functions : SessionFunctions) (settings : Settings) (now : Instant)
    (token : String) (request : RegisterRequest) (db : Database)
    : Database × Except Ending Node :=
  match enrolNode settings now request db with
  | .error ending => (db, .error ending)
  | .ok enrolment =>
      (enrolment.committed, checkAdmission functions settings token enrolment.node)

/-- The second transaction; the node is the session's copy. -/
def completeAdmission (settings : Settings) (now : Instant) (request : RegisterRequest)
    (node : Node) (db : Database)
    : Database :=
  let reported := reportAddress request node db
  let recovered :=
    if node.status = .offline then suspendActiveServers node.id [] reported else reported
  refreshNodeAllocatedRam settings now node.id (bringOnline now node.id recovered)

def drainNode (nodeId : Uuid) (db : Database) : Except HttpError Database :=
  match db.nodes.get? nodeId with
  | none => .error ⟨404, "Node not found"⟩
  | some node =>
      if node.status = .offline then .error ⟨400, "Cannot drain an offline node"⟩
      else .ok (changeNode nodeId { apply := fun node => { node with status := .draining } } db)

def undrainNode (now : Instant) (nodeId : Uuid) (db : Database) : Except HttpError Database :=
  match db.nodes.get? nodeId with
  | none => .error ⟨404, "Node not found"⟩
  | some node =>
      if node.status ≠ .draining then .error ⟨400, "Node is not draining"⟩
      else if !isNodeHeartbeatFresh node now then
        .error ⟨400, "Node heartbeat is stale; agent must reconnect first"⟩
      else .ok (changeNode nodeId { apply := fun node => { node with status := .online } } db)

end Blockhost

/-! The names and the statuses of the nodes, and how the transactions of a session, of the
placement and of the rebalancer change them.
-/

namespace Blockhost

open Library

structure NodeEntry where
  id : Uuid
  name : String
  status : NodeState
deriving DecidableEq

def nodeEntry (node : Node) : NodeEntry := ⟨node.id, node.name, node.status⟩

def roster (db : Database) : List NodeEntry := db.nodes.rows.map nodeEntry

def NodeEntry.enter (nodeId : Uuid) (status : NodeState) (entry : NodeEntry) : NodeEntry :=
  if entry.id = nodeId then { entry with status } else entry

theorem NodeEntry.enter_own {nodeId : Uuid} {entry : NodeEntry} (own : entry.id = nodeId)
    (status : NodeState)
    : entry.enter nodeId status = ⟨entry.id, entry.name, status⟩ :=
  if_pos own

def enterStatus (nodeId : Uuid) (status : NodeState) (entries : List NodeEntry)
    : List NodeEntry :=
  entries.map (NodeEntry.enter nodeId status)

def Lacks (nodeId : Uuid) (status : NodeState) (entries : List NodeEntry) : Prop :=
  ∀ entry ∈ entries, entry.id = nodeId → entry.status ≠ status

theorem lacks_enterStatus {nodeId changed : Uuid} {status entered : NodeState}
    {entries : List NodeEntry} (lacks : Lacks nodeId status entries)
    (other : changed = nodeId → entered ≠ status)
    : Lacks nodeId status (enterStatus changed entered entries) := by
  intro entry member own
  obtain ⟨before, stored, rfl⟩ := List.mem_map.mp member
  unfold NodeEntry.enter at own ⊢
  split at own
  · rename_i here
    rw [if_pos here]
    exact other (here.symm.trans own)
  · rename_i elsewhere
    rw [if_neg elsewhere]
    exact lacks before stored own

theorem lacks_append {nodeId : Uuid} {status : NodeState} {entries : List NodeEntry}
    {entry : NodeEntry} (lacks : Lacks nodeId status entries) (other : entry.status ≠ status)
    : Lacks nodeId status (entries ++ [entry]) := by
  intro known member own
  rcases List.mem_append.mp member with old | new
  · exact lacks known old own
  · rw [List.mem_singleton.mp new]
    exact other

def entryNamed (name : String) (entries : List NodeEntry) : Option NodeEntry :=
  entries.find? (fun entry => entry.name = name)

theorem entryNamed_roster (name : String) (db : Database)
    : entryNamed name (roster db)
      = (db.nodes.rows.find? (fun node => node.name = name)).map nodeEntry := by
  rw [entryNamed, roster, List.find?_map]
  rfl

/-- Entering a status changes no name, so an entry is found by its name as before. -/
theorem entryNamed_enterStatus (name : String) (nodeId : Uuid) (status : NodeState)
    (entries : List NodeEntry)
    : entryNamed name (enterStatus nodeId status entries)
      = (entryNamed name entries).map (NodeEntry.enter nodeId status) := by
  have names : (fun entry : NodeEntry => decide (entry.name = name))
      ∘ NodeEntry.enter nodeId status = (fun entry => decide (entry.name = name)) := by
    funext entry
    rw [Function.comp_apply, NodeEntry.enter]
    split <;> rfl
  rw [entryNamed, enterStatus, List.find?_map, names, entryNamed]

section Transactions

variable {db middle next : Database}

theorem roster_same (same : next.nodes = db.nodes) : roster next = roster db := by
  rw [roster, roster, same]

theorem roster_kept {changed : Uuid} {change : Change Node.id}
    (kept : ∀ row, nodeEntry (change.apply row) = nodeEntry row)
    (same : next.nodes = db.nodes.modify changed change)
    : roster next = roster db := by
  rw [roster, roster, same, Table.rows_modify, List.map_map]
  refine List.map_congr_left ?_
  intro row _
  rw [Function.comp_apply]
  split
  · exact kept row
  · rfl

theorem roster_entered {changed : Uuid} {change : Change Node.id} {status : NodeState}
    (entered : ∀ row, nodeEntry (change.apply row) = ⟨row.id, row.name, status⟩)
    (same : next.nodes = db.nodes.modify changed change)
    : roster next = enterStatus changed status (roster db) := by
  rw [roster, roster, enterStatus, same, Table.rows_modify, List.map_map, List.map_map]
  refine List.map_congr_left ?_
  intro row _
  rw [Function.comp_apply, Function.comp_apply, NodeEntry.enter]
  split
  · rename_i here
    exact (entered row).trans (if_pos here).symm
  · rename_i elsewhere
    exact (if_neg elsewhere).symm

theorem roster_refresh (settings : Settings) (now : Instant) (nodeId : Uuid) (db : Database)
    : roster (refreshNodeAllocatedRam settings now nodeId db) = roster db :=
  roster_kept (fun _ => rfl) rfl

theorem roster_wakeUp (now : Instant) (providerStarts : Bool) (db : Database)
    : roster (autoWakeupOfflineNode now providerStarts db).1 = roster db
      ∨ ∃ nodeId, roster (autoWakeupOfflineNode now providerStarts db).1
        = enterStatus nodeId .starting (roster db) := by
  rcases autoWakeupOfflineNode_cases now providerStarts db with same | ⟨node, _, _, same⟩
  · rw [same]
    exact .inl rfl
  · rw [same]
    exact .inr ⟨node.id, roster_entered (fun _ => rfl) rfl⟩

-- Sessions

theorem roster_reportAddress (request : RegisterRequest) (node : Node) (db : Database)
    : roster (reportAddress request node db) = roster db := by
  unfold reportAddress
  split
  · exact roster_kept (fun _ => rfl) rfl
  · exact roster_kept (fun _ => rfl) rfl

theorem roster_completeAdmission (settings : Settings) (now : Instant)
    (request : RegisterRequest) (node : Node) (db : Database)
    : roster (completeAdmission settings now request node db)
      = enterStatus node.id .online (roster db) := by
  unfold completeAdmission
  dsimp only
  have reported := roster_reportAddress request node db
  rw [roster_refresh, ← reported]
  split
  · exact roster_entered (fun _ => rfl) rfl
  · exact roster_entered (fun _ => rfl) rfl

/-- The first transaction of a session adds an entry or none, by its branches. -/
theorem roster_admitSession (functions : SessionFunctions) (settings : Settings) (now : Instant)
    (token : String) (request : RegisterRequest) (db : Database)
    : roster (admitSession functions settings now token request db).1 = roster db
      ∨ ∃ id name, roster (admitSession functions settings now token request db).1
        = roster db ++ [⟨id, name, .offline⟩] := by
  unfold admitSession enrolNode
  split
  · exact .inl rfl
  · rename_i enrolled
    split at enrolled
    · split at enrolled
      · cases enrolled
        exact .inl rfl
      · split at enrolled
        · cases enrolled
          exact .inr ⟨_, _, by rw [roster, Table.rows_create, List.map_append]; rfl⟩
        · cases enrolled
    · cases enrolled

/-- A heartbeat enters no status: none of its reports does, by the fold over them. -/
theorem roster_heartbeat {functions : SessionFunctions} {settings : Settings} {now : Instant}
    {nodeId : Uuid} {stats : Fields}
    (applied : applyHeartbeat functions settings now nodeId stats db = .ok next)
    : roster next = roster db := by
  obtain ⟨_, _, _, counted, _, _, _, _, folded, done⟩ := applyHeartbeat_parts applied
  have players : roster counted = roster db := by
    refine foldlM_invariant (fun state => roster state = roster db) ?_ folded
      (roster_kept (fun _ => rfl) rfl)
    intro state report next reported same
    obtain ⟨_, rfl⟩ := reportPlayers_ok_iff.mp reported
    exact same
  refine foldlM_invariant (fun state => roster state = roster db) ?_ done ?_
  · intro state report next reported same
    rcases reportDeployment_ok reported with rfl | ⟨_, _, _, _, _, rfl⟩ <;> exact same
  · rw [roster_refresh, ← players]
    rfl

/-- A message changes nothing, or is a heartbeat. -/
theorem receiveMessage_ok {functions : SessionFunctions} {settings : Settings} {nodeId : Uuid}
    {received : Received}
    (handled : receiveMessage functions settings nodeId received db = .ok next)
    : next = db
      ∨ ∃ stats, applyHeartbeat functions settings received.1 nodeId stats db = .ok next := by
  unfold receiveMessage at handled
  split at handled
  · cases handled
  · cases handled
  · split at handled
    · cases handled
    · split at handled
      · cases handled
        exact .inl rfl
      · split at handled
        · cases handled
        · cases handled
          exact .inl rfl
        · split at handled
          · cases handled
          · split at handled
            · cases handled
            · split at handled
              · cases handled
              · rename_i applied
                cases handled
                exact .inr ⟨_, applied⟩

/-- A message is ignored or a heartbeat, which keeps the roster. -/
theorem roster_receive {functions : SessionFunctions} {settings : Settings} {nodeId : Uuid}
    {received : Received}
    (handled : receiveMessage functions settings nodeId received db = .ok next)
    : roster next = roster db := by
  rcases receiveMessage_ok handled with rfl | ⟨_, applied⟩
  · rfl
  · exact roster_heartbeat applied

/-- A cleanup takes the node offline unless it has running servers, by the failover's two outcomes.
-/
theorem roster_cleanUp (nodeName : Json) (db : Database)
    : (cleanUpSession nodeName db = db
        ∧ ∀ node, nodeNamed db nodeName = .ok (some node)
          → runningServersOnNode db node.id ≠ [])
      ∨ ∃ node, nodeNamed db nodeName = .ok (some node)
        ∧ runningServersOnNode db node.id = []
        ∧ (cleanUpSession nodeName db).servers = db.servers
        ∧ roster (cleanUpSession nodeName db) = enterStatus node.id .offline (roster db) := by
  cases named : nodeNamed db nodeName with
  | error error => exact .inl ⟨by simp only [cleanUpSession, named], fun _ same => nomatch same⟩
  | ok found =>
      cases found with
      | none => exact .inl ⟨by simp only [cleanUpSession, named], fun _ same => nomatch same⟩
      | some node =>
          cases running : runningServersOnNode db node.id with
          | nil =>
              refine .inr ⟨node, rfl, running, ?_, ?_⟩
              · simp only [cleanUpSession, named, suspendRunningServersOnNode, running]
                rfl
              · simp only [cleanUpSession, named, suspendRunningServersOnNode, running]
                exact roster_entered (fun _ => rfl) rfl
          | cons server rest =>
              refine .inl ⟨?_, ?_⟩
              · simp only [cleanUpSession, named, suspendRunningServersOnNode, running]
              · intro other same
                cases same
                rw [running]
                exact List.cons_ne_nil server rest

theorem roster_drain {nodeId : Uuid} (drained : drainNode nodeId db = .ok next)
    : roster next = enterStatus nodeId .draining (roster db) := by
  unfold drainNode at drained
  split at drained
  · cases drained
  · split at drained
    · cases drained
    · cases drained
      exact roster_entered (fun _ => rfl) rfl

theorem roster_undrain {now : Instant} {nodeId : Uuid}
    (undrained : undrainNode now nodeId db = .ok next)
    : roster next = enterStatus nodeId .online (roster db) := by
  unfold undrainNode at undrained
  split at undrained
  · cases undrained
  · split at undrained
    · cases undrained
    · split at undrained
      · cases undrained
      · cases undrained
        exact roster_entered (fun _ => rfl) rfl

end Transactions

end Blockhost
