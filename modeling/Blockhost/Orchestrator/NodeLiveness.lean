import Blockhost.Orchestrator.FleetHandlers

/-! The overlapping sessions of one node's agent: a node is online while a session of it is open,
as far as each cleanup finds the node in the hands of no other session.
-/

namespace Blockhost.ControlPlane

open Library

-- Sessions

/-- How far the handler of an authenticated session has come. A connecting one has done its first
transaction and has its own copy of the node.
-/
inductive SessionPhase where
  | connecting (request : RegisterRequest) (node : Node)
  | opened (nodeId : Uuid)
  | ending
  | closed

structure AgentSessions where
  db : Database
  phases : List SessionPhase := []

/-- The steps of the handlers; `elsewhere` is what happens to anything but the nodes. -/
inductive SessionEvent where
  | connect (now : Instant) (token : String) (request : RegisterRequest)
  | complete (index : Nat) (now : Instant)
  | abandon (index : Nat)
  | receive (index : Nat) (received : Received)
  | disconnect (index : Nat)
  | cleanUp (index : Nat)
  | elsewhere

def AgentSessions.setPhase (index : Nat) (phase : SessionPhase) (live : AgentSessions)
    : AgentSessions :=
  { live with phases := live.phases.set index phase }

inductive SessionStep (site : Site) (name : String)
    : AgentSessions → SessionEvent → AgentSessions → Prop where
  | connect {live : AgentSessions} {now : Instant} {token : String} {request : RegisterRequest}
      {node : Node} (named : request.nodeName = .text name)
      (admitted : (admitSession site.functions site.settings now token request live.db).2
        = .ok node)
      : SessionStep site name live (.connect now token request)
          { db := (admitSession site.functions site.settings now token request live.db).1
            phases := live.phases ++ [.connecting request node] }
  | complete {live : AgentSessions} {index : Nat} {now : Instant} {request : RegisterRequest}
      {node : Node} (phase : live.phases[index]? = some (.connecting request node))
      : SessionStep site name live (.complete index now)
          { live.setPhase index (.opened node.id) with
            db := completeAdmission site.settings now request node live.db }
  | abandon {live : AgentSessions} {index : Nat} {request : RegisterRequest} {node : Node}
      (phase : live.phases[index]? = some (.connecting request node))
      (offline : node.status = .offline)
      : SessionStep site name live (.abandon index) (live.setPhase index .ending)
  | receive {live : AgentSessions} {index : Nat} {nodeId : Uuid} {received : Received}
      {next : Database} (phase : live.phases[index]? = some (.opened nodeId))
      (handled : receiveMessage site.functions site.settings nodeId received live.db = .ok next)
      : SessionStep site name live (.receive index received) { live with db := next }
  | refuse {live : AgentSessions} {index : Nat} {nodeId : Uuid} {received : Received}
      {ending : Ending} (phase : live.phases[index]? = some (.opened nodeId))
      (refused : receiveMessage site.functions site.settings nodeId received live.db
        = .error ending)
      : SessionStep site name live (.receive index received) (live.setPhase index .ending)
  | disconnect {live : AgentSessions} {index : Nat} {nodeId : Uuid}
      (phase : live.phases[index]? = some (.opened nodeId))
      : SessionStep site name live (.disconnect index) (live.setPhase index .ending)
  | cleanUp {live : AgentSessions} {index : Nat} (phase : live.phases[index]? = some .ending)
      : SessionStep site name live (.cleanUp index)
          { live.setPhase index .closed with db := cleanUpSession (.text name) live.db }
  | elsewhere {live : AgentSessions} {next : Database} (nodes : next.nodes = live.db.nodes)
      : SessionStep site name live .elsewhere { live with db := next }

def AgentSessions.HasOpen (live : AgentSessions) : Prop :=
  ∃ nodeId, SessionPhase.opened nodeId ∈ live.phases

/-- No handler is in the middle of a step. -/
def AgentSessions.AtRest (live : AgentSessions) : Prop :=
  ∀ phase ∈ live.phases, phase = .closed ∨ ∃ nodeId, phase = .opened nodeId

def NodeOnline (name : String) (db : Database) : Prop :=
  ∃ node, nodeNamed db (.text name) = .ok (some node) ∧ node.status = .online

def CleansUpAlone (name : String) (live : AgentSessions) : SessionEvent → Prop
  | .cleanUp _ =>
      ∀ node, nodeNamed live.db (.text name) = .ok (some node) → node.status = .online
        → (runningServersOnNode live.db node.id ≠ [] ↔ live.HasOpen)
  | _ => True

/-- The steps whose cleanups meet the condition. -/
def CarefulStep (site : Site) (name : String) (before : AgentSessions) (event : SessionEvent)
    (after : AgentSessions)
    : Prop :=
  SessionStep site name before event after ∧ CleansUpAlone name before event

-- What the sessions keep

def SessionPhase.nodeId? : SessionPhase → Option Uuid
  | .connecting _ node => some node.id
  | .opened nodeId => some nodeId
  | .ending | .closed => none

/-- The sessions belong to the node with the name; it is online while one of them is open, and
if it is online, one is open or about to be cleaned up.
-/
structure SessionsKept (name : String) (live : AgentSessions) : Prop where
  owned
    : ∀ phase ∈ live.phases, ∀ nodeId, phase.nodeId? = some nodeId
      → ∃ entry, entryNamed name (roster live.db) = some entry ∧ entry.id = nodeId
  online
    : live.HasOpen → ∀ entry, entryNamed name (roster live.db) = some entry
      → entry.status = .online
  open_or_ending
    : ∀ entry, entryNamed name (roster live.db) = some entry → entry.status = .online
      → live.HasOpen ∨ SessionPhase.ending ∈ live.phases

section Steps

variable {site : Site} {name : String} {live : AgentSessions} {index : Nat}

theorem mem_setPhase {new phase : SessionPhase} (member : phase ∈ (live.setPhase index new).phases)
    : phase ∈ live.phases ∨ phase = new :=
  List.mem_or_eq_of_mem_set member

theorem setPhase_mem {old : SessionPhase} (stored : live.phases[index]? = some old)
    (new : SessionPhase)
    : new ∈ (live.setPhase index new).phases :=
  List.mem_set (List.getElem?_eq_some_iff.mp stored).1 new

theorem mem_setPhase_of_ne {old new phase : SessionPhase}
    (stored : live.phases[index]? = some old) (member : phase ∈ live.phases)
    (other : phase ≠ old)
    : phase ∈ (live.setPhase index new).phases := by
  obtain ⟨place, bound, rfl⟩ := List.mem_iff_getElem.mp member
  refine List.mem_iff_getElem?.mpr ⟨place, ?_⟩
  have different : index ≠ place := by
    rintro rfl
    rw [List.getElem?_eq_getElem bound] at stored
    exact other (Option.some.inj stored)
  change (live.phases.set index new)[place]? = _
  rw [List.getElem?_set_ne different, List.getElem?_eq_getElem bound]

theorem hasOpen_setPhase {new : SessionPhase} (isOpen : (live.setPhase index new).HasOpen)
    (closes : ∀ nodeId, new ≠ .opened nodeId)
    : live.HasOpen := by
  obtain ⟨nodeId, member⟩ := isOpen
  rcases mem_setPhase member with old | same
  · exact ⟨nodeId, old⟩
  · exact absurd same.symm (closes nodeId)

theorem nodeNamed_entry {db : Database} {node : Node}
    (named : nodeNamed db (.text name) = .ok (some node))
    : entryNamed name (roster db) = some (nodeEntry node) := by
  rw [entryNamed_roster, Except.ok.inj named]
  rfl

theorem entry_nodeNamed {db : Database} {entry : NodeEntry}
    (named : entryNamed name (roster db) = some entry)
    : ∃ node, nodeNamed db (.text name) = .ok (some node) ∧ nodeEntry node = entry := by
  rw [entryNamed_roster] at named
  obtain ⟨node, found, same⟩ := Option.map_eq_some_iff.mp named
  exact ⟨node, congrArg Except.ok found, same⟩

/-- The first transaction of an authenticated session leaves the nodes alone, or adds the node
offline.
-/
theorem admitSession_entry {functions : SessionFunctions} {settings : Settings} {now : Instant}
    {token : String} {request : RegisterRequest} {db : Database} {node : Node}
    (named : request.nodeName = .text name)
    (admitted : (admitSession functions settings now token request db).2 = .ok node)
    : (roster (admitSession functions settings now token request db).1 = roster db
        ∧ entryNamed name (roster db) = some (nodeEntry node))
      ∨ entryNamed name (roster db) = none
        ∧ entryNamed name (roster (admitSession functions settings now token request db).1)
          = some ⟨node.id, name, .offline⟩ := by
  unfold admitSession at admitted ⊢
  cases enrolled : enrolNode settings now request db with
  | error ending =>
      rw [enrolled] at admitted
      cases admitted
  | ok enrolment =>
      rw [enrolled] at admitted
      have own : enrolment.node = node := by
        dsimp only at admitted
        unfold checkAdmission at admitted
        split at admitted
        · cases admitted
        · cases admitted
        · split at admitted
          · cases admitted
          · exact Except.ok.inj admitted
      subst own
      dsimp only
      simp only [enrolNode, named] at enrolled
      cases found : db.nodes.rows.find? (fun node => node.name = name) with
      | some stored =>
          rw [found] at enrolled
          cases enrolled
          refine .inl ⟨rfl, ?_⟩
          rw [entryNamed_roster, found]
          rfl
      | none =>
          rw [found] at enrolled
          dsimp only at enrolled
          split at enrolled
          · cases enrolled
            refine .inr ⟨?_, ?_⟩
            · rw [entryNamed_roster, found]
              rfl
            · rw [entryNamed_roster, Table.rows_create, List.find?_append, found,
                Option.none_or, List.find?_singleton]
              simp [newNode, nodeEntry]
          · cases enrolled

theorem SessionsKept.owned_enter (kept : SessionsKept name live) {db : Database} {nodeId : Uuid}
    {status : NodeState} (entered : roster db = enterStatus nodeId status (roster live.db))
    {phase : SessionPhase} (member : phase ∈ live.phases) {owner : Uuid}
    (owns : phase.nodeId? = some owner)
    : ∃ entry, entryNamed name (roster db) = some entry ∧ entry.id = owner := by
  obtain ⟨entry, found, own⟩ := kept.owned phase member owner owns
  refine ⟨entry.enter nodeId status, ?_, ?_⟩
  · rw [entered, entryNamed_enterStatus, found]
    rfl
  · unfold NodeEntry.enter
    split
    · exact own
    · exact own

theorem SessionsKept.ends (kept : SessionsKept name live) {old : SessionPhase}
    (stored : live.phases[index]? = some old)
    : SessionsKept name (live.setPhase index .ending) where
  owned := by
    intro phase member nodeId owns
    rcases mem_setPhase member with known | rfl
    · exact kept.owned phase known nodeId owns
    · cases owns
  online isOpen := kept.online (hasOpen_setPhase isOpen nofun)
  open_or_ending _ _ _ := .inr (setPhase_mem stored .ending)

theorem SessionsKept.of_roster (kept : SessionsKept name live) {next : Database}
    (same : roster next = roster live.db)
    : SessionsKept name { live with db := next } where
  owned := by
    rw [same]
    exact kept.owned
  online := by
    rw [same]
    exact kept.online
  open_or_ending := by
    rw [same]
    exact kept.open_or_ending

theorem SessionsKept.connect (kept : SessionsKept name live) {now : Instant} {token : String}
    {request : RegisterRequest} {node : Node} (named : request.nodeName = .text name)
    (admitted : (admitSession site.functions site.settings now token request live.db).2
      = .ok node)
    : SessionsKept name
        { db := (admitSession site.functions site.settings now token request live.db).1
          phases := live.phases ++ [.connecting request node] } := by
  have isOpen {phases : List SessionPhase} {nodeId : Uuid}
      (member : SessionPhase.opened nodeId ∈ phases ++ [.connecting request node])
      : .opened nodeId ∈ phases := by
    rcases List.mem_append.mp member with old | new
    · exact old
    · cases List.mem_singleton.mp new
  rcases admitSession_entry named admitted with ⟨same, found⟩ | ⟨missing, added⟩
  · refine ⟨?_, ?_, ?_⟩
    · intro phase member nodeId owns
      rw [same]
      rcases List.mem_append.mp member with old | new
      · exact kept.owned phase old nodeId owns
      · cases List.mem_singleton.mp new
        exact ⟨nodeEntry node, found, Option.some.inj owns⟩
    · rintro ⟨nodeId, member⟩
      rw [same]
      exact kept.online ⟨nodeId, isOpen member⟩
    · rw [same]
      intro entry current online
      rcases kept.open_or_ending entry current online with ⟨nodeId, member⟩ | ending
      · exact .inl ⟨nodeId, List.mem_append_left _ member⟩
      · exact .inr (List.mem_append_left _ ending)
  · have unowned {phase : SessionPhase} (member : phase ∈ live.phases) {nodeId : Uuid}
        (owns : phase.nodeId? = some nodeId)
        : False := by
      obtain ⟨entry, found, _⟩ := kept.owned phase member nodeId owns
      rw [missing] at found
      cases found
    refine ⟨?_, ?_, ?_⟩
    · intro phase member nodeId owns
      rcases List.mem_append.mp member with old | new
      · exact (unowned old owns).elim
      · cases List.mem_singleton.mp new
        exact ⟨_, added, Option.some.inj owns⟩
    · rintro ⟨nodeId, member⟩
      exact (unowned (isOpen member) rfl).elim
    · intro entry current online
      rw [added] at current
      cases current
      cases online

theorem SessionsKept.complete (kept : SessionsKept name live) {now : Instant}
    {request : RegisterRequest} {node : Node}
    (stored : live.phases[index]? = some (.connecting request node))
    : SessionsKept name
        { live.setPhase index (.opened node.id) with
          db := completeAdmission site.settings now request node live.db } := by
  have entered := roster_completeAdmission site.settings now request node live.db
  obtain ⟨own, found, same⟩ :=
    kept.owned _ (List.mem_of_getElem? stored) node.id rfl
  have current : entryNamed name
      (roster (completeAdmission site.settings now request node live.db))
      = some ⟨own.id, own.name, .online⟩ := by
    rw [entered, entryNamed_enterStatus, found, Option.map_some, NodeEntry.enter_own same]
  refine ⟨?_, ?_, ?_⟩
  · intro phase member nodeId owns
    rcases mem_setPhase member with old | rfl
    · exact kept.owned_enter entered old owns
    · exact ⟨_, current, same.trans (Option.some.inj owns)⟩
  · intro _ entry found
    rw [current] at found
    cases found
    rfl
  · exact fun _ _ _ => .inl ⟨node.id, setPhase_mem stored _⟩

theorem SessionsKept.cleanUp (kept : SessionsKept name live)
    (stored : live.phases[index]? = some .ending)
    (alone : CleansUpAlone name live (.cleanUp index))
    : SessionsKept name
        { live.setPhase index .closed with db := cleanUpSession (.text name) live.db } := by
  rcases roster_cleanUp (.text name) live.db with ⟨same, busy⟩ | ⟨node, named, idle, _, entered⟩
  · refine ⟨?_, ?_, ?_⟩
    · intro phase member nodeId owns
      rw [same]
      rcases mem_setPhase member with old | rfl
      · exact kept.owned phase old nodeId owns
      · cases owns
    · intro isOpen
      rw [same]
      exact kept.online (hasOpen_setPhase isOpen nofun)
    · rw [same]
      intro entry current online
      obtain ⟨node, named, rfl⟩ := entry_nodeNamed current
      obtain ⟨nodeId, member⟩ := (alone node named online).mp (busy node named)
      exact .inl ⟨nodeId, mem_setPhase_of_ne stored member nofun⟩
  · have current : entryNamed name (roster (cleanUpSession (.text name) live.db))
        = some ⟨node.id, node.name, .offline⟩ := by
      have own : (nodeEntry node).id = node.id := rfl
      rw [entered, entryNamed_enterStatus, nodeNamed_entry named, Option.map_some,
        NodeEntry.enter_own own]
      rfl
    refine ⟨?_, ?_, ?_⟩
    · intro phase member nodeId owns
      rcases mem_setPhase member with old | rfl
      · exact kept.owned_enter entered old owns
      · cases owns
    · intro isOpen
      have before := hasOpen_setPhase isOpen nofun
      have online := kept.online before _ (nodeNamed_entry named)
      exact absurd idle ((alone node named online).mpr before)
    · intro entry found online
      rw [current] at found
      cases found
      cases online

theorem SessionsKept.step {before after : AgentSessions} {event : SessionEvent}
    (kept : SessionsKept name before) (taken : CarefulStep site name before event after)
    : SessionsKept name after := by
  obtain ⟨step, alone⟩ := taken
  cases step with
  | connect named admitted => exact kept.connect named admitted
  | complete stored => exact kept.complete stored
  | abandon stored _ => exact kept.ends stored
  | receive _ handled => exact kept.of_roster (roster_receive handled)
  | refuse stored _ => exact kept.ends stored
  | disconnect stored => exact kept.ends stored
  | cleanUp stored => exact kept.cleanUp stored alone
  | elsewhere nodes => exact kept.of_roster (roster_same nodes)

end Steps

-- Runs

variable {World : Type}

/-- In every run of careful steps from a node without sessions that is not online: at rest the
node is online exactly while a session of it is open, and the end of a session leaves everything
as it is while another one is open.
-/
theorem liveness_tracks_sessions (site : Site) (name : String) {start finish : AgentSessions}
    (fresh : start.phases = []) (offline : ¬ NodeOnline name start.db)
    (reached : Reachable (CarefulStep site name) start finish)
    : (finish.AtRest → (NodeOnline name finish.db ↔ finish.HasOpen))
      ∧ ∀ index after, CarefulStep site name finish (.cleanUp index) after → finish.HasOpen
        → after.db = finish.db := by
  have initial : SessionsKept name start := by
    refine ⟨?_, ?_, ?_⟩
    · intro phase member
      rw [fresh] at member
      cases member
    · rintro ⟨nodeId, member⟩
      rw [fresh] at member
      cases member
    · intro entry current online
      obtain ⟨node, named, rfl⟩ := entry_nodeNamed current
      exact absurd ⟨node, named, online⟩ offline
  have kept : SessionsKept name finish :=
    reached.invariant (SessionsKept name) (fun taken held => held.step taken) initial
  refine ⟨?_, ?_⟩
  · intro rest
    constructor
    · rintro ⟨node, named, online⟩
      rcases kept.open_or_ending _ (nodeNamed_entry named) online with isOpen | ending
      · exact isOpen
      · rcases rest _ ending with closed | ⟨nodeId, opened⟩
        · cases closed
        · cases opened
    · intro isOpen
      obtain ⟨nodeId, member⟩ := isOpen
      obtain ⟨entry, current, _⟩ := kept.owned _ member nodeId rfl
      obtain ⟨node, named, rfl⟩ := entry_nodeNamed current
      exact ⟨node, named, kept.online ⟨nodeId, member⟩ _ current⟩
  · rintro index after ⟨step, alone⟩ isOpen
    cases step with
    | cleanUp stored =>
        rcases roster_cleanUp (.text name) finish.db with
          ⟨same, _⟩ | ⟨node, named, idle, _, _⟩
        · exact same
        · have online := kept.online isOpen _ (nodeNamed_entry named)
          exact absurd idle ((alone node named online).mpr isOpen)

-- Two sessions

instance (name : String) (db : Database) : Decidable (NodeOnline name db) :=
  decidable_of_iff ((entryNamed name (roster db)).map NodeEntry.status = some .online) (by
    constructor
    · intro online
      obtain ⟨entry, current, status⟩ := Option.map_eq_some_iff.mp online
      obtain ⟨node, named, rfl⟩ := entry_nodeNamed current
      exact ⟨node, named, status⟩
    · rintro ⟨node, named, online⟩
      rw [nodeNamed_entry named]
      exact congrArg some online)

private def agentNode : Node where
  id := 1
  name := "first"
  ipAddress := "10.0.0.1"
  statusUpdatedAt := 0
  approved := true

private def agentDb : Database where
  nodes := ⟨[agentNode], by simp⟩

private def agentRequest : RegisterRequest where
  nodeName := .text "first"
  nodeIp := "10.0.0.1"
  nodePort := 9000

private def admittedDb : Database := completeAdmission {} 0 agentRequest agentNode agentDb

private def onlineNode : Node :=
  { agentNode with status := .online, lastHeartbeat := some 0 }

private theorem agent_admitted
    : Reachable (CarefulStep sampleSite "first") { db := agentDb }
        { db := admittedDb, phases := [.opened 1] } := by
  have connects : CarefulStep sampleSite "first" { db := agentDb }
      (.connect 0 "change-me-in-dev" agentRequest)
      { db := agentDb, phases := [.connecting agentRequest agentNode] } :=
    ⟨.connect rfl (by rfl), trivial⟩
  have completes : CarefulStep sampleSite "first"
      { db := agentDb, phases := [.connecting agentRequest agentNode] } (.complete 0 0)
      { db := admittedDb, phases := [.opened 1] } :=
    ⟨.complete rfl, trivial⟩
  exact ((Reachable.refl _).next connects).next completes

private def leftSession : AgentSessions where
  db := cleanUpSession (.text "first") admittedDb
  phases := [.closed]

/-- The only session ends and is cleaned up. -/
theorem admitted_session_tracked
    : (NodeOnline "first" leftSession.db ↔ leftSession.HasOpen)
      ∧ ¬ NodeOnline "first" leftSession.db := by
  have drops : CarefulStep sampleSite "first" { db := admittedDb, phases := [.opened 1] }
      (.disconnect 0) { db := admittedDb, phases := [.ending] } :=
    ⟨.disconnect rfl, trivial⟩
  have alone : CleansUpAlone "first" { db := admittedDb, phases := [.ending] } (.cleanUp 0) := by
    intro node _ _
    refine ⟨fun runs => absurd rfl runs, ?_⟩
    rintro ⟨nodeId, member⟩
    cases List.mem_singleton.mp member
  have cleans : CarefulStep sampleSite "first" { db := admittedDb, phases := [.ending] }
      (.cleanUp 0) leftSession :=
    ⟨.cleanUp rfl, alone⟩
  have reached := (agent_admitted.next drops).next cleans
  exact ⟨(liveness_tracks_sessions sampleSite "first" rfl (by decide +kernel) reached).1
    (fun _ member => .inl (List.mem_singleton.mp member)), by decide +kernel⟩

/-- The agent connects again, and then the server notices that the first connection is gone: the
cleanup of the first session takes the node offline while the second one is open.
-/
theorem reconnected_agent_offline
    : ∃ finish, Reachable (SessionStep sampleSite "first") { db := agentDb } finish
      ∧ ¬ NodeOnline "first" agentDb ∧ finish.AtRest ∧ finish.HasOpen
      ∧ ¬ NodeOnline "first" finish.db := by
  have admitted := agent_admitted.mono (fun _ _ _ taken => taken.1)
  have connects : SessionStep sampleSite "first" { db := admittedDb, phases := [.opened 1] }
      (.connect 0 "change-me-in-dev" agentRequest)
      { db := admittedDb, phases := [.opened 1, .connecting agentRequest onlineNode] } :=
    .connect rfl (by rfl)
  have completes : SessionStep sampleSite "first"
      { db := admittedDb, phases := [.opened 1, .connecting agentRequest onlineNode] }
      (.complete 1 0)
      { db := completeAdmission {} 0 agentRequest onlineNode admittedDb,
        phases := [.opened 1, .opened 1] } :=
    .complete rfl
  have drops : SessionStep sampleSite "first"
      { db := completeAdmission {} 0 agentRequest onlineNode admittedDb,
        phases := [.opened 1, .opened 1] }
      (.disconnect 0)
      { db := completeAdmission {} 0 agentRequest onlineNode admittedDb,
        phases := [.ending, .opened 1] } :=
    .disconnect rfl
  have cleans : SessionStep sampleSite "first"
      { db := completeAdmission {} 0 agentRequest onlineNode admittedDb,
        phases := [.ending, .opened 1] }
      (.cleanUp 0)
      { db := cleanUpSession (.text "first")
          (completeAdmission {} 0 agentRequest onlineNode admittedDb),
        phases := [.closed, .opened 1] } :=
    .cleanUp rfl
  refine ⟨_, (((admitted.next connects).next completes).next drops).next cleans,
    by decide +kernel, ?_, ⟨1, by simp⟩, by decide +kernel⟩
  intro phase member
  rcases List.mem_cons.mp member with closed | opened
  · exact .inl closed
  · exact .inr ⟨1, List.mem_singleton.mp opened⟩

end Blockhost.ControlPlane
