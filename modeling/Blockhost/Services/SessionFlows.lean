import Blockhost.Services.ProxySessions

/-! Every datagram that meets its current route belongs to the backend of the route, from where it
waits to where it is sent, as long as no client has anything left of an earlier backend.
-/

namespace Blockhost.GameProxy

open Library

-- The invariant

def handled (traffic : Traffic) : List Nat :=
  traffic.sent.map Prod.fst ++ traffic.forwards.map Forward.datagram

/-- A datagram that met its current route belongs to the backend of the route. -/
def Expects (received : List Datagram) (index : Nat) (backend : Backend) : Prop :=
  ∀ datagram route, received[index]? = some datagram → datagram.loaded = true
    → datagram.current = some route → route.backend = backend

def Serves (traffic : Traffic) (index : Nat) (protocol : ProtocolId) (client : ClientAddr)
    : Prop :=
  ∃ task, traffic.tasks[index]? = some task ∧ task.protocol = protocol ∧ task.client = client
    ∧ (task.returned = none
      ∨ task.returned = some true ∧ (traffic.clientSessions protocol client).isSome = true)

structure Flow (traffic : Traffic) : Prop where
  agree
    : ∀ forward ∈ traffic.forwards,
        HoldsOnly traffic forward.protocol forward.client forward.backend
  awaited
    : ∀ forward ∈ traffic.forwards, ∀ index, forward.awaits = some index
      → Serves traffic index forward.protocol forward.client
  dict
    : ∀ protocol client index, traffic.sessionTasks protocol client = some index
      → ∃ task, traffic.tasks[index]? = some task ∧ task.protocol = protocol
        ∧ task.client = client
  once : (handled traffic).Nodup
  known : ∀ index ∈ handled traffic, index < traffic.received.length
  waiting : ∀ forward ∈ traffic.forwards, Expects traffic.received forward.datagram forward.backend
  gone : ∀ entry ∈ traffic.sent, Expects traffic.received entry.1 entry.2
  all
    : ∀ index datagram route, traffic.received[index]? = some datagram
      → datagram.loaded = true → datagram.current = some route → index ∈ handled traffic

theorem flow_start : Flow {} where
  agree := nofun
  awaited := nofun
  dict _ _ _ found := nomatch found
  once := List.nodup_nil
  known := nofun
  waiting := nofun
  gone := nofun
  all _ _ _ found := nomatch found

theorem sentTo_of_mem {sent : List (Nat × Backend)} (once : (sent.map Prod.fst).Nodup)
    {entry : Nat × Backend} (member : entry ∈ sent)
    : (sent.filter (fun other => other.1 = entry.1)).map Prod.snd = [entry.2] := by
  induction sent with
  | nil => cases member
  | cons first rest ih =>
      rw [List.map_cons, List.nodup_cons] at once
      rcases List.mem_cons.mp member with rfl | later
      · have others : rest.filter (fun other => other.1 = entry.1) = [] := by
          rw [List.filter_eq_nil_iff]
          intro other known same
          exact once.1 (List.mem_map.mpr ⟨other, known, of_decide_eq_true same⟩)
        rw [List.filter_cons_of_pos (by simp), others]
        rfl
      · have other : first.1 ≠ entry.1 := by
          intro same
          exact once.1 (same ▸ List.mem_map_of_mem later)
        rw [List.filter_cons_of_neg (by simpa using other)]
        exact ih once.2 later

theorem Flow.follows {traffic : Traffic} (flow : Flow traffic) : FollowsRoutes traffic := by
  intro index datagram route found loaded current
  have once := List.nodup_append.mp flow.once
  rcases List.mem_append.mp (flow.all index datagram route found loaded current) with sent | waits
  · left
    obtain ⟨entry, member, rfl⟩ := List.mem_map.mp sent
    rw [flow.gone entry member datagram route found loaded current]
    exact sentTo_of_mem once.1 member
  · refine .inr ⟨?_, waits⟩
    unfold sentTo
    rw [List.map_eq_nil_iff, List.filter_eq_nil_iff]
    intro entry member same
    exact once.2.2 index (of_decide_eq_true same ▸ List.mem_map_of_mem member) index waits rfl

-- Steps

variable {traffic next : Traffic}

theorem Expects.append {received : List Datagram} {index : Nat} {backend : Backend}
    (expects : Expects received index backend) (known : index < received.length)
    (datagram : Datagram)
    : Expects (received ++ [datagram]) index backend := by
  intro other route found
  rw [List.getElem?_append_left known] at found
  exact expects other route found

theorem handled_waiting {forward : Forward} (member : forward ∈ traffic.forwards)
    : forward.datagram ∈ handled traffic :=
  List.mem_append_right _ (List.mem_map_of_mem member)

theorem handled_sent {entry : Nat × Backend} (member : entry ∈ traffic.sent)
    : entry.1 ∈ handled traffic :=
  List.mem_append_left _ (List.mem_map_of_mem member)

theorem Flow.elsewhere (flow : Flow traffic) (rows : List RouteRow) (proxy : Proxy)
    : Flow { traffic with rows, proxy } where
  agree forward member :=
    ⟨(flow.agree forward member).session, (flow.agree forward member).tasks,
      (flow.agree forward member).forwards⟩
  awaited := flow.awaited
  dict := flow.dict
  once := flow.once
  known := flow.known
  waiting := flow.waiting
  gone := flow.gone
  all := flow.all

theorem Flow.noted (flow : Flow traffic) (datagram : Datagram)
    {sent : List (Nat × Backend)} {forwards : List Forward}
    (sentNew
      : ∀ entry ∈ sent, entry ∈ traffic.sent
        ∨ entry.1 = traffic.received.length
          ∧ Expects (traffic.received ++ [datagram]) entry.1 entry.2)
    (waitingNew
      : ∀ forward ∈ forwards, forward ∈ traffic.forwards
        ∨ forward.datagram = traffic.received.length ∧ forward.awaits = none
          ∧ Expects (traffic.received ++ [datagram]) forward.datagram forward.backend)
    (agree
      : ∀ forward ∈ forwards,
          HoldsOnly { traffic with forwards } forward.protocol forward.client forward.backend)
    (handledNew
      : sent.map Prod.fst ++ forwards.map Forward.datagram = handled traffic
        ∧ (datagram.loaded = true → datagram.current = none)
        ∨ (sent.map Prod.fst ++ forwards.map Forward.datagram).Perm
            (traffic.received.length :: handled traffic))
    : Flow { traffic with received := traffic.received ++ [datagram], sent, forwards } where
  agree forward member :=
    ⟨(agree forward member).session, (agree forward member).tasks,
      (agree forward member).forwards⟩
  awaited forward member index found := by
    rcases waitingNew forward member with old | ⟨_, fresh, _⟩
    · exact flow.awaited forward old index found
    · cases fresh.symm.trans found
  dict := flow.dict
  once := by
    unfold handled
    rcases handledNew with ⟨same, _⟩ | perm
    · rw [same]
      exact flow.once
    · refine perm.nodup_iff.mpr (List.nodup_cons.mpr ⟨?_, flow.once⟩)
      intro member
      exact absurd (flow.known _ member) (Nat.lt_irrefl _)
  known index member := by
    rw [List.length_append, List.length_singleton]
    unfold handled at member
    rcases handledNew with ⟨same, _⟩ | perm
    · rw [same] at member
      exact (flow.known index member).trans (Nat.lt_succ_self _)
    · rcases List.mem_cons.mp (perm.mem_iff.mp member) with rfl | old
      · exact Nat.lt_succ_self _
      · exact (flow.known index old).trans (Nat.lt_succ_self _)
  waiting forward member := by
    rcases waitingNew forward member with old | ⟨_, _, expects⟩
    · exact (flow.waiting forward old).append (flow.known _ (handled_waiting old)) datagram
    · exact expects
  gone entry member := by
    rcases sentNew entry member with old | ⟨_, expects⟩
    · exact (flow.gone entry old).append (flow.known _ (handled_sent old)) datagram
    · exact expects
  all index other route found loaded current := by
    unfold handled
    rcases Nat.lt_or_ge index traffic.received.length with known | new
    · rw [List.getElem?_append_left known] at found
      have old := flow.all index other route found loaded current
      rcases handledNew with ⟨same, _⟩ | perm
      · rw [same]
        exact old
      · exact perm.mem_iff.mpr (List.mem_cons_of_mem _ old)
    · rw [List.getElem?_append_right new] at found
      obtain ⟨bound, same⟩ := List.getElem?_eq_some_iff.mp found
      rw [List.length_singleton] at bound
      have last : index = traffic.received.length := by omega
      rcases handledNew with ⟨_, unclaimed⟩ | perm
      · rw [List.getElem_singleton] at same
        cases same
        cases current.symm.trans (unclaimed loaded)
      · exact perm.mem_iff.mpr (last ▸ List.mem_cons_self)

theorem Flow.receive (flow : Flow traffic) {protocol : ProtocolId} {port : Port}
    {client : ClientAddr} (listening : traffic.proxy.udpTransports port = some protocol)
    (calm : Calm traffic (.receive port client))
    : Flow (datagramReceived protocol port client traffic) := by
  have same : ∀ forward ∈ traffic.forwards,
      HoldsOnly traffic forward.protocol forward.client forward.backend :=
    flow.agree
  unfold datagramReceived
  dsimp only
  cases routed : traffic.proxy.routingTable port with
  | none =>
      refine flow.noted _ (fun _ => .inl) (fun _ => .inl) same (.inl ⟨rfl, ?_⟩)
      intro loaded
      exact (of_decide_eq_true loaded).symm
  | some route =>
      obtain ⟨awake, holds⟩ := calm protocol route listening routed
      dsimp only
      cases suspended : route.isSuspended with
      | true =>
          rw [if_pos rfl]
          refine flow.noted _ (fun _ => .inl) (fun _ => .inl) same (.inl ⟨rfl, ?_⟩)
          intro loaded
          cases suspended.symm.trans (awake (of_decide_eq_true loaded).symm)
      | false =>
          rw [if_neg (by decide)]
          have held := holds suspended
          have expects (backend : Backend) (own : route.backend = backend)
              : Expects (traffic.received
                  ++ [{ port, client, current := loadRoutingTable traffic.rows port,
                        loaded := some route = loadRoutingTable traffic.rows port }])
                  traffic.received.length backend := by
            intro datagram other found loaded current
            rw [List.getElem?_append_right le_rfl, Nat.sub_self] at found
            cases found
            have current : loadRoutingTable traffic.rows port = some other := current
            have kept := (of_decide_eq_true loaded).trans current
            cases kept
            exact own
          cases session : traffic.clientSessions protocol client with
          | some backend =>
              refine flow.noted _ ?_ (fun _ => .inl) same (.inr ?_)
              · intro entry member
                rcases List.mem_append.mp member with old | new
                · exact .inl old
                · cases List.mem_singleton.mp new
                  exact .inr ⟨rfl, expects backend (held.session backend session).symm⟩
              · rw [List.map_append, List.append_assoc]
                exact List.perm_middle
          | none =>
              refine flow.noted _ (fun _ => .inl) ?_ ?_ (.inr ?_)
              · intro forward member
                rcases List.mem_append.mp member with old | new
                · exact .inl old
                · cases List.mem_singleton.mp new
                  exact .inr ⟨rfl, rfl, expects route.backend rfl⟩
              · intro forward member
                rcases List.mem_append.mp member with old | new
                · refine ⟨(same forward old).session, (same forward old).tasks, ?_⟩
                  intro other found ownProtocol ownClient
                  rcases List.mem_append.mp found with known | added
                  · exact (same forward old).forwards other known ownProtocol ownClient
                  · cases List.mem_singleton.mp added
                    exact (held.forwards forward old ownProtocol.symm ownClient.symm).symm
                · cases List.mem_singleton.mp new
                  refine ⟨held.session, held.tasks, ?_⟩
                  intro other found ownProtocol ownClient
                  rcases List.mem_append.mp found with known | added
                  · exact held.forwards other known ownProtocol ownClient
                  · cases List.mem_singleton.mp added
                    rfl
              · rw [List.map_append, ← List.append_assoc]
                exact List.perm_append_singleton _ _

theorem awaiting_datagrams (datagram index : Nat) (forwards : List Forward)
    : (awaiting datagram index forwards).map Forward.datagram
      = forwards.map Forward.datagram := by
  unfold awaiting
  rw [List.map_map]
  refine List.map_congr_left fun forward _ => ?_
  dsimp only [Function.comp_apply]
  split <;> rfl

theorem mem_awaiting {datagram index : Nat} {forwards : List Forward} {forward : Forward}
    (member : forward ∈ awaiting datagram index forwards)
    : ∃ before ∈ forwards, forward.datagram = before.datagram
      ∧ forward.protocol = before.protocol ∧ forward.client = before.client
      ∧ forward.backend = before.backend
      ∧ (before.datagram = datagram ∧ forward.awaits = some index
        ∨ forward.awaits = before.awaits) := by
  obtain ⟨before, known, rfl⟩ := List.mem_map.mp member
  refine ⟨before, known, ?_⟩
  split
  · exact ⟨rfl, rfl, rfl, rfl, .inl ⟨‹_›, rfl⟩⟩
  · exact ⟨rfl, rfl, rfl, rfl, .inr rfl⟩

theorem setSession_same {Value : Type} (protocol : ProtocolId) (client : ClientAddr)
    (value : Option Value) (dict : ProtocolId → ClientAddr → Option Value)
    : setSession protocol client value dict protocol client = value := by
  simp [setSession]

theorem setSession_other {Value : Type} {protocol own : ProtocolId} {client other : ClientAddr}
    (value : Option Value) (dict : ProtocolId → ClientAddr → Option Value)
    (differs : ¬ (own = protocol ∧ other = client))
    : setSession protocol client value dict own other = dict own other := by
  unfold setSession
  by_cases same : own = protocol
  · subst same
    rw [Function.update_self, Function.update_of_ne (fun equal => differs ⟨rfl, equal⟩)]
  · rw [Function.update_of_ne same]

theorem runningTask_some {protocol : ProtocolId} {client : ClientAddr} {index : Nat}
    (found : runningTask protocol client traffic = some index)
    : traffic.sessionTasks protocol client = some index
      ∧ ∃ task, traffic.tasks[index]? = some task ∧ task.returned = none := by
  obtain ⟨stored, runs⟩ := Option.filter_eq_some_iff.mp found
  obtain ⟨task, at_index, unreturned⟩ := (Option.any_eq_true _ _).mp runs
  exact ⟨stored, task, at_index, Option.isNone_iff_eq_none.mp unreturned⟩

theorem Flow.unique (flow : Flow traffic) {forward other : Forward}
    (member : forward ∈ traffic.forwards) (known : other ∈ traffic.forwards)
    (same : other.datagram = forward.datagram)
    : other = forward :=
  List.inj_on_of_nodup_map (List.nodup_append.mp flow.once).2.1 known member same

theorem Flow.begin (flow : Flow traffic) {forward : Forward} (member : forward ∈ traffic.forwards)
    : Flow (beginForward forward traffic) := by
  have handledSame (index : Nat)
      : traffic.sent.map Prod.fst
          ++ (awaiting forward.datagram index traffic.forwards).map Forward.datagram
        = handled traffic := by
    rw [awaiting_datagrams]
    rfl
  unfold beginForward
  cases running : runningTask forward.protocol forward.client traffic with
  | some index =>
      dsimp only
      obtain ⟨stored, task, found, unreturned⟩ := runningTask_some running
      obtain ⟨served, same, protocol, client⟩ := flow.dict _ _ _ stored
      cases found.symm.trans same
      refine
        { agree := ?_, awaited := ?_, dict := flow.dict, once := ?_, known := ?_, waiting := ?_,
          gone := flow.gone, all := ?_ }
      · intro other changed
        obtain ⟨before, known, _, ownProtocol, ownClient, ownBackend, _⟩ := mem_awaiting changed
        have holds := flow.agree before known
        rw [ownProtocol, ownClient, ownBackend]
        refine ⟨holds.session, holds.tasks, ?_⟩
        intro third other protocolSame clientSame
        obtain ⟨was, listed, _, wasProtocol, wasClient, wasBackend, _⟩ := mem_awaiting other
        rw [wasBackend]
        exact holds.forwards was listed (wasProtocol.symm.trans protocolSame)
          (wasClient.symm.trans clientSame)
      · intro other changed awaited found'
        obtain ⟨before, known, _, ownProtocol, ownClient, _, awaits⟩ := mem_awaiting changed
        rw [ownProtocol, ownClient]
        rcases awaits with ⟨own, fresh⟩ | old
        · cases flow.unique member known own
          cases fresh.symm.trans found'
          exact ⟨task, found, protocol, client, .inl unreturned⟩
        · exact flow.awaited before known awaited (old.symm.trans found')
      · unfold handled
        rw [handledSame]
        exact flow.once
      · unfold handled
        rw [handledSame]
        exact flow.known
      · intro other changed
        obtain ⟨before, known, ownDatagram, _, _, ownBackend, _⟩ := mem_awaiting changed
        rw [ownDatagram, ownBackend]
        exact flow.waiting before known
      · intro other datagram route
        unfold handled
        rw [handledSame]
        exact flow.all other datagram route
  | none =>
      dsimp only
      have kept {index : Nat} {task : SessionTask} (found : traffic.tasks[index]? = some task)
          (added : List SessionTask)
          : (traffic.tasks ++ added)[index]? = some task := by
        rw [List.getElem?_append_left (List.getElem?_eq_some_iff.mp found).1]
        exact found
      have fresh (task : SessionTask)
          : (traffic.tasks ++ [task])[traffic.tasks.length]? = some task := by
        rw [List.getElem?_append_right le_rfl, Nat.sub_self]
        rfl
      refine
        { agree := ?_, awaited := ?_, dict := ?_, once := ?_, known := ?_, waiting := ?_,
          gone := flow.gone, all := ?_ }
      · intro other changed
        obtain ⟨before, known, _, ownProtocol, ownClient, ownBackend, _⟩ := mem_awaiting changed
        have holds := flow.agree before known
        rw [ownProtocol, ownClient, ownBackend]
        refine ⟨holds.session, ?_, ?_⟩
        · intro task stored taskProtocol taskClient unreturned
          rcases List.mem_append.mp stored with old | new
          · exact holds.tasks task old taskProtocol taskClient unreturned
          · cases List.mem_singleton.mp new
            exact holds.forwards forward member taskProtocol taskClient
        · intro third other protocolSame clientSame
          obtain ⟨was, listed, _, wasProtocol, wasClient, wasBackend, _⟩ := mem_awaiting other
          rw [wasBackend]
          exact holds.forwards was listed (wasProtocol.symm.trans protocolSame)
            (wasClient.symm.trans clientSame)
      · intro other changed awaited found
        obtain ⟨before, known, _, ownProtocol, ownClient, _, awaits⟩ := mem_awaiting changed
        rw [ownProtocol, ownClient]
        rcases awaits with ⟨own, new⟩ | old
        · cases flow.unique member known own
          cases new.symm.trans found
          exact ⟨_, fresh _, rfl, rfl, .inl rfl⟩
        · obtain ⟨task, stored, rest⟩ := flow.awaited before known awaited (old.symm.trans found)
          exact ⟨task, kept stored _, rest⟩
      · intro protocol client index found
        have found
            : setSession forward.protocol forward.client (some traffic.tasks.length)
                traffic.sessionTasks protocol client = some index := found
        by_cases same : protocol = forward.protocol ∧ client = forward.client
        · obtain ⟨rfl, rfl⟩ := same
          rw [setSession_same] at found
          cases found
          exact ⟨_, fresh _, rfl, rfl⟩
        · rw [setSession_other _ _ same] at found
          obtain ⟨task, stored, rest⟩ := flow.dict protocol client index found
          exact ⟨task, kept stored _, rest⟩
      · unfold handled
        rw [handledSame]
        exact flow.once
      · unfold handled
        rw [handledSame]
        exact flow.known
      · intro other changed
        obtain ⟨before, known, ownDatagram, _, _, ownBackend, _⟩ := mem_awaiting changed
        rw [ownDatagram, ownBackend]
        exact flow.waiting before known
      · intro other datagram route
        unfold handled
        rw [handledSame]
        exact flow.all other datagram route

theorem Flow.finished (flow : Flow traffic) {index : Nat} {task : SessionTask}
    (found : traffic.tasks[index]? = some task) (running : task.returned = none)
    {sessions : ProtocolId → ClientAddr → Option Backend}
    (origin
      : ∀ protocol client backend, sessions protocol client = some backend
        → traffic.clientSessions protocol client = some backend
          ∨ protocol = task.protocol ∧ client = task.client ∧ backend = task.backend)
    (kept
      : ∀ protocol client, (traffic.clientSessions protocol client).isSome = true
        → (sessions protocol client).isSome = true)
    (opened : (sessions task.protocol task.client).isSome = true)
    : Flow { traffic with
        tasks := traffic.tasks.set index { task with returned := some true }
        clientSessions := sessions } := by
  have bound : index < traffic.tasks.length := (List.getElem?_eq_some_iff.mp found).1
  have known : task ∈ traffic.tasks := List.mem_of_getElem? found
  -- a task at another index is as before
  have lookup (other : Nat) {before : SessionTask} (stored : traffic.tasks[other]? = some before)
      : ∃ after,
          (traffic.tasks.set index { task with returned := some true })[other]? = some after
          ∧ after.protocol = before.protocol ∧ after.client = before.client
          ∧ (other ≠ index ∧ after = before
            ∨ other = index ∧ before = task ∧ after.returned = some true) := by
    by_cases same : other = index
    · subst same
      cases found.symm.trans stored
      exact ⟨_, List.getElem?_set_self bound, rfl, rfl, .inr ⟨rfl, rfl, rfl⟩⟩
    · refine ⟨before, ?_, rfl, rfl, .inl ⟨same, rfl⟩⟩
      rw [List.getElem?_set_ne (Ne.symm same)]
      exact stored
  refine
    { agree := ?_, awaited := ?_, dict := ?_, once := flow.once, known := flow.known,
      waiting := flow.waiting, gone := flow.gone, all := flow.all }
  · intro forward member
    have holds := flow.agree forward member
    refine ⟨?_, ?_, holds.forwards⟩
    · intro backend session
      rcases origin _ _ _ session with old | ⟨protocol, client, rfl⟩
      · exact holds.session backend old
      · exact holds.tasks task known protocol.symm client.symm running
    · intro other stored protocol client unreturned
      rcases List.mem_or_eq_of_mem_set stored with old | rfl
      · exact holds.tasks other old protocol client unreturned
      · cases unreturned
  · intro forward member awaited found'
    obtain ⟨before, stored, protocol, client, serves⟩ := flow.awaited forward member awaited found'
    obtain ⟨after, stored', ownProtocol, ownClient, rest⟩ := lookup awaited stored
    refine ⟨after, stored', ownProtocol.trans protocol, ownClient.trans client, ?_⟩
    rcases rest with ⟨_, rfl⟩ | ⟨_, rfl, returned⟩
    · rcases serves with unreturned | ⟨returned, session⟩
      · exact .inl unreturned
      · exact .inr ⟨returned, kept _ _ session⟩
    · refine .inr ⟨returned, ?_⟩
      rw [← protocol, ← client]
      exact opened
  · intro protocol client other stored
    obtain ⟨before, found', ownProtocol, ownClient⟩ := flow.dict protocol client other stored
    obtain ⟨after, stored', sameProtocol, sameClient, _⟩ := lookup other found'
    exact ⟨after, stored', sameProtocol.trans ownProtocol, sameClient.trans ownClient⟩

theorem Flow.finish (flow : Flow traffic) {index : Nat} {task : SessionTask}
    (found : traffic.tasks[index]? = some task) (running : task.returned = none)
    : Flow (finishTask index task true traffic) := by
  unfold finishTask
  cases session : traffic.clientSessions task.protocol task.client with
  | some backend =>
      refine flow.finished found running (fun _ _ _ => .inl) (fun _ _ => id) ?_
      rw [session]
      rfl
  | none =>
      refine flow.finished found running ?_ ?_ ?_
      · intro protocol client backend stored
        rw [if_pos rfl] at stored
        by_cases same : protocol = task.protocol ∧ client = task.client
        · obtain ⟨rfl, rfl⟩ := same
          rw [setSession_same] at stored
          cases stored
          exact .inr ⟨rfl, rfl, rfl⟩
        · rw [setSession_other _ _ same] at stored
          exact .inl stored
      · intro protocol client stored
        rw [if_pos rfl]
        by_cases same : protocol = task.protocol ∧ client = task.client
        · obtain ⟨rfl, rfl⟩ := same
          rw [setSession_same]
          rfl
        · rw [setSession_other _ _ same]
          exact stored
      · rw [if_pos rfl, setSession_same]
        rfl

theorem resumed_datagrams (flow : Flow traffic) {forward : Forward}
    (member : forward ∈ traffic.forwards)
    : (traffic.forwards.map Forward.datagram).Perm
        (forward.datagram
          :: (traffic.forwards.filter
              (fun other => other.datagram ≠ forward.datagram)).map Forward.datagram) := by
  have once := (List.nodup_append.mp flow.once).2.1
  have rest : (traffic.forwards.map Forward.datagram).erase forward.datagram
      = (traffic.forwards.filter
          (fun other => other.datagram ≠ forward.datagram)).map Forward.datagram := by
    rw [once.erase_eq_filter, List.filter_map]
    congr 1
    refine List.filter_congr fun other _ => ?_
    simp only [Function.comp_apply, ne_eq, decide_not]
    rfl
  rw [← rest]
  exact List.perm_cons_erase (List.mem_map_of_mem member)

theorem Flow.found_session (flow : Flow traffic) {forward : Forward}
    (member : forward ∈ traffic.forwards) {index : Nat} (awaits : forward.awaits = some index)
    {task : SessionTask} (found : traffic.tasks[index]? = some task) {returned : Bool}
    (done : task.returned = some returned)
    : returned = true
      ∧ traffic.clientSessions forward.protocol forward.client = some forward.backend := by
  obtain ⟨served, same, _, _, serves⟩ := flow.awaited forward member index awaits
  cases found.symm.trans same
  rcases serves with running | ⟨succeeded, session⟩
  · cases running.symm.trans done
  · cases done.symm.trans succeeded
    obtain ⟨backend, stored⟩ := Option.isSome_iff_exists.mp session
    rw [stored, (flow.agree forward member).session backend stored]
    exact ⟨rfl, rfl⟩

theorem Flow.resume (flow : Flow traffic) {forward : Forward}
    (member : forward ∈ traffic.forwards)
    (session
      : traffic.clientSessions forward.protocol forward.client = some forward.backend)
    : Flow (resumeForward forward true traffic) := by
  have left : ∀ other ∈ traffic.forwards.filter (fun o => o.datagram ≠ forward.datagram),
      other ∈ traffic.forwards :=
    fun other stored => List.mem_of_mem_filter stored
  have handledPerm
      : (handled (resumeForward forward true traffic)).Perm (handled traffic) := by
    unfold handled resumeForward
    rw [session]
    rw [List.map_append, List.append_assoc]
    exact (List.Perm.append_left _ (resumed_datagrams flow member).symm)
  have same : (resumeForward forward true traffic).received = traffic.received := by
    unfold resumeForward
    rw [session]
  refine
    { agree := ?_, awaited := ?_, dict := ?_, once := handledPerm.nodup_iff.mpr flow.once,
      known := ?_, waiting := ?_, gone := ?_, all := ?_ }
  · unfold resumeForward
    rw [session]
    intro other stored
    have holds := flow.agree other (left other stored)
    exact ⟨holds.session, holds.tasks, fun third found => holds.forwards third (left third found)⟩
  · unfold resumeForward
    rw [session]
    exact fun other stored => flow.awaited other (left other stored)
  · unfold resumeForward
    rw [session]
    exact flow.dict
  · intro index stored
    rw [same]
    exact flow.known index (handledPerm.mem_iff.mp stored)
  · unfold resumeForward
    rw [session]
    exact fun other stored => flow.waiting other (left other stored)
  · unfold resumeForward
    rw [session]
    intro entry stored
    rcases List.mem_append.mp stored with old | new
    · exact flow.gone entry old
    · cases List.mem_singleton.mp new
      exact flow.waiting forward member
  · intro index datagram route found loaded current
    rw [same] at found
    exact handledPerm.mem_iff.mpr (flow.all index datagram route found loaded current)

theorem Flow.connectionLost (flow : Flow traffic) {protocol : ProtocolId}
    (quiet : ∀ forward ∈ traffic.forwards, forward.protocol ≠ protocol)
    : Flow { traffic with
        clientSessions := Function.update traffic.clientSessions protocol (fun _ => none)
        sessionTasks := Function.update traffic.sessionTasks protocol (fun _ => none) } := by
  refine
    { agree := ?_, awaited := ?_, dict := ?_, once := flow.once, known := flow.known,
      waiting := flow.waiting, gone := flow.gone, all := flow.all }
  · intro forward member
    have holds := flow.agree forward member
    refine ⟨?_, holds.tasks, holds.forwards⟩
    dsimp only
    rw [Function.update_of_ne (quiet forward member)]
    exact holds.session
  · intro forward member index found
    obtain ⟨task, stored, ownProtocol, ownClient, serves⟩ :=
      flow.awaited forward member index found
    refine ⟨task, stored, ownProtocol, ownClient, ?_⟩
    dsimp only
    rw [Function.update_of_ne (quiet forward member)]
    exact serves
  · intro own client index found
    by_cases same : own = protocol
    · subst same
      dsimp only at found
      rw [Function.update_self] at found
      cases found
    · dsimp only at found
      rw [Function.update_of_ne same] at found
      exact flow.dict own client index found

-- Runs

/-- Any events that all meet the condition. -/
abbrev CalmRun : Traffic → List TrafficEvent → Traffic → Prop :=
  Run (fun traffic event next => trafficStep event traffic = some next ∧ Calm traffic event)

theorem Flow.step (flow : Flow traffic) {event : TrafficEvent}
    (taken : trafficStep event traffic = some next) (calm : Calm traffic event)
    : Flow next := by
  cases event with
  | changeRows rows =>
      cases taken
      exact flow.elsewhere rows traffic.proxy
  | pass loads binds =>
      cases taken
      exact flow.elsewhere traffic.rows _
  | receive port client =>
      obtain ⟨protocol, listening, rfl⟩ := Option.map_eq_some_iff.mp taken
      exact flow.receive listening calm
  | begin datagram =>
      obtain ⟨forward, found, rfl⟩ := Option.map_eq_some_iff.mp taken
      exact flow.begin (List.mem_of_find?_eq_some found)
  | finish index opens =>
      obtain ⟨task, found, rfl⟩ := Option.map_eq_some_iff.mp taken
      obtain ⟨stored, running⟩ := Option.filter_eq_some_iff.mp found
      have calm : opens = true := calm
      subst calm
      exact flow.finish stored (Option.isNone_iff_eq_none.mp running)
  | resume datagram =>
      obtain ⟨forward, found, taken⟩ := Option.bind_eq_some_iff.mp taken
      obtain ⟨index, awaits, taken⟩ := Option.bind_eq_some_iff.mp taken
      obtain ⟨task, stored, taken⟩ := Option.bind_eq_some_iff.mp taken
      obtain ⟨returned, done, taken⟩ := Option.bind_eq_some_iff.mp taken
      cases taken
      have member := List.mem_of_find?_eq_some found
      obtain ⟨rfl, session⟩ := flow.found_session member awaits stored done
      exact flow.resume member session
  | connectionLost protocol =>
      simp only [trafficStep] at taken
      split at taken
      · cases taken
      · cases taken
        exact flow.connectionLost calm

/-- By induction on the events. -/
theorem Flow.run (flow : Flow traffic) {events : List TrafficEvent}
    (run : CalmRun traffic events next)
    : Flow next :=
  run.invariant Flow (fun _ => True) (fun _ taken flow => flow.step taken.1 taken.2)
    (fun _ _ => trivial) flow

-- Waiting datagrams

/-- The code itself can bring a datagram to a backend, with no other datagram received. -/
def Delivers (traffic : Traffic) (datagram : Nat) (backend : Backend) : Prop :=
  ∃ events next, CalmRun traffic events next ∧ next.received = traffic.received
    ∧ sentTo datagram next = [backend]

theorem Flow.find_forward (flow : Flow traffic) {forward : Forward}
    (member : forward ∈ traffic.forwards) (accepts : Forward → Bool)
    (accepted : accepts forward = true)
    (named : ∀ other, accepts other = true → other.datagram = forward.datagram)
    : traffic.forwards.find? accepts = some forward := by
  cases found : traffic.forwards.find? accepts with
  | none => exact absurd accepted (List.find?_eq_none.mp found forward member)
  | some other =>
      rw [flow.unique member (List.mem_of_find?_eq_some found)
        (named other (List.find?_some found))]

theorem Flow.sentTo_eq (flow : Flow traffic) {entry : Nat × Backend}
    (member : entry ∈ traffic.sent)
    : sentTo entry.1 traffic = [entry.2] :=
  sentTo_of_mem (List.nodup_append.mp flow.once).1 member

theorem Delivers.after {middle : Traffic} {event : TrafficEvent}
    (taken : trafficStep event traffic = some middle) (calm : Calm traffic event)
    (same : middle.received = traffic.received) {datagram : Nat} {backend : Backend}
    (delivers : Delivers middle datagram backend)
    : Delivers traffic datagram backend := by
  obtain ⟨events, next, run, received, sent⟩ := delivers
  exact ⟨event :: events, next, run.cons ⟨taken, calm⟩, received.trans same, sent⟩

theorem Flow.delivers_resumed (flow : Flow traffic) {forward : Forward}
    (member : forward ∈ traffic.forwards) {index : Nat} (awaits : forward.awaits = some index)
    {task : SessionTask} (found : traffic.tasks[index]? = some task) {returned : Bool}
    (done : task.returned = some returned)
    : Delivers traffic forward.datagram forward.backend := by
  obtain ⟨rfl, session⟩ := flow.found_session member awaits found done
  have search := flow.find_forward member (fun other => other.datagram = forward.datagram)
    (by simp) (fun other same => of_decide_eq_true same)
  have taken : trafficStep (.resume forward.datagram) traffic
      = some (resumeForward forward true traffic) := by
    simp only [trafficStep, search, awaits, found, done, Option.bind_eq_bind, Option.bind_some]
  have after : Flow (resumeForward forward true traffic) := flow.resume member session
  have sent : (forward.datagram, forward.backend) ∈ (resumeForward forward true traffic).sent := by
    simp [resumeForward, session]
  refine ⟨_, _, .single ⟨taken, trivial⟩, ?_, after.sentTo_eq sent⟩
  simp [resumeForward, session]

theorem Flow.delivers_awaiting (flow : Flow traffic) {forward : Forward}
    (member : forward ∈ traffic.forwards) {index : Nat} (awaits : forward.awaits = some index)
    : Delivers traffic forward.datagram forward.backend := by
  obtain ⟨task, found, _⟩ := flow.awaited forward member index awaits
  cases running : task.returned with
  | some returned => exact flow.delivers_resumed member awaits found running
  | none =>
      have taken : trafficStep (.finish index true) traffic
          = some (finishTask index task true traffic) := by
        simp [trafficStep, found, running]
      have after : Flow (finishTask index task true traffic) := flow.finish found running
      have bound : index < traffic.tasks.length := (List.getElem?_eq_some_iff.mp found).1
      have kept : forward ∈ (finishTask index task true traffic).forwards := by
        unfold finishTask
        split <;> exact member
      have ended : (finishTask index task true traffic).tasks[index]?
          = some { task with returned := some true } := by
        unfold finishTask
        split <;> exact List.getElem?_set_self bound
      refine .after taken rfl ?_ (after.delivers_resumed kept awaits ended rfl)
      unfold finishTask
      split <;> rfl

theorem Flow.delivers (flow : Flow traffic) {forward : Forward}
    (member : forward ∈ traffic.forwards)
    : Delivers traffic forward.datagram forward.backend := by
  cases awaits : forward.awaits with
  | some index => exact flow.delivers_awaiting member awaits
  | none =>
      have search := flow.find_forward member
        (fun other => other.datagram = forward.datagram && other.awaits.isNone)
        (by simp [awaits])
        (fun other same => of_decide_eq_true (Bool.and_eq_true_iff.mp same).1)
      have taken : trafficStep (.begin forward.datagram) traffic
          = some (beginForward forward traffic) := by
        simp only [trafficStep, search, Option.map_some]
      have after : Flow (beginForward forward traffic) := flow.begin member
      obtain ⟨index, kept⟩
          : ∃ index, { forward with awaits := some index }
              ∈ (beginForward forward traffic).forwards := by
        unfold beginForward
        cases runningTask forward.protocol forward.client traffic with
        | some index =>
            exact ⟨index, List.mem_map.mpr ⟨forward, member, if_pos rfl⟩⟩
        | none =>
            exact ⟨traffic.tasks.length, List.mem_map.mpr ⟨forward, member, if_pos rfl⟩⟩
      have rest := after.delivers_awaiting kept rfl
      refine Delivers.after taken trivial ?_ rest
      unfold beginForward
      cases runningTask forward.protocol forward.client traffic <;> rfl

/-- In every run of calm events, each datagram that met the current route of its port is sent to
the backend of the route and to no other, or still waits for its session; the code can send what
waits.
-/
theorem calm_runs_follow_routes {events : List TrafficEvent} {traffic : Traffic}
    (run : CalmRun {} events traffic)
    : FollowsRoutes traffic
      ∧ ∀ index datagram route, traffic.received[index]? = some datagram
        → datagram.loaded = true → datagram.current = some route
        → Delivers traffic index route.backend := by
  have flow : Flow traffic := flow_start.run run
  refine ⟨flow.follows, ?_⟩
  intro index datagram route found loaded current
  rcases List.mem_append.mp (flow.all index datagram route found loaded current) with sent | waits
  · obtain ⟨entry, member, rfl⟩ := List.mem_map.mp sent
    rw [flow.gone entry member datagram route found loaded current]
    exact ⟨[], traffic, .done, rfl, flow.sentTo_eq member⟩
  · obtain ⟨forward, member, rfl⟩ := List.mem_map.mp waits
    rw [flow.waiting forward member datagram route found loaded current]
    exact flow.delivers member

private def routedTo (nodeIp : String) : RouteRow where
  serverId := 1
  proxyPort := some 30001
  vmPort := 19132
  state := .running
  nodeIp := some nodeIp

private def loads : TrafficEvent := .pass true (fun _ _ => true)

private def follow (events : List TrafficEvent) : Traffic :=
  events.foldl (fun traffic event => (trafficStep event traffic).getD traffic) {}

/-- A client opens a session with its first datagram. -/
private def openedSession : List TrafficEvent :=
  [.changeRows [routedTo "10.0.0.1"], loads, .receive 30001 7, .begin 0, .finish 0 true,
    .resume 0]

/-- The second datagram of a client goes where the first one went. -/
theorem talking_client_follows_route
    : ∃ events traffic, CalmRun {} events traffic
      ∧ traffic.sent = [(0, ⟨"10.0.0.1", 19132⟩), (1, ⟨"10.0.0.1", 19132⟩)]
      ∧ FollowsRoutes traffic := by
  have first : Calm (follow [.changeRows [routedTo "10.0.0.1"], loads]) (.receive 30001 7) := by
    intro protocol route _ found
    cases found
    refine ⟨fun _ => rfl, fun _ => ⟨?_, ?_, ?_⟩⟩
    · intro other session
      cases session
    · intro task stored
      cases stored
    · intro forward stored
      cases stored
  have second : Calm (follow openedSession) (.receive 30001 7) := by
    intro protocol route listening found
    cases listening
    cases found
    refine ⟨fun _ => rfl, fun _ => ⟨?_, ?_, ?_⟩⟩
    · intro other session
      cases session
      rfl
    · intro task stored _ _ running
      cases List.mem_singleton.mp stored
      cases running
    · intro forward stored
      cases stored
  have run : CalmRun {} (openedSession ++ [.receive 30001 7])
      (follow (openedSession ++ [.receive 30001 7])) :=
    .cons ⟨rfl, trivial⟩ <| .cons ⟨rfl, trivial⟩ <| .cons ⟨rfl, first⟩ <|
      .cons ⟨rfl, trivial⟩ <| .cons ⟨rfl, rfl⟩ <| .cons ⟨rfl, trivial⟩ <|
      .single ⟨rfl, second⟩
  exact ⟨_, _, run, rfl, (calm_runs_follow_routes run).1⟩

/-- The server of a client that is talking moves to another node; the pass loads the new route,
and the next datagram of the client goes to the old node.
-/
theorem talking_client_keeps_old_node
    : ∃ events traffic, TrafficRun {} events traffic ∧ ¬ FollowsRoutes traffic := by
  let moved : List TrafficEvent := [.changeRows [routedTo "10.0.0.2"], loads, .receive 30001 7]
  have run : TrafficRun {} (openedSession ++ moved) (follow (openedSession ++ moved)) :=
    .cons rfl <| .cons rfl <| .cons rfl <| .cons rfl <| .cons rfl <| .cons rfl <|
      .cons rfl <| .cons rfl <| .single rfl
  refine ⟨_, _, run, ?_⟩
  intro follows
  rcases follows 1 _ _ rfl rfl rfl with sent | ⟨unsent, _⟩
  · exact absurd sent (by decide)
  · exact absurd unsent (by decide)

end Blockhost.GameProxy
