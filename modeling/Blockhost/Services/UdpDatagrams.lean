import Blockhost.Services.UdpSessions
import Mathlib.Data.List.Nodup

/-! The datagrams of one UDP listener: each is sent once, waits in a task, or has failed with
the creation that it waited for. With the sessions this is kept by every event before the loss
of the connection; after it no session is left exactly if the loss meets a quiet moment.
-/

namespace Blockhost.UdpSessions

open Library

section Law

variable {Addr : Type} {proxy next : UdpProxy Addr} {client : Addr} {index : Nat}
variable {stage before : CreationStage}

-- Datagrams

/-- Before the loss: a datagram has been sent to a live session of its client, or it has a task
that runs or has failed, and only one of these.
-/
structure Accounted (proxy : UdpProxy Addr) : Prop where
  awaited
    : ∀ (index : Nat) forward task, proxy.forwards[index]? = some forward
      → forward.awaits = some task → ∃ stage, Creates proxy task forward.client stage
  distinct
    : ∀ (first second : Nat) left right, proxy.forwards[first]? = some left
      → proxy.forwards[second]? = some right → left.datagram = right.datagram
      → first = second
  owner
    : ∀ (index : Nat) forward, proxy.forwards[index]? = some forward
      → proxy.received[forward.datagram]? = some forward.client
  sentOnce : (proxy.sent.map Prod.fst).Nodup
  addressed
    : ∀ entry ∈ proxy.sent, ∃ client,
      proxy.received[entry.1]? = some client ∧ Live proxy entry.2 client
  ended
    : ∀ (index : Nat) forward, proxy.forwards[index]? = some forward
      → forward.datagram ∈ proxy.sent.map Prod.fst
      → forward.done = true
        ∧ ∃ task, forward.awaits = some task ∧ Creates proxy task forward.client .returned
  covered
    : ∀ datagram < proxy.received.length,
      datagram ∈ proxy.sent.map Prod.fst ∨ Waits proxy datagram ∨ Fails proxy datagram

theorem nodup_sent_concat {sent : List (Nat × Nat)} (once : (sent.map Prod.fst).Nodup)
    {datagram : Nat} (fresh : datagram ∉ sent.map Prod.fst) (session : Nat)
    : ((sent ++ [(datagram, session)]).map Prod.fst).Nodup := by
  rw [List.map_append, List.map_singleton, ← List.concat_eq_append]
  exact once.concat fresh

theorem waits_of_getElem? {forward : Forward Addr}
    (found : proxy.forwards[index]? = some forward) (running : forward.done = false)
    : Waits proxy forward.datagram :=
  ⟨forward, List.mem_of_getElem? found, rfl, running⟩

theorem fails_of_getElem? {forward : Forward Addr} {task : Nat}
    (found : proxy.forwards[index]? = some forward) (done : forward.done = true)
    (awaits : forward.awaits = some task) (raised : Creates proxy task forward.client .raised)
    : Fails proxy forward.datagram :=
  ⟨forward, List.mem_of_getElem? found, rfl, done, task, awaits, raised⟩

namespace Accounted

theorem mono (accounted : Accounted proxy) (forwards : next.forwards = proxy.forwards)
    (received : next.received = proxy.received) (sent : next.sent = proxy.sent)
    (grown
      : ∀ task client stage, Creates proxy task client stage
        → ∃ later, Creates next task client later ∧ (stage.done = true → later = stage))
    (lives : ∀ session client, Live proxy session client → Live next session client)
    : Accounted next := by
  have ends {task : Nat} {owner : Addr} {found : CreationStage}
      (creates : Creates proxy task owner found) (done : found.done = true)
      : Creates next task owner found := by
    obtain ⟨later, known, same⟩ := grown task owner found creates
    rwa [same done] at known
  refine
    { awaited := ?_, distinct := ?_, owner := ?_, sentOnce := ?_, addressed := ?_, ended := ?_,
      covered := ?_ }
  · intro index forward task found awaits
    rw [forwards] at found
    obtain ⟨stage, creates⟩ := accounted.awaited index forward task found awaits
    obtain ⟨later, known, -⟩ := grown task forward.client stage creates
    exact ⟨later, known⟩
  · rw [forwards]
    exact accounted.distinct
  · rw [forwards, received]
    exact accounted.owner
  · rw [sent]
    exact accounted.sentOnce
  · rw [sent, received]
    intro entry member
    obtain ⟨client, known, live⟩ := accounted.addressed entry member
    exact ⟨client, known, lives entry.2 client live⟩
  · rw [forwards, sent]
    intro index forward found listed
    obtain ⟨done, task, awaits, creates⟩ := accounted.ended index forward found listed
    exact ⟨done, task, awaits, ends creates rfl⟩
  · rw [received, sent]
    intro datagram bound
    refine (accounted.covered datagram bound).imp_right ?_
    unfold Waits Fails
    rw [forwards]
    refine Or.imp_right ?_
    rintro ⟨forward, member, same, done, task, awaits, raised⟩
    exact ⟨forward, member, same, done, task, awaits, ends raised rfl⟩

theorem distinct_set (accounted : Accounted proxy) {forward : Forward Addr}
    (changed : Forward Addr) (found : proxy.forwards[index]? = some forward)
    (same : changed.datagram = forward.datagram) {first second : Nat} {left right : Forward Addr}
    (one : (proxy.forwards.set index changed)[first]? = some left)
    (two : (proxy.forwards.set index changed)[second]? = some right)
    (shared : left.datagram = right.datagram)
    : first = second := by
  rcases getElem?_set_cases one with ⟨own, moved⟩ | ⟨-, old⟩
  · rcases getElem?_set_cases two with ⟨also, -⟩ | ⟨-, old⟩
    · exact own.trans also.symm
    · rw [moved, same] at shared
      exact own.trans (accounted.distinct index second _ _ found old shared)
  · rcases getElem?_set_cases two with ⟨own, moved⟩ | ⟨-, other⟩
    · rw [moved, same] at shared
      exact (accounted.distinct first index _ _ old found shared).trans own.symm
    · exact accounted.distinct first second left right old other shared

theorem owner_set (accounted : Accounted proxy) {forward : Forward Addr}
    (changed : Forward Addr) (found : proxy.forwards[index]? = some forward)
    (same : changed.datagram = forward.datagram) (client : changed.client = forward.client)
    {other : Nat} {known : Forward Addr}
    (listed : (proxy.forwards.set index changed)[other]? = some known)
    : proxy.received[known.datagram]? = some known.client := by
  rcases getElem?_set_cases listed with ⟨-, moved⟩ | ⟨-, old⟩
  · rw [moved, same, client]
    exact accounted.owner index forward found
  · exact accounted.owner other known old

theorem begins (accounted : Accounted proxy) {forward : Forward Addr}
    (found : proxy.forwards[index]? = some forward) (idle : forward.awaits = none) {task : Nat}
    {stage : CreationStage} (creates : Creates proxy task forward.client stage)
    : Accounted { proxy with
        forwards := proxy.forwards.set index { forward with awaits := some task } } := by
  refine
    { awaited := ?_,
      distinct := fun _ _ _ _ =>
        accounted.distinct_set { forward with awaits := some task } found rfl,
      owner := fun _ _ => accounted.owner_set { forward with awaits := some task } found rfl rfl,
      sentOnce := accounted.sentOnce,
      addressed := accounted.addressed, ended := ?_, covered := ?_ }
  · intro other changed awaited known awaits
    rcases getElem?_set_cases known with ⟨rfl, rfl⟩ | ⟨-, known⟩
    · cases awaits
      exact ⟨stage, creates⟩
    · exact accounted.awaited other changed awaited known awaits
  · intro other changed known listed
    rcases getElem?_set_cases known with ⟨rfl, rfl⟩ | ⟨-, known⟩
    · obtain ⟨-, earlier, awaits, -⟩ := accounted.ended other forward found listed
      cases idle.symm.trans awaits
    · exact accounted.ended other changed known listed
  · intro datagram bound
    refine (accounted.covered datagram bound).imp_right (Or.imp ?_ ?_)
    · rintro ⟨waiting, member, rfl, running⟩
      obtain ⟨other, known⟩ := List.mem_iff_getElem?.mp member
      by_cases same : other = index
      · subst same
        cases found.symm.trans known
        exact ⟨_, List.mem_of_getElem? (getElem?_set_own found _), rfl, running⟩
      · exact waits_of_getElem? (getElem?_set_other known same _) running
    · rintro ⟨failed, member, rfl, done, earlier, awaits, raised⟩
      obtain ⟨other, known⟩ := List.mem_iff_getElem?.mp member
      have differs : other ≠ index := by
        rintro rfl
        cases found.symm.trans known
        cases idle.symm.trans awaits
      exact fails_of_getElem? (getElem?_set_other known differs _) done awaits raised

theorem ends (accounted : Accounted proxy) {forward : Forward Addr}
    (found : proxy.forwards[index]? = some forward) {task : Nat}
    (awaits : forward.awaits = some task) {stage : CreationStage}
    (creates : Creates proxy task forward.client stage) {sent : List (Nat × Nat)}
    (sentOnce : (sent.map Prod.fst).Nodup)
    (addressed
      : ∀ entry ∈ sent, ∃ client,
        proxy.received[entry.1]? = some client ∧ Live proxy entry.2 client)
    (others
      : ∀ datagram, datagram ≠ forward.datagram
        → (datagram ∈ sent.map Prod.fst ↔ datagram ∈ proxy.sent.map Prod.fst))
    (own
      : if forward.datagram ∈ sent.map Prod.fst then stage = .returned else stage = .raised)
    : Accounted { proxy with
        forwards := proxy.forwards.set index { forward with done := true }
        sent } := by
  -- the tasks of other datagrams have not moved
  have elsewhere {other : Nat} {known : Forward Addr}
      (listed : proxy.forwards[other]? = some known)
      (apart : known.datagram ≠ forward.datagram)
      : (proxy.forwards.set index { forward with done := true })[other]? = some known := by
    refine getElem?_set_other listed ?_ _
    rintro rfl
    cases found.symm.trans listed
    exact apart rfl
  refine
    { awaited := ?_,
      distinct := fun _ _ _ _ =>
        accounted.distinct_set { forward with done := true } found rfl,
      owner := fun _ _ => accounted.owner_set { forward with done := true } found rfl rfl,
      sentOnce := sentOnce,
      addressed := addressed, ended := ?_, covered := ?_ }
  · intro other changed awaited known awaits
    rcases getElem?_set_cases known with ⟨rfl, rfl⟩ | ⟨-, known⟩
    · exact accounted.awaited other forward awaited found awaits
    · exact accounted.awaited other changed awaited known awaits
  · intro other changed known listed
    rcases getElem?_set_cases known with ⟨rfl, rfl⟩ | ⟨differs, known⟩
    · rw [if_pos listed] at own
      subst own
      exact ⟨rfl, task, awaits, creates⟩
    · have apart : changed.datagram ≠ forward.datagram := fun same =>
        differs (accounted.distinct other index _ _ known found same)
      exact accounted.ended other changed known ((others _ apart).mp listed)
  · intro datagram bound
    by_cases same : datagram = forward.datagram
    · subst same
      by_cases listed : forward.datagram ∈ sent.map Prod.fst
      · exact .inl listed
      · rw [if_neg listed] at own
        subst own
        exact .inr (.inr ⟨_, List.mem_of_getElem? (getElem?_set_own found _), rfl, rfl, task,
          awaits, creates⟩)
    · rcases accounted.covered datagram bound with listed | waits | fails
      · exact .inl ((others datagram same).mpr listed)
      · obtain ⟨waiting, member, rfl, running⟩ := waits
        obtain ⟨other, known⟩ := List.mem_iff_getElem?.mp member
        exact .inr (.inl (waits_of_getElem? (elsewhere known same) running))
      · obtain ⟨failed, member, rfl, done, earlier, awaits, raised⟩ := fails
        obtain ⟨other, known⟩ := List.mem_iff_getElem?.mp member
        exact .inr (.inr (fails_of_getElem? (elsewhere known same) done awaits raised))

theorem resumeForward (accounted : Accounted proxy) (serving : Serving proxy)
    {forward : Forward Addr} (found : proxy.forwards[index]? = some forward)
    (running : forward.done = false) {task : Nat} (awaits : forward.awaits = some task)
    {stage : CreationStage} (creates : Creates proxy task forward.client stage)
    (done : stage.done = true)
    : Accounted (proxy.resumeForward index forward (stage = .returned)) := by
  have unsent : forward.datagram ∉ proxy.sent.map Prod.fst := by
    intro listed
    cases running.symm.trans (accounted.ended index forward found listed).1
  cases stage with
  | returned =>
      obtain ⟨session, stored⟩ := Option.ne_none_iff_exists'.mp
        (serving.returned task forward.client creates)
      have whole : proxy.resumeForward index forward true
          = { proxy with
              forwards := proxy.forwards.set index { forward with done := true }
              sent := proxy.sent ++ [(forward.datagram, session)] } := by
        unfold UdpProxy.resumeForward
        rw [stored]
      rw [decide_eq_true rfl, whole]
      refine accounted.ends found awaits creates ?_ ?_ ?_ ?_
      · exact nodup_sent_concat accounted.sentOnce unsent session
      · refine List.forall_mem_append.mpr
          ⟨accounted.addressed, List.forall_mem_singleton.mpr ?_⟩
        exact ⟨forward.client, accounted.owner index forward found,
          serving.registered forward.client session stored⟩
      · intro datagram other
        rw [List.map_append, List.mem_append, or_iff_left]
        exact fun single => other (List.mem_singleton.mp single)
      · rw [if_pos (by simp)]
  | raised =>
      have whole : proxy.resumeForward index forward false
          = { proxy with
              forwards := proxy.forwards.set index { forward with done := true } } :=
        rfl
      rw [decide_eq_false (by simp), whole]
      refine accounted.ends found awaits creates accounted.sentOnce accounted.addressed
        (fun _ _ => Iff.rfl) ?_
      rw [if_neg unsent]
  | created => cases done
  | connecting => cases done
  | opened session => cases done

theorem datagramReceived (accounted : Accounted proxy) (serving : Serving proxy) (client : Addr)
    : Accounted (proxy.datagramReceived client) := by
  have earlier {datagram : Nat} {owner : Addr} (known : proxy.received[datagram]? = some owner)
      : (proxy.received ++ [client])[datagram]? = some owner :=
    getElem?_concat known
  have below {datagram : Nat} {owner : Addr} (known : proxy.received[datagram]? = some owner)
      : datagram < proxy.received.length :=
    (List.getElem?_eq_some_iff.mp known).1
  have addressed : ∀ entry ∈ proxy.sent, ∃ owner,
      (proxy.received ++ [client])[entry.1]? = some owner ∧ Live proxy entry.2 owner := by
    intro entry member
    obtain ⟨owner, known, live⟩ := accounted.addressed entry member
    exact ⟨owner, earlier known, live⟩
  have fresh : proxy.received.length ∉ proxy.sent.map Prod.fst := by
    intro listed
    obtain ⟨entry, member, same⟩ := List.mem_map.mp listed
    obtain ⟨owner, known, -⟩ := accounted.addressed entry member
    have bound := below known
    omega
  have newest : (proxy.received ++ [client])[proxy.received.length]? = some client :=
    List.getElem?_concat_length ..
  unfold UdpProxy.datagramReceived
  cases stored : proxy.clientSessions client with
  | some session =>
      refine
        { awaited := accounted.awaited, distinct := accounted.distinct, owner := ?_,
          sentOnce := ?_, addressed := ?_, ended := ?_, covered := ?_ }
      · intro index forward found
        exact earlier (accounted.owner index forward found)
      · exact nodup_sent_concat accounted.sentOnce fresh session
      · refine List.forall_mem_append.mpr ⟨addressed, List.forall_mem_singleton.mpr ?_⟩
        exact ⟨client, newest, serving.registered client session stored⟩
      · intro index forward found listed
        refine accounted.ended index forward found ?_
        rw [List.map_append] at listed
        refine (List.mem_append.mp listed).resolve_right fun single => ?_
        have bound := below (accounted.owner index forward found)
        rw [List.mem_singleton.mp single] at bound
        exact absurd bound (Nat.lt_irrefl _)
      · intro datagram bound
        change datagram ∈ (proxy.sent ++ [(proxy.received.length, session)]).map Prod.fst ∨ _
        rw [List.map_append, List.mem_append]
        rw [List.length_append, List.length_singleton] at bound
        rcases Nat.lt_succ_iff_lt_or_eq.mp bound with old | rfl
        · exact (accounted.covered datagram old).imp_left .inl
        · exact .inl (.inr (List.mem_singleton.mpr rfl))
  | none =>
      have cases' {index : Nat} {forward : Forward Addr}
          (found : (proxy.forwards ++ [{ datagram := proxy.received.length, client }])[index]?
            = some forward)
          : proxy.forwards[index]? = some forward
            ∨ index = proxy.forwards.length
              ∧ forward = { datagram := proxy.received.length, client } :=
        getElem?_concat_cases found
      refine
        { awaited := ?_, distinct := ?_, owner := ?_, sentOnce := accounted.sentOnce,
          addressed := addressed, ended := ?_, covered := ?_ }
      · intro index forward task found awaits
        rcases cases' found with old | ⟨-, rfl⟩
        · exact accounted.awaited index forward task old awaits
        · cases awaits
      · intro first second left right one two same
        rcases cases' one with one | ⟨rfl, rfl⟩
        · rcases cases' two with two | ⟨rfl, rfl⟩
          · exact accounted.distinct first second left right one two same
          · have bound := below (accounted.owner first left one)
            rw [same] at bound
            exact absurd bound (Nat.lt_irrefl _)
        · rcases cases' two with two | ⟨rfl, rfl⟩
          · have bound := below (accounted.owner second right two)
            rw [← same] at bound
            exact absurd bound (Nat.lt_irrefl _)
          · rfl
      · intro index forward found
        rcases cases' found with old | ⟨-, rfl⟩
        · exact earlier (accounted.owner index forward old)
        · exact newest
      · intro index forward found listed
        rcases cases' found with old | ⟨-, rfl⟩
        · exact accounted.ended index forward old listed
        · exact absurd listed fresh
      · intro datagram bound
        rw [List.length_append, List.length_singleton] at bound
        rcases Nat.lt_succ_iff_lt_or_eq.mp bound with old | rfl
        · refine (accounted.covered datagram old).imp_right (Or.imp ?_ ?_)
          · rintro ⟨forward, member, rest⟩
            exact ⟨forward, List.mem_append_left _ member, rest⟩
          · rintro ⟨forward, member, rest⟩
            exact ⟨forward, List.mem_append_left _ member, rest⟩
        · exact .inr (.inl ⟨{ datagram := proxy.received.length, client },
            List.mem_append_right _ List.mem_cons_self, rfl, rfl⟩)

end Accounted

-- Steps

/-- The invariant before the loss. -/
structure Serves (proxy : UdpProxy Addr) : Prop where
  alive : proxy.lost = false
  serving : Serving proxy
  accounted : Accounted proxy

/-- The invariant after a loss in a quiet moment: nothing is open, and nothing can be opened.
-/
structure Ended (proxy : UdpProxy Addr) : Prop where
  lost : proxy.lost = true
  closed : ∀ session client, ¬ Live proxy session client
  quiet : Quiet proxy

theorem serves_start (proxyPort : Nat) : Serves ({ proxyPort } : UdpProxy Addr) where
  alive := rfl
  serving :=
    { registered := nofun, live := nofun, running := nofun, known := nofun, vacant := nofun,
      opened := nofun, returned := nofun }
  accounted :=
    { awaited := nofun, distinct := nofun, owner := nofun, sentOnce := List.nodup_nil,
      addressed := nofun, ended := nofun, covered := nofun }

theorem grown_atStage (here : Creates proxy index client before) (undone : before.done = false)
    (task : Nat) (owner : Addr) (found : CreationStage)
    (creates : Creates proxy task owner found)
    : ∃ later, Creates (proxy.atStage index client stage) task owner later
      ∧ (found.done = true → later = found) := by
  refine ⟨_, creates_atStage _ here creates, fun done => if_neg ?_⟩
  rintro rfl
  cases here.symm.trans creates
  cases undone.symm.trans done

namespace Serves

theorem datagramReceived (serves : Serves proxy) (client : Addr)
    : Serves (proxy.datagramReceived client) := by
  refine ⟨?_, ?_, serves.accounted.datagramReceived serves.serving client⟩
  · unfold UdpProxy.datagramReceived
    cases proxy.clientSessions client with
    | some session => exact serves.alive
    | none => exact serves.alive
  · unfold UdpProxy.datagramReceived
    cases proxy.clientSessions client with
    | some session => exact serves.serving.elsewhere rfl rfl rfl rfl
    | none => exact serves.serving.elsewhere rfl rfl rfl rfl

variable [DecidableEq Addr]

theorem beginForward (serves : Serves proxy) {forward : Forward Addr}
    (found : proxy.forwards[index]? = some forward) (idle : forward.awaits = none)
    : Serves (proxy.beginForward index forward) := by
  refine ⟨?_, serves.serving.beginForward forward, ?_⟩
  · unfold UdpProxy.beginForward
    cases proxy.runningCreation forward.client with
    | some task => exact serves.alive
    | none => exact serves.alive
  · unfold UdpProxy.beginForward
    cases running : proxy.runningCreation forward.client with
    | some task =>
        obtain ⟨stage, creates⟩ := serves.serving.runningCreation_some running
        exact serves.accounted.begins found idle creates
    | none =>
        have created
            : Creates (proxy.createSession forward.client) proxy.creations.length forward.client
              .created :=
          List.getElem?_concat_length ..
        have counted : Accounted (proxy.createSession forward.client) :=
          serves.accounted.mono rfl rfl rfl
            (fun _ _ stage creates => ⟨stage, getElem?_concat creates, fun _ => rfl⟩)
            (fun _ _ live => live)
        exact counted.begins found idle created

/-- What happens before the loss keeps the invariant, case by case of the event. -/
theorem step (serves : Serves proxy) {event : UdpEvent Addr} (taken : UdpStep proxy event next)
    (before : event ≠ .connectionLost)
    : Serves next := by
  unfold UdpStep UdpProxy.step at taken
  cases event with
  | receive client =>
      rw [serves.alive, if_neg Bool.false_ne_true] at taken
      cases taken
      exact serves.datagramReceived client
  | begin index =>
      obtain ⟨forward, found, taken⟩ := Option.bind_eq_some_iff.mp taken
      obtain ⟨idle, same⟩ := Option.ite_none_right_eq_some.mp taken
      cases same
      exact serves.beginForward found idle
  | start index =>
      obtain ⟨⟨client, stage⟩, found, taken⟩ := Option.bind_eq_some_iff.mp taken
      obtain ⟨created, same⟩ := Option.ite_none_right_eq_some.mp taken
      cases created
      cases same
      have here : Creates proxy index client .created := found
      refine ⟨serves.alive, serves.serving.atStage here rfl (by simp) ?_ ?_ ?_,
        serves.accounted.mono rfl rfl rfl (grown_atStage here rfl) (fun _ _ live => live)⟩
      · split
        · intro running
          cases running
        · rename_i none
          exact fun _ => Option.not_isSome_iff_eq_none.mp none
      · intro session
        split <;> simp
      · split
        · rename_i some
          exact fun _ => Option.isSome_iff_ne_none.mp some
        · intro ended
          cases ended
  | opens index =>
      obtain ⟨⟨client, stage⟩, found, taken⟩ := Option.bind_eq_some_iff.mp taken
      obtain ⟨connecting, same⟩ := Option.ite_none_right_eq_some.mp taken
      cases connecting
      cases same
      have here : Creates proxy index client .connecting := found
      exact ⟨serves.alive, serves.serving.openEndpoint here,
        serves.accounted.mono rfl rfl rfl (grown_atStage here rfl)
          (fun _ _ live => getElem?_concat live)⟩
  | fails index =>
      obtain ⟨⟨client, stage⟩, found, taken⟩ := Option.bind_eq_some_iff.mp taken
      obtain ⟨connecting, same⟩ := Option.ite_none_right_eq_some.mp taken
      cases connecting
      cases same
      have here : Creates proxy index client .connecting := found
      exact ⟨serves.alive,
        serves.serving.atStage here rfl (by simp) (by simp [CreationStage.done]) (by simp)
          (by simp),
        serves.accounted.mono rfl rfl rfl (grown_atStage here rfl) (fun _ _ live => live)⟩
  | register index =>
      obtain ⟨⟨client, stage⟩, found, taken⟩ := Option.bind_eq_some_iff.mp taken
      cases stage with
      | opened session =>
          cases taken
          have here : Creates proxy index client (.opened session) := found
          exact ⟨serves.alive, serves.serving.registerSession here,
            serves.accounted.mono rfl rfl rfl (grown_atStage here rfl) (fun _ _ live => live)⟩
      | created => cases taken
      | connecting => cases taken
      | returned => cases taken
      | raised => cases taken
  | resume index =>
      obtain ⟨forward, found, taken⟩ := Option.bind_eq_some_iff.mp taken
      obtain ⟨task, awaits, taken⟩ := Option.bind_eq_some_iff.mp taken
      obtain ⟨creation, created, taken⟩ := Option.bind_eq_some_iff.mp taken
      obtain ⟨⟨running, done⟩, same⟩ := Option.ite_none_right_eq_some.mp taken
      cases same
      obtain ⟨stage, creates⟩ := serves.accounted.awaited index forward task found awaits
      cases created.symm.trans creates
      refine ⟨?_, ?_,
        serves.accounted.resumeForward serves.serving found running awaits creates done⟩
      · unfold UdpProxy.resumeForward
        split <;> exact serves.alive
      · unfold UdpProxy.resumeForward
        split <;> exact serves.serving.elsewhere rfl rfl rfl rfl
  | reply index data =>
      obtain ⟨session, found, taken⟩ := Option.bind_eq_some_iff.mp taken
      obtain ⟨-, same⟩ := Option.ite_none_right_eq_some.mp taken
      cases same
      unfold UdpProxy.replyReceived
      rw [serves.alive, if_neg Bool.false_ne_true]
      exact ⟨rfl, serves.serving.elsewhere rfl rfl rfl rfl,
        serves.accounted.mono rfl rfl rfl
          (fun _ _ stage creates => ⟨stage, creates, fun _ => rfl⟩) (fun _ _ live => live)⟩
  | connectionLost => exact absurd rfl before

end Serves

-- The loss

theorem live_connectionLost {session : Nat}
    : Live proxy.connectionLost session client
      ↔ Live proxy session client ∧ proxy.clientSessions client ≠ some session := by
  unfold Live UdpProxy.connectionLost
  dsimp only
  rw [List.getElem?_mapIdx]
  cases found : proxy.sessions[session]? with
  | none => simp
  | some row =>
      rw [Option.map_some]
      constructor
      · intro kept
        have kept := Option.some.inj kept
        split at kept
        · cases kept
        · rename_i unregistered
          subst kept
          exact ⟨rfl, unregistered⟩
      · rintro ⟨same, unregistered⟩
        cases same
        rw [if_neg unregistered]

theorem Serves.connectionLost (serves : Serves proxy) (quiet : Quiet proxy)
    : Ended proxy.connectionLost := by
  refine ⟨rfl, fun session client live => ?_, ⟨quiet.created, quiet.begun⟩⟩
  obtain ⟨live, unregistered⟩ := live_connectionLost.mp live
  rcases serves.serving.live session client live with stored | ⟨task, opens⟩
  · exact unregistered stored
  · cases quiet.created _ (List.mem_of_getElem? opens)

theorem Ended.step [DecidableEq Addr] (ended : Ended proxy) {event : UdpEvent Addr}
    (taken : UdpStep proxy event next)
    : Ended next := by
  have undone {task : Nat} {creation : Creation Addr}
      (found : proxy.creations[task]? = some creation)
      : creation.stage.done = true :=
    ended.quiet.created creation (List.mem_of_getElem? found)
  unfold UdpStep UdpProxy.step at taken
  cases event with
  | receive client =>
      rw [ended.lost, if_pos rfl] at taken
      cases taken
  | begin index =>
      obtain ⟨forward, found, taken⟩ := Option.bind_eq_some_iff.mp taken
      obtain ⟨idle, -⟩ := Option.ite_none_right_eq_some.mp taken
      exact absurd idle (ended.quiet.begun forward (List.mem_of_getElem? found))
  | start index =>
      obtain ⟨creation, found, taken⟩ := Option.bind_eq_some_iff.mp taken
      obtain ⟨created, -⟩ := Option.ite_none_right_eq_some.mp taken
      cases (congrArg CreationStage.done created).symm.trans (undone found)
  | opens index =>
      obtain ⟨creation, found, taken⟩ := Option.bind_eq_some_iff.mp taken
      obtain ⟨connecting, -⟩ := Option.ite_none_right_eq_some.mp taken
      cases (congrArg CreationStage.done connecting).symm.trans (undone found)
  | fails index =>
      obtain ⟨creation, found, taken⟩ := Option.bind_eq_some_iff.mp taken
      obtain ⟨connecting, -⟩ := Option.ite_none_right_eq_some.mp taken
      cases (congrArg CreationStage.done connecting).symm.trans (undone found)
  | register index =>
      obtain ⟨⟨client, stage⟩, found, taken⟩ := Option.bind_eq_some_iff.mp taken
      have done := undone found
      cases stage with
      | opened session => cases done
      | created => cases done
      | connecting => cases done
      | returned => cases taken
      | raised => cases taken
  | resume index =>
      obtain ⟨forward, found, taken⟩ := Option.bind_eq_some_iff.mp taken
      obtain ⟨task, awaits, taken⟩ := Option.bind_eq_some_iff.mp taken
      obtain ⟨creation, created, taken⟩ := Option.bind_eq_some_iff.mp taken
      obtain ⟨-, same⟩ := Option.ite_none_right_eq_some.mp taken
      cases same
      have begun : ∀ other ∈ proxy.forwards.set index { forward with done := true },
          other.awaits ≠ none := by
        intro other member
        rcases List.mem_or_eq_of_mem_set member with old | rfl
        · exact ended.quiet.begun other old
        · exact ended.quiet.begun forward (List.mem_of_getElem? found)
      unfold UdpProxy.resumeForward
      split
      · exact ⟨ended.lost, ended.closed, ended.quiet.created, begun⟩
      · exact ⟨ended.lost, ended.closed, ended.quiet.created, begun⟩
  | reply index data =>
      obtain ⟨session, found, taken⟩ := Option.bind_eq_some_iff.mp taken
      obtain ⟨-, same⟩ := Option.ite_none_right_eq_some.mp taken
      cases same
      unfold UdpProxy.replyReceived
      rw [if_pos ended.lost]
      exact ended
  | connectionLost =>
      rw [ended.lost, if_pos rfl] at taken
      cases taken

-- All runs

theorem Serves.once (serves : Serves proxy) {datagram : Nat}
    (bound : datagram < proxy.received.length)
    : timesSent proxy datagram = 1 ∧ ¬ Waits proxy datagram ∧ ¬ Fails proxy datagram
      ∨ timesSent proxy datagram = 0 ∧ (Waits proxy datagram ∨ Fails proxy datagram) := by
  by_cases listed : datagram ∈ proxy.sent.map Prod.fst
  · refine .inl ⟨List.count_eq_one_of_mem serves.accounted.sentOnce listed, ?_, ?_⟩
    · rintro ⟨forward, member, rfl, running⟩
      obtain ⟨index, found⟩ := List.mem_iff_getElem?.mp member
      cases running.symm.trans (serves.accounted.ended index forward found listed).1
    · rintro ⟨forward, member, rfl, -, task, awaits, raised⟩
      obtain ⟨index, found⟩ := List.mem_iff_getElem?.mp member
      obtain ⟨-, other, same, returned⟩ := serves.accounted.ended index forward found listed
      cases awaits.symm.trans same
      cases raised.symm.trans returned
  · exact .inr ⟨List.count_eq_zero_of_not_mem listed,
      (serves.accounted.covered datagram bound).resolve_left listed⟩

section Runs

variable [DecidableEq Addr]

theorem Serves.progresses (serves : Serves proxy) {datagram : Nat} (waits : Waits proxy datagram)
    : ∃ event, event.ofTask = true ∧ (proxy.step event).isSome = true := by
  obtain ⟨forward, member, -, running⟩ := waits
  obtain ⟨index, found⟩ := List.mem_iff_getElem?.mp member
  cases awaits : forward.awaits with
  | none =>
      refine ⟨.begin index, rfl, ?_⟩
      simp [UdpProxy.step, found, awaits]
  | some task =>
      obtain ⟨stage, creates⟩ := serves.accounted.awaited index forward task found awaits
      unfold Creates at creates
      cases stage with
      | created => exact ⟨.start task, rfl, by simp [UdpProxy.step, creates]⟩
      | connecting => exact ⟨.opens task, rfl, by simp [UdpProxy.step, creates]⟩
      | opened session => exact ⟨.register task, rfl, by simp [UdpProxy.step, creates]⟩
      | returned =>
          refine ⟨.resume index, rfl, ?_⟩
          simp [UdpProxy.step, found, awaits, creates, running, CreationStage.done]
      | raised =>
          refine ⟨.resume index, rfl, ?_⟩
          simp [UdpProxy.step, found, awaits, creates, running, CreationStage.done]

theorem Serves.sound (serves : Serves proxy) : Sound proxy where
  unique _ _ _ := serves.serving.unique
  closed lost := absurd (serves.alive.symm.trans lost) Bool.false_ne_true
  once _ _ := serves.once
  addressed _ := serves.accounted.addressed
  progresses _ _ := serves.progresses

theorem Ended.sound (ended : Ended proxy) : Sound proxy := by
  have gone {holds : Prop} (alive : proxy.lost = false) : holds :=
    absurd (alive.symm.trans ended.lost) Bool.false_ne_true
  exact
    { unique := fun client first _ live _ => absurd live (ended.closed first client)
      closed := fun _ => ended.closed
      once := fun alive => gone alive
      addressed := fun alive => gone alive
      progresses := fun alive => gone alive }

theorem Serves.clearStep (serves : Serves proxy) {event : UdpEvent Addr}
    (clear : ClearStep proxy event next)
    : Serves next ∨ Ended next := by
  by_cases loses : event = .connectionLost
  · subst loses
    have taken := clear.taken
    unfold UdpStep UdpProxy.step at taken
    rw [serves.alive, if_neg Bool.false_ne_true] at taken
    cases taken
    exact .inr (serves.connectionLost (clear.quiet rfl))
  · exact .inl (serves.step clear.taken loses)

/-- After the loss some events leave a transport that nobody closes. -/
def Leaks (proxy : UdpProxy Addr) : Prop :=
  ∃ events finish, Run UdpStep proxy events finish ∧ finish.lost = true
    ∧ ∃ session client, Live finish session client

theorem leaks_cons {event : UdpEvent Addr} (taken : UdpStep proxy event next)
    (leaks : Leaks next)
    : Leaks proxy := by
  obtain ⟨events, finish, run, rest⟩ := leaks
  exact ⟨event :: events, finish, .cons taken run, rest⟩

theorem leaks_connecting (lost : proxy.lost = true)
    (connecting : Creates proxy index client .connecting)
    : Leaks proxy := by
  have taken : UdpStep proxy (.opens index) (proxy.openEndpoint index client) := by
    unfold Creates at connecting
    simp [UdpStep, UdpProxy.step, connecting]
  exact ⟨_, _, .single taken, lost, proxy.sessions.length, client,
    List.getElem?_concat_length ..⟩

theorem leaks_created (lost : proxy.lost = true) (vacant : proxy.clientSessions client = none)
    (created : Creates proxy index client .created)
    : Leaks proxy := by
  have taken : UdpStep proxy (.start index) (proxy.atStage index client .connecting) := by
    have whole : proxy.startCreation index client = proxy.atStage index client .connecting := by
      unfold UdpProxy.startCreation
      rw [vacant]
      rfl
    unfold Creates at created
    simp [UdpStep, UdpProxy.step, created, whole]
  exact leaks_cons taken (leaks_connecting lost (getElem?_set_own created _))

/-- A loss that does not meet a quiet moment may leave a transport: a creation that is not done
opens one or has it, and a datagram whose task has not begun makes a creation.
-/
theorem Serves.leaks (serves : Serves proxy) (busy : ¬ Quiet proxy)
    : Leaks proxy.connectionLost := by
  by_cases created : ∀ creation ∈ proxy.creations, creation.stage.done = true
  · have waiting : ∃ forward ∈ proxy.forwards, forward.awaits = none := by
      by_contra none
      exact busy ⟨created, fun forward member idle => none ⟨forward, member, idle⟩⟩
    obtain ⟨forward, member, idle⟩ := waiting
    obtain ⟨index, found⟩ := List.mem_iff_getElem?.mp member
    have here : proxy.connectionLost.forwards[index]? = some forward := found
    have taken : UdpStep proxy.connectionLost (.begin index)
        (proxy.connectionLost.beginForward index forward) := by
      simp [UdpStep, UdpProxy.step, here, idle]
    have created
        : Creates (proxy.connectionLost.beginForward index forward) proxy.creations.length
          forward.client .created :=
      List.getElem?_concat_length ..
    exact leaks_cons taken (leaks_created rfl rfl created)
  · simp only [not_forall] at created
    obtain ⟨⟨client, stage⟩, member, running⟩ := created
    obtain ⟨index, here⟩ := List.mem_iff_getElem?.mp member
    have creates : Creates proxy.connectionLost index client stage := here
    cases stage with
    | created => exact leaks_created rfl rfl creates
    | connecting => exact leaks_connecting rfl creates
    | opened session =>
        have vacant := serves.serving.vacant index client _ here rfl (by simp)
        have live := live_connectionLost.mpr
          ⟨serves.serving.opened index client session here, by rw [vacant]; simp⟩
        exact ⟨[], _, .done, rfl, session, client, live⟩
    | returned => exact absurd rfl running
    | raised => exact absurd rfl running

/-- In every run whose loss meets a quiet moment the sessions are unique, gone after the loss,
and lose no datagram. A loss at the end of such a run is followed by sound states only exactly
if it meets a quiet moment.
-/
theorem quiet_losses_leave_no_session {proxyPort : Nat} {events : List (UdpEvent Addr)}
    {finish : UdpProxy Addr} (run : Run ClearStep { proxyPort } events finish)
    : Sound finish
      ∧ (finish.lost = false
        → ((∀ more last, Run UdpStep finish.connectionLost more last → Sound last)
          ↔ Quiet finish)) := by
  have holds : Serves finish ∨ Ended finish :=
    run.invariant (fun proxy => Serves proxy ∨ Ended proxy) (fun _ => True)
      (fun _ clear before =>
        before.elim (fun serves => serves.clearStep clear)
          (fun ended => .inr (ended.step clear.taken)))
      (fun _ _ => trivial) (.inl (serves_start proxyPort))
  rcases holds with serves | ended
  · refine ⟨serves.sound, fun _ => ⟨fun sound => ?_, fun quiet more last run => ?_⟩⟩
    · by_contra busy
      obtain ⟨more, last, run, lost, session, client, live⟩ := serves.leaks busy
      exact (sound more last run).closed lost session client live
    · have kept : Ended last :=
        run.invariant Ended (fun _ => True) (fun _ taken before => before.step taken)
          (fun _ _ => trivial) (serves.connectionLost quiet)
      exact kept.sound
  · exact ⟨ended.sound, fun alive =>
      absurd (alive.symm.trans ended.lost) Bool.false_ne_true⟩

end Runs

end Law

private def udpAfter (events : List (UdpEvent Nat)) : UdpProxy Nat :=
  events.foldl (fun proxy event => (proxy.step event).getD proxy) { proxyPort := 30001 }

/-- A client whose second datagram comes while its session is created, and one whose session
cannot be created.
-/
private def twoClients : List (UdpEvent Nat) :=
  [.receive 7, .begin 0, .start 0, .receive 7, .begin 1, .opens 0, .register 0, .resume 1,
    .resume 0, .receive 7, .receive 8, .begin 2, .start 1, .fails 1, .resume 2]

/-- The datagrams of the first client are sent, and nothing is left after the loss. -/
theorem two_clients_are_served
    : ∃ finish, Run ClearStep { proxyPort := 30001 } (twoClients ++ [.connectionLost]) finish
      ∧ finish.sent = [(1, 0), (0, 0), (2, 0)] ∧ finish.lost = true ∧ Sound finish := by
  have before : Run ClearStep { proxyPort := 30001 } twoClients (udpAfter twoClients) := by
    refine .of_foldlM twoClients (fun event member _ _ taken => ⟨taken, ?_⟩) rfl
    rintro rfl
    simp [twoClients] at member
  have quiet : Quiet (udpAfter twoClients) := ⟨by decide, by decide⟩
  have run : Run ClearStep { proxyPort := 30001 } (twoClients ++ [.connectionLost])
      (udpAfter twoClients).connectionLost :=
    before.next ⟨rfl, fun _ => quiet⟩
  exact ⟨_, run, rfl, rfl, (quiet_losses_leave_no_session run).1⟩

/-- The connection is lost after the transport of a session was opened and before the task that
creates the session goes on.
-/
private def lossDuringCreation : List (UdpEvent Nat) :=
  [.receive 7, .begin 0, .start 0, .opens 0, .connectionLost, .register 0, .resume 0]

/-- The task registers the session, whose transport stays open. -/
theorem lost_connection_leaves_session
    : ∃ finish, Run UdpStep { proxyPort := 30001 } lossDuringCreation finish
      ∧ finish.lost = true ∧ Live finish 0 7 ∧ ¬ Sound finish := by
  have run : Run UdpStep { proxyPort := 30001 } lossDuringCreation
      (udpAfter lossDuringCreation) :=
    .of_foldlM lossDuringCreation (fun _ _ _ _ taken => taken) rfl
  have lost : (udpAfter lossDuringCreation).lost = true := rfl
  have session : Live (udpAfter lossDuringCreation) 0 7 := rfl
  exact ⟨_, run, lost, session, fun sound => sound.closed lost 0 7 session⟩

end Blockhost.UdpSessions
