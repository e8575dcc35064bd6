import Blockhost.Api.ServerReads
import Blockhost.Library.Run

/-! What cached reads show after a change has returned. A change drops the entries of one user;
every later read shows it when no other entry, and no read that has already loaded, is older.
-/

namespace Blockhost.ServerReads

open Library

variable {around : Surroundings} {state before after : State} {key : Key}
variable {history next : History}

/-- The answer is what an uncached read would give of a version no older than what was due when
the read began, and for a server that was removed before, a refusal.
-/
structure Reflects (around : Surroundings) (history : History) (answered : Answered) : Prop where
  current
    : ∃ version, answered.due ≤ version ∧ version ≤ history.version
      ∧ answered.answer = answered.key.answer around (history.stored version)
  refused : answered.removed = true → answered.answer = .error ⟨404, "Server not found"⟩

/-- The keys that a change has deleted so far. -/
def MutationRequest.dropped (request : MutationRequest) : List Key :=
  match request.dropping with
  | none => []
  | some rest => request.keys.filter (· ∉ rest)

/-- What is cached under the key is shown: for details it never is. -/
def Key.Shown (key : Key) : Prop := ∀ server, key.read ≠ .detail server

/-- The change is shown under the key: the read is about its server, which is not removed. -/
structure MutationRequest.Concerns (history : History) (request : MutationRequest) (key : Key)
    : Prop where
  shown : key.Shown
  about : key.shows request.server request.owner = true
  present : key.gone history.removed = false

/-- What the cache needs from the other requests. When a change returns, the keys that it does
not delete have no older entry, and every read that has loaded and not ended did so after the
commit. No read stores what it loaded before the commit of a change that has deleted its key.
-/
def Timely (state : State) : Event → Prop
  | .finish id =>
      ∀ request ∈ state.mutations id, ∀ version ∈ request.committed, ∀ key,
        request.Concerns state.history key
        → (key ∉ request.keys → ∀ entry ∈ state.getJson key, version ≤ entry.version)
          ∧ ∀ number, ∀ read ∈ state.reads number, read.key = key
            → ∀ loaded ∈ read.loaded, version ≤ loaded.1
  | .store id =>
      ∀ read ∈ state.reads id, ∀ loaded ∈ read.loaded,
        ∀ number, ∀ request ∈ state.mutations number, ∀ version ∈ request.committed,
        request.Concerns state.history read.key → read.key ∈ request.dropped
        → version ≤ loaded.1
  | _ => True

/-- One event that comes at no bad moment for the cache. -/
def timelyStep (around : Surroundings) (before : State) (event : Event) (after : State) : Prop :=
  before.step around event = some after ∧ Timely before event

-- Versions of the database

/-- Earlier versions stay, and removed servers stay removed. -/
structure History.Later (history next : History) : Prop where
  version : history.version ≤ next.version
  stored : ∀ version ≤ history.version, next.stored version = history.stored version
  removed : ∀ id ∈ history.removed, id ∈ next.removed

/-- The removed servers have no row. -/
def History.Absent (history : History) : Prop :=
  ∀ id ∈ history.removed, history.current.db.servers.get? id = none

theorem History.write_later {after : Stored} (written : history.write after = some next)
    : history.Later next := by
  unfold History.write at written
  split at written
  · cases written
    refine ⟨Nat.le_succ _, fun version known => ?_, fun id => List.mem_append_left _⟩
    exact Function.update_of_ne (by omega) _ _
  · contradiction

theorem History.write_absent {after : Stored} (written : history.write after = some next)
    : next.Absent := by
  unfold History.write at written
  split at written
  next kept =>
    cases written
    intro id member
    simp only [History.current, Function.update_self]
    rcases List.mem_append.mp member with old | fresh
    · exact kept id old
    · simpa using (List.mem_filter.mp fresh).2
  next => contradiction

theorem Key.gone_iff {removed : List Uuid}
    : key.gone removed = true ↔ ∃ server, key.read.server = some server ∧ server ∈ removed := by
  simp [Key.gone, Option.any_eq_true]

theorem Key.gone_mono (grown : history.Later next) (gone : key.gone history.removed = true)
    : key.gone next.removed = true := by
  obtain ⟨server, named, member⟩ := Key.gone_iff.mp gone
  exact Key.gone_iff.mpr ⟨server, named, grown.removed server member⟩

theorem History.Absent.refuses (absent : history.Absent)
    (gone : key.gone history.removed = true)
    : key.render around history.current = .error ⟨404, "Server not found"⟩ := by
  obtain ⟨server, named, member⟩ := Key.gone_iff.mp gone
  exact key.render_absent around named (absent server member)

-- The invariant

/-- A payload is what the database showed at a version. -/
structure Rendered (around : Surroundings) (history : History) (key : Key) (version : Nat)
    (payload : Payload)
    : Prop where
  known : version ≤ history.version
  rendered : key.render around (history.stored version) = .ok payload

/-- A read asks for nothing newer than is due, has loaded something no older than it asks for,
nor than is due where the cache is shown, and nothing of a server that was removed before it
began.
-/
structure ReadRequest.Sound (around : Surroundings) (history : History) (owed : Nat)
    (request : ReadRequest)
    : Prop where
  due : request.due ≤ owed
  removed
    : request.removed = true
      → request.key.gone history.removed = true ∧ request.loaded = none
  loaded
    : ∀ version payload, request.loaded = some (version, payload)
      → request.due ≤ version ∧ (request.key.Shown → owed ≤ version)
        ∧ Rendered around history request.key version payload

/-- The keys that a change has deleted hold nothing older than what it committed. -/
def MutationRequest.Sound (state : State) (request : MutationRequest) : Prop :=
  ∀ version ∈ request.committed,
    version ≤ state.history.version
    ∧ ∀ key ∈ request.dropped, request.Concerns state.history key
      → ∀ entry ∈ state.getJson key, version ≤ entry.version

/-- What is cached is what the database showed at a version that is not older than what is due,
and so is what the requests have loaded and what was answered.
-/
structure Coherent (around : Surroundings) (state : State) : Prop where
  absent : state.history.Absent
  due : ∀ key, state.due key ≤ state.history.version
  entries
    : ∀ key, ∀ entry ∈ state.getJson key,
      (key.Shown → state.due key ≤ entry.version)
      ∧ Rendered around state.history key entry.version entry.payload
  reads
    : ∀ id, ∀ request ∈ state.reads id,
      request.Sound around state.history (state.due request.key)
  mutations : ∀ id, ∀ request ∈ state.mutations id, request.Sound state
  answers : ∀ answered ∈ state.answers, Reflects around state.history answered

theorem Rendered.answered {version : Nat} {payload : Payload}
    (shown : Rendered around history key version payload)
    : key.answer around (history.stored version) = payload.respond := by
  rw [Key.answer, shown.rendered]
  rfl

theorem Rendered.detail {version : Nat} {payload : Payload} {server : Uuid}
    (shown : Rendered around history key version payload) (detail : key.read = .detail server)
    : payload.respond = .error internalError := by
  have rendered := shown.rendered
  simp only [Key.render, detail, Except.map] at rendered
  split at rendered
  · cases rendered
  · cases rendered
    rfl

theorem Rendered.mono {version : Nat} {payload : Payload}
    (shown : Rendered around history key version payload) (grown : history.Later next)
    : Rendered around next key version payload where
  known := shown.known.trans grown.version
  rendered := by
    rw [grown.stored version shown.known]
    exact shown.rendered

theorem Reflects.mono {answered : Answered} (reflects : Reflects around history answered)
    (grown : history.Later next)
    : Reflects around next answered where
  current := by
    obtain ⟨version, due, known, same⟩ := reflects.current
    exact ⟨version, due, known.trans grown.version, by rw [grown.stored version known, same]⟩
  refused := reflects.refused

theorem ReadRequest.Sound.mono {request : ReadRequest} {owed : Nat}
    (sound : request.Sound around history owed) (grown : history.Later next)
    : request.Sound around next owed where
  due := sound.due
  removed set := ⟨Key.gone_mono grown (sound.removed set).1, (sound.removed set).2⟩
  loaded version payload found := by
    obtain ⟨asked, fresh, rendered⟩ := sound.loaded version payload found
    exact ⟨asked, fresh, rendered.mono grown⟩

theorem MutationRequest.Concerns.earlier {request : MutationRequest} (grown : history.Later next)
    (concerns : request.Concerns next key)
    : request.Concerns history key := by
  refine ⟨concerns.shown, concerns.about, Bool.eq_false_iff.mpr fun gone => ?_⟩
  exact Bool.eq_false_iff.mp concerns.present (Key.gone_mono grown gone)

theorem Coherent.setHistory (coherent : Coherent around state) {stored : Stored}
    (written : state.history.write stored = some next)
    : Coherent around (state.setHistory next) := by
  have grown := History.write_later written
  refine ⟨History.write_absent written, ?_, ?_, ?_, ?_, ?_⟩
  · exact fun key => (coherent.due key).trans grown.version
  · intro key entry kept
    exact ⟨(coherent.entries key entry kept).1, (coherent.entries key entry kept).2.mono grown⟩
  · exact fun id request found => (coherent.reads id request found).mono grown
  · intro id request found version committed
    obtain ⟨known, dropped⟩ := coherent.mutations id request found version committed
    refine ⟨known.trans grown.version, fun key member concerns => ?_⟩
    exact dropped key member (concerns.earlier grown)
  · exact fun answered member => (coherent.answers answered member).mono grown

theorem Coherent.setRead (coherent : Coherent around state) {id : Nat}
    {request : Option ReadRequest}
    (sound : ∀ read ∈ request, read.Sound around state.history (state.due read.key))
    : Coherent around (state.setRead id request) where
  absent := coherent.absent
  due := coherent.due
  entries := coherent.entries
  reads other read found := by
    simp only [State.setRead, Function.update_apply] at found
    split at found
    · exact sound read found
    · exact coherent.reads other read found
  mutations := coherent.mutations
  answers := coherent.answers

theorem Coherent.setMutation (coherent : Coherent around state) {id : Nat}
    {request : Option MutationRequest} (sound : ∀ change ∈ request, change.Sound state)
    : Coherent around (state.setMutation id request) where
  absent := coherent.absent
  due := coherent.due
  entries := coherent.entries
  reads := coherent.reads
  mutations other change found := by
    simp only [State.setMutation, Function.update_apply] at found
    split at found
    · exact sound change found
    · exact coherent.mutations other change found
  answers := coherent.answers

theorem getJson_setCache {entry : Option Entry} (other : Key)
    : (state.setCache key entry).getJson other
      = if other = key then entry.filter (fun entry => state.now < entry.expires)
        else state.getJson other := by
  simp only [State.getJson, State.setCache, Function.update_apply]
  split <;> rfl

/-- What is kept under a key has to be new enough for the reads of it, and for the changes that
have deleted it.
-/
theorem Coherent.setCache (coherent : Coherent around state) {entry : Option Entry}
    (shown : ∀ kept ∈ entry,
      (key.Shown → state.due key ≤ kept.version)
      ∧ Rendered around state.history key kept.version kept.payload)
    (timely : ∀ kept ∈ entry, ∀ id, ∀ request ∈ state.mutations id,
      ∀ version ∈ request.committed, request.Concerns state.history key → key ∈ request.dropped
      → version ≤ kept.version)
    : Coherent around (state.setCache key entry) where
  absent := coherent.absent
  due := coherent.due
  entries other kept found := by
    rw [getJson_setCache] at found
    split at found
    next same =>
      subst same
      exact shown kept (Option.mem_filter_iff.mp found).1
    next => exact coherent.entries other kept found
  reads := coherent.reads
  mutations id request found version committed := by
    obtain ⟨known, dropped⟩ := coherent.mutations id request found version committed
    refine ⟨known, fun other member concerns kept stored => ?_⟩
    rw [getJson_setCache] at stored
    split at stored
    next same =>
      subst same
      exact timely kept (Option.mem_filter_iff.mp stored).1 id request found version committed
        concerns member
    next => exact dropped other member concerns kept stored
  answers := coherent.answers

theorem Coherent.reply (coherent : Coherent around state) {id : Nat} {request : ReadRequest}
    {answer : Except HttpError Payload}
    (reflects
      : Reflects around state.history ⟨request.key, request.due, request.removed, answer⟩)
    : Coherent around (state.reply id request answer) := by
  have ended : Coherent around (state.setRead id none) := coherent.setRead (by simp)
  refine ⟨ended.absent, ended.due, ended.entries, ended.reads, ended.mutations, ?_⟩
  intro answered member
  rcases List.mem_append.mp member with old | new
  · exact coherent.answers answered old
  · rw [List.mem_singleton.mp new]
    exact reflects

theorem reflects_rendered {request : ReadRequest} {version : Nat} {payload : Payload}
    (fresh : request.due ≤ version)
    (shown : Rendered around history request.key version payload)
    (present : request.removed = false)
    : Reflects around history ⟨request.key, request.due, request.removed, payload.respond⟩ where
  current := ⟨version, fresh, shown.known, shown.answered.symm⟩
  refused removed := by rw [present] at removed; contradiction

-- One event

theorem coherent_ask (coherent : Coherent around before) {id : Nat}
    (asked : before.ask id key = some after)
    : Coherent around after := by
  unfold State.ask at asked
  split at asked
  · contradiction
  · cases asked
    refine coherent.setRead ?_
    rintro read ⟨⟩
    exact ⟨Nat.le_refl _, fun gone => ⟨gone, rfl⟩, by simp⟩

theorem coherent_look (coherent : Coherent around before) {id : Nat} {request : ReadRequest}
    (found : before.reads id = some request) (looked : before.look id request = some after)
    : Coherent around after := by
  have sound := coherent.reads id request found
  unfold State.look at looked
  split at looked
  next => contradiction
  next ready =>
    split at looked
    next entry kept =>
      cases looked
      obtain ⟨fresh, shown⟩ := coherent.entries request.key entry kept
      have present : request.removed = false := by
        refine Bool.eq_false_iff.mpr fun removed => ?_
        obtain ⟨gone, unloaded⟩ := sound.removed removed
        obtain ⟨server, named, -⟩ := Key.gone_iff.mp gone
        refine ready (.inr ⟨fun list => ?_, by rw [unloaded]; rfl⟩)
        rw [list] at named
        cases named
      by_cases visible : request.key.Shown
      · exact coherent.reply (reflects_rendered (sound.due.trans (fresh visible)) shown present)
      · -- The server was found before, at a version that is new enough and fails the same way.
        obtain ⟨server, detail⟩ := not_forall_not.mp visible
        have found : request.loaded.isSome = true := by
          refine Option.isSome_iff_ne_none.mpr fun unloaded => ready (.inr ?_)
          simp [detail, unloaded]
        obtain ⟨⟨version, payload⟩, loaded⟩ := Option.isSome_iff_exists.mp found
        obtain ⟨asked, -, rendered⟩ := sound.loaded version payload loaded
        rw [shown.detail detail, ← rendered.detail detail]
        exact coherent.reply (reflects_rendered asked rendered present)
    next =>
      cases looked
      refine coherent.setRead ?_
      rintro read ⟨⟩
      exact ⟨sound.due, sound.removed, sound.loaded⟩

theorem coherent_load (coherent : Coherent around before) {id : Nat} {request : ReadRequest}
    (found : before.reads id = some request)
    (loaded : before.load around id request = some after)
    : Coherent around after := by
  have sound := coherent.reads id request found
  have newest := coherent.due request.key
  unfold State.load at loaded
  split at loaded
  next => contradiction
  next =>
    split at loaded
    next payload rendered =>
      cases loaded
      refine coherent.setRead ?_
      rintro read ⟨⟩
      refine ⟨sound.due, fun removed => ?_, ?_⟩
      · have refused : request.key.render around before.history.current
            = .error ⟨404, "Server not found"⟩ :=
          coherent.absent.refuses (sound.removed removed).1
        exact nomatch rendered.symm.trans refused
      · rintro version shown ⟨⟩
        exact ⟨sound.due.trans newest, fun _ => newest, Nat.le_refl _, rendered⟩
    next refusal rendered =>
      cases loaded
      have refused : request.key.answer around before.history.current = .error refusal := by
        rw [Key.answer, rendered]
        rfl
      refine coherent.reply ⟨⟨_, sound.due.trans newest, Nat.le_refl _, refused.symm⟩, ?_⟩
      intro removed
      exact rendered.symm.trans (coherent.absent.refuses (sound.removed removed).1)

theorem coherent_store (coherent : Coherent around before) {id : Nat} {request : ReadRequest}
    (timely : Timely before (.store id)) (found : before.reads id = some request)
    (kept : before.store id request = some after)
    : Coherent around after := by
  have sound := coherent.reads id request found
  unfold State.store at kept
  split at kept
  next version payload _ loaded =>
    cases kept
    obtain ⟨asked, fresh, shown⟩ := sound.loaded version payload loaded
    have present : request.removed = false := by
      refine Bool.eq_false_iff.mpr fun removed => ?_
      exact nomatch (sound.removed removed).2.symm.trans loaded
    refine Coherent.reply (coherent.setCache ?_ ?_) (reflects_rendered asked shown present)
    · rintro entry ⟨⟩
      exact ⟨fresh, shown⟩
    · rintro entry ⟨⟩
      exact timely request found _ loaded
  next => contradiction

theorem coherent_request (coherent : Coherent around before) {id : Nat} {user server : Uuid}
    {mutation : Mutation} (asked : before.request id user mutation server = some after)
    : Coherent around after := by
  unfold State.request at asked
  split at asked
  next =>
    cases asked
    refine coherent.setMutation ?_
    rintro change ⟨⟩
    simp [MutationRequest.Sound]
  next => contradiction

theorem coherent_commit (coherent : Coherent around before) {id : Nat}
    {request : MutationRequest} {stored : Stored}
    (committed : before.commit id request stored = some after)
    : Coherent around after := by
  unfold State.commit at committed
  split at committed
  next => contradiction
  next idle =>
    obtain ⟨written, known, rfl⟩ := Option.map_eq_some_iff.mp committed
    refine (coherent.setHistory known).setMutation ?_
    rintro change ⟨⟩
    rintro version ⟨⟩
    refine ⟨Nat.le_refl _, fun key member => ?_⟩
    simp only [MutationRequest.dropped, Option.not_isSome_iff_eq_none.mp idle] at member
    contradiction

theorem coherent_invalidate (coherent : Coherent around before) {id : Nat}
    {request : MutationRequest} (found : before.mutations id = some request)
    (started : before.invalidate id request = some after)
    : Coherent around after := by
  unfold State.invalidate at started
  split at started
  · cases started
    refine coherent.setMutation ?_
    rintro change ⟨⟩
    intro version committed
    refine ⟨(coherent.mutations id request found version committed).1, fun key member => ?_⟩
    obtain ⟨held, gone⟩ := List.mem_filter.mp member
    exact absurd held (of_decide_eq_true gone)
  · contradiction

theorem coherent_drop (coherent : Coherent around before) {id : Nat} {request : MutationRequest}
    (found : before.mutations id = some request) (dropped : before.drop id request = some after)
    : Coherent around after := by
  unfold State.drop at dropped
  split at dropped
  next key rest pending =>
    cases dropped
    refine (coherent.setCache (by simp) (by simp)).setMutation ?_
    rintro change ⟨⟩
    intro version committed
    obtain ⟨known, earlier⟩ := coherent.mutations id request found version committed
    refine ⟨known, fun other member concerns entry kept => ?_⟩
    rw [getJson_setCache] at kept
    split at kept
    next => simp at kept
    next different =>
      refine earlier other ?_ ⟨concerns.shown, concerns.about, concerns.present⟩ entry kept
      obtain ⟨held, gone⟩ := List.mem_filter.mp member
      simp only [MutationRequest.dropped, pending]
      refine List.mem_filter.mpr ⟨held, decide_eq_true fun inside => ?_⟩
      rcases List.mem_cons.mp inside with same | later
      · exact different same
      · exact of_decide_eq_true gone later
  next => contradiction

theorem Concerns.of_raised {request : MutationRequest} (visible : key.Shown)
    (raised
      : (key.shows request.server request.owner && !key.gone history.removed) = true)
    : request.Concerns history key := by
  obtain ⟨about, present⟩ := Bool.and_eq_true_iff.mp raised
  exact ⟨visible, about, by simpa using present⟩

/-- The version of a change that returns is due from now on: the keys that it has deleted hold
nothing older, nor do the others at a good moment.
-/
theorem coherent_finish (coherent : Coherent around before) {id : Nat}
    {request : MutationRequest} (timely : Timely before (.finish id))
    (found : before.mutations id = some request)
    (finished : before.finish id request = some after)
    : Coherent around after := by
  unfold State.finish at finished
  split at finished
  next version committed dropping =>
    cases finished
    obtain ⟨known, deleted⟩ := coherent.mutations id request found version committed
    have timely := timely request found version committed
    have ended : Coherent around (before.setMutation id none) := coherent.setMutation (by simp)
    have all : request.dropped = request.keys := by
      simp [MutationRequest.dropped, dropping]
    refine ⟨ended.absent, fun key => ?_, fun key entry kept => ?_, fun number read asked => ?_,
      ended.mutations, ended.answers⟩
    · dsimp only
      split
      · exact Nat.max_le.mpr ⟨coherent.due key, known⟩
      · exact coherent.due key
    · obtain ⟨fresh, shown⟩ := coherent.entries key entry kept
      refine ⟨fun visible => ?_, shown⟩
      dsimp only
      split
      next raised =>
        have concerns := Concerns.of_raised visible raised
        refine Nat.max_le.mpr ⟨fresh visible, ?_⟩
        by_cases own : key ∈ request.keys
        · exact deleted key (all ▸ own) concerns entry kept
        · exact (timely key concerns).1 own entry kept
      next => exact fresh visible
    · have sound := coherent.reads number read asked
      dsimp only
      split
      next raised =>
        refine ⟨sound.due.trans (Nat.le_max_left _ _), sound.removed, ?_⟩
        intro shown payload loaded
        obtain ⟨old, fresh, rendered⟩ := sound.loaded shown payload loaded
        refine ⟨old, fun visible => Nat.max_le.mpr ⟨fresh visible, ?_⟩, rendered⟩
        have concerns := Concerns.of_raised visible raised
        exact (timely read.key concerns).2 number read asked rfl _ loaded
      next => exact sound
  next => contradiction

theorem coherent_tick (coherent : Coherent around state) (seconds : Nat)
    : Coherent around { state with now := state.now + seconds } := by
  have live : ∀ key, ∀ entry ∈ State.getJson key { state with now := state.now + seconds },
      entry ∈ state.getJson key := by
    intro key entry kept
    obtain ⟨held, early⟩ := Option.mem_filter_iff.mp kept
    have early : state.now + seconds < entry.expires := of_decide_eq_true early
    exact Option.mem_filter_iff.mpr ⟨held, decide_eq_true (by omega)⟩
  refine ⟨coherent.absent, coherent.due, ?_, coherent.reads, ?_, coherent.answers⟩
  · exact fun key entry kept => coherent.entries key entry (live key entry kept)
  · intro id request found version committed
    obtain ⟨known, dropped⟩ := coherent.mutations id request found version committed
    refine ⟨known, fun key member concerns entry kept => ?_⟩
    exact dropped key member concerns entry (live key entry kept)

theorem coherent_step {event : Event} (taken : timelyStep around before event after)
    (coherent : Coherent around before)
    : Coherent around after := by
  obtain ⟨performed, timely⟩ := taken
  cases event with
  | tick seconds =>
      cases performed
      exact coherent_tick coherent seconds
  | ask id key => exact coherent_ask coherent performed
  | look id =>
      obtain ⟨request, found, looked⟩ := Option.bind_eq_some_iff.mp performed
      exact coherent_look coherent found looked
  | load id =>
      obtain ⟨request, found, loaded⟩ := Option.bind_eq_some_iff.mp performed
      exact coherent_load coherent found loaded
  | store id =>
      obtain ⟨request, found, kept⟩ := Option.bind_eq_some_iff.mp performed
      exact coherent_store coherent timely found kept
  | request id user mutation server => exact coherent_request coherent performed
  | commit id stored =>
      obtain ⟨request, found, committed⟩ := Option.bind_eq_some_iff.mp performed
      exact coherent_commit coherent committed
  | invalidate id =>
      obtain ⟨request, found, started⟩ := Option.bind_eq_some_iff.mp performed
      exact coherent_invalidate coherent found started
  | drop id =>
      obtain ⟨request, found, dropped⟩ := Option.bind_eq_some_iff.mp performed
      exact coherent_drop coherent found dropped
  | finish id =>
      obtain ⟨request, found, finished⟩ := Option.bind_eq_some_iff.mp performed
      exact coherent_finish coherent timely found finished
  | abandon id =>
      obtain ⟨request, found, left⟩ := Option.bind_eq_some_iff.mp performed
      unfold State.abandon at left
      split at left
      · contradiction
      · cases left
        exact coherent.setMutation (by simp)
  | write stored =>
      obtain ⟨next, written, rfl⟩ := Option.map_eq_some_iff.mp performed
      exact coherent.setHistory written
  | discard key =>
      cases performed
      exact coherent.setCache (by simp) (by simp)

/-- A backend that has stored something and has no request and nothing in the cache. -/
def State.fresh (stored : Stored) : State := { history := { stored := fun _ => stored } }

theorem coherent_fresh (stored : Stored) : Coherent around (State.fresh stored) where
  absent := by simp [History.Absent, State.fresh]
  due _ := Nat.le_refl _
  entries := by simp [State.fresh, State.getJson]
  reads := by simp [State.fresh]
  mutations := by simp [State.fresh]
  answers := by simp [State.fresh]

/-- In a run whose events come at good moments every read reflects the changes that returned
before it began, by induction on the run.
-/
theorem reads_reflect_changes {stored : Stored} {events : List Event} {finish : State}
    (run : Run (timelyStep around) (State.fresh stored) events finish)
    : ∀ answered ∈ finish.answers, Reflects around finish.history answered := by
  have kept := run.invariant (Coherent around) (fun _ => True) (fun _ => coherent_step)
    (fun _ _ => trivial) (coherent_fresh stored)
  exact kept.answers

-- One server with two users

/-- User 1 owns the server and user 2 may start and stop it. -/
def sharedServer : Server where
  id := 7
  nodeId := none
  ownerId := 1
  worldName := "world"
  state := .running
  lastActivity := 0

def sharedDb (server : Server) : Database where
  servers := ⟨[server], List.nodup_singleton _⟩
  serverCollaborators :=
    ⟨[{ id := 3, serverId := 7, userId := 2, permissions := ["start_stop"] }],
      List.nodup_singleton _⟩

def plainSurroundings : Surroundings := { nickname := fun _ => "player" }

/-- The owner lists the servers; what the cache has not is stored next. -/
def listRead (id : Nat) : List Event := [.ask id ⟨1, .list⟩, .look id, .load id]

def stopBy (user : Uuid) : List Event :=
  [.request 0 user .stop 7,
    .commit 0 ⟨sharedDb (suspendServer.apply sharedServer), fun _ => {}⟩,
    .invalidate 0, .drop 0, .drop 0, .drop 0]

/-- The states of the servers that an answer shows. -/
def shownStates : Except HttpError Payload → List ServerState
  | .ok (.list servers) => servers.map ServerOut.state
  | _ => []

theorem timely_store (alone : ∀ number, state.mutations number = none) (id : Nat)
    : Timely state (.store id) := by
  intro _ _ _ _ number request asked
  simp [alone] at asked

theorem timely_finish (silent : ∀ number, state.reads number = none)
    (empty : ∀ key, state.cache key = none) (id : Nat)
    : Timely state (.finish id) := by
  intro request _ version _ key _
  simp [State.getJson, silent, empty]

theorem deleted_list {user server : Uuid} {entry : Option Entry} (key : Key)
    : Function.update (Function.update (Function.update (Function.update (fun _ => none)
        ⟨user, .list⟩ entry) ⟨user, .list⟩ none) ⟨user, .detail server⟩ none)
        ⟨user, .config server⟩ none key
      = none := by
  simp [Function.update_apply]

/-- The owner lists the servers before and after stopping one. -/
theorem owner_reads_reflect_stop
    : ∃ events finish,
      Run (timelyStep plainSurroundings) (State.fresh ⟨sharedDb sharedServer, fun _ => {}⟩)
        events finish
      ∧ finish.answers.map (fun answered => (answered.due, shownStates answered.answer))
        = [(0, [.running]), (1, [.suspended])]
      ∧ ∀ answered ∈ finish.answers, Reflects plainSurroundings finish.history answered := by
  have read : Run (timelyStep plainSurroundings)
      (State.fresh ⟨sharedDb sharedServer, fun _ => {}⟩) (listRead 0) _ :=
    .of_foldlM_allowed (listRead 0) (by simp [listRead, Timely]) rfl
  have kept : Run (timelyStep plainSurroundings) _ (listRead 0 ++ [.store 0]) _ :=
    read.next ⟨rfl, timely_store (fun _ => rfl) 0⟩
  have stopped := kept.append (.of_foldlM_allowed (stopBy 1) (by simp [stopBy, Timely]) rfl)
  have returned : Run (timelyStep plainSurroundings) _
      (listRead 0 ++ [.store 0] ++ stopBy 1 ++ [.finish 0]) _ :=
    stopped.next ⟨rfl, timely_finish (by rintro (_ | _) <;> rfl) deleted_list 0⟩
  have again := returned.append
    (.of_foldlM_allowed (.tick 1 :: listRead 1) (by simp [listRead, Timely]) rfl)
  have last : Run (timelyStep plainSurroundings) _
      (listRead 0 ++ [.store 0] ++ stopBy 1 ++ [.finish 0] ++ .tick 1 :: listRead 1
        ++ [.store 1]) _ :=
    again.next ⟨rfl, timely_store (by rintro (_ | _) <;> rfl) 1⟩
  exact ⟨_, _, last, rfl, reads_reflect_changes last⟩

/-- The collaborator stops the server between two lists of the owner, a second apart. -/
theorem owner_lists_stopped_server_running
    : ∃ events finish,
      Run (fun before event after => before.step plainSurroundings event = some after)
        (State.fresh ⟨sharedDb sharedServer, fun _ => {}⟩) events finish
      ∧ ∃ answered ∈ finish.answers, ¬ Reflects plainSurroundings finish.history answered := by
  let events :=
    listRead 0 ++ [.store 0] ++ stopBy 2 ++ [.finish 0, .tick 1, .ask 1 ⟨1, .list⟩, .look 1]
  let last := events.foldlM (State.step plainSurroundings)
    (State.fresh ⟨sharedDb sharedServer, fun _ => {}⟩)
  obtain ⟨finish, performed⟩ : ∃ finish, last = some finish :=
    Option.isSome_iff_exists.mp (by decide +kernel)
  have answers
      : last.map (fun state => state.answers.map (fun answered =>
          (answered.key, answered.due, shownStates answered.answer)))
        = some [(⟨1, .list⟩, 0, [.running]), (⟨1, .list⟩, 1, [.running])] := by
    decide +kernel
  have stopped
      : last.map (fun state => (state.history.version,
          shownStates (Key.answer plainSurroundings (state.history.stored 1) ⟨1, .list⟩)))
        = some (1, [.suspended]) := by
    decide +kernel
  rw [performed] at answers stopped
  have shown := List.mem_of_mem_getLast? (congrArg List.getLast? (Option.some.inj answers))
  obtain ⟨answered, member, shown⟩ := List.mem_map.mp shown
  refine ⟨events, finish, .of_foldlM events (fun _ _ _ _ taken => taken) performed, answered,
    member, fun reflects => ?_⟩
  simp only [Option.map_some, Option.some.injEq, Prod.mk.injEq] at stopped
  obtain ⟨key, rest⟩ := Prod.mk.inj shown
  obtain ⟨begun, running⟩ := Prod.mk.inj rest
  obtain ⟨version, due, known, same⟩ := reflects.current
  have one : version = 1 := by omega
  rw [same, key, one, stopped.2] at running
  contradiction

end Blockhost.ServerReads
