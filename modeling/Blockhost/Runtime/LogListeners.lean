import Blockhost.Library.Run
import Blockhost.Orchestrator.NodeRouter

/-! Log listeners of one server. They belong to the runtime object that the router found when
they were added; the object that it finds for their removal may be another one.
-/

namespace Blockhost.LogListeners

open Library Routing

variable {Callback : Type}

/-- Runtime objects: the local one, and those that the router made for agents so far. -/
inductive Target where
  | systemd
  | agent (number : Nat)
deriving DecidableEq, Repr

/-- Where a log stream thread is: before its next check, before the next line, calling listeners
that it has copied, or done.
-/
inductive Phase (Callback : Type) where
  | checking
  | waiting
  | calling (listeners : List Callback)
  | ended
deriving DecidableEq, Repr

def Phase.pending : Phase Callback → List Callback
  | .calling listeners => listeners
  | _ => []

/-- A thread with its number and its runtime object. The process behind the stream of the local
one may have been stopped.
-/
structure Thread (Callback : Type) where
  owner : Target
  number : Nat := 0
  phase : Phase Callback := .checking
  stopped : Bool := false
deriving DecidableEq, Repr

/-- The entry of the router for the server, the listeners of each object, the threads, and the
callbacks that were added and not removed since. `logProc` is the process that the local object
has on its books, by the number of its thread.
-/
structure Console (Callback : Type) where
  cache : Option (Target × Instant) := none
  agents : Nat := 0
  listeners : Target → List Callback := fun _ => []
  threads : List (Thread Callback) := []
  logProc : Option Nat := none
  registered : List Callback := []

namespace Console

/-- A runtime object of the router, which makes a new one for an agent when none is kept. -/
def getRuntime (route : Routing.Runtime) (now : Instant) (console : Console Callback)
    : Target × Console Callback :=
  match console.cache.filter (now < ·.2), route with
  | some (target, _), _ => (target, console)
  | none, .systemd =>
      (.systemd, { console with cache := some (.systemd, now + routeCacheTtl) })
  | none, .agent _ =>
      (.agent console.agents,
        { console with
          cache := some (.agent console.agents, now + routeCacheTtl)
          agents := console.agents + 1 })

/-- An agent's object starts a thread for its first listener, the local one where it has no
process on its books.
-/
def startsThread (target : Target) (console : Console Callback) : Bool :=
  match target with
  | .agent _ => (console.listeners target).isEmpty
  | .systemd => console.logProc.isNone

def startThread (target : Target) (console : Console Callback) : Console Callback :=
  let number := console.threads.length
  { console with
    threads := console.threads ++ [{ owner := target, number }]
    logProc := if target = .systemd then some number else console.logProc }

def register (target : Target) (callback : Callback) (console : Console Callback)
    : Console Callback :=
  { console with
    listeners :=
      Function.update console.listeners target (console.listeners target ++ [callback])
    registered := console.registered ++ [callback] }

def addTo (target : Target) (callback : Callback) (console : Console Callback)
    : Console Callback :=
  let registered := console.register target callback
  if console.startsThread target then registered.startThread target else registered

def addLogListener (route : Routing.Runtime) (now : Instant) (callback : Callback)
    (console : Console Callback)
    : Console Callback :=
  let found := console.getRuntime route now
  found.2.addTo found.1 callback

/-- The process on the books of the local object is terminated. -/
def stopLogStream (logProc : Option Nat) (thread : Thread Callback) : Thread Callback :=
  if thread.owner = .systemd ∧ logProc = some thread.number then { thread with stopped := true }
  else thread

/-- `cleanup` is `console_stream_cleanup_enabled`. -/
def removeFrom [DecidableEq Callback] (cleanup : Bool) (target : Target)
    (callback : Callback) (console : Console Callback)
    : Console Callback :=
  let left := (console.listeners target).erase callback
  let stops := target = .systemd ∧ cleanup ∧ left = []
  { console with
    threads :=
      if stops then console.threads.map (stopLogStream console.logProc) else console.threads
    logProc := if stops then none else console.logProc
    listeners := Function.update console.listeners target left
    registered := console.registered.erase callback }

def removeLogListener [DecidableEq Callback] (cleanup : Bool) (route : Routing.Runtime)
    (now : Instant) (callback : Callback) (console : Console Callback)
    : Console Callback :=
  let found := console.getRuntime route now
  found.2.removeFrom cleanup found.1 callback

/-- A thread of the local object that ends takes the server's process off the books, also one
that another thread follows.
-/
def setThreads (threads : List (Thread Callback)) (moved : Thread Callback)
    (console : Console Callback)
    : Console Callback :=
  { console with
    threads := threads
    logProc :=
      match moved.owner, moved.phase with
      | .systemd, .ended => none
      | _, _ => console.logProc }

end Console

/-- Whether a thread goes on at its check: a listener is left, or the local stream is open. -/
def goesOn (console : Console Callback) (thread : Thread Callback) : Bool :=
  match thread.owner with
  | .agent _ => !(console.listeners thread.owner).isEmpty
  | .systemd => !thread.stopped

/-- The steps of a thread. It ends by itself when its connection breaks while it waits. -/
inductive ThreadEvent (Callback : Type) where
  | check (goesOn : Bool)
  | timeout
  | receive
  | call (callback : Callback)
  | again
  | disconnect

inductive ThreadStep (console : Console Callback)
    : Thread Callback → ThreadEvent Callback → Thread Callback → Prop
  | check {thread : Thread Callback}
      : thread.phase = .checking
        → ThreadStep console thread (.check (goesOn console thread))
          { thread with phase := if goesOn console thread then .waiting else .ended }
  | timeout {thread : Thread Callback}
      : thread.phase = .waiting
        → ThreadStep console thread .timeout { thread with phase := .checking }
  | receive {thread : Thread Callback}
      : thread.phase = .waiting
        → ThreadStep console thread .receive
          { thread with phase := .calling (console.listeners thread.owner) }
  | call {thread : Thread Callback} {callback : Callback} {rest : List Callback}
      : thread.phase = .calling (callback :: rest)
        → ThreadStep console thread (.call callback) { thread with phase := .calling rest }
  | again {thread : Thread Callback}
      : thread.phase = .calling []
        → ThreadStep console thread .again { thread with phase := .checking }
  | disconnect {thread : Thread Callback}
      : thread.phase = .waiting
        → ThreadStep console thread .disconnect { thread with phase := .ended }

/-- Calls through the router with the route on record and the time (`look` is any other call), an
invalidation, and steps of threads.
-/
inductive Event (Callback : Type) where
  | add (route : Routing.Runtime) (now : Instant) (callback : Callback)
  | remove (route : Routing.Runtime) (now : Instant) (callback : Callback)
  | look (route : Routing.Runtime) (now : Instant)
  | invalidate
  | thread (event : ThreadEvent Callback)

inductive Step [DecidableEq Callback] (cleanup : Bool)
    : Console Callback → Event Callback → Console Callback → Prop
  | add {before : Console Callback} {route : Routing.Runtime} {now : Instant}
      {callback : Callback}
      : Step cleanup before (.add route now callback)
          (before.addLogListener route now callback)
  | remove {before : Console Callback} {route : Routing.Runtime} {now : Instant}
      {callback : Callback}
      : Step cleanup before (.remove route now callback)
          (before.removeLogListener cleanup route now callback)
  | look {before : Console Callback} {route : Routing.Runtime} {now : Instant}
      : Step cleanup before (.look route now) (before.getRuntime route now).2
  | invalidate {before : Console Callback}
      : Step cleanup before .invalidate { before with cache := none }
  | thread {before : Console Callback} {left right : List (Thread Callback)}
      {thread next : Thread Callback} {event : ThreadEvent Callback}
      : before.threads = left ++ thread :: right
        → ThreadStep before thread event next
        → Step cleanup before (.thread event) (before.setThreads (left ++ next :: right) next)

def Lawful (console : Console Callback) : Event Callback → Prop
  | .thread (.call callback) => callback ∈ console.registered
  | .thread (.check true) => console.registered ≠ []
  | _ => True

/-- Every open stream of the local object is the one whose process is on the books. -/
def Console.Recorded (console : Console Callback) : Prop :=
  ∀ thread ∈ console.threads, thread.owner = .systemd → thread.stopped = false
    → thread.phase ≠ .ended → console.logProc = some thread.number

/-- The last removal of a callback finds it in the runtime object that the router has, and
nowhere else: in no other object, and in no copy of a thread. The last removal on the local
object must be allowed to stop the stream, and find its process.
-/
def RemovalReaches [DecidableEq Callback] (cleanup : Bool) (console : Console Callback)
    : Event Callback → Prop
  | .remove route now callback =>
      let target := (console.getRuntime route now).1
      (target = .systemd → (console.listeners target).erase callback = []
        → cleanup = true ∧ console.Recorded)
        ∧ (callback ∉ console.registered.erase callback
          → (console.listeners target).count callback ≤ 1
            ∧ (∀ other, other ≠ target → callback ∉ console.listeners other)
            ∧ ∀ thread ∈ console.threads, callback ∉ thread.phase.pending)
  | _ => True

-- What every careful run keeps

namespace Console

variable (route : Routing.Runtime) (now : Instant) (console : Console Callback)

@[simp] theorem getRuntime_listeners
    : (console.getRuntime route now).2.listeners = console.listeners := by
  unfold getRuntime
  split <;> rfl

@[simp] theorem getRuntime_threads
    : (console.getRuntime route now).2.threads = console.threads := by
  unfold getRuntime
  split <;> rfl

@[simp] theorem getRuntime_logProc
    : (console.getRuntime route now).2.logProc = console.logProc := by
  unfold getRuntime
  split <;> rfl

@[simp] theorem getRuntime_registered
    : (console.getRuntime route now).2.registered = console.registered := by
  unfold getRuntime
  split <;> rfl

end Console

/-- Listeners that objects hold or threads have copied are registered, and a local stream runs
for a listener.
-/
structure Sound (console : Console Callback) : Prop where
  held : ∀ target, ∀ callback ∈ console.listeners target, callback ∈ console.registered
  copied
    : ∀ thread ∈ console.threads, ∀ callback ∈ thread.phase.pending,
      callback ∈ console.registered
  streams
    : ∀ thread ∈ console.threads, thread.owner = .systemd → thread.stopped = false
      → thread.phase ≠ .ended → console.listeners .systemd ≠ []

variable {console before after : Console Callback} {cleanup : Bool}
variable {event : Event Callback}

theorem Sound.getRuntime (sound : Sound console) (route : Routing.Runtime) (now : Instant)
    : Sound (console.getRuntime route now).2 := by
  refine ⟨?_, ?_, ?_⟩
  · simpa using sound.held
  · simpa using sound.copied
  · simpa using sound.streams

theorem Sound.startThread (sound : Sound console) {target : Target}
    (later : target = .systemd → console.listeners .systemd ≠ [])
    : Sound (console.startThread target) := by
  have threads : ∀ thread ∈ (console.startThread target).threads,
      thread ∈ console.threads
        ∨ thread = { owner := target, number := console.threads.length } := by
    simp [Console.startThread]
  refine ⟨sound.held, ?_, ?_⟩
  · intro thread member given copied
    rcases threads thread member with old | rfl
    · exact sound.copied thread old given copied
    · cases copied
  · intro thread member localOne running going
    rcases threads thread member with old | rfl
    · exact sound.streams thread old localOne running going
    · exact later localOne

theorem Sound.register (sound : Sound console) (target : Target) (callback : Callback)
    : Sound (console.register target callback) := by
  refine ⟨?_, ?_, ?_⟩
  · intro other given member
    simp only [Console.register, List.mem_append, List.mem_singleton] at member ⊢
    by_cases same : other = target
    · rw [same, Function.update_self, List.mem_append, List.mem_singleton] at member
      exact member.imp_left (sound.held target given)
    · rw [Function.update_of_ne same] at member
      exact .inl (sound.held other given member)
  · intro thread member given copied
    exact List.mem_append_left _ (sound.copied thread member given copied)
  · intro thread member localOne running going
    simp only [Console.register]
    by_cases same : .systemd = target
    · rw [same, Function.update_self]
      simp
    · rw [Function.update_of_ne same]
      exact sound.streams thread member localOne running going

theorem Sound.addTo (sound : Sound console) (target : Target) (callback : Callback)
    : Sound (console.addTo target callback) := by
  have registered : Sound (console.register target callback) := sound.register target callback
  unfold Console.addTo
  dsimp only
  split
  · refine registered.startThread ?_
    rintro rfl
    simp [Console.register]
  · exact registered

theorem Sound.thread (sound : Sound before) {left right : List (Thread Callback)}
    {thread next : Thread Callback} {event : ThreadEvent Callback}
    (split : before.threads = left ++ thread :: right)
    (taken : ThreadStep before thread event next)
    : Sound (before.setThreads (left ++ next :: right) next) := by
  have own : thread ∈ before.threads := by
    rw [split]
    simp
  have moved : next.owner = thread.owner ∧ next.stopped = thread.stopped
      ∧ thread.phase ≠ .ended
      ∧ ∀ callback ∈ next.phase.pending, callback ∈ before.registered := by
    cases taken with
    | check phase =>
        refine ⟨rfl, rfl, by simp [phase], ?_⟩
        cases goesOn before thread <;> simp [Phase.pending]
    | timeout phase => exact ⟨rfl, rfl, by simp [phase], by simp [Phase.pending]⟩
    | receive phase => exact ⟨rfl, rfl, by simp [phase], sound.held thread.owner⟩
    | call phase =>
        refine ⟨rfl, rfl, by simp [phase], fun callback member => ?_⟩
        exact sound.copied thread own callback (by
          rw [phase]
          exact List.mem_cons_of_mem _ member)
    | again phase => exact ⟨rfl, rfl, by simp [phase], by simp [Phase.pending]⟩
    | disconnect phase => exact ⟨rfl, rfl, by simp [phase], by simp [Phase.pending]⟩
  obtain ⟨owner, stopped, going, copied⟩ := moved
  have members : ∀ other ∈ left ++ next :: right, other ∈ before.threads ∨ other = next := by
    intro other member
    rw [split]
    simp only [List.mem_append, List.mem_cons] at member ⊢
    tauto
  refine ⟨sound.held, ?_, ?_⟩
  · intro other member
    rcases members other member with old | rfl
    · exact sound.copied other old
    · exact copied
  · intro other member localOne running _
    rcases members other member with old | rfl
    · exact sound.streams other old localOne running ‹_›
    · exact sound.streams thread own (owner ▸ localOne) (stopped ▸ running) going

theorem mem_erase_of_mem [DecidableEq Callback] {registered : List Callback}
    {given callback : Callback} (member : given ∈ registered)
    (last : callback ∉ registered.erase callback → given ≠ callback)
    : given ∈ registered.erase callback := by
  by_cases same : given = callback
  · by_contra gone
    exact last (same ▸ gone) same
  · exact (List.mem_erase_of_ne same).mpr member

theorem mem_threads_removeFrom [DecidableEq Callback] {target : Target} {callback : Callback}
    {thread : Thread Callback}
    (member : thread ∈ (console.removeFrom cleanup target callback).threads)
    : ∃ old ∈ console.threads, thread.phase = old.phase ∧ thread.owner = old.owner
        ∧ (thread.stopped = false → old.stopped = false
          ∧ ¬ ((old.owner = .systemd ∧ console.logProc = some old.number) ∧ target = .systemd
            ∧ cleanup = true ∧ (console.listeners target).erase callback = [])) := by
  simp only [Console.removeFrom] at member
  split at member
  · obtain ⟨old, stored, rfl⟩ := List.mem_map.mp member
    unfold Console.stopLogStream
    split
    · exact ⟨old, stored, rfl, rfl, nofun⟩
    next elsewhere =>
      exact ⟨old, stored, rfl, rfl, fun running => ⟨running, fun all => elsewhere all.1⟩⟩
  next open_ =>
    exact ⟨thread, member, rfl, rfl, fun running => ⟨running, fun all => open_ all.2⟩⟩

theorem Sound.removeFrom [DecidableEq Callback] (sound : Sound console) {target : Target}
    {callback : Callback}
    (stops
      : target = .systemd → (console.listeners target).erase callback = []
        → cleanup = true ∧ console.Recorded)
    (reaches : callback ∉ console.registered.erase callback
      → (console.listeners target).count callback ≤ 1
        ∧ (∀ other, other ≠ target → callback ∉ console.listeners other)
        ∧ ∀ thread ∈ console.threads, callback ∉ thread.phase.pending)
    : Sound (console.removeFrom cleanup target callback) := by
  refine ⟨?_, ?_, ?_⟩
  · intro other given member
    simp only [Console.removeFrom] at member ⊢
    by_cases same : other = target
    · rw [same, Function.update_self] at member
      refine mem_erase_of_mem (sound.held target given (List.mem_of_mem_erase member)) ?_
      rintro last rfl
      have none : ((console.listeners target).erase given).count given = 0 := by
        rw [List.count_erase_self]
        have once := (reaches last).1
        omega
      exact List.count_eq_zero.mp none member
    · rw [Function.update_of_ne same] at member
      refine mem_erase_of_mem (sound.held other given member) ?_
      rintro last rfl
      exact (reaches last).2.1 other same member
  · intro thread member given copied
    obtain ⟨old, stored, phase, _⟩ := mem_threads_removeFrom member
    rw [phase] at copied
    refine mem_erase_of_mem (sound.copied old stored given copied) ?_
    rintro last rfl
    exact (reaches last).2.2 old stored copied
  · intro thread member localOne running going
    obtain ⟨old, stored, phase, owner, open_⟩ := mem_threads_removeFrom member
    obtain ⟨still, left⟩ := open_ running
    have before := sound.streams old stored (owner ▸ localOne) still (phase ▸ going)
    simp only [Console.removeFrom]
    by_cases same : .systemd = target
    · rw [same, Function.update_self]
      intro none
      obtain ⟨cleans, recorded⟩ := stops same.symm none
      have known := recorded old stored (owner ▸ localOne) still (phase ▸ going)
      exact left ⟨⟨owner ▸ localOne, known⟩, same.symm, cleans, none⟩
    · rw [Function.update_of_ne same]
      exact before

theorem Sound.step [DecidableEq Callback] (sound : Sound before)
    (taken : Step cleanup before event after)
    (reaches : RemovalReaches cleanup before event)
    : Sound after := by
  cases taken with
  | add => exact (sound.getRuntime _ _).addTo _ _
  | remove =>
      obtain ⟨stops, last⟩ := reaches
      refine (sound.getRuntime _ _).removeFrom ?_ ?_
      · simpa [Console.Recorded] using stops
      · simpa using last
  | look => exact sound.getRuntime _ _
  | invalidate => exact ⟨sound.held, sound.copied, sound.streams⟩
  | thread split taken => exact sound.thread split taken

theorem Sound.lawful [DecidableEq Callback] (sound : Sound before)
    (taken : Step cleanup before event after)
    : Lawful before event := by
  cases taken with
  | @thread left right thread next event split taken =>
      have own : thread ∈ before.threads := by
        rw [split]
        simp
      cases taken with
      | check phase =>
          cases going : goesOn before thread with
          | false => trivial
          | true =>
              unfold goesOn at going
              intro none
              cases owner : thread.owner with
              | systemd =>
                  rw [owner] at going
                  have held := sound.streams thread own owner (by simpa using going)
                    (by simp [phase])
                  obtain ⟨callback, member⟩ := List.exists_mem_of_ne_nil _ held
                  exact List.not_mem_nil (none ▸ sound.held _ callback member)
              | agent number =>
                  rw [owner] at going
                  obtain ⟨callback, member⟩ :=
                    List.exists_mem_of_ne_nil _ (by simpa using going)
                  exact List.not_mem_nil (none ▸ sound.held _ callback member)
      | call phase =>
          exact sound.copied thread own _ (by
            rw [phase]
            exact List.mem_cons_self)
      | _ => trivial
  | _ => trivial

-- After the last removal

/-- No object has a listener, and no local stream is open. -/
structure Quiet (console : Console Callback) : Prop where
  empty : ∀ target, console.listeners target = []
  closed
    : ∀ thread ∈ console.threads, thread.owner = .systemd
      → thread.stopped = true ∨ thread.phase = .ended

theorem Sound.quiet (sound : Sound console) (none : console.registered = [])
    : Quiet console := by
  have empty : ∀ target, console.listeners target = [] := by
    intro target
    refine List.eq_nil_iff_forall_not_mem.mpr fun callback member => ?_
    exact List.not_mem_nil (none ▸ sound.held target callback member)
  refine ⟨empty, fun thread member localOne => ?_⟩
  by_contra open_
  rw [not_or, Bool.not_eq_true] at open_
  exact sound.streams thread member localOne open_.1 open_.2 (empty .systemd)

/-- How many steps a thread has left when there is nobody to call. -/
def Thread.left (thread : Thread Callback) : Nat :=
  match thread.phase with
  | .checking => 1
  | .waiting => 3
  | .calling listeners => listeners.length + 2
  | .ended => 0

def stepsLeft : List (Thread Callback) → Nat
  | [] => 0
  | thread :: rest => thread.left + stepsLeft rest

def Console.left (console : Console Callback) : Nat := stepsLeft console.threads

/-- The steps of joined threads add up, by induction on the first ones. -/
theorem stepsLeft_append (threads more : List (Thread Callback))
    : stepsLeft (threads ++ more) = stepsLeft threads + stepsLeft more := by
  induction threads with
  | nil => simp [stepsLeft]
  | cons thread rest ih => simp [stepsLeft, ih, Nat.add_assoc]

/-- A rewriting that leaves each thread its steps, by induction on the threads. -/
theorem stepsLeft_map {change : Thread Callback → Thread Callback}
    (same : ∀ thread, (change thread).left = thread.left) (threads : List (Thread Callback))
    : stepsLeft (threads.map change) = stepsLeft threads := by
  induction threads with
  | nil => rfl
  | cons thread rest ih => simp [stepsLeft, same, ih]

def Event.isAdd : Event Callback → Bool
  | .add .. => true
  | _ => false

def Event.isThread : Event Callback → Bool
  | .thread _ => true
  | _ => false

theorem left_getRuntime (route : Routing.Runtime) (now : Instant)
    : (console.getRuntime route now).2.left = console.left := by
  simp [Console.left]

theorem Quiet.getRuntime (quiet : Quiet console) (route : Routing.Runtime) (now : Instant)
    : Quiet (console.getRuntime route now).2 := by
  refine ⟨?_, ?_⟩
  · simpa using quiet.empty
  · simpa using quiet.closed

theorem Quiet.removeFrom [DecidableEq Callback] (quiet : Quiet console) (target : Target)
    (callback : Callback)
    : Quiet (console.removeFrom cleanup target callback)
      ∧ (console.removeFrom cleanup target callback).left = console.left := by
  have nothing : Function.update console.listeners target
      ((console.listeners target).erase callback) = console.listeners := by
    rw [quiet.empty target, List.erase_nil, ← quiet.empty target, Function.update_eq_self]
  have stopped : ∀ thread : Thread Callback,
      (Console.stopLogStream console.logProc thread).left = thread.left := by
    intro thread
    unfold Console.stopLogStream
    split <;> rfl
  refine ⟨⟨?_, ?_⟩, ?_⟩
  · intro other
    simp only [Console.removeFrom, nothing]
    exact quiet.empty other
  · intro thread member localOne
    obtain ⟨old, stored, phase, owner, open_⟩ := mem_threads_removeFrom member
    rcases Bool.eq_false_or_eq_true thread.stopped with ended | running
    · exact .inl ended
    · rcases quiet.closed old stored (owner ▸ localOne) with ended | ended
      · exact absurd ((open_ running).1.symm.trans ended) (by simp)
      · exact .inr (phase.trans ended)
  · simp only [Console.left, Console.removeFrom]
    split
    · exact stepsLeft_map stopped console.threads
    · rfl

theorem Quiet.removeLogListener [DecidableEq Callback] (quiet : Quiet console)
    (route : Routing.Runtime) (now : Instant) (callback : Callback)
    : Quiet (console.removeLogListener cleanup route now callback)
      ∧ (console.removeLogListener cleanup route now callback).left = console.left := by
  obtain ⟨still, same⟩ := (quiet.getRuntime route now).removeFrom
    (console.getRuntime route now).1 callback
  exact ⟨still, same.trans (left_getRuntime route now)⟩

theorem Quiet.thread (quiet : Quiet before) {left right : List (Thread Callback)}
    {thread next : Thread Callback} {event : ThreadEvent Callback}
    (split : before.threads = left ++ thread :: right)
    (taken : ThreadStep before thread event next)
    : Quiet (before.setThreads (left ++ next :: right) next)
      ∧ next.left + 1 ≤ thread.left := by
  have own : thread ∈ before.threads := by
    rw [split]
    simp
  have moved : next.owner = thread.owner ∧ next.stopped = thread.stopped
      ∧ thread.phase ≠ .ended ∧ next.left + 1 ≤ thread.left := by
    cases taken with
    | check phase =>
        have ends : goesOn before thread = false := by
          unfold goesOn
          cases owner : thread.owner with
          | agent number => simp [quiet.empty]
          | systemd =>
              have stopped := (quiet.closed thread own owner).resolve_right (by simp [phase])
              simp [stopped]
        exact ⟨rfl, rfl, by simp [phase], by simp [Thread.left, phase, ends]⟩
    | timeout phase => exact ⟨rfl, rfl, by simp [phase], by simp [Thread.left, phase]⟩
    | receive phase =>
        exact ⟨rfl, rfl, by simp [phase], by simp [Thread.left, phase, quiet.empty]⟩
    | call phase => exact ⟨rfl, rfl, by simp [phase], by simp [Thread.left, phase]⟩
    | again phase => exact ⟨rfl, rfl, by simp [phase], by simp [Thread.left, phase]⟩
    | disconnect phase => exact ⟨rfl, rfl, by simp [phase], by simp [Thread.left, phase]⟩
  obtain ⟨owner, stopped, going, fewer⟩ := moved
  refine ⟨⟨quiet.empty, fun other member localOne => ?_⟩, fewer⟩
  have known : other ∈ before.threads ∨ other = next := by
    rw [split]
    simp only [Console.setThreads, List.mem_append, List.mem_cons] at member ⊢
    tauto
  rcases known with old | rfl
  · exact quiet.closed other old localOne
  · rw [stopped]
    exact .inl ((quiet.closed thread own (owner ▸ localOne)).resolve_right going)

theorem Quiet.ends [DecidableEq Callback] (quiet : Quiet console)
    {events : List (Event Callback)} {finish : Console Callback}
    (run : Run (fun before event after =>
      Step cleanup before event after ∧ event.isAdd = false) console events finish)
    : events.countP Event.isThread ≤ console.left := by
  have descends := run.descends Quiet Console.left Event.isThread ?_ quiet
  · omega
  rintro before event after ⟨taken, nothing⟩ quiet
  cases taken with
  | add => cases nothing
  | remove =>
      obtain ⟨still, same⟩ := quiet.removeLogListener _ _ _
      exact ⟨still, same.le⟩
  | look => exact ⟨quiet.getRuntime _ _, (left_getRuntime _ _).le⟩
  | invalidate => exact ⟨⟨quiet.empty, quiet.closed⟩, Nat.le_refl _⟩
  | thread split taken =>
      obtain ⟨still, fewer⟩ := quiet.thread split taken
      refine ⟨still, ?_⟩
      simp only [Console.left, Console.setThreads, split, stepsLeft_append, stepsLeft,
        Event.isThread, if_true]
      omega

/-- Where every last removal reaches the object that holds the listener, and no thread is about
to call it, removed callbacks are called no more; and once the last one is removed, the threads
of the server end after the steps that they have left.
-/
theorem removed_listeners_stay_silent [DecidableEq Callback] {events : List (Event Callback)}
    (run : Run (fun before event after =>
      Step cleanup before event after ∧ RemovalReaches cleanup before event) {} events console)
    : (∀ event after, Step cleanup console event after → Lawful console event)
      ∧ (console.registered = [] → ∀ more finish,
        Run (fun before event after => Step cleanup before event after ∧ event.isAdd = false)
          console more finish
        → more.countP Event.isThread ≤ console.left) := by
  have sound : Sound console := by
    refine run.invariant Sound (fun _ => True) ?_ (fun _ _ => trivial) ⟨?_, ?_, ?_⟩
    · rintro before event after - ⟨taken, reaches⟩ sound
      exact sound.step taken reaches
    all_goals nofun
  exact ⟨fun event after => sound.lawful, fun none more finish => (sound.quiet none).ends⟩

def agentRoute : Routing.Runtime := .agent "http://10.0.0.1:8001"

def sessionUntil (now : Instant) : Console Nat :=
  (({} : Console Nat).addLogListener agentRoute 0 1).removeLogListener true agentRoute now 1

/-- After five seconds the listener is removed from the object that holds it. -/
theorem short_session_ends
    : (∀ event after, Step true (sessionUntil 5000000) event after
        → Lawful (sessionUntil 5000000) event)
      ∧ ∀ more finish,
        Run (fun before event after => Step true before event after ∧ event.isAdd = false)
          (sessionUntil 5000000) more finish
        → more.countP Event.isThread ≤ (sessionUntil 5000000).left := by
  have reaches : RemovalReaches true (({} : Console Nat).addLogListener agentRoute 0 1)
      (.remove agentRoute 5000000 1) := by
    refine ⟨nofun, fun _ => ⟨by decide, ?_, by decide⟩⟩
    intro other differs
    have elsewhere : (({} : Console Nat).addLogListener agentRoute 0 1).listeners other = [] :=
      Function.update_of_ne differs _ _
    rw [elsewhere]
    exact List.not_mem_nil
  obtain ⟨lawful, ends⟩ := removed_listeners_stay_silent
    ((Run.single ⟨Step.add, trivial⟩).next ⟨Step.remove, reaches⟩)
  exact ⟨lawful, ends rfl⟩

/-- After a session of eleven seconds the first object still has the listener and its thread. -/
def lateSession (phase : Phase Nat) : Console Nat :=
  { sessionUntil 11000000 with threads := [{ owner := .agent 0, phase }] }

theorem step_lateSession {phase next : Phase Nat} {event : ThreadEvent Nat}
    (taken : ThreadStep (lateSession phase) { owner := .agent 0, phase } event
      { owner := .agent 0, phase := next })
    : Step true (lateSession phase) (.thread event) (lateSession next) := by
  have only : (lateSession phase).threads = [] ++ { owner := .agent 0, phase } :: [] := rfl
  exact Step.thread only taken

/-- The callback is called after its removal, and its thread goes on without a registered one. -/
theorem late_removal_misses_listener
    : ∃ removed calling after going,
      Run (Step true) ({} : Console Nat)
        [.add agentRoute 0 1, .remove agentRoute 11000000 1] removed
      ∧ removed.registered = []
      ∧ Run (Step true) removed [.thread (.check true), .thread .receive] calling
      ∧ Step true calling (.thread (.call 1)) after
      ∧ Run (Step true) after [.thread .again, .thread (.check true)] going := by
  have check : Step true (lateSession .checking) (.thread (.check true))
      (lateSession .waiting) :=
    step_lateSession (.check rfl)
  have receive : Step true (lateSession .waiting) (.thread .receive)
      (lateSession (.calling [1])) :=
    step_lateSession (.receive rfl)
  have call : Step true (lateSession (.calling [1])) (.thread (.call 1))
      (lateSession (.calling [])) :=
    step_lateSession (.call rfl)
  have again : Step true (lateSession (.calling [])) (.thread .again) (lateSession .checking) :=
    step_lateSession (.again rfl)
  have removed : Run (Step true) ({} : Console Nat)
      [.add agentRoute 0 1, .remove agentRoute 11000000 1] (lateSession .checking) :=
    (Run.single Step.add).next Step.remove
  exact ⟨_, _, _, _, removed, rfl, (Run.single check).next receive, call,
    (Run.single again).next check⟩

end Blockhost.LogListeners
