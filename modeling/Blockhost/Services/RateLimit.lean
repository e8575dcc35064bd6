import Mathlib.Data.List.Induction
import Mathlib.Data.List.TakeWhile
import Mathlib.Logic.Function.Basic
import Mathlib.Order.Lattice
import Mathlib.Data.Int.Order.Basic

/-! The rate limiter. Each process keeps the times of the calls that it has allowed, a list for
each key, and drops the oldest ones when they leave the window.
-/

namespace Blockhost.RateLimit

variable {Time : Type} [LinearOrder Time] [Sub Time]

abbrev Buckets (Time : Type) := String → List Time

structure Call (Time : Type) where
  key : String
  limit : Int
  window : Time
  now : Time

/-- `_local_check` -/
def localCheck (call : Call Time) (buckets : Buckets Time) : Bool × Buckets Time :=
  let bucket := (buckets call.key).dropWhile (fun time => time ≤ call.now - call.window)
  if call.limit ≤ bucket.length then (false, Function.update buckets call.key bucket)
  else (true, Function.update buckets call.key (bucket ++ [call.now]))

structure Log (Time : Type) where
  buckets : Buckets Time := fun _ => []
  decisions : List (Call Time × Bool) := []

def Log.serve (log : Log Time) (call : Call Time) : Log Time :=
  let (allowed, buckets) := localCheck call log.buckets
  { buckets, decisions := log.decisions ++ [(call, allowed)] }

def served (calls : List (Call Time)) : Log Time := calls.foldl Log.serve {}

def Log.allowed (log : Log Time) (key : String) : List Time :=
  log.decisions.filterMap (fun (call, allowed) =>
    if call.key = key ∧ allowed = true then some call.now else none)

/-- The times in the half-open interval that ends now. -/
def within (window now : Time) (times : List Time) : Nat :=
  times.countP (fun time => now - window < time ∧ time ≤ now)

omit [Sub Time] in
/-- The times that leave a window are a first part of a sorted list, by induction on it. -/
theorem dropWhile_le_of_pairwise {times : List Time} (ordered : times.Pairwise (· ≤ ·))
    (cutoff : Time)
    : ∀ time ∈ times.dropWhile (· ≤ cutoff), cutoff < time := by
  induction times with
  | nil => exact fun _ member => absurd member List.not_mem_nil
  | cons first rest ih =>
      obtain ⟨least, later⟩ := List.pairwise_cons.mp ordered
      rw [List.dropWhile_cons]
      split
      · exact ih later
      · rename_i kept
        have above : cutoff < first := not_le.mp (by simpa using kept)
        intro time member
        rcases List.mem_cons.mp member with rfl | behind
        · exact above
        · exact above.trans_le (least time behind)

/-- What the bucket of a key has to do with its history: it is the last part of the times at
which calls were allowed, and what is gone from it stays out of every later window.
-/
structure Tracks (log : Log Time) (key : String) (window now : Time) : Prop where
  ordered : (log.allowed key).Pairwise (· ≤ ·)
  past : ∀ time ∈ log.allowed key, time ≤ now
  bucket
    : ∃ gone, log.allowed key = gone ++ log.buckets key
      ∧ ∀ time ∈ gone, ∀ later, now ≤ later → time ≤ later - window

theorem tracks_initial (key : String) (window now : Time)
    : Tracks ({} : Log Time) key window now :=
  ⟨.nil, fun _ member => absurd member List.not_mem_nil, [], rfl,
    fun _ member => absurd member List.not_mem_nil⟩

variable {log : Log Time} {call : Call Time} {key : String} {window now : Time}

theorem Tracks.later (tracks : Tracks log key window now) {later : Time} (after : now ≤ later)
    : Tracks log key window later := by
  obtain ⟨ordered, past, gone, whole, out⟩ := tracks
  exact ⟨ordered, fun time member => (past time member).trans after, gone, whole,
    fun time member next beyond => out time member next (after.trans beyond)⟩

theorem serve_decisions (log : Log Time) (call : Call Time)
    : (log.serve call).decisions
      = log.decisions ++ [(call, (localCheck call log.buckets).1)] :=
  rfl

theorem serve_buckets (log : Log Time) (call : Call Time)
    : (log.serve call).buckets = (localCheck call log.buckets).2 :=
  rfl

theorem allowed_serve (log : Log Time) (call : Call Time) (key : String)
    : (log.serve call).allowed key
      = log.allowed key
        ++ if call.key = key ∧ (localCheck call log.buckets).1 = true then [call.now]
          else [] := by
  unfold Log.allowed
  rw [serve_decisions, List.filterMap_append]
  congr 1
  split <;> simp_all

theorem Tracks.kept (tracks : Tracks log key window now)
    : within window now (log.allowed key)
      = ((log.buckets key).dropWhile (fun time => time ≤ now - window)).length := by
  obtain ⟨ordered, past, gone, whole, out⟩ := tracks
  have parts := List.takeWhile_append_dropWhile (p := fun time => time ≤ now - window)
    (l := log.buckets key)
  have sorted : (log.buckets key).Pairwise (· ≤ ·) := by
    rw [whole] at ordered
    exact (List.pairwise_append.mp ordered).2.1
  have old : within window now gone = 0 := by
    refine List.countP_eq_zero.mpr fun time member inside => ?_
    have left := of_decide_eq_true inside
    exact absurd left.1 (not_lt.mpr (out time member now le_rfl))
  have left : within window now ((log.buckets key).takeWhile (fun time => time ≤ now - window))
      = 0 := by
    refine List.countP_eq_zero.mpr fun time member inside => ?_
    have before : time ≤ now - window := by simpa using List.mem_takeWhile_imp member
    exact absurd (of_decide_eq_true inside).1 (not_lt.mpr before)
  have inside
      : within window now ((log.buckets key).dropWhile (fun time => time ≤ now - window))
        = ((log.buckets key).dropWhile (fun time => time ≤ now - window)).length := by
    refine List.countP_eq_length.mpr fun time member => decide_eq_true ⟨?_, ?_⟩
    · exact dropWhile_le_of_pairwise sorted _ time member
    · refine past time ?_
      rw [whole]
      exact List.mem_append_right _ ((List.dropWhile_sublist _).subset member)
  have split : within window now (log.buckets key)
      = within window now ((log.buckets key).takeWhile (fun time => time ≤ now - window))
        + within window now ((log.buckets key).dropWhile (fun time => time ≤ now - window)) := by
    unfold within
    rw [← List.countP_append, parts]
  rw [whole, within, List.countP_append]
  change within window now gone + within window now (log.buckets key) = _
  rw [old, split, left, inside, Nat.zero_add, Nat.zero_add]

section Steady

variable (steady : ∀ earlier later : Time, earlier ≤ later → earlier - window ≤ later - window)

include steady in
theorem Tracks.serve (tracks : Tracks log key window call.now) (own : call.key = key)
    (same : call.window = window)
    : Tracks (log.serve call) key window call.now := by
  obtain ⟨ordered, past, gone, whole, out⟩ := tracks
  subst own same
  have parts := List.takeWhile_append_dropWhile
    (p := fun time => time ≤ call.now - call.window) (l := log.buckets call.key)
  have bucket
      : (log.serve call).buckets call.key
        = (log.buckets call.key).dropWhile (fun time => time ≤ call.now - call.window)
          ++ if (localCheck call log.buckets).1 = true then [call.now] else [] := by
    rw [serve_buckets]
    unfold localCheck
    dsimp only
    split <;> simp
  refine ⟨?_, ?_, ?_⟩
  · rw [allowed_serve]
    refine List.pairwise_append.mpr ⟨ordered, ?_, ?_⟩
    · split
      · exact List.pairwise_singleton ..
      · exact .nil
    · intro time member later last
      split at last
      · cases List.mem_singleton.mp last
        exact past time member
      · cases last
  · intro time member
    rw [allowed_serve] at member
    rcases List.mem_append.mp member with before | last
    · exact past time before
    · split at last
      · cases List.mem_singleton.mp last
        exact le_rfl
      · cases last
  · refine ⟨gone ++ (log.buckets call.key).takeWhile
      (fun time => time ≤ call.now - call.window), ?_, ?_⟩
    · rw [allowed_serve, bucket, whole]
      simp only [List.append_assoc, true_and]
      rw [← List.append_assoc (List.takeWhile _ _), parts]
    · intro time member later beyond
      rcases List.mem_append.mp member with before | left
      · exact out time before later beyond
      · have early : time ≤ call.now - call.window :=
          by simpa using List.mem_takeWhile_imp left
        exact early.trans (steady call.now later beyond)

theorem Tracks.serve_other (tracks : Tracks log key window now) (other : call.key ≠ key)
    : Tracks (log.serve call) key window now := by
  have history : (log.serve call).allowed key = log.allowed key := by
    rw [allowed_serve, if_neg (fun own => other own.1), List.append_nil]
  have bucket : (log.serve call).buckets key = log.buckets key := by
    rw [serve_buckets]
    unfold localCheck
    dsimp only
    split <;> exact Function.update_of_ne other.symm ..
  obtain ⟨ordered, past, gone, whole, out⟩ := tracks
  exact ⟨history.symm ▸ ordered, history.symm ▸ past, gone,
    by rw [history, bucket, whole], out⟩

include steady in
/-- After any calls in the order of their times, by induction from the last call. -/
theorem tracks_served (calls : List (Call Time))
    (ordered : calls.Pairwise (fun first second => first.now ≤ second.now))
    (same : ∀ call ∈ calls, call.key = key → call.window = window)
    (late : ∀ call ∈ calls, call.now ≤ now)
    : Tracks (served calls) key window now := by
  induction calls using List.reverseRecOn generalizing now with
  | nil => exact tracks_initial key window now
  | append_singleton calls call ih =>
      obtain ⟨earlier, _, last⟩ := List.pairwise_append.mp ordered
      have before := ih earlier
        (fun earlier member => same earlier (List.mem_append_left _ member))
        (fun earlier member => last earlier member call (List.mem_singleton_self call))
      have after : Tracks ((served calls).serve call) key window call.now := by
        by_cases own : call.key = key
        · exact before.serve steady own (same call (by simp) own)
        · exact before.serve_other own
      unfold served
      rw [List.foldl_append]
      exact after.later (late call (by simp))

end Steady

theorem localCheck_allowed_iff {earlier : List (Call Time)}
    (ordered : (earlier ++ [call]).Pairwise (fun first second => first.now ≤ second.now))
    (same : ∀ other ∈ earlier, other.key = call.key → other.window = call.window)
    (steady : ∀ first second : Time, first ≤ second
      → first - call.window ≤ second - call.window)
    : (localCheck call (served earlier).buckets).1 = true
      ↔ within call.window call.now ((served earlier).allowed call.key) < call.limit := by
  obtain ⟨before, _, last⟩ := List.pairwise_append.mp ordered
  have tracks := tracks_served steady earlier before same
    (fun other member => last other member call (List.mem_singleton_self call))
  rw [tracks.kept]
  unfold localCheck
  dsimp only
  split
  · rename_i full
    exact iff_of_false Bool.false_ne_true (Int.not_lt.mpr full)
  · rename_i free
    exact iff_of_true rfl (Int.not_le.mp free)

theorem length_decisions (calls : List (Call Time))
    : (served calls).decisions.length = calls.length := by
  induction calls using List.reverseRecOn with
  | nil => rfl
  | append_singleton calls call ih =>
      unfold served at ih ⊢
      rw [List.foldl_append, List.foldl_cons, List.foldl_nil, serve_decisions,
        List.length_append, List.length_append, ih]
      rfl

/-- Later calls leave the decisions, by induction on them. -/
theorem decisions_foldl (calls : List (Call Time)) (log : Log Time)
    : ∃ more, (calls.foldl Log.serve log).decisions = log.decisions ++ more := by
  induction calls generalizing log with
  | nil => exact ⟨[], (List.append_nil _).symm⟩
  | cons call rest ih =>
      obtain ⟨more, later⟩ := ih (log.serve call)
      exact ⟨(call, (localCheck call log.buckets).1) :: more, by
        rw [List.foldl_cons, later, serve_decisions, List.append_assoc, List.singleton_append]⟩

/-- Among any calls, a call is told exactly whether fewer calls of its key than the limit were
allowed before it in the window that ends with it.
-/
theorem local_limit_is_exact (earlier later : List (Call Time)) (call : Call Time)
    (ordered
      : (earlier ++ call :: later).Pairwise (fun first second => first.now ≤ second.now))
    (same : ∀ other ∈ earlier, other.key = call.key → other.window = call.window)
    (steady : ∀ first second : Time, first ≤ second
      → first - call.window ≤ second - call.window)
    : (served (earlier ++ call :: later)).decisions[earlier.length]?
      = some (call,
          decide (within call.window call.now ((served earlier).allowed call.key)
            < call.limit)) := by
  have first_part
      : (earlier ++ [call]).Pairwise (fun first second => first.now ≤ second.now) := by
    rw [← List.singleton_append, ← List.append_assoc] at ordered
    exact (List.pairwise_append.mp ordered).1
  have told : (localCheck call (served earlier).buckets).1
      = decide (within call.window call.now ((served earlier).allowed call.key)
          < call.limit) := by
    rw [Bool.eq_iff_iff, decide_eq_true_eq]
    exact localCheck_allowed_iff first_part same steady
  obtain ⟨more, after⟩ := decisions_foldl later ((served earlier).serve call)
  have whole : (served (earlier ++ call :: later)).decisions
      = (served earlier).decisions
        ++ (call, (localCheck call (served earlier).buckets).1) :: more := by
    unfold served at after ⊢
    rw [List.foldl_append, List.foldl_cons, after, serve_decisions, List.append_assoc,
      List.singleton_append]
  rw [whole, ← length_decisions earlier, List.getElem?_append_right (Nat.le_refl _),
    Nat.sub_self, List.getElem?_cons_zero, told]

private def callAt (now : Int) : Call Int := ⟨"key", 2, 10, now⟩

/-- The third call within ten seconds is refused where two are allowed. -/
theorem third_call_is_refused
    : (served [callAt 0, callAt 3, callAt 9]).decisions[2]? = some (callAt 9, false) :=
  local_limit_is_exact [callAt 0, callAt 3] [] (callAt 9) (by decide) (by decide)
    (fun _ _ earlier => Int.sub_le_sub_right earlier 10)

end Blockhost.RateLimit
