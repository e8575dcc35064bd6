import Blockhost.Services.RateLimit
import Mathlib.Algebra.Order.Group.Defs
import Mathlib.Algebra.Order.Group.Int
import Mathlib.Data.List.Chain
import Mathlib.Order.Lattice

/-! The two limiters on the calls of one key. In Redis a counter lives until no call has come
for a window, so that it limits the calls of a burst.
-/

namespace Blockhost.RateLimit

variable {Time : Type}

abbrev Decisions (Time : Type) := List (Time × Bool)

def allowedTimes (decisions : Decisions Time) : List Time :=
  decisions.filterMap (fun (now, allowed) => if allowed = true then some now else none)

theorem allowedTimes_sublist (decisions : Decisions Time)
    : (allowedTimes decisions).Sublist (decisions.map Prod.fst) := by
  induction decisions with
  | nil => exact .slnil
  | cons decision rest ih =>
      obtain ⟨now, allowed⟩ := decision
      unfold allowedTimes at ih ⊢
      cases allowed with
      | false => exact ih.cons now
      | true => exact ih.cons_cons now

theorem allowedTimes_concat (decisions : Decisions Time) (now : Time) (allowed : Bool)
    : allowedTimes (decisions ++ [(now, allowed)])
      = allowedTimes decisions ++ if allowed = true then [now] else [] := by
  unfold allowedTimes
  rw [List.filterMap_append]
  cases allowed <;> rfl

variable [LinearOrder Time]

section Model

variable [AddCommGroup Time]

/-- The counter of a key, with the time after which it is gone. -/
structure Counter (Time : Type) where
  count : Nat
  deadline : Time

/-- `_redis_check`, which increments the counter of the key and sets its time to live from now.
A key whose time to live is not positive is deleted.
-/
def redisCheck (expired : Time → Time → Bool) (limit : Int) (window now : Time)
    (stored : Option (Counter Time))
    : Bool × Option (Counter Time) :=
  let live := stored.filter (fun counter => !expired counter.deadline now)
  let count := (live.map Counter.count).getD 0 + 1
  (count ≤ limit, if window ≤ 0 then none else some ⟨count, now + window⟩)

/-- The counter after some calls, with what each of them was told. -/
structure RedisLog (Time : Type) where
  stored : Option (Counter Time) := none
  decisions : Decisions Time := []

def redisServed (expired : Time → Time → Bool) (limit : Int) (window : Time) (times : List Time)
    : RedisLog Time :=
  times.foldl
    (fun log now =>
      let (allowed, stored) := redisCheck expired limit window now log.stored
      { stored, decisions := log.decisions ++ [(now, allowed)] })
    {}

def localDecisions (key : String) (limit : Int) (window : Time) (times : List Time)
    : Decisions Time :=
  (served (times.map (fun now => ⟨key, limit, window, now⟩))).decisions.map
    (fun (call, allowed) => (call.now, allowed))

end Model

section Law

variable [Sub Time]

/-- A client that makes at most so many calls in every window. -/
def WellBehaved (limit : Int) (window : Time) (times : List Time) : Prop :=
  ∀ now, within window now times ≤ limit

/-- In no window are more calls allowed than the limit, and a client that keeps to it is never
refused.
-/
structure Limits (limit : Int) (window : Time) (times : List Time) (decisions : Decisions Time)
    : Prop where
  bounded : ∀ now, within window now (allowedTimes decisions) ≤ max limit 0
  serves : WellBehaved limit window times → ∀ decision ∈ decisions, decision.2 = true

end Law

/-- Both limiters are limits of the same kind for the calls of a key. -/
structure SameKind [AddCommGroup Time] (expired : Time → Time → Bool) (key : String)
    (limit : Int) (window : Time) (times : List Time)
    : Prop where
  ofRedis : Limits limit window times (redisServed expired limit window times).decisions
  ofProcess : Limits limit window times (localDecisions key limit window times)

variable [AddCommGroup Time]

/-- Successive calls of which each finds the counter of the one before. -/
def Burst (expired : Time → Time → Bool) (window : Time) (times : List Time) : Prop :=
  times.IsChain (fun first second => 0 < window ∧ expired (first + window) second = false)

def ShortBursts (expired : Time → Time → Bool) (limit : Int) (window : Time) (times : List Time)
    : Prop :=
  ∀ earlier burst later, times = earlier ++ burst ++ later → burst ≠ []
    → Burst expired window burst → burst.length ≤ limit

/-- What the counter says about the calls so far: it counts the longest burst that ends with
the last one.
-/
structure Tally (expired : Time → Time → Bool) (window : Time) (times : List Time)
    (stored : Option (Counter Time)) (count : Nat)
    : Prop where
  stored
    : ∃ earlier last, times = earlier ++ [last]
      ∧ stored = if window ≤ 0 then none else some ⟨count, last + window⟩
  reached
    : ∃ earlier burst, times = earlier ++ burst ∧ burst ≠ [] ∧ Burst expired window burst
      ∧ burst.length = count
  longest
    : ∀ earlier burst, times = earlier ++ burst → Burst expired window burst
      → burst.length ≤ count

variable {expired : Time → Time → Bool} {limit : Int} {window : Time} {times : List Time}
variable {stored : Option (Counter Time)} {count : Nat}

theorem redisCheck_found {now deadline : Time} (found : expired deadline now = false)
    : redisCheck expired limit window now (some ⟨count, deadline⟩)
      = (decide ((count + 1 : Nat) ≤ limit),
          if window ≤ 0 then none else some ⟨count + 1, now + window⟩) := by
  unfold redisCheck
  rw [Option.filter_some, found]
  rfl

theorem redisCheck_gone {now : Time}
    (gone : stored.filter (fun counter => !expired counter.deadline now) = none)
    : redisCheck expired limit window now stored
      = (decide ((1 : Nat) ≤ limit), if window ≤ 0 then none else some ⟨1, now + window⟩) := by
  unfold redisCheck
  rw [gone]
  rfl

theorem eq_append_concat {Item : Type} {items earlier burst : List Item} {item : Item}
    (whole : items ++ [item] = earlier ++ burst)
    : burst = [] ∨ ∃ front, items = earlier ++ front ∧ burst = front ++ [item] := by
  rcases List.eq_nil_or_concat burst with empty | ⟨front, last, rfl⟩
  · exact .inl empty
  · rw [List.concat_eq_append, ← List.append_assoc] at whole
    obtain ⟨same, last⟩ := List.append_inj' whole rfl
    cases last
    exact .inr ⟨front, same, List.concat_eq_append⟩

theorem Burst.concat {last now : Time} {front : List Time}
    : Burst expired window ((front ++ [last]) ++ [now])
      ↔ Burst expired window (front ++ [last])
        ∧ 0 < window ∧ expired (last + window) now = false := by
  unfold Burst
  rw [List.isChain_append, List.isChain_append]
  simp

theorem tally_alone (times : List Time) {now : Time}
    (alone : ∀ last ∈ times.getLast?, ¬ (0 < window ∧ expired (last + window) now = false))
    : Tally expired window (times ++ [now])
        (if window ≤ 0 then none else some ⟨1, now + window⟩) 1 := by
  refine ⟨⟨times, now, rfl, rfl⟩, ⟨times, [now], rfl, nofun, .singleton _, rfl⟩, ?_⟩
  intro earlier burst whole together
  rcases eq_append_concat whole with rfl | ⟨front, rfl, rfl⟩
  · exact Nat.zero_le _
  · rcases List.eq_nil_or_concat front with rfl | ⟨inner, last, rfl⟩
    · exact Nat.le_refl _
    · rw [List.concat_eq_append] at together alone
      refine absurd (Burst.concat.mp together).2 (alone last ?_)
      simp

theorem Tally.check (tally : Tally expired window times stored count) (limit : Int) (now : Time)
    : ∃ next, (redisCheck expired limit window now stored).1 = decide ((next : Nat) ≤ limit)
      ∧ Tally expired window (times ++ [now])
          (redisCheck expired limit window now stored).2 next := by
  obtain ⟨⟨before, last, ends, kept⟩, ⟨start, burst, whole, filled, together, length⟩,
    longest⟩ := tally
  by_cases found : 0 < window ∧ expired (last + window) now = false
  · have present : stored = some ⟨count, last + window⟩ :=
      kept.trans (if_neg (not_le.mpr found.1))
    rw [present, redisCheck_found found.2]
    refine ⟨count + 1, rfl, ⟨times, now, rfl, rfl⟩, ?_, ?_⟩
    · refine ⟨start, burst ++ [now], ?_, by simp, ?_, by simp [length]⟩
      · rw [whole, List.append_assoc]
      · rcases eq_append_concat (ends.symm.trans whole) with empty | ⟨front, _, rfl⟩
        · exact absurd empty filled
        · exact Burst.concat.mpr ⟨together, found⟩
    · intro earlier longer whole together
      rcases eq_append_concat whole with rfl | ⟨front, inside, rfl⟩
      · exact Nat.zero_le _
      · have within := longest earlier front inside together.left_of_append
        rw [List.length_append, List.length_singleton]
        omega
  · have gone : stored.filter (fun counter => !expired counter.deadline now) = none := by
      rw [kept]
      split
      · rfl
      · rename_i positive
        have old : expired (last + window) now = true := by
          simpa [not_le.mp positive] using found
        rw [Option.filter_some, old]
        rfl
    rw [redisCheck_gone gone]
    refine ⟨1, rfl, tally_alone times ?_⟩
    intro final member
    rw [ends] at member
    simp only [List.getLast?_append, List.getLast?_singleton, Option.some_or,
      Option.mem_some_iff] at member
    rwa [← member]

-- Runs

theorem redisServed_concat (times : List Time) (now : Time)
    : redisServed expired limit window (times ++ [now])
      = ⟨(redisCheck expired limit window now (redisServed expired limit window times).stored).2,
          (redisServed expired limit window times).decisions
          ++ [(now, (redisCheck expired limit window now
                (redisServed expired limit window times).stored).1)]⟩ := by
  unfold redisServed
  rw [List.foldl_append]
  rfl

/-- What a call is told, after any others; by induction from the last one. -/
theorem tally_call (expired : Time → Time → Bool) (limit : Int) (window : Time)
    (times : List Time) (now : Time)
    : ∃ count : Nat,
        (redisCheck expired limit window now (redisServed expired limit window times).stored).1
          = decide (count ≤ limit)
        ∧ Tally expired window (times ++ [now])
            (redisServed expired limit window (times ++ [now])).stored count := by
  induction times using List.reverseRecOn generalizing now with
  | nil =>
      refine ⟨1, ?_, ?_⟩
      · rw [redisCheck_gone rfl]
      · rw [redisServed_concat, redisCheck_gone rfl]
        exact tally_alone [] nofun
  | append_singleton times last ih =>
      obtain ⟨count, _, tally⟩ := ih last
      obtain ⟨next, told, after⟩ := tally.check limit now
      exact ⟨next, told, by rwa [redisServed_concat (times ++ [last])]⟩

theorem shortBursts_concat {now : Time}
    (tally : Tally expired window (times ++ [now]) stored count)
    : ShortBursts expired limit window (times ++ [now])
      ↔ ShortBursts expired limit window times ∧ count ≤ limit := by
  constructor
  · intro short
    refine ⟨?_, ?_⟩
    · intro earlier burst later whole filled together
      exact short earlier burst (later ++ [now]) (by rw [whole, List.append_assoc]) filled
        together
    · obtain ⟨earlier, burst, whole, filled, together, rfl⟩ := tally.reached
      exact short earlier burst [] (by rw [whole, List.append_nil]) filled together
  · rintro ⟨short, bound⟩ earlier burst later whole filled together
    rcases eq_append_concat whole with rfl | ⟨front, inside, _⟩
    · rw [List.append_nil] at whole
      have longest := tally.longest earlier burst whole together
      omega
    · exact short earlier burst front inside filled together

theorem redis_allows_all_iff (times : List Time)
    : (∀ decision ∈ (redisServed expired limit window times).decisions, decision.2 = true)
      ↔ ShortBursts expired limit window times := by
  induction times using List.reverseRecOn with
  | nil =>
      refine iff_of_true (fun _ member => absurd member List.not_mem_nil) ?_
      intro earlier burst later whole filled
      have empty := (List.append_eq_nil_iff.mp whole.symm).1
      exact absurd (List.append_eq_nil_iff.mp empty).2 filled
  | append_singleton times now ih =>
      obtain ⟨count, told, tally⟩ := tally_call expired limit window times now
      rw [shortBursts_concat tally, ← ih, redisServed_concat, List.forall_mem_append,
        List.forall_mem_singleton, told, decide_eq_true_eq]

-- Windows

theorem within_append (window now : Time) (first second : List Time)
    : within window now (first ++ second) = within window now first + within window now second :=
  List.countP_append

theorem bounded_concat {decisions : Decisions Time} {now : Time} {allowed : Bool}
    (bounded : ∀ moment, within window moment (allowedTimes decisions) ≤ max limit 0)
    (room : allowed = true → ∀ moment, moment - window < now → now ≤ moment
      → within window moment (allowedTimes decisions) + 1 ≤ limit)
    (moment : Time)
    : within window moment (allowedTimes (decisions ++ [(now, allowed)])) ≤ max limit 0 := by
  rw [allowedTimes_concat, within_append]
  have before := bounded moment
  split
  · rename_i taken
    by_cases inside : moment - window < now ∧ now ≤ moment
    · have fits := room taken moment inside.1 inside.2
      have single : within window moment [now] = 1 := by
        unfold within
        rw [List.countP_singleton, if_pos (decide_eq_true inside)]
      rw [single]
      push_cast
      exact fits.trans (le_max_left _ _)
    · have none : within window moment [now] = 0 := by
        unfold within
        rw [List.countP_singleton, if_neg (by simpa using inside)]
      rw [none]
      exact before
  · exact before

theorem redisServed_times (times : List Time)
    : (redisServed expired limit window times).decisions.map Prod.fst = times := by
  induction times using List.reverseRecOn with
  | nil => rfl
  | append_singleton times now ih =>
      rw [redisServed_concat, List.map_append, ih]
      rfl

theorem localDecisions_concat (key : String) (times : List Time) (now : Time)
    : localDecisions key limit window (times ++ [now])
      = localDecisions key limit window times
        ++ [(now, (localCheck ⟨key, limit, window, now⟩
            (served (times.map (fun now => ⟨key, limit, window, now⟩))).buckets).1)] := by
  unfold localDecisions served
  rw [List.map_append, List.foldl_append, List.map_singleton, List.foldl_cons, List.foldl_nil,
    serve_decisions, List.map_append]
  rfl

theorem localDecisions_times (key : String) (times : List Time)
    : (localDecisions key limit window times).map Prod.fst = times := by
  induction times using List.reverseRecOn with
  | nil => rfl
  | append_singleton times now ih =>
      rw [localDecisions_concat, List.map_append, ih]
      rfl

theorem allowed_served (key : String) (times : List Time)
    : (served (times.map (fun now => ⟨key, limit, window, now⟩))).allowed key
      = allowedTimes (localDecisions key limit window times) := by
  induction times using List.reverseRecOn with
  | nil => rfl
  | append_singleton times now ih =>
      rw [localDecisions_concat, allowedTimes_concat, ← ih]
      unfold served
      rw [List.map_append, List.foldl_append]
      refine (allowed_serve _ _ key).trans ?_
      simp only [true_and]

section Ordered

variable [IsOrderedAddMonoid Time]

theorem window_pos {moment now : Time} (inside : moment - window < now) (late : now ≤ moment)
    : 0 < window := by
  by_contra short
  have beyond : moment ≤ moment - window := by
    rw [le_sub_self_iff]
    exact not_lt.mp short
  exact absurd (inside.trans_le late) (not_lt.mpr beyond)

theorem Tally.within_le (tally : Tally expired window times stored count)
    (ordered : times.Pairwise (· ≤ ·))
    (kept : ∀ deadline now, now < deadline → expired deadline now = false)
    {moment : Time} (late : ∀ time ∈ times, time ≤ moment)
    : within window moment times ≤ count := by
  have parts := List.takeWhile_append_dropWhile (p := fun time => time ≤ moment - window)
    (l := times)
  have recent := dropWhile_le_of_pairwise ordered (moment - window)
  have past
      : within window moment (times.takeWhile (fun time => time ≤ moment - window)) = 0 := by
    refine List.countP_eq_zero.mpr fun time member inside => ?_
    have before : time ≤ moment - window := by simpa using List.mem_takeWhile_imp member
    exact absurd (of_decide_eq_true inside).1 (not_lt.mpr before)
  have sorted : (times.dropWhile (fun time => time ≤ moment - window)).Pairwise (· ≤ ·) :=
    ordered.sublist (List.dropWhile_sublist _)
  have together
      : Burst expired window (times.dropWhile (fun time => time ≤ moment - window)) := by
    refine (sorted.imp_of_mem ?_).isChain
    intro first second inFirst inSecond _
    have end_ := late second ((List.dropWhile_sublist _).subset inSecond)
    have inside := recent first inFirst
    refine ⟨window_pos inside (late first ((List.dropWhile_sublist _).subset inFirst)), ?_⟩
    exact kept _ _ (end_.trans_lt (sub_lt_iff_lt_add.mp inside))
  have longest := tally.longest _ _ parts.symm together
  have most : within window moment (times.dropWhile (fun time => time ≤ moment - window))
      ≤ (times.dropWhile (fun time => time ≤ moment - window)).length :=
    List.countP_le_length
  have split := within_append window moment
    (times.takeWhile (fun time => time ≤ moment - window))
    (times.dropWhile (fun time => time ≤ moment - window))
  rw [parts, past, Nat.zero_add] at split
  omega

theorem redis_bounded (kept : ∀ deadline now, now < deadline → expired deadline now = false)
    (ordered : times.Pairwise (· ≤ ·)) (moment : Time)
    : within window moment
        (allowedTimes (redisServed expired limit window times).decisions) ≤ max limit 0 := by
  induction times using List.reverseRecOn generalizing moment with
  | nil => exact le_max_right _ _
  | append_singleton times now ih =>
      obtain ⟨earlier, _, last⟩ := List.pairwise_append.mp ordered
      obtain ⟨count, told, tally⟩ := tally_call expired limit window times now
      rw [redisServed_concat]
      refine bounded_concat (ih earlier) ?_ moment
      intro allowed moment inside late
      rw [told, decide_eq_true_eq] at allowed
      have before : ∀ time ∈ times ++ [now], time ≤ moment := by
        intro time member
        rcases List.mem_append.mp member with before | own
        · exact (last time before now (List.mem_singleton_self now)).trans late
        · exact (List.mem_singleton.mp own).trans_le late
      have all := tally.within_le ordered kept before
      have own : within window moment [now] = 1 := by
        unfold within
        rw [List.countP_singleton, if_pos (decide_eq_true ⟨inside, late⟩)]
      have fewer : within window moment
            (allowedTimes (redisServed expired limit window times).decisions)
          ≤ within window moment times := by
        have sublist :=
          allowedTimes_sublist (redisServed expired limit window times).decisions
        rw [redisServed_times] at sublist
        exact sublist.countP_le
      rw [within_append, own] at all
      omega

theorem local_allows_iff (key : String) {now : Time}
    (ordered : (times ++ [now]).Pairwise (· ≤ ·))
    : (localCheck ⟨key, limit, window, now⟩
          (served (times.map (fun now => ⟨key, limit, window, now⟩))).buckets).1 = true
      ↔ within window now (allowedTimes (localDecisions key limit window times)) < limit := by
  rw [← allowed_served]
  refine localCheck_allowed_iff ?_ ?_ (fun _ _ earlier => sub_le_sub_right earlier window)
  · have whole
        : times.map (fun now => (⟨key, limit, window, now⟩ : Call Time))
            ++ [⟨key, limit, window, now⟩]
          = (times ++ [now]).map (fun now => ⟨key, limit, window, now⟩) := by
      rw [List.map_append]
      rfl
    rw [whole, List.pairwise_map]
    exact ordered
  · intro call member _
    obtain ⟨time, _, rfl⟩ := List.mem_map.mp member
    rfl

theorem local_bounded (key : String) (ordered : times.Pairwise (· ≤ ·)) (moment : Time)
    : within window moment (allowedTimes (localDecisions key limit window times))
      ≤ max limit 0 := by
  induction times using List.reverseRecOn generalizing moment with
  | nil => exact le_max_right _ _
  | append_singleton times now ih =>
      obtain ⟨earlier, _, last⟩ := List.pairwise_append.mp ordered
      rw [localDecisions_concat]
      refine bounded_concat (ih earlier) ?_ moment
      intro allowed moment inside late
      have room := (local_allows_iff key ordered).mp allowed
      have fewer : within window moment (allowedTimes (localDecisions key limit window times))
          ≤ within window now (allowedTimes (localDecisions key limit window times)) := by
        refine List.countP_mono_left fun time member inside => decide_eq_true ⟨?_, ?_⟩
        · exact (sub_le_sub_right late window).trans_lt (of_decide_eq_true inside).1
        · have sublist := allowedTimes_sublist (localDecisions key limit window times)
          rw [localDecisions_times] at sublist
          exact last time (sublist.subset member) now (List.mem_singleton_self now)
      omega

/-- A client that keeps to the limit is refused only where no call is allowed at all, which a
burst of one call does not allow.
-/
theorem local_serves (key : String) (ordered : times.Pairwise (· ≤ ·))
    (behaved : WellBehaved limit window times)
    (short : ShortBursts expired limit window times)
    : ∀ decision ∈ localDecisions key limit window times, decision.2 = true := by
  induction times using List.reverseRecOn with
  | nil => exact fun _ member => absurd member List.not_mem_nil
  | append_singleton times now ih =>
      obtain ⟨earlier, _, last⟩ := List.pairwise_append.mp ordered
      have before : ∀ decision ∈ localDecisions key limit window times, decision.2 = true := by
        refine ih earlier ?_ ?_
        · intro moment
          have most := behaved moment
          rw [within_append] at most
          omega
        · intro earlier burst later whole
          exact short earlier burst (later ++ [now]) (by rw [whole, List.append_assoc])
      rw [localDecisions_concat, List.forall_mem_append, List.forall_mem_singleton]
      refine ⟨before, (local_allows_iff key ordered).mpr ?_⟩
      have single : (1 : Int) ≤ limit :=
        short times [now] [] (List.append_nil _).symm nofun (.singleton now)
      have most := behaved now
      have fewer : within window now (allowedTimes (localDecisions key limit window times))
          ≤ within window now times := by
        have sublist := allowedTimes_sublist (localDecisions key limit window times)
        rw [localDecisions_times] at sublist
        exact sublist.countP_le
      rw [within_append] at most
      by_cases positive : 0 < window
      · have own : within window now [now] = 1 := by
          unfold within
          rw [List.countP_singleton,
            if_pos (decide_eq_true ⟨sub_lt_self now positive, le_rfl⟩)]
        omega
      · have none : within window now times = 0 := by
          refine List.countP_eq_zero.mpr fun time _ inside => positive ?_
          obtain ⟨left, right⟩ := of_decide_eq_true inside
          exact window_pos left right
        omega

/-- The limiters agree on a client's calls exactly when it exceeds the limit in some window, or
none of its bursts is longer than the limit.
-/
theorem limiters_agree_iff (key : String) (ordered : times.Pairwise (· ≤ ·))
    (kept : ∀ deadline now, now < deadline → expired deadline now = false)
    : SameKind expired key limit window times
      ↔ WellBehaved limit window times → ShortBursts expired limit window times := by
  constructor
  · intro same behaved
    exact (redis_allows_all_iff times).mp (same.ofRedis.serves behaved)
  · intro short
    exact ⟨⟨redis_bounded kept ordered, fun behaved =>
        (redis_allows_all_iff times).mpr (short behaved)⟩,
      ⟨local_bounded key ordered, fun behaved =>
        local_serves key ordered behaved (short behaved)⟩⟩

end Ordered

-- Both in turn

/-- Redis answers a call, counts it without an answer, or is not reached. -/
inductive RedisReply where
  | answered
  | lost
  | unreachable
deriving DecidableEq

structure Limiters (Time : Type) where
  stored : Option (Counter Time) := none
  buckets : Buckets Time := fun _ => []
  decisions : Decisions Time := []

/-- `check_rate_limit`, where the process decides when Redis does not answer. -/
def checkRateLimit (expired : Time → Time → Bool) (key : String) (limit : Int) (window : Time)
    (limiters : Limiters Time) (call : Time × RedisReply)
    : Limiters Time :=
  let (answer, stored) := redisCheck expired limit window call.1 limiters.stored
  let (allowed, buckets) := localCheck ⟨key, limit, window, call.1⟩ limiters.buckets
  match call.2 with
  | .answered => ⟨stored, limiters.buckets, limiters.decisions ++ [(call.1, answer)]⟩
  | .lost => ⟨stored, buckets, limiters.decisions ++ [(call.1, allowed)]⟩
  | .unreachable => ⟨limiters.stored, buckets, limiters.decisions ++ [(call.1, allowed)]⟩

def checked (expired : Time → Time → Bool) (key : String) (limit : Int) (window : Time)
    (calls : List (Time × RedisReply))
    : Limiters Time :=
  calls.foldl (checkRateLimit expired key limit window) {}

/-- The times of the calls for which Redis has not done this. -/
def timesOf (calls : List (Time × RedisReply)) (reply : RedisReply) : List Time :=
  (calls.filter (fun call => call.2 ≠ reply)).map Prod.fst

omit [LinearOrder Time] [AddCommGroup Time] in
theorem timesOf_concat (calls : List (Time × RedisReply)) (call : Time × RedisReply)
    (reply : RedisReply)
    : timesOf (calls ++ [call]) reply
      = timesOf calls reply ++ if call.2 = reply then [] else [call.1] := by
  unfold timesOf
  rw [List.filter_append, List.map_append]
  by_cases same : call.2 = reply <;> simp [same]

theorem served_concat (calls : List (Call Time)) (call : Call Time)
    : (served (calls ++ [call])).buckets = (localCheck call (served calls).buckets).2 := by
  unfold served
  rw [List.foldl_append]
  rfl

/-- Each limiter decides on its own calls as if there were no others. -/
structure Splits (expired : Time → Time → Bool) (key : String) (limit : Int) (window : Time)
    (calls : List (Time × RedisReply)) (limiters : Limiters Time)
    : Prop where
  stored
    : limiters.stored = (redisServed expired limit window (timesOf calls .unreachable)).stored
  buckets
    : limiters.buckets
      = (served ((timesOf calls .answered).map (fun now => ⟨key, limit, window, now⟩))).buckets
  bounded
    : ∀ moment, within window moment (allowedTimes limiters.decisions)
      ≤ within window moment
          (allowedTimes
            (redisServed expired limit window (timesOf calls .unreachable)).decisions)
        + within window moment
          (allowedTimes (localDecisions key limit window (timesOf calls .answered)))

/-- By induction from the last call. -/
theorem splits_checked (key : String) (calls : List (Time × RedisReply))
    : Splits expired key limit window calls (checked expired key limit window calls) := by
  induction calls using List.reverseRecOn with
  | nil => exact ⟨rfl, rfl, fun _ => Nat.zero_le _⟩
  | append_singleton calls call ih =>
      obtain ⟨stored, buckets, bounded⟩ := ih
      obtain ⟨now, reply⟩ := call
      have taken : checked expired key limit window (calls ++ [(now, reply)])
          = checkRateLimit expired key limit window (checked expired key limit window calls)
              (now, reply) := by
        unfold checked
        rw [List.foldl_append]
        rfl
      rw [taken]
      unfold checkRateLimit
      have redis (moment : Time)
          : within window moment (allowedTimes
              (redisServed expired limit window (timesOf calls .unreachable ++ [now])).decisions)
            = within window moment (allowedTimes
                (redisServed expired limit window (timesOf calls .unreachable)).decisions)
              + within window moment
                (if (redisCheck expired limit window now
                    (checked expired key limit window calls).stored).1 = true
                  then [now] else []) := by
        rw [redisServed_concat, allowedTimes_concat, within_append, stored]
      have process (moment : Time)
          : within window moment (allowedTimes
              (localDecisions key limit window (timesOf calls .answered ++ [now])))
            = within window moment
                (allowedTimes (localDecisions key limit window (timesOf calls .answered)))
              + within window moment
                (if (localCheck ⟨key, limit, window, now⟩
                    (checked expired key limit window calls).buckets).1 = true
                  then [now] else []) := by
        rw [localDecisions_concat, allowedTimes_concat, within_append, buckets]
      cases reply with
      | answered =>
          refine ⟨by simp [timesOf_concat, redisServed_concat, stored],
            by simp [timesOf_concat, buckets], fun moment => ?_⟩
          have before := bounded moment
          simp only [timesOf_concat, reduceCtorEq, if_true, if_false, List.append_nil, redis,
            allowedTimes_concat, within_append]
          omega
      | lost =>
          refine ⟨by simp [timesOf_concat, redisServed_concat, stored],
            by simp [timesOf_concat, served_concat, buckets], fun moment => ?_⟩
          have before := bounded moment
          simp only [timesOf_concat, reduceCtorEq, if_false, redis, process,
            allowedTimes_concat, within_append]
          omega
      | unreachable =>
          refine ⟨by simp [timesOf_concat, stored],
            by simp [timesOf_concat, served_concat, buckets], fun moment => ?_⟩
          have before := bounded moment
          simp only [timesOf_concat, reduceCtorEq, if_true, if_false, List.append_nil, process,
            allowedTimes_concat, within_append]
          omega

omit [AddCommGroup Time] in
theorem ordered_timesOf {calls : List (Time × RedisReply)}
    (ordered : (calls.map Prod.fst).Pairwise (· ≤ ·)) (reply : RedisReply)
    : (timesOf calls reply).Pairwise (· ≤ ·) :=
  ordered.sublist (List.filter_sublist.map Prod.fst)

/-- However Redis comes and goes, a process allows at most twice the limit in a window. -/
theorem check_rate_limit_bounded [IsOrderedAddMonoid Time] (key : String)
    (kept : ∀ deadline now, now < deadline → expired deadline now = false)
    {calls : List (Time × RedisReply)} (ordered : (calls.map Prod.fst).Pairwise (· ≤ ·))
    (moment : Time)
    : within window moment (allowedTimes (checked expired key limit window calls).decisions)
      ≤ 2 * max limit 0 := by
  have split : Splits expired key limit window calls (checked expired key limit window calls) :=
    splits_checked key calls
  have redis
      : within window moment (allowedTimes
          (redisServed expired limit window (timesOf calls .unreachable)).decisions)
        ≤ max limit 0 :=
    redis_bounded kept (ordered_timesOf ordered .unreachable) moment
  have process
      : within window moment
          (allowedTimes (localDecisions key limit window (timesOf calls .answered)))
        ≤ max limit 0 :=
    local_bounded key (ordered_timesOf ordered .answered) moment
  have both := split.bounded moment
  omega

/-- Four calls in three seconds are allowed where a limit of two is on, since Redis is lost after
two of them.
-/
theorem lost_redis_doubles_limit
    : allowedTimes (checked (fun deadline now : Int => deadline ≤ now) "key" 2 10
          [(0, .answered), (1, .answered), (2, .lost), (3, .unreachable)]).decisions
        = [0, 1, 2, 3]
      ∧ within 10 3 (allowedTimes (checked (fun deadline now : Int => deadline ≤ now) "key" 2 10
          [(0, .answered), (1, .answered), (2, .lost), (3, .unreachable)]).decisions)
        ≤ 2 * max (2 : Int) 0 :=
  ⟨by decide, check_rate_limit_bounded "key"
    (fun _ _ early => decide_eq_false (Int.not_le.mpr early)) (by decide) 3⟩

/-- A client that comes once every eight seconds is refused by Redis only, where two calls in
ten seconds are allowed.
-/
theorem steady_client_is_refused
    : ¬ SameKind (fun deadline now : Int => deadline ≤ now) "key" 2 10 [0, 8, 16] := by
  intro same
  have behaved : WellBehaved 2 10 [(0 : Int), 8, 16] := by
    intro now
    unfold within
    simp only [List.countP_cons, List.countP_nil, decide_eq_true_eq]
    split <;> split <;> split <;> omega
  have served := same.ofRedis.serves behaved (16, false) (by decide)
  cases served

/-- Both allow two calls and, when the window is over, a third one. -/
theorem calls_after_window_are_served
    : SameKind (fun deadline now : Int => deadline ≤ now) "key" 2 10 [0, 3, 20] :=
  (limiters_agree_iff "key" (by decide)
    (fun _ _ early => decide_eq_false (Int.not_le.mpr early))).mpr
    fun _ => (redis_allows_all_iff _).mp (by decide)

end Blockhost.RateLimit
