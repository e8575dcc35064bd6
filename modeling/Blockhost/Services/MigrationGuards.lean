import Blockhost.Api.ServerPlacement
import Blockhost.Library.Run
import Mathlib.Data.List.TakeWhile

/-! The hourly cap on migrations. A caller checks the cap first, starts its migration later, and
records it at its end; callers take turns in any order.
-/

namespace Blockhost.MigrationCap

open Library

def hour : Int := seconds 3600

/-- Whether a migration may run, and the recorded times that are left. A limit of zero means no
limit and records nothing.
-/
def checkCap (limit : Nat) (record : Bool) (now : Instant) (times : List Instant)
    : Bool × List Instant :=
  if limit = 0 then (true, times)
  else
    let kept := times.dropWhile (· < now - hour)
    if limit ≤ kept.length then (false, kept)
    else (true, if record then kept ++ [now] else kept)

/-- User requests, and the cycles of the rebalancer. -/
inductive Caller where
  | request (number : Nat)
  | cycle (number : Nat)
deriving DecidableEq, Repr

/-- The recorded times, the callers that passed a check and did not start yet, and what became of
the migrations that were started: under way, recorded, or ended without a record.
-/
structure Guard where
  now : Instant
  times : List Instant := []
  admitted : List Caller := []
  migrating : List (Caller × Instant) := []
  recorded : List (Instant × Instant) := []
  lost : List Instant := []
deriving DecidableEq, Repr

namespace Guard

/-- The times at which migrations were started. -/
def starts (guard : Guard) : List Instant :=
  guard.recorded.map Prod.fst ++ guard.lost ++ guard.migrating.map Prod.snd

def check (limit : Nat) (caller : Caller) (read : Instant) (guard : Guard) : Guard :=
  let (passed, times) := checkCap limit false read guard.times
  { guard with
    times
    admitted := if passed then caller :: guard.admitted else guard.admitted }

/-- The caller turns back after its check: a cooldown, or nothing to move. -/
def refuse (caller : Caller) (guard : Guard) : Guard :=
  { guard with admitted := guard.admitted.erase caller }

/-- The first step of a migration, the stop on the old node. -/
def start (caller : Caller) (guard : Guard) : Guard :=
  { guard with
    admitted := guard.admitted.erase caller
    migrating := (caller, guard.now) :: guard.migrating }

/-- A migration that raises or gives up leaves no record. -/
def fail (caller : Caller) (started : Instant) (guard : Guard) : Guard :=
  { guard with
    migrating := guard.migrating.erase (caller, started)
    lost := started :: guard.lost }

/-- A completed migration is recorded, where the record is not refused. -/
def finish (limit : Nat) (caller : Caller) (started read : Instant) (guard : Guard) : Guard :=
  let (passed, times) := checkCap limit true read guard.times
  let kept := { guard with times, migrating := guard.migrating.erase (caller, started) }
  if passed ∧ limit ≠ 0 then { kept with recorded := guard.recorded ++ [(started, read)] }
  else { kept with lost := started :: guard.lost }

end Guard

inductive Event where
  | tick (now : Instant)
  | check (caller : Caller) (read : Instant)
  | refuse (caller : Caller)
  | start (caller : Caller)
  | fail (caller : Caller) (started : Instant)
  | finish (caller : Caller) (started read : Instant)
deriving DecidableEq, Repr

/-- The clock is read before the lock is taken, so a check may use an earlier time. -/
inductive Step (limit : Nat) : Guard → Event → Guard → Prop
  | tick {before : Guard} {now : Instant}
      : before.now ≤ now → Step limit before (.tick now) { before with now }
  | check {before : Guard} {caller : Caller} {read : Instant}
      : read ≤ before.now
        → Step limit before (.check caller read) (before.check limit caller read)
  | refuse {before : Guard} {caller : Caller}
      : caller ∈ before.admitted → Step limit before (.refuse caller) (before.refuse caller)
  | start {before : Guard} {caller : Caller}
      : caller ∈ before.admitted → Step limit before (.start caller) (before.start caller)
  | fail {before : Guard} {caller : Caller} {started : Instant}
      : (caller, started) ∈ before.migrating
        → Step limit before (.fail caller started) (before.fail caller started)
  | finish {before : Guard} {caller : Caller} {started read : Instant}
      : (caller, started) ∈ before.migrating → started ≤ read → read ≤ before.now
        → Step limit before (.finish caller started read)
          (before.finish limit caller started read)

/-- In every window of one hour no more migrations are started than the limit allows. -/
def CapHolds (limit : Nat) (guard : Guard) : Prop :=
  ∀ window, guard.starts.countP (fun time => window ≤ time ∧ time ≤ window + hour) ≤ limit

/-- What a check does not count: callers that are still to start, and migrations of the last hour
that are under way or ended without a record.
-/
def uncounted (guard : Guard) : Nat :=
  guard.admitted.length
    + (guard.lost ++ guard.migrating.map Prod.snd).countP (guard.now - hour ≤ ·)

/-- A check that passes finds room also for what it does not count. -/
def RoomLeft (limit : Nat) (guard : Guard) : Event → Prop
  | .check _ read =>
      (checkCap limit false read guard.times).1 = true
        → (checkCap limit false read guard.times).2.length + uncounted guard < limit
  | _ => True

-- What a check leaves

variable {limit : Nat}

theorem checkCap_cases (limit : Nat) (record : Bool) (now : Instant) (times : List Instant)
    : limit = 0 ∧ checkCap limit record now times = (true, times)
      ∨ limit ≠ 0 ∧ limit ≤ (times.dropWhile (· < now - hour)).length
        ∧ checkCap limit record now times = (false, times.dropWhile (· < now - hour))
      ∨ limit ≠ 0 ∧ (times.dropWhile (· < now - hour)).length < limit
        ∧ checkCap limit record now times
          = (true, if record then times.dropWhile (· < now - hour) ++ [now]
              else times.dropWhile (· < now - hour)) := by
  unfold checkCap
  by_cases off : limit = 0
  · exact .inl ⟨off, if_pos off⟩
  · rw [if_neg off]
    by_cases full : limit ≤ (times.dropWhile (· < now - hour)).length
    · exact .inr (.inl ⟨off, full, if_pos full⟩)
    · exact .inr (.inr ⟨off, by omega, if_neg full⟩)

/-- The recorded times are those of the last recorded migrations; the ones before lie more than
an hour back.
-/
structure Stamped (guard : Guard) : Prop where
  split
    : ∃ older kept, guard.recorded = older ++ kept
      ∧ guard.times = kept.map Prod.snd
      ∧ ∀ migration ∈ older, migration.2 < guard.now - hour
  later : ∀ migration ∈ guard.recorded, migration.1 ≤ migration.2

theorem Stamped.prune {guard : Guard} (stamped : Stamped guard) {read : Instant}
    (earlier : read ≤ guard.now)
    : ∃ older kept, guard.recorded = older ++ kept
      ∧ guard.times.dropWhile (· < read - hour) = kept.map Prod.snd
      ∧ ∀ migration ∈ older, migration.2 < guard.now - hour := by
  obtain ⟨older, kept, recorded, times, past⟩ := stamped.split
  refine ⟨older ++ kept.takeWhile (·.2 < read - hour), kept.dropWhile (·.2 < read - hour),
    ?_, ?_, ?_⟩
  · rw [List.append_assoc, List.takeWhile_append_dropWhile, recorded]
  · rw [times, List.dropWhile_map]
    rfl
  · intro migration member
    rcases List.mem_append.mp member with old | dropped
    · exact past migration old
    · have before : migration.2 < read - hour := by
        simpa using List.mem_takeWhile_imp dropped
      exact lt_of_lt_of_le before (Int.sub_le_sub_right earlier hour)

theorem Stamped.recent_le {guard : Guard} (stamped : Stamped guard)
    {older kept : List (Instant × Instant)} (recorded : guard.recorded = older ++ kept)
    (past : ∀ migration ∈ older, migration.2 < guard.now - hour)
    : (guard.recorded.map Prod.fst).countP (guard.now - hour ≤ ·) ≤ kept.length := by
  have none : (older.map Prod.fst).countP (guard.now - hour ≤ ·) = 0 := by
    rw [List.countP_eq_zero]
    intro started member
    obtain ⟨migration, stored, rfl⟩ := List.mem_map.mp member
    have honest := stamped.later migration (recorded ▸ List.mem_append_left _ stored)
    have before : migration.1 < guard.now - hour := lt_of_le_of_lt honest (past migration stored)
    simp only [decide_eq_true_eq, not_le]
    exact before
  rw [recorded, List.map_append, List.countP_append, none, Nat.zero_add]
  exact List.countP_le_length.trans (List.length_map ..).le

theorem countP_starts (guard : Guard) (test : Instant → Bool)
    : guard.starts.countP test
      = (guard.recorded.map Prod.fst).countP test
        + (guard.lost ++ guard.migrating.map Prod.snd).countP test := by
  rw [Guard.starts, List.append_assoc, List.countP_append]

-- The cap over runs

/-- The callers on their way to a start fit under the cap, beside the migrations of the last
hour.
-/
structure Sound (limit : Nat) (guard : Guard) : Prop extends Stamped guard where
  room : guard.admitted.length + guard.starts.countP (guard.now - hour ≤ ·) ≤ limit
  cap : CapHolds limit guard

variable {before after : Guard}

theorem Sound.tick (sound : Sound limit before) {now : Instant} (later : before.now ≤ now)
    : Sound limit { before with now } := by
  obtain ⟨older, kept, recorded, times, past⟩ := sound.split
  have shift : before.now - hour ≤ now - hour := Int.sub_le_sub_right later hour
  refine ⟨⟨⟨older, kept, recorded, times, fun migration member =>
    lt_of_lt_of_le (past migration member) shift⟩, sound.later⟩, ?_, sound.cap⟩
  have fewer : before.starts.countP (now - hour ≤ ·)
      ≤ before.starts.countP (before.now - hour ≤ ·) := by
    refine List.countP_mono_left fun time _ recent => ?_
    simp only [decide_eq_true_eq] at recent ⊢
    exact shift.trans recent
  exact (Nat.add_le_add_left fewer _).trans sound.room

theorem Sound.check (sound : Sound limit before) {caller : Caller} {read : Instant}
    (earlier : read ≤ before.now) (left : RoomLeft limit before (.check caller read))
    : Sound limit (before.check limit caller read) := by
  obtain ⟨older, kept, recorded, pruned, past⟩ := sound.toStamped.prune earlier
  change (checkCap limit false read before.times).1 = true
    → (checkCap limit false read before.times).2.length + uncounted before < limit at left
  unfold Guard.check
  rcases checkCap_cases limit false read before.times with
    ⟨off, same⟩ | ⟨_, _, same⟩ | ⟨_, _, same⟩
  · rw [same] at left
    have none := left rfl
    omega
  · rw [same]
    exact ⟨⟨⟨older, kept, recorded, pruned, past⟩, sound.later⟩, sound.room, sound.cap⟩
  · rw [same] at left ⊢
    refine ⟨⟨⟨older, kept, recorded, pruned, past⟩, sound.later⟩, ?_, sound.cap⟩
    have enough := left rfl
    have known := sound.recent_le recorded past
    have counted := countP_starts before (before.now - hour ≤ ·)
    simp only [if_false, pruned, List.length_map, uncounted, Bool.false_eq_true] at enough
    change (caller :: before.admitted).length + before.starts.countP (before.now - hour ≤ ·)
      ≤ limit
    rw [List.length_cons]
    omega

theorem Sound.refuse (sound : Sound limit before) (caller : Caller)
    : Sound limit (before.refuse caller) := by
  refine ⟨⟨sound.split, sound.later⟩, ?_, sound.cap⟩
  have fewer : (before.admitted.erase caller).length ≤ before.admitted.length :=
    List.length_erase_le
  exact (Nat.add_le_add_right fewer _).trans sound.room

theorem Sound.start (sound : Sound limit before) {caller : Caller}
    (admitted : caller ∈ before.admitted)
    : Sound limit (before.start caller) := by
  have added : ∀ test : Instant → Bool, (before.start caller).starts.countP test
      = before.starts.countP test + (if test before.now then 1 else 0) := by
    intro test
    rw [countP_starts, countP_starts]
    simp only [Guard.start, List.map_cons, List.countP_append, List.countP_cons]
    omega
  have one : (before.admitted.erase caller).length + 1 = before.admitted.length := by
    have positive := List.length_pos_of_mem admitted
    rw [List.length_erase_of_mem admitted]
    omega
  have room := sound.room
  refine ⟨⟨sound.split, sound.later⟩, ?_, ?_⟩
  · change (before.admitted.erase caller).length
      + (before.start caller).starts.countP (before.now - hour ≤ ·) ≤ limit
    rw [added]
    split_ifs <;> omega
  · intro window
    rw [added]
    split_ifs with inside
    · have recent : before.starts.countP (fun time => window ≤ time ∧ time ≤ window + hour)
          ≤ before.starts.countP (before.now - hour ≤ ·) := by
        refine List.countP_mono_left fun time _ within => ?_
        simp only [decide_eq_true_eq] at within inside ⊢
        exact (Int.sub_right_le_of_le_add inside.2).trans within.1
      omega
    · exact sound.cap window

theorem Sound.ended (sound : Sound limit before) (stamped : Stamped after)
    (now : after.now = before.now) (admitted : after.admitted = before.admitted)
    (same : after.starts.Perm before.starts)
    : Sound limit after := by
  refine ⟨stamped, ?_, ?_⟩
  · rw [now, admitted, same.countP_eq]
    exact sound.room
  · intro window
    rw [same.countP_eq]
    exact sound.cap window

theorem starts_moved {first second left all : List Instant} {started : Instant}
    (moved : (started :: left).Perm all)
    : (first ++ started :: second ++ left).Perm (first ++ second ++ all) := by
  rw [List.append_assoc, List.append_assoc]
  refine List.Perm.append_left first ?_
  exact List.perm_middle.symm.trans (List.Perm.append_left second moved)

theorem erased_starts {caller : Caller} {started : Instant}
    (under : (caller, started) ∈ before.migrating)
    : (started :: (before.migrating.erase (caller, started)).map Prod.snd).Perm
        (before.migrating.map Prod.snd) :=
  ((List.perm_cons_erase under).map Prod.snd).symm

theorem Sound.fail (sound : Sound limit before) {caller : Caller} {started : Instant}
    (under : (caller, started) ∈ before.migrating)
    : Sound limit (before.fail caller started) :=
  sound.ended ⟨sound.split, sound.later⟩ rfl rfl (starts_moved (erased_starts under))

theorem Sound.finish (sound : Sound limit before) {caller : Caller} {started read : Instant}
    (under : (caller, started) ∈ before.migrating) (honest : started ≤ read)
    (earlier : read ≤ before.now)
    : Sound limit (before.finish limit caller started read) := by
  obtain ⟨older, kept, recorded, pruned, past⟩ := sound.toStamped.prune earlier
  have moved := erased_starts under
  unfold Guard.finish
  rcases checkCap_cases limit true read before.times with
    ⟨off, same⟩ | ⟨_, _, same⟩ | ⟨on, _, same⟩
  · rw [same]
    simp only [off, ne_eq, not_true_eq_false, and_false, if_false]
    rw [← off]
    refine sound.ended ?_ rfl rfl (starts_moved moved)
    exact ⟨sound.split, sound.later⟩
  · rw [same]
    simp only [Bool.false_eq_true, false_and, if_false]
    exact sound.ended ⟨⟨older, kept, recorded, pruned, past⟩, sound.later⟩ rfl rfl
      (starts_moved moved)
  · rw [same]
    simp only [on, ne_eq, not_false_eq_true, and_self, if_true]
    refine sound.ended ⟨⟨older, kept ++ [(started, read)], ?_, ?_, past⟩, ?_⟩ rfl rfl ?_
    · simp only [recorded, List.append_assoc]
    · simp only [pruned, List.map_append, List.map_singleton]
    · intro migration member
      rcases List.mem_append.mp member with old | last
      · exact sound.later migration old
      · rw [List.mem_singleton.mp last]
        exact honest
    · have whole := @starts_moved (before.recorded.map Prod.fst) before.lost _ _ _ moved
      simpa [Guard.starts] using whole

theorem Sound.step {event : Event} (sound : Sound limit before)
    (taken : Step limit before event after) (left : RoomLeft limit before event)
    : Sound limit after := by
  cases taken with
  | tick later => exact sound.tick later
  | check earlier => exact sound.check earlier left
  | refuse _ => exact sound.refuse _
  | start admitted => exact sound.start admitted
  | fail under => exact sound.fail under
  | finish under honest earlier => exact sound.finish under honest earlier

theorem sound_new (limit : Nat) (now : Instant) : Sound limit { now } := by
  refine ⟨⟨⟨[], [], rfl, rfl, nofun⟩, nofun⟩, ?_, ?_⟩
  · exact Nat.zero_le _
  · exact fun _ => Nat.zero_le _

/-- Where every check that passes finds room also for what it does not count, the cap holds in
every state, by induction on the run.
-/
theorem cap_holds_with_room {events : List Event} {now : Instant} {finish : Guard}
    (run : Run (fun before event after =>
      Step limit before event after ∧ RoomLeft limit before event) { now } events finish)
    : CapHolds limit finish := by
  refine (run.invariant (Sound limit) (fun _ => True) ?_ (fun _ _ => trivial)
    (sound_new limit now)).cap
  rintro before event after - ⟨taken, left⟩ sound
  exact sound.step taken left

/-- One migration an hour: a request that completes, and a cycle of the rebalancer more than an
hour later.
-/
theorem cap_holds_after_an_hour
    : CapHolds 1
        { now := 3600000001, recorded := [(0, 0)], migrating := [(.cycle 2, 3600000001)] } := by
  have first : Step 1 { now := 0 } (.check (.request 1) 0)
      { now := 0, admitted := [.request 1] } :=
    .check (Int.le_refl 0)
  have second : Step 1 { now := 0, admitted := [.request 1] } (.start (.request 1))
      { now := 0, migrating := [(.request 1, 0)] } :=
    .start (by decide)
  have third : Step 1 { now := 0, migrating := [(.request 1, 0)] } (.finish (.request 1) 0 0)
      { now := 0, times := [0], recorded := [(0, 0)] } :=
    .finish (by decide) (Int.le_refl 0) (Int.le_refl 0)
  have later : Step 1 { now := 0, times := [0], recorded := [(0, 0)] } (.tick 3600000001)
      { now := 3600000001, times := [0], recorded := [(0, 0)] } :=
    .tick (by decide)
  have again : Step 1 { now := 3600000001, times := [0], recorded := [(0, 0)] }
      (.check (.cycle 2) 3600000001)
      { now := 3600000001, admitted := [.cycle 2], recorded := [(0, 0)] } :=
    .check (Int.le_refl _)
  have last : Step 1 { now := 3600000001, admitted := [.cycle 2], recorded := [(0, 0)] }
      (.start (.cycle 2))
      { now := 3600000001, recorded := [(0, 0)], migrating := [(.cycle 2, 3600000001)] } :=
    .start (by decide)
  exact cap_holds_with_room
    ((((((Run.single ⟨first, fun _ => by decide⟩).next ⟨second, trivial⟩).next
      ⟨third, trivial⟩).next ⟨later, trivial⟩).next ⟨again, fun _ => by decide⟩).next
      ⟨last, trivial⟩)

/-- One migration an hour: two requests that check before either of them starts. -/
theorem overlapping_requests_exceed_cap
    : ∃ events finish, Run (Step 1) { now := 0 } events finish ∧ ¬ CapHolds 1 finish := by
  have first : Step 1 { now := 0 } (.check (.request 1) 0)
      { now := 0, admitted := [.request 1] } :=
    .check (Int.le_refl 0)
  have second : Step 1 { now := 0, admitted := [.request 1] } (.check (.request 2) 0)
      { now := 0, admitted := [.request 2, .request 1] } :=
    .check (Int.le_refl 0)
  have third : Step 1 { now := 0, admitted := [.request 2, .request 1] } (.start (.request 1))
      { now := 0, admitted := [.request 2], migrating := [(.request 1, 0)] } :=
    .start (by decide)
  have last : Step 1 { now := 0, admitted := [.request 2], migrating := [(.request 1, 0)] }
      (.start (.request 2))
      { now := 0, migrating := [(.request 2, 0), (.request 1, 0)] } :=
    .start (by decide)
  exact ⟨_, _, (((Run.single first).next second).next third).next last,
    fun holds => absurd (holds 0) (by decide)⟩

end Blockhost.MigrationCap
