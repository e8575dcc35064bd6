import Mathlib.Logic.Function.Basic
import Mathlib.Data.List.Basic
import Mathlib.Data.List.Induction

/-! Suppression of repeated uses of a key: a use that is admitted opens a window, and the uses in
the window are suppressed. The store drops what has run out at every use of any key; for one key
only its own uses matter.
-/

namespace Library

variable {Key : Type}

abbrev Windows (Key : Type) := Key → Option Int

namespace Windows

/-- Drop every window that has run out. -/
def clean (ttl now : Int) (windows : Windows Key) : Windows Key :=
  fun key => (windows key).filter (fun opened => now - opened ≤ ttl)

def admits (ttl now : Int) (key : Key) (windows : Windows Key) : Bool :=
  (windows.clean ttl now key).isNone

def use [DecidableEq Key] (ttl : Int) (windows : Windows Key) (used : Key × Int) : Windows Key :=
  if windows.admits ttl used.2 used.1 then
    Function.update (windows.clean ttl used.2) used.1 (some used.2)
  else windows.clean ttl used.2

end Windows

def inWindow (ttl now : Int) (opened : Option Int) : Bool :=
  opened.any (fun opened => now - opened ≤ ttl)

/-- The window of a key by its own uses, at the given times. -/
def lastWindow (ttl : Int) (times : List Int) : Option Int :=
  times.foldl (fun opened now => if inWindow ttl now opened then opened else some now) none

def timesOf [DecidableEq Key] (key : Key) (uses : List (Key × Int)) : List Int :=
  (uses.filter (fun used => used.1 = key)).map Prod.snd

theorem lastWindow_concat (ttl : Int) (times : List Int) (now : Int)
    : lastWindow ttl (times ++ [now])
      = if inWindow ttl now (lastWindow ttl times) then lastWindow ttl times else some now := by
  unfold lastWindow
  rw [List.foldl_append]
  rfl

theorem timesOf_concat [DecidableEq Key] (key : Key) (uses : List (Key × Int)) (used : Key × Int)
    : timesOf key (uses ++ [used])
      = if used.1 = key then timesOf key uses ++ [used.2] else timesOf key uses := by
  unfold timesOf
  rw [List.filter_append, List.map_append, List.filter_singleton]
  by_cases same : used.1 = key <;> simp [same]

namespace Windows

variable {ttl : Int} {windows : Windows Key} {uses : List (Key × Int)}

/-- What the store knows of a key at a time is its last window, or that window has run out. -/
def Tracks (ttl now : Int) (windows : Windows Key) (key : Key) (times : List Int) : Prop :=
  windows key = lastWindow ttl times
  ∨ windows key = none ∧ inWindow ttl now (lastWindow ttl times) = false

theorem Tracks.later {now after : Int} {key : Key} {times : List Int} (order : now ≤ after)
    (tracks : windows.Tracks ttl now key times)
    : windows.Tracks ttl after key times := by
  rcases tracks with same | ⟨none, past⟩
  · exact .inl same
  · refine .inr ⟨none, ?_⟩
    unfold inWindow at past ⊢
    cases window : lastWindow ttl times with
    | none => rfl
    | some opened =>
        rw [window] at past
        simp only [Option.any_some, decide_eq_false_iff_not] at past ⊢
        omega

theorem Tracks.admits_eq {now : Int} {key : Key} {times : List Int}
    (tracks : windows.Tracks ttl now key times)
    : windows.admits ttl now key = !inWindow ttl now (lastWindow ttl times) := by
  unfold admits clean
  rcases tracks with same | ⟨none, past⟩
  · rw [same]
    unfold inWindow
    cases lastWindow ttl times with
    | none => rfl
    | some opened => simp
  · rw [none, past]
    rfl

theorem Tracks.clean {now : Int} {key : Key} {times : List Int}
    (tracks : windows.Tracks ttl now key times)
    : (windows.clean ttl now).Tracks ttl now key times := by
  unfold Tracks Windows.clean
  rcases tracks with same | ⟨none, past⟩
  · rw [same]
    unfold inWindow
    cases lastWindow ttl times with
    | none => exact .inl rfl
    | some opened =>
        rw [Option.filter_some, Option.any_some]
        cases decide (now - opened ≤ ttl) with
        | true => exact .inl rfl
        | false => exact .inr ⟨rfl, rfl⟩
  · rw [none]
    exact .inr ⟨rfl, past⟩

variable [DecidableEq Key]

theorem Tracks.use {key : Key} {used : Key × Int}
    (tracks : ∀ key, windows.Tracks ttl used.2 key (timesOf key uses))
    : (windows.use ttl used).Tracks ttl used.2 key (timesOf key (uses ++ [used])) := by
  have admitted := (tracks used.1).admits_eq
  have cleaned := (tracks key).clean
  unfold Windows.use
  rw [timesOf_concat, admitted]
  by_cases own : used.1 = key
  · subst own
    rw [if_pos rfl]
    cases inside : inWindow ttl used.2 (lastWindow ttl (timesOf used.1 uses)) with
    | true =>
        rw [Bool.not_true, if_neg (by decide)]
        unfold Tracks at cleaned ⊢
        rw [lastWindow_concat, inside, if_pos rfl]
        exact cleaned
    | false =>
        left
        rw [Bool.not_false, if_pos rfl, Function.update_self, lastWindow_concat, inside]
        rfl
  · rw [if_neg own]
    split
    · unfold Tracks
      rw [Function.update_of_ne (Ne.symm own)]
      exact cleaned
    · exact cleaned

/-- After uses at nondecreasing times every key is tracked, by induction on the uses. -/
theorem tracks_uses (ordered : (uses.map Prod.snd).Pairwise (· ≤ ·)) {now : Int}
    (late : ∀ used ∈ uses, used.2 ≤ now) (key : Key)
    : (uses.foldl (Windows.use ttl) (fun _ => none)).Tracks ttl now key (timesOf key uses) := by
  induction uses using List.reverseRecOn generalizing now key with
  | nil => exact .inl rfl
  | append_singleton uses used ih =>
      rw [List.map_append, List.pairwise_append] at ordered
      rw [List.foldl_append, List.foldl_cons, List.foldl_nil]
      refine Tracks.later (late used (by simp)) (Tracks.use fun key => ih ordered.1 ?_ key)
      intro earlier member
      exact ordered.2.2 _ (List.mem_map_of_mem member) _ (by simp)

end Windows

end Library
