import Mathlib.Data.List.Induction
import Mathlib.Logic.Function.Basic

/-! A cache in front of a source that changes. A look is answered by what is kept and has not run
out, or else by the source; what it reads there is kept later, and other events may come between.
-/

namespace Library

variable {Source Key Value : Type}

/-- What is kept, and what has been read but not kept yet, each with the time when it runs out. -/
structure ReadThrough (Source Key Value : Type) where
  source : Source
  kept : Key → Option (Value × Int) := fun _ => none
  pending : Key → List (Value × Int) := fun _ => []

inductive CacheEvent (Source Key : Type) where
  | change (after : Source → Source)
  | drop (dropped : Key → Bool)
  | look (key : Key) (now : Int)
  | keep (key : Key) (index : Nat)

def CacheEvent.onSource (source : Source) : CacheEvent Source Key → Source
  | .change after => after source
  | _ => source

def sourceAfter (source : Source) (events : List (CacheEvent Source Key)) : Source :=
  events.foldl CacheEvent.onSource source

def CacheEvent.drops (key : Key) : CacheEvent Source Key → Prop
  | .drop dropped => dropped key = true
  | _ => False

/-- Something is kept for a key and not dropped since. -/
def KeptSince (key : Key) (events : List (CacheEvent Source Key)) : Prop :=
  ∃ first index last, events = first ++ .keep key index :: last
    ∧ ∀ event ∈ last, ¬ event.drops key

theorem KeptSince.concat {key : Key} {events : List (CacheEvent Source Key)}
    {event : CacheEvent Source Key} (keeps : KeptSince key events) (stays : ¬ event.drops key)
    : KeptSince key (events ++ [event]) := by
  obtain ⟨first, index, last, rfl, quiet⟩ := keeps
  refine ⟨first, index, last ++ [event], by simp, ?_⟩
  intro other member
  rcases List.mem_append.mp member with old | new
  · exact quiet other old
  · exact List.mem_singleton.mp new ▸ stays

theorem sourceAfter_concat (source : Source) (events : List (CacheEvent Source Key))
    (event : CacheEvent Source Key)
    : sourceAfter source (events ++ [event]) = event.onSource (sourceAfter source events) := by
  unfold sourceAfter
  rw [List.foldl_append]
  rfl

namespace ReadThrough

def live (key : Key) (now : Int) (cache : ReadThrough Source Key Value) : Option Value :=
  ((cache.kept key).filter (fun entry => now < entry.2)).map Prod.fst

def answer (read : Source → Key → Value) (key : Key) (now : Int)
    (cache : ReadThrough Source Key Value)
    : Value :=
  (cache.live key now).getD (read cache.source key)

variable [DecidableEq Key]

def look (read : Source → Key → Value) (ttl : Int) (key : Key) (now : Int)
    (cache : ReadThrough Source Key Value)
    : ReadThrough Source Key Value :=
  match cache.live key now with
  | some _ => cache
  | none =>
      { cache with
        pending := Function.update cache.pending key
          (cache.pending key ++ [(read cache.source key, now + ttl)]) }

def drop (dropped : Key → Bool) (cache : ReadThrough Source Key Value)
    : ReadThrough Source Key Value :=
  { cache with kept := fun key => if dropped key then none else cache.kept key }

def keep (key : Key) (index : Nat) (cache : ReadThrough Source Key Value)
    : ReadThrough Source Key Value :=
  match (cache.pending key)[index]? with
  | none => cache
  | some entry =>
      { cache with
        kept := Function.update cache.kept key (some entry)
        pending := Function.update cache.pending key ((cache.pending key).eraseIdx index) }

def step (read : Source → Key → Value) (ttl : Int) (cache : ReadThrough Source Key Value)
    : CacheEvent Source Key → ReadThrough Source Key Value
  | .change after => { cache with source := after cache.source }
  | .drop dropped => cache.drop dropped
  | .look key now => cache.look read ttl key now
  | .keep key index => cache.keep key index

def run (read : Source → Key → Value) (ttl : Int) (cache : ReadThrough Source Key Value)
    (events : List (CacheEvent Source Key))
    : ReadThrough Source Key Value :=
  events.foldl (step read ttl) cache

/-- Every look of a run is answered by what the source says at that time. -/
def Current (read : Source → Key → Value) (ttl : Int) (source : Source)
    (events : List (CacheEvent Source Key))
    : Prop :=
  ∀ before key now after, events = before ++ .look key now :: after
    → (run read ttl { source } before).answer read key now = read (sourceAfter source before) key

variable {read : Source → Key → Value} {ttl : Int} {source : Source} {key : Key}
variable {events : List (CacheEvent Source Key)} {event : CacheEvent Source Key}
variable {entry : Value × Int}

/-- An entry is what an earlier look has read. -/
def ReadAt (read : Source → Key → Value) (ttl : Int) (source : Source) (key : Key)
    (entry : Value × Int) (before : List (CacheEvent Source Key)) (now : Int)
    : Prop :=
  entry = (read (sourceAfter source before) key, now + ttl)

structure Traced (read : Source → Key → Value) (ttl : Int) (source : Source)
    (events : List (CacheEvent Source Key)) (cache : ReadThrough Source Key Value)
    : Prop where
  current : cache.source = sourceAfter source events
  pending
    : ∀ key, ∀ entry ∈ cache.pending key, ∃ before now later,
      events = before ++ .look key now :: later ∧ ReadAt read ttl source key entry before now
  kept
    : ∀ key, ∀ entry ∈ cache.kept key, ∃ before now later,
      events = before ++ .look key now :: later ∧ ReadAt read ttl source key entry before now
        ∧ KeptSince key later

/-- Each event keeps the trace: a look that misses reads now, and what is kept was read before. -/
theorem of_update {Index Kept : Type} [DecidableEq Index] {table : Index → Kept}
    {key other : Index} {value : Kept} (property : Kept → Prop)
    (holds : property (Function.update table key value other))
    : other = key ∧ property value ∨ property (table other) := by
  by_cases same : other = key
  · subst same
    rw [Function.update_self] at holds
    exact .inl ⟨rfl, holds⟩
  · rw [Function.update_of_ne same] at holds
    exact .inr holds

/-- What is kept or pending still comes from the look that read it, by the kind of event. -/
theorem Traced.step {cache : ReadThrough Source Key Value}
    (traced : Traced read ttl source events cache) (event : CacheEvent Source Key)
    : Traced read ttl source (events ++ [event]) (cache.step read ttl event) := by
  have pending (key : Key) (entry : Value × Int) (member : entry ∈ cache.pending key)
      : ∃ before now later, events ++ [event] = before ++ .look key now :: later
        ∧ ReadAt read ttl source key entry before now := by
    obtain ⟨before, now, later, split, from_⟩ := traced.pending key entry member
    exact ⟨before, now, later ++ [event], by simp [split], from_⟩
  have kept (key : Key) (stays : ¬ event.drops key) (entry : Value × Int)
      (member : entry ∈ cache.kept key)
      : ∃ before now later, events ++ [event] = before ++ .look key now :: later
        ∧ ReadAt read ttl source key entry before now ∧ KeptSince key later := by
    obtain ⟨before, now, later, split, from_, keeps⟩ := traced.kept key entry member
    exact ⟨before, now, later ++ [event], by simp [split], from_, keeps.concat stays⟩
  have current := sourceAfter_concat source events event
  rw [← traced.current] at current
  cases event with
  | change after => exact ⟨current.symm, pending, fun key => kept key id⟩
  | drop dropped =>
      refine ⟨current.symm, pending, fun key entry member => ?_⟩
      simp only [ReadThrough.step, drop] at member
      split at member
      · cases member
      · rename_i stays
        exact kept key stays entry member
  | look key now =>
      unfold ReadThrough.step look
      dsimp only
      split
      · exact ⟨current.symm, pending, fun key => kept key id⟩
      · refine ⟨current.symm, fun other entry member => ?_, fun key => kept key id⟩
        rcases of_update (entry ∈ ·) member with ⟨rfl, grown⟩ | old
        · rcases List.mem_append.mp grown with old | new
          · exact pending other entry old
          · refine ⟨events, now, [], rfl, ?_⟩
            rw [List.mem_singleton.mp new, traced.current]
            rfl
        · exact pending other entry old
  | keep key index =>
      unfold ReadThrough.step keep
      dsimp only
      split
      · exact ⟨current.symm, pending, fun key => kept key id⟩
      · rename_i stored found
        refine ⟨current.symm, fun other entry member => ?_, fun other entry member => ?_⟩
        · rcases of_update (entry ∈ ·) member with ⟨rfl, rest⟩ | old
          · exact pending other entry (List.mem_of_mem_eraseIdx rest)
          · exact pending other entry old
        · rcases of_update (entry ∈ ·) member with ⟨rfl, new⟩ | old
          · cases new
            obtain ⟨before, now, later, split, from_⟩ :=
              traced.pending other stored (List.mem_of_getElem? found)
            exact ⟨before, now, later ++ [.keep other index], by simp [split], from_,
              later, index, [], rfl, nofun⟩
          · exact kept other id entry old

end ReadThrough

end Library
