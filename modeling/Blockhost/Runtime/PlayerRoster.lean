import Blockhost.Library.Backtracking
import Blockhost.Services.BanService
import Mathlib

/-! The roster of online players that the local runtime reads off the console. Chat is part of the
console, and two patterns are searched anywhere in its lines.
-/

namespace Blockhost.PlayerRoster

open Library
open Bans (foldLetter)

-- The patterns

def word (letters : String) : Pattern Unit := Pattern.word foldLetter letters.toList

/-- `[A-Za-z0-9_]` when case is ignored. -/
def isNameLetter (letter : Char) : Bool :=
  (foldLetter letter).isAlphanum || letter ∈ ['_', '\u212A']

/-- `[,\s]+xuid:\s*(\d+)`; `isDecimal` tells what `\d` matches. -/
def xuidPattern (isDecimal : Char → Bool) : Pattern Text := do
  let _ ← Pattern.some (fun letter => letter = ',' || isSpace letter)
  word "xuid:"
  let _ ← Pattern.many isSpace
  Pattern.some isDecimal

/-- `(?:\s*$|,)` -/
def nameEnd : Pattern Unit :=
  (do
    let _ ← Pattern.many isSpace
    Pattern.ending)
  <|> word ","

/-- `Player verb:\s*(.+?)(?:[,\s]+xuid:\s*(\d+))?(?:\s*$|,)`, with both groups. -/
def bedrockPattern (isDecimal : Char → Bool) (verb : Pattern Unit)
    : Pattern (Text × Option Text) := do
  word "player "
  verb
  let _ ← Pattern.many isSpace
  let name ← Pattern.few (fun letter => letter ≠ '\n')
  let xuid ← Pattern.optional (xuidPattern isDecimal)
  nameEnd
  pure (name, xuid)

/-- `(?:^|\]:\s*)([A-Za-z0-9_]{1,16})\s+phrase`, with its group. -/
def javaPattern (phrase : String) (first : Bool) : Pattern (Text × Option Text) := do
  Pattern.beginning first
    <|> (do
      word "]:"
      let _ ← Pattern.many isSpace)
  let name ← Pattern.between 1 16 isNameLetter
  let _ ← Pattern.some isSpace
  word phrase
  pure (name, none)

/-- `_PLAYER_CONNECTED_RE` -/
def playerConnected (isDecimal : Char → Bool) (first : Bool) : Pattern (Text × Option Text) :=
  bedrockPattern isDecimal (word "connected:" <|> word "spawned:")
  <|> javaPattern "joined the game" first

/-- `_PLAYER_DISCONNECTED_RE` -/
def playerDisconnected (isDecimal : Char → Bool) (first : Bool)
    : Pattern (Text × Option Text) :=
  bedrockPattern isDecimal (word "disconnected:") <|> javaPattern "left the game" first

-- The roster

abbrev Roster := Text → Option (Option Text)

/-- `_apply_player_log_line` -/
def applyPlayerLogLine (isDecimal : Char → Bool) (players : Roster) (line : Text) : Roster :=
  match Pattern.search (playerConnected isDecimal) line with
  | some (name, xuid) => Function.update players (strip name) (some xuid)
  | none =>
      match Pattern.search (playerDisconnected isDecimal) line with
      | some (name, _) => Function.update players (strip name) none
      | none => players

def applyPlayerLogLines (isDecimal : Char → Bool) (players : Roster) (lines : List Text)
    : Roster :=
  lines.foldl (applyPlayerLogLine isDecimal) players

/-- A line of the console; chat carries the message of a player, in whatever format. -/
structure ConsoleLine where
  text : Text
  chat : Bool := false

def withoutChat (lines : List ConsoleLine) : List ConsoleLine :=
  lines.filter (fun line => !line.chat)

/-- The stream leaves the roster that it leaves without its chat. -/
def Unspoofed (isDecimal : Char → Bool) (players : Roster) (lines : List ConsoleLine) : Prop :=
  applyPlayerLogLines isDecimal players (lines.map ConsoleLine.text)
  = applyPlayerLogLines isDecimal players ((withoutChat lines).map ConsoleLine.text)

-- What lines say

def playerEntry (isDecimal : Char → Bool) (line : Text) : Option (Text × Option (Option Text)) :=
  ((Pattern.search (playerConnected isDecimal) line).map
      (fun (name, xuid) => (strip name, some xuid))).or
    ((Pattern.search (playerDisconnected isDecimal) line).map
      (fun (name, _) => (strip name, none)))

def lastSaid (isDecimal : Char → Bool) (players : Roster) (lines : List ConsoleLine)
    (name : Text)
    : Option (Option Text) :=
  ((lines.filterMap (fun line => playerEntry isDecimal line.text)).reverse.lookup name).getD
    (players name)

variable {isDecimal : Char → Bool} {players : Roster}

theorem applyPlayerLogLine_eq (line : Text)
    : applyPlayerLogLine isDecimal players line
      = ((playerEntry isDecimal line).map
          (fun (name, entry) => Function.update players name entry)).getD players := by
  unfold applyPlayerLogLine playerEntry
  cases Pattern.search (playerConnected isDecimal) line with
  | some found => rfl
  | none => cases Pattern.search (playerDisconnected isDecimal) line <;> rfl

/-- The last line that names a player decides about the player, by induction from the last
line.
-/
theorem applyPlayerLogLines_apply (lines : List ConsoleLine) (name : Text)
    : applyPlayerLogLines isDecimal players (lines.map ConsoleLine.text) name
      = lastSaid isDecimal players lines name := by
  unfold lastSaid applyPlayerLogLines
  induction lines using List.reverseRecOn with
  | nil => rfl
  | append_singleton lines line ih =>
      rw [List.map_append, List.foldl_append, List.map_singleton, List.foldl_cons, List.foldl_nil,
        applyPlayerLogLine_eq, List.filterMap_append, List.reverse_append]
      cases said : playerEntry isDecimal line.text with
      | none =>
          simpa [said] using ih
      | some entry =>
          obtain ⟨named, entry⟩ := entry
          by_cases same : name = named
          · simp [said, same]
          · have other : (name == named) = false := by simpa using same
            simpa [said, List.lookup, other, Function.update_of_ne same] using ih

def Names (isDecimal : Char → Bool) (name : Text) (line : ConsoleLine) : Prop :=
  (playerEntry isDecimal line.text).map Prod.fst = some name

variable {earlier later lines : List ConsoleLine} {line : ConsoleLine} {name : Text}

theorem lastSaid_unnamed (unnamed : ∀ line ∈ later, ¬ Names isDecimal name line)
    : lastSaid isDecimal players (earlier ++ later) name
      = lastSaid isDecimal players earlier name := by
  have nothing
      : (later.filterMap (fun line => playerEntry isDecimal line.text)).reverse.lookup name
        = none := by
    rw [List.lookup_eq_none_iff]
    intro entry member
    obtain ⟨line, listed, said⟩ := List.mem_filterMap.mp (List.mem_reverse.mp member)
    rw [bne_iff_ne]
    rintro rfl
    exact unnamed line listed (by rw [Names, said]; rfl)
  unfold lastSaid
  rw [List.filterMap_append, List.reverse_append, List.lookup_append, nothing, Option.none_or]

theorem lastSaid_nowhere (unnamed : ∀ line ∈ lines, ¬ Names isDecimal name line)
    : lastSaid isDecimal players lines name = players name := by
  have kept : lastSaid isDecimal players ([] ++ lines) name = lastSaid isDecimal players [] name :=
    lastSaid_unnamed unnamed
  exact kept

theorem lastSaid_named {entry : Option (Option Text)}
    (said : playerEntry isDecimal line.text = some (name, entry))
    (unnamed : ∀ other ∈ later, ¬ Names isDecimal name other)
    : lastSaid isDecimal players (earlier ++ line :: later) name = entry := by
  have joined : earlier ++ line :: later = (earlier ++ [line]) ++ later := by simp
  rw [joined, lastSaid_unnamed unnamed]
  unfold lastSaid
  simp [said]

/-- Some line is the last one to name a player, or none does; by induction from the last line. -/
theorem last_named (isDecimal : Char → Bool) (name : Text) (lines : List ConsoleLine)
    : (∀ line ∈ lines, ¬ Names isDecimal name line)
      ∨ ∃ earlier line later, lines = earlier ++ line :: later ∧ Names isDecimal name line
        ∧ ∀ other ∈ later, ¬ Names isDecimal name other := by
  induction lines using List.reverseRecOn with
  | nil => exact .inl (List.forall_mem_nil _)
  | append_singleton lines last ih =>
      by_cases own : Names isDecimal name last
      · exact .inr ⟨lines, last, [], rfl, own, List.forall_mem_nil _⟩
      · rcases ih with none | ⟨earlier, line, later, rfl, named, unnamed⟩
        · refine .inl (List.forall_mem_append.mpr ⟨none, ?_⟩)
          simpa using own
        · refine .inr ⟨earlier, line, later ++ [last], by simp, named, ?_⟩
          refine List.forall_mem_append.mpr ⟨unnamed, ?_⟩
          simpa using own

theorem unnamed_withoutChat (unnamed : ∀ line ∈ lines, ¬ Names isDecimal name line)
    : ∀ line ∈ withoutChat lines, ¬ Names isDecimal name line :=
  fun line member => unnamed line (List.mem_of_mem_filter member)

-- Chat

/-- Each chat line that names a player comes before another line that names the player, or says of
the player what the last line before it said that is no chat.
-/
def Outweighed (isDecimal : Char → Bool) (players : Roster) (lines : List ConsoleLine) : Prop :=
  ∀ earlier line later, lines = earlier ++ line :: later → line.chat = true
    → ∀ name entry, playerEntry isDecimal line.text = some (name, entry)
    → (∃ other ∈ later, Names isDecimal name other)
      ∨ lastSaid isDecimal players (withoutChat earlier) name = entry

theorem withoutChat_split (earlier later : List ConsoleLine) (line : ConsoleLine)
    : withoutChat (earlier ++ line :: later)
      = withoutChat earlier ++ (if line.chat then [] else [line]) ++ withoutChat later := by
  cases chat : line.chat <;> simp [withoutChat, chat]

theorem unspoofed_iff_lastSaid
    : Unspoofed isDecimal players lines
      ↔ ∀ name, lastSaid isDecimal players lines name
          = lastSaid isDecimal players (withoutChat lines) name := by
  unfold Unspoofed
  rw [funext_iff]
  simp only [applyPlayerLogLines_apply]

theorem Unspoofed.outweighed (unspoofed : Unspoofed isDecimal players lines)
    : Outweighed isDecimal players lines := by
  rintro earlier line later rfl chat name entry said
  by_cases unnamed : ∀ other ∈ later, ¬ Names isDecimal name other
  · have same := unspoofed_iff_lastSaid.mp unspoofed name
    rw [lastSaid_named said unnamed, withoutChat_split, chat, if_pos rfl, List.append_nil,
      lastSaid_unnamed (unnamed_withoutChat unnamed)] at same
    exact .inr same.symm
  · exact .inl (by simpa using unnamed)

theorem Outweighed.unspoofed (outweighed : Outweighed isDecimal players lines)
    : Unspoofed isDecimal players lines := by
  refine unspoofed_iff_lastSaid.mpr (fun name => ?_)
  rcases last_named isDecimal name lines with none | ⟨earlier, line, later, rfl, named, unnamed⟩
  · rw [lastSaid_nowhere none, lastSaid_nowhere (unnamed_withoutChat none)]
  · obtain ⟨⟨_, entry⟩, said, rfl⟩ := Option.map_eq_some_iff.mp named
    rw [lastSaid_named said unnamed, withoutChat_split]
    cases chat : line.chat with
    | true =>
        rw [if_pos rfl, List.append_nil, lastSaid_unnamed (unnamed_withoutChat unnamed)]
        refine ((outweighed earlier line later rfl chat _ entry said).resolve_left ?_).symm
        rintro ⟨other, member, names⟩
        exact unnamed other member names
    | false =>
        rw [if_neg Bool.false_ne_true, List.append_assoc, List.singleton_append,
          lastSaid_named said (unnamed_withoutChat unnamed)]

/-- Chat leaves no trace exactly when all of it is outweighed. -/
theorem unspoofed_iff (isDecimal : Char → Bool) (players : Roster) (lines : List ConsoleLine)
    : Unspoofed isDecimal players lines ↔ Outweighed isDecimal players lines :=
  ⟨Unspoofed.outweighed, Outweighed.unspoofed⟩

def javaChat (player message : String) : ConsoleLine where
  text := ("[12:00:00] [Server thread/INFO]: <" ++ player ++ "> " ++ message).toList
  chat := true

/-- A player writes that another one has connected, and that one is online. -/
theorem chat_spoofs_roster
    : ¬ ∀ (isDecimal : Char → Bool) (players : Roster) (lines : List ConsoleLine),
      Unspoofed isDecimal players lines := by
  intro unspoofed
  have same := unspoofed Char.isDigit (fun _ => none)
    [javaChat "Mallory" "Player connected: Steve"]
  have entries := congrFun same "Steve".toList
  revert entries
  decide +kernel

end Blockhost.PlayerRoster
