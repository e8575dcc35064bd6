import Blockhost.Runtime.PlayerRoster

/-! The roster of players as it is rebuilt from the journal. Only the last entries since the unit
became active are read, as the printed moment tells; a join before them is not seen.
-/

namespace Blockhost.PlayerRoster

open Library

structure JournalEntry where
  time : Nat
  lines : List ConsoleLine
  written : lines ≠ []

/-- The entries of a unit before it became active and since. The moment of that is printed in whole
seconds, so it does not hide an entry since then, but it may show some from before.
-/
structure Journal where
  earlier : List JournalEntry
  log : List JournalEntry
  activeSince : Option Nat
  shows : ∀ entry ∈ log, activeSince.all (· ≤ entry.time) = true

def journalLines (entries : List JournalEntry) : List ConsoleLine :=
  entries.flatMap JournalEntry.lines

/-- `--since` -/
def Journal.since (journal : Journal) (entries : List JournalEntry) : List JournalEntry :=
  entries.filter (fun entry => journal.activeSince.all (· ≤ entry.time))

/-- The `tail` of `_journal_lines_for_player_state` -/
def journalTail : Nat := 5000

/-- `_journal_lines_for_player_state` -/
def journalLinesForPlayerState (journal : Journal) : List ConsoleLine :=
  journalLines ((journal.since (journal.earlier ++ journal.log)).rtake journalTail)

def nobody : Roster := fun _ => none

/-- Lines that were read replace the roster by what they say. -/
def rosterOfLines (isDecimal : Char → Bool) (players : Roster) : List ConsoleLine → Roster
  | [] => players
  | line :: rest => applyPlayerLogLines isDecimal nobody ((line :: rest).map ConsoleLine.text)

/-- `_rebuild_online_players_from_journal` -/
def rebuildOnlinePlayers (isDecimal : Char → Bool) (journal : Journal) (players : Roster)
    : Roster :=
  rosterOfLines isDecimal players (journalLinesForPlayerState journal)

/-- The roster that all lines since the unit became active leave. -/
def rosterOfLog (isDecimal : Char → Bool) (journal : Journal) : Roster :=
  applyPlayerLogLines isDecimal nobody ((journalLines journal.log).map ConsoleLine.text)

/-- The rebuilt roster is that of the whole log, and it is not empty while a player's join has not
been followed by a leave.
-/
structure Complete (isDecimal : Char → Bool) (journal : Journal) (players : Roster) : Prop where
  whole : rebuildOnlinePlayers isDecimal journal players = rosterOfLog isDecimal journal
  counted
    : ∀ name xuid, lastSaid isDecimal nobody (journalLines journal.log) name = some xuid
      → rebuildOnlinePlayers isDecimal journal players ≠ nobody

/-- Entries of an earlier activation that are read. -/
def Journal.foreign (journal : Journal) : List JournalEntry :=
  (journal.since journal.earlier).rtake (journalTail - journal.log.length)

def Journal.dropped (journal : Journal) : List JournalEntry := journal.log.rdrop journalTail

def Journal.seen (journal : Journal) : List JournalEntry := journal.log.rtake journalTail

/-- Each player about whom the unread lines of the log and the lines before it disagree is named
again later; and with nothing to read, nobody was known before.
-/
structure Covered (isDecimal : Char → Bool) (journal : Journal) (players : Roster) : Prop where
  named
    : ∀ name,
      lastSaid isDecimal nobody (journalLines journal.foreign) name
        ≠ lastSaid isDecimal nobody (journalLines journal.dropped) name
      → ∃ line ∈ journalLines journal.seen, Names isDecimal name line
  silent : journal.since (journal.earlier ++ journal.log) = [] → players = nobody

-- The window

variable {isDecimal : Char → Bool} {journal : Journal} {players : Roster}

theorem rtake_append {α : Type} (first second : List α) (count : Nat)
    : (first ++ second).rtake count
      = first.rtake (count - second.length) ++ second.rtake count := by
  simp only [List.rtake, List.drop_append, List.length_append]
  congr 1
  · rcases Nat.le_total second.length count with long | short
    · rw [show first.length - (count - second.length)
        = first.length + second.length - count by omega]
    · rw [List.drop_of_length_le (by omega), List.drop_of_length_le (by omega)]
  · rw [show first.length + second.length - count - first.length
      = second.length - count by omega]

theorem journalLines_append (first second : List JournalEntry)
    : journalLines (first ++ second) = journalLines first ++ journalLines second :=
  List.flatMap_append

theorem since_append (journal : Journal)
    : journal.since (journal.earlier ++ journal.log)
      = journal.since journal.earlier ++ journal.log := by
  have all : journal.since journal.log = journal.log := List.filter_eq_self.mpr journal.shows
  rw [Journal.since, List.filter_append]
  exact congrArg _ all

theorem journalLinesForPlayerState_eq (journal : Journal)
    : journalLinesForPlayerState journal
      = journalLines journal.foreign ++ journalLines journal.seen := by
  rw [journalLinesForPlayerState, since_append, rtake_append, journalLines_append]
  rfl

theorem log_lines (journal : Journal)
    : journalLines journal.log
      = journalLines journal.dropped ++ journalLines journal.seen := by
  rw [← journalLines_append]
  exact congrArg journalLines (List.take_append_drop _ _).symm

theorem journalLinesForPlayerState_eq_nil
    : journalLinesForPlayerState journal = []
      ↔ journal.since (journal.earlier ++ journal.log) = [] := by
  rw [journalLinesForPlayerState]
  generalize journal.since (journal.earlier ++ journal.log) = entries
  constructor
  · intro none
    induction entries using List.reverseRecOn with
    | nil => rfl
    | append_singleton entries entry _ =>
        rw [journalTail, List.rtake_concat_succ, journalLines_append] at none
        exact absurd (by simpa [journalLines] using (List.append_eq_nil_iff.mp none).2)
          entry.written
  · rintro rfl
    rfl

-- What is missed

variable {extra other lines : List ConsoleLine} {name : Text}

theorem lastSaid_append_named (named : ∃ line ∈ lines, Names isDecimal name line)
    : lastSaid isDecimal players (extra ++ lines) name = lastSaid isDecimal players lines name := by
  rcases last_named isDecimal name lines with unnamed | ⟨earlier, line, later, rfl, names, unnamed⟩
  · obtain ⟨line, member, names⟩ := named
    exact absurd names (unnamed line member)
  · obtain ⟨⟨_, entry⟩, said, rfl⟩ := Option.map_eq_some_iff.mp names
    rw [← List.append_assoc, lastSaid_named said unnamed, lastSaid_named said unnamed]

theorem lastSaid_append_eq_iff
    : (∀ name, lastSaid isDecimal players (extra ++ lines) name
        = lastSaid isDecimal players (other ++ lines) name)
      ↔ ∀ name, lastSaid isDecimal players extra name ≠ lastSaid isDecimal players other name
        → ∃ line ∈ lines, Names isDecimal name line := by
  refine forall_congr' fun name => ?_
  by_cases named : ∃ line ∈ lines, Names isDecimal name line
  · rw [lastSaid_append_named named, lastSaid_append_named named]
    exact iff_of_true rfl fun _ => named
  · have unnamed : ∀ line ∈ lines, ¬ Names isDecimal name line := by simpa using named
    rw [lastSaid_unnamed unnamed, lastSaid_unnamed unnamed]
    exact ⟨fun same differ => absurd same differ, fun again => not_not.mp fun differ =>
      named (again differ)⟩

theorem rosterOfLines_read (read : lines ≠ [])
    : rosterOfLines isDecimal players lines
      = applyPlayerLogLines isDecimal nobody (lines.map ConsoleLine.text) := by
  cases lines with
  | nil => contradiction
  | cons line rest => rfl

theorem rebuilt_whole_iff
    : rebuildOnlinePlayers isDecimal journal players = rosterOfLog isDecimal journal
      ↔ Covered isDecimal journal players := by
  by_cases silent : journal.since (journal.earlier ++ journal.log) = []
  · obtain ⟨none, logless⟩ := List.append_eq_nil_iff.mp ((since_append journal).symm.trans silent)
    rw [rebuildOnlinePlayers, journalLinesForPlayerState_eq_nil.mpr silent, rosterOfLog, logless]
    refine ⟨fun empty => ⟨fun name differ => ?_, fun _ => empty⟩, fun covered =>
      covered.silent silent⟩
    rw [Journal.foreign, Journal.dropped, none, logless, List.rtake_nil, List.rdrop_nil] at differ
    exact absurd rfl differ
  · have read := mt journalLinesForPlayerState_eq_nil.mp silent
    rw [rebuildOnlinePlayers, rosterOfLines_read read, rosterOfLog, funext_iff]
    simp only [applyPlayerLogLines_apply]
    rw [journalLinesForPlayerState_eq, log_lines, lastSaid_append_eq_iff]
    exact ⟨fun named => ⟨named, fun none => absurd none silent⟩, Covered.named⟩

/-- The rebuilt roster is complete exactly when the unread part of the log says nothing about a
player that is not said again.
-/
theorem complete_iff (isDecimal : Char → Bool) (journal : Journal) (players : Roster)
    : Complete isDecimal journal players ↔ Covered isDecimal journal players := by
  rw [← rebuilt_whole_iff]
  refine ⟨Complete.whole, fun whole => ⟨whole, fun name xuid joined empty => ?_⟩⟩
  have listed := congrFun (whole.symm.trans empty) name
  rw [rosterOfLog, applyPlayerLogLines_apply, joined] at listed
  cases listed

def consoleEntry (text : String) : JournalEntry where
  time := 0
  lines := [{ text := text.toList }]
  written := List.cons_ne_nil _ _

/-- A player joins, and the server then writes as many other lines as are read. -/
def busyJournal : Journal where
  earlier := []
  log := consoleEntry "Player connected: Steve" :: List.replicate journalTail (consoleEntry "")
  activeSince := some 0
  shows _ _ := rfl

/-- A player who joined that many lines ago is missing. -/
theorem busy_server_forgets_player
    : ¬ ∀ (isDecimal : Char → Bool) (journal : Journal) (players : Roster),
      Complete isDecimal journal players := by
  intro complete
  have covered := rebuilt_whole_iff.mp (complete Char.isDigit busyJournal nobody).whole
  have length : busyJournal.log.length - journalTail = 1 := by
    simp [busyJournal]
  have dropped : busyJournal.dropped = [consoleEntry "Player connected: Steve"] := by
    rw [Journal.dropped, List.rdrop, length]
    rfl
  have seen : busyJournal.seen = List.replicate journalTail (consoleEntry "") := by
    rw [Journal.seen, List.rtake, length]
    rfl
  have foreign : journalLines busyJournal.foreign = [] := by
    simp [Journal.foreign, Journal.since, busyJournal, journalLines]
  have joined : lastSaid Char.isDigit nobody
      (journalLines [consoleEntry "Player connected: Steve"]) "Steve".toList = some none := by
    decide +kernel
  have quiet : ¬ Names Char.isDigit "Steve".toList { text := "".toList } := by
    unfold Names
    decide +kernel
  obtain ⟨line, member, names⟩ := covered.named "Steve".toList (by
    rw [dropped, joined, foreign]
    nofun)
  rw [seen, journalLines, List.mem_flatMap] at member
  obtain ⟨entry, listed, said⟩ := member
  rw [List.eq_of_mem_replicate listed] at said
  rw [List.mem_singleton.mp said] at names
  exact quiet names

end Blockhost.PlayerRoster
