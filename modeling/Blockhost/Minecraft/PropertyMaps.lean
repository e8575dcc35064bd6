import Blockhost.Minecraft.ServerProperties
import Blockhost.Library.Numerals

/-! Property files as maps: reading tells flags and numbers from other texts, and setting a key
changes the map in just that key. A number that cannot be read is where reading raises.
-/

namespace Blockhost.ServerProperties

open Library

-- Reading with types

/-- The value of a text; `int` raises on digits that are not decimal, or too many. -/
def coerce (val : String) : Option PropertyValue :=
  let lower := val.toList.map Char.toLower
  if lower = "true".toList then some (.flag true)
  else if lower = "false".toList then some (.flag false)
  else if isdigit val.toList then (parseInt val.toList).map .number
  else some (.text val)

/-- The entries of a file with their values, unless reading one raises. -/
def coerceAll : List (String × String) → Option (List (String × PropertyValue))
  | [] => some []
  | (key, val) :: rest =>
      (coerce val).bind (fun value => (coerceAll rest).map ((key, value) :: ·))

/-- `read_properties`, unless it raises. -/
def readCoerced (text : Text) : Option (String → Option PropertyValue) :=
  (coerceAll ((readLines text).filterMap parseProperty)).map assigned

/-- A value whose digits are decimal and not too many, if it has digits only. -/
def Readable (val : String) : Prop :=
  isdigit val.toList = true → areDecimal val.toList = true ∧ val.toList.length ≤ maxStrDigits

def ReadableFile (text : Text) : Prop :=
  ∀ entry ∈ (readLines text).filterMap parseProperty, Readable entry.2

instance (val : String) : Decidable (Readable val) :=
  inferInstanceAs (Decidable (isdigit val.toList = true
    → areDecimal val.toList = true ∧ val.toList.length ≤ maxStrDigits))

instance (text : Text) : Decidable (ReadableFile text) :=
  List.decidableBAll (fun entry : String × String => Readable entry.2) _

theorem isDigit_of_toLower {letter : Char} (word : letter.toLower = 't' ∨ letter.toLower = 'f')
    : isDigit letter = false := by
  have capitals : ∀ code < 91, 65 ≤ code → isDigit (Char.ofNat code) = false := by decide
  by_cases upper : 65 ≤ letter.toNat ∧ letter.toNat < 91
  · have plain := capitals letter.toNat upper.2 upper.1
    rwa [Char.ofNat_toNat] at plain
  · have same : letter.toLower = letter := by
      refine dif_neg fun within => ?_
      have low := UInt32.le_iff_toNat_le.mp within.1
      have high := UInt32.le_iff_toNat_le.mp within.2
      exact upper ⟨low, Nat.lt_succ_of_le high⟩
    rw [same] at word
    rcases word with rfl | rfl
    · decide
    · decide

theorem isdigit_of_flag {val : List Char}
    (flag : val.map Char.toLower = "true".toList ∨ val.map Char.toLower = "false".toList)
    : isdigit val = false := by
  cases val with
  | nil => rfl
  | cons first rest =>
      have word : first.toLower = 't' ∨ first.toLower = 'f' := by
        rw [List.map_cons] at flag
        exact flag.imp (fun same => (List.cons.inj same).1) (fun same => (List.cons.inj same).1)
      rw [isdigit, List.all_cons, isDigit_of_toLower word, Bool.false_and, Bool.and_false]

theorem coerce_isSome_iff (val : String) : (coerce val).isSome = true ↔ Readable val := by
  rw [coerce, Readable]
  by_cases yes : val.toList.map Char.toLower = "true".toList
  · rw [if_pos yes, isdigit_of_flag (.inl yes)]
    exact ⟨fun _ digits => absurd digits Bool.false_ne_true, fun _ => rfl⟩
  · rw [if_neg yes]
    by_cases no : val.toList.map Char.toLower = "false".toList
    · rw [if_pos no, isdigit_of_flag (.inr no)]
      exact ⟨fun _ digits => absurd digits Bool.false_ne_true, fun _ => rfl⟩
    · rw [if_neg no]
      by_cases digits : isdigit val.toList = true
      · rw [if_pos digits, Option.isSome_map, parseInt_isSome_iff digits]
        exact ⟨fun number _ => number, fun number => number digits⟩
      · rw [if_neg digits]
        exact ⟨fun _ found => absurd found digits, fun _ => rfl⟩

/-- Reading raises exactly at a value that is not readable, by induction on the entries. -/
theorem coerceAll_isSome_iff (entries : List (String × String))
    : (coerceAll entries).isSome = true ↔ ∀ entry ∈ entries, Readable entry.2 := by
  induction entries with
  | nil => exact ⟨fun _ entry member => absurd member List.not_mem_nil, fun _ => rfl⟩
  | cons entry rest ih =>
      rw [List.forall_mem_cons, ← ih, ← coerce_isSome_iff, coerceAll]
      cases coerce entry.2 with
      | none => simp
      | some value => simp

/-- Where nothing raises, each key has the value of its text, by induction on the entries. -/
theorem assigned_coerceAll {entries : List (String × String)}
    {values : List (String × PropertyValue)} (read : coerceAll entries = some values)
    (key : String)
    : assigned values key = (assigned entries key).bind coerce := by
  induction entries generalizing values with
  | nil =>
      rw [← Option.some.inj read]
      rfl
  | cons entry rest ih =>
      rw [coerceAll] at read
      obtain ⟨value, known, read⟩ := Option.bind_eq_some_iff.mp read
      obtain ⟨later, readLater, rfl⟩ := Option.map_eq_some_iff.mp read
      rw [assigned_cons, assigned_cons, ih readLater]
      by_cases own : key = entry.1
      · rw [if_pos own, if_pos own]
        cases found : assigned rest key with
        | none => exact known.symm
        | some val =>
            have shown : (coerce val).isSome = true := by
              rw [coerce_isSome_iff]
              exact (coerceAll_isSome_iff rest).mp (Option.isSome_of_eq_some readLater) _
                (mem_of_assigned found)
            obtain ⟨other, coerced⟩ := Option.isSome_iff_exists.mp shown
            rw [Option.bind_some, coerced, Option.some_or, Option.some_or, Option.bind_some,
              coerced]
      · rw [if_neg own, if_neg own, Option.or_none, Option.or_none]

theorem readCoerced_eq_some_iff {text : Text} {map : String → Option PropertyValue}
    : readCoerced text = some map
      ↔ ReadableFile text ∧ map = fun key => (readProperties text key).bind coerce := by
  rw [ReadableFile, ← coerceAll_isSome_iff, readCoerced]
  cases read : coerceAll ((readLines text).filterMap parseProperty) with
  | none => simp
  | some values =>
      have same : assigned values = fun key => (readProperties text key).bind coerce :=
        funext (assigned_coerceAll read)
      rw [Option.map_some, same]
      exact ⟨fun found => ⟨rfl, (Option.some.inj found).symm⟩, fun found => by rw [found.2]⟩

-- Entries after a change

variable {key : String} {value : PropertyValue}

def otherLines (key : String) (lines : List Text) : List Text :=
  lines.filter (fun line => !setsProperty key line)

theorem otherLines_setLines (plain : LineKey key) (lines : List Text)
    : otherLines key (setLines key value lines) = otherLines key lines := by
  have replaced : otherLines key (lines.map (fun line =>
        if setsProperty key line then propertyLine key value else line))
      = otherLines key lines := by
    induction lines with
    | nil => rfl
    | cons line rest ih =>
        rw [otherLines] at ih
        rw [otherLines, otherLines, List.map_cons]
        cases sets : setsProperty key line with
        | true =>
            rw [if_pos rfl, List.filter_cons_of_neg (by simp [plain.setsProperty_line]),
              List.filter_cons_of_neg (by simp [sets]), ih]
            rfl
        | false =>
            rw [if_neg Bool.false_ne_true, List.filter_cons_of_pos (by simp [sets]),
              List.filter_cons_of_pos (by simp [sets]), ih]
            rfl
  rw [setLines]
  split
  · exact replaced
  · rw [otherLines, List.filter_append,
      List.filter_cons_of_neg (by simp [plain.setsProperty_line]), List.filter_nil,
      List.append_nil]
    exact replaced

theorem replaced_replaced (plain : LineKey key) (line : Text)
    : (if setsProperty key (if setsProperty key line then propertyLine key value else line) then
          propertyLine key value
        else if setsProperty key line then propertyLine key value else line)
      = if setsProperty key line then propertyLine key value else line := by
  cases sets : setsProperty key line with
  | true => rw [if_pos rfl, if_pos plain.setsProperty_line]
  | false => rw [if_neg Bool.false_ne_true, sets, if_neg Bool.false_ne_true]

theorem propertyLine_mem_setLines (lines : List Text)
    : propertyLine key value ∈ setLines key value lines := by
  rw [setLines]
  cases any : lines.any (setsProperty key) with
  | true =>
      obtain ⟨line, member, sets⟩ := List.any_eq_true.mp any
      rw [if_pos rfl, List.mem_map]
      exact ⟨line, member, if_pos sets⟩
  | false =>
      rw [if_neg Bool.false_ne_true]
      exact List.mem_append_right _ List.mem_cons_self

theorem setLines_setLines (plain : LineKey key) (lines : List Text)
    : setLines key value (setLines key value lines) = setLines key value lines := by
  have found : (setLines key value lines).any (setsProperty key) = true :=
    List.any_eq_true.mpr
      ⟨propertyLine key value, propertyLine_mem_setLines lines, plain.setsProperty_line⟩
  have again : setLines key value (setLines key value lines)
      = (setLines key value lines).map (fun line =>
          if setsProperty key line then propertyLine key value else line) :=
    if_pos found
  have same : (lines.map (fun line =>
        if setsProperty key line then propertyLine key value else line)).map (fun line =>
          if setsProperty key line then propertyLine key value else line)
      = lines.map (fun line =>
          if setsProperty key line then propertyLine key value else line) := by
    rw [List.map_map]
    exact List.map_congr_left fun line _ => replaced_replaced plain line
  rw [again, setLines]
  split
  · exact same
  · rw [List.map_append, same, List.map_singleton, if_pos plain.setsProperty_line]

theorem mem_setLines (lines : List Text) (line : Text)
    : line ∈ setLines key value lines
      ↔ line = propertyLine key value ∨ line ∈ lines ∧ setsProperty key line = false := by
  constructor
  · intro member
    have either : line = propertyLine key value ∨ line ∈ lines.map (fun line =>
        if setsProperty key line then propertyLine key value else line) := by
      rw [setLines] at member
      split at member
      · exact .inr member
      · exact (List.mem_append.mp member).symm.imp_left List.mem_singleton.mp
    rcases either with own | replaced
    · exact .inl own
    · obtain ⟨old, listed, rfl⟩ := List.mem_map.mp replaced
      cases sets : setsProperty key old with
      | true => exact .inl (if_pos rfl)
      | false =>
          rw [if_neg Bool.false_ne_true]
          exact .inr ⟨listed, sets⟩
  · rintro (rfl | ⟨listed, sets⟩)
    · exact propertyLine_mem_setLines lines
    · have kept : line ∈ lines.map (fun line =>
          if setsProperty key line then propertyLine key value else line) := by
        refine List.mem_map.mpr ⟨line, listed, ?_⟩
        rw [sets, if_neg Bool.false_ne_true]
      rw [setLines]
      split
      · exact kept
      · exact List.mem_append_left _ kept

theorem mem_entries_setLines (plain : LineKey key) (lines : List Text) (entry : String × String)
    : entry ∈ (setLines key value lines).filterMap parseProperty
      ↔ entry ∈ lines.filterMap parseProperty ∧ entry.1 ≠ key
        ∨ entry = (key, String.ofList (strip value.written.toList)) := by
  rw [List.mem_filterMap, List.mem_filterMap]
  constructor
  · rintro ⟨line, member, parsed⟩
    rcases (mem_setLines lines line).mp member with rfl | ⟨listed, sets⟩
    · rw [plain.parse_line] at parsed
      exact .inr (Option.some.inj parsed).symm
    · rw [setsProperty_parsed parsed, decide_eq_false_iff_not] at sets
      exact .inl ⟨⟨line, listed, parsed⟩, sets⟩
  · rintro (⟨⟨line, listed, parsed⟩, other⟩ | rfl)
    · refine ⟨line, (mem_setLines lines line).mpr (.inr ⟨listed, ?_⟩), parsed⟩
      rw [setsProperty_parsed parsed]
      exact decide_eq_false other
    · exact ⟨propertyLine key value, propertyLine_mem_setLines lines, plain.parse_line⟩

theorem readableFile_set (plain : LineKey key)
    (unbroken : ∀ letter ∈ value.written.toList, isBreak letter = false) (text : Text)
    : ReadableFile (setServerProperty key value text)
      ↔ (∀ entry ∈ (readLines text).filterMap parseProperty, entry.1 ≠ key → Readable entry.2)
        ∧ Readable (String.ofList (strip value.written.toList)) := by
  rw [ReadableFile, readLines_setServerProperty plain unbroken]
  simp only [mem_entries_setLines plain]
  constructor
  · intro readable
    exact ⟨fun entry member other => readable entry (.inl ⟨member, other⟩),
      readable (key, String.ofList (strip value.written.toList)) (.inr rfl)⟩
  · intro readable entry among
    rcases among with ⟨member, other⟩ | same
    · exact readable.1 entry member other
    · rw [same]
      exact readable.2

-- Files as maps

/-- A file that behaves as a map when a key is set: it can be read, reading then gives the map
with the key bound to the value, all other lines stay in their order, setting the value again
changes nothing, and another key may be set first or last.
-/
structure BehavesAsMap (key : String) (value : PropertyValue) (text : Text) : Prop where
  reads
    : ∃ map bound, readCoerced text = some map
      ∧ coerce (String.ofList (strip value.written.toList)) = some bound
      ∧ readCoerced (setServerProperty key value text)
        = some (Function.update map key (some bound))
  keeps
    : otherLines key (readLines (setServerProperty key value text))
      = otherLines key (readLines text)
  settles
    : setServerProperty key value (setServerProperty key value text)
      = setServerProperty key value text
  commutes
    : ∀ other otherValue, LineKey other
      → (∀ letter ∈ otherValue.written.toList, isBreak letter = false)
      → other ≠ key
      → readCoerced (setServerProperty other otherValue (setServerProperty key value text))
        = readCoerced (setServerProperty key value (setServerProperty other otherValue text))

theorem readCoerced_congr {first second : Text}
    (readable : ReadableFile first ↔ ReadableFile second)
    (same : readProperties first = readProperties second)
    : readCoerced first = readCoerced second := by
  refine Option.ext fun map => ?_
  rw [readCoerced_eq_some_iff, readCoerced_eq_some_iff, readable, same]

section Commuting

variable {other : String} {otherValue : PropertyValue} (plain : LineKey key)
  (unbroken : ∀ letter ∈ value.written.toList, isBreak letter = false)
  (otherPlain : LineKey other)
  (otherUnbroken : ∀ letter ∈ otherValue.written.toList, isBreak letter = false)

include plain unbroken otherPlain otherUnbroken

theorem readableFile_set_set (distinct : other ≠ key) (text : Text)
    : ReadableFile (setServerProperty other otherValue (setServerProperty key value text))
      ↔ (∀ entry ∈ (readLines text).filterMap parseProperty,
          entry.1 ≠ key → entry.1 ≠ other → Readable entry.2)
        ∧ Readable (String.ofList (strip value.written.toList))
        ∧ Readable (String.ofList (strip otherValue.written.toList)) := by
  rw [readableFile_set otherPlain otherUnbroken, readLines_setServerProperty plain unbroken,
    ← and_assoc]
  refine and_congr_left fun _ => ?_
  simp only [mem_entries_setLines plain]
  constructor
  · intro readable
    exact ⟨fun entry member notKey notOther => readable entry (.inl ⟨member, notKey⟩) notOther,
      readable (key, String.ofList (strip value.written.toList)) (.inr rfl) distinct.symm⟩
  · intro readable entry among notOther
    rcases among with ⟨member, notKey⟩ | same
    · exact readable.1 entry member notKey notOther
    · rw [same]
      exact readable.2

theorem readCoerced_comm (distinct : other ≠ key) (text : Text)
    : readCoerced (setServerProperty other otherValue (setServerProperty key value text))
      = readCoerced (setServerProperty key value (setServerProperty other otherValue text)) := by
  refine readCoerced_congr ?_ ?_
  · rw [readableFile_set_set plain unbroken otherPlain otherUnbroken distinct,
      readableFile_set_set otherPlain otherUnbroken plain unbroken distinct.symm,
      and_comm (a := Readable (String.ofList (strip otherValue.written.toList)))]
    refine and_congr_left fun _ => ?_
    exact ⟨fun readable entry member notOther notKey => readable entry member notKey notOther,
      fun readable entry member notKey notOther => readable entry member notOther notKey⟩
  · rw [readProperties_set otherPlain otherUnbroken, readProperties_set plain unbroken,
      readProperties_set plain unbroken, readProperties_set otherPlain otherUnbroken]
    exact Function.update_comm distinct.symm _ _ _

end Commuting

/-- Setting a key in any file behaves as on a map exactly if no value of the file and not the
value set are digits that `int` cannot read.
-/
theorem property_files_behave_as_maps_iff (plain : LineKey key)
    (unbroken : ∀ letter ∈ value.written.toList, isBreak letter = false) (text : Text)
    : BehavesAsMap key value text
      ↔ ReadableFile text ∧ Readable (String.ofList (strip value.written.toList)) := by
  constructor
  · rintro ⟨⟨map, bound, read, bounded, -⟩, -, -, -⟩
    exact ⟨(readCoerced_eq_some_iff.mp read).1,
      (coerce_isSome_iff _).mp (Option.isSome_of_eq_some bounded)⟩
  · rintro ⟨readable, own⟩
    obtain ⟨bound, bounded⟩ := Option.isSome_iff_exists.mp ((coerce_isSome_iff _).mpr own)
    refine ⟨⟨_, bound, readCoerced_eq_some_iff.mpr ⟨readable, rfl⟩, bounded, ?_⟩, ?_, ?_, ?_⟩
    · rw [readCoerced_eq_some_iff]
      refine ⟨(readableFile_set plain unbroken text).mpr
        ⟨fun entry member _ => readable entry member, own⟩, ?_⟩
      rw [readProperties_set plain unbroken]
      funext asked
      rw [Function.update_apply, Function.update_apply]
      by_cases same : asked = key
      · rw [if_pos same, if_pos same, Option.bind_some, bounded]
      · rw [if_neg same, if_neg same]
    · rw [readLines_setServerProperty plain unbroken, otherLines_setLines plain]
    · have whole (file : Text)
          : setServerProperty key value file
            = writeLines (setLines key value (readLines file)) :=
        rfl
      rw [whole, readLines_setServerProperty plain unbroken, setLines_setLines plain, ← whole]
    · intro other otherValue otherPlain otherUnbroken distinct
      exact readCoerced_comm plain unbroken otherPlain otherUnbroken distinct text

/-- A key with a space is set in a file with a comment that looks like an entry. -/
theorem view_distance_is_set
    : BehavesAsMap "view distance" (.number 12) "#view distance=8\nmotd=a=b".toList :=
  (property_files_behave_as_maps_iff ⟨by decide, by decide, by decide⟩
    (Legible.unbroken (by decide)) _).mpr
    ⟨by decide, by decide⟩

/-- A superscript is a digit, but no number. -/
theorem superscript_is_not_read
    : readCoerced "level-seed=²".toList = none
      ∧ ¬ BehavesAsMap "motd" (.text "shop") "level-seed=²".toList := by
  have unread : readCoerced "level-seed=²".toList = none := by decide
  refine ⟨unread, ?_⟩
  rintro ⟨⟨map, bound, read, -⟩, -, -, -⟩
  exact absurd (read.symm.trans unread) (by simp)

end Blockhost.ServerProperties
