import Blockhost.Library.Texts

/-! Numbers as texts: which characters are digits in Unicode 15.0, and how Python's `int` reads
a text.
-/

namespace Library

/-- The zeros of the decimal digits; the other nine follow each. -/
def decimalZeros : List Nat :=
  [0x30, 0x660, 0x6f0, 0x7c0, 0x966, 0x9e6, 0xa66, 0xae6, 0xb66, 0xbe6, 0xc66, 0xce6, 0xd66,
    0xde6, 0xe50, 0xed0, 0xf20, 0x1040, 0x1090, 0x17e0, 0x1810, 0x1946, 0x19d0, 0x1a80, 0x1a90,
    0x1b50, 0x1bb0, 0x1c40, 0x1c50, 0xa620, 0xa8d0, 0xa900, 0xa9d0, 0xa9f0, 0xaa50, 0xabf0,
    0xff10, 0x104a0, 0x10d30, 0x11066, 0x110f0, 0x11136, 0x111d0, 0x112f0, 0x11450, 0x114d0,
    0x11650, 0x116c0, 0x11730, 0x118e0, 0x11950, 0x11c50, 0x11d50, 0x11da0, 0x11f50, 0x16a60,
    0x16ac0, 0x16b50, 0x1d7ce, 0x1d7d8, 0x1d7e2, 0x1d7ec, 0x1d7f6, 0x1e140, 0x1e2f0, 0x1e4f0,
    0x1e950, 0x1fbf0]

def decimalValue (letter : Char) : Option Nat :=
  (decimalZeros.find? (fun start => start ≤ letter.toNat && letter.toNat < start + 10)).map
    (fun start => letter.toNat - start)

/-- Digits that are not decimal, such as the superscripts, from the first to the last of each
run of them.
-/
def otherDigits : List (Nat × Nat) :=
  [(0xb2, 0xb3), (0xb9, 0xb9), (0x1369, 0x1371), (0x19da, 0x19da), (0x2070, 0x2070),
    (0x2074, 0x2079), (0x2080, 0x2089), (0x2460, 0x2468), (0x2474, 0x247c), (0x2488, 0x2490),
    (0x24ea, 0x24ea), (0x24f5, 0x24fd), (0x24ff, 0x24ff), (0x2776, 0x277e), (0x2780, 0x2788),
    (0x278a, 0x2792), (0x10a40, 0x10a43), (0x10e60, 0x10e68), (0x11052, 0x1105a),
    (0x1f100, 0x1f10a)]

def isDigit (letter : Char) : Bool :=
  (decimalValue letter).isSome
  || otherDigits.any (fun run => run.1 ≤ letter.toNat && letter.toNat ≤ run.2)

/-- `isdigit()` -/
def isdigit (text : List Char) : Bool := !text.isEmpty && text.all isDigit

/-- The space that `int` allows around a number; it is less than what a strip removes. -/
def isNumberSpace (letter : Char) : Bool :=
  isSpace letter && !(28 ≤ letter.toNat && letter.toNat ≤ 31)

def splitSign : List Char → Bool × List Char
  | '-' :: rest => (true, rest)
  | '+' :: rest => (false, rest)
  | text => (false, text)

def decimalNumber (values : List Nat) : Nat :=
  values.foldl (fun number value => 10 * number + value) 0

/-- The most digits that `int` reads. -/
def maxStrDigits : Nat := 4300

def areDecimal (text : List Char) : Bool :=
  !text.isEmpty && text.all (fun letter => (decimalValue letter).isSome)

def parseDigits (text : List Char) : Option Nat :=
  let parts := text.splitOn '_'
  if parts.all areDecimal && parts.flatten.length ≤ maxStrDigits then
    some (decimalNumber (parts.flatten.filterMap decimalValue))
  else none

/-- `int(text)`, unless it raises. -/
def parseInt (text : List Char) : Option Int :=
  let (negative, digits) := splitSign ((text.dropWhile isNumberSpace).rdropWhile isNumberSpace)
  (parseDigits digits).map
    (fun (number : Nat) => if negative then -(number : Int) else (number : Int))

-- Digits

theorem decimalValue_eq_some {letter : Char} {value : Nat}
    (decimal : decimalValue letter = some value)
    : ∃ start ∈ decimalZeros, letter.toNat = start + value ∧ value < 10 := by
  obtain ⟨start, found, rfl⟩ := Option.map_eq_some_iff.mp decimal
  have within := List.find?_some found
  simp only [Bool.and_eq_true, decide_eq_true_eq] at within
  exact ⟨start, List.mem_of_find?_eq_some found, by omega, by omega⟩

theorem decimalValue_of_isDigit {letter : Char} (digit : letter.isDigit = true)
    : decimalValue letter = some (letter.toNat - '0'.toNat) := by
  obtain ⟨low, high⟩ := Char.isDigit_iff_toNat.mp digit
  have start : '0'.toNat = 0x30 := by decide
  have last : '9'.toNat = 0x39 := by decide
  rw [start] at low ⊢
  rw [last] at high
  rw [decimalValue, decimalZeros, List.find?_cons_of_pos, Option.map_some]
  simp only [Bool.and_eq_true, decide_eq_true_eq]
  omega

def isMark (letter : Char) : Bool :=
  isNumberSpace letter || letter = '-' || letter = '+' || letter = '_'

theorem isMark_of_isDigit {letter : Char} (digit : isDigit letter = true)
    : isMark letter = false := by
  have decimals : ∀ start ∈ decimalZeros, ∀ value < 10,
      isMark (Char.ofNat (start + value)) = false := by decide
  have others : ∀ run ∈ otherDigits, ∀ value < 11,
      isMark (Char.ofNat (run.1 + value)) = false := by decide
  have widths : ∀ run ∈ otherDigits, run.2 < run.1 + 11 := by decide
  rcases Bool.or_eq_true_iff.mp digit with decimal | other
  · obtain ⟨value, known⟩ := Option.isSome_iff_exists.mp decimal
    obtain ⟨start, listed, code, small⟩ := decimalValue_eq_some known
    have plain := decimals start listed value small
    rwa [← code, Char.ofNat_toNat] at plain
  · obtain ⟨run, listed, within⟩ := List.any_eq_true.mp other
    simp only [Bool.and_eq_true, decide_eq_true_eq] at within
    have narrow := widths run listed
    have plain := others run listed (letter.toNat - run.1) (by omega)
    rwa [Nat.add_sub_cancel' within.1, Char.ofNat_toNat] at plain

-- Numbers

theorem parseInt_of_isdigit {text : List Char} (digits : isdigit text = true)
    : parseInt text
      = if areDecimal text && text.length ≤ maxStrDigits then
          some (decimalNumber (text.filterMap decimalValue) : Int)
        else none := by
  have each := List.all_eq_true.mp (Bool.and_eq_true_iff.mp digits).2
  have plain : ∀ letter ∈ text, isMark letter = false := by
    intro letter member
    exact isMark_of_isDigit (each letter member)
  simp only [isMark, Bool.or_eq_false_iff, decide_eq_false_iff_not] at plain
  have front : text.dropWhile isNumberSpace = text := by
    cases text with
    | nil => rfl
    | cons first rest =>
        have spaceless := (plain first List.mem_cons_self).1.1.1
        rw [List.dropWhile_cons_of_neg (by simp [spaceless])]
  have back : text.rdropWhile isNumberSpace = text := by
    rw [List.rdropWhile_eq_self_iff]
    intro filled
    have spaceless := (plain _ (List.getLast_mem filled)).1.1.1
    simp [spaceless]
  have unsigned : splitSign text = (false, text) := by
    cases text with
    | nil => rfl
    | cons first rest =>
        obtain ⟨⟨⟨-, minus⟩, plus⟩, -⟩ := plain first List.mem_cons_self
        rw [splitSign]
        · exact fun _ found => minus (List.cons.inj found).1
        · exact fun _ found => plus (List.cons.inj found).1
  have whole : text.splitOn '_' = [text] :=
    List.splitOn_eq_singleton (fun inside => (plain _ inside).2 rfl)
  rw [parseInt, front, back, unsigned]
  simp only [parseDigits, whole, List.all_cons, List.all_nil, Bool.and_true, List.flatten_cons,
    List.flatten_nil, List.append_nil]
  by_cases number : (areDecimal text && decide (text.length ≤ maxStrDigits)) = true
  · rw [if_pos number, if_pos number]
    rfl
  · rw [if_neg number, if_neg number]
    rfl

theorem parseInt_isSome_iff {text : List Char} (digits : isdigit text = true)
    : (parseInt text).isSome = true
      ↔ areDecimal text = true ∧ text.length ≤ maxStrDigits := by
  rw [parseInt_of_isdigit digits]
  by_cases number : (areDecimal text && decide (text.length ≤ maxStrDigits)) = true
  · have both := Bool.and_eq_true_iff.mp number
    rw [if_pos number]
    exact ⟨fun _ => ⟨both.1, of_decide_eq_true both.2⟩, fun _ => rfl⟩
  · rw [if_neg number]
    refine ⟨fun found => absurd found Bool.false_ne_true, ?_⟩
    rintro ⟨decimal, short⟩
    exact absurd (Bool.and_eq_true_iff.mpr ⟨decimal, decide_eq_true short⟩) number

theorem decimalValue_of_mem_toDigits {number : Nat} {letter : Char}
    (member : letter ∈ Nat.toDigits 10 number)
    : decimalValue letter = some (letter.toNat - '0'.toNat) :=
  decimalValue_of_isDigit (Nat.isDigit_of_mem_toDigits (by omega) (by omega) member)

theorem isdigit_toDigits (number : Nat) : isdigit (Nat.toDigits 10 number) = true := by
  rw [isdigit, List.isEmpty_eq_false_iff.mpr Nat.toDigits_ne_nil, Bool.not_false, Bool.true_and,
    List.all_eq_true]
  intro letter member
  rw [isDigit, decimalValue_of_mem_toDigits member]
  rfl

theorem parseInt_toDigits {number : Nat}
    (short : (Nat.toDigits 10 number).length ≤ maxStrDigits)
    : parseInt (Nat.toDigits 10 number) = some (number : Int) := by
  have decimal : areDecimal (Nat.toDigits 10 number) = true := by
    rw [areDecimal, List.isEmpty_eq_false_iff.mpr Nat.toDigits_ne_nil, Bool.not_false,
      Bool.true_and, List.all_eq_true]
    intro letter member
    rw [decimalValue_of_mem_toDigits member]
    rfl
  have values : (Nat.toDigits 10 number).filterMap decimalValue
      = (Nat.toDigits 10 number).map (fun letter => letter.toNat - '0'.toNat) := by
    rw [← List.filterMap_eq_map]
    exact List.filterMap_congr fun letter => decimalValue_of_mem_toDigits
  have whole : decimalNumber
        ((Nat.toDigits 10 number).map (fun letter => letter.toNat - '0'.toNat))
      = number := by
    rw [decimalNumber, List.foldl_map, ← Nat.ofDigitChars_eq_foldl,
      Nat.ofDigitChars_ten_toDigits]
  rw [parseInt_of_isdigit (isdigit_toDigits number), decimal, Bool.true_and,
    if_pos (decide_eq_true short), values, whole]

theorem parseInt_toDigits_eq {number : Nat} {read : Int}
    (known : parseInt (Nat.toDigits 10 number) = some read)
    : read = number := by
  have short := ((parseInt_isSome_iff (isdigit_toDigits number)).mp
    (Option.isSome_of_eq_some known)).2
  rw [parseInt_toDigits short] at known
  exact (Option.some.inj known).symm

end Library
