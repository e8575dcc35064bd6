import Mathlib.Data.Nat.Bitwise
import Mathlib.Data.List.Basic
import Mathlib.Algebra.Group.Nat.Defs

/-! Octet strings: numbers of a fixed width, numbers in groups of seven bits, and texts. -/

namespace Library

abbrev Octets := List UInt8

-- Numbers of a fixed width

/-- The lowest octets of a number, the lowest first. -/
def littleEndian : Nat → Nat → Octets
  | 0, _ => []
  | width + 1, value => UInt8.ofNat value :: littleEndian width (value / 256)

def fromLittleEndian : Octets → Nat
  | [] => 0
  | octet :: rest => octet.toNat + 256 * fromLittleEndian rest

def bigEndian (width value : Nat) : Octets := (littleEndian width value).reverse

def fromBigEndian (octets : Octets) : Nat := fromLittleEndian octets.reverse

@[simp] theorem length_littleEndian (width value : Nat)
    : (littleEndian width value).length = width := by
  induction width generalizing value with
  | zero => rfl
  | succ width ih => rw [littleEndian, List.length_cons, ih]

@[simp] theorem length_bigEndian (width value : Nat)
    : (bigEndian width value).length = width := by
  rw [bigEndian, List.length_reverse, length_littleEndian]

theorem fromLittleEndian_littleEndian (width value : Nat)
    : fromLittleEndian (littleEndian width value) = value % 256 ^ width := by
  induction width generalizing value with
  | zero => simp [littleEndian, fromLittleEndian, Nat.mod_one]
  | succ width ih =>
      have low : (UInt8.ofNat value).toNat = value % 256 := UInt8.toNat_ofNat'
      rw [littleEndian, fromLittleEndian, ih, low, Nat.pow_succ', Nat.mod_mul]

theorem fromBigEndian_bigEndian (width value : Nat)
    : fromBigEndian (bigEndian width value) = value % 256 ^ width := by
  rw [fromBigEndian, bigEndian, List.reverse_reverse, fromLittleEndian_littleEndian]

theorem fromLittleEndian_lt (octets : Octets)
    : fromLittleEndian octets < 256 ^ octets.length := by
  induction octets with
  | nil => simp [fromLittleEndian]
  | cons octet rest ih =>
      have byte := octet.toNat_lt
      rw [fromLittleEndian, List.length_cons, Nat.pow_succ']
      omega

theorem fromBigEndian_lt (octets : Octets)
    : fromBigEndian octets < 256 ^ octets.length := by
  have bounded := fromLittleEndian_lt octets.reverse
  rwa [List.length_reverse] at bounded

/-- The octets are those of their number, by induction on them. -/
theorem littleEndian_fromLittleEndian (octets : Octets)
    : littleEndian octets.length (fromLittleEndian octets) = octets := by
  induction octets with
  | nil => rfl
  | cons octet rest ih =>
      have byte := octet.toNat_lt
      have low : UInt8.ofNat (octet.toNat + 256 * fromLittleEndian rest) = octet := by
        apply UInt8.toNat_inj.mp
        rw [UInt8.toNat_ofNat']
        omega
      have high : (octet.toNat + 256 * fromLittleEndian rest) / 256 = fromLittleEndian rest := by
        omega
      rw [List.length_cons, fromLittleEndian, littleEndian, low, high, ih]

theorem bigEndian_fromBigEndian (octets : Octets)
    : bigEndian octets.length (fromBigEndian octets) = octets := by
  have back := littleEndian_fromLittleEndian octets.reverse
  rw [List.length_reverse] at back
  rw [bigEndian, fromBigEndian, back, List.reverse_reverse]

-- Numbers in groups of seven bits

/-- A number in groups of seven bits, the lowest first; each group but the last one has the
eighth bit set.
-/
def groups (value : Nat) : Octets :=
  if value < 128 then [UInt8.ofNat value]
  else UInt8.ofNat (value % 128 + 128) :: groups (value / 128)
termination_by value
decreasing_by omega

/-- Read groups up to one without the eighth bit, or up to a number of them. -/
def readGroups : Nat → Octets → Option (Nat × Octets)
  | 0, stream => some (0, stream)
  | _ + 1, [] => none
  | limit + 1, octet :: rest =>
      if octet.toNat < 128 then some (octet.toNat, rest)
      else
        (readGroups limit rest).map (fun read => (octet.toNat % 128 + 128 * read.1, read.2))

theorem groups_of_lt {value : Nat} (small : value < 128)
    : groups value = [UInt8.ofNat value] := by
  rw [groups, if_pos small]

theorem groups_of_le {value : Nat} (large : 128 ≤ value)
    : groups value = UInt8.ofNat (value % 128 + 128) :: groups (value / 128) := by
  rw [groups, if_neg (Nat.not_lt.mpr large)]

/-- A number that fits into the groups read is read back, by induction on how many there are.
-/
theorem readGroups_groups (limit : Nat) {value : Nat} (fits : value < 128 ^ (limit + 1))
    (rest : Octets)
    : readGroups (limit + 1) (groups value ++ rest) = some (value, rest) := by
  induction limit generalizing value with
  | zero =>
      have byte : (UInt8.ofNat value).toNat = value := by
        rw [UInt8.toNat_ofNat']
        omega
      rw [groups_of_lt (by omega), List.singleton_append, readGroups, byte, if_pos (by omega)]
  | succ limit ih =>
      by_cases small : value < 128
      · have byte : (UInt8.ofNat value).toNat = value := by
          rw [UInt8.toNat_ofNat']
          omega
        rw [groups_of_lt small, List.singleton_append, readGroups, byte, if_pos small]
      · have byte : (UInt8.ofNat (value % 128 + 128)).toNat = value % 128 + 128 := by
          rw [UInt8.toNat_ofNat']
          omega
        have high : value / 128 < 128 ^ (limit + 1) :=
          Nat.div_lt_of_lt_mul (by rwa [← Nat.pow_succ'])
        have whole : (value % 128 + 128) % 128 + 128 * (value / 128) = value := by omega
        rw [groups_of_le (Nat.not_lt.mp small), List.cons_append, readGroups, byte,
          if_neg (by omega), ih high, Option.map_some, whole]

theorem readGroups_lt {limit : Nat} {stream rest : Octets} {value : Nat}
    (read : readGroups limit stream = some (value, rest))
    : value < 128 ^ limit := by
  induction limit generalizing stream value rest with
  | zero =>
      obtain ⟨rfl, -⟩ := Prod.mk.inj (Option.some.inj read)
      exact Nat.one_pos
  | succ limit ih =>
      cases stream with
      | nil => exact absurd read (by simp [readGroups])
      | cons octet rest =>
          have power : 128 ^ (limit + 1) = 128 * 128 ^ limit := Nat.pow_succ'
          have filled : 0 < 128 ^ limit := Nat.pow_pos (by omega)
          rw [readGroups] at read
          split at read
          · obtain ⟨rfl, -⟩ := Prod.mk.inj (Option.some.inj read)
            omega
          · obtain ⟨⟨high, left⟩, below, joined⟩ := Option.map_eq_some_iff.mp read
            obtain ⟨rfl, -⟩ := Prod.mk.inj joined
            have bounded := ih below
            dsimp only
            omega

/-- Reading takes no more octets than there are groups to read, by induction on these. -/
theorem length_le_of_readGroups {limit : Nat} {stream rest : Octets} {value : Nat}
    (read : readGroups limit stream = some (value, rest))
    : stream.length ≤ rest.length + limit := by
  induction limit generalizing stream value rest with
  | zero =>
      obtain ⟨-, rfl⟩ := Prod.mk.inj (Option.some.inj read)
      exact Nat.le_refl _
  | succ limit ih =>
      cases stream with
      | nil => exact absurd read (by simp [readGroups])
      | cons octet rest =>
          rw [readGroups] at read
          rw [List.length_cons]
          split at read
          · obtain ⟨-, rfl⟩ := Prod.mk.inj (Option.some.inj read)
            omega
          · obtain ⟨⟨high, left⟩, below, joined⟩ := Option.map_eq_some_iff.mp read
            obtain ⟨-, rfl⟩ := Prod.mk.inj joined
            have taken := ih below
            dsimp only
            omega

theorem length_groups_le (limit : Nat) {value : Nat} (fits : value < 128 ^ (limit + 1))
    : (groups value).length ≤ limit + 1 := by
  have taken := length_le_of_readGroups (readGroups_groups limit fits [])
  rwa [List.append_nil, List.length_nil, Nat.zero_add] at taken

theorem lt_pow_length_groups (value : Nat) : value < 128 ^ (groups value).length := by
  induction value using Nat.strong_induction_on with
  | _ value ih =>
      by_cases small : value < 128
      · rw [groups_of_lt small, List.length_singleton]
        omega
      · have high := ih (value / 128) (by omega)
        rw [groups_of_le (Nat.not_lt.mp small), List.length_cons, Nat.pow_succ]
        exact Nat.lt_mul_of_div_lt high (by omega)

-- Texts

def encodeText (text : List Char) : Octets := text.flatMap String.utf8EncodeChar

def decodeText (octets : Octets) : Option (List Char) :=
  (octets.toByteArray.utf8Decode?).map Array.toList

theorem toByteArray_encodeText (text : List Char)
    : (encodeText text).toByteArray = text.utf8Encode := rfl

@[simp] theorem decodeText_encodeText (text : List Char)
    : decodeText (encodeText text) = some text := by
  rw [decodeText, toByteArray_encodeText, List.utf8Decode?_utf8Encode]
  rfl

theorem decodeText_eq_some_iff {octets : Octets} {text : List Char}
    : decodeText octets = some text ↔ octets = encodeText text := by
  constructor
  · intro decoded
    obtain ⟨letters, read, rfl⟩ := Option.map_eq_some_iff.mp decoded
    have known : octets.toByteArray.utf8Decode?.isSome = true := by rw [read]; rfl
    have back : (octets.toByteArray.utf8Decode?.get known).toList.utf8Encode
        = octets.toByteArray :=
      ByteArray.utf8Encode_get_utf8Decode?
    simp only [read, Option.get_some] at back
    have listed := congrArg (fun packed => packed.data.toList) back
    rw [← toByteArray_encodeText] at listed
    simpa only [List.toList_data_toByteArray] using listed.symm
  · rintro rfl
    exact decodeText_encodeText text

theorem encodeText_append (front back : List Char)
    : encodeText (front ++ back) = encodeText front ++ encodeText back :=
  List.flatMap_append ..

theorem length_encodeText_le (text : List Char)
    : (encodeText text).length ≤ 4 * text.length := by
  induction text with
  | nil => rfl
  | cons letter rest ih =>
      have wide := letter.utf8Size_le_four
      rw [encodeText, List.flatMap_cons, List.length_append, String.length_utf8EncodeChar,
        List.length_cons]
      rw [encodeText] at ih
      omega

def tailRange : Nat × Nat := (0x80, 0xBF)

/-- The ranges of the octets that may follow the first octet of a character. -/
def following (lead : Nat) : List (Nat × Nat) :=
  if 0xC2 ≤ lead ∧ lead ≤ 0xDF then [tailRange]
  else if lead = 0xE0 then [(0xA0, 0xBF), tailRange]
  else if lead = 0xED then [(0x80, 0x9F), tailRange]
  else if 0xE1 ≤ lead ∧ lead ≤ 0xEF then [tailRange, tailRange]
  else if lead = 0xF0 then [(0x90, 0xBF), tailRange, tailRange]
  else if lead = 0xF4 then [(0x80, 0x8F), tailRange, tailRange]
  else if 0xF1 ≤ lead ∧ lead ≤ 0xF3 then [tailRange, tailRange, tailRange]
  else []

/-- How many octets are in the ranges before the first that is not. -/
def countWithin : List (Nat × Nat) → Octets → Nat
  | range :: ranges, octet :: rest =>
      if range.1 ≤ octet.toNat ∧ octet.toNat ≤ range.2 then countWithin ranges rest + 1 else 0
  | _, _ => 0

/-- The text of the octets, with a replacement character for each longest piece of them that
begins no character.
-/
def decodeReplace : Octets → List Char
  | [] => []
  | first :: rest =>
      let taken := countWithin (following first.toNat) rest
      (decodeText (first :: rest.take taken)).getD ['\ufffd'] ++ decodeReplace (rest.drop taken)
termination_by octets => octets.length
decreasing_by
  rw [List.length_drop, List.length_cons]
  omega

theorem toNat_octet {value : Nat} (byte : value < 256) : (UInt8.ofNat value).toNat = value := by
  rw [UInt8.toNat_ofNat']
  omega

theorem countWithin_cons {low high value : Nat} {ranges : List (Nat × Nat)} {rest : Octets}
    (byte : value < 256) (within : low ≤ value ∧ value ≤ high)
    : countWithin ((low, high) :: ranges) (UInt8.ofNat value :: rest)
      = countWithin ranges rest + 1 := by
  rw [countWithin, toNat_octet byte, if_pos within]

theorem countWithin_tail {value : Nat} {ranges : List (Nat × Nat)} {rest : Octets}
    : countWithin (tailRange :: ranges) (UInt8.ofNat (value % 0x40 + 0x80) :: rest)
      = countWithin ranges rest + 1 :=
  countWithin_cons (by omega) (by omega)

theorem countWithin_nil (rest : Octets) : countWithin [] rest = 0 := by
  rw [countWithin]
  exact fun _ _ _ _ found => absurd found (List.cons_ne_nil _ _).symm

theorem following_three {code : Nat} (low : 0x7ff < code) (high : code ≤ 0xffff)
    (valid : code < 0xD800 ∨ 0xDFFF < code)
    : ∃ least most, following (code / 4096 % 0x10 + 0xe0) = [(least, most), tailRange]
      ∧ least ≤ code / 64 % 0x40 + 0x80 ∧ code / 64 % 0x40 + 0x80 ≤ most := by
  unfold following
  rw [if_neg (by omega)]
  by_cases first : code / 4096 % 0x10 + 0xe0 = 0xE0
  · rw [if_pos first]
    exact ⟨0xA0, 0xBF, rfl, by omega, by omega⟩
  · rw [if_neg first]
    by_cases surrogates : code / 4096 % 0x10 + 0xe0 = 0xED
    · rw [if_pos surrogates]
      exact ⟨0x80, 0x9F, rfl, by omega, by omega⟩
    · rw [if_neg surrogates, if_pos (by omega)]
      exact ⟨0x80, 0xBF, rfl, by omega, by omega⟩

theorem following_four {code : Nat} (low : 0xffff < code) (high : code < 0x110000)
    : ∃ least most,
      following (code / 262144 % 0x08 + 0xf0) = [(least, most), tailRange, tailRange]
      ∧ least ≤ code / 4096 % 0x40 + 0x80 ∧ code / 4096 % 0x40 + 0x80 ≤ most := by
  unfold following
  rw [if_neg (by omega), if_neg (by omega), if_neg (by omega), if_neg (by omega)]
  by_cases first : code / 262144 % 0x08 + 0xf0 = 0xF0
  · rw [if_pos first]
    exact ⟨0x90, 0xBF, rfl, by omega, by omega⟩
  · rw [if_neg first]
    by_cases last : code / 262144 % 0x08 + 0xf0 = 0xF4
    · rw [if_pos last]
      exact ⟨0x80, 0x8F, rfl, by omega, by omega⟩
    · rw [if_neg last, if_pos (by omega)]
      exact ⟨0x80, 0xBF, rfl, by omega, by omega⟩

/-- The octets of a character are taken together; the cases are how many there are, and which
ranges the first one allows.
-/
theorem countWithin_utf8EncodeChar (letter : Char)
    : ∃ first more, String.utf8EncodeChar letter = first :: more
      ∧ ∀ rest, countWithin (following first.toNat) (more ++ rest) = more.length := by
  have valid : letter.val.toNat < 0xD800
      ∨ 0xDFFF < letter.val.toNat ∧ letter.val.toNat < 0x110000 := letter.valid
  rw [String.utf8EncodeChar]
  generalize letter.val.toNat = code at valid
  by_cases one : code ≤ 0x7f
  · rw [if_pos one]
    refine ⟨_, _, rfl, fun rest => ?_⟩
    have lead : following code = [] := by
      unfold following
      repeat rw [if_neg (by omega)]
    rw [toNat_octet (by omega), lead, countWithin_nil]
    rfl
  · rw [if_neg one]
    by_cases two : code ≤ 0x7ff
    · rw [if_pos two]
      refine ⟨_, _, rfl, fun rest => ?_⟩
      have lead : following (code / 64 % 0x20 + 0xc0) = [tailRange] := if_pos (by omega)
      rw [toNat_octet (by omega), lead, List.cons_append, countWithin_tail, countWithin_nil]
      rfl
    · rw [if_neg two]
      by_cases three : code ≤ 0xffff
      · rw [if_pos three]
        refine ⟨_, _, rfl, fun rest => ?_⟩
        obtain ⟨least, most, lead, within⟩ :=
          following_three (by omega) three (valid.imp_right And.left)
        rw [toNat_octet (by omega), lead, List.cons_append, List.cons_append,
          countWithin_cons (by omega) within, countWithin_tail, countWithin_nil]
        rfl
      · rw [if_neg three]
        refine ⟨_, _, rfl, fun rest => ?_⟩
        obtain ⟨least, most, lead, within⟩ := following_four (Nat.not_le.mp three) (by omega)
        rw [toNat_octet (by omega), lead, List.cons_append, List.cons_append, List.cons_append,
          countWithin_cons (by omega) within, countWithin_tail, countWithin_tail,
          countWithin_nil]
        rfl

/-- A text is decoded from its octets, by induction on the text. -/
theorem decodeReplace_encodeText (text : List Char)
    : decodeReplace (encodeText text) = text := by
  induction text with
  | nil => exact decodeReplace.eq_1
  | cons letter rest ih =>
      obtain ⟨first, more, octets, taken⟩ := countWithin_utf8EncodeChar letter
      have single : decodeText (first :: more) = some [letter] := by
        rw [← octets]
        have encoded : encodeText [letter] = String.utf8EncodeChar letter := List.append_nil _
        rw [← encoded, decodeText_encodeText]
      have whole : encodeText (letter :: rest) = first :: (more ++ encodeText rest) := by
        rw [encodeText, List.flatMap_cons, octets]
        rfl
      rw [whole, decodeReplace, taken, List.take_left, List.drop_left, single, ih]
      rfl

end Library
