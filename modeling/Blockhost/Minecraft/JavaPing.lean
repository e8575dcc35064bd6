import Blockhost.Library.Octets
import Mathlib.Data.List.TakeDrop

/-! The Server List Ping of the Java edition: numbers and texts on the wire, and how a response
is read. A stream is what the peer still sends before it closes.
-/

namespace Blockhost.JavaPing

open Library

/-- The loop of `write_varint`, after the octets written so far. -/
def writeVarintLoop (val : Nat) (out : Octets) : Octets :=
  let byte := val &&& 0x7F
  let left := val >>> 7
  if left ≠ 0 then writeVarintLoop left (out ++ [UInt8.ofNat (byte ||| 0x80)])
  else out ++ [UInt8.ofNat byte]
termination_by val
decreasing_by
  rename_i more
  have more : val >>> 7 ≠ 0 := more
  omega

def writeVarint (val : Nat) : Octets := writeVarintLoop val []

/-- `readexactly`, which raises when the peer closes before. -/
def readexactly (count : Nat) (stream : Octets) : Option (Octets × Octets) :=
  if count ≤ stream.length then some (stream.take count, stream.drop count) else none

/-- The loop of `read_varint` from its round `i` on. -/
def readVarintLoop : Nat → Nat → Nat → Octets → Option (Nat × Octets)
  | 0, _, val, stream => some (val, stream)
  | _ + 1, _, _, [] => none
  | rounds + 1, i, val, b :: stream =>
      let val := val ||| ((b.toNat &&& 0x7F) <<< (7 * i))
      if b.toNat &&& 0x80 = 0 then some (val, stream)
      else readVarintLoop rounds (i + 1) val stream

def readVarint (stream : Octets) : Option (Nat × Octets) := readVarintLoop 5 0 0 stream

def writeString (val : List Char) : Octets :=
  let b := encodeText val
  writeVarint b.length ++ b

/-- The response of `java_server_ping` up to its JSON text, and what is left of the stream. -/
def readResponse (stream : Octets) : Option (List Char × Octets) := do
  let (_length, stream) ← readVarint stream
  let (packetId, stream) ← readVarint stream
  if packetId ≠ 0 then none
  let (jsonLen, stream) ← readVarint stream
  let (data, stream) ← readexactly jsonLen stream
  let text ← decodeText data
  return (text, stream)

-- Numbers

theorem low_bits (value : Nat) : value &&& 0x7F = value % 128 :=
  Nat.and_two_pow_sub_one_eq_mod value 7

theorem with_high_bit {value : Nat} (small : value < 128) : value ||| 0x80 = value + 128 := by
  have joined : 128 + value = 128 ||| value := Nat.two_pow_add_eq_or_of_lt (i := 7) small 1
  rw [Nat.or_comm]
  omega

theorem no_high_bit_iff {value : Nat} (byte : value < 256)
    : value &&& 0x80 = 0 ↔ value < 128 := by
  have masked : value &&& 0x80 = (value.testBit 7).toNat * 128 := Nat.and_two_pow value 7
  have bit : value.testBit 7 = decide (value / 128 % 2 = 1) := Nat.testBit_eq_decide_div_mod_eq
  rw [masked, bit]
  by_cases small : value < 128
  · have none : ¬ value / 128 % 2 = 1 := by omega
    simp [none, small]
  · have one : value / 128 % 2 = 1 := by omega
    simp [one, small]

/-- The loop writes the groups of the number, by induction along it. -/
theorem writeVarintLoop_eq (val : Nat) (out : Octets)
    : writeVarintLoop val out = out ++ groups val := by
  induction val using Nat.strong_induction_on generalizing out with
  | _ val ih =>
      have shifted : val >>> 7 = val / 128 := Nat.shiftRight_eq_div_pow val 7
      have low := Nat.mod_lt val (show 0 < 128 by omega)
      rw [writeVarintLoop]
      simp only [low_bits, shifted]
      by_cases small : val < 128
      · rw [if_neg (by omega), groups_of_lt small, Nat.mod_eq_of_lt small]
      · rw [if_pos (by omega), ih _ (by omega), groups_of_le (Nat.not_lt.mp small),
          with_high_bit low, List.append_assoc, List.singleton_append]

theorem writeVarint_eq (val : Nat) : writeVarint val = groups val := writeVarintLoop_eq val []

/-- The loop adds what it reads above the bits it has, by induction on the rounds left. -/
theorem readVarintLoop_eq (rounds i val : Nat) (stream : Octets) (fits : val < 2 ^ (7 * i))
    : readVarintLoop rounds i val stream
      = (readGroups rounds stream).map (fun read => (val + 2 ^ (7 * i) * read.1, read.2)) := by
  induction rounds generalizing i val stream with
  | zero => simp [readVarintLoop, readGroups]
  | succ rounds ih =>
      cases stream with
      | nil => rfl
      | cons b stream =>
          have joined : val ||| ((b.toNat % 128) <<< (7 * i))
              = val + 2 ^ (7 * i) * (b.toNat % 128) := by
            rw [Nat.shiftLeft_eq, Nat.mul_comm, Nat.or_comm,
              ← Nat.two_pow_add_eq_or_of_lt fits, Nat.add_comm]
          have power : 2 ^ (7 * (i + 1)) = 2 ^ (7 * i) * 128 := by
            rw [Nat.mul_add, Nat.pow_add]
          rw [readVarintLoop, readGroups]
          simp only [low_bits, joined, no_high_bit_iff b.toNat_lt]
          by_cases last : b.toNat < 128
          · rw [if_pos last, if_pos last, Nat.mod_eq_of_lt last, Option.map_some]
          · have below := Nat.mod_lt b.toNat (show 0 < 128 by omega)
            have fitsNext : val + 2 ^ (7 * i) * (b.toNat % 128) < 2 ^ (7 * (i + 1)) := by
              calc val + 2 ^ (7 * i) * (b.toNat % 128)
                  < 2 ^ (7 * i) * 1 + 2 ^ (7 * i) * (b.toNat % 128) := by omega
                _ = 2 ^ (7 * i) * (1 + b.toNat % 128) := by rw [Nat.mul_add]
                _ ≤ 2 ^ (7 * i) * 128 := Nat.mul_le_mul_left _ (by omega)
                _ = 2 ^ (7 * (i + 1)) := power.symm
            rw [if_neg last, if_neg last, ih _ _ _ fitsNext, Option.map_map]
            congr 1
            funext read
            simp only [Function.comp_apply]
            rw [power, Nat.mul_add, Nat.mul_assoc, Nat.add_assoc]

theorem readVarint_eq (stream : Octets) : readVarint stream = readGroups 5 stream := by
  have read := readVarintLoop_eq 5 0 0 stream (by decide)
  have same : (fun read : Nat × Octets => (0 + 2 ^ (7 * 0) * read.1, read.2)) = id := by
    funext read
    simp
  rw [readVarint, read, same, Option.map_id_fun, id]

theorem readVarint_groups {val : Nat} (fits : val < 2 ^ 35) (rest : Octets)
    : readVarint (groups val ++ rest) = some (val, rest) := by
  have power : (128 : Nat) ^ 5 = 2 ^ 35 := by decide
  rw [readVarint_eq, readGroups_groups 4 (by rwa [power])]

theorem readVarint_lt {stream rest : Octets} {val : Nat}
    (read : readVarint stream = some (val, rest))
    : val < 2 ^ 35 := by
  have power : (128 : Nat) ^ 5 = 2 ^ 35 := by decide
  rw [readVarint_eq] at read
  rw [← power]
  exact readGroups_lt read

-- Texts

theorem readexactly_append (data rest : Octets)
    : readexactly data.length (data ++ rest) = some (data, rest) := by
  rw [readexactly, if_pos (by rw [List.length_append]; omega), List.take_left, List.drop_left]

end Blockhost.JavaPing
