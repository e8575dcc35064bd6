import Blockhost.Minecraft.JavaPing
import Blockhost.Database.Identifiers
import Blockhost.Services.GameProxy

/-! The packet with which the game proxy turns a player of a suspended server away, against the
reader of the Server List Ping.
-/

namespace Blockhost.GameProxy

open Library

-- JSON texts

/-- What the message is made of. -/
inductive Component where
  | text (value : String)
  | list (items : List Component)
  | dict (entries : List (String × Component))

/-- `\uXXXX` -/
def escapedUnit (code : Nat) : List Char :=
  ['\x5c', 'u', Nat.digitChar (code / 4096 % 16), Nat.digitChar (code / 256 % 16),
    Nat.digitChar (code / 16 % 16), Nat.digitChar (code % 16)]

/-- A character of a quoted text; what is not printable ASCII is written as UTF-16 units. -/
def escaped (letter : Char) : List Char :=
  if letter = '\x22' then ['\x5c', '\x22']
  else if letter = '\x5c' then ['\x5c', '\x5c']
  else if letter = '\n' then ['\x5c', 'n']
  else if letter = '\r' then ['\x5c', 'r']
  else if letter = '\t' then ['\x5c', 't']
  else if letter = '\x0c' then ['\x5c', 'f']
  else if letter = '\x08' then ['\x5c', 'b']
  else if ' ' ≤ letter ∧ letter ≤ '~' then [letter]
  else if letter.toNat < 0x10000 then escapedUnit letter.toNat
  else
    let code := letter.toNat - 0x10000
    escapedUnit (0xd800 ||| (code >>> 10 &&& 0x3ff)) ++ escapedUnit (0xdc00 ||| (code &&& 0x3ff))

def quoted (value : String) : List Char :=
  '\x22' :: value.toList.flatMap escaped ++ ['\x22']

mutual

/-- `json.dumps` -/
def dumps : Component → List Char
  | .text value => quoted value
  | .list items => '[' :: [',', ' '].intercalate (dumpsItems items) ++ [']']
  | .dict entries => '\x7b' :: [',', ' '].intercalate (dumpsEntries entries) ++ ['\x7d']

def dumpsItems : List Component → List (List Char)
  | [] => []
  | item :: rest => dumps item :: dumpsItems rest

def dumpsEntries : List (String × Component) → List (List Char)
  | [] => []
  | (key, value) :: rest => (quoted key ++ [':', ' '] ++ dumps value) :: dumpsEntries rest

end

-- Packets

/-- The loop of `encode_varint`, after the octets encoded so far. -/
def encodeVarintLoop (value : Nat) (encoded : Octets) : Octets :=
  let temp := value &&& 0x7F
  let value' := value >>> 7
  let temp := if value' ≠ 0 then temp ||| 0x80 else temp
  let encoded := encoded ++ [UInt8.ofNat temp]
  if value' = 0 then encoded else encodeVarintLoop value' encoded
termination_by value
decreasing_by
  rename_i more
  have more : ¬ value >>> 7 = 0 := more
  omega

def encodeVarint (value : Nat) : Octets := encodeVarintLoop value []

def encodeString (value : List Char) : Octets :=
  let encoded := encodeText value
  encodeVarint encoded.length ++ encoded

/-- The packet of a JSON text: its identifier is 0. -/
def packet (text : List Char) : Octets :=
  let payload := 0 :: encodeString text
  encodeVarint payload.length ++ payload

/-- The message of `_handle_tcp_client` for a suspended server. -/
def message (route : RouteTarget) : Component :=
  let path := "panel.blockhost.app/servers/" ++ uuidText route.serverId
  .dict [
    ("text", .text ""),
    ("extra", .list [
      .dict [
        ("text", .text "Server is waking up!\nClick here to view progress: "),
        ("color", .text "yellow")],
      .dict [
        ("text", .text path),
        ("color", .text "aqua"),
        ("clickEvent", .dict [
          ("action", .text "open_url"),
          ("value", .text ("https://" ++ path))]),
        ("hoverEvent", .dict [
          ("action", .text "show_text"),
          ("value", .text "Click to open panel")])]])]

def disconnectPacket (route : RouteTarget) : Octets := packet (dumps (message route))

/-- The packet announces as many octets as follow, and is a response with just this text. -/
def DecodesTo (text : List Char) (packet : Octets) : Prop :=
  (∃ payload, JavaPing.readVarint packet = some (payload.length, payload))
  ∧ JavaPing.readResponse packet = some (text, [])

-- Agreement

/-- The loop writes the groups of the number, by induction along it. -/
theorem encodeVarintLoop_eq (value : Nat) (encoded : Octets)
    : encodeVarintLoop value encoded = encoded ++ groups value := by
  induction value using Nat.strong_induction_on generalizing encoded with
  | _ value ih =>
      have shifted : value >>> 7 = value / 128 := Nat.shiftRight_eq_div_pow value 7
      have low := Nat.mod_lt value (show 0 < 128 by omega)
      rw [encodeVarintLoop]
      simp only [JavaPing.low_bits, shifted]
      by_cases small : value < 128
      · rw [if_pos (by omega), if_neg (by omega), groups_of_lt small, Nat.mod_eq_of_lt small]
      · rw [if_neg (by omega), if_pos (by omega), ih _ (by omega),
          groups_of_le (Nat.not_lt.mp small), JavaPing.with_high_bit low, List.append_assoc,
          List.singleton_append]

theorem encodeVarint_eq (value : Nat) : encodeVarint value = groups value :=
  encodeVarintLoop_eq value []

theorem encodeString_eq (text : List Char) : encodeString text = JavaPing.writeString text := by
  rw [encodeString, JavaPing.writeString, encodeVarint_eq, JavaPing.writeVarint_eq]

theorem packet_eq (text : List Char)
    : packet text
      = groups ((encodeString text).length + 1)
        ++ (groups 0 ++ (groups (encodeText text).length ++ encodeText text)) := by
  have zero : groups 0 = [0] := groups_of_lt (by omega)
  rw [packet, encodeVarint_eq, encodeString, encodeVarint_eq, zero]
  rfl

theorem decodes_packet {text : List Char} (fits : (encodeString text).length + 1 < 2 ^ 35)
    : DecodesTo text (packet text) := by
  have shorter : (encodeText text).length < 2 ^ 35 := by
    rw [encodeString, List.length_append] at fits
    omega
  rw [DecodesTo, packet_eq]
  refine ⟨⟨0 :: encodeString text, ?_⟩, ?_⟩
  · have payload : groups 0 ++ (groups (encodeText text).length ++ encodeText text)
        = 0 :: encodeString text := by
      have zero : groups 0 = [0] := groups_of_lt (by omega)
      rw [encodeString, encodeVarint_eq, zero]
      rfl
    rw [JavaPing.readVarint_groups fits, payload, List.length_cons]
  · have whole : JavaPing.readexactly (encodeText text).length (encodeText text)
        = some (encodeText text, []) := by
      have read := JavaPing.readexactly_append (encodeText text) []
      rwa [List.append_nil] at read
    simp [JavaPing.readResponse, JavaPing.readVarint_groups fits,
      JavaPing.readVarint_groups (show 0 < 2 ^ 35 by decide), JavaPing.readVarint_groups shorter,
      whole]

theorem packet_fits {text : List Char} {payload : Octets}
    (read : JavaPing.readVarint (packet text) = some (payload.length, payload))
    : (encodeString text).length + 1 < 2 ^ 35 := by
  have power : (128 : Nat) ^ 5 = 2 ^ 35 := by decide
  have announced := JavaPing.readVarint_lt read
  rw [JavaPing.readVarint_eq] at read
  have taken := length_le_of_readGroups read
  rw [packet, encodeVarint_eq, List.length_append, List.length_cons] at taken
  by_contra long
  have few : (groups ((encodeString text).length + 1)).length ≤ 5 := by omega
  have bounded := lt_of_lt_of_le (lt_pow_length_groups ((encodeString text).length + 1))
    (Nat.pow_le_pow_right (show 0 < 128 by omega) few)
  omega

-- Sizes

theorem length_escaped_le (letter : Char) : (escaped letter).length ≤ 12 := by
  unfold escaped
  repeat' split
  all_goals simp [escapedUnit]

theorem length_quoted_le (value : String)
    : (quoted value).length ≤ 12 * value.toList.length + 2 := by
  have body : (value.toList.flatMap escaped).length ≤ 12 * value.toList.length := by
    induction value.toList with
    | nil => rfl
    | cons letter rest ih =>
        have first := length_escaped_le letter
        rw [List.flatMap_cons, List.length_append, List.length_cons]
        omega
  rw [quoted, List.cons_append, List.length_cons, List.length_append, List.length_singleton]
  omega

theorem length_dumps_message_lt (route : RouteTarget)
    : (dumps (message route)).length < 2 ^ 20 := by
  have constants : ∀ value ∈ ["text", "", "extra",
      "Server is waking up!\nClick here to view progress: ", "color", "yellow", "aqua",
      "clickEvent", "action", "open_url", "value", "hoverEvent", "show_text",
      "Click to open panel"], (quoted value).length ≤ 1202 := by
    intro value member
    have short : ∀ value ∈ ["text", "", "extra",
        "Server is waking up!\nClick here to view progress: ", "color", "yellow", "aqua",
        "clickEvent", "action", "open_url", "value", "hoverEvent", "show_text",
        "Click to open panel"], value.toList.length ≤ 100 := by decide
    have bounded := length_quoted_le value
    have few := short value member
    omega
  have identifier := length_uuidText_le route.serverId
  have link := length_quoted_le ("panel.blockhost.app/servers/" ++ uuidText route.serverId)
  have url :=
    length_quoted_le ("https://" ++ ("panel.blockhost.app/servers/" ++ uuidText route.serverId))
  have host : "panel.blockhost.app/servers/".toList.length = 28 := by decide
  have scheme : "https://".toList.length = 8 := by decide
  simp only [String.toList_append, List.length_append] at link url
  simp only [List.forall_mem_cons] at constants
  simp only [message, dumps, dumpsItems, dumpsEntries, List.intercalate, List.intersperse,
    List.flatten, List.append_eq, List.length_append, List.length_cons, List.length_nil]
  omega

-- Every packet

/-- Both implementations write the same numbers and texts, and the reader takes a number off
the stream; a packet decodes to its text exactly if its prefix can hold its length, as that of
every route's message does.
-/
theorem packet_framing_agrees
    : (∀ value < 2 ^ 31, ∀ rest,
        encodeVarint value = JavaPing.writeVarint value
        ∧ JavaPing.readVarint (encodeVarint value ++ rest) = some (value, rest))
      ∧ (∀ text, encodeString text = JavaPing.writeString text)
      ∧ (∀ text, DecodesTo text (packet text) ↔ (encodeString text).length + 1 < 2 ^ 35)
      ∧ ∀ route, DecodesTo (dumps (message route)) (disconnectPacket route) := by
  refine ⟨?_, encodeString_eq, ?_, ?_⟩
  · intro value small rest
    have fits : value < 2 ^ 35 := lt_trans small (by decide)
    rw [encodeVarint_eq]
    exact ⟨(JavaPing.writeVarint_eq value).symm, JavaPing.readVarint_groups fits rest⟩
  · intro text
    refine ⟨?_, decodes_packet⟩
    rintro ⟨⟨payload, read⟩, -⟩
    exact packet_fits read
  · intro route
    have short := length_dumps_message_lt route
    have bytes := length_encodeText_le (dumps (message route))
    have counted := length_groups_le 4
      (show (encodeText (dumps (message route))).length < 128 ^ 5 by omega)
    refine decodes_packet ?_
    rw [encodeString, encodeVarint_eq, List.length_append]
    omega

theorem three_hundred_is_framed
    : encodeVarint 300 = JavaPing.writeVarint 300
      ∧ JavaPing.readVarint (encodeVarint 300 ++ [7]) = some (300, [7]) :=
  packet_framing_agrees.1 300 (by decide) [7]

end Blockhost.GameProxy
