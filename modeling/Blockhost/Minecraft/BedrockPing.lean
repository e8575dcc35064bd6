import Blockhost.Library.Octets
import Blockhost.Library.Numerals

/-! The pong of a Bedrock server: how its payload is parsed, and how the game proxy writes its
own port into it.
-/

namespace Blockhost.BedrockPing

open Library

-- Payloads

inductive PongValue where
  | missing
  | text (value : List Char)
  | number (value : Int)
deriving DecidableEq, Repr

/-- `value or None` -/
def orMissing (value : List Char) : PongValue := if value = [] then .missing else .text value

/-- `_to_int` -/
def toInt (value : List Char) : PongValue :=
  match parseInt value with
  | some number => .number number
  | none => .missing

/-- An entry for a part that a payload need not have. -/
def entryOf (parts : List (List Char)) (index : Nat) (name : String)
    (read : List Char → PongValue)
    : List (String × PongValue) :=
  if index < parts.length then [(name, read (parts.getD index []))] else []

/-- `parse_bedrock_pong_payload`: the entries in order. -/
def parseBedrockPongPayload (payload : List Char) : List (String × PongValue) :=
  let parts := payload.splitOn ';'
  if parts.length < 6 then [("raw", .text payload)]
  else
    [("edition", orMissing (parts.getD 0 [])),
      ("motd", orMissing (parts.getD 1 [])),
      ("protocol", toInt (parts.getD 2 [])),
      ("version", orMissing (parts.getD 3 [])),
      ("players_online", toInt (parts.getD 4 [])),
      ("players_max", toInt (parts.getD 5 []))]
    ++ entryOf parts 6 "server_id" toInt
    ++ entryOf parts 7 "motd2" orMissing
    ++ entryOf parts 8 "gamemode" orMissing
    ++ entryOf parts 10 "port_v4" toInt
    ++ entryOf parts 11 "port_v6" toInt

-- Ports

def unconnectedPong : UInt8 := 0x1C

def headerLen : Nat := 1 + 8 + 8 + 16

/-- `struct.pack(">H", value)`, which raises when the value does not fit. -/
def packHalf (value : Nat) : Option Octets :=
  if value < 65536 then some (bigEndian 2 value) else none

def editions : List (List Char) := ["MCPE".toList, "MCEE".toList]

def setPorts (advertisedPort : Nat) (parts : List (List Char)) : List (List Char) :=
  let portStr := (toString advertisedPort).toList
  let parts := parts.set 10 portStr
  if 12 ≤ parts.length then parts.set 11 portStr else parts

/-- `rewrite_bedrock_pong_ports`, unless it raises. -/
def rewriteBedrockPongPorts (data : Octets) (advertisedPort : Nat) : Option Octets :=
  if data.head? ≠ some unconnectedPong then some data
  else if data.length < headerLen + 2 then some data
  else
    let payloadLen := fromBigEndian ((data.drop headerLen).take 2)
    let payloadStart := headerLen + 2
    let payloadEnd := payloadStart + payloadLen
    if data.length < payloadEnd then some data
    else
      match decodeText ((data.drop payloadStart).take payloadLen) with
      | none => some data
      | some payload =>
          let parts := payload.splitOn ';'
          if parts.length < 11 ∨ parts.getD 0 [] ∉ editions then some data
          else
            let newPayload := encodeText ([';'].intercalate (setPorts advertisedPort parts))
            (packHalf newPayload.length).map (fun length =>
              data.take headerLen ++ length ++ newPayload ++ data.drop payloadEnd)

structure Pong where
  header : Octets
  text : List Char
  trailing : Octets
  unconnected : header.head? = some unconnectedPong
  complete : header.length = headerLen
  counted : (encodeText text).length < 65536

namespace Pong

/-- The octets of a pong: its payload comes after the payload's length. -/
def packet (pong : Pong) : Octets :=
  pong.header
  ++ (bigEndian 2 (encodeText pong.text).length ++ (encodeText pong.text ++ pong.trailing))

def fields (pong : Pong) : List (List Char) := pong.text.splitOn ';'

def Advertises (pong : Pong) : Prop :=
  11 ≤ pong.fields.length ∧ pong.fields.getD 0 [] ∈ editions

end Pong

-- Parts

theorem setPorts_eq (port : Nat) (parts : List (List Char))
    : setPorts port parts
      = (parts.set 10 (toString port).toList).set 11 (toString port).toList := by
  simp only [setPorts]
  by_cases long : 12 ≤ (parts.set 10 (toString port).toList).length
  · rw [if_pos long]
  · rw [if_neg long, List.set_eq_of_length_le (Nat.not_lt.mp long)]

theorem length_setPorts (port : Nat) (parts : List (List Char))
    : (setPorts port parts).length = parts.length := by
  rw [setPorts_eq, List.length_set, List.length_set]

theorem getElem?_setPorts {port index : Nat} {parts : List (List Char)}
    (notFirst : index ≠ 10) (notSecond : index ≠ 11)
    : (setPorts port parts)[index]? = parts[index]? := by
  rw [setPorts_eq, List.getElem?_set_ne (Ne.symm notSecond), List.getElem?_set_ne notFirst.symm]

theorem getD_setPorts {port index : Nat} {parts : List (List Char)}
    (notFirst : index ≠ 10) (notSecond : index ≠ 11)
    : (setPorts port parts).getD index [] = parts.getD index [] := by
  rw [List.getD_eq_getElem?_getD, List.getD_eq_getElem?_getD,
    getElem?_setPorts notFirst notSecond]

theorem getD_setPorts_port {port index : Nat} {parts : List (List Char)}
    (isPort : index = 10 ∨ index = 11) (given : index < parts.length)
    : (setPorts port parts).getD index [] = (toString port).toList := by
  rw [setPorts_eq, List.getD_eq_getElem?_getD]
  rcases isPort with rfl | rfl
  · rw [List.getElem?_set_ne (by omega), List.getElem?_set_self given, Option.getD_some]
  · rw [List.getElem?_set_self (by rwa [List.length_set]), Option.getD_some]

theorem setPorts_setPorts (port : Nat) (parts : List (List Char))
    : setPorts port (setPorts port parts) = setPorts port parts := by
  rw [setPorts_eq, setPorts_eq, List.set_comm _ _ (by omega), List.set_set,
    List.set_comm _ _ (by omega), List.set_set]

theorem semicolon_not_mem_port (port : Nat) : ';' ∉ (toString port).toList := by
  intro inside
  have written : (toString port).toList = Nat.toDigits 10 port := Nat.toList_repr
  rw [written] at inside
  have digit : (';').isDigit = true :=
    Nat.isDigit_of_mem_toDigits (b := 10) (by omega) (by omega) inside
  exact absurd digit (by decide)

theorem splitOn_setPorts (port : Nat) (payload : List Char)
    : ([';'].intercalate (setPorts port (payload.splitOn ';'))).splitOn ';'
      = setPorts port (payload.splitOn ';') := by
  refine List.splitOn_intercalate ';' ?_ ?_
  · intro part member
    rw [setPorts_eq] at member
    rcases List.mem_or_eq_of_mem_set member with member | rfl
    · rcases List.mem_or_eq_of_mem_set member with member | rfl
      · exact not_mem_of_mem_splitOn member
      · exact semicolon_not_mem_port port
    · exact semicolon_not_mem_port port
  · intro empty
    have none := congrArg List.length empty
    rw [length_setPorts, List.length_nil, List.length_eq_zero_iff] at none
    exact List.splitOn_ne_nil ';' payload none

/-- A part that is set makes the text longer by at most that part, by induction on the place.
-/
theorem length_joined_set_le (parts : List (List Char)) (index : Nat) (part : List Char)
    : (encodeText ([';'].intercalate (parts.set index part))).length
      ≤ (encodeText ([';'].intercalate parts)).length + (encodeText part).length := by
  induction parts generalizing index with
  | nil => exact Nat.le_add_right _ _
  | cons first rest ih =>
      cases index with
      | zero =>
          rw [List.set_cons_zero]
          cases rest with
          | nil =>
              rw [List.intercalate_singleton]
              exact Nat.le_add_left _ _
          | cons next rest =>
              rw [List.intercalate_cons_cons, List.intercalate_cons_cons]
              simp only [encodeText_append, List.length_append]
              omega
      | succ index =>
          rw [List.set_cons_succ]
          cases rest with
          | nil => exact Nat.le_add_right _ _
          | cons next rest =>
              have shorter := ih index
              have filled : (next :: rest).set index part ≠ [] := by
                intro empty
                exact absurd (congrArg List.length empty) (by simp)
              rw [List.intercalate_cons_of_ne_nil filled, List.intercalate_cons_cons]
              simp only [encodeText_append, List.length_append]
              omega

theorem length_port_le {port : Nat} (bounded : port < 65536)
    : (encodeText (toString port).toList).length ≤ 20 := by
  have bytes := length_encodeText_le (toString port).toList
  have written : (toString port).toList = Nat.toDigits 10 port := Nat.toList_repr
  have digits : (Nat.toDigits 10 port).length ≤ 5 :=
    (Nat.length_toDigits_le_iff (by omega) (by omega)).mpr (by omega)
  rw [← written] at digits
  omega

theorem length_payload_le {port : Nat} (bounded : port < 65536) (payload : List Char)
    : (encodeText ([';'].intercalate (setPorts port (payload.splitOn ';')))).length
      ≤ (encodeText payload).length + 40 := by
  have first := length_joined_set_le (payload.splitOn ';') 10 (toString port).toList
  have second := length_joined_set_le ((payload.splitOn ';').set 10 (toString port).toList) 11
    (toString port).toList
  have digits := length_port_le bounded
  rw [List.intercalate_splitOn] at first
  rw [setPorts_eq]
  omega

-- Entries

def advertise (port : Nat) (entry : String × PongValue) : String × PongValue :=
  if entry.1 = "port_v4" ∨ entry.1 = "port_v6" then (entry.1, .number port) else entry

theorem toInt_port {port : Nat} (bounded : port < 65536)
    : toInt (toString port).toList = .number port := by
  have written : (toString port).toList = Nat.toDigits 10 port := Nat.toList_repr
  have digits : (Nat.toDigits 10 port).length ≤ 5 :=
    (Nat.length_toDigits_le_iff (by omega) (by omega)).mpr (by omega)
  have short : (Nat.toDigits 10 port).length ≤ maxStrDigits := Nat.le_trans digits (by decide)
  rw [toInt, written, parseInt_toDigits short]

theorem advertise_other {port : Nat} {name : String} {value : PongValue}
    (other : ¬ (name = "port_v4" ∨ name = "port_v6"))
    : advertise port (name, value) = (name, value) :=
  if_neg other

theorem entryOf_setPorts {port index : Nat} {parts : List (List Char)} {name : String}
    {read : List Char → PongValue} (other : ¬ (name = "port_v4" ∨ name = "port_v6"))
    (notFirst : index ≠ 10) (notSecond : index ≠ 11)
    : entryOf (setPorts port parts) index name read
      = (entryOf parts index name read).map (advertise port) := by
  rw [entryOf, entryOf, length_setPorts, getD_setPorts notFirst notSecond]
  by_cases given : index < parts.length
  · rw [if_pos given, List.map_singleton, advertise_other other]
  · rw [if_neg given, List.map_nil]

theorem entryOf_port {port index : Nat} {parts : List (List Char)} {name : String}
    (bounded : port < 65536) (isPort : index = 10 ∨ index = 11)
    (named : name = "port_v4" ∨ name = "port_v6")
    : entryOf (setPorts port parts) index name toInt
      = (entryOf parts index name toInt).map (advertise port) := by
  rw [entryOf, entryOf, length_setPorts]
  by_cases given : index < parts.length
  · rw [if_pos given, if_pos given, getD_setPorts_port isPort given, toInt_port bounded,
      List.map_singleton, advertise, if_pos named]
  · rw [if_neg given, if_neg given, List.map_nil]

theorem parse_setPorts {port : Nat} (bounded : port < 65536) {payload : List Char}
    (long : 6 ≤ (payload.splitOn ';').length)
    : parseBedrockPongPayload ([';'].intercalate (setPorts port (payload.splitOn ';')))
      = (parseBedrockPongPayload payload).map (advertise port) := by
  have short : ¬ (payload.splitOn ';').length < 6 := by omega
  simp only [parseBedrockPongPayload, splitOn_setPorts, length_setPorts]
  rw [if_neg short, if_neg short]
  simp only [List.map_append, List.map_cons, List.map_nil]
  rw [entryOf_port bounded (.inl rfl) (.inl rfl), entryOf_port bounded (.inr rfl) (.inr rfl),
    entryOf_setPorts (by decide) (by omega) (by omega),
    entryOf_setPorts (by decide) (by omega) (by omega),
    entryOf_setPorts (by decide) (by omega) (by omega)]
  rw [advertise_other (by decide), advertise_other (by decide), advertise_other (by decide),
    advertise_other (by decide), advertise_other (by decide), advertise_other (by decide)]
  rw [getD_setPorts (by omega) (by omega), getD_setPorts (by omega) (by omega),
    getD_setPorts (by omega) (by omega), getD_setPorts (by omega) (by omega),
    getD_setPorts (by omega) (by omega), getD_setPorts (by omega) (by omega)]

-- Packets

namespace Pong

variable {port : Nat}

theorem length_packet (pong : Pong)
    : pong.packet.length
      = headerLen + 2 + (encodeText pong.text).length + pong.trailing.length := by
  rw [packet, List.length_append, List.length_append, List.length_append, length_bigEndian,
    pong.complete]
  omega

theorem parts_packet (pong : Pong)
    : pong.packet.head? = some unconnectedPong
      ∧ pong.packet.take headerLen = pong.header
      ∧ fromBigEndian ((pong.packet.drop headerLen).take 2) = (encodeText pong.text).length
      ∧ (pong.packet.drop (headerLen + 2)).take (encodeText pong.text).length
        = encodeText pong.text
      ∧ pong.packet.drop (headerLen + 2 + (encodeText pong.text).length) = pong.trailing := by
  have front : pong.packet.drop headerLen
      = bigEndian 2 (encodeText pong.text).length
        ++ (encodeText pong.text ++ pong.trailing) := by
    rw [packet, ← pong.complete, List.drop_left]
  have behind : pong.packet.drop (headerLen + 2) = encodeText pong.text ++ pong.trailing := by
    rw [← List.drop_drop, front]
    exact List.drop_left' (length_bigEndian 2 _)
  refine ⟨?_, ?_, ?_, ?_, ?_⟩
  · rw [packet, List.head?_append, pong.unconnected]
    rfl
  · rw [packet, ← pong.complete, List.take_left]
  · have counted : (256 : Nat) ^ 2 = 65536 := by decide
    rw [front, List.take_left' (length_bigEndian 2 _), fromBigEndian_bigEndian, counted,
      Nat.mod_eq_of_lt pong.counted]
  · rw [behind, List.take_left]
  · rw [← List.drop_drop, behind, List.drop_left]

def withPorts (pong : Pong) (port : Nat)
    (fits : (encodeText ([';'].intercalate (setPorts port pong.fields))).length < 65536)
    : Pong :=
  { pong with
    text := [';'].intercalate (setPorts port pong.fields)
    counted := fits }

theorem fields_withPorts {pong : Pong}
    (fits : (encodeText ([';'].intercalate (setPorts port pong.fields))).length < 65536)
    : (pong.withPorts port fits).fields = setPorts port pong.fields :=
  splitOn_setPorts port pong.text

end Pong

theorem rewrite_packet (pong : Pong) (port : Nat)
    : rewriteBedrockPongPorts pong.packet port
      = if pong.fields.length < 11 ∨ pong.fields.getD 0 [] ∉ editions then some pong.packet
        else
          let newPayload := encodeText ([';'].intercalate (setPorts port pong.fields))
          (packHalf newPayload.length).map (fun length =>
            pong.header ++ length ++ newPayload ++ pong.trailing) := by
  obtain ⟨identifier, header, counted, payload, trailing⟩ := pong.parts_packet
  have long := pong.length_packet
  have whole : ¬ pong.packet.length < headerLen + 2 := by omega
  have complete : ¬ pong.packet.length < headerLen + 2 + (encodeText pong.text).length := by
    omega
  rw [rewriteBedrockPongPorts, if_neg (not_not.mpr identifier), if_neg whole]
  simp only [header, counted, payload, trailing, decodeText_encodeText]
  rw [if_neg complete]
  rfl

theorem rewrite_packet_of_not {pong : Pong} {port : Nat} (plain : ¬ pong.Advertises)
    : rewriteBedrockPongPorts pong.packet port = some pong.packet := by
  rw [rewrite_packet, if_pos]
  by_contra ported
  obtain ⟨long, edition⟩ := not_or.mp ported
  exact plain ⟨Nat.not_lt.mp long, not_not.mp edition⟩

theorem rewrite_packet_of_advertises {pong : Pong} {port : Nat} (ported : pong.Advertises)
    (fits : (encodeText ([';'].intercalate (setPorts port pong.fields))).length < 65536)
    : rewriteBedrockPongPorts pong.packet port = some (pong.withPorts port fits).packet := by
  have parted : ¬ (pong.fields.length < 11 ∨ pong.fields.getD 0 [] ∉ editions) :=
    not_or.mpr ⟨Nat.not_lt.mpr ported.1, not_not.mpr ported.2⟩
  have packed : packHalf (encodeText ([';'].intercalate (setPorts port pong.fields))).length
      = some (bigEndian 2 (encodeText ([';'].intercalate (setPorts port pong.fields))).length) :=
    if_pos fits
  rw [rewrite_packet, if_neg parted]
  simp only [packed, Option.map_some, List.append_assoc]
  rfl

theorem advertises_withPorts {pong : Pong} {port : Nat} (ported : pong.Advertises)
    (fits : (encodeText ([';'].intercalate (setPorts port pong.fields))).length < 65536)
    : (pong.withPorts port fits).Advertises := by
  rw [Pong.Advertises, Pong.fields_withPorts, length_setPorts,
    getD_setPorts (by omega) (by omega)]
  exact ported

theorem exists_pong {data : Octets} {payload : List Char}
    (identifier : data.head? = some unconnectedPong) (long : headerLen + 2 ≤ data.length)
    (complete
      : headerLen + 2 + fromBigEndian ((data.drop headerLen).take 2) ≤ data.length)
    (decoded : decodeText ((data.drop (headerLen + 2)).take
      (fromBigEndian ((data.drop headerLen).take 2))) = some payload)
    : ∃ pong : Pong, pong.packet = data := by
  have bytes := decodeText_eq_some_iff.mp decoded
  have two : ((data.drop headerLen).take 2).length = 2 := by
    rw [List.length_take, List.length_drop]
    omega
  have counted := fromBigEndian_lt ((data.drop headerLen).take 2)
  have size : (encodeText payload).length = fromBigEndian ((data.drop headerLen).take 2) := by
    rw [← bytes, List.length_take, List.length_drop]
    omega
  have written : bigEndian 2 (encodeText payload).length = (data.drop headerLen).take 2 := by
    have back := bigEndian_fromBigEndian ((data.drop headerLen).take 2)
    rwa [two, ← size] at back
  rw [two] at counted
  refine ⟨{
    header := data.take headerLen
    text := payload
    trailing := data.drop (headerLen + 2 + fromBigEndian ((data.drop headerLen).take 2))
    unconnected := ?_
    complete := ?_
    counted := by rw [size]; omega }, ?_⟩
  · cases data with
    | nil => exact absurd identifier (by simp)
    | cons first rest => exact identifier
  · rw [List.length_take]
    omega
  · have trailing : data.drop (headerLen + 2 + fromBigEndian ((data.drop headerLen).take 2))
        = (data.drop (headerLen + 2)).drop (fromBigEndian ((data.drop headerLen).take 2)) :=
      List.drop_drop.symm
    have payloadOn : data.drop (headerLen + 2) = (data.drop headerLen).drop 2 :=
      List.drop_drop.symm
    rw [Pong.packet]
    dsimp only
    rw [written, ← bytes, trailing, List.take_append_drop, payloadOn, List.take_append_drop,
      List.take_append_drop]

theorem rewrite_of_no_pong {data : Octets} {port : Nat}
    (noPong : ∀ pong : Pong, pong.packet ≠ data)
    : rewriteBedrockPongPorts data port = some data := by
  rw [rewriteBedrockPongPorts]
  by_cases identifier : data.head? = some unconnectedPong
  · by_cases short : data.length < headerLen + 2
    · rw [if_neg (not_not.mpr identifier), if_pos short]
    · rw [if_neg (not_not.mpr identifier), if_neg short]
      dsimp only
      by_cases cut : data.length < headerLen + 2 + fromBigEndian ((data.drop headerLen).take 2)
      · rw [if_pos cut]
      · rw [if_neg cut]
        cases decoded : decodeText ((data.drop (headerLen + 2)).take
            (fromBigEndian ((data.drop headerLen).take 2))) with
        | none => rfl
        | some payload =>
            obtain ⟨pong, packed⟩ :=
              exists_pong identifier (Nat.not_lt.mp short) (Nat.not_lt.mp cut) decoded
            exact absurd packed (noPong pong)
  · rw [if_pos identifier]

-- Every packet

theorem payload_fits {pong : Pong} {port : Nat} (datagram : pong.packet.length ≤ 65507)
    (bounded : port < 65536)
    : (encodeText ([';'].intercalate (setPorts port pong.fields))).length < 65536 := by
  have whole := pong.length_packet
  have grown := length_payload_le bounded pong.text
  have header : headerLen = 33 := rfl
  rw [Pong.fields]
  omega

theorem rewrite_withPorts {pong : Pong} {port : Nat} (ported : pong.Advertises)
    (fits : (encodeText ([';'].intercalate (setPorts port pong.fields))).length < 65536)
    : rewriteBedrockPongPorts (pong.withPorts port fits).packet port
      = some (pong.withPorts port fits).packet := by
  have same : setPorts port (pong.withPorts port fits).fields = setPorts port pong.fields := by
    rw [Pong.fields_withPorts, setPorts_setPorts]
  have fitsAgain
      : (encodeText ([';'].intercalate (setPorts port (pong.withPorts port fits).fields))).length
        < 65536 := by
    rwa [same]
  rw [rewrite_packet_of_advertises (advertises_withPorts ported fits) fitsAgain]
  simp only [Pong.packet, Pong.withPorts, Pong.fields, splitOn_setPorts, setPorts_setPorts]

/-- A datagram is rewritten without an error, and a second time to the same. Only a pong with
ports changes: its header with the magic and what comes after the payload stay, its length is
that of the new payload, each parsed port is the port given, and all other parts and entries
stay. A port is one on which the proxy listens.
-/
theorem pong_rewriting_changes_only_ports (data : Octets) (port : Nat)
    (datagram : data.length ≤ 65507) (bounded : port < 65536)
    : ∃ rewritten, rewriteBedrockPongPorts data port = some rewritten
      ∧ rewriteBedrockPongPorts rewritten port = some rewritten
      ∧ ((¬ ∃ pong : Pong, pong.packet = data ∧ pong.Advertises) → rewritten = data)
      ∧ ∀ pong : Pong, pong.packet = data → pong.Advertises →
          ∃ out : Pong, out.packet = rewritten
            ∧ out.header = pong.header ∧ out.trailing = pong.trailing
            ∧ out.fields.length = pong.fields.length
            ∧ (∀ index, index ≠ 10 → index ≠ 11 → out.fields[index]? = pong.fields[index]?)
            ∧ parseBedrockPongPayload out.text
              = (parseBedrockPongPayload pong.text).map (advertise port) := by
  by_cases ported : ∃ pong : Pong, pong.packet = data ∧ pong.Advertises
  · obtain ⟨pong, rfl, advertises⟩ := ported
    have fits := payload_fits datagram bounded
    have rewritten := rewrite_packet_of_advertises advertises fits
    refine ⟨(pong.withPorts port fits).packet, rewritten, rewrite_withPorts advertises fits,
      fun none => absurd ⟨pong, rfl, advertises⟩ none, ?_⟩
    intro other packed otherAdvertises
    have otherFits
        : (encodeText ([';'].intercalate (setPorts port other.fields))).length < 65536 :=
      payload_fits (by rwa [packed]) bounded
    have otherRewritten := rewrite_packet_of_advertises otherAdvertises otherFits
    rw [packed, rewritten] at otherRewritten
    have fields := other.fields_withPorts otherFits
    have long := otherAdvertises.1
    refine ⟨other.withPorts port otherFits, (Option.some.inj otherRewritten).symm, rfl, rfl,
      ?_, ?_, ?_⟩
    · rw [fields, length_setPorts]
    · intro index notFirst notSecond
      rw [fields, getElem?_setPorts notFirst notSecond]
    · exact parse_setPorts bounded (Nat.le_trans (by omega) long)
  · have unchanged : rewriteBedrockPongPorts data port = some data := by
      by_cases packed : ∃ pong : Pong, pong.packet = data
      · obtain ⟨pong, rfl⟩ := packed
        exact rewrite_packet_of_not (fun advertises => ported ⟨pong, rfl, advertises⟩)
      · exact rewrite_of_no_pong (fun pong same => packed ⟨pong, same⟩)
    exact ⟨data, unchanged, unchanged, fun _ => rfl,
      fun pong packed advertises => absurd ⟨pong, packed, advertises⟩ ported⟩

private def shopPong : Pong where
  header := unconnectedPong :: List.replicate 32 0
  text := "MCPE;shop;503;1.20;0;20;1;shop;Survival;1;19132;19133".toList
  trailing := [9]
  unconnected := rfl
  complete := rfl
  counted := by decide

theorem shop_pong_gets_the_port
    : ∃ out : Pong, rewriteBedrockPongPorts shopPong.packet 30001 = some out.packet
      ∧ out.header = shopPong.header ∧ out.trailing = [9]
      ∧ ("port_v4", .number 30001) ∈ parseBedrockPongPayload out.text
      ∧ ("motd", .text "shop".toList) ∈ parseBedrockPongPayload out.text := by
  obtain ⟨rewritten, once, -, -, changed⟩ :=
    pong_rewriting_changes_only_ports shopPong.packet 30001
      (by rw [Pong.length_packet]; decide) (by decide)
  obtain ⟨out, packed, header, trailing, -, -, entries⟩ :=
    changed shopPong rfl ⟨by decide, by decide⟩
  refine ⟨out, by rw [once, packed], header, trailing, ?_, ?_⟩
  · rw [entries]
    decide
  · rw [entries]
    decide

end Blockhost.BedrockPing
