import Blockhost.Library.Octets

/-! The RCON client: the packets it sends, and how it takes a packet off the stream of the
peer.
-/

namespace Blockhost.RconClient

open Library

-- Integers of four octets

def FitsInt (value : Int) : Prop := -2147483648 ≤ value ∧ value < 2147483648

instance (value : Int) : Decidable (FitsInt value) := instDecidableAnd

def intOctets (value : Int) : Octets := littleEndian 4 (value % 4294967296).toNat

def intOf (octets : Octets) : Int :=
  let number := fromLittleEndian octets
  if number < 2147483648 then number else number - 4294967296

/-- `struct.pack("<i", value)`, unless it raises. -/
def packInt (value : Int) : Option Octets :=
  if FitsInt value then some (intOctets value) else none

-- Sockets

/-- What the peer sends before it closes, in the chunks in which it arrives. -/
abbrev Incoming := List Octets

/-- `sock.recv(size)`: no more than one chunk, and nothing once the peer has closed. -/
def sockRecv (size : Nat) : Incoming → Octets × Incoming
  | [] => ([], [])
  | [] :: rest => sockRecv size rest
  | chunk :: rest => (chunk.take size, chunk.drop size :: rest)

/-- The loop of `_read_exact`, after the data read so far. -/
def readExactLoop (size : Nat) (data : Octets) (incoming : Incoming) : Octets × Incoming :=
  if data.length < size then
    let received := sockRecv (size - data.length) incoming
    if received.1 = [] then (data, received.2)
    else readExactLoop size (data ++ received.1) received.2
  else (data, incoming)
termination_by size - data.length
decreasing_by
  rename_i chunk
  have some : (sockRecv (size - data.length) incoming).1.length ≠ 0 :=
    fun none => chunk (List.length_eq_zero_iff.mp none)
  rw [List.length_append]
  omega

def readExact (size : Nat) (incoming : Incoming) : Octets × Incoming :=
  readExactLoop size [] incoming

-- Packets

inductive RconFailure where
  | rconError (message : String)
  | structError
deriving DecidableEq, Repr

/-- `struct.unpack("<i", octets)` -/
def unpackInt (octets : Octets) : Except RconFailure Int :=
  if octets.length = 4 then .ok (intOf octets) else .error .structError

/-- `struct.unpack("<ii", octets)` -/
def unpackInts (octets : Octets) : Except RconFailure (Int × Int) :=
  if octets.length = 8 then .ok (intOf (octets.take 4), intOf (octets.drop 4))
  else .error .structError

/-- `_send`: what goes to the peer, unless packing raises. -/
def send (reqId packetType : Int) (payload : List Char) : Option Octets := do
  let payloadBytes := encodeText payload
  let packetLen ← packInt (10 + payloadBytes.length)
  let id ← packInt reqId
  let kind ← packInt packetType
  return packetLen ++ (id ++ (kind ++ (payloadBytes ++ [0, 0])))

/-- What `_recv` does after the length of a packet. -/
def recvBody (packetLen : Int) (incoming : Incoming)
    : Except RconFailure ((Int × Int × List Char) × Incoming) :=
  if packetLen < 10 ∨ 4096 < packetLen then
    .error (.rconError ("Invalid RCON packet length: " ++ toString packetLen))
  else
    let (packetData, incoming) := readExact packetLen.toNat incoming
    (unpackInts (packetData.take 8)).map (fun ids =>
      let payload := decodeReplace ((packetData.take (packetData.length - 2)).drop 8)
      ((ids.1, ids.2, payload), incoming))

/-- `_recv`, with what is left of the stream. -/
def recv (incoming : Incoming) : Except RconFailure ((Int × Int × List Char) × Incoming) :=
  let (lengthBytes, incoming) := readExact 4 incoming
  if lengthBytes = [] then .error (.rconError "Connection closed by server")
  else (unpackInt lengthBytes).bind (fun packetLen => recvBody packetLen incoming)

/-- A packet of the protocol: its parts, which need not end as a sender ends them. -/
structure Packet where
  id : Int
  kind : Int
  body : Octets
  terminator : Octets
  idFits : FitsInt id
  kindFits : FitsInt kind
  short : body.length ≤ 4086
  two : terminator.length = 2

namespace Packet

def octets (packet : Packet) : Octets :=
  intOctets (10 + packet.body.length)
  ++ (intOctets packet.id ++ (intOctets packet.kind ++ (packet.body ++ packet.terminator)))

def Terminated (packet : Packet) : Prop := packet.terminator = [0, 0]

end Packet

/-- A stream is received as its first packet exactly if it starts with a complete one that is
well formed, and otherwise ends in the error of the client.
-/
def FramedExactly (wellFormed : Packet → Prop) (incoming : Incoming) : Prop :=
  (∀ id kind payload,
    (∃ left, recv incoming = .ok ((id, kind, payload), left))
    ↔ ∃ packet rest, wellFormed packet ∧ incoming.flatten = packet.octets ++ rest
      ∧ packet.id = id ∧ packet.kind = kind ∧ decodeReplace packet.body = payload)
  ∧ ((¬ ∃ packet rest, wellFormed packet ∧ incoming.flatten = packet.octets ++ rest) →
      ∃ message, recv incoming = .error (.rconError message))

/-- The peer does not close inside a length, or inside a packet of a valid length. -/
def Uncut (stream : Octets) : Prop :=
  stream = []
  ∨ 4 ≤ stream.length
    ∧ (10 ≤ intOf (stream.take 4) → intOf (stream.take 4) ≤ 4096 →
        4 + intOf (stream.take 4) ≤ stream.length)

-- Reading does not depend on the chunks

/-- A receive takes from the front of the stream, by induction on the chunks. -/
theorem sockRecv_spec {size : Nat} (some : 0 < size) (incoming : Incoming)
    : (sockRecv size incoming).1 ++ (sockRecv size incoming).2.flatten = incoming.flatten
      ∧ (sockRecv size incoming).1.length ≤ size
      ∧ ((sockRecv size incoming).1 = [] → incoming.flatten = []) := by
  induction incoming with
  | nil => exact ⟨rfl, Nat.zero_le _, fun _ => rfl⟩
  | cons chunk rest ih =>
      cases chunk with
      | nil => exact ih
      | cons octet chunk =>
          refine ⟨?_, List.length_take_le _ _, ?_⟩
          · rw [sockRecv, List.flatten_cons, ← List.append_assoc, List.take_append_drop,
              List.flatten_cons]
            exact fun empty => absurd empty (List.cons_ne_nil _ _)
          · intro none
            rw [sockRecv] at none
            · have one := congrArg List.length none
              rw [List.length_take, List.length_cons, List.length_nil] at one
              omega
            · exact fun empty => absurd empty (List.cons_ne_nil _ _)

/-- The loop fills the data up to the size as far as the stream goes, by induction along it. -/
theorem readExactLoop_spec {size : Nat} {data : Octets} (incoming : Incoming)
    (room : data.length ≤ size)
    : (readExactLoop size data incoming).1
        = data ++ incoming.flatten.take (size - data.length)
      ∧ (readExactLoop size data incoming).2.flatten
        = incoming.flatten.drop (size - data.length) := by
  fun_induction readExactLoop size data incoming with
  | case1 data incoming more received none =>
      obtain ⟨whole, -, ended⟩ := sockRecv_spec (Nat.sub_pos_of_lt more) incoming
      rw [none, List.nil_append] at whole
      rw [whole, ended none, List.take_nil, List.drop_nil, List.append_nil]
      exact ⟨rfl, rfl⟩
  | case2 data incoming more received some ih =>
      obtain ⟨whole, bounded, -⟩ : received.1 ++ received.2.flatten = incoming.flatten
          ∧ received.1.length ≤ size - data.length
          ∧ (received.1 = [] → incoming.flatten = []) :=
        sockRecv_spec (Nat.sub_pos_of_lt more) incoming
      have fits : (data ++ received.1).length ≤ size := by
        rw [List.length_append]
        omega
      obtain ⟨read, left⟩ := ih fits
      have count : size - data.length
          = received.1.length + (size - (data ++ received.1).length) := by
        rw [List.length_append]
        omega
      rw [read, left, ← whole, count, List.take_length_add_append, List.drop_length_add_append,
        List.append_assoc]
      exact ⟨rfl, rfl⟩
  | case3 data incoming full =>
      have done : size - data.length = 0 := by omega
      rw [done, List.take_zero, List.drop_zero, List.append_nil]
      exact ⟨rfl, rfl⟩

theorem readExact_eq (size : Nat) (incoming : Incoming)
    : (readExact size incoming).1 = incoming.flatten.take size
      ∧ (readExact size incoming).2.flatten = incoming.flatten.drop size :=
  readExactLoop_spec incoming (Nat.zero_le size)

/-- What is received from a stream, whatever the chunks. -/
def outcome (stream : Octets) : Except RconFailure (Int × Int × List Char) :=
  if stream = [] then .error (.rconError "Connection closed by server")
  else if stream.length < 4 then .error .structError
  else
    let packetLen := intOf (stream.take 4)
    if packetLen < 10 ∨ 4096 < packetLen then
      .error (.rconError ("Invalid RCON packet length: " ++ toString packetLen))
    else
      let packetData := (stream.drop 4).take packetLen.toNat
      if packetData.length < 8 then .error .structError
      else
        .ok (intOf (packetData.take 4), intOf ((packetData.take 8).drop 4),
          decodeReplace ((packetData.take (packetData.length - 2)).drop 8))

theorem recvBody_outcome (packetLen : Int) (incoming : Incoming)
    : (recvBody packetLen incoming).map Prod.fst
      = if packetLen < 10 ∨ 4096 < packetLen then
          .error (.rconError ("Invalid RCON packet length: " ++ toString packetLen))
        else
          let packetData := incoming.flatten.take packetLen.toNat
          if packetData.length < 8 then .error .structError
          else
            .ok (intOf (packetData.take 4), intOf ((packetData.take 8).drop 4),
              decodeReplace ((packetData.take (packetData.length - 2)).drop 8)) := by
  rw [recvBody]
  by_cases invalid : packetLen < 10 ∨ 4096 < packetLen
  · rw [if_pos invalid, if_pos invalid]
    rfl
  · rw [if_neg invalid, if_neg invalid]
    dsimp only
    rw [(readExact_eq packetLen.toNat incoming).1]
    generalize incoming.flatten.take packetLen.toNat = packetData
    by_cases short : packetData.length < 8
    · have cut : ¬ (packetData.take 8).length = 8 := by
        rw [List.length_take]
        omega
      rw [if_pos short, unpackInts, if_neg cut]
      rfl
    · have whole : (packetData.take 8).length = 8 := by
        rw [List.length_take]
        omega
      rw [if_neg short, unpackInts, if_pos whole, List.take_take]
      rfl

theorem recv_outcome (incoming : Incoming)
    : (recv incoming).map Prod.fst = outcome incoming.flatten := by
  obtain ⟨lengthBytes, behind⟩ := readExact_eq 4 incoming
  rw [recv, outcome]
  dsimp only
  rw [lengthBytes]
  by_cases closed : incoming.flatten = []
  · rw [if_pos closed, closed]
    rfl
  · have some : incoming.flatten.take 4 ≠ [] := by
      intro none
      rw [List.take_eq_nil_iff] at none
      exact none.elim (by omega) closed
    rw [if_neg closed, if_neg some]
    by_cases cut : incoming.flatten.length < 4
    · have short : ¬ (incoming.flatten.take 4).length = 4 := by
        rw [List.length_take]
        omega
      rw [if_pos cut, unpackInt, if_neg short]
      rfl
    · have whole : (incoming.flatten.take 4).length = 4 := by
        rw [List.length_take]
        omega
      rw [if_neg cut, unpackInt, if_pos whole]
      have body := recvBody_outcome (intOf (incoming.flatten.take 4)) (readExact 4 incoming).2
      rw [behind] at body
      exact body

theorem left_of_recvBody {packetLen : Int} {incoming left : Incoming}
    {received : Int × Int × List Char}
    (read : recvBody packetLen incoming = .ok (received, left))
    : left.flatten = incoming.flatten.drop packetLen.toNat := by
  rw [recvBody] at read
  by_cases invalid : packetLen < 10 ∨ 4096 < packetLen
  · rw [if_pos invalid] at read
    exact absurd read (by simp)
  · rw [if_neg invalid] at read
    dsimp only at read
    rw [unpackInts] at read
    by_cases whole : ((readExact packetLen.toNat incoming).1.take 8).length = 8
    · rw [if_pos whole] at read
      have same := (Prod.mk.inj (Except.ok.inj read)).2
      rw [← same]
      exact (readExact_eq packetLen.toNat incoming).2
    · rw [if_neg whole] at read
      exact absurd read (by simp [Except.map])

theorem left_of_recv {incoming left : Incoming} {received : Int × Int × List Char}
    (read : recv incoming = .ok (received, left))
    : left.flatten = incoming.flatten.drop (4 + (intOf (incoming.flatten.take 4)).toNat) := by
  obtain ⟨lengthBytes, behind⟩ := readExact_eq 4 incoming
  rw [recv] at read
  dsimp only at read
  rw [lengthBytes] at read
  by_cases none : incoming.flatten.take 4 = []
  · rw [if_pos none] at read
    exact absurd read (by simp)
  · rw [if_neg none, unpackInt] at read
    by_cases whole : (incoming.flatten.take 4).length = 4
    · rw [if_pos whole] at read
      have body : recvBody (intOf (incoming.flatten.take 4)) (readExact 4 incoming).2
          = .ok (received, left) := read
      rw [left_of_recvBody body, behind, List.drop_drop]
    · rw [if_neg whole] at read
      exact absurd read (by simp [Except.bind])

-- Packets on the stream

theorem length_intOctets (value : Int) : (intOctets value).length = 4 :=
  length_littleEndian 4 _

theorem intOf_intOctets {value : Int} (fits : FitsInt value)
    : intOf (intOctets value) = value := by
  obtain ⟨low, high⟩ := fits
  have power : (256 : Nat) ^ 4 = 4294967296 := by decide
  rw [intOf, intOctets, fromLittleEndian_littleEndian, power]
  by_cases positive : (value % 4294967296).toNat % 4294967296 < 2147483648
  · rw [if_pos positive]
    omega
  · rw [if_neg positive]
    omega

theorem fitsInt_intOf {octets : Octets} (four : octets.length = 4) : FitsInt (intOf octets) := by
  have bounded := fromLittleEndian_lt octets
  have power : (256 : Nat) ^ 4 = 4294967296 := by decide
  rw [four, power] at bounded
  rw [FitsInt, intOf]
  by_cases positive : fromLittleEndian octets < 2147483648
  · rw [if_pos positive]
    omega
  · rw [if_neg positive]
    omega

theorem intOctets_intOf {octets : Octets} (four : octets.length = 4)
    : intOctets (intOf octets) = octets := by
  have bounded := fromLittleEndian_lt octets
  have power : (256 : Nat) ^ 4 = 4294967296 := by decide
  have back := littleEndian_fromLittleEndian octets
  rw [four, power] at bounded
  rw [four] at back
  have same : (intOf octets % 4294967296).toNat = fromLittleEndian octets := by
    rw [intOf]
    by_cases positive : fromLittleEndian octets < 2147483648
    · rw [if_pos positive]
      omega
    · rw [if_neg positive]
      omega
  rw [intOctets, same, back]

namespace Packet

variable (packet : Packet) (rest : Octets)

theorem fits_length : FitsInt (10 + packet.body.length) := by
  have short := packet.short
  rw [FitsInt]
  omega

theorem length_octets : packet.octets.length = 14 + packet.body.length := by
  have two := packet.two
  rw [octets, List.length_append, List.length_append, List.length_append, List.length_append,
    length_intOctets, length_intOctets, length_intOctets]
  omega

theorem take_octets : (packet.octets ++ rest).take 4 = intOctets (10 + packet.body.length) := by
  rw [octets, List.append_assoc]
  exact List.take_left' (length_intOctets _)

theorem drop_octets
    : ((packet.octets ++ rest).drop 4).take (10 + packet.body.length)
      = intOctets packet.id
        ++ (intOctets packet.kind ++ (packet.body ++ packet.terminator)) := by
  have two := packet.two
  rw [octets, List.append_assoc, List.drop_left' (length_intOctets _)]
  refine List.take_left' ?_
  rw [List.length_append, List.length_append, List.length_append, length_intOctets,
    length_intOctets]
  omega

theorem length_read : intOf ((packet.octets ++ rest).take 4) = 10 + packet.body.length := by
  rw [take_octets, intOf_intOctets packet.fits_length]

theorem parts
    : (intOctets packet.id
          ++ (intOctets packet.kind ++ (packet.body ++ packet.terminator))).length
        = 10 + packet.body.length
      ∧ (intOctets packet.id
          ++ (intOctets packet.kind ++ (packet.body ++ packet.terminator))).take 4
        = intOctets packet.id
      ∧ ((intOctets packet.id
          ++ (intOctets packet.kind ++ (packet.body ++ packet.terminator))).take 8).drop 4
        = intOctets packet.kind
      ∧ ((intOctets packet.id
          ++ (intOctets packet.kind ++ (packet.body ++ packet.terminator))).take
            (10 + packet.body.length - 2)).drop 8
        = packet.body := by
  have two := packet.two
  have behind : (intOctets packet.id
      ++ (intOctets packet.kind ++ (packet.body ++ packet.terminator))).drop 4
      = intOctets packet.kind ++ (packet.body ++ packet.terminator) :=
    List.drop_left' (length_intOctets _)
  have last : (intOctets packet.id
      ++ (intOctets packet.kind ++ (packet.body ++ packet.terminator))).drop 8
      = packet.body ++ packet.terminator := by
    rw [show 8 = 4 + 4 by rfl, ← List.drop_drop, behind]
    exact List.drop_left' (length_intOctets _)
  refine ⟨?_, List.take_left' (length_intOctets _), ?_, ?_⟩
  · rw [List.length_append, List.length_append, List.length_append, length_intOctets,
      length_intOctets]
    omega
  · rw [List.drop_take, behind]
    exact List.take_left' (length_intOctets _)
  · rw [List.drop_take, last]
    exact List.take_left' (by omega)

end Packet

theorem outcome_packet (packet : Packet) (rest : Octets)
    : outcome (packet.octets ++ rest)
      = .ok (packet.id, packet.kind, decodeReplace packet.body) := by
  have size := packet.length_octets
  have short := packet.short
  have two := packet.two
  have filled : packet.octets ++ rest ≠ [] := by
    intro empty
    have none := congrArg List.length empty
    rw [List.length_append, List.length_nil] at none
    omega
  have long : ¬ (packet.octets ++ rest).length < 4 := by
    rw [List.length_append]
    omega
  have count : (10 + packet.body.length : Int).toNat = 10 + packet.body.length := by omega
  rw [outcome, if_neg filled, if_neg long]
  dsimp only
  rw [packet.length_read, if_neg (by omega), count, packet.drop_octets]
  have parts := packet.parts
  rw [if_neg (by rw [parts.1]; omega), parts.1, parts.2.1, parts.2.2.1, parts.2.2.2,
    intOf_intOctets packet.idFits, intOf_intOctets packet.kindFits]

theorem exists_packet {stream : Octets} (four : 4 ≤ stream.length)
    (low : 10 ≤ intOf (stream.take 4)) (high : intOf (stream.take 4) ≤ 4096)
    (complete : 4 + intOf (stream.take 4) ≤ stream.length)
    : ∃ (packet : Packet) (rest : Octets), stream = packet.octets ++ rest := by
  obtain ⟨count, size⟩ : ∃ count : Nat, intOf (stream.take 4) = 10 + count :=
    ⟨(intOf (stream.take 4)).toNat - 10, by omega⟩
  have whole : (stream.take 4).length = 4 := List.length_take_of_le four
  have idWhole : ((stream.drop 4).take 4).length = 4 := by
    rw [List.length_take, List.length_drop]
    omega
  have kindWhole : (((stream.drop 4).drop 4).take 4).length = 4 := by
    rw [List.length_take, List.length_drop, List.length_drop]
    omega
  have bodyWhole : ((((stream.drop 4).drop 4).drop 4).take count).length = count := by
    rw [List.length_take, List.length_drop, List.length_drop, List.length_drop]
    omega
  refine ⟨{
    id := intOf ((stream.drop 4).take 4)
    kind := intOf (((stream.drop 4).drop 4).take 4)
    body := (((stream.drop 4).drop 4).drop 4).take count
    terminator := ((((stream.drop 4).drop 4).drop 4).drop count).take 2
    idFits := fitsInt_intOf idWhole
    kindFits := fitsInt_intOf kindWhole
    short := by omega
    two := ?_ }, ((((stream.drop 4).drop 4).drop 4).drop count).drop 2, ?_⟩
  · rw [List.length_take, List.length_drop, List.length_drop, List.length_drop,
      List.length_drop]
    omega
  · rw [Packet.octets]
    dsimp only
    rw [bodyWhole, ← size, intOctets_intOf whole, intOctets_intOf idWhole,
      intOctets_intOf kindWhole]
    simp only [List.append_assoc, List.take_append_drop]

theorem packet_unique {packet other : Packet} {rest left : Octets}
    (same : packet.octets ++ rest = other.octets ++ left)
    : packet = other := by
  have sizes := packet.length_read rest
  rw [same, other.length_read left] at sizes
  have count : packet.body.length = other.body.length := by omega
  have wide : packet.octets.length = other.octets.length := by
    rw [packet.length_octets, other.length_octets, count]
  obtain ⟨octets, -⟩ := List.append_inj same wide
  rw [Packet.octets, Packet.octets, count] at octets
  have parts := List.append_cancel_left octets
  obtain ⟨identifier, parts⟩ := List.append_inj parts
    (by rw [length_intOctets, length_intOctets])
  obtain ⟨kind, parts⟩ := List.append_inj parts (by rw [length_intOctets, length_intOctets])
  obtain ⟨body, terminator⟩ := List.append_inj parts count
  have sameId := congrArg intOf identifier
  have sameKind := congrArg intOf kind
  rw [intOf_intOctets packet.idFits, intOf_intOctets other.idFits] at sameId
  rw [intOf_intOctets packet.kindFits, intOf_intOctets other.kindFits] at sameKind
  cases packet
  cases other
  simp only at sameId sameKind body terminator
  subst sameId sameKind body terminator
  rfl

-- Streams that are cut

theorem uncut_of_packet (packet : Packet) (rest : Octets) : Uncut (packet.octets ++ rest) := by
  have size := packet.length_octets
  refine .inr ⟨?_, fun _ _ => ?_⟩
  · rw [List.length_append]
    omega
  · rw [packet.length_read, List.length_append]
    omega

theorem uncut_cases {stream : Octets} (uncut : Uncut stream)
    : (∃ (packet : Packet) (rest : Octets), stream = packet.octets ++ rest)
      ∨ ∃ message, outcome stream = .error (.rconError message) := by
  rcases uncut with closed | ⟨four, complete⟩
  · exact .inr ⟨_, if_pos closed⟩
  · by_cases valid : 10 ≤ intOf (stream.take 4) ∧ intOf (stream.take 4) ≤ 4096
    · exact .inl (exists_packet four valid.1 valid.2 (complete valid.1 valid.2))
    · have filled : stream ≠ [] := by
        rintro rfl
        exact absurd four (by decide)
      right
      rw [outcome, if_neg filled, if_neg (by omega)]
      dsimp only
      rw [if_pos (by omega)]
      exact ⟨_, rfl⟩

theorem outcome_of_cut {stream : Octets} (cut : ¬ Uncut stream) (message : String)
    : outcome stream ≠ .error (.rconError message) := by
  obtain ⟨filled, inside⟩ := not_or.mp cut
  rw [outcome, if_neg filled]
  by_cases short : stream.length < 4
  · rw [if_pos short]
    simp
  · rw [if_neg short]
    have valid : 10 ≤ intOf (stream.take 4) ∧ intOf (stream.take 4) ≤ 4096 := by
      by_contra invalid
      exact inside ⟨by omega, fun low high => absurd ⟨low, high⟩ invalid⟩
    dsimp only
    rw [if_neg (by omega)]
    split
    · simp
    · simp

theorem recv_ok_iff {incoming : Incoming} {received : Int × Int × List Char}
    : (∃ left, recv incoming = .ok (received, left))
      ↔ outcome incoming.flatten = .ok received := by
  rw [← recv_outcome]
  cases recv incoming with
  | error failure => simp [Except.map]
  | ok result =>
      constructor
      · rintro ⟨left, same⟩
        rw [Except.ok.inj same]
        rfl
      · intro same
        exact ⟨result.2, by rw [← Except.ok.inj same]⟩

theorem recv_error_iff {incoming : Incoming} {failure : RconFailure}
    : recv incoming = .error failure ↔ outcome incoming.flatten = .error failure := by
  rw [← recv_outcome]
  cases recv incoming with
  | error failure => simp [Except.map]
  | ok result => simp [Except.map]

theorem framedExactly_iff (wellFormed : Packet → Prop) (incoming : Incoming)
    : FramedExactly wellFormed incoming
      ↔ Uncut incoming.flatten
        ∧ ∀ packet rest, incoming.flatten = packet.octets ++ rest → wellFormed packet := by
  constructor
  · rintro ⟨results, failures⟩
    refine ⟨?_, ?_⟩
    · by_contra cut
      have noPacket : ¬ ∃ packet rest, wellFormed packet
          ∧ incoming.flatten = packet.octets ++ rest := by
        rintro ⟨packet, rest, -, starts⟩
        rw [starts] at cut
        exact cut (uncut_of_packet packet rest)
      obtain ⟨message, failed⟩ := failures noPacket
      exact outcome_of_cut cut message (recv_error_iff.mp failed)
    · intro packet rest starts
      have received := outcome_packet packet rest
      rw [← starts, ← recv_ok_iff] at received
      obtain ⟨found, behind, good, same, -⟩ := (results _ _ _).mp received
      rw [starts] at same
      rwa [packet_unique same]
  · rintro ⟨uncut, good⟩
    refine ⟨fun id kind payload => ?_, fun noPacket => ?_⟩
    · rw [recv_ok_iff]
      constructor
      · intro received
        rcases uncut_cases uncut with ⟨packet, rest, starts⟩ | ⟨message, failed⟩
        · rw [starts, outcome_packet] at received
          have same := Except.ok.inj received
          exact ⟨packet, rest, good packet rest starts, starts, congrArg Prod.fst same,
            congrArg (fun result => result.2.1) same, congrArg (fun result => result.2.2) same⟩
        · exact absurd (received.symm.trans failed) (by simp)
      · rintro ⟨packet, rest, -, starts, rfl, rfl, rfl⟩
        rw [starts, outcome_packet]
    · rcases uncut_cases uncut with ⟨packet, rest, starts⟩ | ⟨message, failed⟩
      · exact absurd ⟨packet, rest, good packet rest starts, starts⟩ noPacket
      · exact ⟨message, recv_error_iff.mpr failed⟩

-- What is sent is received

variable {reqId packetType : Int} {payload : List Char} {octets : Octets}

def sentPacket (idFits : FitsInt reqId) (kindFits : FitsInt packetType)
    (short : (encodeText payload).length ≤ 4086)
    : Packet where
  id := reqId
  kind := packetType
  body := encodeText payload
  terminator := [0, 0]
  idFits := idFits
  kindFits := kindFits
  short := short
  two := rfl

theorem send_eq (idFits : FitsInt reqId) (kindFits : FitsInt packetType)
    (short : (encodeText payload).length ≤ 4086)
    : send reqId packetType payload = some (sentPacket idFits kindFits short).octets := by
  have fits : FitsInt (10 + (encodeText payload).length) :=
    (sentPacket idFits kindFits short).fits_length
  have packed (value : Int) (small : FitsInt value) : packInt value = some (intOctets value) :=
    if_pos small
  rw [send, packed _ fits, packed _ idFits, packed _ kindFits]
  rfl

theorem fits_of_send (sent : send reqId packetType payload = some octets)
    : FitsInt reqId ∧ FitsInt packetType := by
  simp only [send, Option.bind_eq_bind, Option.bind_eq_some_iff] at sent
  obtain ⟨packetLen, -, id, identified, kind, typed, -⟩ := sent
  constructor
  · by_contra wide
    rw [packInt, if_neg wide] at identified
    exact absurd identified (by simp)
  · by_contra wide
    rw [packInt, if_neg wide] at typed
    exact absurd typed (by simp)

theorem recv_packet {packet : Packet} {rest : Octets} {incoming : Incoming}
    (starts : incoming.flatten = packet.octets ++ rest)
    : ∃ left, recv incoming = .ok ((packet.id, packet.kind, decodeReplace packet.body), left)
      ∧ left.flatten = rest := by
  have received := outcome_packet packet rest
  rw [← starts, ← recv_ok_iff] at received
  obtain ⟨left, read⟩ := received
  have count : (10 + packet.body.length : Int).toNat = 10 + packet.body.length := by omega
  have whole : packet.octets.length = 4 + (10 + packet.body.length) := by
    rw [packet.length_octets]
    omega
  refine ⟨left, read, ?_⟩
  rw [left_of_recv read, starts, packet.length_read, count, ← whole, List.drop_left]

-- Every stream

/-- Whether or not a packet has to end in two zero octets to be well formed, reception is exact
on just the streams that the peer does not cut inside a length or a packet, and, where it has
to, that do not start with a packet that ends otherwise. What is sent is received.
-/
theorem rcon_framing_exact_iff (incoming : Incoming) (reqId packetType : Int)
    (payload : List Char)
    : (FramedExactly (fun _ => True) incoming ↔ Uncut incoming.flatten)
      ∧ (FramedExactly Packet.Terminated incoming
        ↔ Uncut incoming.flatten
          ∧ ∀ (packet : Packet) (rest : Octets),
            incoming.flatten = packet.octets ++ rest → packet.Terminated)
      ∧ ((encodeText payload).length ≤ 4086
        → ((∃ octets, send reqId packetType payload = some octets)
            ↔ FitsInt reqId ∧ FitsInt packetType)
          ∧ ∀ octets rest, send reqId packetType payload = some octets
            → incoming.flatten = octets ++ rest
            → ∃ left, recv incoming = .ok ((reqId, packetType, payload), left)
              ∧ left.flatten = rest) := by
  refine ⟨?_, framedExactly_iff Packet.Terminated incoming, fun short => ?_⟩
  · rw [framedExactly_iff]
    exact and_iff_left (fun _ _ _ => trivial)
  · refine ⟨⟨fun ⟨octets, sent⟩ => fits_of_send sent,
      fun fits => ⟨_, send_eq fits.1 fits.2 short⟩⟩, ?_⟩
    intro octets rest sent starts
    obtain ⟨idFits, kindFits⟩ := fits_of_send sent
    rw [send_eq idFits kindFits short] at sent
    rw [← Option.some.inj sent] at starts
    obtain ⟨left, read, same⟩ := recv_packet starts
    have decoded : decodeReplace (sentPacket idFits kindFits short).body = payload :=
      decodeReplace_encodeText payload
    rw [decoded] at read
    exact ⟨left, read, same⟩

/-- The length arrives in two chunks, and another packet begins behind. -/
theorem list_reply_is_received
    : ∃ left, recv [[14, 0], [0, 0, 7, 0, 0, 0, 0], [0, 0, 0, 108, 105, 115, 116, 0, 0, 10]]
        = .ok ((7, 0, "list".toList), left)
      ∧ left.flatten = [10] :=
  ((rcon_framing_exact_iff _ 7 0 "list".toList).2.2 (by decide)).2
    [14, 0, 0, 0, 7, 0, 0, 0, 0, 0, 0, 0, 108, 105, 115, 116, 0, 0] [10] (by decide)
    (by decide)

/-- A peer that closes inside the length: another error is raised than that of the client. -/
theorem cut_length_is_no_rcon_error
    : ¬ FramedExactly (fun _ => True) [[14]] ∧ ¬ FramedExactly Packet.Terminated [[14]] := by
  have cut : ¬ Uncut (List.flatten [[14]]) := by
    rintro (closed | ⟨four, -⟩)
    · exact absurd closed (by decide)
    · exact absurd four (by decide)
  exact ⟨fun framed => cut ((framedExactly_iff _ _).mp framed).1,
    fun framed => cut ((framedExactly_iff _ _).mp framed).1⟩

end Blockhost.RconClient
