import Doudizhu.Gateway.Refusals

/-! # Framing

A byte stream is cut into packets by the six bytes in front of each.  `readLoop` is the loop
of `read_header` and `read_body` over a stream; the sessions of both transports hand on the
packets that it finds, and close at the first header that is none.
-/

namespace Doudizhu.Gateway

open Game

/-! ## Headers -/

namespace PacketCodec

/-- The header that the shifts give. -/
theorem decodeHeader_wire (bytes : Vector UInt8 6) :
    decodeHeader bytes =
      if (wireSize bytes).toNat < headerSize then none
      else some { packetSize := (wireSize bytes).toNat, messageId := (wireMessageId bytes).toNat } := by
  rw [decodeHeader, wireSize_toNat, wireMessageId_toNat]

theorem low_byte (number : Nat) : (number &&& 2 ^ 8 - 1) % 2 ^ 8 = number % 2 ^ 8 := by
  rw [Nat.and_two_pow_sub_one_eq_mod, Nat.mod_mod]

theorem encodeHeader_wire (size : UInt32) (messageId : UInt16) :
    encodeHeader { packetSize := size.toNat, messageId := messageId.toNat } =
      #v[((size >>> 24) &&& 0xFF).toUInt8, ((size >>> 16) &&& 0xFF).toUInt8,
        ((size >>> 8) &&& 0xFF).toUInt8, (size &&& 0xFF).toUInt8,
        ((messageId >>> 8) &&& 0xFF).toUInt8, (messageId &&& 0xFF).toUInt8] := by
  have mask : UInt32.toNat 0xFF = 2 ^ 8 - 1 := by decide
  have idMask : UInt16.toNat 0xFF = 2 ^ 8 - 1 := by decide
  have by24 : UInt32.toNat 24 % 32 = 24 := by decide
  have by16 : UInt32.toNat 16 % 32 = 16 := by decide
  have by8 : UInt32.toNat 8 % 32 = 8 := by decide
  have idBy8 : UInt16.toNat 8 % 16 = 8 := by decide
  have first : UInt8.ofNat (size.toNat / 2 ^ 24) = ((size >>> 24) &&& 0xFF).toUInt8 := by
    apply UInt8.toNat_inj.mp
    simp only [UInt8.toNat_ofNat', UInt32.toNat_toUInt8, UInt32.toNat_and, UInt32.toNat_shiftRight,
      mask, by24, low_byte, Nat.shiftRight_eq_div_pow]
  have second : UInt8.ofNat (size.toNat / 2 ^ 16) = ((size >>> 16) &&& 0xFF).toUInt8 := by
    apply UInt8.toNat_inj.mp
    simp only [UInt8.toNat_ofNat', UInt32.toNat_toUInt8, UInt32.toNat_and, UInt32.toNat_shiftRight,
      mask, by16, low_byte, Nat.shiftRight_eq_div_pow]
  have third : UInt8.ofNat (size.toNat / 2 ^ 8) = ((size >>> 8) &&& 0xFF).toUInt8 := by
    apply UInt8.toNat_inj.mp
    simp only [UInt8.toNat_ofNat', UInt32.toNat_toUInt8, UInt32.toNat_and, UInt32.toNat_shiftRight,
      mask, by8, low_byte, Nat.shiftRight_eq_div_pow]
  have fourth : UInt8.ofNat size.toNat = (size &&& 0xFF).toUInt8 := by
    apply UInt8.toNat_inj.mp
    simp only [UInt8.toNat_ofNat', UInt32.toNat_toUInt8, UInt32.toNat_and, mask, low_byte]
  have fifth : UInt8.ofNat (messageId.toNat / 2 ^ 8) = ((messageId >>> 8) &&& 0xFF).toUInt8 := by
    apply UInt8.toNat_inj.mp
    simp only [UInt8.toNat_ofNat', UInt16.toNat_toUInt8, UInt16.toNat_and, UInt16.toNat_shiftRight,
      idMask, idBy8, low_byte, Nat.shiftRight_eq_div_pow]
  have sixth : UInt8.ofNat messageId.toNat = (messageId &&& 0xFF).toUInt8 := by
    apply UInt8.toNat_inj.mp
    simp only [UInt8.toNat_ofNat', UInt16.toNat_toUInt8, UInt16.toNat_and, idMask, low_byte]
  simp only [encodeHeader, first, second, third, fourth, fifth, sixth]

/-- Decoding gives back what was encoded, -/
theorem decode_encode {header : PacketHeader} (atLeast : headerSize ≤ header.packetSize)
    (size : header.packetSize < 2 ^ 32) (messageId : header.messageId < 2 ^ 16) :
    decodeHeader (encodeHeader header) = some header := by
  obtain ⟨packetSize, id⟩ := header
  simp only [decodeHeader, encodeHeader, Vector.getElem_mk, List.getElem_toArray,
    List.getElem_cons_zero, List.getElem_cons_succ, UInt8.toNat_ofNat']
  have sizeSame : 2 ^ 24 * (packetSize / 2 ^ 24 % 2 ^ 8) + 2 ^ 16 * (packetSize / 2 ^ 16 % 2 ^ 8) +
      2 ^ 8 * (packetSize / 2 ^ 8 % 2 ^ 8) + packetSize % 2 ^ 8 = packetSize := by
    simp only at size
    omega
  have idSame : 2 ^ 8 * (id / 2 ^ 8 % 2 ^ 8) + id % 2 ^ 8 = id := by
    simp only at messageId
    omega
  rw [sizeSame, idSame, if_neg (not_lt.mpr atLeast)]

/-- and encoding what was decoded. -/
theorem encode_decode {bytes : Vector UInt8 6} {header : PacketHeader}
    (decoded : decodeHeader bytes = some header) : encodeHeader header = bytes := by
  simp only [decodeHeader] at decoded
  split at decoded
  · cases decoded
  · cases decoded
    have first := bytes[0].toNat_lt
    have second := bytes[1].toNat_lt
    have third := bytes[2].toNat_lt
    have fourth := bytes[3].toNat_lt
    have fifth := bytes[4].toNat_lt
    have sixth := bytes[5].toNat_lt
    apply Vector.ext
    intro place inside
    apply UInt8.toNat_inj.mp
    simp only [encodeHeader]
    match place, inside with
    | 0, _ | 1, _ | 2, _ | 3, _ | 4, _ | 5, _ =>
      simp only [Vector.getElem_mk, List.getElem_toArray, List.getElem_cons_zero,
        List.getElem_cons_succ, UInt8.toNat_ofNat']
      omega

theorem decodeHeader_atLeast {bytes : Vector UInt8 6} {header : PacketHeader}
    (decoded : decodeHeader bytes = some header) : headerSize ≤ header.packetSize := by
  simp only [decodeHeader] at decoded
  split at decoded
  · cases decoded
  · next large =>
    cases decoded
    exact not_lt.mp large

theorem headerBytes_split {stream : Bytes} {bytes : Vector UInt8 6}
    (read : headerBytes stream = some bytes) : stream = bytes.toList ++ stream.drop headerSize := by
  match stream, read with
  | _ :: _ :: _ :: _ :: _ :: _ :: _, rfl => rfl

theorem headerBytes_none {stream : Bytes} :
    headerBytes stream = none ↔ stream.length < headerSize := by
  match stream with
  | [] | [_] | [_, _] | [_, _, _] | [_, _, _, _] | [_, _, _, _, _] => simp [headerBytes, headerSize]
  | _ :: _ :: _ :: _ :: _ :: _ :: _ => simp [headerBytes, headerSize]

end PacketCodec

/-! ## Packets -/

/-- A packet that `send_packet` does not refuse. -/
structure Packet where
  messageId : UInt16
  body : Bytes
  fits : PacketCodec.headerSize + body.length ≤ maxPacketSize
deriving DecidableEq

namespace Packet

variable (packet : Packet)

def header : PacketHeader where
  packetSize := PacketCodec.headerSize + packet.body.length
  messageId := packet.messageId.toNat

/-- The bytes that `send_packet` writes. -/
def bytes : Bytes := (PacketCodec.encodeHeader packet.header).toList ++ packet.body

theorem decode_header :
    PacketCodec.decodeHeader (PacketCodec.encodeHeader packet.header) = some packet.header := by
  have fits : PacketCodec.headerSize + packet.body.length ≤ 64 * 1024 := packet.fits
  apply PacketCodec.decode_encode
  · exact Nat.le_add_right ..
  · have size : packet.header.packetSize = PacketCodec.headerSize + packet.body.length := rfl
    omega
  · exact packet.messageId.toNat_lt

theorem headerBytes_append (rest : Bytes) :
    PacketCodec.headerBytes (packet.bytes ++ rest) = some (PacketCodec.encodeHeader packet.header) := rfl

theorem drop_header (rest : Bytes) :
    (packet.bytes ++ rest).drop PacketCodec.headerSize = packet.body ++ rest := rfl

end Packet

/-! ## The loop -/

inductive StreamEnd where
  /-- The session closes at a header. -/
  | badHeader
  /-- The rest of a packet has yet to arrive. -/
  | endOfStream
deriving DecidableEq

inductive Reading where
  /-- The session closes. -/
  | badHeader
  /-- The rest of the packet has yet to arrive. -/
  | incomplete
  /-- `handle_packet` gets the packet, and what follows is left in the stream. -/
  | packet (packet : Packet) (rest : Bytes)

theorem body_fits {bytes : Vector UInt8 6} {header : PacketHeader}
    (decoded : PacketCodec.decodeHeader bytes = some header) (small : ¬ header.packetSize > maxPacketSize)
    (rest : Bytes) :
    PacketCodec.headerSize + (rest.take (header.packetSize - PacketCodec.headerSize)).length ≤
      maxPacketSize := by
  have atLeast := PacketCodec.decodeHeader_atLeast decoded
  rw [List.length_take]
  omega

/-- One turn of `read_header` and `read_body`. -/
def readPacket (stream : Bytes) : Reading :=
  match PacketCodec.headerBytes stream with
  | none => .incomplete
  | some bytes =>
    match decoded : PacketCodec.decodeHeader bytes with
    | none => .badHeader
    | some header =>
      if small : ¬ header.packetSize > maxPacketSize then
        let rest := stream.drop PacketCodec.headerSize
        let bodySize := header.packetSize - PacketCodec.headerSize
        if bodySize ≤ rest.length then
          .packet ⟨UInt16.ofNat header.messageId, rest.take bodySize, body_fits decoded small rest⟩
            (rest.drop bodySize)
        else .incomplete
      else .badHeader

/-- What is left begins with a header whose size is out of range. -/
def BadHeader (stream : Bytes) : Prop :=
  ∃ bytes, PacketCodec.headerBytes stream = some bytes ∧
    ((PacketCodec.wireSize bytes).toNat < PacketCodec.headerSize ∨
      (PacketCodec.wireSize bytes).toNat > maxPacketSize)

/-- What is left is less than a header, or than the packet that its header announces. -/
def Incomplete (stream : Bytes) : Prop :=
  stream.length < PacketCodec.headerSize ∨
    ∃ bytes, PacketCodec.headerBytes stream = some bytes ∧
      PacketCodec.headerSize ≤ (PacketCodec.wireSize bytes).toNat ∧
      (PacketCodec.wireSize bytes).toNat ≤ maxPacketSize ∧
      stream.length < (PacketCodec.wireSize bytes).toNat

/-- What the outcome of a turn says of the stream. -/
inductive Reads (stream : Bytes) : Reading → Prop where
  | badHeader : BadHeader stream → Reads stream .badHeader
  | incomplete : Incomplete stream → Reads stream .incomplete
  | packet {packet : Packet} {rest : Bytes} :
      stream = packet.bytes ++ rest → Reads stream (.packet packet rest)

/-- A header that was decoded is the one of the packet, once the body has arrived. -/
theorem Packet.header_of_decoded {bytes : Vector UInt8 6} {header : PacketHeader} {body : Bytes}
    (decoded : PacketCodec.decodeHeader bytes = some header)
    (length : PacketCodec.headerSize + body.length = header.packetSize)
    (fits : PacketCodec.headerSize + body.length ≤ maxPacketSize) :
    (Packet.mk (UInt16.ofNat header.messageId) body fits).header = header := by
  have messageId : header.messageId < 2 ^ 16 := by
    have wire := PacketCodec.decodeHeader_wire bytes
    rw [decoded] at wire
    split at wire
    · cases wire
    · injection wire with same
      rw [same]
      exact (PacketCodec.wireMessageId bytes).toNat_lt
  have id : header.messageId % 2 ^ 16 = header.messageId := Nat.mod_eq_of_lt messageId
  simp only [Packet.header, length, UInt16.toNat_ofNat', id]

/-- The header, the body, and what follows. -/
theorem packet_split {stream : Bytes} {bytes : Vector UInt8 6} {header : PacketHeader}
    (decoded : PacketCodec.decodeHeader bytes = some header)
    (split : stream = bytes.toList ++ stream.drop PacketCodec.headerSize)
    (fits : PacketCodec.headerSize + ((stream.drop PacketCodec.headerSize).take
      (header.packetSize - PacketCodec.headerSize)).length ≤ maxPacketSize)
    (arrived : header.packetSize - PacketCodec.headerSize ≤
      (stream.drop PacketCodec.headerSize).length) :
    stream = (Packet.mk (UInt16.ofNat header.messageId) ((stream.drop PacketCodec.headerSize).take
        (header.packetSize - PacketCodec.headerSize)) fits).bytes ++
      (stream.drop PacketCodec.headerSize).drop (header.packetSize - PacketCodec.headerSize) := by
  have atLeast := PacketCodec.decodeHeader_atLeast decoded
  have length : PacketCodec.headerSize + ((stream.drop PacketCodec.headerSize).take
      (header.packetSize - PacketCodec.headerSize)).length = header.packetSize := by
    rw [List.length_take]
    omega
  rw [Packet.bytes, Packet.header_of_decoded decoded length fits, PacketCodec.encode_decode decoded,
    List.append_assoc, List.take_append_drop]
  exact split

theorem readPacket_reads (stream : Bytes) : Reads stream (readPacket stream) := by
  unfold readPacket
  split
  · next short => exact .incomplete (.inl (PacketCodec.headerBytes_none.mp short))
  · next bytes read =>
    have split := PacketCodec.headerBytes_split read
    have length : stream.length = PacketCodec.headerSize + (stream.drop PacketCodec.headerSize).length := by
      conv_lhs => rw [split]
      simp [PacketCodec.headerSize]
    have wire := PacketCodec.decodeHeader_wire bytes
    split
    · next decoded =>
      rw [decoded] at wire
      split at wire
      · next small => exact .badHeader ⟨bytes, read, .inl small⟩
      · cases wire
    · next header decoded =>
      rw [decoded] at wire
      split at wire
      · cases wire
      · next atLeast =>
        injection wire with same
        have size : header.packetSize = (PacketCodec.wireSize bytes).toNat := by rw [same]
        split
        · next small =>
          dsimp only
          split
          · next arrived =>
            exact .packet (packet_split decoded split _ arrived)
          · next missing =>
            exact .incomplete (.inr ⟨bytes, read, by omega, by omega, by omega⟩)
        · next large => exact .badHeader ⟨bytes, read, .inr (by omega)⟩

theorem Packet.wireSize_header (packet : Packet) :
    (PacketCodec.wireSize (PacketCodec.encodeHeader packet.header)).toNat =
      PacketCodec.headerSize + packet.body.length := by
  have decoded := packet.decode_header
  rw [PacketCodec.decodeHeader_wire] at decoded
  split at decoded
  · cases decoded
  · injection decoded with same
    exact congrArg PacketHeader.packetSize same

theorem Packet.length_bytes (packet : Packet) :
    packet.bytes.length = PacketCodec.headerSize + packet.body.length := by
  simp [Packet.bytes, PacketCodec.headerSize]

/-- A packet is known by its bytes, whatever comes after it. -/
theorem Packet.bytes_append_inj {first second : Packet} {rest other : Bytes}
    (same : first.bytes ++ rest = second.bytes ++ other) : first = second ∧ rest = other := by
  have read := congrArg PacketCodec.headerBytes same
  rw [first.headerBytes_append, second.headerBytes_append] at read
  have decoded := first.decode_header
  rw [Option.some.inj read, second.decode_header] at decoded
  have headers : second.header = first.header := Option.some.inj decoded
  have left := congrArg (List.drop PacketCodec.headerSize) same
  rw [first.drop_header, second.drop_header] at left
  have sizes : second.body.length = first.body.length := by
    have size := congrArg PacketHeader.packetSize headers
    exact Nat.add_left_cancel size
  obtain ⟨body, rest⟩ := List.append_inj left sizes.symm
  have messageId : second.messageId = first.messageId :=
    UInt16.toNat_inj.mp (congrArg PacketHeader.messageId headers)
  obtain ⟨firstId, firstBody, firstFits⟩ := first
  obtain ⟨secondId, secondBody, secondFits⟩ := second
  obtain rfl : firstBody = secondBody := body
  obtain rfl : secondId = firstId := messageId
  exact ⟨rfl, rest⟩

/-- A packet that has arrived is read. -/
theorem readPacket_packet (packet : Packet) (rest : Bytes) :
    readPacket (packet.bytes ++ rest) = .packet packet rest := by
  have fits := packet.fits
  have size := packet.wireSize_header
  have reads := readPacket_reads (packet.bytes ++ rest)
  generalize readPacket (packet.bytes ++ rest) = reading at reads
  cases reads with
  | badHeader bad =>
    obtain ⟨bytes, read, out⟩ := bad
    obtain rfl : PacketCodec.encodeHeader packet.header = bytes := Option.some.inj read
    omega
  | incomplete incomplete =>
    have length := packet.length_bytes
    obtain short | ⟨bytes, read, _, _, missing⟩ := incomplete
    · rw [List.length_append] at short
      omega
    · obtain rfl : PacketCodec.encodeHeader packet.header = bytes := Option.some.inj read
      rw [List.length_append] at missing
      omega
  | packet split =>
    obtain ⟨rfl, rfl⟩ := Packet.bytes_append_inj split
    rfl

/-- A header that is out of range is whole, so that nothing is waited for. -/
theorem not_incomplete {stream : Bytes} (bad : BadHeader stream) : ¬ Incomplete stream := by
  intro incomplete
  obtain ⟨bytes, read, out⟩ := bad
  obtain short | ⟨other, again, atLeast, small, _⟩ := incomplete
  · rw [PacketCodec.headerBytes_none.mpr short] at read
    cases read
  · obtain rfl : other = bytes := Option.some.inj (again.symm.trans read)
    omega

theorem readPacket_badHeader {stream : Bytes} (bad : BadHeader stream) :
    readPacket stream = .badHeader := by
  have reads := readPacket_reads stream
  generalize readPacket stream = reading at reads
  cases reads with
  | badHeader => rfl
  | incomplete incomplete => exact absurd incomplete (not_incomplete bad)
  | @packet packet rest split =>
    obtain ⟨bytes, read, out⟩ := bad
    have size := packet.wireSize_header
    have fits := packet.fits
    rw [split, packet.headerBytes_append] at read
    obtain rfl : PacketCodec.encodeHeader packet.header = bytes := Option.some.inj read
    omega

theorem readPacket_incomplete {stream : Bytes} (incomplete : Incomplete stream) :
    readPacket stream = .incomplete := by
  have reads := readPacket_reads stream
  generalize reads_eq : readPacket stream = reading at reads
  cases reads with
  | incomplete => rfl
  | badHeader bad => exact absurd incomplete (not_incomplete bad)
  | @packet packet rest split =>
    have size := packet.wireSize_header
    have length := congrArg List.length split
    rw [List.length_append, packet.length_bytes] at length
    obtain short | ⟨bytes, read, _, _, missing⟩ := incomplete
    · omega
    · rw [split, packet.headerBytes_append] at read
      obtain rfl : PacketCodec.encodeHeader packet.header = bytes := Option.some.inj read
      omega

/-- The turns, one after another, while the stream lasts. -/
def readLoop (stream : Bytes) : List Packet × StreamEnd :=
  match _read : readPacket stream with
  | .badHeader => ([], .badHeader)
  | .incomplete => ([], .endOfStream)
  | .packet packet rest =>
    let (packets, ending) := readLoop rest
    (packet :: packets, ending)
termination_by stream.length
decreasing_by
  have reads := readPacket_reads stream
  rw [_read] at reads
  cases reads with
  | packet split =>
    have length := packet.length_bytes
    rw [split, List.length_append]
    simp only [PacketCodec.headerSize] at length
    omega

/-- A stream of packets is cut into these packets, up to a header that is none. -/
theorem readLoop_badHeader (packets : List Packet) {rest : Bytes} (bad : BadHeader rest) :
    readLoop (packets.flatMap Packet.bytes ++ rest) = (packets, .badHeader) := by
  induction packets with
  | nil =>
    rw [List.flatMap_nil, List.nil_append, readLoop, readPacket_badHeader bad]
  | cons packet packets inductionHypothesis =>
    rw [List.flatMap_cons, List.append_assoc, readLoop, readPacket_packet]
    simp only [inductionHypothesis]

theorem readLoop_incomplete (packets : List Packet) {rest : Bytes} (incomplete : Incomplete rest) :
    readLoop (packets.flatMap Packet.bytes ++ rest) = (packets, .endOfStream) := by
  induction packets with
  | nil =>
    rw [List.flatMap_nil, List.nil_append, readLoop, readPacket_incomplete incomplete]
  | cons packet packets inductionHypothesis =>
    rw [List.flatMap_cons, List.append_assoc, readLoop, readPacket_packet]
    simp only [inductionHypothesis]

/-- Every stream is packets, and then a header that is none, or less than a packet. -/
theorem exists_packets (stream : Bytes) :
    ∃ (packets : List Packet) (rest : Bytes), stream = packets.flatMap Packet.bytes ++ rest ∧
      (BadHeader rest ∨ Incomplete rest) := by
  induction stream using readLoop.induct with
  | case1 stream read =>
    have reads := readPacket_reads stream
    rw [read] at reads
    cases reads with
    | badHeader bad => exact ⟨[], stream, rfl, .inl bad⟩
  | case2 stream read =>
    have reads := readPacket_reads stream
    rw [read] at reads
    cases reads with
    | incomplete incomplete => exact ⟨[], stream, rfl, .inr incomplete⟩
  | case3 stream packet rest read _ _ _ inductionHypothesis =>
    have reads := readPacket_reads stream
    rw [read] at reads
    cases reads with
    | packet split =>
      obtain ⟨packets, last, rfl, ends⟩ := inductionHypothesis
      exact ⟨packet :: packets, last, by rw [split, List.flatMap_cons, List.append_assoc], ends⟩

theorem readLoop_packets (packets : List Packet) :
    readLoop (packets.flatMap Packet.bytes) = (packets, .endOfStream) := by
  have nothing : Incomplete [] := .inl (by decide)
  have loop := readLoop_incomplete packets nothing
  rwa [List.append_nil] at loop

end Doudizhu.Gateway
