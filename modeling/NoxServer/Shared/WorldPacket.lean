import NoxServer.Shared.ByteBuffer

/-!
`WorldPacket` (`shared/worldpacket.h`): a buffer with the header of a datagram.
-/

namespace NoxServer

/-- A client's address: the port above the IP's 32 bits. -/
abbrev ClientAddr := UInt64

structure WorldPacket extends ByteBuffer where
  opcode : UInt8 := 0
  accountid : UInt8 := 0
  xor : UInt8 := 0
  unk : UInt8 := 0
  client : ClientAddr := 0
  deriving DecidableEq, Repr

namespace WorldPacket

/-- A packet with its payload written. -/
def ofPayload (opcode id : UInt8) (client : ClientAddr) (payload : List UInt8) : WorldPacket :=
  { opcode := opcode, accountid := id, client := client
    storage := payload, wpos := payload.length }

/-- `Initialize(opcode, id, client)`. `m_xor` and `m_unk` keep their values. -/
def initializeWith (p : WorldPacket) (opcode : UInt8) (id : UInt8 := 0) (client : ClientAddr := 0) :
    WorldPacket :=
  { p with toByteBuffer := p.clear, opcode := opcode, client := client, accountid := id }

/-- `append(src, cnt)`, which a packet has from its buffer. -/
def append (p : WorldPacket) (src : List UInt8) : Except Fault WorldPacket := do
  let buffer ← p.toByteBuffer.append src
  return { p with toByteBuffer := buffer }

/-- The packet with bytes at the end of its payload. -/
def extend (p : WorldPacket) (src : List UInt8) : WorldPacket :=
  { p with storage := p.storage ++ src, wpos := p.wpos + src.length }

theorem append_eq_ok {p : WorldPacket} (atEnd : p.AtEnd) {src : List UInt8}
    (room : src ≠ [] → p.size < ByteBuffer.appendLimit) : p.append src = .ok (p.extend src) := by
  rw [append, ByteBuffer.append_eq_ok atEnd room]
  rfl

theorem atEnd_extend {p : WorldPacket} (atEnd : p.AtEnd) (src : List UInt8) :
    (p.extend src).AtEnd := by
  unfold ByteBuffer.AtEnd ByteBuffer.size at atEnd ⊢
  simp [extend, atEnd]

theorem size_extend (p : WorldPacket) (src : List UInt8) :
    (p.extend src).size = p.size + src.length := by
  simp [extend, ByteBuffer.size]

theorem append_eq_error {p : WorldPacket} {src : List UInt8} (nonempty : src ≠ [])
    (full : ByteBuffer.appendLimit ≤ p.size) : p.append src = .error .assertion := by
  rw [append, ByteBuffer.append_eq_error nonempty full]
  rfl

/-- What a packet adds to a stream: its opcode byte and its payload. -/
def bytes (p : WorldPacket) : List UInt8 := p.opcode :: p.storage

theorem bytes_extend (p : WorldPacket) (src : List UInt8) :
    (p.extend src).bytes = p.bytes ++ src := rfl

end WorldPacket

end NoxServer
