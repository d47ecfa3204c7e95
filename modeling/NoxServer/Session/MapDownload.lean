import NoxServer.Session.Opcodes
import NoxServer.Session.SendPacket

/-!
Map download: `WorldSession::_SendMapSendStart`, `_SendMapSendPacket` and the line of
`WorldSession::Update` that calls the latter, over the file access of `NoxMap`.

The packets hold the file, in order (`mapUpdates_data`). The transfer does not end: the
stop test multiplies the packet count by `PACKET_SIZE`, and `PACKET_SIZE` has by then
been overwritten with the number of bytes read, so the product never passes the size of
the file (`count_mul_read_le`).
-/

namespace NoxServer.Session

/-- `NoxMap`: the opened map file, and the fixed-size name sent to clients. -/
structure NoxMap where
  nxzFile : Option (List UInt8)
  nxzname : List UInt8 := List.replicate 0x50 0

namespace NoxMap

/-- `GetNxzSize()`, as `getNxz` set it. -/
def getNxzSize (m : NoxMap) : UInt32 :=
  match m.nxzFile with
  | none => 0
  | some file => UInt32.ofNat file.length

/-- `ReadNxzBytes(offset, buffer, size)`: the bytes `fread` puts in the buffer. -/
def readNxzBytes (m : NoxMap) (offset : UInt32) (size : UInt16) : List UInt8 :=
  match m.nxzFile with
  | none => []
  | some file => if m.getNxzSize = 0 then [] else (file.drop offset.toNat).take size.toNat

end NoxMap

namespace WorldSession

def _sendMapSendStart (s : WorldSession) (m : NoxMap) : WorldSession × List SendCall :=
  if s.playerDownloading = 0 then
    let payload := [0xF8] ++ ByteBuffer.toBytes 2 0x0013 ++
      ByteBuffer.toBytes 4 m.getNxzSize.toNat ++ m.nxzname
    ({ s with playerDownloading := 1, unk2 := s.unk },
      [{ packet := .ofPayload msgMapSendStart 0x80 s.client payload
         ifReady := false, unk := s.unk, loading := s.playerLoading }])
  else (s, [])

def _sendMapSendPacket (s : WorldSession) (m : NoxMap) : WorldSession × SendCall :=
  let unk2 := s.unk2 + 1
  let data := m.readNxzBytes ((s.playerDownloading - 1) * 0x200).toUInt32 0x200
  -- the bytes read, and what `PACKET_SIZE` is from here on
  let packetSize := Int32.ofNat data.length
  let payload := [0xF8] ++ ByteBuffer.toBytes 2 s.playerDownloading.toUInt32.toNat ++
    ByteBuffer.toBytes 2 data.length ++ data
  let call : SendCall :=
    { packet := { WorldPacket.ofPayload msgMapSendPacket 0x80 s.client payload with unk := unk2 }
      ifReady := false, changeUnk := false, unk := s.unk, loading := s.playerLoading }
  let playerDownloading := s.playerDownloading + 1
  ({ s with
      unk2 := unk2
      playerDownloading :=
        if ((playerDownloading - 1) * packetSize).toUInt32 > m.getNxzSize then 0
        else playerDownloading }, call)

/-- The line of `Update(diff)` that continues a download. -/
def mapUpdate (s : WorldSession) (m : NoxMap) : WorldSession × List SendCall :=
  if s.playerDownloading > 0 then
    let out := s._sendMapSendPacket m
    (out.1, [out.2])
  else (s, [])

/-- A number of session updates, as far as the download is concerned. -/
def mapUpdates (m : NoxMap) : Nat → WorldSession → WorldSession × List SendCall
  | 0, s => (s, [])
  | updates + 1, s =>
      let out := s.mapUpdate m
      let rest := mapUpdates m updates out.1
      (rest.1, out.2 ++ rest.2)

end WorldSession

/-! ### What a download is to do -/

/-- The packet number of a data packet. -/
def mapPacketNumber (call : SendCall) : Nat :=
  ByteBuffer.fromBytes ((call.packet.storage.drop 1).take 2)

/-- The file bytes of a data packet. -/
def mapPacketData (call : SendCall) : List UInt8 := call.packet.storage.drop 5

/-- The number of 512-byte pieces of a file. -/
def pieces (file : List UInt8) : Nat := (file.length + 511) / 512

/-- A download from its start: after as many updates as the file has pieces, the packets
are numbered from 1, hold the file, and none is to follow. -/
structure DownloadCompletes (m : NoxMap) (s : WorldSession) (file : List UInt8) : Prop where
  numbered : (WorldSession.mapUpdates m (pieces file) (s._sendMapSendStart m).1).2.map
    mapPacketNumber = List.range' 1 (pieces file)
  holds : (WorldSession.mapUpdates m (pieces file) (s._sendMapSendStart m).1).2.flatMap
    mapPacketData = file
  ends : (WorldSession.mapUpdates m (pieces file) (s._sendMapSendStart m).1).1.playerDownloading
    = 0

/-! ### Packets -/

/-- The piece of a file after `sent` packets. -/
def piece (file : List UInt8) (sent : Nat) : List UInt8 := (file.drop (sent * 512)).take 512

theorem length_piece_le (file : List UInt8) (sent : Nat) : (piece file sent).length ≤ 512 :=
  List.length_take_le ..

/-- The stop test cannot succeed: the packets so far times the bytes just read is at most
the size of the file. -/
theorem count_mul_read_le (file : List UInt8) (sent : Nat) :
    (sent + 1) * (piece file sent).length ≤ file.length := by
  have length : (piece file sent).length = min 512 (file.length - sent * 512) := by
    simp [piece]
  by_cases remain : sent * 512 < file.length
  · have before := Nat.mul_le_mul_left sent (length_piece_le file sent)
    rw [Nat.succ_mul]
    omega
  · have past : (piece file sent).length = 0 := by omega
    simp [past]

theorem numbered_packet (number : Nat) (data : List UInt8) :
    ByteBuffer.fromBytes ((([0xF8] ++ ByteBuffer.toBytes 2 number ++
      ByteBuffer.toBytes 2 data.length ++ data).drop 1).take 2) = number % 65536 := by
  have two : (ByteBuffer.toBytes 2 number).length = 2 := ByteBuffer.length_toBytes 2 number
  have field : ((([0xF8] ++ ByteBuffer.toBytes 2 number ++
      ByteBuffer.toBytes 2 data.length ++ data).drop 1).take 2) = ByteBuffer.toBytes 2 number := by
    simp [two]
  calc _ = number % 256 ^ 2 := by rw [field, ByteBuffer.fromBytes_toBytes]
    _ = number % 65536 := by simp

/-- One data packet, while pieces remain. -/
theorem _sendMapSendPacket_spec {m : NoxMap} {file : List UInt8} (opened : m.nxzFile = some file)
    (size : file.length < 2 ^ 31) {s : WorldSession} {sent : Nat}
    (remain : sent * 512 < file.length)
    (downloading : s.playerDownloading = Int32.ofNat (sent + 1)) :
    mapPacketNumber (s._sendMapSendPacket m).2 = (sent + 1) % 65536 ∧
      mapPacketData (s._sendMapSendPacket m).2 = piece file sent ∧
      (s._sendMapSendPacket m).1.playerDownloading = Int32.ofNat (sent + 2) := by
  have word : 2 ^ 31 < UInt32.size := by decide
  have nxzSize : m.getNxzSize = UInt32.ofNat file.length := by simp [NoxMap.getNxzSize, opened]
  have offset : ((s.playerDownloading - 1) * 0x200).toUInt32 = UInt32.ofNat (sent * 512) := by
    rw [downloading, Int32.ofNat_add]
    exact congrArg (fun k => (k * 0x200).toUInt32) (Int32.add_sub_cancel _ _)
      |>.trans (congrArg Int32.toUInt32 (Int32.ofNat_mul sent 512).symm)
  have data : m.readNxzBytes ((s.playerDownloading - 1) * 0x200).toUInt32 0x200 =
      piece file sent := by
    have nonzero : UInt32.ofNat file.length ≠ 0 := by
      intro zero
      have length := congrArg UInt32.toNat zero
      rw [UInt32.toNat_ofNat_of_lt' (by omega), UInt32.toNat_zero] at length
      omega
    have place : (UInt32.ofNat (sent * 512)).toNat = sent * 512 :=
      UInt32.toNat_ofNat_of_lt' (by omega)
    simp only [NoxMap.readNxzBytes, opened, nxzSize, if_neg nonzero, offset, place]
    rfl
  have goesOn : ¬ ((s.playerDownloading + 1 - 1) * Int32.ofNat (piece file sent).length).toUInt32 >
      m.getNxzSize := by
    have product := count_mul_read_le file sent
    rw [Int32.add_sub_cancel, downloading, ← Int32.ofNat_mul, nxzSize]
    have small : (UInt32.ofNat ((sent + 1) * (piece file sent).length)).toNat =
        (sent + 1) * (piece file sent).length := UInt32.toNat_ofNat_of_lt' (by omega)
    have whole : (UInt32.ofNat file.length).toNat = file.length :=
      UInt32.toNat_ofNat_of_lt' (by omega)
    rw [Int32.toUInt32_ofNat', gt_iff_lt, UInt32.lt_iff_toNat_lt, small, whole]
    omega
  refine ⟨?_, ?_, ?_⟩
  · simp only [mapPacketNumber, WorldSession._sendMapSendPacket, WorldPacket.ofPayload,
      downloading, Int32.toUInt32_ofNat']
    rw [numbered_packet, UInt32.toNat_ofNat_of_lt' (by omega)]
  · simp only [mapPacketData, WorldSession._sendMapSendPacket, data, WorldPacket.ofPayload]
    simp [ByteBuffer.toBytes]
  · simp only [WorldSession._sendMapSendPacket, data, if_neg goesOn]
    rw [downloading]
    exact (Int32.ofNat_add (sent + 1) 1).symm

/-! ### Whole downloads -/

/-- While pieces remain, each update sends the next one and the download goes on. -/
theorem mapUpdates_spec {m : NoxMap} {file : List UInt8} (opened : m.nxzFile = some file)
    (size : file.length < 2 ^ 31) (updates : Nat) {s : WorldSession} {sent : Nat}
    (remain : sent + updates ≤ pieces file)
    (downloading : s.playerDownloading = Int32.ofNat (sent + 1)) :
    let out := WorldSession.mapUpdates m updates s
    out.2.map mapPacketNumber = (List.range' (sent + 1) updates).map (· % 65536) ∧
      out.2.flatMap mapPacketData = (file.drop (sent * 512)).take (updates * 512) ∧
      out.1.playerDownloading = Int32.ofNat (sent + updates + 1) := by
  induction updates generalizing s sent with
  | zero => exact ⟨rfl, by simp [WorldSession.mapUpdates], downloading⟩
  | succ updates ih =>
      have more : sent * 512 < file.length := by
        unfold pieces at remain
        omega
      obtain ⟨number, data, next⟩ := _sendMapSendPacket_spec opened size more downloading
      have active : s.playerDownloading > 0 := by
        rw [downloading, gt_iff_lt, Int32.lt_iff_toInt_lt, Int32.toInt_ofNat_of_lt (by omega)]
        exact Int.natCast_pos.mpr (Nat.succ_pos sent)
      have remain' : sent + 1 + updates ≤ pieces file := by omega
      obtain ⟨numbers, datas, last⟩ := ih remain' next
      simp only [WorldSession.mapUpdates, WorldSession.mapUpdate, if_pos active]
      refine ⟨?_, ?_, ?_⟩
      · simp only [numbers, List.range'_succ, List.map_cons, number, List.singleton_append]
      · have skip : (sent + 1) * 512 = sent * 512 + 512 := by omega
        have split : (updates + 1) * 512 = 512 + updates * 512 := by
          rw [Nat.add_mul, Nat.one_mul, Nat.add_comm]
        have cut : (file.drop (sent * 512)).take (512 + updates * 512) =
            piece file sent ++ ((file.drop (sent * 512)).drop 512).take (updates * 512) :=
          List.take_add
        rw [List.flatMap_append, datas, List.flatMap_singleton, data, skip, split, cut,
          List.drop_drop]
      · rw [last]
        congr 1
        omega

theorem _sendMapSendStart_downloading {s : WorldSession} (idle : s.playerDownloading = 0)
    (m : NoxMap) : (s._sendMapSendStart m).1.playerDownloading = Int32.ofNat (0 + 1) := by
  rw [WorldSession._sendMapSendStart, if_pos idle]
  rfl

theorem le_pieces (file : List UInt8) : file.length ≤ pieces file * 512 := by
  unfold pieces
  omega

/-- The first updates send exactly the file, in packets numbered from 1 as far as 16 bits
count, and the download is then still going on. -/
theorem mapUpdates_data {m : NoxMap} {file : List UInt8} (opened : m.nxzFile = some file)
    (size : file.length < 2 ^ 31) {s : WorldSession} (idle : s.playerDownloading = 0) :
    let out := WorldSession.mapUpdates m (pieces file) (s._sendMapSendStart m).1
    out.2.map mapPacketNumber = (List.range' 1 (pieces file)).map (· % 65536) ∧
      out.2.flatMap mapPacketData = file ∧
      out.1.playerDownloading = Int32.ofNat (pieces file + 1) := by
  obtain ⟨numbers, datas, last⟩ := mapUpdates_spec opened size (pieces file)
    (Nat.le_of_eq (Nat.zero_add _)) (_sendMapSendStart_downloading idle m)
  refine ⟨numbers, ?_, ?_⟩
  · rw [datas, Nat.zero_mul, List.drop_zero]
    exact List.take_of_length_le (le_pieces file)
  · rw [last, Nat.zero_add]

/-- A packet number has 16 bits. -/
theorem mapPacketNumber_lt (call : SendCall) : mapPacketNumber call < 65536 := by
  let field := (call.packet.storage.drop 1).take 2
  have two : field.length ≤ 2 := List.length_take_le ..
  calc
    mapPacketNumber call < 256 ^ field.length := ByteBuffer.fromBytes_lt field
    _ ≤ 256 ^ 2 := Nat.pow_le_pow_right (by decide) two

/-- No download completes, whatever the file. Files below 2 GiB are sent whole (`mapUpdates_data`),
but the test that should end them multiplies the packets by the bytes of the last read, which never
comes to more than the file (`count_mul_read_le`), so the download goes on after them; larger files
have more pieces than packet numbers. -/
theorem not_downloadCompletes (m : NoxMap) (s : WorldSession) (file : List UInt8)
    (opened : m.nxzFile = some file) (idle : s.playerDownloading = 0) :
    ¬ DownloadCompletes m s file := by
  intro completes
  by_cases size : file.length < 2 ^ 31
  · obtain ⟨_, _, goesOn⟩ := mapUpdates_data opened size idle
    have few : pieces file + 1 < 2 ^ 31 := by
      unfold pieces
      omega
    have ends := congrArg Int32.toInt (goesOn.symm.trans completes.ends)
    rw [Int32.toInt_ofNat_of_lt few, Int32.toInt_zero] at ends
    omega
  · have many : 65536 ≤ pieces file := by
      unfold pieces
      omega
    have last : pieces file ∈ List.range' 1 (pieces file) := by
      rw [List.mem_range'_1]
      omega
    rw [← completes.numbered, List.mem_map] at last
    obtain ⟨call, _, number⟩ := last
    have bound := mapPacketNumber_lt call
    omega

/-- A file of exactly one piece. -/
theorem not_downloadCompletes_piece :
    ¬ DownloadCompletes { nxzFile := some (List.replicate 512 7) } (WorldSession.create 1)
      (List.replicate 512 7) :=
  not_downloadCompletes _ _ _ rfl rfl

/-- A file of three bytes: one packet sends it, and the session goes on to a second. -/
theorem download_goes_on :
    ¬ DownloadCompletes { nxzFile := some [0x4E, 0x58, 0x5A] } (WorldSession.create 1)
      [0x4E, 0x58, 0x5A] :=
  fun completes => absurd completes.ends (by decide)

end NoxServer.Session
