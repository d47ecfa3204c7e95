import NoxServer.Crypt.Bitwise

/-!
The game record of `WolSocket::OnConnect` (`WolSocket.cpp`).

The server announces its game in the topic of an IRC channel. The record has the server's name,
the map's name and the number of players of the configuration, and is packed with
`EncryptBitwise`, so that none of its bytes ends the line it is in.
-/

namespace NoxServer.Wol

open BitStream Crypt

/-- `GetString("ServerName")`, `GetString("MapName")` and `GetInt("NumPlayers")`, where the
configuration has them. -/
structure Config where
  serverName : Option (List UInt8) := none
  mapName : Option (List UInt8) := none
  numPlayers : Option UInt32 := none

def gameData : List UInt8 :=
  [0x9A, 0x03, 0x01, 0x80, 0xFE, 0x87, 0x88, 0x80, 0xE4, 0xFF, 0xFF, 0xFF, 0xFF, 0xFB, 0xC4, 0xB4,
    0xEA, 0xDB, 0xAF, 0xCF, 0xE0, 0x95, 0xF3, 0x86, 0x80, 0x80, 0xAD, 0xEF, 0xC2, 0x95, 0xA2, 0xB4,
    0x89, 0x88, 0xAA, 0xE5, 0xE6, 0xD1, 0x83, 0x80, 0x80, 0x80, 0x80, 0xFF, 0xFF, 0xFF, 0xFF, 0xFF,
    0xFF, 0xFF, 0xFF, 0xFF, 0xFF, 0xFF, 0xFF, 0xFF, 0xFF, 0xFF, 0xFF, 0xFF, 0xFF, 0xFF, 0xFF, 0xFF,
    0xFF, 0xFF, 0xFF, 0xFF, 0xFF, 0xFF, 0xFF, 0xFF, 0xFF, 0xFF, 0xFF, 0x87, 0xC1, 0xBC, 0x80, 0x80,
    0x80, 0x0D, 0x0A, 0x00]

/-- `gameData2` before it is filled in. -/
def gameData2 : List UInt8 :=
  [0x00, 0xFF, 0x01, 0x01, 0x20, 0xFF, 0xFF, 0xFF, 0xFF, 0x9E, 0x48, 0x53, 0x6F, 0x5F, 0x4F, 0x70,
    0x65, 0x6E, 0x00, 0x00, 0x5A, 0x6F, 0x61, 0x45, 0x44, 0x4B, 0x20, 0x54, 0x65, 0x73, 0x74, 0x00,
    0x00, 0x00, 0x00, 0xFF, 0xFF, 0xFF, 0xFF, 0xFF, 0xFF, 0xFF, 0xFF, 0xFF, 0xFF, 0xFF, 0xFF, 0xFF,
    0xFF, 0xFF, 0xFF, 0xFF, 0xFF, 0xFF, 0xFF, 0xFF, 0xFF, 0xFF, 0xFF, 0xFF, 0xFF, 0xFF, 0xFF, 0x87,
    0x20, 0x0F, 0x00, 0x00, 0x34, 0x00, 0x00, 0x00, 0x00, 0x00, 0x00, 0x00, 0x00, 0x00]

/-- `memcpy(&data[offset], bytes, bytes.size())`. -/
def copyTo (data : List UInt8) (offset : Nat) (bytes : List UInt8) : List UInt8 :=
  data.take offset ++ bytes ++ data.drop (offset + bytes.length)

/-- At most `max` bytes of a value, where there is one. -/
def fill (data : List UInt8) (offset max : Nat) : Option (List UInt8) → List UInt8
  | some val => copyTo data offset (val.take max)
  | none => data

/-- `gameData2` with what is configured; of the number of players, the lowest byte. -/
def gameRecord (config : Config) : List UInt8 :=
  let data := fill gameData2 0x14 0xE config.serverName
  let data := fill data 0xB 0x08 config.mapName
  fill data 0x4 0x01 (config.numPlayers.map fun ival => [ival.toUInt8])

/-- What of `gameData` follows `TOPIC`. -/
def topicData (config : Config) : Except Fault (List UInt8) := do
  let record ← encryptBitwise (gameRecord config) 0x4E
  return (copyTo gameData 3 record).take (0x54 - 1)

/-! ### The record is one line -/

theorem fill_length {data : List UInt8} {offset max : Nat} (inside : offset + max ≤ data.length)
    (val : Option (List UInt8)) : (fill data offset max val).length = data.length := by
  cases val with
  | none => rfl
  | some val =>
      have few := List.length_take_le max val
      rw [fill, copyTo, List.length_append, List.length_append, List.length_take, List.length_drop]
      omega

theorem gameRecord_length (config : Config) : (gameRecord config).length = 0x4E := by
  have size : gameData2.length = 0x4E := rfl
  have named : (fill gameData2 0x14 0xE config.serverName).length = 0x4E :=
    fill_length (by decide) _
  have mapped : (fill (fill gameData2 0x14 0xE config.serverName) 0xB 0x08
      config.mapName).length = 0x4E := (fill_length (by omega) _).trans named
  exact (fill_length (by omega) _).trans mapped

/-- A byte with its eighth bit set. -/
theorem ne_of_flag {byte : UInt8} (flag : byte.toNat.testBit 7 = true) :
    byte ≠ 0x00 ∧ byte ≠ 0x0D ∧ byte ≠ 0x0A := by
  refine ⟨?_, ?_, ?_⟩
  · rintro rfl
    exact absurd flag (by decide)
  · rintro rfl
    exact absurd flag (by decide)
  · rintro rfl
    exact absurd flag (by decide)

/-- All groups of the record are written, so no byte of it is NUL, CR or LF. -/
theorem gameRecord_encoded (config : Config) :
    ∃ record, encryptBitwise (gameRecord config) 0x4E = .ok record ∧ record.length = 0x4E ∧
      ∀ byte ∈ record, byte ≠ 0x00 ∧ byte ≠ 0x0D ∧ byte ≠ 0x0A := by
  have length := gameRecord_length config
  have all : groups (0x4E - 9) = 0x4E := by decide
  obtain ⟨record, encode, size, written, _⟩ := encryptBitwise_eq_stream (by decide)
    (by decide) (Nat.le_of_eq length.symm) (Nat.le_of_eq (all.trans length.symm))
  refine ⟨record, encode, size.trans length, fun byte mem => ?_⟩
  obtain ⟨k, inside, rfl⟩ := List.mem_iff_getElem.mp mem
  have flag := (written k (by omega)).1
  rw [List.getD_eq_getElem _ _ inside] at flag
  exact ne_of_flag flag

/-- The record is sent as it is encoded, before the end of the line. -/
theorem topicData_eq {config : Config} {record : List UInt8}
    (encode : encryptBitwise (gameRecord config) 0x4E = .ok record) (size : record.length = 0x4E) :
    topicData config = .ok ([0x9A, 0x03, 0x01] ++ record ++ [0x0D, 0x0A]) := by
  have start : gameData.take 3 = [0x9A, 0x03, 0x01] := rfl
  have rest : gameData.drop (3 + record.length) = [0x0D, 0x0A, 0x00] := by
    rw [size]
    rfl
  rw [topicData, encode, ok_bind, copyTo, start, rest]
  have whole : [0x9A, 0x03, 0x01] ++ record ++ [0x0D, 0x0A, 0x00] =
      ([0x9A, 0x03, 0x01] ++ record ++ [0x0D, 0x0A]) ++ [(0x00 : UInt8)] := by
    simp
  rw [whole, List.take_left' (by simp [size])]
  rfl

/-- `EncryptBitwise` packs the stream of the first `dataLen - 9` bytes into groups of seven bits
with the eighth bit set and leaves the rest of the buffer as it is, so the record that is sent has
no NUL, CR or LF in it, whatever the configuration. -/
theorem encryptBitwise_packs {data : List UInt8} {dataLen : Nat} (le : 10 ≤ dataLen)
    (few : groups (dataLen - 9) ≤ 256) (size : dataLen ≤ data.length)
    (room : groups (dataLen - 9) ≤ data.length) (config : Config) :
    (∃ out, encryptBitwise data dataLen = .ok out ∧ out.length = data.length ∧
      (∀ k < groups (dataLen - 9), (out.getD k 0).toNat.testBit 7 = true ∧
        ∀ b < 7, (out.getD k 0).toNat.testBit b = bit 8 data (7 * k + b)) ∧
      ∀ k, groups (dataLen - 9) ≤ k → out.getD k 0 = data.getD k 0) ∧
    ∃ record, encryptBitwise (gameRecord config) 0x4E = .ok record ∧
      topicData config = .ok ([0x9A, 0x03, 0x01] ++ record ++ [0x0D, 0x0A]) ∧
      ∀ byte ∈ record, byte ≠ 0x00 ∧ byte ≠ 0x0D ∧ byte ≠ 0x0A := by
  refine ⟨encryptBitwise_eq_stream le few size room, ?_⟩
  obtain ⟨record, encode, length, clean⟩ := gameRecord_encoded config
  exact ⟨record, encode, topicData_eq encode length, clean⟩

theorem encryptBitwise_packs_sixteen :
    (∃ out, encryptBitwise (List.replicate 16 0x5A) 16 = .ok out ∧ out.length = 16 ∧
      (∀ k < groups 7, (out.getD k 0).toNat.testBit 7 = true ∧
        ∀ b < 7, (out.getD k 0).toNat.testBit b = bit 8 (List.replicate 16 0x5A) (7 * k + b)) ∧
      ∀ k, groups 7 ≤ k → out.getD k 0 = (List.replicate 16 0x5A).getD k 0) ∧
    ∃ record, encryptBitwise (gameRecord {}) 0x4E = .ok record ∧
      topicData {} = .ok ([0x9A, 0x03, 0x01] ++ record ++ [0x0D, 0x0A]) ∧
      ∀ byte ∈ record, byte ≠ 0x00 ∧ byte ≠ 0x0D ∧ byte ≠ 0x0A :=
  encryptBitwise_packs (by decide) (by decide) (by decide) (by decide) {}

end NoxServer.Wol
