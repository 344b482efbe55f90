import ZeroFeed.Core.ByteString

/-!
# Frame header and message types (`pkg/protocol/messages.go`)

Every frame starts with a fixed 38-byte header: magic, version, message type,
session identifier, nonce and payload length.  The same bytes are the
associated data of encrypted frames, so the header is proved to determine each
of its fields.
-/

namespace ZeroFeed.Messages

open ZeroFeed.ByteString

def version : Byte := 0x03
def minSupportedVersion : Byte := 0x03

/-! ## Frame types -/

def msgTypePAKEInitPub : Byte := 0x01
def msgTypePAKEInitSub : Byte := 0x02
def msgTypePAKEStep2 : Byte := 0x03
def msgTypeDataStream : Byte := 0x04
def msgTypeHeartbeat : Byte := 0x05
def msgTypeClose : Byte := 0x06
def msgTypeSyncReq : Byte := 0x07
def msgTypeChunkAck : Byte := 0x08
def msgTypeRekey : Byte := 0x09
def msgTypeKeyConfirm : Byte := 0x0A

/-! ## Payload tags inside an encrypted data frame -/

def tagText : Byte := 0x01
def tagFileStart : Byte := 0x02
def tagFileChunk : Byte := 0x03
def tagFileEnd : Byte := 0x04

/-! ## Sizes -/

def magicSize : ℕ := 4
def sessionIDSize : ℕ := 16
def nonceSize : ℕ := 12
def headerSize : ℕ := magicSize + 1 + 1 + sessionIDSize + nonceSize + 4

abbrev SessionID := FixedBytes sessionIDSize
abbrev Nonce := FixedBytes nonceSize

/-- `ZFED`. -/
def magicHeader : FixedBytes magicSize := ⟨[0x5A, 0x46, 0x45, 0x44], rfl⟩

/-- Metadata opening a file transfer.  Go strings are byte strings. -/
structure FileHeader where
  transferID : Bytes
  filename : Bytes
  fileSize : ℤ
  sha256 : Bytes
  deriving DecidableEq

/-- A frame: header fields and payload. -/
structure Envelope where
  version : Byte
  msgType : Byte
  sessionID : SessionID
  nonce : Nonce
  payload : Bytes
  deriving DecidableEq

/-- `binary.BigEndian.PutUint32`. -/
def putUint32 (value : ℕ) : FixedBytes 4 :=
  ⟨bigEndian 4 value, length_bigEndian 4 value⟩

/-- `binary.BigEndian.PutUint64`. -/
def putUint64 (value : ℕ) : FixedBytes 8 :=
  ⟨bigEndian 8 value, length_bigEndian 8 value⟩

theorem putUint32_inj {left right : ℕ} :
    putUint32 left = putUint32 right ↔ left % 2 ^ 32 = right % 2 ^ 32 := by
  rw [Subtype.ext_iff]
  exact bigEndian_inj

theorem putUint64_inj {left right : ℕ} :
    putUint64 left = putUint64 right ↔ left % 2 ^ 64 = right % 2 ^ 64 := by
  rw [Subtype.ext_iff]
  exact bigEndian_inj

/-- `binary.BigEndian.Uint64` of the first eight bytes. -/
def uint64 (bytes : Bytes) : ℕ := bigEndianValue (bytes.take 8)

theorem uint64_lt (bytes : Bytes) : uint64 bytes < 2 ^ 64 := by
  calc
    uint64 bytes < 256 ^ (bytes.take 8).length := bigEndianValue_lt _
    _ ≤ 256 ^ 8 := Nat.pow_le_pow_right (by omega) (List.length_take_le 8 bytes)
    _ = 2 ^ 64 := by norm_num

theorem uint64_putUint64 {value : ℕ} (hvalue : value < 2 ^ 64) (suffix : Bytes) :
    uint64 ((putUint64 value).val ++ suffix) = value := by
  have htake : ((putUint64 value).val ++ suffix).take 8 = bigEndian 8 value := by
    rw [List.take_append_of_le_length (by simp [putUint64])]
    exact List.take_of_length_le (by simp [putUint64])
  rw [uint64, htake]
  exact bigEndianValue_bigEndian_of_lt (by norm_num; exact hvalue)

/-- The fixed 38-byte binary frame header. -/
def serializeHeader (version msgType : Byte) (sessionID : SessionID) (nonce : Nonce)
    (payloadLen : ℕ) : Bytes :=
  magicHeader.val ++ ([version] ++ ([msgType] ++ (sessionID.val ++ (nonce.val ++
    (putUint32 payloadLen).val))))

@[simp]
theorem length_serializeHeader (version msgType : Byte) (sessionID : SessionID)
    (nonce : Nonce) (payloadLen : ℕ) :
    (serializeHeader version msgType sessionID nonce payloadLen).length = headerSize := by
  simp [serializeHeader, headerSize, magicHeader.property, sessionID.property,
    nonce.property, (putUint32 payloadLen).property]
  rfl

/-- A header determines the version, type, session, nonce and 32-bit length it
was built from.  This is what binds a sealed frame to all of them. -/
theorem serializeHeader_inj {leftVersion rightVersion leftType rightType : Byte}
    {leftID rightID : SessionID} {leftNonce rightNonce : Nonce}
    {leftLen rightLen : ℕ} :
    serializeHeader leftVersion leftType leftID leftNonce leftLen =
        serializeHeader rightVersion rightType rightID rightNonce rightLen ↔
      leftVersion = rightVersion ∧ leftType = rightType ∧ leftID = rightID ∧
        leftNonce = rightNonce ∧ leftLen % 2 ^ 32 = rightLen % 2 ^ 32 := by
  simp only [serializeHeader, List.append_cancel_left_eq, List.cons_append,
    List.nil_append, List.cons.injEq, append_inj_of_width]
  rw [← Subtype.ext_iff, putUint32_inj]

end ZeroFeed.Messages
