import ZeroFeed.Protocol.Messages

/-!
# Framing and padding (`pkg/protocol/envelope.go`)

`encode` writes one frame, `decodeWithMax` reads one frame from the front of a
byte stream and reports what is left of the stream.  `padPayload` hides the
length of short payloads inside the encrypted body.  Go's `uint32` conversions
are written out as reductions modulo `2 ^ 32`.
-/

namespace ZeroFeed.Envelope

open ZeroFeed.ByteString
open ZeroFeed.Messages

/-- The errors of this package.  `sliceOutOfRange` stands for the run-time
panic of a Go slice expression. -/
inductive FrameError where
  | eof
  | unexpectedEOF
  | invalidMagic
  | unsupportedVer (version : Byte)
  | payloadTooLarge
  | payloadRead (declared : ℕ)
  | invalidPadding
  | sliceOutOfRange
  deriving DecidableEq

/-- The 32 MiB safety limit. -/
def maxPayloadSize : ℕ := 32 * 1024 * 1024

/-- Limit for the first frame of an unauthenticated connection. -/
def maxHandshakePayload : ℕ := 8192

def encode (env : Envelope) : Except FrameError Bytes :=
  let payloadLen := env.payload.length % 2 ^ 32
  if maxPayloadSize < payloadLen then .error .payloadTooLarge
  else .ok (serializeHeader env.version env.msgType env.sessionID env.nonce payloadLen ++
    env.payload.take payloadLen)

/-- The length field of the header at the front of a byte string. -/
def declaredLen (input : Bytes) : ℕ := bigEndianValue ((input.drop 34).take 4)

/-- Read one frame; the second component is the unread rest of the stream. -/
def decodeWithMax (input : Bytes) (maxPayload : ℕ) :
    Except FrameError Envelope × Bytes :=
  if input.length < headerSize then
    (.error (if input = [] then .eof else .unexpectedEOF), [])
  else
    let headerBuf := input.take headerSize
    let rest := input.drop headerSize
    if headerBuf.take 4 ≠ magicHeader.val then (.error .invalidMagic, rest)
    else
      let version := headerBuf.getD 4 0
      if version < minSupportedVersion then (.error (.unsupportedVer version), rest)
      else
        let payloadLen := bigEndianValue ((headerBuf.drop 34).take 4)
        if maxPayload < payloadLen then (.error .payloadTooLarge, rest)
        else if rest.length < payloadLen then (.error (.payloadRead payloadLen), [])
        else
          (.ok { version := version
                 msgType := headerBuf.getD 5 0
                 sessionID := copyFixed sessionIDSize (headerBuf.drop 6)
                 nonce := copyFixed nonceSize (headerBuf.drop 22)
                 payload := rest.take payloadLen }, rest.drop payloadLen)

def decode (input : Bytes) : Except FrameError Envelope × Bytes :=
  decodeWithMax input maxPayloadSize

/-- The envelopes `decode` can return: nothing below the minimum version and
no payload above the size limit. -/
structure Decodable (env : Envelope) : Prop where
  version_ge : ¬ env.version < minSupportedVersion
  payload_le : env.payload.length ≤ maxPayloadSize

instance (env : Envelope) : Decidable (Decodable env) :=
  decidable_of_iff (¬ env.version < minSupportedVersion ∧ env.payload.length ≤ maxPayloadSize)
    ⟨fun hfields => ⟨hfields.1, hfields.2⟩, fun henv => ⟨henv.version_ge, henv.payload_le⟩⟩

theorem decode_decodable {input rest : Bytes} {env : Envelope}
    (hdecode : decode input = (.ok env, rest)) : Decodable env := by
  rw [decode, decodeWithMax] at hdecode
  simp only at hdecode
  split at hdecode
  · simp at hdecode
  split at hdecode
  · simp at hdecode
  split at hdecode
  · simp at hdecode
  rename_i hversion
  split at hdecode
  · simp at hdecode
  rename_i hmax
  split at hdecode
  · simp at hdecode
  obtain ⟨henv, -⟩ := Prod.mk.inj hdecode
  obtain rfl := Except.ok.inj henv
  exact ⟨hversion, (List.length_take_le _ _).trans (not_lt.mp hmax)⟩

/-! ## Round trip -/

section Header

variable (version msgType : Byte) (sessionID : SessionID) (nonce : Nonce)
variable (payloadLen : ℕ)

theorem take_magic_serializeHeader :
    (serializeHeader version msgType sessionID nonce payloadLen).take 4 =
      magicHeader.val := by
  rw [serializeHeader, List.take_append_of_le_length (by simp [magicHeader])]
  rfl

theorem getD_version_serializeHeader :
    (serializeHeader version msgType sessionID nonce payloadLen).getD 4 0 = version := by
  simp [serializeHeader, magicHeader]

theorem getD_msgType_serializeHeader :
    (serializeHeader version msgType sessionID nonce payloadLen).getD 5 0 = msgType := by
  simp [serializeHeader, magicHeader]

theorem drop_sessionID_serializeHeader :
    (serializeHeader version msgType sessionID nonce payloadLen).drop 6 =
      sessionID.val ++ (nonce.val ++ (putUint32 payloadLen).val) := by
  simp [serializeHeader, magicHeader]

theorem drop_nonce_serializeHeader :
    (serializeHeader version msgType sessionID nonce payloadLen).drop 22 =
      nonce.val ++ (putUint32 payloadLen).val := by
  rw [show 22 = 6 + sessionIDSize from rfl, ← List.drop_drop,
    drop_sessionID_serializeHeader]
  exact List.drop_left' sessionID.property

theorem drop_length_serializeHeader :
    (serializeHeader version msgType sessionID nonce payloadLen).drop 34 =
      (putUint32 payloadLen).val := by
  rw [show 34 = 22 + nonceSize from rfl, ← List.drop_drop, drop_nonce_serializeHeader]
  exact List.drop_left' nonce.property

end Header

theorem encode_of_decodable {env : Envelope} (henv : Decodable env) :
    encode env = .ok (serializeHeader env.version env.msgType env.sessionID env.nonce
      env.payload.length ++ env.payload) := by
  have hsmall : env.payload.length % 2 ^ 32 = env.payload.length := by
    apply Nat.mod_eq_of_lt
    exact henv.payload_le.trans_lt (by norm_num [maxPayloadSize])
  rw [encode, hsmall, List.take_length]
  exact if_neg (not_lt.mpr henv.payload_le)

/-- A frame survives the stream: whatever follows it, decoding its encoding returns
the envelope and leaves exactly what followed, unless its payload is above the
bound. -/
theorem decodeWithMax_encode {env : Envelope} {bytes : Bytes} (henv : Decodable env)
    (hencode : encode env = .ok bytes) (rest : Bytes) (maxPayload : ℕ) :
    decodeWithMax (bytes ++ rest) maxPayload =
      if maxPayload < env.payload.length then (.error .payloadTooLarge, env.payload ++ rest)
      else (.ok env, rest) := by
  rw [encode_of_decodable henv] at hencode
  obtain rfl := Except.ok.inj hencode
  set header := serializeHeader env.version env.msgType env.sessionID env.nonce
    env.payload.length with hheader
  have hlength : header.length = headerSize := by simp [hheader]
  have htake : (header ++ env.payload ++ rest).take headerSize = header := by
    rw [List.append_assoc, ← hlength]
    exact List.take_left
  have hdrop : (header ++ env.payload ++ rest).drop headerSize = env.payload ++ rest := by
    rw [List.append_assoc, ← hlength]
    exact List.drop_left
  have hdeclared : bigEndianValue ((header.drop 34).take 4) = env.payload.length := by
    rw [hheader, drop_length_serializeHeader,
      List.take_of_length_le (le_of_eq (putUint32 env.payload.length).property)]
    apply bigEndianValue_bigEndian_of_lt
    exact henv.payload_le.trans_lt (by norm_num [maxPayloadSize])
  have hmagic : header.take 4 = magicHeader.val := take_magic_serializeHeader ..
  have hversion : header.getD 4 0 = env.version := getD_version_serializeHeader ..
  have hmsgType : header.getD 5 0 = env.msgType := getD_msgType_serializeHeader ..
  have hsession : copyFixed sessionIDSize (header.drop 6) = env.sessionID := by
    rw [hheader, drop_sessionID_serializeHeader]
    exact copyFixed_append _ _
  have hnonce : copyFixed nonceSize (header.drop 22) = env.nonce := by
    rw [hheader, drop_nonce_serializeHeader]
    exact copyFixed_append _ _
  have hlong : ¬ (header ++ env.payload ++ rest).length < headerSize := by
    simp only [List.length_append, hlength]
    omega
  have hpayload : ¬ (env.payload ++ rest).length < env.payload.length := by
    simp only [List.length_append]
    omega
  rw [decodeWithMax]
  simp only [htake, hdrop, hmagic, hversion, hmsgType, hsession, hnonce, hdeclared, hlong,
    hpayload, henv.version_ge, ne_eq, not_true_eq_false, if_false, List.take_left,
    List.drop_left]

/-- What the peer reads when one frame is written to a lossless connection;
`none` when `encode` refuses the frame. -/
def transmit (env : Envelope) : Option Envelope :=
  match encode env with
  | .ok bytes => (decode bytes).1.toOption
  | .error _ => none

theorem transmit_eq_some {env : Envelope} (henv : Decodable env) :
    transmit env = some env := by
  have hdecode := decodeWithMax_encode henv (encode_of_decodable henv) [] maxPayloadSize
  rw [List.append_nil, if_neg (not_lt.mpr henv.payload_le), ← decode] at hdecode
  simp [transmit, encode_of_decodable henv, hdecode, Except.toOption]

theorem transmit_decodable {env received : Envelope} (htransmit : transmit env = some received) :
    Decodable received := by
  rw [transmit] at htransmit
  split at htransmit
  · rename_i bytes hencode
    cases hdecode : decode bytes with
    | mk result rest =>
        rw [hdecode] at htransmit
        cases result with
        | error err => cases htransmit
        | ok env =>
            cases htransmit
            exact decode_decodable hdecode
  · cases htransmit

theorem decode_msgType {header body rest : Bytes} {env : Envelope}
    (hheader : header.length = headerSize) (hdecode : decode (header ++ body) = (.ok env, rest)) :
    env.msgType = header.getD 5 0 := by
  have htake : (header ++ body).take headerSize = header := List.take_left' hheader
  rw [decode, decodeWithMax] at hdecode
  simp only [htake] at hdecode
  iterate 5
    split at hdecode
    · cases hdecode
  cases hdecode
  rfl

/-- Whatever the relay's peer reads has the type that was written. -/
theorem transmit_msgType {env received : Envelope} (htransmit : transmit env = some received) :
    received.msgType = env.msgType := by
  unfold transmit encode at htransmit
  simp only at htransmit
  split at htransmit
  · rename_i bytes hencode
    split at hencode
    · cases hencode
    · cases hencode
      cases hdecode : decode (serializeHeader env.version env.msgType env.sessionID env.nonce
          (env.payload.length % 2 ^ 32) ++ env.payload.take (env.payload.length % 2 ^ 32)) with
      | mk result rest =>
          rw [hdecode] at htransmit
          cases result with
          | error err => cases htransmit
          | ok out =>
              cases htransmit
              rw [decode_msgType (length_serializeHeader ..) hdecode]
              exact getD_msgType_serializeHeader ..
  · cases htransmit

/-! ## Padding -/

def defaultPaddingTargetSize : ℤ := 1280

def lenPrefixSize : ℕ := 4

/-- Prepend the real length and fill up to `targetSize` with zeros. -/
def padPayload (data : Bytes) (targetSize : ℤ) : Bytes :=
  let needed := data.length + lenPrefixSize
  let size := if (needed : ℤ) > targetSize then needed else targetSize.toNat
  (putUint32 data.length).val ++ data ++ List.replicate (size - needed) 0

def unpadPayload (data : Bytes) : Except FrameError Bytes :=
  if data.length < lenPrefixSize then .error .invalidPadding
  else
    let realLen := bigEndianValue (data.take lenPrefixSize)
    if data.length < realLen + lenPrefixSize then .error .invalidPadding
    else
      let sliceEnd := (lenPrefixSize + realLen) % 2 ^ 32
      if sliceEnd < lenPrefixSize then .error .sliceOutOfRange
      else .ok ((data.take sliceEnd).drop lenPrefixSize)

theorem length_padPayload (data : Bytes) (targetSize : ℤ) :
    ((padPayload data targetSize).length : ℤ) =
      max targetSize (data.length + lenPrefixSize) := by
  have hhead : lenPrefixSize = 4 := rfl
  simp only [padPayload, List.length_append, (putUint32 data.length).property,
    List.length_replicate]
  by_cases hneeded : ((data.length + lenPrefixSize : ℕ) : ℤ) > targetSize
  · rw [if_pos hneeded]
    omega
  · rw [if_neg hneeded]
    omega

theorem length_le_length_padPayload (data : Bytes) (targetSize : ℤ) :
    data.length + lenPrefixSize ≤ (padPayload data targetSize).length := by
  have hlength := length_padPayload data targetSize
  omega

/-- Unpadding inverts padding as long as the length fits the 32-bit prefix
together with the prefix itself. -/
theorem unpadPayload_padPayload {data : Bytes} (targetSize : ℤ)
    (hdata : data.length < 2 ^ 32 - 4) :
    unpadPayload (padPayload data targetSize) = .ok data := by
  have hlength := length_le_length_padPayload data targetSize
  have hhead : (padPayload data targetSize).take lenPrefixSize =
      bigEndian 4 data.length := by
    rw [padPayload, List.append_assoc]
    exact List.take_left' (putUint32 data.length).property
  have hreal : bigEndianValue ((padPayload data targetSize).take lenPrefixSize) =
      data.length := by
    rw [hhead]
    exact bigEndianValue_bigEndian_of_lt (by omega)
  have hend : (lenPrefixSize + data.length) % 2 ^ 32 = lenPrefixSize + data.length := by
    apply Nat.mod_eq_of_lt
    simp only [lenPrefixSize]
    omega
  have hslice : ((padPayload data targetSize).take (lenPrefixSize + data.length)).drop
      lenPrefixSize = data := by
    have hbody : ((putUint32 data.length).val ++ data).length =
        lenPrefixSize + data.length := by
      rw [List.length_append, (putUint32 data.length).property, lenPrefixSize]
    rw [padPayload, List.take_left' hbody]
    exact List.drop_left' (putUint32 data.length).property
  simp only [unpadPayload, hreal, hend, hslice]
  rw [if_neg (by omega), if_neg (by omega), if_neg (by omega)]

end ZeroFeed.Envelope
