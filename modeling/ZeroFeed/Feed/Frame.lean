import ZeroFeed.Crypto.Cipher
import ZeroFeed.Feed.Ring
import ZeroFeed.Protocol.Envelope

/-!
# Sealed stream frames

Data frames, replayed frames and rekey frames are built the same way: the
nonce carries the session salt and a sequence number, the frame header is the
associated data, and the payload on the wire is the sequence number in clear
followed by the ciphertext.  A `SealedFrame` records what went into one call of
`Seal`; the envelope the receiver sees is computed from it.
-/

namespace ZeroFeed.Frame

open ZeroFeed.ByteString
open ZeroFeed.Messages
open ZeroFeed.Envelope
open ZeroFeed.Primitives
open ZeroFeed.Cipher
open ZeroFeed.Ring

@[ext]
structure SealedFrame where
  key : Key
  msgType : Byte
  seqNum : ℕ
  plaintext : Bytes
  deriving DecidableEq

/-- The frame of a published or replayed message. -/
def dataFrame (key : Key) (msg : SeqMsg) : SealedFrame :=
  { key := key
    msgType := msgTypeDataStream
    seqNum := msg.seqNum
    plaintext := padPayload msg.payload defaultPaddingTargetSize }

/-- The frame announcing a key ratchet. -/
def rekeyFrame (key : Key) (seqNum : ℕ) (salt : Nonce) : SealedFrame :=
  { key := key
    msgType := msgTypeRekey
    seqNum := seqNum
    plaintext := salt.val }

@[simp]
theorem dataFrame_key (key : Key) (msg : SeqMsg) : (dataFrame key msg).key = key := rfl

@[simp]
theorem dataFrame_msgType (key : Key) (msg : SeqMsg) :
    (dataFrame key msg).msgType = msgTypeDataStream := rfl

@[simp]
theorem dataFrame_seqNum (key : Key) (msg : SeqMsg) :
    (dataFrame key msg).seqNum = msg.seqNum := rfl

@[simp]
theorem rekeyFrame_key (key : Key) (seqNum : ℕ) (salt : Nonce) :
    (rekeyFrame key seqNum salt).key = key := rfl

@[simp]
theorem rekeyFrame_msgType (key : Key) (seqNum : ℕ) (salt : Nonce) :
    (rekeyFrame key seqNum salt).msgType = msgTypeRekey := rfl

@[simp]
theorem rekeyFrame_seqNum (key : Key) (seqNum : ℕ) (salt : Nonce) :
    (rekeyFrame key seqNum salt).seqNum = seqNum := rfl

theorem msgTypeDataStream_ne_msgTypeRekey : msgTypeDataStream ≠ msgTypeRekey := by decide

/-- The first four bytes of the session identifier. -/
def sessionSalt (sessionID : SessionID) : FixedBytes 4 := copyFixed 4 sessionID.val

namespace SealedFrame

variable (sessionID : SessionID) (frame : SealedFrame)

def nonce : Nonce := constructNonceRFC5116 (sessionSalt sessionID) frame.seqNum

/-- The length announced before encryption: number, plaintext and tag. -/
def framePayloadLen : ℕ := (8 + frame.plaintext.length + 16) % 2 ^ 32

def header : Bytes :=
  serializeHeader version frame.msgType sessionID (frame.nonce sessionID)
    frame.framePayloadLen

def sealCall : Aead.SealCall Key Nonce :=
  ⟨frame.key, frame.nonce sessionID, frame.plaintext, frame.header sessionID⟩

def ciphertext (suite : Suite) : Bytes := suite.aead.sealCall (frame.sealCall sessionID)

def envelope (suite : Suite) : Envelope :=
  { version := version
    msgType := frame.msgType
    sessionID := sessionID
    nonce := frame.nonce sessionID
    payload := (putUint64 frame.seqNum).val ++ frame.ciphertext sessionID suite }

end SealedFrame

/-- The sender's call of `Encrypt` returns the frame's ciphertext. -/
theorem encrypt_eq_ciphertext (suite : Suite) (sessionID : SessionID) (frame : SealedFrame) :
    encrypt suite (some frame.key) frame.plaintext (frame.nonce sessionID)
      (frame.header sessionID) = .ok (frame.ciphertext sessionID suite) := rfl

/-! ## The receiver's side -/

/-- The associated data a receiver recomputes from a frame it read. -/
def receivedHeader (env : Envelope) : Bytes :=
  serializeHeader env.version env.msgType env.sessionID env.nonce
    (env.payload.length % 2 ^ 32)

/-- The sequence number in clear in front of the ciphertext. -/
def clearSeqNum (env : Envelope) : ℕ := uint64 (env.payload.take 8)

def receivedCiphertext (env : Envelope) : Bytes := env.payload.drop 8

/-- Open a frame as the subscriber does, with its current key. -/
def openFrame (suite : Suite) (key : Key) (env : Envelope) : Except CryptoError Bytes :=
  decrypt suite (some key) (receivedCiphertext env) env.nonce (receivedHeader env)

/-! ## What a frame determines -/

variable {sessionID : SessionID} {left right : SealedFrame}

theorem nonce_eq_iff :
    left.nonce sessionID = right.nonce sessionID ↔
      left.seqNum % 2 ^ 64 = right.seqNum % 2 ^ 64 := by
  rw [SealedFrame.nonce, SealedFrame.nonce, constructNonceRFC5116_inj]
  simp

theorem nonceSeqNum_nonce (sessionID : SessionID) {frame : SealedFrame}
    (hseqNum : frame.seqNum < 2 ^ 64) :
    nonceSeqNum (frame.nonce sessionID) = frame.seqNum :=
  nonceSeqNum_constructNonceRFC5116 _ hseqNum

@[simp]
theorem receivedCiphertext_envelope (suite : Suite) (sessionID : SessionID)
    (frame : SealedFrame) :
    receivedCiphertext (frame.envelope sessionID suite) =
      frame.ciphertext sessionID suite :=
  List.drop_left' (putUint64 frame.seqNum).property

theorem clearSeqNum_envelope (suite : Suite) (sessionID : SessionID) {frame : SealedFrame}
    (hseqNum : frame.seqNum < 2 ^ 64) :
    clearSeqNum (frame.envelope sessionID suite) = frame.seqNum := by
  have htake : ((putUint64 frame.seqNum).val ++ frame.ciphertext sessionID suite).take 8 =
      (putUint64 frame.seqNum).val ++ [] := by
    rw [List.append_nil]
    exact List.take_left' (putUint64 frame.seqNum).property
  rw [clearSeqNum, SealedFrame.envelope, htake]
  exact uint64_putUint64 hseqNum []

theorem clearSeqNum_lt (env : Envelope) : clearSeqNum env < 2 ^ 64 :=
  uint64_lt _

section Tagged

variable {suite : Suite} (htag : suite.aead.AppendsTag tagSize)
include htag

theorem length_payload_envelope (sessionID : SessionID) (frame : SealedFrame) :
    (frame.envelope sessionID suite).payload.length = 8 + frame.plaintext.length + 16 := by
  have hseal := htag (frame.sealCall sessionID)
  rw [SealedFrame.envelope, List.length_append, (putUint64 frame.seqNum).property,
    SealedFrame.ciphertext, hseal]
  exact (Nat.add_assoc 8 frame.plaintext.length 16).symm

/-- The header rebuilt on receipt is the header bound at sealing. -/
theorem receivedHeader_envelope (sessionID : SessionID) (frame : SealedFrame) :
    receivedHeader (frame.envelope sessionID suite) = frame.header sessionID := by
  rw [receivedHeader, length_payload_envelope htag]
  rfl

theorem decodable_envelope (sessionID : SessionID) {frame : SealedFrame}
    (hsize : frame.plaintext.length ≤ maxPayloadSize - 24) :
    Decodable (frame.envelope sessionID suite) where
  version_ge := by
    change ¬ version < minSupportedVersion
    decide
  payload_le := by
    rw [length_payload_envelope htag]
    have hmax : maxPayloadSize = 33554432 := rfl
    omega

/-- A receiver that holds the key opens what was sealed. -/
theorem openFrame_envelope (hopen : suite.aead.OpensSealed) (sessionID : SessionID)
    (frame : SealedFrame) :
    openFrame suite frame.key (frame.envelope sessionID suite) = .ok frame.plaintext := by
  rw [openFrame, receivedCiphertext_envelope, receivedHeader_envelope htag,
    decrypt_eq_ok_iff]
  exact hopen (frame.sealCall sessionID)

end Tagged

/-! ## Ideal authenticity of a session's stream -/

/-- Every call of `Seal` in the session is one of the stream's frames or wraps
a session key for a joining subscriber, and `Open` accepts nothing else. -/
def Authentic (suite : Suite) (sessionID : SessionID) (frames : List SealedFrame) : Prop :=
  ∃ wraps : List (Aead.SealCall Key Nonce), (∀ call ∈ wraps, call.aad = wrapAAD) ∧
    suite.aead.OpensOnly (frames.map (SealedFrame.sealCall sessionID) ++ wraps)

theorem wrapAAD_ne_header (version msgType : Byte) (sessionID : SessionID) (nonce : Nonce)
    (payloadLen : ℕ) :
    wrapAAD ≠ serializeHeader version msgType sessionID nonce payloadLen := by
  intro heq
  have hlength := congrArg List.length heq
  rw [length_serializeHeader] at hlength
  exact absurd hlength (by decide)

/-- A frame that opens was sealed by the session under the receiver's key, with
the type, nonce and ciphertext the receiver saw. -/
theorem sealed_of_openFrame {suite : Suite} {sessionID : SessionID}
    {frames : List SealedFrame} (hideal : Authentic suite sessionID frames) {key : Key}
    {env : Envelope} {plaintext : Bytes} (hopen : openFrame suite key env = .ok plaintext) :
    ∃ frame ∈ frames, frame.key = key ∧ frame.msgType = env.msgType ∧
      frame.nonce sessionID = env.nonce ∧ frame.plaintext = plaintext ∧
        frame.ciphertext sessionID suite = receivedCiphertext env := by
  obtain ⟨wraps, hwraps, honly⟩ := hideal
  rw [openFrame, decrypt_eq_ok_iff] at hopen
  obtain ⟨call, hcall, hkey, hnonce, haad, hplaintext, hciphertext⟩ := honly _ _ _ _ _ hopen
  rcases List.mem_append.mp hcall with hcall | hcall
  · obtain ⟨frame, hframe, rfl⟩ := List.mem_map.mp hcall
    obtain ⟨-, htype, -, -, -⟩ := serializeHeader_inj.mp haad
    exact ⟨frame, hframe, hkey, htype, hnonce, hplaintext, hciphertext⟩
  · rw [hwraps call hcall] at haad
    exact absurd haad (wrapAAD_ne_header _ _ _ _ _)

end ZeroFeed.Frame
