import ZeroFeed.Crypto.Pake
import ZeroFeed.Protocol.Envelope

/-!
# Handshake messages (`pkg/feed/publisher.go`, `pkg/feed/subscriber.go`)

The publisher answers a subscriber's initial message with its own exchange
message, the wrapped master key and a confirmation tag.  The subscriber slices
that response at fixed offsets.  The reading loops of both sides work on the
frames that arrive on the connection, in order.
-/

namespace ZeroFeed.Handshake

open ZeroFeed.ByteString
open ZeroFeed.Messages
open ZeroFeed.Primitives
open ZeroFeed.Cipher
open ZeroFeed.Pake

inductive HandshakeError where
  | receive
  | closedByPeer (reason : Bytes)
  | incompatibleVersion (version : Byte)
  | unexpectedFrame (msgType : Byte)
  | invalidResponseSize
  | crypto (err : CryptoError)
  | confirmationMissing
  deriving DecidableEq

/-- A computation succeeds when its first step and the rest do. -/
theorem bind_eq_ok {Error First Result : Type} {first : Except Error First}
    {rest : First → Except Error Result} {result : Result} :
    first >>= rest = .ok result ↔ ∃ value, first = .ok value ∧ rest value = .ok result := by
  cases first with
  | error err => simp [bind, Except.bind]
  | ok value => simp [bind, Except.bind]

/-! ## The publisher's response -/

/-- What the publisher derives from a subscriber's initial message. -/
structure Answer where
  pakeBytes : Bytes
  p2pKey : Bytes
  confirmTag : Bytes
  deriving DecidableEq

/-- `Update`, `SessionKey` and `ConfirmTag` on a publisher peer. -/
def answerInit {suite : Suite} (peer : PAKEPeer suite) (initPayload : Bytes)
    (coins : UpdateCoins suite) : Except CryptoError (PAKEPeer suite × Answer) := do
  let peer ← peer.update initPayload coins
  let p2pKey ← peer.sessionKey
  let confirmTag ← peer.confirmTag
  return (peer, ⟨peer.bytes, p2pKey, confirmTag⟩)

/-- A response together with the copy of the master key it wraps and the random
nonce of the wrapping. -/
structure Step2 where
  answer : Answer
  masterKey : Bytes
  wrapNonce : Nonce
  deriving DecidableEq

def Step2.wrappedKeyPayload (suite : Suite) (step2 : Step2) : Except CryptoError Bytes :=
  wrapSessionKey suite step2.answer.p2pKey step2.masterKey step2.wrapNonce

/-- Exchange message, wrapped key and tag, one after the other. -/
def Step2.payload (suite : Suite) (step2 : Step2) : Except CryptoError Bytes := do
  let wrapped ← step2.wrappedKeyPayload suite
  return step2.answer.pakeBytes ++ wrapped ++ step2.answer.confirmTag

/-- The frame type is set and the nonce field stays zero. -/
def plainEnvelope (sessionID : SessionID) (msgType : Byte) (payload : Bytes) : Envelope :=
  { version := version
    msgType := msgType
    sessionID := sessionID
    nonce := copyFixed nonceSize []
    payload := payload }

def Step2.envelope (suite : Suite) (sessionID : SessionID) (step2 : Step2) :
    Except CryptoError Envelope := do
  let payload ← step2.payload suite
  return plainEnvelope sessionID msgTypePAKEStep2 payload

/-! ## `PublisherEngine.CompleteHandshake` -/

/-- The frames one reader took from the connection, each with the response it
sent on account of it, the frames still unread, and how the reader ended. -/
structure Reading where
  trace : List (Envelope × Option Envelope)
  unread : List Envelope
  result : Except HandshakeError Unit

/-- The confirmation-wait loop with its remaining number of rounds. -/
def awaitConfirm {suite : Suite} (peer : PAKEPeer suite) : ℕ → List Envelope → Reading
  | 0, frames => ⟨[], frames, .error .confirmationMissing⟩
  | _ + 1, [] => ⟨[], [], .error .receive⟩
  | rounds + 1, frame :: frames =>
      if frame.msgType ≠ msgTypeKeyConfirm then
        let later := awaitConfirm peer rounds frames
        { later with trace := (frame, none) :: later.trace }
      else
        match peer.verifyPeerConfirm frame.payload with
        | .error err => ⟨[(frame, none)], frames, .error (.crypto err)⟩
        | .ok _ => ⟨[(frame, none)], frames, .ok ()⟩

/-- At most eight frames are read while waiting for the confirmation. -/
def confirmRounds : ℕ := 8

/-- Randomness of one response. -/
structure ResponseCoins (suite : Suite) where
  update : UpdateCoins suite
  wrapNonce : Nonce

/-- The response to the first frame, if that frame is acceptable. -/
def respondFirst {suite : Suite} (sessionID : SessionID) (peer : PAKEPeer suite)
    (masterKey : Bytes) (coins : ResponseCoins suite) (frame : Envelope) :
    Except HandshakeError (PAKEPeer suite × Envelope) :=
  if frame.msgType = msgTypeClose then .error (.closedByPeer frame.payload)
  else if frame.version < minSupportedVersion then
    .error (.incompatibleVersion frame.version)
  else if frame.msgType ≠ msgTypePAKEInitSub ∧ frame.msgType ≠ msgTypePAKEStep2 then
    .error (.unexpectedFrame frame.msgType)
  else
    match answerInit peer frame.payload coins.update with
    | .error err => .error (.crypto err)
    | .ok (peer, answer) =>
        match Step2.envelope suite sessionID ⟨answer, masterKey, coins.wrapNonce⟩ with
        | .error err => .error (.crypto err)
        | .ok response => .ok (peer, response)

def publisherHandshake {suite : Suite} (sessionID : SessionID) (peer : PAKEPeer suite)
    (masterKey : Bytes) (coins : ResponseCoins suite) : List Envelope → Reading
  | [] => ⟨[], [], .error .receive⟩
  | frame :: frames =>
      match respondFirst sessionID peer masterKey coins frame with
      | .error err => ⟨[(frame, none)], frames, .error err⟩
      | .ok (peer, response) =>
          let later := awaitConfirm peer confirmRounds frames
          { later with trace := (frame, some response) :: later.trace }

/-! ## `SubscriberEngine.CompleteHandshake` -/

def wrappedKeySize : ℕ := 60

def confirmTagSize : ℕ := 32

/-- The three fixed slices of a response. -/
def slicePake (payload : Bytes) : Bytes := payload.take uniformWireMsgSize

def sliceWrapped (payload : Bytes) : Bytes :=
  (payload.drop uniformWireMsgSize).take wrappedKeySize

def sliceTag (payload : Bytes) : Bytes :=
  (payload.drop (uniformWireMsgSize + wrappedKeySize)).take confirmTagSize

/-- What a completed handshake leaves: the tag sent back and the key. -/
structure Joined where
  confirmTag : Bytes
  masterKey : Key
  deriving DecidableEq

/-- Process the sliced response. -/
def openStep2 {suite : Suite} (peer : PAKEPeer suite) (coins : UpdateCoins suite)
    (payload : Bytes) : Except CryptoError Joined := do
  let peer ← peer.update (slicePake payload) coins
  let _ ← peer.verifyPeerConfirm (sliceTag payload)
  let confirmTag ← peer.confirmTag
  let p2pKey ← peer.sessionKey
  let masterKey ← unwrapSessionKey suite p2pKey (sliceWrapped payload)
  let key ← newCipher masterKey
  return ⟨confirmTag, key⟩

/-- The subscriber reads one frame and either joins on it or fails. -/
def subscriberHandshake {suite : Suite} (peer : PAKEPeer suite) (coins : UpdateCoins suite) :
    List Envelope → Except HandshakeError Joined
  | [] => .error .receive
  | frame :: _ =>
      if frame.msgType = msgTypeClose then .error (.closedByPeer frame.payload)
      else if frame.version < minSupportedVersion then
        .error (.incompatibleVersion frame.version)
      else if frame.payload.length < uniformWireMsgSize + wrappedKeySize + confirmTagSize then
        .error .invalidResponseSize
      else
        match openStep2 peer coins frame.payload with
        | .error err => .error (.crypto err)
        | .ok joined => .ok joined

end ZeroFeed.Handshake
