import ZeroFeed.Feed.Frame
import ZeroFeed.Feed.Handshake

/-!
# The publisher (`pkg/feed/publisher.go`)

The engine's state and the functions that run under one lock, followed by the
three calls that put stream frames on the wire, as they run when nothing
interrupts them: `publishPayload`, `triggerRekey` and
`replaySyncForSubscriber`.  Interleavings of their critical sections are in
`Feed/Goroutines.lean`.
-/

namespace ZeroFeed.Publisher

open ZeroFeed.ByteString
open ZeroFeed.Messages
open ZeroFeed.Envelope
open ZeroFeed.Primitives
open ZeroFeed.Cipher
open ZeroFeed.Pake
open ZeroFeed.Ring
open ZeroFeed.Frame
open ZeroFeed.Handshake

/-- One gigabyte. -/
def defaultRekeyByteThreshold : ℕ := 1024 * 1024 * 1024

/-- One hour, in nanoseconds. -/
def defaultRekeyTimeThreshold : ℤ := 3600 * 1000000000

/-- Go's `nil` pointers and slices are `none`.  A cipher is the key it holds;
`connected` says that `conn` is not nil. -/
structure PublisherEngine where
  passphrase : Option Bytes
  masterKey : Option Key
  sessionID : SessionID
  cipher : Option Key
  connected : Bool
  seqCounter : ℕ
  replayBuffer : RingBuffer
  sas : SAS
  bytesSinceRekey : ℕ
  lastRekeyTime : ℤ
  rekeyByteLimit : ℕ
  rekeyTimeLimit : ℤ
  closed : Bool

def deriveSessionID (suite : Suite) (passphrase : Bytes) : SessionID :=
  let argon2Key := deriveMasterKeyArgon2 suite passphrase
  let tag := suite.hmac argon2Key.val (ascii "zerofeed-relay-channel-rendezvous-v3")
  copyFixed sessionIDSize tag.val

/-- The master key and the clock reading are drawn by the caller. -/
def newPublisherEngine (suite : Suite) (passphrase : Bytes) (masterKey : Key) (now : ℤ) :
    Except CryptoError PublisherEngine :=
  if passphrase.length = 0 then .error .emptySecret
  else .ok
    { passphrase := some passphrase
      masterKey := some masterKey
      sessionID := deriveSessionID suite passphrase
      cipher := some masterKey
      connected := false
      seqCounter := 0
      replayBuffer := newRingBuffer 100
      sas := calculateSAS suite masterKey.val
      bytesSinceRekey := 0
      lastRekeyTime := now
      rekeyByteLimit := defaultRekeyByteThreshold
      rekeyTimeLimit := defaultRekeyTimeThreshold
      closed := false }

/-! ## Frames on the wire -/

/-- What the publisher hands to `sendFrame`, before serialisation. -/
inductive Sent where
  | sealed (frame : SealedFrame)
  | step2 (response : Step2)
  | heartbeat
  | close
  deriving DecidableEq

/-- The envelope written for it.  A response whose key cannot be wrapped is
never sent. -/
def Sent.envelope (suite : Suite) (sessionID : SessionID) : Sent → Option Envelope
  | .sealed frame => some (frame.envelope sessionID suite)
  | .step2 response => (response.envelope suite sessionID).toOption
  | .heartbeat => some (plainEnvelope sessionID msgTypeHeartbeat [])
  | .close => some (plainEnvelope sessionID msgTypeClose [])

/-- The frame passes the size check of `Encode`. -/
def Sent.encodable (suite : Suite) (sessionID : SessionID) (sent : Sent) : Bool :=
  match sent.envelope suite sessionID with
  | none => false
  | some env => (encode env).toBool

namespace PublisherEngine

variable (suite : Suite) (engine : PublisherEngine)

def setRekeyThresholds (byteLimit : ℕ) (timeLimit : ℤ) : PublisherEngine :=
  { engine with rekeyByteLimit := byteLimit, rekeyTimeLimit := timeLimit }

def connect : PublisherEngine := { engine with connected := true }

/-- `sendFrame` succeeds on a live connection when the frame can be encoded. -/
def canSend (sent : Sent) : Bool :=
  engine.connected && sent.encodable suite engine.sessionID

/-! ## Critical sections -/

/-- First section of `PublishPayload`: count the bytes and decide whether to
rekey. -/
def countBytes (payload : Bytes) (now : ℤ) : Bool × PublisherEngine :=
  let bytesSinceRekey := (engine.bytesSinceRekey + payload.length) % 2 ^ 64
  let shouldRekey :=
    (0 < engine.rekeyByteLimit && engine.rekeyByteLimit ≤ bytesSinceRekey) ||
      (0 < engine.rekeyTimeLimit && engine.rekeyTimeLimit ≤ now - engine.lastRekeyTime)
  (shouldRekey, { engine with bytesSinceRekey := bytesSinceRekey })

/-- The next value of the atomic 64-bit counter. -/
def nextSeqNum : ℕ := (engine.seqCounter + 1) % 2 ^ 64

/-- `atomic.AddUint64`. -/
def drawSeqNum : PublisherEngine := { engine with seqCounter := engine.nextSeqNum }

def pushReplay (msg : SeqMsg) : PublisherEngine :=
  { engine with replayBuffer := engine.replayBuffer.push msg.seqNum msg.payload }

/-- Last section of `TriggerRekey`.  There is no result when the cipher pointer
is nil. -/
def installKey (nextKey : Key) (now : ℤ) : Option PublisherEngine :=
  engine.cipher.map fun _ =>
    { engine with
      cipher := some nextKey
      masterKey := some nextKey
      sas := calculateSAS suite nextKey.val
      bytesSinceRekey := 0
      lastRekeyTime := now }

/-- The copy of the master key taken for a joining subscriber. -/
def masterKeyCopy : Bytes := (engine.masterKey.map Subtype.val).getD []

def close : PublisherEngine :=
  if engine.closed then engine
  else
    { engine with
      closed := true
      connected := false
      cipher := none
      masterKey := none
      passphrase := none
      replayBuffer := engine.replayBuffer.wipe }

/-! ## Uninterrupted calls -/

/-- Salt and clock reading of one rekey. -/
structure RekeyInputs where
  salt : Nonce
  now : ℤ

/-- `TriggerRekey` when every step succeeds or the frame cannot be sent. -/
def triggerRekey (inputs : RekeyInputs) : PublisherEngine × List Sent :=
  match engine.cipher with
  | none => (engine, [])
  | some currKey =>
      let seqNum := engine.nextSeqNum
      let engine := engine.drawSeqNum
      let sent := Sent.sealed (rekeyFrame currKey seqNum inputs.salt)
      if engine.canSend suite sent then
        match ratchetKey suite currKey.val inputs.salt.val with
        | .error _ => (engine, [sent])
        | .ok nextKey =>
            match newCipher nextKey with
            | .error _ => (engine, [sent])
            | .ok nextKey => ((engine.installKey suite nextKey inputs.now).getD engine, [sent])
      else (engine, [])

/-- Clock reading of the threshold test, and what a rekey would draw. -/
structure PublishInputs where
  now : ℤ
  rekey : RekeyInputs

inductive PublishError where
  | cipherNotInitialized
  | sendFailed
  deriving DecidableEq

structure PublishResult where
  engine : PublisherEngine
  sent : List Sent
  result : Except PublishError Unit

/-- The part of `PublishPayload` after the rekey decision. -/
def publishNumbered (payload : Bytes) : PublishResult :=
  match engine.cipher with
  | none => ⟨engine, [], .error .cipherNotInitialized⟩
  | some key =>
      let msg : SeqMsg := ⟨engine.nextSeqNum, payload⟩
      let engine := engine.drawSeqNum.pushReplay msg
      let sent := Sent.sealed (dataFrame key msg)
      if engine.canSend suite sent then ⟨engine, [sent], .ok ()⟩
      else ⟨engine, [], .error .sendFailed⟩

def publishPayload (payload : Bytes) (inputs : PublishInputs) : PublishResult :=
  let (shouldRekey, engine) := engine.countBytes payload inputs.now
  if shouldRekey then
    let (engine, rekeySent) := engine.triggerRekey suite inputs.rekey
    let published := engine.publishNumbered suite payload
    { published with sent := rekeySent ++ published.sent }
  else engine.publishNumbered suite payload

/-- Frames that cannot be sent are skipped. -/
def replaySyncForSubscriber (lastSeqNum : ℕ) : List Sent :=
  match engine.cipher with
  | none => []
  | some key =>
      if engine.connected then
        ((engine.replayBuffer.getAfter lastSeqNum).map fun item =>
          Sent.sealed (dataFrame key item)).filter fun sent => engine.canSend suite sent
      else []

end PublisherEngine

/-- An engine ready to publish: created, configured and connected. -/
def launch (suite : Suite) (passphrase : Bytes) (masterKey : Key) (now : ℤ)
    (byteLimit : ℕ) (timeLimit : ℤ) : Except CryptoError PublisherEngine := do
  let engine ← newPublisherEngine suite passphrase masterKey now
  return (engine.setRekeyThresholds byteLimit timeLimit).connect

/-- The state in which an engine starts publishing. -/
structure Launched (suite : Suite) (key : Key) (engine : PublisherEngine) : Prop where
  cipher : engine.cipher = some key
  masterKey : engine.masterKey = some key
  sas : engine.sas = calculateSAS suite key.val
  seqCounter : engine.seqCounter = 0
  replayBuffer : engine.replayBuffer = newRingBuffer 100
  connected : engine.connected = true

theorem launched_of_launch {suite : Suite} {passphrase : Bytes} {masterKey : Key} {now : ℤ}
    {byteLimit : ℕ} {timeLimit : ℤ} {engine : PublisherEngine}
    (hlaunch : launch suite passphrase masterKey now byteLimit timeLimit = .ok engine) :
    Launched suite masterKey engine := by
  rw [launch, newPublisherEngine] at hlaunch
  split at hlaunch
  · cases hlaunch
  · cases hlaunch
    exact ⟨rfl, rfl, rfl, rfl, rfl, rfl⟩

end ZeroFeed.Publisher
