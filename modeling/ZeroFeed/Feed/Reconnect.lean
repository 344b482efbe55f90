import ZeroFeed.Core.Threads
import ZeroFeed.Feed.Subscriber

/-!
# Interleavings of the subscriber's goroutines

Any number of goroutines call `Connect`, `CompleteHandshake`, `SubscribeStream`
and `Close` on one engine.  A goroutine is the program point it has reached with
the values it holds, and `advance` performs the code up to the end of its next
section: one under `s.mu` or under a cipher's lock, or one operation on the
network.

The engine holds pointers.  Connections and cipher objects are numbered in the
order of their creation; `ciphers` gives the key of each cipher object, and none
once it was closed.  A goroutine that has read `s.cipher` goes on with that
object even when the engine holds another one, whereas `CompleteHandshake` and
the last section of a rekey follow the engine's pointer again and panic if it is
nil.  Frames that arrive, random coins and the outcome of dialling and writing
are inputs of a step.  A write on a closed connection fails; a read may still return
a frame, since a TLS or WebSocket connection can have bytes in a buffer.
-/

namespace ZeroFeed.Reconnect

open ZeroFeed.ByteString
open ZeroFeed.Messages
open ZeroFeed.Primitives
open ZeroFeed.Cipher
open ZeroFeed.Pake
open ZeroFeed.Ring
open ZeroFeed.Frame
open ZeroFeed.Handshake
open ZeroFeed.Publisher (deriveSessionID)
open ZeroFeed.Subscriber (unpadded)
open ZeroFeed.Threads

variable {suite : Suite}

/-- `SubscriberEngine` with its pointers; Go's `nil` is `none`. -/
structure Engine (suite : Suite) where
  passphrase : Option Bytes
  sessionID : SessionID
  conn : Option ℕ
  pakePeer : Option (PAKEPeer suite)
  cipher : Option ℕ
  ringBuffer : RingBuffer
  lastSeqNum : ℕ
  sas : SAS
  closed : Bool

def newEngine (passphrase : Bytes) (coins : PeerCoins suite) :
    Except CryptoError (Engine suite) :=
  (newPAKESubscriber passphrase coins).map fun peer =>
    { passphrase := some passphrase
      sessionID := deriveSessionID suite passphrase
      conn := none
      pakePeer := some peer
      cipher := none
      ringBuffer := newRingBuffer 100
      lastSeqNum := 0
      sas := ⟨"", ""⟩
      closed := false }

def Engine.close (engine : Engine suite) : Engine suite :=
  { engine with
    passphrase := none
    conn := none
    pakePeer := none
    cipher := none
    ringBuffer := engine.ringBuffer.wipe
    closed := true }

structure Shared (suite : Suite) where
  engine : Engine suite
  ciphers : ℕ → Option Key
  /-- How many cipher objects exist. -/
  created : ℕ
  /-- How many connections were dialled. -/
  opened : ℕ
  netClosed : ℕ → Bool
  /-- Log: the connections opened when the engine was closed. -/
  late : ℕ → Bool
  /-- Log: the messages delivered, each with its connection. -/
  delivered : List (ℕ × SeqMsg)

namespace Shared

variable (shared : Shared suite)

def closeNet (conn : ℕ) : Shared suite :=
  { shared with netClosed := Function.update shared.netClosed conn true }

/-- A successful dial. -/
def dialed : Shared suite :=
  { shared with
    opened := shared.opened + 1
    late := Function.update shared.late shared.opened shared.engine.closed }

/-- The section of `CompleteHandshake` that installs the session. -/
def installSession (masterKey : Key) : Shared suite :=
  { shared with
    engine := { shared.engine with
      cipher := some shared.created
      sas := calculateSAS suite masterKey.val }
    ciphers := Function.update shared.ciphers shared.created (some masterKey)
    created := shared.created + 1 }

/-- `reconnectLoop` after a failed handshake. -/
def dropConn : Shared suite :=
  match shared.engine.conn with
  | none => shared
  | some conn => { shared.closeNet conn with engine := { shared.engine with conn := none } }

/-- The last section of a rekey when the cipher pointer is not needed or not
nil.  The result of `UpdateKey` is ignored. -/
def updateKey (nextKey : Bytes) : Shared suite :=
  { shared with
    engine := { shared.engine with sas := calculateSAS suite nextKey }
    ciphers := match shared.engine.cipher with
      | none => shared.ciphers
      | some cipher => Function.update shared.ciphers cipher
          ((newCipher nextKey).toOption.or (shared.ciphers cipher)) }

def close : Shared suite :=
  if shared.engine.closed then shared
  else
    { shared with
      engine := shared.engine.close
      ciphers := match shared.engine.cipher with
        | none => shared.ciphers
        | some cipher => Function.update shared.ciphers cipher none
      netClosed := match shared.engine.conn with
        | none => shared.netClosed
        | some conn => Function.update shared.netClosed conn true }

end Shared

/-! ## Goroutines -/

/-- Where `SubscribeStream` calls `reconnectLoop`: the connection was nil, or
`Decode` failed on it. -/
inductive Site where
  | missing
  | failed
  deriving DecidableEq

/-- A running `reconnectLoop` with the number of rounds that are left. -/
structure Retry where
  site : Site
  left : ℕ
  deriving DecidableEq

def maxRetries : ℕ := 10

/-- A nil pointer that is followed. -/
inductive Crash where
  | updateKey
  | pakePeer
  | conn
  deriving DecidableEq

/-- The program points.  `Connect` and `CompleteHandshake` are called directly
or by a `reconnectLoop`. -/
inductive Goroutine (suite : Suite) where
  | idle
  | dial (caller : Option Retry)
  | attach (conn : ℕ) (caller : Option Retry)
  | hello (conn : ℕ) (caller : Option Retry)
  | handshakeConn (caller : Option Retry)
  | handshakeRead (conn : ℕ) (caller : Option Retry)
  | installSession (masterKey : Key) (caller : Option Retry)
  | backoff (retry : Retry)
  | setPeer (peer : PAKEPeer suite) (retry : Retry)
  | dropConn (retry : Retry)
  | syncRequest (site : Site)
  | loop
  | checkClosed (site : Site)
  | refetch
  | reading (conn : ℕ)
  | rekeyCipher (env : Envelope)
  | rekeyDecrypt (cipher : ℕ) (env : Envelope)
  | rekeyGetKey (cipher : ℕ) (salt : Bytes)
  | rekeyInstall (nextKey : Bytes)
  | dataCipher (conn : ℕ) (env : Envelope)
  | dataDecrypt (conn cipher : ℕ) (env : Envelope)
  | deduplicate (conn : ℕ) (msg : SeqMsg)
  | push (conn : ℕ) (msg : SeqMsg)
  | crashed (cause : Crash)

inductive Input (suite : Suite) where
  | connect
  | completeHandshake
  | subscribeStream
  | close
  | proceed
  | cancelled
  | coins (coins : PeerCoins suite)
  | dialed (success : Bool)
  | sent (written : Bool)
  | handshake (frame : Option Envelope) (coins : UpdateCoins suite) (written : Bool)
  | read (frame : Option Envelope)

namespace Goroutine

/-- Where `Connect` and `CompleteHandshake` return to. -/
def connectFailed : Option Retry → Goroutine suite
  | none => .idle
  | some retry => .backoff retry

def connectDone : Option Retry → Goroutine suite
  | none => .idle
  | some retry => .handshakeConn (some retry)

def handshakeFailed : Option Retry → Goroutine suite
  | none => .idle
  | some retry => .dropConn retry

def handshakeDone : Option Retry → Goroutine suite
  | none => .idle
  | some retry => .syncRequest retry.site

/-- Why a goroutine has crashed. -/
def cause : Goroutine suite → Option Crash
  | .crashed cause => some cause
  | _ => none

theorem eq_crashed_of_cause {goroutine : Goroutine suite} {crash : Crash}
    (hcause : goroutine.cause = some crash) : goroutine = .crashed crash := by
  cases goroutine with
  | crashed => rw [Option.some.inj hcause]
  | _ => cases hcause

/-- Where a successful `reconnectLoop` returns to. -/
def reconnected : Site → Goroutine suite
  | .missing => .refetch
  | .failed => .loop

end Goroutine

/-! ## One section -/

section Advance

variable (shared : Shared suite)

def start : Input suite → Option (Shared suite × Goroutine suite)
  | .connect => some (shared, .dial none)
  | .completeHandshake => some (shared, .handshakeConn none)
  | .subscribeStream => some (shared, .loop)
  | .close => some (shared.close, .idle)
  | _ => none

def connect : Goroutine suite → Input suite → Option (Shared suite × Goroutine suite)
  | .dial caller, .dialed false => some (shared, .connectFailed caller)
  | .dial caller, .dialed true => some (shared.dialed, .attach shared.opened caller)
  | .attach conn caller, .coins coins =>
      let engine := { shared.engine with conn := some conn }
      match engine.pakePeer with
      | some _ => some ({ shared with engine := engine }, .hello conn caller)
      | none =>
          match newPAKESubscriber (engine.passphrase.getD []) coins with
          -- The socket is closed, but the engine keeps the pointer to it.
          | .error _ => some ({ shared with engine := engine }.closeNet conn, .connectFailed caller)
          | .ok peer =>
              some ({ shared with engine := { engine with pakePeer := some peer } },
                .hello conn caller)
  | .hello conn caller, .sent written =>
      if written && !shared.netClosed conn then some (shared, .connectDone caller)
      else some (shared.closeNet conn, .connectFailed caller)
  | _, _ => none

/-- The checks `CompleteHandshake` makes before it touches the PAKE peer. -/
def acceptable (frame : Envelope) : Bool :=
  frame.msgType ≠ msgTypeClose && decide (minSupportedVersion ≤ frame.version) &&
    decide (uniformWireMsgSize + wrappedKeySize + confirmTagSize ≤ frame.payload.length)

def completeHandshake : Goroutine suite → Input suite →
    Option (Shared suite × Goroutine suite)
  | .handshakeConn caller, .proceed =>
      match shared.engine.conn with
      | none => some (shared, .handshakeFailed caller)
      | some conn => some (shared, .handshakeRead conn caller)
  | .handshakeRead _ caller, .handshake none _ _ => some (shared, .handshakeFailed caller)
  | .handshakeRead _ caller, .handshake (some frame) coins written =>
      if acceptable frame then
        match shared.engine.pakePeer with
        | none => some (shared, .crashed .pakePeer)
        | some peer =>
            match subscriberHandshake peer coins [frame] with
            | .error _ => some (shared, .handshakeFailed caller)
            | .ok joined =>
                if written then some (shared, .installSession joined.masterKey caller)
                else some (shared, .handshakeFailed caller)
      else some (shared, .handshakeFailed caller)
  | .installSession masterKey caller, .proceed =>
      some (shared.installSession masterKey, .handshakeDone caller)
  | _, _ => none

def reconnectLoop : Goroutine suite → Input suite → Option (Shared suite × Goroutine suite)
  | .backoff ⟨_, 0⟩, .proceed => some (shared, .idle)
  | .backoff ⟨_, _ + 1⟩, .cancelled => some (shared, .idle)
  | .backoff ⟨site, left + 1⟩, .coins coins =>
      match shared.engine.passphrase with
      | none => some (shared, .idle)
      | some passphrase =>
          match newPAKESubscriber passphrase coins with
          | .error _ => some (shared, .backoff ⟨site, left⟩)
          | .ok peer => some (shared, .setPeer peer ⟨site, left⟩)
  | .setPeer peer retry, .proceed =>
      some ({ shared with engine := { shared.engine with pakePeer := some peer } },
        .dial (some retry))
  | .dropConn retry, .proceed => some (shared.dropConn, .backoff retry)
  | .syncRequest site, .proceed => some (shared, .reconnected site)
  | _, _ => none

/-- What `SubscribeStream` does with a frame it has read. -/
def dispatchFrame (conn : ℕ) (env : Envelope) : Goroutine suite :=
  if env.msgType = msgTypeClose then .idle
  else if env.msgType = msgTypeHeartbeat then .loop
  else if env.msgType = msgTypeRekey then
    if env.payload.length < 8 then .loop else .rekeyCipher env
  else if env.msgType ≠ msgTypeDataStream then .loop
  else if env.payload.length < 8 then .loop
  else .dataCipher conn env

def subscribeStream : Goroutine suite → Input suite → Option (Shared suite × Goroutine suite)
  | .loop, .cancelled => some (shared, .idle)
  | .loop, .proceed =>
      match shared.engine.conn with
      | none => some (shared, .checkClosed .missing)
      | some conn => some (shared, .reading conn)
  | .checkClosed site, .proceed =>
      some (shared, if shared.engine.closed then .idle else .backoff ⟨site, maxRetries⟩)
  | .refetch, .proceed =>
      match shared.engine.conn with
      | none => some (shared, .crashed .conn)
      | some conn => some (shared, .reading conn)
  | .reading _, .cancelled => some (shared, .idle)
  | .reading _, .read none => some (shared, .checkClosed .failed)
  | .reading conn, .read (some env) => some (shared, dispatchFrame conn env)
  | _, _ => none

def receiveRekey : Goroutine suite → Input suite → Option (Shared suite × Goroutine suite)
  | .rekeyCipher env, .proceed =>
      match shared.engine.cipher with
      | none => some (shared, .loop)
      | some cipher => some (shared, .rekeyDecrypt cipher env)
  | .rekeyDecrypt cipher env, .proceed =>
      match shared.ciphers cipher with
      | none => some (shared, .idle)
      | some key =>
          match openFrame suite key env with
          | .error _ => some (shared, .idle)
          | .ok salt => some (shared, .rekeyGetKey cipher salt)
  | .rekeyGetKey cipher salt, .proceed =>
      match shared.ciphers cipher with
      | none => some (shared, .loop)
      | some key =>
          match ratchetKey suite key.val salt with
          | .error _ => some (shared, .loop)
          | .ok nextKey => some (shared, .rekeyInstall nextKey)
  | .rekeyInstall nextKey, .proceed =>
      if (newCipher nextKey).toBool && shared.engine.cipher.isNone then
        some (shared, .crashed .updateKey)
      else some (shared.updateKey nextKey, .loop)
  | _, _ => none

def receiveData : Goroutine suite → Input suite → Option (Shared suite × Goroutine suite)
  | .dataCipher conn env, .proceed =>
      match shared.engine.cipher with
      | none => some (shared, .loop)
      | some cipher => some (shared, .dataDecrypt conn cipher env)
  | .dataDecrypt conn cipher env, .proceed =>
      match shared.ciphers cipher with
      | none => some (shared, .idle)
      | some key =>
          match openFrame suite key env with
          | .error _ => some (shared, .idle)
          | .ok plaintext =>
              some (shared, .deduplicate conn ⟨clearSeqNum env, unpadded plaintext⟩)
  | .deduplicate conn msg, .proceed =>
      if msg.seqNum ≤ shared.engine.lastSeqNum then some (shared, .loop)
      else some ({ shared with engine := { shared.engine with lastSeqNum := msg.seqNum } },
        .push conn msg)
  | .push conn msg, .proceed =>
      some ({ shared with
        engine := { shared.engine with
          ringBuffer := shared.engine.ringBuffer.push msg.seqNum msg.payload }
        delivered := shared.delivered ++ [(conn, msg)] }, .loop)
  | _, _ => none

/-- Run a goroutine to the end of its next section. -/
def advance (goroutine : Goroutine suite) (input : Input suite) :
    Option (Shared suite × Goroutine suite) :=
  match goroutine with
  | .idle => start shared input
  | .dial _ | .attach .. | .hello .. => connect shared goroutine input
  | .handshakeConn _ | .handshakeRead .. | .installSession .. =>
      completeHandshake shared goroutine input
  | .backoff _ | .setPeer .. | .dropConn _ | .syncRequest _ =>
      reconnectLoop shared goroutine input
  | .loop | .checkClosed _ | .refetch | .reading _ => subscribeStream shared goroutine input
  | .rekeyCipher _ | .rekeyDecrypt .. | .rekeyGetKey .. | .rekeyInstall _ =>
      receiveRekey shared goroutine input
  | .dataCipher .. | .dataDecrypt .. | .deduplicate .. | .push .. =>
      receiveData shared goroutine input
  | .crashed _ => none

end Advance

/-! ## What a section can do -/

/-- The effects of `advance`. -/
inductive Section (shared : Shared suite) (input : Input suite) :
    Goroutine suite → Shared suite → Goroutine suite → Prop where
  | returns (goroutine : Goroutine suite) : Section shared input goroutine shared .idle
  | continues (goroutine : Goroutine suite) : Section shared input goroutine shared .loop
  | connect (hinput : input = .connect) : Section shared input .idle shared (.dial none)
  | completeHandshake : Section shared input .idle shared (.handshakeConn none)
  | close (hinput : input = .close) : Section shared input .idle shared.close .idle
  | dialFailed (caller : Option Retry) :
      Section shared input (.dial caller) shared (.connectFailed caller)
  | dialed (caller : Option Retry) :
      Section shared input (.dial caller) shared.dialed (.attach shared.opened caller)
  | attach (conn : ℕ) (caller : Option Retry) (pakePeer : Option (PAKEPeer suite)) :
      Section shared input (.attach conn caller)
        { shared with engine := { shared.engine with
          conn := some conn, pakePeer := pakePeer } }
        (.hello conn caller)
  | attachFailed (conn : ℕ) (caller : Option Retry) :
      Section shared input (.attach conn caller)
        (Shared.closeNet { shared with engine := { shared.engine with conn := some conn } } conn)
        (.connectFailed caller)
  | helloSent (conn : ℕ) (caller : Option Retry) :
      Section shared input (.hello conn caller) shared (.connectDone caller)
  | helloFailed (conn : ℕ) (caller : Option Retry) :
      Section shared input (.hello conn caller) (shared.closeNet conn) (.connectFailed caller)
  | handshakeConn (conn : ℕ) (caller : Option Retry) (hconn : shared.engine.conn = some conn) :
      Section shared input (.handshakeConn caller) shared (.handshakeRead conn caller)
  | handshakeFailed (goroutine : Goroutine suite) (caller : Option Retry) :
      Section shared input goroutine shared (.handshakeFailed caller)
  | handshakeCrash (conn : ℕ) (caller : Option Retry)
      (hpeer : shared.engine.pakePeer = none) :
      Section shared input (.handshakeRead conn caller) shared (.crashed .pakePeer)
  | handshakeRead (conn : ℕ) (caller : Option Retry) (peer : PAKEPeer suite) (masterKey : Key)
      (hpeer : shared.engine.pakePeer = some peer) :
      Section shared input (.handshakeRead conn caller) shared
        (.installSession masterKey caller)
  | installSession (masterKey : Key) (caller : Option Retry) :
      Section shared input (.installSession masterKey caller)
        (shared.installSession masterKey) (.handshakeDone caller)
  | backoff (goroutine : Goroutine suite) (retry : Retry) :
      Section shared input goroutine shared (.backoff retry)
  | newPeer (goroutine : Goroutine suite) (passphrase : Bytes) (peer : PAKEPeer suite)
      (retry : Retry) (hpassphrase : shared.engine.passphrase = some passphrase) :
      Section shared input goroutine shared (.setPeer peer retry)
  | setPeer (peer : PAKEPeer suite) (retry : Retry) :
      Section shared input (.setPeer peer retry)
        { shared with engine := { shared.engine with pakePeer := some peer } }
        (.dial (some retry))
  | dropConn (retry : Retry) :
      Section shared input (.dropConn retry) shared.dropConn (.backoff retry)
  | syncRequest (site : Site) :
      Section shared input (.syncRequest site) shared (.reconnected site)
  | checkClosed (goroutine : Goroutine suite) (site : Site) :
      Section shared input goroutine shared (.checkClosed site)
  | fetch (goroutine : Goroutine suite) (conn : ℕ) (hconn : shared.engine.conn = some conn) :
      Section shared input goroutine shared (.reading conn)
  | fetchCrash : Section shared input .refetch shared (.crashed .conn)
  | readRekey (conn : ℕ) (env : Envelope) :
      Section shared input (.reading conn) shared (.rekeyCipher env)
  | readData (conn : ℕ) (env : Envelope) :
      Section shared input (.reading conn) shared (.dataCipher conn env)
  | rekeyCipher (cipher : ℕ) (env : Envelope) (hcipher : shared.engine.cipher = some cipher) :
      Section shared input (.rekeyCipher env) shared (.rekeyDecrypt cipher env)
  | rekeyDecrypt (cipher : ℕ) (env : Envelope) (salt : Bytes) :
      Section shared input (.rekeyDecrypt cipher env) shared (.rekeyGetKey cipher salt)
  | rekeyGetKey (cipher : ℕ) (salt nextKey : Bytes) (key : Key)
      (hkey : shared.ciphers cipher = some key) :
      Section shared input (.rekeyGetKey cipher salt) shared (.rekeyInstall nextKey)
  | rekeyInstall (nextKey : Bytes) :
      Section shared input (.rekeyInstall nextKey) (shared.updateKey nextKey) .loop
  | rekeyCrash (nextKey : Bytes) (hcipher : shared.engine.cipher = none) :
      Section shared input (.rekeyInstall nextKey) shared (.crashed .updateKey)
  | dataCipher (conn cipher : ℕ) (env : Envelope) :
      Section shared input (.dataCipher conn env) shared (.dataDecrypt conn cipher env)
  | dataDecrypt (conn cipher : ℕ) (env : Envelope) (msg : SeqMsg) :
      Section shared input (.dataDecrypt conn cipher env) shared (.deduplicate conn msg)
  | deduplicate (conn : ℕ) (msg : SeqMsg) :
      Section shared input (.deduplicate conn msg)
        { shared with engine := { shared.engine with lastSeqNum := msg.seqNum } }
        (.push conn msg)
  | push (conn : ℕ) (msg : SeqMsg) :
      Section shared input (.push conn msg)
        { shared with
          engine := { shared.engine with
            ringBuffer := shared.engine.ringBuffer.push msg.seqNum msg.payload }
          delivered := shared.delivered ++ [(conn, msg)] }
        .loop

section Inversion

variable {shared shared' : Shared suite} {goroutine goroutine' : Goroutine suite}
variable {input : Input suite}

theorem section_of_start (hstart : start shared input = some (shared', goroutine')) :
    Section shared input .idle shared' goroutine' := by
  simp only [start] at hstart
  split at hstart
  · cases hstart
    exact .connect rfl
  · cases hstart
    exact .completeHandshake
  · cases hstart
    exact .continues _
  · cases hstart
    exact .close rfl
  · cases hstart

theorem section_of_connect
    (hconnect : connect shared goroutine input = some (shared', goroutine')) :
    Section shared input goroutine shared' goroutine' := by
  simp only [connect] at hconnect
  split at hconnect
  · cases hconnect
    exact .dialFailed _
  · cases hconnect
    exact .dialed _
  · split at hconnect
    · cases hconnect
      exact .attach _ _ _
    · split at hconnect
      · cases hconnect
        exact .attachFailed _ _
      · cases hconnect
        exact .attach _ _ _
  · split at hconnect
    · cases hconnect
      exact .helloSent _ _
    · cases hconnect
      exact .helloFailed _ _
  · cases hconnect

theorem section_of_completeHandshake
    (hhandshake : completeHandshake shared goroutine input = some (shared', goroutine')) :
    Section shared input goroutine shared' goroutine' := by
  simp only [completeHandshake] at hhandshake
  split at hhandshake
  · split at hhandshake
    · cases hhandshake
      exact .handshakeFailed _ _
    · rename_i hconn
      cases hhandshake
      exact .handshakeConn _ _ hconn
  · cases hhandshake
    exact .handshakeFailed _ _
  · split at hhandshake
    · split at hhandshake
      · rename_i hpeer
        cases hhandshake
        exact .handshakeCrash _ _ hpeer
      · rename_i hpeer
        split at hhandshake
        · cases hhandshake
          exact .handshakeFailed _ _
        · split at hhandshake
          · cases hhandshake
            exact .handshakeRead _ _ _ _ hpeer
          · cases hhandshake
            exact .handshakeFailed _ _
    · cases hhandshake
      exact .handshakeFailed _ _
  · cases hhandshake
    exact .installSession _ _
  · cases hhandshake

theorem section_of_reconnectLoop
    (hloop : reconnectLoop shared goroutine input = some (shared', goroutine')) :
    Section shared input goroutine shared' goroutine' := by
  simp only [reconnectLoop] at hloop
  split at hloop
  · cases hloop
    exact .returns _
  · cases hloop
    exact .returns _
  · split at hloop
    · cases hloop
      exact .returns _
    · rename_i hpassphrase
      split at hloop
      · cases hloop
        exact .backoff _ _
      · cases hloop
        exact .newPeer _ _ _ _ hpassphrase
  · cases hloop
    exact .setPeer _ _
  · cases hloop
    exact .dropConn _
  · cases hloop
    exact .syncRequest _
  · cases hloop

theorem section_of_dispatchFrame (shared : Shared suite) (input : Input suite) (conn : ℕ)
    (env : Envelope) : Section shared input (.reading conn) shared (dispatchFrame conn env) := by
  rw [dispatchFrame]
  split
  · exact .returns _
  split
  · exact .continues _
  split
  · split
    · exact .continues _
    · exact .readRekey _ _
  split
  · exact .continues _
  split
  · exact .continues _
  · exact .readData _ _

theorem section_of_subscribeStream
    (hstream : subscribeStream shared goroutine input = some (shared', goroutine')) :
    Section shared input goroutine shared' goroutine' := by
  simp only [subscribeStream] at hstream
  split at hstream
  · cases hstream
    exact .returns _
  · split at hstream
    · cases hstream
      exact .checkClosed _ _
    · rename_i hconn
      cases hstream
      exact .fetch _ _ hconn
  · cases hstream
    split
    · exact .returns _
    · exact .backoff _ _
  · split at hstream
    · cases hstream
      exact .fetchCrash
    · rename_i hconn
      cases hstream
      exact .fetch _ _ hconn
  · cases hstream
    exact .returns _
  · cases hstream
    exact .checkClosed _ _
  · cases hstream
    exact section_of_dispatchFrame _ _ _ _
  · cases hstream

theorem section_of_receiveRekey
    (hrekey : receiveRekey shared goroutine input = some (shared', goroutine')) :
    Section shared input goroutine shared' goroutine' := by
  simp only [receiveRekey] at hrekey
  split at hrekey
  · split at hrekey
    · cases hrekey
      exact .continues _
    · rename_i hcipher
      cases hrekey
      exact .rekeyCipher _ _ hcipher
  · split at hrekey
    · cases hrekey
      exact .returns _
    · split at hrekey
      · cases hrekey
        exact .returns _
      · cases hrekey
        exact .rekeyDecrypt _ _ _
  · split at hrekey
    · cases hrekey
      exact .continues _
    · rename_i hkey
      split at hrekey
      · cases hrekey
        exact .continues _
      · cases hrekey
        exact .rekeyGetKey _ _ _ _ hkey
  · split at hrekey
    · rename_i hcrash
      cases hrekey
      exact .rekeyCrash _ (Option.isNone_iff_eq_none.mp (Bool.and_eq_true_iff.mp hcrash).2)
    · cases hrekey
      exact .rekeyInstall _
  · cases hrekey

theorem section_of_receiveData
    (hdata : receiveData shared goroutine input = some (shared', goroutine')) :
    Section shared input goroutine shared' goroutine' := by
  simp only [receiveData] at hdata
  split at hdata
  · split at hdata
    · cases hdata
      exact .continues _
    · cases hdata
      exact .dataCipher _ _ _
  · split at hdata
    · cases hdata
      exact .returns _
    · split at hdata
      · cases hdata
        exact .returns _
      · cases hdata
        exact .dataDecrypt _ _ _ _
  · split at hdata
    · cases hdata
      exact .continues _
    · cases hdata
      exact .deduplicate _ _
  · cases hdata
    exact .push _ _
  · cases hdata

/-- Every step of a goroutine is one of the sections above. -/
theorem section_of_advance
    (hadvance : advance shared goroutine input = some (shared', goroutine')) :
    Section shared input goroutine shared' goroutine' := by
  cases goroutine with
  | idle => exact section_of_start hadvance
  | dial | attach | hello => exact section_of_connect hadvance
  | handshakeConn | handshakeRead | installSession =>
      exact section_of_completeHandshake hadvance
  | backoff | setPeer | dropConn | syncRequest => exact section_of_reconnectLoop hadvance
  | loop | checkClosed | refetch | reading => exact section_of_subscribeStream hadvance
  | rekeyCipher | rekeyDecrypt | rekeyGetKey | rekeyInstall =>
      exact section_of_receiveRekey hadvance
  | dataCipher | dataDecrypt | deduplicate | push => exact section_of_receiveData hadvance
  | crashed => cases hadvance

end Inversion

/-! ## The system -/

abbrev State (suite : Suite) := Pool (Shared suite) (Goroutine suite)

namespace State

/-- An engine on which no goroutine has started a call. -/
def start (engine : Engine suite) : State suite where
  shared :=
    { engine := engine
      ciphers := fun _ => none
      created := 0
      opened := 0
      netClosed := fun _ => false
      late := fun _ => false
      delivered := [] }
  threads := fun _ => .idle

abbrev step : State suite → Label (Input suite) → Option (State suite) := Pool.step advance

end State

theorem section_of_step {state state' : State suite} {label : Label (Input suite)}
    (hstep : State.step state label = some state') :
    ∃ goroutine', Section state.shared label.input (state.threads label.thread)
        state'.shared goroutine' ∧ Moves state state' label.thread goroutine' := by
  obtain ⟨goroutine', hadvance, hmoves⟩ := advance_of_step hstep
  exact ⟨goroutine', section_of_advance hadvance, hmoves⟩

theorem idleFrom_start (count : ℕ) (engine : Engine suite) :
    IdleFrom .idle count (State.start engine).threads :=
  idleFrom_const _ count

/-! ## A session to run -/

def samplePassphrase : Bytes := [1]

def sampleKey : Key := copyFixed keySize [7]

def sampleCoins : PeerCoins transparent := ⟨(3 : Byte), (4 : Byte), copyFixed 64 []⟩

def sampleUpdate : UpdateCoins transparent := ⟨(5 : Byte), copyFixed 160 []⟩

/-- The engine `newEngine` returns for the sample passphrase. -/
def sampleEngine : Engine transparent where
  passphrase := some samplePassphrase
  sessionID := deriveSessionID transparent samplePassphrase
  conn := none
  pakePeer := (newPAKESubscriber samplePassphrase sampleCoins).toOption
  cipher := none
  ringBuffer := newRingBuffer 100
  lastSeqNum := 0
  sas := ⟨"", ""⟩
  closed := false

theorem newEngine_sample : newEngine samplePassphrase sampleCoins = .ok sampleEngine := rfl

/-- What a publisher with the same passphrase answers. -/
def sampleResponse : Except CryptoError Envelope := do
  let subscriber ← newPAKESubscriber samplePassphrase sampleCoins
  let publisher ← newPAKEPublisher samplePassphrase sampleCoins
  let (_, answer) ← answerInit publisher subscriber.bytes sampleUpdate
  Step2.envelope transparent sampleEngine.sessionID
    ⟨answer, sampleKey.val, copyFixed nonceSize []⟩

/-- A frame with the given plaintext under the sample key. -/
def sampleFrame (frame : SealedFrame) : Envelope :=
  frame.envelope sampleEngine.sessionID transparent

/-- `SubscribeStream` finds no connection and enters `reconnectLoop`, up to the
peer it makes from its copy of the passphrase. -/
def reconnecting (thread : ℕ) : List (Label (Input transparent)) :=
  [⟨thread, .subscribeStream⟩, ⟨thread, .proceed⟩, ⟨thread, .proceed⟩,
    ⟨thread, .coins sampleCoins⟩]

/-- The rest of that round, up to the first read. -/
def joining (thread : ℕ) : List (Label (Input transparent)) :=
  [⟨thread, .proceed⟩, ⟨thread, .dialed true⟩, ⟨thread, .coins sampleCoins⟩,
    ⟨thread, .sent true⟩, ⟨thread, .proceed⟩,
    ⟨thread, .handshake sampleResponse.toOption sampleUpdate true⟩, ⟨thread, .proceed⟩,
    ⟨thread, .proceed⟩, ⟨thread, .proceed⟩]

end ZeroFeed.Reconnect
