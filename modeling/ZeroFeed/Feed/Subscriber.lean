import ZeroFeed.Feed.Frame
import ZeroFeed.Feed.Publisher
import ZeroFeed.Feed.Transfer

/-!
# The subscriber (`pkg/feed/subscriber.go`)

`receive` is one round of the receive loop on a frame that was read, and
`subscribeStream` the loop over everything that arrives: frames, and losses of
the connection that `reconnectLoop` repairs or gives up on.
-/

namespace ZeroFeed.Subscriber

open ZeroFeed.ByteString
open ZeroFeed.Messages
open ZeroFeed.Envelope
open ZeroFeed.Primitives
open ZeroFeed.Cipher
open ZeroFeed.Pake
open ZeroFeed.Ring
open ZeroFeed.Frame
open ZeroFeed.Handshake
open ZeroFeed.Publisher (deriveSessionID)
open ZeroFeed.Transfer

structure SubscriberEngine where
  passphrase : Bytes
  sessionID : SessionID
  cipher : Option Key
  ringBuffer : RingBuffer
  lastSeqNum : ℕ
  sas : SAS

def newSubscriberEngine (suite : Suite) (passphrase : Bytes) :
    Except CryptoError SubscriberEngine :=
  if passphrase.length = 0 then .error .emptySecret
  else .ok
    { passphrase := passphrase
      sessionID := deriveSessionID suite passphrase
      cipher := none
      ringBuffer := newRingBuffer 100
      lastSeqNum := 0
      sas := ⟨"", ""⟩ }

theorem lastSeqNum_newSubscriberEngine {suite : Suite} {passphrase : Bytes}
    {engine : SubscriberEngine} (hnew : newSubscriberEngine suite passphrase = .ok engine) :
    engine.lastSeqNum = 0 := by
  rw [newSubscriberEngine] at hnew
  split at hnew
  · cases hnew
  · cases hnew
    rfl

namespace SubscriberEngine

/-- What a completed handshake installs.  `lastSeqNum` is left as it is. -/
def installSession (suite : Suite) (engine : SubscriberEngine) (masterKey : Key) :
    SubscriberEngine :=
  { engine with cipher := some masterKey, sas := calculateSAS suite masterKey.val }

/-- `CompleteHandshake` on the frames that arrive: the engine with the session
installed, and the confirmation sent back. -/
def completeHandshake {suite : Suite} (engine : SubscriberEngine) (peer : PAKEPeer suite)
    (coins : UpdateCoins suite) (frames : List Envelope) :
    Except HandshakeError (SubscriberEngine × Envelope) :=
  (subscriberHandshake peer coins frames).map fun joined =>
    (engine.installSession suite joined.masterKey,
      plainEnvelope engine.sessionID msgTypeKeyConfirm joined.confirmTag)

/-- `SendSyncRequest`. -/
def syncRequest (engine : SubscriberEngine) : Envelope :=
  plainEnvelope engine.sessionID msgTypeSyncReq (putUint64 engine.lastSeqNum).val

end SubscriberEngine

/-- A running `SubscribeStream`: the engine, the state of the dispatch, and the
list of all pushes to the engine's ring buffer. -/
structure Stream (host : Host) where
  engine : SubscriberEngine
  desk : Desk host
  delivered : List SeqMsg

/-- `SubscribeStream` when it is called. -/
def Stream.start {host : Host} (engine : SubscriberEngine) (disk : host.Disk) : Stream host where
  engine := engine
  desk := ⟨[], disk, [], [], []⟩
  delivered := []

/-- Ways in which `SubscribeStream` returns. -/
inductive Exit where
  | closedByPeer
  | rekeyAuthentication (err : CryptoError)
  | frameAuthentication (err : CryptoError)
  | reconnectFailed
  deriving DecidableEq

section Receive

variable (suite : Suite) {host : Host} (stream : Stream host)

/-- Ratchet to the next key.  The result of `UpdateKey` is ignored. -/
def ratchetTo (key : Key) (salt : Bytes) : Stream host :=
  match ratchetKey suite key.val salt with
  | .error _ => stream
  | .ok nextKey =>
      { stream with engine := { stream.engine with
          cipher := (newCipher nextKey).toOption.or stream.engine.cipher
          sas := calculateSAS suite nextKey } }

def receiveRekey (env : Envelope) : Stream host × Option Exit :=
  if env.payload.length < 8 then (stream, none)
  else
    match stream.engine.cipher with
    | none => (stream, none)
    | some key =>
        match openFrame suite key env with
        | .error err => (stream, some (.rekeyAuthentication err))
        | .ok salt => (ratchetTo suite stream key salt, none)

/-- Push an accepted payload and route it. -/
def deliver (msg : SeqMsg) : Stream host :=
  { engine := { stream.engine with
      lastSeqNum := msg.seqNum
      ringBuffer := stream.engine.ringBuffer.push msg.seqNum msg.payload }
    desk := stream.desk.dispatch suite msg.payload
    delivered := stream.delivered ++ [msg] }

/-- A plaintext that is not padded is taken as it is. -/
def unpadded (plaintext : Bytes) : Bytes := (unpadPayload plaintext).toOption.getD plaintext

def receiveData (env : Envelope) : Stream host × Option Exit :=
  if env.payload.length < 8 then (stream, none)
  else
    match stream.engine.cipher with
    | none => (stream, none)
    | some key =>
        match openFrame suite key env with
        | .error err => (stream, some (.frameAuthentication err))
        | .ok plaintext =>
            if clearSeqNum env ≤ stream.engine.lastSeqNum then (stream, none)
            else (deliver suite stream ⟨clearSeqNum env, unpadded plaintext⟩, none)

/-- One frame. -/
def receive (env : Envelope) : Stream host × Option Exit :=
  if env.msgType = msgTypeClose then (stream, some .closedByPeer)
  else if env.msgType = msgTypeHeartbeat then (stream, none)
  else if env.msgType = msgTypeRekey then receiveRekey suite stream env
  else if env.msgType ≠ msgTypeDataStream then (stream, none)
  else receiveData suite stream env

end Receive

/-- The frames `Decode` returns. -/
abbrev ReadFrame := { env : Envelope // Decodable env }

/-- What the loop sees: a frame, or the end of the connection followed by a
successful or failed `reconnectLoop`. -/
inductive Inbound where
  | frame (env : ReadFrame)
  | reconnected (masterKey : Key)
  | reconnectFailed

section Loop

variable (suite : Suite) {host : Host}

def step (stream : Stream host) : Inbound → Stream host × Option Exit
  | .frame env => receive suite stream env.val
  | .reconnected masterKey =>
      ({ stream with engine := stream.engine.installSession suite masterKey }, none)
  | .reconnectFailed => (stream, some .reconnectFailed)

/-- The loop.  It ends with the deferred cleanup when a round returns. -/
def subscribeStream (stream : Stream host) : List Inbound → Stream host × Option Exit
  | [] => (stream, none)
  | event :: events =>
      match step suite stream event with
      | (next, none) => subscribeStream next events
      | (next, some exit) => ({ next with desk := next.desk.closeFiles }, some exit)

end Loop

theorem subscribeStream_append {suite : Suite} {host : Host} {stream current : Stream host}
    {before : List Inbound} (hbefore : subscribeStream suite stream before = (current, none))
    (after : List Inbound) :
    subscribeStream suite stream (before ++ after) = subscribeStream suite current after := by
  induction before generalizing stream with
  | nil =>
      cases hbefore
      rfl
  | cons event before ih =>
      rw [List.cons_append, subscribeStream]
      rw [subscribeStream] at hbefore
      split at hbefore
      · exact ih hbefore
      · cases hbefore

/-- A computed result of the loop that is still running. -/
theorem exists_running {host : Host} {result : Stream host × Option Exit}
    (property : Stream host → Bool)
    (hresult : (result.2.isNone && property result.1) = true) :
    ∃ current, result = (current, none) ∧ property current = true := by
  obtain ⟨hnone, hproperty⟩ := Bool.and_eq_true_iff.mp hresult
  exact ⟨result.1, Prod.ext rfl (Option.isNone_iff_eq_none.mp hnone), hproperty⟩

/-- One more frame: the engine and the deliveries are those of the round, and a
round that returns also cleans up. -/
theorem subscribeStream_single {suite : Suite} {host : Host} {stream next : Stream host}
    {env : ReadFrame} {exit : Option Exit}
    (hnext : subscribeStream suite stream [.frame env] = (next, exit)) :
    next.engine = (receive suite stream env.val).1.engine ∧
      next.delivered = (receive suite stream env.val).1.delivered ∧
      exit = (receive suite stream env.val).2 ∧
      (exit.isSome = true →
        next.desk = (receive suite stream env.val).1.desk.closeFiles) := by
  rw [subscribeStream, step] at hnext
  split at hnext
  · rename_i round heq
    cases hnext
    rw [heq]
    exact ⟨rfl, rfl, rfl, fun hsome => by cases hsome⟩
  · rename_i round reason heq
    cases hnext
    rw [heq]
    exact ⟨rfl, rfl, rfl, fun _ => rfl⟩

/-! ## What a round can do -/

/-- The effects of `receive`: nothing, a return, a new key, or a delivery. -/
inductive Reaction (suite : Suite) {host : Host} (stream : Stream host) (env : Envelope) :
    Stream host → Option Exit → Prop where
  | ignored : Reaction suite stream env stream none
  | exits (exit : Exit) : Reaction suite stream env stream (some exit)
  | rekeyed (key : Key) (salt : Bytes) (hcipher : stream.engine.cipher = some key)
      (htype : env.msgType = msgTypeRekey) (hopen : openFrame suite key env = .ok salt) :
      Reaction suite stream env (ratchetTo suite stream key salt) none
  | delivered (key : Key) (plaintext : Bytes) (hcipher : stream.engine.cipher = some key)
      (htype : env.msgType = msgTypeDataStream)
      (hopen : openFrame suite key env = .ok plaintext)
      (hnew : stream.engine.lastSeqNum < clearSeqNum env) :
      Reaction suite stream env
        (deliver suite stream ⟨clearSeqNum env, unpadded plaintext⟩) none

section Inversion

variable (suite : Suite) {host : Host} (stream : Stream host) {env : Envelope}

theorem reaction_of_receiveRekey (htype : env.msgType = msgTypeRekey) :
    Reaction suite stream env (receiveRekey suite stream env).1
      (receiveRekey suite stream env).2 := by
  rw [receiveRekey]
  split
  · exact .ignored
  · cases hcipher : stream.engine.cipher with
    | none => exact .ignored
    | some key =>
        cases hopen : openFrame suite key env with
        | error err => simp only [hopen]; exact .exits _
        | ok salt => simp only [hopen]; exact .rekeyed key salt hcipher htype hopen

theorem reaction_of_receiveData (htype : env.msgType = msgTypeDataStream) :
    Reaction suite stream env (receiveData suite stream env).1
      (receiveData suite stream env).2 := by
  rw [receiveData]
  split
  · exact .ignored
  · cases hcipher : stream.engine.cipher with
    | none => exact .ignored
    | some key =>
        cases hopen : openFrame suite key env with
        | error err => simp only [hopen]; exact .exits _
        | ok plaintext =>
            by_cases hold : clearSeqNum env ≤ stream.engine.lastSeqNum
            · simp only [hopen, if_pos hold]
              exact .ignored
            · simp only [hopen, if_neg hold]
              exact .delivered key plaintext hcipher htype hopen (not_le.mp hold)

theorem reaction_of_receive (env : Envelope) :
    Reaction suite stream env (receive suite stream env).1 (receive suite stream env).2 := by
  rw [receive]
  split
  · exact .exits _
  split
  · exact .ignored
  split
  · rename_i htype
    exact reaction_of_receiveRekey suite stream htype
  split
  · exact .ignored
  · rename_i htype
    exact reaction_of_receiveData suite stream (not_not.mp htype)

end Inversion

/-- A property kept by every round and by the cleanup holds after the loop. -/
theorem subscribeStream_preserves {suite : Suite} {host : Host}
    {property : Stream host → Prop} {events : List Inbound}
    (hstep : ∀ event ∈ events, ∀ stream, property stream →
      property (step suite stream event).1)
    (hclose : ∀ stream, property stream →
      property { stream with desk := stream.desk.closeFiles })
    {stream : Stream host} (hstream : property stream) :
    property (subscribeStream suite stream events).1 := by
  induction events generalizing stream with
  | nil => exact hstream
  | cons event events ih =>
      have hnext := hstep event List.mem_cons_self stream hstream
      rw [subscribeStream]
      split
      · rename_i next heq
        rw [heq] at hnext
        exact ih (fun later hlater => hstep later (List.mem_cons_of_mem event hlater)) hnext
      · rename_i next exit heq
        rw [heq] at hnext
        exact hclose next hnext

/-! ## Deliveries rise -/

/-- Deliveries carry increasing 64-bit numbers, up to the high-water mark. -/
structure Rising {host : Host} (stream : Stream host) : Prop where
  increasing : stream.delivered.Pairwise fun left right => left.seqNum < right.seqNum
  below : ∀ msg ∈ stream.delivered, msg.seqNum ≤ stream.engine.lastSeqNum
  range : ∀ msg ∈ stream.delivered, 0 < msg.seqNum ∧ msg.seqNum < 2 ^ 64

theorem rising_deliver {suite : Suite} {host : Host} {stream : Stream host}
    (hrising : Rising stream) {msg : SeqMsg} (hnew : stream.engine.lastSeqNum < msg.seqNum)
    (hrange : msg.seqNum < 2 ^ 64) : Rising (deliver suite stream msg) := by
  refine ⟨?_, ?_, ?_⟩
  · refine List.pairwise_append.mpr ⟨hrising.increasing, List.pairwise_singleton _ _, ?_⟩
    intro earlier hearlier later hlater
    rw [List.mem_singleton.mp hlater]
    exact (hrising.below earlier hearlier).trans_lt hnew
  · intro item hitem
    rcases List.mem_append.mp hitem with hitem | hitem
    · exact (hrising.below item hitem).trans hnew.le
    · rw [List.mem_singleton.mp hitem]
      exact le_refl _
  · intro item hitem
    rcases List.mem_append.mp hitem with hitem | hitem
    · exact hrising.range item hitem
    · rw [List.mem_singleton.mp hitem]
      exact ⟨Nat.zero_lt_of_lt hnew, hrange⟩

theorem delivered_ratchetTo (suite : Suite) {host : Host} (stream : Stream host) (key : Key)
    (salt : Bytes) : (ratchetTo suite stream key salt).delivered = stream.delivered := by
  rw [ratchetTo]
  split <;> rfl

theorem lastSeqNum_ratchetTo (suite : Suite) {host : Host} (stream : Stream host) (key : Key)
    (salt : Bytes) :
    (ratchetTo suite stream key salt).engine.lastSeqNum = stream.engine.lastSeqNum := by
  rw [ratchetTo]
  split <;> rfl

theorem rising_reaction {suite : Suite} {host : Host} {stream next : Stream host}
    {env : Envelope} {exit : Option Exit} (hreaction : Reaction suite stream env next exit)
    (hrising : Rising stream) : Rising next := by
  cases hreaction with
  | ignored => exact hrising
  | exits => exact hrising
  | rekeyed key salt =>
      refine ⟨?_, ?_, ?_⟩ <;> rw [delivered_ratchetTo]
      · exact hrising.increasing
      · rw [lastSeqNum_ratchetTo]
        exact hrising.below
      · exact hrising.range
  | delivered key plaintext hcipher htype hopen hnew =>
      exact rising_deliver hrising hnew (clearSeqNum_lt env)

/-- Whatever arrives, deliveries rise. -/
theorem rising_subscribeStream (suite : Suite) {host : Host} (subscriber : SubscriberEngine)
    (disk : host.Disk) (events : List Inbound) :
    Rising (subscribeStream suite (Stream.start subscriber disk) events).1 := by
  refine subscribeStream_preserves ?_ ?_ ?_
  · intro event _ stream hstream
    cases event with
    | frame env => exact rising_reaction (reaction_of_receive suite stream env.val) hstream
    | reconnected masterKey => exact ⟨hstream.increasing, hstream.below, hstream.range⟩
    | reconnectFailed => exact hstream
  · exact fun stream hstream => ⟨hstream.increasing, hstream.below, hstream.range⟩
  · exact ⟨List.Pairwise.nil, fun msg hmsg => (List.not_mem_nil hmsg).elim,
      fun msg hmsg => (List.not_mem_nil hmsg).elim⟩

/-- Fewer than `2 ^ 64` messages are ever delivered by one stream. -/
theorem Rising.length_delivered_lt {host : Host} {stream : Stream host}
    (hrising : Rising stream) : stream.delivered.length < 2 ^ 64 := by
  have hnodup : (stream.delivered.map SeqMsg.seqNum).Nodup :=
    List.pairwise_map.mpr (hrising.increasing.imp fun hlt => hlt.ne)
  have hsubset : (stream.delivered.map SeqMsg.seqNum).toFinset ⊆ Finset.Ioo 0 (2 ^ 64) := by
    intro seqNum hseqNum
    obtain ⟨msg, hmsg, rfl⟩ := List.mem_map.mp (List.mem_toFinset.mp hseqNum)
    exact Finset.mem_Ioo.mpr (hrising.range msg hmsg)
  have hcard := Finset.card_le_card hsubset
  rw [List.toFinset_card_of_nodup hnodup, List.length_map, Nat.card_Ioo] at hcard
  omega

/-! ## Output -/

theorem desk_ratchetTo (suite : Suite) {host : Host} (stream : Stream host) (key : Key)
    (salt : Bytes) : (ratchetTo suite stream key salt).desk = stream.desk := by
  rw [ratchetTo]
  split <;> rfl

/-- The output is what the delivered payloads show, in the order of delivery. -/
def ShowsDelivered {host : Host} (stream : Stream host) : Prop :=
  stream.desk.output = stream.delivered.flatMap fun msg => shown msg.payload

theorem showsDelivered_reaction {suite : Suite} {host : Host} {stream next : Stream host}
    {env : Envelope} {exit : Option Exit} (hreaction : Reaction suite stream env next exit)
    (hshows : ShowsDelivered stream) : ShowsDelivered next := by
  cases hreaction with
  | ignored => exact hshows
  | exits => exact hshows
  | rekeyed key salt =>
      rw [ShowsDelivered, desk_ratchetTo, delivered_ratchetTo]
      exact hshows
  | delivered key plaintext =>
      rw [ShowsDelivered, deliver, output_dispatch, hshows, List.flatMap_append,
        List.flatMap_singleton]

/-- Whatever arrives, only delivered payloads are shown. -/
theorem showsDelivered_subscribeStream (suite : Suite) {host : Host}
    (subscriber : SubscriberEngine) (disk : host.Disk) (events : List Inbound) :
    ShowsDelivered (subscribeStream suite (Stream.start subscriber disk) events).1 := by
  refine subscribeStream_preserves ?_ ?_ ?_
  · intro event _ stream hstream
    cases event with
    | frame env =>
        exact showsDelivered_reaction (reaction_of_receive suite stream env.val) hstream
    | reconnected masterKey => exact hstream
    | reconnectFailed => exact hstream
  · exact fun stream hstream => hstream
  · rfl

end ZeroFeed.Subscriber
