import ZeroFeed.Feed.Agreement
import ZeroFeed.Feed.Subscriber

/-!
# Handshakes on a multiplexed connection

The relay broadcasts everything the publisher sends to every registered
subscriber, and forwards every subscriber's frames on the publisher's one
connection.  A joining subscriber can read frames that are not meant for it
before its own response arrives, and the publisher can read one subscriber's
initial message while it waits for another one's confirmation.
-/

namespace ZeroFeed.Multiplex

open ZeroFeed.ByteString
open ZeroFeed.Messages
open ZeroFeed.Envelope
open ZeroFeed.Primitives
open ZeroFeed.Cipher
open ZeroFeed.Pake
open ZeroFeed.Ring
open ZeroFeed.Frame
open ZeroFeed.Handshake
open ZeroFeed.Agreement
open ZeroFeed.Publisher
open ZeroFeed.Subscriber

variable {suite : Suite}

/-! ## The subscriber's first frame -/

/-- The payload carries a confirmation tag this peer expects of the
publisher. -/
def Confirms (peer : PAKEPeer suite) (coins : UpdateCoins suite) (payload : Bytes) : Prop :=
  ∃ peer', peer.update (slicePake payload) coins = .ok peer' ∧
    peer'.verifyPeerConfirm (sliceTag payload) = .ok ()

theorem confirms_of_openStep2 {peer : PAKEPeer suite} {coins : UpdateCoins suite}
    {payload : Bytes} {joined : Joined} (hopen : openStep2 peer coins payload = .ok joined) :
    Confirms peer coins payload := by
  obtain ⟨peer', hupdate, hrest⟩ := bind_eq_ok.mp hopen
  obtain ⟨done, hverify, -⟩ := bind_eq_ok.mp hrest
  exact ⟨peer', hupdate, hverify⟩

theorem openStep2_of_subscriberHandshake {peer : PAKEPeer suite} {coins : UpdateCoins suite}
    {frame : Envelope} {frames : List Envelope} {joined : Joined}
    (hjoined : subscriberHandshake peer coins (frame :: frames) = .ok joined) :
    openStep2 peer coins frame.payload = .ok joined := by
  rw [subscriberHandshake] at hjoined
  split at hjoined
  · cases hjoined
  split at hjoined
  · cases hjoined
  split at hjoined
  · cases hjoined
  split at hjoined
  · cases hjoined
  · rename_i hopen
    cases hjoined
    exact hopen

theorem subscriberHandshake_of_openStep2 {peer : PAKEPeer suite} {coins : UpdateCoins suite}
    {frame : Envelope} {joined : Joined} (htype : frame.msgType ≠ msgTypeClose)
    (hversion : ¬ frame.version < minSupportedVersion)
    (hsize : frame.payload.length = uniformWireMsgSize + wrappedKeySize + confirmTagSize)
    (hopen : openStep2 peer coins frame.payload = .ok joined) (frames : List Envelope) :
    subscriberHandshake peer coins (frame :: frames) = .ok joined := by
  rw [subscriberHandshake, if_neg htype, if_neg hversion, if_neg (not_lt.mpr hsize.ge), hopen]

section Own

variable (hlawful : Lawful suite) {passphrase : Bytes}
variable {publisherCoins subscriberCoins : PeerCoins suite} {publisher subscriber : PAKEPeer suite}
variable (hpublisher : newPAKEPublisher passphrase publisherCoins = .ok publisher)
variable (hsubscriber : newPAKESubscriber passphrase subscriberCoins = .ok subscriber)
variable (update subscriberUpdate : UpdateCoins suite) (masterKey : Key) (wrapNonce : Nonce)
include hlawful hpublisher hsubscriber

/-- The response computed from a subscriber's own message gives it the master
key. -/
theorem openStep2_own :
    ∃ publisher' answer payload tag,
      answerInit publisher subscriber.bytes update = .ok (publisher', answer) ∧
      Step2.payload suite ⟨answer, masterKey.val, wrapNonce⟩ = .ok payload ∧
      payload.length = uniformWireMsgSize + wrappedKeySize + confirmTagSize ∧
      openStep2 subscriber subscriberUpdate payload = .ok ⟨tag, masterKey⟩ := by
  obtain ⟨publisher', subscriber', hfirst, hsecond, hlength, hpub, hsub, -⟩ :=
    exchange hlawful hpublisher hsubscriber update subscriberUpdate
  generalize exchangeKey suite _ passphrase = key at hpub hsub
  obtain ⟨payload, hpayload, hsize, hpake, htag, hunwrap⟩ := slices_of_response hlawful key
    masterKey wrapNonce (suite.hmac key.val (PAKEPeer.confirmMessage Role.publisher.byte))
    hlength
  have haccepts := hsub.accepts
  refine ⟨publisher', _, payload, tagOf suite .subscriber key, ?_, hpayload, hsize, ?_⟩
  · exact bind_eq_ok.mpr ⟨publisher', hfirst, bind_eq_ok.mpr ⟨_, hpub.sessionKey_eq,
      bind_eq_ok.mpr ⟨_, hpub.confirmTag_eq, rfl⟩⟩⟩
  · exact bind_eq_ok.mpr ⟨subscriber', hpake ▸ hsecond, bind_eq_ok.mpr ⟨(), htag ▸ haccepts,
      bind_eq_ok.mpr ⟨_, hsub.confirmTag_eq, bind_eq_ok.mpr ⟨_, hsub.sessionKey_eq,
        bind_eq_ok.mpr ⟨_, hunwrap, bind_eq_ok.mpr ⟨_, newCipher_key masterKey, rfl⟩⟩⟩⟩⟩⟩

end Own

theorem completeHandshake_eq_ok {engine joined : SubscriberEngine} {peer : PAKEPeer suite}
    {coins : UpdateCoins suite} {frames : List Envelope} {confirm : Envelope} :
    engine.completeHandshake peer coins frames = .ok (joined, confirm) ↔
      ∃ result, subscriberHandshake peer coins frames = .ok result ∧
        engine.installSession suite result.masterKey = joined ∧
        plainEnvelope engine.sessionID msgTypeKeyConfirm result.confirmTag = confirm := by
  rw [SubscriberEngine.completeHandshake]
  cases subscriberHandshake peer coins frames with
  | error err => simp [Except.map]
  | ok result => simp [Except.map]

/-- A subscriber joins with the master key in its own response exactly when
that response is the first frame it reads.  No earlier frame carries a tag for
its exchange. -/
theorem join_iff (hlawful : Lawful suite) {passphrase : Bytes}
    {publisherCoins subscriberCoins : PeerCoins suite}
    {publisher subscriber publisher' : PAKEPeer suite}
    {update subscriberUpdate : UpdateCoins suite} {answer : Answer} {masterKey : Key}
    {wrapNonce : Nonce} {sessionID : SessionID} {own : Envelope}
    (hpublisher : newPAKEPublisher passphrase publisherCoins = .ok publisher)
    (hsubscriber : newPAKESubscriber passphrase subscriberCoins = .ok subscriber)
    (hanswer : answerInit publisher subscriber.bytes update = .ok (publisher', answer))
    (hown : Step2.envelope suite sessionID ⟨answer, masterKey.val, wrapNonce⟩ = .ok own)
    (engine : SubscriberEngine) {earlier : List Envelope} (later : List Envelope)
    (hearlier : ∀ frame ∈ earlier, ¬ Confirms subscriber subscriberUpdate frame.payload) :
    (∃ joined confirm, engine.completeHandshake subscriber subscriberUpdate
        (earlier ++ own :: later) = .ok (joined, confirm) ∧ joined.cipher = some masterKey) ↔
      earlier = [] := by
  constructor
  · rintro ⟨joined, confirm, hhandshake, -⟩
    cases earlier with
    | nil => rfl
    | cons frame earlier =>
        obtain ⟨result, hjoined, -⟩ := completeHandshake_eq_ok.mp hhandshake
        exact absurd (confirms_of_openStep2 (openStep2_of_subscriberHandshake hjoined))
          (hearlier frame List.mem_cons_self)
  · rintro rfl
    obtain ⟨publisher'', answer', payload, tag, hanswer', hpayload, hsize, hopen⟩ :=
      openStep2_own hlawful hpublisher hsubscriber update subscriberUpdate masterKey wrapNonce
    obtain ⟨rfl, rfl⟩ := Prod.mk.inj (Except.ok.inj (hanswer.symm.trans hanswer'))
    have hframe : own = plainEnvelope sessionID msgTypePAKEStep2 payload := by
      rw [Step2.envelope, hpayload] at hown
      exact (Except.ok.inj hown).symm
    subst hframe
    have htype : msgTypePAKEStep2 ≠ msgTypeClose := by decide
    have hversion : ¬ version < minSupportedVersion := by decide
    exact ⟨engine.installSession suite masterKey, _, completeHandshake_eq_ok.mpr
      ⟨⟨tag, masterKey⟩, subscriberHandshake_of_openStep2 htype hversion hsize hopen later, rfl,
        rfl⟩, rfl⟩

/-- A payload too short for a tag confirms nothing. -/
theorem not_confirms_of_short {peer : PAKEPeer suite} {coins : UpdateCoins suite}
    {payload : Bytes} (hshort : payload.length ≤ uniformWireMsgSize + wrappedKeySize) :
    ¬ Confirms peer coins payload := by
  rintro ⟨peer', -, hverify⟩
  have htag : sliceTag payload = [] := by
    rw [sliceTag, List.drop_eq_nil_of_le hshort, List.take_nil]
  rw [htag] at hverify
  rw [PAKEPeer.verifyPeerConfirm] at hverify
  split at hverify
  · cases hverify
  · rw [List.length_nil, if_pos rfl] at hverify
    cases hverify

/-- A data frame of the channel. -/
def sampleData : Envelope :=
  (dataFrame (copyFixed keySize [9]) ⟨1, [tagText, 65]⟩).envelope (copyFixed sessionIDSize [])
    transparent

theorem length_sampleData : sampleData.payload.length = 1304 := by
  decide +kernel

/-- A subscriber, and the response to its message. -/
theorem sample_join :
    ∃ publisher subscriber publisher' answer own,
      newPAKEPublisher [1] (sampleCoins 3) = .ok publisher ∧
      newPAKESubscriber [1] (sampleCoins 4) = .ok subscriber ∧
      answerInit publisher subscriber.bytes sampleUpdate = .ok (publisher', answer) ∧
      Step2.envelope transparent (copyFixed sessionIDSize [])
        ⟨answer, (copyFixed keySize [9]).val, copyFixed nonceSize []⟩ = .ok own := by
  obtain ⟨publisher, hpublisher⟩ : ∃ publisher,
      newPAKEPublisher [1] (sampleCoins 3) = .ok publisher := ⟨_, rfl⟩
  obtain ⟨subscriber, hsubscriber⟩ : ∃ subscriber,
      newPAKESubscriber [1] (sampleCoins 4) = .ok subscriber := ⟨_, rfl⟩
  obtain ⟨publisher', answer, payload, -, hanswer, hpayload, -⟩ :=
    openStep2_own transparent_lawful hpublisher hsubscriber sampleUpdate sampleUpdate
      (copyFixed keySize [9]) (copyFixed nonceSize [])
  exact ⟨publisher, subscriber, publisher', answer, _, hpublisher, hsubscriber, hanswer,
    bind_eq_ok.mpr ⟨payload, hpayload, rfl⟩⟩

/-- With its own response first the subscriber joins, with a data frame before
it not. -/
theorem join_with_and_without_data :
    ∃ engine subscriber own, newSubscriberEngine transparent [1] = .ok engine ∧
      newPAKESubscriber [1] (sampleCoins 4) = .ok subscriber ∧
      (∃ joined confirm, engine.completeHandshake subscriber sampleUpdate
        ([] ++ own :: [sampleData]) = .ok (joined, confirm) ∧
          joined.cipher = some (copyFixed keySize [9])) ∧
      ¬ ∃ joined confirm, engine.completeHandshake subscriber sampleUpdate
        ([sampleData] ++ own :: []) = .ok (joined, confirm) ∧
          joined.cipher = some (copyFixed keySize [9]) := by
  obtain ⟨publisher, subscriber, publisher', answer, own, hpublisher, hsubscriber, hanswer,
    hown⟩ := sample_join
  obtain ⟨engine, hengine⟩ : ∃ engine, newSubscriberEngine transparent [1] = .ok engine :=
    ⟨_, rfl⟩
  have hdata : ∀ frame ∈ [sampleData], ¬ Confirms subscriber sampleUpdate frame.payload := by
    intro frame hframe
    rw [List.mem_singleton.mp hframe]
    apply not_confirms_of_short
    rw [length_sampleData]
    decide
  refine ⟨engine, subscriber, own, hengine, hsubscriber, ?_, ?_⟩
  · exact (join_iff transparent_lawful hpublisher hsubscriber hanswer hown engine _
      (fun frame hframe => (List.not_mem_nil hframe).elim)).mpr rfl
  · intro hjoins
    have hnone := (join_iff transparent_lawful hpublisher hsubscriber hanswer hown engine _
      hdata).mp hjoins
    cases hnone

/-- Registered while the stream is live, the subscriber takes a data frame for
its response and gives up. -/
theorem join_fails_behind_data :
    ∃ engine publisher subscriber publisher' answer own,
      newSubscriberEngine transparent [1] = .ok engine ∧
      newPAKEPublisher [1] (sampleCoins 3) = .ok publisher ∧
      newPAKESubscriber [1] (sampleCoins 4) = .ok subscriber ∧
      answerInit publisher subscriber.bytes sampleUpdate = .ok (publisher', answer) ∧
      Step2.envelope transparent (copyFixed sessionIDSize [])
        ⟨answer, (copyFixed keySize [9]).val, copyFixed nonceSize []⟩ = .ok own ∧
      engine.completeHandshake subscriber sampleUpdate [sampleData, own] =
        .error .invalidResponseSize := by
  obtain ⟨publisher, subscriber, publisher', answer, own, hpublisher, hsubscriber, hanswer,
    hown⟩ := sample_join
  obtain ⟨engine, hengine⟩ : ∃ engine, newSubscriberEngine transparent [1] = .ok engine :=
    ⟨_, rfl⟩
  have htype : sampleData.msgType ≠ msgTypeClose := by decide +kernel
  have hversion : ¬ sampleData.version < minSupportedVersion := by decide +kernel
  refine ⟨engine, publisher, subscriber, publisher', answer, own, hengine, hpublisher,
    hsubscriber, hanswer, hown, ?_⟩
  rw [SubscriberEngine.completeHandshake, subscriberHandshake, if_neg htype, if_neg hversion,
    length_sampleData]
  rfl

/-! ## The publisher's two readers -/

/-- The engine when `handleSyncRequests` has read a frame, and the randomness it
draws to answer it. -/
structure Moment (suite : Suite) where
  engine : PublisherEngine
  peer : PeerCoins suite
  coins : ResponseCoins suite

namespace Moment

variable (moment : Moment suite)

/-- The response to an initial message, with a peer made for it. -/
def respond (payload : Bytes) : Option Step2 :=
  match moment.engine.passphrase with
  | none => none
  | some passphrase =>
      match newPAKEPublisher passphrase moment.peer >>= fun peer =>
          answerInit peer payload moment.coins.update with
      | .error _ => none
      | .ok (_, answer) =>
          let response : Step2 := ⟨answer, moment.engine.masterKeyCopy, moment.coins.wrapNonce⟩
          match response.wrappedKeyPayload suite with
          | .error _ => none
          | .ok _ => some response

/-- What `handleSyncRequests` sends on account of one frame.  A `ChunkAck` only
wakes the sender of a file. -/
def handle (frame : Envelope) : List Sent :=
  if frame.msgType = msgTypePAKEInitSub then
    ((moment.respond frame.payload).toList.map Sent.step2).filter fun sent =>
      moment.engine.canSend suite sent
  else if frame.msgType = msgTypeSyncReq then
    if 8 ≤ frame.payload.length then
      moment.engine.replaySyncForSubscriber suite (uint64 frame.payload)
    else []
  else []

end Moment

/-- The reading loop of `handleSyncRequests`, which ends with the connection.
Every frame read stands with the frames sent on account of it. -/
def handleSyncRequests : (ℕ → Moment suite) → List Envelope → List (Envelope × List Envelope)
  | _, [] => []
  | moments, frame :: frames =>
      if (moments 0).engine.connected then
        (frame, ((moments 0).handle frame).filterMap fun sent =>
            sent.envelope suite (moments 0).engine.sessionID) ::
          handleSyncRequests (fun index => moments (index + 1)) frames
      else []

/-- `CompleteHandshake` and, when it succeeds, `handleSyncRequests` on what is
left unread. -/
def publisherReads (sessionID : SessionID) (peer : PAKEPeer suite) (masterKey : Bytes)
    (coins : ResponseCoins suite) (moments : ℕ → Moment suite) (frames : List Envelope) :
    List (Envelope × List Envelope) :=
  let reading := publisherHandshake sessionID peer masterKey coins frames
  reading.trace.map (fun entry => (entry.1, entry.2.toList)) ++
    match reading.result with
    | .error _ => []
    | .ok _ => handleSyncRequests moments reading.unread

/-- The frames the confirmation-wait loop reads and skips. -/
def skippedFrames (sessionID : SessionID) (peer : PAKEPeer suite) (masterKey : Bytes)
    (coins : ResponseCoins suite) : List Envelope → List Envelope
  | [] => []
  | frame :: frames =>
      match respondFirst sessionID peer masterKey coins frame with
      | .error _ => []
      | .ok _ => (frames.take confirmRounds).takeWhile fun frame =>
          frame.msgType ≠ msgTypeKeyConfirm

/-- The frame is a response computed from the initial message. -/
def AnswerTo (suite : Suite) (payload : Bytes) (response : Envelope) : Prop :=
  ∃ (peer peer' : PAKEPeer suite) (coins : UpdateCoins suite) (answer : Answer)
    (masterKey : Bytes) (wrapNonce : Nonce) (sessionID : SessionID),
    peer.role = .publisher ∧ answerInit peer payload coins = .ok (peer', answer) ∧
      Step2.envelope suite sessionID ⟨answer, masterKey, wrapNonce⟩ = .ok response

/-! ### Responses -/

section Responses

variable {peer peer' : PAKEPeer suite} {payload : Bytes} {coins : UpdateCoins suite}

theorem update_publisher (hrole : peer.role = .publisher)
    (hupdate : peer.update payload coins = .ok peer') :
    ∃ key : Key, Exchanged .publisher key peer' ∧ peer'.bytes.length = uniformWireMsgSize := by
  rw [PAKEPeer.update] at hupdate
  rw [hrole] at hupdate
  split at hupdate
  · cases hupdate
  split at hupdate
  · cases hupdate
  simp only at hupdate
  split at hupdate
  · cases hupdate
  · rename_i ciphertext _
    rw [deriveShared_eq] at hupdate
    cases hupdate
    refine ⟨_, ⟨rfl, rfl⟩, ?_⟩
    change ((suite.x25519Public peer.privKey).val ++ ciphertext.val ++ coins.noise.val).length = _
    rw [List.length_append, List.length_append, (suite.x25519Public peer.privKey).property,
      ciphertext.property, coins.noise.property]
    rfl

theorem answerInit_publisher {answer : Answer} (hrole : peer.role = .publisher)
    (hanswer : answerInit peer payload coins = .ok (peer', answer)) :
    ∃ key : Key, answer.p2pKey = key.val ∧ answer.pakeBytes.length = uniformWireMsgSize ∧
      answer.confirmTag.length = confirmTagSize := by
  obtain ⟨updated, hupdate, hrest⟩ := bind_eq_ok.mp hanswer
  obtain ⟨key, hexchanged, hlength⟩ := update_publisher hrole hupdate
  obtain ⟨p2pKey, hkey, hrest⟩ := bind_eq_ok.mp hrest
  obtain ⟨tag, htag, hrest⟩ := bind_eq_ok.mp hrest
  rw [hexchanged.sessionKey_eq] at hkey
  rw [hexchanged.confirmTag_eq] at htag
  cases hkey
  cases htag
  cases hrest
  exact ⟨key, rfl, hlength, (suite.hmac key.val _).property⟩

/-- A response can always be made, and it fits into a frame. -/
theorem envelope_of_answerInit (htag : suite.aead.AppendsTag tagSize) {answer : Answer}
    (hrole : peer.role = .publisher)
    (hanswer : answerInit peer payload coins = .ok (peer', answer)) {masterKey : Bytes}
    (hmasterKey : masterKey.length ≤ keySize) (wrapNonce : Nonce) (sessionID : SessionID) :
    ∃ response, Step2.envelope suite sessionID ⟨answer, masterKey, wrapNonce⟩ = .ok response ∧
      Decodable response := by
  obtain ⟨key, hkey, hpake, hconfirm⟩ := answerInit_publisher hrole hanswer
  have hseal := htag ⟨key, wrapNonce, masterKey, wrapAAD⟩
  have hwrap : Step2.wrappedKeyPayload suite ⟨answer, masterKey, wrapNonce⟩ =
      .ok (wrapNonce.val ++ suite.aead.sealBytes key wrapNonce masterKey wrapAAD) := by
    rw [Step2.wrappedKeyPayload, hkey]
    exact wrapSessionKey_eq suite key masterKey wrapNonce
  refine ⟨_, bind_eq_ok.mpr ⟨_, bind_eq_ok.mpr ⟨_, hwrap, rfl⟩, rfl⟩, ?_, ?_⟩
  · change ¬ version < minSupportedVersion
    decide
  · change (answer.pakeBytes ++ (wrapNonce.val ++ suite.aead.sealCall
      ⟨key, wrapNonce, masterKey, wrapAAD⟩) ++ answer.confirmTag).length ≤ maxPayloadSize
    rw [List.length_append, List.length_append, List.length_append, hseal, hpake, hconfirm,
      wrapNonce.property]
    change 1280 + (12 + (masterKey.length + 16)) + 32 ≤ 33554432
    have hbound : masterKey.length ≤ 32 := hmasterKey
    omega

end Responses

/-! ### The trace of a run -/

/-- The wait for the confirmation answers nothing. -/
theorem awaitConfirm_trace (peer : PAKEPeer suite) (rounds : ℕ) (frames : List Envelope) :
    ∃ confirming, (awaitConfirm peer rounds frames).trace =
        ((frames.take rounds).takeWhile fun frame => frame.msgType ≠ msgTypeKeyConfirm).map
          (fun frame => (frame, none)) ++ confirming ∧
      ∀ entry ∈ confirming, entry.1.msgType = msgTypeKeyConfirm := by
  induction rounds generalizing frames with
  | zero => exact ⟨[], rfl, fun _ hentry => (List.not_mem_nil hentry).elim⟩
  | succ rounds ih =>
      cases frames with
      | nil => exact ⟨[], rfl, fun _ hentry => (List.not_mem_nil hentry).elim⟩
      | cons frame frames =>
          rw [awaitConfirm, List.take_succ_cons, List.takeWhile_cons]
          by_cases htype : frame.msgType = msgTypeKeyConfirm
          · refine ⟨[(frame, none)], ?_, ?_⟩
            · simp only [htype, ne_eq, not_true_eq_false, if_false, decide_false]
              cases peer.verifyPeerConfirm frame.payload <;> rfl
            · intro entry hentry
              rw [List.mem_singleton.mp hentry]
              exact htype
          · obtain ⟨confirming, htrace, hconfirming⟩ := ih frames
            refine ⟨confirming, ?_, hconfirming⟩
            simp only [htype, ne_eq, not_false_eq_true, if_true, decide_true, htrace]
            rfl

section Run

variable (htag : suite.aead.AppendsTag tagSize)

/-- The key exchange on an initial message succeeds. -/
def Moment.Succeeds (moment : Moment suite) (payload : Bytes) : Prop :=
  ∃ passphrase peer result, moment.engine.passphrase = some passphrase ∧
    newPAKEPublisher passphrase moment.peer = .ok peer ∧
      answerInit peer payload moment.coins.update = .ok result

theorem role_of_newPAKEPublisher {passphrase : Bytes} {coins : PeerCoins suite}
    {peer : PAKEPeer suite} (hnew : newPAKEPublisher passphrase coins = .ok peer) :
    peer.role = .publisher := by
  rw [eq_of_newPAKEPublisher hnew]

theorem length_masterKeyCopy_le (engine : PublisherEngine) :
    engine.masterKeyCopy.length ≤ keySize := by
  rw [PublisherEngine.masterKeyCopy]
  cases engine.masterKey with
  | none => exact Nat.zero_le _
  | some key => exact key.property.le

include htag

/-- `CompleteHandshake` answers an initial message it reads first. -/
theorem respondFirst_answers {sessionID : SessionID} {peer : PAKEPeer suite} {masterKey : Key}
    {coins : ResponseCoins suite} {frame : Envelope} (hframe : Decodable frame)
    (hrole : peer.role = .publisher) (htype : frame.msgType = msgTypePAKEInitSub)
    {result : PAKEPeer suite × Answer}
    (hanswer : answerInit peer frame.payload coins.update = .ok result) :
    ∃ peer' response,
      respondFirst sessionID peer masterKey.val coins frame = .ok (peer', response) ∧
        AnswerTo suite frame.payload response := by
  obtain ⟨peer', answer⟩ := result
  obtain ⟨response, hresponse, -⟩ := envelope_of_answerInit htag hrole hanswer
    (le_of_eq masterKey.property) coins.wrapNonce sessionID
  refine ⟨peer', response, ?_, peer, peer', coins.update, answer, masterKey.val,
    coins.wrapNonce, sessionID, hrole, hanswer, hresponse⟩
  have hclose : frame.msgType ≠ msgTypeClose := by
    rw [htype]
    decide
  have hkind : ¬ (frame.msgType ≠ msgTypePAKEInitSub ∧ frame.msgType ≠ msgTypePAKEStep2) :=
    fun hnot => hnot.1 htype
  rw [respondFirst, if_neg hclose, if_neg hframe.version_ge, if_neg hkind, hanswer]
  simp only [hresponse]

/-- `handleSyncRequests` answers an initial message it reads. -/
theorem handle_answers {moment : Moment suite} (hconnected : moment.engine.connected = true)
    {frame : Envelope} (htype : frame.msgType = msgTypePAKEInitSub)
    (hsucceeds : moment.Succeeds frame.payload) :
    ∃ response ∈ (moment.handle frame).filterMap fun sent =>
        sent.envelope suite moment.engine.sessionID, AnswerTo suite frame.payload response := by
  obtain ⟨passphrase, peer, ⟨peer', answer⟩, hpassphrase, hpeer, hanswer⟩ := hsucceeds
  have hrole := role_of_newPAKEPublisher hpeer
  obtain ⟨response, hresponse, hdecodable⟩ := envelope_of_answerInit htag hrole hanswer
    (length_masterKeyCopy_le moment.engine) moment.coins.wrapNonce moment.engine.sessionID
  obtain ⟨payload, hpayload, -⟩ := bind_eq_ok.mp hresponse
  obtain ⟨wrapped, hwrapped, -⟩ := bind_eq_ok.mp hpayload
  have hrespond : moment.respond frame.payload =
      some ⟨answer, moment.engine.masterKeyCopy, moment.coins.wrapNonce⟩ := by
    have hexchange : (newPAKEPublisher passphrase moment.peer >>= fun peer =>
        answerInit peer frame.payload moment.coins.update) = .ok (peer', answer) :=
      bind_eq_ok.mpr ⟨peer, hpeer, hanswer⟩
    rw [Moment.respond, hpassphrase]
    simp only [hexchange, hwrapped]
  have henvelope : (Sent.step2 ⟨answer, moment.engine.masterKeyCopy,
      moment.coins.wrapNonce⟩).envelope suite moment.engine.sessionID = some response := by
    rw [Sent.envelope, hresponse]
    rfl
  have hsend : moment.engine.canSend suite (.step2 ⟨answer, moment.engine.masterKeyCopy,
      moment.coins.wrapNonce⟩) = true := by
    rw [PublisherEngine.canSend, hconnected, Bool.true_and, Sent.encodable, henvelope]
    simp only [encode_of_decodable hdecodable]
    rfl
  refine ⟨response, List.mem_filterMap.mpr ⟨_, ?_, henvelope⟩, peer, peer', _, answer, _, _, _,
    hrole, hanswer, hresponse⟩
  rw [Moment.handle, if_pos htype, hrespond, List.mem_filter]
  exact ⟨List.mem_singleton.mpr rfl, hsend⟩

theorem handleSyncRequests_answers {moments : ℕ → Moment suite} {frames : List Envelope}
    (hsucceeds : ∀ index frame, frames[index]? = some frame →
      frame.msgType = msgTypePAKEInitSub → (moments index).Succeeds frame.payload) :
    ∀ entry ∈ handleSyncRequests moments frames, entry.1.msgType = msgTypePAKEInitSub →
      ∃ response ∈ entry.2, AnswerTo suite entry.1.payload response := by
  induction frames generalizing moments with
  | nil => exact fun _ hentry => (List.not_mem_nil hentry).elim
  | cons frame frames ih =>
      intro entry hentry htype
      rw [handleSyncRequests] at hentry
      split at hentry
      · rename_i hconnected
        rcases List.mem_cons.mp hentry with rfl | hentry
        · exact handle_answers htag hconnected htype (hsucceeds 0 frame rfl htype)
        · exact ih (fun index frame hframe => hsucceeds (index + 1) frame hframe) entry hentry
            htype
      · cases hentry

/-- `CompleteHandshake` answers the first frame if it is an initial message,
and nothing after it. -/
theorem publisherHandshake_trace {sessionID : SessionID} {peer : PAKEPeer suite}
    {masterKey : Key} {coins : ResponseCoins suite} {frame : Envelope} (frames : List Envelope)
    (hframe : Decodable frame) (hrole : peer.role = .publisher)
    (hfirst : frame.msgType = msgTypePAKEInitSub →
      ∃ result, answerInit peer frame.payload coins.update = .ok result) :
    ∃ first confirming,
      (publisherHandshake sessionID peer masterKey.val coins (frame :: frames)).trace =
        (frame, first) :: ((skippedFrames sessionID peer masterKey.val coins
          (frame :: frames)).map (fun skipped => (skipped, none)) ++ confirming) ∧
      (∀ entry ∈ confirming, entry.1.msgType = msgTypeKeyConfirm) ∧
      (frame.msgType = msgTypePAKEInitSub →
        ∃ response, first = some response ∧ AnswerTo suite frame.payload response) := by
  have hanswers : frame.msgType = msgTypePAKEInitSub → ∃ peer' response,
      respondFirst sessionID peer masterKey.val coins frame = .ok (peer', response) ∧
        AnswerTo suite frame.payload response := by
    intro htype
    obtain ⟨result, hanswer⟩ := hfirst htype
    exact respondFirst_answers htag hframe hrole htype hanswer
  cases hrespond : respondFirst sessionID peer masterKey.val coins frame with
  | error err =>
      refine ⟨none, [], ?_, fun _ hentry => (List.not_mem_nil hentry).elim, ?_⟩
      · simp only [publisherHandshake, skippedFrames, hrespond]
        rfl
      · intro htype
        obtain ⟨peer', response, hok, -⟩ := hanswers htype
        rw [hrespond] at hok
        cases hok
  | ok result =>
      obtain ⟨peer', response⟩ := result
      obtain ⟨confirming, htrace, hconfirming⟩ := awaitConfirm_trace peer' confirmRounds frames
      refine ⟨some response, confirming, ?_, hconfirming, ?_⟩
      · simp only [publisherHandshake, skippedFrames, hrespond, htrace]
      · intro htype
        obtain ⟨_, _, hok, hanswer⟩ := hanswers htype
        rw [hrespond] at hok
        cases hok
        exact ⟨response, rfl, hanswer⟩

end Run

/-- Every initial message the publisher reads is answered exactly when none is
among the frames skipped while it waits for the first subscriber's
confirmation. -/
theorem inits_answered_iff (htag : suite.aead.AppendsTag tagSize) {passphrase : Bytes}
    {peerCoins : PeerCoins suite} {peer : PAKEPeer suite}
    (hpeer : newPAKEPublisher passphrase peerCoins = .ok peer) (sessionID : SessionID)
    (masterKey : Key) (coins : ResponseCoins suite) (moments : ℕ → Moment suite)
    {frames : List Envelope} (hframes : ∀ frame ∈ frames, Decodable frame)
    (hfirst : ∀ frame ∈ frames.head?, frame.msgType = msgTypePAKEInitSub →
      ∃ result, answerInit peer frame.payload coins.update = .ok result)
    (hlater : ∀ index frame,
      (publisherHandshake sessionID peer masterKey.val coins frames).unread[index]? = some frame →
        frame.msgType = msgTypePAKEInitSub → (moments index).Succeeds frame.payload) :
    (∀ entry ∈ publisherReads sessionID peer masterKey.val coins moments frames,
      entry.1.msgType = msgTypePAKEInitSub →
        ∃ response ∈ entry.2, AnswerTo suite entry.1.payload response) ↔
      ∀ frame ∈ skippedFrames sessionID peer masterKey.val coins frames,
        frame.msgType ≠ msgTypePAKEInitSub := by
  cases frames with
  | nil => simp [publisherReads, publisherHandshake, skippedFrames]
  | cons frame frames =>
      obtain ⟨first, confirming, htrace, hconfirming, hanswered⟩ :=
        @publisherHandshake_trace suite htag sessionID peer masterKey coins frame frames
          (hframes frame List.mem_cons_self) (role_of_newPAKEPublisher hpeer) (hfirst frame rfl)
      constructor
      · intro hall skipped hskipped htype
        have hentry : (skipped, []) ∈ publisherReads sessionID peer masterKey.val coins moments
            (frame :: frames) := by
          apply List.mem_append_left
          rw [htrace, List.mem_map]
          refine ⟨(skipped, none), List.mem_cons_of_mem _ (List.mem_append_left _ ?_), rfl⟩
          exact List.mem_map.mpr ⟨skipped, hskipped, rfl⟩
        obtain ⟨response, hresponse, -⟩ := hall _ hentry htype
        exact List.not_mem_nil hresponse
      · intro hskipped entry hentry htype
        rcases List.mem_append.mp hentry with hentry | hentry
        · rw [htrace, List.mem_map] at hentry
          obtain ⟨⟨source, answer⟩, hsource, rfl⟩ := hentry
          rcases List.mem_cons.mp hsource with hhead | hsource
          · obtain ⟨rfl, rfl⟩ := Prod.mk.inj hhead
            obtain ⟨response, rfl, hanswer⟩ := hanswered htype
            exact ⟨response, List.mem_singleton.mpr rfl, hanswer⟩
          rcases List.mem_append.mp hsource with hsource | hsource
          · obtain ⟨skipped, hmem, heq⟩ := List.mem_map.mp hsource
            obtain ⟨rfl, rfl⟩ := Prod.mk.inj heq
            exact absurd htype (hskipped skipped hmem)
          · have hconfirm := hconfirming _ hsource
            rw [show source.msgType = msgTypeKeyConfirm from hconfirm] at htype
            exact absurd htype (by decide)
        · split at hentry
          · cases hentry
          · exact handleSyncRequests_answers htag hlater entry hentry htype

/-! ### Two subscribers -/

def sampleSessionID : SessionID := copyFixed sessionIDSize []

/-- The initial message of the subscriber with these coins. -/
def sampleInit (secret : Byte) : Envelope :=
  plainEnvelope sampleSessionID msgTypePAKEInitSub (subscriberMessage (sampleCoins secret))

/-- The first subscriber's confirmation. -/
def sampleConfirm : Envelope :=
  plainEnvelope sampleSessionID msgTypeKeyConfirm (tagOf transparent .subscriber
    (exchangeKey transparent (combinedSecret (sampleCoins 3) (sampleCoins 4) sampleUpdate) [1]))

def samplePeer : PAKEPeer transparent :=
  ⟨(sampleCoins 3).privKey, none, none, .publisher, none, [1]⟩

def sampleResponse : ResponseCoins transparent := ⟨sampleUpdate, copyFixed nonceSize []⟩

def sampleMasterKey : Key := copyFixed keySize [9]

/-- Every later message is handled by the engine as it was launched. -/
def sampleMoments (engine : PublisherEngine) : ℕ → Moment transparent :=
  fun _ => ⟨engine, sampleCoins 3, sampleResponse⟩

theorem samplePeer_answers (secret : Byte) :
    ∃ result, answerInit samplePeer (subscriberMessage (sampleCoins secret)) sampleUpdate =
      .ok result := by
  have hpeer : newPAKEPublisher [1] (sampleCoins 3) = .ok samplePeer := rfl
  obtain ⟨subscriber, hsubscriber⟩ : ∃ subscriber,
      newPAKESubscriber [1] (sampleCoins secret) = .ok subscriber := ⟨_, rfl⟩
  obtain ⟨publisher', answer, -, -, hanswer, -⟩ :=
    openStep2_own transparent_lawful hpeer hsubscriber sampleUpdate sampleUpdate sampleMasterKey
      (copyFixed nonceSize [])
  rw [eq_of_newPAKESubscriber hsubscriber] at hanswer
  exact ⟨_, hanswer⟩

theorem launched_passphrase {engine : PublisherEngine}
    (hlaunch : launch transparent [1] sampleMasterKey 0 0 0 = .ok engine) :
    engine.passphrase = some [1] := by
  cases hlaunch
  rfl

/-- The second subscriber's message comes after the confirmation: both are
answered. -/
theorem inits_answered_in_turn :
    ∃ engine, launch transparent [1] sampleMasterKey 0 0 0 = .ok engine ∧
      ∀ entry ∈ publisherReads sampleSessionID samplePeer sampleMasterKey.val sampleResponse
          (sampleMoments engine) [sampleInit 4, sampleConfirm, sampleInit 6],
        entry.1.msgType = msgTypePAKEInitSub →
          ∃ response ∈ entry.2, AnswerTo transparent entry.1.payload response := by
  obtain ⟨engine, hlaunch⟩ : ∃ engine,
      launch transparent [1] sampleMasterKey 0 0 0 = .ok engine := ⟨_, rfl⟩
  have hpeer : newPAKEPublisher [1] (sampleCoins 3) = .ok samplePeer := rfl
  have hdecodable : ∀ frame ∈ [sampleInit 4, sampleConfirm, sampleInit 6], Decodable frame := by
    decide +kernel
  have hunread : (publisherHandshake sampleSessionID samplePeer sampleMasterKey.val
      sampleResponse [sampleInit 4, sampleConfirm, sampleInit 6]).unread = [sampleInit 6] := by
    decide +kernel
  have hskipped : skippedFrames sampleSessionID samplePeer sampleMasterKey.val sampleResponse
      [sampleInit 4, sampleConfirm, sampleInit 6] = [] := by
    decide +kernel
  refine ⟨engine, hlaunch, (inits_answered_iff transparent_lawful.appendsTag hpeer
    sampleSessionID sampleMasterKey sampleResponse (sampleMoments engine) hdecodable ?_ ?_).mpr
      ?_⟩
  · rintro frame ⟨⟩ -
    exact samplePeer_answers 4
  · intro index frame hframe htype
    rw [hunread] at hframe
    obtain rfl := List.mem_singleton.mp (List.mem_of_getElem? hframe)
    obtain ⟨result, hanswer⟩ := samplePeer_answers 6
    exact ⟨[1], samplePeer, result, launched_passphrase hlaunch, hpeer, hanswer⟩
  · rw [hskipped]
    exact fun frame hframe => (List.not_mem_nil hframe).elim

/-- The second subscriber's message comes before the confirmation: the
handshake succeeds and that message is lost. -/
theorem init_lost_before_confirmation :
    ∃ engine, launch transparent [1] sampleMasterKey 0 0 0 = .ok engine ∧
      newPAKEPublisher [1] (sampleCoins 3) = .ok samplePeer ∧
      (publisherHandshake sampleSessionID samplePeer sampleMasterKey.val sampleResponse
        [sampleInit 4, sampleInit 6, sampleConfirm]).result.toBool = true ∧
      (∃ result, answerInit samplePeer (sampleInit 6).payload sampleUpdate = .ok result) ∧
      ∃ entry ∈ publisherReads sampleSessionID samplePeer sampleMasterKey.val sampleResponse
          (sampleMoments engine) [sampleInit 4, sampleInit 6, sampleConfirm],
        entry.1 = sampleInit 6 ∧ entry.1.msgType = msgTypePAKEInitSub ∧ entry.2 = [] := by
  obtain ⟨engine, hlaunch⟩ : ∃ engine,
      launch transparent [1] sampleMasterKey 0 0 0 = .ok engine := ⟨_, rfl⟩
  have htrace : (sampleInit 6, none) ∈ (publisherHandshake sampleSessionID samplePeer
      sampleMasterKey.val sampleResponse [sampleInit 4, sampleInit 6, sampleConfirm]).trace := by
    decide +kernel
  refine ⟨engine, hlaunch, rfl, by decide +kernel, samplePeer_answers 6, (sampleInit 6, []), ?_,
    rfl, rfl, rfl⟩
  exact List.mem_append_left _ (List.mem_map.mpr ⟨(sampleInit 6, none), htrace, rfl⟩)

end ZeroFeed.Multiplex
