import ZeroFeed.Core.HighWater
import ZeroFeed.Feed.NonceSafety
import ZeroFeed.Feed.Subscriber

/-!
# A subscriber behind an untrusted relay

The relay may hand over any frames it likes.  With ideal authentication a frame
that opens is one of the publisher's seals, with its type and nonce, so what
the subscriber acts on is authentic.  The sequence number used to discard
duplicates, however, is read from bytes the tag does not cover.
-/

namespace ZeroFeed.UntrustedRelay

open ZeroFeed.ByteString
open ZeroFeed.Messages
open ZeroFeed.Envelope
open ZeroFeed.Primitives
open ZeroFeed.Cipher
open ZeroFeed.Ring
open ZeroFeed.Frame
open ZeroFeed.Publisher
open ZeroFeed.Threads
open ZeroFeed.Transition
open ZeroFeed.Goroutines
open ZeroFeed.NonceSafety
open ZeroFeed.Transfer
open ZeroFeed.Subscriber
open scoped List

/-! ## The publisher's seals -/

/-- An allowed message as a data frame, or a salt as a rekey frame. -/
inductive Shaped (allowed : SeqMsg → Prop) : SealedFrame → Prop where
  | data (key : Key) {msg : SeqMsg} (hmsg : allowed msg) : Shaped allowed (dataFrame key msg)
  | rekey (key : Key) (seqNum : ℕ) (salt : Nonce) :
      Shaped allowed (rekeyFrame key seqNum salt)

theorem shaped_of_ledger {shared : Shared} (hledger : Ledger shared) :
    ∀ frame ∈ shared.sealedFrames, Shaped (fun msg => msg ∈ shared.published) frame := by
  intro frame hframe
  obtain ⟨entry, hentry, rfl⟩ := List.mem_map.mp hframe
  have haccounted := hledger.accounted entry hentry
  generalize entry.frame = frame at haccounted
  cases haccounted with
  | data key hmsg => exact .data key hmsg
  | rekey key hseqNum salt => exact .rekey key _ salt

/-- The shape alone does not depend on the counter. -/
abbrev AnyMessage : SeqMsg → Prop := fun _ => True

theorem shaped_of_logEffect {shared shared' : Shared} {goroutine goroutine' : Goroutine}
    (heffect : LogEffect shared goroutine shared' goroutine')
    (hshaped : ∀ frame ∈ shared.sealedFrames, Shaped AnyMessage frame) :
    ∀ frame ∈ shared'.sealedFrames, Shaped AnyMessage frame := by
  have hlog : ∀ {fresh : SealedFrame} {origin : Origin}, Shaped AnyMessage fresh →
      ∀ frame ∈ (shared.logSeal fresh origin).sealedFrames, Shaped AnyMessage frame := by
    intro fresh origin hfresh frame hframe
    rw [Shared.sealedFrames, Shared.logSeal, List.map_append, List.mem_append] at hframe
    rcases hframe with hframe | hframe
    · exact hshaped frame hframe
    · rw [List.mem_singleton.mp hframe]
      exact hfresh
  cases heffect with
  | quiet hquiet =>
      rw [Shared.sealedFrames, hquiet.seals]
      exact hshaped
  | drawMessage | drawRekey | push => exact hshaped
  | sealData key hmsg origin => exact hlog (.data key trivial)
  | sealRekey key salt hseqNum => exact hlog (.rekey key _ salt)

theorem shaped_of_reaches {suite : Suite} {engine : PublisherEngine} {sys : System}
    (hreaches : Reaches (System.step suite) (System.start engine) sys) :
    ∀ frame ∈ sys.shared.sealedFrames, Shaped AnyMessage frame := by
  induction hreaches with
  | refl => exact fun frame hframe => (List.not_mem_nil hframe).elim
  | tail _ hstep ih =>
      obtain ⟨label, hstep⟩ := hstep
      obtain ⟨goroutine', hsection, -⟩ := section_of_step hstep
      exact shaped_of_logEffect (section_logEffect hsection) ih

/-! ## Frames that open -/

section Opened

variable {suite : Suite} {sessionID : SessionID} {frames : List SealedFrame}
variable {allowed : SeqMsg → Prop} (hshaped : ∀ frame ∈ frames, Shaped allowed frame)
variable (hideal : Authentic suite sessionID frames)
variable {key : Key} {env : Envelope} {plaintext : Bytes}
include hshaped hideal

/-- A rekey frame that opens carries a salt the publisher sealed for a rekey. -/
theorem opened_rekey (htype : env.msgType = msgTypeRekey)
    (hopen : openFrame suite key env = .ok plaintext) :
    ∃ seqNum salt, rekeyFrame key seqNum salt ∈ frames ∧ plaintext = salt.val := by
  obtain ⟨frame, hframe, rfl, hframeType, -, rfl, -⟩ := sealed_of_openFrame hideal hopen
  cases hshaped frame hframe with
  | data frameKey hmsg =>
      exact absurd (hframeType.trans htype) msgTypeDataStream_ne_msgTypeRekey
  | rekey frameKey seqNum salt => exact ⟨seqNum, salt, hframe, rfl⟩

/-- A data frame that opens is an allowed message sealed as data. -/
theorem opened_data (htag : suite.aead.AppendsTag tagSize) (henv : Decodable env)
    (htype : env.msgType = msgTypeDataStream)
    (hopen : openFrame suite key env = .ok plaintext) :
    ∃ msg, allowed msg ∧ dataFrame key msg ∈ frames ∧
      (dataFrame key msg).nonce sessionID = env.nonce ∧
      (dataFrame key msg).plaintext = plaintext ∧ unpadPayload plaintext = .ok msg.payload := by
  obtain ⟨frame, hframe, rfl, hframeType, hnonce, rfl, hciphertext⟩ :=
    sealed_of_openFrame hideal hopen
  cases hshaped frame hframe with
  | rekey frameKey seqNum salt =>
      exact absurd (hframeType.trans htype).symm msgTypeDataStream_ne_msgTypeRekey
  | @data frameKey msg hmsg =>
      refine ⟨msg, hmsg, hframe, hnonce, rfl, unpadPayload_padPayload _ ?_⟩
      -- the ciphertext came out of a frame within the size limit
      have hseal := htag ((dataFrame frameKey msg).sealCall sessionID)
      have hread : (receivedCiphertext env).length ≤ env.payload.length := by
        rw [receivedCiphertext, List.length_drop]
        omega
      have hpad := length_le_length_padPayload msg.payload defaultPaddingTargetSize
      have hlimit := henv.payload_le
      have hmax : maxPayloadSize = 33554432 := rfl
      rw [← hciphertext, SealedFrame.ciphertext, hseal] at hread
      change (padPayload msg.payload defaultPaddingTargetSize).length + tagSize ≤ _ at hread
      omega

end Opened

theorem unpadded_of_ok {plaintext payload : Bytes} (hunpad : unpadPayload plaintext = .ok payload) :
    unpadded plaintext = payload := by
  rw [unpadded, hunpad]
  rfl

/-! ## Freshness -/

/-- The clear sequence number of a data frame that opens is the one its nonce carries. -/
def ClearMatchesNonce (suite : Suite) (env : Envelope) : Prop :=
  ∀ key plaintext, env.msgType = msgTypeDataStream → openFrame suite key env = .ok plaintext →
    clearSeqNum env = nonceSeqNum env.nonce

section Delivery

variable {suite : Suite} {shared : Shared} {sessionID : SessionID}
variable (hledger : Ledger shared) (hdrawn : shared.drawn < 2 ^ 64)
variable (htag : suite.aead.AppendsTag tagSize)
variable (hideal : Authentic suite sessionID shared.sealedFrames)
variable {host : Host} {stream : Stream host}
include hledger hdrawn htag hideal

/-- With an honest clear number, what a round delivers is a published message
under its own number. -/
theorem published_reaction {env : Envelope} (henv : Decodable env)
    (hclear : ClearMatchesNonce suite env)
    (hpublished : ∀ msg ∈ stream.delivered, msg ∈ shared.published)
    {next : Stream host} {exit : Option Exit}
    (hreaction : Reaction suite stream env next exit) :
    ∀ msg ∈ next.delivered, msg ∈ shared.published := by
  cases hreaction with
  | ignored => exact hpublished
  | exits => exact hpublished
  | rekeyed key salt =>
      rw [delivered_ratchetTo]
      exact hpublished
  | delivered key plaintext hcipher htype hopen hnew =>
      obtain ⟨source, hsource, -, hnonce, -, hunpad⟩ :=
        opened_data (shaped_of_ledger hledger) hideal htag henv htype hopen
      have hnumber : clearSeqNum env = source.seqNum := by
        rw [hclear key plaintext htype hopen, ← hnonce]
        exact nonceSeqNum_nonce sessionID
          ((hledger.published_le source hsource).2.trans_lt hdrawn)
      rw [hnumber, unpadded_of_ok hunpad]
      intro msg hmsg
      rcases List.mem_append.mp hmsg with hmsg | hmsg
      · exact hpublished msg hmsg
      · rwa [List.mem_singleton.mp hmsg]

theorem published_subscribeStream {events : List Inbound}
    (hclear : ∀ env, Inbound.frame env ∈ events → ClearMatchesNonce suite env.val)
    (hpublished : ∀ msg ∈ stream.delivered, msg ∈ shared.published) :
    ∀ msg ∈ (subscribeStream suite stream events).1.delivered, msg ∈ shared.published := by
  have hpreserves := @subscribeStream_preserves suite host
    (fun stream => ∀ msg ∈ stream.delivered, msg ∈ shared.published) events
  refine hpreserves ?_ (fun stream hstream => hstream) hpublished
  intro event hevent stream hstream
  cases event with
  | frame env =>
      exact published_reaction hledger hdrawn htag hideal env.property (hclear env hevent)
        hstream (reaction_of_receive suite stream env.val)
  | reconnected masterKey => exact hstream
  | reconnectFailed => exact hstream

end Delivery

/-- As long as every data frame handed over that opens carries the number of its nonce,
the subscriber delivers a subsequence of the published messages, whatever the
relay and the publisher's goroutines do. -/
theorem delivered_sublist_published {suite : Suite} {passphrase : Bytes} {masterKey : Key}
    {now : ℤ} {byteLimit : ℕ} {timeLimit : ℤ} {engine : PublisherEngine} {sys : System}
    (hlaunch : launch suite passphrase masterKey now byteLimit timeLimit = .ok engine)
    (hreaches : Reaches (System.step suite) (System.start engine) sys)
    (hdrawn : sys.shared.drawn < 2 ^ 64) (htag : suite.aead.AppendsTag tagSize)
    (hideal : Authentic suite engine.sessionID sys.shared.sealedFrames)
    {host : Host} (subscriber : SubscriberEngine) (disk : host.Disk) {events : List Inbound}
    (hclear : ∀ env, Inbound.frame env ∈ events → ClearMatchesNonce suite env.val) :
    (subscribeStream suite (Stream.start subscriber disk) events).1.delivered <+
      sys.shared.published := by
  have hledger := (numbered_of_reaches (launched_of_launch hlaunch) hreaches hdrawn).ledger
  have hmembers := published_subscribeStream hledger hdrawn htag hideal hclear
    (fun msg hmsg => (List.not_mem_nil hmsg).elim : ∀ msg ∈
      (Stream.start subscriber disk).delivered, msg ∈ sys.shared.published)
  exact HighWater.sublist_of_increasing SeqMsg.seqNum
    (rising_subscribeStream suite subscriber disk events).increasing hledger.increasing
    hmembers

/-! ### A run with one message -/

def sampleKey : Key := copyFixed keySize []

/-- The opening message of a file transfer. -/
def sampleMessage : SeqMsg := ⟨1, tagFileStart :: plainJSON sampleHeader⟩

def samplePassphrase : Bytes := [1]

def sampleSession : SessionID := deriveSessionID transparent samplePassphrase

/-- The only call of `Seal` is the one for the sample message. -/
def sampleSuite : Suite :=
  idealTransparent [(dataFrame sampleKey sampleMessage).sealCall sampleSession]

theorem sampleSuite_appendsTag : sampleSuite.aead.AppendsTag tagSize :=
  idealTransparent_appendsTag _

/-- The frame the publisher sent. -/
def sampleFrame : ReadFrame :=
  ⟨(dataFrame sampleKey sampleMessage).envelope sampleSession sampleSuite, by decide +kernel⟩

/-- The same frame with another sequence number in clear. -/
def renumberedFrame : ReadFrame :=
  ⟨{ sampleFrame.val with
      payload := (putUint64 2).val ++ receivedCiphertext sampleFrame.val }, by decide +kernel⟩

def sampleSubscriber : SubscriberEngine :=
  { passphrase := samplePassphrase
    sessionID := sampleSession
    cipher := some sampleKey
    ringBuffer := newRingBuffer 100
    lastSeqNum := 0
    sas := calculateSAS sampleSuite sampleKey.val }

def sampleStream : Stream countingHost := Stream.start sampleSubscriber noneClosed

/-- The publisher publishes the sample message and nothing else. -/
theorem sample_run : ∃ engine sys,
    launch sampleSuite samplePassphrase sampleKey 0 0 0 = .ok engine ∧
      engine.sessionID = sampleSession ∧
      Reaches (System.step sampleSuite) (System.start engine) sys ∧
      sys.shared.drawn < 2 ^ 64 ∧ sys.shared.published = [sampleMessage] ∧
      Authentic sampleSuite engine.sessionID sys.shared.sealedFrames := by
  obtain ⟨engine, hlaunch⟩ : ∃ engine,
      launch sampleSuite samplePassphrase sampleKey 0 0 0 = .ok engine := ⟨_, rfl⟩
  have hsession : engine.sessionID = sampleSession := by
    cases hlaunch
    rfl
  have hschedule : (run (System.step sampleSuite) (System.start engine)
      [⟨0, .publish sampleMessage.payload 0⟩, ⟨0, .proceed⟩, ⟨0, .proceed⟩, ⟨0, .proceed⟩,
        ⟨0, .proceed⟩, ⟨0, .send true⟩]).any
      (fun sys => sys.shared.drawn = 1 ∧ sys.shared.published = [sampleMessage] ∧
        sys.shared.sealedFrames = [dataFrame sampleKey sampleMessage]) = true := by
    cases hlaunch
    decide +kernel
  obtain ⟨sys, hreaches, hproperty⟩ := exists_reaches_of_run _ _ _ _ hschedule
  obtain ⟨hdrawn, hpublished, hsealed⟩ := of_decide_eq_true hproperty
  refine ⟨engine, sys, hlaunch, hsession, hreaches, by rw [hdrawn]; decide, hpublished, [],
    fun call hcall => (List.not_mem_nil hcall).elim, ?_⟩
  rw [hsealed, hsession]
  exact idealTransparent_opensOnly _

/-- The frame handed over twice as it is: delivered once. -/
theorem sample_delivered_once :
    ∃ engine sys, launch sampleSuite samplePassphrase sampleKey 0 0 0 = .ok engine ∧
      Reaches (System.step sampleSuite) (System.start engine) sys ∧
      sys.shared.published = [sampleMessage] ∧
      (subscribeStream sampleSuite sampleStream
        [.frame sampleFrame, .frame sampleFrame]).1.delivered <+ sys.shared.published := by
  obtain ⟨engine, sys, hlaunch, -, hreaches, hdrawn, hpublished, hideal⟩ := sample_run
  have hsample : clearSeqNum sampleFrame.val = nonceSeqNum sampleFrame.val.nonce := by
    decide +kernel
  have hclear : ∀ env, Inbound.frame env ∈ [.frame sampleFrame, .frame sampleFrame] →
      ClearMatchesNonce sampleSuite env.val := by
    intro env henv _ _ _ _
    simp only [List.mem_cons, Inbound.frame.injEq, List.not_mem_nil, or_false, or_self] at henv
    exact henv ▸ hsample
  refine ⟨engine, sys, hlaunch, hreaches, hpublished, ?_⟩
  rw [sampleStream]
  exact delivered_sublist_published hlaunch hreaches hdrawn sampleSuite_appendsTag hideal
    sampleSubscriber _ hclear

/-- Rewriting the clear number of a frame it has seen, the relay has one
published message delivered twice. -/
theorem renumbered_delivered_twice :
    ∃ engine sys, launch sampleSuite samplePassphrase sampleKey 0 0 0 = .ok engine ∧
      Reaches (System.step sampleSuite) (System.start engine) sys ∧ sys.shared.drawn < 2 ^ 64 ∧
      sampleSuite.aead.AppendsTag tagSize ∧
      Authentic sampleSuite engine.sessionID sys.shared.sealedFrames ∧
      ¬ (subscribeStream sampleSuite sampleStream [.frame sampleFrame,
        .frame renumberedFrame]).1.delivered.map SeqMsg.payload <+
          sys.shared.published.map SeqMsg.payload := by
  obtain ⟨engine, sys, hlaunch, -, hreaches, hdrawn, hpublished, hideal⟩ := sample_run
  refine ⟨engine, sys, hlaunch, hreaches, hdrawn, sampleSuite_appendsTag, hideal, ?_⟩
  have hdelivered : (subscribeStream sampleSuite sampleStream [.frame sampleFrame,
      .frame renumberedFrame]).1.delivered.map SeqMsg.payload =
        [sampleMessage.payload, sampleMessage.payload] := by
    decide +kernel
  rw [hdelivered, hpublished]
  intro hsublist
  exact absurd hsublist.length_le (by decide)

/-! ## Authenticity of everything acted on -/

section Authenticity

variable {suite : Suite} {host : Host} {stream : Stream host} {env : Envelope}

/-- A frame the loop skips without looking at its content. -/
def Skipped (env : Envelope) : Prop :=
  env.msgType ≠ msgTypeClose ∧ ((env.msgType ≠ msgTypeDataStream ∧ env.msgType ≠ msgTypeRekey) ∨
    env.payload.length < 8)

theorem receive_of_skipped (suite : Suite) (stream : Stream host) (hskipped : Skipped env) :
    receive suite stream env = (stream, none) := by
  obtain ⟨hclose, hkind⟩ := hskipped
  rw [receive]
  rw [if_neg hclose]
  split
  · rfl
  split
  · rename_i hrekey
    rcases hkind with hother | hshort
    · exact absurd hrekey hother.2
    · rw [receiveRekey, if_pos hshort]
  split
  · rfl
  · rename_i hdata
    rcases hkind with hother | hshort
    · exact absurd (not_not.mp hdata) hother.1
    · rw [receiveData, if_pos hshort]

/-- A close frame, or a data or rekey frame that does not open under the
subscriber's key. -/
def Refused (suite : Suite) (stream : Stream host) (env : Envelope) : Prop :=
  env.msgType = msgTypeClose ∨
    ((env.msgType = msgTypeDataStream ∨ env.msgType = msgTypeRekey) ∧
      8 ≤ env.payload.length ∧ ∃ key err, stream.engine.cipher = some key ∧
        openFrame suite key env = .error err)

theorem receive_of_refused (hrefused : Refused suite stream env) :
    ∃ exit, receive suite stream env = (stream, some exit) := by
  rcases hrefused with hclose | ⟨htype, hlength, key, err, hcipher, hopen⟩
  · exact ⟨_, by rw [receive, if_pos hclose]⟩
  · rcases htype with htype | htype
    · refine ⟨.frameAuthentication err, ?_⟩
      simp only [receive, receiveData, htype, not_lt.mpr hlength, hcipher, hopen]
      rfl
    · refine ⟨.rekeyAuthentication err, ?_⟩
      simp only [receive, receiveRekey, htype, not_lt.mpr hlength, hcipher, hopen]
      rfl

section Actions

variable {sessionID : SessionID} {frames : List SealedFrame}
variable (hshaped : ∀ frame ∈ frames, Shaped AnyMessage frame)
variable (hideal : Authentic suite sessionID frames)
variable {next : Stream host} {exit : Option Exit}
variable (hreaction : Reaction suite stream env next exit)
include hshaped hideal hreaction

/-- A delivery is the unpadded plaintext of a data frame sealed under the
current key. -/
theorem delivered_authentic (htag : suite.aead.AppendsTag tagSize) (henv : Decodable env) :
    next.delivered = stream.delivered ∨ ∃ key frame msg, stream.engine.cipher = some key ∧
      frame ∈ frames ∧ frame.key = key ∧ frame.msgType = msgTypeDataStream ∧
      unpadPayload frame.plaintext = .ok msg.payload ∧
        next.delivered = stream.delivered ++ [msg] := by
  cases hreaction with
  | ignored => exact Or.inl rfl
  | exits => exact Or.inl rfl
  | rekeyed key salt =>
      left
      rw [ratchetTo]
      split <;> rfl
  | delivered key plaintext hcipher htype hopen hnew =>
      obtain ⟨msg, -, hframe, -, rfl, hunpad⟩ :=
        opened_data hshaped hideal htag henv htype hopen
      exact Or.inr ⟨key, dataFrame key msg, _, hcipher, hframe, rfl, rfl,
        by rw [unpadded_of_ok hunpad]; exact hunpad, rfl⟩

/-- A change of key is the ratchet with a salt sealed for a rekey under the
current key. -/
theorem rekey_authentic :
    next.engine.cipher = stream.engine.cipher ∨ ∃ key frame,
      stream.engine.cipher = some key ∧ frame ∈ frames ∧ frame.key = key ∧
      frame.msgType = msgTypeRekey ∧
        next.engine.cipher = some (ratchet suite key frame.plaintext) := by
  cases hreaction with
  | ignored => exact Or.inl rfl
  | exits => exact Or.inl rfl
  | delivered => exact Or.inl rfl
  | rekeyed key salt hcipher htype hopen =>
      obtain ⟨seqNum, saltBytes, hframe, rfl⟩ := opened_rekey hshaped hideal htype hopen
      refine Or.inr ⟨key, rekeyFrame key seqNum saltBytes, hcipher, hframe, rfl, rfl, ?_⟩
      simp only [ratchetTo, ratchetKey_nonce suite key saltBytes, newCipher_key]
      rfl

end Actions

end Authenticity

/-- After any events on a running stream, one more frame delivers only a
message sealed as data under the current key, changes the key only by a salt
sealed as rekey under the current key, has no effect if it is skipped, and ends
the stream, closing its open files and changing nothing else, if it is a close
frame or fails authentication. -/
theorem authentic_actions {suite : Suite} {engine : PublisherEngine} {sys : System}
    (hreaches : Reaches (System.step suite) (System.start engine) sys)
    (htag : suite.aead.AppendsTag tagSize)
    (hideal : Authentic suite engine.sessionID sys.shared.sealedFrames)
    {host : Host} (subscriber : SubscriberEngine) (disk : host.Disk)
    {before : List Inbound} {current : Stream host}
    (hbefore : subscribeStream suite (Stream.start subscriber disk) before = (current, none))
    (env : ReadFrame) {next : Stream host} {exit : Option Exit}
    (hnext : subscribeStream suite (Stream.start subscriber disk) (before ++ [.frame env]) =
      (next, exit)) :
    (next.delivered = current.delivered ∨ ∃ key frame msg,
      current.engine.cipher = some key ∧ frame ∈ sys.shared.sealedFrames ∧
      frame.key = key ∧ frame.msgType = msgTypeDataStream ∧
      unpadPayload frame.plaintext = .ok msg.payload ∧
        next.delivered = current.delivered ++ [msg]) ∧
    (next.engine.cipher = current.engine.cipher ∨ ∃ key frame,
      current.engine.cipher = some key ∧ frame ∈ sys.shared.sealedFrames ∧
      frame.key = key ∧ frame.msgType = msgTypeRekey ∧
        next.engine.cipher = some (ratchet suite key frame.plaintext)) ∧
    (Skipped env.val → next = current ∧ exit = none) ∧
    (Refused suite current env.val → next.engine = current.engine ∧
      next.delivered = current.delivered ∧ next.desk = current.desk.closeFiles ∧
        exit.isSome = true) := by
  rw [subscribeStream_append hbefore] at hnext
  obtain ⟨hengine, hdelivered, hexit, hdesk⟩ := subscribeStream_single hnext
  have hshaped := shaped_of_reaches hreaches
  have hreaction := reaction_of_receive suite current env.val
  rw [hengine, hdelivered]
  refine ⟨delivered_authentic hshaped hideal hreaction htag env.property,
    rekey_authentic hshaped hideal hreaction, ?_, ?_⟩
  · intro hskipped
    rw [subscribeStream, step, receive_of_skipped suite current hskipped] at hnext
    cases hnext
    exact ⟨rfl, rfl⟩
  · intro hrefused
    obtain ⟨reason, hreceive⟩ := receive_of_refused hrefused
    rw [hreceive] at hexit hdesk ⊢
    obtain rfl : exit = some reason := hexit
    exact ⟨rfl, rfl, hdesk rfl, rfl⟩

/-- A frame that is neither sealed by the publisher nor empty. -/
def forgedFrame : ReadFrame :=
  ⟨{ sampleFrame.val with payload := List.replicate 32 0 }, by decide +kernel⟩

theorem sample_refuses_forgery : ∃ current,
    subscribeStream sampleSuite sampleStream [.frame sampleFrame] = (current, none) ∧
      Refused sampleSuite current forgedFrame.val := by
  have hrunning : ((subscribeStream sampleSuite sampleStream [.frame sampleFrame]).2.isNone &&
      decide ((subscribeStream sampleSuite sampleStream
        [.frame sampleFrame]).1.engine.cipher = some sampleKey)) = true := by
    decide +kernel
  obtain ⟨current, hcurrent, hcipher⟩ := exists_running
    (fun stream => decide (stream.engine.cipher = some sampleKey)) hrunning
  exact ⟨current, hcurrent, Or.inr ⟨Or.inl (by decide +kernel), by decide +kernel, sampleKey,
    .decryptionFailed, of_decide_eq_true hcipher, by decide +kernel⟩⟩

/-- The sample stream when a forged frame arrives. -/
theorem authentic_actions_on_forgery :
    ∃ engine sys current next exit,
      Reaches (System.step sampleSuite) (System.start engine) sys ∧
      sys.shared.published = [sampleMessage] ∧
      subscribeStream sampleSuite sampleStream [.frame sampleFrame] = (current, none) ∧
      subscribeStream sampleSuite sampleStream ([.frame sampleFrame] ++ [.frame forgedFrame]) =
        (next, exit) ∧
      next.engine = current.engine ∧ next.delivered = current.delivered ∧
      next.desk = current.desk.closeFiles := by
  obtain ⟨engine, sys, -, -, hreaches, -, hpublished, hideal⟩ := sample_run
  obtain ⟨current, hbefore, hrefused⟩ := sample_refuses_forgery
  obtain ⟨next, exit, hnext⟩ : ∃ next exit, subscribeStream sampleSuite sampleStream
      ([.frame sampleFrame] ++ [.frame forgedFrame]) = (next, exit) :=
    ⟨_, _, Prod.mk.eta.symm⟩
  refine ⟨engine, sys, current, next, exit, hreaches, hpublished, hbefore, hnext, ?_⟩
  rw [sampleStream] at hbefore hnext
  obtain ⟨-, -, -, hactions⟩ := authentic_actions hreaches sampleSuite_appendsTag hideal
    sampleSubscriber _ hbefore forgedFrame hnext
  obtain ⟨hengine, hdelivered, hdesk, -⟩ := hactions hrefused
  exact ⟨hengine, hdelivered, hdesk⟩

/-- A frame that fails authentication does not leave an open transfer as it
was: the stream returns and its file is closed. -/
theorem forgery_closes_transfer :
    ∃ engine sys, Reaches (System.step sampleSuite) (System.start engine) sys ∧
      sampleSuite.aead.AppendsTag tagSize ∧
      Authentic sampleSuite engine.sessionID sys.shared.sealedFrames ∧
      (subscribeStream sampleSuite sampleStream [.frame sampleFrame]).1.engine.cipher =
        some sampleKey ∧
      openFrame sampleSuite sampleKey forgedFrame.val = .error .decryptionFailed ∧
      (subscribeStream sampleSuite sampleStream
        [.frame sampleFrame]).1.desk.activeFiles.length = 1 ∧
      (subscribeStream sampleSuite sampleStream
        [.frame sampleFrame, .frame forgedFrame]).1.desk.activeFiles.length = 0 ∧
      closedCount (subscribeStream sampleSuite sampleStream
        [.frame sampleFrame, .frame forgedFrame]).1.desk = 1 := by
  obtain ⟨engine, sys, -, -, hreaches, -, -, hideal⟩ := sample_run
  exact ⟨engine, sys, hreaches, sampleSuite_appendsTag, hideal, by decide +kernel,
    by decide +kernel, by decide +kernel, by decide +kernel, by decide +kernel⟩

end ZeroFeed.UntrustedRelay
