import ZeroFeed.Feed.Receiver

/-!
# Calls executed one after another

A publisher that is called by one goroutine puts its frames on the wire in the
order in which it numbers them, with replays of older messages in between.  The
wire of such a run is aligned with the key ratchet, and every new message is
larger than everything before it.
-/

namespace ZeroFeed.Sequential

open ZeroFeed.ByteString
open ZeroFeed.Messages
open ZeroFeed.Envelope
open ZeroFeed.Primitives
open ZeroFeed.Cipher
open ZeroFeed.Ring
open ZeroFeed.Frame
open ZeroFeed.Publisher
open ZeroFeed.Publisher.PublisherEngine
open ZeroFeed.Receiver
open ZeroFeed.HighWater

/-- One whole call. -/
inductive Call where
  | publish (payload : Bytes) (inputs : PublishInputs)
  | replay (lastSeqNum : ℕ)

/-- A run so far: the engine, the frames written, the messages with the numbers
they were given, and how many numbers the engine has drawn. -/
structure Progress where
  engine : PublisherEngine
  wire : List Sent
  published : List SeqMsg
  drawn : ℕ

def Progress.start (engine : PublisherEngine) : Progress :=
  ⟨engine, [], [], engine.seqCounter⟩

/-- Numbers drawn by one `PublishPayload`. -/
def drawCount (engine : PublisherEngine) (payload : Bytes) (inputs : PublishInputs) : ℕ :=
  if (engine.countBytes payload inputs.now).1 then 2 else 1

def perform (suite : Suite) (progress : Progress) : Call → Progress
  | .publish payload inputs =>
      let result := progress.engine.publishPayload suite payload inputs
      { engine := result.engine
        wire := progress.wire ++ result.sent
        published := progress.published ++ [⟨result.engine.seqCounter, payload⟩]
        drawn := progress.drawn + drawCount progress.engine payload inputs }
  | .replay lastSeqNum =>
      { progress with
        wire := progress.wire ++ progress.engine.replaySyncForSubscriber suite lastSeqNum }

def performAll (suite : Suite) (progress : Progress) (calls : List Call) : Progress :=
  calls.foldl (perform suite) progress

/-- The payloads a list of calls publishes. -/
def payloads (calls : List Call) : List Bytes :=
  calls.filterMap fun call =>
    match call with
    | .publish payload _ => some payload
    | .replay _ => none

/-! ## One call on a live engine -/

/-- An engine that can publish: it holds a key, is connected, and its buffer
holds messages it has numbered. -/
structure Ready (suite : Suite) (key : Key) (engine : PublisherEngine) : Prop where
  cipher : engine.cipher = some key
  masterKey : engine.masterKey = some key
  sas : engine.sas = calculateSAS suite key.val
  connected : engine.connected = true
  buffered : ∀ msg ∈ engine.replayBuffer.contents,
    msg.seqNum ≤ engine.seqCounter ∧ Sendable msg

theorem ready_of_launched {suite : Suite} {key : Key} {engine : PublisherEngine}
    (hlaunched : Launched suite key engine) : Ready suite key engine where
  cipher := hlaunched.cipher
  masterKey := hlaunched.masterKey
  sas := hlaunched.sas
  connected := hlaunched.connected
  buffered msg hmsg := by
    rw [hlaunched.replayBuffer, RingBuffer.contents_newRingBuffer] at hmsg
    exact (List.not_mem_nil hmsg).elim

theorem encode_toBool {env : Envelope} (henv : Decodable env) : (encode env).toBool = true := by
  rw [encode_of_decodable henv]
  rfl

section Calls

variable {suite : Suite} (htag : suite.aead.AppendsTag tagSize)
variable {key : Key} {engine : PublisherEngine}
include htag

theorem canSend_dataFrame (hconnected : engine.connected = true) {msg : SeqMsg}
    (hmsg : Sendable msg) :
    engine.canSend suite (.sealed (dataFrame key msg)) = true := by
  rw [canSend, hconnected, Bool.true_and]
  exact encode_toBool (hmsg.decodable htag engine.sessionID key)

theorem canSend_rekeyFrame (hconnected : engine.connected = true) (seqNum : ℕ)
    (salt : Nonce) :
    engine.canSend suite (.sealed (rekeyFrame key seqNum salt)) = true := by
  rw [canSend, hconnected, Bool.true_and]
  exact encode_toBool (decodable_rekeyFrame htag engine.sessionID key seqNum salt)

/-- An uninterrupted rekey sends one frame and ratchets the key. -/
theorem triggerRekey_ready (hready : Ready suite key engine) (inputs : RekeyInputs)
    (hdrawn : engine.seqCounter + 1 < 2 ^ 64) :
    ∃ next, engine.triggerRekey suite inputs =
        (next, [.sealed (rekeyFrame key engine.nextSeqNum inputs.salt)]) ∧
      Ready suite (ratchet suite key inputs.salt.val) next ∧
      next.seqCounter = engine.seqCounter + 1 ∧
      next.replayBuffer = engine.replayBuffer := by
  have hsend : engine.drawSeqNum.canSend suite
      (.sealed (rekeyFrame key engine.nextSeqNum inputs.salt)) = true :=
    canSend_rekeyFrame htag hready.connected _ _
  have hcipher : engine.drawSeqNum.cipher = some key := hready.cipher
  have hnext : engine.nextSeqNum = engine.seqCounter + 1 := Nat.mod_eq_of_lt hdrawn
  simp only [triggerRekey, hready.cipher, hsend, if_true, ratchetKey_nonce suite key inputs.salt,
    newCipher_key, installKey, hcipher, Option.map_some, Option.getD_some]
  refine ⟨_, rfl, ⟨rfl, rfl, rfl, hready.connected, ?_⟩, hnext, rfl⟩
  intro msg hmsg
  obtain ⟨hle, hsendable⟩ := hready.buffered msg hmsg
  refine ⟨?_, hsendable⟩
  change msg.seqNum ≤ engine.nextSeqNum
  omega

/-- The rest of `PublishPayload` numbers, buffers and sends the payload. -/
theorem publishNumbered_ready (hready : Ready suite key engine) {payload : Bytes}
    (hsize : payload.length ≤ maxMessageSize) (hdrawn : engine.seqCounter + 1 < 2 ^ 64) :
    ∃ next, engine.publishNumbered suite payload =
        ⟨next, [.sealed (dataFrame key ⟨engine.seqCounter + 1, payload⟩)], .ok ()⟩ ∧
      Ready suite key next ∧ next.seqCounter = engine.seqCounter + 1 ∧
      ∀ msg ∈ next.replayBuffer.contents, msg ∈ engine.replayBuffer.contents ∨
        msg = ⟨engine.seqCounter + 1, payload⟩ := by
  have hnext : engine.nextSeqNum = engine.seqCounter + 1 := Nat.mod_eq_of_lt hdrawn
  have hmsg : Sendable ⟨engine.seqCounter + 1, payload⟩ := ⟨hsize, hdrawn⟩
  have hsend : (engine.drawSeqNum.pushReplay ⟨engine.seqCounter + 1, payload⟩).canSend suite
      (.sealed (dataFrame key ⟨engine.seqCounter + 1, payload⟩)) = true :=
    canSend_dataFrame htag hready.connected hmsg
  simp only [publishNumbered, hready.cipher, hnext, hsend, if_true]
  refine ⟨_, rfl, ⟨hready.cipher, hready.masterKey, hready.sas, hready.connected, ?_⟩, hnext,
    fun msg hmem => RingBuffer.mem_contents_push hmem⟩
  intro msg hmem
  change msg.seqNum ≤ engine.nextSeqNum ∧ Sendable msg
  rcases RingBuffer.mem_contents_push hmem with hold | rfl
  · obtain ⟨hle, hsendable⟩ := hready.buffered msg hold
    exact ⟨by omega, hsendable⟩
  · exact ⟨hnext.ge, hmsg⟩

/-- A whole `PublishPayload`: at most one rekey, then the message. -/
theorem publishPayload_ready (hready : Ready suite key engine) {payload : Bytes}
    {inputs : PublishInputs} (hsize : payload.length ≤ maxMessageSize)
    (hdrawn : engine.seqCounter + drawCount engine payload inputs < 2 ^ 64) :
    ∃ last next sent, engine.publishPayload suite payload inputs = ⟨next, sent, .ok ()⟩ ∧
      Ready suite last next ∧
      next.seqCounter = engine.seqCounter + drawCount engine payload inputs ∧
      Aligned suite key sent last ∧ messages sent = [⟨next.seqCounter, payload⟩] ∧
      ∀ msg ∈ next.replayBuffer.contents, msg ∈ engine.replayBuffer.contents ∨
        msg = ⟨next.seqCounter, payload⟩ := by
  have hcounted : Ready suite key (engine.countBytes payload inputs.now).2 :=
    ⟨hready.cipher, hready.masterKey, hready.sas, hready.connected, hready.buffered⟩
  by_cases hrekey : (engine.countBytes payload inputs.now).1 = true
  · have hcount : drawCount engine payload inputs = 2 := if_pos hrekey
    rw [hcount] at hdrawn ⊢
    obtain ⟨rekeyed, htrigger, hrekeyed, hcounter, hbuffer⟩ :=
      triggerRekey_ready htag hcounted inputs.rekey (by
        change engine.seqCounter + 1 < 2 ^ 64
        omega)
    change rekeyed.seqCounter = engine.seqCounter + 1 at hcounter
    have hlast : rekeyed.seqCounter + 1 < 2 ^ 64 := by omega
    obtain ⟨next, hpublish, hnext, hnextCounter, hcontents⟩ :=
      publishNumbered_ready htag hrekeyed hsize hlast
    have hmsg : Sendable ⟨rekeyed.seqCounter + 1, payload⟩ := ⟨hsize, hlast⟩
    refine ⟨_, next, [.sealed (rekeyFrame key
        (engine.countBytes payload inputs.now).2.nextSeqNum inputs.rekey.salt),
      .sealed (dataFrame _ ⟨rekeyed.seqCounter + 1, payload⟩)], ?_, hnext, by omega,
      .rekey _ _ (.data hmsg (.nil _)), ?_, ?_⟩
    · simp only [publishPayload, hrekey, if_true, htrigger, hpublish]
      rfl
    · rw [messages_cons_of_none (messageOf_rekeyFrame ..), messages_cons_dataFrame hmsg,
        hnextCounter]
      rfl
    · intro msg hmem
      rw [hnextCounter]
      rcases hcontents msg hmem with hold | hnew
      · rw [hbuffer] at hold
        exact Or.inl hold
      · exact Or.inr hnew
  · have hcount : drawCount engine payload inputs = 1 := if_neg hrekey
    rw [hcount] at hdrawn ⊢
    obtain ⟨next, hpublish, hnext, hnextCounter, hcontents⟩ :=
      publishNumbered_ready htag hcounted hsize hdrawn
    have hmsg : Sendable ⟨engine.seqCounter + 1, payload⟩ := ⟨hsize, hdrawn⟩
    refine ⟨key, next, [.sealed (dataFrame key ⟨engine.seqCounter + 1, payload⟩)], ?_, hnext,
      hnextCounter, .data hmsg (.nil _), ?_, ?_⟩
    · simp only [publishPayload, hrekey]
      exact hpublish
    · rw [messages_cons_dataFrame hmsg, hnextCounter]
      rfl
    · intro msg hmem
      rw [hnextCounter]
      exact hcontents msg hmem

/-- A whole replay sends the buffered messages above the requested number. -/
theorem replaySyncForSubscriber_ready (hready : Ready suite key engine) (lastSeqNum : ℕ) :
    Aligned suite key (engine.replaySyncForSubscriber suite lastSeqNum) key ∧
      messages (engine.replaySyncForSubscriber suite lastSeqNum) =
        engine.replayBuffer.getAfter lastSeqNum := by
  have hitems : ∀ msg ∈ engine.replayBuffer.getAfter lastSeqNum, Sendable msg := by
    intro msg hmsg
    rw [RingBuffer.getAfter_eq_filter] at hmsg
    exact (hready.buffered msg (List.mem_of_mem_filter hmsg)).2
  have hsent : engine.replaySyncForSubscriber suite lastSeqNum =
      (engine.replayBuffer.getAfter lastSeqNum).map fun item =>
        Sent.sealed (dataFrame key item) := by
    simp only [replaySyncForSubscriber, hready.cipher, hready.connected, if_true]
    apply List.filter_eq_self.mpr
    intro sent hmem
    obtain ⟨item, hitem, rfl⟩ := List.mem_map.mp hmem
    exact canSend_dataFrame htag hready.connected (hitems item hitem)
  rw [hsent]
  generalize engine.replayBuffer.getAfter lastSeqNum = items at hitems
  induction items with
  | nil => exact ⟨.nil key, rfl⟩
  | cons item items ih =>
      have hitem := hitems item List.mem_cons_self
      obtain ⟨haligned, hmessages⟩ :=
        ih fun msg hmsg => hitems msg (List.mem_cons_of_mem item hmsg)
      refine ⟨.data hitem haligned, ?_⟩
      rw [List.map_cons, messages_cons_dataFrame hitem, hmessages]

end Calls

/-! ## Whole runs -/

/-- The state of a run that started with key `first` and counter `base`: every
published message makes its first appearance on the wire above everything
before it, and everything else on the wire was numbered before the run. -/
structure Sequenced (suite : Suite) (first : Key) (base : ℕ) (progress : Progress)
    (last : Key) : Prop where
  ready : Ready suite last progress.engine
  counter : progress.engine.seqCounter = progress.drawn
  aligned : Aligned suite first progress.wire last
  increasing : progress.published.Pairwise fun left right => left.seqNum < right.seqNum
  above : ∀ msg ∈ progress.published, base < msg.seqNum ∧ msg.seqNum ≤ progress.drawn
  appears : ∀ msg ∈ progress.published, ∃ before after,
    messages progress.wire = before ++ msg :: after ∧
      ∀ earlier ∈ before, earlier.seqNum < msg.seqNum
  known : ∀ msg ∈ messages progress.wire, msg.seqNum ≤ progress.drawn ∧
    (msg ∈ progress.published ∨ msg.seqNum ≤ base)
  buffered : ∀ msg ∈ progress.engine.replayBuffer.contents,
    msg ∈ progress.published ∨ msg.seqNum ≤ base

theorem sequenced_start {suite : Suite} {key : Key} {engine : PublisherEngine}
    (hready : Ready suite key engine) :
    Sequenced suite key engine.seqCounter (Progress.start engine) key where
  ready := hready
  counter := rfl
  aligned := .nil key
  increasing := List.Pairwise.nil
  above _ hmsg := (List.not_mem_nil hmsg).elim
  appears _ hmsg := (List.not_mem_nil hmsg).elim
  known _ hmsg := (List.not_mem_nil hmsg).elim
  buffered msg hmsg := Or.inr (hready.buffered msg hmsg).1

theorem drawCount_pos (engine : PublisherEngine) (payload : Bytes) (inputs : PublishInputs) :
    0 < drawCount engine payload inputs := by
  rw [drawCount]
  split <;> omega

section Run

variable {suite : Suite} (htag : suite.aead.AppendsTag tagSize)
variable {first last : Key} {base : ℕ} {progress : Progress}
include htag

theorem sequenced_publish (hsequenced : Sequenced suite first base progress last)
    (hbase : base ≤ progress.drawn) {payload : Bytes} {inputs : PublishInputs}
    (hsize : payload.length ≤ maxMessageSize)
    (hdrawn : (perform suite progress (.publish payload inputs)).drawn < 2 ^ 64) :
    ∃ next, Sequenced suite first base (perform suite progress (.publish payload inputs))
      next := by
  have hpos := drawCount_pos progress.engine payload inputs
  have hcounter := hsequenced.counter
  have hroom : progress.engine.seqCounter + drawCount progress.engine payload inputs <
      2 ^ 64 := by
    rw [hcounter]
    exact hdrawn
  obtain ⟨key, engine, sent, hresult, hready, hnumber, haligned, hmessages, hcontents⟩ :=
    publishPayload_ready htag hsequenced.ready hsize hroom
  rw [hcounter] at hnumber
  have hlarger : ∀ msg ∈ messages progress.wire, msg.seqNum < engine.seqCounter := by
    intro msg hmsg
    have hle := (hsequenced.known msg hmsg).1
    omega
  refine ⟨key, ?_⟩
  simp only [perform, hresult]
  refine ⟨hready, hnumber, hsequenced.aligned.append haligned, ?_, ?_, ?_, ?_, ?_⟩
  · refine List.pairwise_append.mpr ⟨hsequenced.increasing, List.pairwise_singleton _ _, ?_⟩
    intro earlier hearlier msg hmsg
    rw [List.mem_singleton.mp hmsg]
    have hle := (hsequenced.above earlier hearlier).2
    change earlier.seqNum < engine.seqCounter
    omega
  · intro msg hmsg
    change base < msg.seqNum ∧
      msg.seqNum ≤ progress.drawn + drawCount progress.engine payload inputs
    rcases List.mem_append.mp hmsg with hold | hnew
    · have hle := hsequenced.above msg hold
      omega
    · rw [List.mem_singleton.mp hnew]
      change base < engine.seqCounter ∧ engine.seqCounter ≤ _
      omega
  · intro msg hmsg
    rw [messages_append, hmessages]
    rcases List.mem_append.mp hmsg with hold | hnew
    · obtain ⟨before, after, hsplit, hbefore⟩ := hsequenced.appears msg hold
      exact ⟨before, after ++ [⟨engine.seqCounter, payload⟩], by simp [hsplit], hbefore⟩
    · rw [List.mem_singleton.mp hnew]
      exact ⟨messages progress.wire, [], rfl, hlarger⟩
  · intro msg hmsg
    change msg.seqNum ≤ progress.drawn + drawCount progress.engine payload inputs ∧ _
    rw [messages_append, hmessages] at hmsg
    rcases List.mem_append.mp hmsg with hold | hnew
    · obtain ⟨hle, hsource⟩ := hsequenced.known msg hold
      exact ⟨by omega, hsource.imp_left (List.mem_append_left _)⟩
    · rw [List.mem_singleton.mp hnew]
      exact ⟨hnumber.le, Or.inl (List.mem_append_right _ (List.mem_singleton.mpr rfl))⟩
  · intro msg hmsg
    rcases hcontents msg hmsg with hold | rfl
    · exact (hsequenced.buffered msg hold).imp_left (List.mem_append_left _)
    · exact Or.inl (List.mem_append_right _ (List.mem_singleton.mpr rfl))

theorem sequenced_replay (hsequenced : Sequenced suite first base progress last)
    (hbase : base ≤ progress.drawn) (lastSeqNum : ℕ) :
    Sequenced suite first base (perform suite progress (.replay lastSeqNum)) last := by
  obtain ⟨haligned, hmessages⟩ :=
    replaySyncForSubscriber_ready htag hsequenced.ready lastSeqNum
  simp only [perform]
  refine ⟨hsequenced.ready, hsequenced.counter, hsequenced.aligned.append haligned,
    hsequenced.increasing, hsequenced.above, ?_, ?_, hsequenced.buffered⟩
  · intro msg hmsg
    obtain ⟨before, after, hsplit, hbefore⟩ := hsequenced.appears msg hmsg
    exact ⟨before, after ++ progress.engine.replayBuffer.getAfter lastSeqNum,
      by rw [messages_append, hmessages, hsplit, List.append_assoc, List.cons_append], hbefore⟩
  · intro msg hmsg
    rw [messages_append, hmessages] at hmsg
    rcases List.mem_append.mp hmsg with hold | hreplayed
    · exact hsequenced.known msg hold
    · rw [RingBuffer.getAfter_eq_filter] at hreplayed
      have hsource := hsequenced.buffered msg (List.mem_of_mem_filter hreplayed)
      refine ⟨?_, hsource⟩
      rcases hsource with hmem | hle
      · exact (hsequenced.above msg hmem).2
      · exact hle.trans hbase

omit htag in
theorem drawn_le_perform (suite : Suite) (progress : Progress) (call : Call) :
    progress.drawn ≤ (perform suite progress call).drawn := by
  cases call with
  | publish payload inputs => exact Nat.le_add_right _ _
  | replay lastSeqNum => exact le_refl _

omit htag in
theorem drawn_le_performAll (suite : Suite) (progress : Progress) (calls : List Call) :
    progress.drawn ≤ (performAll suite progress calls).drawn := by
  induction calls generalizing progress with
  | nil => exact le_refl _
  | cons call calls ih => exact (drawn_le_perform suite progress call).trans (ih _)

/-- Every payload fits into a frame. -/
def Fits (calls : List Call) : Prop :=
  ∀ payload ∈ payloads calls, payload.length ≤ maxMessageSize

omit htag in
theorem fits_cons {call : Call} {calls : List Call} (hfits : Fits (call :: calls)) :
    Fits calls := by
  intro payload hpayload
  apply hfits
  cases call with
  | publish first inputs => exact List.mem_cons_of_mem first hpayload
  | replay lastSeqNum => exact hpayload

theorem sequenced_performAll {calls : List Call} (hfits : Fits calls)
    (hsequenced : Sequenced suite first base progress last) (hbase : base ≤ progress.drawn)
    (hdrawn : (performAll suite progress calls).drawn < 2 ^ 64) :
    ∃ next, Sequenced suite first base (performAll suite progress calls) next := by
  induction calls generalizing progress last with
  | nil => exact ⟨last, hsequenced⟩
  | cons call calls ih =>
      have hroom : (perform suite progress call).drawn < 2 ^ 64 :=
        (drawn_le_performAll suite _ calls).trans_lt hdrawn
      have hnextBase := hbase.trans (drawn_le_perform suite progress call)
      cases call with
      | publish payload inputs =>
          obtain ⟨next, hnext⟩ := sequenced_publish htag hsequenced hbase
            (hfits payload List.mem_cons_self) hroom
          exact ih (fits_cons hfits) hnext hnextBase hdrawn
      | replay lastSeqNum =>
          exact ih (fits_cons hfits) (sequenced_replay htag hsequenced hbase lastSeqNum)
            hnextBase hdrawn

omit htag in
theorem published_performAll (suite : Suite) (progress : Progress) (calls : List Call) :
    (performAll suite progress calls).published.map SeqMsg.payload =
      progress.published.map SeqMsg.payload ++ payloads calls := by
  induction calls generalizing progress with
  | nil => exact (List.append_nil _).symm
  | cons call calls ih =>
      rw [performAll, List.foldl_cons, ← performAll, ih]
      cases call with
      | publish payload inputs =>
          simp only [perform, List.map_append, List.append_assoc]
          rfl
      | replay lastSeqNum => rfl

end Run

/-! ## What a subscriber keeps of a run -/

section Kept

variable {suite : Suite} {first last : Key} {base : ℕ} {progress : Progress}
variable (hsequenced : Sequenced suite first base progress last)
include hsequenced

theorem mem_keepAbove_iff_published (mark : ℕ) {msg : SeqMsg} (habove : base < msg.seqNum) :
    msg ∈ keepAbove SeqMsg.seqNum mark (messages progress.wire) ↔
      msg ∈ progress.published ∧ mark < msg.seqNum := by
  constructor
  · intro hkept
    have hmem := (keepAbove_sublist SeqMsg.seqNum mark _).subset hkept
    rcases (hsequenced.known msg hmem).2 with hpublished | hle
    · exact ⟨hpublished, lt_of_mem_keepAbove SeqMsg.seqNum hkept⟩
    · exact absurd habove (not_lt.mpr hle)
  · rintro ⟨hpublished, hmark⟩
    obtain ⟨before, after, hsplit, hbefore⟩ := hsequenced.appears msg hpublished
    exact (mem_keepAbove_iff SeqMsg.seqNum mark _ msg).mpr
      ⟨before, after, hsplit, hmark, hbefore⟩

/-- Of the messages numbered during the run, the subscriber delivers those
above its mark, in order. -/
theorem keepAbove_run (mark : ℕ) :
    (keepAbove SeqMsg.seqNum mark (messages progress.wire)).filter
        (fun msg => base < msg.seqNum) =
      progress.published.filter fun msg => mark < msg.seqNum := by
  apply eq_of_increasing SeqMsg.seqNum
  · exact (keepAbove_increasing SeqMsg.seqNum mark _).filter _
  · exact hsequenced.increasing.filter _
  · intro msg
    simp only [List.mem_filter, decide_eq_true_eq]
    constructor
    · rintro ⟨hkept, habove⟩
      exact (mem_keepAbove_iff_published hsequenced mark habove).mp hkept
    · rintro ⟨hpublished, hmark⟩
      have habove := (hsequenced.above msg hpublished).1
      exact ⟨(mem_keepAbove_iff_published hsequenced mark habove).mpr ⟨hpublished, hmark⟩,
        habove⟩

end Kept

section Moments

variable {suite : Suite} {passphrase : Bytes} {masterKey : Key} {now : ℤ} {byteLimit : ℕ}
variable {timeLimit : ℤ} {engine : PublisherEngine} {before after : List Call}
variable {joined run : Progress} {key : Key}

/-- Calls before and after a moment: the run after it starts with the key of that
moment. -/
theorem sequenced_of_calls (htag : suite.aead.AppendsTag tagSize)
    (hlaunch : launch suite passphrase masterKey now byteLimit timeLimit = .ok engine)
    (hbefore : Fits before) (hafter : Fits after)
    (hjoined : performAll suite (Progress.start engine) before = joined)
    (hrun : performAll suite (Progress.start joined.engine) after = run)
    (hjoinedDrawn : joined.drawn < 2 ^ 64) (hrunDrawn : run.drawn < 2 ^ 64)
    (hkey : joined.engine.masterKey = some key) :
    Ready suite key joined.engine ∧
      ∃ last, Sequenced suite key joined.engine.seqCounter run last := by
  subst hjoined
  obtain ⟨middle, hsequenced⟩ := sequenced_performAll htag hbefore
    (sequenced_start (ready_of_launched (launched_of_launch hlaunch))) (le_refl _) hjoinedDrawn
  have hmiddle : middle = key := by
    rw [hsequenced.ready.masterKey] at hkey
    exact Option.some.inj hkey
  subst hmiddle hrun
  exact ⟨hsequenced.ready, sequenced_performAll htag hafter (sequenced_start hsequenced.ready)
    (le_refl _) hrunDrawn⟩

end Moments

end ZeroFeed.Sequential
