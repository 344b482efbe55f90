import ZeroFeed.Feed.Goroutines
import ZeroFeed.Feed.Multiplex
import ZeroFeed.Feed.Sequential

/-!
# Calls that nothing interrupts

`Feed/Publisher.lean` and `Feed/Multiplex.lean` describe a call from its
beginning to its end.  Such a call is one of the interleavings of
`Feed/Goroutines.lean`: the one in which a single goroutine runs all its
sections in a row.  Runs of `performAll` are therefore reached by the
interleaved system, with the same engine, wire and numbering.
-/

namespace ZeroFeed.Uninterrupted

open ZeroFeed.ByteString
open ZeroFeed.Messages
open ZeroFeed.Envelope
open ZeroFeed.Primitives
open ZeroFeed.Cipher
open ZeroFeed.Pake
open ZeroFeed.Ring
open ZeroFeed.Frame
open ZeroFeed.Handshake
open ZeroFeed.Publisher
open ZeroFeed.Publisher.PublisherEngine
open ZeroFeed.Sequential
open ZeroFeed.Threads
open ZeroFeed.Transition
open ZeroFeed.Goroutines
open ZeroFeed.Multiplex

variable {suite : Suite}

/-- What a finished call leaves behind. -/
structure Completed (before after : Shared) (engine : PublisherEngine) (sent : List Sent)
    (published : List SeqMsg) (count : ℕ) : Prop where
  engine : after.engine = engine
  free : after.rekeyLocked = false
  wire : after.wire = before.wire ++ sent
  published : after.published = before.published ++ published
  drawn : after.drawn = before.drawn + count

theorem Completed.trans {before middle after : Shared} {engine engine' : PublisherEngine}
    {sent sent' : List Sent} {published published' : List SeqMsg} {count count' : ℕ}
    (hfirst : Completed before middle engine sent published count)
    (hsecond : Completed middle after engine' sent' published' count') :
    Completed before after engine' (sent ++ sent') (published ++ published')
      (count + count') where
  engine := hsecond.engine
  free := hsecond.free
  wire := by rw [hsecond.wire, hfirst.wire, List.append_assoc]
  published := by rw [hsecond.published, hfirst.published, List.append_assoc]
  drawn := by rw [hsecond.drawn, hfirst.drawn, Nat.add_assoc]

theorem completed_refl {shared : Shared} (hfree : shared.rekeyLocked = false) :
    Completed shared shared shared.engine [] [] 0 :=
  ⟨rfl, hfree, (List.append_nil _).symm, (List.append_nil _).symm, rfl⟩

theorem completed_logSeal {shared : Shared} (hfree : shared.rekeyLocked = false)
    (frame : SealedFrame) (origin : Origin) :
    Completed shared (shared.logSeal frame origin) shared.engine [] [] 0 :=
  ⟨rfl, hfree, (List.append_nil _).symm, (List.append_nil _).symm, rfl⟩

/-- A write that meets a live connection sends what can be encoded. -/
theorem completed_sendFrame {shared : Shared} (hfree : shared.rekeyLocked = false)
    (suite : Suite) (sent : Sent) :
    Completed shared (shared.sendFrame suite sent true).2 shared.engine
      ([sent].filter fun sent => shared.engine.canSend suite sent) [] 0 := by
  by_cases hsend : shared.engine.canSend suite sent = true
  · simp only [Shared.sendFrame, hsend, Bool.and_self, if_true]
    exact ⟨rfl, hfree, by simp [hsend], by simp, rfl⟩
  · simp only [Shared.sendFrame, hsend, Bool.and_false]
    exact ⟨rfl, hfree, by simp [hsend], by simp, rfl⟩

/-! ## Publishing -/

section Engine

variable {engine : PublisherEngine} {key : Key} (hcipher : engine.cipher = some key)
include hcipher

/-- A rekey leaves a key behind, new or old. -/
theorem cipher_triggerRekey (suite : Suite) (inputs : RekeyInputs) :
    ∃ next, (engine.triggerRekey suite inputs).1.cipher = some next := by
  have hheld : engine.drawSeqNum.cipher = some key := hcipher
  simp only [triggerRekey, hcipher, installKey, hheld, Option.map_some, Option.getD_some]
  split
  · split
    · exact ⟨key, hcipher⟩
    · split
      · exact ⟨key, hcipher⟩
      · exact ⟨_, rfl⟩
  · exact ⟨key, hcipher⟩

theorem engine_publishNumbered (suite : Suite) (payload : Bytes) :
    (engine.publishNumbered suite payload).engine =
      engine.drawSeqNum.pushReplay ⟨engine.nextSeqNum, payload⟩ := by
  simp only [publishNumbered, hcipher]
  split <;> rfl

theorem cipher_publishPayload (suite : Suite) (payload : Bytes) (inputs : PublishInputs) :
    ∃ next, (engine.publishPayload suite payload inputs).engine.cipher = some next := by
  have hcounted : (engine.countBytes payload inputs.now).2.cipher = some key := hcipher
  by_cases hrekey : (engine.countBytes payload inputs.now).1 = true
  · obtain ⟨next, hnext⟩ := cipher_triggerRekey hcounted suite inputs.rekey
    simp only [publishPayload, hrekey, if_true, engine_publishNumbered hnext]
    exact ⟨next, hnext⟩
  · simp only [publishPayload, hrekey, Bool.false_eq_true, if_false,
      engine_publishNumbered hcounted]
    exact ⟨key, hcipher⟩

end Engine

section Publishing

variable {shared : Shared} (hfree : shared.rekeyLocked = false) {key : Key}
variable (hcipher : shared.engine.cipher = some key)
include hfree hcipher

/-- `TriggerRekey` up to its write: one number is drawn. -/
theorem rekeySend_runs (suite : Suite) (salt : Nonce) (next : Option Bytes) :
    ∃ prepared, Runs (advance suite) (shared, .rekeyLock next) (prepared,
        .rekeySend key salt (rekeyFrame key shared.engine.nextSeqNum salt) next) ∧
      prepared.engine = shared.engine.drawSeqNum ∧ prepared.wire = shared.wire ∧
      prepared.published = shared.published ∧ prepared.drawn = shared.drawn + 1 := by
  let locked : Shared := { shared with rekeyLocked := true }
  let frame := rekeyFrame key shared.engine.nextSeqNum salt
  have hlock : advance suite shared (.rekeyLock next) .proceed =
      some (locked, .rekeySnapshot next) := by
    rw [advance, advanceRekey, hfree]
    rfl
  have hsnapshot : advance suite locked (.rekeySnapshot next) (.generateNonce (some salt)) =
      some (locked, .rekeyDraw key salt next) := by
    simp only [advance, advanceRekey, locked, hcipher]
  have hdraw : advance suite locked (.rekeyDraw key salt next) .proceed =
      some (locked.drawRekey, .rekeySeal key salt shared.engine.nextSeqNum next) := rfl
  have hseal : advance suite locked.drawRekey
      (.rekeySeal key salt shared.engine.nextSeqNum next) .proceed =
      some (locked.drawRekey.logSeal frame .rekey, .rekeySend key salt frame next) := by
    have hheld : locked.drawRekey.engine.cipher = some key := hcipher
    simp only [advance, advanceRekey, hheld]
    rfl
  exact ⟨_, .head ⟨_, hlock⟩ (.head ⟨_, hsnapshot⟩ (.head ⟨_, hdraw⟩ (.single ⟨_, hseal⟩))),
    rfl, rfl, rfl, rfl⟩

/-- The sections of `TriggerRekey` in a row. -/
theorem triggerRekey_runs (suite : Suite) (inputs : RekeyInputs) (next : Option Bytes) :
    ∃ after, Runs (advance suite) (shared, .rekeyLock next) (after, resume next) ∧
      Completed shared after (shared.engine.triggerRekey suite inputs).1
        (shared.engine.triggerRekey suite inputs).2 [] 1 := by
  obtain ⟨prepared, hprepared, hengine, hwire, hpublished, hdrawn⟩ :=
    rekeySend_runs hfree hcipher suite inputs.salt next
  have hratchet := ratchetKey_nonce suite key inputs.salt
  obtain ⟨installed, hinstall⟩ : ∃ installed, shared.engine.drawSeqNum.installKey suite
      (ratchet suite key inputs.salt.val) inputs.now = some installed :=
    ⟨_, congrArg (Option.map _) hcipher⟩
  simp only [triggerRekey, hcipher, hratchet, newCipher_key, hinstall, Option.getD_some]
  set frame := rekeyFrame key shared.engine.nextSeqNum inputs.salt
  by_cases hsend : shared.engine.drawSeqNum.canSend suite (.sealed frame) = true
  · let sent : Shared := { prepared with wire := prepared.wire ++ [.sealed frame] }
    have hwrite : advance suite prepared (.rekeySend key inputs.salt frame next) (.send true) =
        some (sent, .rekeyInstall (ratchet suite key inputs.salt.val).val next) := by
      simp only [advance, advanceRekey, Shared.sendFrame, hengine, hsend, Bool.and_self, if_true,
        hratchet, sent]
    have hfinish : advance suite sent (.rekeyInstall (ratchet suite key inputs.salt.val).val next)
        (.clock inputs.now) =
        some ({ sent with engine := installed }.unlockRekey, resume next) := by
      simp only [advance, advanceRekey, newCipher_key, hengine, hinstall, sent]
    rw [if_pos hsend]
    refine ⟨_, hprepared.trans (.head ⟨_, hwrite⟩ (.single ⟨_, hfinish⟩)), rfl, rfl,
      congrArg (· ++ _) hwire, ?_, hdrawn⟩
    rw [List.append_nil]
    exact hpublished
  · have hwrite : advance suite prepared (.rekeySend key inputs.salt frame next) (.send true) =
        some (prepared.unlockRekey, resume next) := by
      simp only [advance, advanceRekey, Shared.sendFrame, hengine, hsend, Bool.and_false,
        hratchet]
      rfl
    rw [if_neg hsend]
    refine ⟨_, hprepared.trans (.single ⟨_, hwrite⟩), hengine, rfl, ?_, ?_, hdrawn⟩
    · rw [List.append_nil]
      exact hwire
    · rw [List.append_nil]
      exact hpublished

/-- The sections of `PublishPayload` behind the rekey decision in a row. -/
theorem publishNumbered_runs (suite : Suite) (payload : Bytes) :
    ∃ after, Runs (advance suite) (shared, .publishCheck payload) (after, .idle) ∧
      Completed shared after (shared.engine.publishNumbered suite payload).engine
        (shared.engine.publishNumbered suite payload).sent
        [⟨(shared.engine.publishNumbered suite payload).engine.seqCounter, payload⟩] 1 := by
  let msg : SeqMsg := ⟨shared.engine.nextSeqNum, payload⟩
  let frame := dataFrame key msg
  let pushed : Shared :=
    { shared.drawMessage payload with engine := shared.engine.drawSeqNum.pushReplay msg }
  let prepared := pushed.logSeal frame .publish
  have hheld : pushed.engine.cipher = some key := hcipher
  have hcheck : advance suite shared (.publishCheck payload) .proceed =
      some (shared, .publishDraw payload) := by
    simp only [advance, advancePublish, hcipher]
  have hdraw : advance suite shared (.publishDraw payload) .proceed =
      some (shared.drawMessage payload, .publishPush msg) := rfl
  have hpush : advance suite (shared.drawMessage payload) (.publishPush msg) .proceed =
      some (pushed, .publishSeal msg) := rfl
  have hseal : advance suite pushed (.publishSeal msg) .proceed =
      some (prepared, .publishSend frame) := by
    simp only [advance, advancePublish, hheld]
    rfl
  have hwrite : advance suite prepared (.publishSend frame) (.send true) =
      some ((prepared.sendFrame suite (.sealed frame) true).2, .idle) := rfl
  have hnumbered : Completed shared prepared (shared.engine.drawSeqNum.pushReplay msg) [] [msg]
      1 :=
    ⟨rfl, hfree, (List.append_nil _).symm, rfl, rfl⟩
  refine ⟨_, .head ⟨_, hcheck⟩ (.head ⟨_, hdraw⟩ (.head ⟨_, hpush⟩ (.head ⟨_, hseal⟩
    (.single ⟨_, hwrite⟩)))), ?_⟩
  have hresult := hnumbered.trans (completed_sendFrame hnumbered.free suite (.sealed frame))
  simp only [publishNumbered, hcipher]
  split
  · rename_i hsend
    rw [List.filter_cons_of_pos (by exact hsend)] at hresult
    exact hresult
  · rename_i hsend
    rw [List.filter_cons_of_neg (by exact hsend)] at hresult
    exact hresult

/-- A whole `PublishPayload`. -/
theorem publishPayload_runs (suite : Suite) (payload : Bytes) (inputs : PublishInputs) :
    ∃ after, Runs (advance suite) (shared, .idle) (after, .idle) ∧
      Completed shared after (shared.engine.publishPayload suite payload inputs).engine
        (shared.engine.publishPayload suite payload inputs).sent
        [⟨(shared.engine.publishPayload suite payload inputs).engine.seqCounter, payload⟩]
        (drawCount shared.engine payload inputs) := by
  let counted : Shared :=
    { shared with engine := (shared.engine.countBytes payload inputs.now).2 }
  have hheld : counted.engine.cipher = some key := hcipher
  have hcounted : Completed shared counted counted.engine [] [] 0 :=
    ⟨rfl, hfree, (List.append_nil _).symm, (List.append_nil _).symm, rfl⟩
  by_cases hrekey : (shared.engine.countBytes payload inputs.now).1 = true
  · have hstart : advance suite shared .idle (.publish payload inputs.now) =
        some (counted, .rekeyLock (some payload)) := by
      simp only [advance, start, hrekey, if_true]
      rfl
    obtain ⟨rekeyed, hrekeys, hrekeyed⟩ :=
      triggerRekey_runs hcounted.free hheld suite inputs.rekey (some payload)
    obtain ⟨next, hnext⟩ := cipher_triggerRekey hheld suite inputs.rekey
    rw [← hrekeyed.engine] at hnext
    obtain ⟨after, hpublishes, hpublished⟩ :=
      publishNumbered_runs hrekeyed.free hnext suite payload
    refine ⟨after, .head ⟨_, hstart⟩ (hrekeys.trans hpublishes), ?_⟩
    have hresult := (hcounted.trans hrekeyed).trans hpublished
    have hcount : drawCount shared.engine payload inputs = 2 := if_pos hrekey
    rw [hrekeyed.engine] at hresult
    simp only [publishPayload, hrekey, if_true, hcount]
    exact hresult
  · have hstart : advance suite shared .idle (.publish payload inputs.now) =
        some (counted, .publishCheck payload) := by
      simp only [advance, start, hrekey]
      rfl
    obtain ⟨after, hpublishes, hpublished⟩ :=
      publishNumbered_runs hcounted.free hheld suite payload
    refine ⟨after, .head ⟨_, hstart⟩ hpublishes, ?_⟩
    have hresult := hcounted.trans hpublished
    have hcount : drawCount shared.engine payload inputs = 1 := if_neg hrekey
    simp only [publishPayload, hrekey, Bool.false_eq_true, if_false, hcount]
    exact hresult

end Publishing

/-! ## Answering requests -/

section Answering

variable {shared : Shared} (hfree : shared.rekeyLocked = false)
include hfree

theorem replaySeal_runs {key : Key} (hcipher : shared.engine.cipher = some key) (suite : Suite)
    (items : List SeqMsg) :
    ∃ after, Runs (advance suite) (shared, .replaySeal items) (after, .idle) ∧
      Completed shared after shared.engine
        ((items.map fun item => Sent.sealed (dataFrame key item)).filter fun sent =>
          shared.engine.canSend suite sent) [] 0 := by
  induction items generalizing shared with
  | nil => exact ⟨shared, .single ⟨.proceed, rfl⟩, completed_refl hfree⟩
  | cons item items ih =>
      let frame := dataFrame key item
      let prepared := shared.logSeal frame .replay
      let sent := (prepared.sendFrame suite (.sealed frame) true).2
      have hseal : advance suite shared (.replaySeal (item :: items)) .proceed =
          some (prepared, .replaySend frame items) := by
        simp only [advance, advanceSync, hcipher]
        rfl
      have hwrite : advance suite prepared (.replaySend frame items) (.send true) =
          some (sent, .replaySeal items) := rfl
      have hlogged := completed_logSeal hfree frame .replay
      have hsent := hlogged.trans (completed_sendFrame hlogged.free suite (.sealed frame))
      have hheld : sent.engine.cipher = some key := by
        rw [hsent.engine]
        exact hcipher
      obtain ⟨after, hruns, hcompleted⟩ := ih hsent.free hheld
      refine ⟨after, .head ⟨_, hseal⟩ (.head ⟨_, hwrite⟩ hruns), ?_⟩
      rw [hsent.engine] at hcompleted
      have hresult := hsent.trans hcompleted
      rw [List.nil_append, hlogged.engine, ← List.filter_append] at hresult
      exact hresult

/-- A whole `replaySyncForSubscriber`. -/
theorem replaySync_runs (suite : Suite) (lastSeqNum : ℕ) :
    ∃ after, Runs (advance suite) (shared, .idle) (after, .idle) ∧
      Completed shared after shared.engine
        (shared.engine.replaySyncForSubscriber suite lastSeqNum) [] 0 := by
  let items := shared.engine.replayBuffer.getAfter lastSeqNum
  have hstart : advance suite shared .idle (.syncReq lastSeqNum) =
      some (shared, .replayCheck items) := rfl
  cases hcipher : shared.engine.cipher with
  | none =>
      have hcheck : advance suite shared (.replayCheck items) .proceed = some (shared, .idle) := by
        simp [advance, advanceSync, hcipher]
      rw [replaySyncForSubscriber, hcipher]
      exact ⟨shared, .head ⟨_, hstart⟩ (.single ⟨_, hcheck⟩), completed_refl hfree⟩
  | some key =>
      simp only [replaySyncForSubscriber, hcipher]
      by_cases hconnected : shared.engine.connected = true
      · have hcheck : advance suite shared (.replayCheck items) .proceed =
            some (shared, .replaySeal items) := by
          simp [advance, advanceSync, hcipher, hconnected]
        obtain ⟨after, hruns, hcompleted⟩ := replaySeal_runs hfree hcipher suite items
        rw [if_pos hconnected]
        exact ⟨after, .head ⟨_, hstart⟩ (.head ⟨_, hcheck⟩ hruns), hcompleted⟩
      · have hcheck : advance suite shared (.replayCheck items) .proceed =
            some (shared, .idle) := by
          simp [advance, advanceSync, hcipher, hconnected]
        rw [if_neg hconnected]
        exact ⟨shared, .head ⟨_, hstart⟩ (.single ⟨_, hcheck⟩), completed_refl hfree⟩

/-- The answer to an initial message. -/
theorem respond_runs (moment : Moment suite) (hengine : moment.engine = shared.engine)
    (payload : Bytes) :
    ∃ after, Runs (advance suite) (shared, .idle) (after, .idle) ∧
      Completed shared after shared.engine (((moment.respond payload).toList.map
        Sent.step2).filter fun sent => moment.engine.canSend suite sent) [] 0 := by
  have hstart : advance suite shared .idle (.initSub payload moment.peer moment.coins.update) =
      start suite shared (.initSub payload moment.peer moment.coins.update) := rfl
  rw [Moment.respond, hengine]
  rw [start] at hstart
  cases hpassphrase : shared.engine.passphrase with
  | none =>
      simp only [hpassphrase] at hstart
      exact ⟨shared, .single ⟨_, hstart⟩, completed_refl hfree⟩
  | some passphrase =>
      simp only [hpassphrase] at hstart ⊢
      cases hpeer : newPAKEPublisher passphrase moment.peer >>= fun peer =>
          answerInit peer payload moment.coins.update with
      | error err =>
          simp only [hpeer] at hstart
          exact ⟨shared, .single ⟨_, hstart⟩, completed_refl hfree⟩
      | ok result =>
          obtain ⟨peer, answer⟩ := result
          let response : Step2 :=
            ⟨answer, shared.engine.masterKeyCopy, moment.coins.wrapNonce⟩
          simp only [hpeer] at hstart ⊢
          cases hwrapped : response.wrappedKeyPayload suite with
          | error err =>
              have hread : advance suite shared (.step2Read answer)
                  (.wrapNonce moment.coins.wrapNonce) = some (shared, .idle) := by
                simp only [advance, advanceSync, hwrapped, response]
              exact ⟨shared, .head ⟨_, hstart⟩ (.single ⟨_, hread⟩), completed_refl hfree⟩
          | ok wrapped =>
              have hread : advance suite shared (.step2Read answer)
                  (.wrapNonce moment.coins.wrapNonce) = some (shared, .step2Send response) := by
                simp only [advance, advanceSync, hwrapped, response]
              have hwrite : advance suite shared (.step2Send response) (.send true) =
                  some ((shared.sendFrame suite (.step2 response) true).2, .idle) := rfl
              exact ⟨_, .head ⟨_, hstart⟩ (.head ⟨_, hread⟩ (.single ⟨_, hwrite⟩)),
                completed_sendFrame hfree suite (.step2 response)⟩

/-- One round of `handleSyncRequests`. -/
theorem handle_runs (moment : Moment suite) (hengine : moment.engine = shared.engine)
    (frame : Envelope) :
    ∃ after, Runs (advance suite) (shared, .idle) (after, .idle) ∧
      Completed shared after shared.engine (moment.handle frame) [] 0 := by
  rw [Moment.handle]
  split
  · exact respond_runs hfree moment hengine frame.payload
  · split
    · split
      · rw [hengine]
        exact replaySync_runs hfree suite (uint64 frame.payload)
      · exact ⟨shared, .refl, completed_refl hfree⟩
    · exact ⟨shared, .refl, completed_refl hfree⟩

end Answering

/-! ## Whole runs -/

/-- The part of the shared state that a run of calls describes. -/
def progress (shared : Shared) : Progress :=
  ⟨shared.engine, shared.wire, shared.published, shared.drawn⟩

/-- A state between calls: no rekey is under way and the engine holds a key. -/
structure Between (shared : Shared) : Prop where
  free : shared.rekeyLocked = false
  cipher : ∃ key, shared.engine.cipher = some key

/-- One call, made by a goroutine that nothing interrupts. -/
theorem perform_runs {shared : Shared} (hbetween : Between shared) (suite : Suite)
    (call : Call) :
    ∃ after, Runs (advance suite) (shared, .idle) (after, .idle) ∧ Between after ∧
      progress after = perform suite (progress shared) call := by
  obtain ⟨hfree, key, hcipher⟩ := hbetween
  cases call with
  | publish payload inputs =>
      obtain ⟨after, hruns, hengine, hafter, hwire, hpublished, hdrawn⟩ :=
        publishPayload_runs hfree hcipher suite payload inputs
      refine ⟨after, hruns, ⟨hafter, ?_⟩, ?_⟩
      · rw [hengine]
        exact cipher_publishPayload hcipher suite payload inputs
      · rw [progress, hengine, hwire, hpublished, hdrawn]
        rfl
  | replay lastSeqNum =>
      obtain ⟨after, hruns, hengine, hafter, hwire, hpublished, hdrawn⟩ :=
        replaySync_runs hfree suite lastSeqNum
      refine ⟨after, hruns, ⟨hafter, key, ?_⟩, ?_⟩
      · rw [hengine]
        exact hcipher
      · rw [progress, hengine, hwire, hpublished, hdrawn, List.append_nil]
        rfl

theorem performAll_runs {shared : Shared} (hbetween : Between shared) (suite : Suite)
    (calls : List Call) :
    ∃ after, Runs (advance suite) (shared, .idle) (after, .idle) ∧ Between after ∧
      progress after = performAll suite (progress shared) calls := by
  induction calls generalizing shared with
  | nil => exact ⟨shared, .refl, hbetween, rfl⟩
  | cons call calls ih =>
      obtain ⟨middle, hfirst, hmiddle, hprogress⟩ := perform_runs hbetween suite call
      obtain ⟨after, hrest, hafter, hall⟩ := ih hmiddle
      refine ⟨after, hfirst.trans hrest, hafter, ?_⟩
      rw [hall, hprogress]
      rfl

/-- Every run of calls made one after another is reached by the interleaved
system, and leaves no goroutine in the middle of a call. -/
theorem performAll_reached {passphrase : Bytes} {masterKey : Key} {now : ℤ} {byteLimit : ℕ}
    {timeLimit : ℤ} {engine : PublisherEngine}
    (hlaunch : launch suite passphrase masterKey now byteLimit timeLimit = .ok engine)
    (calls : List Call) :
    ∃ sys, Reaches (System.step suite) (System.start engine) sys ∧
      (∀ thread, sys.threads thread = .idle) ∧
      progress sys.shared = performAll suite (Progress.start engine) calls := by
  have hlaunched := launched_of_launch hlaunch
  have hbetween : Between (System.start engine).shared := ⟨rfl, masterKey, hlaunched.cipher⟩
  obtain ⟨after, hruns, -, hall⟩ := performAll_runs hbetween suite calls
  have halone : Runs (advance suite)
      ((System.start engine).shared, (System.start engine).threads 0) (after, .idle) := hruns
  have hreaches := reaches_of_runs halone
  have hstart : progress (System.start engine).shared = Progress.start engine := by
    rw [Progress.start, hlaunched.seqCounter]
    rfl
  refine ⟨_, hreaches, ?_, by rw [← hstart]; exact hall⟩
  intro thread
  exact congrFun (Function.update_eq_self (0 : ℕ) (System.start engine).threads) thread

end ZeroFeed.Uninterrupted
