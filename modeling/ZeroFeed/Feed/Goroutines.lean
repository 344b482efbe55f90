import ZeroFeed.Core.Threads
import ZeroFeed.Feed.Publisher

/-!
# Interleavings of the publisher's goroutines

Any number of goroutines run `PublishPayload`, `TriggerRekey`, the bodies of
`handleSyncRequests` and `Close` on one engine.  A goroutine is the program
point it has reached with the values it holds; `advance` performs the code up
to the end of its next critical section: a section under `p.mu`, the buffer's
or the cipher's lock, one atomic counter operation, or one `sendFrame`.
Results of the environment (clock readings, random salts, the outcome of a
write) are inputs of a step.

Besides the engine, the shared state keeps a log of what happened: the frames
written, the calls of `Seal`, and the sequence numbers drawn.  No section reads
the log.
-/

namespace ZeroFeed.Goroutines

open ZeroFeed.ByteString
open ZeroFeed.Messages
open ZeroFeed.Primitives
open ZeroFeed.Cipher
open ZeroFeed.Pake
open ZeroFeed.Ring
open ZeroFeed.Frame
open ZeroFeed.Handshake
open ZeroFeed.Publisher
open ZeroFeed.Threads

/-- A program point.  The `next` of a rekey is the payload `PublishPayload`
goes on with, if the rekey was triggered there. -/
inductive Goroutine where
  | idle
  | rekeyLock (next : Option Bytes)
  | rekeySnapshot (next : Option Bytes)
  | rekeyDraw (currKey : Key) (salt : Nonce) (next : Option Bytes)
  | rekeySeal (currKey : Key) (salt : Nonce) (seqNum : ℕ) (next : Option Bytes)
  | rekeySend (currKey : Key) (salt : Nonce) (frame : SealedFrame) (next : Option Bytes)
  | rekeyInstall (nextKey : Bytes) (next : Option Bytes)
  | publishCheck (payload : Bytes)
  | publishDraw (payload : Bytes)
  | publishPush (msg : SeqMsg)
  | publishSeal (msg : SeqMsg)
  | publishSend (frame : SealedFrame)
  | replayCheck (items : List SeqMsg)
  | replaySeal (items : List SeqMsg)
  | replaySend (frame : SealedFrame) (rest : List SeqMsg)
  | step2Read (answer : Answer)
  | step2Send (response : Step2)
  | crashed
  deriving DecidableEq

/-- The goroutine is inside `TriggerRekey`. -/
def inRekey : Goroutine → Bool
  | .rekeyLock _ | .rekeySnapshot _ | .rekeyDraw .. | .rekeySeal .. | .rekeySend ..
  | .rekeyInstall .. => true
  | _ => false

/-- What the environment contributes to one step. -/
inductive Input (suite : Suite) where
  | publish (payload : Bytes) (now : ℤ)
  | triggerRekey
  | syncReq (lastSeqNum : ℕ)
  | initSub (payload : Bytes) (peer : PeerCoins suite) (update : UpdateCoins suite)
  | heartbeat (written : Bool)
  | close (written : Bool)
  | proceed
  | generateNonce (salt : Option Nonce)
  | clock (now : ℤ)
  | wrapNonce (nonce : Nonce)
  | send (written : Bool)

/-- Who called `Seal`. -/
inductive Origin where
  | publish
  | replay
  | rekey
  deriving DecidableEq

structure Seal where
  frame : SealedFrame
  origin : Origin
  deriving DecidableEq

structure Shared where
  engine : PublisherEngine
  rekeyLocked : Bool
  wire : List Sent
  seals : List Seal
  /-- Messages in the order in which they were numbered. -/
  published : List SeqMsg
  /-- Sequence numbers drawn for rekey frames. -/
  rekeys : List ℕ
  /-- How many sequence numbers were drawn. -/
  drawn : ℕ

namespace Shared

variable (suite : Suite) (shared : Shared)

/-- The state after `sendFrame`, and whether it succeeded. -/
def sendFrame (sent : Sent) (written : Bool) : Bool × Shared :=
  if written && shared.engine.canSend suite sent then
    (true, { shared with wire := shared.wire ++ [sent] })
  else (false, shared)

def drawMessage (payload : Bytes) : Shared :=
  { shared with
    engine := shared.engine.drawSeqNum
    published := shared.published ++ [⟨shared.engine.nextSeqNum, payload⟩]
    drawn := shared.drawn + 1 }

def drawRekey : Shared :=
  { shared with
    engine := shared.engine.drawSeqNum
    rekeys := shared.rekeys ++ [shared.engine.nextSeqNum]
    drawn := shared.drawn + 1 }

def logSeal (frame : SealedFrame) (origin : Origin) : Shared :=
  { shared with seals := shared.seals ++ [⟨frame, origin⟩] }

def unlockRekey : Shared := { shared with rekeyLocked := false }

/-- The calls of `Seal` made so far, as frames. -/
def sealedFrames : List SealedFrame := shared.seals.map Seal.frame

end Shared

/-- Where `TriggerRekey` returns to. -/
def resume : Option Bytes → Goroutine
  | none => .idle
  | some payload => .publishCheck payload

/-! ## One section -/

section Advance

variable (suite : Suite) (shared : Shared)

/-- Entry points: a call starts, or the environment does something atomic. -/
def start : Input suite → Option (Shared × Goroutine)
  | .publish payload now =>
      let (shouldRekey, engine) := shared.engine.countBytes payload now
      some ({ shared with engine := engine },
        if shouldRekey then .rekeyLock (some payload) else .publishCheck payload)
  | .triggerRekey => some (shared, .rekeyLock none)
  | .syncReq lastSeqNum =>
      some (shared, .replayCheck (shared.engine.replayBuffer.getAfter lastSeqNum))
  | .initSub payload peer update =>
      match shared.engine.passphrase with
      | none => some (shared, .idle)
      | some passphrase =>
          match newPAKEPublisher passphrase peer >>= fun peer =>
              answerInit peer payload update with
          | .error _ => some (shared, .idle)
          | .ok (_, answer) => some (shared, .step2Read answer)
  | .heartbeat written => some ((shared.sendFrame suite .heartbeat written).2, .idle)
  | .close written =>
      let sent := (shared.sendFrame suite .close
        (written && !shared.engine.closed)).2
      some ({ sent with engine := shared.engine.close }, .idle)
  | _ => none

/-- The sections of `TriggerRekey`, which holds `rekeyMu` from the first to the
last. -/
def advanceRekey : Goroutine → Input suite → Option (Shared × Goroutine)
  | .rekeyLock next, .proceed =>
      if shared.rekeyLocked then none
      else some ({ shared with rekeyLocked := true }, .rekeySnapshot next)
  | .rekeySnapshot next, .generateNonce salt =>
      match shared.engine.cipher, salt with
      | some currKey, some salt => some (shared, .rekeyDraw currKey salt next)
      | _, _ => some (shared.unlockRekey, resume next)
  | .rekeyDraw currKey salt next, .proceed =>
      some (shared.drawRekey, .rekeySeal currKey salt shared.engine.nextSeqNum next)
  | .rekeySeal currKey salt seqNum next, .proceed =>
      match shared.engine.cipher with
      | none => some (shared.unlockRekey, resume next)
      | some key =>
          let frame := rekeyFrame key seqNum salt
          some (shared.logSeal frame .rekey, .rekeySend currKey salt frame next)
  | .rekeySend currKey salt frame next, .send written =>
      let (sent, shared) := shared.sendFrame suite (.sealed frame) written
      match sent, ratchetKey suite currKey.val salt.val with
      | true, .ok nextKey => some (shared, .rekeyInstall nextKey next)
      | _, _ => some (shared.unlockRekey, resume next)
  | .rekeyInstall nextKey next, .clock now =>
      match newCipher nextKey with
      | .error _ => some (shared.unlockRekey, resume next)
      | .ok nextKey =>
          match shared.engine.installKey suite nextKey now with
          | none => some (shared, .crashed)
          | some engine =>
              some ({ shared with engine := engine }.unlockRekey, resume next)
  | _, _ => none

/-- The sections of `PublishPayload` after the rekey decision. -/
def advancePublish : Goroutine → Input suite → Option (Shared × Goroutine)
  | .publishCheck payload, .proceed =>
      match shared.engine.cipher with
      | none => some (shared, .idle)
      | some _ => some (shared, .publishDraw payload)
  | .publishDraw payload, .proceed =>
      some (shared.drawMessage payload, .publishPush ⟨shared.engine.nextSeqNum, payload⟩)
  | .publishPush msg, .proceed =>
      some ({ shared with engine := shared.engine.pushReplay msg }, .publishSeal msg)
  | .publishSeal msg, .proceed =>
      match shared.engine.cipher with
      | none => some (shared, .idle)
      | some key =>
          let frame := dataFrame key msg
          some (shared.logSeal frame .publish, .publishSend frame)
  | .publishSend frame, .send written =>
      some ((shared.sendFrame suite (.sealed frame) written).2, .idle)
  | _, _ => none

/-- The sections of `handleSyncRequests` after a request was read. -/
def advanceSync : Goroutine → Input suite → Option (Shared × Goroutine)
  | .replayCheck items, .proceed =>
      if shared.engine.cipher.isNone || !shared.engine.connected then some (shared, .idle)
      else some (shared, .replaySeal items)
  | .replaySeal [], .proceed => some (shared, .idle)
  | .replaySeal (item :: rest), .proceed =>
      match shared.engine.cipher with
      | none => some (shared, .replaySeal rest)
      | some key =>
          let frame := dataFrame key item
          some (shared.logSeal frame .replay, .replaySend frame rest)
  | .replaySend frame rest, .send written =>
      some ((shared.sendFrame suite (.sealed frame) written).2, .replaySeal rest)
  | .step2Read answer, .wrapNonce nonce =>
      let response : Step2 := ⟨answer, shared.engine.masterKeyCopy, nonce⟩
      match response.wrappedKeyPayload suite with
      | .error _ => some (shared, .idle)
      | .ok _ => some (shared, .step2Send response)
  | .step2Send response, .send written =>
      some ((shared.sendFrame suite (.step2 response) written).2, .idle)
  | _, _ => none

/-- Run a goroutine to the end of its next section. -/
def advance (goroutine : Goroutine) (input : Input suite) : Option (Shared × Goroutine) :=
  match goroutine with
  | .idle => start suite shared input
  | .rekeyLock _ | .rekeySnapshot _ | .rekeyDraw .. | .rekeySeal .. | .rekeySend ..
  | .rekeyInstall .. => advanceRekey suite shared goroutine input
  | .publishCheck _ | .publishDraw _ | .publishPush _ | .publishSeal _ | .publishSend _ =>
      advancePublish suite shared goroutine input
  | .replayCheck _ | .replaySeal _ | .replaySend .. | .step2Read _ | .step2Send _ =>
      advanceSync suite shared goroutine input
  | .crashed => none

end Advance

/-! ## What a section can do -/

/-- The effects of `advance`, one constructor for each way a section can end. -/
inductive Section (suite : Suite) : Shared → Goroutine → Shared → Goroutine → Prop where
  | publish (shared : Shared) (payload : Bytes) (now : ℤ) :
      Section suite shared .idle
        { shared with engine := (shared.engine.countBytes payload now).2 }
        (if (shared.engine.countBytes payload now).1 then .rekeyLock (some payload)
          else .publishCheck payload)
  | triggerRekey (shared : Shared) : Section suite shared .idle shared (.rekeyLock none)
  | syncReq (shared : Shared) (lastSeqNum : ℕ) :
      Section suite shared .idle shared
        (.replayCheck (shared.engine.replayBuffer.getAfter lastSeqNum))
  | initRefused (shared : Shared) : Section suite shared .idle shared .idle
  | initSub (shared : Shared) (answer : Answer) :
      Section suite shared .idle shared (.step2Read answer)
  | heartbeat (shared : Shared) (written : Bool) :
      Section suite shared .idle (shared.sendFrame suite .heartbeat written).2 .idle
  | close (shared : Shared) (written : Bool) :
      Section suite shared .idle
        { (shared.sendFrame suite .close written).2 with engine := shared.engine.close } .idle
  | rekeyLock (shared : Shared) (next : Option Bytes) (hfree : shared.rekeyLocked = false) :
      Section suite shared (.rekeyLock next) { shared with rekeyLocked := true }
        (.rekeySnapshot next)
  | rekeyAbort (shared : Shared) {goroutine : Goroutine} (next : Option Bytes)
      (hholds : (∃ currKey salt seqNum, goroutine = .rekeySeal currKey salt seqNum next) ∨
        goroutine = .rekeySnapshot next ∨ ∃ nextKey, goroutine = .rekeyInstall nextKey next ∧
          ∀ key : Key, nextKey ≠ key.val) :
      Section suite shared goroutine shared.unlockRekey (resume next)
  | rekeySnapshot (shared : Shared) (currKey : Key) (salt : Nonce) (next : Option Bytes)
      (hcipher : shared.engine.cipher = some currKey) :
      Section suite shared (.rekeySnapshot next) shared (.rekeyDraw currKey salt next)
  | rekeyDraw (shared : Shared) (currKey : Key) (salt : Nonce) (next : Option Bytes) :
      Section suite shared (.rekeyDraw currKey salt next) shared.drawRekey
        (.rekeySeal currKey salt shared.engine.nextSeqNum next)
  | rekeySeal (shared : Shared) (currKey : Key) (salt : Nonce) (seqNum : ℕ)
      (next : Option Bytes) (key : Key) (hcipher : shared.engine.cipher = some key) :
      Section suite shared (.rekeySeal currKey salt seqNum next)
        (shared.logSeal (rekeyFrame key seqNum salt) .rekey)
        (.rekeySend currKey salt (rekeyFrame key seqNum salt) next)
  | rekeySend (shared : Shared) (currKey : Key) (salt : Nonce) (frame : SealedFrame)
      (next : Option Bytes) (hsend : shared.engine.canSend suite (.sealed frame) = true) :
      Section suite shared (.rekeySend currKey salt frame next)
        { shared with wire := shared.wire ++ [.sealed frame] }
        (.rekeyInstall (ratchet suite currKey salt.val).val next)
  | rekeySendFailed (shared : Shared) (currKey : Key) (salt : Nonce) (frame : SealedFrame)
      (next : Option Bytes) :
      Section suite shared (.rekeySend currKey salt frame next) shared.unlockRekey
        (resume next)
  | rekeyInstall (shared : Shared) (nextKey : Key) (next : Option Bytes) (now : ℤ)
      (engine : PublisherEngine)
      (hinstall : shared.engine.installKey suite nextKey now = some engine) :
      Section suite shared (.rekeyInstall nextKey.val next)
        { shared with engine := engine }.unlockRekey (resume next)
  | rekeyCrash (shared : Shared) (nextKey : Bytes) (next : Option Bytes)
      (hcipher : shared.engine.cipher = none) :
      Section suite shared (.rekeyInstall nextKey next) shared .crashed
  | publishRefused (shared : Shared) {goroutine : Goroutine}
      (hcipher : shared.engine.cipher = none)
      (hpoint : (∃ payload, goroutine = .publishCheck payload) ∨
        ∃ msg, goroutine = .publishSeal msg) :
      Section suite shared goroutine shared .idle
  | publishCheck (shared : Shared) (payload : Bytes) :
      Section suite shared (.publishCheck payload) shared (.publishDraw payload)
  | publishDraw (shared : Shared) (payload : Bytes) :
      Section suite shared (.publishDraw payload) (shared.drawMessage payload)
        (.publishPush ⟨shared.engine.nextSeqNum, payload⟩)
  | publishPush (shared : Shared) (msg : SeqMsg) :
      Section suite shared (.publishPush msg)
        { shared with engine := shared.engine.pushReplay msg } (.publishSeal msg)
  | publishSeal (shared : Shared) (msg : SeqMsg) (key : Key)
      (hcipher : shared.engine.cipher = some key) :
      Section suite shared (.publishSeal msg) (shared.logSeal (dataFrame key msg) .publish)
        (.publishSend (dataFrame key msg))
  | publishSend (shared : Shared) (frame : SealedFrame) (written : Bool) :
      Section suite shared (.publishSend frame)
        (shared.sendFrame suite (.sealed frame) written).2 .idle
  | replayDone (shared : Shared) {goroutine : Goroutine}
      (hpoint : (∃ items, goroutine = .replayCheck items) ∨ goroutine = .replaySeal []) :
      Section suite shared goroutine shared .idle
  | replayCheck (shared : Shared) (items : List SeqMsg) :
      Section suite shared (.replayCheck items) shared (.replaySeal items)
  | replaySkip (shared : Shared) (item : SeqMsg) (rest : List SeqMsg)
      (hcipher : shared.engine.cipher = none) :
      Section suite shared (.replaySeal (item :: rest)) shared (.replaySeal rest)
  | replaySeal (shared : Shared) (item : SeqMsg) (rest : List SeqMsg) (key : Key)
      (hcipher : shared.engine.cipher = some key) :
      Section suite shared (.replaySeal (item :: rest))
        (shared.logSeal (dataFrame key item) .replay)
        (.replaySend (dataFrame key item) rest)
  | replaySend (shared : Shared) (frame : SealedFrame) (rest : List SeqMsg)
      (written : Bool) :
      Section suite shared (.replaySend frame rest)
        (shared.sendFrame suite (.sealed frame) written).2 (.replaySeal rest)
  | step2Refused (shared : Shared) (answer : Answer) :
      Section suite shared (.step2Read answer) shared .idle
  | step2Read (shared : Shared) (answer : Answer) (nonce : Nonce) :
      Section suite shared (.step2Read answer) shared
        (.step2Send ⟨answer, shared.engine.masterKeyCopy, nonce⟩)
  | step2Send (shared : Shared) (response : Step2) (written : Bool) :
      Section suite shared (.step2Send response)
        (shared.sendFrame suite (.step2 response) written).2 .idle

section Inversion

variable {suite : Suite} {shared shared' : Shared} {goroutine goroutine' : Goroutine}
variable {input : Input suite}

/-- An init frame changes nothing before the answer is read out. -/
theorem cases_of_start_initSub {payload : Bytes} {peer : PeerCoins suite}
    {update : UpdateCoins suite}
    (hstart : start suite shared (.initSub payload peer update) = some (shared', goroutine')) :
    shared' = shared ∧ (goroutine' = .idle ∨ ∃ answer, goroutine' = .step2Read answer) := by
  simp only [start] at hstart
  split at hstart
  · cases hstart
    exact ⟨rfl, .inl rfl⟩
  · split at hstart
    · cases hstart
      exact ⟨rfl, .inl rfl⟩
    · cases hstart
      exact ⟨rfl, .inr ⟨_, rfl⟩⟩

theorem section_of_start (hstart : start suite shared input = some (shared', goroutine')) :
    Section suite shared .idle shared' goroutine' := by
  cases input with
  | publish payload now =>
      cases hstart
      exact .publish shared payload now
  | triggerRekey =>
      cases hstart
      exact .triggerRekey shared
  | syncReq lastSeqNum =>
      cases hstart
      exact .syncReq shared lastSeqNum
  | initSub payload peer update =>
      obtain ⟨rfl, rfl | ⟨answer, rfl⟩⟩ := cases_of_start_initSub hstart
      · exact .initRefused _
      · exact .initSub _ answer
  | heartbeat written =>
      cases hstart
      exact .heartbeat shared written
  | close written =>
      cases hstart
      exact .close shared _
  | proceed => cases hstart
  | generateNonce salt => cases hstart
  | clock now => cases hstart
  | wrapNonce nonce => cases hstart
  | send written => cases hstart

theorem section_of_advanceRekey
    (hadvance : advanceRekey suite shared goroutine input = some (shared', goroutine')) :
    Section suite shared goroutine shared' goroutine' := by
  simp only [advanceRekey] at hadvance
  split at hadvance
  · split at hadvance
    · cases hadvance
    · rename_i hfree
      cases hadvance
      exact .rekeyLock shared _ (Bool.eq_false_iff.mpr hfree)
  · split at hadvance
    · rename_i hcipher
      cases hadvance
      exact .rekeySnapshot shared _ _ _ hcipher
    · cases hadvance
      exact .rekeyAbort shared _ (.inr (.inl rfl))
  · cases hadvance
    exact .rekeyDraw shared _ _ _
  · split at hadvance
    · cases hadvance
      exact .rekeyAbort shared _ (.inl ⟨_, _, _, rfl⟩)
    · rename_i hcipher
      cases hadvance
      exact .rekeySeal shared _ _ _ _ _ hcipher
  · rename_i currKey salt frame next written
    rw [ratchetKey_nonce suite currKey salt] at hadvance
    by_cases hsend : (written && shared.engine.canSend suite (.sealed frame)) = true
    · simp only [Shared.sendFrame, if_pos hsend] at hadvance
      cases hadvance
      exact .rekeySend shared _ _ _ _ (Bool.and_eq_true_iff.mp hsend).2
    · simp only [Shared.sendFrame, if_neg hsend] at hadvance
      cases hadvance
      exact .rekeySendFailed shared _ _ _ _
  · rename_i nextKey next now
    by_cases hkey : nextKey.length = keySize
    · simp only [newCipher, dif_pos hkey] at hadvance
      split at hadvance
      · rename_i hnone
        cases hadvance
        exact .rekeyCrash shared _ _ (Option.map_eq_none_iff.mp hnone)
      · rename_i engine hinstall
        cases hadvance
        exact .rekeyInstall shared ⟨nextKey, hkey⟩ _ now engine hinstall
    · simp only [newCipher, dif_neg hkey] at hadvance
      cases hadvance
      refine .rekeyAbort shared _ (.inr (.inr ⟨nextKey, rfl, ?_⟩))
      intro key heq
      exact hkey (heq ▸ key.property)
  · cases hadvance

theorem section_of_advancePublish
    (hadvance : advancePublish suite shared goroutine input = some (shared', goroutine')) :
    Section suite shared goroutine shared' goroutine' := by
  simp only [advancePublish] at hadvance
  split at hadvance
  · split at hadvance
    · rename_i hcipher
      cases hadvance
      exact .publishRefused shared hcipher (.inl ⟨_, rfl⟩)
    · cases hadvance
      exact .publishCheck shared _
  · cases hadvance
    exact .publishDraw shared _
  · cases hadvance
    exact .publishPush shared _
  · split at hadvance
    · rename_i hcipher
      cases hadvance
      exact .publishRefused shared hcipher (.inr ⟨_, rfl⟩)
    · rename_i hcipher
      cases hadvance
      exact .publishSeal shared _ _ hcipher
  · cases hadvance
    exact .publishSend shared _ _
  · cases hadvance

theorem section_of_advanceSync
    (hadvance : advanceSync suite shared goroutine input = some (shared', goroutine')) :
    Section suite shared goroutine shared' goroutine' := by
  unfold advanceSync at hadvance
  split at hadvance
  · split at hadvance
    · cases hadvance
      exact .replayDone shared (.inl ⟨_, rfl⟩)
    · cases hadvance
      exact .replayCheck shared _
  · cases hadvance
    exact .replayDone shared (.inr rfl)
  · split at hadvance
    · rename_i hcipher
      cases hadvance
      exact .replaySkip shared _ _ hcipher
    · rename_i hcipher
      cases hadvance
      exact .replaySeal shared _ _ _ hcipher
  · cases hadvance
    exact .replaySend shared _ _ _
  · simp only at hadvance
    split at hadvance
    · cases hadvance
      exact .step2Refused shared _
    · cases hadvance
      exact .step2Read shared _ _
  · cases hadvance
    exact .step2Send shared _ _
  · cases hadvance

/-- Every step of a goroutine is one of the sections above. -/
theorem section_of_advance
    (hadvance : advance suite shared goroutine input = some (shared', goroutine')) :
    Section suite shared goroutine shared' goroutine' := by
  cases goroutine with
  | idle => exact section_of_start hadvance
  | rekeyLock | rekeySnapshot | rekeyDraw | rekeySeal | rekeySend | rekeyInstall =>
      exact section_of_advanceRekey hadvance
  | publishCheck | publishDraw | publishPush | publishSeal | publishSend =>
      exact section_of_advancePublish hadvance
  | replayCheck | replaySeal | replaySend | step2Read | step2Send =>
      exact section_of_advanceSync hadvance
  | crashed => cases hadvance

end Inversion

/-! ## The system -/

abbrev System := Pool Shared Goroutine

namespace System

/-- A publisher on which no goroutine has started a call. -/
def start (engine : PublisherEngine) : System where
  shared :=
    { engine := engine
      rekeyLocked := false
      wire := []
      seals := []
      published := []
      rekeys := []
      drawn := 0 }
  threads := fun _ => .idle

/-- Let one goroutine run its next section. -/
abbrev step (suite : Suite) : System → Label (Input suite) → Option System :=
  Pool.step (advance suite)

/-- Follow a schedule of the first `count` goroutines as long as a check succeeds. -/
abbrev runBelow {suite : Suite} (check : System → Label (Input suite) → Bool) (count : ℕ) :
    System → List (Label (Input suite)) → Option System :=
  Pool.runBelow (advance suite) check count

end System

theorem idleFrom_start (count : ℕ) (engine : PublisherEngine) :
    IdleFrom .idle count (System.start engine).threads :=
  idleFrom_const _ count

theorem section_of_step {suite : Suite} {sys sys' : System} {label : Label (Input suite)}
    (hstep : System.step suite sys label = some sys') :
    ∃ goroutine', Section suite sys.shared (sys.threads label.thread) sys'.shared goroutine' ∧
      Moves sys sys' label.thread goroutine' := by
  obtain ⟨goroutine', hadvance, hmoves⟩ := advance_of_step hstep
  exact ⟨goroutine', section_of_advance hadvance, hmoves⟩

end ZeroFeed.Goroutines
