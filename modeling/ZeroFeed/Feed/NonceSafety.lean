import ZeroFeed.Core.HighWater
import ZeroFeed.Feed.Goroutines

/-!
# Nonces over whole publisher runs

One counter numbers data and rekey frames, and replays seal old numbers again.
The ledger invariant ties everything a goroutine may still seal, and everything
in the replay buffer, to the message its number was drawn for.  While fewer
than `2 ^ 64` numbers have been drawn, no number stands for two plaintexts.
-/

namespace ZeroFeed.NonceSafety

open ZeroFeed.ByteString
open ZeroFeed.Messages
open ZeroFeed.Primitives
open ZeroFeed.Cipher
open ZeroFeed.Ring
open ZeroFeed.Frame
open ZeroFeed.Publisher
open ZeroFeed.Threads
open ZeroFeed.Transition
open ZeroFeed.Goroutines

/-- The messages a goroutine holds to push or seal them later. -/
def holds : Goroutine → List SeqMsg
  | .publishPush msg | .publishSeal msg => [msg]
  | .replayCheck items | .replaySeal items => items
  | .replaySend _ rest => rest
  | _ => []

/-- The data frame a goroutine has sealed and not sent yet. -/
def carries : Goroutine → Option SealedFrame
  | .publishSend frame | .replaySend frame _ => some frame
  | _ => none

/-- The number drawn for a rekey frame that is not sealed yet. -/
def pendingRekey : Goroutine → Option ℕ
  | .rekeySeal _ _ seqNum _ => some seqNum
  | _ => none

@[simp]
theorem holds_resume (next : Option Bytes) : holds (resume next) = [] := by
  cases next <;> rfl

@[simp]
theorem carries_resume (next : Option Bytes) : carries (resume next) = none := by
  cases next <;> rfl

@[simp]
theorem pendingRekey_resume (next : Option Bytes) : pendingRekey (resume next) = none := by
  cases next <;> rfl

/-- Everything that was sealed is a published message or a rekey salt, under a
number drawn for it. -/
inductive Accounted (shared : Shared) : SealedFrame → Prop where
  | data (key : Key) {msg : SeqMsg} (hmsg : msg ∈ shared.published) :
      Accounted shared (dataFrame key msg)
  | rekey (key : Key) {seqNum : ℕ} (hseqNum : seqNum ∈ shared.rekeys) (salt : Nonce) :
      Accounted shared (rekeyFrame key seqNum salt)

/-- Two seals of which one is a rekey do not share a number. -/
def RekeyApart (left right : Seal) : Prop :=
  left.frame.msgType = msgTypeRekey ∨ right.frame.msgType = msgTypeRekey →
    left.frame.seqNum ≠ right.frame.seqNum

/-- What the log of a run looks like while the counter has not wrapped. -/
structure Ledger (shared : Shared) : Prop where
  counter : shared.engine.seqCounter = shared.drawn
  increasing : shared.published.Pairwise fun left right => left.seqNum < right.seqNum
  published_le : ∀ msg ∈ shared.published, 0 < msg.seqNum ∧ msg.seqNum ≤ shared.drawn
  rekeys_le : ∀ seqNum ∈ shared.rekeys, seqNum ≤ shared.drawn
  disjoint : ∀ msg ∈ shared.published, msg.seqNum ∉ shared.rekeys
  buffered : ∀ msg ∈ shared.engine.replayBuffer.contents, msg ∈ shared.published
  accounted : ∀ entry ∈ shared.seals, Accounted shared entry.frame
  rekeysApart : shared.seals.Pairwise RekeyApart

/-- What a goroutine holds is in the log, and its rekey number is unused. -/
structure Owns (shared : Shared) (goroutine : Goroutine) : Prop where
  held : ∀ msg ∈ holds goroutine, msg ∈ shared.published
  carried : ∀ frame, carries goroutine = some frame →
    ∃ key, ∃ msg ∈ shared.published, frame = dataFrame key msg
  pending : ∀ seqNum, pendingRekey goroutine = some seqNum →
    seqNum ∈ shared.rekeys ∧ ∀ entry ∈ shared.seals, entry.frame.seqNum ≠ seqNum

/-- Two goroutines are not about to seal the same rekey number. -/
def Apart (left right : Goroutine) : Prop :=
  ∀ seqNum, pendingRekey left = some seqNum → pendingRekey right ≠ some seqNum

theorem apart_of_none {left : Goroutine} (hnone : pendingRekey left = none)
    (right : Goroutine) : Apart left right := by
  intro seqNum hleft
  rw [hnone] at hleft
  cases hleft

/-! ## Sections that draw and seal nothing -/

/-- The ledger part of the state is unchanged, except that the buffer may have
lost messages. -/
structure Quiet (shared shared' : Shared) : Prop where
  seqCounter : shared'.engine.seqCounter = shared.engine.seqCounter
  drawn : shared'.drawn = shared.drawn
  published : shared'.published = shared.published
  rekeys : shared'.rekeys = shared.rekeys
  seals : shared'.seals = shared.seals
  buffer : ∀ msg ∈ shared'.engine.replayBuffer.contents,
    msg ∈ shared.engine.replayBuffer.contents

theorem Quiet.refl (shared : Shared) : Quiet shared shared :=
  ⟨rfl, rfl, rfl, rfl, rfl, fun _ hmsg => hmsg⟩

theorem quiet_sendFrame (suite : Suite) (shared : Shared) (sent : Sent) (written : Bool) :
    Quiet shared (shared.sendFrame suite sent written).2 := by
  rw [Shared.sendFrame]
  split
  · exact ⟨rfl, rfl, rfl, rfl, rfl, fun _ hmsg => hmsg⟩
  · exact Quiet.refl shared

theorem quiet_close (suite : Suite) (shared : Shared) (written : Bool) :
    Quiet shared { (shared.sendFrame suite .close written).2 with
      engine := shared.engine.close } := by
  have hsend := quiet_sendFrame suite shared .close written
  rw [PublisherEngine.close]
  split
  · exact ⟨rfl, hsend.drawn, hsend.published, hsend.rekeys, hsend.seals, fun _ hmsg => hmsg⟩
  · refine ⟨rfl, hsend.drawn, hsend.published, hsend.rekeys, hsend.seals, ?_⟩
    intro msg hmsg
    simp at hmsg

theorem quiet_installKey {suite : Suite} {shared : Shared} {nextKey : Key} {now : ℤ}
    {engine : PublisherEngine}
    (hinstall : shared.engine.installKey suite nextKey now = some engine) :
    Quiet shared { shared with engine := engine }.unlockRekey := by
  obtain ⟨key, -, rfl⟩ := Option.map_eq_some_iff.mp hinstall
  exact ⟨rfl, rfl, rfl, rfl, rfl, fun _ hmsg => hmsg⟩

theorem Accounted.mono {shared shared' : Shared} {frame : SealedFrame}
    (hframe : Accounted shared frame)
    (hpublished : ∀ msg ∈ shared.published, msg ∈ shared'.published)
    (hrekeys : ∀ seqNum ∈ shared.rekeys, seqNum ∈ shared'.rekeys) :
    Accounted shared' frame := by
  cases hframe with
  | data key hmsg => exact .data key (hpublished _ hmsg)
  | rekey key hseqNum salt => exact .rekey key (hrekeys _ hseqNum) salt

section Quiet

variable {shared shared' : Shared} (hquiet : Quiet shared shared')
include hquiet

theorem Quiet.ledger (hledger : Ledger shared) : Ledger shared' where
  counter := by rw [hquiet.seqCounter, hquiet.drawn, hledger.counter]
  increasing := by rw [hquiet.published]; exact hledger.increasing
  published_le := by rw [hquiet.published, hquiet.drawn]; exact hledger.published_le
  rekeys_le := by rw [hquiet.rekeys, hquiet.drawn]; exact hledger.rekeys_le
  disjoint := by rw [hquiet.published, hquiet.rekeys]; exact hledger.disjoint
  buffered msg hmsg := by
    rw [hquiet.published]
    exact hledger.buffered msg (hquiet.buffer msg hmsg)
  accounted entry hentry := by
    rw [hquiet.seals] at hentry
    exact (hledger.accounted entry hentry).mono
      (fun msg hmsg => hquiet.published.symm ▸ hmsg)
      (fun seqNum hseqNum => hquiet.rekeys.symm ▸ hseqNum)
  rekeysApart := by rw [hquiet.seals]; exact hledger.rekeysApart

theorem Quiet.owns {goroutine : Goroutine} (howns : Owns shared goroutine) :
    Owns shared' goroutine where
  held msg hmsg := hquiet.published.symm ▸ howns.held msg hmsg
  carried := by rw [hquiet.published]; exact howns.carried
  pending seqNum hpending := by
    rw [hquiet.rekeys, hquiet.seals]
    exact howns.pending seqNum hpending

end Quiet

/-! ## Sections that draw a number -/

section Draw

variable {shared : Shared} (hledger : Ledger shared) (hdrawn : shared.drawn + 1 < 2 ^ 64)
include hledger hdrawn

theorem nextSeqNum_eq : shared.engine.nextSeqNum = shared.drawn + 1 := by
  rw [PublisherEngine.nextSeqNum, hledger.counter, Nat.mod_eq_of_lt hdrawn]

theorem drawMessage_ledger (payload : Bytes) : Ledger (shared.drawMessage payload) := by
  have hnext := nextSeqNum_eq hledger hdrawn
  refine ⟨hnext, ?_, ?_, ?_, ?_, ?_, ?_, hledger.rekeysApart⟩
  · refine List.pairwise_append.mpr ⟨hledger.increasing, List.pairwise_singleton _ _, ?_⟩
    intro msg hmsg fresh hfresh
    rw [List.mem_singleton.mp hfresh]
    have hle := (hledger.published_le msg hmsg).2
    change msg.seqNum < shared.engine.nextSeqNum
    omega
  · intro msg hmsg
    rcases List.mem_append.mp hmsg with hmsg | hmsg
    · have hle := hledger.published_le msg hmsg
      exact ⟨hle.1, Nat.le_succ_of_le hle.2⟩
    · rw [List.mem_singleton.mp hmsg]
      change 0 < shared.engine.nextSeqNum ∧ shared.engine.nextSeqNum ≤ shared.drawn + 1
      omega
  · intro seqNum hseqNum
    exact Nat.le_succ_of_le (hledger.rekeys_le seqNum hseqNum)
  · intro msg hmsg hrekey
    rcases List.mem_append.mp hmsg with hmsg | hmsg
    · exact hledger.disjoint msg hmsg hrekey
    · have hle := hledger.rekeys_le msg.seqNum hrekey
      rw [List.mem_singleton.mp hmsg] at hle
      change shared.engine.nextSeqNum ≤ shared.drawn at hle
      omega
  · intro msg hmsg
    exact List.mem_append_left _ (hledger.buffered msg hmsg)
  · intro entry hentry
    exact (hledger.accounted entry hentry).mono
      (fun msg hmsg => List.mem_append_left _ hmsg) (fun seqNum hseqNum => hseqNum)

theorem drawRekey_ledger : Ledger shared.drawRekey := by
  have hnext := nextSeqNum_eq hledger hdrawn
  refine ⟨hnext, hledger.increasing, ?_, ?_, ?_, hledger.buffered, ?_, hledger.rekeysApart⟩
  · intro msg hmsg
    have hle := hledger.published_le msg hmsg
    exact ⟨hle.1, Nat.le_succ_of_le hle.2⟩
  · intro seqNum hseqNum
    rcases List.mem_append.mp hseqNum with hseqNum | hseqNum
    · exact Nat.le_succ_of_le (hledger.rekeys_le seqNum hseqNum)
    · rw [List.mem_singleton.mp hseqNum, hnext]
      exact le_refl _
  · intro msg hmsg hrekey
    rcases List.mem_append.mp hrekey with hrekey | hrekey
    · exact hledger.disjoint msg hmsg hrekey
    · have hle := (hledger.published_le msg hmsg).2
      rw [List.mem_singleton.mp hrekey] at hle
      omega
  · intro entry hentry
    exact (hledger.accounted entry hentry).mono (fun msg hmsg => hmsg)
      (fun seqNum hseqNum => List.mem_append_left _ hseqNum)

/-- Numbers already in the log are smaller than the one being drawn. -/
theorem seqNum_ne_nextSeqNum {frame : SealedFrame} (hframe : Accounted shared frame) :
    frame.seqNum ≠ shared.engine.nextSeqNum := by
  have hnext := nextSeqNum_eq hledger hdrawn
  cases hframe with
  | data key hmsg =>
      have hle := (hledger.published_le _ hmsg).2
      rw [dataFrame_seqNum]
      omega
  | rekey key hseqNum salt =>
      have hle := hledger.rekeys_le _ hseqNum
      rw [rekeyFrame_seqNum]
      omega

end Draw

/-! ## Sections that seal -/

/-- A data frame never carries a number drawn for a rekey. -/
theorem seqNum_ne_of_rekey {shared : Shared} (hledger : Ledger shared) {msg : SeqMsg}
    (hmsg : msg ∈ shared.published) {seqNum : ℕ} (hseqNum : seqNum ∈ shared.rekeys) :
    msg.seqNum ≠ seqNum := by
  rintro rfl
  exact hledger.disjoint msg hmsg hseqNum

theorem logSeal_data_ledger {shared : Shared} (hledger : Ledger shared) (key : Key)
    {msg : SeqMsg} (hmsg : msg ∈ shared.published) (origin : Origin) :
    Ledger (shared.logSeal (dataFrame key msg) origin) := by
  refine ⟨hledger.counter, hledger.increasing, hledger.published_le, hledger.rekeys_le,
    hledger.disjoint, hledger.buffered, ?_, ?_⟩
  · intro entry hentry
    rcases List.mem_append.mp hentry with hentry | hentry
    · exact (hledger.accounted entry hentry).mono (fun _ h => h) (fun _ h => h)
    · rw [List.mem_singleton.mp hentry]
      exact .data key hmsg
  · refine List.pairwise_append.mpr ⟨hledger.rekeysApart, List.pairwise_singleton _ _, ?_⟩
    intro entry hentry fresh hfresh
    rw [List.mem_singleton.mp hfresh]
    obtain ⟨frame, entryOrigin⟩ := entry
    cases hledger.accounted _ hentry with
    | data entryKey hentryMsg =>
        rintro (hrekey | hrekey) <;>
          exact absurd hrekey msgTypeDataStream_ne_msgTypeRekey
    | rekey entryKey hseqNum salt =>
        intro _
        exact (seqNum_ne_of_rekey hledger hmsg hseqNum).symm

theorem logSeal_rekey_ledger {shared : Shared} (hledger : Ledger shared) (key : Key)
    {seqNum : ℕ} (hseqNum : seqNum ∈ shared.rekeys)
    (hunused : ∀ entry ∈ shared.seals, entry.frame.seqNum ≠ seqNum) (salt : Nonce) :
    Ledger (shared.logSeal (rekeyFrame key seqNum salt) .rekey) := by
  refine ⟨hledger.counter, hledger.increasing, hledger.published_le, hledger.rekeys_le,
    hledger.disjoint, hledger.buffered, ?_, ?_⟩
  · intro entry hentry
    rcases List.mem_append.mp hentry with hentry | hentry
    · exact (hledger.accounted entry hentry).mono (fun _ h => h) (fun _ h => h)
    · rw [List.mem_singleton.mp hentry]
      exact (Accounted.rekey key hseqNum salt).mono (fun _ h => h) (fun _ h => h)
  · refine List.pairwise_append.mpr ⟨hledger.rekeysApart, List.pairwise_singleton _ _, ?_⟩
    intro entry hentry fresh hfresh _
    rw [List.mem_singleton.mp hfresh]
    exact hunused entry hentry

/-- Logging a seal leaves another goroutine alone if the number is not the one
it is about to use. -/
theorem Owns.logSeal {shared : Shared} {goroutine : Goroutine} (howns : Owns shared goroutine)
    {frame : SealedFrame} (origin : Origin)
    (hother : ∀ seqNum, pendingRekey goroutine = some seqNum → frame.seqNum ≠ seqNum) :
    Owns (shared.logSeal frame origin) goroutine where
  held := howns.held
  carried := howns.carried
  pending seqNum hpending := by
    obtain ⟨hrekey, hunused⟩ := howns.pending seqNum hpending
    refine ⟨hrekey, ?_⟩
    intro entry hentry
    rcases List.mem_append.mp hentry with hentry | hentry
    · exact hunused entry hentry
    · rw [List.mem_singleton.mp hentry]
      exact hother seqNum hpending

theorem Owns.drawMessage {shared : Shared} {goroutine : Goroutine}
    (howns : Owns shared goroutine) (payload : Bytes) :
    Owns (shared.drawMessage payload) goroutine where
  held msg hmsg := List.mem_append_left _ (howns.held msg hmsg)
  carried frame hframe := by
    obtain ⟨key, msg, hmsg, rfl⟩ := howns.carried frame hframe
    exact ⟨key, msg, List.mem_append_left _ hmsg, rfl⟩
  pending := howns.pending

theorem Owns.drawRekey {shared : Shared} {goroutine : Goroutine}
    (howns : Owns shared goroutine) : Owns shared.drawRekey goroutine where
  held := howns.held
  carried := howns.carried
  pending seqNum hpending := by
    obtain ⟨hrekey, hunused⟩ := howns.pending seqNum hpending
    exact ⟨List.mem_append_left _ hrekey, hunused⟩

/-- A goroutine with nothing in hand. -/
theorem owns_of_nil {shared : Shared} {goroutine : Goroutine}
    (hholds : holds goroutine = []) (hcarries : carries goroutine = none)
    (hpending : pendingRekey goroutine = none) : Owns shared goroutine where
  held msg hmsg := by
    rw [hholds] at hmsg
    cases hmsg
  carried frame hsome := by
    rw [hcarries] at hsome
    cases hsome
  pending seqNum hsome := by
    rw [hpending] at hsome
    cases hsome

/-! ## Steps and runs -/

/-- What a section does to the log, in terms of what its goroutine held. -/
inductive LogEffect (shared : Shared) (goroutine : Goroutine) :
    Shared → Goroutine → Prop where
  | quiet {shared' : Shared} {goroutine' : Goroutine} (hquiet : Quiet shared shared')
      (hholds : ∀ msg ∈ holds goroutine',
        msg ∈ holds goroutine ∨ msg ∈ shared.engine.replayBuffer.contents)
      (hcarries : carries goroutine' = none) (hpending : pendingRekey goroutine' = none) :
      LogEffect shared goroutine shared' goroutine'
  | drawMessage (payload : Bytes) :
      LogEffect shared goroutine (shared.drawMessage payload)
        (.publishPush ⟨shared.engine.nextSeqNum, payload⟩)
  | drawRekey (currKey : Key) (salt : Nonce) (next : Option Bytes) :
      LogEffect shared goroutine shared.drawRekey
        (.rekeySeal currKey salt shared.engine.nextSeqNum next)
  | push {msg : SeqMsg} (hmsg : msg ∈ holds goroutine) :
      LogEffect shared goroutine { shared with engine := shared.engine.pushReplay msg }
        (.publishSeal msg)
  | sealData (key : Key) {msg : SeqMsg} (hmsg : msg ∈ holds goroutine) (origin : Origin)
      {goroutine' : Goroutine} (hholds : ∀ msg ∈ holds goroutine', msg ∈ holds goroutine)
      (hcarries : carries goroutine' = some (dataFrame key msg))
      (hpending : pendingRekey goroutine' = none) :
      LogEffect shared goroutine (shared.logSeal (dataFrame key msg) origin) goroutine'
  | sealRekey (key : Key) (salt : Nonce) {seqNum : ℕ}
      (hseqNum : pendingRekey goroutine = some seqNum) {goroutine' : Goroutine}
      (hholds : holds goroutine' = []) (hcarries : carries goroutine' = none)
      (hpending : pendingRekey goroutine' = none) :
      LogEffect shared goroutine (shared.logSeal (rekeyFrame key seqNum salt) .rekey)
        goroutine'

/-- A quiet section after which the goroutine holds nothing. -/
theorem LogEffect.release {shared shared' : Shared} {goroutine goroutine' : Goroutine}
    (hquiet : Quiet shared shared') (hholds : holds goroutine' = [])
    (hcarries : carries goroutine' = none) (hpending : pendingRekey goroutine' = none) :
    LogEffect shared goroutine shared' goroutine' := by
  refine .quiet hquiet ?_ hcarries hpending
  intro msg hmsg
  rw [hholds] at hmsg
  cases hmsg

theorem section_logEffect {suite : Suite} {shared shared' : Shared}
    {goroutine goroutine' : Goroutine}
    (hsection : Section suite shared goroutine shared' goroutine') :
    LogEffect shared goroutine shared' goroutine' := by
  have hrefl := Quiet.refl shared
  have hunlock : Quiet shared shared.unlockRekey :=
    ⟨rfl, rfl, rfl, rfl, rfl, fun _ hmsg => hmsg⟩
  cases hsection with
  | publish payload now =>
      have hquiet : Quiet shared { shared with
          engine := (shared.engine.countBytes payload now).2 } :=
        ⟨rfl, rfl, rfl, rfl, rfl, fun _ hmsg => hmsg⟩
      split <;> exact .release hquiet rfl rfl rfl
  | syncReq lastSeqNum =>
      refine .quiet hrefl ?_ rfl rfl
      intro msg hmsg
      rw [holds, RingBuffer.getAfter_eq_filter] at hmsg
      exact Or.inr (List.mem_of_mem_filter hmsg)
  | triggerRekey | initRefused | initSub | rekeySnapshot | rekeyCrash | publishRefused
  | publishCheck | replayDone | step2Refused | step2Read => exact .release hrefl rfl rfl rfl
  | heartbeat | publishSend | step2Send =>
      exact .release (quiet_sendFrame suite shared _ _) rfl rfl rfl
  | close written => exact .release (quiet_close suite shared written) rfl rfl rfl
  | rekeyLock =>
      exact .release ⟨rfl, rfl, rfl, rfl, rfl, fun _ hmsg => hmsg⟩ rfl rfl rfl
  | rekeyAbort next | rekeySendFailed _ _ _ next =>
      exact .release hunlock (holds_resume next) (carries_resume next)
        (pendingRekey_resume next)
  | rekeyDraw currKey salt next => exact .drawRekey currKey salt next
  | rekeySeal currKey salt seqNum next key => exact .sealRekey key salt rfl rfl rfl rfl
  | rekeySend =>
      exact .release ⟨rfl, rfl, rfl, rfl, rfl, fun _ hmsg => hmsg⟩ rfl rfl rfl
  | rekeyInstall nextKey next now engine hinstall =>
      exact .release (quiet_installKey hinstall) (holds_resume next)
        (carries_resume next) (pendingRekey_resume next)
  | publishDraw payload => exact .drawMessage payload
  | publishPush msg => exact .push (List.mem_singleton.mpr rfl)
  | publishSeal msg key =>
      exact .sealData key (List.mem_singleton.mpr rfl) .publish
        (fun msg hmsg => by cases hmsg) rfl rfl
  | replayCheck items => exact .quiet hrefl (fun msg hmsg => Or.inl hmsg) rfl rfl
  | replaySkip item rest =>
      exact .quiet hrefl (fun msg hmsg => Or.inl (List.mem_cons_of_mem item hmsg)) rfl rfl
  | replaySeal item rest key =>
      exact .sealData key List.mem_cons_self .replay
        (fun msg hmsg => List.mem_cons_of_mem item hmsg) rfl rfl
  | replaySend frame rest written =>
      exact .quiet (quiet_sendFrame suite shared _ written) (fun msg hmsg => Or.inl hmsg) rfl rfl

section Effect

variable {shared shared' : Shared} {goroutine goroutine' other : Goroutine}

/-- One section keeps the ledger. -/
theorem LogEffect.ledger (heffect : LogEffect shared goroutine shared' goroutine')
    (hledger : Ledger shared) (howns : Owns shared goroutine)
    (hdrawn : shared'.drawn < 2 ^ 64) : Ledger shared' := by
  cases heffect with
  | quiet hquiet => exact hquiet.ledger hledger
  | drawMessage payload => exact drawMessage_ledger hledger hdrawn payload
  | drawRekey => exact drawRekey_ledger hledger hdrawn
  | push hmsg =>
      refine ⟨hledger.counter, hledger.increasing, hledger.published_le, hledger.rekeys_le,
        hledger.disjoint, ?_, ?_, hledger.rekeysApart⟩
      · intro buffered hbuffered
        rcases RingBuffer.mem_contents_push hbuffered with hold | rfl
        · exact hledger.buffered buffered hold
        · exact howns.held _ hmsg
      · exact fun entry hentry =>
          (hledger.accounted entry hentry).mono (fun _ h => h) (fun _ h => h)
  | sealData key hmsg origin => exact logSeal_data_ledger hledger key (howns.held _ hmsg) origin
  | sealRekey key salt hseqNum =>
      obtain ⟨hrekey, hunused⟩ := howns.pending _ hseqNum
      exact logSeal_rekey_ledger hledger key hrekey hunused salt

/-- What the running goroutine holds afterwards is in the log. -/
theorem LogEffect.owns (heffect : LogEffect shared goroutine shared' goroutine')
    (hledger : Ledger shared) (howns : Owns shared goroutine)
    (hdrawn : shared'.drawn < 2 ^ 64) : Owns shared' goroutine' := by
  cases heffect with
  | quiet hquiet hholds hcarries hpending =>
      refine ⟨?_, by rw [hcarries]; rintro _ ⟨⟩, by rw [hpending]; rintro _ ⟨⟩⟩
      intro msg hmsg
      rw [hquiet.published]
      exact (hholds msg hmsg).elim (howns.held msg) (hledger.buffered msg)
  | drawMessage payload =>
      exact ⟨fun msg hmsg => List.mem_append_right _ hmsg, by rintro _ ⟨⟩, by rintro _ ⟨⟩⟩
  | drawRekey currKey salt next =>
      refine ⟨fun msg hmsg => (List.not_mem_nil hmsg).elim, by rintro _ ⟨⟩, ?_⟩
      intro seqNum hpending
      obtain rfl := Option.some.inj hpending
      exact ⟨List.mem_append_right _ (List.mem_singleton.mpr rfl), fun entry hentry =>
        seqNum_ne_nextSeqNum hledger hdrawn (hledger.accounted entry hentry)⟩
  | push hmsg =>
      refine ⟨?_, by rintro _ ⟨⟩, by rintro _ ⟨⟩⟩
      intro msg hheld
      rw [List.mem_singleton.mp hheld]
      exact howns.held _ hmsg
  | sealData key hmsg origin hholds hcarries hpending =>
      refine ⟨fun msg hheld => howns.held msg (hholds msg hheld), ?_,
        by rw [hpending]; rintro _ ⟨⟩⟩
      intro frame hsome
      rw [hcarries] at hsome
      exact ⟨key, _, howns.held _ hmsg, (Option.some.inj hsome).symm⟩
  | sealRekey key salt hseqNum hholds hcarries hpending =>
      exact owns_of_nil hholds hcarries hpending

/-- A section leaves alone what the other goroutines hold. -/
theorem LogEffect.owns_other (heffect : LogEffect shared goroutine shared' goroutine')
    (hledger : Ledger shared) (howns : Owns shared goroutine) (hother : Owns shared other)
    (hapart : Apart goroutine other) (hdrawn : shared'.drawn < 2 ^ 64) :
    Owns shared' other ∧ Apart goroutine' other := by
  cases heffect with
  | quiet hquiet _ _ hpending => exact ⟨hquiet.owns hother, apart_of_none hpending other⟩
  | drawMessage payload => exact ⟨hother.drawMessage payload, apart_of_none rfl other⟩
  | drawRekey currKey salt next =>
      refine ⟨hother.drawRekey, ?_⟩
      intro seqNum hpending hsame
      obtain rfl := Option.some.inj hpending
      have hle := hledger.rekeys_le _ (hother.pending _ hsame).1
      have hnext := nextSeqNum_eq hledger hdrawn
      omega
  | push hmsg => exact ⟨⟨hother.held, hother.carried, hother.pending⟩, apart_of_none rfl other⟩
  | sealData key hmsg origin _ _ hpending =>
      refine ⟨hother.logSeal origin ?_, apart_of_none hpending other⟩
      intro seqNum hsome
      exact seqNum_ne_of_rekey hledger (howns.held _ hmsg) (hother.pending seqNum hsome).1
  | sealRekey key salt hseqNum _ _ hpending =>
      refine ⟨hother.logSeal .rekey ?_, apart_of_none hpending other⟩
      rintro seqNum hsome rfl
      exact hapart _ hseqNum hsome

theorem LogEffect.drawn_le (heffect : LogEffect shared goroutine shared' goroutine') :
    shared.drawn ≤ shared'.drawn := by
  cases heffect with
  | quiet hquiet => exact hquiet.drawn.ge
  | drawMessage | drawRekey => exact Nat.le_succ _
  | push | sealData | sealRekey => exact le_refl _

/-- Messages stay in the log. -/
theorem LogEffect.mem_published (heffect : LogEffect shared goroutine shared' goroutine')
    {msg : SeqMsg} (hmsg : msg ∈ shared.published) : msg ∈ shared'.published := by
  cases heffect with
  | quiet hquiet => exact hquiet.published.symm ▸ hmsg
  | drawMessage => exact List.mem_append_left _ hmsg
  | drawRekey | push | sealData | sealRekey => exact hmsg

end Effect

/-- The ledger holds, every goroutine owns what it holds, and no two are about
to seal the same rekey number. -/
structure Numbered (sys : System) : Prop where
  ledger : Ledger sys.shared
  owns : ∀ thread, Owns sys.shared (sys.threads thread)
  apart : ∀ left right, left ≠ right → Apart (sys.threads left) (sys.threads right)

theorem Apart.symm {left right : Goroutine} (hapart : Apart left right) :
    Apart right left :=
  fun seqNum hright hleft => hapart seqNum hleft hright

theorem numbered_step {suite : Suite} {sys sys' : System} {label : Label (Input suite)}
    (hstep : System.step suite sys label = some sys') (hnumbered : Numbered sys)
    (hdrawn : sys'.shared.drawn < 2 ^ 64) : Numbered sys' := by
  obtain ⟨goroutine', hsection, hmoves⟩ := section_of_step hstep
  generalize label.thread = thread at hsection hmoves
  have heffect := section_logEffect hsection
  have hothers : ∀ other, other ≠ thread →
      Owns sys'.shared (sys.threads other) ∧ Apart goroutine' (sys.threads other) :=
    fun other hne => heffect.owns_other hnumbered.ledger (hnumbered.owns thread)
      (hnumbered.owns other) (hnumbered.apart thread other hne.symm) hdrawn
  refine ⟨heffect.ledger hnumbered.ledger (hnumbered.owns thread) hdrawn, ?_, ?_⟩
  · exact hmoves.forall (Owns sys'.shared)
      (heffect.owns hnumbered.ledger (hnumbered.owns thread) hdrawn)
      fun other hne => (hothers other hne).1
  · intro left right hne
    by_cases hleft : left = thread
    · subst hleft
      rw [hmoves.self, hmoves.other hne.symm]
      exact (hothers right hne.symm).2
    · rw [hmoves.other hleft]
      by_cases hright : right = thread
      · subst hright
        rw [hmoves.self]
        exact (hothers left hleft).2.symm
      · rw [hmoves.other hright]
        exact hnumbered.apart left right hne

theorem drawn_le_of_step {suite : Suite} {sys sys' : System} {label : Label (Input suite)}
    (hstep : System.step suite sys label = some sys') :
    sys.shared.drawn ≤ sys'.shared.drawn := by
  obtain ⟨goroutine', hsection, -⟩ := section_of_step hstep
  exact (section_logEffect hsection).drawn_le

theorem mem_published_of_step {suite : Suite} {sys sys' : System} {label : Label (Input suite)}
    (hstep : System.step suite sys label = some sys') {msg : SeqMsg}
    (hmsg : msg ∈ sys.shared.published) : msg ∈ sys'.shared.published := by
  obtain ⟨goroutine', hsection, -⟩ := section_of_step hstep
  exact (section_logEffect hsection).mem_published hmsg

theorem numbered_start {suite : Suite} {masterKey : Key} {engine : PublisherEngine}
    (hlaunched : Launched suite masterKey engine) : Numbered (System.start engine) where
  ledger :=
    { counter := hlaunched.seqCounter
      increasing := List.Pairwise.nil
      published_le := fun msg hmsg => by cases hmsg
      rekeys_le := fun seqNum hseqNum => by cases hseqNum
      disjoint := fun msg hmsg => by cases hmsg
      buffered := fun msg hmsg => by
        rw [System.start, hlaunched.replayBuffer, RingBuffer.contents_newRingBuffer] at hmsg
        cases hmsg
      accounted := fun entry hentry => by cases hentry
      rekeysApart := List.Pairwise.nil }
  owns _ := owns_of_nil rfl rfl rfl
  apart _ _ _ := apart_of_none rfl _

/-- Every reachable state is numbered until the counter wraps. -/
theorem numbered_of_reaches {suite : Suite} {masterKey : Key} {engine : PublisherEngine}
    {sys : System} (hlaunched : Launched suite masterKey engine)
    (hreaches : Reaches (System.step suite) (System.start engine) sys)
    (hdrawn : sys.shared.drawn < 2 ^ 64) : Numbered sys := by
  induction hreaches with
  | refl => exact numbered_start hlaunched
  | tail _ hlast ih =>
      obtain ⟨label, hstep⟩ := hlast
      exact numbered_step hstep (ih ((drawn_le_of_step hstep).trans_lt hdrawn)) hdrawn

/-! ## Reuse of a nonce -/

section Reuse

variable {shared : Shared} (hledger : Ledger shared) (hdrawn : shared.drawn < 2 ^ 64)
include hledger hdrawn

theorem seqNum_lt_of_accounted {frame : SealedFrame} (hframe : Accounted shared frame) :
    frame.seqNum < 2 ^ 64 := by
  cases hframe with
  | data key hmsg => exact (hledger.published_le _ hmsg).2.trans_lt hdrawn
  | rekey key hseqNum salt => exact (hledger.rekeys_le _ hseqNum).trans_lt hdrawn

/-- Below the wrap, equal nonces are equal sequence numbers. -/
theorem seqNum_eq_of_nonce_eq {left right : SealedFrame} (hleft : Accounted shared left)
    (hright : Accounted shared right) {sessionID : SessionID}
    (hnonce : left.nonce sessionID = right.nonce sessionID) : left.seqNum = right.seqNum := by
  have heq := nonce_eq_iff.mp hnonce
  rwa [Nat.mod_eq_of_lt (seqNum_lt_of_accounted hledger hdrawn hleft),
    Nat.mod_eq_of_lt (seqNum_lt_of_accounted hledger hdrawn hright)] at heq

omit hdrawn in
/-- A number determines the published message. -/
theorem eq_of_seqNum_eq {left right : SeqMsg} (hleft : left ∈ shared.published)
    (hright : right ∈ shared.published) (hseqNum : left.seqNum = right.seqNum) :
    left = right :=
  HighWater.eq_of_key_eq SeqMsg.seqNum hledger.increasing hleft hright hseqNum

omit hdrawn in
theorem rekeyApart_of_ne {left right : Seal} (hleft : left ∈ shared.seals)
    (hright : right ∈ shared.seals) (hne : left ≠ right) : RekeyApart left right :=
  have : Std.Symm RekeyApart :=
    ⟨fun _ _ hapart htype heq => hapart htype.symm heq.symm⟩
  hledger.rekeysApart.forall hleft hright hne

omit hdrawn in
/-- Two seals under one number seal the same plaintext as the same type. -/
theorem same_of_seqNum_eq {left right : Seal} (hleft : left ∈ shared.seals)
    (hright : right ∈ shared.seals) (hseqNum : left.frame.seqNum = right.frame.seqNum) :
    left.frame.msgType = right.frame.msgType ∧
      left.frame.plaintext = right.frame.plaintext := by
  by_cases hsame : left = right
  · rw [hsame]
    exact ⟨rfl, rfl⟩
  have hapart := rekeyApart_of_ne hledger hleft hright hsame
  obtain ⟨leftFrame, leftOrigin⟩ := left
  obtain ⟨rightFrame, rightOrigin⟩ := right
  cases hledger.accounted _ hleft with
  | rekey leftKey hleftNum leftSalt => exact absurd hseqNum (hapart (Or.inl rfl))
  | data leftKey hleftMsg =>
      cases hledger.accounted _ hright with
      | rekey rightKey hrightNum rightSalt => exact absurd hseqNum (hapart (Or.inr rfl))
      | data rightKey hrightMsg =>
          rw [eq_of_seqNum_eq hledger hleftMsg hrightMsg hseqNum]
          exact ⟨rfl, rfl⟩

end Reuse

theorem header_eq {left right : SealedFrame} {sessionID : SessionID}
    (htype : left.msgType = right.msgType)
    (hnonce : left.nonce sessionID = right.nonce sessionID)
    (hplaintext : left.plaintext = right.plaintext) :
    left.header sessionID = right.header sessionID := by
  rw [SealedFrame.header, SealedFrame.header, SealedFrame.framePayloadLen,
    SealedFrame.framePayloadLen, htype, hnonce, hplaintext]

/-- In every state reached by any interleaving before the counter wraps: equal
key and nonce mean equal plaintext and header, a rekey shares its nonce with no
other seal, and a message replayed under the key of its original transmission
gives the same frame. -/
theorem nonce_safety {suite : Suite} {passphrase : Bytes} {masterKey : Key} {now : ℤ}
    {byteLimit : ℕ} {timeLimit : ℤ} {engine : PublisherEngine} {sys : System}
    (hlaunch : launch suite passphrase masterKey now byteLimit timeLimit = .ok engine)
    (hreaches : Reaches (System.step suite) (System.start engine) sys)
    (hdrawn : sys.shared.drawn < 2 ^ 64) :
    (∀ left ∈ sys.shared.seals, ∀ right ∈ sys.shared.seals,
      left.frame.key = right.frame.key →
      left.frame.nonce engine.sessionID = right.frame.nonce engine.sessionID →
        left.frame.plaintext = right.frame.plaintext ∧
          left.frame.header engine.sessionID = right.frame.header engine.sessionID) ∧
    (sys.shared.seals.Pairwise fun left right =>
      left.frame.msgType = msgTypeRekey ∨ right.frame.msgType = msgTypeRekey →
        left.frame.nonce engine.sessionID ≠ right.frame.nonce engine.sessionID) ∧
    (∀ original ∈ sys.shared.seals, ∀ replayed ∈ sys.shared.seals,
      original.origin = .publish → replayed.origin = .replay →
      replayed.frame.seqNum = original.frame.seqNum →
      replayed.frame.key = original.frame.key →
        replayed.frame.envelope engine.sessionID suite =
          original.frame.envelope engine.sessionID suite) := by
  have hledger := (numbered_of_reaches (launched_of_launch hlaunch) hreaches hdrawn).ledger
  have hnumber : ∀ left ∈ sys.shared.seals, ∀ right ∈ sys.shared.seals,
      left.frame.nonce engine.sessionID = right.frame.nonce engine.sessionID →
        left.frame.seqNum = right.frame.seqNum :=
    fun left hleft right hright hnonce => seqNum_eq_of_nonce_eq hledger hdrawn
      (hledger.accounted left hleft) (hledger.accounted right hright) hnonce
  refine ⟨?_, ?_, ?_⟩
  · intro left hleft right hright _ hnonce
    obtain ⟨htype, hplaintext⟩ := same_of_seqNum_eq hledger hleft hright
      (hnumber left hleft right hright hnonce)
    exact ⟨hplaintext, header_eq htype hnonce hplaintext⟩
  · refine hledger.rekeysApart.imp_of_mem ?_
    intro left right hleft hright hapart htype hnonce
    exact hapart htype (hnumber left hleft right hright hnonce)
  · intro original horiginal replayed hreplayed _ _ hseqNum hkey
    obtain ⟨htype, hplaintext⟩ := same_of_seqNum_eq hledger hreplayed horiginal hseqNum
    rw [SealedFrame.ext hkey htype hseqNum hplaintext]

/-- A message published by one goroutine and replayed by another. -/
theorem nonce_safety_of_replay :
    ∃ engine sys, launch Primitives.transparent [1] (copyFixed keySize []) 0 0 0 = .ok engine ∧
      Reaches (System.step Primitives.transparent) (System.start engine) sys ∧
      sys.shared.seals.map Seal.origin = [.publish, .replay] ∧
      ∀ original ∈ sys.shared.seals, ∀ replayed ∈ sys.shared.seals,
        original.origin = .publish → replayed.origin = .replay →
        replayed.frame.seqNum = original.frame.seqNum →
        replayed.frame.key = original.frame.key →
          replayed.frame.envelope engine.sessionID Primitives.transparent =
            original.frame.envelope engine.sessionID Primitives.transparent := by
  obtain ⟨engine, hlaunch⟩ : ∃ engine,
      launch Primitives.transparent [1] (copyFixed keySize []) 0 0 0 = .ok engine :=
    ⟨_, rfl⟩
  have hschedule : (run (System.step Primitives.transparent) (System.start engine)
      [⟨0, .publish [1, 65] 0⟩, ⟨0, .proceed⟩, ⟨0, .proceed⟩, ⟨0, .proceed⟩, ⟨0, .proceed⟩,
        ⟨0, .send true⟩, ⟨1, .syncReq 0⟩, ⟨1, .proceed⟩, ⟨1, .proceed⟩]).any
      (fun sys => sys.shared.seals.map Seal.origin = [.publish, .replay] ∧
        sys.shared.drawn = 1) = true := by
    cases hlaunch
    decide +kernel
  obtain ⟨sys, hreaches, hproperty⟩ := exists_reaches_of_run _ _ _ _ hschedule
  obtain ⟨hseals, hdrawn⟩ := of_decide_eq_true hproperty
  exact ⟨engine, sys, hlaunch, hreaches, hseals,
    (nonce_safety hlaunch hreaches (by rw [hdrawn]; decide)).2.2⟩

end ZeroFeed.NonceSafety
