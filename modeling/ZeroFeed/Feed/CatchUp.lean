import ZeroFeed.Feed.NonceSafety
import ZeroFeed.Feed.Sequential

/-!
# Catching up after a reconnect

A subscriber rejoins while the publisher goes on publishing, and asks for what
it missed.  The replay and the live frames are written by different goroutines
and meet on the wire in any order.  Every message above the subscriber's mark
reaches the wire; it is delivered exactly when no larger number reached the
wire first.
-/

namespace ZeroFeed.CatchUp

open ZeroFeed.ByteString
open ZeroFeed.Messages
open ZeroFeed.Primitives
open ZeroFeed.Cipher
open ZeroFeed.Ring
open ZeroFeed.Frame
open ZeroFeed.Publisher
open ZeroFeed.Threads
open ZeroFeed.Transition
open ZeroFeed.Goroutines
open ZeroFeed.NonceSafety
open ZeroFeed.Transfer
open ZeroFeed.Subscriber
open ZeroFeed.Receiver
open ZeroFeed.HighWater

/-! ## Runs without rekey and without loss -/

/-- The input starts no rekey, does not close the engine, and every write of a
stream frame succeeds. -/
def calm {suite : Suite} (shared : Shared) : Input suite → Bool
  | .publish payload now => !(shared.engine.countBytes payload now).1
  | .triggerRekey | .close _ => false
  | .send written => written
  | _ => true

abbrev CalmReaches (suite : Suite) : System → System → Prop :=
  GuardedReaches (System.step suite) fun sys label => calm sys.shared label.input = true

/-- A live publisher on which no rekey is under way and no data frame sealed
under an older key is waiting to be sent. -/
structure Settled (key : Key) (sys : System) : Prop where
  cipher : sys.shared.engine.cipher = some key
  connected : sys.shared.engine.connected = true
  noRekey : ∀ thread, inRekey (sys.threads thread) = false
  carried : ∀ thread frame, carries (sys.threads thread) = some frame → frame.key = key

/-- The messages a goroutine is still going to send. -/
def pending (goroutine : Goroutine) : List SeqMsg :=
  messages ((carries goroutine).toList.map Sent.sealed) ++ holds goroutine

/-- What a section does to messages on their way to the wire. -/
structure Passes (suite : Suite) (key : Key) (shared : Shared) (goroutine : Goroutine)
    (shared' : Shared) (goroutine' : Goroutine) : Prop where
  cipher : shared'.engine.cipher = shared.engine.cipher
  connected : shared'.engine.connected = shared.engine.connected
  noRekey : inRekey goroutine' = false
  carried : ∀ frame, carries goroutine' = some frame → frame.key = key
  published : shared'.published = shared.published ∨
    ∃ msg ∈ pending goroutine', shared'.published = shared.published ++ [msg]
  wire : ∃ added, shared'.wire = shared.wire ++ added ∧ Aligned suite key added key ∧
    (∀ msg ∈ messages added, msg ∈ pending goroutine) ∧
      ∀ msg ∈ pending goroutine, msg ∈ pending goroutine' ∨ msg ∈ messages added

section Sections

variable {suite : Suite} {key : Key} {shared shared' : Shared}
variable {goroutine goroutine' : Goroutine}

/-- A section that writes nothing and numbers nothing. -/
theorem passes_silent (hcipher : shared'.engine.cipher = shared.engine.cipher)
    (hconnected : shared'.engine.connected = shared.engine.connected)
    (hpublished : shared'.published = shared.published) (hwire : shared'.wire = shared.wire)
    (hrekey : inRekey goroutine' = false)
    (hcarried : ∀ frame, carries goroutine' = some frame → frame.key = key)
    (hpending : ∀ msg ∈ pending goroutine, msg ∈ pending goroutine') :
    Passes suite key shared goroutine shared' goroutine' :=
  ⟨hcipher, hconnected, hrekey, hcarried, .inl hpublished, [],
    by rw [hwire, List.append_nil], .nil key, fun _ hmsg => (List.not_mem_nil hmsg).elim,
    fun msg hmsg => Or.inl (hpending msg hmsg)⟩

/-- A frame without a message, written or not. -/
theorem passes_control {sent : Sent} (written : Bool)
    (haligned : Aligned suite key [sent] key) (hsent : messageOf sent = none)
    (hcarries : carries goroutine = none) (hholds : holds goroutine = []) :
    Passes suite key shared goroutine (shared.sendFrame suite sent written).2 .idle := by
  have hpending : pending goroutine = [] := by rw [pending, hcarries, hholds]; rfl
  have hmessages : messages [sent] = [] := messages_cons_of_none hsent []
  rw [Shared.sendFrame]
  split
  · refine ⟨rfl, rfl, rfl, by rintro _ ⟨⟩, .inl rfl, [sent], rfl, haligned, ?_, ?_⟩
    · rw [hmessages]
      exact fun _ hmsg => (List.not_mem_nil hmsg).elim
    · rw [hpending]
      exact fun _ hmsg => (List.not_mem_nil hmsg).elim
  · refine passes_silent rfl rfl rfl rfl rfl (by rintro _ ⟨⟩) ?_
    rw [hpending]
    exact fun _ hmsg => (List.not_mem_nil hmsg).elim

theorem pending_of_carries {msg : SeqMsg} (hmsg : Sendable msg)
    (hcarries : carries goroutine = some (dataFrame key msg)) :
    pending goroutine = msg :: holds goroutine := by
  rw [pending, hcarries]
  exact congrArg (· ++ holds goroutine) (messages_cons_dataFrame hmsg key [])

/-- A data frame that is written and leaves the others for later. -/
theorem passes_data (htag : suite.aead.AppendsTag tagSize) {msg : SeqMsg}
    (hmsg : Sendable msg) (hconnected : shared.engine.connected = true)
    (hcarries : carries goroutine = some (dataFrame key msg))
    (hrekey : inRekey goroutine' = false) (hdone : carries goroutine' = none)
    (hholds : holds goroutine' = holds goroutine) :
    Passes suite key shared goroutine
      (shared.sendFrame suite (.sealed (dataFrame key msg)) true).2 goroutine' := by
  have hsend : shared.engine.canSend suite (.sealed (dataFrame key msg)) = true :=
    Sequential.canSend_dataFrame htag hconnected hmsg
  have hmessages : messages [.sealed (dataFrame key msg)] = [msg] :=
    messages_cons_dataFrame hmsg key []
  have hpending := pending_of_carries hmsg hcarries
  rw [Shared.sendFrame, hsend]
  refine ⟨rfl, rfl, hrekey, by rw [hdone]; rintro _ ⟨⟩, .inl rfl, _, rfl,
    .data hmsg (.nil key), ?_, ?_⟩
  · rw [hmessages, hpending]
    exact fun _ hother => List.mem_cons.mpr (.inl (List.mem_singleton.mp hother))
  · intro other hother
    rw [hpending, List.mem_cons] at hother
    rw [hmessages, List.mem_singleton, pending, hdone, hholds]
    exact hother.symm

/-- Sealing a held message keeps it on its way. -/
theorem mem_pending_of_carries {msg : SeqMsg} (hmsg : Sendable msg)
    (hcarries : carries goroutine' = some (dataFrame key msg))
    (hholds : ∀ other ∈ holds goroutine, other = msg ∨ other ∈ holds goroutine')
    (hnone : carries goroutine = none) :
    ∀ other ∈ pending goroutine, other ∈ pending goroutine' := by
  intro other hother
  rw [pending, hnone] at hother
  rw [pending_of_carries hmsg hcarries, List.mem_cons]
  exact hholds other hother

section Calm

variable {input : Input suite} (hcipher : shared.engine.cipher = some key)
variable (hcalm : calm shared input = true)
include hcalm

theorem passes_start
    (hstart : start suite shared input = some (shared', goroutine')) :
    Passes suite key shared .idle shared' goroutine' := by
  have hnothing : ∀ msg ∈ pending .idle, msg ∈ pending goroutine' :=
    fun _ hmsg => (List.not_mem_nil hmsg).elim
  cases input with
  | publish payload now =>
      have hstays : (shared.engine.countBytes payload now).1 = false := by simpa [calm] using hcalm
      simp only [start, hstays] at hstart
      cases hstart
      exact passes_silent rfl rfl rfl rfl rfl (by rintro _ ⟨⟩) hnothing
  | triggerRekey => cases hcalm
  | close written => cases hcalm
  | syncReq lastSeqNum =>
      cases hstart
      exact passes_silent rfl rfl rfl rfl rfl (by rintro _ ⟨⟩) hnothing
  | initSub payload peer update =>
      obtain ⟨rfl, rfl | ⟨answer, rfl⟩⟩ := cases_of_start_initSub hstart
      · exact passes_silent rfl rfl rfl rfl rfl (by rintro _ ⟨⟩) hnothing
      · exact passes_silent rfl rfl rfl rfl rfl (by rintro _ ⟨⟩) hnothing
  | heartbeat written =>
      cases hstart
      exact passes_control written (.heartbeat (.nil key)) rfl rfl rfl
  | proceed => cases hstart
  | generateNonce salt => cases hstart
  | clock now => cases hstart
  | wrapNonce nonce => cases hstart
  | send written => cases hstart

include hcipher

theorem passes_publish (htag : suite.aead.AppendsTag tagSize)
    (hconnected : shared.engine.connected = true)
    (hcarried : ∀ frame, carries goroutine = some frame →
      ∃ msg, Sendable msg ∧ frame = dataFrame key msg)
    (hheld : ∀ msg ∈ holds goroutine, Sendable msg)
    (hadvance : advancePublish suite shared goroutine input = some (shared', goroutine')) :
    Passes suite key shared goroutine shared' goroutine' := by
  simp only [advancePublish] at hadvance
  split at hadvance
  · rw [hcipher] at hadvance
    cases hadvance
    exact passes_silent rfl rfl rfl rfl rfl (by rintro _ ⟨⟩) fun _ hmsg => hmsg
  · cases hadvance
    exact ⟨rfl, rfl, rfl, by rintro _ ⟨⟩, .inr ⟨_, List.mem_singleton.mpr rfl, rfl⟩, [],
      (List.append_nil _).symm, .nil key, fun _ hmsg => (List.not_mem_nil hmsg).elim,
      fun _ hmsg => (List.not_mem_nil hmsg).elim⟩
  · cases hadvance
    exact passes_silent rfl rfl rfl rfl rfl (by rintro _ ⟨⟩) fun _ hmsg => hmsg
  · rename_i msg
    rw [hcipher] at hadvance
    cases hadvance
    refine passes_silent rfl rfl rfl rfl rfl (by rintro _ ⟨⟩; rfl)
      (mem_pending_of_carries (hheld msg (List.mem_singleton.mpr rfl)) rfl ?_ rfl)
    exact fun other hother => Or.inl (List.mem_singleton.mp hother)
  · rename_i frame written
    cases hadvance
    obtain ⟨msg, hmsg, rfl⟩ := hcarried frame rfl
    obtain rfl : written = true := hcalm
    exact passes_data htag hmsg hconnected rfl rfl rfl rfl
  · cases hadvance

theorem passes_sync (htag : suite.aead.AppendsTag tagSize)
    (hconnected : shared.engine.connected = true)
    (hcarried : ∀ frame, carries goroutine = some frame →
      ∃ msg, Sendable msg ∧ frame = dataFrame key msg)
    (hheld : ∀ msg ∈ holds goroutine, Sendable msg)
    (hadvance : advanceSync suite shared goroutine input = some (shared', goroutine')) :
    Passes suite key shared goroutine shared' goroutine' := by
  unfold advanceSync at hadvance
  split at hadvance
  · rw [hcipher, hconnected] at hadvance
    cases hadvance
    exact passes_silent rfl rfl rfl rfl rfl (by rintro _ ⟨⟩) fun _ hmsg => hmsg
  · cases hadvance
    exact passes_silent rfl rfl rfl rfl rfl (by rintro _ ⟨⟩) fun _ hmsg => hmsg
  · rename_i item rest
    rw [hcipher] at hadvance
    cases hadvance
    refine passes_silent rfl rfl rfl rfl rfl (by rintro _ ⟨⟩; rfl)
      (mem_pending_of_carries (hheld item List.mem_cons_self) rfl ?_ rfl)
    exact fun other hother => List.mem_cons.mp hother
  · rename_i frame rest written
    cases hadvance
    obtain ⟨msg, hmsg, rfl⟩ := hcarried frame rfl
    obtain rfl : written = true := hcalm
    exact passes_data htag hmsg hconnected rfl rfl rfl rfl
  · simp only at hadvance
    split at hadvance <;> cases hadvance <;>
      exact passes_silent rfl rfl rfl rfl rfl (by rintro _ ⟨⟩) fun _ hmsg => hmsg
  · rename_i response written
    cases hadvance
    exact passes_control written (.step2 response (.nil key)) rfl rfl rfl
  · cases hadvance

/-- A calm section moves messages towards the wire and loses none. -/
theorem passes_of_calm (htag : suite.aead.AppendsTag tagSize)
    (hconnected : shared.engine.connected = true) (hrekey : inRekey goroutine = false)
    (hcarried : ∀ frame, carries goroutine = some frame →
      ∃ msg, Sendable msg ∧ frame = dataFrame key msg)
    (hheld : ∀ msg ∈ holds goroutine, Sendable msg)
    (hadvance : advance suite shared goroutine input = some (shared', goroutine')) :
    Passes suite key shared goroutine shared' goroutine' := by
  cases goroutine with
  | idle => exact passes_start hcalm hadvance
  | rekeyLock | rekeySnapshot | rekeyDraw | rekeySeal | rekeySend | rekeyInstall =>
      cases hrekey
  | publishCheck | publishDraw | publishPush | publishSeal | publishSend =>
      exact passes_publish hcipher hcalm htag hconnected hcarried hheld hadvance
  | replayCheck | replaySeal | replaySend | step2Read | step2Send =>
      exact passes_sync hcipher hcalm htag hconnected hcarried hheld hadvance
  | crashed => cases hadvance

end Calm

end Sections

/-! ## Steps and runs -/

/-- Fewer than `2 ^ 64` numbers are drawn, and every published payload fits
into a frame. -/
structure Limits (sys : System) : Prop where
  drawn : sys.shared.drawn < 2 ^ 64
  size : ∀ msg ∈ sys.shared.published, msg.payload.length ≤ maxMessageSize

theorem Limits.sendable {sys : System} (hlimits : Limits sys) (hnumbered : Numbered sys)
    {msg : SeqMsg} (hmsg : msg ∈ sys.shared.published) : Sendable msg :=
  ⟨hlimits.size msg hmsg,
    (hnumbered.ledger.published_le msg hmsg).2.trans_lt hlimits.drawn⟩

theorem Limits.before {suite : Suite} {sys sys' : System} {label : Label (Input suite)}
    (hstep : System.step suite sys label = some sys')
    (hlimits : Limits sys') : Limits sys where
  drawn := (drawn_le_of_step hstep).trans_lt hlimits.drawn
  size msg hmsg := hlimits.size msg (mem_published_of_step hstep hmsg)

theorem Limits.before_reaches {suite : Suite} {sys sys' : System}
    (hreaches : Reaches (System.step suite) sys sys') (hlimits : Limits sys') : Limits sys := by
  induction hreaches with
  | refl => exact hlimits
  | tail _ hlast ih =>
      obtain ⟨label, hstep⟩ := hlast
      exact ih (hlimits.before hstep)

/-- The wire since the subscriber rejoined, when `base` frames had been
written. -/
structure Rejoined (suite : Suite) (key : Key) (base : ℕ) (sys : System) : Prop where
  settled : Settled key sys
  base_le : base ≤ sys.shared.wire.length
  aligned : Aligned suite key (sys.shared.wire.drop base) key
  published : ∀ msg ∈ messages (sys.shared.wire.drop base), msg ∈ sys.shared.published

/-- The message is on the wire, or some goroutine is going to send it. -/
def Due (base : ℕ) (sys : System) (msg : SeqMsg) : Prop :=
  msg ∈ messages (sys.shared.wire.drop base) ∨ ∃ thread, msg ∈ pending (sys.threads thread)

section Steps

variable {suite : Suite} (htag : suite.aead.AppendsTag tagSize) {key : Key} {base mark : ℕ}
variable {sys sys' : System} {label : Label (Input suite)}

theorem rejoined_refl (hsettled : Settled key sys) :
    Rejoined suite key sys.shared.wire.length sys where
  settled := hsettled
  base_le := le_refl _
  aligned := by
    rw [List.drop_length]
    exact .nil key
  published := by
    rw [List.drop_length]
    exact fun _ hmsg => (List.not_mem_nil hmsg).elim

section Moved

variable {thread : ℕ} {goroutine' : Goroutine} (hmoves : Moves sys sys' thread goroutine')
variable (hpasses : Passes suite key sys.shared (sys.threads thread) sys'.shared goroutine')
include hmoves hpasses

theorem settled_of_passes (hsettled : Settled key sys) : Settled key sys' where
  cipher := by rw [hpasses.cipher, hsettled.cipher]
  connected := by rw [hpasses.connected, hsettled.connected]
  noRekey := hmoves.forall (inRekey · = false) hpasses.noRekey fun other _ =>
    hsettled.noRekey other
  carried := hmoves.forall (∀ frame, carries · = some frame → frame.key = key)
    hpasses.carried fun other _ => hsettled.carried other

/-- A message on its way stays so, or reaches the wire. -/
theorem due_of_passes (hbase : base ≤ sys.shared.wire.length) {msg : SeqMsg}
    (hdue : Due base sys msg) : Due base sys' msg := by
  obtain ⟨added, hwire, -, -, hmoved⟩ := hpasses.wire
  have hsuffix : messages (sys'.shared.wire.drop base) =
      messages (sys.shared.wire.drop base) ++ messages added := by
    rw [hwire, List.drop_append_of_le_length hbase, messages_append]
  rw [Due, hsuffix, List.mem_append]
  rcases hdue with hsent | ⟨other, hpending⟩
  · exact Or.inl (Or.inl hsent)
  · by_cases hne : other = thread
    · rcases hmoved msg (hne ▸ hpending) with hstill | hsent
      · exact Or.inr ⟨thread, hmoves.self.symm ▸ hstill⟩
      · exact Or.inl (Or.inr hsent)
    · exact Or.inr ⟨other, (hmoves.other hne).symm ▸ hpending⟩

end Moved

include htag

theorem passes_step (hnumbered : Numbered sys) (hlimits : Limits sys)
    (hsettled : Settled key sys) (hcalm : calm sys.shared label.input = true)
    (hstep : System.step suite sys label = some sys') :
    ∃ thread goroutine', Moves sys sys' thread goroutine' ∧
      (∀ msg ∈ pending (sys.threads thread), msg ∈ sys.shared.published) ∧
      Passes suite key sys.shared (sys.threads thread) sys'.shared goroutine' := by
  obtain ⟨goroutine', hadvance, hmoves⟩ := advance_of_step hstep
  generalize label.thread = thread at hadvance hmoves
  have howns := hnumbered.owns thread
  have hcarried : ∀ frame, carries (sys.threads thread) = some frame →
      ∃ msg ∈ sys.shared.published, frame = dataFrame key msg := by
    intro frame hframe
    obtain ⟨frameKey, msg, hmsg, rfl⟩ := howns.carried frame hframe
    have hkey : frameKey = key := hsettled.carried thread _ hframe
    exact ⟨msg, hmsg, by rw [hkey]⟩
  refine ⟨thread, goroutine', hmoves, ?_, passes_of_calm hsettled.cipher hcalm htag
    hsettled.connected (hsettled.noRekey thread) ?_ ?_ hadvance⟩
  · intro msg hmsg
    cases hframe : carries (sys.threads thread) with
    | none =>
        rw [pending, hframe] at hmsg
        exact howns.held msg hmsg
    | some frame =>
        obtain ⟨source, hsource, rfl⟩ := hcarried frame hframe
        rw [pending_of_carries (hlimits.sendable hnumbered hsource) hframe,
          List.mem_cons] at hmsg
        rcases hmsg with rfl | hheld
        · exact hsource
        · exact howns.held msg hheld
  · intro frame hframe
    obtain ⟨msg, hmsg, rfl⟩ := hcarried frame hframe
    exact ⟨msg, hlimits.sendable hnumbered hmsg, rfl⟩
  · exact fun msg hmsg => hlimits.sendable hnumbered (howns.held msg hmsg)

/-- One step keeps the wire aligned and loses no message on its way. -/
theorem rejoined_step (hnumbered : Numbered sys) (hlimits : Limits sys)
    (hrejoined : Rejoined suite key base sys) (hcalm : calm sys.shared label.input = true)
    (hstep : System.step suite sys label = some sys') :
    Rejoined suite key base sys' ∧
      ((∀ msg ∈ sys.shared.published, mark < msg.seqNum → Due base sys msg) →
        ∀ msg ∈ sys'.shared.published, mark < msg.seqNum → Due base sys' msg) := by
  obtain ⟨thread, goroutine', hmoves, hheld, hpasses⟩ :=
    passes_step htag hnumbered hlimits hrejoined.settled hcalm hstep
  obtain ⟨added, hwire, haligned, hadded, -⟩ := hpasses.wire
  have hsuffix : sys'.shared.wire.drop base = sys.shared.wire.drop base ++ added := by
    rw [hwire, List.drop_append_of_le_length hrejoined.base_le]
  have hkept : ∀ msg ∈ sys.shared.published, msg ∈ sys'.shared.published :=
    fun msg hmsg => mem_published_of_step hstep hmsg
  refine ⟨⟨settled_of_passes hmoves hpasses hrejoined.settled, ?_, ?_, ?_⟩, ?_⟩
  · rw [hwire, List.length_append]
    exact Nat.le_add_right_of_le hrejoined.base_le
  · rw [hsuffix]
    exact hrejoined.aligned.append haligned
  · intro msg hmsg
    rw [hsuffix, messages_append, List.mem_append] at hmsg
    rcases hmsg with hmsg | hmsg
    · exact hkept msg (hrejoined.published msg hmsg)
    · exact hkept msg (hheld msg (hadded msg hmsg))
  · intro hdue msg hmsg hmark
    have hold := @due_of_passes suite key base sys sys' thread goroutine' hmoves hpasses
      hrejoined.base_le msg
    rcases hpasses.published with hsame | ⟨fresh, hfresh, hnew⟩
    · exact hold (hdue msg (hsame ▸ hmsg) hmark)
    · rw [hnew, List.mem_append, List.mem_singleton] at hmsg
      rcases hmsg with hmsg | rfl
      · exact hold (hdue msg hmsg hmark)
      · exact Or.inr ⟨thread, hmoves.self.symm ▸ hfresh⟩

theorem rejoined_of_calmReaches (hnumbered : Numbered sys)
    (hrejoined : Rejoined suite key base sys) (hreaches : CalmReaches suite sys sys')
    (hlimits : Limits sys') :
    Numbered sys' ∧ Rejoined suite key base sys' ∧
      ((∀ msg ∈ sys.shared.published, mark < msg.seqNum → Due base sys msg) →
        ∀ msg ∈ sys'.shared.published, mark < msg.seqNum → Due base sys' msg) := by
  induction hreaches with
  | refl => exact ⟨hnumbered, hrejoined, fun hdue => hdue⟩
  | tail _ hlast ih =>
      obtain ⟨label, hcalm, hstep⟩ := hlast
      have hbefore := hlimits.before hstep
      obtain ⟨hnumbered, hrejoined, hdue⟩ := ih hbefore
      have hnext := @rejoined_step suite htag key base mark _ _ label hnumbered hbefore hrejoined
        hcalm hstep
      exact ⟨numbered_step hstep hnumbered hlimits.drawn, hnext.1,
        fun hstart => hnext.2 (hdue hstart)⟩

end Steps

/-- `handleSyncRequests` takes up a request when it is not busy. -/
theorem syncReq_step {suite : Suite} {sys sys' : System} {thread lastSeqNum : ℕ}
    (hstep : System.step suite sys ⟨thread, .syncReq lastSeqNum⟩ = some sys') :
    sys.threads thread = .idle ∧ sys'.shared = sys.shared ∧ Moves sys sys' thread
      (.replayCheck (sys.shared.engine.replayBuffer.getAfter lastSeqNum)) := by
  obtain ⟨goroutine', hadvance, hmoves⟩ := advance_of_step hstep
  cases hthread : sys.threads thread with
  | idle =>
      rw [hthread] at hadvance
      obtain ⟨hshared, rfl⟩ := Prod.mk.inj (Option.some.inj hadvance)
      exact ⟨rfl, hshared.symm, hmoves⟩
  | replaySeal items =>
      rw [hthread] at hadvance
      cases items <;> cases hadvance
  | _ =>
      rw [hthread] at hadvance
      cases hadvance

/-- When a request is taken up, every message above its mark that is buffered,
or about to be, is on its way. -/
theorem due_of_syncReq {suite : Suite} {sys sys' : System} {thread mark : ℕ} (base : ℕ)
    (hstep : System.step suite sys ⟨thread, .syncReq mark⟩ = some sys') {msg : SeqMsg}
    (hmark : mark < msg.seqNum)
    (hbuffered : msg ∈ sys.shared.engine.replayBuffer.contents ∨
      ∃ other, sys.threads other = .publishPush msg) : Due base sys' msg := by
  obtain ⟨hthread, -, hmoves⟩ := syncReq_step hstep
  right
  rcases hbuffered with hmem | ⟨other, hpush⟩
  · refine ⟨thread, ?_⟩
    rw [hmoves.self]
    change msg ∈ sys.shared.engine.replayBuffer.getAfter mark
    rw [RingBuffer.getAfter_eq_filter, List.mem_filter]
    exact ⟨hmem, decide_eq_true hmark⟩
  · have hne : other ≠ thread := by
      rintro rfl
      rw [hthread] at hpush
      cases hpush
    refine ⟨other, ?_⟩
    rw [hmoves.other hne, hpush]
    exact List.mem_singleton.mpr rfl

/-! ## Delivery -/

/-- The subscriber rejoins in state `joined`, its request is answered in state
`served`, and the publisher's goroutines run until all are idle.  What the
subscriber newly delivers is every message above its mark, once and in order,
exactly when on the wire since `joined` no such message first appears behind a
larger one. -/
theorem catch_up_iff {suite : Suite} (htag : suite.aead.AppendsTag tagSize)
    (hopen : suite.aead.OpensSealed) {passphrase : Bytes} {masterKey : Key} {now : ℤ}
    {byteLimit : ℕ} {timeLimit : ℤ} {engine : PublisherEngine}
    (hlaunch : launch suite passphrase masterKey now byteLimit timeLimit = .ok engine)
    {joined served answered final : System}
    (hjoined : Reaches (System.step suite) (System.start engine) joined) {key : Key}
    (hsettled : Settled key joined) (hserved : CalmReaches suite joined served)
    {host : Host} (current : Stream host) {thread : ℕ}
    (hanswered : System.step suite served ⟨thread, .syncReq current.engine.lastSeqNum⟩ =
      some answered)
    (hbuffered : ∀ msg ∈ served.shared.published, current.engine.lastSeqNum < msg.seqNum →
      msg ∈ served.shared.engine.replayBuffer.contents ∨
        ∃ other, served.threads other = .publishPush msg)
    (hfinal : CalmReaches suite answered final) (hlimits : Limits final)
    (hidle : ∀ other, final.threads other = .idle) :
    (subscribeStream suite current (.reconnected key :: overRelay suite engine.sessionID
        (final.shared.wire.drop joined.shared.wire.length))).1.delivered.drop
          current.delivered.length =
        final.shared.published.filter (fun msg => current.engine.lastSeqNum < msg.seqNum) ↔
      NoOvertaking SeqMsg.seqNum current.engine.lastSeqNum
        (messages (final.shared.wire.drop joined.shared.wire.length)) := by
  have hcalm : CalmReaches suite joined answered := hserved.tail ⟨_, rfl, hanswered⟩
  have hanswerLimits := hlimits.before_reaches hfinal.reaches
  have hjoinedLimits := hanswerLimits.before_reaches hcalm.reaches
  have hnumbered :=
    numbered_of_reaches (launched_of_launch hlaunch) hjoined hjoinedLimits.drawn
  obtain ⟨hanswerNumbered, hanswerRejoined, -⟩ := @rejoined_of_calmReaches suite htag key _ 0
    _ _ hnumbered (rejoined_refl hsettled) hcalm hanswerLimits
  obtain ⟨hfinalNumbered, hrejoined, hdue⟩ := @rejoined_of_calmReaches suite htag key _
    current.engine.lastSeqNum _ _ hanswerNumbered hanswerRejoined hfinal hlimits
  have hallSent : ∀ msg ∈ final.shared.published, current.engine.lastSeqNum < msg.seqNum →
      msg ∈ messages (final.shared.wire.drop joined.shared.wire.length) := by
    intro msg hmsg hmark
    have hstart : ∀ msg ∈ answered.shared.published,
        current.engine.lastSeqNum < msg.seqNum → Due joined.shared.wire.length answered msg := by
      rw [(syncReq_step hanswered).2.1]
      exact fun msg hmsg hmark => due_of_syncReq _ hanswered hmark (hbuffered msg hmsg hmark)
    rcases hdue hstart msg hmsg hmark with hsent | ⟨other, hpending⟩
    · exact hsent
    · rw [hidle other] at hpending
      exact (List.not_mem_nil hpending).elim
  let rejoinedStream : Stream host :=
    { current with engine := current.engine.installSession suite key }
  have hcipher : rejoinedStream.engine.cipher = some key := rfl
  obtain ⟨stream, hstream, hfollowed⟩ :=
    subscribeStream_aligned htag hopen engine.sessionID hrejoined.aligned hcipher rfl
  have hloop : subscribeStream suite current (.reconnected key :: overRelay suite
      engine.sessionID (final.shared.wire.drop joined.shared.wire.length)) = (stream, none) :=
    hstream
  have hdelivered : stream.delivered = current.delivered ++ keepAbove SeqMsg.seqNum
      current.engine.lastSeqNum
        (messages (final.shared.wire.drop joined.shared.wire.length)) := hfollowed.delivered
  rw [hloop, hdelivered, List.drop_left]
  exact keepAbove_eq_filter_iff SeqMsg.seqNum hfinalNumbered.ledger.increasing
    hrejoined.published hallSent

/-! ### One missed message and one live message -/

/-- Two messages: the subscriber reads the first and loses its connection. -/
def awaySchedule : List (Label (Input transparent)) :=
  [⟨0, .publish [tagText, 65] 0⟩, ⟨0, .proceed⟩, ⟨0, .proceed⟩, ⟨0, .proceed⟩, ⟨0, .proceed⟩,
    ⟨0, .send true⟩, ⟨0, .publish [tagText, 66] 0⟩, ⟨0, .proceed⟩, ⟨0, .proceed⟩,
    ⟨0, .proceed⟩, ⟨0, .proceed⟩, ⟨0, .send true⟩]

/-- The stream goroutine publishes a third message. -/
def liveSchedule : List (Label (Input transparent)) :=
  [⟨0, .publish [tagText, 67] 0⟩, ⟨0, .proceed⟩, ⟨0, .proceed⟩, ⟨0, .proceed⟩, ⟨0, .proceed⟩,
    ⟨0, .send true⟩]

/-- The sync goroutine replays the second message. -/
def replaySchedule : List (Label (Input transparent)) :=
  [⟨1, .proceed⟩, ⟨1, .proceed⟩, ⟨1, .send true⟩, ⟨1, .proceed⟩]

/-- The subscriber when its connection is lost. -/
def interrupted (engine : PublisherEngine) (joined : System) : Stream countingHost :=
  let subscriber : SubscriberEngine :=
    { passphrase := [1]
      sessionID := engine.sessionID
      cipher := none
      ringBuffer := newRingBuffer 100
      lastSeqNum := 0
      sas := engine.sas }
  (subscribeStream transparent
    (Stream.start (subscriber.installSession transparent (copyFixed keySize [])) noneClosed)
    (overRelay transparent engine.sessionID (joined.shared.wire.take 1))).1

/-- What it delivers after it has rejoined. -/
def regained (engine : PublisherEngine) (joined final : System) : List SeqMsg :=
  (subscribeStream transparent (interrupted engine joined)
    (.reconnected (copyFixed keySize []) :: overRelay transparent engine.sessionID
      (final.shared.wire.drop joined.shared.wire.length))).1.delivered.drop
        (interrupted engine joined).delivered.length

/-- The publisher launches, runs without the subscriber, takes up its request
and follows a schedule. -/
def catchUpRun (schedule : List (Label (Input transparent)))
    (property : PublisherEngine → System → System → Bool) : Bool :=
  (launch transparent [1] (copyFixed keySize []) 0 0 0).toOption.any fun engine =>
    ((System.start engine).runBelow (fun sys label => calm sys.shared label.input) 2
      awaySchedule).any fun joined =>
        (System.step transparent joined ⟨1, .syncReq 1⟩).any fun answered =>
          (answered.runBelow (fun sys label => calm sys.shared label.input) 2 schedule).any
            fun final => property engine joined final

/-- The conditions on such a run, for the two goroutines in use. -/
def wellConducted (engine : PublisherEngine) (joined final : System) : Bool :=
  joined.shared.engine.cipher = some (copyFixed keySize []) ∧
    joined.shared.engine.connected = true ∧
    (interrupted engine joined).engine.lastSeqNum = 1 ∧
    (∀ msg ∈ joined.shared.published,
      1 < msg.seqNum → msg ∈ joined.shared.engine.replayBuffer.contents) ∧
    (∀ thread < 2, joined.threads thread = .idle ∧ final.threads thread = .idle) ∧
    final.shared.drawn < 2 ^ 64 ∧
    ∀ msg ∈ final.shared.published, msg.payload.length ≤ maxMessageSize

theorem exists_of_catchUpRun {schedule : List (Label (Input transparent))}
    {property : PublisherEngine → System → System → Bool}
    (hrun : catchUpRun schedule (fun engine joined final =>
      wellConducted engine joined final && property engine joined final) = true) :
    ∃ engine joined answered final,
      launch transparent [1] (copyFixed keySize []) 0 0 0 = .ok engine ∧
      Reaches (System.step transparent) (System.start engine) joined ∧
      Settled (copyFixed keySize []) joined ∧
      System.step transparent joined
        ⟨1, .syncReq (interrupted engine joined).engine.lastSeqNum⟩ = some answered ∧
      (∀ msg ∈ joined.shared.published,
        (interrupted engine joined).engine.lastSeqNum < msg.seqNum →
          msg ∈ joined.shared.engine.replayBuffer.contents) ∧
      CalmReaches transparent answered final ∧ Limits final ∧
      (∀ other, final.threads other = .idle) ∧ property engine joined final = true := by
  have hcalm : ∀ (sys : System) (label : Label (Input transparent)),
      IdleFrom .idle 2 sys.threads → calm sys.shared label.input = true →
        calm sys.shared label.input = true :=
    fun _ _ _ hcheck => hcheck
  obtain ⟨engine, hlaunch, hrun⟩ := (Option.any_eq_true _ _).mp hrun
  obtain ⟨joined, hjoined, hrun⟩ := (Option.any_eq_true _ _).mp hrun
  obtain ⟨answered, hanswered, hrun⟩ := (Option.any_eq_true _ _).mp hrun
  obtain ⟨final, hfinal, hrun⟩ := (Option.any_eq_true _ _).mp hrun
  obtain ⟨hconducted, hproperty⟩ := Bool.and_eq_true_iff.mp hrun
  obtain ⟨hcipher, hconnected, hmark, hbuffered, hthreads, hdrawn, hsize⟩ :=
    of_decide_eq_true hconducted
  obtain ⟨hreaches, hidle⟩ :=
    guardedReaches_of_runBelow (idleFrom_start 2 engine) hcalm hjoined
  obtain ⟨goroutine, -, hmoves⟩ := advance_of_step hanswered
  have hansweredIdle : IdleFrom .idle 2 answered.threads := by
    rw [hmoves]
    exact hidle.update (by decide) goroutine
  obtain ⟨hfinalReaches, hfinalIdle⟩ := guardedReaches_of_runBelow hansweredIdle hcalm hfinal
  have hjoinedIdle : ∀ other, joined.threads other = .idle :=
    hidle.forall (fun _ goroutine => goroutine = .idle) (fun _ => rfl)
      fun thread hthread => (hthreads thread hthread).1
  rw [← hmark] at hbuffered
  refine ⟨engine, joined, answered, final, ?_, hreaches.reaches,
    ⟨hcipher, hconnected, ?_, ?_⟩, hmark.symm ▸ hanswered, hbuffered, hfinalReaches,
    ⟨hdrawn, hsize⟩,
    hfinalIdle.forall (fun _ goroutine => goroutine = .idle) (fun _ => rfl)
      fun thread hthread => (hthreads thread hthread).2, hproperty⟩
  · cases hresult : launch transparent [1] (copyFixed keySize []) 0 0 0 with
    | error err =>
        rw [hresult] at hlaunch
        cases hlaunch
    | ok launched =>
        rw [hresult] at hlaunch
        cases hlaunch
        rfl
  · intro thread
    rw [hjoinedIdle thread]
    rfl
  · intro thread frame
    rw [hjoinedIdle thread]
    rintro ⟨⟩

/-- The replay is written before the live message: both are delivered. -/
theorem catch_up_in_order :
    ∃ (engine : PublisherEngine) (joined final : System),
      launch transparent [1] (copyFixed keySize []) 0 0 0 = .ok engine ∧
      Reaches (System.step transparent) (System.start engine) joined ∧
      final.shared.published.map SeqMsg.seqNum = [1, 2, 3] ∧
      (interrupted engine joined).engine.lastSeqNum = 1 ∧
      (subscribeStream transparent (interrupted engine joined)
        (.reconnected (copyFixed keySize []) :: overRelay transparent engine.sessionID
          (final.shared.wire.drop joined.shared.wire.length))).1.delivered.drop
            (interrupted engine joined).delivered.length =
        final.shared.published.filter
          (fun msg => (interrupted engine joined).engine.lastSeqNum < msg.seqNum) := by
  have hrun : catchUpRun (replaySchedule ++ liveSchedule) (fun engine joined final =>
      wellConducted engine joined final && decide
        (final.shared.published.map SeqMsg.seqNum = [1, 2, 3] ∧
          (interrupted engine joined).engine.lastSeqNum = 1 ∧
          (messages (final.shared.wire.drop joined.shared.wire.length)).map SeqMsg.seqNum =
            [2, 3])) = true := by
    decide +kernel
  obtain ⟨engine, joined, answered, final, hlaunch, hreaches, hsettled, hanswered, hbuffered,
    hfinal, hlimits, hidle, hproperty⟩ := exists_of_catchUpRun hrun
  obtain ⟨hpublished, hmark, hwire⟩ := of_decide_eq_true hproperty
  refine ⟨engine, joined, final, hlaunch, hreaches, hpublished, hmark, ?_⟩
  refine (catch_up_iff transparent_lawful.appendsTag transparent_lawful.opensSealed hlaunch
    hreaches hsettled .refl (interrupted engine joined) hanswered
    (fun msg hmsg habove => Or.inl (hbuffered msg hmsg habove)) hfinal hlimits hidle).mpr ?_
  exact noOvertaking_of_increasing SeqMsg.seqNum _ (List.pairwise_map.mp (by
    rw [hwire]
    decide))

/-- The live message is written first: the missed one is never delivered. -/
theorem catch_up_overtaken :
    ∃ engine joined answered final,
      launch transparent [1] (copyFixed keySize []) 0 0 0 = .ok engine ∧
      transparent.aead.AppendsTag tagSize ∧ transparent.aead.OpensSealed ∧
      Reaches (System.step transparent) (System.start engine) joined ∧
      Settled (copyFixed keySize []) joined ∧
      System.step transparent joined
        ⟨1, .syncReq (interrupted engine joined).engine.lastSeqNum⟩ = some answered ∧
      (∀ msg ∈ joined.shared.published,
        (interrupted engine joined).engine.lastSeqNum < msg.seqNum →
          msg ∈ joined.shared.engine.replayBuffer.contents) ∧
      CalmReaches transparent answered final ∧ Limits final ∧
      (∀ other, final.threads other = .idle) ∧
      final.shared.published.map SeqMsg.seqNum = [1, 2, 3] ∧
      (interrupted engine joined).delivered.map SeqMsg.seqNum = [1] ∧
      (regained engine joined final).map SeqMsg.seqNum = [3] := by
  have hrun : catchUpRun (liveSchedule ++ replaySchedule) (fun engine joined final =>
      wellConducted engine joined final && decide
        (final.shared.published.map SeqMsg.seqNum = [1, 2, 3] ∧
          (interrupted engine joined).delivered.map SeqMsg.seqNum = [1] ∧
          (regained engine joined final).map SeqMsg.seqNum = [3])) = true := by
    decide +kernel
  obtain ⟨engine, joined, answered, final, hlaunch, hreaches, hsettled, hanswered, hbuffered,
    hfinal, hlimits, hidle, hproperty⟩ := exists_of_catchUpRun hrun
  obtain ⟨hpublished, hdelivered, hregained⟩ := of_decide_eq_true hproperty
  exact ⟨engine, joined, answered, final, hlaunch, transparent_lawful.appendsTag,
    transparent_lawful.opensSealed, hreaches, hsettled, hanswered, hbuffered, hfinal, hlimits,
    hidle, hpublished, hdelivered, hregained⟩

end ZeroFeed.CatchUp
