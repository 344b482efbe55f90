import ZeroFeed.Feed.NonceSafety
import ZeroFeed.Feed.Queue

/-!
# What `IsOverflow` detects

`IsOverflow(n)` compares `n` with the number before the oldest buffered message,
as if messages were numbered without gaps.  Rekey frames draw numbers from the
same counter and are never buffered.  When the calls of a publisher run one
after another, the answer is right for every `n` exactly if the number before
the oldest buffered message was not drawn by a rekey, or is the very first one.
-/

namespace ZeroFeed.Overflow

open ZeroFeed.ByteString
open ZeroFeed.Primitives
open ZeroFeed.Cipher
open ZeroFeed.Ring
open ZeroFeed.Publisher
open ZeroFeed.Threads
open ZeroFeed.Transition
open ZeroFeed.Goroutines
open ZeroFeed.NonceSafety

variable {suite : Suite}

/-- One goroutine makes all the calls, and the buffer is not wiped. -/
def InTurn (_ : System) (label : Label (Input suite)) : Prop :=
  label.thread = 0 ∧ ∀ written, label.input ≠ .close written

/-- The message a goroutine has numbered and not pushed yet. -/
def unpushed : Goroutine → List SeqMsg
  | .publishPush msg => [msg]
  | _ => []

/-- The message was published and is no longer in the buffer. -/
def Evicted (shared : Shared) (msg : SeqMsg) : Prop :=
  msg ∈ shared.published ∧ msg ∉ shared.engine.replayBuffer.contents

/-- The number before the oldest buffered one is the first or was not drawn by a
rekey. -/
def Adjoining (shared : Shared) : Prop :=
  ∀ oldest ∈ shared.engine.replayBuffer.contents.head?,
    2 < oldest.seqNum → oldest.seqNum - 1 ∉ shared.rekeys

/-! ## What a section does to the buffer -/

structure SameBuffer (shared shared' : Shared) : Prop where
  published : shared'.published = shared.published
  rekeys : shared'.rekeys = shared.rekeys
  drawn : shared'.drawn = shared.drawn
  replayBuffer : shared'.engine.replayBuffer = shared.engine.replayBuffer

theorem SameBuffer.refl (shared : Shared) : SameBuffer shared shared :=
  ⟨rfl, rfl, rfl, rfl⟩

theorem sameBuffer_sendFrame (shared : Shared) (sent : Sent) (written : Bool) :
    SameBuffer shared (shared.sendFrame suite sent written).2 := by
  rw [Shared.sendFrame]
  split <;> exact ⟨rfl, rfl, rfl, rfl⟩

inductive BufferStep (shared : Shared) (goroutine : Goroutine) :
    Shared → Goroutine → Prop where
  | quiet {shared' : Shared} {goroutine' : Goroutine} (hsame : SameBuffer shared shared')
      (hbefore : unpushed goroutine = []) (hafter : unpushed goroutine' = []) :
      BufferStep shared goroutine shared' goroutine'
  | drawMessage (payload : Bytes) (hbefore : unpushed goroutine = []) :
      BufferStep shared goroutine (shared.drawMessage payload)
        (.publishPush ⟨shared.engine.nextSeqNum, payload⟩)
  | drawRekey {goroutine' : Goroutine} (hbefore : unpushed goroutine = [])
      (hafter : unpushed goroutine' = []) :
      BufferStep shared goroutine shared.drawRekey goroutine'
  | push (msg : SeqMsg) (hgoroutine : unpushed goroutine = [msg]) :
      BufferStep shared goroutine { shared with engine := shared.engine.pushReplay msg }
        (.publishSeal msg)

theorem unpushed_resume (next : Option Bytes) : unpushed (resume next) = [] := by
  cases next <;> rfl

theorem bufferStep_of_start {shared shared' : Shared} {goroutine' : Goroutine}
    {input : Input suite} (hstart : start suite shared input = some (shared', goroutine'))
    (hinput : ∀ written, input ≠ .close written) :
    BufferStep shared .idle shared' goroutine' := by
  have hrefl := SameBuffer.refl shared
  cases input with
  | publish payload now =>
      cases hstart
      exact .quiet ⟨rfl, rfl, rfl, rfl⟩ rfl (by split <;> rfl)
  | triggerRekey | syncReq =>
      cases hstart
      exact .quiet hrefl rfl rfl
  | initSub payload peer update =>
      obtain ⟨rfl, rfl | ⟨answer, rfl⟩⟩ := cases_of_start_initSub hstart
      · exact .quiet hrefl rfl rfl
      · exact .quiet hrefl rfl rfl
  | heartbeat written =>
      cases hstart
      exact .quiet (sameBuffer_sendFrame shared _ _) rfl rfl
  | close written => exact absurd rfl (hinput written)
  | proceed | generateNonce | clock | wrapNonce | send => cases hstart

theorem bufferStep_of_section {shared shared' : Shared} {goroutine goroutine' : Goroutine}
    (hsection : Section suite shared goroutine shared' goroutine')
    (hcalled : goroutine ≠ .idle) : BufferStep shared goroutine shared' goroutine' := by
  have hrefl := SameBuffer.refl shared
  have hunlock : SameBuffer shared shared.unlockRekey := ⟨rfl, rfl, rfl, rfl⟩
  cases hsection with
  | publish | triggerRekey | syncReq | initRefused | initSub | heartbeat | close =>
      exact absurd rfl hcalled
  | rekeyAbort next hholds =>
      refine .quiet hunlock ?_ (unpushed_resume next)
      rcases hholds with ⟨_, _, _, rfl⟩ | rfl | ⟨_, rfl, -⟩ <;> rfl
  | rekeySendFailed _ _ _ next => exact .quiet hunlock rfl (unpushed_resume next)
  | rekeyDraw => exact .drawRekey rfl rfl
  | rekeyInstall nextKey next now engine hinstall =>
      obtain ⟨key, -, rfl⟩ := Option.map_eq_some_iff.mp hinstall
      exact .quiet ⟨rfl, rfl, rfl, rfl⟩ rfl (unpushed_resume next)
  | publishRefused _ hpoint =>
      rcases hpoint with ⟨_, rfl⟩ | ⟨_, rfl⟩ <;> exact .quiet hrefl rfl rfl
  | publishDraw payload => exact .drawMessage payload rfl
  | publishPush msg => exact .push msg rfl
  | publishSend | replaySend | step2Send =>
      exact .quiet (sameBuffer_sendFrame shared _ _) rfl rfl
  | replayDone hpoint =>
      rcases hpoint with ⟨_, rfl⟩ | rfl <;> exact .quiet hrefl rfl rfl
  | _ => exact .quiet ⟨rfl, rfl, rfl, rfl⟩ rfl rfl

/-! ## Steps and runs -/

/-- The buffer holds the last of the messages pushed, and every number up to the
counter went to a message or to a rekey. -/
structure Orderly (shared : Shared) (goroutine : Goroutine) : Prop where
  buffered : ∃ msgs, shared.published = msgs ++ unpushed goroutine ∧
    Queue.Holds shared.engine.replayBuffer msgs
  covered : ∀ seqNum, 0 < seqNum → seqNum ≤ shared.drawn →
    seqNum ∈ shared.rekeys ∨ ∃ msg ∈ shared.published, msg.seqNum = seqNum

theorem orderly_bufferStep {shared shared' : Shared} {goroutine goroutine' : Goroutine}
    (horderly : Orderly shared goroutine) (hledger : Ledger shared)
    (hstep : BufferStep shared goroutine shared' goroutine')
    (hdrawn : shared'.drawn < 2 ^ 64) : Orderly shared' goroutine' := by
  obtain ⟨⟨msgs, hpublished, hholds⟩, hcovered⟩ := horderly
  cases hstep with
  | quiet hsame hbefore hafter =>
      refine ⟨⟨msgs, ?_, ?_⟩, ?_⟩
      · rw [hsame.published, hpublished, hbefore, hafter]
      · rw [hsame.replayBuffer]
        exact hholds
      · rw [hsame.drawn, hsame.rekeys, hsame.published]
        exact hcovered
  | drawMessage payload hbefore =>
      have hnext := nextSeqNum_eq hledger hdrawn
      refine ⟨⟨msgs, ?_, hholds⟩, ?_⟩
      · change shared.published ++ [_] = msgs ++ [_]
        rw [hpublished, hbefore, List.append_nil]
      · intro seqNum hpos hle
        change seqNum ≤ shared.drawn + 1 at hle
        rcases Nat.le_succ_iff.mp hle with hle | rfl
        · rcases hcovered seqNum hpos hle with hrekey | ⟨msg, hmsg, hseqNum⟩
          · exact Or.inl hrekey
          · exact Or.inr ⟨msg, List.mem_append_left _ hmsg, hseqNum⟩
        · exact Or.inr ⟨⟨shared.engine.nextSeqNum, payload⟩,
            List.mem_append_right _ (List.mem_singleton.mpr rfl), hnext⟩
  | drawRekey hbefore hafter =>
      have hnext := nextSeqNum_eq hledger hdrawn
      refine ⟨⟨msgs, ?_, hholds⟩, ?_⟩
      · rw [hafter, ← hbefore]
        exact hpublished
      · intro seqNum hpos hle
        change seqNum ≤ shared.drawn + 1 at hle
        rcases Nat.le_succ_iff.mp hle with hle | rfl
        · rcases hcovered seqNum hpos hle with hrekey | hmessage
          · exact Or.inl (List.mem_append_left _ hrekey)
          · exact Or.inr hmessage
        · refine Or.inl (List.mem_append_right _ ?_)
          rw [hnext]
          exact List.mem_singleton.mpr rfl
  | push msg hgoroutine =>
      refine ⟨⟨msgs ++ [msg], ?_, Queue.holds_push hholds msg⟩, hcovered⟩
      change shared.published = msgs ++ [msg] ++ []
      rw [hpublished, hgoroutine, List.append_nil]

theorem orderly_step {sys sys' : System} {label : Label (Input suite)}
    (horderly : Orderly sys.shared (sys.threads 0)) (hledger : Ledger sys.shared)
    (hturn : InTurn sys label) (hstep : System.step suite sys label = some sys')
    (hdrawn : sys'.shared.drawn < 2 ^ 64) : Orderly sys'.shared (sys'.threads 0) := by
  obtain ⟨hthread, hinput⟩ := hturn
  obtain ⟨goroutine', hadvance, hmoves⟩ := advance_of_step hstep
  rw [hthread] at hadvance hmoves
  rw [hmoves.self]
  refine orderly_bufferStep horderly hledger ?_ hdrawn
  by_cases hidle : sys.threads 0 = .idle
  · rw [hidle] at hadvance ⊢
    exact bufferStep_of_start hadvance hinput
  · exact bufferStep_of_section (section_of_advance hadvance) hidle

theorem orderly_of_reaches {masterKey : Key} {engine : PublisherEngine} {sys : System}
    (hlaunched : Launched suite masterKey engine)
    (hreaches : GuardedReaches (System.step suite) InTurn (System.start engine) sys)
    (hdrawn : sys.shared.drawn < 2 ^ 64) : Orderly sys.shared (sys.threads 0) := by
  induction hreaches with
  | refl =>
      refine ⟨⟨[], rfl, ?_⟩, ?_⟩
      · change Queue.Holds engine.replayBuffer []
        rw [hlaunched.replayBuffer]
        exact Queue.holds_newRingBuffer 100
      · intro seqNum hpos hle
        exact absurd (hpos.trans_le hle) (lt_irrefl 0)
  | tail hbefore hlast ih =>
      obtain ⟨label, hturn, hstep⟩ := hlast
      have hbound := (drawn_le_of_step hstep).trans_lt hdrawn
      have hledger := (numbered_of_reaches hlaunched (GuardedReaches.reaches hbefore) hbound).ledger
      exact orderly_step (ih hbound) hledger hturn hstep hdrawn

/-! ## The answer -/

section Answer

variable {shared : Shared} (hledger : Ledger shared) (horderly : Orderly shared .idle)

include horderly in
/-- What is not in the buffer any more was published before what is. -/
theorem exists_evicted : ∃ evicted,
    shared.published = evicted ++ shared.engine.replayBuffer.contents := by
  obtain ⟨msgs, hpublished, hholds⟩ := horderly.buffered
  refine ⟨msgs.take (msgs.length - shared.engine.replayBuffer.capacity), ?_⟩
  have hall : shared.published = msgs := hpublished.trans (List.append_nil msgs)
  rw [hall, hholds, List.rtake, List.take_append_drop]

include horderly in
theorem oldest_published {oldest : SeqMsg}
    (holdest : oldest ∈ shared.engine.replayBuffer.contents.head?) :
    oldest ∈ shared.published := by
  obtain ⟨evicted, hsplit⟩ := exists_evicted horderly
  rw [hsplit]
  exact List.mem_append_right _ (List.mem_of_mem_head? holdest)

include hledger horderly in
theorem evicted_iff {oldest msg : SeqMsg}
    (holdest : oldest ∈ shared.engine.replayBuffer.contents.head?) :
    Evicted shared msg ↔ msg ∈ shared.published ∧ msg.seqNum < oldest.seqNum := by
  obtain ⟨evicted, hsplit⟩ := exists_evicted horderly
  have hincreasing := hledger.increasing
  rw [hsplit, List.pairwise_append] at hincreasing
  obtain ⟨-, hbuffer, hacross⟩ := hincreasing
  obtain ⟨rest, hcontents⟩ := List.head?_eq_some_iff.mp holdest
  rw [hcontents, List.pairwise_cons] at hbuffer
  constructor
  · rintro ⟨hmsg, hgone⟩
    rw [hsplit, List.mem_append] at hmsg
    have hmem : msg ∈ evicted := hmsg.resolve_right hgone
    refine ⟨hsplit ▸ List.mem_append_left _ hmem, hacross msg hmem oldest ?_⟩
    rw [hcontents]
    exact List.mem_cons_self
  · rintro ⟨hmsg, hlt⟩
    refine ⟨hmsg, ?_⟩
    rw [hcontents, List.mem_cons]
    rintro (rfl | hrest)
    · exact lt_irrefl _ hlt
    · exact lt_asymm hlt (hbuffer.1 msg hrest)

include horderly in
/-- An empty buffer has never held anything. -/
theorem published_eq_nil (hempty : shared.engine.replayBuffer.contents = []) :
    shared.published = [] := by
  obtain ⟨msgs, hpublished, hholds⟩ := horderly.buffered
  have hpos := shared.engine.replayBuffer.capacity_pos
  rw [Queue.Holds, hempty, List.rtake, eq_comm, List.drop_eq_nil_iff] at hholds
  have hmsgs : msgs = [] := List.length_eq_zero_iff.mp (by omega)
  rw [hpublished, hmsgs]
  rfl

include hledger horderly in
theorem isOverflow_iff_adjoining :
    (∀ seqNum, 1 ≤ seqNum → seqNum ≤ shared.engine.seqCounter →
      (shared.engine.replayBuffer.isOverflow seqNum = true ↔
        ∃ msg, Evicted shared msg ∧ seqNum < msg.seqNum)) ↔ Adjoining shared := by
  constructor
  · intro hexact oldest holdest hlarge hrekey
    have hcounter := hledger.counter
    have hbounds := hledger.published_le oldest (oldest_published horderly holdest)
    -- The number two before the oldest is reported, so the one between was evicted.
    have hreported := (hexact (oldest.seqNum - 2) (by omega) (by omega)).mp
      ((RingBuffer.isOverflow_eq_true_iff _ _).mpr ⟨by omega, oldest, holdest, by omega⟩)
    obtain ⟨msg, hevicted, habove⟩ := hreported
    obtain ⟨hmsg, hbelow⟩ := (evicted_iff hledger horderly holdest).mp hevicted
    have hbetween : msg.seqNum = oldest.seqNum - 1 := by omega
    exact hledger.disjoint msg hmsg (hbetween ▸ hrekey)
  · intro hadjoining seqNum hpos _
    rw [RingBuffer.isOverflow_eq_true_iff]
    constructor
    · rintro ⟨-, oldest, holdest, hlt⟩
      have hbounds := hledger.published_le oldest (oldest_published horderly holdest)
      have hmessage := (horderly.covered (oldest.seqNum - 1) (by omega) (by omega)).resolve_left
        (hadjoining oldest holdest (by omega))
      obtain ⟨msg, hmsg, hseqNum⟩ := hmessage
      refine ⟨msg, (evicted_iff hledger horderly holdest).mpr ⟨hmsg, ?_⟩, ?_⟩
      · omega
      · omega
    · rintro ⟨msg, hevicted, hlt⟩
      cases hhead : shared.engine.replayBuffer.contents.head? with
      | none =>
          have hnil := published_eq_nil horderly (List.head?_eq_none_iff.mp hhead)
          obtain ⟨hmsg, -⟩ := hevicted
          rw [hnil] at hmsg
          cases hmsg
      | some oldest =>
          obtain ⟨-, hbelow⟩ := (evicted_iff hledger horderly hhead).mp hevicted
          exact ⟨by omega, oldest, rfl, by omega⟩

end Answer

/-- After any calls that run one after another, `IsOverflow` reports exactly the
losses for every number up to the counter if and only if no rekey drew the
number before the oldest buffered message, the first number apart. -/
theorem isOverflow_exact_iff {passphrase : Bytes} {masterKey : Key} {now : ℤ} {byteLimit : ℕ}
    {timeLimit : ℤ} {engine : PublisherEngine} {sys : System}
    (hlaunch : launch suite passphrase masterKey now byteLimit timeLimit = .ok engine)
    (hreaches : GuardedReaches (System.step suite) InTurn (System.start engine) sys)
    (hidle : sys.threads 0 = .idle) (hdrawn : sys.shared.drawn < 2 ^ 64) :
    (∀ seqNum, 1 ≤ seqNum → seqNum ≤ sys.shared.engine.seqCounter →
      (sys.shared.engine.replayBuffer.isOverflow seqNum = true ↔
        ∃ msg, Evicted sys.shared msg ∧ seqNum < msg.seqNum)) ↔ Adjoining sys.shared := by
  have hlaunched := launched_of_launch hlaunch
  have hledger := (numbered_of_reaches hlaunched hreaches.reaches hdrawn).ledger
  have horderly := orderly_of_reaches hlaunched hreaches hdrawn
  rw [hidle] at horderly
  exact isOverflow_iff_adjoining hledger horderly

/-! ## Two runs -/

/-- A check for `InTurn`. -/
def inTurn (_ : System) (label : Label (Input transparent)) : Bool :=
  decide (label.thread = 0) &&
    match label.input with
    | .close _ => false
    | _ => true

theorem inTurn_of_check {sys : System} {label : Label (Input transparent)}
    (hcheck : inTurn sys label = true) : InTurn sys label := by
  obtain ⟨hthread, hinput⟩ := Bool.and_eq_true_iff.mp hcheck
  refine ⟨of_decide_eq_true hthread, ?_⟩
  intro written hclose
  rw [hclose] at hinput
  cases hinput

/-- `TriggerRekey` from its call to its return. -/
def rekeyCall : List (Label (Input transparent)) :=
  [⟨0, .triggerRekey⟩, ⟨0, .proceed⟩,
    ⟨0, .generateNonce (some (copyFixed Messages.nonceSize []))⟩, ⟨0, .proceed⟩, ⟨0, .proceed⟩,
    ⟨0, .send true⟩, ⟨0, .clock 0⟩]

/-- `PublishPayload` of one byte, with the outcome of its write. -/
def publishCall (written : Bool) : List (Label (Input transparent)) :=
  [⟨0, .publish [7] 0⟩, ⟨0, .proceed⟩, ⟨0, .proceed⟩, ⟨0, .proceed⟩, ⟨0, .proceed⟩,
    ⟨0, .send written⟩]

/-- A run of one goroutine in a state with a computable property. -/
theorem exists_inTurn (schedule : List (Label (Input transparent))) (property : System → Bool)
    (hrun : ((launch transparent [1] (copyFixed keySize []) 0 0 0).toOption.any fun engine =>
      ((System.start engine).runBelow inTurn 1 schedule).any fun sys =>
        decide (sys.threads 0 = .idle) && decide (sys.shared.drawn < 2 ^ 64) &&
          property sys) = true) :
    ∃ engine sys, launch transparent [1] (copyFixed keySize []) 0 0 0 = .ok engine ∧
      GuardedReaches (System.step transparent) InTurn (System.start engine) sys ∧
      sys.threads 0 = .idle ∧ sys.shared.drawn < 2 ^ 64 ∧ property sys = true := by
  obtain ⟨engine, hlaunch⟩ : ∃ engine,
      launch transparent [1] (copyFixed keySize []) 0 0 0 = .ok engine := ⟨_, rfl⟩
  rw [hlaunch, Except.toOption, Option.any_some] at hrun
  obtain ⟨sys, hsys, hrun⟩ := (Option.any_eq_true _ _).mp hrun
  obtain ⟨hstate, hproperty⟩ := Bool.and_eq_true_iff.mp hrun
  obtain ⟨hidle, hdrawn⟩ := Bool.and_eq_true_iff.mp hstate
  obtain ⟨hreaches, -⟩ := guardedReaches_of_runBelow (idleFrom_start 1 engine)
    (fun _ _ _ => inTurn_of_check) hsys
  exact ⟨engine, sys, hlaunch, hreaches, of_decide_eq_true hidle, of_decide_eq_true hdrawn,
    hproperty⟩

/-- A rekey draws the first number and the connection is lost after two messages;
when a hundred more have been published, the two have left the buffer. -/
theorem isOverflow_exact_after_eviction :
    ∃ engine sys, launch transparent [1] (copyFixed keySize []) 0 0 0 = .ok engine ∧
      GuardedReaches (System.step transparent) InTurn (System.start engine) sys ∧
      sys.shared.rekeys = [1] ∧ sys.shared.published.length = 102 ∧
      Evicted sys.shared ⟨3, [7]⟩ ∧
      ∀ seqNum, 1 ≤ seqNum → seqNum ≤ sys.shared.engine.seqCounter →
        (sys.shared.engine.replayBuffer.isOverflow seqNum = true ↔
          ∃ msg, Evicted sys.shared msg ∧ seqNum < msg.seqNum) := by
  obtain ⟨engine, sys, hlaunch, hreaches, hidle, hdrawn, hproperty⟩ :=
    exists_inTurn (rekeyCall ++ publishCall true ++ publishCall true ++
        (List.replicate 100 (publishCall false)).flatten)
      (fun sys => decide (sys.shared.rekeys = [1] ∧ sys.shared.published.length = 102 ∧
        (⟨3, [7]⟩ ∈ sys.shared.published ∧
          ⟨3, [7]⟩ ∉ sys.shared.engine.replayBuffer.contents) ∧
        sys.shared.engine.replayBuffer.contents.head? = some ⟨4, [7]⟩))
      (by decide +kernel)
  obtain ⟨hrekeys, hpublished, hevicted, hhead⟩ := of_decide_eq_true hproperty
  refine ⟨engine, sys, hlaunch, hreaches, hrekeys, hpublished, hevicted,
    (isOverflow_exact_iff hlaunch hreaches hidle hdrawn).mpr ?_⟩
  intro oldest holdest _
  rw [hhead] at holdest
  obtain rfl := Option.some.inj holdest
  rw [hrekeys]
  decide

/-- After two rekeys and one message nothing was evicted, and yet `IsOverflow(1)`
is true. -/
theorem isOverflow_without_eviction :
    ∃ engine sys, launch transparent [1] (copyFixed keySize []) 0 0 0 = .ok engine ∧
      GuardedReaches (System.step transparent) InTurn (System.start engine) sys ∧
      sys.threads 0 = .idle ∧ sys.shared.engine.seqCounter = 3 ∧
      sys.shared.engine.replayBuffer.isOverflow 1 = true ∧
      ∀ msg, ¬ Evicted sys.shared msg := by
  obtain ⟨engine, sys, hlaunch, hreaches, hidle, -, hproperty⟩ :=
    exists_inTurn (rekeyCall ++ rekeyCall ++ publishCall true)
      (fun sys => decide (sys.shared.engine.seqCounter = 3 ∧
        sys.shared.engine.replayBuffer.isOverflow 1 = true ∧
        sys.shared.engine.replayBuffer.contents = sys.shared.published))
      (by decide +kernel)
  obtain ⟨hcounter, hoverflow, hcontents⟩ := of_decide_eq_true hproperty
  refine ⟨engine, sys, hlaunch, hreaches, hidle, hcounter, hoverflow, ?_⟩
  rintro msg ⟨hmsg, hgone⟩
  rw [hcontents] at hgone
  exact hgone hmsg

end ZeroFeed.Overflow
