import Mathlib.Data.Fintype.Basic
import ZeroFeed.Core.Locking

/-!
# The locks of the publisher (`pkg/feed/publisher.go`)

`PublisherEngine` has three locks: `mu` for its fields, `writeMu` for the
connection's write side and `rekeyMu` for the duration of a rekey.  The methods
that goroutines run concurrently are written here as the lock operations they
perform; of the fields only those remain that decide which operations follow,
and only whether they are set.  Failures of the network and of the
cryptography, the limits that start a rekey and the frames that arrive are
decided by the environment.

Every method but one takes the locks in the order `rekeyMu`, `writeMu`, `mu`.
`Close` holds `mu` when it takes `writeMu` for the final frame, while `sendFrame`
holds `writeMu` when `getConn` takes `mu`: a goroutine in each of them is a
deadlock.
-/

namespace ZeroFeed.Locks

open ZeroFeed.Transition
open ZeroFeed.Locking
open ZeroFeed.Locking.Program

inductive Lock where
  | mu
  | writeMu
  | rekeyMu
  deriving DecidableEq

instance : Fintype Lock where
  elems := {.mu, .writeMu, .rekeyMu}
  complete := by
    intro lock
    cases lock <;> decide

/-- Whether the engine is closed and which of its fields are not nil. -/
structure Engine where
  closed : Bool
  conn : Bool
  cipher : Bool
  passphrase : Bool

abbrev Code := Program Lock Engine

/-! ## Methods -/

/-- A section of `mu` without a branch. -/
def guarded (next : Code) : Code := .acquire .mu (.release .mu next)

/-- A section of `mu` that reads a field. -/
def load (field : Engine → Bool) (found missing : Code) : Code :=
  .acquire .mu (.branch field (.release .mu found) (.release .mu missing))

def getConn : Code → Code → Code := load Engine.conn

def getCipher : Code → Code → Code := load Engine.cipher

def getPassphrase : Code → Code → Code := load Engine.passphrase

def sendFrame (sent failed : Code) : Code :=
  .acquire .writeMu (getConn
    (.either (.release .writeMu sent) (.release .writeMu failed))
    (.release .writeMu failed))

/-- The last section of `TriggerRekey`, which uses the engine's cipher without
looking whether it is still there. -/
def updateKey (next : Code) : Code :=
  .acquire .mu (.branch Engine.cipher (.release .mu next) .crash)

def triggerRekey (next : Code) : Code :=
  let stop : Code := .release .rekeyMu next
  .acquire .rekeyMu (getCipher
    -- The key, the salt or the encryption may fail before the frame is sent.
    (.either (sendFrame (.either (updateKey stop) stop) stop) stop)
    stop)

/-- `PublishPayload` after the rekey. -/
def encryptAndSend (next : Code) : Code :=
  getCipher (.either (sendFrame next next) next) next

def publishPayload (next : Code) : Code :=
  guarded (.either (triggerRekey (encryptAndSend next)) (encryptAndSend next))

/-- The loop of `replaySyncForSubscriber`; an item that cannot be encrypted is
skipped. -/
def replayItems : ℕ → Code
  | 0 => .done
  | items + 1 => .either (sendFrame (replayItems items) (replayItems items)) (replayItems items)

def replaySyncForSubscriber (items : ℕ) : Code :=
  getCipher (getConn (replayItems items) .done) (getConn .done .done)

/-- What `handleSyncRequests` reads in one round: a frame it answers, or nothing
of interest. -/
inductive Arrival where
  | nothing
  | pakeInitSub
  | syncReq (items : ℕ)
  | chunkAck

def answer : Arrival → Code
  | .nothing => .done
  | .pakeInitSub =>
      getPassphrase (.either (guarded (.either (sendFrame .done .done) .done)) .done) .done
  | .syncReq items => replaySyncForSubscriber items
  | .chunkAck => guarded .done

def handleSyncRequests (arrival : Arrival) : Code := getConn (answer arrival) .done

def close : Code :=
  let wipe : Code :=
    .update (fun engine => { engine with cipher := false, passphrase := false })
      (.release .mu .done)
  .acquire .mu (.branch Engine.closed (.release .mu .done)
    (.update (fun engine => { engine with closed := true })
      (.branch Engine.conn
        (.acquire .writeMu (.release .writeMu
          (.update (fun engine => { engine with conn := false }) wipe)))
        wipe)))

/-- What a goroutine may call; `publish` is the case of `PublishStream` for a
payload. -/
inductive Call where
  | heartbeat
  | publish
  | publishPayload
  | triggerRekey
  | handleSyncRequests (arrival : Arrival)
  | close

def body : Call → Code
  | .heartbeat => sendFrame .done .done
  | .publish => guarded (publishPayload .done)
  | .publishPayload => publishPayload .done
  | .triggerRekey => triggerRekey .done
  | .handleSyncRequests arrival => handleSyncRequests arrival
  | .close => close

/-! ## The order of the locks -/

def rank : Lock → ℕ
  | .rekeyMu => 0
  | .writeMu => 1
  | .mu => 2

/-- Ascending ranks, or `writeMu` below `mu` as in `Close`. -/
def allowed (held : Finset Lock) (lock : Lock) : Bool :=
  decide (∀ other ∈ held, rank other < rank lock) || decide (held = {.mu} ∧ lock = .writeMu)

theorem disciplined_sendFrame {sent failed : Code}
    (hsent : disciplined allowed ∅ sent = true) (hfailed : disciplined allowed ∅ failed = true) :
    disciplined allowed ∅ (sendFrame sent failed) = true := by
  have hinner : allowed {.writeMu} .mu = true := by decide
  have houter : allowed ∅ .writeMu = true := by decide
  have hmu : ({.mu, .writeMu} : Finset Lock).erase .mu = {.writeMu} := by decide
  simp [sendFrame, getConn, load, disciplined, hinner, houter, hmu, hsent, hfailed]

theorem disciplined_replayItems (items : ℕ) :
    disciplined allowed ∅ (replayItems items) = true := by
  induction items with
  | zero => rfl
  | succ items ih =>
      rw [replayItems, disciplined, disciplined_sendFrame ih ih, ih, Bool.true_and]

theorem disciplined_body (call : Call) : disciplined allowed ∅ (body call) = true := by
  cases call with
  | heartbeat | publish | publishPayload | triggerRekey | close => decide +kernel
  | handleSyncRequests arrival =>
      cases arrival with
      | nothing | pakeInitSub | chunkAck => decide +kernel
      | syncReq items =>
          have hread : allowed ∅ .mu = true := by decide
          simp [body, handleSyncRequests, answer, replaySyncForSubscriber, getConn, getCipher,
            load, disciplined, hread, disciplined_replayItems]

variable {Thread : Type*} [DecidableEq Thread]

/-- `Close` takes `mu` on an open and connected engine only while no goroutine
holds `writeMu` and still has to take `mu`; `sendFrame` takes `writeMu` only
while no goroutine holds `mu` and still has to take `writeMu`. -/
structure Unobstructed (state : State Thread Lock Engine) (label : Label Thread Call) :
    Prop where
  closing : ∀ thread next, label = .move thread → state.program thread = .acquire .mu next →
    nests .mu .writeMu (settle state.store next).2 = true →
      ∀ other, ¬ Nesting state other .writeMu .mu
  sending : ∀ thread next, label = .move thread →
    state.program thread = .acquire .writeMu next →
    nests .writeMu .mu (settle state.store next).2 = true →
      ∀ other, ¬ Nesting state other .mu .writeMu

/-- No two goroutines are about to take the two locks in opposite orders. -/
def Apart (state : State Thread Lock Engine) : Prop :=
  ∀ closer sender, Nesting state closer .mu .writeMu → ¬ Nesting state sender .writeMu .mu

theorem apart_step {state state' : State Thread Lock Engine} {label : Label Thread Call}
    (haccounted : ∀ thread, Accounted allowed state thread) (hapart : Apart state)
    (hclear : Unobstructed state label) (hstep : state.step body label = some state') :
    Apart state' := by
  intro closer sender hcloser hsender
  rcases nesting_of_step haccounted hstep hcloser with hclosing | ⟨next, rfl, hmu, hnests⟩
  · rcases nesting_of_step haccounted hstep hsender with hsending | ⟨next, rfl, hwrite, hnests⟩
    · exact hapart closer sender hclosing hsending
    · exact hclear.sending sender next rfl hwrite hnests closer hclosing
  · rcases nesting_of_step haccounted hstep hsender with hsending | ⟨next', hlabel, hwrite, -⟩
    · exact hclear.closing closer next rfl hmu hnests sender hsending
    · cases hlabel
      rw [hmu] at hwrite
      cases hwrite

theorem apart_of_reaches {engine : Engine} {state : State Thread Lock Engine}
    (hreaches : GuardedReaches (State.step · body) Unobstructed (State.start engine) state) :
    Apart state :=
  GuardedReaches.invariant
    (fun _ hbefore => accounted_of_reaches disciplined_body hbefore.reaches)
    (fun _ _ hcloser => by cases hcloser.1)
    (fun _ _ _ => apart_step) hreaches

omit [DecidableEq Thread] in
/-- A waiting goroutine holds only locks of lower rank, or it is in `Close`. -/
theorem ascending_or_close {state : State Thread Lock Engine} {thread : Thread}
    {lock awaited : Lock} (haccounted : Accounted allowed state thread)
    (hholder : state.holder lock = some thread)
    (hawaits : awaits (state.program thread) = some awaited) :
    rank lock < rank awaited ∨ lock = .mu ∧ awaited = .writeMu := by
  obtain ⟨held, hdisciplined, hheld⟩ := haccounted
  cases hprogram : state.program thread with
  | acquire next rest =>
      rw [hprogram] at hawaits hdisciplined
      obtain rfl := Option.some.inj hawaits
      simp only [disciplined, allowed, Bool.and_eq_true, Bool.or_eq_true, decide_eq_true_eq]
        at hdisciplined
      have hmem := (hheld lock).mp hholder
      rcases hdisciplined.1.2 with hascending | ⟨hclose, hwrite⟩
      · exact .inl (hascending lock hmem)
      · rw [hclose, Finset.mem_singleton] at hmem
        exact .inr ⟨hmem, hwrite⟩
  | _ =>
      rw [hprogram] at hawaits
      cases hawaits

/-- As long as `Close` and `sendFrame` do not meet between their two locks, no
set of goroutines is deadlocked. -/
theorem publisher_deadlockFree (engine : Engine) (state : State Thread Lock Engine)
    (hreaches : GuardedReaches (State.step · body) Unobstructed (State.start engine) state)
    (threads : Set Thread) : ¬ Deadlocked state threads := by
  intro hdeadlocked
  have haccounted := accounted_of_reaches disciplined_body hreaches.reaches
  -- The goroutine that breaks the order is in `Close` …
  obtain ⟨closer, hcloser, lock, awaited, hholder, hawaits, hrank⟩ :=
    hdeadlocked.exists_descending rank
  obtain ⟨rfl, rfl⟩ : lock = .mu ∧ awaited = .writeMu :=
    (ascending_or_close (haccounted closer) hholder hawaits).resolve_left (not_lt.mpr hrank)
  -- … and whoever holds `writeMu` can only wait for `mu`.
  obtain ⟨lock, sender, hlock, hsender, -, hwrite⟩ := hdeadlocked.waiting closer hcloser
  obtain rfl := Option.some.inj (hawaits.symm.trans hlock)
  obtain ⟨next, -, hnext, -⟩ := hdeadlocked.waiting sender hsender
  have hmu : next = .mu := by
    rcases ascending_or_close (haccounted sender) hwrite hnext with hascending | ⟨hclose, -⟩
    · cases next with
      | mu => rfl
      | writeMu | rekeyMu => exact absurd hascending (by decide)
    · cases hclose
  subst hmu
  exact apart_of_reaches hreaches closer sender (nesting_of_awaits hholder hawaits)
    (nesting_of_awaits hwrite hnext)

/-! ## Runs -/

/-- The heartbeat has taken `writeMu` when `Close` takes `mu`. -/
def crossing : List (Label (Fin 2) Call) :=
  [.call 0 .heartbeat, .move 0, .call 1 .close, .move 1]

theorem heartbeat_deadlocks_close : ∃ state : State (Fin 2) Lock Engine,
    Reaches (State.step · body) (State.start ⟨false, true, true, true⟩) state ∧
      Deadlocked state Set.univ := by
  obtain ⟨state, hreaches, hend⟩ := exists_reaches_of_run
    (State.step · body) (State.start ⟨false, true, true, true⟩) crossing
    (fun state => awaits (state.program 0) = some .mu ∧ state.holder .mu = some 1 ∧
      awaits (state.program 1) = some .writeMu ∧ state.holder .writeMu = some 0)
    (by decide +kernel)
  obtain ⟨hsender, hmu, hcloser, hwrite⟩ := of_decide_eq_true hend
  refine ⟨state, hreaches, Set.univ_nonempty, ?_⟩
  rw [Fin.forall_fin_two]
  exact ⟨fun _ => ⟨.mu, 1, hsender, Set.mem_univ _, by decide, hmu⟩,
    fun _ => ⟨.writeMu, 0, hcloser, Set.mem_univ _, by decide, hwrite⟩⟩

/-- The condition of `Unobstructed`, evaluated. -/
def unobstructed [Fintype Thread] (state : State Thread Lock Engine) :
    Label Thread Call → Bool
  | .move thread =>
      match state.program thread with
      | .acquire .mu next =>
          !nests .mu .writeMu (settle state.store next).2 ||
            decide (∀ other, ¬ Nesting state other .writeMu .mu)
      | .acquire .writeMu next =>
          !nests .writeMu .mu (settle state.store next).2 ||
            decide (∀ other, ¬ Nesting state other .mu .writeMu)
      | _ => true
  | _ => true

theorem unobstructed_of_eval [Fintype Thread] {state : State Thread Lock Engine}
    {label : Label Thread Call} (heval : unobstructed state label = true) :
    Unobstructed state label where
  closing := by
    rintro thread next rfl hmu hnests
    simpa [unobstructed, hmu, hnests] using heval
  sending := by
    rintro thread next rfl hwrite hnests
    simpa [unobstructed, hwrite, hnests] using heval

/-- A heartbeat is sent, then `Close` has taken both locks while another
heartbeat waits for `writeMu`. -/
def farewell : List (Label (Fin 2) Call) :=
  [.call 0 .heartbeat, .move 0, .move 0, .move 0, .choose 0 true, .move 0,
    .call 1 .close, .move 1, .move 1, .call 0 .heartbeat]

theorem publisher_deadlockFree_farewell : ∃ state : State (Fin 2) Lock Engine,
    GuardedReaches (State.step · body) Unobstructed
      (State.start ⟨false, true, true, true⟩) state ∧
    (awaits (state.program 0) = some .writeMu ∧ state.holder .writeMu = some 1 ∧
      state.holder .mu = some 1) ∧
    ∀ threads : Set (Fin 2), ¬ Deadlocked state threads := by
  obtain ⟨state, hreaches, hend⟩ := @exists_guardedReaches_of_runWhile _ _
    (State.step · body) unobstructed Unobstructed (fun _ => True)
    (fun _ _ _ _ _ _ => trivial) (fun _ _ _ hcheck => unobstructed_of_eval hcheck)
    (State.start ⟨false, true, true, true⟩) trivial farewell
    (fun state => awaits (state.program 0) = some .writeMu ∧ state.holder .writeMu = some 1 ∧
      state.holder .mu = some 1)
    (by decide +kernel)
  exact ⟨state, hreaches, of_decide_eq_true hend,
    publisher_deadlockFree ⟨false, true, true, true⟩ state hreaches⟩

end ZeroFeed.Locks
