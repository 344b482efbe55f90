import ZeroFeed.Feed.Reconnect

/-!
# What `SubscriberEngine.Close` leaves behind

`Close` sets every pointer of the engine to nil, but a goroutine that is
connecting does not look at the closed flag before it writes its PAKE peer, its
connection or its cipher into the engine.  `Close` is final in every run in which
it is executed while no goroutine is about to write one of them and in which
nobody calls `Connect` on a closed engine.
-/

namespace ZeroFeed.Finality

open ZeroFeed.ByteString
open ZeroFeed.Messages
open ZeroFeed.Primitives
open ZeroFeed.Cipher
open ZeroFeed.Pake
open ZeroFeed.Ring
open ZeroFeed.Frame
open ZeroFeed.Handshake
open ZeroFeed.Threads
open ZeroFeed.Transition
open ZeroFeed.Reconnect

variable {suite : Suite}

/-- The points from which a pointer is written without a look at the closed
flag. -/
def installing : Goroutine suite → Bool
  | .dial _ | .attach .. | .installSession .. | .setPeer .. => true
  | _ => false

structure Unhurried (state : State suite) (label : Label (Input suite)) : Prop where
  closing : (∃ thread, label = ⟨thread, .close⟩) →
    ∀ thread, installing (state.threads thread) = false
  connecting : (∃ thread, label = ⟨thread, .connect⟩) → state.shared.engine.closed = false

structure Released (engine : Engine suite) : Prop where
  conn : engine.conn = none
  cipher : engine.cipher = none
  pakePeer : engine.pakePeer = none
  passphrase : engine.passphrase = none

theorem released_close (engine : Engine suite) : Released engine.close :=
  ⟨rfl, rfl, rfl, rfl⟩

structure Final (state : State suite) : Prop where
  released : state.shared.engine.closed = true → Released state.shared.engine
  settled : state.shared.engine.closed = true →
    ∀ thread, installing (state.threads thread) = false
  punctual : ∀ conn, state.shared.late conn = false

section Sections

variable {shared shared' : Shared suite} {goroutine goroutine' : Goroutine suite}
variable {input : Input suite}

@[simp]
theorem installing_connectFailed (caller : Option Retry) :
    installing (.connectFailed caller : Goroutine suite) = false := by
  cases caller <;> rfl

@[simp]
theorem installing_connectDone (caller : Option Retry) :
    installing (.connectDone caller : Goroutine suite) = false := by
  cases caller <;> rfl

@[simp]
theorem installing_handshakeFailed (caller : Option Retry) :
    installing (.handshakeFailed caller : Goroutine suite) = false := by
  cases caller <;> rfl

@[simp]
theorem installing_reconnected (site : Site) :
    installing (.reconnected site : Goroutine suite) = false := by
  cases site <;> rfl

/-- On a closed engine a goroutine that is not installing anything writes no
pointer and does not come to install one, unless it is told to connect. -/
theorem released_of_section (hclosed : shared.engine.closed = true)
    (hreleased : Released shared.engine) (hsettled : installing goroutine = false)
    (hconnect : input ≠ .connect) (hsection : Section shared input goroutine shared' goroutine') :
    shared'.engine.closed = true ∧ Released shared'.engine ∧ installing goroutine' = false ∧
      shared'.late = shared.late := by
  have hrewritten : ∀ ringBuffer lastSeqNum sas, Released { shared.engine with
      ringBuffer := ringBuffer, lastSeqNum := lastSeqNum, sas := sas } :=
    fun _ _ _ => ⟨hreleased.conn, hreleased.cipher, hreleased.pakePeer, hreleased.passphrase⟩
  cases hsection with
  | connect hinput => exact absurd hinput hconnect
  | dialFailed | dialed | attach | attachFailed | installSession | setPeer => cases hsettled
  | handshakeRead conn caller peer masterKey hpeer =>
      rw [hreleased.pakePeer] at hpeer
      cases hpeer
  | newPeer _ passphrase peer retry hpassphrase =>
      rw [hreleased.passphrase] at hpassphrase
      cases hpassphrase
  | close =>
      rw [Shared.close, if_pos hclosed]
      exact ⟨hclosed, hreleased, rfl, rfl⟩
  | dropConn retry =>
      have hsame : shared.dropConn = shared := by simp only [Shared.dropConn, hreleased.conn]
      rw [hsame]
      exact ⟨hclosed, hreleased, rfl, rfl⟩
  | helloSent | handshakeFailed | syncRequest => exact ⟨hclosed, hreleased, by simp, rfl⟩
  | helloFailed => exact ⟨hclosed, hreleased, by simp, rfl⟩
  | rekeyInstall | deduplicate | push => exact ⟨hclosed, hrewritten _ _ _, rfl, rfl⟩
  | _ => exact ⟨hclosed, hreleased, rfl, rfl⟩

/-- The flag is changed by `Close` only. -/
theorem closed_of_section (hsection : Section shared input goroutine shared' goroutine') :
    shared'.engine.closed = shared.engine.closed ∨
      input = .close ∧ shared' = shared.close ∧ goroutine' = .idle := by
  cases hsection with
  | close hinput => exact .inr ⟨hinput, rfl, rfl⟩
  | dropConn retry =>
      rw [Shared.dropConn]
      split
      · exact .inl rfl
      · exact .inl rfl
  | _ => exact .inl rfl

/-- On an open engine no connection is late. -/
theorem late_of_section (hopen : shared.engine.closed = false)
    (hlate : ∀ conn, shared.late conn = false)
    (hsection : Section shared input goroutine shared' goroutine') (conn : ℕ) :
    shared'.late conn = false := by
  cases hsection with
  | dialed caller =>
      by_cases hconn : conn = shared.opened
      · simpa [Shared.dialed, hconn] using hopen
      · simpa [Shared.dialed, hconn] using hlate conn
  | close =>
      rw [Shared.close, if_neg (by simp [hopen])]
      exact hlate conn
  | dropConn =>
      rw [Shared.dropConn]
      split
      · exact hlate conn
      · exact hlate conn
  | _ => exact hlate conn

end Sections

theorem final_start {engine : Engine suite} (hopen : engine.closed = false) :
    Final (State.start engine) where
  released := fun hclosed => absurd (hclosed.symm.trans hopen) (by decide)
  settled := fun _ _ => rfl
  punctual := fun _ => rfl

theorem final_step {state state' : State suite} {label : Label (Input suite)} (hfinal : Final state)
    (hcalm : Unhurried state label) (hstep : state.step label = some state') : Final state' := by
  obtain ⟨thread, input⟩ := label
  obtain ⟨goroutine', hsection, hthreads⟩ := section_of_step hstep
  cases hclosed : state.shared.engine.closed with
  | true =>
      have hconnect : input ≠ .connect := by
        rintro rfl
        rw [hcalm.connecting ⟨thread, rfl⟩] at hclosed
        cases hclosed
      obtain ⟨-, hreleased, hsettled, hlate⟩ := released_of_section hclosed
        (hfinal.released hclosed) (hfinal.settled hclosed thread) hconnect hsection
      refine ⟨fun _ => hreleased, fun _ => ?_, fun conn => hlate ▸ hfinal.punctual conn⟩
      rw [hthreads, Function.forall_update_iff state.threads
        (p := fun _ goroutine => installing goroutine = false)]
      exact ⟨hsettled, fun other _ => hfinal.settled hclosed other⟩
  | false =>
      have hpunctual := late_of_section hclosed hfinal.punctual hsection
      rcases closed_of_section hsection with hsame | ⟨hinput, hshared, hidle⟩
      · rw [hclosed] at hsame
        exact ⟨fun hnow => absurd (hnow.symm.trans hsame) (by decide),
          fun hnow => absurd (hnow.symm.trans hsame) (by decide), hpunctual⟩
      · obtain rfl : input = .close := hinput
        refine ⟨fun _ => ?_, fun _ => ?_, hpunctual⟩
        · rw [hshared, Shared.close, if_neg (by simp [hclosed])]
          exact released_close _
        · rw [hthreads, Function.forall_update_iff state.threads
            (p := fun _ goroutine => installing goroutine = false), hidle]
          exact ⟨rfl, fun other _ => hcalm.closing ⟨thread, rfl⟩ other⟩

theorem final_of_reaches {engine : Engine suite} (hopen : engine.closed = false)
    {state : State suite}
    (hreaches : GuardedReaches State.step Unhurried (State.start engine) state) : Final state :=
  GuardedReaches.invariant (fun _ _ => trivial) (final_start hopen)
    (fun _ _ _ _ => final_step) hreaches

/-- A closed engine stays closed. -/
theorem closed_step {state state' : State suite} {label : Label (Input suite)}
    (hclosed : state.shared.engine.closed = true) (hstep : state.step label = some state') :
    state'.shared.engine.closed = true := by
  obtain ⟨goroutine', hsection, -⟩ := section_of_step hstep
  rcases closed_of_section hsection with hsame | ⟨-, hshared, -⟩
  · exact hsame.trans hclosed
  · rw [hshared, Shared.close, if_pos hclosed]
    exact hclosed

theorem open_of_newEngine {passphrase : Bytes} {coins : PeerCoins suite} {engine : Engine suite}
    (hnew : newEngine passphrase coins = .ok engine) : engine.closed = false := by
  rw [newEngine] at hnew
  cases hpeer : newPAKESubscriber passphrase coins with
  | error err =>
      rw [hpeer] at hnew
      cases hnew
  | ok peer =>
      rw [hpeer] at hnew
      cases hnew
      rfl

/-- From the moment `Close` has returned, the engine's pointers are nil, and no
message is delivered from a connection opened afterwards. -/
theorem close_final (passphrase : Bytes) (coins : PeerCoins suite) (engine : Engine suite)
    (hnew : newEngine passphrase coins = .ok engine) (state : State suite)
    (hreaches : GuardedReaches State.step Unhurried (State.start engine) state)
    (hclosed : state.shared.engine.closed = true) (later : State suite)
    (hlater : GuardedReaches State.step Unhurried state later) :
    (later.shared.engine.conn = none ∧ later.shared.engine.cipher = none ∧
      later.shared.engine.pakePeer = none ∧ later.shared.engine.passphrase = none) ∧
    ∀ entry ∈ later.shared.delivered, later.shared.late entry.1 = false := by
  have hfinal := final_of_reaches (open_of_newEngine hnew) (hreaches.trans hlater)
  have hstays : later.shared.engine.closed = true :=
    @Reaches.invariant _ _ State.step _ _ (fun state => state.shared.engine.closed = true)
      hclosed (fun _ _ _ => closed_step) hlater.reaches
  obtain ⟨hconn, hcipher, hpeer, hpassphrase⟩ := hfinal.released hstays
  exact ⟨⟨hconn, hcipher, hpeer, hpassphrase⟩, fun entry _ => hfinal.punctual entry.1⟩

/-! ## Runs -/

/-- `reconnectLoop` has its copy of the passphrase when `Close` runs.  It goes on
to connect, and the stream delivers a message from the new connection. -/
def resurrection : List (Label (Input transparent)) :=
  reconnecting 0 ++ [⟨1, .close⟩] ++ joining 0 ++
    [⟨0, .read (some (sampleFrame (dataFrame sampleKey ⟨1, [tagText, 65]⟩)))⟩,
      ⟨0, .proceed⟩, ⟨0, .proceed⟩, ⟨0, .proceed⟩, ⟨0, .proceed⟩]

/-- The engine is closed and holds a peer, a connection and a cipher. -/
theorem reconnect_outlives_close : ∃ state : State transparent,
    Reaches State.step (State.start sampleEngine) state ∧
      state.shared.engine.closed = true ∧ state.shared.engine.pakePeer ≠ none ∧
      state.shared.engine.conn = some 0 ∧ state.shared.engine.cipher = some 0 ∧
      state.shared.late 0 = true ∧ state.shared.delivered = [(0, ⟨1, [tagText, 65]⟩)] := by
  obtain ⟨state, hreaches, hend⟩ := exists_reaches_of_run State.step
    (State.start sampleEngine) resurrection
    (fun state => state.shared.engine.closed = true ∧
      state.shared.engine.pakePeer.isSome = true ∧
      state.shared.engine.conn = some 0 ∧ state.shared.engine.cipher = some 0 ∧
      state.shared.late 0 = true ∧ state.shared.delivered = [(0, ⟨1, [tagText, 65]⟩)])
    (by decide +kernel)
  obtain ⟨hclosed, hpeer, hrest⟩ := of_decide_eq_true hend
  exact ⟨state, hreaches, hclosed, Option.isSome_iff_ne_none.mp hpeer, hrest⟩

/-- The condition of `Unhurried`, evaluated for the first `count` goroutines. -/
def unhurried (count : ℕ) (state : State suite) (label : Label (Input suite)) : Bool :=
  match label.input with
  | .close => decide (∀ thread ∈ List.range count, installing (state.threads thread) = false)
  | .connect => !state.shared.engine.closed
  | _ => true

theorem unhurried_of_eval {count : ℕ} {state : State suite} {label : Label (Input suite)}
    (hidle : IdleFrom .idle count state.threads) (heval : unhurried count state label = true) :
    Unhurried state label where
  closing := by
    rintro ⟨thread, rfl⟩
    exact hidle.forall (fun _ goroutine => installing goroutine = false) (fun _ => rfl)
      fun other hother => of_decide_eq_true heval other (List.mem_range.mpr hother)
  connecting := by
    rintro ⟨thread, rfl⟩
    simpa [unhurried] using heval

/-- A goroutine connects and reads when another one closes the engine; it finds
that out when its next read fails. -/
def departure : List (Label (Input transparent)) :=
  reconnecting 0 ++ joining 0 ++ [⟨1, .close⟩, ⟨0, .read none⟩, ⟨0, .proceed⟩]

theorem close_final_departure : ∃ state : State transparent,
    GuardedReaches State.step Unhurried (State.start sampleEngine) state ∧
      state.shared.engine.closed = true ∧ state.shared.opened = 1 ∧
      state.shared.engine.conn = none ∧ state.shared.engine.cipher = none ∧
      state.shared.engine.pakePeer = none ∧ state.shared.engine.passphrase = none := by
  have hrun : ((State.start sampleEngine).runBelow advance (unhurried 2) 2 departure).any
      (fun state => state.shared.engine.closed = true ∧ state.shared.opened = 1) = true := by
    decide +kernel
  obtain ⟨state, hreaches, hend⟩ := exists_guardedReaches_of_runBelow _ _
    (idleFrom_start 2 sampleEngine) (fun _ _ => unhurried_of_eval) hrun
  obtain ⟨hclosed, hopened⟩ := of_decide_eq_true hend
  exact ⟨state, hreaches, hclosed, hopened,
    (close_final samplePassphrase sampleCoins sampleEngine newEngine_sample state hreaches
      hclosed state .refl).1⟩

end ZeroFeed.Finality
