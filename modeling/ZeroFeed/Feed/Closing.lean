import ZeroFeed.Feed.Finality
import ZeroFeed.Feed.Goroutines

/-!
# Rekeying against `Close`

Both engines read the cipher in one section, compute the next key, and follow
the engine's cipher pointer again in a later section.  If `Close` runs in between,
that pointer is nil and the process panics.  When `Close` keeps out of that window
no rekey meets a nil pointer, and nothing of a new epoch is installed once it has
returned.
-/

namespace ZeroFeed.Closing

open ZeroFeed.ByteString
open ZeroFeed.Messages
open ZeroFeed.Primitives
open ZeroFeed.Cipher
open ZeroFeed.Pake
open ZeroFeed.Frame
open ZeroFeed.Publisher
open ZeroFeed.Threads
open ZeroFeed.Transition
open ZeroFeed.Goroutines

/-! ## The publisher -/

section Publisher

variable {suite : Suite}

/-- The goroutine has sent its rekey frame and has yet to install the key. -/
def awaitsInstall : Goroutine → Bool
  | .rekeyInstall .. => true
  | _ => false

/-- `Close` runs while no goroutine is about to install a key. -/
def Undisturbed (sys : System) (label : Label (Input suite)) : Prop :=
  (∃ written, label.input = .close written) →
    ∀ thread, awaitsInstall (sys.threads thread) = false

/-- A closed engine is empty, an open one has a cipher. -/
structure Coherent (engine : PublisherEngine) : Prop where
  cipher : engine.cipher = none ↔ engine.closed = true
  masterKey : engine.closed = true → engine.masterKey = none
  connected : engine.closed = true → engine.connected = false

structure RekeySafe (sys : System) : Prop where
  coherent : Coherent sys.shared.engine
  running : ∀ thread, sys.threads thread ≠ .crashed
  installing : ∀ thread, awaitsInstall (sys.threads thread) = true →
    sys.shared.engine.closed = false

/-- The fields a section leaves alone unless it closes the engine or installs a
key. -/
structure SameKeys (engine engine' : PublisherEngine) : Prop where
  cipher : engine'.cipher = engine.cipher
  masterKey : engine'.masterKey = engine.masterKey
  connected : engine'.connected = engine.connected
  closed : engine'.closed = engine.closed
  sas : engine'.sas = engine.sas

theorem SameKeys.refl (engine : PublisherEngine) : SameKeys engine engine :=
  ⟨rfl, rfl, rfl, rfl, rfl⟩

theorem SameKeys.coherent {engine engine' : PublisherEngine} (hsame : SameKeys engine engine')
    (hcoherent : Coherent engine) : Coherent engine' := by
  refine ⟨?_, ?_, ?_⟩
  · rw [hsame.cipher, hsame.closed]
    exact hcoherent.cipher
  · rw [hsame.masterKey, hsame.closed]
    exact hcoherent.masterKey
  · rw [hsame.connected, hsame.closed]
    exact hcoherent.connected

theorem coherent_close {engine : PublisherEngine} (hcoherent : Coherent engine) :
    Coherent engine.close := by
  rw [PublisherEngine.close]
  split
  · exact hcoherent
  · exact ⟨iff_of_true rfl rfl, fun _ => rfl, fun _ => rfl⟩

theorem awaitsInstall_resume (next : Option Bytes) : awaitsInstall (resume next) = false := by
  cases next <;> rfl

theorem resume_ne_crashed (next : Option Bytes) : resume next ≠ .crashed := by
  cases next <;> nofun

@[simp]
theorem sendFrame_engine (shared : Shared) (sent : Sent) (written : Bool) :
    (shared.sendFrame suite sent written).2.engine = shared.engine := by
  rw [Shared.sendFrame]
  split <;> rfl

/-- What a section does to the keys: nothing, `Close`, or the installation that a
rekey ends with. -/
inductive KeyChange (suite : Suite) (shared : Shared) (goroutine : Goroutine) :
    Shared → Goroutine → Prop where
  | same {shared' : Shared} {goroutine' : Goroutine}
      (hsame : SameKeys shared.engine shared'.engine) (hrunning : goroutine' ≠ .crashed)
      (hinstall : awaitsInstall goroutine' = true → shared.engine.connected = true) :
      KeyChange suite shared goroutine shared' goroutine'
  | close {shared' : Shared} (hengine : shared'.engine = shared.engine.close)
      (hidle : goroutine = .idle) : KeyChange suite shared goroutine shared' .idle
  | install {shared' : Shared} {goroutine' : Goroutine} (nextKey : Key) (now : ℤ)
      (hawaits : awaitsInstall goroutine = true)
      (hinstall : shared.engine.installKey suite nextKey now = some shared'.engine)
      (hrunning : goroutine' ≠ .crashed) (hdone : awaitsInstall goroutine' = false) :
      KeyChange suite shared goroutine shared' goroutine'
  | crash {shared' : Shared} (hawaits : awaitsInstall goroutine = true)
      (hcipher : shared.engine.cipher = none) :
      KeyChange suite shared goroutine shared' .crashed

theorem keyChange_of_section {shared shared' : Shared} {goroutine goroutine' : Goroutine}
    (hsection : Section suite shared goroutine shared' goroutine') :
    KeyChange suite shared goroutine shared' goroutine' := by
  have hrefl := SameKeys.refl shared.engine
  cases hsection with
  | publish payload now =>
      refine .same ⟨rfl, rfl, rfl, rfl, rfl⟩ ?_ ?_
      · split <;> nofun
      · split <;> nofun
  | close written => exact .close rfl rfl
  | rekeyAbort next => exact .same hrefl (resume_ne_crashed next) (by simp [awaitsInstall_resume])
  | rekeySend currKey salt frame next hsend =>
      exact .same hrefl nofun fun _ => (Bool.and_eq_true_iff.mp hsend).1
  | rekeySendFailed currKey salt frame next =>
      exact .same hrefl (resume_ne_crashed next) (by simp [awaitsInstall_resume])
  | rekeyInstall nextKey next now engine hinstall =>
      exact .install nextKey now rfl hinstall (resume_ne_crashed next) (awaitsInstall_resume next)
  | rekeyCrash nextKey next hcipher => exact .crash rfl hcipher
  | heartbeat | publishSend | replaySend | step2Send =>
      exact .same (by rw [sendFrame_engine]; exact hrefl) nofun nofun
  | _ => exact .same ⟨rfl, rfl, rfl, rfl, rfl⟩ nofun nofun

/-- Only `Close` closes an engine. -/
theorem close_of_start {shared shared' : Shared} {goroutine' : Goroutine} {input : Input suite}
    (hstart : start suite shared input = some (shared', goroutine'))
    (hopen : shared.engine.closed = false) (hclosed : shared'.engine.closed = true) :
    ∃ written, input = .close written := by
  have hsame : shared'.engine.closed = shared.engine.closed → False := by
    intro hsame
    rw [hsame, hopen] at hclosed
    cases hclosed
  cases input with
  | close written => exact ⟨written, rfl⟩
  | publish | triggerRekey | syncReq =>
      cases hstart
      exact (hsame rfl).elim
  | heartbeat written =>
      cases hstart
      exact (hsame (by rw [sendFrame_engine])).elim
  | initSub payload peer update =>
      exact (hsame (by rw [(cases_of_start_initSub hstart).1])).elim
  | proceed | generateNonce | clock | wrapNonce | send => cases hstart

theorem rekeySafe_step {sys sys' : System} {label : Label (Input suite)}
    (hsafe : RekeySafe sys) (hguard : Undisturbed sys label)
    (hstep : System.step suite sys label = some sys') : RekeySafe sys' := by
  obtain ⟨goroutine', hadvance, hmoves⟩ := advance_of_step hstep
  have hrunning : goroutine' ≠ .crashed → ∀ other, sys'.threads other ≠ .crashed :=
    fun hself => hmoves.forall (· ≠ .crashed) hself fun other _ => hsafe.running other
  cases keyChange_of_section (section_of_advance hadvance) with
  | same hsame hself hinstall =>
      refine ⟨hsame.coherent hsafe.coherent, hrunning hself, ?_⟩
      rw [hsame.closed]
      refine hmoves.forall (fun goroutine => awaitsInstall goroutine = true → _) ?_
        fun other _ => hsafe.installing other
      intro hawaits
      -- A closed engine is not connected, so its rekey frame was not sent.
      rw [Bool.eq_false_iff]
      intro hclosed
      rw [hsafe.coherent.connected hclosed] at hinstall
      cases hinstall hawaits
  | close hengine hidle =>
      refine ⟨hengine ▸ coherent_close hsafe.coherent, hrunning nofun, ?_⟩
      cases hclosed : sys.shared.engine.closed with
      | true =>
          refine hmoves.forall (fun goroutine => awaitsInstall goroutine = true → _) nofun ?_
          intro other _ hawaits
          rw [hsafe.installing other hawaits] at hclosed
          cases hclosed
      | false =>
          have hnow : sys'.shared.engine.closed = true := by
            rw [hengine, PublisherEngine.close, if_neg (by simp [hclosed])]
          rw [hidle] at hadvance
          have hinput := close_of_start hadvance hclosed hnow
          refine hmoves.forall (fun goroutine => awaitsInstall goroutine = true → _) nofun ?_
          intro other _ hawaits
          rw [hguard hinput other] at hawaits
          cases hawaits
  | install nextKey now hawaits hinstall hself hdone =>
      have hopen := hsafe.installing label.thread hawaits
      obtain ⟨key, hcipher, hengine⟩ := Option.map_eq_some_iff.mp hinstall
      refine ⟨?_, hrunning hself, ?_⟩
      · rw [← hengine]
        refine ⟨iff_of_false nofun (by simp [hopen]), ?_, ?_⟩
        · exact fun hclosed => absurd (hclosed.symm.trans hopen) (by decide)
        · exact fun hclosed => absurd (hclosed.symm.trans hopen) (by decide)
      · rw [← hengine]
        exact fun _ _ => hopen
  | crash hawaits hcipher =>
      have hclosed := hsafe.coherent.cipher.mp hcipher
      rw [hsafe.installing label.thread hawaits] at hclosed
      cases hclosed

theorem rekeySafe_start {engine : PublisherEngine} (hcoherent : Coherent engine) :
    RekeySafe (System.start engine) :=
  ⟨hcoherent, fun _ => nofun, fun _ => nofun⟩

theorem rekeySafe_of_reaches {sys sys' : System} (hsafe : RekeySafe sys)
    (hreaches : GuardedReaches (System.step suite) Undisturbed sys sys') : RekeySafe sys' :=
  GuardedReaches.invariant (fun _ _ => trivial) hsafe (fun _ _ _ _ => rekeySafe_step) hreaches

/-- On a closed engine a section leaves the flag and the authentication string as
they are. -/
theorem closed_step {sys sys' : System} {label : Label (Input suite)}
    (hsafe : RekeySafe sys) (hclosed : sys.shared.engine.closed = true)
    (hstep : System.step suite sys label = some sys') :
    sys'.shared.engine.closed = true ∧ sys'.shared.engine.sas = sys.shared.engine.sas := by
  obtain ⟨goroutine', hadvance, hmoves⟩ := advance_of_step hstep
  cases keyChange_of_section (section_of_advance hadvance) with
  | same hsame => exact ⟨hsame.closed.trans hclosed, hsame.sas⟩
  | close hengine =>
      rw [hengine, PublisherEngine.close, if_pos hclosed]
      exact ⟨hclosed, rfl⟩
  | install _ _ hawaits | crash hawaits =>
      rw [hsafe.installing label.thread hawaits] at hclosed
      cases hclosed

/-- The publisher's half: no nil cipher is followed, and a closed engine stays
empty. -/
theorem publisher_rekeySafe {engine : PublisherEngine} (hcoherent : Coherent engine)
    {sys : System}
    (hreaches : GuardedReaches (System.step suite) Undisturbed (System.start engine) sys) :
    (∀ thread, sys.threads thread ≠ .crashed) ∧
      (sys.shared.engine.closed = true →
        ∀ later, GuardedReaches (System.step suite) Undisturbed sys later →
          later.shared.engine.cipher = none ∧ later.shared.engine.masterKey = none ∧
            later.shared.engine.sas = sys.shared.engine.sas) := by
  have hsafe := rekeySafe_of_reaches (rekeySafe_start hcoherent) hreaches
  refine ⟨hsafe.running, fun hclosed later hlater => ?_⟩
  have hkept : RekeySafe later ∧ later.shared.engine.closed = true ∧
      later.shared.engine.sas = sys.shared.engine.sas := by
    induction hlater with
    | refl => exact ⟨hsafe, hclosed, rfl⟩
    | tail _ hlast ih =>
        obtain ⟨hbefore, hclosedBefore, hsas⟩ := ih
        obtain ⟨label, hguard, hstep⟩ := hlast
        obtain ⟨hclosedAfter, hsasAfter⟩ := closed_step hbefore hclosedBefore hstep
        exact ⟨rekeySafe_step hbefore hguard hstep, hclosedAfter, hsasAfter.trans hsas⟩
  obtain ⟨hlast, hclosedLast, hsas⟩ := hkept
  exact ⟨hlast.coherent.cipher.mpr hclosedLast, hlast.coherent.masterKey hclosedLast, hsas⟩

theorem coherent_of_launch {passphrase : Bytes} {masterKey : Key} {now : ℤ} {byteLimit : ℕ}
    {timeLimit : ℤ} {engine : PublisherEngine}
    (hlaunch : launch suite passphrase masterKey now byteLimit timeLimit = .ok engine) :
    Coherent engine := by
  rw [launch, newPublisherEngine] at hlaunch
  split at hlaunch
  · cases hlaunch
  · cases hlaunch
    exact ⟨iff_of_false (Option.some_ne_none _) Bool.false_ne_true,
      fun hclosed => absurd hclosed Bool.false_ne_true,
      fun hclosed => absurd hclosed Bool.false_ne_true⟩

end Publisher

/-! ## The subscriber -/

section Subscriber

open ZeroFeed.Reconnect
open ZeroFeed.Finality

variable {suite : Suite}

/-- The goroutine handles a rekey frame and `Close` would not stop it: it has derived
the next key, or it works with a cipher object that the engine has replaced. -/
def exposed (engine : Engine suite) : Reconnect.Goroutine suite → Bool
  | .rekeyInstall _ => true
  | .rekeyDecrypt cipher _ | .rekeyGetKey cipher _ => decide (engine.cipher ≠ some cipher)
  | _ => false

/-- `Close` runs while no goroutine is exposed, and as `Unhurried` says. -/
structure Calm (state : State suite) (label : Label (Reconnect.Input suite)) : Prop extends
    Unhurried state label where
  sheltered : (∃ thread, label = ⟨thread, .close⟩) →
    ∀ thread, exposed state.shared.engine (state.threads thread) = false

/-- A goroutine that has derived a key finds a cipher to install it in, and one that
is going to derive one finds that cipher, or its own one closed. -/
def Backed (shared : Reconnect.Shared suite) : Reconnect.Goroutine suite → Prop
  | .rekeyInstall _ => shared.engine.cipher ≠ none
  | .rekeyDecrypt cipher _ | .rekeyGetKey cipher _ =>
      shared.engine.cipher ≠ none ∨ shared.ciphers cipher = none
  | goroutine => goroutine ≠ .crashed .updateKey

section Sections

variable {shared shared' : Reconnect.Shared suite}
variable {goroutine goroutine' : Reconnect.Goroutine suite} {input : Reconnect.Input suite}

/-- The goroutine that runs stays backed. -/
theorem backed_of_section (hsection : Reconnect.Section shared input goroutine shared' goroutine')
    (hbacked : Backed shared goroutine) : Backed shared' goroutine' := by
  cases hsection with
  | rekeyCipher cipher env hcipher => exact .inl (by simp [hcipher])
  | rekeyDecrypt => exact hbacked
  | rekeyGetKey cipher salt nextKey key hkey =>
      -- The cipher gave its key away, so it is not closed.
      rcases hbacked with hcipher | hclosed
      · exact hcipher
      · rw [hkey] at hclosed
        cases hclosed
  | rekeyCrash nextKey hcipher => exact absurd hcipher hbacked
  | dialFailed caller | attachFailed _ caller | helloSent _ caller | helloFailed _ caller
  | handshakeFailed _ caller | installSession _ caller =>
      -- Where it goes on depends on who called, but that is not in a rekey.
      cases caller <;> nofun
  | syncRequest site => cases site <;> nofun
  | _ => nofun

/-- A section other than `Close` leaves the engine its cipher, and an engine without
one its cipher objects. -/
theorem cipher_of_section (hsection : Reconnect.Section shared input goroutine shared' goroutine') :
    input = .close ∧ shared' = shared.close ∨
      (shared.engine.cipher ≠ none → shared'.engine.cipher ≠ none) ∧
        (shared'.engine.cipher ≠ none ∨ shared'.ciphers = shared.ciphers) := by
  cases hsection with
  | close hinput => exact .inl ⟨hinput, rfl⟩
  | installSession => exact .inr ⟨fun _ => nofun, .inl nofun⟩
  | rekeyInstall nextKey =>
      refine .inr ⟨id, ?_⟩
      cases hcipher : shared.engine.cipher with
      | none =>
          refine .inr ?_
          rw [Reconnect.Shared.updateKey, hcipher]
      | some cipher =>
          refine .inl ?_
          change shared.engine.cipher ≠ none
          rw [hcipher]
          nofun
  | dropConn =>
      rw [Shared.dropConn]
      split
      · exact .inr ⟨id, .inr rfl⟩
      · exact .inr ⟨id, .inr rfl⟩
  | _ => exact .inr ⟨id, .inr rfl⟩

/-- The other goroutines stay backed, unless `Close` finds one of them exposed. -/
theorem backed_other (hsection : Reconnect.Section shared input goroutine shared' goroutine')
    {other : Reconnect.Goroutine suite}
    (hsheltered : input = .close → exposed shared.engine other = false)
    (hbacked : Backed shared other) : Backed shared' other := by
  rcases cipher_of_section hsection with ⟨hinput, rfl⟩ | ⟨hkept, hciphers⟩
  · have hsafe := hsheltered hinput
    rw [Reconnect.Shared.close]
    split
    · exact hbacked
    cases other with
    | rekeyInstall => cases hsafe
    | rekeyDecrypt cipher | rekeyGetKey cipher =>
        have hown : shared.engine.cipher = some cipher := by simpa [exposed] using hsafe
        refine .inr ?_
        simp only [hown, Function.update_self]
    | _ => exact hbacked
  · cases other with
    | rekeyInstall => exact hkept hbacked
    | rekeyDecrypt cipher | rekeyGetKey cipher =>
        rcases hbacked with hcipher | hclosed
        · exact .inl (hkept hcipher)
        · rcases hciphers with hcipher | hsame
          · exact .inl hcipher
          · exact .inr (by rw [hsame]; exact hclosed)
    | _ => exact hbacked

/-- On a closed engine a goroutine that installs nothing changes no key. -/
theorem keys_of_section (hclosed : shared.engine.closed = true)
    (hcipher : shared.engine.cipher = none) (hsettled : installing goroutine = false)
    (hbacked : Backed shared goroutine)
    (hsection : Reconnect.Section shared input goroutine shared' goroutine') :
    shared'.ciphers = shared.ciphers ∧ shared'.engine.sas = shared.engine.sas := by
  cases hsection with
  | installSession => cases hsettled
  | rekeyInstall => exact absurd hcipher hbacked
  | close =>
      rw [Reconnect.Shared.close, if_pos hclosed]
      exact ⟨rfl, rfl⟩
  | dropConn =>
      rw [Shared.dropConn]
      split
      · exact ⟨rfl, rfl⟩
      · exact ⟨rfl, rfl⟩
  | _ => exact ⟨rfl, rfl⟩

end Sections

/-- Every goroutine is backed; in particular none has crashed. -/
def AllBacked (state : State suite) : Prop :=
  ∀ thread, Backed state.shared (state.threads thread)

theorem allBacked_step {state state' : State suite} {label : Label (Reconnect.Input suite)}
    (hbacked : AllBacked state) (hguard : Calm state label)
    (hstep : State.step state label = some state') : AllBacked state' := by
  obtain ⟨goroutine', hsection, hmoves⟩ := section_of_step hstep
  refine hmoves.forall (Backed state'.shared) ?_ fun other _ => ?_
  · exact backed_of_section hsection (hbacked label.thread)
  · refine backed_other hsection (fun hclose => ?_) (hbacked other)
    exact hguard.sheltered ⟨label.thread, by rw [← hclose]⟩ other

theorem allBacked_of_reaches {state state' : State suite} (hbacked : AllBacked state)
    (hreaches : GuardedReaches State.step Calm state state') : AllBacked state' :=
  GuardedReaches.invariant (fun _ _ => trivial) hbacked (fun _ _ _ _ => allBacked_step) hreaches

theorem allBacked_start (engine : Engine suite) : AllBacked (State.start engine) :=
  fun _ => nofun

theorem AllBacked.running {state : State suite} (hbacked : AllBacked state) (thread : ℕ) :
    state.threads thread ≠ .crashed .updateKey := by
  intro hcrashed
  have hthread := hbacked thread
  rw [hcrashed] at hthread
  exact hthread rfl

theorem Calm.unhurried_of_reaches {state state' : State suite}
    (hreaches : GuardedReaches State.step Calm state state') :
    GuardedReaches State.step Unhurried state state' :=
  Relation.ReflTransGen.mono (fun _ _ ⟨label, hcalm, hstep⟩ => ⟨label, hcalm.toUnhurried, hstep⟩)
    state state' hreaches

theorem keys_step {state state' : State suite} {label : Label (Reconnect.Input suite)}
    (hfinal : Final state) (hbacked : AllBacked state)
    (hclosed : state.shared.engine.closed = true) (hstep : State.step state label = some state') :
    state'.shared.ciphers = state.shared.ciphers ∧
      state'.shared.engine.sas = state.shared.engine.sas := by
  obtain ⟨goroutine', hsection, -⟩ := section_of_step hstep
  exact keys_of_section hclosed (hfinal.released hclosed).cipher (hfinal.settled hclosed _)
    (hbacked _) hsection

/-- The subscriber's half. -/
theorem subscriber_rekeySafe {engine : Engine suite} (hopen : engine.closed = false)
    {state : State suite}
    (hreaches : GuardedReaches State.step Calm (State.start engine) state) :
    (∀ thread, state.threads thread ≠ .crashed .updateKey) ∧
      (state.shared.engine.closed = true →
        ∀ later, GuardedReaches State.step Calm state later →
          later.shared.engine.cipher = none ∧ later.shared.ciphers = state.shared.ciphers ∧
            later.shared.engine.sas = state.shared.engine.sas) := by
  have hbacked := allBacked_of_reaches (allBacked_start engine) hreaches
  have hfinal := final_of_reaches hopen (Calm.unhurried_of_reaches hreaches)
  refine ⟨hbacked.running, fun hclosed later hlater => ?_⟩
  have hkept : Final later ∧ AllBacked later ∧ later.shared.engine.closed = true ∧
      later.shared.ciphers = state.shared.ciphers ∧
      later.shared.engine.sas = state.shared.engine.sas := by
    induction hlater with
    | refl => exact ⟨hfinal, hbacked, hclosed, rfl, rfl⟩
    | tail _ hlast ih =>
        obtain ⟨hfinalBefore, hbackedBefore, hclosedBefore, hciphers, hsas⟩ := ih
        obtain ⟨label, hguard, hstep⟩ := hlast
        obtain ⟨hciphersAfter, hsasAfter⟩ :=
          keys_step hfinalBefore hbackedBefore hclosedBefore hstep
        exact ⟨final_step hfinalBefore hguard.toUnhurried hstep,
          allBacked_step hbackedBefore hguard hstep, Finality.closed_step hclosedBefore hstep,
          hciphersAfter.trans hciphers, hsasAfter.trans hsas⟩
  obtain ⟨hfinalLast, -, hclosedLast, hciphers, hsas⟩ := hkept
  exact ⟨(hfinalLast.released hclosedLast).cipher, hciphers, hsas⟩

end Subscriber

/-! ## Both engines -/

/-- While `Close` keeps out of the window, neither engine calls `UpdateKey` through
a nil pointer and neither installs anything of a new epoch after `Close`. -/
theorem rekey_safe_against_close (suite : Suite) :
    (∀ passphrase masterKey now byteLimit timeLimit engine,
      launch suite passphrase masterKey now byteLimit timeLimit = .ok engine →
      ∀ sys, GuardedReaches (System.step suite) Undisturbed (System.start engine) sys →
        (∀ thread, sys.threads thread ≠ .crashed) ∧
        (sys.shared.engine.closed = true →
          ∀ later, GuardedReaches (System.step suite) Undisturbed sys later →
            later.shared.engine.cipher = none ∧ later.shared.engine.masterKey = none ∧
              later.shared.engine.sas = sys.shared.engine.sas)) ∧
    (∀ passphrase (coins : PeerCoins suite) engine,
      Reconnect.newEngine passphrase coins = .ok engine →
      ∀ state, GuardedReaches Reconnect.State.step Calm
          (Reconnect.State.start engine) state →
        (∀ thread, state.threads thread ≠ .crashed .updateKey) ∧
        (state.shared.engine.closed = true →
          ∀ later, GuardedReaches Reconnect.State.step Calm state later →
            later.shared.engine.cipher = none ∧ later.shared.ciphers = state.shared.ciphers ∧
              later.shared.engine.sas = state.shared.engine.sas)) :=
  ⟨fun _ _ _ _ _ _ hlaunch _ hreaches =>
      publisher_rekeySafe (coherent_of_launch hlaunch) hreaches,
    fun _ _ _ hnew _ hreaches =>
      subscriber_rekeySafe (Finality.open_of_newEngine hnew) hreaches⟩

/-! ## Runs -/

/-- A rekey up to the frame it sends. -/
def rekeySent : List (Label (Input transparent)) :=
  [⟨0, .triggerRekey⟩, ⟨0, .proceed⟩, ⟨0, .generateNonce (some (copyFixed nonceSize [7]))⟩,
    ⟨0, .proceed⟩, ⟨0, .proceed⟩, ⟨0, .send true⟩]

/-- A subscriber that has joined handles a rekey frame, up to the key it derives
from it. -/
def rekeyRead : List (Label (Reconnect.Input transparent)) :=
  Reconnect.reconnecting 0 ++ Reconnect.joining 0 ++
    [⟨0, .read (some (Reconnect.sampleFrame
        (rekeyFrame Reconnect.sampleKey 1 (copyFixed nonceSize [7]))))⟩,
      ⟨0, .proceed⟩, ⟨0, .proceed⟩, ⟨0, .proceed⟩]

/-- `Close` in the window lets both engines panic. -/
theorem close_crashes_rekey :
    (∃ engine sys, launch transparent [1] (copyFixed keySize []) 0 0 0 = .ok engine ∧
      Reaches (System.step transparent) (System.start engine) sys ∧ sys.threads 0 = .crashed) ∧
    ∃ state : Reconnect.State transparent,
      Reaches Reconnect.State.step
        (Reconnect.State.start Reconnect.sampleEngine) state ∧
      state.threads 0 = .crashed .updateKey := by
  constructor
  · obtain ⟨engine, hlaunch⟩ : ∃ engine,
        launch transparent [1] (copyFixed keySize []) 0 0 0 = .ok engine := ⟨_, rfl⟩
    have hrun : (run (System.step transparent) (System.start engine)
        (rekeySent ++ [⟨1, .close true⟩, ⟨0, .clock 0⟩])).any
        (fun sys => sys.threads 0 = .crashed) = true := by
      cases hlaunch
      decide +kernel
    obtain ⟨sys, hreaches, hcrash⟩ := exists_reaches_of_run _ _ _ _ hrun
    exact ⟨engine, sys, hlaunch, hreaches, of_decide_eq_true hcrash⟩
  · obtain ⟨state, hreaches, hcrash⟩ := exists_reaches_of_run Reconnect.State.step
      (Reconnect.State.start Reconnect.sampleEngine)
      (rekeyRead ++ [⟨1, .close⟩, ⟨0, .proceed⟩])
      (fun state => (state.threads 0).cause = some .updateKey) (by decide +kernel)
    exact ⟨state, hreaches, Reconnect.Goroutine.eq_crashed_of_cause (of_decide_eq_true hcrash)⟩

/-- `Undisturbed` for the first two goroutines, evaluated. -/
def undisturbed (sys : System) (label : Label (Input transparent)) : Bool :=
  match label.input with
  | .close _ => !awaitsInstall (sys.threads 0) && !awaitsInstall (sys.threads 1)
  | _ => true

theorem undisturbed_of_eval {sys : System} {label : Label (Input transparent)}
    (hidle : IdleFrom .idle 2 sys.threads) (heval : undisturbed sys label = true) :
    Undisturbed sys label := by
  rintro ⟨written, hclose⟩
  rw [undisturbed, hclose, Bool.and_eq_true, Bool.not_eq_true', Bool.not_eq_true'] at heval
  refine hidle.forall (fun _ goroutine => awaitsInstall goroutine = false) (fun _ => rfl) ?_
  intro other hother
  interval_cases other
  · exact heval.1
  · exact heval.2

/-- `Calm`, evaluated for the first `count` goroutines. -/
def calm (count : ℕ) (state : Reconnect.State transparent)
    (label : Label (Reconnect.Input transparent)) : Bool :=
  Finality.unhurried count state label &&
    match label.input with
    | .close => decide (∀ thread ∈ List.range count,
        exposed state.shared.engine (state.threads thread) = false)
    | _ => true

theorem calm_of_eval {count : ℕ} {state : Reconnect.State transparent}
    {label : Label (Reconnect.Input transparent)} (hidle : IdleFrom .idle count state.threads)
    (heval : calm count state label = true) : Calm state label := by
  obtain ⟨hunhurried, hsheltered⟩ := Bool.and_eq_true_iff.mp heval
  refine ⟨Finality.unhurried_of_eval hidle hunhurried, ?_⟩
  rintro ⟨thread, rfl⟩
  exact hidle.forall (fun _ goroutine => exposed state.shared.engine goroutine = false)
    (fun _ => rfl) fun other hother =>
      of_decide_eq_true hsheltered other (List.mem_range.mpr hother)

/-- Both engines finish a rekey and are closed after it. -/
theorem rekey_safe_against_close_afterwards :
    (∃ engine, ∃ sys : System,
      launch transparent [1] (copyFixed keySize []) 0 0 0 = .ok engine ∧
      sys.shared.engine.sas = calculateSAS transparent
        (ratchet transparent (copyFixed keySize []) (copyFixed nonceSize [7]).val).val ∧
      (∀ thread, sys.threads thread ≠ .crashed) ∧ sys.shared.engine.cipher = none) ∧
    ∃ state : Reconnect.State transparent,
      state.shared.engine.sas = calculateSAS transparent
        (ratchet transparent Reconnect.sampleKey (copyFixed nonceSize [7]).val).val ∧
      (∀ thread, state.threads thread ≠ .crashed .updateKey) ∧
      state.shared.engine.cipher = none := by
  constructor
  · obtain ⟨engine, hlaunch⟩ : ∃ engine,
        launch transparent [1] (copyFixed keySize []) 0 0 0 = .ok engine := ⟨_, rfl⟩
    have hrun : ((System.start engine).runBelow undisturbed 2
        (rekeySent ++ [⟨0, .clock 0⟩, ⟨1, .close true⟩])).any
        (fun sys => sys.shared.engine.closed = true ∧
          sys.shared.engine.sas = calculateSAS transparent
            (ratchet transparent (copyFixed keySize []) (copyFixed nonceSize [7]).val).val) =
          true := by
      cases hlaunch
      decide +kernel
    obtain ⟨sys, hsys, hend⟩ := (Option.any_eq_true _ _).mp hrun
    obtain ⟨hclosed, hsas⟩ := of_decide_eq_true hend
    obtain ⟨hreaches, -⟩ := guardedReaches_of_runBelow (idleFrom_start 2 engine)
      (fun _ _ => undisturbed_of_eval) hsys
    obtain ⟨hrunning, hafter⟩ :=
      (rekey_safe_against_close transparent).1 _ _ _ _ _ engine hlaunch sys hreaches
    exact ⟨engine, sys, hlaunch, hsas, hrunning, (hafter hclosed sys .refl).1⟩
  · have hrun : ((Reconnect.State.start Reconnect.sampleEngine).runBelow Reconnect.advance (calm 2)
        2 (rekeyRead ++ [⟨0, .proceed⟩, ⟨1, .close⟩])).any
        (fun state => state.shared.engine.closed = true ∧
          state.shared.engine.sas = calculateSAS transparent
            (ratchet transparent Reconnect.sampleKey (copyFixed nonceSize [7]).val).val) =
          true := by
      decide +kernel
    obtain ⟨state, hreaches, hend⟩ := exists_guardedReaches_of_runBelow _ _
      (Reconnect.idleFrom_start 2 Reconnect.sampleEngine) (fun _ _ => calm_of_eval) hrun
    obtain ⟨hclosed, hsas⟩ := of_decide_eq_true hend
    obtain ⟨hrunning, hafter⟩ := (rekey_safe_against_close transparent).2 _ _ _
      Reconnect.newEngine_sample state hreaches
    exact ⟨state, hsas, hrunning, (hafter hclosed state .refl).1⟩

end ZeroFeed.Closing
