import ZeroFeed.Feed.Closing

/-!
# The key state of both engines stays coherent

The publisher keeps its key twice: in the cipher that seals the stream and in
`masterKey`, from which late joiners are keyed.  The authentication string is
computed from it.  All of them change in the last section of `TriggerRekey` and
nowhere else before `Close`, whatever fails on the way there.  The subscriber's
authentication string follows the key of its cipher in the same way.  Every
state of the machines is one in which the engine's mutex is free, since a
section is one step.  `CompleteHandshake` takes its copy of the master key in the
same section as the answer to a later joiner.
-/

namespace ZeroFeed.Coherence

open ZeroFeed.ByteString
open ZeroFeed.Messages
open ZeroFeed.Primitives
open ZeroFeed.Cipher
open ZeroFeed.Pake
open ZeroFeed.Frame
open ZeroFeed.Publisher
open ZeroFeed.Threads
open ZeroFeed.Transition
open ZeroFeed.Goroutines

/-! ## The publisher -/

section Publisher

variable {suite : Suite}

/-- Before `Close` the cipher, the master key and the authentication string stand
for one key. -/
def Keyed (suite : Suite) (engine : PublisherEngine) : Prop :=
  engine.closed = false → ∃ key, engine.cipher = some key ∧ engine.masterKey = some key ∧
    engine.sas = calculateSAS suite key.val

theorem keyed_close (engine : PublisherEngine) : Keyed suite engine.close := by
  intro hopen
  rw [PublisherEngine.close] at hopen
  split at hopen
  · rename_i hclosed
    rw [hclosed] at hopen
    cases hopen
  · cases hopen

/-- One section keeps the keys together. -/
theorem keyed_of_section {shared shared' : Shared} {goroutine goroutine' : Goroutine}
    (hkeyed : Keyed suite shared.engine)
    (hsection : Section suite shared goroutine shared' goroutine') :
    Keyed suite shared'.engine := by
  cases hsection with
  | close => exact keyed_close shared.engine
  | rekeyInstall nextKey next now engine hinstall =>
      obtain ⟨key, -, rfl⟩ := Option.map_eq_some_iff.mp hinstall
      exact fun _ => ⟨nextKey, rfl, rfl, rfl⟩
  | heartbeat | publishSend | replaySend | step2Send =>
      rw [Closing.sendFrame_engine]
      exact hkeyed
  | _ => exact hkeyed

theorem keyed_of_reaches {sys sys' : System} (hkeyed : Keyed suite sys.shared.engine)
    (hreaches : Reaches (System.step suite) sys sys') : Keyed suite sys'.shared.engine := by
  induction hreaches with
  | refl => exact hkeyed
  | tail _ hlast ih =>
      obtain ⟨label, hstep⟩ := hlast
      obtain ⟨goroutine', hsection, -⟩ := section_of_step hstep
      exact keyed_of_section ih hsection

/-! ### Failed rekeys -/

/-- Where `TriggerRekey` gives up. -/
inductive RekeyError where
  | generateNonce
  | encrypt
  | sendFrame
  | ratchetKey
  | updateKey
  deriving DecidableEq

/-- What `TriggerRekey` returns, if it returns in the section that starts
here. -/
def rekeyResult (suite : Suite) (shared : Shared) :
    Goroutine → Input suite → Option (Except RekeyError Unit)
  | .rekeySnapshot _, .generateNonce salt =>
      match shared.engine.cipher, salt with
      | none, _ => some (.ok ())
      | some _, none => some (.error .generateNonce)
      | some _, some _ => none
  | .rekeySeal .., .proceed =>
      match shared.engine.cipher with
      | none => some (.error .encrypt)
      | some _ => none
  | .rekeySend currKey salt frame _, .send written =>
      if (shared.sendFrame suite (.sealed frame) written).1 then
        match ratchetKey suite currKey.val salt.val with
        | .error _ => some (.error .ratchetKey)
        | .ok _ => none
      else some (.error .sendFrame)
  | .rekeyInstall nextKey _, .clock _ =>
      match newCipher nextKey with
      | .error _ => some (.error .updateKey)
      | .ok _ => if shared.engine.cipher.isSome then some (.ok ()) else none
  | _, _ => none

/-- The state that a rekey replaces. -/
structure KeyState where
  cipher : Option Key
  masterKey : Option Key
  sas : SAS
  bytesSinceRekey : ℕ
  lastRekeyTime : ℤ

def keyState (engine : PublisherEngine) : KeyState :=
  ⟨engine.cipher, engine.masterKey, engine.sas, engine.bytesSinceRekey, engine.lastRekeyTime⟩

/-- A section of `TriggerRekey` that does not end it with success leaves the key
state alone. -/
theorem keyState_of_advanceRekey {shared shared' : Shared} {goroutine goroutine' : Goroutine}
    {input : Input suite}
    (hadvance : advanceRekey suite shared goroutine input = some (shared', goroutine'))
    (hresult : rekeyResult suite shared goroutine input ≠ some (.ok ())) :
    keyState shared'.engine = keyState shared.engine := by
  simp only [advanceRekey] at hadvance
  split at hadvance
  · split at hadvance
    · cases hadvance
    · cases hadvance
      rfl
  · split at hadvance
    · cases hadvance
      rfl
    · cases hadvance
      rfl
  · cases hadvance
    rfl
  · split at hadvance
    · cases hadvance
      rfl
    · cases hadvance
      rfl
  · rename_i currKey salt frame next written
    have hengine : (shared.sendFrame suite (.sealed frame) written).2.engine = shared.engine :=
      Closing.sendFrame_engine shared _ written
    split at hadvance
    · cases hadvance
      rw [hengine]
    · cases hadvance
      rw [← hengine]
      rfl
  · rename_i nextKey next now
    split at hadvance
    · cases hadvance
      rfl
    · rename_i key hkey
      split at hadvance
      · cases hadvance
        rfl
      · rename_i engine hinstall
        obtain ⟨current, hcipher, -⟩ := Option.map_eq_some_iff.mp hinstall
        refine absurd ?_ hresult
        simp [rekeyResult, hkey, hcipher]
  · cases hadvance

/-- `rekeyResult` says when the call is over: the goroutine is then back where
`TriggerRekey` was called. -/
theorem rekeyResult_isSome_iff {shared shared' : Shared} {goroutine goroutine' : Goroutine}
    {input : Input suite}
    (hadvance : advanceRekey suite shared goroutine input = some (shared', goroutine')) :
    (rekeyResult suite shared goroutine input).isSome = true ↔
      inRekey goroutine' = false ∧ goroutine' ≠ .crashed := by
  have hresume : ∀ next, inRekey (resume next) = false ∧ resume next ≠ .crashed := by
    intro next
    cases next <;> exact ⟨rfl, Goroutine.noConfusion⟩
  simp only [advanceRekey] at hadvance
  split at hadvance
  · split at hadvance
    · cases hadvance
    · cases hadvance
      simp [rekeyResult, inRekey]
  · split at hadvance
    · rename_i hcipher
      cases hadvance
      simp [rekeyResult, inRekey, hcipher]
    · rename_i next salt _ _ hneither
      cases hadvance
      refine iff_of_true ?_ (hresume next)
      cases hcipher : shared.engine.cipher with
      | none => simp [rekeyResult, hcipher]
      | some key =>
          cases hsalt : salt with
          | none => simp [rekeyResult, hcipher]
          | some drawn => exact (hneither key drawn hcipher hsalt).elim
  · cases hadvance
    simp [rekeyResult, inRekey]
  · split at hadvance
    · rename_i next hcipher
      cases hadvance
      exact iff_of_true (by simp [rekeyResult, hcipher]) (hresume _)
    · rename_i hcipher
      cases hadvance
      simp [rekeyResult, inRekey, hcipher]
  · split at hadvance
    · rename_i hsent hratchet
      cases hadvance
      simp [rekeyResult, inRekey, hsent, hratchet]
    · rename_i hneither
      cases hadvance
      refine iff_of_true ?_ (hresume _)
      rw [rekeyResult]
      split
      · rename_i hsent
        split
        · rfl
        · rename_i nextKey hratchet
          exact (hneither nextKey hsent hratchet).elim
      · rfl
  · split at hadvance
    · rename_i hkey
      cases hadvance
      exact iff_of_true (by simp [rekeyResult, hkey]) (hresume _)
    · rename_i key hkey
      split at hadvance
      · rename_i hinstall
        cases hadvance
        have hcipher := Option.map_eq_none_iff.mp hinstall
        simp [rekeyResult, hkey, hcipher]
      · rename_i engine hinstall
        obtain ⟨current, hcipher, -⟩ := Option.map_eq_some_iff.mp hinstall
        cases hadvance
        exact iff_of_true (by simp [rekeyResult, hkey, hcipher]) (hresume _)
  · cases hadvance

/-- One `TriggerRekey` of a goroutine, among sections of others: what it returns,
and the engine before and after each of its own sections. -/
inductive RekeyCall (suite : Suite) (thread : ℕ) (result : Except RekeyError Unit) :
    List (PublisherEngine × PublisherEngine) → System → System → Prop where
  | other {own : List (PublisherEngine × PublisherEngine)} {sys next sys' : System}
      {label : Label (Input suite)} (hne : label.thread ≠ thread)
      (hstep : System.step suite sys label = some next)
      (hrest : RekeyCall suite thread result own next sys') :
      RekeyCall suite thread result own sys sys'
  | proceeds {own : List (PublisherEngine × PublisherEngine)} {sys next sys' : System}
      {input : Input suite} (hinside : inRekey (sys.threads thread) = true)
      (hstep : System.step suite sys ⟨thread, input⟩ = some next)
      (hresult : rekeyResult suite sys.shared (sys.threads thread) input = none)
      (hrest : RekeyCall suite thread result own next sys') :
      RekeyCall suite thread result ((sys.shared.engine, next.shared.engine) :: own) sys sys'
  | returns {sys sys' : System} {input : Input suite}
      (hinside : inRekey (sys.threads thread) = true)
      (hstep : System.step suite sys ⟨thread, input⟩ = some sys')
      (hresult : rekeyResult suite sys.shared (sys.threads thread) input = some result) :
      RekeyCall suite thread result [(sys.shared.engine, sys'.shared.engine)] sys sys'

theorem keyState_of_step {sys sys' : System} {thread : ℕ} {input : Input suite}
    (hinside : inRekey (sys.threads thread) = true)
    (hstep : System.step suite sys ⟨thread, input⟩ = some sys')
    (hresult : rekeyResult suite sys.shared (sys.threads thread) input ≠ some (.ok ())) :
    keyState sys'.shared.engine = keyState sys.shared.engine := by
  obtain ⟨goroutine', hadvance, -⟩ := advance_of_step hstep
  have hrekey : advanceRekey suite sys.shared (sys.threads thread) input =
      some (sys'.shared, goroutine') := by
    rw [← hadvance]
    dsimp only
    cases hpoint : sys.threads thread with
    | rekeyLock | rekeySnapshot | rekeyDraw | rekeySeal | rekeySend | rekeyInstall => rfl
    | _ =>
        rw [hpoint] at hinside
        cases hinside
  exact keyState_of_advanceRekey hrekey hresult

/-- A `TriggerRekey` that returns an error has changed nothing of the key
state. -/
theorem keyState_of_failed {thread : ℕ} {err : RekeyError}
    {own : List (PublisherEngine × PublisherEngine)} {sys sys' : System}
    (hcall : RekeyCall suite thread (.error err) own sys sys') :
    ∀ change ∈ own, keyState change.2 = keyState change.1 := by
  induction hcall with
  | other _ _ _ ih => exact ih
  | proceeds hinside hstep hresult _ ih =>
      rw [List.forall_mem_cons]
      refine ⟨keyState_of_step hinside hstep ?_, ih⟩
      rw [hresult]
      exact (Option.some_ne_none _).symm
  | returns hinside hstep hresult =>
      rw [List.forall_mem_singleton]
      apply keyState_of_step hinside hstep
      rw [hresult]
      simp

end Publisher

/-! ## The subscriber -/

section Subscriber

open ZeroFeed.Reconnect

variable {suite : Suite}

/-- The authentication string belongs to the key of the cipher, and the key a
rekey is about to install has the right length. -/
structure Matching (state : Reconnect.State suite) : Prop where
  sas : ∀ cipher key, state.shared.engine.cipher = some cipher →
    state.shared.ciphers cipher = some key →
      state.shared.engine.sas = calculateSAS suite key.val
  sized : ∀ thread nextKey, state.threads thread = .rekeyInstall nextKey →
    nextKey.length = keySize

theorem sized_of_advance {shared shared' : Reconnect.Shared suite}
    {goroutine : Reconnect.Goroutine suite} {input : Reconnect.Input suite} {nextKey : Bytes}
    (hadvance : Reconnect.advance shared goroutine input =
      some (shared', .rekeyInstall nextKey)) : nextKey.length = keySize := by
  generalize hinstall : (Reconnect.Goroutine.rekeyInstall nextKey) = goroutine' at hadvance
  have hsection := Reconnect.section_of_advance hadvance
  cases hsection with
  | rekeyGetKey cipher salt derived =>
      cases hinstall
      cases input with
      | proceed =>
          simp only [Reconnect.advance, receiveRekey] at hadvance
          split at hadvance
          · cases hadvance
          · split at hadvance
            · cases hadvance
            · rename_i hratchet
              cases hadvance
              exact length_ratchetKey hratchet
      | _ => cases hadvance
  | dialFailed caller | attachFailed _ caller | helloSent _ caller | helloFailed _ caller
  | handshakeFailed _ caller | installSession _ caller =>
      cases caller <;> cases hinstall
  | syncRequest site => cases site <;> cases hinstall
  | _ => cases hinstall

section Keys

variable {shared shared' : Reconnect.Shared suite}
variable {goroutine goroutine' : Reconnect.Goroutine suite} {input : Reconnect.Input suite}

/-- A section keeps the authentication string of the cipher's key. -/
theorem matching_of_section
    (hsas : ∀ cipher key, shared.engine.cipher = some cipher →
      shared.ciphers cipher = some key → shared.engine.sas = calculateSAS suite key.val)
    (hsized : ∀ nextKey, goroutine = .rekeyInstall nextKey → nextKey.length = keySize)
    (hsection : Reconnect.Section shared input goroutine shared' goroutine') :
    ∀ cipher key, shared'.engine.cipher = some cipher →
      shared'.ciphers cipher = some key → shared'.engine.sas = calculateSAS suite key.val := by
  cases hsection with
  | installSession masterKey =>
      intro cipher key hcipher hkey
      obtain rfl := Option.some.inj hcipher
      have hupdate : Function.update shared.ciphers shared.created (some masterKey)
          shared.created = some key := hkey
      rw [Function.update_self] at hupdate
      obtain rfl := Option.some.inj hupdate
      rfl
  | rekeyInstall nextKey =>
      intro cipher key hcipher hkey
      have hcurrent : shared.engine.cipher = some cipher := hcipher
      have hlength := hsized nextKey rfl
      simp only [Shared.updateKey, hcurrent, Function.update_self, newCipher, dif_pos hlength]
        at hkey
      obtain rfl := Option.some.inj hkey
      rfl
  | close =>
      rw [Shared.close]
      split
      · exact hsas
      · rintro cipher key ⟨⟩
  | dropConn =>
      rw [Shared.dropConn]
      split
      · exact hsas
      · exact hsas
  | _ => exact hsas

end Keys

theorem matching_step {state state' : Reconnect.State suite}
    {label : Label (Reconnect.Input suite)} (hmatching : Matching state)
    (hstep : Reconnect.State.step state label = some state') : Matching state' := by
  obtain ⟨goroutine', hadvance, hmoves⟩ := advance_of_step hstep
  constructor
  · exact matching_of_section hmatching.sas (hmatching.sized label.thread)
      (Reconnect.section_of_advance hadvance)
  · refine hmoves.forall
      (fun goroutine => ∀ nextKey, goroutine = .rekeyInstall nextKey → nextKey.length = keySize)
      ?_ fun other _ => hmatching.sized other
    rintro nextKey rfl
    exact sized_of_advance hadvance

theorem matching_start (engine : Engine suite) : Matching (Reconnect.State.start engine) := by
  constructor
  · intro cipher key hcipher hkey
    cases hkey
  · rintro thread nextKey ⟨⟩

end Subscriber

/-! ## Both engines -/

/-- In every state of a publisher before `Close` its cipher, master key and
authentication string belong to one key, and a `TriggerRekey` that fails has
changed nothing of them or of the rekey counters.  A subscriber's authentication
string always belongs to the key of its cipher. -/
theorem keys_coherent (suite : Suite) :
    (∀ passphrase masterKey now fresh,
      newPublisherEngine suite passphrase masterKey now = .ok fresh →
      ∀ byteLimit timeLimit connected sys,
        Reaches (System.step suite) (System.start
          { fresh.setRekeyThresholds byteLimit timeLimit with connected := connected }) sys →
        (sys.shared.engine.closed = false → ∃ key, sys.shared.engine.cipher = some key ∧
          sys.shared.engine.masterKey = some key ∧
          sys.shared.engine.sas = calculateSAS suite key.val) ∧
        ∀ thread err own sys', RekeyCall suite thread (.error err) own sys sys' →
          ∀ change ∈ own, keyState change.2 = keyState change.1) ∧
    ∀ passphrase (coins : PeerCoins suite) engine,
      Reconnect.newEngine passphrase coins = .ok engine →
      ∀ state, Reaches Reconnect.State.step (Reconnect.State.start engine) state →
        ∀ cipher key, state.shared.engine.cipher = some cipher →
          state.shared.ciphers cipher = some key →
            state.shared.engine.sas = calculateSAS suite key.val := by
  constructor
  · intro passphrase masterKey now fresh hnew byteLimit timeLimit connected sys hreaches
    refine ⟨keyed_of_reaches ?_ hreaches, fun _ _ _ _ => keyState_of_failed⟩
    rw [newPublisherEngine] at hnew
    split at hnew
    · cases hnew
    · cases hnew
      exact fun _ => ⟨masterKey, rfl, rfl, rfl⟩
  · intro passphrase coins engine hnew state hreaches
    exact (Reaches.invariant (matching_start engine)
      (fun _ _ _ => matching_step) hreaches).sas

/-! ## A failed rekey and a completed one -/

/-- Follow a schedule until the goroutine returns from `TriggerRekey`. -/
def followRekey (suite : Suite) (thread : ℕ) (sys : System) :
    List (Label (Input suite)) → Option (Except RekeyError Unit × System)
  | [] => none
  | label :: schedule =>
      match System.step suite sys label with
      | none => none
      | some next =>
          if label.thread = thread then
            if inRekey (sys.threads thread) then
              match rekeyResult suite sys.shared (sys.threads thread) label.input with
              | some result => some (result, next)
              | none => followRekey suite thread next schedule
            else none
          else followRekey suite thread next schedule

theorem rekeyCall_of_followRekey {suite : Suite} {thread : ℕ} {sys sys' : System}
    {schedule : List (Label (Input suite))} {result : Except RekeyError Unit}
    (hfollow : followRekey suite thread sys schedule = some (result, sys')) :
    ∃ own, own ≠ [] ∧ RekeyCall suite thread result own sys sys' := by
  induction schedule generalizing sys with
  | nil => cases hfollow
  | cons entry schedule ih =>
      obtain ⟨other, input⟩ := entry
      rw [followRekey] at hfollow
      split at hfollow
      · cases hfollow
      · rename_i next hstep
        split at hfollow
        · rename_i hself
          subst hself
          split at hfollow
          · rename_i hinside
            split at hfollow
            · rename_i hresult
              cases hfollow
              exact ⟨_, List.cons_ne_nil _ _, .returns hinside hstep hresult⟩
            · rename_i hresult
              obtain ⟨own, -, hcall⟩ := ih hfollow
              exact ⟨_, List.cons_ne_nil _ _, .proceeds hinside hstep hresult hcall⟩
          · cases hfollow
        · rename_i hne
          obtain ⟨own, hown, hcall⟩ := ih hfollow
          exact ⟨own, hown, .other hne hstep hcall⟩

/-- A rekey whose frame cannot be written, with a message in between. -/
def rekeyUnsent : List (Label (Input transparent)) :=
  [⟨0, .proceed⟩, ⟨0, .generateNonce (some (copyFixed nonceSize []))⟩, ⟨0, .proceed⟩,
    ⟨0, .proceed⟩, ⟨1, .publish [7] 0⟩, ⟨0, .send false⟩]

/-- A publisher whose rekey frame is not sent, and a subscriber that has followed
a rekey. -/
theorem keys_coherent_after_rekeys :
    (∃ fresh sys sys' own,
      newPublisherEngine transparent [1] (copyFixed keySize []) 0 = .ok fresh ∧
      Reaches (System.step transparent) (System.start
        { fresh.setRekeyThresholds 0 0 with connected := true }) sys ∧
      RekeyCall transparent 0 (.error .sendFrame) own sys sys' ∧ own ≠ [] ∧
      (∃ key, sys.shared.engine.cipher = some key ∧ sys.shared.engine.masterKey = some key ∧
        sys.shared.engine.sas = calculateSAS transparent key.val) ∧
      ∀ change ∈ own, keyState change.2 = keyState change.1) ∧
    ∃ state : Reconnect.State transparent,
      state.shared.engine.cipher = some 0 ∧
      state.shared.ciphers 0 =
        some (ratchet transparent Reconnect.sampleKey (copyFixed nonceSize [7]).val) ∧
      state.shared.engine.sas = calculateSAS transparent
        (ratchet transparent Reconnect.sampleKey (copyFixed nonceSize [7]).val).val := by
  constructor
  · obtain ⟨fresh, hnew⟩ : ∃ fresh,
        newPublisherEngine transparent [1] (copyFixed keySize []) 0 = .ok fresh := ⟨_, rfl⟩
    have hrun : (run (System.step transparent) (System.start
        { fresh.setRekeyThresholds 0 0 with connected := true })
          (Closing.rekeySent ++ [⟨0, .clock 0⟩, ⟨0, .triggerRekey⟩])).any (fun sys =>
        decide (sys.shared.engine.closed = false) &&
          (followRekey transparent 0 sys rekeyUnsent).any fun after =>
            match after.1 with
            | .error err => decide (err = .sendFrame)
            | .ok () => false) = true := by
      cases hnew
      decide +kernel
    obtain ⟨sys, hreaches, hend⟩ := exists_reaches_of_run _ _ _ _ hrun
    obtain ⟨hopen, hend⟩ := Bool.and_eq_true_iff.mp hend
    obtain ⟨⟨result, sys'⟩, hfollow, hresult⟩ := (Option.any_eq_true _ _).mp hend
    obtain ⟨own, hown, hcall⟩ := rekeyCall_of_followRekey hfollow
    cases result with
    | ok => cases hresult
    | error err =>
        obtain rfl := of_decide_eq_true hresult
        obtain ⟨hkeyed, hfailed⟩ :=
          (keys_coherent transparent).1 _ _ _ fresh hnew 0 0 true sys hreaches
        exact ⟨fresh, sys, sys', own, hnew, hreaches, hcall, hown,
          hkeyed (of_decide_eq_true hopen), hfailed 0 _ own sys' hcall⟩
  · obtain ⟨state, hreaches, hend⟩ := exists_reaches_of_run Reconnect.State.step
      (Reconnect.State.start Reconnect.sampleEngine) (Closing.rekeyRead ++ [⟨0, .proceed⟩])
      (fun state => state.shared.engine.cipher = some 0 ∧ state.shared.ciphers 0 =
        some (ratchet transparent Reconnect.sampleKey (copyFixed nonceSize [7]).val))
      (by decide +kernel)
    obtain ⟨hcipher, hkey⟩ := of_decide_eq_true hend
    exact ⟨state, hcipher, hkey, (keys_coherent transparent).2 _ _ _
      Reconnect.newEngine_sample state hreaches 0 _ hcipher hkey⟩

end ZeroFeed.Coherence
