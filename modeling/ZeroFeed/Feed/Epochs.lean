import ZeroFeed.Feed.Goroutines

/-!
# Key epochs in wire order

The rekey frames on the wire cut it into epochs.  A rekey is sent, ratcheted
and installed in separate sections, and a data frame or a handshake response
is prepared in one section and sent in another, so other goroutines can come
in between.  In every run in which they do not, each frame belongs to the
epoch it is sent in.
-/

namespace ZeroFeed.Epochs

open ZeroFeed.ByteString
open ZeroFeed.Messages
open ZeroFeed.Primitives
open ZeroFeed.Cipher
open ZeroFeed.Ring
open ZeroFeed.Frame
open ZeroFeed.Handshake
open ZeroFeed.Publisher
open ZeroFeed.Threads
open ZeroFeed.Transition
open ZeroFeed.Goroutines

/-! ## Mutual exclusion of rekeys -/

/-- The goroutine is between the lock and the unlock of `rekeyMu`. -/
def holdsRekeyMu : Goroutine → Bool
  | .rekeySnapshot _ | .rekeyDraw .. | .rekeySeal .. | .rekeySend .. | .rekeyInstall .. => true
  | _ => false

@[simp]
theorem holdsRekeyMu_resume (next : Option Bytes) : holdsRekeyMu (resume next) = false := by
  cases next <;> rfl

/-- What a section does to `rekeyMu`. -/
inductive LockEffect (locked : Bool) (goroutine : Goroutine) (locked' : Bool)
    (goroutine' : Goroutine) : Prop where
  | same (hlocked : locked' = locked) (hholds : holdsRekeyMu goroutine' = holdsRekeyMu goroutine)
  | acquire (hfree : locked = false) (hlocked : locked' = true)
  | release (hheld : holdsRekeyMu goroutine = true) (hholds : holdsRekeyMu goroutine' = false)

theorem rekeyLocked_sendFrame (suite : Suite) (shared : Shared) (sent : Sent)
    (written : Bool) :
    (shared.sendFrame suite sent written).2.rekeyLocked = shared.rekeyLocked := by
  rw [Shared.sendFrame]
  split <;> rfl

theorem section_lockEffect {suite : Suite} {shared shared' : Shared}
    {goroutine goroutine' : Goroutine}
    (hsection : Section suite shared goroutine shared' goroutine') :
    LockEffect shared.rekeyLocked goroutine shared'.rekeyLocked goroutine' := by
  cases hsection with
  | publish payload now => split <;> exact .same rfl rfl
  | triggerRekey | syncReq | initRefused | initSub | rekeySnapshot | rekeyDraw | rekeySeal
  | rekeySend | publishCheck | publishDraw | publishPush | publishSeal | replayCheck
  | replaySkip | replaySeal | step2Refused | step2Read => exact .same rfl rfl
  | heartbeat | publishSend | replaySend | step2Send | close =>
      exact .same (rekeyLocked_sendFrame suite shared _ _) rfl
  | rekeyLock next hfree => exact .acquire hfree rfl
  | rekeyAbort next hholds =>
      refine .release ?_ (holdsRekeyMu_resume next)
      rcases hholds with ⟨currKey, salt, seqNum, rfl⟩ | rfl | ⟨nextKey, rfl, -⟩ <;> rfl
  | rekeySendFailed _ _ _ next => exact .release rfl (holdsRekeyMu_resume next)
  | rekeyInstall nextKey next => exact .release rfl (holdsRekeyMu_resume next)
  | rekeyCrash => exact .release rfl rfl
  | publishRefused hcipher hpoint =>
      refine .same rfl ?_
      rcases hpoint with ⟨payload, rfl⟩ | ⟨msg, rfl⟩ <;> rfl
  | replayDone hpoint =>
      refine .same rfl ?_
      rcases hpoint with ⟨items, rfl⟩ | rfl <;> rfl

/-- At most one goroutine is inside `TriggerRekey`'s critical region, and the
lock is taken while one is. -/
structure Exclusive (sys : System) : Prop where
  locked : ∀ thread, holdsRekeyMu (sys.threads thread) = true → sys.shared.rekeyLocked = true
  unique : ∀ left right, holdsRekeyMu (sys.threads left) = true →
    holdsRekeyMu (sys.threads right) = true → left = right

theorem exclusive_step {suite : Suite} {sys sys' : System} {label : Label (Input suite)}
    (hexclusive : Exclusive sys) (hstep : System.step suite sys label = some sys') :
    Exclusive sys' := by
  obtain ⟨goroutine', hsection, hmoves⟩ := section_of_step hstep
  generalize label.thread = thread at hsection hmoves
  cases section_lockEffect hsection with
  | same hlocked hholds =>
      have hsame : ∀ other, holdsRekeyMu (sys'.threads other) =
          holdsRekeyMu (sys.threads other) := by
        intro other
        by_cases hne : other = thread
        · rw [hne, hmoves.self, hholds]
        · rw [hmoves.other hne]
      refine ⟨?_, ?_⟩
      · intro other hholding
        rw [hlocked]
        exact hexclusive.locked other (hsame other ▸ hholding)
      · intro left right hleft hright
        exact hexclusive.unique left right (hsame left ▸ hleft) (hsame right ▸ hright)
  | acquire hfree hlocked =>
      -- nobody held the lock before, so the goroutine that has taken it is alone
      have honly : ∀ other, holdsRekeyMu (sys'.threads other) = true → other = thread := by
        intro other hholding
        by_contra hne
        rw [hmoves.other hne] at hholding
        have hbefore := hexclusive.locked other hholding
        rw [hfree] at hbefore
        cases hbefore
      exact ⟨fun _ _ => hlocked, fun left right hleft hright =>
        (honly left hleft).trans (honly right hright).symm⟩
  | release hheld hholds =>
      have hnone : ∀ other, holdsRekeyMu (sys'.threads other) ≠ true := by
        intro other hholding
        by_cases hne : other = thread
        · rw [hne, hmoves.self, hholds] at hholding
          cases hholding
        · rw [hmoves.other hne] at hholding
          exact hne (hexclusive.unique other thread hholding hheld)
      exact ⟨fun other hholding => absurd hholding (hnone other),
        fun left _ hleft _ => absurd hleft (hnone left)⟩

theorem exclusive_of_reaches {suite : Suite} {engine : PublisherEngine} {sys : System}
    (hreaches : Reaches (System.step suite) (System.start engine) sys) : Exclusive sys :=
  Reaches.invariant ⟨by rintro _ ⟨⟩, by rintro _ _ ⟨⟩⟩ (fun _ _ _ => exclusive_step) hreaches

/-! ## Epochs -/

/-- The salt a rekey frame carries. -/
def saltOf : Sent → Option Bytes
  | .sealed frame => if frame.msgType = msgTypeRekey then some frame.plaintext else none
  | _ => none

/-- The initial key ratcheted through the salts of the rekey frames on a wire. -/
def epochKey (suite : Suite) (initial : Key) (wire : List Sent) : Key :=
  (wire.filterMap saltOf).foldl (ratchet suite) initial

theorem epochKey_append (suite : Suite) (initial : Key) (wire : List Sent) (sent : Sent) :
    epochKey suite initial (wire ++ [sent]) =
      (saltOf sent).elim (epochKey suite initial wire)
        (ratchet suite (epochKey suite initial wire)) := by
  rw [epochKey, List.filterMap_append, List.foldl_append]
  cases hsalt : saltOf sent with
  | none => rw [List.filterMap_cons, hsalt]; rfl
  | some salt => rw [List.filterMap_cons, hsalt]; rfl

/-- A data frame is sealed under the key, a handshake response wraps it. -/
def UnderKey (key : Key) : Sent → Prop
  | .sealed frame => frame.msgType = msgTypeDataStream → frame.key = key
  | .step2 response => response.masterKey = key.val
  | .heartbeat | .close => True

/-- Every frame on the wire belongs to the epoch it was sent in. -/
def InOrder (suite : Suite) (initial : Key) (wire : List Sent) : Prop :=
  ∀ before sent after, wire = before ++ sent :: after →
    UnderKey (epochKey suite initial before) sent

theorem inOrder_nil (suite : Suite) (initial : Key) : InOrder suite initial [] := by
  intro before sent after hsplit
  simp at hsplit

theorem InOrder.append {suite : Suite} {initial : Key} {wire : List Sent} {sent : Sent}
    (horder : InOrder suite initial wire)
    (hsent : UnderKey (epochKey suite initial wire) sent) :
    InOrder suite initial (wire ++ [sent]) := by
  intro before frame after hsplit
  rcases List.eq_nil_or_concat after with rfl | ⟨rest, last, rfl⟩
  · obtain ⟨rfl, hlast⟩ := List.append_inj' hsplit rfl
    exact List.singleton_inj.mp hlast ▸ hsent
  · rw [List.concat_eq_append, ← List.cons_append, ← List.append_assoc] at hsplit
    obtain ⟨rfl, -⟩ := List.append_inj' hsplit rfl
    exact horder before frame rest rfl

/-! ## Undisturbed steps -/

def sendsRekey : Goroutine → Bool
  | .rekeySend .. => true
  | _ => false

/-- A rekey frame is on the wire and its key is not installed yet. -/
def installing : Goroutine → Bool
  | .rekeyInstall .. => true
  | _ => false

/-- A data frame or a handshake response is ready to be sent. -/
def readyToSend : Goroutine → Bool
  | .publishSend _ | .replaySend .. | .step2Send _ => true
  | _ => false

/-- The next section seals a message or copies the master key. -/
def needsKey : Goroutine → Bool
  | .publishSeal _ | .replaySeal (_ :: _) | .step2Read _ => true
  | _ => false

@[simp]
theorem installing_resume (next : Option Bytes) : installing (resume next) = false := by
  cases next <;> rfl

/-- No rekey frame overtakes what another goroutine has ready, and no key is
used between another goroutine's rekey frame and its installation. -/
structure Undisturbed (sys : System) (thread : ℕ) : Prop where
  send : sendsRekey (sys.threads thread) = true →
    ∀ other, other ≠ thread → readyToSend (sys.threads other) = false
  use : needsKey (sys.threads thread) = true →
    ∀ other, other ≠ thread → installing (sys.threads other) = false

/-- What a goroutine holds fits the epoch. -/
def KeyedBy (key : Key) (connected : Bool) : Goroutine → Prop
  | .rekeyDraw currKey _ _ => currKey = key
  | .rekeySeal currKey _ _ _ => currKey = key
  | .rekeySend currKey salt frame _ => currKey = key ∧ ∃ seqNum, frame = rekeyFrame key seqNum salt
  | .rekeyInstall nextKey _ => nextKey = key.val
  | .publishSend frame | .replaySend frame _ =>
      frame.msgType = msgTypeDataStream ∧ frame.key = key
  | .step2Send response => response.masterKey = key.val ∨ connected = false
  | _ => True

@[simp]
theorem keyedBy_resume (key : Key) (connected : Bool) (next : Option Bytes) :
    KeyedBy key connected (resume next) := by
  cases next <;> trivial

theorem KeyedBy.mono {key : Key} {connected connected' : Bool} {goroutine : Goroutine}
    (hkeyed : KeyedBy key connected goroutine)
    (hconnected : connected = false → connected' = false) :
    KeyedBy key connected' goroutine := by
  cases goroutine with
  | step2Send response => exact hkeyed.imp id hconnected
  | _ => exact hkeyed

/-- Goroutines that hold nothing of an epoch fit every epoch. -/
theorem keyedBy_of_free {goroutine : Goroutine} (hmutex : holdsRekeyMu goroutine = false)
    (hready : readyToSend goroutine = false) (key : Key) (connected : Bool) :
    KeyedBy key connected goroutine := by
  cases goroutine with
  | rekeySnapshot | rekeyDraw | rekeySeal | rekeySend | rekeyInstall => cases hmutex
  | publishSend | replaySend | step2Send => cases hready
  | _ => trivial

/-! ## What a section does to keys -/

/-- The wire gains at most one frame, which belongs to the epoch and does not
end it. -/
def Extends (key : Key) (wire wire' : List Sent) : Prop :=
  wire' = wire ∨ ∃ sent, wire' = wire ++ [sent] ∧ saltOf sent = none ∧ UnderKey key sent

/-- The keys of the engine are untouched, or the engine is closed. -/
def KeepsKeys (engine engine' : PublisherEngine) : Prop :=
  (engine'.cipher = engine.cipher ∧ engine'.masterKey = engine.masterKey ∧
    engine'.connected = engine.connected) ∨
  (engine'.cipher = none ∧ engine'.masterKey = none ∧ engine'.connected = false)

theorem KeepsKeys.refl (engine : PublisherEngine) : KeepsKeys engine engine :=
  Or.inl ⟨rfl, rfl, rfl⟩

theorem keepsKeys_close (engine : PublisherEngine) : KeepsKeys engine engine.close := by
  rw [PublisherEngine.close]
  split
  · exact KeepsKeys.refl engine
  · exact Or.inr ⟨rfl, rfl, rfl⟩

inductive KeyEffect (suite : Suite) (key : Key) (shared : Shared) (goroutine : Goroutine) :
    Shared → Goroutine → Prop where
  | keeps {shared' : Shared} {goroutine' : Goroutine}
      (hwire : Extends key shared.wire shared'.wire)
      (hengine : KeepsKeys shared.engine shared'.engine)
      (hinstalling : installing goroutine' = installing goroutine ∨
        shared'.engine.cipher = none)
      (hkeyed : KeyedBy key shared'.engine.connected goroutine') :
      KeyEffect suite key shared goroutine shared' goroutine'
  | sendRekey (hsends : sendsRekey goroutine = true) (seqNum : ℕ) (salt : Nonce)
      (next : Option Bytes) :
      KeyEffect suite key shared goroutine
        { shared with wire := shared.wire ++ [.sealed (rekeyFrame key seqNum salt)] }
        (.rekeyInstall (ratchet suite key salt.val).val next)
  | install (hinstalling : installing goroutine = true) {shared' : Shared}
      (hwire : shared'.wire = shared.wire) (hcipher : shared'.engine.cipher = some key)
      (hmasterKey : shared'.engine.masterKey = some key)
      (hconnected : shared'.engine.connected = shared.engine.connected)
      (next : Option Bytes) :
      KeyEffect suite key shared goroutine shared' (resume next)

section Effect

variable {suite : Suite} {key : Key} {shared shared' : Shared}
variable {goroutine goroutine' : Goroutine}

/-- A section that sends nothing and leaves the engine's keys alone. -/
theorem KeyEffect.silent (hwire : shared'.wire = shared.wire)
    (hengine : KeepsKeys shared.engine shared'.engine)
    (hinstalling : installing goroutine' = installing goroutine)
    (hkeyed : KeyedBy key shared'.engine.connected goroutine') :
    KeyEffect suite key shared goroutine shared' goroutine' :=
  .keeps (Or.inl hwire) hengine (Or.inl hinstalling) hkeyed

theorem engine_sendFrame (suite : Suite) (shared : Shared) (sent : Sent) (written : Bool) :
    (shared.sendFrame suite sent written).2.engine = shared.engine := by
  rw [Shared.sendFrame]
  split <;> rfl

/-- A frame of the epoch is sent if the engine is still connected. -/
theorem extends_sendFrame {sent : Sent} (written : Bool) (hsalt : saltOf sent = none)
    (hsent : shared.engine.connected = true → UnderKey key sent) :
    Extends key shared.wire (shared.sendFrame suite sent written).2.wire := by
  rw [Shared.sendFrame]
  split
  · rename_i hwritten
    have hsend := (Bool.and_eq_true_iff.mp hwritten).2
    exact Or.inr ⟨sent, rfl, hsalt, hsent (Bool.and_eq_true_iff.mp hsend).1⟩
  · exact Or.inl rfl

theorem KeyEffect.sent {sent : Sent} (written : Bool) (hsalt : saltOf sent = none)
    (hsent : shared.engine.connected = true → UnderKey key sent)
    (hinstalling : installing goroutine' = installing goroutine)
    (hkeyed : KeyedBy key shared.engine.connected goroutine') :
    KeyEffect suite key shared goroutine (shared.sendFrame suite sent written).2 goroutine' := by
  have hengine := engine_sendFrame suite shared sent written
  refine .keeps (extends_sendFrame written hsalt hsent) ?_ (Or.inl hinstalling) ?_
  · rw [hengine]
    exact KeepsKeys.refl _
  · rwa [hengine]

theorem saltOf_data {frame : SealedFrame} (htype : frame.msgType = msgTypeDataStream) :
    saltOf (.sealed frame) = none := by
  rw [saltOf, htype, if_neg msgTypeDataStream_ne_msgTypeRekey]

/-- One section, run by a goroutine whose state fits the epoch, on an engine
that holds the key of the epoch whenever the section uses it. -/
theorem section_keyEffect (hsection : Section suite shared goroutine shared' goroutine')
    (hkeyed : KeyedBy key shared.engine.connected goroutine)
    (hmasterKey : shared.engine.masterKey = shared.engine.cipher)
    (hdead : shared.engine.cipher = none → shared.engine.connected = false)
    (hcurrent : needsKey goroutine = true ∨
        (holdsRekeyMu goroutine = true ∧ installing goroutine = false) →
      ∀ current, shared.engine.cipher = some current → current = key) :
    KeyEffect suite key shared goroutine shared' goroutine' := by
  have hrefl := KeepsKeys.refl shared.engine
  cases hsection with
  | publish payload now =>
      split <;> exact .silent rfl (Or.inl ⟨rfl, rfl, rfl⟩) rfl trivial
  | triggerRekey | syncReq | initRefused | initSub | rekeyLock | publishCheck | replayCheck
  | replaySkip | step2Refused => exact .silent rfl hrefl rfl trivial
  | publishDraw | publishPush => exact .silent rfl (Or.inl ⟨rfl, rfl, rfl⟩) rfl trivial
  | heartbeat written => exact .sent written rfl (fun _ => trivial) rfl trivial
  | close written =>
      exact .keeps (extends_sendFrame written rfl fun _ => trivial)
        (keepsKeys_close shared.engine) (Or.inl rfl) trivial
  | rekeyAbort next hholds =>
      rcases hholds with ⟨currKey, salt, seqNum, rfl⟩ | rfl | ⟨nextKey, rfl, hlength⟩
      · exact .silent rfl hrefl (installing_resume next) (keyedBy_resume _ _ next)
      · exact .silent rfl hrefl (installing_resume next) (keyedBy_resume _ _ next)
      · exact absurd hkeyed (hlength key)
  | rekeySnapshot currKey salt next hcipher =>
      exact .silent rfl hrefl rfl (hcurrent (Or.inr ⟨rfl, rfl⟩) currKey hcipher)
  | rekeyDraw currKey salt next => exact .silent rfl (Or.inl ⟨rfl, rfl, rfl⟩) rfl hkeyed
  | rekeySeal currKey salt seqNum next current hcipher =>
      obtain rfl := hcurrent (Or.inr ⟨rfl, rfl⟩) current hcipher
      exact .silent rfl hrefl rfl ⟨hkeyed, seqNum, rfl⟩
  | rekeySend currKey salt frame next hsend =>
      obtain ⟨rfl, seqNum, rfl⟩ := hkeyed
      exact .sendRekey rfl seqNum salt next
  | rekeySendFailed currKey salt frame next =>
      exact .silent rfl hrefl (installing_resume next) (keyedBy_resume _ _ next)
  | rekeyInstall nextKey next now engine hinstall =>
      obtain rfl : nextKey = key := Subtype.ext hkeyed
      obtain ⟨current, -, rfl⟩ := Option.map_eq_some_iff.mp hinstall
      refine .install rfl ?_ ?_ ?_ ?_ next <;> rfl
  | rekeyCrash nextKey next hcipher =>
      exact .keeps (Or.inl rfl) hrefl (Or.inr hcipher) trivial
  | publishRefused hcipher hpoint =>
      rcases hpoint with ⟨payload, rfl⟩ | ⟨msg, rfl⟩ <;> exact .silent rfl hrefl rfl trivial
  | replayDone hpoint =>
      rcases hpoint with ⟨items, rfl⟩ | rfl <;> exact .silent rfl hrefl rfl trivial
  | publishSeal msg current hcipher =>
      exact .silent rfl hrefl rfl ⟨rfl, hcurrent (Or.inl rfl) current hcipher⟩
  | replaySeal item rest current hcipher =>
      exact .silent rfl hrefl rfl ⟨rfl, hcurrent (Or.inl rfl) current hcipher⟩
  | publishSend frame written =>
      exact .sent written (saltOf_data hkeyed.1) (fun _ _ => hkeyed.2) rfl trivial
  | replaySend frame rest written =>
      exact .sent written (saltOf_data hkeyed.1) (fun _ _ => hkeyed.2) rfl trivial
  | step2Read answer nonce =>
      refine .silent rfl hrefl rfl ?_
      cases hcipher : shared.engine.cipher with
      | none => exact Or.inr (hdead hcipher)
      | some current =>
          left
          change shared.engine.masterKeyCopy = key.val
          rw [PublisherEngine.masterKeyCopy, hmasterKey, hcipher,
            hcurrent (Or.inl rfl) current hcipher]
          rfl
  | step2Send response written =>
      refine .sent written rfl ?_ rfl trivial
      intro hconnected
      rcases hkeyed with hwraps | hclosed
      · exact hwraps
      · rw [hconnected] at hclosed
        cases hclosed

end Effect

/-! ## Runs -/

/-- The wire is in order, the engine holds the key of the epoch unless a rekey
is being installed, and what the goroutines hold fits the epoch. -/
structure Epoch (suite : Suite) (initial : Key) (sys : System) : Prop where
  order : InOrder suite initial sys.shared.wire
  masterKey : sys.shared.engine.masterKey = sys.shared.engine.cipher
  dead : sys.shared.engine.cipher = none → sys.shared.engine.connected = false
  current : (∀ thread, installing (sys.threads thread) = false) →
    ∀ key, sys.shared.engine.cipher = some key → key = epochKey suite initial sys.shared.wire
  keyed : ∀ thread, KeyedBy (epochKey suite initial sys.shared.wire)
    sys.shared.engine.connected (sys.threads thread)

theorem epoch_start {suite : Suite} {masterKey : Key} {engine : PublisherEngine}
    (hlaunched : Launched suite masterKey engine) :
    Epoch suite masterKey (System.start engine) where
  order := inOrder_nil suite masterKey
  masterKey := hlaunched.masterKey.trans hlaunched.cipher.symm
  dead hnone := absurd (hlaunched.cipher.symm.trans hnone) (Option.some_ne_none masterKey)
  current _ _ hkey := Option.some.inj (hkey.symm.trans hlaunched.cipher)
  keyed _ := trivial

section Steps

variable {suite : Suite} {initial : Key} {sys sys' : System} {thread : ℕ}

theorem installing_holdsRekeyMu {goroutine : Goroutine}
    (hinstalling : installing goroutine = true) : holdsRekeyMu goroutine = true := by
  cases goroutine with
  | rekeyInstall => rfl
  | _ => cases hinstalling

/-- When an undisturbed section uses the engine's key, it is the epoch's. -/
theorem current_of_undisturbed (hepoch : Epoch suite initial sys)
    (hexclusive : Exclusive sys) (hundisturbed : Undisturbed sys thread)
    (huses : needsKey (sys.threads thread) = true ∨
      (holdsRekeyMu (sys.threads thread) = true ∧ installing (sys.threads thread) = false)) :
    ∀ key, sys.shared.engine.cipher = some key →
      key = epochKey suite initial sys.shared.wire := by
  apply hepoch.current
  intro other
  by_cases hne : other = thread
  · subst hne
    rcases huses with hneeds | ⟨-, hnot⟩
    · cases hthread : sys.threads other with
      | rekeyInstall =>
          rw [hthread] at hneeds
          cases hneeds
      | _ => rfl
    · exact hnot
  · rcases huses with hneeds | ⟨hholds, -⟩
    · exact hundisturbed.use hneeds other hne
    · by_contra hinstalling
      have hother := installing_holdsRekeyMu (Bool.eq_true_of_not_eq_false hinstalling)
      exact hne (hexclusive.unique other thread hother hholds)

section Cases

variable {goroutine' : Goroutine} (hepoch : Epoch suite initial sys)
variable (hmoves : Moves sys sys' thread goroutine')
include hepoch hmoves

theorem epoch_keeps
    (hwire : Extends (epochKey suite initial sys.shared.wire) sys.shared.wire sys'.shared.wire)
    (hengine : KeepsKeys sys.shared.engine sys'.shared.engine)
    (hinstalling : installing goroutine' = installing (sys.threads thread) ∨
      sys'.shared.engine.cipher = none)
    (hkeyed : KeyedBy (epochKey suite initial sys.shared.wire) sys'.shared.engine.connected
      goroutine') : Epoch suite initial sys' := by
  have hsame : epochKey suite initial sys'.shared.wire =
      epochKey suite initial sys.shared.wire := by
    rcases hwire with hwire | ⟨sent, hwire, hsalt, -⟩
    · rw [hwire]
    · rw [hwire, epochKey_append, hsalt]
      rfl
  refine ⟨?_, ?_, ?_, ?_, ?_⟩
  · rcases hwire with hwire | ⟨sent, hwire, -, hsent⟩
    · rw [hwire]
      exact hepoch.order
    · rw [hwire]
      exact hepoch.order.append hsent
  · rcases hengine with ⟨hcipher, hmasterKey, -⟩ | ⟨hcipher, hmasterKey, -⟩
    · rw [hcipher, hmasterKey, hepoch.masterKey]
    · rw [hcipher, hmasterKey]
  · intro hnone
    rcases hengine with ⟨hcipher, -, hconnected⟩ | ⟨-, -, hconnected⟩
    · rw [hconnected]
      exact hepoch.dead (hcipher ▸ hnone)
    · exact hconnected
  · intro hnone key hkey
    rcases hengine with ⟨hcipher, -⟩ | ⟨hcipher, -⟩
    · rw [hsame]
      refine hepoch.current ?_ key (hcipher ▸ hkey)
      intro other
      by_cases hne : other = thread
      · rcases hinstalling with hinstalling | hclosed
        · rw [hne, ← hinstalling, ← hmoves.self]
          exact hnone thread
        · rw [hkey] at hclosed
          cases hclosed
      · rw [← hmoves.other hne]
        exact hnone other
    · rw [hkey] at hcipher
      cases hcipher
  · rw [hsame]
    refine hmoves.forall (KeyedBy _ _) hkeyed fun other _ => (hepoch.keyed other).mono ?_
    rcases hengine with ⟨-, -, hconnected⟩ | ⟨-, -, hconnected⟩
    · rw [hconnected]
      exact id
    · exact fun _ => hconnected

/-- A rekey frame starts an epoch, in which no other goroutine holds anything
yet. -/
theorem epoch_sendRekey (hexclusive : Exclusive sys) (hundisturbed : Undisturbed sys thread)
    (hsends : sendsRekey (sys.threads thread) = true) {seqNum : ℕ} {salt : Nonce}
    (hshared : sys'.shared = { sys.shared with wire := sys.shared.wire ++
      [.sealed (rekeyFrame (epochKey suite initial sys.shared.wire) seqNum salt)] })
    {next : Option Bytes}
    (hgoroutine : goroutine' = .rekeyInstall
      (ratchet suite (epochKey suite initial sys.shared.wire) salt.val).val next) :
    Epoch suite initial sys' := by
  have hholds : holdsRekeyMu (sys.threads thread) = true := by
    cases hthread : sys.threads thread with
    | rekeySend => rfl
    | _ =>
        rw [hthread] at hsends
        cases hsends
  refine ⟨?_, ?_, ?_, ?_, ?_⟩
  · rw [hshared]
    exact hepoch.order.append fun htype => absurd htype msgTypeDataStream_ne_msgTypeRekey.symm
  · rw [hshared]
    exact hepoch.masterKey
  · rw [hshared]
    exact hepoch.dead
  · intro hnone
    have hinstalling := hnone thread
    rw [hmoves.self, hgoroutine] at hinstalling
    cases hinstalling
  · refine hmoves.forall (KeyedBy _ _) ?_ fun other hne => ?_
    · rw [hgoroutine, hshared]
      change _ = (epochKey suite initial (_ ++ [_])).val
      rw [epochKey_append]
      rfl
    · refine keyedBy_of_free ?_ (hundisturbed.send hsends other hne) _ _
      by_contra hheld
      exact hne (hexclusive.unique other thread (Bool.eq_true_of_not_eq_false hheld) hholds)

theorem epoch_install {next : Option Bytes} (hgoroutine : goroutine' = resume next)
    (hwire : sys'.shared.wire = sys.shared.wire)
    (hcipher : sys'.shared.engine.cipher = some (epochKey suite initial sys.shared.wire))
    (hmasterKey : sys'.shared.engine.masterKey = some (epochKey suite initial sys.shared.wire))
    (hconnected : sys'.shared.engine.connected = sys.shared.engine.connected) :
    Epoch suite initial sys' := by
  refine ⟨?_, ?_, ?_, ?_, ?_⟩
  · rw [hwire]
    exact hepoch.order
  · rw [hcipher, hmasterKey]
  · intro hnone
    rw [hcipher] at hnone
    cases hnone
  · intro _ key hkey
    rw [hcipher] at hkey
    rw [hwire]
    exact (Option.some.inj hkey).symm
  · rw [hwire, hconnected]
    refine hmoves.forall (KeyedBy _ _) ?_ fun other _ => hepoch.keyed other
    rw [hgoroutine]
    exact keyedBy_resume _ _ next

end Cases

theorem epoch_step (hepoch : Epoch suite initial sys) (hexclusive : Exclusive sys)
    {label : Label (Input suite)} (hundisturbed : Undisturbed sys label.thread)
    (hstep : System.step suite sys label = some sys') : Epoch suite initial sys' := by
  obtain ⟨goroutine', hsection, hmoves⟩ := section_of_step hstep
  have heffect := section_keyEffect hsection (hepoch.keyed label.thread) hepoch.masterKey
    hepoch.dead (current_of_undisturbed hepoch hexclusive hundisturbed)
  generalize hshared : sys'.shared = shared' at heffect
  generalize hgoroutine : goroutine' = after at heffect
  cases heffect with
  | keeps hwire hengine hinstalling hkeyed =>
      subst hshared hgoroutine
      exact epoch_keeps hepoch hmoves hwire hengine hinstalling hkeyed
  | sendRekey hsends seqNum salt next =>
      exact epoch_sendRekey hepoch hmoves hexclusive hundisturbed hsends hshared hgoroutine
  | install hinstalling hwire hcipher hmasterKey hconnected next =>
      subst hshared
      exact epoch_install hepoch hmoves hgoroutine hwire hcipher hmasterKey hconnected

end Steps

/-- In every run of undisturbed steps, every data frame on the wire is sealed
under, and every handshake response on the wire wraps, the initial key
ratcheted through the rekey frames before it. -/
theorem epochs_follow_wire {suite : Suite} {passphrase : Bytes} {masterKey : Key} {now : ℤ}
    {byteLimit : ℕ} {timeLimit : ℤ} {engine : PublisherEngine} {sys : System}
    (hlaunch : launch suite passphrase masterKey now byteLimit timeLimit = .ok engine)
    (hreaches : GuardedReaches (System.step suite) (fun sys label => Undisturbed sys label.thread)
      (System.start engine) sys) :
    ∀ before sent after, sys.shared.wire = before ++ sent :: after →
      UnderKey (epochKey suite masterKey before) sent := by
  have hepoch : Epoch suite masterKey sys :=
    GuardedReaches.invariant (fun _ hbefore => exclusive_of_reaches hbefore.reaches)
      (epoch_start (launched_of_launch hlaunch))
      (fun _ _ _ hexclusive hepoch hundisturbed hstep =>
        epoch_step hepoch hexclusive hundisturbed hstep) hreaches
  exact hepoch.order

/-! ### A replay around a rekey -/

/-- The condition on a step, for a system in which two goroutines are in use. -/
def undisturbedPair (sys : System) (thread : ℕ) : Bool :=
  decide (∀ other ∈ List.range 2, other ≠ thread →
    (sendsRekey (sys.threads thread) = true → readyToSend (sys.threads other) = false) ∧
    (needsKey (sys.threads thread) = true → installing (sys.threads other) = false))

theorem undisturbed_of_pair {sys : System} {thread : ℕ} (hidle : IdleFrom .idle 2 sys.threads)
    (hcheck : undisturbedPair sys thread = true) : Undisturbed sys thread := by
  have hpair : ∀ other, other ≠ thread →
      (sendsRekey (sys.threads thread) = true → readyToSend (sys.threads other) = false) ∧
      (needsKey (sys.threads thread) = true → installing (sys.threads other) = false) := by
    intro other hne
    by_cases hused : other < 2
    · exact of_decide_eq_true hcheck other (List.mem_range.mpr hused) hne
    · rw [hidle other (not_lt.mp hused)]
      exact ⟨fun _ => rfl, fun _ => rfl⟩
  exact ⟨fun hsends other hne => (hpair other hne).1 hsends,
    fun hneeds other hne => (hpair other hne).2 hneeds⟩

/-- The stream goroutine publishes a message. -/
def publishSchedule : List (Label (Input transparent)) :=
  [⟨0, .publish [tagText, 65] 0⟩, ⟨0, .proceed⟩, ⟨0, .proceed⟩, ⟨0, .proceed⟩, ⟨0, .proceed⟩,
    ⟨0, .send true⟩]

/-- The stream goroutine rekeys. -/
def rekeySchedule : List (Label (Input transparent)) :=
  [⟨0, .triggerRekey⟩, ⟨0, .proceed⟩, ⟨0, .generateNonce (some (copyFixed nonceSize [7]))⟩,
    ⟨0, .proceed⟩, ⟨0, .proceed⟩, ⟨0, .send true⟩, ⟨0, .clock 0⟩]

/-- The sync goroutine takes up a request and seals the replay, -/
def sealSchedule : List (Label (Input transparent)) :=
  [⟨1, .syncReq 0⟩, ⟨1, .proceed⟩, ⟨1, .proceed⟩]

/-- and sends it. -/
def sendSchedule : List (Label (Input transparent)) := [⟨1, .send true⟩]

/-- The message replayed after the rekey is sealed under the new key. -/
theorem epochs_of_replay_after_rekey :
    ∃ engine sys before frame,
      launch transparent [1] (copyFixed keySize []) 0 0 0 = .ok engine ∧
      Reaches (System.step transparent) (System.start engine) sys ∧
      sys.shared.wire = before ++ [.sealed frame] ∧
      before.filterMap saltOf = [(copyFixed nonceSize [7]).val] ∧
      frame.msgType = msgTypeDataStream ∧
      frame.key = epochKey transparent (copyFixed keySize []) before := by
  obtain ⟨engine, hlaunch⟩ : ∃ engine,
      launch transparent [1] (copyFixed keySize []) 0 0 0 = .ok engine := ⟨_, rfl⟩
  have hrun : ((System.start engine).runBelow
      (fun sys label => undisturbedPair sys label.thread) 2
      (publishSchedule ++ rekeySchedule ++ sealSchedule ++ sendSchedule)).any
      (fun sys => sys.shared.wire.dropLast.filterMap saltOf = [(copyFixed nonceSize [7]).val] ∧
        sys.shared.wire.getLast? = some (.sealed (dataFrame
          (ratchet transparent (copyFixed keySize []) (copyFixed nonceSize [7]).val)
          ⟨1, [tagText, 65]⟩))) = true := by
    cases hlaunch
    decide +kernel
  obtain ⟨sys, hsys, hproperty⟩ := (Option.any_eq_true _ _).mp hrun
  obtain ⟨hsalts, hlast⟩ := of_decide_eq_true hproperty
  obtain ⟨hreaches, -⟩ := guardedReaches_of_runBelow (idleFrom_start 2 engine)
    (fun _ _ hidle hcheck => undisturbed_of_pair hidle hcheck) hsys
  have hsplit := (List.dropLast_append_getLast? _ hlast).symm
  exact ⟨engine, sys, _, _, hlaunch, hreaches.reaches, hsplit, hsalts, rfl,
    epochs_follow_wire hlaunch hreaches _ _ [] hsplit rfl⟩

/-- Sealed before the rekey and sent after it, the replay is in the wrong
epoch. -/
theorem epochs_broken_by_replay :
    ∃ engine sys, launch transparent [1] (copyFixed keySize []) 0 0 0 = .ok engine ∧
      Reaches (System.step transparent) (System.start engine) sys ∧
      ¬ ∀ before sent after, sys.shared.wire = before ++ sent :: after →
        UnderKey (epochKey transparent (copyFixed keySize []) before) sent := by
  obtain ⟨engine, hlaunch⟩ : ∃ engine,
      launch transparent [1] (copyFixed keySize []) 0 0 0 = .ok engine := ⟨_, rfl⟩
  have hrun : (run (System.step transparent) (System.start engine)
      (publishSchedule ++ sealSchedule ++ rekeySchedule ++ sendSchedule)).any
      (fun sys => sys.shared.wire.getLast? =
          some (.sealed (dataFrame (copyFixed keySize []) ⟨1, [tagText, 65]⟩)) ∧
        epochKey transparent (copyFixed keySize []) sys.shared.wire.dropLast ≠
          copyFixed keySize []) = true := by
    cases hlaunch
    decide +kernel
  obtain ⟨sys, hreaches, hproperty⟩ := exists_reaches_of_run _ _ _ _ hrun
  obtain ⟨hlast, hkey⟩ := of_decide_eq_true hproperty
  refine ⟨engine, sys, hlaunch, hreaches, ?_⟩
  intro horder
  exact hkey (horder _ _ [] (List.dropLast_append_getLast? _ hlast).symm rfl).symm

end ZeroFeed.Epochs
