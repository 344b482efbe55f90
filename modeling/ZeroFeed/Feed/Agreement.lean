import ZeroFeed.Feed.Handshake

/-!
# Agreement of a handshake

One honest exchange between a publisher and a subscriber.  The two sides
always derive keys from the same combined secret, so they agree exactly when
their passphrases do, and the subscriber's fixed slices are the parts the
publisher put together.

Collision freedom cannot hold of functions from all byte strings to 32 bytes.
It is assumed of the inputs this exchange uses.
-/

namespace ZeroFeed.Agreement

open ZeroFeed.ByteString
open ZeroFeed.Messages
open ZeroFeed.Primitives
open ZeroFeed.Cipher
open ZeroFeed.Pake
open ZeroFeed.Handshake

variable {suite : Suite}

/-! ## The keys of an exchange -/

/-- The X25519 and ML-KEM secrets, as the publisher obtains them. -/
def combinedSecret (publisher subscriber : PeerCoins suite) (update : UpdateCoins suite) :
    Bytes :=
  (suite.x25519ECDH publisher.privKey (suite.x25519Public subscriber.privKey)).elim []
      Subtype.val ++
    (suite.encapsulate (suite.encapsulationKey subscriber.decapKey) update.encapsulation).elim []
      fun encapsulated => encapsulated.1.val

/-- The session key derived from a secret under a passphrase. -/
def exchangeKey (suite : Suite) (secret passphrase : Bytes) : Key :=
  pakeKey suite secret (deriveMasterKeyArgon2 suite passphrase).val

/-- A peer that has processed the other side's message. -/
structure Exchanged (role : Role) (key : Key) (peer : PAKEPeer suite) : Prop where
  role : peer.role = role
  sharedKey : peer.sharedKey = some key.val

/-- No two of the inputs an exchange feeds to Argon2id, to HKDF and to HMAC for
its confirmation tags collide. -/
structure CollisionFree (suite : Suite) (left right secret : Bytes) : Prop where
  argon2 : deriveMasterKeyArgon2 suite left = deriveMasterKeyArgon2 suite right → left = right
  hkdf : pakeMasterSecret suite secret (deriveMasterKeyArgon2 suite left).val =
      pakeMasterSecret suite secret (deriveMasterKeyArgon2 suite right).val →
    deriveMasterKeyArgon2 suite left = deriveMasterKeyArgon2 suite right
  hmac : ∀ firstKey ∈ [exchangeKey suite secret left, exchangeKey suite secret right],
    ∀ secondKey ∈ [exchangeKey suite secret left, exchangeKey suite secret right],
    ∀ first second : Role,
      suite.hmac firstKey.val (PAKEPeer.confirmMessage first.byte) =
          suite.hmac secondKey.val (PAKEPeer.confirmMessage second.byte) →
        firstKey = secondKey ∧
          PAKEPeer.confirmMessage first.byte = PAKEPeer.confirmMessage second.byte

/-! ## Creation and messages -/

section Messages

variable {passphrase : Bytes} {coins : PeerCoins suite} {peer : PAKEPeer suite}

theorem eq_of_newPAKEPublisher (hnew : newPAKEPublisher passphrase coins = .ok peer) :
    peer = ⟨coins.privKey, none, none, .publisher, none, passphrase⟩ := by
  rw [newPAKEPublisher, newPAKEPeer] at hnew
  split at hnew
  · cases hnew
  · cases hnew
    rfl

/-- The subscriber's message: public key, encapsulation key, noise. -/
def subscriberMessage (coins : PeerCoins suite) : Bytes :=
  (suite.x25519Public coins.privKey).val ++
    ((suite.encapsulationKey coins.decapKey).val ++ coins.noise.val)

/-- The publisher's message: public key, ciphertext, noise. -/
def publisherMessage (coins : PeerCoins suite) (ciphertext : FixedBytes 1088)
    (update : UpdateCoins suite) : Bytes :=
  (suite.x25519Public coins.privKey).val ++ (ciphertext.val ++ update.noise.val)

theorem eq_of_newPAKESubscriber (hnew : newPAKESubscriber passphrase coins = .ok peer) :
    peer = ⟨coins.privKey, some coins.decapKey, some (subscriberMessage coins), .subscriber,
      none, passphrase⟩ := by
  rw [newPAKESubscriber, newPAKEPeer] at hnew
  split at hnew
  · cases hnew
  · cases hnew
    rw [subscriberMessage, ← List.append_assoc]

theorem length_subscriberMessage (coins : PeerCoins suite) :
    (subscriberMessage coins).length = uniformWireMsgSize := by
  rw [subscriberMessage, List.length_append, List.length_append,
    (suite.x25519Public coins.privKey).property,
    (suite.encapsulationKey coins.decapKey).property, coins.noise.property]
  rfl

theorem length_publisherMessage (coins : PeerCoins suite) (ciphertext : FixedBytes 1088)
    (update : UpdateCoins suite) :
    (publisherMessage coins ciphertext update).length = uniformWireMsgSize := by
  rw [publisherMessage, List.length_append, List.length_append,
    (suite.x25519Public coins.privKey).property, ciphertext.property, update.noise.property]
  rfl

/-- The fields of a message are found at their offsets. -/
theorem fields_of_message {width : ℕ} (publicKey : FixedBytes 32) (field : FixedBytes width)
    (noise : Bytes) :
    copyFixed 32 (publicKey.val ++ (field.val ++ noise)) = publicKey ∧
      copyFixed width ((publicKey.val ++ (field.val ++ noise)).drop 32) = field := by
  refine ⟨copyFixed_append publicKey _, ?_⟩
  rw [List.drop_left' publicKey.property]
  exact copyFixed_append field noise

end Messages

/-! ## Both updates -/

section Exchange

variable (hlawful : Lawful suite) {left right : Bytes}
variable {publisherCoins subscriberCoins : PeerCoins suite} {publisher subscriber : PAKEPeer suite}
variable (hpublisher : newPAKEPublisher left publisherCoins = .ok publisher)
variable (hsubscriber : newPAKESubscriber right subscriberCoins = .ok subscriber)
variable (update subscriberUpdate : UpdateCoins suite)
include hlawful hpublisher hsubscriber

/-- Both sides process the other's message and derive their keys from one
combined secret. -/
theorem exchange :
    ∃ publisher' subscriber',
      publisher.update subscriber.bytes update = .ok publisher' ∧
      subscriber.update publisher'.bytes subscriberUpdate = .ok subscriber' ∧
      publisher'.bytes.length = uniformWireMsgSize ∧
      Exchanged .publisher (exchangeKey suite
        (combinedSecret publisherCoins subscriberCoins update) left) publisher' ∧
      Exchanged .subscriber (exchangeKey suite
        (combinedSecret publisherCoins subscriberCoins update) right) subscriber' ∧
      ∃ sharedX25519 sharedMLKEM : FixedBytes 32,
        combinedSecret publisherCoins subscriberCoins update =
          sharedX25519.val ++ sharedMLKEM.val := by
  obtain ⟨sharedX25519, hforward, hback⟩ :=
    hlawful.ecdh_comm publisherCoins.privKey subscriberCoins.privKey
  obtain ⟨sharedMLKEM, ciphertext, hencapsulate, hdecapsulate⟩ :=
    hlawful.decapsulate_encapsulate subscriberCoins.decapKey update.encapsulation
  have hsecret : combinedSecret publisherCoins subscriberCoins update =
      sharedX25519.val ++ sharedMLKEM.val := by
    rw [combinedSecret, hforward, hencapsulate]
    rfl
  obtain rfl := eq_of_newPAKEPublisher hpublisher
  obtain rfl := eq_of_newPAKESubscriber hsubscriber
  obtain ⟨hpublicKey, hencapKey⟩ := fields_of_message
    (suite.x25519Public subscriberCoins.privKey)
    (suite.encapsulationKey subscriberCoins.decapKey) subscriberCoins.noise.val
  obtain ⟨hpublisherKey, hciphertext⟩ := fields_of_message
    (suite.x25519Public publisherCoins.privKey) ciphertext update.noise.val
  have hfirst : PAKEPeer.update ⟨publisherCoins.privKey, none, none, .publisher, none, left⟩
      (subscriberMessage subscriberCoins) update =
      .ok ⟨publisherCoins.privKey, none, some (publisherMessage publisherCoins ciphertext update),
        .publisher, some (exchangeKey suite (combinedSecret publisherCoins subscriberCoins
          update) left).val, left⟩ := by
    rw [PAKEPeer.update, if_neg (not_not.mpr (length_subscriberMessage subscriberCoins))]
    simp only [subscriberMessage, hpublicKey, hencapKey, hforward, hencapsulate,
      deriveShared_eq]
    rw [hsecret, publisherMessage, ← List.append_assoc]
    rfl
  have hsecond : PAKEPeer.update ⟨subscriberCoins.privKey, some subscriberCoins.decapKey,
      some (subscriberMessage subscriberCoins), .subscriber, none, right⟩
      (publisherMessage publisherCoins ciphertext update) subscriberUpdate =
      .ok ⟨subscriberCoins.privKey, some subscriberCoins.decapKey,
        some (subscriberMessage subscriberCoins), .subscriber,
        some (exchangeKey suite (combinedSecret publisherCoins subscriberCoins
          update) right).val, right⟩ := by
    rw [PAKEPeer.update, if_neg (not_not.mpr (length_publisherMessage ..))]
    simp only [publisherMessage, hpublisherKey, hciphertext, hback, hdecapsulate,
      deriveShared_eq]
    rw [hsecret]
    rfl
  exact ⟨_, _, hfirst, hsecond, length_publisherMessage .., ⟨rfl, rfl⟩, ⟨rfl, rfl⟩, _, _,
    hsecret⟩

end Exchange

/-! ## Confirmation tags -/

section Confirmation

/-- The other side. -/
def peerRole : Role → Role
  | .publisher => .subscriber
  | .subscriber => .publisher

theorem peerByte_eq (role : Role) : role.peerByte = (peerRole role).byte := by
  cases role <;> rfl

theorem confirmMessage_byte_inj {first second : Role}
    (heq : PAKEPeer.confirmMessage first.byte = PAKEPeer.confirmMessage second.byte) :
    first = second := by
  have hbyte : first.byte = second.byte :=
    List.singleton_inj.mp (List.append_cancel_left heq)
  cases first <;> cases second <;> first | rfl | exact absurd hbyte (by decide)

/-- The tag of a role under a key. -/
def tagOf (suite : Suite) (role : Role) (key : Key) : Bytes :=
  (suite.hmac key.val (PAKEPeer.confirmMessage role.byte)).val

variable {role : Role} {key : Key} {peer : PAKEPeer suite} (hpeer : Exchanged role key peer)
include hpeer

theorem Exchanged.sessionKey_eq : peer.sessionKey = .ok key.val := by
  rw [PAKEPeer.sessionKey, hpeer.sharedKey]

theorem Exchanged.confirmTag_eq : peer.confirmTag = .ok (tagOf suite role key) := by
  rw [PAKEPeer.confirmTag, hpeer.sharedKey, hpeer.role]
  rfl

/-- The peer's tag under the same key is accepted. -/
theorem Exchanged.accepts :
    peer.verifyPeerConfirm (tagOf suite (peerRole role) key) = .ok () := by
  rw [tagOf, verifyPeerConfirm_eq_ok_iff hpeer.sharedKey, hpeer.role, peerByte_eq]

/-- Any other tag is refused with the same error. -/
theorem Exchanged.refuses {other : Key} {otherRole : Role}
    (hne : suite.hmac other.val (PAKEPeer.confirmMessage otherRole.byte) ≠
      suite.hmac key.val (PAKEPeer.confirmMessage (peerRole role).byte)) :
    peer.verifyPeerConfirm (tagOf suite otherRole other) = .error .pakeFailed := by
  have hnot : peer.verifyPeerConfirm (tagOf suite otherRole other) ≠ .ok () := by
    intro hok
    rw [tagOf, verifyPeerConfirm_eq_ok_iff hpeer.sharedKey, hpeer.role, peerByte_eq] at hok
    exact hne hok
  rw [PAKEPeer.verifyPeerConfirm] at hnot ⊢
  rw [hpeer.sharedKey] at hnot ⊢
  simp only at hnot ⊢
  split
  · rfl
  · rename_i hlength
    split
    · rename_i heq
      rw [if_neg hlength, if_pos heq] at hnot
      exact absurd rfl hnot
    · rfl

end Confirmation

/-! ## The response -/

section Response

variable (hlawful : Lawful suite) {pakeBytes : Bytes} (p2pKey masterKey : Key) (wrapNonce : Nonce)
  (confirmTag : FixedBytes 32)
include hlawful

/-- The subscriber's slices are the parts of the publisher's response, and the
wrapped key opens to the master key. -/
theorem slices_of_response (hlength : pakeBytes.length = uniformWireMsgSize) :
    ∃ payload, Step2.payload suite
        ⟨⟨pakeBytes, p2pKey.val, confirmTag.val⟩, masterKey.val, wrapNonce⟩ = .ok payload ∧
      payload.length = uniformWireMsgSize + wrappedKeySize + confirmTagSize ∧
      slicePake payload = pakeBytes ∧ sliceTag payload = confirmTag.val ∧
      unwrapSessionKey suite p2pKey.val (sliceWrapped payload) = .ok masterKey.val := by
  have hwrapped := length_wrapped hlawful p2pKey masterKey wrapNonce
  have hunwrap := unwrapSessionKey_wrapSessionKey hlawful p2pKey masterKey wrapNonce
  set wrapped := wrapNonce.val ++ suite.aead.sealBytes p2pKey wrapNonce masterKey.val wrapAAD
    with hdef
  have hwidth : wrapped.length = wrappedKeySize := hwrapped
  refine ⟨pakeBytes ++ wrapped ++ confirmTag.val, ?_, ?_, ?_, ?_, ?_⟩
  · rw [Step2.payload, Step2.wrappedKeyPayload, wrapSessionKey_eq, ← hdef]
    rfl
  · rw [List.length_append, List.length_append, hlength, hwidth, confirmTag.property]
    rfl
  · rw [slicePake, List.append_assoc, List.take_left' hlength]
  · rw [sliceTag, ← hlength, ← hwidth, ← List.length_append, List.drop_left]
    exact List.take_of_length_le (le_of_eq confirmTag.property)
  · rw [sliceWrapped, List.append_assoc, List.drop_left' hlength, List.take_left' hwidth]
    exact hunwrap

end Response

/-- For all passphrases and coins both updates succeed.  With one passphrase
both sides hold the same key, accept each other's tag, and the subscriber's
slices of the response give back the master key; with two passphrases both
refuse the other's tag; and no side accepts its own. -/
theorem handshake_agreement (hlawful : Lawful suite) {left right : Bytes}
    {publisherCoins subscriberCoins : PeerCoins suite}
    {publisher subscriber : PAKEPeer suite} (update subscriberUpdate : UpdateCoins suite)
    (hpublisher : newPAKEPublisher left publisherCoins = .ok publisher)
    (hsubscriber : newPAKESubscriber right subscriberCoins = .ok subscriber)
    (hfree : CollisionFree suite left right
      (combinedSecret publisherCoins subscriberCoins update)) :
    ∃ publisher' subscriber' publisherKey subscriberKey publisherTag subscriberTag,
      publisher.update subscriber.bytes update = .ok publisher' ∧
      subscriber.update publisher'.bytes subscriberUpdate = .ok subscriber' ∧
      publisher'.sessionKey = .ok publisherKey ∧ subscriber'.sessionKey = .ok subscriberKey ∧
      publisher'.confirmTag = .ok publisherTag ∧ subscriber'.confirmTag = .ok subscriberTag ∧
      (left = right → publisherKey = subscriberKey ∧
        publisher'.verifyPeerConfirm subscriberTag = .ok () ∧
        subscriber'.verifyPeerConfirm publisherTag = .ok () ∧
        ∀ (masterKey : Key) (wrapNonce : Nonce), ∃ payload,
          Step2.payload suite ⟨⟨publisher'.bytes, publisherKey, publisherTag⟩, masterKey.val,
            wrapNonce⟩ = .ok payload ∧
          payload.length = uniformWireMsgSize + wrappedKeySize + confirmTagSize ∧
          slicePake payload = publisher'.bytes ∧ sliceTag payload = publisherTag ∧
          unwrapSessionKey suite subscriberKey (sliceWrapped payload) = .ok masterKey.val) ∧
      (left ≠ right →
        publisher'.verifyPeerConfirm subscriberTag = .error .pakeFailed ∧
        subscriber'.verifyPeerConfirm publisherTag = .error .pakeFailed) ∧
      publisher'.verifyPeerConfirm publisherTag = .error .pakeFailed ∧
      subscriber'.verifyPeerConfirm subscriberTag = .error .pakeFailed := by
  obtain ⟨publisher', subscriber', hfirst, hsecond, hlength, hpub, hsub, sharedX25519,
    sharedMLKEM, hsecret⟩ := exchange hlawful hpublisher hsubscriber update subscriberUpdate
  set secret := combinedSecret publisherCoins subscriberCoins update
  have hleft : exchangeKey suite secret left ∈
      [exchangeKey suite secret left, exchangeKey suite secret right] := List.mem_cons_self
  have hright : exchangeKey suite secret right ∈
      [exchangeKey suite secret left, exchangeKey suite secret right] :=
    List.mem_cons_of_mem _ List.mem_cons_self
  have hkeys : exchangeKey suite secret left = exchangeKey suite secret right →
      left = right := by
    intro heq
    apply hfree.argon2
    apply hfree.hkdf
    rw [hsecret, pakeMasterSecret_eq, pakeMasterSecret_eq, ← hsecret]
    exact congrArg (fun key : Key => Except.ok key.val) heq
  refine ⟨publisher', subscriber', _, _, _, _, hfirst, hsecond, hpub.sessionKey_eq,
    hsub.sessionKey_eq, hpub.confirmTag_eq, hsub.confirmTag_eq, ?_, ?_, ?_, ?_⟩
  · rintro rfl
    exact ⟨rfl, hpub.accepts, hsub.accepts, fun masterKey wrapNonce =>
      slices_of_response hlawful _ masterKey wrapNonce _ hlength⟩
  · intro hne
    refine ⟨hpub.refuses ?_, hsub.refuses ?_⟩
    · exact fun heq => hne (hkeys (hfree.hmac _ hright _ hleft _ _ heq).1.symm)
    · exact fun heq => hne (hkeys (hfree.hmac _ hleft _ hright _ _ heq).1)
  · refine hpub.refuses fun heq => ?_
    cases confirmMessage_byte_inj (hfree.hmac _ hleft _ hleft _ _ heq).2
  · refine hsub.refuses fun heq => ?_
    cases confirmMessage_byte_inj (hfree.hmac _ hright _ hright _ _ heq).2

/-- Coins for a run. -/
def sampleCoins (secret : Byte) : PeerCoins transparent :=
  { privKey := secret
    decapKey := secret
    noise := copyFixed 64 [] }

def sampleUpdate : UpdateCoins transparent :=
  { encapsulation := (5 : Byte)
    noise := copyFixed 160 [] }

theorem sample_collisionFree {other : Bytes} (hother : other = [1] ∨ other = [2]) :
    CollisionFree transparent [1] other
      (combinedSecret (sampleCoins 3) (sampleCoins 4) sampleUpdate) := by
  have hhmac : ∀ first second : Role,
      ∀ firstKey ∈ [exchangeKey transparent
        (combinedSecret (sampleCoins 3) (sampleCoins 4) sampleUpdate) [1],
          exchangeKey transparent
            (combinedSecret (sampleCoins 3) (sampleCoins 4) sampleUpdate) other],
      ∀ secondKey ∈ [exchangeKey transparent
        (combinedSecret (sampleCoins 3) (sampleCoins 4) sampleUpdate) [1],
          exchangeKey transparent
            (combinedSecret (sampleCoins 3) (sampleCoins 4) sampleUpdate) other],
      transparent.hmac firstKey.val (PAKEPeer.confirmMessage first.byte) =
          transparent.hmac secondKey.val (PAKEPeer.confirmMessage second.byte) →
        firstKey = secondKey ∧
          PAKEPeer.confirmMessage first.byte = PAKEPeer.confirmMessage second.byte := by
    intro first second
    rcases hother with rfl | rfl <;> cases first <;> cases second <;> decide +kernel
  refine ⟨?_, ?_, fun firstKey hfirst secondKey hsecond first second =>
    hhmac first second firstKey hfirst secondKey hsecond⟩
  · rcases hother with rfl | rfl <;> decide +kernel
  · rcases hother with rfl | rfl <;> decide +kernel

/-- An exchange with one passphrase, and one with two. -/
theorem handshake_agreement_samples :
    (∃ publisher subscriber publisher' subscriber' publisherKey publisherTag,
      newPAKEPublisher [1] (sampleCoins 3) = .ok publisher ∧
      newPAKESubscriber [1] (sampleCoins 4) = .ok subscriber ∧
      publisher.update subscriber.bytes sampleUpdate = .ok publisher' ∧
      subscriber.update publisher'.bytes sampleUpdate = .ok subscriber' ∧
      publisher'.sessionKey = .ok publisherKey ∧ subscriber'.sessionKey = .ok publisherKey ∧
      publisher'.confirmTag = .ok publisherTag ∧
      subscriber'.verifyPeerConfirm publisherTag = .ok ()) ∧
    ∃ publisher subscriber publisher' subscriber' publisherTag,
      newPAKEPublisher [1] (sampleCoins 3) = .ok publisher ∧
      newPAKESubscriber [2] (sampleCoins 4) = .ok subscriber ∧
      publisher.update subscriber.bytes sampleUpdate = .ok publisher' ∧
      subscriber.update publisher'.bytes sampleUpdate = .ok subscriber' ∧
      publisher'.confirmTag = .ok publisherTag ∧
      subscriber'.verifyPeerConfirm publisherTag = .error .pakeFailed := by
  obtain ⟨publisher, hpublisher⟩ : ∃ publisher,
      newPAKEPublisher [1] (sampleCoins 3) = .ok publisher := ⟨_, rfl⟩
  obtain ⟨same, hsame⟩ : ∃ subscriber,
      newPAKESubscriber [1] (sampleCoins 4) = .ok subscriber := ⟨_, rfl⟩
  obtain ⟨other, hother⟩ : ∃ subscriber,
      newPAKESubscriber [2] (sampleCoins 4) = .ok subscriber := ⟨_, rfl⟩
  constructor
  · obtain ⟨publisher', subscriber', key, subscriberKey, tag, _, hfirst, hsecond, hkey,
      hsubscriberKey, htag, -, hagree, -⟩ :=
      handshake_agreement transparent_lawful sampleUpdate sampleUpdate hpublisher hsame
        (sample_collisionFree (Or.inl rfl))
    obtain ⟨rfl, -, haccepts, -⟩ := hagree rfl
    exact ⟨publisher, same, publisher', subscriber', key, tag, hpublisher, hsame, hfirst,
      hsecond, hkey, hsubscriberKey, htag, haccepts⟩
  · obtain ⟨publisher', subscriber', _, _, tag, _, hfirst, hsecond, -, -, htag, -, -, hdiffer,
      -⟩ := handshake_agreement transparent_lawful sampleUpdate sampleUpdate hpublisher hother
        (sample_collisionFree (Or.inr rfl))
    exact ⟨publisher, other, publisher', subscriber', tag, hpublisher, hother, hfirst, hsecond,
      htag, (hdiffer (by decide)).2⟩

end ZeroFeed.Agreement
