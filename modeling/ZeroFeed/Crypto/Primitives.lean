import ZeroFeed.Core.Aead
import ZeroFeed.Protocol.Messages

/-!
# Cryptographic primitives

The hash, key-derivation, key-exchange and encryption primitives come from
libraries.  They enter as one record of functions, typed by the fixed sizes
the code relies on.  What the code expects of them is collected in `Lawful`;
authenticity and collision freedom are hypotheses of the theorems that use
them, relative to the calls a run makes.
-/

namespace ZeroFeed.Primitives

open ZeroFeed.ByteString
open ZeroFeed.Messages

def keySize : ℕ := 32

abbrev Key := FixedBytes keySize

def tagSize : ℕ := 16

structure Suite where
  /-- HMAC-SHA256 of a message under a key. -/
  hmac : (key message : Bytes) → FixedBytes 32
  sha256 : Bytes → FixedBytes 32
  /-- `argon2.IDKey` with one pass over 64 MiB, one thread and 32 output bytes. -/
  argon2IDKey : (passphrase salt : Bytes) → FixedBytes 32
  /-- AES-256-GCM. -/
  aead : Aead.Scheme Key Nonce
  X25519Private : Type
  x25519Public : X25519Private → FixedBytes 32
  /-- `ECDH` fails on points of low order. -/
  x25519ECDH : X25519Private → FixedBytes 32 → Option (FixedBytes 32)
  DecapsulationKey : Type
  encapsulationKey : DecapsulationKey → FixedBytes 1184
  EncapsulationCoins : Type
  /-- Parse an encapsulation key and encapsulate to it: shared key and
  ciphertext. -/
  encapsulate : FixedBytes 1184 → EncapsulationCoins →
    Option (FixedBytes 32 × FixedBytes 1088)
  decapsulate : DecapsulationKey → FixedBytes 1088 → Option (FixedBytes 32)

/-- Functional correctness of the primitives. -/
structure Lawful (suite : Suite) : Prop where
  opensSealed : suite.aead.OpensSealed
  appendsTag : suite.aead.AppendsTag tagSize
  ecdh_comm : ∀ left right, ∃ shared,
    suite.x25519ECDH left (suite.x25519Public right) = some shared ∧
      suite.x25519ECDH right (suite.x25519Public left) = some shared
  decapsulate_encapsulate : ∀ decapKey coins, ∃ shared ciphertext,
    suite.encapsulate (suite.encapsulationKey decapKey) coins =
        some (shared, ciphertext) ∧
      suite.decapsulate decapKey ciphertext = some shared

/-! ## A transparent suite

A lawful suite with no secrecy at all, on which concrete runs can be
evaluated: the mac keeps the last byte of the message and most of the key, the
authentication tag is half of the key. -/

def transparentSeal (key : Key) (plaintext : Bytes) : Bytes :=
  plaintext ++ key.val.take tagSize

def transparentOpen (key : Key) (ciphertext : Bytes) : Option Bytes :=
  if ciphertext.drop (ciphertext.length - tagSize) = key.val.take tagSize then
    some (ciphertext.take (ciphertext.length - tagSize))
  else none

def transparent : Suite where
  hmac key message := copyFixed 32 (message.getLastD 0 :: key)
  sha256 := copyFixed 32
  argon2IDKey passphrase _ := copyFixed 32 passphrase
  aead :=
    { sealBytes := fun key _ plaintext _ => transparentSeal key plaintext
      openBytes := fun key _ ciphertext _ => transparentOpen key ciphertext }
  X25519Private := Byte
  x25519Public secret := copyFixed 32 [secret]
  x25519ECDH secret peer := some (copyFixed 32 [secret + peer.val.headD 0])
  DecapsulationKey := Byte
  encapsulationKey secret := copyFixed 1184 [secret]
  EncapsulationCoins := Byte
  encapsulate _ coins := some (copyFixed 32 [coins], copyFixed 1088 [coins])
  decapsulate _ ciphertext := some (copyFixed 32 [ciphertext.val.headD 0])

theorem length_take_tag (key : Key) : (key.val.take tagSize).length = tagSize := by
  rw [List.length_take, key.property]
  rfl

theorem transparentOpen_transparentSeal (key : Key) (plaintext : Bytes) :
    transparentOpen key (transparentSeal key plaintext) = some plaintext := by
  have hsplit : (transparentSeal key plaintext).length - tagSize = plaintext.length := by
    rw [transparentSeal, List.length_append, length_take_tag, Nat.add_sub_cancel]
  rw [transparentOpen, hsplit, transparentSeal, List.drop_left, List.take_left, if_pos rfl]

theorem transparent_lawful : Lawful transparent where
  opensSealed call := transparentOpen_transparentSeal call.key call.plaintext
  appendsTag call := by
    change (transparentSeal call.key call.plaintext).length = _
    rw [transparentSeal, List.length_append, length_take_tag]
  ecdh_comm (left right : Byte) := by
    refine ⟨copyFixed 32 [left + right], rfl, ?_⟩
    change some (copyFixed 32 [right + left]) = _
    rw [UInt8.add_comm]
  decapsulate_encapsulate _ (coins : Byte) :=
    ⟨copyFixed 32 [coins], copyFixed 1088 [coins], rfl, rfl⟩

/-- The transparent suite with an ideal cipher: it opens nothing but the listed
calls. -/
def idealTransparent (calls : List (Aead.SealCall Key Nonce)) : Suite :=
  { transparent with
    aead := Aead.ideal (fun key _ plaintext _ => transparentSeal key plaintext) calls }

theorem idealTransparent_appendsTag (calls : List (Aead.SealCall Key Nonce)) :
    (idealTransparent calls).aead.AppendsTag tagSize :=
  transparent_lawful.appendsTag

theorem idealTransparent_opensOnly (calls : List (Aead.SealCall Key Nonce)) :
    (idealTransparent calls).aead.OpensOnly calls :=
  Aead.ideal_opensOnly _ calls

end ZeroFeed.Primitives
