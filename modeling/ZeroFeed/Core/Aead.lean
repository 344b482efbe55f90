import ZeroFeed.Core.ByteString

/-!
# Authenticated encryption as an interface

A protocol sees an AEAD scheme through two functions.  Three facts about them
are used separately: opening inverts sealing, sealing appends a tag of fixed
size, and, for the ideal scheme, opening succeeds only on what was sealed.
The last one is relative to the calls that were actually made, so it is stated
against an explicit collection of sealing calls.
-/

namespace ZeroFeed.Aead

open ZeroFeed.ByteString

structure Scheme (Key Nonce : Type*) where
  sealBytes : Key → Nonce → (plaintext aad : Bytes) → Bytes
  openBytes : Key → Nonce → (ciphertext aad : Bytes) → Option Bytes

/-- The arguments of one call of `Seal`. -/
structure SealCall (Key Nonce : Type*) where
  key : Key
  nonce : Nonce
  plaintext : Bytes
  aad : Bytes
  deriving DecidableEq

variable {Key Nonce : Type*}

namespace Scheme

variable (scheme : Scheme Key Nonce)

def sealCall (call : SealCall Key Nonce) : Bytes :=
  scheme.sealBytes call.key call.nonce call.plaintext call.aad

/-- `Open` inverts `Seal`. -/
def OpensSealed : Prop :=
  ∀ call : SealCall Key Nonce,
    scheme.openBytes call.key call.nonce (scheme.sealCall call) call.aad =
      some call.plaintext

/-- `Seal` appends exactly `tagSize` bytes. -/
def AppendsTag (tagSize : ℕ) : Prop :=
  ∀ call : SealCall Key Nonce,
    (scheme.sealCall call).length = call.plaintext.length + tagSize

/-- Ideal authenticity relative to the calls made: `Open` succeeds only on a
key, nonce, associated data and ciphertext that some call of `Seal` combined,
and then returns that call's plaintext. -/
def OpensOnly (calls : List (SealCall Key Nonce)) : Prop :=
  ∀ key nonce ciphertext aad plaintext,
    scheme.openBytes key nonce ciphertext aad = some plaintext →
      ∃ call ∈ calls, call.key = key ∧ call.nonce = nonce ∧ call.aad = aad ∧
        call.plaintext = plaintext ∧ scheme.sealCall call = ciphertext

end Scheme

/-! ## The ideal scheme for a list of sealing calls -/

variable [DecidableEq Key] [DecidableEq Nonce]

/-- The scheme that seals with a given function and opens by looking the
ciphertext up among the calls made. -/
def ideal (sealBytes : Key → Nonce → Bytes → Bytes → Bytes)
    (calls : List (SealCall Key Nonce)) : Scheme Key Nonce where
  sealBytes := sealBytes
  openBytes key nonce ciphertext aad :=
    (calls.find? fun call => call.key = key ∧ call.nonce = nonce ∧
      call.aad = aad ∧
        sealBytes call.key call.nonce call.plaintext call.aad = ciphertext).map
      SealCall.plaintext

theorem ideal_opensOnly (sealBytes : Key → Nonce → Bytes → Bytes → Bytes)
    (calls : List (SealCall Key Nonce)) :
    (ideal sealBytes calls).OpensOnly calls := by
  intro key nonce ciphertext aad plaintext hopen
  obtain ⟨call, hfind, hplaintext⟩ := Option.map_eq_some_iff.mp hopen
  have hmatch := List.find?_some hfind
  simp only [decide_eq_true_eq] at hmatch
  exact ⟨call, List.mem_of_find?_eq_some hfind, hmatch.1, hmatch.2.1,
    hmatch.2.2.1, hplaintext, hmatch.2.2.2⟩

end ZeroFeed.Aead
