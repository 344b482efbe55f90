import ZeroFeed.Core.Text
import ZeroFeed.Feed.Transfer
import ZeroFeed.Protocol.Envelope

/-!
# Encryption for the browser (`encryptPayload`, `decryptPayload` in `cmd/wasm/main.go`)

Arguments are strings, bytes go in and out in hexadecimal.  Encryption takes the
associated data as text; decryption takes it as hexadecimal when it can be read so,
and removes padding when it finds some.
-/

namespace ZeroFeed.Payloads

open ZeroFeed.ByteString
open ZeroFeed.Messages
open ZeroFeed.Primitives
open ZeroFeed.Cipher
open ZeroFeed.Envelope
open ZeroFeed.Text
open ZeroFeed.Transfer

inductive PayloadError where
  | missingArguments
  | invalidKeyHex
  | invalidCiphertextHex
  | invalidNonceHex
  | invalidNonceSize
  | nonceFailed
  | crypto (err : CryptoError)
  /-- A run-time panic in `UnpadPayload`. -/
  | panicked
  deriving DecidableEq

structure Encrypted where
  ciphertextHex : Bytes
  nonceHex : Bytes

def decodeArgument (err : PayloadError) (text : Bytes) : Except PayloadError Bytes :=
  match decodeHex text with
  | none => .error err
  | some bytes => .ok bytes

def cipherFor (keyBytes : Bytes) : Except PayloadError Key :=
  match newCipher keyBytes with
  | .error err => .error (.crypto err)
  | .ok key => .ok key

/-- `random` is what `GenerateNonce` reads, if it can. -/
def encryptPayload (suite : Suite) (random : Option Nonce) (args : List Bytes) :
    Except PayloadError Encrypted :=
  match args with
  | keyHex :: plaintext :: rest => do
      let keyBytes ← decodeArgument .invalidKeyHex keyHex
      let aad := rest.headD []
      let key ← cipherFor keyBytes
      match random with
      | none => .error .nonceFailed
      | some nonce =>
          match encrypt suite (some key) plaintext nonce aad with
          | .error err => .error (.crypto err)
          | .ok ciphertext => .ok ⟨hexString ciphertext, hexString nonce.val⟩
  | _ => .error .missingArguments

/-- The last argument of `decryptPayload`. -/
def associatedData (text : Bytes) : Bytes :=
  if text = [] then [] else (decodeHex text).getD text

def unpadded (plaintext : Bytes) : Except PayloadError Bytes :=
  match unpadPayload plaintext with
  | .ok payload => .ok payload
  | .error .sliceOutOfRange => .error .panicked
  | .error _ => .ok plaintext

def decryptPayload (suite : Suite) (args : List Bytes) : Except PayloadError Bytes :=
  match args with
  | keyHex :: ciphertextHex :: nonceHex :: rest => do
      let keyBytes ← decodeArgument .invalidKeyHex keyHex
      let ciphertext ← decodeArgument .invalidCiphertextHex ciphertextHex
      let nonce ← decodeArgument .invalidNonceHex nonceHex
      let aad := associatedData (rest.headD [])
      let key ← cipherFor keyBytes
      if hnonce : nonce.length = nonceSize then
        match decrypt suite (some key) ciphertext ⟨nonce, hnonce⟩ aad with
        | .error err => .error (.crypto err)
        | .ok plaintext => do
            let plaintext ← unpadded plaintext
            .ok (hexString plaintext)
      else .error .invalidNonceSize
  | _ => .error .missingArguments

/-! ## There and back -/

/-- A key as it is passed, in either case. -/
structure KeyHex where
  text : Bytes
  key : Key
  hdecodes : decodeHex text = some key.val

/-- Encrypt, and decrypt what came out with the same key and associated data. -/
def roundTrip (suite : Suite) (nonce : Nonce) (keyHex plaintext aad : Bytes) :
    Except PayloadError Bytes := do
  let encrypted ← encryptPayload suite (some nonce) [keyHex, plaintext, aad]
  decryptPayload suite [keyHex, encrypted.ciphertextHex, encrypted.nonceHex, aad]

theorem decodeHex_hexString (bytes : Bytes) : decodeHex (hexString bytes) = some bytes := by
  have hpair : ∀ byte : Byte, decodePair ((ascii "0123456789abcdef").getD (byte.toNat / 16) 0)
      ((ascii "0123456789abcdef").getD (byte.toNat % 16) 0) = some byte := by
    decide +kernel
  induction bytes with
  | nil => rfl
  | cons byte bytes ih =>
      have hcons : decodeHex (hexString (byte :: bytes)) =
          (decodePair ((ascii "0123456789abcdef").getD (byte.toNat / 16) 0)
            ((ascii "0123456789abcdef").getD (byte.toNat % 16) 0)).bind fun byte =>
              (decodeHex (hexString bytes)).map fun bytes => byte :: bytes := rfl
      rw [hcons, hpair, ih]
      rfl

theorem decodeArgument_hexString (err : PayloadError) (bytes : Bytes) :
    decodeArgument err (hexString bytes) = .ok bytes := by
  rw [decodeArgument, decodeHex_hexString]

theorem hexString_injective : Function.Injective hexString := by
  intro left right heq
  have hdecoded := congrArg decodeHex heq
  rw [decodeHex_hexString, decodeHex_hexString] at hdecoded
  exact Option.some.inj hdecoded

theorem associatedData_eq_iff (aad : Bytes) :
    associatedData aad = aad ↔ aad = [] ∨ decodeHex aad = none := by
  rw [associatedData]
  by_cases hempty : aad = []
  · simp [hempty]
  rw [if_neg hempty]
  cases hdecode : decodeHex aad with
  | none => simp
  | some bytes =>
      -- two digits for each byte: decoding makes a text that is not empty shorter
      have hlength := length_of_decodeHex hdecode
      have hpositive := List.length_pos_iff.mpr hempty
      refine iff_of_false (fun heq => ?_) (by simp [hempty])
      rw [Option.getD_some] at heq
      rw [heq] at hlength
      omega

theorem unpadded_eq_iff (plaintext : Bytes) :
    unpadded plaintext = .ok plaintext ↔ unpadPayload plaintext = .error .invalidPadding := by
  unfold unpadded unpadPayload
  by_cases hshort : plaintext.length < lenPrefixSize
  · simp [hshort]
  rw [if_neg hshort]
  dsimp only
  split_ifs with hlong hslice
  · simp
  · simp
  · -- what is cut out lacks at least the length in front of it
    refine iff_of_false (fun heq => ?_) not_false
    have hlength := congrArg List.length (Except.ok.inj heq)
    rw [List.length_drop, List.length_take] at hlength
    simp only [lenPrefixSize] at hshort hlength
    omega

/-- Decryption opens what encryption sealed, under the data it reads. -/
theorem roundTrip_eq (suite : Suite) (keyHex : KeyHex) (nonce : Nonce) (plaintext aad : Bytes) :
    roundTrip suite nonce keyHex.text plaintext aad =
      match suite.aead.openBytes keyHex.key nonce
        (suite.aead.sealBytes keyHex.key nonce plaintext aad) (associatedData aad) with
      | none => .error (.crypto .decryptionFailed)
      | some opened => (unpadded opened).map hexString := by
  have hkey : decodeArgument .invalidKeyHex keyHex.text = .ok keyHex.key.val := by
    rw [decodeArgument, keyHex.hdecodes]
  have hcipher : cipherFor keyHex.key.val = .ok keyHex.key := by
    rw [cipherFor, newCipher_key]
  have hencrypt : encryptPayload suite (some nonce) [keyHex.text, plaintext, aad] =
      .ok ⟨hexString (suite.aead.sealBytes keyHex.key nonce plaintext aad),
        hexString nonce.val⟩ := by
    simp only [encryptPayload, hkey, hcipher, bind, Except.bind]
    rfl
  simp only [roundTrip, hencrypt, decryptPayload, hkey, hcipher, decodeArgument_hexString, bind,
    Except.bind]
  rw [dif_pos nonce.property]
  simp only [decrypt, List.headD_cons]
  cases suite.aead.openBytes keyHex.key nonce
      (suite.aead.sealBytes keyHex.key nonce plaintext aad) (associatedData aad) with
  | none => rfl
  | some opened =>
      dsimp only
      cases unpadded opened <;> rfl

theorem openBytes_associatedData {suite : Suite} (hopens : suite.aead.OpensSealed)
    {keyHex : KeyHex} {nonce : Nonce} {plaintext aad : Bytes} (haad : associatedData aad = aad) :
    suite.aead.openBytes keyHex.key nonce
      (suite.aead.sealBytes keyHex.key nonce plaintext aad) (associatedData aad) =
        some plaintext := by
  rw [haad]
  exact hopens ⟨keyHex.key, nonce, plaintext, aad⟩

/-- A cipher whose only call with this key and nonce is the one that encrypted opens
its ciphertext under no other data and to no other plaintext. -/
theorem eq_of_openBytes_associatedData {suite : Suite}
    {calls : List (Aead.SealCall Key Nonce)} (honly : suite.aead.OpensOnly calls)
    {keyHex : KeyHex} {nonce : Nonce} {plaintext aad ciphertext opened : Bytes}
    (honce : ∀ call ∈ calls, call.key = keyHex.key → call.nonce = nonce →
      call = ⟨keyHex.key, nonce, plaintext, aad⟩)
    (hopened : suite.aead.openBytes keyHex.key nonce ciphertext (associatedData aad) =
      some opened) :
    associatedData aad = aad ∧ opened = plaintext := by
  obtain ⟨call, hcall, hkey, hnonce, haad, hplaintext, -⟩ := honly _ _ _ _ _ hopened
  rw [honce call hcall hkey hnonce] at haad hplaintext
  exact ⟨haad.symm, hplaintext.symm⟩

/-- Under associated data that is empty or cannot be read as hexadecimal, every
plaintext that does not look padded comes back, if only `Open` inverts `Seal`.
Nothing else comes back from a cipher that opens only what was sealed, the nonce
being used once with the key. -/
theorem roundTrip_exact (suite : Suite) (keyHex : KeyHex) (nonce : Nonce)
    (plaintext aad : Bytes) :
    (suite.aead.OpensSealed →
      (aad = [] ∨ decodeHex aad = none) ∧ unpadPayload plaintext = .error .invalidPadding →
        roundTrip suite nonce keyHex.text plaintext aad = .ok (hexString plaintext)) ∧
    ∀ calls, suite.aead.OpensOnly calls →
      (∀ call ∈ calls, call.key = keyHex.key → call.nonce = nonce →
        call = ⟨keyHex.key, nonce, plaintext, aad⟩) →
      roundTrip suite nonce keyHex.text plaintext aad = .ok (hexString plaintext) →
        (aad = [] ∨ decodeHex aad = none) ∧ unpadPayload plaintext = .error .invalidPadding := by
  rw [← associatedData_eq_iff, ← unpadded_eq_iff, roundTrip_eq]
  constructor
  · rintro hopens ⟨haad, hunpadded⟩
    rw [openBytes_associatedData hopens haad]
    dsimp only
    rw [hunpadded]
    rfl
  · intro calls honly honce hresult
    cases hopened : suite.aead.openBytes keyHex.key nonce
        (suite.aead.sealBytes keyHex.key nonce plaintext aad) (associatedData aad) with
    | none =>
        rw [hopened] at hresult
        cases hresult
    | some opened =>
        obtain ⟨haad, rfl⟩ := eq_of_openBytes_associatedData honly honce hopened
        rw [hopened] at hresult
        dsimp only at hresult
        cases hunpadded : unpadded opened with
        | error err =>
            rw [hunpadded] at hresult
            cases hresult
        | ok payload =>
            rw [hunpadded] at hresult
            exact ⟨haad, by rw [hexString_injective (Except.ok.inj hresult)]⟩

/-! ## A cipher that checks the associated data

Its tag is the beginning of the associated data, of the size of an AES-GCM tag. -/

def checkedSeal (plaintext aad : Bytes) : Bytes := plaintext ++ (copyFixed tagSize aad).val

def checkedOpen (ciphertext aad : Bytes) : Option Bytes :=
  let length := ciphertext.length - tagSize
  if ciphertext.drop length = (copyFixed tagSize aad).val then some (ciphertext.take length)
  else none

def checked : Suite :=
  { transparent with
    aead :=
      { sealBytes := fun _ _ plaintext aad => checkedSeal plaintext aad
        openBytes := fun _ _ ciphertext aad => checkedOpen ciphertext aad } }

theorem checked_appendsTag : checked.aead.AppendsTag tagSize := by
  intro call
  change (checkedSeal call.plaintext call.aad).length = _
  rw [checkedSeal, List.length_append, (copyFixed tagSize call.aad).property]

theorem checked_opensSealed : checked.aead.OpensSealed := by
  intro call
  have hlength : (checkedSeal call.plaintext call.aad).length - tagSize =
      call.plaintext.length := by
    rw [checkedSeal, List.length_append, (copyFixed tagSize call.aad).property,
      Nat.add_sub_cancel]
  change checkedOpen (checkedSeal call.plaintext call.aad) call.aad = _
  rw [checkedOpen, hlength, checkedSeal, List.drop_left, List.take_left, if_pos rfl]

def sampleKeyHex : KeyHex where
  text := hexString (copyFixed keySize []).val
  key := copyFixed keySize []
  hdecodes := decodeHex_hexString _

def sampleNonce : Nonce := copyFixed nonceSize []

def sampleCall (aad : Bytes) : Aead.SealCall Key Nonce :=
  ⟨sampleKeyHex.key, sampleNonce, ascii "hi", aad⟩

theorem roundTrip_exact_text :
    roundTrip checked sampleNonce sampleKeyHex.text (ascii "hi") (ascii "note") =
        .ok (hexString (ascii "hi")) ∧
      roundTrip (idealTransparent [sampleCall (ascii "note")]) sampleNonce sampleKeyHex.text
          (ascii "hi") (ascii "note") = .ok (hexString (ascii "hi")) ∧
      roundTrip (idealTransparent [sampleCall (ascii "cafe")]) sampleNonce sampleKeyHex.text
          (ascii "hi") (ascii "cafe") ≠ .ok (hexString (ascii "hi")) := by
  have hround := (roundTrip_exact checked sampleKeyHex sampleNonce (ascii "hi") (ascii "note")).1
    checked_opensSealed
  have hexact := (roundTrip_exact (idealTransparent [sampleCall (ascii "cafe")]) sampleKeyHex
    sampleNonce (ascii "hi") (ascii "cafe")).2 [sampleCall (ascii "cafe")]
    (idealTransparent_opensOnly _) fun call hcall _ _ => List.mem_singleton.mp hcall
  refine ⟨hround (by decide +kernel), by decide +kernel, fun hresult => ?_⟩
  exact absurd (hexact hresult) (by decide +kernel)

/-- Associated data of four hexadecimal digits is not recognised, and four zero bytes
are taken for padding. -/
theorem roundTrip_differs :
    checked.aead.OpensSealed ∧ checked.aead.AppendsTag tagSize ∧
      roundTrip checked sampleNonce sampleKeyHex.text (ascii "hi") (ascii "cafe") =
        .error (.crypto .decryptionFailed) ∧
      roundTrip checked sampleNonce sampleKeyHex.text [0, 0, 0, 0] [] = .ok [] ∧
      (.ok [] : Except PayloadError Bytes) ≠ .ok (hexString [0, 0, 0, 0]) :=
  ⟨checked_opensSealed, checked_appendsTag, by decide +kernel, by decide +kernel,
    by decide +kernel⟩

end ZeroFeed.Payloads
