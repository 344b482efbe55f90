import ZeroFeed.Crypto.Primitives

/-!
# Key derivation and the AEAD cipher (`pkg/crypto/cipher.go`)

HKDF with its extract and expand steps, the key ratchet, nonce construction,
key wrapping and the short authentication string.  A `Cipher` object is
represented by the key it holds; a closed cipher holds none.
-/

namespace ZeroFeed.Cipher

open ZeroFeed.ByteString
open ZeroFeed.Messages
open ZeroFeed.Primitives

/-- The errors of the `crypto` package. -/
inductive CryptoError where
  | decryptionFailed
  | invalidKeySize
  | emptySecret
  | cipherClosed
  | invalidWrappedSize
  | pakeFailed
  | invalidPeerMsg
  deriving DecidableEq

/-- The bytes of an ASCII literal. -/
def ascii (text : String) : Bytes :=
  text.toList.map fun char => UInt8.ofNat char.toNat

/-! ## HKDF -/

/-- The expand loop.  Every block adds 32 bytes, so `length` rounds of fuel are
never exhausted before the output is long enough. -/
def hkdfExpand (suite : Suite) (prk info : Bytes) (length : ℕ) :
    (fuel : ℕ) → (prev okm : Bytes) → (counter : Byte) → Bytes
  | 0, _, okm, _ => okm
  | fuel + 1, prev, okm, counter =>
      if okm.length < length then
        let next := (suite.hmac prk (prev ++ info ++ [counter])).val
        hkdfExpand suite prk info length fuel next (okm ++ next) (counter + 1)
      else okm

def hkdfSHA256 (suite : Suite) (secret salt info : Bytes) (length : ℕ) :
    Except CryptoError Bytes :=
  if secret.length = 0 then .error .emptySecret
  else
    let salt := if salt.length = 0 then ascii "zerofeed-v2-default-salt" else salt
    let prk := (suite.hmac salt secret).val
    .ok ((hkdfExpand suite prk info length length [] [] 1).take length)

theorem hkdfExpand_of_le (suite : Suite) (prk info : Bytes) {length : ℕ} {okm : Bytes}
    (hdone : length ≤ okm.length) (fuel : ℕ) (prev : Bytes) (counter : Byte) :
    hkdfExpand suite prk info length fuel prev okm counter = okm := by
  cases fuel with
  | zero => rfl
  | succ fuel => rw [hkdfExpand, if_neg (not_lt.mpr hdone)]

/-- One block is enough for a 32-byte key. -/
theorem hkdfExpand_keySize (suite : Suite) (prk info : Bytes) (fuel : ℕ) :
    hkdfExpand suite prk info keySize (fuel + 1) [] [] 1 =
      (suite.hmac prk (info ++ [1])).val := by
  have hblock := (suite.hmac prk (info ++ [1])).property
  rw [hkdfExpand, if_pos (by decide)]
  exact hkdfExpand_of_le suite prk info (le_of_eq hblock.symm) fuel _ _

theorem hkdfSHA256_keySize (suite : Suite) {secret salt : Bytes} (info : Bytes)
    (hsecret : secret.length ≠ 0) (hsalt : salt.length ≠ 0) :
    hkdfSHA256 suite secret salt info keySize =
      .ok (suite.hmac (suite.hmac salt secret).val (info ++ [1])).val := by
  have hblock := (suite.hmac (suite.hmac salt secret).val (info ++ [1])).property
  simp only [hkdfSHA256, if_neg hsecret, if_neg hsalt]
  apply congrArg Except.ok
  calc
    (hkdfExpand suite (suite.hmac salt secret).val info keySize keySize [] [] 1).take
        keySize =
        (suite.hmac (suite.hmac salt secret).val (info ++ [1])).val.take keySize :=
      congrArg (List.take keySize) (hkdfExpand_keySize suite _ info 31)
    _ = (suite.hmac (suite.hmac salt secret).val (info ++ [1])).val :=
      List.take_of_length_le (le_of_eq hblock)

/-! ## Ciphers -/

/-- `NewCipher` accepts keys of exactly 32 bytes. -/
def newCipher (key : Bytes) : Except CryptoError Key :=
  if hkey : key.length = keySize then .ok ⟨key, hkey⟩ else .error .invalidKeySize

@[simp]
theorem newCipher_key (key : Key) : newCipher key.val = .ok key := by
  rw [newCipher, dif_pos key.property]

/-- `RatchetKey`: the next key from the current key and a salt. -/
def ratchetKey (suite : Suite) (currentKey salt : Bytes) : Except CryptoError Bytes :=
  hkdfSHA256 suite currentKey salt (ascii "zerofeed-v2-key-ratchet-pfs") keySize

/-- The key a ratchet step installs. -/
def ratchet (suite : Suite) (currentKey : Key) (salt : Bytes) : Key :=
  suite.hmac (suite.hmac salt currentKey.val).val
    (ascii "zerofeed-v2-key-ratchet-pfs" ++ [1])

/-- On a live key and a non-empty salt the ratchet never fails. -/
theorem ratchetKey_eq (suite : Suite) (currentKey : Key) {salt : Bytes}
    (hsalt : salt.length ≠ 0) :
    ratchetKey suite currentKey.val salt = .ok (ratchet suite currentKey salt).val :=
  hkdfSHA256_keySize suite _ (by rw [currentKey.property]; decide) hsalt

/-- The salts of rekey frames have the length of a nonce. -/
theorem ratchetKey_nonce (suite : Suite) (currentKey : Key) (salt : Nonce) :
    ratchetKey suite currentKey.val salt.val = .ok (ratchet suite currentKey salt.val).val :=
  ratchetKey_eq suite currentKey (by rw [salt.property]; decide)

/-- Whatever the salt, a ratchet that succeeds gives a key of the right length. -/
theorem length_ratchetKey {suite : Suite} {currentKey salt nextKey : Bytes}
    (hratchet : ratchetKey suite currentKey salt = .ok nextKey) :
    nextKey.length = keySize := by
  rw [ratchetKey, hkdfSHA256] at hratchet
  split at hratchet
  · cases hratchet
  · obtain rfl := Except.ok.inj hratchet
    apply List.length_take_of_le
    apply ge_of_eq
    exact (congrArg List.length (hkdfExpand_keySize suite _ _ 31)).trans
      (suite.hmac _ _).property

/-- `Cipher.Encrypt` with an explicit 12-byte nonce. -/
def encrypt (suite : Suite) (cipher : Option Key) (plaintext : Bytes) (nonce : Nonce)
    (aad : Bytes) : Except CryptoError Bytes :=
  match cipher with
  | none => .error .cipherClosed
  | some key => .ok (suite.aead.sealBytes key nonce plaintext aad)

/-- `Cipher.Decrypt`. -/
def decrypt (suite : Suite) (cipher : Option Key) (ciphertext : Bytes) (nonce : Nonce)
    (aad : Bytes) : Except CryptoError Bytes :=
  match cipher with
  | none => .error .cipherClosed
  | some key =>
      match suite.aead.openBytes key nonce ciphertext aad with
      | none => .error .decryptionFailed
      | some plaintext => .ok plaintext

theorem decrypt_eq_ok_iff (suite : Suite) (key : Key) (ciphertext : Bytes) (nonce : Nonce)
    (aad plaintext : Bytes) :
    decrypt suite (some key) ciphertext nonce aad = .ok plaintext ↔
      suite.aead.openBytes key nonce ciphertext aad = some plaintext := by
  rw [decrypt]
  cases suite.aead.openBytes key nonce ciphertext aad with
  | none => simp
  | some value => simp

/-! ## Nonces -/

/-- RFC 5116 nonce: four bytes of session salt and the sequence number. -/
def constructNonceRFC5116 (sessionSalt : FixedBytes 4) (seqNum : ℕ) : Nonce :=
  ⟨sessionSalt.val ++ (putUint64 seqNum).val, by
    rw [List.length_append, sessionSalt.property, (putUint64 seqNum).property]
    rfl⟩

theorem constructNonceRFC5116_inj {leftSalt rightSalt : FixedBytes 4} {left right : ℕ} :
    constructNonceRFC5116 leftSalt left = constructNonceRFC5116 rightSalt right ↔
      leftSalt = rightSalt ∧ left % 2 ^ 64 = right % 2 ^ 64 := by
  rw [Subtype.ext_iff]
  change leftSalt.val ++ _ = rightSalt.val ++ _ ↔ _
  rw [append_inj_of_width, ← Subtype.ext_iff, putUint64_inj]

/-- The sequence number a nonce carries in its last eight bytes. -/
def nonceSeqNum (nonce : Nonce) : ℕ := uint64 (nonce.val.drop 4)

theorem nonceSeqNum_constructNonceRFC5116 (sessionSalt : FixedBytes 4) {seqNum : ℕ}
    (hseqNum : seqNum < 2 ^ 64) :
    nonceSeqNum (constructNonceRFC5116 sessionSalt seqNum) = seqNum := by
  have hdrop : (constructNonceRFC5116 sessionSalt seqNum).val.drop 4 =
      (putUint64 seqNum).val ++ [] := by
    rw [List.append_nil]
    exact List.drop_left' sessionSalt.property
  rw [nonceSeqNum, hdrop]
  exact uint64_putUint64 hseqNum []

/-! ## Key wrapping -/

def wrapAAD : Bytes := ascii "zerofeed-v3-pqc-key-wrap"

/-- `WrapSessionKey` under a fresh random nonce: nonce, then ciphertext. -/
def wrapSessionKey (suite : Suite) (p2pKey masterKey : Bytes) (nonce : Nonce) :
    Except CryptoError Bytes :=
  match newCipher p2pKey with
  | .error err => .error err
  | .ok key => .ok (nonce.val ++ suite.aead.sealBytes key nonce masterKey wrapAAD)

def unwrapSessionKey (suite : Suite) (p2pKey wrappedData : Bytes) :
    Except CryptoError Bytes :=
  if wrappedData.length < nonceSize + 48 then .error .invalidWrappedSize
  else
    let wrappedData := wrappedData.take (nonceSize + 48)
    match newCipher p2pKey with
    | .error err => .error err
    | .ok key =>
        decrypt suite (some key) (wrappedData.drop nonceSize)
          (copyFixed nonceSize wrappedData) wrapAAD

theorem wrapSessionKey_eq (suite : Suite) (p2pKey : Key) (masterKey : Bytes)
    (nonce : Nonce) :
    wrapSessionKey suite p2pKey.val masterKey nonce =
      .ok (nonce.val ++ suite.aead.sealBytes p2pKey nonce masterKey wrapAAD) := by
  rw [wrapSessionKey, newCipher_key]

section Wrapping

variable {suite : Suite} (hlawful : Lawful suite)
include hlawful

/-- A wrapped 32-byte key occupies exactly 60 bytes. -/
theorem length_wrapped (p2pKey masterKey : Key) (nonce : Nonce) :
    (nonce.val ++ suite.aead.sealBytes p2pKey nonce masterKey.val wrapAAD).length =
      nonceSize + 48 := by
  have hseal := hlawful.appendsTag ⟨p2pKey, nonce, masterKey.val, wrapAAD⟩
  rw [Aead.Scheme.sealCall] at hseal
  rw [List.length_append, nonce.property, hseal, masterKey.property]
  rfl

theorem unwrapSessionKey_wrapSessionKey (p2pKey masterKey : Key) (nonce : Nonce) :
    unwrapSessionKey suite p2pKey.val
        (nonce.val ++ suite.aead.sealBytes p2pKey nonce masterKey.val wrapAAD) =
      .ok masterKey.val := by
  have hlength := length_wrapped hlawful p2pKey masterKey nonce
  simp only [unwrapSessionKey, hlength, lt_irrefl, if_false, newCipher_key]
  rw [List.take_of_length_le (le_of_eq hlength), List.drop_left' nonce.property,
    copyFixed_append, decrypt_eq_ok_iff]
  exact hlawful.opensSealed ⟨p2pKey, nonce, masterKey.val, wrapAAD⟩

end Wrapping

/-! ## Short authentication string -/

def sasVisualEmojis : List String :=
  ["🛡️", "⚡", "🚀", "🔒", "🔑", "🐺", "🦅", "💎",
    "🎯", "🔥", "🌊", "🔮", "🏆", "🌟", "⚓", "👑"]

def hexDigits : List Char :=
  ['0', '1', '2', '3', '4', '5', '6', '7', '8', '9', 'A', 'B', 'C', 'D', 'E', 'F']

/-- `%08X` of a 32-bit value. -/
def formatHex8 (value : ℕ) : String :=
  String.ofList ((List.range 8).map fun index =>
    hexDigits.getD (value / 16 ^ (7 - index) % 16) '0')

structure SAS where
  hex : String
  emoji : String
  deriving DecidableEq

def calculateSAS (suite : Suite) (key : Bytes) : SAS :=
  let digest := (suite.sha256 key).val
  let emoji := fun index : ℕ =>
    sasVisualEmojis.getD ((digest.getD index 0).toNat % sasVisualEmojis.length) ""
  { hex := formatHex8 (bigEndianValue (digest.take 4))
    emoji := emoji 4 ++ emoji 5 ++ emoji 6 ++ emoji 7 }

end ZeroFeed.Cipher
