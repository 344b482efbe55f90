import ZeroFeed.Crypto.Cipher

/-!
# The hybrid key exchange (`pkg/crypto/pake.go`)

Both roles send 1280-byte messages: an X25519 public key, then an ML-KEM
encapsulation key (subscriber) or ciphertext (publisher), then random noise.
The two shared secrets and the passphrase give the session key, and a tag
bound to the sender's role confirms it.
-/

namespace ZeroFeed.Pake

open ZeroFeed.ByteString
open ZeroFeed.Primitives
open ZeroFeed.Cipher

def uniformWireMsgSize : ℕ := 1280

inductive Role where
  | publisher
  | subscriber
  deriving DecidableEq

/-- Roles are 1 and 2 in the source. -/
def Role.byte : Role → Byte
  | .publisher => 1
  | .subscriber => 2

/-- The role byte expected in the peer's confirmation tag. -/
def Role.peerByte (role : Role) : Byte := 3 - role.byte

structure PAKEPeer (suite : Suite) where
  privKey : suite.X25519Private
  mlkemDecap : Option suite.DecapsulationKey
  /-- `none` for a publisher that has not processed a peer message yet. -/
  pubBytes : Option Bytes
  role : Role
  sharedKey : Option Bytes
  passphrase : Bytes

/-- Randomness drawn when a peer is created. -/
structure PeerCoins (suite : Suite) where
  privKey : suite.X25519Private
  decapKey : suite.DecapsulationKey
  noise : FixedBytes 64

/-- Randomness drawn when a publisher answers. -/
structure UpdateCoins (suite : Suite) where
  encapsulation : suite.EncapsulationCoins
  noise : FixedBytes 160

variable {suite : Suite}

def newPAKEPeer (passphrase : Bytes) (role : Role) (coins : PeerCoins suite) :
    Except CryptoError (PAKEPeer suite) :=
  if passphrase.length = 0 then .error .emptySecret
  else
    let peer : PAKEPeer suite :=
      { privKey := coins.privKey
        mlkemDecap := none
        pubBytes := none
        role := role
        sharedKey := none
        passphrase := passphrase }
    match role with
    | .publisher => .ok peer
    | .subscriber =>
        let pubRaw := (suite.x25519Public coins.privKey).val ++
          (suite.encapsulationKey coins.decapKey).val
        .ok { peer with
          mlkemDecap := some coins.decapKey
          pubBytes := some (pubRaw ++ coins.noise.val) }

def newPAKEPublisher (passphrase : Bytes) (coins : PeerCoins suite) :
    Except CryptoError (PAKEPeer suite) :=
  newPAKEPeer passphrase .publisher coins

def newPAKESubscriber (passphrase : Bytes) (coins : PeerCoins suite) :
    Except CryptoError (PAKEPeer suite) :=
  newPAKEPeer passphrase .subscriber coins

def deriveMasterKeyArgon2 (suite : Suite) (passphrase : Bytes) : FixedBytes 32 :=
  let salt := suite.sha256 (ascii "zerofeed-v3-argon2id-static-context:" ++ passphrase)
  suite.argon2IDKey passphrase salt.val

/-- The passphrase-bound session key of an exchange. -/
def pakeMasterSecret (suite : Suite) (combinedSecret argon2Key : Bytes) :
    Except CryptoError Bytes :=
  hkdfSHA256 suite combinedSecret argon2Key (ascii "zerofeed-v3-pake-master-secret") keySize

namespace PAKEPeer

/-- `Bytes` returns a nil slice before the publisher's first `Update`. -/
def bytes (peer : PAKEPeer suite) : Bytes := peer.pubBytes.getD []

/-- The common tail of `Update`: derive and store the session key. -/
def deriveShared (peer : PAKEPeer suite) (sharedX25519 sharedMLKEM : FixedBytes 32) :
    Except CryptoError (PAKEPeer suite) :=
  match pakeMasterSecret suite (sharedX25519.val ++ sharedMLKEM.val)
      (deriveMasterKeyArgon2 suite peer.passphrase).val with
  | .error err => .error err
  | .ok masterKey => .ok { peer with sharedKey := some masterKey }

/-- Process the remote peer's message.  Only the publisher draws coins. -/
def update (peer : PAKEPeer suite) (peerBytes : Bytes) (coins : UpdateCoins suite) :
    Except CryptoError (PAKEPeer suite) :=
  if peerBytes.length ≠ uniformWireMsgSize then .error .invalidPeerMsg
  else
    match suite.x25519ECDH peer.privKey (copyFixed 32 peerBytes) with
    | none => .error .pakeFailed
    | some sharedX25519 =>
        match peer.role with
        | .publisher =>
            match suite.encapsulate (copyFixed 1184 (peerBytes.drop 32))
                coins.encapsulation with
            | none => .error .pakeFailed
            | some (sharedMLKEM, ciphertext) =>
                let pubRaw := (suite.x25519Public peer.privKey).val ++ ciphertext.val
                deriveShared { peer with pubBytes := some (pubRaw ++ coins.noise.val) }
                  sharedX25519 sharedMLKEM
        | .subscriber =>
            match peer.mlkemDecap with
            | none => .error .pakeFailed
            | some decapKey =>
                match suite.decapsulate decapKey (copyFixed 1088 (peerBytes.drop 32)) with
                | none => .error .pakeFailed
                | some sharedMLKEM => deriveShared peer sharedX25519 sharedMLKEM

/-- The message authenticated by a confirmation tag. -/
def confirmMessage (roleByte : Byte) : Bytes :=
  ascii "zerofeed-v3-pake-key-confirmation-v1" ++ [roleByte]

def confirmTag (peer : PAKEPeer suite) : Except CryptoError Bytes :=
  match peer.sharedKey with
  | none => .error .pakeFailed
  | some sharedKey => .ok (suite.hmac sharedKey (confirmMessage peer.role.byte)).val

def verifyPeerConfirm (peer : PAKEPeer suite) (peerTag : Bytes) : Except CryptoError Unit :=
  match peer.sharedKey with
  | none => .error .pakeFailed
  | some sharedKey =>
      if peerTag.length = 0 then .error .pakeFailed
      else if peerTag = (suite.hmac sharedKey (confirmMessage peer.role.peerByte)).val then
        .ok ()
      else .error .pakeFailed

def sessionKey (peer : PAKEPeer suite) : Except CryptoError Bytes :=
  match peer.sharedKey with
  | none => .error .pakeFailed
  | some sharedKey => .ok sharedKey

end PAKEPeer

/-! ## One honest exchange -/

/-- The session key both sides compute from the combined secret. -/
def pakeKey (suite : Suite) (combinedSecret argon2Key : Bytes) : Key :=
  suite.hmac (suite.hmac argon2Key combinedSecret).val
    (ascii "zerofeed-v3-pake-master-secret" ++ [1])

theorem pakeMasterSecret_eq (suite : Suite) (sharedX25519 sharedMLKEM argon2Key : FixedBytes 32) :
    pakeMasterSecret suite (sharedX25519.val ++ sharedMLKEM.val) argon2Key.val =
      .ok (pakeKey suite (sharedX25519.val ++ sharedMLKEM.val) argon2Key.val).val := by
  apply hkdfSHA256_keySize
  · rw [List.length_append, sharedX25519.property]
    omega
  · rw [argon2Key.property]
    decide

theorem deriveShared_eq (peer : PAKEPeer suite) (sharedX25519 sharedMLKEM : FixedBytes 32) :
    peer.deriveShared sharedX25519 sharedMLKEM =
      .ok { peer with sharedKey := some (pakeKey suite
        (sharedX25519.val ++ sharedMLKEM.val)
        (deriveMasterKeyArgon2 suite peer.passphrase).val).val } := by
  simp only [PAKEPeer.deriveShared, pakeMasterSecret_eq]

theorem verifyPeerConfirm_eq_ok_iff {peer : PAKEPeer suite} {sharedKey : Bytes}
    (hshared : peer.sharedKey = some sharedKey) (key : Bytes) (message : Bytes) :
    peer.verifyPeerConfirm (suite.hmac key message).val = .ok () ↔
      suite.hmac key message =
        suite.hmac sharedKey (PAKEPeer.confirmMessage peer.role.peerByte) := by
  have hlength : (suite.hmac key message).val.length ≠ 0 := by
    rw [(suite.hmac key message).property]
    decide
  simp only [PAKEPeer.verifyPeerConfirm, hshared, if_neg hlength, Subtype.ext_iff]
  split <;> simp_all

end ZeroFeed.Pake
