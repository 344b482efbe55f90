import ZeroFeed.Core.Text
import ZeroFeed.Feed.Handshake
import ZeroFeed.Feed.Transfer

/-!
# Dialing the relay (`DialRelayWithPin`, `Connect`)

Over TLS the relay's certificate is compared with a configured fingerprint before
anything is sent, and a failed comparison is never answered by plain TCP.  A QUIC
connection, tried first when that transport is chosen, knows of no fingerprint.
-/

namespace ZeroFeed.Dial

open ZeroFeed.ByteString
open ZeroFeed.Messages
open ZeroFeed.Envelope
open ZeroFeed.Primitives
open ZeroFeed.Cipher
open ZeroFeed.Pake
open ZeroFeed.Handshake
open ZeroFeed.Text
open ZeroFeed.Transfer

inductive Connection where
  | quic
  /-- With the certificates the peer presented, in DER. -/
  | tls (rawCerts : List Bytes)
  | tcp
  deriving DecidableEq

/-- What meets one TLS dial. -/
structure TlsAttempt where
  reached : Bool
  rawCerts : List Bytes
  /-- The chain leads to a root of the system and is valid for the name. -/
  chainValid : Bool
  completed : Bool

/-- Everything outside the program: the resolver's view of addresses, the environment,
certificates, and the outcome of every dial and write. -/
structure Outside where
  isIP : Bytes → Bool
  /-- `ZEROFEED_TLS_SNI`, empty if it is unset. -/
  envSNI : Bytes
  /-- `RawSubjectPublicKeyInfo` of a certificate that can be parsed. -/
  parseCertificate : Bytes → Option Bytes
  dialQUIC : (relayAddr : Bytes) → Bool
  dialTLS : (tcpNetwork relayAddr serverName : Bytes) → TlsAttempt
  dialTCP : (tcpNetwork relayAddr : Bytes) → Bool
  writes : Connection → Bool

inductive ConnectError where
  | pinnedTLSFailed
  | dialFailed
  | pake (err : CryptoError)
  | sendFailed
  deriving DecidableEq

section Dialing

variable (suite : Suite) (casing : Casing) (outside : Outside)

def calculateSPKIFingerprint (rawCertDER : Bytes) : Bytes :=
  match outside.parseCertificate rawCertDER with
  | none => hexString (suite.sha256 rawCertDER).val
  | some publicKeyInfo => hexString (suite.sha256 publicKeyInfo).val

/-- `VerifyPeerCertificate`. -/
def verifyPeerCertificate (expectedFingerprint : Bytes) (rawCerts : List Bytes) : Bool :=
  if expectedFingerprint = [] then true
  else
    match rawCerts with
    | [] => false
    | rawCert :: _ => calculateSPKIFingerprint suite outside rawCert = expectedFingerprint

/-- `tls.DialWithDialer`: the certificates have to parse, the chain is verified unless
that is skipped, and the callback has the last word. -/
def tlsConnection (insecureSkipVerify : Bool) (verify : List Bytes → Bool) (attempt : TlsAttempt) :
    Option Connection :=
  if attempt.reached ∧ (∀ rawCert ∈ attempt.rawCerts, (outside.parseCertificate rawCert).isSome) ∧
      (insecureSkipVerify ∨ attempt.chainValid) ∧ verify attempt.rawCerts ∧ attempt.completed then
    some (.tls attempt.rawCerts)
  else none

/-- The fingerprint as it is compared. -/
def pinOf (expectedFingerprint : Bytes) : Bytes := trimSpace (casing.toLower expectedFingerprint)

def dialRelayWithPin (relayAddr expectedFingerprint : Bytes) : Except ConnectError Connection :=
  let hostPort := (splitHostPort relayAddr).getD (relayAddr, [])
  let isRawIP := outside.isIP hostPort.1
  let serverName :=
    if isRawIP then
      if outside.envSNI ≠ [] then outside.envSNI else ascii "zerofeed.duckdns.org"
    else hostPort.1
  let expectedFingerprint := pinOf casing expectedFingerprint
  let tcpNetwork :=
    if isRawIP then if colon ∈ hostPort.1 then ascii "tcp6" else ascii "tcp4" else ascii "tcp"
  let plain :=
    if outside.dialTCP tcpNetwork relayAddr then .ok .tcp else .error .dialFailed
  let useTLSFirst := (isRawIP = false ∧ (hostPort.2 = ascii "443" ∨ hostPort.2 = ascii "8443")) ∨
    expectedFingerprint ≠ []
  if useTLSFirst then
    match tlsConnection outside (expectedFingerprint ≠ [])
        (verifyPeerCertificate suite outside expectedFingerprint)
        (outside.dialTLS tcpNetwork relayAddr serverName) with
    | some conn => .ok conn
    | none => if expectedFingerprint ≠ [] then .error .pinnedTLSFailed else plain
  else plain

/-- What an engine brings to `Connect`. -/
structure Client (suite : Suite) where
  transportMode : Bytes
  relayAddr : Bytes
  expectedFingerprint : Bytes
  sessionID : SessionID
  passphrase : Bytes
  pakePeer : Option (PAKEPeer suite)

/-- The connection a frame was written to, and what `Connect` returns. -/
structure Outcome where
  sent : Option (Connection × Envelope)
  result : Except ConnectError Unit

def dial (client : Client suite) : Except ConnectError Connection :=
  if client.transportMode = ascii "quic" ∧ outside.dialQUIC client.relayAddr = true then .ok .quic
  else dialRelayWithPin suite casing outside client.relayAddr client.expectedFingerprint

/-- `Connect` of either engine. -/
def connectAs (newPeer : Bytes → PeerCoins suite → Except CryptoError (PAKEPeer suite))
    (msgType : Byte) (client : Client suite) (coins : PeerCoins suite) : Outcome :=
  match dial suite casing outside client with
  | .error err => ⟨none, .error err⟩
  | .ok conn =>
      let peer : Except CryptoError (PAKEPeer suite) :=
        match client.pakePeer with
        | some peer => .ok peer
        | none => newPeer client.passphrase coins
      match peer with
      | .error err => ⟨none, .error (.pake err)⟩
      | .ok peer =>
          let pakeStep1Env := plainEnvelope client.sessionID msgType peer.bytes
          ⟨some (conn, pakeStep1Env), if outside.writes conn then .ok () else .error .sendFailed⟩

def publisherConnect (client : Client suite) (coins : PeerCoins suite) : Outcome :=
  connectAs suite casing outside newPAKEPublisher msgTypePAKEInitPub client coins

def subscriberConnect (client : Client suite) (coins : PeerCoins suite) : Outcome :=
  connectAs suite casing outside newPAKESubscriber msgTypePAKEInitSub client coins

def connect (role : Role) (client : Client suite) (coins : PeerCoins suite) : Outcome :=
  match role with
  | .publisher => publisherConnect suite casing outside client coins
  | .subscriber => subscriberConnect suite casing outside client coins

/-! ## Pinned connections -/

/-- A TLS connection whose peer's public key has the given digest. -/
def Pinned (pin : Bytes) (conn : Connection) : Prop :=
  ∃ rawCert others publicKeyInfo, conn = .tls (rawCert :: others) ∧
    outside.parseCertificate rawCert = some publicKeyInfo ∧
    hexString (suite.sha256 publicKeyInfo).val = pin

/-- The pin is enforced: a frame goes out on a pinned connection only, and without
one the call fails. -/
def Enforced (pin : Bytes) (outcome : Outcome) : Prop :=
  match outcome.sent with
  | some (conn, _) => Pinned suite outside pin conn
  | none => ∃ err, outcome.result = .error err

end Dialing

section Enforcement

variable {suite : Suite} {casing : Casing} {outside : Outside}

theorem pinned_of_tlsConnection {pin : Bytes} (hpin : pin ≠ []) {insecureSkipVerify : Bool}
    {attempt : TlsAttempt} {conn : Connection}
    (hconn : tlsConnection outside insecureSkipVerify (verifyPeerCertificate suite outside pin)
      attempt = some conn) :
    Pinned suite outside pin conn := by
  rw [tlsConnection] at hconn
  split at hconn
  · next hverified =>
      obtain ⟨-, hparsed, -, hverify, -⟩ := hverified
      obtain rfl := Option.some.inj hconn
      unfold verifyPeerCertificate at hverify
      rw [if_neg hpin] at hverify
      cases hcerts : attempt.rawCerts with
      | nil =>
          rw [hcerts] at hverify
          cases hverify
      | cons rawCert others =>
          rw [hcerts] at hverify hparsed
          obtain ⟨publicKeyInfo, hinfo⟩ :=
            Option.isSome_iff_exists.mp (hparsed rawCert List.mem_cons_self)
          refine ⟨rawCert, others, publicKeyInfo, rfl, hinfo, ?_⟩
          have hdigest := of_decide_eq_true hverify
          rwa [calculateSPKIFingerprint, hinfo] at hdigest
  · cases hconn

/-- With a pin, `DialRelayWithPin` returns a pinned connection or an error. -/
theorem pinned_of_dialRelayWithPin {relayAddr expectedFingerprint : Bytes}
    (hpin : pinOf casing expectedFingerprint ≠ []) {conn : Connection}
    (hdial : dialRelayWithPin suite casing outside relayAddr expectedFingerprint = .ok conn) :
    Pinned suite outside (pinOf casing expectedFingerprint) conn := by
  unfold dialRelayWithPin at hdial
  dsimp only at hdial
  rw [if_pos (.inr hpin)] at hdial
  split at hdial
  · next tlsConn htls =>
      obtain rfl := Except.ok.inj hdial
      exact pinned_of_tlsConnection hpin htls
  · rw [if_pos hpin] at hdial
    cases hdial

/-- A peer can be created exactly from a passphrase. -/
theorem newPAKEPeer_eq_ok_iff (passphrase : Bytes) (role : Role) (coins : PeerCoins suite) :
    (∃ peer, newPAKEPeer passphrase role coins = .ok peer) ↔ passphrase ≠ [] := by
  unfold newPAKEPeer
  by_cases hempty : passphrase.length = 0
  · rw [if_pos hempty]
    exact iff_of_false (by simp) (not_not.mpr (List.length_eq_zero_iff.mp hempty))
  · rw [if_neg hempty]
    refine iff_of_true ?_ (mt List.length_eq_zero_iff.mpr hempty)
    cases role <;> exact ⟨_, rfl⟩

/-- The engine has a peer or can create one. -/
def CanStart (client : Client suite) : Prop := client.pakePeer ≠ none ∨ client.passphrase ≠ []

theorem connect_of_dial_error {client : Client suite} {err : ConnectError}
    (hdial : dial suite casing outside client = .error err) (role : Role)
    (coins : PeerCoins suite) :
    connect suite casing outside role client coins = ⟨none, .error err⟩ := by
  cases role <;>
    simp only [connect, publisherConnect, subscriberConnect, connectAs, hdial]

/-- Once a connection is there, the frame goes out on it if there is a peer. -/
theorem connect_of_dial_ok {client : Client suite} {conn : Connection}
    (hdial : dial suite casing outside client = .ok conn) (role : Role) (coins : PeerCoins suite) :
    (CanStart client ∧
        ∃ env, (connect suite casing outside role client coins).sent = some (conn, env)) ∨
      (¬ CanStart client ∧
        ∃ err, connect suite casing outside role client coins = ⟨none, .error err⟩) := by
  have hconnect : ∃ msgType, connect suite casing outside role client coins =
      connectAs suite casing outside (fun passphrase => newPAKEPeer passphrase role) msgType
        client coins := by
    cases role <;> exact ⟨_, rfl⟩
  obtain ⟨msgType, hconnect⟩ := hconnect
  rw [hconnect]
  unfold connectAs
  rw [hdial]
  cases hpeer : client.pakePeer with
  | some peer => exact .inl ⟨.inl (by simp [hpeer]), _, rfl⟩
  | none =>
      have hcreated := newPAKEPeer_eq_ok_iff client.passphrase role coins
      cases hnew : newPAKEPeer client.passphrase role coins with
      | ok peer =>
          refine .inl ⟨.inr (hcreated.mp ⟨peer, hnew⟩), ?_⟩
          simp [hnew]
      | error err =>
          refine .inr ⟨?_, .pake err, by simp [hnew]⟩
          rintro (hsome | hpassphrase)
          · exact hsome hpeer
          · obtain ⟨peer, hok⟩ := hcreated.mpr hpassphrase
            rw [hnew] at hok
            cases hok

end Enforcement

/-- A configured pin is enforced in every case but one: the QUIC transport is chosen,
its dial succeeds, and the engine can start the exchange. -/
theorem connect_enforced_iff (suite : Suite) (casing : Casing) (outside : Outside) (role : Role)
    (client : Client suite) (coins : PeerCoins suite)
    (hpin : pinOf casing client.expectedFingerprint ≠ []) :
    Enforced suite outside (pinOf casing client.expectedFingerprint)
        (connect suite casing outside role client coins) ↔
      ¬ (client.transportMode = ascii "quic" ∧ outside.dialQUIC client.relayAddr = true ∧
        CanStart client) := by
  by_cases hquic : client.transportMode = ascii "quic" ∧ outside.dialQUIC client.relayAddr = true
  · have hdial : dial suite casing outside client = .ok .quic := if_pos hquic
    rcases connect_of_dial_ok hdial role coins with ⟨hstart, env, hsent⟩ | ⟨hstart, err, houtcome⟩
    · refine iff_of_false ?_ (not_not.mpr ⟨hquic.1, hquic.2, hstart⟩)
      rw [Enforced, hsent]
      rintro ⟨rawCert, others, publicKeyInfo, hconn, -⟩
      cases hconn
    · refine iff_of_true ?_ fun hall => hstart hall.2.2
      rw [Enforced, houtcome]
      exact ⟨err, rfl⟩
  · refine iff_of_true ?_ fun hall => hquic ⟨hall.1, hall.2.1⟩
    cases hdial : dial suite casing outside client with
    | error err =>
        rw [connect_of_dial_error hdial]
        exact ⟨err, rfl⟩
    | ok conn =>
        rcases connect_of_dial_ok hdial role coins with ⟨-, env, hsent⟩ | ⟨-, err, houtcome⟩
        · rw [Enforced, hsent]
          rw [dial, if_neg hquic] at hdial
          exact pinned_of_dialRelayWithPin hpin hdial
        · rw [Enforced, houtcome]
          exact ⟨err, rfl⟩

/-! ## A relay with one certificate -/

def sampleCert : Bytes := [0x30]

/-- A relay that answers every dial, its certificate being its own public key. -/
def sampleOutside : Outside where
  isIP _ := false
  envSNI := []
  parseCertificate := some
  dialQUIC _ := true
  dialTLS _ _ _ := ⟨true, [sampleCert], false, true⟩
  dialTCP _ _ := true
  writes _ := true

def sampleClient (transportMode fingerprint : Bytes) : Client transparent :=
  ⟨transportMode, ascii "relay.example:443", fingerprint, copyFixed sessionIDSize [], [1], none⟩

def sampleCoins : PeerCoins transparent := ⟨(3 : Byte), (4 : Byte), copyFixed 64 []⟩

def samplePin : Bytes := hexString (transparent.sha256 sampleCert).val

theorem connect_enforced_iff_tcp :
    Enforced transparent sampleOutside (pinOf .ofAscii samplePin)
      (connect transparent .ofAscii sampleOutside .subscriber
        (sampleClient (ascii "tcp") samplePin) sampleCoins) :=
  (connect_enforced_iff transparent .ofAscii sampleOutside .subscriber
    (sampleClient (ascii "tcp") samplePin) sampleCoins (by decide +kernel)).mpr
    fun hall => absurd hall.1 (by decide +kernel)

/-- The same relay over QUIC, against a pin that is not its own: the frame is sent. -/
theorem connect_quic_unpinned :
    pinOf .ofAscii (ascii "ab") = ascii "ab" ∧ samplePin ≠ ascii "ab" ∧
      (connect transparent .ofAscii sampleOutside .subscriber
        (sampleClient (ascii "quic") (ascii "ab")) sampleCoins).sent.map Prod.fst = some .quic ∧
      (connect transparent .ofAscii sampleOutside .subscriber
        (sampleClient (ascii "quic") (ascii "ab")) sampleCoins).result = .ok () := by
  refine ⟨by decide +kernel, by decide +kernel, by decide +kernel, by decide +kernel⟩

end ZeroFeed.Dial
