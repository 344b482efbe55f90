import ZeroFeed.Feed.Agreement
import ZeroFeed.Feed.Delivery
import ZeroFeed.Wasm.Payloads

/-!
# A subscriber in the browser (`cmd/wasm/main.go`)

The page keeps one peer of the key exchange between its calls.  `pakeInitSub`
replaces it, `pakeUpdateSub` feeds it a response of the publisher and may be tried
again with another one, `wipeAll` drops it.  Keys, salts and payloads go in and out
in hexadecimal.

What these functions are for is to follow a channel without the native engine: with
the key of the handshake `decryptPayload` opens the data frames, and what it returns
for a rekey frame goes to `ratchetKey` (`follow`).  This works as long as no salt of
a rekey looks like padded text, since `decryptPayload` strips what it takes for
padding.
-/

namespace ZeroFeed.Exports

open ZeroFeed.ByteString
open ZeroFeed.Messages
open ZeroFeed.Envelope
open ZeroFeed.Primitives
open ZeroFeed.Cipher
open ZeroFeed.Pake
open ZeroFeed.Text
open ZeroFeed.Handshake
open ZeroFeed.Agreement
open ZeroFeed.Frame
open ZeroFeed.Publisher
open ZeroFeed.Receiver (Aligned Sendable messages messages_cons_dataFrame messages_cons_of_none
  messageOf_rekeyFrame)
open ZeroFeed.Sequential
open ZeroFeed.HighWater
open ZeroFeed.Transfer (hexString)
open ZeroFeed.Payloads

inductive ExportError where
  | missingArguments
  | notInitialized
  | invalidPubWireMsgHex
  | invalidResponseSize
  | tagMismatch (err : CryptoError)
  | confirmTagFailed (err : CryptoError)
  | invalidCurrentKeyHex
  | invalidSaltHex
  | crypto (err : CryptoError)
  deriving DecidableEq

/-- What `pakeUpdateSub` returns. -/
structure Confirmed where
  sessionKeyHex : Bytes
  subConfirmTagHex : Bytes
  sas : SAS

/-- What `ratchetKey` returns. -/
structure Ratcheted where
  nextKeyHex : Bytes
  sas : SAS

structure State (suite : Suite) where
  activePAKESub : Option (PAKEPeer suite)

variable {suite : Suite}

namespace State

variable (state : State suite)

def pakeInitSub (args : List Bytes) (coins : PeerCoins suite) :
    State suite × Except ExportError Bytes :=
  match args with
  | [] => (state, .error .missingArguments)
  | passphrase :: _ =>
      match newPAKESubscriber passphrase coins with
      | .error err => (state, .error (.crypto err))
      | .ok subPeer => (⟨some subPeer⟩, .ok (hexString subPeer.bytes))

/-- `pakeUpdateSub` after `Update`. -/
def confirm (subPeer : PAKEPeer suite) (pubMsg : Bytes) : Except ExportError Confirmed :=
  match subPeer.verifyPeerConfirm (sliceTag pubMsg) with
  | .error err => .error (.tagMismatch err)
  | .ok () =>
      match subPeer.confirmTag with
      | .error err => .error (.confirmTagFailed err)
      | .ok subConfirmTag =>
          match subPeer.sessionKey >>= fun p2pKey =>
              unwrapSessionKey suite p2pKey (sliceWrapped pubMsg) with
          | .error err => .error (.crypto err)
          | .ok masterSessionKey =>
              .ok ⟨hexString masterSessionKey, hexString subConfirmTag,
                calculateSAS suite masterSessionKey⟩

def pakeUpdateSub (args : List Bytes) (coins : UpdateCoins suite) :
    State suite × Except ExportError Confirmed :=
  match state.activePAKESub with
  | none => (state, .error .notInitialized)
  | some subPeer =>
      match args with
      | [] => (state, .error .missingArguments)
      | pubWireMsgHex :: _ =>
          match decodeHex pubWireMsgHex with
          | none => (state, .error .invalidPubWireMsgHex)
          | some pubMsg =>
              if pubMsg.length < uniformWireMsgSize + wrappedKeySize + confirmTagSize then
                (state, .error .invalidResponseSize)
              else
                match subPeer.update (slicePake pubMsg) coins with
                | .error err => (state, .error (.crypto err))
                | .ok subPeer => (⟨some subPeer⟩, confirm subPeer pubMsg)

def wipeAll : State suite := ⟨none⟩

end State

def ratchetKey (suite : Suite) (args : List Bytes) : Except ExportError Ratcheted :=
  match args with
  | currentKeyHex :: saltHex :: _ =>
      match decodeHex currentKeyHex with
      | none => .error .invalidCurrentKeyHex
      | some currentKey =>
          match decodeHex saltHex with
          | none => .error .invalidSaltHex
          | some salt =>
              match Cipher.ratchetKey suite currentKey salt with
              | .error err => .error (.crypto err)
              | .ok nextKey => .ok ⟨hexString nextKey, calculateSAS suite nextKey⟩
  | _ => .error .missingArguments

def deriveSessionID (suite : Suite) (args : List Bytes) : Except ExportError Bytes :=
  match args with
  | [] => .error .missingArguments
  | passphrase :: _ => .ok (hexString (Publisher.deriveSessionID suite passphrase).val)

/-! ## Following a channel -/

/-- `decryptPayload` with the fields of a frame. -/
def openWith (suite : Suite) (keyHex : Bytes) (env : Envelope) : Option Bytes :=
  (decryptPayload suite [keyHex, hexString (receivedCiphertext env), hexString env.nonce.val,
    hexString (receivedHeader env)]).toOption

/-- The last key and the payloads, all in hexadecimal. -/
def follow (suite : Suite) : Bytes → List Envelope → Option (Bytes × List Bytes)
  | keyHex, [] => some (keyHex, [])
  | keyHex, env :: rest =>
      if env.msgType = msgTypeDataStream then do
        let payload ← openWith suite keyHex env
        let (lastHex, payloads) ← follow suite keyHex rest
        return (lastHex, payload :: payloads)
      else if env.msgType = msgTypeRekey then do
        let saltHex ← openWith suite keyHex env
        let next ← (ratchetKey suite [keyHex, saltHex]).toOption
        follow suite next.nextKeyHex rest
      else follow suite keyHex rest

/-- A salt that `decryptPayload` returns as it is. -/
def plainSalt : Sent → Bool
  | .sealed frame =>
      decide (frame.msgType = msgTypeRekey →
        unpadPayload frame.plaintext = .error .invalidPadding)
  | _ => true

theorem associatedData_hexString (bytes : Bytes) : associatedData (hexString bytes) = bytes := by
  rw [associatedData]
  split
  · rename_i hnil
    have hbytes := decodeHex_hexString bytes
    rw [hnil] at hbytes
    exact Option.some.inj hbytes
  · rw [decodeHex_hexString, Option.getD_some]

section Steps

variable {keyHex : Bytes} {env : Envelope} {rest : List Envelope}

theorem follow_data {payload : Bytes} (htype : env.msgType = msgTypeDataStream)
    (hopen : openWith suite keyHex env = some payload) :
    follow suite keyHex (env :: rest) =
      (follow suite keyHex rest).map fun seen => (seen.1, payload :: seen.2) := by
  rw [follow, if_pos htype, hopen]
  cases follow suite keyHex rest <;> rfl

theorem follow_rekey {saltHex : Bytes} {next : Ratcheted} (htype : env.msgType = msgTypeRekey)
    (hopen : openWith suite keyHex env = some saltHex)
    (hnext : ratchetKey suite [keyHex, saltHex] = .ok next) :
    follow suite keyHex (env :: rest) = follow suite next.nextKeyHex rest := by
  have hdata : env.msgType ≠ msgTypeDataStream := by
    rw [htype]
    exact msgTypeDataStream_ne_msgTypeRekey.symm
  rw [follow, if_neg hdata, if_pos htype, hopen]
  simp only [Option.bind_eq_bind, Option.bind_some, hnext]
  rfl

theorem follow_other (hdata : env.msgType ≠ msgTypeDataStream)
    (hrekey : env.msgType ≠ msgTypeRekey) :
    follow suite keyHex (env :: rest) = follow suite keyHex rest := by
  rw [follow, if_neg hdata, if_neg hrekey]

end Steps

section Frames

variable (htag : suite.aead.AppendsTag tagSize) (hopens : suite.aead.OpensSealed)
include htag hopens

theorem openWith_envelope (sessionID : SessionID) (frame : SealedFrame) :
    openWith suite (hexString frame.key.val) (frame.envelope sessionID suite) =
      ((Payloads.unpadded frame.plaintext).map hexString).toOption := by
  have hopen := openFrame_envelope htag hopens sessionID frame
  rw [openFrame] at hopen
  have hcipher : cipherFor frame.key.val = .ok frame.key := by
    rw [cipherFor, newCipher_key]
  simp only [openWith, decryptPayload, decodeArgument_hexString, bind, Except.bind, hcipher,
    List.headD_cons, associatedData_hexString]
  rw [dif_pos (frame.envelope sessionID suite).nonce.property, hopen]
  dsimp only
  cases Payloads.unpadded frame.plaintext <;> rfl

theorem openWith_dataFrame (sessionID : SessionID) (key : Key) {msg : Ring.SeqMsg}
    (hmsg : Sendable msg) :
    openWith suite (hexString key.val) ((dataFrame key msg).envelope sessionID suite) =
      some (hexString msg.payload) := by
  have hsize := hmsg.size
  have hlimit : Receiver.maxMessageSize = 33554404 := rfl
  have hunpadded : Payloads.unpadded (dataFrame key msg).plaintext = .ok msg.payload := by
    change Payloads.unpadded (padPayload msg.payload defaultPaddingTargetSize) = _
    rw [Payloads.unpadded, unpadPayload_padPayload _ (by omega)]
  have hopen := openWith_envelope htag hopens sessionID (dataFrame key msg)
  rw [hunpadded] at hopen
  exact hopen

theorem openWith_rekeyFrame (sessionID : SessionID) (key : Key) (seqNum : ℕ) {salt : Nonce}
    (hsalt : unpadPayload salt.val = .error .invalidPadding) :
    openWith suite (hexString key.val) ((rekeyFrame key seqNum salt).envelope sessionID suite) =
      some (hexString salt.val) := by
  have hopen := openWith_envelope htag hopens sessionID (rekeyFrame key seqNum salt)
  rw [show (rekeyFrame key seqNum salt).plaintext = salt.val from rfl,
    (unpadded_eq_iff salt.val).mpr hsalt] at hopen
  exact hopen

/-- On a wire that is aligned with the ratchet the page keeps up with the key and
reads every message. -/
theorem follow_aligned (sessionID : SessionID) {first last : Key} {wire : List Sent}
    (haligned : Aligned suite first wire last) (hsalts : ∀ sent ∈ wire, plainSalt sent = true) :
    follow suite (hexString first.val) (wire.filterMap (Sent.envelope suite sessionID)) =
      some (hexString last.val, (messages wire).map fun msg => hexString msg.payload) := by
  induction haligned with
  | nil key => rfl
  | @data key last wire msg hmsg _ ih =>
      have hrest := ih (List.forall_mem_cons.mp hsalts).2
      change follow suite _ ((dataFrame key msg).envelope sessionID suite :: _) = _
      rw [follow_data rfl (openWith_dataFrame htag hopens sessionID key hmsg), hrest,
        messages_cons_dataFrame hmsg]
      rfl
  | @rekey key last wire seqNum salt _ ih =>
      have hrest := ih (List.forall_mem_cons.mp hsalts).2
      have hnext : ratchetKey suite [hexString key.val, hexString salt.val] =
          .ok ⟨hexString (ratchet suite key salt.val).val,
            calculateSAS suite (ratchet suite key salt.val).val⟩ := by
        simp only [ratchetKey, decodeHex_hexString, ratchetKey_nonce]
      have hsalt : unpadPayload salt.val = .error .invalidPadding :=
        of_decide_eq_true (List.forall_mem_cons.mp hsalts).1 rfl
      change follow suite _ ((rekeyFrame key seqNum salt).envelope sessionID suite :: _) = _
      rw [follow_rekey rfl (openWith_rekeyFrame htag hopens sessionID key seqNum hsalt) hnext,
        messages_cons_of_none (messageOf_rekeyFrame key seqNum salt)]
      exact hrest
  | @heartbeat key last wire _ ih =>
      have hrest := ih (List.forall_mem_cons.mp hsalts).2
      have hdata : msgTypeHeartbeat ≠ msgTypeDataStream := by decide
      have hrekey : msgTypeHeartbeat ≠ msgTypeRekey := by decide
      change follow suite _ (plainEnvelope sessionID msgTypeHeartbeat [] :: _) = _
      rw [follow_other hdata hrekey]
      exact hrest
  | @step2 key last wire response _ ih =>
      have hrest := ih (List.forall_mem_cons.mp hsalts).2
      cases henv : Sent.envelope suite sessionID (.step2 response) with
      | none =>
          rw [List.filterMap_cons_none henv]
          exact hrest
      | some env =>
          have htype := Receiver.step2_msgType response henv
          rw [List.filterMap_cons_some henv,
            follow_other (by rw [htype]; decide) (by rw [htype]; decide)]
          exact hrest

end Frames

/-! ## Joining -/

section Joining

/-- Only the shared key of the peer changes between two tries. -/
theorem update_sharedKey {peer : PAKEPeer suite} (hrole : peer.role = .subscriber)
    (shared : Option Bytes) (peerBytes : Bytes) (coins : UpdateCoins suite) :
    PAKEPeer.update { peer with sharedKey := shared } peerBytes coins =
      peer.update peerBytes coins := by
  simp only [PAKEPeer.update, hrole, deriveShared_eq]

theorem eq_of_update {peer next : PAKEPeer suite} (hrole : peer.role = .subscriber)
    {peerBytes : Bytes} {coins : UpdateCoins suite}
    (hupdate : peer.update peerBytes coins = .ok next) :
    ∃ shared, next = { peer with sharedKey := shared } := by
  obtain ⟨privKey, mlkemDecap, pubBytes, role, sharedKey, passphrase⟩ := peer
  obtain rfl : role = .subscriber := hrole
  simp only [PAKEPeer.update, deriveShared_eq] at hupdate
  split at hupdate
  · cases hupdate
  · split at hupdate
    · cases hupdate
    · split at hupdate
      · cases hupdate
      · split at hupdate
        · cases hupdate
        · exact ⟨_, (Except.ok.inj hupdate).symm⟩

/-- The page tries the responses it sees. -/
def attempts (state : State suite) (tries : List (List Bytes × UpdateCoins suite)) : State suite :=
  tries.foldl (fun state attempt => (state.pakeUpdateSub attempt.1 attempt.2).1) state

theorem pakeUpdateSub_state (state : State suite) (args : List Bytes) (coins : UpdateCoins suite) :
    (state.pakeUpdateSub args coins).1 = state ∨
      ∃ peer next peerBytes, state.activePAKESub = some peer ∧
        peer.update peerBytes coins = .ok next ∧
        (state.pakeUpdateSub args coins).1 = ⟨some next⟩ := by
  rw [State.pakeUpdateSub]
  split
  · exact .inl rfl
  · rename_i peer hactive
    split
    · exact .inl rfl
    · split
      · exact .inl rfl
      · split
        · exact .inl rfl
        · split
          · exact .inl rfl
          · rename_i next hupdate
            exact .inr ⟨peer, next, _, hactive, hupdate, rfl⟩

theorem attempts_active {state : State suite} {peer : PAKEPeer suite}
    (hrole : peer.role = .subscriber) {shared : Option Bytes}
    (hactive : state.activePAKESub = some { peer with sharedKey := shared })
    (tries : List (List Bytes × UpdateCoins suite)) :
    ∃ shared', (attempts state tries).activePAKESub = some { peer with sharedKey := shared' } := by
  induction tries generalizing state shared with
  | nil => exact ⟨shared, hactive⟩
  | cons attempt tries ih =>
      rcases pakeUpdateSub_state state attempt.1 attempt.2 with
        hsame | ⟨current, next, peerBytes, hcurrent, hupdate, hnext⟩
      · have hkept : (state.pakeUpdateSub attempt.1 attempt.2).1.activePAKESub =
            some { peer with sharedKey := shared } := by
          rw [hsame]
          exact hactive
        exact ih hkept
      · rw [hactive] at hcurrent
        obtain rfl := Option.some.inj hcurrent
        rw [update_sharedKey hrole] at hupdate
        obtain ⟨shared', rfl⟩ := eq_of_update hrole hupdate
        have hkept : (state.pakeUpdateSub attempt.1 attempt.2).1.activePAKESub =
            some { peer with sharedKey := shared' } := by rw [hnext]
        exact ih hkept

variable (hlawful : Lawful suite) {passphrase : Bytes}
variable {publisherCoins subscriberCoins : PeerCoins suite} {publisher subscriber : PAKEPeer suite}
variable (hpublisher : newPAKEPublisher passphrase publisherCoins = .ok publisher)
variable (hsubscriber : newPAKESubscriber passphrase subscriberCoins = .ok subscriber)
include hlawful hpublisher hsubscriber

/-- The answer to the page's own message succeeds after any number of tries. -/
theorem pakeUpdateSub_own {state : State suite} (hactive : state.activePAKESub = some subscriber)
    (tries : List (List Bytes × UpdateCoins suite)) (update subscriberUpdate : UpdateCoins suite)
    (masterKey : Key) (wrapNonce : Nonce) :
    ∃ publisher' answer payload tag,
      answerInit publisher subscriber.bytes update = .ok (publisher', answer) ∧
      Step2.payload suite ⟨answer, masterKey.val, wrapNonce⟩ = .ok payload ∧
      ((attempts state tries).pakeUpdateSub [hexString payload] subscriberUpdate).2 =
        .ok ⟨hexString masterKey.val, hexString tag, calculateSAS suite masterKey.val⟩ ∧
      publisher'.verifyPeerConfirm tag = .ok () := by
  obtain ⟨publisher', subscriber', hfirst, hsecond, hlength, hpub, hsub, -⟩ :=
    exchange hlawful hpublisher hsubscriber update subscriberUpdate
  generalize exchangeKey suite _ passphrase = key at hpub hsub
  obtain ⟨payload, hpayload, hsize, hpake, htag, hunwrap⟩ := slices_of_response hlawful key
    masterKey wrapNonce (suite.hmac key.val (PAKEPeer.confirmMessage Role.publisher.byte))
    hlength
  have hrole : subscriber.role = .subscriber := by
    rw [eq_of_newPAKESubscriber hsubscriber]
  have hsame : state.activePAKESub = some { subscriber with sharedKey := subscriber.sharedKey } :=
    hactive
  obtain ⟨shared, hshared⟩ := attempts_active hrole hsame tries
  have hupdate : PAKEPeer.update { subscriber with sharedKey := shared } (slicePake payload)
      subscriberUpdate = .ok subscriber' := by
    rw [update_sharedKey hrole, hpake]
    exact hsecond
  have hconfirm : State.confirm subscriber' payload =
      .ok ⟨hexString masterKey.val, hexString (tagOf suite .subscriber key),
        calculateSAS suite masterKey.val⟩ := by
    have hverify : subscriber'.verifyPeerConfirm (sliceTag payload) = .ok () := by
      rw [htag]
      exact hsub.accepts
    have hkey : (subscriber'.sessionKey >>= fun p2pKey =>
        unwrapSessionKey suite p2pKey (sliceWrapped payload)) = .ok masterKey.val :=
      bind_eq_ok.mpr ⟨key.val, hsub.sessionKey_eq, hunwrap⟩
    simp only [State.confirm, hverify, hsub.confirmTag_eq, hkey]
  refine ⟨publisher', _, payload, tagOf suite .subscriber key, ?_, hpayload, ?_, hpub.accepts⟩
  · exact bind_eq_ok.mpr ⟨publisher', hfirst, bind_eq_ok.mpr ⟨_, hpub.sessionKey_eq,
      bind_eq_ok.mpr ⟨_, hpub.confirmTag_eq, rfl⟩⟩⟩
  · simp only [State.pakeUpdateSub, hshared, decodeHex_hexString, hupdate]
    rw [if_neg (not_lt.mpr hsize.ge)]
    exact hconfirm

end Joining

section Channel

variable {passphrase : Bytes} {masterKey : Key} {now : ℤ} {byteLimit : ℕ} {timeLimit : ℤ}
variable {engine : PublisherEngine} {before after : List Call} {joined run : Progress} {key : Key}

theorem deriveSessionID_launch
    (hlaunch : launch suite passphrase masterKey now byteLimit timeLimit = .ok engine) :
    deriveSessionID suite [passphrase] = .ok (hexString engine.sessionID.val) := by
  rw [launch, newPublisherEngine] at hlaunch
  split at hlaunch
  · cases hlaunch
  · cases hlaunch
    rfl

/-- The response of the publisher of another channel to its own subscriber. -/
def strayResponse : Bytes :=
  let response : Except CryptoError Bytes := do
    let publisher ← newPAKEPublisher [2] (sampleCoins 3)
    let subscriber ← newPAKESubscriber [2] (sampleCoins 5)
    let (_, answer) ← answerInit publisher subscriber.bytes sampleUpdate
    Step2.payload transparent ⟨answer, (copyFixed keySize []).val, copyFixed nonceSize []⟩
  response.toOption.getD []

def mismatched : Except ExportError Confirmed → Bool
  | .error (.tagMismatch _) => true
  | _ => false

end Channel

end ZeroFeed.Exports
