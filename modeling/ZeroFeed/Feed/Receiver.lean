import ZeroFeed.Core.HighWater
import ZeroFeed.Feed.Subscriber

/-!
# A subscriber on a lossless relay

When every frame on the wire is sealed under the key reached by the rekey
frames before it, a subscriber that starts with the first key reads the whole
wire: it never fails, ends with the last key, and delivers what the
high-water-mark filter keeps of the messages on the wire.
-/

namespace ZeroFeed.Receiver

open ZeroFeed.ByteString
open ZeroFeed.Messages
open ZeroFeed.Envelope
open ZeroFeed.Primitives
open ZeroFeed.Cipher
open ZeroFeed.Ring
open ZeroFeed.Frame
open ZeroFeed.Publisher
open ZeroFeed.Transfer
open ZeroFeed.Subscriber
open ZeroFeed.HighWater

/-! ## The relay -/

/-- The frame read at the other end of the relay. -/
def relayed (env : Envelope) : Option ReadFrame :=
  match hread : transmit env with
  | none => none
  | some received => some ⟨received, transmit_decodable hread⟩

theorem relayed_eq_some {env : Envelope} (henv : Decodable env) :
    relayed env = some ⟨env, henv⟩ := by
  rw [relayed]
  split
  · rename_i hnone
    rw [transmit_eq_some henv] at hnone
    cases hnone
  · rename_i received hsome
    rw [transmit_eq_some henv] at hsome
    cases hsome
    rfl

theorem relayed_msgType {env : Envelope} {frame : ReadFrame}
    (hrelayed : relayed env = some frame) : frame.val.msgType = env.msgType := by
  rw [relayed] at hrelayed
  split at hrelayed
  · cases hrelayed
  · rename_i received hsome
    cases hrelayed
    exact transmit_msgType hsome

/-- What a lossless first-in-first-out relay hands over. -/
def overRelay (suite : Suite) (sessionID : SessionID) (wire : List Sent) : List Inbound :=
  wire.filterMap fun sent =>
    ((sent.envelope suite sessionID).bind relayed).map Inbound.frame

/-! ## Wires -/

/-- Payloads that fit into a frame. -/
def maxMessageSize : ℕ := maxPayloadSize - 28

/-- A message that can be sent and numbered. -/
structure Sendable (msg : SeqMsg) : Prop where
  size : msg.payload.length ≤ maxMessageSize
  seqNum : msg.seqNum < 2 ^ 64

/-- Wires on which every data and rekey frame is sealed under the key reached
so far, from the first key to the last. -/
inductive Aligned (suite : Suite) : Key → List Sent → Key → Prop where
  | nil (key : Key) : Aligned suite key [] key
  | data {key last : Key} {wire : List Sent} {msg : SeqMsg} (hmsg : Sendable msg)
      (hrest : Aligned suite key wire last) :
      Aligned suite key (.sealed (dataFrame key msg) :: wire) last
  | rekey {key last : Key} {wire : List Sent} (seqNum : ℕ) (salt : Nonce)
      (hrest : Aligned suite (ratchet suite key salt.val) wire last) :
      Aligned suite key (.sealed (rekeyFrame key seqNum salt) :: wire) last
  | heartbeat {key last : Key} {wire : List Sent} (hrest : Aligned suite key wire last) :
      Aligned suite key (.heartbeat :: wire) last
  | step2 {key last : Key} {wire : List Sent} (response : Handshake.Step2)
      (hrest : Aligned suite key wire last) :
      Aligned suite key (.step2 response :: wire) last

theorem Aligned.append {suite : Suite} {first middle last : Key} {left right : List Sent}
    (hleft : Aligned suite first left middle) (hright : Aligned suite middle right last) :
    Aligned suite first (left ++ right) last := by
  induction hleft with
  | nil => exact hright
  | data hmsg _ ih => exact .data hmsg (ih hright)
  | rekey seqNum salt _ ih => exact .rekey seqNum salt (ih hright)
  | heartbeat _ ih => exact .heartbeat (ih hright)
  | step2 response _ ih => exact .step2 response (ih hright)

/-- The message of a data frame. -/
def messageOf : Sent → Option SeqMsg
  | .sealed frame =>
      if frame.msgType = msgTypeDataStream then
        some ⟨frame.seqNum, unpadded frame.plaintext⟩
      else none
  | _ => none

def messages (wire : List Sent) : List SeqMsg := wire.filterMap messageOf

theorem messages_append (left right : List Sent) :
    messages (left ++ right) = messages left ++ messages right :=
  List.filterMap_append

theorem Sendable.unpad {msg : SeqMsg} (hmsg : Sendable msg) (key : Key) :
    unpadded (dataFrame key msg).plaintext = msg.payload := by
  have hsize := hmsg.size
  have hlimit : maxMessageSize = 33554404 := rfl
  change unpadded (padPayload msg.payload defaultPaddingTargetSize) = _
  rw [unpadded, unpadPayload_padPayload _ (by omega)]
  rfl

theorem messageOf_dataFrame {msg : SeqMsg} (hmsg : Sendable msg) (key : Key) :
    messageOf (.sealed (dataFrame key msg)) = some msg := by
  rw [messageOf, dataFrame_msgType, if_pos rfl, hmsg.unpad key, dataFrame_seqNum]

@[simp]
theorem messageOf_rekeyFrame (key : Key) (seqNum : ℕ) (salt : Nonce) :
    messageOf (.sealed (rekeyFrame key seqNum salt)) = none := by
  rw [messageOf, rekeyFrame_msgType, if_neg msgTypeDataStream_ne_msgTypeRekey.symm]

theorem messages_cons_dataFrame {msg : SeqMsg} (hmsg : Sendable msg) (key : Key)
    (wire : List Sent) :
    messages (.sealed (dataFrame key msg) :: wire) = msg :: messages wire :=
  List.filterMap_cons_some (messageOf_dataFrame hmsg key)

theorem messages_cons_of_none {sent : Sent} (hsent : messageOf sent = none)
    (wire : List Sent) : messages (sent :: wire) = messages wire :=
  List.filterMap_cons_none hsent

/-! ## One frame -/

section Frame

variable {suite : Suite} (htag : suite.aead.AppendsTag tagSize)
variable (hopen : suite.aead.OpensSealed) (sessionID : SessionID)
variable {host : Host} {stream : Stream host} {key : Key}
include htag hopen

theorem receive_dataFrame (hcipher : stream.engine.cipher = some key) {msg : SeqMsg}
    (hmsg : Sendable msg) :
    receive suite stream ((dataFrame key msg).envelope sessionID suite) =
      (if msg.seqNum ≤ stream.engine.lastSeqNum then stream else deliver suite stream msg,
        none) := by
  have hlength := length_payload_envelope htag sessionID (dataFrame key msg)
  have hfits : (dataFrame key msg).seqNum < 2 ^ 64 := hmsg.seqNum
  have hnumber := clearSeqNum_envelope suite sessionID hfits
  have hplain := openFrame_envelope htag hopen sessionID (dataFrame key msg)
  rw [dataFrame_key] at hplain
  rw [dataFrame_seqNum] at hnumber
  have hlong : ¬ ((dataFrame key msg).envelope sessionID suite).payload.length < 8 := by
    omega
  have hreceive : receive suite stream ((dataFrame key msg).envelope sessionID suite) =
      receiveData suite stream ((dataFrame key msg).envelope sessionID suite) := rfl
  rw [hreceive, receiveData, if_neg hlong, hcipher]
  simp only [hplain, hnumber, hmsg.unpad key]
  split <;> rfl

theorem receive_rekeyFrame (hcipher : stream.engine.cipher = some key) (seqNum : ℕ)
    (salt : Nonce) :
    receive suite stream ((rekeyFrame key seqNum salt).envelope sessionID suite) =
      ({ stream with
          engine := stream.engine.installSession suite (ratchet suite key salt.val) }, none) := by
  have hlength := length_payload_envelope htag sessionID (rekeyFrame key seqNum salt)
  have hplain := openFrame_envelope htag hopen sessionID (rekeyFrame key seqNum salt)
  rw [rekeyFrame_key] at hplain
  have hlong : ¬ ((rekeyFrame key seqNum salt).envelope sessionID suite).payload.length < 8 := by
    omega
  have hreceive : receive suite stream ((rekeyFrame key seqNum salt).envelope sessionID suite) =
      receiveRekey suite stream ((rekeyFrame key seqNum salt).envelope sessionID suite) := rfl
  rw [hreceive, receiveRekey, if_neg hlong, hcipher]
  simp only [hplain]
  change (ratchetTo suite stream key salt.val, none) = _
  simp only [ratchetTo, ratchetKey_nonce suite key salt, newCipher_key]
  rfl

end Frame

/-! ## A whole wire -/

theorem Sendable.decodable {suite : Suite} (htag : suite.aead.AppendsTag tagSize)
    (sessionID : SessionID) {msg : SeqMsg} (hmsg : Sendable msg) (key : Key) :
    Decodable ((dataFrame key msg).envelope sessionID suite) := by
  apply decodable_envelope htag
  have hpad := length_padPayload msg.payload defaultPaddingTargetSize
  have htarget : defaultPaddingTargetSize = 1280 := rfl
  have hhead : lenPrefixSize = 4 := rfl
  have hmax : maxPayloadSize = 33554432 := rfl
  have hlimit : maxMessageSize = 33554404 := rfl
  have hsize := hmsg.size
  change (padPayload msg.payload defaultPaddingTargetSize).length ≤ _
  omega

theorem decodable_rekeyFrame {suite : Suite} (htag : suite.aead.AppendsTag tagSize)
    (sessionID : SessionID) (key : Key) (seqNum : ℕ) (salt : Nonce) :
    Decodable ((rekeyFrame key seqNum salt).envelope sessionID suite) := by
  apply decodable_envelope htag
  change salt.val.length ≤ _
  rw [salt.property]
  decide

/-- The frame at the head of the wire is read as it was written. -/
theorem overRelay_cons {suite : Suite} {sessionID : SessionID} {sent : Sent} {env : Envelope}
    (hsent : sent.envelope suite sessionID = some env) (henv : Decodable env)
    (wire : List Sent) :
    overRelay suite sessionID (sent :: wire) =
      .frame ⟨env, henv⟩ :: overRelay suite sessionID wire := by
  rw [overRelay, List.filterMap_cons, hsent, Option.bind_some, relayed_eq_some henv]
  rfl

section Ignored

variable {suite : Suite} {sessionID : SessionID} {host : Host} (stream : Stream host)

/-- Heartbeats and handshake responses. -/
theorem receive_ignored {env : Envelope}
    (htype : env.msgType = msgTypeHeartbeat ∨ env.msgType = msgTypePAKEStep2) :
    receive suite stream env = (stream, none) := by
  rcases htype with htype | htype <;> rw [receive, htype] <;> rfl

theorem subscribeStream_ignored {sent : Sent}
    (htype : ∀ env, sent.envelope suite sessionID = some env →
      env.msgType = msgTypeHeartbeat ∨ env.msgType = msgTypePAKEStep2) (wire : List Sent) :
    subscribeStream suite stream (overRelay suite sessionID (sent :: wire)) =
      subscribeStream suite stream (overRelay suite sessionID wire) := by
  rw [overRelay, List.filterMap_cons]
  cases hsent : sent.envelope suite sessionID with
  | none => rfl
  | some env =>
      rw [Option.bind_some]
      cases hframe : relayed env with
      | none => rfl
      | some frame =>
          have hread : frame.val.msgType = msgTypeHeartbeat ∨
              frame.val.msgType = msgTypePAKEStep2 := by
            rw [relayed_msgType hframe]
            exact htype env hsent
          rw [Option.map_some]
          simp only [subscribeStream, step, receive_ignored stream hread]
          rfl

theorem step2_msgType (response : Handshake.Step2) {env : Envelope}
    (hsent : (Sent.step2 response).envelope suite sessionID = some env) :
    env.msgType = msgTypePAKEStep2 := by
  change (response.envelope suite sessionID).toOption = some env at hsent
  rw [Handshake.Step2.envelope] at hsent
  cases hpayload : response.payload suite with
  | error err =>
      rw [hpayload] at hsent
      cases hsent
  | ok payload =>
      rw [hpayload] at hsent
      cases hsent
      rfl

end Ignored

/-- The stream after it has read these messages and ended on this key. -/
structure Followed (suite : Suite) {host : Host} (stream : Stream host) (msgs : List SeqMsg)
    (key : Key) (next : Stream host) : Prop where
  cipher : next.engine.cipher = some key
  sas : next.engine.sas = calculateSAS suite key.val
  delivered : next.delivered =
    stream.delivered ++ keepAbove SeqMsg.seqNum stream.engine.lastSeqNum msgs
  lastSeqNum : next.engine.lastSeqNum =
    markAfter SeqMsg.seqNum stream.engine.lastSeqNum msgs

section Wire

variable {suite : Suite} (htag : suite.aead.AppendsTag tagSize)
variable (hopen : suite.aead.OpensSealed) (sessionID : SessionID) {host : Host}
include htag hopen

/-- Reading an aligned wire never fails, follows the keys, and delivers what
the high-water mark keeps. -/
theorem subscribeStream_aligned {first last : Key} {wire : List Sent}
    (haligned : Aligned suite first wire last) {stream : Stream host}
    (hcipher : stream.engine.cipher = some first)
    (hsas : stream.engine.sas = calculateSAS suite first.val) :
    ∃ next, subscribeStream suite stream (overRelay suite sessionID wire) = (next, none) ∧
      Followed suite stream (messages wire) last next := by
  induction haligned generalizing stream with
  | nil key => exact ⟨stream, rfl, hcipher, hsas, (List.append_nil _).symm, rfl⟩
  | @data key last wire msg hmsg _ ih =>
      rw [overRelay_cons rfl (hmsg.decodable htag sessionID key),
        messages_cons_dataFrame hmsg]
      simp only [subscribeStream, step,
        receive_dataFrame htag hopen sessionID hcipher hmsg]
      by_cases hold : msg.seqNum ≤ stream.engine.lastSeqNum
      · rw [if_pos hold]
        obtain ⟨next, hnext, hfollowed⟩ := ih hcipher hsas
        refine ⟨next, hnext, hfollowed.cipher, hfollowed.sas, ?_, ?_⟩
        · rw [keepAbove_cons_of_le SeqMsg.seqNum hold]
          exact hfollowed.delivered
        · rw [markAfter, max_eq_left hold]
          exact hfollowed.lastSeqNum
      · rw [if_neg hold]
        have hnew := not_le.mp hold
        have hkey : (deliver suite stream msg).engine.cipher = some key := hcipher
        obtain ⟨next, hnext, hfollowed⟩ := ih hkey hsas
        refine ⟨next, hnext, hfollowed.cipher, hfollowed.sas, ?_, ?_⟩
        · rw [keepAbove_cons_of_lt SeqMsg.seqNum hnew, hfollowed.delivered]
          simp only [deliver, List.append_assoc, List.cons_append, List.nil_append]
        · rw [markAfter, max_eq_right hnew.le]
          exact hfollowed.lastSeqNum
  | @rekey key last wire seqNum salt _ ih =>
      rw [overRelay_cons rfl (decodable_rekeyFrame htag sessionID key seqNum salt),
        messages_cons_of_none (messageOf_rekeyFrame key seqNum salt)]
      simp only [subscribeStream, step,
        receive_rekeyFrame htag hopen sessionID hcipher seqNum salt]
      have hkey : (stream.engine.installSession suite (ratchet suite key salt.val)).cipher =
          some (ratchet suite key salt.val) := rfl
      obtain ⟨next, hnext, hfollowed⟩ :=
        @ih ⟨stream.engine.installSession suite (ratchet suite key salt.val), stream.desk,
          stream.delivered⟩ hkey rfl
      exact ⟨next, hnext, hfollowed.cipher, hfollowed.sas, hfollowed.delivered,
        hfollowed.lastSeqNum⟩
  | heartbeat _ ih =>
      rw [subscribeStream_ignored stream (by rintro env ⟨⟩; exact Or.inl rfl)]
      exact ih hcipher hsas
  | step2 response _ ih =>
      rw [subscribeStream_ignored stream
        (fun env hsent => Or.inr (step2_msgType response hsent))]
      exact ih hcipher hsas

end Wire

end ZeroFeed.Receiver
