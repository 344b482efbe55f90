import ZeroFeed.Feed.Sequential

/-!
# The shape of the traffic

What an observer of the wire sees of a run of `PublishPayload`: the type and the
length of every frame.  Padding gives all short messages the same frame, so the
shape of a run says when it rekeyed and nothing else.
-/

namespace ZeroFeed.TrafficShape

open ZeroFeed.ByteString
open ZeroFeed.Messages
open ZeroFeed.Envelope
open ZeroFeed.Primitives
open ZeroFeed.Cipher
open ZeroFeed.Ring
open ZeroFeed.Frame
open ZeroFeed.Publisher
open ZeroFeed.Publisher.PublisherEngine
open ZeroFeed.Receiver
open ZeroFeed.Sequential

/-- One call, with the clock readings and the salt it would use. -/
structure Publication where
  payload : Bytes
  inputs : PublishInputs

def publishAll (suite : Suite) : PublisherEngine → List Publication → List Sent
  | _, [] => []
  | engine, publication :: publications =>
      let result := engine.publishPayload suite publication.payload publication.inputs
      result.sent ++ publishAll suite result.engine publications

/-- Type and total length of a frame. -/
def shape (suite : Suite) (sessionID : SessionID) (sent : Sent) : Option (Byte × ℕ) :=
  (sent.envelope suite sessionID).bind fun env =>
    (encode env).toOption.map fun bytes => (env.msgType, bytes.length)

def trafficShape (suite : Suite) (engine : PublisherEngine) (publications : List Publication) :
    List (Option (Byte × ℕ)) :=
  (publishAll suite engine publications).map (shape suite engine.sessionID)

/-- The largest payload that fits the padded frame. -/
def maxHiddenLength : ℕ := 1276

/-- The two calls read the same times. -/
def SameClock (left right : Publication) : Prop :=
  left.inputs.now = right.inputs.now ∧ left.inputs.rekey.now = right.inputs.rekey.now

/-! ## When a run rekeys -/

/-- The counters and limits behind the decision. -/
structure Meter where
  bytesSinceRekey : ℕ
  lastRekeyTime : ℤ
  byteLimit : ℕ
  timeLimit : ℤ

namespace Meter

variable (meter : Meter)

def count (length : ℕ) : Meter :=
  { meter with bytesSinceRekey := (meter.bytesSinceRekey + length) % 2 ^ 64 }

def due (now : ℤ) : Bool :=
  (0 < meter.byteLimit && meter.byteLimit ≤ meter.bytesSinceRekey) ||
    (0 < meter.timeLimit && meter.timeLimit ≤ now - meter.lastRekeyTime)

def reset (now : ℤ) : Meter := { meter with bytesSinceRekey := 0, lastRekeyTime := now }

/-- Whether a call rekeys, and the meter after it. -/
def step (publication : Publication) : Bool × Meter :=
  let counted := meter.count publication.payload.length
  if counted.due publication.inputs.now then (true, counted.reset publication.inputs.rekey.now)
  else (false, counted)

end Meter

/-- The calls of a run that rekey, from the lengths of the payloads and the clock
alone. -/
def rekeys : Meter → List Publication → List Bool
  | _, [] => []
  | meter, publication :: publications =>
      (meter.step publication).1 :: rekeys (meter.step publication).2 publications

def meterOf (engine : PublisherEngine) : Meter where
  bytesSinceRekey := engine.bytesSinceRekey
  lastRekeyTime := engine.lastRekeyTime
  byteLimit := engine.rekeyByteLimit
  timeLimit := engine.rekeyTimeLimit

/-- Without a limit on the bytes, the lengths have no part in it. -/
theorem rekeys_of_sameClock {left right : List Publication}
    (hclock : List.Forall₂ SameClock left right) {meter meter' : Meter}
    (hbytes : meter.byteLimit = 0) (hbytes' : meter'.byteLimit = 0)
    (htime : meter.timeLimit = meter'.timeLimit)
    (hlast : meter.lastRekeyTime = meter'.lastRekeyTime) :
    rekeys meter left = rekeys meter' right := by
  induction hclock generalizing meter meter' with
  | nil => rfl
  | @cons first second left right hfirst _ ih =>
      have hdue : (meter.count first.payload.length).due first.inputs.now =
          (meter'.count second.payload.length).due second.inputs.now := by
        simp [Meter.due, Meter.count, hbytes, hbytes', htime, hlast, hfirst.1]
      rw [rekeys, rekeys, Meter.step, Meter.step, hdue]
      split
      · exact congrArg _ (ih hbytes hbytes' htime hfirst.2)
      · exact congrArg _ (ih hbytes hbytes' htime hlast)

/-! ## Frames -/

def dataShape : Option (Byte × ℕ) := some (msgTypeDataStream, headerSize + (8 + 1280 + 16))

def rekeyShape : Option (Byte × ℕ) := some (msgTypeRekey, headerSize + (8 + 12 + 16))

/-- The frames of one call. -/
def block (rekeyed : Bool) : List (Option (Byte × ℕ)) :=
  if rekeyed then [rekeyShape, dataShape] else [dataShape]

/-- A rekey frame differs from a data frame, so the blocks can be told apart. -/
theorem flatMap_block_injective : Function.Injective (List.flatMap block) := by
  intro left
  induction left with
  | nil =>
      intro right heq
      cases right with
      | nil => rfl
      | cons rekeyed right => cases rekeyed <;> cases heq
  | cons rekeyed left ih =>
      intro right heq
      have hdiffer : rekeyShape ≠ dataShape := by decide
      cases right with
      | nil => cases rekeyed <;> cases heq
      | cons rekeyed' right =>
          rw [List.flatMap_cons, List.flatMap_cons] at heq
          cases rekeyed <;> cases rekeyed'
          · exact congrArg _ (ih (List.cons.inj heq).2)
          · exact absurd (List.cons.inj heq).1.symm hdiffer
          · exact absurd (List.cons.inj heq).1 hdiffer
          · exact congrArg _ (ih (List.cons.inj (List.cons.inj heq).2).2)

section Frames

variable {suite : Suite} (htag : suite.aead.AppendsTag tagSize)
include htag

theorem shape_sealed (sessionID : SessionID) {frame : SealedFrame}
    (hsize : frame.plaintext.length ≤ maxPayloadSize - 24) :
    shape suite sessionID (.sealed frame) =
      some (frame.msgType, headerSize + (8 + frame.plaintext.length + 16)) := by
  have hencode := encode_of_decodable (decodable_envelope htag sessionID hsize)
  have hshape : shape suite sessionID (.sealed frame) =
      (encode (frame.envelope sessionID suite)).toOption.map fun bytes =>
        (frame.msgType, bytes.length) := rfl
  rw [hshape, hencode]
  change some (frame.msgType, _) = _
  rw [List.length_append, length_serializeHeader, length_payload_envelope htag]

theorem shape_dataFrame (sessionID : SessionID) (key : Key) {msg : SeqMsg}
    (hsize : msg.payload.length ≤ maxHiddenLength) :
    shape suite sessionID (.sealed (dataFrame key msg)) = dataShape := by
  have hlength : (dataFrame key msg).plaintext.length = 1280 := by
    have hpadded := length_padPayload msg.payload defaultPaddingTargetSize
    have htarget : (defaultPaddingTargetSize : ℤ) = 1280 := rfl
    have hlenPrefix : lenPrefixSize = 4 := rfl
    change (padPayload msg.payload defaultPaddingTargetSize).length = 1280
    simp only [maxHiddenLength] at hsize
    omega
  rw [shape_sealed htag sessionID (by rw [hlength]; decide), hlength]
  rfl

theorem shape_rekeyFrame (sessionID : SessionID) (key : Key) (seqNum : ℕ) (salt : Nonce) :
    shape suite sessionID (.sealed (rekeyFrame key seqNum salt)) = rekeyShape := by
  have hlength : (rekeyFrame key seqNum salt).plaintext.length = 12 := salt.property
  rw [shape_sealed htag sessionID (by rw [hlength]; decide), hlength]
  rfl

end Frames

/-! ## One call -/

/-- An engine that can send. -/
structure Live (engine : PublisherEngine) : Prop where
  cipher : engine.cipher ≠ none
  connected : engine.connected = true

/-- What the next call depends on, besides its arguments. -/
structure Continues (engine next : PublisherEngine) (meter : Meter) : Prop where
  live : Live next
  sessionID : next.sessionID = engine.sessionID
  meter : meterOf next = meter

section Calls

variable {suite : Suite} (htag : suite.aead.AppendsTag tagSize) {engine : PublisherEngine}
include htag

theorem triggerRekey_live (hlive : Live engine) (inputs : RekeyInputs) :
    (engine.triggerRekey suite inputs).2.map (shape suite engine.sessionID) = [rekeyShape] ∧
      Continues engine (engine.triggerRekey suite inputs).1
        ((meterOf engine).reset inputs.now) := by
  obtain ⟨key, hkey⟩ := Option.ne_none_iff_exists'.mp hlive.cipher
  have hsend : engine.drawSeqNum.canSend suite
      (.sealed (rekeyFrame key engine.nextSeqNum inputs.salt)) = true :=
    canSend_rekeyFrame htag hlive.connected _ _
  have hcipher : engine.drawSeqNum.cipher = some key := hkey
  simp only [triggerRekey, hkey, hsend, if_true, ratchetKey_nonce suite key inputs.salt,
    newCipher_key, installKey, hcipher, Option.map_some, Option.getD_some]
  refine ⟨?_, ⟨Option.some_ne_none _, hlive.connected⟩, rfl, rfl⟩
  rw [List.map_singleton, shape_rekeyFrame htag]

theorem publishNumbered_live (hlive : Live engine) {payload : Bytes}
    (hsize : payload.length ≤ maxHiddenLength) :
    (engine.publishNumbered suite payload).sent.map (shape suite engine.sessionID) = [dataShape] ∧
      Continues engine (engine.publishNumbered suite payload).engine (meterOf engine) := by
  obtain ⟨key, hkey⟩ := Option.ne_none_iff_exists'.mp hlive.cipher
  have hsendable : Sendable ⟨engine.nextSeqNum, payload⟩ :=
    ⟨hsize.trans (by decide), Nat.mod_lt _ (by positivity)⟩
  have hsend : (engine.drawSeqNum.pushReplay ⟨engine.nextSeqNum, payload⟩).canSend suite
      (.sealed (dataFrame key ⟨engine.nextSeqNum, payload⟩)) = true :=
    canSend_dataFrame htag hlive.connected hsendable
  simp only [publishNumbered, hkey, hsend, if_true]
  refine ⟨?_, ⟨fun hnone => ?_, hlive.connected⟩, rfl, rfl⟩
  · rw [List.map_singleton, shape_dataFrame htag _ _ hsize]
  · exact Option.some_ne_none key (hkey.symm.trans hnone)

theorem publishPayload_live (hlive : Live engine) {publication : Publication}
    (hsize : publication.payload.length ≤ maxHiddenLength) :
    let result := engine.publishPayload suite publication.payload publication.inputs
    result.sent.map (shape suite engine.sessionID) = block ((meterOf engine).step publication).1 ∧
      Continues engine result.engine ((meterOf engine).step publication).2 := by
  dsimp only
  have hcounted : Live (engine.countBytes publication.payload publication.inputs.now).2 :=
    ⟨hlive.cipher, hlive.connected⟩
  have hdue : (engine.countBytes publication.payload publication.inputs.now).1 =
      ((meterOf engine).count publication.payload.length).due publication.inputs.now := rfl
  unfold publishPayload Meter.step
  dsimp only
  rw [← hdue]
  by_cases hrekey : (engine.countBytes publication.payload publication.inputs.now).1 = true
  · rw [if_pos hrekey, if_pos hrekey]
    obtain ⟨hrekeySent, hrekeyed⟩ := triggerRekey_live htag hcounted publication.inputs.rekey
    obtain ⟨hsent, hnext⟩ := publishNumbered_live htag hrekeyed.live hsize
    rw [hrekeyed.sessionID] at hsent
    refine ⟨?_, hnext.live, hnext.sessionID.trans hrekeyed.sessionID,
      hnext.meter.trans hrekeyed.meter⟩
    dsimp only
    rw [List.map_append]
    exact congrArg₂ _ hrekeySent hsent
  · rw [if_neg hrekey, if_neg hrekey]
    obtain ⟨hsent, hnext⟩ := publishNumbered_live htag hcounted hsize
    exact ⟨hsent, hnext.live, hnext.sessionID, hnext.meter⟩

/-- The shape of a run is a block for each call. -/
theorem trafficShape_live (hlive : Live engine) {publications : List Publication}
    (hsize : ∀ publication ∈ publications, publication.payload.length ≤ maxHiddenLength) :
    trafficShape suite engine publications =
      (rekeys (meterOf engine) publications).flatMap block := by
  induction publications generalizing engine with
  | nil => rfl
  | cons publication publications ih =>
      rw [List.forall_mem_cons] at hsize
      obtain ⟨hsent, hnext⟩ := publishPayload_live htag hlive hsize.1
      have hrest := ih hnext.live hsize.2
      rw [trafficShape, hnext.sessionID, hnext.meter] at hrest
      rw [trafficShape, publishAll, List.map_append, hsent, hrest, rekeys, List.flatMap_cons]

end Calls

/-! ## Engines that cannot send -/

section Silent

variable (suite : Suite) {engine : PublisherEngine}

theorem not_live_iff : ¬ Live engine ↔ engine.cipher = none ∨ engine.connected = false := by
  constructor
  · intro hdead
    by_contra hboth
    rw [not_or, Bool.not_eq_false] at hboth
    exact hdead ⟨hboth.1, hboth.2⟩
  · rintro (hcipher | hconnected) hlive
    · exact hlive.cipher hcipher
    · rw [hlive.connected] at hconnected
      cases hconnected

theorem canSend_of_not_connected (hconnected : engine.connected = false) (sent : Sent) :
    engine.canSend suite sent = false := by
  rw [canSend, hconnected, Bool.false_and]

theorem triggerRekey_not_live (hdead : ¬ Live engine) (inputs : RekeyInputs) :
    (engine.triggerRekey suite inputs).2 = [] ∧ ¬ Live (engine.triggerRekey suite inputs).1 := by
  unfold triggerRekey
  cases hcipher : engine.cipher with
  | none => exact ⟨rfl, hdead⟩
  | some key =>
      have hconnected : engine.drawSeqNum.connected = false :=
        (not_live_iff.mp hdead).resolve_left (by simp [hcipher])
      dsimp only
      rw [canSend_of_not_connected suite hconnected, if_neg Bool.false_ne_true]
      exact ⟨rfl, not_live_iff.mpr (.inr hconnected)⟩

theorem publishNumbered_not_live (hdead : ¬ Live engine) (payload : Bytes) :
    (engine.publishNumbered suite payload).sent = [] ∧
      ¬ Live (engine.publishNumbered suite payload).engine := by
  unfold publishNumbered
  cases hcipher : engine.cipher with
  | none => exact ⟨rfl, hdead⟩
  | some key =>
      have hconnected : (engine.drawSeqNum.pushReplay ⟨engine.nextSeqNum, payload⟩).connected =
          false := (not_live_iff.mp hdead).resolve_left (by simp [hcipher])
      dsimp only
      rw [canSend_of_not_connected suite hconnected, if_neg Bool.false_ne_true]
      exact ⟨rfl, not_live_iff.mpr (.inr hconnected)⟩

theorem publishPayload_not_live (hdead : ¬ Live engine) (payload : Bytes) (inputs : PublishInputs) :
    (engine.publishPayload suite payload inputs).sent = [] ∧
      ¬ Live (engine.publishPayload suite payload inputs).engine := by
  have hcounted : ¬ Live (engine.countBytes payload inputs.now).2 :=
    fun hlive => hdead ⟨hlive.cipher, hlive.connected⟩
  unfold publishPayload
  dsimp only
  split
  · obtain ⟨hrekeySent, hrekeyed⟩ := triggerRekey_not_live suite hcounted inputs.rekey
    obtain ⟨hsent, hnext⟩ := publishNumbered_not_live suite hrekeyed payload
    dsimp only
    rw [hrekeySent, hsent]
    exact ⟨rfl, hnext⟩
  · exact publishNumbered_not_live suite hcounted payload

theorem publishAll_not_live (hdead : ¬ Live engine) (publications : List Publication) :
    publishAll suite engine publications = [] := by
  induction publications generalizing engine with
  | nil => rfl
  | cons publication publications ih =>
      obtain ⟨hsent, hnext⟩ :=
        publishPayload_not_live suite hdead publication.payload publication.inputs
      rw [publishAll, hsent, ih hnext]
      rfl

end Silent

/-! ## Two runs -/

/-- Two runs over short payloads look alike exactly if they rekey at the same calls,
which with the same clock and no limit on the bytes they do. -/
theorem trafficShape_eq_iff (suite : Suite) (htag : suite.aead.AppendsTag tagSize)
    (engine : PublisherEngine) (left right : List Publication)
    (hclock : List.Forall₂ SameClock left right)
    (hleft : ∀ publication ∈ left, publication.payload.length ≤ maxHiddenLength)
    (hright : ∀ publication ∈ right, publication.payload.length ≤ maxHiddenLength) :
    (trafficShape suite engine left = trafficShape suite engine right ↔
        (engine.cipher ≠ none → engine.connected = true →
          rekeys (meterOf engine) left = rekeys (meterOf engine) right)) ∧
      (engine.rekeyByteLimit = 0 →
        trafficShape suite engine left = trafficShape suite engine right) := by
  have hshapes : trafficShape suite engine left = trafficShape suite engine right ↔
      (engine.cipher ≠ none → engine.connected = true →
        rekeys (meterOf engine) left = rekeys (meterOf engine) right) := by
    by_cases hlive : Live engine
    · rw [trafficShape_live htag hlive hleft, trafficShape_live htag hlive hright]
      constructor
      · exact fun heq _ _ => flatMap_block_injective heq
      · exact fun hrekeys => congrArg _ (hrekeys hlive.cipher hlive.connected)
    · rw [trafficShape, trafficShape, publishAll_not_live suite hlive,
        publishAll_not_live suite hlive]
      exact iff_of_true rfl fun hcipher hconnected => absurd ⟨hcipher, hconnected⟩ hlive
  refine ⟨hshapes, fun hbytes => hshapes.mpr fun _ _ => ?_⟩
  exact rekeys_of_sameClock hclock hbytes hbytes rfl rfl

/-- A connected engine with the given limit on the bytes, and a call of the first
second. -/
def sampleEngine (byteLimit : ℕ) : PublisherEngine where
  passphrase := none
  masterKey := none
  sessionID := copyFixed sessionIDSize []
  cipher := some (copyFixed keySize [])
  connected := true
  seqCounter := 0
  replayBuffer := newRingBuffer 100
  sas := ⟨"", ""⟩
  bytesSinceRekey := 0
  lastRekeyTime := 0
  rekeyByteLimit := byteLimit
  rekeyTimeLimit := 0
  closed := false

def samplePublication (payload : Bytes) : Publication :=
  ⟨payload, ⟨1, ⟨copyFixed nonceSize [], 1⟩⟩⟩

/-- Calls at the given times. -/
def publications (payloads : List Bytes) (times : List ℤ) : List Publication :=
  List.zipWith (fun payload now => ⟨payload, ⟨now, ⟨copyFixed nonceSize [], now⟩⟩⟩) payloads times

/-- Three messages of other lengths at the same times; the second one comes when a
limit on the time has passed. -/
theorem trafficShape_eq_of_no_limit :
    let engine := { sampleEngine 0 with rekeyTimeLimit := 10 }
    let left := publications [[1], [2, 3], []] [1, 12, 13]
    let right := publications [[4, 5, 6], [], [7]] [1, 12, 13]
    rekeys (meterOf engine) left = [false, true, false] ∧
      trafficShape transparent engine left = trafficShape transparent engine right := by
  intro engine left right
  have hclock : List.Forall₂ SameClock left right :=
    .cons ⟨rfl, rfl⟩ (.cons ⟨rfl, rfl⟩ (.cons ⟨rfl, rfl⟩ .nil))
  have hshapes := trafficShape_eq_iff transparent transparent_lawful.appendsTag engine left right
    hclock (by decide) (by decide)
  exact ⟨by decide, hshapes.2 rfl⟩

/-- With a limit of two bytes the longer message brings a rekey. -/
theorem trafficShape_differs :
    SameClock (samplePublication [1]) (samplePublication [1, 2, 3]) ∧
      trafficShape transparent (sampleEngine 2) [samplePublication [1]] = [dataShape] ∧
      trafficShape transparent (sampleEngine 2) [samplePublication [1, 2, 3]] =
        [rekeyShape, dataShape] :=
  ⟨⟨rfl, rfl⟩, by decide +kernel, by decide +kernel⟩

end ZeroFeed.TrafficShape
