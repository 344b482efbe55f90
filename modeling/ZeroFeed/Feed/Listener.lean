import ZeroFeed.Protocol.Envelope

/-!
# The publisher's sync listener (`handleSyncRequests` in `pkg/feed/publisher.go`)

The listener decodes frames straight from the relay connection under a read
deadline of 500 ms.  The connection is a list of events: a byte arrives, or the
deadline runs out while the listener waits for the next byte.  An expired
deadline fails the `io.ReadFull` that waits and with it the whole `Decode`.  The
loop treats this as harmless and decodes again, but the bytes already taken from
the connection are gone, and what arrives next is read as the start of a header.

The listener dispatches exactly the frames sent to it if and only if every
expiration falls between two frames.  Cancellation of the context and the
closing of the connection end the loop and are not events here.
-/

namespace ZeroFeed.Listener

open ZeroFeed.ByteString
open ZeroFeed.Messages
open ZeroFeed.Envelope (FrameError maxPayloadSize Decodable encode encode_of_decodable
  decodeWithMax_encode)

/-- What the listener can observe of the connection. -/
inductive Event where
  | byte (value : Byte)
  | expired
  deriving DecidableEq

/-- `waiting` is the read that still blocks when the events end. -/
inductive ReadError where
  | timeout
  | waiting
  deriving DecidableEq

inductive DecodeError where
  | read (err : ReadError)
  | frame (err : FrameError)
  deriving DecidableEq

/-! ## Decoding from the connection -/

/-- `io.ReadFull`: an expiration drops what the call has read so far. -/
def readFull : ℕ → List Event → Except ReadError Bytes × List Event
  | 0, events => (.ok [], events)
  | _ + 1, [] => (.error .waiting, [])
  | _ + 1, .expired :: events => (.error .timeout, events)
  | count + 1, .byte value :: events =>
      match readFull count events with
      | (.ok bytes, rest) => (.ok (value :: bytes), rest)
      | (.error err, rest) => (.error err, rest)

/-- The checks `DecodeWithMax` makes on a header: the payload length it
declares, or the error. -/
def checkHeader (headerBuf : Bytes) (maxPayload : ℕ) : Except FrameError ℕ :=
  if headerBuf.take 4 ≠ magicHeader.val then .error .invalidMagic
  else
    let version := headerBuf.getD 4 0
    if version < minSupportedVersion then .error (.unsupportedVer version)
    else
      let payloadLen := bigEndianValue ((headerBuf.drop 34).take 4)
      if maxPayload < payloadLen then .error .payloadTooLarge else .ok payloadLen

/-- The envelope `DecodeWithMax` builds from a header and a payload. -/
def envelopeOf (headerBuf payload : Bytes) : Envelope where
  version := headerBuf.getD 4 0
  msgType := headerBuf.getD 5 0
  sessionID := copyFixed sessionIDSize (headerBuf.drop 6)
  nonce := copyFixed nonceSize (headerBuf.drop 22)
  payload := payload

def decodeWithMax (events : List Event) (maxPayload : ℕ) :
    Except DecodeError Envelope × List Event :=
  match readFull headerSize events with
  | (.error err, rest) => (.error (.read err), rest)
  | (.ok headerBuf, rest) =>
      match checkHeader headerBuf maxPayload with
      | .error err => (.error (.frame err), rest)
      | .ok payloadLen =>
          match readFull payloadLen rest with
          | (.error err, rest) => (.error (.read err), rest)
          | (.ok payload, rest) => (.ok (envelopeOf headerBuf payload), rest)

def decode (events : List Event) : Except DecodeError Envelope × List Event :=
  decodeWithMax events maxPayloadSize

/-- The loop of `handleSyncRequests`: the frames it dispatches, in order. -/
def listen : ℕ → List Event → List Envelope
  | 0, _ => []
  | rounds + 1, events =>
      match decode events with
      | (.ok env, rest) => env :: listen rounds rest
      | (.error (.read .timeout), rest) => listen rounds rest
      | (.error _, _) => []

/-- Every round that is followed by another one consumes an event, so the loop
never runs out of rounds here. -/
def handleSyncRequests (events : List Event) : List Envelope :=
  listen events.length events

/-! ## The connection -/

/-- The bytes among the events. -/
def arrived (events : List Event) : Bytes :=
  events.filterMap fun event =>
    match event with
    | .byte value => some value
    | .expired => none

/-- What the sender of a frame writes to the connection. -/
def written (env : Envelope) : Bytes :=
  match encode env with
  | .ok bytes => bytes
  | .error _ => []

def wire (frames : List Envelope) : Bytes := frames.flatMap written

/-- Every expiration falls where the bytes before it are whole frames. -/
def BetweenFrames (frames : List Envelope) (events : List Event) : Prop :=
  ∀ before after, events = before ++ .expired :: after →
    ∃ count, arrived before = wire (frames.take count)

@[simp]
theorem arrived_append (left right : List Event) :
    arrived (left ++ right) = arrived left ++ arrived right :=
  List.filterMap_append

@[simp]
theorem arrived_bytes (bytes : Bytes) : arrived (bytes.map .byte) = bytes := by
  rw [arrived, List.filterMap_map]
  exact List.filterMap_some

@[simp]
theorem arrived_expired (events : List Event) :
    arrived (.expired :: events) = arrived events := rfl

@[simp]
theorem wire_append (left right : List Envelope) :
    wire (left ++ right) = wire left ++ wire right :=
  List.flatMap_append

@[simp]
theorem wire_cons (env : Envelope) (frames : List Envelope) :
    wire (env :: frames) = written env ++ wire frames :=
  List.flatMap_cons

theorem wire_take_append_drop (frames : List Envelope) (count : ℕ) :
    wire (frames.take count) ++ wire (frames.drop count) = wire frames := by
  rw [← wire_append, List.take_append_drop]

/-- Bytes up to the first expiration. -/
theorem exists_leading_bytes (events : List Event) :
    ∃ bytes : Bytes, events = bytes.map .byte ∨
      ∃ rest, events = bytes.map .byte ++ .expired :: rest := by
  induction events with
  | nil => exact ⟨[], Or.inl rfl⟩
  | cons event events ih =>
      cases event with
      | expired => exact ⟨[], Or.inr ⟨events, rfl⟩⟩
      | byte value =>
          obtain ⟨bytes, rfl | ⟨rest, rfl⟩⟩ := ih
          · exact ⟨value :: bytes, Or.inl rfl⟩
          · exact ⟨value :: bytes, Or.inr ⟨rest, rfl⟩⟩

/-! ## Frame lengths -/

def frameLength (env : Envelope) : ℕ := headerSize + env.payload.length

theorem length_written {env : Envelope} (henv : Decodable env) :
    (written env).length = frameLength env := by
  simp [written, encode_of_decodable henv, frameLength]

theorem length_wire {frames : List Envelope} (hframes : ∀ env ∈ frames, Decodable env) :
    (wire frames).length = (frames.map frameLength).sum := by
  rw [wire, List.length_flatMap]
  congr 1
  exact List.map_congr_left fun env henv => length_written (hframes env henv)

/-! ## Reading -/

theorem readFull_bytes (bytes : Bytes) (rest : List Event) :
    readFull bytes.length (bytes.map .byte ++ rest) = (.ok bytes, rest) := by
  induction bytes with
  | nil => rfl
  | cons value bytes ih => simp [readFull, ih]

/-- The three ways a read ends. -/
theorem readFull_cases (count : ℕ) (events : List Event) :
    (∃ bytes rest, bytes.length = count ∧ events = bytes.map .byte ++ rest ∧
      readFull count events = (.ok bytes, rest)) ∨
    (∃ (lost : Bytes) (rest : List Event), events = lost.map .byte ++ .expired :: rest ∧
      readFull count events = (.error .timeout, rest)) ∨
    (∃ pending : Bytes, events = pending.map .byte ∧
      readFull count events = (.error .waiting, [])) := by
  induction count generalizing events with
  | zero => exact Or.inl ⟨[], events, rfl, rfl, rfl⟩
  | succ count ih =>
      cases events with
      | nil => exact Or.inr (Or.inr ⟨[], rfl, rfl⟩)
      | cons event events =>
          cases event with
          | expired => exact Or.inr (Or.inl ⟨[], events, rfl, rfl⟩)
          | byte value =>
              obtain ⟨bytes, rest, hcount, hevents, hread⟩ | ⟨lost, rest, hevents, hread⟩ |
                ⟨pending, hevents, hread⟩ := ih events
              · exact Or.inl ⟨value :: bytes, rest, by simp [hcount], by simp [hevents],
                  by simp [readFull, hread]⟩
              · exact Or.inr (Or.inl ⟨value :: lost, rest, by simp [hevents],
                  by simp [readFull, hread]⟩)
              · exact Or.inr (Or.inr ⟨value :: pending, by simp [hevents],
                  by simp [readFull, hread]⟩)

/-- The decoder of `Protocol.Envelope`, cut at the end of the header. -/
theorem decodeWithMax_header {headerBuf : Bytes} (hheader : headerBuf.length = headerSize)
    (body : Bytes) (maxPayload : ℕ) :
    Envelope.decodeWithMax (headerBuf ++ body) maxPayload =
      match checkHeader headerBuf maxPayload with
      | .error err => (.error err, body)
      | .ok payloadLen =>
          if body.length < payloadLen then (.error (.payloadRead payloadLen), [])
          else (.ok (envelopeOf headerBuf (body.take payloadLen)), body.drop payloadLen) := by
  have hlong : ¬ (headerBuf ++ body).length < headerSize := by
    rw [List.length_append, hheader]
    omega
  rw [Envelope.decodeWithMax, checkHeader]
  simp only [hlong, if_false, List.take_left' hheader, List.drop_left' hheader]
  split_ifs with hmagic hversion hmax hshort
  · rfl
  · rfl
  · rfl
  · exact (if_pos hshort).symm
  · exact (if_neg hshort).symm

theorem checkHeader_serializeHeader {env : Envelope} (henv : Decodable env) :
    let headerBuf := serializeHeader env.version env.msgType env.sessionID env.nonce
      env.payload.length
    checkHeader headerBuf maxPayloadSize = .ok env.payload.length ∧
      envelopeOf headerBuf env.payload = env := by
  intro headerBuf
  have hdecode := decodeWithMax_encode henv (encode_of_decodable henv) [] maxPayloadSize
  rw [List.append_nil, if_neg (not_lt.mpr henv.payload_le),
    decodeWithMax_header (length_serializeHeader ..)] at hdecode
  split at hdecode
  · cases hdecode
  · rename_i payloadLen hcheck
    split at hdecode
    · cases hdecode
    · rename_i hshort
      obtain ⟨henvelope, hrest⟩ := Prod.mk.inj hdecode
      have hlength : payloadLen = env.payload.length :=
        le_antisymm (not_lt.mp hshort) (List.drop_eq_nil_iff.mp hrest)
      rw [hlength] at hcheck henvelope
      rw [List.take_length] at henvelope
      exact ⟨hcheck, Except.ok.inj henvelope⟩

/-- A frame whose bytes arrive without a break is decoded. -/
theorem decode_written {env : Envelope} (henv : Decodable env) (rest : List Event) :
    decode ((written env).map .byte ++ rest) = (.ok env, rest) := by
  obtain ⟨hcheck, henvelope⟩ := checkHeader_serializeHeader henv
  have hread := readFull_bytes (serializeHeader env.version env.msgType env.sessionID env.nonce
    env.payload.length) (env.payload.map .byte ++ rest)
  rw [length_serializeHeader] at hread
  rw [written, encode_of_decodable henv, List.map_append, List.append_assoc, decode,
    decodeWithMax, hread]
  simp only [hcheck, readFull_bytes, henvelope]

/-! ## The loop -/

/-- The ways one `Decode` ends, with the events it takes from the connection. -/
theorem decode_cases (events : List Event) :
    (∃ (consumed : Bytes) (rest : List Event) (env : Envelope),
      consumed.length = frameLength env ∧ events = consumed.map .byte ++ rest ∧
      decode events = (.ok env, rest)) ∨
    (∃ (lost : Bytes) (rest : List Event), events = lost.map .byte ++ .expired :: rest ∧
      decode events = (.error (.read .timeout), rest)) ∨
    (∃ pending : Bytes, events = pending.map .byte ∧
      decode events = (.error (.read .waiting), [])) ∨
    (∃ (headerBuf : Bytes) (rest : List Event) (err : FrameError),
      headerBuf.length = headerSize ∧ events = headerBuf.map .byte ++ rest ∧
      decode events = (.error (.frame err), rest)) := by
  obtain ⟨headerBuf, body, hheader, rfl, hread⟩ | ⟨lost, rest, rfl, hread⟩ |
    ⟨pending, rfl, hread⟩ := readFull_cases headerSize events
  · cases hcheck : checkHeader headerBuf maxPayloadSize with
    | error err =>
        refine Or.inr (Or.inr (Or.inr ⟨headerBuf, body, err, hheader, rfl, ?_⟩))
        simp only [decode, decodeWithMax, hread, hcheck]
    | ok payloadLen =>
        obtain ⟨payload, rest, hpayload, rfl, hread'⟩ | ⟨lost, rest, rfl, hread'⟩ |
          ⟨pending, rfl, hread'⟩ := readFull_cases payloadLen body
        · refine Or.inl ⟨headerBuf ++ payload, rest, envelopeOf headerBuf payload, ?_, ?_, ?_⟩
          · rw [List.length_append, hheader, frameLength, envelopeOf]
          · rw [List.map_append, List.append_assoc]
          · simp only [decode, decodeWithMax, hread, hcheck, hread']
        · refine Or.inr (Or.inl ⟨headerBuf ++ lost, rest, ?_, ?_⟩)
          · rw [List.map_append, List.append_assoc]
          · simp only [decode, decodeWithMax, hread, hcheck, hread']
        · refine Or.inr (Or.inr (Or.inl ⟨headerBuf ++ pending, ?_, ?_⟩))
          · rw [List.map_append]
          · simp only [decode, decodeWithMax, hread, hcheck, hread']
  · refine Or.inr (Or.inl ⟨lost, rest, rfl, ?_⟩)
    simp only [decode, decodeWithMax, hread]
  · refine Or.inr (Or.inr (Or.inl ⟨pending, rfl, ?_⟩))
    simp only [decode, decodeWithMax, hread]

theorem frameLength_pos (env : Envelope) : 0 < frameLength env :=
  Nat.add_pos_left (by decide) _

/-- A `Decode` after which the loop goes on has taken something from the
connection. -/
theorem length_decode_lt {events rest : List Event} {result : Except DecodeError Envelope}
    (hdecode : decode events = (result, rest))
    (hgoes : result = .error (.read .timeout) ∨ ∃ env, result = .ok env) :
    rest.length < events.length := by
  obtain ⟨consumed, rest', env, hlength, rfl, hdecode'⟩ | ⟨lost, rest', rfl, hdecode'⟩ |
    ⟨pending, -, hdecode'⟩ | ⟨headerBuf, rest', err, -, -, hdecode'⟩ := decode_cases events
  all_goals
    rw [hdecode'] at hdecode
    obtain ⟨rfl, rfl⟩ := Prod.mk.inj hdecode
  · have hpositive := frameLength_pos env
    rw [List.length_append, List.length_map]
    omega
  · rw [List.length_append, List.length_cons]
    omega
  · simp at hgoes
  · simp at hgoes

/-- As many rounds as there are events are enough. -/
theorem listen_succ {rounds : ℕ} {events : List Event} (hrounds : events.length ≤ rounds) :
    listen (rounds + 1) events = listen rounds events := by
  induction rounds generalizing events with
  | zero =>
      obtain rfl := List.eq_nil_of_length_eq_zero (Nat.le_zero.mp hrounds)
      rfl
  | succ rounds ih =>
      rw [listen, listen]
      split
      · rename_i env rest hdecode
        have hrest := length_decode_lt hdecode (Or.inr ⟨env, rfl⟩)
        rw [ih (by omega)]
      · rename_i rest hdecode
        have hrest := length_decode_lt hdecode (Or.inl rfl)
        rw [ih (by omega)]
      · rfl

theorem listen_eq_handleSyncRequests {rounds : ℕ} {events : List Event}
    (hrounds : events.length ≤ rounds) : listen rounds events = handleSyncRequests events := by
  induction rounds, hrounds using Nat.le_induction with
  | base => rfl
  | succ rounds hrounds ih => rw [listen_succ hrounds, ih]

/-- One round of the loop. -/
theorem handleSyncRequests_eq (events : List Event) :
    handleSyncRequests events =
      match decode events with
      | (.ok env, rest) => env :: handleSyncRequests rest
      | (.error (.read .timeout), rest) => handleSyncRequests rest
      | (.error _, _) => [] := by
  rw [← listen_eq_handleSyncRequests (Nat.le_succ events.length), listen]
  split
  · rename_i env rest hdecode
    have hrest := length_decode_lt hdecode (Or.inr ⟨env, rfl⟩)
    rw [listen_eq_handleSyncRequests hrest.le]
  · rename_i rest hdecode
    have hrest := length_decode_lt hdecode (Or.inl rfl)
    rw [listen_eq_handleSyncRequests hrest.le]
  · rfl

theorem handleSyncRequests_of_decode {events rest : List Event} {env : Envelope}
    (hdecode : decode events = (.ok env, rest)) :
    handleSyncRequests events = env :: handleSyncRequests rest := by
  rw [handleSyncRequests_eq, hdecode]

theorem handleSyncRequests_of_timeout {events rest : List Event}
    (hdecode : decode events = (.error (.read .timeout), rest)) :
    handleSyncRequests events = handleSyncRequests rest := by
  rw [handleSyncRequests_eq, hdecode]

/-- Frames that arrive without a break are dispatched, whatever follows. -/
theorem handleSyncRequests_wire {frames : List Envelope}
    (hframes : ∀ env ∈ frames, Decodable env) (rest : List Event) :
    handleSyncRequests ((wire frames).map .byte ++ rest) =
      frames ++ handleSyncRequests rest := by
  induction frames with
  | nil => rfl
  | cons env frames ih =>
      have hhead := decode_written (hframes env List.mem_cons_self)
        ((wire frames).map .byte ++ rest)
      rw [wire_cons, List.map_append, List.append_assoc, handleSyncRequests_of_decode hhead,
        ih fun env henv => hframes env (List.mem_cons_of_mem _ henv), List.cons_append]

/-! ## Expirations between frames lose nothing -/

theorem handleSyncRequests_expired (events : List Event) :
    handleSyncRequests (.expired :: events) = handleSyncRequests events :=
  handleSyncRequests_of_timeout rfl

theorem BetweenFrames.after {frames : List Envelope} {count : ℕ} {rest : List Event}
    (hbetween : BetweenFrames frames
      ((wire (frames.take count)).map .byte ++ .expired :: rest)) :
    BetweenFrames (frames.drop count) rest := by
  rintro before after rfl
  obtain ⟨total, htotal⟩ := hbetween
    ((wire (frames.take count)).map .byte ++ .expired :: before) after (by simp)
  rw [arrived_append, arrived_bytes, arrived_expired] at htotal
  obtain hle | hle := le_total count total
  · obtain ⟨more, rfl⟩ := Nat.exists_eq_add_of_le hle
    rw [List.take_add, wire_append] at htotal
    exact ⟨more, List.append_cancel_left htotal⟩
  · -- no byte arrives between the two expirations
    obtain ⟨more, rfl⟩ := Nat.exists_eq_add_of_le hle
    have hlength := congrArg List.length htotal
    rw [List.take_add, wire_append] at hlength
    simp only [List.length_append] at hlength
    exact ⟨0, List.eq_nil_of_length_eq_zero (by omega)⟩

theorem handleSyncRequests_of_betweenFrames {frames : List Envelope} {events : List Event}
    (hframes : ∀ env ∈ frames, Decodable env) (hbytes : arrived events = wire frames)
    (hbetween : BetweenFrames frames events) : handleSyncRequests events = frames := by
  -- by the length of the events: the bytes before an expiration are whole frames
  induction hlength : events.length using Nat.strong_induction_on generalizing frames events with
  | h length ih =>
      obtain ⟨bytes, rfl | ⟨rest, rfl⟩⟩ := exists_leading_bytes events
      · rw [arrived_bytes] at hbytes
        have hall := handleSyncRequests_wire hframes []
        rw [List.append_nil] at hall
        rw [hbytes, hall]
        exact List.append_nil frames
      · obtain ⟨count, hcount⟩ := hbetween _ _ rfl
        rw [arrived_bytes] at hcount
        subst hcount
        have htaken : ∀ env ∈ frames.take count, Decodable env := fun env henv =>
          hframes env (List.mem_of_mem_take henv)
        have hdropped : ∀ env ∈ frames.drop count, Decodable env := fun env henv =>
          hframes env (List.mem_of_mem_drop henv)
        rw [← wire_take_append_drop frames count, arrived_append, arrived_bytes,
          arrived_expired] at hbytes
        have hrest : handleSyncRequests rest = frames.drop count := by
          refine ih rest.length ?_ hdropped (List.append_cancel_left hbytes) hbetween.after rfl
          rw [← hlength, List.length_append, List.length_cons]
          omega
        rw [handleSyncRequests_wire htaken, handleSyncRequests_expired, hrest,
          List.take_append_drop]

/-! ## An expiration inside a frame loses bytes -/

/-- What the loop takes from the connection for what it dispatches. -/
inductive Listens : List Event → List Envelope → Prop
  | frame {consumed : Bytes} {rest : List Event} {env : Envelope} {dispatched : List Envelope}
      (hlength : consumed.length = frameLength env) (hrest : Listens rest dispatched) :
      Listens (consumed.map .byte ++ rest) (env :: dispatched)
  | timeout {lost : Bytes} {rest : List Event} {dispatched : List Envelope}
      (hrest : Listens rest dispatched) :
      Listens (lost.map .byte ++ .expired :: rest) dispatched
  | waiting {pending : Bytes} : Listens (pending.map .byte) []
  | malformed {headerBuf : Bytes} {rest : List Event}
      (hlength : headerBuf.length = headerSize) :
      Listens (headerBuf.map .byte ++ rest) []

theorem listens_handleSyncRequests (events : List Event) :
    Listens events (handleSyncRequests events) := by
  induction hlength : events.length using Nat.strong_induction_on generalizing events with
  | h length ih =>
      subst hlength
      rw [handleSyncRequests_eq]
      obtain ⟨consumed, rest, env, hframe, hevents, hdecode⟩ | ⟨lost, rest, hevents, hdecode⟩ |
        ⟨pending, hevents, hdecode⟩ | ⟨headerBuf, rest, err, hheader, hevents, hdecode⟩ :=
        decode_cases events
      · have hrest := ih _ (length_decode_lt hdecode (Or.inr ⟨env, rfl⟩)) rest rfl
        rw [hdecode, hevents]
        exact Listens.frame hframe hrest
      · have hrest := ih _ (length_decode_lt hdecode (Or.inl rfl)) rest rfl
        rw [hdecode, hevents]
        exact Listens.timeout hrest
      · rw [hdecode, hevents]
        exact Listens.waiting
      · rw [hdecode, hevents]
        exact Listens.malformed hheader

/-- Dispatched frames are paid for with bytes that arrived. -/
theorem Listens.sum_frameLength_le {events : List Event} {dispatched : List Envelope}
    (hlistens : Listens events dispatched) :
    (dispatched.map frameLength).sum ≤ (arrived events).length := by
  induction hlistens with
  | frame hlength hrest ih =>
      simp only [List.map_cons, List.sum_cons, arrived_append, arrived_bytes,
        List.length_append, hlength]
      omega
  | timeout hrest ih =>
      simp only [arrived_append, arrived_expired, List.length_append]
      omega
  | waiting => exact Nat.zero_le _
  | malformed hlength => exact Nat.zero_le _

/-- An expiration among bytes followed by other events is among the latter. -/
theorem exists_of_bytes_append_eq {bytes : Bytes} {rest before after : List Event}
    (hevents : bytes.map .byte ++ rest = before ++ .expired :: after) :
    ∃ before', before = bytes.map .byte ++ before' ∧ rest = before' ++ .expired :: after := by
  obtain ⟨between, hbefore, hrest⟩ | ⟨between, hbytes, hrest⟩ :=
    List.append_eq_append_iff.mp hevents
  · exact ⟨between, hbefore, hrest⟩
  · cases between with
    | nil => exact ⟨[], by simpa using hbytes.symm, by simpa using hrest.symm⟩
    | cons event between =>
        obtain ⟨rfl, -⟩ := List.cons.inj hrest
        have hmem : Event.expired ∈ bytes.map Event.byte := by simp [hbytes]
        simp at hmem

/-- When every byte that arrived went into a dispatched frame, each expiration
came between two of them. -/
theorem Listens.boundary {events : List Event} {dispatched : List Envelope}
    (hlistens : Listens events dispatched)
    (hall : (arrived events).length ≤ (dispatched.map frameLength).sum)
    {before after : List Event} (hevents : events = before ++ .expired :: after) :
    ∃ count, (arrived before).length = ((dispatched.take count).map frameLength).sum := by
  induction hlistens generalizing before after with
  | @frame consumed rest env dispatched hlength hrest ih =>
      obtain ⟨before, rfl, hsplit⟩ := exists_of_bytes_append_eq hevents
      simp only [List.map_cons, List.sum_cons, arrived_append, arrived_bytes,
        List.length_append, hlength] at hall
      obtain ⟨count, hcount⟩ := ih (by omega) hsplit
      exact ⟨count + 1, by simp [hlength, hcount]⟩
  | @timeout lost rest dispatched hrest ih =>
      have hpaid := hrest.sum_frameLength_le
      simp only [arrived_append, arrived_bytes, arrived_expired, List.length_append] at hall
      obtain rfl : lost = [] := List.eq_nil_of_length_eq_zero (by omega)
      cases before with
      | nil => exact ⟨0, rfl⟩
      | cons event before =>
          obtain ⟨rfl, hsplit⟩ := List.cons.inj hevents
          rw [arrived_expired]
          exact ih (by omega) hsplit
  | @waiting pending =>
      have hmem : Event.expired ∈ pending.map Event.byte := by simp [hevents]
      simp at hmem
  | @malformed headerBuf rest hlength =>
      rw [arrived_append, arrived_bytes, List.length_append, hlength] at hall
      exact absurd hall (by simp [headerSize])

theorem betweenFrames_of_handleSyncRequests {frames : List Envelope} {events : List Event}
    (hframes : ∀ env ∈ frames, Decodable env) (hbytes : arrived events = wire frames)
    (hexact : handleSyncRequests events = frames) : BetweenFrames frames events := by
  intro before after hevents
  have hlistens := listens_handleSyncRequests events
  rw [hexact] at hlistens
  have hall : (arrived events).length ≤ (frames.map frameLength).sum := by
    rw [hbytes, length_wire hframes]
  obtain ⟨count, hcount⟩ := hlistens.boundary hall hevents
  refine ⟨count, ?_⟩
  -- two initial parts of the same stream, of the same length
  have hbefore : arrived before <+: wire frames := by
    rw [← hbytes, hevents, arrived_append]
    exact List.prefix_append _ _
  have hframes' : wire (frames.take count) <+: wire frames := by
    rw [← wire_take_append_drop frames count]
    exact List.prefix_append _ _
  have htaken : ∀ env ∈ frames.take count, Decodable env := fun env henv =>
    hframes env (List.mem_of_mem_take henv)
  rw [← length_wire htaken] at hcount
  exact (List.prefix_of_prefix_length_le hbefore hframes' hcount.le).eq_of_length hcount

/-- For every list of well-formed frames and every timing of their bytes, the
listener dispatches exactly these frames if and only if every expiration of the
read deadline falls between two frames. -/
theorem dispatches_sent_iff (frames : List Envelope) (hframes : ∀ env ∈ frames, Decodable env)
    (events : List Event) (hbytes : arrived events = wire frames) :
    handleSyncRequests events = frames ↔ BetweenFrames frames events :=
  ⟨betweenFrames_of_handleSyncRequests hframes hbytes,
    handleSyncRequests_of_betweenFrames hframes hbytes⟩

/-! ## Two sync requests -/

def syncRequest (lastSequence : ℕ) : Envelope where
  version := version
  msgType := msgTypeSyncReq
  sessionID := copyFixed sessionIDSize []
  nonce := copyFixed nonceSize []
  payload := (putUint64 lastSequence).val

def requests : List Envelope := [syncRequest 7, syncRequest 9]

/-- The deadline runs out before the first frame, between the two and after
the second. -/
def punctual : List Event :=
  .expired :: ((written (syncRequest 7)).map .byte ++
    .expired :: ((written (syncRequest 9)).map .byte ++ [.expired]))

/-- The deadline runs out after the sixth byte of the first header. -/
def interrupted : List Event :=
  ((wire requests).take 6).map .byte ++ .expired :: ((wire requests).drop 6).map .byte

theorem dispatches_sent_iff_punctual :
    (∀ env ∈ requests, Decodable env) ∧ arrived punctual = wire requests ∧
      BetweenFrames requests punctual :=
  ⟨by decide +kernel, by decide +kernel,
    (dispatches_sent_iff requests (by decide +kernel) punctual (by decide +kernel)).mp
      (by decide +kernel)⟩

/-- The second round takes byte seven for the start of a header, finds no magic
there and ends the listener: neither frame is dispatched. -/
theorem interrupted_header_loses_frames :
    (∀ env ∈ requests, Decodable env) ∧ arrived interrupted = wire requests ∧
      handleSyncRequests interrupted = [] ∧ handleSyncRequests interrupted ≠ requests := by
  decide +kernel

end ZeroFeed.Listener
