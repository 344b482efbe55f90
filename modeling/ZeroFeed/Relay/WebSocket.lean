import ZeroFeed.Core.ReadProgram
import ZeroFeed.Protocol.Stream

/-!
# WebSocket connections (`pkg/relay/websocket.go`)

`wsConn.Read` unwraps the frames a browser sends and hands out their payloads,
keeping what does not fit into the caller's buffer for the next call.  The
buffered reader it takes the frames from is any reader in the sense of
`Core/ShortReads.lean`.  The connection is then such a reader itself: its
contents are the payloads of the data frames up to the close frame or the first
error, so everything above it sees the stream the client cut into frames.

Beside the bytes written to the underlying connection the model keeps a log of
the calls that wrote them.
-/

namespace ZeroFeed.WebSocket

open ZeroFeed.ByteString
open ZeroFeed.ShortReads
open ZeroFeed.ReadProgram

/-! ## Reading one frame -/

/-- The limit on the payload of a frame with a 64-bit length field. -/
def maxFramePayload : ℕ := 64 * 1024 * 1024

/-- A frame from the client.  Of a close frame only the first byte is read. -/
inductive Incoming where
  | close
  | frame (opcode : Byte) (payload : Bytes)
  deriving DecidableEq

/-- The loop that unmasks a payload. -/
def applyMask (maskKey payload : Bytes) : Bytes :=
  payload.mapIdx fun index byte => byte ^^^ maskKey.getD (index % 4) 0

section Programs

variable {Failure Value : Type*} (oversized : Failure)

/-- The payload length, from its own byte or from the field that follows. -/
def readLength (lenByte : Byte) (next : ℕ → Program Failure Value) : Program Failure Value :=
  let payloadLen := (lenByte &&& 0x7F).toNat
  if payloadLen = 126 then .readFull 2 fun field => next (bigEndianValue field)
  else if payloadLen = 127 then
    .readFull 8 fun field =>
      if maxFramePayload < bigEndianValue field then .fail (.failed oversized)
      else next (bigEndianValue field)
  else next payloadLen

def readMask (masked : Bool) (next : Bytes → Program Failure Value) : Program Failure Value :=
  if masked then .readFull 4 next else next [0, 0, 0, 0]

/-- What the loop of `Read` takes from the buffered reader in one round.
`oversized` is the error for a frame beyond the limit. -/
def readFrame : Program Failure Incoming :=
  .readByte fun header =>
    let opcode := header &&& 0x0F
    if opcode = 0x08 then .done .close
    else
      .readByte fun lenByte =>
        let masked := decide (lenByte &&& 0x80 ≠ 0)
        readLength oversized lenByte fun payloadLen =>
          readMask masked fun maskKey =>
            .readFull payloadLen fun payload =>
              .done (.frame opcode (if masked then applyMask maskKey payload else payload))

end Programs

/-! ## The connection -/

/-- A data frame: text, binary or continuation. -/
def isData (opcode : Byte) : Bool := opcode = 0x01 ∨ opcode = 0x02 ∨ opcode = 0x00

/-- What was written to the underlying connection: the payload of a `Write`, or
the payload of a ping that was answered. -/
inductive Outgoing where
  | binary (payload : Bytes)
  | pong (payload : Bytes)
  deriving DecidableEq

/-- The frame `Read` answers a ping with. -/
def pongFrame (payload : Bytes) : Bytes :=
  let pLen := payload.length
  0x8A :: (if pLen ≤ 125 then [UInt8.ofNat pLen]
    else [126, UInt8.ofNat (pLen / 256), UInt8.ofNat pLen]) ++ payload

structure WsConn (State : Type*) where
  input : State
  readBuf : Bytes
  /-- The bytes written to the underlying connection. -/
  written : Bytes
  /-- Log: the calls that wrote them. -/
  log : List Outgoing

section Connection

variable {State Failure : Type*} (reader : Reader State Failure) (oversized : Failure)
variable (ws : WsConn State)

/-- The write under `writeMu` that answers a ping. -/
def WsConn.writePong (payload : Bytes) : WsConn State :=
  { ws with
    written := ws.written ++ pongFrame payload
    log := ws.log ++ [.pong payload] }

/-- What a round of the loop does with a frame, and whether it leaves the loop. -/
def WsConn.accept (opcode : Byte) (payload : Bytes) : Bool × WsConn State :=
  if opcode = 0x09 then (false, ws.writePong payload)
  else if isData opcode then (true, { ws with readBuf := payload })
  else (false, ws)

/-- One round of the loop. -/
def receive : Except (ReadError Failure) Bool × WsConn State :=
  match (readFrame oversized).run reader ws.input with
  | (.error err, next) => (.error err, { ws with input := next })
  | (.ok .close, next) => (.error .eof, { ws with input := next })
  | (.ok (.frame opcode payload), next) =>
      let (leave, ws') := { ws with input := next }.accept opcode payload
      (.ok leave, ws')

/-- The loop, with a bound on its rounds. -/
def fill : ℕ → WsConn State → Option (ReadError Failure) × WsConn State
  | 0, ws => (some .unexpectedEOF, ws)
  | rounds + 1, ws =>
      if ws.readBuf ≠ [] then (none, ws)
      else
        match receive reader oversized ws with
        | (.error err, ws') => (some err, ws')
        | (.ok true, ws') => (none, ws')
        | (.ok false, ws') => fill rounds ws'

/-- `wsConn.Read` with a buffer of `size` bytes. -/
def read (size : ℕ) : ReadResult (WsConn State) Failure :=
  match fill reader oversized ((reader.contents ws.input).length + 1) ws with
  | (some err, ws') => ⟨[], some err, ws'⟩
  | (none, ws') =>
      ⟨ws'.readBuf.take size, none, { ws' with readBuf := ws'.readBuf.drop size }⟩

end Connection

/-! ## The stream inside the frames -/

theorem applyMask_applyMask (maskKey payload : Bytes) :
    applyMask maskKey (applyMask maskKey payload) = payload := by
  rw [applyMask, applyMask, List.mapIdx_mapIdx]
  apply List.ext_getElem
  · rw [List.length_mapIdx]
  · intro index hleft hright
    simp

@[simp]
theorem length_applyMask (maskKey payload : Bytes) :
    (applyMask maskKey payload).length = payload.length := by
  rw [applyMask, List.length_mapIdx]

section Unframing

variable {Failure : Type*} (oversized : Failure) (final : ReadError Failure)

theorem length_lt_of_readFrame {input rest : Bytes} {incoming : Incoming}
    (hparse : (readFrame oversized).parse final input = .ok (incoming, rest)) :
    rest.length < input.length :=
  Program.length_lt_of_parse_readByte hparse

/-- The payloads of the data frames up to a close frame or the first error, and
how they end. -/
def unframe (input : Bytes) : Bytes × ReadError Failure :=
  match hparse : (readFrame oversized).parse final input with
  | .error err => ([], err)
  | .ok (.close, _) => ([], .eof)
  | .ok (.frame opcode payload, rest) =>
      have : rest.length < input.length := length_lt_of_readFrame oversized final hparse
      let (data, err) := unframe rest
      (if isData opcode then payload ++ data else data, err)
termination_by input.length

variable {oversized final} {input : Bytes}

theorem unframe_of_error {err : ReadError Failure}
    (hparse : (readFrame oversized).parse final input = .error err) :
    unframe oversized final input = ([], err) := by
  rw [unframe]
  split <;> simp_all

theorem unframe_of_close {rest : Bytes}
    (hparse : (readFrame oversized).parse final input = .ok (.close, rest)) :
    unframe oversized final input = ([], .eof) := by
  rw [unframe]
  split <;> simp_all

theorem unframe_of_frame {opcode : Byte} {payload rest : Bytes}
    (hparse : (readFrame oversized).parse final input = .ok (.frame opcode payload, rest)) :
    unframe oversized final input =
      (if isData opcode then payload ++ (unframe oversized final rest).1
        else (unframe oversized final rest).1, (unframe oversized final rest).2) := by
  rw [unframe]
  split <;> simp_all

end Unframing

/-! ## The connection as a reader -/

section Reading

variable {State Failure : Type*} {reader : Reader State Failure} {oversized : Failure}
variable {ws ws' : WsConn State}

/-- The payloads still inside the frames, and how they end. -/
def WsConn.unread (reader : Reader State Failure) (oversized : Failure) (ws : WsConn State) :
    Bytes × ReadError Failure :=
  unframe oversized (reader.final ws.input) (reader.contents ws.input)

@[simp]
theorem accept_leave (ws : WsConn State) (opcode : Byte) (payload : Bytes) :
    (ws.accept opcode payload).1 = isData opcode := by
  rw [WsConn.accept]
  split
  · rename_i hping
    rw [hping]
    rfl
  · cases isData opcode <;> rfl

@[simp]
theorem accept_input (ws : WsConn State) (opcode : Byte) (payload : Bytes) :
    (ws.accept opcode payload).2.input = ws.input := by
  rw [WsConn.accept]
  split
  · rfl
  · cases isData opcode <;> rfl

@[simp]
theorem accept_readBuf (ws : WsConn State) (opcode : Byte) (payload : Bytes) :
    (ws.accept opcode payload).2.readBuf = if isData opcode then payload else ws.readBuf := by
  rw [WsConn.accept]
  split
  · rename_i hping
    rw [hping]
    rfl
  · cases isData opcode <;> rfl

theorem receive_of_error {err : ReadError Failure}
    (hparse : (readFrame oversized).parse (reader.final ws.input) (reader.contents ws.input) =
      .error err) : ∃ ws', receive reader oversized ws = (.error err, ws') := by
  obtain ⟨next, hrun⟩ := Program.run_of_error hparse
  exact ⟨{ ws with input := next }, by rw [receive, hrun]⟩

theorem receive_of_close {rest : Bytes}
    (hparse : (readFrame oversized).parse (reader.final ws.input) (reader.contents ws.input) =
      .ok (.close, rest)) : ∃ ws', receive reader oversized ws = (.error .eof, ws') := by
  obtain ⟨next, hrun, -, -⟩ := Program.run_of_ok hparse
  exact ⟨{ ws with input := next }, by rw [receive, hrun]⟩

theorem receive_of_frame {opcode : Byte} {payload rest : Bytes}
    (hparse : (readFrame oversized).parse (reader.final ws.input) (reader.contents ws.input) =
      .ok (.frame opcode payload, rest)) :
    ∃ next, reader.contents next = rest ∧ reader.final next = reader.final ws.input ∧
      receive reader oversized ws =
        (.ok (isData opcode), ({ ws with input := next }.accept opcode payload).2) := by
  obtain ⟨next, hrun, hrest, hfinal⟩ := Program.run_of_ok hparse
  refine ⟨next, hrest, hfinal, ?_⟩
  rw [receive, hrun]
  exact congrArg (fun leave => (Except.ok leave, _)) (accept_leave _ opcode payload)

/-- Nothing of the stream was lost on the way into `readBuf`, and some input was
consumed. -/
structure Taken (reader : Reader State Failure) (oversized : Failure) (ws ws' : WsConn State) :
    Prop where
  contents : (ws.unread reader oversized).1 =
    ws'.readBuf ++ (ws'.unread reader oversized).1
  final : (ws'.unread reader oversized).2 = (ws.unread reader oversized).2
  shorter : (reader.contents ws'.input).length < (reader.contents ws.input).length

theorem taken_of_frame {opcode : Byte} {payload rest : Bytes} {next : State}
    (hparse : (readFrame oversized).parse (reader.final ws.input) (reader.contents ws.input) =
      .ok (.frame opcode payload, rest)) (hempty : ws.readBuf = [])
    (hrest : reader.contents next = rest) (hfinal : reader.final next = reader.final ws.input) :
    Taken reader oversized ws ({ ws with input := next }.accept opcode payload).2 := by
  have hframe := unframe_of_frame hparse
  rw [← hrest, ← hfinal] at hframe
  constructor
  · rw [WsConn.unread, WsConn.unread, accept_input, accept_readBuf, ← hfinal, hframe]
    cases isData opcode with
    | true => rfl
    | false => exact (congrArg (· ++ _) hempty).symm
  · rw [WsConn.unread, WsConn.unread, accept_input, ← hfinal, hframe]
  · rw [accept_input]
    exact hrest ▸ length_lt_of_readFrame oversized _ hparse

theorem Taken.trans {ws'' : WsConn State} (hleft : Taken reader oversized ws ws')
    (hempty : ws'.readBuf = []) (hright : Taken reader oversized ws' ws'') :
    Taken reader oversized ws ws'' where
  contents := by rw [hleft.contents, hempty, List.nil_append, hright.contents]
  final := hright.final.trans hleft.final
  shorter := hright.shorter.trans hleft.shorter

/-- The loop ends with an error only at the end of the stream. -/
theorem fill_spec {rounds : ℕ} (hrounds : (reader.contents ws.input).length < rounds)
    (hempty : ws.readBuf = []) :
    (∃ err ws', fill reader oversized rounds ws = (some err, ws') ∧
      ws.unread reader oversized = ([], err)) ∨
    ∃ ws', fill reader oversized rounds ws = (none, ws') ∧ Taken reader oversized ws ws' := by
  induction rounds generalizing ws with
  | zero => exact absurd hrounds (Nat.not_lt_zero _)
  | succ rounds ih =>
      have hloop : ¬ ws.readBuf ≠ [] := not_not.mpr hempty
      rw [fill, if_neg hloop]
      cases hparse : (readFrame oversized).parse (reader.final ws.input)
          (reader.contents ws.input) with
      | error err =>
          obtain ⟨ws', hreceive⟩ := receive_of_error hparse
          exact .inl ⟨err, ws', by rw [hreceive], unframe_of_error hparse⟩
      | ok parsed =>
          obtain ⟨incoming, rest⟩ := parsed
          cases incoming with
          | close =>
              obtain ⟨ws', hreceive⟩ := receive_of_close hparse
              exact .inl ⟨.eof, ws', by rw [hreceive], unframe_of_close hparse⟩
          | frame opcode payload =>
              obtain ⟨next, hrest, hfinal, hreceive⟩ := receive_of_frame hparse
              have htaken := taken_of_frame hparse hempty hrest hfinal
              rw [hreceive]
              cases hdata : isData opcode with
              | true => exact .inr ⟨_, rfl, htaken⟩
              | false =>
                  -- Not a data frame: the loop goes round with less input.
                  have hstill : ({ ws with input := next }.accept opcode payload).2.readBuf =
                      [] := by
                    rw [accept_readBuf, hdata]
                    exact hempty
                  have hfewer := Nat.lt_of_lt_of_le htaken.shorter (Nat.le_of_lt_succ hrounds)
                  rcases ih hfewer hstill with
                    ⟨err, ws', hfill, hunread⟩ | ⟨ws', hfill, hmore⟩
                  · refine .inl ⟨err, ws', hfill, ?_⟩
                    apply Prod.ext
                    · rw [htaken.contents, hstill, hunread]
                      rfl
                    · rw [← htaken.final, hunread]
                  · exact .inr ⟨ws', hfill, htaken.trans hstill hmore⟩

/-- What is left in `readBuf` and the payloads still inside the frames. -/
def WsConn.contents (reader : Reader State Failure) (oversized : Failure) (ws : WsConn State) :
    Bytes :=
  ws.readBuf ++ (ws.unread reader oversized).1

/-- Every `Read` hands out bytes or consumes input. -/
def WsConn.potential (reader : Reader State Failure) (oversized : Failure)
    (ws : WsConn State) : ℕ :=
  (ws.contents reader oversized).length + (reader.contents ws.input).length

/-- The copying at the end of `Read`. -/
theorem contents_copyOut (ws : WsConn State) (size : ℕ) :
    ws.contents reader oversized = ws.readBuf.take size ++
      { ws with readBuf := ws.readBuf.drop size }.contents reader oversized := by
  rw [WsConn.contents, WsConn.contents, ← List.append_assoc, List.take_append_drop]
  rfl

theorem readCase (reader : Reader State Failure) (oversized : Failure) (ws : WsConn State)
    (size : ℕ) :
    ReadCase (WsConn.contents reader oversized)
      (fun ws => (ws.unread reader oversized).2) (WsConn.potential reader oversized) ws size
      (read reader oversized ws size) := by
  by_cases hempty : ws.readBuf = []
  · have hcontents : ws.contents reader oversized = (ws.unread reader oversized).1 := by
      rw [WsConn.contents, hempty, List.nil_append]
    rcases fill_spec (Nat.lt_succ_self _) hempty with
      ⟨err, ws', hfill, hunread⟩ | ⟨ws', hfill, htaken⟩
    · obtain rfl : (ws.unread reader oversized).2 = err := congrArg Prod.snd hunread
      rw [read, hfill]
      exact .ended ws' (hcontents.trans (congrArg Prod.fst hunread))
    · have hkept : ws.contents reader oversized = ws'.contents reader oversized :=
        hcontents.trans htaken.contents
      rw [read, hfill]
      refine .more _ _ (List.length_take_le size ws'.readBuf)
        (hkept.trans (contents_copyOut ws' size)) htaken.final ?_
      intro hsize
      have hlength := congrArg List.length (hkept.trans (contents_copyOut ws' size))
      rw [List.length_append] at hlength
      have hshorter := htaken.shorter
      rw [WsConn.potential, WsConn.potential]
      dsimp only
      omega
  · rw [read, fill, if_pos hempty]
    refine .more _ _ (List.length_take_le size ws.readBuf) (contents_copyOut ws size) rfl ?_
    intro hsize
    have hlength := congrArg List.length (@contents_copyOut _ _ reader oversized ws size)
    have hpos := List.length_pos_of_ne_nil hempty
    rw [List.length_append, List.length_take] at hlength
    rw [WsConn.potential, WsConn.potential]
    dsimp only
    omega

/-- A connection stands for what is left in `readBuf` and the payloads still
inside the frames. -/
def wsReader (reader : Reader State Failure) (oversized : Failure) :
    Reader (WsConn State) Failure :=
  .ofCases (read reader oversized) (WsConn.contents reader oversized)
    (fun ws => (ws.unread reader oversized).2) (WsConn.potential reader oversized)
    (readCase reader oversized)

end Reading

/-! ## What a client sends -/

/-- The three ways in which RFC 6455 writes the length of a payload. -/
inductive LengthForm where
  | seven
  | sixteen
  | sixtyFour
  deriving DecidableEq

namespace LengthForm

/-- The longest payload `Read` takes in this form. -/
def limit : LengthForm → ℕ
  | .seven => 125
  | .sixteen => 65535
  | .sixtyFour => maxFramePayload

/-- The seven bits beside the mask bit. -/
def marker (length : ℕ) : LengthForm → ℕ
  | .seven => length
  | .sixteen => 126
  | .sixtyFour => 127

/-- The field that follows. -/
def field (length : ℕ) : LengthForm → Bytes
  | .seven => []
  | .sixteen => bigEndian 2 length
  | .sixtyFour => bigEndian 8 length

theorem marker_lt {form : LengthForm} {length : ℕ} (hfits : length ≤ form.limit) :
    form.marker length < 128 := by
  cases form with
  | seven => exact Nat.lt_of_le_of_lt hfits (by decide)
  | sixteen | sixtyFour => simp [marker]

end LengthForm

/-- A frame other than a close frame.  Fragmentation and reserved bits are the
client's choice, and so is the form of the length. -/
structure ClientFrame where
  header : Byte
  mask : Option (FixedBytes 4)
  form : LengthForm
  payload : Bytes
  notClose : header &&& 0x0F ≠ 0x08
  fits : payload.length ≤ form.limit

/-- The byte with the mask bit. -/
def lenByteOf (marker : ℕ) (masked : Bool) : Byte :=
  UInt8.ofNat (marker + if masked then 128 else 0)

theorem lenByteOf_marker : ∀ marker < 128, ∀ masked,
    (lenByteOf marker masked &&& 0x7F).toNat = marker := by
  decide +kernel

theorem lenByteOf_masked : ∀ marker < 128, ∀ masked,
    decide (lenByteOf marker masked &&& 0x80 ≠ 0) = masked := by
  decide +kernel

namespace ClientFrame

variable (frame : ClientFrame)

def opcode : Byte := frame.header &&& 0x0F

/-- The mask key, if there is one, and the payload as it is sent. -/
def body : Bytes :=
  match frame.mask with
  | none => frame.payload
  | some maskKey => maskKey.val ++ applyMask maskKey.val frame.payload

def encode : Bytes :=
  frame.header ::
    lenByteOf (frame.form.marker frame.payload.length) frame.mask.isSome ::
      (frame.form.field frame.payload.length ++ frame.body)

/-- What the frame contributes to the stream. -/
def data : Bytes := if isData frame.opcode then frame.payload else []

end ClientFrame

/-- The stream the client cut into frames. -/
def stream (frames : List ClientFrame) : Bytes := frames.flatMap ClientFrame.data

section Client

variable {Failure : Type*} (oversized : Failure) (final : ReadError Failure)

theorem parse_readLength {Value : Type*} {form : LengthForm} {length : ℕ}
    (hfits : length ≤ form.limit) (masked : Bool) (next : ℕ → Program Failure Value)
    (rest : Bytes) :
    (readLength oversized (lenByteOf (form.marker length) masked) next).parse final
      (form.field length ++ rest) = (next length).parse final rest := by
  have hmarker := lenByteOf_marker _ (LengthForm.marker_lt hfits) masked
  rw [readLength, hmarker]
  cases form with
  | seven =>
      have hshort : length ≤ 125 := hfits
      have h126 : length ≠ 126 := by omega
      have h127 : length ≠ 127 := by omega
      simp only [LengthForm.marker, h126, h127, if_false]
      rfl
  | sixteen =>
      have hvalue : length < 256 ^ 2 := Nat.lt_of_le_of_lt hfits (by decide)
      simp only [LengthForm.marker, if_pos, LengthForm.field]
      rw [Program.parse_readFull_append (length_bigEndian 2 length),
        bigEndianValue_bigEndian_of_lt hvalue]
  | sixtyFour =>
      have hlimit : length ≤ maxFramePayload := hfits
      have hvalue : length < 256 ^ 8 := Nat.lt_of_le_of_lt hlimit (by decide)
      simp only [LengthForm.marker, LengthForm.field]
      rw [if_neg (by decide), if_pos trivial,
        Program.parse_readFull_append (length_bigEndian 8 length),
        bigEndianValue_bigEndian_of_lt hvalue, if_neg (not_lt.mpr hlimit)]

/-- Whatever the mask and the form of the length, a round reads the opcode and
the payload. -/
theorem parse_encode (frame : ClientFrame) (rest : Bytes) :
    (readFrame oversized).parse final (frame.encode ++ rest) =
      .ok (.frame frame.opcode frame.payload, rest) := by
  have hmasked := lenByteOf_masked _ (LengthForm.marker_lt frame.fits) frame.mask.isSome
  rw [readFrame, ClientFrame.encode, List.cons_append, Program.parse_readByte_cons,
    if_neg frame.notClose, List.cons_append, Program.parse_readByte_cons, List.append_assoc,
    parse_readLength oversized final frame.fits, hmasked]
  rw [ClientFrame.body]
  cases frame.mask with
  | none =>
      rw [Option.isSome_none, readMask, if_neg Bool.false_ne_true,
        Program.parse_readFull_append rfl]
      rfl
  | some maskKey =>
      rw [Option.isSome_some, readMask, if_pos rfl, List.append_assoc,
        Program.parse_readFull_append maskKey.property,
        Program.parse_readFull_append (length_applyMask _ _), if_pos rfl, applyMask_applyMask]
      rfl

/-- The frames come off one by one. -/
theorem unframe_frames (frames : List ClientFrame) (tail : Bytes) :
    unframe oversized final (frames.flatMap ClientFrame.encode ++ tail) =
      (stream frames ++ (unframe oversized final tail).1, (unframe oversized final tail).2) := by
  induction frames with
  | nil => rfl
  | cons frame frames ih =>
      rw [List.flatMap_cons, List.append_assoc,
        unframe_of_frame (parse_encode oversized final frame _), ih]
      have hstream : stream (frame :: frames) = frame.data ++ stream frames :=
        List.flatMap_cons
      rw [hstream, ClientFrame.data]
      cases isData frame.opcode with
      | true => exact congrArg (·, _) (List.append_assoc _ _ _).symm
      | false => rfl

/-- What may follow the frames: nothing, or a close frame and anything after
it. -/
def EndsWith (tail : Bytes) : Prop :=
  tail = [] ∨ ∃ header rest, tail = header :: rest ∧ header &&& 0x0F = 0x08

/-- The error the stream then ends with. -/
def endingOf (tail : Bytes) : ReadError Failure := if tail = [] then final else .eof

theorem unframe_tail {tail : Bytes} (htail : EndsWith tail) :
    unframe oversized final tail = ([], endingOf final tail) := by
  rcases htail with rfl | ⟨header, rest, rfl, hclose⟩
  · exact unframe_of_error (Program.parse_readByte_nil _)
  · have hparse : (readFrame oversized).parse final (header :: rest) = .ok (.close, rest) := by
      rw [readFrame, Program.parse_readByte_cons, if_pos hclose]
      rfl
    rw [unframe_of_close hparse, endingOf, if_neg (List.cons_ne_nil _ _)]

end Client

/-- A masked text frame, a ping, an empty continuation frame and a binary frame
with a longer length field than it needs. -/
def sampleFrames : List ClientFrame :=
  [⟨0x01, some ⟨[1, 2, 3, 4], rfl⟩, .seven, [10, 11, 12, 13, 14], by decide, by decide⟩,
    ⟨0x89, none, .seven, [7], by decide, by decide⟩,
    ⟨0x80, none, .sixteen, [], by decide, by decide⟩,
    ⟨0x82, some ⟨[9, 9, 9, 9], rfl⟩, .sixtyFour, [15], by decide, by decide⟩]

/-- The frames arrive in two pieces and are followed by a close frame. -/
def sampleConn : WsConn (Segments Unit) where
  input :=
    { segments := [(sampleFrames.flatMap ClientFrame.encode).take 3,
        (sampleFrames.flatMap ClientFrame.encode).drop 3 ++ [0x88, 0x00]]
      ending := .unexpectedEOF
      nonempty := by decide +kernel }
  readBuf := []
  written := []
  log := []

end ZeroFeed.WebSocket
