import ZeroFeed.Core.Transition
import ZeroFeed.Relay.WebSocket

/-!
# What a WebSocket connection writes (`pkg/relay/websocket.go`)

`Write` and the answer to a ping write one frame each with `writeMu` held, so
the output is a sequence of whole frames in the order of those sections.  The two
places choose the form of the length on their own: `Write` knows all three forms,
the answer to a ping only the first two, while `Read` accepts pings of up to 64
MiB.  The output is read back with the framing rules of RFC 6455, section 5.2.
-/

namespace ZeroFeed.WebSocketOutput

open ZeroFeed.ByteString
open ZeroFeed.ShortReads
open ZeroFeed.ReadProgram
open ZeroFeed.Transition
open ZeroFeed.WebSocket

/-! ## Writing -/

/-- A byte slice; its length is an `int`. -/
abbrev Slice := {bytes : Bytes // bytes.length < 2 ^ 63}

/-- The frame `Write` wraps a payload in. -/
def binaryFrame (payload : Bytes) : Bytes :=
  let length := payload.length
  0x82 :: (if length ≤ 125 then [UInt8.ofNat length]
    else if length ≤ 65535 then 126 :: bigEndian 2 length
    else 127 :: bigEndian 8 length) ++ payload

section Machine

variable {State Failure : Type*} (reader : Reader State Failure) (oversized : Failure)

/-- The section of `Write` that holds `writeMu`. -/
def write (ws : WsConn State) (payload : Bytes) : WsConn State :=
  { ws with
    written := ws.written ++ binaryFrame payload
    log := ws.log ++ [.binary payload] }

/-- The steps of the goroutines that use a connection: a `Write`, and of a
`Read` a round of the loop and the copying at the end. -/
inductive Action where
  | write (payload : Slice)
  | receive
  | copyOut (size : ℕ)

def step (ws : WsConn State) : Action → Option (WsConn State)
  | .write payload => some (write ws payload.val)
  | .receive => if ws.readBuf = [] then some (receive reader oversized ws).2 else none
  | .copyOut size => some { ws with readBuf := ws.readBuf.drop size }

/-- A connection after the upgrade. -/
def opened (input : State) : WsConn State := ⟨input, [], [], []⟩

variable {reader oversized}

theorem reaches_fill (rounds : ℕ) (ws : WsConn State) :
    Reaches (step reader oversized) ws (fill reader oversized rounds ws).2 := by
  induction rounds generalizing ws with
  | zero => exact .refl
  | succ rounds ih =>
      rw [fill]
      split
      · exact .refl
      · rename_i hempty
        have hstep : step reader oversized ws .receive =
            some (receive reader oversized ws).2 := if_pos (not_not.mp hempty)
        cases hreceive : receive reader oversized ws with
        | mk result ws' =>
            rw [hreceive] at hstep
            rcases result with err | leave
            · exact .single ⟨_, hstep⟩
            · cases leave with
              | true => exact .single ⟨_, hstep⟩
              | false => exact .head ⟨_, hstep⟩ (ih ws')

/-- A whole `Read` is a run of these steps. -/
theorem reaches_read (ws : WsConn State) (size : ℕ) :
    Reaches (step reader oversized) ws (read reader oversized ws size).next := by
  have hfill := @reaches_fill _ _ reader oversized ((reader.contents ws.input).length + 1) ws
  rw [WebSocket.read]
  cases hresult : fill reader oversized ((reader.contents ws.input).length + 1) ws with
  | mk result ws' =>
      rw [hresult] at hfill
      cases result with
      | some err => exact hfill
      | none => exact hfill.tail ⟨.copyOut size, rfl⟩

end Machine

/-! ## Reading the output back -/

structure ServerFrame where
  fin : Bool
  opcode : Byte
  payload : Bytes
  deriving DecidableEq

/-- The length of a payload in its shortest form, which RFC 6455 demands; a frame
to the client has no mask. -/
def shortestLength (lenByte : Byte) (next : ℕ → Program Unit ServerFrame) :
    Program Unit ServerFrame :=
  if lenByte.toNat ≤ 125 then next lenByte.toNat
  else if lenByte.toNat = 126 then
    .readFull 2 fun field =>
      if 125 < bigEndianValue field then next (bigEndianValue field) else .fail (.failed ())
  else if lenByte.toNat = 127 then
    .readFull 8 fun field =>
      if 65535 < bigEndianValue field ∧ bigEndianValue field < 2 ^ 63 then
        next (bigEndianValue field)
      else .fail (.failed ())
  else .fail (.failed ())

/-- One frame; the reserved bits are zero. -/
def serverFrame : Program Unit ServerFrame :=
  .readByte fun header =>
    if header &&& 0x70 ≠ 0 then .fail (.failed ())
    else
      .readByte fun lenByte =>
        shortestLength lenByte fun length =>
          .readFull length fun payload =>
            .done ⟨decide (header &&& 0x80 ≠ 0), header &&& 0x0F, payload⟩

/-- The frames the bytes consist of, if they are complete frames. -/
def serverFrames (output : Bytes) : Option (List ServerFrame) :=
  if output = [] then some []
  else
    match hparse : serverFrame.parse .eof output with
    | .error _ => none
    | .ok (frame, rest) =>
        have : rest.length < output.length := Program.length_lt_of_parse_readByte hparse
        (serverFrames rest).map (frame :: ·)
termination_by output.length

theorem serverFrames_of_ok {output rest : Bytes} {frame : ServerFrame}
    (hparse : serverFrame.parse .eof output = .ok (frame, rest)) :
    serverFrames output = (serverFrames rest).map (frame :: ·) := by
  have hsome : output ≠ [] := by
    rintro rfl
    exact absurd (Program.length_lt_of_parse_readByte hparse) (Nat.not_lt_zero _)
  rw [serverFrames, if_neg hsome]
  split <;> simp_all

/-- The first frame of the result is the one at the front. -/
theorem parse_of_serverFrames {output : Bytes} {frame : ServerFrame}
    {frames : List ServerFrame} (hframes : serverFrames output = some (frame :: frames)) :
    ∃ rest, serverFrame.parse .eof output = .ok (frame, rest) := by
  rw [serverFrames] at hframes
  split at hframes
  · cases hframes
  · split at hframes
    · cases hframes
    · rename_i first rest hparse
      obtain ⟨others, -, heq⟩ := Option.map_eq_some_iff.mp hframes
      obtain ⟨rfl, -⟩ := List.cons.inj heq
      exact ⟨rest, hparse⟩

/-! ## The two encoders -/

/-- The bytes a call writes. -/
def encodeOutgoing : Outgoing → Bytes
  | .binary payload => binaryFrame payload
  | .pong payload => pongFrame payload

/-- The frame a call is meant to write. -/
def intended : Outgoing → ServerFrame
  | .binary payload => ⟨true, 0x02, payload⟩
  | .pong payload => ⟨true, 0x0A, payload⟩

/-- The shortest form for a length. -/
def shortestForm (length : ℕ) : LengthForm :=
  if length ≤ 125 then .seven else if length ≤ 65535 then .sixteen else .sixtyFour

/-- A frame with the length in the shortest form. -/
def shortestFrame (header : Byte) (payload : Bytes) : Bytes :=
  header :: UInt8.ofNat ((shortestForm payload.length).marker payload.length) ::
    ((shortestForm payload.length).field payload.length ++ payload)

theorem binaryFrame_eq (payload : Bytes) : binaryFrame payload = shortestFrame 0x82 payload := by
  rw [binaryFrame, shortestFrame, shortestForm]
  split_ifs <;> rfl

theorem pongFrame_eq {payload : Bytes} (hshort : payload.length ≤ 65535) :
    pongFrame payload = shortestFrame 0x8A payload := by
  rw [pongFrame, shortestFrame, shortestForm, if_pos hshort]
  split_ifs <;> rfl

theorem parse_shortestLength {length : ℕ} (hlength : length < 2 ^ 63)
    (next : ℕ → Program Unit ServerFrame) (rest : Bytes) :
    (shortestLength (UInt8.ofNat ((shortestForm length).marker length)) next).parse .eof
      ((shortestForm length).field length ++ rest) = (next length).parse .eof rest := by
  rw [shortestForm]
  split_ifs with hseven hsixteen
  · have hvalue : (UInt8.ofNat (LengthForm.seven.marker length)).toNat = length :=
      UInt8.toNat_ofNat_of_lt (Nat.lt_of_le_of_lt hseven (by decide))
    rw [shortestLength, hvalue, if_pos hseven]
    rfl
  · have hvalue : length < 256 ^ 2 := Nat.lt_of_le_of_lt hsixteen (by decide)
    change (Program.readFull 2 _).parse .eof (bigEndian 2 length ++ rest) = _
    rw [Program.parse_readFull_append (length_bigEndian 2 length),
      bigEndianValue_bigEndian_of_lt hvalue, if_pos (not_le.mp hseven)]
  · have hvalue : length < 256 ^ 8 := hlength.trans (by decide)
    change (Program.readFull 8 _).parse .eof (bigEndian 8 length ++ rest) = _
    rw [Program.parse_readFull_append (length_bigEndian 8 length),
      bigEndianValue_bigEndian_of_lt hvalue, if_pos ⟨not_le.mp hsixteen, hlength⟩]

/-- A frame in the shortest form is read back. -/
theorem parse_shortestFrame {header : Byte} (hreserved : header &&& 0x70 = 0) {payload : Bytes}
    (hlength : payload.length < 2 ^ 63) (rest : Bytes) :
    serverFrame.parse .eof (shortestFrame header payload ++ rest) =
      .ok (⟨decide (header &&& 0x80 ≠ 0), header &&& 0x0F, payload⟩, rest) := by
  rw [serverFrame, shortestFrame, List.cons_append, Program.parse_readByte_cons,
    if_neg (not_not.mpr hreserved), List.cons_append, Program.parse_readByte_cons,
    List.append_assoc, parse_shortestLength hlength, Program.parse_readFull_append rfl]
  rfl

/-- The answer to a longer ping declares fewer bytes than it carries. -/
theorem parse_pongFrame_oversized {payload : Bytes} (hlong : 65535 < payload.length)
    (rest rest' : Bytes) :
    serverFrame.parse .eof (pongFrame payload ++ rest) ≠
      .ok (intended (.pong payload), rest') := by
  have hframe : pongFrame payload = 0x8A :: 126 :: (bigEndian 2 payload.length ++ payload) := by
    rw [pongFrame, if_neg (by omega)]
    rfl
  have hdeclared : payload.length % 256 ^ 2 < payload.length :=
    (Nat.mod_lt _ (by decide)).trans_le hlong
  rw [serverFrame, hframe, List.cons_append, Program.parse_readByte_cons, if_neg (by decide),
    List.cons_append, Program.parse_readByte_cons]
  change (Program.readFull 2 _).parse .eof _ ≠ _
  rw [List.append_assoc, Program.parse_readFull_append (length_bigEndian 2 _),
    bigEndianValue_bigEndian]
  split
  · intro hparse
    have hcount : payload.length % 256 ^ 2 ≤ (payload ++ rest).length := by
      rw [List.length_append]
      omega
    rw [Program.parse, if_pos hcount, Program.parse, Except.ok.injEq, Prod.mk.injEq] at hparse
    have hpayload := congrArg (fun frame => frame.payload.length) hparse.1
    simp only [intended, List.length_take, List.length_append] at hpayload
    omega
  · intro hparse
    cases hparse

/-! ## The output of a run -/

/-- A payload given to `Write` is a slice. -/
def Sliced : Outgoing → Prop
  | .binary payload => payload.length < 2 ^ 63
  | .pong _ => True

/-- The answer to a ping knows the form its length needs. -/
def Fits : Outgoing → Prop
  | .binary _ => True
  | .pong payload => payload.length ≤ 65535

theorem parse_encodeOutgoing {call : Outgoing} (hsliced : Sliced call) (hfits : Fits call)
    (rest : Bytes) :
    serverFrame.parse .eof (encodeOutgoing call ++ rest) = .ok (intended call, rest) := by
  cases call with
  | binary payload =>
      rw [encodeOutgoing, binaryFrame_eq]
      exact parse_shortestFrame (by decide) hsliced rest
  | pong payload =>
      rw [encodeOutgoing, pongFrame_eq hfits]
      exact parse_shortestFrame (by decide) (Nat.lt_of_le_of_lt hfits (by decide)) rest

theorem fits_of_parse {call : Outgoing} {rest rest' : Bytes}
    (hparse : serverFrame.parse .eof (encodeOutgoing call ++ rest) =
      .ok (intended call, rest')) : Fits call := by
  cases call with
  | binary payload => trivial
  | pong payload =>
      apply not_lt.mp
      intro hlong
      exact parse_pongFrame_oversized hlong rest rest' hparse

/-- The frames of a log are read back exactly if each of them is. -/
theorem serverFrames_log {log : List Outgoing} (hsliced : ∀ call ∈ log, Sliced call) :
    serverFrames (log.flatMap encodeOutgoing) = some (log.map intended) ↔
      ∀ call ∈ log, Fits call := by
  induction log with
  | nil =>
      refine iff_of_true ?_ (List.forall_mem_nil _)
      rw [List.flatMap_nil, serverFrames, if_pos rfl]
      rfl
  | cons call log ih =>
      obtain ⟨hhead, htail⟩ := List.forall_mem_cons.mp hsliced
      rw [List.forall_mem_cons, ← ih htail, List.flatMap_cons, List.map_cons]
      constructor
      · intro hframes
        obtain ⟨rest, hparse⟩ := parse_of_serverFrames hframes
        have hfits := fits_of_parse hparse
        rw [serverFrames_of_ok (parse_encodeOutgoing hhead hfits _)] at hframes
        obtain ⟨others, hothers, heq⟩ := Option.map_eq_some_iff.mp hframes
        rw [(List.cons.inj heq).2] at hothers
        exact ⟨hfits, hothers⟩
      · rintro ⟨hfits, hrest⟩
        rw [serverFrames_of_ok (parse_encodeOutgoing hhead hfits _), hrest]
        rfl

/-- The output is what the calls of the log wrote. -/
structure Logged {State : Type*} (ws : WsConn State) : Prop where
  written : ws.written = ws.log.flatMap encodeOutgoing
  sliced : ∀ call ∈ ws.log, Sliced call

section Runs

variable {State Failure : Type*} {reader : Reader State Failure} {oversized : Failure}
variable {ws ws' : WsConn State}

theorem Logged.append {call : Outgoing} (hlogged : Logged ws) (hsliced : Sliced call)
    (hwritten : ws'.written = ws.written ++ encodeOutgoing call)
    (hlog : ws'.log = ws.log ++ [call]) : Logged ws' where
  written := by
    rw [hwritten, hlog, List.flatMap_append, List.flatMap_singleton, hlogged.written]
  sliced := by
    rw [hlog]
    intro other hother
    rcases List.mem_append.mp hother with hold | hnew
    · exact hlogged.sliced other hold
    · rw [List.mem_singleton.mp hnew]
      exact hsliced

/-- A round of the loop writes nothing, or answers a ping. -/
theorem logged_receive (hlogged : Logged ws) : Logged (receive reader oversized ws).2 := by
  rw [receive]
  split
  · exact ⟨hlogged.written, hlogged.sliced⟩
  · exact ⟨hlogged.written, hlogged.sliced⟩
  · rename_i opcode payload next _
    have hmoved : Logged { ws with input := next } := ⟨hlogged.written, hlogged.sliced⟩
    simp only [WsConn.accept]
    split
    · exact @Logged.append _ _ _ (.pong payload) hmoved trivial rfl rfl
    · split
      · exact ⟨hmoved.written, hmoved.sliced⟩
      · exact hmoved

theorem logged_step {action : Action} (hlogged : Logged ws)
    (hstep : step reader oversized ws action = some ws') : Logged ws' := by
  cases action with
  | write payload =>
      cases hstep
      exact @Logged.append _ _ _ (.binary payload.val) hlogged payload.property rfl rfl
  | receive =>
      simp only [step] at hstep
      split at hstep
      · cases hstep
        exact logged_receive hlogged
      · cases hstep
  | copyOut size =>
      cases hstep
      exact ⟨hlogged.written, hlogged.sliced⟩

theorem logged_of_reaches {input : State}
    (hreaches : Reaches (step reader oversized) (opened input) ws) : Logged ws := by
  have hstart : Logged (opened input) := ⟨rfl, List.forall_mem_nil _⟩
  exact Reaches.invariant hstart (fun _ _ _ => logged_step) hreaches

end Runs

/-- In every interleaving, the output is a sequence of complete frames that carry
the payloads written and the payloads of the pings answered, in the order of the
write sections, exactly if no ping longer than 65535 bytes has been answered. -/
theorem output_wellFormed_iff {State Failure : Type*} (reader : Reader State Failure)
    (oversized : Failure) (input : State) (ws : WsConn State)
    (hreaches : Reaches (step reader oversized) (opened input) ws) :
    serverFrames ws.written = some (ws.log.map intended) ↔
      ∀ payload, .pong payload ∈ ws.log → payload.length ≤ 65535 := by
  have hlogged := logged_of_reaches hreaches
  rw [hlogged.written, serverFrames_log hlogged.sliced]
  constructor
  · intro hfits payload hmem
    exact hfits _ hmem
  · intro hpings call hcall
    cases call with
    | binary payload => trivial
    | pong payload => exact hpings payload hcall

/-- A write, a text frame that is read, and a ping that is answered. -/
def exchange : List Action :=
  [.write ⟨[1, 2], by decide⟩, .receive, .copyOut 5, .receive]

theorem output_wellFormed_exchange : ∃ ws,
    Reaches (step (Segments.reader Unit) ()) (opened sampleConn.input) ws ∧
      serverFrames ws.written = some [⟨true, 0x02, [1, 2]⟩, ⟨true, 0x0A, [7]⟩] := by
  obtain ⟨ws, hreaches, hend⟩ := exists_reaches_of_run (step (Segments.reader Unit) ())
    (opened sampleConn.input) exchange
    (fun ws => ws.log = [.binary [1, 2], .pong [7]]) (by decide +kernel)
  have hlog := of_decide_eq_true hend
  have hwellFormed := output_wellFormed_iff (Segments.reader Unit) () sampleConn.input ws hreaches
  rw [hlog] at hwellFormed
  refine ⟨ws, hreaches, hwellFormed.mpr ?_⟩
  intro payload hmem
  obtain rfl : payload = [7] := by simpa using hmem
  decide

theorem ping_notClose : (0x89 : Byte) &&& 0x0F ≠ 0x08 := by decide

/-- A ping of 65536 bytes, which `Read` accepts. -/
def longPing : ClientFrame where
  header := 0x89
  mask := none
  form := .sixtyFour
  payload := List.replicate 65536 0
  notClose := ping_notClose
  fits := by
    rw [List.length_replicate]
    decide

def longPingInput : Segments Unit where
  segments := [longPing.encode]
  ending := .eof
  nonempty := by
    intro segment hsegment
    rw [List.mem_singleton.mp hsegment]
    exact List.cons_ne_nil _ _

/-- The answer to it is not read back as a pong with its payload. -/
theorem output_longPing : ∃ ws,
    Reaches (step (Segments.reader Unit) ()) (opened longPingInput) ws ∧
      ws.log = [.pong longPing.payload] ∧
      serverFrames ws.written ≠ some (ws.log.map intended) := by
  have hinput : (Segments.reader Unit).contents longPingInput = longPing.encode ++ [] := rfl
  have hparse := parse_encode () ((Segments.reader Unit).final longPingInput) longPing []
  rw [← hinput] at hparse
  obtain ⟨next, -, -, hreceive⟩ := @receive_of_frame _ _ (Segments.reader Unit) ()
    (opened longPingInput) _ _ _ hparse
  have hlong : ¬ Fits (.pong longPing.payload) := by
    change ¬ (List.replicate 65536 (0 : Byte)).length ≤ 65535
    rw [List.length_replicate]
    decide
  have hstep : step (Segments.reader Unit) () (opened longPingInput) .receive =
      some ({ opened longPingInput with input := next }.writePong longPing.payload) := by
    change some (receive (Segments.reader Unit) () (opened longPingInput)).2 = _
    rw [hreceive]
    rfl
  refine ⟨_, .single ⟨.receive, hstep⟩, rfl, ?_⟩
  intro hframes
  have hfits := (@serverFrames_log [.pong longPing.payload]
    (List.forall_mem_singleton.mpr trivial)).mp
      (by rwa [List.flatMap_singleton])
  exact hlong (List.forall_mem_singleton.mp hfits)

end ZeroFeed.WebSocketOutput
