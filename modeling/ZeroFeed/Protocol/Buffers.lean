import ZeroFeed.Core.Slices
import ZeroFeed.Protocol.Envelope

/-!
# Frames and padding in buffers (`Encode`, `PadPayload`, `UnpadPayload`)

`Envelope` describes frames and padded payloads as values.  The code writes them
into buffers: a frame into one that came from a pool and still holds an earlier
frame, a padded payload into one filled with zeros.  Both agree with the values, so
nothing of an earlier frame is ever sent.

Lengths are converted to `uint32` where the code does it.  That decides which
payloads are refused as too large, and that unpadding stays inside its input.
-/

namespace ZeroFeed.Buffers

open ZeroFeed.ByteString
open ZeroFeed.Envelope
open ZeroFeed.Messages
open ZeroFeed.Slices

/-! ## Encoding -/

/-- `SerializeHeader` writes the fields at their places; the buffer has room for them. -/
def serializeHeader (buf : Bytes) (version msgType : Byte) (sessionID : SessionID)
    (nonce : Nonce) (payloadLen : ℕ) : Bytes :=
  let buf := copyInto buf 0 magicHeader.val
  let buf := copyInto buf 4 [version]
  let buf := copyInto buf 5 [msgType]
  let buf := copyInto buf 6 sessionID.val
  let buf := copyInto buf 22 nonce.val
  copyInto buf 34 (putUint32 payloadLen).val

def poolBufferSize : ℕ := 64 * 1024

/-- An `io.Writer`: how much was written and the error.  Fewer bytes than given come with
an error. -/
structure Writer (WriteError : Type*) where
  write : Bytes → ℕ × Option WriteError
  complete : ∀ data, (write data).2 = none → (write data).1 = data.length

inductive EncodeError (WriteError : Type*) where
  | payloadTooLarge
  | writeFailed (err : WriteError)

variable {WriteError : Type*}

/-- The buffer `Encode` fills.  A pooled one still holds what was written last. -/
def frameBuffer (pooled : FixedBytes poolBufferSize) (fullSize : ℕ) : Bytes :=
  if fullSize ≤ poolBufferSize then pooled.val.take fullSize else List.replicate fullSize 0

/-- Header and payload written into the buffer. -/
def fillBuffer (buf : Bytes) (env : Envelope) (payloadLen : ℕ) : Bytes :=
  let buf := serializeHeader buf env.version env.msgType env.sessionID env.nonce payloadLen
  if 0 < payloadLen then copyInto buf headerSize env.payload else buf

/-- `Encode`, with the bytes that reach the writer. -/
def encode (writer : Writer WriteError) (pooled : FixedBytes poolBufferSize) (env : Envelope) :
    Except (EncodeError WriteError) Unit × Bytes :=
  let payloadLen := env.payload.length % 2 ^ 32
  if maxPayloadSize < payloadLen then (.error .payloadTooLarge, [])
  else
    let fullSize := headerSize + payloadLen
    let buf := fillBuffer (frameBuffer pooled fullSize) env payloadLen
    match writer.write buf with
    | (count, some err) => (.error (.writeFailed err), buf.take count)
    | (count, none) => (.ok (), buf.take count)

@[simp]
theorem length_frameBuffer (pooled : FixedBytes poolBufferSize) (fullSize : ℕ) :
    (frameBuffer pooled fullSize).length = fullSize := by
  rw [frameBuffer]
  split_ifs with hsize
  · rw [List.length_take, pooled.property, min_eq_left hsize]
  · rw [List.length_replicate]

theorem serializeHeader_eq {buf : Bytes} (hbuf : headerSize ≤ buf.length)
    (version msgType : Byte) (sessionID : SessionID) (nonce : Nonce) (payloadLen : ℕ) :
    serializeHeader buf version msgType sessionID nonce payloadLen =
      Messages.serializeHeader version msgType sessionID nonce payloadLen ++
        buf.drop headerSize := by
  have hmagic : magicHeader.val.length = 4 := magicHeader.property
  have hsession : sessionID.val.length = 16 := sessionID.property
  have hnonce : nonce.val.length = 12 := nonce.property
  have hlen : (putUint32 payloadLen).val.length = 4 := (putUint32 payloadLen).property
  have hroom : 38 ≤ buf.length := hbuf
  -- every field starts where the one before it ends
  have hheader : serializeHeader buf version msgType sessionID nonce payloadLen =
      copyInto buf 0 (Messages.serializeHeader version msgType sessionID nonce payloadLen) := by
    rw [serializeHeader, copyInto_copyInto, copyInto_copyInto, copyInto_copyInto,
      copyInto_copyInto, copyInto_copyInto, Messages.serializeHeader]
    all_goals simp only [length_copyInto, List.length_append, List.length_singleton, hmagic,
      hsession, hnonce, hlen]
    all_goals omega
  rw [hheader, copyInto_of_le (by rw [length_serializeHeader, Nat.zero_add]; exact hbuf),
    length_serializeHeader, Nat.zero_add, List.take_zero, List.nil_append]

/-- The payload is copied as far as the buffer reaches. -/
theorem copyInto_payload {header rest payload : Bytes} (hheader : header.length = headerSize)
    (hrest : rest.length ≤ payload.length) :
    copyInto (header ++ rest) headerSize payload = header ++ payload.take rest.length := by
  have hroom : (header ++ rest).length - headerSize = rest.length := by
    rw [List.length_append, hheader, Nat.add_sub_cancel_left]
  have hbehind : (header ++ rest).drop (headerSize + payload.length) = [] := by
    apply List.drop_eq_nil_of_le
    rw [List.length_append, hheader]
    omega
  rw [copyInto, List.take_left' hheader, hroom, hbehind, List.append_nil]

/-- Nothing is left of what the buffer held. -/
theorem fillBuffer_eq {buf : Bytes} {env : Envelope} {payloadLen : ℕ}
    (hbuf : buf.length = headerSize + payloadLen) (hpayload : payloadLen ≤ env.payload.length) :
    fillBuffer buf env payloadLen =
      Messages.serializeHeader env.version env.msgType env.sessionID env.nonce payloadLen ++
        env.payload.take payloadLen := by
  have hrest : (buf.drop headerSize).length = payloadLen := by
    rw [List.length_drop, hbuf, Nat.add_sub_cancel_left]
  rw [fillBuffer, serializeHeader_eq (by omega)]
  split_ifs with hpos
  · rw [copyInto_payload (length_serializeHeader ..) (by rw [hrest]; exact hpayload), hrest]
  · obtain rfl : payloadLen = 0 := by omega
    rw [List.length_eq_zero_iff.mp hrest, List.take_zero]

/-- The whole of `Encode`: the frame of `Envelope.encode` in one `Write`. -/
theorem encode_eq (writer : Writer WriteError) (pooled : FixedBytes poolBufferSize)
    (env : Envelope) :
    encode writer pooled env =
      match Envelope.encode env with
      | .error _ => (.error .payloadTooLarge, [])
      | .ok frame =>
          match writer.write frame with
          | (count, some err) => (.error (.writeFailed err), frame.take count)
          | (count, none) => (.ok (), frame.take count) := by
  have hfill := @fillBuffer_eq _ env _
    (length_frameBuffer pooled (headerSize + env.payload.length % 2 ^ 32)) (Nat.mod_le _ _)
  simp only [encode, Envelope.encode, hfill]
  split_ifs <;> rfl

/-! ## The size limit -/

section SizeLimit

variable (writer : Writer WriteError) (pooled : FixedBytes poolBufferSize) (env : Envelope)

theorem encode_payloadTooLarge_iff :
    (encode writer pooled env).1 = .error .payloadTooLarge ↔
      maxPayloadSize < env.payload.length % 2 ^ 32 := by
  simp only [encode]
  split_ifs with hlarge
  · exact iff_of_true rfl hlarge
  · apply iff_of_false _ hlarge
    split <;> simp

variable {writer pooled env}

/-- A call without an error has written the whole frame. -/
theorem written_of_encode (hencode : (encode writer pooled env).1 = .ok ()) :
    Envelope.encode env = .ok (encode writer pooled env).2 := by
  rw [encode_eq] at hencode ⊢
  cases hframe : Envelope.encode env with
  | error err =>
      rw [hframe] at hencode
      cases hencode
  | ok frame =>
      have hcomplete := writer.complete frame
      cases hwrite : writer.write frame with
      | mk count failed =>
          rw [hwrite] at hcomplete
          cases failed with
          | some err =>
              simp only [hframe, hwrite] at hencode
              cases hencode
          | none =>
              have hcount : count = frame.length := hcomplete rfl
              simp only [hwrite, hcount, List.take_length]

theorem declaredLen_of_encode {frame : Bytes} (hframe : Envelope.encode env = .ok frame) :
    declaredLen frame = env.payload.length % 2 ^ 32 ∧
      frame.drop headerSize = env.payload.take (env.payload.length % 2 ^ 32) := by
  rw [Envelope.encode] at hframe
  split_ifs at hframe with hlarge
  obtain rfl := Except.ok.inj hframe
  have hheader := length_serializeHeader env.version env.msgType env.sessionID env.nonce
    (env.payload.length % 2 ^ 32)
  refine ⟨?_, List.drop_left' hheader⟩
  have hfield : 34 ≤ (Messages.serializeHeader env.version env.msgType env.sessionID env.nonce
      (env.payload.length % 2 ^ 32)).length := by
    rw [hheader]
    decide
  rw [declaredLen, List.drop_append_of_le_length hfield, drop_length_serializeHeader,
    List.take_left' (putUint32 _).property]
  exact bigEndianValue_bigEndian_of_lt (Nat.mod_lt _ (by decide))

/-- The limit is compared with the length modulo `2 ^ 32`.  So the limit holds for a payload,
and a frame written without error carries all of it under its length, exactly if the
length fits 32 bits or what remains of it is refused. -/
theorem sizeLimit_iff (writer : Writer WriteError) (pooled : FixedBytes poolBufferSize)
    (env : Envelope) :
    (((encode writer pooled env).1 = .error .payloadTooLarge ↔
        maxPayloadSize < env.payload.length) ∧
      ((encode writer pooled env).1 = .ok () →
        declaredLen (encode writer pooled env).2 = env.payload.length ∧
          (encode writer pooled env).2.drop headerSize = env.payload)) ↔
      env.payload.length < 2 ^ 32 ∨ maxPayloadSize < env.payload.length % 2 ^ 32 := by
  rw [encode_payloadTooLarge_iff]
  constructor
  · rintro ⟨hlimit, -⟩
    rcases lt_or_ge env.payload.length (2 ^ 32) with hfits | hbig
    · exact .inl hfits
    · have hlarge : maxPayloadSize < 2 ^ 32 := by decide
      exact .inr (hlimit.mpr (hlarge.trans_le hbig))
  · intro hcases
    refine ⟨?_, ?_⟩
    · rcases hcases with hfits | hlarge
      · rw [Nat.mod_eq_of_lt hfits]
      · exact iff_of_true hlarge (hlarge.trans_le (Nat.mod_le _ _))
    · intro hencode
      have hframe := declaredLen_of_encode (written_of_encode hencode)
      have haccepted : ¬ maxPayloadSize < env.payload.length % 2 ^ 32 := by
        rw [← encode_payloadTooLarge_iff writer pooled env, hencode]
        simp
      rw [Nat.mod_eq_of_lt (hcases.resolve_right haccepted), List.take_length] at hframe
      exact hframe

/-- A writer that takes everything. -/
def acceptAll : Writer Empty where
  write data := (data.length, none)
  complete _ _ := rfl

/-- What `framePool` makes when it is empty. -/
def newPoolBuffer : FixedBytes poolBufferSize :=
  ⟨List.replicate poolBufferSize 0, List.length_replicate⟩

/-- A message of `n` zero bytes. -/
def zeros (n : ℕ) : Envelope where
  version := 2
  msgType := 1
  sessionID := copyFixed sessionIDSize []
  nonce := copyFixed nonceSize []
  payload := List.replicate n 0

theorem encode_acceptAll {env : Envelope} {frame : Bytes} (pooled : FixedBytes poolBufferSize)
    (hframe : Envelope.encode env = .ok frame) :
    encode acceptAll pooled env = (.ok (), frame) := by
  rw [encode_eq, hframe]
  simp only [acceptAll, List.take_length]

/-- A payload of 4 GiB is accepted.  The frame on the wire is an empty message. -/
theorem encode_zeros_wraps :
    maxPayloadSize < (zeros (2 ^ 32)).payload.length ∧
      (encode acceptAll newPoolBuffer (zeros (2 ^ 32))).1 = .ok () ∧
      declaredLen (encode acceptAll newPoolBuffer (zeros (2 ^ 32))).2 = 0 ∧
      (encode acceptAll newPoolBuffer (zeros (2 ^ 32))).2.drop headerSize = [] := by
  have hlength : (zeros (2 ^ 32)).payload.length = 2 ^ 32 := List.length_replicate
  obtain ⟨frame, hframe⟩ : ∃ frame, Envelope.encode (zeros (2 ^ 32)) = .ok frame := by
    rw [Envelope.encode, hlength]
    exact ⟨_, if_neg (by decide)⟩
  have hfields := declaredLen_of_encode hframe
  rw [hlength, Nat.mod_self, List.take_zero] at hfields
  rw [encode_acceptAll newPoolBuffer hframe]
  refine ⟨?_, rfl, hfields⟩
  rw [hlength]
  decide

end SizeLimit

/-! ## Padding -/

/-- `PadPayload` fills a buffer of zeros. -/
def padPayload (data : Bytes) (targetSize : ℤ) : Bytes :=
  let realLen := data.length
  let needed := realLen + lenPrefixSize
  let targetSize := if (needed : ℤ) > targetSize then (needed : ℤ) else targetSize
  let out := List.replicate targetSize.toNat 0
  let out := copyInto out 0 (putUint32 realLen).val
  if 0 < realLen then copyInto out lenPrefixSize data else out

/-- `UnpadPayload`.  The guard adds in 64 bits, the bound of the slice in 32. -/
def unpadPayload (data : Bytes) : Except FrameError Bytes :=
  if data.length < lenPrefixSize then .error .invalidPadding
  else
    let realLen := bigEndianValue (data.take lenPrefixSize)
    if data.length < realLen + lenPrefixSize then .error .invalidPadding
    else
      match slice data lenPrefixSize ((lenPrefixSize + realLen) % 2 ^ 32) with
      | none => .error .sliceOutOfRange
      | some payload => .ok payload

theorem padPayload_eq (data : Bytes) (targetSize : ℤ) :
    padPayload data targetSize = Envelope.padPayload data targetSize := by
  have hlen : (putUint32 data.length).val.length = lenPrefixSize :=
    (putUint32 data.length).property
  -- an empty payload is not copied, which makes no difference
  have hcopy : ∀ out : Bytes,
      (if 0 < data.length then copyInto out lenPrefixSize data else out) =
        copyInto out lenPrefixSize data := by
    intro out
    split_ifs with hpos
    · rfl
    · rw [List.length_eq_zero_iff.mp (by omega : data.length = 0), copyInto_nil]
  have hfill : ∀ size, data.length + lenPrefixSize ≤ size →
      copyInto (copyInto (List.replicate size 0) 0 (putUint32 data.length).val) lenPrefixSize
          data =
        (putUint32 data.length).val ++ data ++
          List.replicate (size - (data.length + lenPrefixSize)) 0 := by
    intro size hsize
    have hroom : 0 + ((putUint32 data.length).val ++ data).length ≤
        (List.replicate size (0 : Byte)).length := by
      rw [List.length_append, List.length_replicate, hlen]
      omega
    rw [copyInto_copyInto (by rw [hlen, Nat.zero_add]) hroom, copyInto_of_le hroom,
      List.take_zero, List.nil_append, List.drop_replicate, List.length_append, hlen,
      Nat.zero_add, Nat.add_comm lenPrefixSize]
  simp only [padPayload, Envelope.padPayload, hcopy]
  split_ifs with hneeded
  · rw [hfill _ (by omega), Int.toNat_natCast]
  · exact hfill _ (by omega)

theorem unpadPayload_eq (data : Bytes) : unpadPayload data = Envelope.unpadPayload data := by
  simp only [unpadPayload, Envelope.unpadPayload]
  split_ifs with hshort hlong hrange
  · rfl
  · rfl
  · rw [slice, if_neg (by omega)]
  · rw [slice, if_pos ⟨by omega, (Nat.mod_le _ _).trans (by omega)⟩]

/-- Below `2 ^ 32` bytes the guard keeps the 32-bit sum from wrapping. -/
theorem unpadPayload_of_lt {data : Bytes} (hdata : data.length < 2 ^ 32) :
    unpadPayload data =
      if lenPrefixSize ≤ data.length ∧
          bigEndianValue (data.take lenPrefixSize) ≤ data.length - lenPrefixSize then
        .ok ((data.drop lenPrefixSize).take (bigEndianValue (data.take lenPrefixSize)))
      else .error .invalidPadding := by
  simp only [unpadPayload]
  by_cases hshort : data.length < lenPrefixSize
  · rw [if_pos hshort, if_neg (by omega)]
  · rw [if_neg hshort]
    by_cases hlong : data.length <
        bigEndianValue (data.take lenPrefixSize) + lenPrefixSize
    · rw [if_pos hlong, if_neg (by omega)]
    · have hend : (lenPrefixSize + bigEndianValue (data.take lenPrefixSize)) % 2 ^ 32 =
          lenPrefixSize + bigEndianValue (data.take lenPrefixSize) := by
        apply Nat.mod_eq_of_lt
        omega
      rw [if_neg hlong, if_pos ⟨by omega, by omega⟩, hend, slice,
        if_pos ⟨by omega, by omega⟩, List.drop_take, Nat.add_sub_cancel_left]

/-- Padding has the announced length and unpadding inverts it.  On other inputs below
`2 ^ 32` bytes unpadding never leaves its input, and it accepts exactly those whose
first four bytes announce no more than follows them. -/
theorem padding_exact :
    (∀ (data : Bytes) (targetSize : ℤ), data.length < 2 ^ 32 - 4 →
      ((padPayload data targetSize).length : ℤ) = max targetSize (data.length + 4) ∧
        unpadPayload (padPayload data targetSize) = .ok data) ∧
    ∀ b : Bytes, b.length < 2 ^ 32 →
      unpadPayload b ≠ .error .sliceOutOfRange ∧
        ((∃ payload, unpadPayload b = .ok payload) ↔
          4 ≤ b.length ∧ bigEndianValue (b.take 4) ≤ b.length - 4) := by
  refine ⟨?_, ?_⟩
  · intro data targetSize hdata
    rw [padPayload_eq, unpadPayload_eq]
    exact ⟨length_padPayload data targetSize, unpadPayload_padPayload targetSize hdata⟩
  · intro b hb
    rw [unpadPayload_of_lt hb]
    split_ifs with haccepted
    · exact ⟨by simp, iff_of_true ⟨_, rfl⟩ haccepted⟩
    · exact ⟨by simp, iff_of_false (by simp) haccepted⟩

/-- One byte more than fits the bucket of 1280, and a length field that announces more than
there is. -/
theorem padding_exact_samples :
    ((padPayload (List.replicate 1277 7) 1280).length : ℤ) = max 1280 (1277 + 4) ∧
      unpadPayload (padPayload (List.replicate 1277 7) 1280) = .ok (List.replicate 1277 7) ∧
      unpadPayload [0, 0, 0, 2, 5] ≠ .error .sliceOutOfRange := by
  have hlength : (List.replicate 1277 (7 : Byte)).length = 1277 := List.length_replicate
  obtain ⟨hpad, hunpad⟩ := padding_exact.1 (List.replicate 1277 7) 1280
    (by rw [hlength]; decide)
  rw [hlength] at hpad
  exact ⟨hpad, hunpad, (padding_exact.2 [0, 0, 0, 2, 5] (by decide)).1⟩

end ZeroFeed.Buffers
