import ZeroFeed.Core.ShortReads
import ZeroFeed.Feed.Listener

/-!
# Frames on a byte stream (`pkg/protocol/envelope.go`)

`Protocol/Envelope.lean` decodes a frame from a byte string.  Here `DecodeWithMax`
runs over a reader that may deliver the same bytes in any pieces, and is shown
to return what the byte-level decoder returns.  On top of it stand the round
trip of a whole stream of frames and the exact set of byte strings the decoder
accepts.
-/

namespace ZeroFeed.Stream

open ZeroFeed.ByteString
open ZeroFeed.Messages
open ZeroFeed.ShortReads
open ZeroFeed.Envelope (FrameError maxPayloadSize Decodable encode encode_of_decodable
  declaredLen decodeWithMax_encode)
open ZeroFeed.Listener (checkHeader envelopeOf decodeWithMax_header)

/-- An error of `DecodeWithMax`: the reader failed in the header or in a payload
of the declared length, or the header was refused. -/
inductive DecodeError (Failure : Type*) where
  | header (err : ReadError Failure)
  | frame (err : FrameError)
  | payload (declared : ℕ) (err : ReadError Failure)
  deriving DecidableEq

section Decoder

variable {State Failure : Type*} (reader : Reader State Failure)

def decodeWithMax (state : State) (maxPayload : ℕ) :
    Except (DecodeError Failure) Envelope × State :=
  match reader.readFull state headerSize with
  | (.error err, next) => (.error (.header err), next)
  | (.ok headerBuf, next) =>
      match checkHeader headerBuf maxPayload with
      | .error err => (.error (.frame err), next)
      | .ok payloadLen =>
          match reader.readFull next payloadLen with
          | (.error err, last) => (.error (.payload payloadLen err), last)
          | (.ok payload, last) => (.ok (envelopeOf headerBuf payload), last)

/-- `count` calls one after the other, up to the first that fails.  `Decode` is
the bound `maxPayloadSize`. -/
def decodeMany (maxPayload : ℕ) : ℕ → State →
    Except (DecodeError Failure) (List Envelope) × State
  | 0, state => (.ok [], state)
  | count + 1, state =>
      match decodeWithMax reader state maxPayload with
      | (.error err, next) => (.error err, next)
      | (.ok env, next) =>
          match decodeMany maxPayload count next with
          | (.error err, last) => (.error err, last)
          | (.ok frames, last) => (.ok (env :: frames), last)

end Decoder

/-! ## From byte strings to readers -/

/-- The error a reader with these contents produces where the byte-level decoder
reports `err`. -/
def DecodeError.ofFrame {Failure : Type*} (final : ReadError Failure) (input : Bytes) :
    FrameError → DecodeError Failure
  | .eof => .header (final.afterPartial input)
  | .unexpectedEOF => .header (final.afterPartial input)
  | .payloadRead declared =>
      .payload declared (final.afterPartial (input.drop headerSize))
  | err => .frame err

theorem checkHeader_error {Failure : Type*} {headerBuf : Bytes} {maxPayload : ℕ}
    {err : FrameError} (hcheck : checkHeader headerBuf maxPayload = .error err)
    (final : ReadError Failure) (input : Bytes) :
    DecodeError.ofFrame final input err = .frame err := by
  simp only [checkHeader] at hcheck
  split_ifs at hcheck <;> cases hcheck <;> rfl

section Refinement

variable {State Failure : Type*} (reader : Reader State Failure) (state : State)
variable (maxPayload : ℕ)

/-- However short the reads, the reader-level decoder returns the envelope of
the byte-level one and leaves exactly the bytes that one leaves; where that one
fails, it fails with the corresponding error. -/
theorem decodeWithMax_refines :
    match Envelope.decodeWithMax (reader.contents state) maxPayload with
    | (.ok env, rest) => ∃ next, decodeWithMax reader state maxPayload = (.ok env, next) ∧
        reader.contents next = rest ∧ reader.final next = reader.final state
    | (.error err, _) => ∃ next, decodeWithMax reader state maxPayload =
        (.error (.ofFrame (reader.final state) (reader.contents state) err), next) := by
  by_cases hshort : (reader.contents state).length < headerSize
  · obtain ⟨next, hread⟩ := reader.readFull_of_lt hshort
    have hbytes : Envelope.decodeWithMax (reader.contents state) maxPayload =
        (.error (if reader.contents state = [] then .eof else .unexpectedEOF), []) := by
      rw [Envelope.decodeWithMax, if_pos hshort]
    rw [hbytes, decodeWithMax, hread]
    refine ⟨next, ?_⟩
    split_ifs <;> rfl
  · obtain ⟨next, hread, hrest, hfinal⟩ := reader.readFull_of_le (not_lt.mp hshort)
    have hheader : ((reader.contents state).take headerSize).length = headerSize :=
      List.length_take_of_le (not_lt.mp hshort)
    have hsplit := decodeWithMax_header hheader ((reader.contents state).drop headerSize)
      maxPayload
    rw [List.take_append_drop] at hsplit
    rw [hsplit, decodeWithMax, hread]
    cases hcheck : checkHeader ((reader.contents state).take headerSize) maxPayload with
    | error err =>
        simp only [hcheck, checkHeader_error hcheck]
        exact ⟨next, rfl⟩
    | ok payloadLen =>
        simp only [hcheck]
        by_cases hpayload : ((reader.contents state).drop headerSize).length < payloadLen
        · obtain ⟨last, hfail⟩ := reader.readFull_of_lt (hrest.symm ▸ hpayload)
          rw [if_pos hpayload, hfail, hfinal, hrest]
          exact ⟨last, rfl⟩
        · obtain ⟨last, hbody, hlast, hend⟩ :=
            reader.readFull_of_le (hrest.symm ▸ not_lt.mp hpayload)
          rw [if_neg hpayload, hbody, hrest]
          exact ⟨last, rfl, by rw [hlast, hrest], hend.trans hfinal⟩

variable {reader state maxPayload}

theorem decodeWithMax_of_ok {env : Envelope} {rest : Bytes}
    (hbytes : Envelope.decodeWithMax (reader.contents state) maxPayload = (.ok env, rest)) :
    ∃ next, decodeWithMax reader state maxPayload = (.ok env, next) ∧
      reader.contents next = rest ∧ reader.final next = reader.final state := by
  have hrefines := decodeWithMax_refines reader state maxPayload
  rw [hbytes] at hrefines
  exact hrefines

theorem decodeWithMax_of_error {err : FrameError} {rest : Bytes}
    (hbytes : Envelope.decodeWithMax (reader.contents state) maxPayload =
      (.error err, rest)) :
    ∃ next, decodeWithMax reader state maxPayload =
      (.error (.ofFrame (reader.final state) (reader.contents state) err), next) := by
  have hrefines := decodeWithMax_refines reader state maxPayload
  rw [hbytes] at hrefines
  exact hrefines

end Refinement

/-- Successive calls see nothing of a reader but its contents and how they
end. -/
theorem decodeMany_congr {State State' Failure : Type*} {reader : Reader State Failure}
    {reader' : Reader State' Failure} {state : State} {state' : State'} {maxPayload : ℕ}
    (count : ℕ) (hcontents : reader.contents state = reader'.contents state')
    (hfinal : reader.final state = reader'.final state') :
    (decodeMany reader maxPayload count state).1 =
      (decodeMany reader' maxPayload count state').1 := by
  induction count generalizing state state' with
  | zero => rfl
  | succ count ih =>
      rw [decodeMany, decodeMany]
      cases hbytes : Envelope.decodeWithMax (reader.contents state) maxPayload with
      | mk result rest =>
          have hbytes' := hbytes
          rw [hcontents] at hbytes'
          cases result with
          | error err =>
              obtain ⟨next, hleft⟩ := decodeWithMax_of_error hbytes
              obtain ⟨next', hright⟩ := decodeWithMax_of_error hbytes'
              rw [hleft, hright, hcontents, hfinal]
          | ok env =>
              obtain ⟨next, hdecode, hnext, hend⟩ := decodeWithMax_of_ok hbytes
              obtain ⟨next', hdecode', hnext', hend'⟩ := decodeWithMax_of_ok hbytes'
              have hrest := ih (hnext.trans hnext'.symm)
                (hend.trans (hfinal.trans hend'.symm))
              rw [hdecode, hdecode']
              dsimp only
              cases hmany : decodeMany reader maxPayload count next with
              | mk result last =>
                  cases hmany' : decodeMany reader' maxPayload count next' with
                  | mk result' last' =>
                      rw [hmany, hmany'] at hrest
                      cases hrest
                      cases result with
                      | error err => rfl
                      | ok frames => rfl

/-! ## Round trip of a stream -/

section RoundTrip

variable {State Failure : Type*} {reader : Reader State Failure}

/-- The frames and what `Encode` writes for each of them. -/
abbrev Encoded (frames : List Envelope) (outputs : List Bytes) : Prop :=
  List.Forall₂ (fun env bytes => encode env = .ok bytes) frames outputs

theorem exists_encoded {frames : List Envelope} (hframes : ∀ env ∈ frames, Decodable env) :
    ∃ outputs, Encoded frames outputs := by
  refine ⟨frames.map Listener.written, ?_⟩
  rw [Encoded, List.forall₂_map_right_iff, List.forall₂_same]
  intro env henv
  simp [Listener.written, encode_of_decodable (hframes env henv)]

/-- The frames before the first whose payload exceeds the bound. -/
def admitted (maxPayload : ℕ) (frames : List Envelope) : List Envelope :=
  frames.takeWhile fun env => env.payload.length ≤ maxPayload

theorem admitted_cons (maxPayload : ℕ) (env : Envelope) (frames : List Envelope) :
    admitted maxPayload (env :: frames) =
      if env.payload.length ≤ maxPayload then env :: admitted maxPayload frames else [] := by
  simp [admitted, List.takeWhile_cons]

/-- Calls that stay in front of the first frame above the bound return the
frames one by one, each with exactly its bytes. -/
theorem decodeMany_take {frames : List Envelope} {outputs : List Bytes} {maxPayload : ℕ}
    (hframes : ∀ env ∈ frames, Decodable env) (houtputs : Encoded frames outputs)
    {state : State} (hcontents : reader.contents state = outputs.flatten) {count : ℕ}
    (hcount : count ≤ (admitted maxPayload frames).length) :
    ∃ next, decodeMany reader maxPayload count state = (.ok (frames.take count), next) ∧
      reader.contents next = (outputs.drop count).flatten ∧
      reader.final next = reader.final state := by
  induction houtputs generalizing state count with
  | nil =>
      obtain rfl : count = 0 := Nat.le_zero.mp hcount
      exact ⟨state, rfl, hcontents, rfl⟩
  | @cons env bytes frames outputs hencode houtputs ih =>
      cases count with
      | zero => exact ⟨state, rfl, hcontents, rfl⟩
      | succ count =>
          obtain ⟨henv, hrest⟩ := List.forall_mem_cons.mp hframes
          by_cases hfits : env.payload.length ≤ maxPayload
          · have hbytes := decodeWithMax_encode henv hencode outputs.flatten maxPayload
            rw [if_neg (not_lt.mpr hfits), ← List.flatten_cons, ← hcontents] at hbytes
            obtain ⟨next, hdecode, hnext, hfinal⟩ := decodeWithMax_of_ok hbytes
            rw [admitted_cons, if_pos hfits, List.length_cons, Nat.add_le_add_iff_right]
              at hcount
            obtain ⟨last, hmany, hlast, hend⟩ := ih hrest hnext hcount
            refine ⟨last, ?_, hlast, hend.trans hfinal⟩
            rw [decodeMany, hdecode]
            dsimp only
            rw [hmany, List.take_succ_cons]
          · rw [admitted_cons, if_neg hfits] at hcount
            cases hcount

theorem decodeMany_error {maxPayload : ℕ} {state : State} {err : DecodeError Failure}
    (hdecode : ∃ next, decodeWithMax reader state maxPayload = (.error err, next))
    (count : ℕ) : (decodeMany reader maxPayload (count + 1) state).1 = .error err := by
  obtain ⟨next, hdecode⟩ := hdecode
  rw [decodeMany, hdecode]

/-- The next call meets the end of the stream or the first frame above the
bound. -/
theorem decodeMany_admitted {frames : List Envelope} {outputs : List Bytes} {maxPayload : ℕ}
    (hframes : ∀ env ∈ frames, Decodable env) (houtputs : Encoded frames outputs)
    {state : State} (hcontents : reader.contents state = outputs.flatten)
    (hfinal : reader.final state = .eof) :
    (decodeMany reader maxPayload ((admitted maxPayload frames).length + 1) state).1 =
      .error (if admitted maxPayload frames = frames then .header .eof
        else .frame .payloadTooLarge) := by
  induction houtputs generalizing state with
  | nil =>
      have hbytes : Envelope.decodeWithMax (reader.contents state) maxPayload =
          (.error .eof, []) := by
        rw [hcontents]
        rfl
      have hdecode := decodeWithMax_of_error hbytes
      rw [hfinal, hcontents] at hdecode
      exact decodeMany_error hdecode 0
  | @cons env bytes frames outputs hencode houtputs ih =>
      obtain ⟨henv, hrest⟩ := List.forall_mem_cons.mp hframes
      have hbytes := decodeWithMax_encode henv hencode outputs.flatten maxPayload
      rw [← List.flatten_cons, ← hcontents] at hbytes
      rw [admitted_cons]
      by_cases hfits : env.payload.length ≤ maxPayload
      · rw [if_neg (not_lt.mpr hfits)] at hbytes
        obtain ⟨next, hdecode, hnext, hend⟩ := decodeWithMax_of_ok hbytes
        have hlater := ih hrest hnext (hend.trans hfinal)
        rw [if_pos hfits, List.length_cons, decodeMany, hdecode]
        dsimp only
        cases hmany : decodeMany reader maxPayload
            ((admitted maxPayload frames).length + 1) next with
        | mk result last =>
            rw [hmany] at hlater
            subst hlater
            simp
      · rw [if_pos (not_le.mp hfits)] at hbytes
        rw [if_neg hfits, if_neg (List.cons_ne_nil env frames).symm]
        exact decodeMany_error (decodeWithMax_of_error hbytes) 0

theorem admitted_maxPayloadSize {frames : List Envelope}
    (hframes : ∀ env ∈ frames, Decodable env) : admitted maxPayloadSize frames = frames := by
  rw [admitted, List.takeWhile_eq_self_iff]
  intro env henv
  exact decide_eq_true (hframes env henv).payload_le

variable (reader)

/-- Frames that can be encoded come back from any reader that delivers their
encodings, one for each call of `Decode`, which takes exactly the bytes of that
frame; the call after the last one reports the end of input.  A smaller bound
changes this only at the first frame that exceeds it. -/
theorem decodeMany_encode {frames : List Envelope}
    (hframes : ∀ env ∈ frames, Decodable env) :
    ∃ outputs, Encoded frames outputs ∧ ∀ state : State,
      reader.contents state = outputs.flatten → reader.final state = .eof →
      (∀ count ≤ frames.length, ∃ next,
        decodeMany reader maxPayloadSize count state = (.ok (frames.take count), next) ∧
        reader.contents next = (outputs.drop count).flatten) ∧
      (decodeMany reader maxPayloadSize (frames.length + 1) state).1 =
        .error (.header .eof) ∧
      ∀ maxPayload,
        (∀ count ≤ (admitted maxPayload frames).length, ∃ next,
          decodeMany reader maxPayload count state = (.ok (frames.take count), next) ∧
          reader.contents next = (outputs.drop count).flatten) ∧
        (decodeMany reader maxPayload ((admitted maxPayload frames).length + 1) state).1 =
          .error (if admitted maxPayload frames = frames then .header .eof
            else .frame .payloadTooLarge) := by
  obtain ⟨outputs, houtputs⟩ := exists_encoded hframes
  refine ⟨outputs, houtputs, ?_⟩
  intro state hcontents hfinal
  have hbound : ∀ maxPayload,
      (∀ count ≤ (admitted maxPayload frames).length, ∃ next,
        decodeMany reader maxPayload count state = (.ok (frames.take count), next) ∧
        reader.contents next = (outputs.drop count).flatten) ∧
      (decodeMany reader maxPayload ((admitted maxPayload frames).length + 1) state).1 =
        .error (if admitted maxPayload frames = frames then .header .eof
          else .frame .payloadTooLarge) := by
    intro maxPayload
    refine ⟨?_, decodeMany_admitted hframes houtputs hcontents hfinal⟩
    intro count hcount
    obtain ⟨next, hmany, hnext, -⟩ := decodeMany_take hframes houtputs hcontents hcount
    exact ⟨next, hmany, hnext⟩
  have hall := hbound maxPayloadSize
  rw [admitted_maxPayloadSize hframes, if_pos rfl] at hall
  exact ⟨hall.1, hall.2, hbound⟩

end RoundTrip

/-- The connection that delivers one byte at a time and then ends. -/
def oneByOne (bytes : Bytes) : Segments Empty where
  segments := bytes.map fun byte => [byte]
  ending := .eof
  nonempty := by
    intro segment hsegment
    obtain ⟨byte, -, rfl⟩ := List.mem_map.mp hsegment
    exact List.cons_ne_nil byte []

theorem contents_oneByOne (bytes : Bytes) :
    (Segments.reader Empty).contents (oneByOne bytes) = bytes := by
  change (bytes.map fun byte => [byte]).flatten = bytes
  rw [← List.flatMap_def]
  exact List.flatMap_singleton' bytes

/-- A frame without payload and one with the highest version and one byte. -/
def sampleFrames : List Envelope :=
  [⟨3, msgTypeHeartbeat, copyFixed sessionIDSize [7], copyFixed nonceSize [], []⟩,
    ⟨255, msgTypeDataStream, copyFixed sessionIDSize [], copyFixed nonceSize [9], [1]⟩]

theorem decodable_sampleFrames : ∀ env ∈ sampleFrames, Decodable env := by
  decide +kernel

theorem decodeMany_encode_sampleFrames :
    ∃ outputs, Encoded sampleFrames outputs ∧
      (decodeMany (Segments.reader Empty) maxPayloadSize 2 (oneByOne outputs.flatten)).1 =
        .ok sampleFrames ∧
      (decodeMany (Segments.reader Empty) maxPayloadSize 3 (oneByOne outputs.flatten)).1 =
        .error (.header .eof) := by
  obtain ⟨outputs, houtputs, hreader⟩ :=
    decodeMany_encode (Segments.reader Empty) decodable_sampleFrames
  obtain ⟨hframes, hend, -⟩ := hreader (oneByOne outputs.flatten) (contents_oneByOne _) rfl
  obtain ⟨next, hmany, -⟩ := hframes 2 le_rfl
  exact ⟨outputs, houtputs, congrArg Prod.fst hmany, hend⟩

/-! ## The accepted byte strings -/

/-- A complete frame within the bound stands at the front. -/
structure WellFramed (input : Bytes) (maxPayload : ℕ) : Prop where
  header : headerSize ≤ input.length
  magic : input.take 4 = magicHeader.val
  version : minSupportedVersion ≤ input.getD 4 0
  bounded : declaredLen input ≤ maxPayload
  complete : declaredLen input ≤ (input.drop headerSize).length

theorem checkHeader_eq_ok {headerBuf : Bytes} {maxPayload payloadLen : ℕ} :
    checkHeader headerBuf maxPayload = .ok payloadLen ↔
      headerBuf.take 4 = magicHeader.val ∧ minSupportedVersion ≤ headerBuf.getD 4 0 ∧
        declaredLen headerBuf ≤ maxPayload ∧ declaredLen headerBuf = payloadLen := by
  rw [← UInt8.not_lt, ← not_lt]
  simp only [checkHeader, declaredLen]
  split_ifs with hmagic hversion hbound
  · simp [hmagic]
  · simp only [false_iff]
    exact fun hall => hall.2.1 hversion
  · simp only [false_iff]
    exact fun hall => hall.2.2.1 hbound
  · rw [Except.ok.injEq]
    exact ⟨fun heq => ⟨not_not.mp hmagic, hversion, hbound, heq⟩, fun hall => hall.2.2.2⟩

theorem getD_take_headerSize (input : Bytes) {index : ℕ} (hindex : index < headerSize) :
    (input.take headerSize).getD index 0 = input.getD index 0 := by
  rw [List.getD_eq_getElem?_getD, List.getD_eq_getElem?_getD,
    List.getElem?_take_of_lt hindex]

theorem declaredLen_take_headerSize (input : Bytes) :
    declaredLen (input.take headerSize) = declaredLen input := by
  rw [declaredLen, declaredLen, List.drop_take, List.take_take]
  rfl

theorem checkHeader_take_eq_ok {input : Bytes} {maxPayload payloadLen : ℕ} :
    checkHeader (input.take headerSize) maxPayload = .ok payloadLen ↔
      input.take 4 = magicHeader.val ∧ minSupportedVersion ≤ input.getD 4 0 ∧
        declaredLen input ≤ maxPayload ∧ declaredLen input = payloadLen := by
  rw [checkHeader_eq_ok, List.take_take, getD_take_headerSize input (by decide),
    declaredLen_take_headerSize]
  rfl

/-- Writing the fields of a header back gives the header. -/
theorem serializeHeader_fields {headerBuf : Bytes} (hlength : headerBuf.length = headerSize)
    (hmagic : headerBuf.take 4 = magicHeader.val) :
    serializeHeader (headerBuf.getD 4 0) (headerBuf.getD 5 0)
      (copyFixed sessionIDSize (headerBuf.drop 6)) (copyFixed nonceSize (headerBuf.drop 22))
      (declaredLen headerBuf) = headerBuf := by
  have hsize : headerBuf.length = 38 := hlength
  have hfield : ∀ offset width, offset + width ≤ 38 →
      (copyFixed width (headerBuf.drop offset)).val = (headerBuf.drop offset).take width := by
    intro offset width hfits
    apply takeD_eq_take
    rw [List.length_drop]
    omega
  have hlast : (putUint32 (declaredLen headerBuf)).val = (headerBuf.drop 34).take 4 := by
    have hwidth : ((headerBuf.drop 34).take 4).length = 4 := by
      rw [List.length_take, List.length_drop]
      omega
    have hvalue := bigEndian_bigEndianValue ((headerBuf.drop 34).take 4)
    rwa [hwidth] at hvalue
  have hbyte : ∀ offset < 38, [headerBuf.getD offset 0] = (headerBuf.drop offset).take 1 := by
    intro offset hoffset
    rw [List.take_one, List.head?_drop, List.getD_eq_getElem?_getD,
      List.getElem?_eq_getElem (by omega)]
    rfl
  have hjoin : ∀ offset width, (headerBuf.drop offset).take width ++
      headerBuf.drop (offset + width) = headerBuf.drop offset := by
    intro offset width
    rw [← List.drop_drop, List.take_append_drop]
  have hend : (headerBuf.drop 34).take 4 = headerBuf.drop 34 := by
    apply List.take_of_length_le
    rw [List.length_drop]
    omega
  calc
    _ = headerBuf.take 4 ++ ((headerBuf.drop 4).take 1 ++ ((headerBuf.drop 5).take 1 ++
          ((headerBuf.drop 6).take 16 ++ ((headerBuf.drop 22).take 12 ++
            headerBuf.drop 34)))) := by
        rw [serializeHeader, hlast, hend, hfield 6 sessionIDSize (by decide),
          hfield 22 nonceSize (by decide), hbyte 4 (by omega), hbyte 5 (by omega), hmagic]
        rfl
    _ = headerBuf.take 4 ++ headerBuf.drop 4 := by
        rw [hjoin 22 12, hjoin 6 16, hjoin 5 1, hjoin 4 1]
    _ = headerBuf := List.take_append_drop 4 headerBuf

section Front

variable {input : Bytes} (hlong : headerSize ≤ input.length) {maxPayload : ℕ}

include hlong

theorem decodeWithMax_of_checkHeader_ok {payloadLen : ℕ}
    (hcheck : checkHeader (input.take headerSize) maxPayload = .ok payloadLen)
    (hcomplete : payloadLen ≤ (input.drop headerSize).length) :
    Envelope.decodeWithMax input maxPayload =
      (.ok (envelopeOf (input.take headerSize) ((input.drop headerSize).take payloadLen)),
        input.drop (headerSize + payloadLen)) := by
  have hsplit := decodeWithMax_header (List.length_take_of_le hlong)
    (input.drop headerSize) maxPayload
  rw [List.take_append_drop, hcheck] at hsplit
  rw [hsplit]
  dsimp only
  rw [if_neg (not_lt.mpr hcomplete), List.drop_drop]

theorem decodeWithMax_of_checkHeader_error {err : FrameError}
    (hcheck : checkHeader (input.take headerSize) maxPayload = .error err) :
    Envelope.decodeWithMax input maxPayload = (.error err, input.drop headerSize) := by
  have hsplit := decodeWithMax_header (List.length_take_of_le hlong)
    (input.drop headerSize) maxPayload
  rwa [List.take_append_drop, hcheck] at hsplit

end Front

/-- The envelope read from a well-formed front, and what is left. -/
theorem decodeWithMax_wellFramed {input : Bytes} {maxPayload : ℕ}
    (hframed : WellFramed input maxPayload) :
    Envelope.decodeWithMax input maxPayload =
      (.ok (envelopeOf (input.take headerSize)
          ((input.drop headerSize).take (declaredLen input))),
        input.drop (headerSize + declaredLen input)) := by
  apply decodeWithMax_of_checkHeader_ok hframed.header _ hframed.complete
  exact checkHeader_take_eq_ok.mpr ⟨hframed.magic, hframed.version, hframed.bounded, rfl⟩

theorem wellFramed_of_decodeWithMax {input rest : Bytes} {maxPayload : ℕ} {env : Envelope}
    (hdecode : Envelope.decodeWithMax input maxPayload = (.ok env, rest)) :
    WellFramed input maxPayload := by
  by_cases hlong : headerSize ≤ input.length
  · cases hcheck : checkHeader (input.take headerSize) maxPayload with
    | error err =>
        rw [decodeWithMax_of_checkHeader_error hlong hcheck] at hdecode
        cases hdecode
    | ok payloadLen =>
        obtain ⟨hmagic, hversion, hbounded, rfl⟩ := checkHeader_take_eq_ok.mp hcheck
        by_cases hcomplete : declaredLen input ≤ (input.drop headerSize).length
        · exact ⟨hlong, hmagic, hversion, hbounded, hcomplete⟩
        · have hsplit := decodeWithMax_header (List.length_take_of_le hlong)
            (input.drop headerSize) maxPayload
          rw [List.take_append_drop, hcheck, hdecode] at hsplit
          dsimp only at hsplit
          rw [if_pos (not_le.mp hcomplete)] at hsplit
          cases hsplit
  · rw [Envelope.decodeWithMax, if_pos (not_le.mp hlong)] at hdecode
    cases hdecode

/-- Encoding what was decoded reproduces the bytes it was decoded from. -/
theorem encode_wellFramed {input : Bytes} {maxPayload : ℕ}
    (hframed : WellFramed input maxPayload) (hmax : maxPayload ≤ maxPayloadSize) :
    encode (envelopeOf (input.take headerSize)
        ((input.drop headerSize).take (declaredLen input))) =
      .ok (input.take (headerSize + declaredLen input)) := by
  have hlength : ((input.drop headerSize).take (declaredLen input)).length =
      declaredLen input := List.length_take_of_le hframed.complete
  have henv : Decodable (envelopeOf (input.take headerSize)
      ((input.drop headerSize).take (declaredLen input))) := by
    constructor
    · change ¬ (input.take headerSize).getD 4 0 < minSupportedVersion
      rw [getD_take_headerSize input (by decide), UInt8.not_lt]
      exact hframed.version
    · change ((input.drop headerSize).take (declaredLen input)).length ≤ maxPayloadSize
      rw [hlength]
      exact hframed.bounded.trans hmax
  have hmagic : (input.take headerSize).take 4 = magicHeader.val := by
    rw [List.take_take]
    exact hframed.magic
  have hheader := serializeHeader_fields (List.length_take_of_le hframed.header) hmagic
  rw [declaredLen_take_headerSize] at hheader
  rw [encode_of_decodable henv, envelopeOf]
  dsimp only
  rw [hlength, hheader, List.take_add]

/-- `DecodeWithMax` accepts exactly the byte strings that start with a complete
frame within the bound.  It then takes that frame, and `Encode` gives its bytes
back.  Of a frame that declares more than the bound it takes the header only. -/
theorem decodeWithMax_accepts (input : Bytes) (maxPayload : ℕ) :
    ((∃ env, (Envelope.decodeWithMax input maxPayload).1 = .ok env) ↔
      WellFramed input maxPayload) ∧
    (∀ env, (Envelope.decodeWithMax input maxPayload).1 = .ok env →
      (Envelope.decodeWithMax input maxPayload).2 =
        input.drop (headerSize + declaredLen input) ∧
      (maxPayload ≤ maxPayloadSize →
        encode env = .ok (input.take (headerSize + declaredLen input)))) ∧
    (headerSize ≤ input.length → maxPayload < declaredLen input →
      (∃ err, (Envelope.decodeWithMax input maxPayload).1 = .error err) ∧
      (Envelope.decodeWithMax input maxPayload).2 = input.drop headerSize) := by
  have hframed : ∀ env, (Envelope.decodeWithMax input maxPayload).1 = .ok env →
      WellFramed input maxPayload := by
    intro env hok
    exact wellFramed_of_decodeWithMax (Prod.ext hok rfl)
  refine ⟨⟨?_, ?_⟩, ?_, ?_⟩
  · rintro ⟨env, hok⟩
    exact hframed env hok
  · intro hwell
    exact ⟨_, congrArg Prod.fst (decodeWithMax_wellFramed hwell)⟩
  · intro env hok
    have hwell := hframed env hok
    rw [decodeWithMax_wellFramed hwell] at hok ⊢
    obtain rfl := Except.ok.inj hok
    exact ⟨rfl, encode_wellFramed hwell⟩
  · intro hlong hexceeds
    cases hcheck : checkHeader (input.take headerSize) maxPayload with
    | error err =>
        rw [decodeWithMax_of_checkHeader_error hlong hcheck]
        exact ⟨⟨err, rfl⟩, rfl⟩
    | ok payloadLen =>
        obtain ⟨-, -, hbounded, -⟩ := checkHeader_take_eq_ok.mp hcheck
        omega

end ZeroFeed.Stream
