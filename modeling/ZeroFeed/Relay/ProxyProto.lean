import ZeroFeed.Core.BufferedReads
import ZeroFeed.Core.ReadProgram
import ZeroFeed.Protocol.Stream

/-!
# PROXY headers (`pkg/relay/proxy_proto.go`)

With trust-proxy enabled a connection is first looked at through a buffered
reader.  If it begins with the PROXY v2 signature, the header is read and the
buffered reader becomes the connection.  Otherwise the bare connection is
returned, and whatever the buffered reader had taken from it is gone.
-/

namespace ZeroFeed.ProxyProto

open ZeroFeed.ByteString
open ZeroFeed.Messages
open ZeroFeed.ShortReads
open ZeroFeed.ReadProgram
open ZeroFeed.BufferedReads

/-! ## The header -/

def proxyV2Magic : Bytes :=
  [0x0D, 0x0A, 0x0D, 0x0A, 0x00, 0x0D, 0x0A, 0x51, 0x55, 0x49, 0x54, 0x0A]

def maxHeaderLen : ℕ := 512

/-- The address of a client, without its textual form: that of the connection,
or one from the header. -/
inductive ClientAddr where
  | remote
  | ipv4 (ip : Bytes) (port : ℕ)
  | ipv6 (ip : Bytes) (port : ℕ)
  deriving DecidableEq

def clientAddr (family : Byte) (hdrPayload : Bytes) : ClientAddr :=
  if family = 1 ∧ 12 ≤ hdrPayload.length then
    .ipv4 (hdrPayload.take 4) (bigEndianValue ((hdrPayload.drop 8).take 2))
  else if family = 2 ∧ 36 ≤ hdrPayload.length then
    .ipv6 (hdrPayload.take 16) (bigEndianValue ((hdrPayload.drop 32).take 2))
  else .remote

section Parse

variable {Failure : Type*} (exceeds : Failure)

/-- The header after the signature: version and command, family, length and
payload.  `exceeds` is the error for a header beyond the limit. -/
def readHeader : Program Failure ClientAddr :=
  .readFull 1 fun _ =>
    .readFull 1 fun familyBuf =>
      .readFull 2 fun lenBuf =>
        let hdrLen := bigEndianValue lenBuf
        if maxHeaderLen < hdrLen then .fail (.failed exceeds)
        else
          .readFull hdrLen fun hdrPayload =>
            .done (clientAddr (familyBuf.headD 0 >>> 4) hdrPayload)

/-- The connection that is returned: the bare one, or a `ConnWithReader` around
the buffered reader. -/
inductive Conn (Failure : Type*) where
  | bare (conn : Segments Failure)
  | withReader (bufReader : Buffered Failure)

/-- The bytes readable from a connection. -/
def Conn.contents : Conn Failure → Bytes
  | .bare conn => (Segments.reader Failure).contents conn
  | .withReader bufReader => (Buffered.reader Failure).contents bufReader

def Conn.decodeWithMax (maxPayload : ℕ) :
    Conn Failure → Except (Stream.DecodeError Failure) Envelope
  | .bare conn => (Stream.decodeWithMax (Segments.reader Failure) conn maxPayload).1
  | .withReader bufReader =>
      (Stream.decodeWithMax (Buffered.reader Failure) bufReader maxPayload).1

/-- `ParseProxyHeaderV2` on a connection on which everything arrives before the
deadline. -/
def parseProxyHeaderV2 (conn : Segments Failure) :
    Conn Failure × ClientAddr × Option (ReadError Failure) :=
  match (Buffered.newReader conn).peek 12 with
  | (.error _, bufReader) => (.bare bufReader.conn, .remote, none)
  | (.ok magic, bufReader) =>
      if magic ≠ proxyV2Magic then (.bare bufReader.conn, .remote, none)
      else
        match (readHeader exceeds).run (Buffered.reader Failure) (bufReader.discard 12) with
        | (.error err, last) => (.bare last.conn, .remote, some err)
        | (.ok addr, last) => (.withReader last, addr, none)

/-- `handleConnection` up to the first frame, or `none` if the connection is
closed before it is read. -/
def firstFrame (trustProxy : Bool) (isBanned : ClientAddr → Bool) (conn : Segments Failure) :
    Option (Except (Stream.DecodeError Failure) Envelope) :=
  match if trustProxy then parseProxyHeaderV2 exceeds conn else (.bare conn, .remote, none) with
  | (_, _, some _) => none
  | (conn, remoteAddr, none) =>
      if isBanned remoteAddr then none
      else some (conn.decodeWithMax Envelope.maxHandshakePayload)

/-! ## What remains readable -/

/-- The bytes that arrive on the connection. -/
def arriving (conn : Segments Failure) : Bytes := conn.segments.flatten

/-- The bytes begin with the signature. -/
def Signed (bytes : Bytes) : Prop := bytes.take 12 = proxyV2Magic

instance (bytes : Bytes) : Decidable (Signed bytes) :=
  inferInstanceAs (Decidable (bytes.take 12 = proxyV2Magic))

/-- The length of the header at the front, signature included. -/
def headerLength (bytes : Bytes) : ℕ := 16 + bigEndianValue ((bytes.drop 14).take 2)

/-- The bytes without their PROXY v2 header. -/
def stripped (bytes : Bytes) : Bytes :=
  if Signed bytes then bytes.drop (headerLength bytes) else bytes

theorem rest_of_readHeader {final : ReadError Failure} {bytes rest : Bytes} {addr : ClientAddr}
    (hparse : (readHeader exceeds).parse final (bytes.drop 12) = .ok (addr, rest)) :
    rest = bytes.drop (headerLength bytes) := by
  have hfamily := Program.parse_of_readFull hparse
  have hlen := Program.parse_of_readFull hfamily
  have hbody := Program.parse_of_readFull hlen
  rw [List.drop_drop, List.drop_drop, List.drop_drop] at hbody
  dsimp only at hbody
  split at hbody
  · cases hbody
  · have hdone := Program.parse_of_readFull hbody
    rw [Program.parse, Except.ok.injEq, Prod.mk.injEq] at hdone
    have hskip : (bytes.drop 14).drop 2 = bytes.drop 16 := List.drop_drop
    rw [headerLength, ← List.drop_drop, ← hskip]
    exact hdone.2.symm

/-- What the relay should guarantee: no byte but the header is lost, and a client
without a header is served as without trust-proxy. -/
structure Lossless (conn : Segments Failure) : Prop where
  readable : ∀ conn' addr, parseProxyHeaderV2 exceeds conn = (conn', addr, none) →
    conn'.contents = stripped (arriving conn)
  firstFrame : ¬ Signed (arriving conn) → ∀ isBanned,
    firstFrame exceeds true isBanned conn = firstFrame exceeds false isBanned conn

variable {exceeds} {conn : Segments Failure}

/-- Without the signature the bare connection is returned, short of what the
buffered reader has taken. -/
theorem parseProxyHeaderV2_unsigned (hunsigned : ¬ Signed (arriving conn)) :
    ∃ left, parseProxyHeaderV2 exceeds conn = (.bare left, .remote, none) ∧
      left.ending = conn.ending ∧
      (left.segments = [] ∨ (arriving left).length + 12 ≤ (arriving conn).length) := by
  obtain ⟨bufReader, hfilled, hcase⟩ :=
    Buffered.peek_spec (show 12 ≤ bufferSize by decide) (Buffered.newReader conn)
  have hcontents : bufReader.contents = arriving conn := hfilled.contents
  refine ⟨bufReader.conn, ?_, hfilled.ending, ?_⟩
  · rw [parseProxyHeaderV2]
    rcases hcase with ⟨hpeek, -⟩ | ⟨hpeek, -⟩
    · rw [hpeek]
      exact if_pos hunsigned
    · rw [hpeek]
  · rcases hcase with ⟨-, hbuf⟩ | ⟨-, hnil, -⟩
    · right
      have hlength := congrArg List.length hcontents
      rw [Buffered.contents, List.length_append] at hlength
      rw [arriving]
      omega
    · exact .inl hnil

theorem readable_of_signed (hsigned : Signed (arriving conn)) {conn' : Conn Failure}
    {addr : ClientAddr} (hparse : parseProxyHeaderV2 exceeds conn = (conn', addr, none)) :
    conn'.contents = stripped (arriving conn) := by
  have henough : 12 ≤ (arriving conn).length := by
    have hlength := congrArg List.length hsigned
    rw [List.length_take] at hlength
    have : proxyV2Magic.length = 12 := rfl
    omega
  obtain ⟨bufReader, hfilled, hcase⟩ :=
    Buffered.peek_spec (show 12 ≤ bufferSize by decide) (Buffered.newReader conn)
  have hcontents : bufReader.contents = arriving conn := hfilled.contents
  rcases hcase with ⟨hpeek, hbuf⟩ | ⟨-, -, hshort⟩
  · have hmagic : (Buffered.newReader conn).contents.take 12 = proxyV2Magic := hsigned
    rw [parseProxyHeaderV2, hpeek] at hparse
    dsimp only at hparse
    rw [if_neg (not_not.mpr hmagic)] at hparse
    have hrest : (Buffered.reader Failure).contents (bufReader.discard 12) =
        (arriving conn).drop 12 := by
      rw [← hcontents]
      exact Buffered.contents_discard hbuf
    cases hheader : (readHeader exceeds).parse
        ((Buffered.reader Failure).final (bufReader.discard 12))
        ((Buffered.reader Failure).contents (bufReader.discard 12)) with
    | error err =>
        obtain ⟨last, hrun⟩ := Program.run_of_error hheader
        rw [hrun] at hparse
        cases hparse
    | ok parsed =>
        obtain ⟨found, rest⟩ := parsed
        obtain ⟨last, hrun, hlast, -⟩ := Program.run_of_ok hheader
        rw [hrun] at hparse
        cases hparse
        rw [hrest] at hheader
        rw [stripped, if_pos hsigned, ← rest_of_readHeader exceeds hheader]
        exact hlast
  · exact absurd hshort (not_lt.mpr henough)

theorem segments_of_arriving (hnothing : arriving conn = []) : conn.segments = [] := by
  apply List.eq_nil_iff_forall_not_mem.mpr
  intro segment hsegment
  exact conn.nonempty segment hsegment (List.flatten_eq_nil_iff.mp hnothing segment hsegment)

/-- A connection on which nothing arrives is returned as it was. -/
theorem parseProxyHeaderV2_nothing (hnothing : arriving conn = []) :
    parseProxyHeaderV2 exceeds conn = (.bare conn, .remote, none) := by
  have hunsigned : ¬ Signed (arriving conn) := by
    rw [hnothing]
    decide
  obtain ⟨left, hparse, hending, hleft⟩ := @parseProxyHeaderV2_unsigned _ exceeds _ hunsigned
  have hsegments : left.segments = [] := by
    refine hleft.resolve_right ?_
    rw [hnothing]
    exact Nat.not_succ_le_zero _
  have hsame : left = conn := by
    obtain ⟨segments, ending, nonempty⟩ := left
    obtain ⟨segments', ending', nonempty'⟩ := conn
    obtain rfl : segments = [] := hsegments
    obtain rfl : segments' = [] := segments_of_arriving hnothing
    obtain rfl : ending = ending' := hending
    rfl
  rw [hparse, hsame]

end Parse

/-- Nothing is lost exactly if the connection begins with the signature or
carries nothing at all: every other client loses what the buffered reader has
taken. -/
theorem lossless_iff {Failure : Type*} (exceeds : Failure) (conn : Segments Failure) :
    Lossless exceeds conn ↔ Signed (arriving conn) ∨ arriving conn = [] := by
  constructor
  · intro hlossless
    by_contra hneither
    obtain ⟨hunsigned, hsome⟩ := not_or.mp hneither
    obtain ⟨left, hparse, -, hleft⟩ := @parseProxyHeaderV2_unsigned _ exceeds _ hunsigned
    have hreadable : arriving left = arriving conn := by
      have hstripped := hlossless.readable _ _ hparse
      rw [stripped, if_neg hunsigned] at hstripped
      exact hstripped
    rcases hleft with hnil | hfewer
    · apply hsome
      rw [← hreadable, arriving, hnil, List.flatten_nil]
    · rw [hreadable] at hfewer
      omega
  · rintro (hsigned | hnothing)
    · exact ⟨fun _ _ => readable_of_signed hsigned,
        fun hunsigned => absurd hsigned hunsigned⟩
    · have hparse := @parseProxyHeaderV2_nothing _ exceeds _ hnothing
      constructor
      · intro conn' addr hresult
        rw [hparse] at hresult
        cases hresult
        have hunsigned : ¬ Signed (arriving conn) := by
          rw [hnothing]
          decide
        rw [stripped, if_neg hunsigned]
        rfl
      · intro _ isBanned
        rw [firstFrame, firstFrame, if_pos rfl, if_neg Bool.false_ne_true, hparse]

/-- A publisher that connects directly and sends its first frame in one piece. -/
def directClient : Segments Unit where
  segments := [serializeHeader version msgTypePAKEInitPub (copyFixed sessionIDSize [7])
    (copyFixed nonceSize []) 0]
  ending := .eof
  nonempty := by decide +kernel

/-- With trust-proxy its frame is lost, without it is decoded. -/
theorem firstFrame_directClient : ¬ Signed (arriving directClient) ∧
    firstFrame () true (fun _ => false) directClient = some (.error (.header .eof)) ∧
    firstFrame () false (fun _ => false) directClient =
      some (.ok ⟨version, msgTypePAKEInitPub, copyFixed sessionIDSize [7],
        copyFixed nonceSize [], []⟩) := by
  decide +kernel

end ZeroFeed.ProxyProto
