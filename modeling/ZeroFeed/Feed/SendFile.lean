import ZeroFeed.Feed.Transfer

/-!
# Sending a file (`SendFile` in `pkg/feed/publisher.go`)

A file is announced with its name and checksum, read in pieces as `f.Read`
returns them, and closed with an end message.  After sixteen chunks without an
acknowledgement the loop waits for one or for a timeout; that changes when a chunk
is sent but never which.
-/

namespace ZeroFeed.SendFile

open ZeroFeed.ByteString
open ZeroFeed.Messages
open ZeroFeed.Primitives
open ZeroFeed.Cipher
open ZeroFeed.Transfer
open ZeroFeed.Text (slash)

/-- What the `select` at a full window takes. -/
inductive Pacing where
  | acked
  | timedOut
  | cancelled

inductive ReadError where
  | eof
  | failed
  deriving DecidableEq

/-- One round of the loop: what `f.Read` returns, whether `PublishPayload` succeeds
and what ends the wait. -/
structure Round where
  bytes : Bytes
  err : Option ReadError
  published : Bool
  pacing : Pacing

inductive SendError where
  | openFailed
  | statFailed
  | hashFailed
  | publishFailed
  | cancelled
  | readFailed
  deriving DecidableEq

/-- The payloads published, and the result once the call has returned. -/
structure Sending where
  payloads : List Bytes
  result : Option (Except SendError Unit)

def Sending.after (payload : Bytes) (sending : Sending) : Sending :=
  { sending with payloads := payload :: sending.payloads }

/-- The size of `readBuf`. -/
def chunkSize (fileSize : ℕ) : ℕ :=
  if 100 * 1024 * 1024 ≤ fileSize then 524288
  else if 10 * 1024 * 1024 ≤ fileSize then 131072
  else 32768

/-- The window: `unackedChunks` after the wait, or nothing if it was cancelled. -/
def waitForAck (unackedChunks : ℕ) (pacing : Pacing) : Option ℕ :=
  if 16 ≤ unackedChunks then
    match pacing with
    | .acked => some (unackedChunks - 1)
    | .timedOut => some 0
    | .cancelled => none
  else some unackedChunks

def chunkPayload (transferID chunk : Bytes) : Bytes := tagFileChunk :: (transferID ++ chunk)

def endPayload (transferID : Bytes) : Bytes := tagFileEnd :: transferID

/-- The loop; there is no result while the rounds given do not reach its end. -/
def sendChunks (transferID : Bytes) : (unackedChunks : ℕ) → List Round → Sending
  | _, [] => ⟨[], none⟩
  | unackedChunks, round :: rounds =>
      let next := fun unackedChunks =>
        match round.err with
        | none => sendChunks transferID unackedChunks rounds
        | some .eof => ⟨[], some (.ok ())⟩
        | some .failed => ⟨[], some (.error .readFailed)⟩
      if round.bytes = [] then next unackedChunks
      else if round.published = false then ⟨[], some (.error .publishFailed)⟩
      else
        match waitForAck (unackedChunks + 1) round.pacing with
        | none => ⟨[chunkPayload transferID round.bytes], some (.error .cancelled)⟩
        | some unackedChunks => (next unackedChunks).after (chunkPayload transferID round.bytes)

/-- The arguments and the inputs of one call. -/
structure Source where
  filePath : Bytes
  content : Bytes
  /-- Opening, `Stat` and the checksum, up to the first error. -/
  prepared : Except SendError Unit
  randomBytes : FixedBytes 8
  startPublished : Bool
  rounds : List Round
  endPublished : Bool

namespace Source

variable (source : Source)

def transferID : Bytes := hexString source.randomBytes.val

def header (suite : Suite) : FileHeader where
  transferID := source.transferID
  filename := base source.filePath
  fileSize := source.content.length
  sha256 := hexString (suite.sha256 source.content).val

end Source

def startPayload (marshalHeader : FileHeader → Bytes) (header : FileHeader) : Bytes :=
  tagFileStart :: marshalHeader header

def sendFile (suite : Suite) (marshalHeader : FileHeader → Bytes) (source : Source) : Sending :=
  match source.prepared with
  | .error err => ⟨[], some (.error err)⟩
  | .ok () =>
      if source.startPublished = false then ⟨[], some (.error .publishFailed)⟩
      else
        let sending := sendChunks source.transferID 0 source.rounds
        let closed : Sending :=
          match sending.result with
          | some (.ok ()) =>
              if source.endPublished = false then
                { sending with result := some (.error .publishFailed) }
              else { sending with payloads := sending.payloads ++ [endPayload source.transferID] }
          | _ => sending
        closed.after (startPayload marshalHeader (source.header suite))

/-! ## Calls that succeed -/

/-- Rounds that read the content to its end without an error: any division into
pieces that fit the buffer, any acknowledgements and timeouts. -/
inductive ReadsAll (fileSize : ℕ) : List Round → Bytes → Prop where
  | last (round : Round) (rounds : List Round)
      (hsize : round.bytes.length ≤ chunkSize fileSize) (heof : round.err = some .eof)
      (hpublished : round.published = true) (hpacing : round.pacing ≠ .cancelled) :
      ReadsAll fileSize (round :: rounds) round.bytes
  | more (round : Round) (rounds : List Round) (rest : Bytes)
      (hsize : round.bytes.length ≤ chunkSize fileSize) (hnone : round.err = none)
      (hpublished : round.published = true) (hpacing : round.pacing ≠ .cancelled)
      (hrest : ReadsAll fileSize rounds rest) :
      ReadsAll fileSize (round :: rounds) (round.bytes ++ rest)

theorem waitForAck_isSome (unackedChunks : ℕ) {pacing : Pacing} (hpacing : pacing ≠ .cancelled) :
    ∃ next, waitForAck unackedChunks pacing = some next := by
  unfold waitForAck
  split
  · cases pacing with
    | acked => exact ⟨_, rfl⟩
    | timedOut => exact ⟨_, rfl⟩
    | cancelled => exact absurd rfl hpacing
  · exact ⟨_, rfl⟩

/-- Whatever the window does, the chunks sent are the content in order. -/
theorem sendChunks_of_readsAll {fileSize : ℕ} {rounds : List Round} {content : Bytes}
    (hreads : ReadsAll fileSize rounds content) (transferID : Bytes) (unackedChunks : ℕ) :
    ∃ chunks : List Bytes,
      sendChunks transferID unackedChunks rounds =
          ⟨chunks.map (chunkPayload transferID), some (.ok ())⟩ ∧
        chunks.flatten = content ∧ ∀ chunk ∈ chunks, chunk ≠ [] := by
  induction hreads generalizing unackedChunks with
  | last round rounds hsize heof hpublished hpacing =>
      by_cases hempty : round.bytes = []
      · refine ⟨[], ?_, by rw [hempty]; rfl, List.forall_mem_nil _⟩
        rw [sendChunks, heof, if_pos hempty]
        rfl
      · obtain ⟨next, hwait⟩ := waitForAck_isSome (unackedChunks + 1) hpacing
        refine ⟨[round.bytes], ?_, List.flatten_singleton, ?_⟩
        · rw [sendChunks, heof, if_neg hempty, if_neg (by simp [hpublished]), hwait]
          rfl
        · exact List.forall_mem_singleton.mpr hempty
  | more round rounds rest hsize hnone hpublished hpacing hrest ih =>
      by_cases hempty : round.bytes = []
      · obtain ⟨chunks, hsend, hcontent, hnonempty⟩ := ih unackedChunks
        refine ⟨chunks, ?_, by rw [hempty]; exact hcontent, hnonempty⟩
        rw [sendChunks, hnone, if_pos hempty]
        exact hsend
      · obtain ⟨next, hwait⟩ := waitForAck_isSome (unackedChunks + 1) hpacing
        obtain ⟨chunks, hsend, hcontent, hnonempty⟩ := ih next
        refine ⟨round.bytes :: chunks, ?_, ?_, ?_⟩
        · rw [sendChunks, hnone, if_neg hempty, if_neg (by simp [hpublished]), hwait]
          dsimp only
          rw [hsend]
          rfl
        · rw [List.flatten_cons, hcontent]
        · exact List.forall_mem_cons.mpr ⟨hempty, hnonempty⟩

/-- A file that can be sent, and a call of `SendFile` in which every operation on it
succeeds.  A path that can be read as a file does not end in `.` or in a slash. -/
structure Transfer extends Source where
  hprepared : prepared = .ok ()
  hstart : startPublished = true
  hend : endPublished = true
  hreads : ReadsAll content.length rounds content
  hnamed : base filePath ≠ dot ∧ base filePath ≠ [slash]

/-- Such a call sends the announcement, the content in non-empty chunks, and the
end. -/
theorem sendFile_of_transfer (suite : Suite) (marshalHeader : FileHeader → Bytes)
    (transfer : Transfer) :
    ∃ chunks : List Bytes,
      sendFile suite marshalHeader transfer.toSource =
          ⟨startPayload marshalHeader (transfer.header suite) ::
            (chunks.map (chunkPayload transfer.transferID) ++ [endPayload transfer.transferID]),
            some (.ok ())⟩ ∧
        chunks.flatten = transfer.content ∧ ∀ chunk ∈ chunks, chunk ≠ [] := by
  obtain ⟨chunks, hsend, hcontent, hnonempty⟩ :=
    sendChunks_of_readsAll transfer.hreads transfer.transferID 0
  refine ⟨chunks, ?_, hcontent, hnonempty⟩
  simp only [sendFile, transfer.hprepared, transfer.hstart, transfer.hend, hsend]
  rfl

end ZeroFeed.SendFile
