import ZeroFeed.Feed.Delivery

/-!
# Piped streams (`runPublish` in `main.go`, `PublishStream` in `pkg/feed/publisher.go`)

When standard input is not a terminal it is read in chunks of at most 32768
bytes, and the publisher is told that its input carries no tags.  Every chunk is
then published as a text message of its own.  The subscriber routes text through
the filter for terminals, so a piped stream arrives unchanged if and only if it
holds no control byte.

Cancellation of the context and the heartbeats between two chunks are left out.
-/

namespace ZeroFeed.Pipe

open ZeroFeed.ByteString
open ZeroFeed.Messages
open ZeroFeed.Primitives
open ZeroFeed.Cipher
open ZeroFeed.Ring
open ZeroFeed.Publisher
open ZeroFeed.Publisher.PublisherEngine
open ZeroFeed.Sanitize
open ZeroFeed.Transfer
open ZeroFeed.Subscriber
open ZeroFeed.Receiver
open ZeroFeed.Sequential
open ZeroFeed.Delivery

/-! ## Reading and publishing -/

/-- `len(readBuf)`. -/
def readBufSize : ℕ := 32768

/-- One way in which reads of standard input split a stream.  A read that
returns nothing is not passed on. -/
structure Chunking (input : Bytes) where
  chunks : List Bytes
  flatten_eq : chunks.flatten = input
  ne_nil : ∀ chunk ∈ chunks, chunk ≠ []
  length_le : ∀ chunk ∈ chunks, chunk.length ≤ readBufSize

def isTag (byte : Byte) : Bool :=
  byte = tagText || byte = tagFileStart || byte = tagFileChunk || byte = tagFileEnd

/-- The tag decision of `PublishStream`: only callers that have not declared
their input untagged can pass a payload with its own tag. -/
def tagPayload (untagged : Bool) (payload : Bytes) : Bytes :=
  if untagged || !payload.head?.any isTag then tagText :: payload else payload

/-- A payload from the input channel, with the clock readings and the salt its
publication uses. -/
structure Item where
  payload : Bytes
  inputs : PublishInputs

/-- The loop of `PublishStream`, up to the closing of the channel or the first
failure. -/
def publishStream (suite : Suite) (untagged : Bool) (progress : Progress) :
    List Item → Progress × Except PublishError Unit
  | [] => (progress, .ok ())
  | item :: items =>
      if item.payload = [] then publishStream suite untagged progress items
      else
        let tagged := tagPayload untagged item.payload
        let next := perform suite progress (.publish tagged item.inputs)
        match (progress.engine.publishPayload suite tagged item.inputs).result with
        | .error err => (next, .error err)
        | .ok () => publishStream suite untagged next items

/-- The calls `PublishStream` makes when none of them fails. -/
def callsOf (untagged : Bool) (items : List Item) : List Call :=
  (items.filter fun item => item.payload ≠ []).map fun item =>
    .publish (tagPayload untagged item.payload) item.inputs

theorem callsOf_cons_of_ne_nil {untagged : Bool} {item : Item} {items : List Item}
    (hpayload : item.payload ≠ []) :
    callsOf untagged (item :: items) =
      .publish (tagPayload untagged item.payload) item.inputs :: callsOf untagged items := by
  rw [callsOf, List.filter_cons_of_pos (by simpa using hpayload), List.map_cons, callsOf]

theorem callsOf_cons_of_eq_nil {untagged : Bool} {item : Item} {items : List Item}
    (hpayload : item.payload = []) :
    callsOf untagged (item :: items) = callsOf untagged items := by
  rw [callsOf, List.filter_cons_of_neg (by simpa using hpayload), callsOf]

/-- A loop that ends with the channel has made all its calls. -/
theorem eq_performAll_of_publishStream {suite : Suite} {untagged : Bool}
    {progress next : Progress} {items : List Item}
    (hok : publishStream suite untagged progress items = (next, .ok ())) :
    next = performAll suite progress (callsOf untagged items) := by
  induction items generalizing progress with
  | nil => exact (Prod.mk.inj hok).1.symm
  | cons item items ih =>
      rw [publishStream] at hok
      split at hok
      · rename_i hpayload
        rw [callsOf_cons_of_eq_nil hpayload]
        exact ih hok
      · rename_i hpayload
        simp only at hok
        rw [callsOf_cons_of_ne_nil hpayload]
        split at hok
        · cases (Prod.mk.inj hok).2
        · exact ih hok

/-- An engine that can publish gets through all items that fit. -/
theorem publishStream_ready {suite : Suite} (htag : suite.aead.AppendsTag tagSize)
    {first last : Key} {base : ℕ} {untagged : Bool} {progress : Progress} {items : List Item}
    (hfits : Fits (callsOf untagged items))
    (hsequenced : Sequenced suite first base progress last) (hbase : base ≤ progress.drawn)
    (hdrawn : (performAll suite progress (callsOf untagged items)).drawn < 2 ^ 64) :
    publishStream suite untagged progress items =
      (performAll suite progress (callsOf untagged items), .ok ()) := by
  induction items generalizing progress last with
  | nil => rfl
  | cons item items ih =>
      rw [publishStream]
      by_cases hpayload : item.payload = []
      · rw [if_pos hpayload]
        rw [callsOf_cons_of_eq_nil hpayload] at hfits hdrawn ⊢
        exact ih hfits hsequenced hbase hdrawn
      · rw [if_neg hpayload]
        rw [callsOf_cons_of_ne_nil hpayload] at hfits hdrawn ⊢
        set call := Call.publish (tagPayload untagged item.payload) item.inputs with hcall
        have hsize := hfits _ List.mem_cons_self
        have hroom : (perform suite progress call).drawn < 2 ^ 64 :=
          (drawn_le_performAll suite _ _).trans_lt hdrawn
        obtain ⟨key, hnext⟩ := sequenced_publish htag hsequenced hbase hsize hroom
        obtain ⟨-, engine, sent, hresult, -⟩ :=
          publishPayload_ready htag hsequenced.ready hsize (by
            rw [hsequenced.counter]
            exact hroom)
        simp only [hresult]
        exact ih (fits_cons hfits) hnext (hbase.trans (drawn_le_perform suite progress call))
          hdrawn

/-! ## What arrives -/

theorem payloads_callsOf (untagged : Bool) (items : List Item) :
    payloads (callsOf untagged items) =
      ((items.map Item.payload).filter fun payload => payload ≠ []).map
        (tagPayload untagged) := by
  rw [payloads, callsOf, List.filterMap_map, List.filter_map, List.map_map]
  exact congrFun List.filterMap_eq_map _

namespace Chunking

variable {input : Bytes} (chunking : Chunking input)

/-- Every chunk is published, under the text tag whatever its first byte. -/
theorem payloads_callsOf {items : List Item} (hitems : items.map Item.payload = chunking.chunks) :
    payloads (callsOf true items) = chunking.chunks.map (tagText :: ·) := by
  have hkept : chunking.chunks.filter (fun chunk => chunk ≠ []) = chunking.chunks :=
    List.filter_eq_self.mpr fun chunk hchunk => decide_eq_true (chunking.ne_nil chunk hchunk)
  rw [Pipe.payloads_callsOf, hitems, hkept]
  rfl

theorem fits {items : List Item} (hitems : items.map Item.payload = chunking.chunks) :
    Fits (callsOf true items) := by
  intro payload hpayload
  rw [chunking.payloads_callsOf hitems] at hpayload
  obtain ⟨chunk, hchunk, rfl⟩ := List.mem_map.mp hpayload
  calc
    (tagText :: chunk).length = chunk.length + 1 := List.length_cons
    _ ≤ readBufSize + 1 := Nat.succ_le_succ (chunking.length_le chunk hchunk)
    _ ≤ maxMessageSize := by decide

end Chunking

section Delivered

variable {suite : Suite} {host : Host} {input : Bytes} (chunking : Chunking input)
variable {items : List Item} (hitems : items.map Item.payload = chunking.chunks)
variable {publisher : PublisherEngine} {progress : Progress}
variable (hpublished : publishStream suite true (Progress.start publisher) items =
  (progress, .ok ()))
variable {subscriber : SubscriberEngine} {disk : host.Disk} {events : List Inbound}
variable {stream : Stream host} {exit : Option Exit}
variable (hreceived : subscribeStream suite (Stream.start subscriber disk) events =
  (stream, exit))
variable (hlossless : stream.delivered.map SeqMsg.payload =
  progress.published.map SeqMsg.payload)
include hitems hpublished hreceived hlossless

/-- The subscriber writes every chunk as the filter leaves it. -/
theorem output_eq_map_sanitizeTextOutput :
    stream.desk.output = chunking.chunks.map sanitizeTextOutput := by
  have hshows := showsDelivered_subscribeStream suite subscriber disk events
  rw [hreceived, ShowsDelivered] at hshows
  have hdelivered : stream.delivered.map SeqMsg.payload =
      chunking.chunks.map (tagText :: ·) := by
    rw [hlossless, eq_performAll_of_publishStream hpublished, published_performAll,
      chunking.payloads_callsOf hitems]
    rfl
  calc
    stream.desk.output = (stream.delivered.map SeqMsg.payload).flatMap shown := by
      rw [hshows, List.flatMap_map]
    _ = chunking.chunks.flatMap fun chunk => [sanitizeTextOutput chunk] := by
      rw [hdelivered, List.flatMap_map]
      rfl
    _ = chunking.chunks.map sanitizeTextOutput := List.map_eq_flatMap.symm

/-- For every stream, every split of it into chunks and every lossless delivery
of the messages published for them, the subscriber writes the stream itself if
and only if the stream holds no control byte. -/
theorem piped_output_eq_iff :
    stream.desk.output.flatten = input ↔ ∀ byte ∈ input, isControl byte = false := by
  have hfilter := flatten_map_sanitizeTextOutput_eq_iff chunking.chunks
  rw [chunking.flatten_eq] at hfilter
  rw [output_eq_map_sanitizeTextOutput chunking hitems hpublished hreceived hlossless]
  exact hfilter

end Delivered

/-- A lossless relay delivers what is piped: from launch and handshake on, the
publisher gets through the stream and the subscriber delivers every message,
through rekeys, padding and encryption, as long as fewer than `2 ^ 64` numbers
are drawn. -/
theorem piped_delivery {suite : Suite} (htag : suite.aead.AppendsTag tagSize)
    (hopen : suite.aead.OpensSealed) {passphrase : Bytes} {masterKey : Key} {now : ℤ}
    {byteLimit : ℕ} {timeLimit : ℤ} {engine : PublisherEngine} {subscriber : SubscriberEngine}
    (hlaunch : launch suite passphrase masterKey now byteLimit timeLimit = .ok engine)
    (hsubscriber : newSubscriberEngine suite passphrase = .ok subscriber)
    {host : Host} (disk : host.Disk) {input : Bytes} (chunking : Chunking input)
    {items : List Item} (hitems : items.map Item.payload = chunking.chunks)
    (hdrawn : (performAll suite (Progress.start engine) (callsOf true items)).drawn < 2 ^ 64) :
    ∃ progress stream,
      publishStream suite true (Progress.start engine) items = (progress, .ok ()) ∧
      subscribeStream suite (Stream.start (subscriber.installSession suite masterKey) disk)
        (overRelay suite engine.sessionID progress.wire) = (stream, none) ∧
      stream.delivered = progress.published := by
  have hfits := chunking.fits hitems
  obtain ⟨stream, -, hstream, hdelivered, -⟩ :=
    delivered_performAll htag hopen hlaunch hsubscriber disk hfits hdrawn
  have hready := ready_of_launched (launched_of_launch hlaunch)
  exact ⟨_, stream, publishStream_ready htag hfits (sequenced_start hready) (le_refl _) hdrawn,
    hstream, hdelivered⟩

/-! ## Two files -/

/-- A query in UTF-8, read in two pieces that cut a character. -/
def dumped : Chunking [0x73, 0xC3, 0xA9, 0x0A] where
  chunks := [[0x73, 0xC3], [0xA9, 0x0A]]
  flatten_eq := rfl
  ne_nil := by decide
  length_le := by decide

/-- The end of a name in an archive, padded with zero bytes. -/
def archived : Chunking [0x61, 0x00, 0x00] where
  chunks := [[0x61, 0x00, 0x00]]
  flatten_eq := rfl
  ne_nil := by decide
  length_le := by decide

def itemsOf (chunks : List Bytes) : List Item :=
  chunks.map fun chunk => ⟨chunk, sampleInputs 7⟩

theorem payload_itemsOf (chunks : List Bytes) : (itemsOf chunks).map Item.payload = chunks := by
  rw [itemsOf, List.map_map]
  exact List.map_id chunks

/-- A sample session, with a rekey before every message. -/
theorem sample_delivery {input : Bytes} (chunking : Chunking input)
    (hdrawn : ∀ engine, launch transparent [1] (copyFixed keySize []) 0 1 0 = .ok engine →
      (performAll transparent (Progress.start engine)
        (callsOf true (itemsOf chunking.chunks))).drawn < 2 ^ 64) :
    ∃ engine subscriber progress stream,
      launch transparent [1] (copyFixed keySize []) 0 1 0 = .ok engine ∧
      newSubscriberEngine transparent [1] = .ok subscriber ∧
      publishStream transparent true (Progress.start engine) (itemsOf chunking.chunks) =
        (progress, .ok ()) ∧
      subscribeStream transparent (joinedStream subscriber)
        (overRelay transparent engine.sessionID progress.wire) = (stream, none) ∧
      stream.delivered = progress.published := by
  obtain ⟨engine, hlaunch⟩ : ∃ engine,
      launch transparent [1] (copyFixed keySize []) 0 1 0 = .ok engine := ⟨_, rfl⟩
  obtain ⟨subscriber, hsubscriber⟩ : ∃ subscriber,
      newSubscriberEngine transparent [1] = .ok subscriber := ⟨_, rfl⟩
  obtain ⟨progress, stream, hpublished, hreceived, hdelivered⟩ :=
    piped_delivery transparent_lawful.appendsTag transparent_lawful.opensSealed hlaunch
      hsubscriber noneClosed chunking (payload_itemsOf _) (hdrawn engine hlaunch)
  exact ⟨engine, subscriber, progress, stream, hlaunch, hsubscriber, hpublished, hreceived,
    hdelivered⟩

theorem piped_output_eq_iff_dumped :
    ∃ engine subscriber progress stream,
      launch transparent [1] (copyFixed keySize []) 0 1 0 = .ok engine ∧
      newSubscriberEngine transparent [1] = .ok subscriber ∧
      publishStream transparent true (Progress.start engine) (itemsOf dumped.chunks) =
        (progress, .ok ()) ∧
      subscribeStream transparent (joinedStream subscriber)
        (overRelay transparent engine.sessionID progress.wire) = (stream, none) ∧
      stream.delivered = progress.published ∧
      stream.desk.output.flatten = [0x73, 0xC3, 0xA9, 0x0A] := by
  obtain ⟨engine, subscriber, progress, stream, hlaunch, hsubscriber, hpublished, hreceived,
    hdelivered⟩ := sample_delivery dumped (by rintro engine ⟨⟩; decide +kernel)
  refine ⟨engine, subscriber, progress, stream, hlaunch, hsubscriber, hpublished, hreceived,
    hdelivered, ?_⟩
  exact (piped_output_eq_iff dumped (payload_itemsOf _) hpublished hreceived
    (by rw [hdelivered])).mpr (by decide +kernel)

/-- The zero bytes of the archive are stripped on the way. -/
theorem piped_archive_truncated :
    ∃ engine subscriber progress stream,
      launch transparent [1] (copyFixed keySize []) 0 1 0 = .ok engine ∧
      newSubscriberEngine transparent [1] = .ok subscriber ∧
      publishStream transparent true (Progress.start engine) (itemsOf archived.chunks) =
        (progress, .ok ()) ∧
      subscribeStream transparent (joinedStream subscriber)
        (overRelay transparent engine.sessionID progress.wire) = (stream, none) ∧
      stream.delivered = progress.published ∧
      stream.desk.output.flatten = [0x61] ∧
      stream.desk.output.flatten ≠ [0x61, 0x00, 0x00] := by
  obtain ⟨engine, subscriber, progress, stream, hlaunch, hsubscriber, hpublished, hreceived,
    hdelivered⟩ := sample_delivery archived (by rintro engine ⟨⟩; decide +kernel)
  have houtput := output_eq_map_sanitizeTextOutput archived (payload_itemsOf _) hpublished
    hreceived (by rw [hdelivered])
  have hflat : stream.desk.output.flatten = [0x61] := by
    rw [houtput]
    decide
  refine ⟨engine, subscriber, progress, stream, hlaunch, hsubscriber, hpublished, hreceived,
    hdelivered, hflat, ?_⟩
  rw [hflat]
  decide

end ZeroFeed.Pipe
