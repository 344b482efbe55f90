import ZeroFeed.Feed.Sequential

/-!
# End-to-end delivery

A subscriber that joined before the first call follows a sequential publisher
through every rekey and replay.  After a publisher restart the mark of the
first publisher is applied to the numbers of the second, which decides what is
delivered.
-/

namespace ZeroFeed.Delivery

open ZeroFeed.ByteString
open ZeroFeed.Messages
open ZeroFeed.Envelope
open ZeroFeed.Primitives
open ZeroFeed.Cipher
open ZeroFeed.Ring
open ZeroFeed.Frame
open ZeroFeed.Publisher
open ZeroFeed.Transfer
open ZeroFeed.Subscriber
open ZeroFeed.Receiver
open ZeroFeed.Sequential
open ZeroFeed.HighWater

/-! ## A subscriber present from the start -/

/-- Whatever calls are made, one after another, the subscriber authenticates
every frame and delivers exactly what was published, under the same numbers. -/
theorem delivered_performAll {suite : Suite} (htag : suite.aead.AppendsTag tagSize)
    (hopen : suite.aead.OpensSealed) {passphrase : Bytes} {masterKey : Key} {now : ℤ}
    {byteLimit : ℕ} {timeLimit : ℤ} {engine : PublisherEngine} {subscriber : SubscriberEngine}
    (hlaunch : launch suite passphrase masterKey now byteLimit timeLimit = .ok engine)
    (hsubscriber : newSubscriberEngine suite passphrase = .ok subscriber)
    {host : Host} (disk : host.Disk) {calls : List Call} (hfits : Fits calls)
    (hdrawn : (performAll suite (Progress.start engine) calls).drawn < 2 ^ 64) :
    ∃ stream last,
      subscribeStream suite (Stream.start (subscriber.installSession suite masterKey) disk)
        (overRelay suite engine.sessionID
          (performAll suite (Progress.start engine) calls).wire) = (stream, none) ∧
      stream.delivered = (performAll suite (Progress.start engine) calls).published ∧
      stream.engine.cipher = some last ∧
      (performAll suite (Progress.start engine) calls).engine.cipher = some last ∧
      stream.engine.sas = (performAll suite (Progress.start engine) calls).engine.sas := by
  have hlaunched := launched_of_launch hlaunch
  have hbase := hlaunched.seqCounter
  obtain ⟨last, hsequenced⟩ := sequenced_performAll htag hfits
    (sequenced_start (ready_of_launched hlaunched)) (le_refl _) hdrawn
  let start : Stream host := Stream.start (subscriber.installSession suite masterKey) disk
  have hmark : start.engine.lastSeqNum = 0 := by
    change subscriber.lastSeqNum = 0
    exact lastSeqNum_newSubscriberEngine hsubscriber
  have hcipher : start.engine.cipher = some masterKey := rfl
  obtain ⟨stream, hstream, hfollowed⟩ :=
    subscribeStream_aligned htag hopen engine.sessionID hsequenced.aligned hcipher rfl
  refine ⟨stream, last, hstream, ?_, hfollowed.cipher, hsequenced.ready.cipher, ?_⟩
  · have hkept := keepAbove_run hsequenced 0
    rw [hbase, filter_keepAbove] at hkept
    rw [hfollowed.delivered, hmark, hkept]
    apply List.filter_eq_self.mpr
    intro msg hmsg
    exact decide_eq_true (Nat.zero_lt_of_lt (hsequenced.above msg hmsg).1)
  · rw [hfollowed.sas, hsequenced.ready.sas]

/-- The subscriber pushes exactly the published payloads in order and holds the
publisher's key and authentication string, as long as fewer than `2 ^ 64`
numbers are drawn. -/
theorem sequential_delivery {suite : Suite} (htag : suite.aead.AppendsTag tagSize)
    (hopen : suite.aead.OpensSealed) {passphrase : Bytes} {masterKey : Key} {now : ℤ}
    {byteLimit : ℕ} {timeLimit : ℤ} {engine : PublisherEngine} {subscriber : SubscriberEngine}
    (hlaunch : launch suite passphrase masterKey now byteLimit timeLimit = .ok engine)
    (hsubscriber : newSubscriberEngine suite passphrase = .ok subscriber)
    {host : Host} (disk : host.Disk) {calls : List Call} (hfits : Fits calls)
    (hdrawn : (performAll suite (Progress.start engine) calls).drawn < 2 ^ 64) :
    ∃ stream last,
      subscribeStream suite (Stream.start (subscriber.installSession suite masterKey) disk)
        (overRelay suite engine.sessionID
          (performAll suite (Progress.start engine) calls).wire) = (stream, none) ∧
      stream.delivered.map SeqMsg.payload = payloads calls ∧
      stream.engine.cipher = some last ∧
      (performAll suite (Progress.start engine) calls).engine.cipher = some last ∧
      stream.engine.sas = (performAll suite (Progress.start engine) calls).engine.sas := by
  obtain ⟨stream, last, hstream, hdelivered, hkeys⟩ :=
    delivered_performAll htag hopen hlaunch hsubscriber disk hfits hdrawn
  refine ⟨stream, last, hstream, ?_, hkeys⟩
  rw [hdelivered, published_performAll]
  rfl

/-- The clock and a salt for one call. -/
def sampleInputs (salt : Byte) : PublisherEngine.PublishInputs :=
  ⟨0, ⟨copyFixed nonceSize [salt], 0⟩⟩

/-- Two messages, and a replay after them. -/
def sampleCalls : List Call :=
  [.publish [tagText, 65] (sampleInputs 7), .publish [tagText, 66] (sampleInputs 8), .replay 0]

/-- A subscriber that has joined a transparent session. -/
def joinedStream (subscriber : SubscriberEngine) : Stream countingHost :=
  Stream.start (subscriber.installSession transparent (copyFixed keySize [])) noneClosed

/-- With a byte threshold of one there is a rekey before each message. -/
theorem sequential_delivery_of_rekeys :
    ∃ engine subscriber stream,
      launch transparent [1] (copyFixed keySize []) 0 1 0 = .ok engine ∧
      newSubscriberEngine transparent [1] = .ok subscriber ∧
      (performAll transparent (Progress.start engine) sampleCalls).wire.length = 6 ∧
      subscribeStream transparent (joinedStream subscriber)
        (overRelay transparent engine.sessionID
          (performAll transparent (Progress.start engine) sampleCalls).wire) =
            (stream, none) ∧
      stream.delivered.map SeqMsg.payload = [[tagText, 65], [tagText, 66]] := by
  obtain ⟨engine, hlaunch⟩ : ∃ engine,
      launch transparent [1] (copyFixed keySize []) 0 1 0 = .ok engine := ⟨_, rfl⟩
  obtain ⟨subscriber, hsubscriber⟩ : ∃ subscriber,
      newSubscriberEngine transparent [1] = .ok subscriber := ⟨_, rfl⟩
  have hfits : Fits sampleCalls := by
    rw [Fits]
    decide +kernel
  have hrun : (performAll transparent (Progress.start engine) sampleCalls).wire.length = 6 ∧
      (performAll transparent (Progress.start engine) sampleCalls).drawn < 2 ^ 64 := by
    cases hlaunch
    decide +kernel
  obtain ⟨stream, last, hstream, hdelivered, -⟩ := sequential_delivery
    transparent_lawful.appendsTag transparent_lawful.opensSealed hlaunch hsubscriber
    noneClosed hfits hrun.2
  exact ⟨engine, subscriber, stream, hlaunch, hsubscriber, hrun.1, hstream, hdelivered⟩

/-- Over `2 ^ 64` calls the counter wraps, and not every payload can be pushed
under a larger number than the one before it. -/
theorem sequential_delivery_wraps :
    ∃ engine subscriber calls,
      launch transparent [1] (copyFixed keySize []) 0 0 0 = .ok engine ∧
      newSubscriberEngine transparent [1] = .ok subscriber ∧
      transparent.aead.AppendsTag tagSize ∧ transparent.aead.OpensSealed ∧ Fits calls ∧
      (subscribeStream transparent (joinedStream subscriber)
        (overRelay transparent engine.sessionID (performAll transparent
          (Progress.start engine) calls).wire)).1.delivered.map SeqMsg.payload ≠
            payloads calls := by
  obtain ⟨engine, hlaunch⟩ : ∃ engine,
      launch transparent [1] (copyFixed keySize []) 0 0 0 = .ok engine := ⟨_, rfl⟩
  obtain ⟨subscriber, hsubscriber⟩ : ∃ subscriber,
      newSubscriberEngine transparent [1] = .ok subscriber := ⟨_, rfl⟩
  have hpayloads : ∀ count, payloads (List.replicate count (.publish [] (sampleInputs 0))) =
      List.replicate count [] := by
    intro count
    rw [payloads, List.filterMap_replicate]
  refine ⟨engine, subscriber, List.replicate (2 ^ 64) (.publish [] (sampleInputs 0)),
    hlaunch, hsubscriber, transparent_lawful.appendsTag, transparent_lawful.opensSealed, ?_, ?_⟩
  · intro payload hpayload
    rw [hpayloads, List.mem_replicate] at hpayload
    rw [hpayload.2]
    exact Nat.zero_le _
  · rw [joinedStream]
    intro heq
    have hlength := congrArg List.length heq
    rw [hpayloads, List.length_map, List.length_replicate] at hlength
    have hrising := rising_subscribeStream transparent
      (subscriber.installSession transparent (copyFixed keySize [])) noneClosed
      (overRelay transparent engine.sessionID (performAll transparent (Progress.start engine)
        (List.replicate (2 ^ 64) (.publish [] (sampleInputs 0)))).wire)
    have hlt := hrising.length_delivered_lt
    rw [hlength] at hlt
    exact lt_irrefl _ hlt

/-! ## A publisher restart -/

/-- Numbers increase along the list, so the first one decides. -/
theorem filter_eq_self_iff_head {published : List SeqMsg}
    (hincreasing : published.Pairwise fun left right => left.seqNum < right.seqNum)
    (mark : ℕ) :
    published.filter (fun msg => mark < msg.seqNum) = published ↔
      ∀ first ∈ published.head?, mark < first.seqNum := by
  rw [List.filter_eq_self]
  cases published with
  | nil => simp
  | cons head rest =>
      have hrest := (List.pairwise_cons.mp hincreasing).1
      simp only [List.head?_cons, Option.mem_some_iff, forall_eq', List.mem_cons,
        decide_eq_true_eq]
      constructor
      · intro hall
        exact hall head (Or.inl rfl)
      · rintro hhead msg (rfl | hmsg)
        · exact hhead
        · exact hhead.trans (hrest msg hmsg)

/-- The master key of the restarted publisher. -/
def restartedKey : Key := copyFixed keySize [9]

/-- What the restarted publisher publishes. -/
def restartedCalls : List Call := [.publish [tagText, 67] (sampleInputs 0)]

/-- The subscriber when the first engine has published two messages. -/
def followedStream (subscriber : SubscriberEngine) (engine : PublisherEngine) :
    Stream countingHost :=
  (subscribeStream transparent (joinedStream subscriber) (overRelay transparent engine.sessionID
    (performAll transparent (Progress.start engine) sampleCalls).wire)).1

end ZeroFeed.Delivery
