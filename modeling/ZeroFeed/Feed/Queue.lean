import ZeroFeed.Feed.Ring

/-!
# The ring buffer as a bounded queue

Whatever is pushed and wiped, the buffer stands for the last messages pushed
since the last `Wipe`, as many of them as fit.  `pushed` keeps the whole list of
those messages; the observers of the ring buffer are read off its end.
-/

namespace ZeroFeed.Queue

open ZeroFeed.ByteString
open ZeroFeed.Ring

inductive Operation where
  | push (msg : SeqMsg)
  | wipe

def perform (rb : RingBuffer) : Operation → RingBuffer
  | .push msg => rb.push msg.seqNum msg.payload
  | .wipe => rb.wipe

/-- What an operation does to the list of messages pushed since the last
`Wipe`. -/
def record (msgs : List SeqMsg) : Operation → List SeqMsg
  | .push msg => msgs ++ [msg]
  | .wipe => []

def performAll (capacity : ℤ) (operations : List Operation) : RingBuffer :=
  operations.foldl perform (newRingBuffer capacity)

def pushed (operations : List Operation) : List SeqMsg := operations.foldl record []

/-- The buffer holds the last of the messages. -/
def Holds (rb : RingBuffer) (msgs : List SeqMsg) : Prop :=
  rb.contents = msgs.rtake rb.capacity

/-- Appending to a bounded list drops its first element if it is full. -/
theorem rtake_concat {Item : Type*} (items : List Item) (item : Item) {bound : ℕ}
    (hbound : 0 < bound) :
    (items ++ [item]).rtake bound =
      (if (items.rtake bound).length = bound then (items.rtake bound).tail
        else items.rtake bound) ++ [item] := by
  obtain ⟨room, rfl⟩ := Nat.exists_eq_add_of_lt hbound
  rw [Nat.zero_add, List.rtake_concat_succ]
  congr 1
  rw [List.rtake, List.rtake, List.length_drop]
  split_ifs with hfull
  · rw [List.tail_drop]
    congr 1
    omega
  · congr 1
    omega

theorem holds_newRingBuffer (capacity : ℤ) : Holds (newRingBuffer capacity) [] := by
  rw [Holds, RingBuffer.contents_newRingBuffer, List.rtake_nil]

theorem holds_push {rb : RingBuffer} {msgs : List SeqMsg} (hholds : Holds rb msgs)
    (msg : SeqMsg) : Holds (rb.push msg.seqNum msg.payload) (msgs ++ [msg]) := by
  rw [Holds, RingBuffer.capacity_push, RingBuffer.contents_push,
    rtake_concat msgs msg rb.capacity_pos, ← hholds, RingBuffer.length_contents]

theorem holds_perform {rb : RingBuffer} {msgs : List SeqMsg} (hholds : Holds rb msgs)
    (operation : Operation) : Holds (perform rb operation) (record msgs operation) := by
  cases operation with
  | push msg => exact holds_push hholds msg
  | wipe =>
      rw [Holds, perform, record, RingBuffer.contents_wipe, List.rtake_nil]

theorem capacity_perform (rb : RingBuffer) (operation : Operation) :
    (perform rb operation).capacity = rb.capacity := by
  cases operation with
  | push msg => exact rb.capacity_push msg.seqNum msg.payload
  | wipe => rfl

theorem holds_foldl {rb : RingBuffer} {msgs : List SeqMsg} (hholds : Holds rb msgs)
    (operations : List Operation) :
    Holds (operations.foldl perform rb) (operations.foldl record msgs) ∧
      (operations.foldl perform rb).capacity = rb.capacity := by
  induction operations generalizing rb msgs with
  | nil => exact ⟨hholds, rfl⟩
  | cons operation operations ih =>
      obtain ⟨hrest, hcapacity⟩ := ih (holds_perform hholds operation)
      exact ⟨hrest, hcapacity.trans (capacity_perform rb operation)⟩

/-- The buffer refines the queue of the last messages pushed since the last
`Wipe`: every observer agrees with it, every index is in range, and a `Wipe`
leaves no payload in the array. -/
theorem performAll_observers (capacity : ℤ) (operations : List Operation) :
    let rb := performAll capacity operations
    let queue := (pushed operations).rtake (if capacity ≤ 0 then 100 else capacity.toNat)
    rb.getAll = queue.map SeqMsg.payload ∧
      (∀ lastSeqNum, rb.getAfter lastSeqNum =
        queue.filter fun msg => lastSeqNum < msg.seqNum) ∧
      rb.len = queue.length ∧
      rb.oldestSeqNum = (queue.head?.map SeqMsg.seqNum).getD 0 ∧
      rb.head < rb.data.length ∧ rb.tail < rb.data.length ∧
      (∀ offset, (rb.head + offset) % rb.capacity < rb.data.length) ∧
      ∀ slot ∈ (perform rb .wipe).data, slot.payload = none := by
  intro rb queue
  obtain ⟨hholds, hcapacity⟩ := holds_foldl (holds_newRingBuffer capacity) operations
  have hcontents : rb.contents = queue := by
    rw [Holds, hcapacity, RingBuffer.capacity_newRingBuffer] at hholds
    exact hholds
  refine ⟨?_, ?_, ?_, ?_, ?_, ?_, rb.index_lt, ?_⟩
  · rw [rb.getAll_eq_map, hcontents]
  · intro lastSeqNum
    rw [rb.getAfter_eq_filter, hcontents]
  · rw [← hcontents, rb.length_contents]
    rfl
  · rw [rb.oldestSeqNum_eq_head?, hcontents]
  · rw [rb.length_data]
    exact rb.head_lt
  · rw [rb.tail_eq]
    exact rb.index_lt rb.size
  · intro slot hslot
    exact RingBuffer.payload_wipe hslot

/-- Three pushes into two cells, with a wipe before them. -/
example : (performAll 2 [.push ⟨1, []⟩, .wipe, .push ⟨2, [2]⟩, .push ⟨3, []⟩,
    .push ⟨5, [5]⟩]).getAfter 0 = [⟨3, []⟩, ⟨5, [5]⟩] := by
  decide +kernel

end ZeroFeed.Queue
