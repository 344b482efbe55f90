import ZeroFeed.Core.ByteString
import ZeroFeed.Core.Circular

/-!
# The RAM ring buffer (`pkg/feed/ringbuffer.go`)

The publisher keeps its last 100 messages for replay and the subscriber its
last 100 deliveries.  The structure carries the index arithmetic as fields, so
every ring buffer is well formed by construction; `contents` is the list it
stands for.  Payload buffers are copied in and out, so they are values here.
-/

namespace ZeroFeed.Ring

open ZeroFeed.ByteString
open ZeroFeed.Circular

/-- A sequence-numbered payload. -/
structure SeqMsg where
  seqNum : ℕ
  payload : Bytes
  deriving DecidableEq

/-- One array cell.  `none` is Go's `nil` payload. -/
structure Slot where
  seqNum : ℕ
  payload : Option Bytes
  deriving DecidableEq

/-- The zero value of a cell. -/
def emptySlot : Slot := ⟨0, none⟩

def Slot.msg (slot : Slot) : SeqMsg := ⟨slot.seqNum, slot.payload.getD []⟩

structure RingBuffer where
  capacity : ℕ
  data : List Slot
  head : ℕ
  tail : ℕ
  size : ℕ
  capacity_pos : 0 < capacity
  length_data : data.length = capacity
  head_lt : head < capacity
  size_le : size ≤ capacity
  tail_eq : tail = (head + size) % capacity

def newRingBuffer (capacity : ℤ) : RingBuffer :=
  let capacity : ℕ := if capacity ≤ 0 then 100 else capacity.toNat
  have hpos : 0 < capacity := by
    by_cases hnonpos : capacity = 0 <;> grind
  { capacity := capacity
    data := List.replicate capacity emptySlot
    head := 0
    tail := 0
    size := 0
    capacity_pos := hpos
    length_data := List.length_replicate
    head_lt := hpos
    size_le := Nat.zero_le capacity
    tail_eq := by simp }

namespace RingBuffer

/-- The messages held, oldest first. -/
def contents (rb : RingBuffer) : List SeqMsg :=
  (window emptySlot rb.data rb.head rb.size).map Slot.msg

/-- `Push` on a full buffer first scrubs and releases the oldest cell. -/
def makeRoom (rb : RingBuffer) : RingBuffer :=
  if hfull : rb.size = rb.capacity then
    { rb with
      data := rb.data.set rb.head
        { rb.data.getD rb.head emptySlot with payload := none }
      head := (rb.head + 1) % rb.capacity
      size := rb.size - 1
      length_data := by rw [List.length_set, rb.length_data]
      head_lt := Nat.mod_lt _ rb.capacity_pos
      size_le := (Nat.sub_le _ _).trans rb.size_le
      tail_eq := by
        have hpos := rb.capacity_pos
        rw [Nat.mod_add_mod, rb.tail_eq]
        congr 1
        omega }
  else rb

theorem makeRoom_size_lt (rb : RingBuffer) : rb.makeRoom.size < rb.makeRoom.capacity := by
  have hpos := rb.capacity_pos
  have hle := rb.size_le
  rw [makeRoom]
  split
  · change rb.size - 1 < rb.capacity
    omega
  · omega

def push (rb : RingBuffer) (seqNum : ℕ) (msg : Bytes) : RingBuffer :=
  let room := rb.makeRoom
  { room with
    data := room.data.set room.tail ⟨seqNum, some msg⟩
    tail := (room.tail + 1) % room.capacity
    size := room.size + 1
    length_data := by rw [List.length_set, room.length_data]
    size_le := rb.makeRoom_size_lt
    tail_eq := by
      rw [room.tail_eq, Nat.mod_add_mod]
      rfl }

/-- `GetAfter`: the stored messages numbered above `lastSeqNum`, oldest first. -/
def getAfter (rb : RingBuffer) (lastSeqNum : ℕ) : List SeqMsg :=
  (List.range rb.size).filterMap fun offset =>
    let item := rb.data.getD ((rb.head + offset) % rb.capacity) emptySlot
    if lastSeqNum < item.seqNum then some ⟨item.seqNum, item.payload.getD []⟩ else none

def getAll (rb : RingBuffer) : List Bytes :=
  (List.range rb.size).map fun offset =>
    (rb.data.getD ((rb.head + offset) % rb.capacity) emptySlot).payload.getD []

def len (rb : RingBuffer) : ℕ := rb.size

def oldestSeqNum (rb : RingBuffer) : ℕ :=
  if rb.size = 0 then 0 else (rb.data.getD rb.head emptySlot).seqNum

def isOverflow (rb : RingBuffer) (lastSeqNum : ℕ) : Bool :=
  if rb.size = 0 ∨ lastSeqNum = 0 then false
  else
    let oldest := (rb.data.getD rb.head emptySlot).seqNum
    decide (0 < oldest ∧ lastSeqNum < oldest - 1)

/-- `Wipe` clears every cell that holds a payload and resets the indices. -/
def wipe (rb : RingBuffer) : RingBuffer :=
  { rb with
    data := rb.data.map fun slot => if slot.payload.isSome then emptySlot else slot
    head := 0
    tail := 0
    size := 0
    length_data := by rw [List.length_map, rb.length_data]
    head_lt := rb.capacity_pos
    size_le := Nat.zero_le rb.capacity
    tail_eq := by simp }

@[simp]
theorem contents_newRingBuffer (capacity : ℤ) : (newRingBuffer capacity).contents = [] :=
  rfl

@[simp]
theorem contents_wipe (rb : RingBuffer) : rb.wipe.contents = [] := rfl

theorem contents_makeRoom (rb : RingBuffer) :
    rb.makeRoom.contents =
      if rb.size = rb.capacity then rb.contents.tail else rb.contents := by
  have hpos := rb.capacity_pos
  rw [makeRoom]
  by_cases hfull : rb.size = rb.capacity
  · rw [dif_pos hfull, if_pos hfull]
    simp only [contents]
    rw [window_set_of_ne]
    · have hsize : rb.size = rb.size - 1 + 1 := by omega
      have hadvance := window_advance emptySlot rb.data rb.head (rb.size - 1)
      rw [rb.length_data, ← hsize] at hadvance
      rw [hadvance, List.map_tail]
    · intro offset hoffset heq
      have hhead : rb.head = (rb.head + 0) % rb.data.length := by
        rw [rb.length_data, Nat.add_zero, Nat.mod_eq_of_lt rb.head_lt]
      have hshift : ((rb.head + 1) % rb.capacity + offset) % rb.data.length =
          (rb.head + (offset + 1)) % rb.data.length := by
        rw [rb.length_data, Nat.mod_add_mod]
        congr 1
        omega
      rw [hshift] at heq
      have hoffsets := offset_injective (by rw [rb.length_data]; omega)
        (by rw [rb.length_data]; omega) (heq.trans hhead)
      omega
  · rw [dif_neg hfull, if_neg hfull]

/-- `Push` appends the message and, on a full buffer, drops the oldest one. -/
theorem contents_push (rb : RingBuffer) (seqNum : ℕ) (msg : Bytes) :
    (rb.push seqNum msg).contents =
      (if rb.size = rb.capacity then rb.contents.tail else rb.contents) ++
        [⟨seqNum, msg⟩] := by
  rw [← contents_makeRoom]
  have hroom := rb.makeRoom_size_lt
  have hspace : rb.makeRoom.size < rb.makeRoom.data.length := by
    rw [rb.makeRoom.length_data]
    exact hroom
  have hnext : window emptySlot (rb.makeRoom.data.set
      ((rb.makeRoom.head + rb.makeRoom.size) % rb.makeRoom.data.length)
        ⟨seqNum, some msg⟩) rb.makeRoom.head (rb.makeRoom.size + 1) =
      window emptySlot rb.makeRoom.data rb.makeRoom.head rb.makeRoom.size ++
        [⟨seqNum, some msg⟩] :=
    window_set_next emptySlot rb.makeRoom.data ⟨seqNum, some msg⟩ hspace
  rw [rb.makeRoom.length_data, ← rb.makeRoom.tail_eq] at hnext
  simp only [contents, push]
  rw [hnext, List.map_append]
  rfl

theorem mem_contents_push {rb : RingBuffer} {seqNum : ℕ} {msg : Bytes} {item : SeqMsg}
    (hmem : item ∈ (rb.push seqNum msg).contents) :
    item ∈ rb.contents ∨ item = ⟨seqNum, msg⟩ := by
  rw [contents_push, List.mem_append, List.mem_singleton] at hmem
  rcases hmem with hmem | hmem
  · left
    by_cases hfull : rb.size = rb.capacity
    · rw [if_pos hfull] at hmem
      exact List.mem_of_mem_tail hmem
    · rwa [if_neg hfull] at hmem
  · exact Or.inr hmem

theorem filterMap_slots (slots : List Slot) (lastSeqNum : ℕ) :
    (slots.filterMap fun item =>
        if lastSeqNum < item.seqNum then some item.msg else none) =
      (slots.map Slot.msg).filter fun item => lastSeqNum < item.seqNum := by
  induction slots with
  | nil => rfl
  | cons slot slots ih =>
      rw [List.filterMap_cons, List.map_cons, List.filter_cons, ih]
      by_cases habove : lastSeqNum < slot.seqNum
      · simp [habove, Slot.msg]
      · simp [habove, Slot.msg]

theorem getAfter_eq_filter (rb : RingBuffer) (lastSeqNum : ℕ) :
    rb.getAfter lastSeqNum =
      rb.contents.filter fun item => lastSeqNum < item.seqNum := by
  rw [contents, ← filterMap_slots, window, List.filterMap_map, rb.length_data]
  rfl

theorem getAll_eq_map (rb : RingBuffer) : rb.getAll = rb.contents.map SeqMsg.payload := by
  rw [contents, window, List.map_map, List.map_map, rb.length_data]
  rfl

@[simp]
theorem length_contents (rb : RingBuffer) : rb.contents.length = rb.size := by
  simp [contents, window]

theorem head?_contents (rb : RingBuffer) :
    rb.contents.head? =
      if rb.size = 0 then none else some (rb.data.getD rb.head emptySlot).msg := by
  have hhead : (rb.head + 0) % rb.data.length = rb.head := by
    rw [Nat.add_zero, rb.length_data, Nat.mod_eq_of_lt rb.head_lt]
  cases hsize : rb.size with
  | zero => simp [contents, window, hsize]
  | succ size =>
      rw [if_neg (Nat.succ_ne_zero size), contents, window, hsize, List.range_succ_eq_map,
        List.map_cons, List.map_cons, List.head?_cons, hhead]

theorem oldestSeqNum_eq_head? (rb : RingBuffer) :
    rb.oldestSeqNum = (rb.contents.head?.map SeqMsg.seqNum).getD 0 := by
  rw [oldestSeqNum, head?_contents]
  split_ifs <;> rfl

/-- `IsOverflow` compares with the number before the oldest one held. -/
theorem isOverflow_eq_true_iff (rb : RingBuffer) (lastSeqNum : ℕ) :
    rb.isOverflow lastSeqNum = true ↔ lastSeqNum ≠ 0 ∧
      ∃ oldest ∈ rb.contents.head?, lastSeqNum < oldest.seqNum - 1 := by
  rw [isOverflow, head?_contents]
  by_cases hsize : rb.size = 0
  · simp [hsize]
  · by_cases hlast : lastSeqNum = 0
    · simp [hlast]
    · simp only [hsize, hlast, or_self, if_false, decide_eq_true_eq, Option.mem_some_iff,
        exists_eq_left', Slot.msg, ne_eq, not_false_eq_true, true_and]
      omega

@[simp]
theorem capacity_newRingBuffer (capacity : ℤ) :
    (newRingBuffer capacity).capacity = if capacity ≤ 0 then 100 else capacity.toNat := rfl

@[simp]
theorem capacity_wipe (rb : RingBuffer) : rb.wipe.capacity = rb.capacity := rfl

@[simp]
theorem capacity_push (rb : RingBuffer) (seqNum : ℕ) (msg : Bytes) :
    (rb.push seqNum msg).capacity = rb.capacity := by
  change rb.makeRoom.capacity = rb.capacity
  rw [makeRoom]
  split <;> rfl

/-- Every cell the code touches lies inside the array. -/
theorem index_lt (rb : RingBuffer) (offset : ℕ) :
    (rb.head + offset) % rb.capacity < rb.data.length := by
  rw [rb.length_data]
  exact Nat.mod_lt _ rb.capacity_pos

theorem payload_wipe {rb : RingBuffer} {slot : Slot} (hslot : slot ∈ rb.wipe.data) :
    slot.payload = none := by
  obtain ⟨before, -, rfl⟩ := List.mem_map.mp hslot
  split
  · rfl
  · rename_i hnone
    exact Option.not_isSome_iff_eq_none.mp hnone

end RingBuffer

end ZeroFeed.Ring
