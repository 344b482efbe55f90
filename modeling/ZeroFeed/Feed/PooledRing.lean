import ZeroFeed.Core.Recycling
import ZeroFeed.Feed.Ring

/-!
# Ring buffers on pooled memory (`pkg/feed/ringbuffer.go`)

All ring buffers of a process take their payload buffers from one pool and give
them back to it, and so do the copies `GetAfter` and `GetAll` hand out.  Here the
cells hold slices of arrays instead of payloads, and the pool may hand out any of
its buffers or a new one.

The operations of one ring buffer exclude each other by its lock, and those of
different ring buffers share only the pool, so a run of a process is a sequence of
operations.  Every such run does what the ring buffers with plain payloads do
(`Ring.RingBuffer`), and no byte of a payload stays anywhere but in the cells of the
ring buffers and in the copies that have not been given back.
-/

namespace ZeroFeed.PooledRing

open ZeroFeed.ByteString
open ZeroFeed.Slices
open ZeroFeed.Recycling

/-! ## The pool -/

/-- The capacity of the buffers `bufPool.New` makes. -/
def poolBufferSize : ℕ := 4096

def getBuffer (arena : Arena Byte) (size choice : ℕ) : Slice × Arena Byte :=
  arena.take poolBufferSize size choice

/-- `none` is Go's `nil`. -/
def putBuffer (arena : Arena Byte) : Option Slice → Arena Byte
  | none => arena
  | some window => arena.release window

/-- `getBuffer` for the length of a payload and `copy` from it. -/
def copyOut (arena : Arena Byte) (payload : Option Slice) (choice : ℕ) : Slice × Arena Byte :=
  let buffer := getBuffer arena (payload.elim 0 Slice.len) choice
  (buffer.1, buffer.2.fill buffer.1 (payload.elim [] buffer.2.contents))

/-! ## Ring buffers -/

structure Cell where
  seqNum : ℕ
  payload : Option Slice

def emptyCell : Cell := ⟨0, none⟩

/-- A message handed out by `GetAfter` or `GetAll`. -/
structure Copy where
  seqNum : ℕ
  payload : Slice

/-- The cells behind the window of live ones are `nil`, so that nothing is lost when
one of them is written. -/
structure RingBuffer where
  capacity : ℕ
  data : List Cell
  head : ℕ
  tail : ℕ
  size : ℕ
  capacity_pos : 0 < capacity
  length_data : data.length = capacity
  head_lt : head < capacity
  size_le : size ≤ capacity
  tail_eq : tail = (head + size) % capacity
  vacant : ∀ offset, size ≤ offset → offset < capacity →
    (data.getD ((head + offset) % capacity) emptyCell).payload = none

def newRingBuffer (capacity : ℤ) : RingBuffer :=
  { Ring.newRingBuffer capacity with
    data := List.replicate (Ring.newRingBuffer capacity).capacity emptyCell
    length_data := List.length_replicate
    vacant := by
      intro offset _ _
      rw [List.getD_eq_getElem?_getD, List.getElem?_replicate]
      split <;> rfl }

namespace RingBuffer

variable (rb : RingBuffer)

/-- The slices in the cells. -/
def windows : List Slice := rb.data.filterMap Cell.payload

/-- The part of `Push` that scrubs and releases the oldest cell of a full buffer. -/
def makeRoom (arena : Arena Byte) : RingBuffer × Arena Byte :=
  if hfull : rb.size = rb.capacity then
    ({ rb with
        data := rb.data.set rb.head
          { rb.data.getD rb.head emptyCell with payload := none }
        head := (rb.head + 1) % rb.capacity
        size := rb.size - 1
        length_data := by rw [List.length_set, rb.length_data]
        head_lt := Nat.mod_lt _ rb.capacity_pos
        size_le := (Nat.sub_le _ _).trans rb.size_le
        tail_eq := by
          have hpos := rb.capacity_pos
          rw [Nat.mod_add_mod, rb.tail_eq]
          congr 1
          omega
        vacant := by
          intro offset hlow hhigh
          have hpos := rb.capacity_pos
          have hoffset : offset = rb.capacity - 1 := by omega
          have hindex : ((rb.head + 1) % rb.capacity + offset) % rb.capacity = rb.head := by
            rw [Nat.mod_add_mod, show rb.head + 1 + offset = rb.head + rb.capacity by omega,
              Nat.add_mod_right, Nat.mod_eq_of_lt rb.head_lt]
          have hlt : rb.head < rb.data.length := by
            rw [rb.length_data]
            exact rb.head_lt
          rw [hindex, List.getD_eq_getElem?_getD, List.getElem?_set_self hlt]
          rfl },
      putBuffer arena (rb.data.getD rb.head emptyCell).payload)
  else (rb, arena)

theorem makeRoom_size_lt (arena : Arena Byte) :
    (rb.makeRoom arena).1.size < (rb.makeRoom arena).1.capacity := by
  have hpos := rb.capacity_pos
  have hle := rb.size_le
  rw [makeRoom]
  split
  · change rb.size - 1 < rb.capacity
    omega
  · change rb.size < rb.capacity
    omega

/-- The part of `Push` that stores the copy behind the newest cell. -/
def store (seqNum : ℕ) (msgCopy : Slice) (hroom : rb.size < rb.capacity) : RingBuffer :=
  { rb with
    data := rb.data.set rb.tail ⟨seqNum, some msgCopy⟩
    tail := (rb.tail + 1) % rb.capacity
    size := rb.size + 1
    length_data := by rw [List.length_set, rb.length_data]
    size_le := hroom
    tail_eq := by
      rw [rb.tail_eq, Nat.mod_add_mod]
      rfl
    vacant := by
      intro offset hlow hhigh
      have hne : rb.tail ≠ (rb.head + offset) % rb.capacity := by
        rw [rb.tail_eq]
        intro heq
        have := Circular.offset_injective hroom hhigh heq
        omega
      rw [List.getD_eq_getElem?_getD, List.getElem?_set_ne hne, ← List.getD_eq_getElem?_getD]
      exact rb.vacant offset (by omega) hhigh }

def push (arena : Arena Byte) (seqNum : ℕ) (msg : Bytes) (choice : ℕ) :
    RingBuffer × Arena Byte :=
  let msgCopy := getBuffer arena msg.length choice
  let arena := msgCopy.2.fill msgCopy.1 msg
  ((rb.makeRoom arena).1.store seqNum msgCopy.1 (rb.makeRoom_size_lt arena),
    (rb.makeRoom arena).2)

/-- The loop of `GetAfter` and `GetAll` over the given places behind the oldest cell. -/
def copyFrom (wanted : Cell → Bool) (choices : ℕ → ℕ) (arena : Arena Byte) :
    List ℕ → List Copy × Arena Byte
  | [] => ([], arena)
  | offset :: rest =>
      let item := rb.data.getD ((rb.head + offset) % rb.capacity) emptyCell
      if wanted item then
        let payloadCopy := copyOut arena item.payload (choices offset)
        let later := copyFrom wanted choices payloadCopy.2 rest
        (⟨item.seqNum, payloadCopy.1⟩ :: later.1, later.2)
      else copyFrom wanted choices arena rest

def getAfter (arena : Arena Byte) (lastSeqNum : ℕ) (choices : ℕ → ℕ) : List Copy × Arena Byte :=
  rb.copyFrom (fun item => lastSeqNum < item.seqNum) choices arena (List.range rb.size)

/-- `GetAll`, with the numbers of the messages beside their copies. -/
def getAll (arena : Arena Byte) (choices : ℕ → ℕ) : List Copy × Arena Byte :=
  rb.copyFrom (fun _ => true) choices arena (List.range rb.size)

def wipe (arena : Arena Byte) : RingBuffer × Arena Byte :=
  ({ rb with
      data := rb.data.map fun cell => if cell.payload.isSome then emptyCell else cell
      head := 0
      tail := 0
      size := 0
      length_data := by rw [List.length_map, rb.length_data]
      head_lt := rb.capacity_pos
      size_le := Nat.zero_le rb.capacity
      tail_eq := by simp
      vacant := by
        intro offset _ _
        rw [List.getD_eq_getElem?_getD, List.getElem?_map]
        cases rb.data[(0 + offset) % rb.capacity]? with
        | none => rfl
        | some cell =>
            simp only [Option.map_some, Option.getD_some]
            split
            · rfl
            · rename_i hnone
              exact Option.not_isSome_iff_eq_none.mp hnone },
    arena.releaseAll rb.windows)

end RingBuffer

/-! ## The payloads behind the slices -/

def Cell.view (memory : Memory Byte) (cell : Cell) : Ring.Slot :=
  ⟨cell.seqNum, cell.payload.map memory.contents⟩

def Copy.view (memory : Memory Byte) (copy : Copy) : Ring.SeqMsg :=
  ⟨copy.seqNum, memory.contents copy.payload⟩

/-- The ring buffer with plain payloads a pooled one stands for. -/
def RingBuffer.view (memory : Memory Byte) (rb : RingBuffer) : Ring.RingBuffer :=
  { rb with
    data := rb.data.map (Cell.view memory)
    length_data := by rw [List.length_map, rb.length_data] }

theorem ring_ext {left right : Ring.RingBuffer} (hcapacity : left.capacity = right.capacity)
    (hdata : left.data = right.data) (hhead : left.head = right.head)
    (htail : left.tail = right.tail) (hsize : left.size = right.size) : left = right := by
  cases left
  cases right
  cases hcapacity
  cases hdata
  cases hhead
  cases htail
  cases hsize
  rfl

/-- A cell read through the view. -/
theorem getD_view (memory : Memory Byte) (data : List Cell) (index : ℕ) :
    (data.map (Cell.view memory)).getD index Ring.emptySlot =
      (data.getD index emptyCell).view memory := by
  rw [List.getD_eq_getElem?_getD, List.getD_eq_getElem?_getD, List.getElem?_map]
  cases data[index]? <;> rfl

theorem view_congr {arena arena' : Arena Byte} {data : List Cell}
    (hsame : Same (data.filterMap Cell.payload) arena arena') :
    data.map (Cell.view arena'.toMemory) = data.map (Cell.view arena.toMemory) := by
  apply List.map_congr_left
  intro cell hcell
  rw [Cell.view, Cell.view]
  cases hpayload : cell.payload with
  | none => rfl
  | some window =>
      have hmem : window ∈ data.filterMap Cell.payload :=
        List.mem_filterMap.mpr ⟨cell, hcell, hpayload⟩
      rw [Option.map_some, Option.map_some, hsame window hmem]

namespace RingBuffer

variable {arena : Arena Byte} {rb : RingBuffer} {others : List Slice}

theorem view_of_same {arena' : Arena Byte} (hsame : Same rb.windows arena arena') :
    rb.view arena'.toMemory = rb.view arena.toMemory :=
  ring_ext rfl (view_congr hsame) rfl rfl rfl

/-! ## One operation -/

theorem putBuffer_tidy {payload : Option Slice} (htidy : Tidy arena (payload.toList ++ others)) :
    Tidy (putBuffer arena payload) others ∧ Same others arena (putBuffer arena payload) := by
  cases payload with
  | none => exact ⟨htidy, fun _ _ => rfl⟩
  | some window => exact htidy.release

/-- The slices in the cells: the one at a place, and those at the other places. -/
theorem filterMap_perm_eraseIdx {data : List Cell} {index : ℕ} (hindex : index < data.length) :
    (data.filterMap Cell.payload).Perm
      ((data.getD index emptyCell).payload.toList ++
        (data.eraseIdx index).filterMap Cell.payload) := by
  have hperm := ((List.getElem_cons_eraseIdx_perm hindex).filterMap Cell.payload).symm
  have hcell : data.getD index emptyCell = data[index] := by
    rw [List.getD_eq_getElem?_getD, List.getElem?_eq_getElem hindex, Option.getD_some]
  rw [List.filterMap_cons, ← hcell] at hperm
  cases hpayload : (data.getD index emptyCell).payload with
  | none =>
      rw [hpayload] at hperm
      exact hperm
  | some window =>
      rw [hpayload] at hperm
      exact hperm

theorem filterMap_set_perm {data : List Cell} {index : ℕ} (hindex : index < data.length)
    (cell : Cell) :
    ((data.set index cell).filterMap Cell.payload).Perm
      (cell.payload.toList ++ (data.eraseIdx index).filterMap Cell.payload) := by
  have hperm := @filterMap_perm_eraseIdx (data.set index cell) index (by simpa using hindex)
  rw [List.eraseIdx_set_eq, List.getD_eq_getElem?_getD, List.getElem?_set_self hindex] at hperm
  exact hperm

theorem makeRoom_tidy (htidy : Tidy arena (rb.windows ++ others)) :
    Tidy (rb.makeRoom arena).2 ((rb.makeRoom arena).1.windows ++ others) ∧
      (rb.makeRoom arena).1.view (rb.makeRoom arena).2.toMemory =
        (rb.view arena.toMemory).makeRoom ∧
      Same others arena (rb.makeRoom arena).2 := by
  rw [makeRoom, Ring.RingBuffer.makeRoom]
  by_cases hfull : rb.size = rb.capacity
  · have hhead : rb.head < rb.data.length := by
      rw [rb.length_data]
      exact rb.head_lt
    have hbefore := (filterMap_perm_eraseIdx hhead).append_right others
    rw [List.append_assoc] at hbefore
    obtain ⟨hreleased, hsame⟩ := putBuffer_tidy (htidy.perm hbefore)
    have hafter := filterMap_set_perm hhead
      { rb.data.getD rb.head emptyCell with payload := none }
    have hfullView : (rb.view arena.toMemory).size = (rb.view arena.toMemory).capacity := hfull
    rw [dif_pos hfull, dif_pos hfullView]
    refine ⟨hreleased.perm (hafter.append_right others).symm, ring_ext rfl ?_ rfl rfl rfl,
      hsame.subset (List.subset_append_right _ _)⟩
    have hcells : Same ((rb.data.set rb.head
        { rb.data.getD rb.head emptyCell with payload := none }).filterMap Cell.payload) arena
          (putBuffer arena (rb.data.getD rb.head emptyCell).payload) :=
      hsame.subset fun window hwindow => List.mem_append_left _ (hafter.mem_iff.mp hwindow)
    change (rb.data.set rb.head _).map (Cell.view _) = (rb.data.map (Cell.view _)).set rb.head _
    rw [view_congr hcells, List.map_set]
    congr 1
    rw [show (rb.view arena.toMemory).data = rb.data.map (Cell.view arena.toMemory) from rfl,
      show (rb.view arena.toMemory).head = rb.head from rfl, getD_view]
    rfl
  · have hroomView : ¬ (rb.view arena.toMemory).size = (rb.view arena.toMemory).capacity := hfull
    rw [dif_neg hfull, dif_neg hroomView]
    exact ⟨htidy, rfl, fun _ _ => rfl⟩

/-- The cell written by `store` held nothing. -/
theorem store_windows_perm (seqNum : ℕ) (msgCopy : Slice) (hroom : rb.size < rb.capacity) :
    (rb.store seqNum msgCopy hroom).windows.Perm (msgCopy :: rb.windows) := by
  have htail : rb.tail < rb.data.length := by
    rw [rb.length_data, rb.tail_eq]
    exact Nat.mod_lt _ rb.capacity_pos
  have hnone : (rb.data.getD rb.tail emptyCell).payload = none := by
    rw [rb.tail_eq]
    exact rb.vacant rb.size le_rfl hroom
  have hbefore := filterMap_perm_eraseIdx htail
  rw [hnone] at hbefore
  exact (filterMap_set_perm htail ⟨seqNum, some msgCopy⟩).trans (hbefore.symm.cons msgCopy)

theorem push_tidy (htidy : Tidy arena (rb.windows ++ others)) (seqNum : ℕ) (msg : Bytes)
    (choice : ℕ) :
    Tidy (rb.push arena seqNum msg choice).2
        ((rb.push arena seqNum msg choice).1.windows ++ others) ∧
      (rb.push arena seqNum msg choice).1.view (rb.push arena seqNum msg choice).2.toMemory =
        (rb.view arena.toMemory).push seqNum msg ∧
      Same others arena (rb.push arena seqNum msg choice).2 := by
  obtain ⟨hkept, hcontents, hsame⟩ := htidy.keep poolBufferSize choice msg
  set msgCopy := (arena.keep poolBufferSize choice msg).1 with hcopy
  set filled := (arena.keep poolBufferSize choice msg).2 with hfilled
  have hpush : rb.push arena seqNum msg choice =
      ((rb.makeRoom filled).1.store seqNum msgCopy (rb.makeRoom_size_lt filled),
        (rb.makeRoom filled).2) := rfl
  have hinHand : Tidy filled (rb.windows ++ (msgCopy :: others)) :=
    hkept.perm List.perm_middle.symm
  obtain ⟨hroom, hview, hothers⟩ := makeRoom_tidy hinHand
  rw [hpush]
  refine ⟨?_, ?_, ?_⟩
  · apply hroom.perm
    have hstored := (store_windows_perm seqNum msgCopy (rb.makeRoom_size_lt filled)).append_right
      others
    exact List.perm_middle.trans hstored.symm
  · have hmsg : (rb.makeRoom filled).2.contents msgCopy = msg :=
      (hothers msgCopy List.mem_cons_self).trans hcontents
    have hbefore : rb.view filled.toMemory = rb.view arena.toMemory :=
      view_of_same (hsame.subset (List.subset_append_left _ _))
    rw [hbefore] at hview
    have hcapacity := congrArg Ring.RingBuffer.capacity hview
    have hdata := congrArg Ring.RingBuffer.data hview
    have htail := congrArg Ring.RingBuffer.tail hview
    have hhead := congrArg Ring.RingBuffer.head hview
    have hsize := congrArg Ring.RingBuffer.size hview
    refine ring_ext hcapacity ?_ hhead ?_ (congrArg (· + 1) hsize)
    · change ((rb.makeRoom filled).1.data.set (rb.makeRoom filled).1.tail
          ⟨seqNum, some msgCopy⟩).map (Cell.view (rb.makeRoom filled).2.toMemory) =
        (rb.view arena.toMemory).makeRoom.data.set (rb.view arena.toMemory).makeRoom.tail
          ⟨seqNum, some msg⟩
      rw [List.map_set, ← hdata, ← htail, Cell.view, Option.map_some, hmsg]
      rfl
    · change ((rb.makeRoom filled).1.tail + 1) % (rb.makeRoom filled).1.capacity =
        ((rb.view arena.toMemory).makeRoom.tail + 1) % (rb.view arena.toMemory).makeRoom.capacity
      rw [← htail, ← hcapacity]
      rfl
  · have hfirst := hsame.subset (List.subset_append_right rb.windows others)
    exact hfirst.trans (hothers.subset (List.subset_cons_self _ _))

theorem copyOut_tidy {payload : Option Slice} (htidy : Tidy arena others)
    (hpayload : ∀ window ∈ payload, window ∈ others) (choice : ℕ) :
    Tidy (copyOut arena payload choice).2 ((copyOut arena payload choice).1 :: others) ∧
      (copyOut arena payload choice).2.contents (copyOut arena payload choice).1 =
        payload.elim [] arena.contents ∧
      Same others arena (copyOut arena payload choice).2 := by
  obtain ⟨htaken, hlen, hsame⟩ := htidy.take poolBufferSize (payload.elim 0 Slice.len) choice
  -- The payload is read after the buffer was taken, which did not touch it.
  have hread : payload.elim [] (getBuffer arena (payload.elim 0 Slice.len) choice).2.contents =
      payload.elim [] arena.contents := by
    cases payload with
    | none => rfl
    | some window => exact hsame window (hpayload window rfl)
  have hlength : (payload.elim [] arena.contents).length = payload.elim 0 Slice.len := by
    cases payload with
    | none => rfl
    | some window =>
        have hwhole := htidy.whole window (List.mem_append_left _ (hpayload window rfl))
        have hcap := hwhole.cap
        have hlenLe := hwhole.len_le
        change (arena.contents window).length = window.len
        rw [Memory.contents, hwhole.offset, List.drop_zero, List.length_take]
        omega
  rw [copyOut, hread]
  obtain ⟨hfilled, hcontents, hkept⟩ := htaken.fill (hlength.trans hlen.symm)
  exact ⟨hfilled, hcontents, hsame.trans hkept⟩

/-- The messages the loop of `GetAfter` and `GetAll` copies. -/
def wantedFrom (rb : RingBuffer) (wanted : Cell → Bool) (memory : Memory Byte)
    (offsets : List ℕ) : List Ring.SeqMsg :=
  offsets.filterMap fun offset =>
    let item := rb.data.getD ((rb.head + offset) % rb.capacity) emptyCell
    if wanted item then some (item.view memory).msg else none

theorem wantedFrom_of_same {arena' : Arena Byte} (wanted : Cell → Bool)
    (hsame : Same rb.windows arena arena') (offsets : List ℕ) :
    rb.wantedFrom wanted arena'.toMemory offsets = rb.wantedFrom wanted arena.toMemory offsets := by
  apply List.filterMap_congr
  intro offset _
  have hview := congrArg (fun data => data.getD ((rb.head + offset) % rb.capacity) Ring.emptySlot)
    (view_congr hsame)
  rw [getD_view, getD_view] at hview
  simp only [hview]

theorem wantedFrom_after (rb : RingBuffer) (memory : Memory Byte) (lastSeqNum : ℕ) :
    rb.wantedFrom (fun item => lastSeqNum < item.seqNum) memory (List.range rb.size) =
      (rb.view memory).getAfter lastSeqNum := by
  apply List.filterMap_congr
  intro offset _
  simp only [view, getD_view, decide_eq_true_eq]
  rfl

theorem wantedFrom_all (rb : RingBuffer) (memory : Memory Byte) :
    rb.wantedFrom (fun _ => true) memory (List.range rb.size) = (rb.view memory).contents := by
  rw [wantedFrom, Ring.RingBuffer.contents, Circular.window, List.map_map,
    (rb.view memory).length_data, ← List.filterMap_eq_map]
  apply List.filterMap_congr
  intro offset _
  simp only [view, if_pos, Function.comp_apply, getD_view]

theorem mem_windows {index : ℕ} {window : Slice}
    (hwindow : window ∈ (rb.data.getD index emptyCell).payload) : window ∈ rb.windows := by
  rw [List.getD_eq_getElem?_getD] at hwindow
  cases hcell : rb.data[index]? with
  | none =>
      rw [hcell] at hwindow
      cases hwindow
  | some cell =>
      rw [hcell, Option.getD_some] at hwindow
      exact List.mem_filterMap.mpr ⟨cell, List.mem_of_getElem? hcell, hwindow⟩

theorem msg_view (memory : Memory Byte) (cell : Cell) :
    (cell.view memory).msg = ⟨cell.seqNum, cell.payload.elim [] memory.contents⟩ := by
  rw [Cell.view, Ring.Slot.msg]
  cases cell.payload <;> rfl

theorem copyFrom_tidy (htidy : Tidy arena (rb.windows ++ others)) (wanted : Cell → Bool)
    (choices : ℕ → ℕ) (offsets : List ℕ) :
    Tidy (rb.copyFrom wanted choices arena offsets).2
        ((rb.copyFrom wanted choices arena offsets).1.map Copy.payload ++
          (rb.windows ++ others)) ∧
      (rb.copyFrom wanted choices arena offsets).1.map
          (Copy.view (rb.copyFrom wanted choices arena offsets).2.toMemory) =
        rb.wantedFrom wanted arena.toMemory offsets ∧
      Same (rb.windows ++ others) arena (rb.copyFrom wanted choices arena offsets).2 := by
  induction offsets generalizing arena others with
  | nil => exact ⟨htidy, rfl, fun _ _ => rfl⟩
  | cons offset offsets ih =>
      set item := rb.data.getD ((rb.head + offset) % rb.capacity) emptyCell with hitem
      rw [copyFrom, wantedFrom, List.filterMap_cons]
      simp only [← hitem]
      by_cases hwanted : wanted item = true
      · have hpayload : ∀ window ∈ item.payload, window ∈ rb.windows ++ others := by
          intro window hwindow
          exact List.mem_append_left _ (mem_windows hwindow)
        obtain ⟨hcopied, hcontents, hsame⟩ := copyOut_tidy htidy hpayload (choices offset)
        set copied := copyOut arena item.payload (choices offset)
        obtain ⟨hlater, hviews, hkept⟩ := ih (hcopied.perm List.perm_middle.symm)
        simp only [if_pos hwanted]
        refine ⟨?_, ?_, ?_⟩
        · apply hlater.perm
          exact (List.perm_middle.append_left _).trans List.perm_middle
        · have hcopy :=
            (hkept copied.1 (List.mem_append_right _ List.mem_cons_self)).trans hcontents
          rw [List.map_cons, hviews, wantedFrom_of_same wanted
            (hsame.subset (List.subset_append_left _ _)), Copy.view, hcopy, msg_view]
          rfl
        · have hsubset : rb.windows ++ others ⊆ rb.windows ++ copied.1 :: others :=
            ((List.Sublist.refl _).append (List.sublist_cons_self _ _)).subset
          exact hsame.trans (hkept.subset hsubset)
      · simp only [if_neg hwanted]
        exact ih htidy

theorem wipe_tidy (htidy : Tidy arena (rb.windows ++ others)) :
    Tidy (rb.wipe arena).2 ((rb.wipe arena).1.windows ++ others) ∧
      (rb.wipe arena).1.view (rb.wipe arena).2.toMemory = (rb.view arena.toMemory).wipe ∧
      Same others arena (rb.wipe arena).2 := by
  obtain ⟨hreleased, hsame⟩ := htidy.releaseAll
  have hnone : (rb.wipe arena).1.windows = [] := by
    apply List.filterMap_eq_nil_iff.mpr
    intro cell hcell
    obtain ⟨before, -, rfl⟩ := List.mem_map.mp hcell
    split
    · rfl
    · rename_i hempty
      exact Option.not_isSome_iff_eq_none.mp hempty
  refine ⟨?_, ring_ext rfl ?_ rfl rfl rfl, hsame⟩
  · rw [hnone]
    exact hreleased
  · change (rb.data.map _).map _ = (rb.data.map _).map _
    rw [List.map_map, List.map_map]
    apply List.map_congr_left
    intro cell _
    simp only [Function.comp_apply, Cell.view, Option.isSome_map]
    split
    · rfl
    · rename_i hempty
      rw [Option.not_isSome_iff_eq_none.mp hempty]
      rfl

end RingBuffer

/-! ## Processes -/

/-- The ring buffers of a process, and the copies its callers have not given back. -/
structure Process where
  arena : Arena Byte
  rings : List RingBuffer
  copies : List Copy

inductive Operation where
  | newRingBuffer (capacity : ℤ)
  | push (ring seqNum : ℕ) (msg : Bytes) (choice : ℕ)
  | getAfter (ring lastSeqNum : ℕ) (choices : ℕ → ℕ)
  | getAll (ring : ℕ) (choices : ℕ → ℕ)
  | wipe (ring : ℕ)
  | putBuffer (copy : ℕ)
  | collect (choice : ℕ)

namespace Process

def start : Process := ⟨⟨⟨fun _ => [], 0⟩, []⟩, [], []⟩

variable (process : Process)

/-- An operation that replaces a ring buffer. -/
def update (ring : ℕ) (operation : RingBuffer → Arena Byte → RingBuffer × Arena Byte) : Process :=
  match process.rings[ring]? with
  | none => process
  | some rb =>
      { process with
        arena := (operation rb process.arena).2
        rings := process.rings.set ring (operation rb process.arena).1 }

/-- An operation that hands out copies. -/
def handOut (ring : ℕ) (operation : RingBuffer → Arena Byte → List Copy × Arena Byte) : Process :=
  match process.rings[ring]? with
  | none => process
  | some rb =>
      { process with
        arena := (operation rb process.arena).2
        copies := (operation rb process.arena).1 ++ process.copies }

def step : Operation → Process
  | .newRingBuffer capacity => { process with rings := newRingBuffer capacity :: process.rings }
  | .push ring seqNum msg choice =>
      process.update ring fun rb arena => rb.push arena seqNum msg choice
  | .getAfter ring lastSeqNum choices =>
      process.handOut ring fun rb arena => rb.getAfter arena lastSeqNum choices
  | .getAll ring choices => process.handOut ring fun rb arena => rb.getAll arena choices
  | .wipe ring => process.update ring fun rb arena => rb.wipe arena
  | .putBuffer copy =>
      { process with
        arena := PooledRing.putBuffer process.arena (process.copies[copy]?.map Copy.payload)
        copies := process.copies.eraseIdx copy }
  | .collect choice => { process with arena := process.arena.collect choice }

def run (operations : List Operation) : Process := operations.foldl step start

/-- The slices in use. -/
def windows : List Slice :=
  process.rings.flatMap RingBuffer.windows ++ process.copies.map Copy.payload

end Process

/-- The same with plain payloads. -/
structure Values where
  rings : List Ring.RingBuffer
  copies : List Ring.SeqMsg

namespace Values

variable (values : Values)

def update (ring : ℕ) (operation : Ring.RingBuffer → Ring.RingBuffer) : Values :=
  match values.rings[ring]? with
  | none => values
  | some rb => { values with rings := values.rings.set ring (operation rb) }

def handOut (ring : ℕ) (operation : Ring.RingBuffer → List Ring.SeqMsg) : Values :=
  match values.rings[ring]? with
  | none => values
  | some rb => { values with copies := operation rb ++ values.copies }

def step : Operation → Values
  | .newRingBuffer capacity =>
      { values with rings := Ring.newRingBuffer capacity :: values.rings }
  | .push ring seqNum msg _ => values.update ring fun rb => rb.push seqNum msg
  | .getAfter ring lastSeqNum _ => values.handOut ring fun rb => rb.getAfter lastSeqNum
  | .getAll ring _ => values.handOut ring fun rb => rb.contents
  | .wipe ring => values.update ring fun rb => rb.wipe
  | .putBuffer copy => { values with copies := values.copies.eraseIdx copy }
  | .collect _ => values

def run (operations : List Operation) : Values := operations.foldl step ⟨[], []⟩

end Values

/-- What a process stands for. -/
def Process.view (process : Process) : Values where
  rings := process.rings.map (RingBuffer.view process.arena.toMemory)
  copies := process.copies.map (Copy.view process.arena.toMemory)

section Steps

variable {process : Process} (htidy : Tidy process.arena process.windows)

theorem getElem?_view (process : Process) (ring : ℕ) :
    process.view.rings[ring]? =
      process.rings[ring]?.map (RingBuffer.view process.arena.toMemory) :=
  List.getElem?_map ..

/-- The slices of the other ring buffers and of the copies. -/
def besides (process : Process) (ring : ℕ) : List Slice :=
  (process.rings.eraseIdx ring).flatMap RingBuffer.windows ++ process.copies.map Copy.payload

theorem windows_perm {ring : ℕ} {rb : RingBuffer} (hring : process.rings[ring]? = some rb) :
    process.windows.Perm (rb.windows ++ besides process ring) := by
  obtain ⟨hlt, rfl⟩ := List.getElem?_eq_some_iff.mp hring
  have hsplit := (List.getElem_cons_eraseIdx_perm hlt).symm.flatMap_right RingBuffer.windows
  rw [List.flatMap_cons] at hsplit
  rw [Process.windows, besides, ← List.append_assoc]
  exact hsplit.append_right _

/-- The views of two lists of ring buffers that differ at one place. -/
theorem map_set_congr {memory memory' : Memory Byte} {rings : List RingBuffer} {ring : ℕ}
    (value : Ring.RingBuffer)
    (hsame : ∀ rb ∈ rings.eraseIdx ring, rb.view memory' = rb.view memory) :
    (rings.map (RingBuffer.view memory')).set ring value =
      (rings.map (RingBuffer.view memory)).set ring value := by
  apply List.ext_getElem?
  intro index
  by_cases hindex : index = ring
  · subst hindex
    simp [List.getElem?_set]
  · rw [List.getElem?_set_ne (Ne.symm hindex), List.getElem?_set_ne (Ne.symm hindex),
      List.getElem?_map, List.getElem?_map]
    cases hrb : rings[index]? with
    | none => rfl
    | some rb =>
        have hmem : rb ∈ rings.eraseIdx ring :=
          List.mem_eraseIdx_iff_getElem?.mpr ⟨index, hindex, hrb⟩
        rw [Option.map_some, Option.map_some, hsame rb hmem]

theorem copies_congr {arena arena' : Arena Byte} {copies : List Copy}
    (hsame : Same (copies.map Copy.payload) arena arena') :
    copies.map (Copy.view arena'.toMemory) = copies.map (Copy.view arena.toMemory) := by
  apply List.map_congr_left
  intro copy hcopy
  rw [Copy.view, Copy.view, hsame copy.payload (List.mem_map.mpr ⟨copy, hcopy, rfl⟩)]

theorem rings_congr {arena arena' : Arena Byte} {rings : List RingBuffer}
    (hsame : Same (rings.flatMap RingBuffer.windows) arena arena') {rb : RingBuffer}
    (hrb : rb ∈ rings) : rb.view arena'.toMemory = rb.view arena.toMemory :=
  RingBuffer.view_of_same
    (hsame.subset fun _ hwindow => List.mem_flatMap.mpr ⟨rb, hrb, hwindow⟩)

include htidy

theorem update_refines {ring : ℕ}
    {operation : RingBuffer → Arena Byte → RingBuffer × Arena Byte}
    {value : Ring.RingBuffer → Ring.RingBuffer}
    (hoperation : ∀ rb arena others, Tidy arena (rb.windows ++ others) →
      Tidy (operation rb arena).2 ((operation rb arena).1.windows ++ others) ∧
        (operation rb arena).1.view (operation rb arena).2.toMemory =
          value (rb.view arena.toMemory) ∧ Same others arena (operation rb arena).2) :
    Tidy (process.update ring operation).arena (process.update ring operation).windows ∧
      (process.update ring operation).view = process.view.update ring value := by
  rw [Process.update, Values.update, getElem?_view]
  cases hring : process.rings[ring]? with
  | none =>
      rw [Option.map_none]
      exact ⟨htidy, rfl⟩
  | some rb =>
      rw [Option.map_some]
      obtain ⟨hnext, hview, hsame⟩ :=
        hoperation rb process.arena _ (htidy.perm (windows_perm hring))
      have hlt := (List.getElem?_eq_some_iff.mp hring).1
      constructor
      · apply hnext.perm
        have hafter := @windows_perm
          ⟨(operation rb process.arena).2, process.rings.set ring (operation rb process.arena).1,
            process.copies⟩ ring _ (List.getElem?_set_self hlt)
        rw [besides, List.eraseIdx_set_eq] at hafter
        exact hafter.symm
      · have hrings : (process.rings.set ring (operation rb process.arena).1).map
            (RingBuffer.view (operation rb process.arena).2.toMemory) =
              process.view.rings.set ring (value (rb.view process.arena.toMemory)) := by
          rw [List.map_set, hview]
          apply map_set_congr
          intro other hother
          exact rings_congr (hsame.subset (List.subset_append_left _ _)) hother
        have hcopies := copies_congr (hsame.subset (List.subset_append_right _ _))
        rw [Process.view, hrings, hcopies]
        rfl

theorem handOut_refines {ring : ℕ}
    {operation : RingBuffer → Arena Byte → List Copy × Arena Byte}
    {value : Ring.RingBuffer → List Ring.SeqMsg}
    (hoperation : ∀ rb arena others, Tidy arena (rb.windows ++ others) →
      Tidy (operation rb arena).2
          ((operation rb arena).1.map Copy.payload ++ (rb.windows ++ others)) ∧
        (operation rb arena).1.map (Copy.view (operation rb arena).2.toMemory) =
          value (rb.view arena.toMemory) ∧
        Same (rb.windows ++ others) arena (operation rb arena).2) :
    Tidy (process.handOut ring operation).arena (process.handOut ring operation).windows ∧
      (process.handOut ring operation).view = process.view.handOut ring value := by
  rw [Process.handOut, Values.handOut, getElem?_view]
  cases hring : process.rings[ring]? with
  | none =>
      rw [Option.map_none]
      exact ⟨htidy, rfl⟩
  | some rb =>
      rw [Option.map_some]
      have hperm := windows_perm hring
      obtain ⟨hnext, hview, hkept⟩ := hoperation rb process.arena _ (htidy.perm hperm)
      have hsame : Same process.windows process.arena (operation rb process.arena).2 :=
        hkept.subset fun _ hwindow => hperm.mem_iff.mp hwindow
      constructor
      · have hall := hnext.perm (hperm.symm.append_left _)
        rw [Process.windows, List.map_append]
        exact hall.perm (List.perm_append_comm_assoc _ _ _)
      · have hrings : process.rings.map
            (RingBuffer.view (operation rb process.arena).2.toMemory) = process.view.rings :=
          List.map_congr_left fun other hother =>
            rings_congr (hsame.subset (List.subset_append_left _ _)) hother
        have hcopies := copies_congr (hsame.subset (List.subset_append_right _ _))
        rw [Process.view, hrings, List.map_append, hview, hcopies]
        rfl

/-- A copy that is given back, if there is one at the place. -/
theorem putBuffer_refines (copy : ℕ) :
    Tidy (process.step (.putBuffer copy)).arena (process.step (.putBuffer copy)).windows ∧
      (process.step (.putBuffer copy)).view = process.view.step (.putBuffer copy) := by
  have hperm : (process.copies.map Copy.payload).Perm
      ((process.copies[copy]?.map Copy.payload).toList ++
        (process.copies.eraseIdx copy).map Copy.payload) := by
    cases hcopy : process.copies[copy]? with
    | none =>
        rw [List.eraseIdx_of_length_le (List.getElem?_eq_none_iff.mp hcopy)]
        exact List.Perm.refl _
    | some held =>
        obtain ⟨hlt, rfl⟩ := List.getElem?_eq_some_iff.mp hcopy
        exact ((List.getElem_cons_eraseIdx_perm hlt).map Copy.payload).symm
  have hall : process.windows.Perm ((process.copies[copy]?.map Copy.payload).toList ++
      (process.step (.putBuffer copy)).windows) :=
    (hperm.append_left _).trans (List.perm_append_comm_assoc _ _ _)
  obtain ⟨hnext, hsame⟩ := RingBuffer.putBuffer_tidy (htidy.perm hall)
  refine ⟨hnext, ?_⟩
  have hrings :
      process.rings.map (RingBuffer.view (process.step (.putBuffer copy)).arena.toMemory) =
        process.view.rings :=
    List.map_congr_left fun other hother =>
      rings_congr (hsame.subset (List.subset_append_left _ _)) hother
  have hcopies := copies_congr (hsame.subset (List.subset_append_right _ _))
  have herased : (process.copies.eraseIdx copy).map (Copy.view process.arena.toMemory) =
      process.view.copies.eraseIdx copy := (List.eraseIdx_map ..).symm
  exact congrArg₂ Values.mk hrings (hcopies.trans herased)

theorem step_refines (operation : Operation) :
    Tidy (process.step operation).arena (process.step operation).windows ∧
      (process.step operation).view = process.view.step operation := by
  cases operation with
  | newRingBuffer capacity =>
      have hwindows : (newRingBuffer capacity).windows = [] :=
        List.filterMap_eq_nil_iff.mpr fun cell hcell => by
          rw [List.eq_of_mem_replicate hcell]
          rfl
      have hview : (newRingBuffer capacity).view process.arena.toMemory =
          Ring.newRingBuffer capacity :=
        ring_ext rfl List.map_replicate rfl rfl rfl
      constructor
      · change Tidy process.arena ((newRingBuffer capacity).windows ++ _ ++ _)
        rw [hwindows]
        exact htidy
      · exact congrArg (fun ring => Values.mk (ring :: process.view.rings) process.view.copies)
          hview
  | push ring seqNum msg choice =>
      exact update_refines htidy fun rb arena others hrb =>
        RingBuffer.push_tidy hrb seqNum msg choice
  | getAfter ring lastSeqNum choices =>
      apply handOut_refines htidy
      intro rb arena others hrb
      rw [← RingBuffer.wantedFrom_after]
      exact RingBuffer.copyFrom_tidy hrb _ choices _
  | getAll ring choices =>
      apply handOut_refines htidy
      intro rb arena others hrb
      rw [← RingBuffer.wantedFrom_all]
      exact RingBuffer.copyFrom_tidy hrb _ choices _
  | wipe ring => exact update_refines htidy fun rb arena others hrb => RingBuffer.wipe_tidy hrb
  | putBuffer copy => exact putBuffer_refines htidy copy
  | collect choice => exact ⟨htidy.collect choice, rfl⟩

end Steps

theorem tidy_start : Tidy Process.start.arena Process.start.windows where
  whole := fun _ hwindow => absurd hwindow List.not_mem_nil
  distinct := List.nodup_nil
  pooled := fun _ hwindow => absurd hwindow List.not_mem_nil
  tail := fun _ hwindow => absurd hwindow List.not_mem_nil
  blank := fun _ hindex => absurd hindex (Nat.not_lt_zero _)

theorem run_refines_from {process : Process} (htidy : Tidy process.arena process.windows)
    (operations : List Operation) :
    Tidy (operations.foldl Process.step process).arena
        (operations.foldl Process.step process).windows ∧
      (operations.foldl Process.step process).view =
        operations.foldl Values.step process.view := by
  induction operations generalizing process with
  | nil => exact ⟨htidy, rfl⟩
  | cons operation operations ih =>
      obtain ⟨hnext, hview⟩ := step_refines htidy operation
      rw [List.foldl_cons, List.foldl_cons, ← hview]
      exact ih hnext

/-- Whatever buffers the pool hands out, the ring buffers and the copies hold the
payloads they should.  No array is in use twice or in use and in the pool.  Every
byte outside of the payloads in use is zero: in the pool, in the spare room of a
buffer, and in arrays nothing refers to any more. -/
theorem pooledRings_refine (operations : List Operation) :
    (Process.run operations).view = Values.run operations ∧
      (((Process.run operations).windows ++ (Process.run operations).arena.pool).map
        Slice.array).Nodup ∧
      (∀ index < (Process.run operations).arena.next,
        index ∉ (Process.run operations).windows.map Slice.array →
          ∀ byte ∈ (Process.run operations).arena.arrays index, byte = 0) ∧
      ∀ window ∈ (Process.run operations).windows,
        ∀ byte ∈ ((Process.run operations).arena.arrays window.array).drop window.len,
          byte = 0 := by
  obtain ⟨htidy, hview⟩ := run_refines_from tidy_start operations
  exact ⟨hview, htidy.distinct, htidy.blank, htidy.tail⟩

end ZeroFeed.PooledRing
