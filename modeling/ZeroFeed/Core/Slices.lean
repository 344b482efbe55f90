import ZeroFeed.Core.ByteString

/-!
# Slices and the arrays behind them

A slice is a window of an array, and several slices may share one array.  Appending
writes into the array while it has room and moves to a new one when it has not;
wiping overwrites everything the slice could ever reach.  A log records in which
order arrays were used and wiped.

A computation that allocates its own arrays owns the slices it has not given up.
`Owns` says what they hold, and every operation has one rule that says what is owned
after it.
-/

namespace ZeroFeed.Slices

variable {α : Type*}

/-! ## Copying and slicing -/

section Copying

variable {array source : List α} {offset : ℕ}

/-- Copy over an array from an offset on, as far as the array reaches. -/
def copyInto (array : List α) (offset : ℕ) (source : List α) : List α :=
  array.take offset ++
    (source.take (array.length - offset) ++ array.drop (offset + source.length))

@[simp]
theorem length_copyInto (array : List α) (offset : ℕ) (source : List α) :
    (copyInto array offset source).length = array.length := by
  simp only [copyInto, List.length_append, List.length_take, List.length_drop]
  omega

@[simp]
theorem copyInto_nil (array : List α) (offset : ℕ) : copyInto array offset [] = array := by
  simp [copyInto]

theorem copyInto_of_le (hfits : offset + source.length ≤ array.length) :
    copyInto array offset source =
      array.take offset ++ source ++ array.drop (offset + source.length) := by
  have hsource : source.take (array.length - offset) = source :=
    List.take_of_length_le (by omega)
  rw [copyInto, hsource, List.append_assoc]

/-- Copies that follow each other are one copy. -/
theorem copyInto_copyInto {second : List α} {next : ℕ} (hnext : next = offset + source.length)
    (hfits : offset + (source ++ second).length ≤ array.length) :
    copyInto (copyInto array offset source) next second =
      copyInto array offset (source ++ second) := by
  have hlength : offset + source.length + second.length ≤ array.length := by
    rw [List.length_append] at hfits
    omega
  have hfront : (array.take offset ++ source).length = offset + source.length := by
    rw [List.length_append, List.length_take, min_eq_left (by omega)]
  have hfirst := @copyInto_of_le _ array source offset (by omega)
  have htake : (copyInto array offset source).take (offset + source.length) =
      array.take offset ++ source := by
    rw [hfirst, List.take_left' hfront]
  have hdrop : (copyInto array offset source).drop (offset + source.length + second.length) =
      array.drop (offset + (source ++ second).length) := by
    rw [hfirst, ← List.drop_drop, List.drop_left' hfront, List.drop_drop, List.length_append,
      Nat.add_assoc]
  rw [hnext, copyInto_of_le (by rw [length_copyInto]; exact hlength), htake, hdrop,
    copyInto_of_le hfits, List.append_assoc (array.take offset) source second]

/-- A window that is extended by a copy. -/
theorem take_drop_copyInto {len : ℕ} (hfits : offset + len + source.length ≤ array.length) :
    ((copyInto array (offset + len) source).drop offset).take (len + source.length) =
      (array.drop offset).take len ++ source := by
  have hfront : (array.take (offset + len)).drop offset = (array.drop offset).take len := by
    rw [List.drop_take, Nat.add_sub_cancel_left]
  have hlength : ((array.drop offset).take len ++ source).length = len + source.length := by
    rw [List.length_append, List.length_take, List.length_drop, min_eq_left (by omega)]
  have hdrop : offset ≤ (array.take (offset + len)).length := by
    rw [List.length_take]
    omega
  rw [copyInto_of_le hfits, List.append_assoc, List.drop_append_of_le_length hdrop, hfront,
    ← List.append_assoc, List.take_left' hlength]

/-- `array[low:high]`, which fails out of range. -/
def slice (array : List α) (low high : ℕ) : Option (List α) :=
  if low ≤ high ∧ high ≤ array.length then some ((array.take high).drop low) else none

end Copying

/-! ## Memory -/

structure Slice where
  array : ℕ
  offset : ℕ
  len : ℕ
  cap : ℕ
  deriving DecidableEq

namespace Slice

def nil : Slice := ⟨0, 0, 0, 0⟩

/-- `slice[:high]`, which may reach up to the capacity. -/
def upTo (window : Slice) (high : ℕ) : Option Slice :=
  if high ≤ window.cap then some { window with len := high } else none

end Slice

structure Memory (α : Type*) where
  arrays : ℕ → List α
  next : ℕ

namespace Memory

variable (memory : Memory α)

def contents (window : Slice) : List α :=
  ((memory.arrays window.array).drop window.offset).take window.len

/-- The window is empty or lies inside an array that exists. -/
def Valid (window : Slice) : Prop :=
  window.len = 0 ∨ window.array < memory.next ∧
    window.offset + window.len ≤ (memory.arrays window.array).length

abbrev View := {window : Slice // memory.Valid window}

theorem length_contents (view : memory.View) :
    (memory.contents view.val).length = view.val.len := by
  rw [contents, List.length_take, List.length_drop]
  rcases view.property with hempty | ⟨-, hinside⟩
  · rw [hempty]
    omega
  · omega

/-- Cutting a slice shorter keeps the front of its contents. -/
theorem contents_take {window : Slice} {high : ℕ} (hhigh : high ≤ window.len) :
    memory.contents { window with len := high } = (memory.contents window).take high := by
  rw [contents, contents, List.take_take, min_eq_left hhigh]

end Memory

inductive Access where
  | use (array : ℕ)
  | wipe (array : ℕ)
  deriving DecidableEq

/-- No array is used once it has been wiped. -/
def Orderly (log : List Access) : Prop :=
  log.Pairwise fun earlier later => ∀ array, earlier = .wipe array → later ≠ .use array

structure Heap (α : Type*) extends Memory α where
  log : List Access

/-- The spare room of a new array when the old one is too small.  It is left to the
allocator. -/
abbrev Growth := (cap needed : ℕ) → ℕ

namespace Heap

variable (heap : Heap α)

def use (window : Slice) : Heap α :=
  if window.len = 0 then heap else { heap with log := heap.log ++ [.use window.array] }

def useAll (windows : List Slice) : Heap α := windows.foldl use heap

def set (index : ℕ) (array : List α) : Heap α :=
  { heap with arrays := Function.update heap.arrays index array }

def store (window : Slice) (source : List α) : Heap α :=
  (heap.set window.array
    (copyInto (heap.arrays window.array) window.offset (source.take window.len))).use window

def copy (target source : Slice) : Heap α :=
  (heap.use source).store target (heap.contents source)

def allocate (array : List α) (len : ℕ) : Slice × Heap α :=
  (⟨heap.next, 0, len, array.length⟩, { heap.set heap.next array with next := heap.next + 1 })

def make [Zero α] (len : ℕ) : Slice × Heap α := heap.allocate (List.replicate len 0) len

def append [Zero α] (growth : Growth) (window : Slice) (items : List α) : Slice × Heap α :=
  let len := window.len + items.length
  if len ≤ window.cap then
    ({ window with len := len },
      heap.store ⟨window.array, window.offset + window.len, items.length, items.length⟩ items)
  else
    (heap.use window).allocate
      (heap.contents window ++ items ++ List.replicate (growth window.cap len) 0) len

/-- Everything up to the capacity is overwritten. -/
def wipe [Zero α] (window : Slice) : Heap α :=
  if window.len = 0 then heap
  else
    let wiped := heap.set window.array
      (copyInto (heap.arrays window.array) window.offset (List.replicate window.cap 0))
    { wiped with log := wiped.log ++ [.wipe window.array] }

@[simp]
theorem wipe_nil [Zero α] : heap.wipe .nil = heap := if_pos rfl

/-- The slice may be used: it is empty or its array has not been wiped. -/
def Live (window : Slice) : Prop := window.len ≠ 0 → .wipe window.array ∉ heap.log

theorem Live.use {heap : Heap α} {window : Slice} (hlive : heap.Live window) (other : Slice) :
    (heap.use other).Live window := by
  intro hlen hwipe
  apply hlive hlen
  rw [Heap.use] at hwipe
  split at hwipe
  · exact hwipe
  · simpa using hwipe

end Heap

/-! ## Ownership -/

/-- A slice of an array from `base` on that holds the given items. -/
structure Held (base : ℕ) (memory : Memory α) (window : Slice) (items : List α) : Prop where
  base_le : base ≤ window.array
  lt_next : window.array < memory.next
  cap_le : window.offset + window.cap ≤ (memory.arrays window.array).length
  len_le : window.len ≤ window.cap
  contents : memory.contents window = items

namespace Held

variable {base : ℕ} {heap : Heap α} {window : Slice} {items : List α}

theorem length (hheld : Held base heap.toMemory window items) : items.length = window.len := by
  have hcap := hheld.cap_le
  have hlen := hheld.len_le
  rw [← hheld.contents, Memory.contents, List.length_take, List.length_drop]
  omega

theorem set {index : ℕ} (hheld : Held base heap.toMemory window items)
    (hother : window.array ≠ index) (array : List α) :
    Held base (heap.set index array).toMemory window items where
  base_le := hheld.base_le
  lt_next := hheld.lt_next
  cap_le := by
    simp only [Heap.set, Function.update_of_ne hother]
    exact hheld.cap_le
  len_le := hheld.len_le
  contents := by
    simp only [Memory.contents, Heap.set, Function.update_of_ne hother]
    exact hheld.contents

/-- Items written behind those a slice holds. -/
theorem extend {more : List α} (hheld : Held base heap.toMemory window items)
    (hroom : window.len + more.length ≤ window.cap) :
    Held base
      (heap.set window.array
        (copyInto (heap.arrays window.array) (window.offset + window.len) more)).toMemory
      { window with len := window.len + more.length } (items ++ more) where
  base_le := hheld.base_le
  lt_next := hheld.lt_next
  cap_le := by
    simp only [Heap.set, Function.update_self, length_copyInto]
    exact hheld.cap_le
  len_le := hroom
  contents := by
    have hcap := hheld.cap_le
    simp only [Memory.contents, Heap.set, Function.update_self]
    rw [take_drop_copyInto (by omega)]
    exact congrArg (· ++ more) hheld.contents

theorem overwrite {source : List α} (hheld : Held base heap.toMemory window items)
    (hsource : source.length = window.len) :
    Held base
      (heap.set window.array
        (copyInto (heap.arrays window.array) window.offset source)).toMemory window source where
  base_le := hheld.base_le
  lt_next := hheld.lt_next
  cap_le := by
    simp only [Heap.set, Function.update_self, length_copyInto]
    exact hheld.cap_le
  len_le := hheld.len_le
  contents := by
    have hcap := hheld.cap_le
    have hlen := hheld.len_le
    have hwindow := @take_drop_copyInto _ (heap.arrays window.array) source window.offset 0
      (by omega)
    rw [Nat.add_zero, Nat.zero_add, List.take_zero, List.nil_append, hsource] at hwindow
    simp only [Memory.contents, Heap.set, Function.update_self]
    exact hwindow

end Held

/-- What a computation that started on `start` owns: slices of different arrays of its
own, none of them wiped.  The arrays it found are as they were. -/
structure Owns (start : Memory α) (pieces : List (Slice × List α)) (heap : Heap α) : Prop where
  next_le : start.next ≤ heap.next
  outside : ∀ index < start.next, heap.arrays index = start.arrays index
  held : ∀ piece ∈ pieces, Held start.next heap.toMemory piece.1 piece.2
  distinct : (pieces.map fun piece => piece.1.array).Nodup
  wiped : ∀ index, .wipe index ∈ heap.log → start.next ≤ index ∧ index < heap.next ∧
    ∀ piece ∈ pieces, piece.1.array ≠ index
  orderly : Orderly heap.log

theorem owns_start (start : Memory α) : Owns start [] ⟨start, []⟩ where
  next_le := le_rfl
  outside := fun _ _ => rfl
  held := fun _ hpiece => absurd hpiece List.not_mem_nil
  distinct := List.nodup_nil
  wiped := fun _ hwipe => absurd hwipe List.not_mem_nil
  orderly := List.Pairwise.nil

namespace Owns

variable {start : Memory α} {heap : Heap α} {pieces : List (Slice × List α)}
variable {window : Slice} {items : List α}

theorem forget {piece : Slice × List α} (howns : Owns start (piece :: pieces) heap) :
    Owns start pieces heap where
  next_le := howns.next_le
  outside := howns.outside
  held := fun other hother => howns.held other (List.mem_cons_of_mem _ hother)
  distinct := (List.nodup_cons.mp howns.distinct).2
  wiped := by
    intro index hwipe
    obtain ⟨hbase, hnext, hothers⟩ := howns.wiped index hwipe
    exact ⟨hbase, hnext, fun other hother => hothers other (List.mem_cons_of_mem _ hother)⟩
  orderly := howns.orderly

theorem perm {pieces' : List (Slice × List α)} (howns : Owns start pieces heap)
    (hperm : pieces.Perm pieces') : Owns start pieces' heap where
  next_le := howns.next_le
  outside := howns.outside
  held := fun piece hpiece => howns.held piece (hperm.mem_iff.mpr hpiece)
  distinct := (hperm.map _).nodup_iff.mp howns.distinct
  wiped := by
    intro index hwipe
    obtain ⟨hbase, hnext, hothers⟩ := howns.wiped index hwipe
    exact ⟨hbase, hnext, fun piece hpiece => hothers piece (hperm.mem_iff.mpr hpiece)⟩
  orderly := howns.orderly

theorem swap {first second : Slice × List α} (howns : Owns start (first :: second :: pieces) heap) :
    Owns start (second :: first :: pieces) heap :=
  howns.perm (List.Perm.swap second first pieces)

theorem head_held (howns : Owns start ((window, items) :: pieces) heap) :
    Held start.next heap.toMemory window items :=
  howns.held (window, items) List.mem_cons_self

theorem others_ne (howns : Owns start ((window, items) :: pieces) heap) :
    ∀ piece ∈ pieces, piece.1.array ≠ window.array := by
  intro piece hpiece heq
  apply (List.nodup_cons.mp howns.distinct).1
  exact List.mem_map.mpr ⟨piece, hpiece, heq⟩

theorem unwiped_of_mem {piece : Slice × List α} (howns : Owns start pieces heap)
    (hpiece : piece ∈ pieces) : .wipe piece.1.array ∉ heap.log :=
  fun hwipe => (howns.wiped _ hwipe).2.2 piece hpiece rfl

theorem live_of_mem (howns : Owns start pieces heap) (hpiece : (window, items) ∈ pieces) :
    heap.Live window :=
  fun _ => howns.unwiped_of_mem hpiece

/-- Slices from before the computation are never wiped by it. -/
theorem live_of_valid (howns : Owns start pieces heap) (hvalid : start.Valid window) :
    heap.Live window := by
  intro hlen hwipe
  have hinside := (hvalid.resolve_left hlen).1
  exact absurd (howns.wiped _ hwipe).1 (not_le.mpr hinside)

theorem contents_of_valid (howns : Owns start pieces heap) (hvalid : start.Valid window) :
    heap.contents window = start.contents window := by
  rcases hvalid with hempty | ⟨hinside, -⟩
  · rw [Memory.contents, Memory.contents, hempty, List.take_zero, List.take_zero]
  · rw [Memory.contents, Memory.contents, howns.outside _ hinside]

theorem contents_of_mem (howns : Owns start pieces heap) (hpiece : (window, items) ∈ pieces) :
    heap.contents window = items :=
  (howns.held _ hpiece).contents

/-! ### One rule for each operation -/

theorem use (howns : Owns start pieces heap) (hlive : heap.Live window) :
    Owns start pieces (heap.use window) := by
  rw [Heap.use]
  split_ifs with hlen
  · exact howns
  · exact
      { howns with
        wiped := by
          intro index hwipe
          apply howns.wiped
          simpa using hwipe
        orderly := by
          apply List.pairwise_append.mpr
          refine ⟨howns.orderly, List.pairwise_singleton _ _, ?_⟩
          intro earlier hearlier later hlater array hwipe huse
          rw [List.mem_singleton.mp hlater, Access.use.injEq] at huse
          rw [hwipe, ← huse] at hearlier
          exact hlive hlen hearlier }

theorem useAll {windows : List Slice} (howns : Owns start pieces heap)
    (hlive : ∀ window ∈ windows, heap.Live window) : Owns start pieces (heap.useAll windows) := by
  induction windows generalizing heap with
  | nil => exact howns
  | cons window windows ih =>
      apply ih (howns.use (hlive window List.mem_cons_self))
      intro other hother
      exact (hlive other (List.mem_cons_of_mem _ hother)).use window

theorem set {index : ℕ} (howns : Owns start pieces heap) (hbase : start.next ≤ index)
    (hothers : ∀ piece ∈ pieces, piece.1.array ≠ index) (array : List α) :
    Owns start pieces (heap.set index array) :=
  { howns with
    outside := by
      intro other hother
      simp only [Heap.set, Function.update_of_ne (by omega : other ≠ index)]
      exact howns.outside other hother
    held := fun piece hpiece => (howns.held piece hpiece).set (hothers piece hpiece) array }

theorem insert (howns : Owns start pieces heap)
    (hheld : Held start.next heap.toMemory window items)
    (hothers : ∀ piece ∈ pieces, piece.1.array ≠ window.array)
    (hunwiped : .wipe window.array ∉ heap.log) :
    Owns start ((window, items) :: pieces) heap where
  next_le := howns.next_le
  outside := howns.outside
  held := List.forall_mem_cons.mpr ⟨hheld, howns.held⟩
  distinct := by
    apply List.nodup_cons.mpr
    refine ⟨?_, howns.distinct⟩
    intro hmem
    obtain ⟨piece, hpiece, heq⟩ := List.mem_map.mp hmem
    exact hothers piece hpiece heq
  wiped := by
    intro index hwipe
    obtain ⟨hbase, hnext, hpieces⟩ := howns.wiped index hwipe
    refine ⟨hbase, hnext, List.forall_mem_cons.mpr ⟨?_, hpieces⟩⟩
    intro heq
    exact hunwiped (heq ▸ hwipe)
  orderly := howns.orderly

/-- Write to the array of one piece. -/
theorem update {window' : Slice} {items' array : List α}
    (howns : Owns start ((window, items) :: pieces) heap)
    (hheld : Held start.next (heap.set window.array array).toMemory window' items')
    (harray : window'.array = window.array) :
    Owns start ((window', items') :: pieces) (heap.set window.array array) := by
  have hset := howns.forget.set howns.head_held.base_le howns.others_ne array
  apply hset.insert hheld
  · rw [harray]
    exact howns.others_ne
  · rw [harray]
    exact howns.unwiped_of_mem List.mem_cons_self

theorem store {source : List α} (howns : Owns start ((window, items) :: pieces) heap)
    (hsource : source.length = window.len) :
    Owns start ((window, source) :: pieces) (heap.store window source) := by
  have hupdate := howns.update (howns.head_held.overwrite hsource) rfl
  rw [Heap.store, List.take_of_length_le (le_of_eq hsource)]
  exact hupdate.use (hupdate.live_of_mem List.mem_cons_self)

theorem copy {source : Slice} {copied : List α}
    (howns : Owns start ((window, items) :: pieces) heap)
    (hsource : heap.contents source = copied) (hlive : heap.Live source)
    (hlength : copied.length = window.len) :
    Owns start ((window, copied) :: pieces) (heap.copy window source) := by
  rw [Heap.copy, hsource]
  exact (howns.use hlive).store hlength

theorem allocate (howns : Owns start pieces heap) (array : List α) {len : ℕ}
    (hlen : len ≤ array.length) :
    Owns start (((heap.allocate array len).1, array.take len) :: pieces)
      (heap.allocate array len).2 := by
  have hothers : ∀ piece ∈ pieces, piece.1.array ≠ heap.next :=
    fun piece hpiece => (howns.held piece hpiece).lt_next.ne
  have hset := howns.set howns.next_le hothers array
  have hgrown : Owns start pieces (heap.allocate array len).2 :=
    { hset with
      next_le := Nat.le_succ_of_le howns.next_le
      held := fun piece hpiece =>
        { hset.held piece hpiece with
          lt_next := Nat.lt_succ_of_lt (howns.held piece hpiece).lt_next }
      wiped := by
        intro index hwipe
        obtain ⟨hbase, hnext, hpieces⟩ := howns.wiped index hwipe
        exact ⟨hbase, Nat.lt_succ_of_lt hnext, hpieces⟩ }
  apply hgrown.insert
  · exact
      { base_le := howns.next_le
        lt_next := Nat.lt_succ_self _
        cap_le := by simp [Heap.allocate, Heap.set]
        len_le := hlen
        contents := by simp [Memory.contents, Heap.allocate, Heap.set] }
  · exact hothers
  · intro hwipe
    exact lt_irrefl _ (howns.wiped heap.next hwipe).2.1

variable [Zero α]

theorem make (howns : Owns start pieces heap) (len : ℕ) :
    Owns start (((heap.make len).1, List.replicate len 0) :: pieces) (heap.make len).2 := by
  have hallocate := howns.allocate (List.replicate len 0) List.length_replicate.ge
  rw [List.take_replicate, min_self] at hallocate
  exact hallocate

/-- The new array of an `append` that does not fit. -/
theorem moved (howns : Owns start pieces heap) (hlive : heap.Live window)
    (hlength : (heap.contents window).length = window.len) (growth : Growth) (more : List α)
    (hfull : window.cap < window.len + more.length) :
    Owns start
      (((heap.append growth window more).1, heap.contents window ++ more) :: pieces)
      (heap.append growth window more).2 := by
  have hitems : (heap.contents window ++ more).length = window.len + more.length := by
    rw [List.length_append, hlength]
  rw [Heap.append, if_neg (not_le.mpr hfull)]
  have hroom : window.len + more.length ≤ (heap.contents window ++ more ++
      List.replicate (growth window.cap (window.len + more.length)) 0).length := by
    rw [List.length_append, hitems]
    omega
  have hallocate := (howns.use hlive).allocate _ hroom
  rw [List.take_left' hitems] at hallocate
  exact hallocate

theorem append_nil (howns : Owns start pieces heap) (growth : Growth) {more : List α}
    (hmore : 0 < more.length) :
    Owns start (((heap.append growth .nil more).1, more) :: pieces)
      (heap.append growth .nil more).2 := by
  have hfull : Slice.nil.cap < Slice.nil.len + more.length := by
    rw [Slice.nil, Nat.zero_add]
    exact hmore
  exact howns.moved (fun hlen => absurd rfl hlen) rfl growth more hfull

theorem append (howns : Owns start ((window, items) :: pieces) heap) (growth : Growth)
    (more : List α) :
    Owns start (((heap.append growth window more).1, items ++ more) :: pieces)
      (heap.append growth window more).2 := by
  have hheld := howns.head_held
  by_cases hroom : window.len + more.length ≤ window.cap
  · have hupdate := howns.update (hheld.extend hroom) rfl
    rw [Heap.append, if_pos hroom, Heap.store, List.take_of_length_le le_rfl]
    apply hupdate.use
    intro _
    exact hupdate.unwiped_of_mem List.mem_cons_self
  · have hlength : (heap.contents window).length = window.len := by
      rw [hheld.contents, hheld.length]
    have hmoved := howns.forget.moved (howns.live_of_mem List.mem_cons_self) hlength growth more
      (not_le.mp hroom)
    rw [hheld.contents] at hmoved
    exact hmoved

theorem wipe (howns : Owns start ((window, items) :: pieces) heap) :
    Owns start pieces (heap.wipe window) := by
  rw [Heap.wipe]
  split_ifs with hlen
  · exact howns.forget
  · have hheld := howns.head_held
    have hset := howns.forget.set hheld.base_le howns.others_ne
      (copyInto (heap.arrays window.array) window.offset (List.replicate window.cap 0))
    exact
      { hset with
        wiped := by
          intro index hwipe
          rcases List.mem_append.mp hwipe with hbefore | hnow
          · exact hset.wiped index hbefore
          · rw [List.mem_singleton, Access.wipe.injEq] at hnow
            rw [hnow]
            exact ⟨hheld.base_le, hheld.lt_next, howns.others_ne⟩
        orderly := by
          apply List.pairwise_append.mpr
          refine ⟨hset.orderly, List.pairwise_singleton _ _, ?_⟩
          intro earlier _ later hlater array _ huse
          rw [List.mem_singleton.mp hlater] at huse
          cases huse }

end Owns

end ZeroFeed.Slices
