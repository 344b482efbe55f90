import ZeroFeed.Core.Slices

/-!
# Recycled buffers

Buffers are taken from a pool and given back to it.  A buffer that is given back
is overwritten with zeros up to its capacity; one that is taken may be an old or
a new one, and its contents are not looked at before they are written.

`Tidy` says that the buffers in use and those in the pool are whole arrays, no two
of them the same, and that every item outside of the buffers in use is zero.  Each
operation has one rule: what is in use after it, and that the other buffers in use
hold what they held.
-/

namespace ZeroFeed.Recycling

open ZeroFeed.Slices

variable {α : Type*}

/-- Memory together with the buffers that wait to be used again. -/
structure Arena (α : Type*) extends Memory α where
  pool : List Slice

namespace Arena

variable (arena : Arena α)

/-- A buffer of the pool is given up for good. -/
def collect (choice : ℕ) : Arena α := { arena with pool := arena.pool.eraseIdx choice }

def write (window : Slice) (source : List α) : Arena α :=
  { arena with
    arrays := Function.update arena.arrays window.array
      (copyInto (arena.arrays window.array) window.offset source) }

/-- Copy into a buffer, as far as it reaches. -/
def fill (window : Slice) (source : List α) : Arena α :=
  arena.write window (source.take window.len)

variable [Zero α]

/-- A new array of zeros. -/
def make (len cap : ℕ) : Slice × Arena α :=
  (⟨arena.next, 0, len, cap⟩,
    { arena with
      arrays := Function.update arena.arrays arena.next (List.replicate cap 0)
      next := arena.next + 1 })

/-- A buffer of the pool, or a new one if there is none at that place. -/
def draw (fresh choice : ℕ) : Slice × Arena α :=
  match arena.pool[choice]? with
  | some window => (window, arena.collect choice)
  | none => arena.make 0 fresh

/-- A buffer of a given length.  One that is too small is dropped. -/
def take (fresh size choice : ℕ) : Slice × Arena α :=
  let drawn := arena.draw fresh choice
  if drawn.1.cap < size then drawn.2.make size size else ({ drawn.1 with len := size }, drawn.2)

/-- Overwrite up to the capacity, unless the buffer is empty. -/
def clear (window : Slice) : Arena α :=
  if window.len = 0 then arena else arena.write window (List.replicate window.cap 0)

/-- Give a buffer back. -/
def release (window : Slice) : Arena α :=
  { arena.clear window with pool := { window with len := 0 } :: arena.pool }

/-- Take a buffer and copy into it. -/
def keep (fresh choice : ℕ) (source : List α) : Slice × Arena α :=
  let taken := arena.take fresh source.length choice
  (taken.1, taken.2.fill taken.1 source)

def releaseAll (windows : List Slice) : Arena α :=
  windows.foldl (fun arena window => arena.release window) arena

end Arena

/-! ## Tidiness -/

section Tidy

variable [Zero α]

def Blank (items : List α) : Prop := ∀ item ∈ items, item = 0

/-- The slice is a whole array. -/
structure Whole (memory : Memory α) (window : Slice) : Prop where
  lt_next : window.array < memory.next
  offset : window.offset = 0
  cap : window.cap = (memory.arrays window.array).length
  len_le : window.len ≤ window.cap

structure Tidy (arena : Arena α) (windows : List Slice) : Prop where
  whole : ∀ window ∈ windows ++ arena.pool, Whole arena.toMemory window
  distinct : ((windows ++ arena.pool).map Slice.array).Nodup
  pooled : ∀ window ∈ arena.pool, window.len = 0
  tail : ∀ window ∈ windows, Blank ((arena.arrays window.array).drop window.len)
  blank : ∀ index < arena.next, index ∉ windows.map Slice.array → Blank (arena.arrays index)

/-- The buffers in a list hold what they held. -/
def Same (windows : List Slice) (arena arena' : Arena α) : Prop :=
  ∀ window ∈ windows, arena'.contents window = arena.contents window

end Tidy

theorem blank_replicate [Zero α] (count : ℕ) : Blank (List.replicate count (0 : α)) :=
  fun _ hitem => List.eq_of_mem_replicate hitem

theorem Blank.drop [Zero α] {items : List α} (hblank : Blank items) (count : ℕ) :
    Blank (items.drop count) :=
  fun item hitem => hblank item (List.mem_of_mem_drop hitem)

theorem same_of_arrays {windows : List Slice} {arena arena' : Arena α}
    (harrays : ∀ window ∈ windows, arena'.arrays window.array = arena.arrays window.array) :
    Same windows arena arena' := by
  intro window hwindow
  rw [Memory.contents, Memory.contents, harrays window hwindow]

theorem Same.trans {windows : List Slice} {first second third : Arena α}
    (hfirst : Same windows first second) (hsecond : Same windows second third) :
    Same windows first third :=
  fun window hwindow => (hsecond window hwindow).trans (hfirst window hwindow)

theorem Same.subset {windows windows' : List Slice} {arena arena' : Arena α}
    (hsame : Same windows arena arena') (hsubset : windows' ⊆ windows) :
    Same windows' arena arena' :=
  fun window hwindow => hsame window (hsubset hwindow)

namespace Tidy

variable [Zero α] {arena : Arena α} {window : Slice} {windows : List Slice}

theorem perm {windows' : List Slice} (htidy : Tidy arena windows) (hperm : windows.Perm windows') :
    Tidy arena windows' where
  whole := by
    intro other hother
    exact htidy.whole other ((hperm.append_right _).mem_iff.mpr hother)
  distinct := ((hperm.append_right _).map _).nodup_iff.mp htidy.distinct
  pooled := htidy.pooled
  tail := fun other hother => htidy.tail other (hperm.mem_iff.mpr hother)
  blank := by
    intro index hindex hunused
    exact htidy.blank index hindex fun hmem => hunused ((hperm.map _).mem_iff.mp hmem)

theorem head_whole (htidy : Tidy arena (window :: windows)) : Whole arena.toMemory window :=
  htidy.whole window List.mem_cons_self

theorem head_ne (htidy : Tidy arena (window :: windows)) {other : Slice}
    (hother : other ∈ windows ++ arena.pool) : other.array ≠ window.array := by
  have hdistinct := htidy.distinct
  rw [List.cons_append, List.map_cons, List.nodup_cons] at hdistinct
  exact fun heq => hdistinct.1 (List.mem_map.mpr ⟨other, hother, heq⟩)

/-- A buffer that holds only zeros may be dropped. -/
theorem discard (htidy : Tidy arena (window :: windows))
    (hblank : Blank (arena.arrays window.array)) : Tidy arena windows where
  whole := fun other hother => htidy.whole other (List.mem_cons_of_mem _ hother)
  distinct := (List.nodup_cons.mp htidy.distinct).2
  pooled := htidy.pooled
  tail := fun other hother => htidy.tail other (List.mem_cons_of_mem _ hother)
  blank := by
    intro index hindex hunused
    by_cases hsame : index = window.array
    · rw [hsame]
      exact hblank
    · exact htidy.blank index hindex (List.not_mem_cons_of_ne_of_not_mem hsame hunused)

theorem resize (htidy : Tidy arena (window :: windows))
    (hblank : Blank (arena.arrays window.array)) {size : ℕ} (hsize : size ≤ window.cap) :
    Tidy arena ({ window with len := size } :: windows) where
  whole := by
    have hwhole := htidy.head_whole
    rw [List.cons_append, List.forall_mem_cons]
    exact ⟨⟨hwhole.lt_next, hwhole.offset, hwhole.cap, hsize⟩,
      fun other hother => htidy.whole other (List.mem_cons_of_mem _ hother)⟩
  distinct := htidy.distinct
  pooled := htidy.pooled
  tail := List.forall_mem_cons.mpr ⟨hblank.drop size,
    fun other hother => htidy.tail other (List.mem_cons_of_mem _ hother)⟩
  blank := htidy.blank

theorem collect (htidy : Tidy arena windows) (choice : ℕ) :
    Tidy (arena.collect choice) windows where
  whole := by
    intro other hother
    apply htidy.whole
    rcases List.mem_append.mp hother with hused | hpooled
    · exact List.mem_append_left _ hused
    · exact List.mem_append_right _ (List.mem_of_mem_eraseIdx hpooled)
  distinct := by
    have hsublist := (List.Sublist.refl windows).append (List.eraseIdx_sublist arena.pool choice)
    exact (hsublist.map Slice.array).nodup htidy.distinct
  pooled := fun other hother => htidy.pooled other (List.mem_of_mem_eraseIdx hother)
  tail := htidy.tail
  blank := htidy.blank

theorem make (htidy : Tidy arena windows) {len cap : ℕ} (hlen : len ≤ cap) :
    Tidy (arena.make len cap).2 ((arena.make len cap).1 :: windows) ∧
      Blank ((arena.make len cap).2.arrays (arena.make len cap).1.array) ∧
      Same windows arena (arena.make len cap).2 := by
  have hold : ∀ other ∈ windows ++ arena.pool, other.array ≠ arena.next :=
    fun other hother => (htidy.whole other hother).lt_next.ne
  have hkept : ∀ other ∈ windows ++ arena.pool,
      (arena.make len cap).2.arrays other.array = arena.arrays other.array :=
    fun other hother => Function.update_of_ne (hold other hother) _ _
  have hnew : (arena.make len cap).2.arrays arena.next = List.replicate cap 0 :=
    Function.update_self _ _ _
  refine ⟨⟨?_, ?_, htidy.pooled, ?_, ?_⟩, ?_, ?_⟩
  · rw [List.cons_append, List.forall_mem_cons]
    refine ⟨⟨Nat.lt_succ_self _, rfl, ?_, hlen⟩, fun other hother => ?_⟩
    · change cap = ((arena.make len cap).2.arrays arena.next).length
      rw [hnew, List.length_replicate]
    · have hwhole := htidy.whole other hother
      refine ⟨Nat.lt_succ_of_lt hwhole.lt_next, hwhole.offset, ?_, hwhole.len_le⟩
      rw [hkept other hother]
      exact hwhole.cap
  · rw [List.cons_append, List.map_cons, List.nodup_cons]
    refine ⟨?_, htidy.distinct⟩
    intro hmem
    obtain ⟨other, hother, heq⟩ := List.mem_map.mp hmem
    exact hold other hother heq
  · rw [List.forall_mem_cons]
    refine ⟨?_, fun other hother => ?_⟩
    · change Blank (((arena.make len cap).2.arrays arena.next).drop len)
      rw [hnew]
      exact (blank_replicate cap).drop len
    · rw [hkept other (List.mem_append_left _ hother)]
      exact htidy.tail other hother
  · intro index hindex hunused
    have hne : index ≠ arena.next := fun heq => hunused (heq ▸ List.mem_cons_self)
    have hlt : index < arena.next := by
      have hle : index < arena.next + 1 := hindex
      omega
    rw [show (arena.make len cap).2.arrays index = arena.arrays index from
      Function.update_of_ne hne _ _]
    exact htidy.blank index hlt fun hmem => hunused (List.mem_cons_of_mem _ hmem)
  · change Blank ((arena.make len cap).2.arrays arena.next)
    rw [hnew]
    exact blank_replicate cap
  · exact same_of_arrays fun other hother => hkept other (List.mem_append_left _ hother)

/-- A buffer in hand that holds only zeros, whether it comes from the pool or is new. -/
theorem draw (htidy : Tidy arena windows) (fresh choice : ℕ) :
    Tidy (arena.draw fresh choice).2 ((arena.draw fresh choice).1 :: windows) ∧
      Blank ((arena.draw fresh choice).2.arrays (arena.draw fresh choice).1.array) ∧
      Same windows arena (arena.draw fresh choice).2 := by
  rw [Arena.draw]
  split
  · rename_i drawn hdrawn
    have hpooled : drawn ∈ arena.pool := List.mem_of_getElem? hdrawn
    have hcollect := htidy.collect choice
    -- Taking the buffer out of the pool and putting it in hand is a rearrangement.
    have hperm : (windows ++ arena.pool).Perm
        (drawn :: windows ++ arena.pool.eraseIdx choice) := by
      have hlt := (List.getElem?_eq_some_iff.mp hdrawn).1
      have hsplit : arena.pool.Perm (drawn :: arena.pool.eraseIdx choice) := by
        rw [← (List.getElem?_eq_some_iff.mp hdrawn).2]
        exact (List.getElem_cons_eraseIdx_perm hlt).symm
      exact (hsplit.append_left windows).trans List.perm_middle
    have hdistinct := (hperm.map Slice.array).nodup_iff.mp htidy.distinct
    have hunused : drawn.array ∉ windows.map Slice.array := by
      rw [List.cons_append, List.map_cons, List.nodup_cons, List.map_append] at hdistinct
      exact fun hmem => hdistinct.1 (List.mem_append_left _ hmem)
    have hwhole := htidy.whole drawn (List.mem_append_right _ hpooled)
    have hblank : Blank (arena.arrays drawn.array) :=
      htidy.blank drawn.array hwhole.lt_next hunused
    refine ⟨⟨?_, hdistinct, hcollect.pooled, ?_, ?_⟩, hblank, fun _ _ => rfl⟩
    · exact fun other hother => htidy.whole other (hperm.mem_iff.mpr hother)
    · rw [List.forall_mem_cons]
      exact ⟨hblank.drop drawn.len, htidy.tail⟩
    · intro index hindex hother
      exact htidy.blank index hindex fun hmem => hother (List.mem_cons_of_mem _ hmem)
  · exact htidy.make (Nat.zero_le fresh)

theorem take (htidy : Tidy arena windows) (fresh size choice : ℕ) :
    Tidy (arena.take fresh size choice).2 ((arena.take fresh size choice).1 :: windows) ∧
      (arena.take fresh size choice).1.len = size ∧
      Same windows arena (arena.take fresh size choice).2 := by
  obtain ⟨hdrawn, hblank, hsame⟩ := htidy.draw fresh choice
  simp only [Arena.take]
  split
  · obtain ⟨hmade, -, hkept⟩ := (hdrawn.discard hblank).make (le_refl size)
    exact ⟨hmade, rfl, hsame.trans hkept⟩
  · rename_i hroom
    exact ⟨hdrawn.resize hblank (not_lt.mp hroom), rfl, hsame⟩

/-- Writing to one buffer in use leaves the others alone. -/
theorem write (htidy : Tidy arena (window :: windows)) {source : List α}
    (htail : Blank ((copyInto (arena.arrays window.array) window.offset source).drop
      window.len)) :
    Tidy (arena.write window source) (window :: windows) ∧
      Same windows arena (arena.write window source) := by
  have hkept : ∀ other ∈ windows ++ arena.pool,
      (arena.write window source).arrays other.array = arena.arrays other.array :=
    fun other hother => Function.update_of_ne (htidy.head_ne hother) _ _
  have hown : (arena.write window source).arrays window.array =
      copyInto (arena.arrays window.array) window.offset source := Function.update_self _ _ _
  refine ⟨⟨?_, htidy.distinct, htidy.pooled, ?_, ?_⟩, ?_⟩
  · rw [List.cons_append, List.forall_mem_cons]
    have hwhole := htidy.head_whole
    refine ⟨⟨hwhole.lt_next, hwhole.offset, ?_, hwhole.len_le⟩, fun other hother => ?_⟩
    · rw [hown, length_copyInto]
      exact hwhole.cap
    · have hother' := htidy.whole other (List.mem_cons_of_mem _ hother)
      refine ⟨hother'.lt_next, hother'.offset, ?_, hother'.len_le⟩
      rw [hkept other hother]
      exact hother'.cap
  · rw [List.forall_mem_cons]
    refine ⟨?_, fun other hother => ?_⟩
    · rw [hown]
      exact htail
    · rw [hkept other (List.mem_append_left _ hother)]
      exact htidy.tail other (List.mem_cons_of_mem _ hother)
  · intro index hindex hunused
    have hne : index ≠ window.array := fun heq => hunused (heq ▸ List.mem_cons_self)
    rw [show (arena.write window source).arrays index = arena.arrays index from
      Function.update_of_ne hne _ _]
    exact htidy.blank index hindex hunused
  · exact same_of_arrays fun other hother => hkept other (List.mem_append_left _ hother)

theorem fill (htidy : Tidy arena (window :: windows)) {source : List α}
    (hsource : source.length = window.len) :
    Tidy (arena.fill window source) (window :: windows) ∧
      (arena.fill window source).contents window = source ∧
      Same windows arena (arena.fill window source) := by
  have hwhole := htidy.head_whole
  have hfits : 0 + source.length ≤ (arena.arrays window.array).length := by
    rw [Nat.zero_add, hsource, ← hwhole.cap]
    exact hwhole.len_le
  have hwritten : copyInto (arena.arrays window.array) window.offset source =
      source ++ (arena.arrays window.array).drop window.len := by
    rw [hwhole.offset, copyInto_of_le hfits, List.take_zero, List.nil_append, Nat.zero_add,
      hsource]
  have htail : Blank ((copyInto (arena.arrays window.array) window.offset source).drop
      window.len) := by
    rw [hwritten, List.drop_left' hsource]
    exact htidy.tail window List.mem_cons_self
  rw [Arena.fill, List.take_of_length_le hsource.le]
  obtain ⟨hnext, hsame⟩ := htidy.write htail
  refine ⟨hnext, ?_, hsame⟩
  have hown : (arena.write window source).arrays window.array =
      copyInto (arena.arrays window.array) window.offset source := Function.update_self _ _ _
  rw [Memory.contents, hown, hwritten, hwhole.offset, List.drop_zero, List.take_left' hsource]

/-- A copy of some items in a buffer of its own. -/
theorem keep (htidy : Tidy arena windows) (fresh choice : ℕ) (source : List α) :
    Tidy (arena.keep fresh choice source).2 ((arena.keep fresh choice source).1 :: windows) ∧
      (arena.keep fresh choice source).2.contents (arena.keep fresh choice source).1 = source ∧
      Same windows arena (arena.keep fresh choice source).2 := by
  obtain ⟨htaken, hlen, hsame⟩ := htidy.take fresh source.length choice
  obtain ⟨hfilled, hcontents, hkept⟩ := htaken.fill hlen.symm
  exact ⟨hfilled, hcontents, hsame.trans hkept⟩

/-- After `clear` the whole array is zero: an empty buffer has no contents to overwrite. -/
theorem clear (htidy : Tidy arena (window :: windows)) :
    Tidy (arena.clear window) (window :: windows) ∧
      Blank ((arena.clear window).arrays window.array) ∧
      Same windows arena (arena.clear window) := by
  have hwhole := htidy.head_whole
  rw [Arena.clear]
  split
  · rename_i hempty
    have htail := htidy.tail window List.mem_cons_self
    rw [hempty, List.drop_zero] at htail
    exact ⟨htidy, htail, fun _ _ => rfl⟩
  · have hwritten : copyInto (arena.arrays window.array) window.offset
        (List.replicate window.cap 0) = List.replicate window.cap 0 := by
      have hlength : (arena.arrays window.array).length = window.cap := hwhole.cap.symm
      rw [hwhole.offset, copyInto_of_le (by rw [List.length_replicate]; omega), List.take_zero,
        List.nil_append, List.drop_eq_nil_of_le (by rw [List.length_replicate]; omega),
        List.append_nil]
    have hcleared : (arena.write window (List.replicate window.cap 0)).arrays window.array =
        List.replicate window.cap 0 := (Function.update_self _ _ _).trans hwritten
    obtain ⟨hnext, hsame⟩ := htidy.write (by
      rw [hwritten]
      exact (blank_replicate window.cap).drop window.len)
    refine ⟨hnext, ?_, hsame⟩
    rw [hcleared]
    exact blank_replicate window.cap

theorem release (htidy : Tidy arena (window :: windows)) :
    Tidy (arena.release window) windows ∧ Same windows arena (arena.release window) := by
  obtain ⟨hcleared, hblank, hsame⟩ := htidy.clear
  have hpool : (arena.clear window).pool = arena.pool := by
    rw [Arena.clear]
    split <;> rfl
  have hperm : (window :: windows ++ (arena.clear window).pool).Perm
      (windows ++ window :: arena.pool) := by
    rw [hpool]
    exact List.perm_middle.symm
  have hdistinct := (hperm.map Slice.array).nodup_iff.mp hcleared.distinct
  rw [List.map_append, List.map_cons] at hdistinct
  refine ⟨⟨?_, ?_, ?_, ?_, ?_⟩, hsame⟩
  · intro other hother
    rcases List.mem_append.mp hother with hused | hpooled
    · exact hcleared.whole other (List.mem_append_left _ (List.mem_cons_of_mem _ hused))
    · rcases List.mem_cons.mp hpooled with rfl | hold
      · have hown := hcleared.head_whole
        exact ⟨hown.lt_next, hown.offset, hown.cap, Nat.zero_le _⟩
      · exact hcleared.whole other (List.mem_append_right _ (hpool ▸ hold))
  · rw [List.map_append]
    exact hdistinct
  · exact List.forall_mem_cons.mpr ⟨rfl, htidy.pooled⟩
  · exact fun other hother => hcleared.tail other (List.mem_cons_of_mem _ hother)
  · intro index hindex hunused
    by_cases hown : index = window.array
    · rw [hown]
      exact hblank
    · exact hcleared.blank index hindex (List.not_mem_cons_of_ne_of_not_mem hown hunused)

theorem releaseAll {released : List Slice} (htidy : Tidy arena (released ++ windows)) :
    Tidy (arena.releaseAll released) windows ∧
      Same windows arena (arena.releaseAll released) := by
  induction released generalizing arena with
  | nil => exact ⟨htidy, fun _ _ => rfl⟩
  | cons window released ih =>
      obtain ⟨hreleased, hsame⟩ := htidy.release
      obtain ⟨hall, hkept⟩ := ih hreleased
      exact ⟨hall, (hsame.subset (List.subset_append_right _ _)).trans hkept⟩

end Tidy

end ZeroFeed.Recycling
