import Mathlib.Data.List.AList
import Mathlib.Data.List.Perm.Basic
import ZeroFeed.Core.ByteString

/-!
# The registry of what has to be wiped (`pkg/crypto/memzero.go`)

Buffers with secrets are registered and pinned, and so are functions that wipe
what the engines hold.  `WipeAll` empties the registry under its lock, and then
runs the functions and overwrites the buffers it took without holding the lock;
the signal handler and the end of `main` may both be in it, while other goroutines
register, unregister and zero buffers.  Every critical section and every single
byte that is overwritten is a step of its own.

Memory is flat: a slice is a pointer with a length and a capacity, and two slices
may overlap.  What a registered function does when it is called appears as steps
of other goroutines.
-/

namespace ZeroFeed.Memzero

open ZeroFeed.ByteString

structure Slice where
  ptr : ℕ
  len : ℕ
  cap : ℕ
  deriving DecidableEq

/-- The addresses of `b[:cap(b)]`. -/
def Slice.window (b : Slice) : List ℕ := (List.range b.cap).map (b.ptr + ·)

/-- A call of `WipeAll` after its critical section: the functions to call, the
addresses of the present buffer and the buffers after it. -/
structure Sweep where
  wipers : List ℕ
  addresses : List ℕ
  buffers : List Slice
  deriving DecidableEq

/-- Functions and pinners are numbered as they are registered or made. -/
structure State where
  memory : ℕ → Byte
  registeredWipers : List ℕ
  registeredBuffers : List Slice
  pinnedBuffers : AList fun _ : ℕ => ℕ
  wipers : ℕ
  pinners : ℕ
  sweeps : List Sweep
  /-- Calls of `ZeroBytes` after their critical sections. -/
  erasures : List (List ℕ)
  /-- Log: the functions called, those `ClearWipers` dropped and the pinners
  `Unpin` was called on. -/
  invoked : List ℕ
  cleared : List ℕ
  unpinned : List ℕ

namespace State

def start (memory : ℕ → Byte) : State where
  memory := memory
  registeredWipers := []
  registeredBuffers := []
  pinnedBuffers := ∅
  wipers := 0
  pinners := 0
  sweeps := []
  erasures := []
  invoked := []
  cleared := []
  unpinned := []

variable (state : State)

def unpin (ptr : ℕ) : State :=
  match state.pinnedBuffers.lookup ptr with
  | none => state
  | some pinner =>
      { state with
        unpinned := state.unpinned ++ [pinner]
        pinnedBuffers := state.pinnedBuffers.erase ptr }

def unpinAll : State :=
  { state with
    unpinned := state.unpinned ++ state.pinnedBuffers.entries.map Sigma.snd
    pinnedBuffers := ∅ }

def registerWiper : State :=
  { state with
    registeredWipers := state.registeredWipers ++ [state.wipers]
    wipers := state.wipers + 1 }

def registerBuffer (b : Slice) : State :=
  if b.len = 0 then state
  else
    let state := { state with registeredBuffers := state.registeredBuffers ++ [b] }
    if b.ptr ∈ state.pinnedBuffers then state
    else
      { state with
        pinnedBuffers := state.pinnedBuffers.insert b.ptr state.pinners
        pinners := state.pinners + 1 }

/-- The last element takes the place of the one that is removed. -/
def swapDelete {Item : Type*} (index : ℕ) (items : List Item) : List Item :=
  match items.getLast? with
  | none => []
  | some last => (items.set index last).dropLast

def unregisterBuffer (b : Slice) : State :=
  if b.len = 0 then state
  else
    let state := state.unpin b.ptr
    match state.registeredBuffers.findIdx? fun reg => 0 < reg.len && reg.ptr == b.ptr with
    | none => state
    | some index =>
        { state with registeredBuffers := swapDelete index state.registeredBuffers }

def clearWipers : State :=
  { state.unpinAll with
    cleared := state.cleared ++ state.registeredWipers
    registeredWipers := []
    registeredBuffers := [] }

/-- The critical section of `ZeroBytes`, and the addresses it goes on to zero. -/
def zeroBytes (b : Slice) : State × List ℕ :=
  if b.len = 0 then (state, []) else (state.unpin b.ptr, b.window)

/-- The critical section of `WipeAll`. -/
def wipeAll : State :=
  { state.unpinAll with
    sweeps := state.sweeps ++ [⟨state.registeredWipers, [], state.registeredBuffers⟩]
    registeredWipers := []
    registeredBuffers := [] }

def store (address : ℕ) (byte : Byte) : State :=
  { state with memory := Function.update state.memory address byte }

/-- The next step of a call of `ZeroBytes`. -/
def erase (index : ℕ) : State :=
  match state.erasures[index]? with
  | some (address :: rest) =>
      { state.store address 0 with erasures := state.erasures.set index rest }
  | _ => state

def setSweep (index : ℕ) (sweep : Sweep) : State :=
  { state with sweeps := state.sweeps.set index sweep }

/-- The next step of a call of `WipeAll`. -/
def sweep (index : ℕ) : State :=
  match state.sweeps[index]? with
  | some ⟨wiper :: wipers, addresses, buffers⟩ =>
      { state.setSweep index ⟨wipers, addresses, buffers⟩ with
        invoked := state.invoked ++ [wiper] }
  | some ⟨[], address :: addresses, buffers⟩ =>
      (state.store address 0).setSweep index ⟨[], addresses, buffers⟩
  | some ⟨[], [], b :: buffers⟩ =>
      (state.zeroBytes b).1.setSweep index ⟨[], (state.zeroBytes b).2, buffers⟩
  | _ => state

end State

inductive Operation where
  | registerWiper
  | registerBuffer (b : Slice)
  | unregisterBuffer (b : Slice)
  | clearWipers
  | zeroBytes (b : Slice)
  | wipeAll
  | erase (index : ℕ)
  | sweep (index : ℕ)
  /-- Code outside of the package writes to memory. -/
  | store (address : ℕ) (byte : Byte)
  deriving DecidableEq

def State.step (state : State) : Operation → State
  | .registerWiper => state.registerWiper
  | .registerBuffer b => state.registerBuffer b
  | .unregisterBuffer b => state.unregisterBuffer b
  | .clearWipers => state.clearWipers
  | .zeroBytes b =>
      { (state.zeroBytes b).1 with erasures := state.erasures ++ [(state.zeroBytes b).2] }
  | .wipeAll => state.wipeAll
  | .erase index => state.erase index
  | .sweep index => state.sweep index
  | .store address byte => state.store address byte

def State.run (state : State) (operations : List Operation) : State :=
  operations.foldl State.step state

/-! ## Lists and maps -/

/-- Only one entry of an association list has a given key. -/
theorem perm_entries_erase {Value : Type*} {map : AList fun _ : ℕ => Value} {key : ℕ}
    {value : Value} (hlookup : map.lookup key = some value) :
    map.entries.Perm (⟨key, value⟩ :: (map.erase key).entries) := by
  have hkey : key ∈ map.entries.keys := List.mem_keys_of_mem (AList.mem_lookup_iff.mp hlookup)
  obtain ⟨found, before, after, hbefore, hentries, herased⟩ := List.exists_of_kerase hkey
  have hfound : found = value := by
    have hmem : (⟨key, found⟩ : Sigma fun _ : ℕ => Value) ∈ map.entries := by
      rw [hentries]
      exact List.mem_append_right _ List.mem_cons_self
    exact Option.some.inj ((AList.mem_lookup_iff.mpr hmem).symm.trans hlookup)
  change map.entries.Perm (⟨key, value⟩ :: map.entries.kerase key)
  rw [herased, hentries, hfound]
  exact List.perm_middle

theorem swapDelete_perm {Item : Type*} {index : ℕ} {items : List Item}
    (hindex : index < items.length) :
    (State.swapDelete index items).Perm (items.eraseIdx index) := by
  have hne : items ≠ [] := List.ne_nil_of_length_pos (Nat.zero_lt_of_lt hindex)
  have hlast : items.getLast? = some (items.getLast hne) := List.getLast?_eq_some_getLast hne
  rw [State.swapDelete, hlast]
  dsimp only
  generalize items.getLast hne = last at hlast
  have hset : (items.set index last).getLast? = some last := by
    rw [List.getLast?_eq_getElem?, List.getElem?_set, List.length_set,
      ← List.getLast?_eq_getElem?, hlast]
    split_ifs <;> rfl
  have hsplit : (items.set index last).dropLast ++ [last] = items.set index last :=
    List.dropLast_append_getLast? last hset
  have hfront := (List.perm_append_singleton last (items.set index last).dropLast).symm
  rw [hsplit] at hfront
  exact (List.perm_cons last).mp (hfront.trans (List.set_perm_cons_eraseIdx hindex last))

/-- What one element contributes to the lists of all. -/
theorem count_flatMap_set {Item : Type*} (contents : Item → List ℕ) {items : List Item}
    {index : ℕ} {item : Item} (hitem : items[index]? = some item) (next : Item) (value : ℕ) :
    ((items.set index next).flatMap contents).count value + (contents item).count value =
      (items.flatMap contents).count value + (contents next).count value := by
  obtain ⟨hindex, rfl⟩ := List.getElem?_eq_some_iff.mp hitem
  have hbefore := (List.getElem_cons_eraseIdx_perm hindex).flatMap_right contents
  have hafter := (List.set_perm_cons_eraseIdx hindex next).flatMap_right contents
  rw [List.flatMap_cons] at hbefore hafter
  have hcount := hbefore.count_eq value
  have hcount' := hafter.count_eq value
  rw [List.count_append] at hcount hcount'
  omega

theorem State.notMem_unpin (state : State) (ptr : ℕ) : ptr ∉ (state.unpin ptr).pinnedBuffers := by
  rw [State.unpin]
  split
  · rename_i hlookup
    exact AList.lookup_eq_none.mp hlookup
  · exact fun hptr => (AList.mem_erase.mp hptr).1 rfl

section Unpin

variable (state : State) (ptr : ℕ)

@[simp]
theorem State.unpin_sweeps : (state.unpin ptr).sweeps = state.sweeps := by
  rw [State.unpin]
  split <;> rfl

@[simp]
theorem State.unpin_invoked : (state.unpin ptr).invoked = state.invoked := by
  rw [State.unpin]
  split <;> rfl

@[simp]
theorem State.unpin_memory : (state.unpin ptr).memory = state.memory := by
  rw [State.unpin]
  split <;> rfl

end Unpin

/-! ## What is registered is accounted for -/

/-- Every function is registered, waits in one call of `WipeAll`, was called once or
was dropped.  Every pinner belongs to one pointer or was unpinned once.  Only
registered buffers are pinned, and none of these is empty. -/
structure Accounted (state : State) : Prop where
  wipers : (state.registeredWipers ++ state.sweeps.flatMap Sweep.wipers ++ state.invoked ++
    state.cleared).Perm (List.range state.wipers)
  pinners : (state.pinnedBuffers.entries.map Sigma.snd ++ state.unpinned).Perm
    (List.range state.pinners)
  pinned : ∀ ptr ∈ state.pinnedBuffers, ptr ∈ state.registeredBuffers.map Slice.ptr
  positive : ∀ b ∈ state.registeredBuffers, 0 < b.len

namespace Accounted

variable {state : State}

theorem start (memory : ℕ → Byte) : Accounted (State.start memory) where
  wipers := .refl _
  pinners := .refl _
  pinned := fun ptr hptr => absurd hptr (AList.notMem_empty ptr)
  positive := fun _ hb => absurd hb List.not_mem_nil

theorem unpin (haccounted : Accounted state) (ptr : ℕ) : Accounted (state.unpin ptr) := by
  rw [State.unpin]
  split
  · exact haccounted
  · rename_i pinner hlookup
    refine ⟨haccounted.wipers, ?_, ?_, haccounted.positive⟩
    · have hentries := (perm_entries_erase hlookup).map Sigma.snd
      refine List.Perm.trans ?_ haccounted.pinners
      rw [List.perm_iff_count]
      intro value
      have hcount := hentries.count_eq value
      simp only [List.map_cons, List.count_cons, List.count_append, List.count_nil] at hcount ⊢
      omega
    · exact fun other hother => haccounted.pinned other (AList.mem_erase.mp hother).2

/-- The registry is emptied and its functions go elsewhere. -/
theorem unpinAll (haccounted : Accounted state) {state' : State}
    (hwipers : (state'.registeredWipers ++ state'.sweeps.flatMap Sweep.wipers ++
      state'.invoked ++ state'.cleared).Perm (List.range state.wipers))
    (hsame : state'.wipers = state.wipers) (hpinners : state'.pinners = state.pinners)
    (hunpinned : state'.unpinned = state.unpinAll.unpinned)
    (hpinned : state'.pinnedBuffers = ∅) (hbuffers : state'.registeredBuffers = []) :
    Accounted state' where
  wipers := by rwa [hsame]
  pinners := by
    rw [hpinners, hunpinned, hpinned]
    change (state.unpinned ++ state.pinnedBuffers.entries.map Sigma.snd).Perm _
    exact List.perm_append_comm.trans haccounted.pinners
  pinned := fun ptr hptr => by
    rw [hpinned] at hptr
    exact absurd hptr (AList.notMem_empty ptr)
  positive := fun b hb => by
    rw [hbuffers] at hb
    exact absurd hb List.not_mem_nil

theorem registerBuffer (haccounted : Accounted state) (b : Slice) :
    Accounted (state.registerBuffer b) := by
  rw [State.registerBuffer]
  split
  · exact haccounted
  · rename_i hlen
    have hpositive : ∀ other ∈ state.registeredBuffers ++ [b], 0 < other.len := by
      intro other hother
      rcases List.mem_append.mp hother with hother | hother
      · exact haccounted.positive other hother
      · rw [List.mem_singleton.mp hother]
        exact Nat.pos_of_ne_zero hlen
    have hkept : ∀ ptr ∈ state.pinnedBuffers,
        ptr ∈ (state.registeredBuffers ++ [b]).map Slice.ptr := by
      intro ptr hptr
      rw [List.map_append]
      exact List.mem_append_left _ (haccounted.pinned ptr hptr)
    dsimp only
    split
    · exact ⟨haccounted.wipers, haccounted.pinners, hkept, hpositive⟩
    · rename_i hfresh
      refine ⟨haccounted.wipers, ?_, ?_, hpositive⟩
      · rw [AList.entries_insert_of_notMem hfresh, List.range_succ]
        exact (List.Perm.cons _ haccounted.pinners).trans
          (List.perm_append_singleton _ _).symm
      · intro ptr hptr
        rcases (AList.mem_insert _).mp hptr with rfl | hptr
        · simp
        · exact hkept ptr hptr

theorem unregisterBuffer (haccounted : Accounted state) (b : Slice) :
    Accounted (state.unregisterBuffer b) := by
  rw [State.unregisterBuffer]
  split
  · exact haccounted
  · have hunpinned := haccounted.unpin b.ptr
    dsimp only
    split
    · exact hunpinned
    · rename_i index hfound
      obtain ⟨hindex, hmatch, -⟩ := List.findIdx?_eq_some_iff_getElem.mp hfound
      have hperm := swapDelete_perm hindex
      have hall := List.getElem_cons_eraseIdx_perm hindex
      refine ⟨hunpinned.wipers, hunpinned.pinners, ?_, ?_⟩
      · intro ptr hptr
        obtain ⟨other, hother, rfl⟩ := List.mem_map.mp (hunpinned.pinned ptr hptr)
        rcases List.mem_cons.mp (hall.mem_iff.mpr hother) with hremoved | hkept
        · -- The buffer taken out is no longer pinned.
          rw [Bool.and_eq_true, beq_iff_eq] at hmatch
          rw [hremoved, hmatch.2] at hptr
          exact absurd hptr (state.notMem_unpin b.ptr)
        · exact List.mem_map_of_mem (hperm.mem_iff.mpr hkept)
      · intro other hother
        exact hunpinned.positive other
          (hall.mem_iff.mp (List.mem_cons_of_mem _ (hperm.mem_iff.mp hother)))

theorem setSweep (haccounted : Accounted state) {index : ℕ} {sweep next : Sweep}
    (hsweep : state.sweeps[index]? = some sweep) (hwipers : next.wipers = sweep.wipers) :
    Accounted (state.setSweep index next) := by
  refine ⟨?_, haccounted.pinners, haccounted.pinned, haccounted.positive⟩
  refine List.Perm.trans ?_ haccounted.wipers
  rw [List.perm_iff_count]
  intro value
  have hcount := count_flatMap_set Sweep.wipers hsweep next value
  simp only [State.setSweep, List.count_append, hwipers] at hcount ⊢
  omega

theorem sweep (haccounted : Accounted state) (index : ℕ) : Accounted (state.sweep index) := by
  rw [State.sweep]
  split
  · rename_i wiper wipers addresses buffers hsweep
    refine ⟨?_, haccounted.pinners, haccounted.pinned, haccounted.positive⟩
    refine List.Perm.trans ?_ haccounted.wipers
    rw [List.perm_iff_count]
    intro value
    have hcount := count_flatMap_set Sweep.wipers hsweep ⟨wipers, addresses, buffers⟩ value
    simp only [State.setSweep, List.count_append, List.count_cons, List.count_nil] at hcount ⊢
    omega
  · rename_i address addresses buffers hsweep
    have hstored : Accounted (state.store address 0) :=
      ⟨haccounted.wipers, haccounted.pinners, haccounted.pinned, haccounted.positive⟩
    exact hstored.setSweep hsweep rfl
  · rename_i b buffers hsweep
    rw [State.zeroBytes]
    split
    · exact haccounted.setSweep hsweep rfl
    · rw [← state.unpin_sweeps b.ptr] at hsweep
      exact (haccounted.unpin b.ptr).setSweep hsweep rfl
  · exact haccounted

theorem step (haccounted : Accounted state) (operation : Operation) :
    Accounted (state.step operation) := by
  cases operation with
  | registerWiper =>
      refine ⟨?_, haccounted.pinners, haccounted.pinned, haccounted.positive⟩
      simp only [State.step, State.registerWiper, List.range_succ]
      refine List.Perm.trans ?_ (haccounted.wipers.append_right [state.wipers])
      rw [List.perm_iff_count]
      intro value
      simp only [List.count_append]
      omega
  | registerBuffer b => exact haccounted.registerBuffer b
  | unregisterBuffer b => exact haccounted.unregisterBuffer b
  | clearWipers =>
      refine haccounted.unpinAll (List.Perm.trans ?_ haccounted.wipers) rfl rfl rfl rfl rfl
      rw [List.perm_iff_count]
      intro value
      simp only [State.step, State.clearWipers, State.unpinAll, List.count_append,
        List.count_nil]
      omega
  | zeroBytes b =>
      have hsection : Accounted (state.zeroBytes b).1 := by
        rw [State.zeroBytes]
        split
        · exact haccounted
        · exact haccounted.unpin b.ptr
      exact ⟨hsection.wipers, hsection.pinners, hsection.pinned, hsection.positive⟩
  | wipeAll =>
      refine haccounted.unpinAll (List.Perm.trans ?_ haccounted.wipers) rfl rfl rfl rfl rfl
      rw [List.perm_iff_count]
      intro value
      simp only [State.step, State.wipeAll, State.unpinAll, List.flatMap_append,
        List.flatMap_cons, List.flatMap_nil, List.append_nil, List.count_append, List.count_nil]
      omega
  | erase index =>
      simp only [State.step, State.erase]
      split
      · exact ⟨haccounted.wipers, haccounted.pinners, haccounted.pinned, haccounted.positive⟩
      · exact haccounted
  | sweep index => exact haccounted.sweep index
  | store address byte =>
      exact ⟨haccounted.wipers, haccounted.pinners, haccounted.pinned, haccounted.positive⟩

theorem run (haccounted : Accounted state) (operations : List Operation) :
    Accounted (state.run operations) := by
  induction operations generalizing state with
  | nil => exact haccounted
  | cons operation operations ih => exact ih (haccounted.step operation)

end Accounted

/-- However the calls of all goroutines interleave: no registered function is called
twice, and one is lost only to `ClearWipers`; every pinner is unpinned at most once,
and one that is not still belongs to the pointer of a registered buffer. -/
theorem registry_accounted (memory : ℕ → Byte) (operations : List Operation) :
    Accounted ((State.start memory).run operations) :=
  (Accounted.start memory).run operations

/-! ## What a call of `WipeAll` has done when it returns -/

/-- An address a sweep has yet to overwrite. -/
def Sweep.Pending (sweep : Sweep) (address : ℕ) : Prop :=
  address ∈ sweep.addresses ∨ ∃ b ∈ sweep.buffers, 0 < b.len ∧ address ∈ b.window

/-- The steps a sweep has yet to take. -/
def Sweep.remaining (sweep : Sweep) : ℕ :=
  sweep.wipers.length + sweep.addresses.length + (sweep.buffers.map fun b => b.cap + 1).sum

/-- A call of `WipeAll` that took the given functions and addresses, seen while no
other code writes to the addresses kept. -/
structure Sweeping (wipers : List ℕ) (targets kept : Set ℕ) (index steps : ℕ) (state : State)
    (sweep : Sweep) : Prop where
  current : state.sweeps[index]? = some sweep
  wipers : ∀ wiper ∈ wipers, wiper ∈ state.invoked ∨ wiper ∈ sweep.wipers
  erased : ∀ address ∈ targets, address ∈ kept →
    state.memory address = 0 ∨ sweep.Pending address
  bounded : sweep.remaining ≤ steps

namespace Sweeping

variable {wipers : List ℕ} {targets kept : Set ℕ} {index steps : ℕ} {state state' : State}
variable {sweep : Sweep}

/-- Steps of other calls. -/
theorem mono (hsweeping : Sweeping wipers targets kept index steps state sweep)
    (hsweeps : state'.sweeps[index]? = state.sweeps[index]?)
    (hinvoked : ∀ wiper ∈ state.invoked, wiper ∈ state'.invoked)
    (hmemory : ∀ address ∈ kept, state.memory address = 0 → state'.memory address = 0) :
    Sweeping wipers targets kept index steps state' sweep where
  current := hsweeps.trans hsweeping.current
  wipers := fun wiper hwiper => (hsweeping.wipers wiper hwiper).imp_left (hinvoked wiper)
  erased := fun address htarget hkept =>
    (hsweeping.erased address htarget hkept).imp_left (hmemory address hkept)
  bounded := hsweeping.bounded

theorem zeroed (state : State) (address : ℕ) {other : ℕ} (hother : state.memory other = 0) :
    (state.store address 0).memory other = 0 := by
  by_cases haddress : other = address
  · rw [haddress]
    exact Function.update_self _ _ _
  · exact (Function.update_of_ne haddress _ _).trans hother

/-- A step of another call of `WipeAll`. -/
theorem sweep_of_ne (hsweeping : Sweeping wipers targets kept index steps state sweep)
    {other : ℕ} (hother : other ≠ index) :
    Sweeping wipers targets kept index steps (state.sweep other) sweep := by
  rw [State.sweep]
  split
  · exact hsweeping.mono (List.getElem?_set_ne hother)
      (fun wiper hwiper => List.mem_append_left _ hwiper) fun _ _ hzero => hzero
  · rename_i address _ _ _
    exact hsweeping.mono (List.getElem?_set_ne hother) (fun _ hwiper => hwiper)
      fun _ _ hzero => zeroed state address hzero
  · rename_i b _ _
    rw [State.zeroBytes]
    split
    · exact hsweeping.mono (List.getElem?_set_ne hother) (fun _ hwiper => hwiper)
        fun _ _ hzero => hzero
    · refine hsweeping.mono ?_ ?_ ?_
      · rw [State.setSweep, State.unpin_sweeps]
        exact List.getElem?_set_ne hother
      · intro wiper hwiper
        rwa [State.setSweep, State.unpin_invoked]
      · intro address _ hzero
        rwa [State.setSweep, State.unpin_memory]
  · exact hsweeping

/-- The call goes on to the next buffer. -/
theorem next_buffer {b : Slice} {buffers : List Slice}
    (hsweeping : Sweeping wipers targets kept index steps state ⟨[], [], b :: buffers⟩)
    (hindex : index < state.sweeps.length) :
    ∃ next, Sweeping wipers targets kept index (steps - 1)
      ((state.zeroBytes b).1.setSweep index ⟨[], (state.zeroBytes b).2, buffers⟩) next := by
  have hbounded := hsweeping.bounded
  simp only [Sweep.remaining, List.length_nil, List.map_cons, List.sum_cons] at hbounded
  rw [State.zeroBytes]
  split
  · rename_i hempty
    refine ⟨⟨[], [], buffers⟩, List.getElem?_set_self hindex, hsweeping.wipers, ?_, ?_⟩
    · intro address htarget hkept
      rcases hsweeping.erased address htarget hkept with hzero | hnone | ⟨other, hother, hlen, hin⟩
      · exact .inl hzero
      · exact absurd hnone List.not_mem_nil
      · rcases List.mem_cons.mp hother with rfl | hother
        · omega
        · exact .inr (.inr ⟨other, hother, hlen, hin⟩)
    · simp only [Sweep.remaining, List.length_nil]
      omega
  · refine ⟨⟨[], b.window, buffers⟩, ?_, ?_, ?_, ?_⟩
    · rw [State.setSweep, State.unpin_sweeps]
      exact List.getElem?_set_self hindex
    · rw [State.setSweep, State.unpin_invoked]
      exact hsweeping.wipers
    · intro address htarget hkept
      rw [State.setSweep, State.unpin_memory]
      rcases hsweeping.erased address htarget hkept with hzero | hnone | ⟨other, hother, hlen, hin⟩
      · exact .inl hzero
      · exact absurd hnone List.not_mem_nil
      · rcases List.mem_cons.mp hother with rfl | hother
        · exact .inr (.inl hin)
        · exact .inr (.inr ⟨other, hother, hlen, hin⟩)
    · simp only [Sweep.remaining, List.length_nil, Slice.window, List.length_map,
        List.length_range]
      omega

/-- A step of the call itself. -/
theorem sweep_self (hsweeping : Sweeping wipers targets kept index steps state sweep) :
    ∃ next, Sweeping wipers targets kept index (steps - 1) (state.sweep index) next := by
  have hindex : index < state.sweeps.length :=
    (List.getElem?_eq_some_iff.mp hsweeping.current).1
  have hbounded := hsweeping.bounded
  obtain ⟨waiting, addresses, buffers⟩ := sweep
  rw [State.sweep, hsweeping.current]
  cases waiting with
  | cons wiper waiting =>
      refine ⟨⟨waiting, addresses, buffers⟩, List.getElem?_set_self hindex, ?_, ?_, ?_⟩
      · intro other hother
        rcases hsweeping.wipers other hother with hinvoked | hwaiting
        · exact .inl (List.mem_append_left _ hinvoked)
        · rcases List.mem_cons.mp hwaiting with rfl | hwaiting
          · exact .inl (List.mem_append_right _ (List.mem_singleton_self _))
          · exact .inr hwaiting
      · exact hsweeping.erased
      · simp only [Sweep.remaining, List.length_cons] at hbounded ⊢
        omega
  | nil =>
      cases addresses with
      | cons address addresses =>
          refine ⟨⟨[], addresses, buffers⟩, List.getElem?_set_self hindex, hsweeping.wipers, ?_, ?_⟩
          · intro other htarget hkept
            rcases hsweeping.erased other htarget hkept with hzero | hpending | hlater
            · exact .inl (zeroed state address hzero)
            · rcases List.mem_cons.mp hpending with rfl | hpending
              · exact .inl (Function.update_self _ _ _)
              · exact .inr (.inl hpending)
            · exact .inr (.inr hlater)
          · simp only [Sweep.remaining, List.length_cons] at hbounded ⊢
            omega
      | nil =>
          cases buffers with
          | cons b buffers => exact hsweeping.next_buffer hindex
          | nil =>
              refine ⟨⟨[], [], []⟩, hsweeping.current, hsweeping.wipers, hsweeping.erased, ?_⟩
              exact Nat.zero_le _

theorem step (hsweeping : Sweeping wipers targets kept index steps state sweep)
    {operation : Operation}
    (hstore : ∀ address byte, operation = .store address byte → address ∉ kept) :
    ∃ next, Sweeping wipers targets kept index (steps - [operation].count (.sweep index))
      (state.step operation) next := by
  have hindex : index < state.sweeps.length :=
    (List.getElem?_eq_some_iff.mp hsweeping.current).1
  by_cases hself : operation = .sweep index
  · subst hself
    rw [List.count_singleton_self]
    exact hsweeping.sweep_self
  · rw [List.count_singleton, if_neg (by simpa using hself)]
    refine ⟨sweep, ?_⟩
    cases operation with
    | registerWiper | clearWipers =>
        exact hsweeping.mono rfl (fun _ hwiper => hwiper) fun _ _ hzero => hzero
    | registerBuffer b =>
        simp only [State.step, State.registerBuffer]
        split_ifs <;> exact hsweeping.mono rfl (fun _ hwiper => hwiper) fun _ _ hzero => hzero
    | unregisterBuffer b =>
        simp only [State.step, State.unregisterBuffer]
        split
        · exact hsweeping
        · have hunpinned : Sweeping wipers targets kept index steps (state.unpin b.ptr) sweep :=
            hsweeping.mono (by rw [State.unpin_sweeps])
              (fun wiper hwiper => by rwa [State.unpin_invoked])
              fun address _ hzero => by rwa [State.unpin_memory]
          split
          · exact hunpinned
          · exact hunpinned.mono rfl (fun _ hwiper => hwiper) fun _ _ hzero => hzero
    | zeroBytes b =>
        simp only [State.step, State.zeroBytes]
        split
        · exact hsweeping.mono rfl (fun _ hwiper => hwiper) fun _ _ hzero => hzero
        · refine hsweeping.mono (by rw [State.unpin_sweeps]) ?_ ?_
          · intro wiper hwiper
            rwa [State.unpin_invoked]
          · intro address _ hzero
            rwa [State.unpin_memory]
    | wipeAll =>
        exact hsweeping.mono (List.getElem?_append_left hindex) (fun _ hwiper => hwiper)
          fun _ _ hzero => hzero
    | erase other =>
        simp only [State.step, State.erase]
        split
        · rename_i address _ _
          exact hsweeping.mono rfl (fun _ hwiper => hwiper)
            fun _ _ hzero => zeroed state address hzero
        · exact hsweeping
    | sweep other => exact hsweeping.sweep_of_ne fun heq => hself (heq ▸ rfl)
    | store address byte =>
        refine hsweeping.mono rfl (fun _ hwiper => hwiper) fun other hother hzero => ?_
        have hne : other ≠ address := fun heq => hstore address byte rfl (heq ▸ hother)
        exact (Function.update_of_ne hne _ _).trans hzero

theorem run (hsweeping : Sweeping wipers targets kept index steps state sweep)
    {operations : List Operation}
    (hstore : ∀ address byte, .store address byte ∈ operations → address ∉ kept) :
    ∃ next, Sweeping wipers targets kept index (steps - operations.count (.sweep index))
      (state.run operations) next := by
  induction operations generalizing state sweep steps with
  | nil => exact ⟨sweep, hsweeping⟩
  | cons operation operations ih =>
      have hhead : ∀ address byte, operation = .store address byte → address ∉ kept :=
        fun address byte heq => hstore address byte (heq ▸ List.mem_cons_self)
      obtain ⟨next, hnext⟩ := hsweeping.step hhead
      obtain ⟨last, hlast⟩ := ih hnext fun address byte hmem =>
        hstore address byte (List.mem_cons_of_mem _ hmem)
      refine ⟨last, ?_⟩
      rwa [← List.singleton_append, List.count_append, ← Nat.sub_sub]

end Sweeping

/-- `WipeAll` is called after any history.  Whatever the other goroutines do until it
has taken its last step, another `WipeAll` included: all functions that were
registered have then been called, and the whole capacity of every buffer that was
registered is zero where no other code has written to it since. -/
theorem wipeAll_erases (memory : ℕ → Byte) (before after : List Operation) (kept : Set ℕ)
    {state : State} (hstate : (State.start memory).run before = state)
    (hstore : ∀ address byte, .store address byte ∈ after → address ∉ kept)
    (hsteps : state.registeredWipers.length +
      (state.registeredBuffers.map fun b => b.cap + 1).sum ≤
        after.count (.sweep state.sweeps.length)) :
    (∀ wiper ∈ state.registeredWipers, wiper ∈ (state.wipeAll.run after).invoked) ∧
      ∀ b ∈ state.registeredBuffers, ∀ address ∈ b.window, address ∈ kept →
        (state.wipeAll.run after).memory address = 0 := by
  have hpositive := ((Accounted.start memory).run before).positive
  rw [hstate] at hpositive
  have hstart : Sweeping state.registeredWipers
      {address | ∃ b ∈ state.registeredBuffers, address ∈ b.window} kept state.sweeps.length
      (state.registeredWipers.length + (state.registeredBuffers.map fun b => b.cap + 1).sum)
      state.wipeAll ⟨state.registeredWipers, [], state.registeredBuffers⟩ := by
    refine ⟨List.getElem?_concat_length, fun wiper hwiper => .inr hwiper, ?_, le_rfl⟩
    rintro address ⟨b, hb, haddress⟩ _
    exact .inr (.inr ⟨b, hb, hpositive b hb, haddress⟩)
  obtain ⟨⟨waiting, addresses, buffers⟩, hend⟩ := hstart.run hstore
  have hbounded := hend.bounded
  rw [Nat.sub_eq_zero_of_le hsteps] at hbounded
  simp only [Sweep.remaining] at hbounded
  obtain rfl : waiting = [] := List.length_eq_zero_iff.mp (by omega)
  obtain rfl : addresses = [] := List.length_eq_zero_iff.mp (by omega)
  have hbuffers : buffers = [] := by
    cases buffers with
    | nil => rfl
    | cons b buffers =>
        rw [List.map_cons, List.sum_cons] at hbounded
        omega
  subst hbuffers
  constructor
  · intro wiper hwiper
    exact (hend.wipers wiper hwiper).resolve_right List.not_mem_nil
  · intro b hb address haddress hkept
    refine (hend.erased address ⟨b, hb, haddress⟩ hkept).resolve_right ?_
    rintro (hnone | ⟨other, hother, -⟩)
    · exact List.not_mem_nil hnone
    · exact List.not_mem_nil hother

/-- A function and a buffer with a secret beyond its length. -/
def registered : List Operation :=
  [.registerWiper, .registerBuffer ⟨10, 2, 3⟩, .store 10 7, .store 12 9]

/-- A second `WipeAll` finds nothing, and the buffer is registered again. -/
def interrupted : List Operation :=
  [.sweep 0, .wipeAll, .sweep 0, .sweep 1, .registerBuffer ⟨10, 1, 1⟩, .sweep 0, .sweep 0, .sweep 0]

theorem wipeAll_erases_interrupted :
    ((State.start fun _ => 0).run registered).memory 12 = 9 ∧
      0 ∈ (((State.start fun _ => 0).run registered).wipeAll.run interrupted).invoked ∧
      (((State.start fun _ => 0).run registered).wipeAll.run interrupted).memory 12 = 0 := by
  obtain ⟨hinvoked, herased⟩ := wipeAll_erases (fun _ => 0) registered interrupted Set.univ rfl
    (fun address byte hmem => by simp [interrupted] at hmem) (by decide +kernel)
  exact ⟨by decide +kernel, hinvoked 0 (by decide +kernel),
    herased ⟨10, 2, 3⟩ (by decide +kernel) 12 (by decide +kernel) (Set.mem_univ 12)⟩

end ZeroFeed.Memzero
