import Mathlib.Algebra.BigOperators.Group.Finset.Basic
import Mathlib.Algebra.GroupWithZero.Nat
import Mathlib.Data.List.Count
import Mathlib.Logic.Relation
import ZeroFeed.Core.Transition

/-!
# Threads that share readers-writer locks

A thread is the list of the lock operations it has yet to perform, with the
operations in between that need no lock.  A writer takes a lock in two steps: it
announces itself, from where on no reader gets the lock, and it enters once the
readers that were there before have left.  A mutex is a lock nobody reads.

If every thread nests its sections properly and takes locks in the order of a
rank, then whoever waits does so for a thread that can move, or that waits for
one that can, and so on (`exists_movable`); a second read of a lock the thread
reads already breaks the order, as it should, since a writer may have announced
itself in between.  Each move brings the threads closer to their end
(`remaining_sum_of_moves`).
-/

namespace ZeroFeed.RwLocking

open ZeroFeed.Transition

inductive Mode where
  | read
  | write
  deriving DecidableEq

inductive Action (Lock : Type*) where
  | lock (mode : Mode) (lock : Lock)
  | unlock (mode : Mode) (lock : Lock)
  /-- Something that takes no lock and comes to an end. -/
  | work

abbrev Program (Lock : Type*) := List (Action Lock)

variable {Thread Lock Call : Type*}

/-! ## Properly nested sections -/

/-- A section of a lock. -/
def guarded (mode : Mode) (lock : Lock) (body : Program Lock) : Program Lock :=
  .lock mode lock :: (body ++ [.unlock mode lock])

/-- The program releases the locks held, the last one first, and takes others only
above all those it holds. -/
def Disciplined (rank : Lock → ℕ) : List (Mode × Lock) → Program Lock → Prop
  | held, [] => held = []
  | held, .work :: rest => Disciplined rank held rest
  | held, .lock mode lock :: rest =>
      (∀ entry ∈ held, rank entry.2 < rank lock) ∧ Disciplined rank ((mode, lock) :: held) rest
  | held, .unlock mode lock :: rest =>
      ∃ outer, held = (mode, lock) :: outer ∧ Disciplined rank outer rest

/-- A part of a program that holds no more locks at its end than before it, and
that takes only locks of at least the given rank. -/
def Above (rank : Lock → ℕ) (least : ℕ) (block : Program Lock) : Prop :=
  ∀ held rest, (∀ entry ∈ held, rank entry.2 < least) → Disciplined rank held rest →
    Disciplined rank held (block ++ rest)

namespace Above

variable {rank : Lock → ℕ} {least : ℕ}

theorem nil : Above rank least [] := fun _ _ _ hrest => hrest

theorem work : Above rank least [.work] := fun _ _ _ hrest => hrest

theorem append {first second : Program Lock} (hfirst : Above rank least first)
    (hsecond : Above rank least second) : Above rank least (first ++ second) := by
  intro held rest hheld hrest
  rw [List.append_assoc]
  exact hfirst held _ hheld (hsecond held rest hheld hrest)

theorem flatMap {Item : Type*} {block : Item → Program Lock} (items : List Item)
    (hblock : ∀ item ∈ items, Above rank least (block item)) :
    Above rank least (items.flatMap block) := by
  induction items with
  | nil => exact nil
  | cons item items ih =>
      rw [List.flatMap_cons]
      exact (hblock item List.mem_cons_self).append
        (ih fun other hother => hblock other (List.mem_cons_of_mem _ hother))

theorem guarded {mode : Mode} {lock : Lock} {body : Program Lock} (hleast : least ≤ rank lock)
    (hbody : Above rank (rank lock + 1) body) :
    Above rank least (RwLocking.guarded mode lock body) := by
  intro held rest hheld hrest
  have hbelow : ∀ entry ∈ held, rank entry.2 < rank lock := fun entry hentry =>
    (hheld entry hentry).trans_le hleast
  refine ⟨hbelow, ?_⟩
  change Disciplined rank _ (body ++ [.unlock mode lock] ++ rest)
  rw [List.append_assoc]
  apply hbody
  · intro entry hentry
    rcases List.mem_cons.mp hentry with rfl | hentry
    · exact Nat.lt_succ_self _
    · exact (hbelow entry hentry).trans (Nat.lt_succ_self _)
  · exact ⟨held, rfl, hrest⟩

theorem weaken {lower : ℕ} {block : Program Lock} (hblock : Above rank least block)
    (hlower : lower ≤ least) : Above rank lower block := fun held rest hheld hrest =>
  hblock held rest (fun entry hentry => (hheld entry hentry).trans_le hlower) hrest

theorem disciplined {block : Program Lock} (hblock : Above rank least block) :
    Disciplined rank [] block := by
  have hend := hblock [] [] (fun _ hentry => absurd hentry List.not_mem_nil) rfl
  rwa [List.append_nil] at hend

end Above

/-! ## Steps -/

structure State (Thread Lock : Type*) where
  /-- The writer that holds the lock or waits for its readers to leave. -/
  owner : Lock → Option Thread
  readers : Lock → List Thread
  program : Thread → Program Lock

inductive Label (Thread Call : Type*) where
  | call (thread : Thread) (call : Call)
  | move (thread : Thread)

namespace State

/-- No thread runs. -/
def start : State Thread Lock where
  owner := fun _ => none
  readers := fun _ => []
  program := fun _ => []

variable [DecidableEq Thread] [DecidableEq Lock] (state : State Thread Lock)

/-- A thread goes on with the rest of its program. -/
def resume (thread : Thread) (rest : Program Lock) : State Thread Lock :=
  { state with program := Function.update state.program thread rest }

omit [DecidableEq Lock] in
@[simp]
theorem resume_program_self (thread : Thread) (rest : Program Lock) :
    (state.resume thread rest).program thread = rest :=
  Function.update_self _ _ _

def setOwner (lock : Lock) (owner : Option Thread) : State Thread Lock :=
  { state with owner := Function.update state.owner lock owner }

def setReaders (lock : Lock) (readers : List Thread) : State Thread Lock :=
  { state with readers := Function.update state.readers lock readers }

def move (thread : Thread) : Option (State Thread Lock) :=
  match state.program thread with
  | [] => none
  | .work :: rest => some (state.resume thread rest)
  | .lock .read lock :: rest =>
      if state.owner lock = none then
        some ((state.setReaders lock (thread :: state.readers lock)).resume thread rest)
      else none
  | .lock .write lock :: rest =>
      if state.owner lock = none then some (state.setOwner lock (some thread))
      else if state.owner lock = some thread ∧ state.readers lock = [] then
        some (state.resume thread rest)
      else none
  | .unlock .read lock :: rest =>
      some ((state.setReaders lock ((state.readers lock).erase thread)).resume thread rest)
  | .unlock .write lock :: rest => some ((state.setOwner lock none).resume thread rest)

/-- A thread that has come to its end may make any call. -/
def step (body : Call → Program Lock) : Label Thread Call → Option (State Thread Lock)
  | .call thread call =>
      if (state.program thread).isEmpty then some (state.resume thread (body call)) else none
  | .move thread => state.move thread

/-- Moves of the threads in a given order. -/
def moves : List Thread → State Thread Lock → Option (State Thread Lock)
  | [], state => some state
  | thread :: threads, state => (state.move thread).bind (moves threads)

end State

/-- What a move does. -/
inductive Moves [DecidableEq Thread] [DecidableEq Lock] (state : State Thread Lock)
    (thread : Thread) : State Thread Lock → Prop where
  | work (rest : Program Lock) (hprogram : state.program thread = .work :: rest) :
      Moves state thread (state.resume thread rest)
  | read (lock : Lock) (rest : Program Lock)
      (hprogram : state.program thread = .lock .read lock :: rest)
      (hfree : state.owner lock = none) :
      Moves state thread
        ((state.setReaders lock (thread :: state.readers lock)).resume thread rest)
  | announce (lock : Lock) (rest : Program Lock)
      (hprogram : state.program thread = .lock .write lock :: rest)
      (hfree : state.owner lock = none) :
      Moves state thread (state.setOwner lock (some thread))
  | enter (lock : Lock) (rest : Program Lock)
      (hprogram : state.program thread = .lock .write lock :: rest)
      (howner : state.owner lock = some thread) (hreaders : state.readers lock = []) :
      Moves state thread (state.resume thread rest)
  | leave (lock : Lock) (rest : Program Lock)
      (hprogram : state.program thread = .unlock .read lock :: rest) :
      Moves state thread
        ((state.setReaders lock ((state.readers lock).erase thread)).resume thread rest)
  | unlock (lock : Lock) (rest : Program Lock)
      (hprogram : state.program thread = .unlock .write lock :: rest) :
      Moves state thread ((state.setOwner lock none).resume thread rest)

section Steps

variable [DecidableEq Thread] [DecidableEq Lock]
variable {state state' : State Thread Lock} {thread other : Thread}

theorem moves_of_move (hmove : state.move thread = some state') : Moves state thread state' := by
  rw [State.move] at hmove
  split at hmove
  · cases hmove
  · rename_i rest hprogram
    cases hmove
    exact .work rest hprogram
  · rename_i lock rest hprogram
    split_ifs at hmove with hfree
    cases hmove
    exact .read lock rest hprogram hfree
  · rename_i lock rest hprogram
    split_ifs at hmove with hfree hentry
    · cases hmove
      exact .announce lock rest hprogram hfree
    · cases hmove
      exact .enter lock rest hprogram hentry.1 hentry.2
  · rename_i lock rest hprogram
    cases hmove
    exact .leave lock rest hprogram
  · rename_i lock rest hprogram
    cases hmove
    exact .unlock lock rest hprogram

/-- A move concerns the program of the thread that moves. -/
theorem Moves.program_of_ne (hmoves : Moves state thread state') (hother : other ≠ thread) :
    state'.program other = state.program other := by
  cases hmoves <;> simp [State.resume, State.setReaders, State.setOwner, hother]

theorem Moves.count_readers_of_ne (hmoves : Moves state thread state') (hother : other ≠ thread)
    (lock : Lock) : (state'.readers lock).count other = (state.readers lock).count other := by
  cases hmoves with
  | work | announce | enter | unlock => rfl
  | read taken =>
      by_cases htaken : lock = taken
      · subst htaken
        simp [State.resume, State.setReaders, List.count_cons_of_ne hother.symm]
      · simp [State.resume, State.setReaders, htaken]
  | leave left =>
      by_cases hleft : lock = left
      · subst hleft
        simp [State.resume, State.setReaders, List.count_erase_of_ne hother]
      · simp [State.resume, State.setReaders, hleft]

end Steps

/-! ## What a thread holds -/

section Consistency

variable [DecidableEq Thread] [DecidableEq Lock] {rank : Lock → ℕ}
variable {state state' : State Thread Lock} {thread mover : Thread}

/-- The locks a thread holds in a state, the last one first. -/
structure Holds (rank : Lock → ℕ) (state : State Thread Lock) (thread : Thread)
    (held : List (Mode × Lock)) : Prop where
  disciplined : Disciplined rank held (state.program thread)
  sorted : held.Pairwise fun inner outer => rank outer.2 < rank inner.2
  owns : ∀ lock, (.write, lock) ∈ held → state.owner lock = some thread
  owned : ∀ lock, state.owner lock = some thread →
    (.write, lock) ∈ held ∨ ∃ rest, state.program thread = .lock .write lock :: rest
  reads : ∀ lock, (state.readers lock).count thread = held.count (.read, lock)

def Consistent (rank : Lock → ℕ) (state : State Thread Lock) : Prop :=
  ∀ thread, ∃ held, Holds rank state thread held

omit [DecidableEq Thread] [DecidableEq Lock] in
/-- The inner lock of a nest is not among the outer ones. -/
theorem notMem_of_sorted {mode : Mode} {lock : Lock} {outer : List (Mode × Lock)}
    (hsorted : ((mode, lock) :: outer).Pairwise fun inner outer => rank outer.2 < rank inner.2)
    (other : Mode) : (other, lock) ∉ outer := fun hmem =>
  Nat.lt_irrefl (rank lock) ((List.pairwise_cons.mp hsorted).1 (other, lock) hmem)

/-- The owner of a lock changes only for the thread that moves. -/
theorem owner_iff_of_moves {held : List (Mode × Lock)} (hholds : Holds rank state mover held)
    (hmoves : Moves state mover state') (hthread : thread ≠ mover) (lock : Lock) :
    state'.owner lock = some thread ↔ state.owner lock = some thread := by
  cases hmoves with
  | work | read | enter | leave => rfl
  | announce taken rest hprogram hfree =>
      by_cases htaken : lock = taken
      · subst htaken
        simp [State.setOwner, hfree, hthread.symm]
      · simp [State.setOwner, htaken]
  | unlock left rest hprogram =>
      by_cases hleft : lock = left
      · subst hleft
        have hdisciplined := hholds.disciplined
        rw [hprogram] at hdisciplined
        obtain ⟨outer, rfl, -⟩ := hdisciplined
        have howner := hholds.owns lock List.mem_cons_self
        simp [State.resume, State.setOwner, howner, hthread.symm]
      · simp [State.resume, State.setOwner, hleft]

theorem Holds.of_moves {held moving : List (Mode × Lock)} (hholds : Holds rank state thread held)
    (hmoving : Holds rank state mover moving) (hmoves : Moves state mover state')
    (hthread : thread ≠ mover) : Holds rank state' thread held where
  disciplined := by
    rw [hmoves.program_of_ne hthread]
    exact hholds.disciplined
  sorted := hholds.sorted
  owns := fun lock hlock =>
    (owner_iff_of_moves hmoving hmoves hthread lock).mpr (hholds.owns lock hlock)
  owned := fun lock howner => by
    rw [hmoves.program_of_ne hthread]
    exact hholds.owned lock ((owner_iff_of_moves hmoving hmoves hthread lock).mp howner)
  reads := fun lock => (hmoves.count_readers_of_ne hthread lock).trans (hholds.reads lock)

/-- A thread that does not ask for a lock to write holds all the locks it owns. -/
theorem Holds.mem_of_owner {held : List (Mode × Lock)}
    (hholds : Holds rank state thread held)
    (hhead : ∀ lock rest, state.program thread ≠ .lock .write lock :: rest) {lock : Lock}
    (howner : state.owner lock = some thread) : (.write, lock) ∈ held := by
  rcases hholds.owned lock howner with hmem | ⟨rest, hrest⟩
  · exact hmem
  · exact absurd hrest (hhead lock rest)

/-- The thread that moves holds one lock more, the same or one lock less; if it
does not announce itself, it holds all the locks it owns. -/
theorem Holds.exists_of_moves_self {held : List (Mode × Lock)}
    (hholds : Holds rank state mover held) (hmoves : Moves state mover state') :
    ∃ held', Holds rank state' mover held' ∧
      (state'.program mover = state.program mover ∨
        ∀ lock, state'.owner lock = some mover → (.write, lock) ∈ held') := by
  have hdisciplined := hholds.disciplined
  cases hmoves with
  | work rest hprogram =>
      rw [hprogram] at hdisciplined
      have howned : ∀ lock, state.owner lock = some mover → (.write, lock) ∈ held :=
        fun lock howner => hholds.mem_of_owner (by simp [hprogram]) howner
      refine ⟨held, ⟨?_, hholds.sorted, hholds.owns, fun lock h => .inl (howned lock h),
        hholds.reads⟩, .inr howned⟩
      rw [State.resume_program_self]
      exact hdisciplined
  | read lock rest hprogram hfree =>
      rw [hprogram] at hdisciplined
      have howned : ∀ other, state.owner other = some mover →
          (.write, other) ∈ (.read, lock) :: held := fun other howner =>
        List.mem_cons_of_mem _ (hholds.mem_of_owner (by simp [hprogram]) howner)
      refine ⟨(.read, lock) :: held, ⟨?_,
        List.pairwise_cons.mpr ⟨hdisciplined.1, hholds.sorted⟩, ?_,
        fun other h => .inl (howned other h), ?_⟩, .inr howned⟩
      · rw [State.resume_program_self]
        exact hdisciplined.2
      · intro other hother
        rcases List.mem_cons.mp hother with hhead | hother
        · cases hhead
        · exact hholds.owns other hother
      · intro other
        by_cases hother : other = lock
        · subst hother
          simp [State.resume, State.setReaders, hholds.reads]
        · rw [List.count_cons_of_ne fun heq => hother (congrArg Prod.snd heq).symm]
          simp [State.resume, State.setReaders, hother, hholds.reads]
  | announce lock rest hprogram hfree =>
      refine ⟨held, ⟨hdisciplined, hholds.sorted, ?_, ?_, hholds.reads⟩, .inl rfl⟩
      · intro other hother
        by_cases hlock : other = lock
        · subst hlock
          simp [State.setOwner]
        · simpa [State.setOwner, hlock] using hholds.owns other hother
      · intro other howner
        by_cases hlock : other = lock
        · subst hlock
          exact .inr ⟨rest, hprogram⟩
        · simp only [State.setOwner, Function.update_of_ne hlock] at howner
          exact hholds.owned other howner
  | enter lock rest hprogram howner hreaders =>
      rw [hprogram] at hdisciplined
      have howned : ∀ other, state.owner other = some mover →
          (.write, other) ∈ (.write, lock) :: held := by
        intro other hother
        rcases hholds.owned other hother with hmem | ⟨tail, htail⟩
        · exact List.mem_cons_of_mem _ hmem
        · rw [hprogram] at htail
          cases htail
          exact List.mem_cons_self
      refine ⟨(.write, lock) :: held, ⟨?_,
        List.pairwise_cons.mpr ⟨hdisciplined.1, hholds.sorted⟩, ?_,
        fun other h => .inl (howned other h), ?_⟩, .inr howned⟩
      · rw [State.resume_program_self]
        exact hdisciplined.2
      · intro other hother
        rcases List.mem_cons.mp hother with hhead | hother
        · cases hhead
          exact howner
        · exact hholds.owns other hother
      · intro other
        rw [List.count_cons_of_ne fun heq => Mode.noConfusion (congrArg Prod.fst heq)]
        exact hholds.reads other
  | leave lock rest hprogram =>
      rw [hprogram] at hdisciplined
      obtain ⟨outer, rfl, houter⟩ := hdisciplined
      have howned : ∀ other, state.owner other = some mover → (.write, other) ∈ outer := by
        intro other howner
        have hmem := hholds.mem_of_owner (by simp [hprogram]) howner
        rcases List.mem_cons.mp hmem with hhead | hmem
        · cases hhead
        · exact hmem
      refine ⟨outer, ⟨?_, hholds.sorted.of_cons,
        fun other hother => hholds.owns other (List.mem_cons_of_mem _ hother),
        fun other h => .inl (howned other h), ?_⟩, .inr howned⟩
      · rw [State.resume_program_self]
        exact houter
      · intro other
        have hreads := hholds.reads other
        by_cases hother : other = lock
        · subst hother
          rw [List.count_cons_self] at hreads
          simp [State.resume, State.setReaders, hreads]
        · rw [List.count_cons_of_ne fun heq => hother (congrArg Prod.snd heq).symm] at hreads
          simpa [State.resume, State.setReaders, hother] using hreads
  | unlock lock rest hprogram =>
      rw [hprogram] at hdisciplined
      obtain ⟨outer, rfl, houter⟩ := hdisciplined
      have howned : ∀ other, Function.update state.owner lock none other = some mover →
          (.write, other) ∈ outer := by
        intro other howner
        have hlock : other ≠ lock := by
          rintro rfl
          rw [Function.update_self] at howner
          cases howner
        rw [Function.update_of_ne hlock] at howner
        have hmem := hholds.mem_of_owner (by simp [hprogram]) howner
        rcases List.mem_cons.mp hmem with hhead | hmem
        · exact absurd (congrArg Prod.snd hhead) hlock
        · exact hmem
      refine ⟨outer, ⟨?_, hholds.sorted.of_cons, ?_, fun other h => .inl (howned other h), ?_⟩,
        .inr howned⟩
      · rw [State.resume_program_self]
        exact houter
      · intro other hother
        have hlock : other ≠ lock := by
          rintro rfl
          exact notMem_of_sorted hholds.sorted _ hother
        simpa [State.resume, State.setOwner, hlock] using
          hholds.owns other (List.mem_cons_of_mem _ hother)
      · intro other
        have hreads := hholds.reads other
        rwa [List.count_cons_of_ne fun heq => Mode.noConfusion (congrArg Prod.fst heq)] at hreads

theorem consistent_of_moves (hconsistent : Consistent rank state)
    (hmoves : Moves state mover state') : Consistent rank state' := by
  intro thread
  obtain ⟨moving, hmoving⟩ := hconsistent mover
  by_cases hthread : thread = mover
  · subst hthread
    obtain ⟨held, hholds, -⟩ := hmoving.exists_of_moves_self hmoves
    exact ⟨held, hholds⟩
  · obtain ⟨held, hholds⟩ := hconsistent thread
    exact ⟨held, hholds.of_moves hmoving hmoves hthread⟩

theorem consistent_of_schedule (schedule : List Thread) (hconsistent : Consistent rank state)
    (hmoves : State.moves schedule state = some state') : Consistent rank state' := by
  induction schedule generalizing state with
  | nil =>
      cases hmoves
      exact hconsistent
  | cons mover schedule ih =>
      rw [State.moves, Option.bind_eq_some_iff] at hmoves
      obtain ⟨next, hnext, hrest⟩ := hmoves
      exact ih (consistent_of_moves hconsistent (moves_of_move hnext)) hrest

/-- A thread at its end holds nothing, so it may begin anything. -/
theorem consistent_of_call {program : Program Lock} (hprogram : Disciplined rank [] program)
    (hconsistent : Consistent rank state) (hend : state.program mover = []) :
    Consistent rank (state.resume mover program) := by
  intro thread
  obtain ⟨held, hholds⟩ := hconsistent thread
  by_cases hthread : thread = mover
  · subst hthread
    have hheld := hholds.disciplined
    rw [hend] at hheld
    obtain rfl : held = [] := hheld
    refine ⟨[], ?_, List.Pairwise.nil, hholds.owns, ?_, hholds.reads⟩
    · simpa [State.resume] using hprogram
    · intro lock howner
      rcases hholds.owned lock howner with hmem | ⟨rest, hrest⟩
      · exact .inl hmem
      · rw [hend] at hrest
        cases hrest
  · refine ⟨held, ?_, hholds.sorted, hholds.owns, ?_, hholds.reads⟩
    · simpa [State.resume, hthread] using hholds.disciplined
    · simpa [State.resume, hthread] using hholds.owned

theorem consistent_start : Consistent rank (State.start : State Thread Lock) := fun _ =>
  ⟨[], rfl, List.Pairwise.nil, fun _ hlock => absurd hlock List.not_mem_nil,
    fun _ howner => (Option.some_ne_none _ howner.symm).elim, fun _ => rfl⟩

theorem consistent_of_reaches {body : Call → Program Lock}
    (hbody : ∀ call, Disciplined rank [] (body call))
    (hreaches : Reaches (State.step · body) State.start state) : Consistent rank state := by
  refine @Reaches.invariant _ _ (State.step · body) _ _ (Consistent rank) consistent_start ?_
    hreaches
  intro state label state' hconsistent hstep
  cases label with
  | call mover call =>
      simp only [State.step] at hstep
      split_ifs at hstep with hend
      cases hstep
      exact consistent_of_call (hbody call) hconsistent (List.isEmpty_iff.mp hend)
  | move mover => exact consistent_of_moves hconsistent (moves_of_move hstep)

end Consistency

/-! ## Waiting -/

/-- Why a thread does not move. -/
inductive WaitsFor (state : State Thread Lock) (thread other : Thread) : Prop where
  | reader (lock : Lock) (rest : Program Lock)
      (hprogram : state.program thread = .lock .read lock :: rest)
      (howner : state.owner lock = some other)
  | writer (lock : Lock) (rest : Program Lock)
      (hprogram : state.program thread = .lock .write lock :: rest)
      (howner : state.owner lock = some other) (hother : other ≠ thread)
  | drain (lock : Lock) (rest : Program Lock)
      (hprogram : state.program thread = .lock .write lock :: rest)
      (howner : state.owner lock = some thread) (hreader : other ∈ state.readers lock)

section Waiting

variable [DecidableEq Thread] [DecidableEq Lock] {rank : Lock → ℕ}
variable {state state' : State Thread Lock} {thread other : Thread}

theorem exists_waitsFor (hprogram : state.program thread ≠ [])
    (hmove : state.move thread = none) : ∃ other, WaitsFor state thread other := by
  rw [State.move] at hmove
  split at hmove
  · contradiction
  · cases hmove
  · rename_i lock rest hhead
    split_ifs at hmove with hfree
    obtain ⟨other, howner⟩ := Option.ne_none_iff_exists'.mp hfree
    exact ⟨other, .reader lock rest hhead howner⟩
  · rename_i lock rest hhead
    split_ifs at hmove with hfree hentry
    obtain ⟨other, howner⟩ := Option.ne_none_iff_exists'.mp hfree
    by_cases hother : other = thread
    · subst hother
      have hreaders : state.readers lock ≠ [] := fun hnil => hentry ⟨howner, hnil⟩
      obtain ⟨reader, hreader⟩ := List.exists_mem_of_ne_nil _ hreaders
      exact ⟨reader, .drain lock rest hhead howner hreader⟩
    · exact ⟨other, .writer lock rest hhead howner hother⟩
  · cases hmove
  · cases hmove

/-- How far up in the order a thread waits; a writer that has announced itself is
past those that have not. -/
def level (rank : Lock → ℕ) (state : State Thread Lock) (thread : Thread) : ℕ :=
  match state.program thread with
  | .lock .read lock :: _ => 2 * rank lock
  | .lock .write lock :: _ => 2 * rank lock + if state.owner lock = some thread then 1 else 0
  | _ => 0

/-- A thread that holds a lock can move or waits further up. -/
theorem level_of_held {held : List (Mode × Lock)} (hholds : Holds rank state thread held)
    {mode : Mode} {lock : Lock} (hlock : (mode, lock) ∈ held) (hmove : state.move thread = none) :
    state.program thread ≠ [] ∧ 2 * rank lock + 2 ≤ level rank state thread := by
  have hdisciplined := hholds.disciplined
  have hprogram : state.program thread ≠ [] := by
    intro hend
    rw [hend] at hdisciplined
    rw [show held = [] from hdisciplined] at hlock
    exact List.not_mem_nil hlock
  refine ⟨hprogram, ?_⟩
  obtain ⟨blocker, hwaits⟩ := exists_waitsFor hprogram hmove
  cases hwaits with
  | reader next rest hhead | writer next rest hhead | drain next rest hhead =>
      rw [hhead] at hdisciplined
      have hrank : rank lock < rank next := hdisciplined.1 _ hlock
      simp only [level, hhead]
      omega

/-- Following who waits for whom leads up. -/
theorem level_lt_of_waitsFor (hconsistent : Consistent rank state)
    (hwaits : WaitsFor state thread other) (hmove : state.move other = none) :
    state.program other ≠ [] ∧ level rank state thread < level rank state other := by
  obtain ⟨held, hholds⟩ := hconsistent other
  -- An owner either waits for the readers to leave or holds the lock.
  have howner : ∀ lock, state.owner lock = some other →
      state.program other ≠ [] ∧ 2 * rank lock + 1 ≤ level rank state other := by
    intro lock hown
    rcases hholds.owned lock hown with hmem | ⟨rest, hrest⟩
    · obtain ⟨hprogram, hlevel⟩ := level_of_held hholds hmem hmove
      exact ⟨hprogram, (Nat.le_succ _).trans hlevel⟩
    · refine ⟨by simp [hrest], ?_⟩
      simp [level, hrest, hown]
  cases hwaits with
  | reader lock rest hhead hown =>
      obtain ⟨hprogram, hlevel⟩ := howner lock hown
      refine ⟨hprogram, ?_⟩
      simp only [level, hhead] at hlevel ⊢
      omega
  | writer lock rest hhead hown hother =>
      obtain ⟨hprogram, hlevel⟩ := howner lock hown
      refine ⟨hprogram, ?_⟩
      have hne : state.owner lock ≠ some thread := fun hthread =>
        hother (Option.some.inj (hown.symm.trans hthread))
      calc level rank state thread = 2 * rank lock := by simp [level, hhead, hne]
        _ < level rank state other := hlevel
  | drain lock rest hhead hown hreader =>
      have hmem : (Mode.read, lock) ∈ held := by
        rw [← List.count_pos_iff, ← hholds.reads lock]
        exact List.count_pos_iff.mpr hreader
      obtain ⟨hprogram, hlevel⟩ := level_of_held hholds hmem hmove
      refine ⟨hprogram, ?_⟩
      calc level rank state thread = 2 * rank lock + 1 := by simp [level, hhead, hown]
        _ < level rank state other := hlevel

omit [DecidableEq Lock] in
theorem level_le {bound : ℕ} (hbound : ∀ lock, rank lock ≤ bound) (thread : Thread) :
    level rank state thread ≤ 2 * bound + 1 := by
  rw [level]
  split
  · rename_i lock _ _
    have := hbound lock
    omega
  · rename_i lock _ _
    have := hbound lock
    split_ifs <;> omega
  · omega

/-- Whoever has not come to its end can move, or waits, perhaps through others,
for a thread that can. -/
theorem exists_movable {bound : ℕ} (hbound : ∀ lock, rank lock ≤ bound)
    (hconsistent : Consistent rank state) (hprogram : state.program thread ≠ []) :
    ∃ other, Relation.ReflTransGen (WaitsFor state) thread other ∧
      (state.move other).isSome := by
  -- On the distance to the top of the order.
  induction hdistance : 2 * bound + 1 - level rank state thread using Nat.strong_induction_on
    generalizing thread with
  | _ distance ih =>
      cases hmove : state.move thread with
      | some next => exact ⟨thread, .refl, by simp [hmove]⟩
      | none =>
          obtain ⟨blocker, hwaits⟩ := exists_waitsFor hprogram hmove
          cases hblocker : state.move blocker with
          | some next => exact ⟨blocker, .single hwaits, by simp [hblocker]⟩
          | none =>
              obtain ⟨hblocked, hlevel⟩ := level_lt_of_waitsFor hconsistent hwaits hblocker
              have htop : level rank state blocker ≤ 2 * bound + 1 := level_le hbound blocker
              obtain ⟨other, hchain, hother⟩ :=
                ih (2 * bound + 1 - level rank state blocker) (by omega) hblocked rfl
              exact ⟨other, .head hwaits hchain, hother⟩

end Waiting

/-! ## Coming to an end -/

section Ending

variable [DecidableEq Thread] [DecidableEq Lock] {rank : Lock → ℕ}
variable {state state' : State Thread Lock} {thread mover : Thread}

/-- The moves an action takes. -/
def Action.cost : Action Lock → ℕ
  | .lock .write _ => 2
  | _ => 1

/-- Whether the thread is a writer that waits for readers to leave. -/
def announced (state : State Thread Lock) (thread : Thread) : Bool :=
  match state.program thread with
  | .lock .write lock :: _ => state.owner lock = some thread
  | _ => false

/-- The moves a thread has yet to make. -/
def remaining (state : State Thread Lock) (thread : Thread) : ℕ :=
  ((state.program thread).map Action.cost).sum - if announced state thread then 1 else 0

omit [DecidableEq Lock] in
/-- A thread that holds all the locks it owns waits for no readers. -/
theorem not_announced {held : List (Mode × Lock)} (hdisciplined : Disciplined rank held
    (state.program thread)) (howned : ∀ lock, state.owner lock = some thread →
      (.write, lock) ∈ held) : announced state thread = false := by
  rw [announced]
  split
  · rename_i lock rest hprogram
    rw [hprogram] at hdisciplined
    rw [decide_eq_false_iff_not]
    exact fun howner => Nat.lt_irrefl _ (hdisciplined.1 _ (howned lock howner))
  · rfl

theorem remaining_of_moves_self {held : List (Mode × Lock)}
    (hholds : Holds rank state mover held) (hmoves : Moves state mover state') :
    remaining state' mover + 1 = remaining state mover := by
  obtain ⟨held', hholds', hkept | howned⟩ := hholds.exists_of_moves_self hmoves
  · cases hmoves with
    | announce lock rest hprogram hfree =>
        simp [remaining, announced, hprogram, hfree, State.setOwner, Action.cost]
        omega
    | work rest hprogram | read lock rest hprogram | enter lock rest hprogram
    | leave lock rest hprogram | unlock lock rest hprogram =>
        rw [hprogram, State.resume_program_self] at hkept
        exact absurd hkept.symm (List.cons_ne_self _ _)
  · have hafter := not_announced hholds'.disciplined howned
    rw [remaining, hafter]
    cases hmoves with
    | announce lock rest hprogram hfree =>
        simp [announced, State.setOwner, hprogram] at hafter
    | work rest hprogram | read lock rest hprogram | leave lock rest hprogram
    | unlock lock rest hprogram =>
        simp [remaining, announced, hprogram, Action.cost, Nat.add_comm]
    | enter lock rest hprogram howner =>
        simp [remaining, announced, hprogram, howner, Action.cost]
        omega

theorem remaining_of_moves_of_ne {held : List (Mode × Lock)}
    (hholds : Holds rank state mover held) (hmoves : Moves state mover state')
    (hthread : thread ≠ mover) : remaining state' thread = remaining state thread := by
  have hannounced : announced state' thread = announced state thread := by
    rw [announced, announced, hmoves.program_of_ne hthread]
    split
    · rw [decide_eq_decide]
      exact owner_iff_of_moves hholds hmoves hthread _
    · rfl
  rw [remaining, remaining, hannounced, hmoves.program_of_ne hthread]

/-- Whatever order the threads move in, every move is one less to make. -/
theorem remaining_sum_of_moves {threads : Finset Thread} (schedule : List Thread)
    (hconsistent : Consistent rank state)
    (hidle : ∀ thread, thread ∉ threads → state.program thread = [])
    (hmoves : State.moves schedule state = some state') :
    schedule.length + ∑ thread ∈ threads, remaining state' thread =
      ∑ thread ∈ threads, remaining state thread := by
  induction schedule generalizing state with
  | nil =>
      cases hmoves
      simp
  | cons mover schedule ih =>
      rw [State.moves, Option.bind_eq_some_iff] at hmoves
      obtain ⟨next, hnext, hrest⟩ := hmoves
      have hmove := moves_of_move hnext
      have hmover : mover ∈ threads := by
        by_contra habsent
        have hend := hidle mover habsent
        rw [State.move, hend] at hnext
        cases hnext
      obtain ⟨held, hholds⟩ := hconsistent mover
      have hidle' : ∀ thread, thread ∉ threads → next.program thread = [] := by
        intro thread hthread
        have hother : thread ≠ mover := fun heq => hthread (heq ▸ hmover)
        rw [hmove.program_of_ne hother]
        exact hidle thread hthread
      have hothers : ∑ thread ∈ threads.erase mover, remaining next thread =
          ∑ thread ∈ threads.erase mover, remaining state thread :=
        Finset.sum_congr rfl fun thread hthread =>
          remaining_of_moves_of_ne hholds hmove (Finset.ne_of_mem_erase hthread)
      have hself := remaining_of_moves_self hholds hmove
      have hstep : 1 + ∑ thread ∈ threads, remaining next thread =
          ∑ thread ∈ threads, remaining state thread := by
        rw [← Finset.add_sum_erase threads (remaining state) hmover,
          ← Finset.add_sum_erase threads (remaining next) hmover, hothers, ← hself]
        omega
      rw [← hstep, ← ih (consistent_of_moves hconsistent hmove) hidle' hrest, List.length_cons]
      omega

end Ending

end ZeroFeed.RwLocking
