import Mathlib.Data.Finset.Basic
import Mathlib.Data.Set.Finite.Lemmas
import ZeroFeed.Core.Transition

/-!
# Threads that share locks

A thread is the program it has yet to run: it takes and releases locks, and in
between it reads and changes a store all threads share.  A step performs one
lock operation together with the local code up to the next one, so a thread
between two steps either has returned, has crashed, is about to take or release
a lock, or waits for the environment to decide how to go on.

A set of threads is deadlocked if each of them waits for a lock that another one
holds.  Whatever the ranks of the locks are, some member of such a set holds a
lock and waits for one of the same or a lower rank
(`Deadlocked.exists_descending`); a static check of the programs tells which
locks a thread can hold where it waits.
-/

namespace ZeroFeed.Locking

open ZeroFeed.Transition

inductive Program (Lock Store : Type*) where
  | done
  | crash
  | acquire (lock : Lock) (next : Program Lock Store)
  | release (lock : Lock) (next : Program Lock Store)
  | update (effect : Store → Store) (next : Program Lock Store)
  | branch (test : Store → Bool) (yes no : Program Lock Store)
  /-- The environment decides. -/
  | either (one other : Program Lock Store)

namespace Program

variable {Lock Store : Type*} [DecidableEq Lock]

/-- Run the local code up to the next lock operation. -/
def settle (store : Store) : Program Lock Store → Store × Program Lock Store
  | .update effect next => settle (effect store) next
  | .branch test yes no => if test store then settle store yes else settle store no
  | program => (store, program)

/-- The lock a program asks for next. -/
def awaits : Program Lock Store → Option Lock
  | .acquire lock _ => some lock
  | _ => none

/-- Along every path the locks taken are allowed for the locks held, only held
locks are released and none is held at the end. -/
def disciplined (allowed : Finset Lock → Lock → Bool) : Finset Lock → Program Lock Store → Bool
  | held, .done => decide (held = ∅)
  | _, .crash => true
  | held, .acquire lock next =>
      decide (lock ∉ held) && allowed held lock && disciplined allowed (insert lock held) next
  | held, .release lock next =>
      decide (lock ∈ held) && disciplined allowed (held.erase lock) next
  | held, .update _ next => disciplined allowed held next
  | held, .branch _ yes no => disciplined allowed held yes && disciplined allowed held no
  | held, .either one other => disciplined allowed held one && disciplined allowed held other

/-- On some path `inner` is taken before `outer` is released. -/
def nests (outer inner : Lock) : Program Lock Store → Bool
  | .done | .crash => false
  | .acquire lock next => decide (lock = inner) || nests outer inner next
  | .release lock next => decide (lock ≠ outer) && nests outer inner next
  | .update _ next => nests outer inner next
  | .branch _ yes no => nests outer inner yes || nests outer inner no
  | .either one other => nests outer inner one || nests outer inner other

theorem disciplined_settle {allowed : Finset Lock → Lock → Bool} {held : Finset Lock}
    {program : Program Lock Store} (hdisciplined : disciplined allowed held program = true)
    (store : Store) : disciplined allowed held (settle store program).2 = true := by
  induction program generalizing store with
  | done | crash | acquire | release | either => exact hdisciplined
  | update effect next ih => exact ih hdisciplined (effect store)
  | branch test yes no ihyes ihno =>
      obtain ⟨hyes, hno⟩ := Bool.and_eq_true_iff.mp hdisciplined
      rw [settle]
      split
      · exact ihyes hyes store
      · exact ihno hno store

theorem nests_of_settle {outer inner : Lock} {store : Store} {program : Program Lock Store}
    (hnests : nests outer inner (settle store program).2 = true) :
    nests outer inner program = true := by
  induction program generalizing store with
  | done | crash | acquire | release | either => exact hnests
  | update effect next ih => exact ih hnests
  | branch test yes no ihyes ihno =>
      rw [settle] at hnests
      rw [nests, Bool.or_eq_true]
      split at hnests
      · exact .inl (ihyes hnests)
      · exact .inr (ihno hnests)

end Program

open Program

variable {Thread Lock Store Call : Type*} [DecidableEq Thread]

structure State (Thread Lock Store : Type*) where
  store : Store
  holder : Lock → Option Thread
  program : Thread → Program Lock Store

inductive Label (Thread Call : Type*) where
  | call (thread : Thread) (call : Call)
  | move (thread : Thread)
  | choose (thread : Thread) (first : Bool)

namespace State

/-- No thread runs. -/
def start (store : Store) : State Thread Lock Store where
  store := store
  holder := fun _ => none
  program := fun _ => .done

variable (state : State Thread Lock Store)

/-- A thread goes on with a program. -/
def resume (holder : Lock → Option Thread) (thread : Thread) (program : Program Lock Store) :
    State Thread Lock Store where
  store := (settle state.store program).1
  holder := holder
  program := Function.update state.program thread (settle state.store program).2

@[simp]
theorem resume_holder (holder : Lock → Option Thread) (thread : Thread)
    (program : Program Lock Store) : (state.resume holder thread program).holder = holder := rfl

@[simp]
theorem resume_program_self (holder : Lock → Option Thread) (thread : Thread)
    (program : Program Lock Store) :
    (state.resume holder thread program).program thread = (settle state.store program).2 :=
  Function.update_self _ _ _

theorem resume_program_of_ne (holder : Lock → Option Thread) {thread other : Thread}
    (hother : other ≠ thread) (program : Program Lock Store) :
    (state.resume holder thread program).program other = state.program other :=
  Function.update_of_ne hother _ _

/-- A thread that has returned may make any call. -/
def step [DecidableEq Lock] (body : Call → Program Lock Store) :
    Label Thread Call → Option (State Thread Lock Store)
  | .call thread call =>
      match state.program thread with
      | .done => some (state.resume state.holder thread (body call))
      | _ => none
  | .move thread =>
      match state.program thread with
      | .acquire lock next =>
          if state.holder lock = none then
            some (state.resume (Function.update state.holder lock (some thread)) thread next)
          else none
      | .release lock next =>
          some (state.resume (Function.update state.holder lock none) thread next)
      | _ => none
  | .choose thread first =>
      match state.program thread with
      | .either one other =>
          some (state.resume state.holder thread (if first then one else other))
      | _ => none

end State

/-! ## Steps -/

variable [DecidableEq Lock]

/-- The effects of a step. -/
inductive Moves (body : Call → Program Lock Store) (state : State Thread Lock Store) :
    Label Thread Call → State Thread Lock Store → Prop where
  | call (thread : Thread) (call : Call) (hdone : state.program thread = .done) :
      Moves body state (.call thread call) (state.resume state.holder thread (body call))
  | acquire (thread : Thread) (lock : Lock) (next : Program Lock Store)
      (hacquire : state.program thread = .acquire lock next) (hfree : state.holder lock = none) :
      Moves body state (.move thread)
        (state.resume (Function.update state.holder lock (some thread)) thread next)
  | release (thread : Thread) (lock : Lock) (next : Program Lock Store)
      (hrelease : state.program thread = .release lock next) :
      Moves body state (.move thread)
        (state.resume (Function.update state.holder lock none) thread next)
  | choose (thread : Thread) (first : Bool) (one other : Program Lock Store)
      (heither : state.program thread = .either one other) :
      Moves body state (.choose thread first)
        (state.resume state.holder thread (if first then one else other))

theorem moves_of_step {body : Call → Program Lock Store} {state state' : State Thread Lock Store}
    {label : Label Thread Call} (hstep : state.step body label = some state') :
    Moves body state label state' := by
  cases label with
  | call thread call =>
      simp only [State.step] at hstep
      split at hstep
      · rename_i hdone
        cases hstep
        exact .call thread call hdone
      · cases hstep
  | move thread =>
      simp only [State.step] at hstep
      split at hstep
      · rename_i hacquire
        split at hstep
        · rename_i hfree
          cases hstep
          exact .acquire thread _ _ hacquire hfree
        · cases hstep
      · rename_i hrelease
        cases hstep
        exact .release thread _ _ hrelease
      · cases hstep
  | choose thread first =>
      simp only [State.step] at hstep
      split at hstep
      · rename_i heither
        cases hstep
        exact .choose thread first _ _ heither
      · cases hstep

/-! ## What a thread can hold -/

/-- The locks of a thread are those its program accounts for. -/
def Accounted (allowed : Finset Lock → Lock → Bool) (state : State Thread Lock Store)
    (thread : Thread) : Prop :=
  ∃ held, disciplined allowed held (state.program thread) = true ∧
    ∀ lock, state.holder lock = some thread ↔ lock ∈ held

section Consistency

variable {allowed : Finset Lock → Lock → Bool} {body : Call → Program Lock Store}
variable {state state' : State Thread Lock Store} {label : Label Thread Call}

/-- Threads that keep their program and their locks. -/
theorem Accounted.of_resume {thread mover : Thread} (haccounted : Accounted allowed state thread)
    (hother : thread ≠ mover) {holder : Lock → Option Thread} {next : Program Lock Store}
    (hholder : ∀ lock, holder lock = some thread ↔ state.holder lock = some thread) :
    Accounted allowed (state.resume holder mover next) thread := by
  obtain ⟨held, hdisciplined, hheld⟩ := haccounted
  refine ⟨held, ?_, fun lock => (hholder lock).trans (hheld lock)⟩
  rw [State.resume_program_of_ne state holder hother]
  exact hdisciplined

theorem accounted_resume_self {mover : Thread} {holder : Lock → Option Thread}
    {next : Program Lock Store} {held : Finset Lock}
    (hdisciplined : disciplined allowed held next = true)
    (hheld : ∀ lock, holder lock = some mover ↔ lock ∈ held) :
    Accounted allowed (state.resume holder mover next) mover := by
  refine ⟨held, ?_, hheld⟩
  rw [State.resume_program_self]
  exact disciplined_settle hdisciplined state.store

theorem accounted_step (hbody : ∀ call, disciplined allowed ∅ (body call) = true)
    (haccounted : ∀ thread, Accounted allowed state thread)
    (hstep : state.step body label = some state') (thread : Thread) :
    Accounted allowed state' thread := by
  have hthread := haccounted thread
  cases moves_of_step hstep with
  | call mover call hdone =>
      by_cases hmover : thread = mover
      · subst hmover
        obtain ⟨held, hdisciplined, hheld⟩ := hthread
        rw [hdone, disciplined, decide_eq_true_eq] at hdisciplined
        subst hdisciplined
        exact accounted_resume_self (hbody call) hheld
      · exact hthread.of_resume hmover fun _ => Iff.rfl
  | acquire mover lock next hacquire hfree =>
      by_cases hmover : thread = mover
      · subst hmover
        obtain ⟨held, hdisciplined, hheld⟩ := hthread
        rw [hacquire, disciplined, Bool.and_eq_true] at hdisciplined
        refine accounted_resume_self hdisciplined.2 fun other => ?_
        by_cases hother : other = lock
        · simp [hother]
        · simp [hother, hheld]
      · refine hthread.of_resume hmover fun other => ?_
        by_cases hother : other = lock
        · simp [hother, hfree, Ne.symm hmover]
        · simp [hother]
  | release mover lock next hrelease =>
      obtain ⟨held, hdisciplined, hheld⟩ := haccounted mover
      rw [hrelease, disciplined, Bool.and_eq_true, decide_eq_true_eq] at hdisciplined
      by_cases hmover : thread = mover
      · subst hmover
        refine accounted_resume_self hdisciplined.2 fun other => ?_
        by_cases hother : other = lock
        · simp [hother]
        · simp [hother, hheld]
      · refine hthread.of_resume hmover fun other => ?_
        by_cases hother : other = lock
        · simp [hother, (hheld lock).mpr hdisciplined.1, Ne.symm hmover]
        · simp [hother]
  | choose mover first one other heither =>
      by_cases hmover : thread = mover
      · subst hmover
        obtain ⟨held, hdisciplined, hheld⟩ := hthread
        rw [heither, disciplined, Bool.and_eq_true] at hdisciplined
        refine accounted_resume_self ?_ hheld
        split
        · exact hdisciplined.1
        · exact hdisciplined.2
      · exact hthread.of_resume hmover fun _ => Iff.rfl

omit [DecidableEq Thread] in
theorem accounted_start (store : Store) (thread : Thread) :
    Accounted allowed (State.start store : State Thread Lock Store) thread :=
  ⟨∅, by simp [State.start, disciplined], fun _ => by simp [State.start]⟩

theorem accounted_of_reaches (hbody : ∀ call, disciplined allowed ∅ (body call) = true)
    {store : Store} (hreaches : Reaches (State.step · body) (State.start store) state) :
    ∀ thread, Accounted allowed state thread :=
  @Reaches.invariant _ _ (State.step · body) _ _
    (fun state => ∀ thread, Accounted allowed state thread)
    (accounted_start store) (fun _ _ _ haccounted => accounted_step hbody haccounted) hreaches

end Consistency

/-! ## Nested locks -/

/-- The thread holds `outer` and may take `inner` before it releases it. -/
def Nesting (state : State Thread Lock Store) (thread : Thread) (outer inner : Lock) : Prop :=
  state.holder outer = some thread ∧ nests outer inner (state.program thread) = true

instance (state : State Thread Lock Store) (thread : Thread) (outer inner : Lock) :
    Decidable (Nesting state thread outer inner) :=
  inferInstanceAs (Decidable (_ ∧ _))

omit [DecidableEq Thread] in
theorem nesting_of_awaits {state : State Thread Lock Store} {thread : Thread}
    {outer inner : Lock} (hholder : state.holder outer = some thread)
    (hawaits : awaits (state.program thread) = some inner) :
    Nesting state thread outer inner := by
  refine ⟨hholder, ?_⟩
  cases hprogram : state.program thread with
  | acquire lock next =>
      rw [hprogram] at hawaits
      obtain rfl := Option.some.inj hawaits
      simp [nests]
  | _ =>
      rw [hprogram] at hawaits
      cases hawaits

/-- A thread gets into this position only when it takes the outer lock. -/
theorem nesting_of_step {allowed : Finset Lock → Lock → Bool} {body : Call → Program Lock Store}
    {state state' : State Thread Lock Store} {label : Label Thread Call}
    (haccounted : ∀ thread, Accounted allowed state thread)
    (hstep : state.step body label = some state') {thread : Thread} {outer inner : Lock}
    (hnesting : Nesting state' thread outer inner) :
    Nesting state thread outer inner ∨ ∃ next, label = .move thread ∧
      state.program thread = .acquire outer next ∧
      nests outer inner (settle state.store next).2 = true := by
  obtain ⟨hholder, hnests⟩ := hnesting
  cases moves_of_step hstep with
  | call mover call hdone =>
      by_cases hmover : thread = mover
      · subst hmover
        obtain ⟨held, hdisciplined, hheld⟩ := haccounted thread
        rw [hdone, disciplined, decide_eq_true_eq] at hdisciplined
        have hmem := (hheld outer).mp hholder
        simp [hdisciplined] at hmem
      · rw [State.resume_program_of_ne _ _ hmover] at hnests
        exact .inl ⟨hholder, hnests⟩
  | acquire mover lock next hacquire hfree =>
      rw [State.resume_holder] at hholder
      by_cases hmover : thread = mover
      · subst hmover
        rw [State.resume_program_self] at hnests
        by_cases houter : outer = lock
        · subst houter
          exact .inr ⟨next, rfl, hacquire, hnests⟩
        · rw [Function.update_of_ne houter] at hholder
          refine .inl ⟨hholder, ?_⟩
          rw [hacquire, nests, nests_of_settle hnests, Bool.or_true]
      · rw [State.resume_program_of_ne _ _ hmover] at hnests
        by_cases houter : outer = lock
        · rw [houter, Function.update_self] at hholder
          exact absurd (Option.some.inj hholder).symm hmover
        · rw [Function.update_of_ne houter] at hholder
          exact .inl ⟨hholder, hnests⟩
  | release mover lock next hrelease =>
      rw [State.resume_holder] at hholder
      have houter : outer ≠ lock := by
        rintro rfl
        rw [Function.update_self] at hholder
        cases hholder
      rw [Function.update_of_ne houter] at hholder
      refine .inl ⟨hholder, ?_⟩
      by_cases hmover : thread = mover
      · subst hmover
        rw [State.resume_program_self] at hnests
        rw [hrelease, nests, nests_of_settle hnests, Bool.and_true, decide_eq_true_eq]
        exact houter.symm
      · rwa [State.resume_program_of_ne _ _ hmover] at hnests
  | choose mover first one other heither =>
      rw [State.resume_holder] at hholder
      refine .inl ⟨hholder, ?_⟩
      by_cases hmover : thread = mover
      · subst hmover
        rw [State.resume_program_self] at hnests
        have hchosen := nests_of_settle hnests
        rw [heither, nests, Bool.or_eq_true]
        split at hchosen
        · exact .inl hchosen
        · exact .inr hchosen
      · rwa [State.resume_program_of_ne _ _ hmover] at hnests

/-! ## Deadlocks -/

structure Deadlocked (state : State Thread Lock Store) (threads : Set Thread) : Prop where
  nonempty : threads.Nonempty
  waiting : ∀ thread ∈ threads, ∃ lock other, awaits (state.program thread) = some lock ∧
    other ∈ threads ∧ other ≠ thread ∧ state.holder lock = some other

omit [DecidableEq Thread] [DecidableEq Lock] in
/-- The holder of a lock of maximal rank among those waited for itself waits for
one that is not above it. -/
theorem Deadlocked.exists_descending [Finite Lock] {state : State Thread Lock Store}
    {threads : Set Thread} (hdeadlocked : Deadlocked state threads) (rank : Lock → ℕ) :
    ∃ thread ∈ threads, ∃ lock awaited, state.holder lock = some thread ∧
      awaits (state.program thread) = some awaited ∧ rank awaited ≤ rank lock := by
  let awaited : Set Lock := {lock | ∃ thread ∈ threads, awaits (state.program thread) = some lock}
  have hnonempty : awaited.Nonempty := by
    obtain ⟨thread, hthread⟩ := hdeadlocked.nonempty
    obtain ⟨lock, -, hawaits, -⟩ := hdeadlocked.waiting thread hthread
    exact ⟨lock, thread, hthread, hawaits⟩
  obtain ⟨lock, ⟨waiter, hwaiter, hawaits⟩, hmax⟩ :=
    Set.exists_max_image awaited rank awaited.toFinite hnonempty
  obtain ⟨held, holder, hheld, hholder, -, howner⟩ := hdeadlocked.waiting waiter hwaiter
  obtain rfl := Option.some.inj (hawaits.symm.trans hheld)
  obtain ⟨next, -, hnext, -⟩ := hdeadlocked.waiting holder hholder
  exact ⟨holder, hholder, lock, next, howner, hnext, hmax next ⟨holder, hholder, hnext⟩⟩

end ZeroFeed.Locking
