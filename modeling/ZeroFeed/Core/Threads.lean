import ZeroFeed.Core.Transition

/-!
# Threads over a shared state

A thread is the point of its program it has reached.  A step lets one of them run
to the end of its next section, which may read and change what all share.  A thread
that runs alone makes a run of the pool.  Only finitely many threads of an evaluated
run leave their idle point, so that a condition on all of them can be checked.
-/

namespace ZeroFeed.Threads

open ZeroFeed.Transition

/-! ## Idle threads -/

section Idle

variable {Point : Type*} {idle : Point} {count : ℕ} {points : ℕ → Point}

/-- Only the first `count` threads are in use. -/
def IdleFrom (idle : Point) (count : ℕ) (points : ℕ → Point) : Prop :=
  ∀ thread, count ≤ thread → points thread = idle

theorem idleFrom_const (idle : Point) (count : ℕ) : IdleFrom idle count fun _ => idle :=
  fun _ _ => rfl

theorem IdleFrom.update (hidle : IdleFrom idle count points) {thread : ℕ}
    (hthread : thread < count) (point : Point) :
    IdleFrom idle count (Function.update points thread point) := by
  intro other hother
  rw [Function.update_of_ne (by omega)]
  exact hidle other hother

/-- A condition on every thread is one on those in use. -/
theorem IdleFrom.forall (hidle : IdleFrom idle count points) (property : ℕ → Point → Prop)
    (hunused : ∀ thread, property thread idle)
    (hused : ∀ thread < count, property thread (points thread)) :
    ∀ thread, property thread (points thread) := by
  intro thread
  by_cases hthread : thread < count
  · exact hused thread hthread
  · rw [hidle thread (Nat.le_of_not_lt hthread)]
    exact hunused thread

end Idle

/-! ## Pools -/

structure Pool (Shared Point : Type*) where
  shared : Shared
  threads : ℕ → Point

/-- A thread runs its next section with what the environment contributes. -/
structure Label (Input : Type*) where
  thread : ℕ
  input : Input

variable {Shared Point Input : Type*}

def Pool.step (advance : Shared → Point → Input → Option (Shared × Point))
    (pool : Pool Shared Point) (label : Label Input) : Option (Pool Shared Point) :=
  (advance pool.shared (pool.threads label.thread) label.input).map fun (shared, point) =>
    ⟨shared, Function.update pool.threads label.thread point⟩

/-- One thread has gone to a point, the others are where they were. -/
def Moves (pool pool' : Pool Shared Point) (thread : ℕ) (point : Point) : Prop :=
  pool'.threads = Function.update pool.threads thread point

section Moves

variable {pool pool' : Pool Shared Point} {thread : ℕ} {point : Point}
variable (hmoves : Moves pool pool' thread point)
include hmoves

theorem Moves.self : pool'.threads thread = point := by
  rw [hmoves]
  exact Function.update_self thread point pool.threads

theorem Moves.other {other : ℕ} (hother : other ≠ thread) :
    pool'.threads other = pool.threads other := by
  rw [hmoves]
  exact Function.update_of_ne hother point pool.threads

/-- A condition on every thread is checked for the one that moved and for the
others. -/
theorem Moves.forall (property : Point → Prop) (hself : property point)
    (hothers : ∀ other, other ≠ thread → property (pool.threads other)) :
    ∀ other, property (pool'.threads other) := by
  intro other
  by_cases hother : other = thread
  · rw [hother, hmoves.self]
    exact hself
  · rw [hmoves.other hother]
    exact hothers other hother

end Moves

variable {advance : Shared → Point → Input → Option (Shared × Point)}
variable {pool pool' : Pool Shared Point}

theorem advance_of_step {label : Label Input} (hstep : pool.step advance label = some pool') :
    ∃ point, advance pool.shared (pool.threads label.thread) label.input =
        some (pool'.shared, point) ∧ Moves pool pool' label.thread point := by
  obtain ⟨⟨shared, point⟩, hadvance, rfl⟩ := Option.map_eq_some_iff.mp hstep
  exact ⟨point, hadvance, rfl⟩

/-! ## A thread that runs alone -/

/-- One thread runs some of its sections while no other thread runs. -/
abbrev Runs (advance : Shared → Point → Input → Option (Shared × Point)) :
    Shared × Point → Shared × Point → Prop :=
  Relation.ReflTransGen fun before after => ∃ input, advance before.1 before.2 input = some after

theorem runs_of_advance {shared shared' : Shared} {point point' : Point} (input : Input)
    (hadvance : advance shared point input = some (shared', point')) :
    Runs advance (shared, point) (shared', point') :=
  .single ⟨input, hadvance⟩

theorem reaches_of_runs {thread : ℕ} {after : Shared × Point}
    (hruns : Runs advance (pool.shared, pool.threads thread) after) :
    Reaches (Pool.step advance) pool
      ⟨after.1, Function.update pool.threads thread after.2⟩ := by
  induction hruns with
  | refl =>
      rw [Function.update_eq_self]
  | tail _ hstep ih =>
      obtain ⟨input, hadvance⟩ := hstep
      refine ih.tail ⟨⟨thread, input⟩, ?_⟩
      simp only [Pool.step, Function.update_self, hadvance, Option.map_some, Function.update_idem]

/-! ## Evaluated runs -/

/-- Follow a list of labels as long as a check succeeds and only the first `count`
threads run. -/
def Pool.runBelow (advance : Shared → Point → Input → Option (Shared × Point))
    (check : Pool Shared Point → Label Input → Bool) (count : ℕ) (pool : Pool Shared Point)
    (labels : List (Label Input)) : Option (Pool Shared Point) :=
  runWhile (Pool.step advance) (fun pool label => check pool label && decide (label.thread < count))
    pool labels

/-- Such a run is a restricted run if the check implies the condition for a pool with
no other thread in use. -/
theorem guardedReaches_of_runBelow {idle : Point} {count : ℕ}
    {check : Pool Shared Point → Label Input → Bool}
    {guard : Pool Shared Point → Label Input → Prop} {labels : List (Label Input)}
    (hidle : IdleFrom idle count pool.threads)
    (hguard : ∀ pool label, IdleFrom idle count pool.threads → check pool label = true →
      guard pool label)
    (hrun : pool.runBelow advance check count labels = some pool') :
    GuardedReaches (Pool.step advance) guard pool pool' ∧
      IdleFrom idle count pool'.threads := by
  refine @guardedReaches_of_runWhile _ _ _ guard _ (fun pool => IdleFrom idle count pool.threads)
    ?_ ?_ labels pool pool' hidle hrun
  · intro pool label pool' hidle hcheck hstep
    obtain ⟨point, -, hmoves⟩ := advance_of_step hstep
    rw [hmoves]
    exact hidle.update (of_decide_eq_true (Bool.and_eq_true_iff.mp hcheck).2) point
  · intro pool label hidle hcheck
    exact hguard pool label hidle (Bool.and_eq_true_iff.mp hcheck).1

/-- A run that ends in a state with a computable property shows that such a state can
be reached. -/
theorem exists_guardedReaches_of_runBelow {idle : Point} {count : ℕ}
    {check : Pool Shared Point → Label Input → Bool}
    {guard : Pool Shared Point → Label Input → Prop} (labels : List (Label Input))
    (property : Pool Shared Point → Bool) (hidle : IdleFrom idle count pool.threads)
    (hguard : ∀ pool label, IdleFrom idle count pool.threads → check pool label = true →
      guard pool label)
    (hrun : (pool.runBelow advance check count labels).any property = true) :
    ∃ pool', GuardedReaches (Pool.step advance) guard pool pool' ∧ property pool' = true := by
  obtain ⟨pool', hresult, hproperty⟩ := (Option.any_eq_true _ _).mp hrun
  exact ⟨pool', (guardedReaches_of_runBelow hidle hguard hresult).1, hproperty⟩

end ZeroFeed.Threads
