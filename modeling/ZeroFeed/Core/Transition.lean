import Mathlib.Data.Int.Notation
import Mathlib.Data.Nat.Notation
import Mathlib.Logic.Function.Basic
import Mathlib.Logic.Relation

/-!
# Executable transition systems

A system is a function that performs one labelled step or reports that the
label is not enabled.  A run may be restricted to steps that meet a condition
in the state they start from; an invariant of such runs only has to survive
steps that meet it.  Concrete runs are evaluated and turned into reachability
facts.
-/

namespace ZeroFeed.Transition

variable {State Label : Type*} (step : State → Label → Option State)

/-- States reached by any sequence of steps. -/
abbrev Reaches : State → State → Prop :=
  Relation.ReflTransGen fun state state' => ∃ label, step state label = some state'

/-- States reached by sequences of steps that all meet a condition. -/
abbrev GuardedReaches (guard : State → Label → Prop) : State → State → Prop :=
  Relation.ReflTransGen fun state state' =>
    ∃ label, guard state label ∧ step state label = some state'

section Invariants

variable {step} {guard : State → Label → Prop} {start state : State}

theorem GuardedReaches.reaches (hreaches : GuardedReaches step guard start state) :
    Reaches step start state :=
  Relation.ReflTransGen.mono (fun _ _ ⟨label, _, hstep⟩ => ⟨label, hstep⟩) start state hreaches

/-- What holds at the start and survives every step holds in every state
reached. -/
theorem Reaches.invariant {property : State → Prop} (hstart : property start)
    (hpreserved : ∀ state label state', property state → step state label = some state' →
      property state')
    (hreaches : Reaches step start state) : property state := by
  induction hreaches with
  | refl => exact hstart
  | tail _ hlast ih =>
      obtain ⟨label, hstep⟩ := hlast
      exact hpreserved _ label _ ih hstep

/-- The same with the help of an invariant that is already known. -/
theorem Reaches.invariant_of_known {known property : State → Prop}
    (hknown : ∀ state, Reaches step start state → known state) (hstart : property start)
    (hpreserved : ∀ state label state', known state → property state →
      step state label = some state' → property state')
    (hreaches : Reaches step start state) : property state := by
  induction hreaches with
  | refl => exact hstart
  | tail hbefore hlast ih =>
      obtain ⟨label, hstep⟩ := hlast
      exact hpreserved _ label _ (hknown _ hbefore) ih hstep

/-- The same for restricted runs. -/
theorem GuardedReaches.invariant {known property : State → Prop}
    (hknown : ∀ state, GuardedReaches step guard start state → known state)
    (hstart : property start)
    (hpreserved : ∀ state label state', known state → property state → guard state label →
      step state label = some state' → property state')
    (hreaches : GuardedReaches step guard start state) : property state := by
  induction hreaches with
  | refl => exact hstart
  | tail hbefore hlast ih =>
      obtain ⟨label, hguard, hstep⟩ := hlast
      exact hpreserved _ label _ (hknown _ hbefore) ih hguard hstep

end Invariants

/-! ## Evaluated runs -/

/-- Follow a list of labels as long as a check succeeds. -/
def runWhile (check : State → Label → Bool) (state : State) : List Label → Option State
  | [] => some state
  | label :: labels =>
      if check state label then
        match step state label with
        | none => none
        | some next => runWhile check next labels
      else none

/-- Follow a list of labels. -/
def run (state : State) (labels : List Label) : Option State :=
  runWhile step (fun _ _ => true) state labels

variable {step} {guard : State → Label → Prop} {check : State → Label → Bool}

/-- An evaluated run is a restricted run if the check implies the condition,
possibly with the help of something the run preserves. -/
theorem guardedReaches_of_runWhile {property : State → Prop}
    (hpreserved : ∀ state label state', property state → check state label = true →
      step state label = some state' → property state')
    (hguard : ∀ state label, property state → check state label = true → guard state label)
    {labels : List Label} {state state' : State} (hstart : property state)
    (hrun : runWhile step check state labels = some state') :
    GuardedReaches step guard state state' ∧ property state' := by
  induction labels generalizing state with
  | nil =>
      obtain rfl := Option.some.inj hrun
      exact ⟨.refl, hstart⟩
  | cons label labels ih =>
      rw [runWhile] at hrun
      split at hrun
      · rename_i hcheck
        split at hrun
        · cases hrun
        · rename_i next hstep
          obtain ⟨hreaches, hlast⟩ := ih (hpreserved _ _ _ hstart hcheck hstep) hrun
          exact ⟨.head ⟨label, hguard _ _ hstart hcheck, hstep⟩ hreaches, hlast⟩
      · cases hrun

/-- A run that ends in a state with a computable property shows that such a
state can be reached. -/
theorem exists_guardedReaches_of_runWhile (step : State → Label → Option State)
    (check : State → Label → Bool) {guard : State → Label → Prop} {known : State → Prop}
    (hpreserved : ∀ state label state', known state → check state label = true →
      step state label = some state' → known state')
    (hguard : ∀ state label, known state → check state label = true → guard state label)
    {state : State} (hstart : known state) (labels : List Label) (property : State → Bool)
    (hrun : (runWhile step check state labels).any property = true) :
    ∃ state', GuardedReaches step guard state state' ∧ property state' = true := by
  cases hresult : runWhile step check state labels with
  | none =>
      rw [hresult] at hrun
      cases hrun
  | some state' =>
      rw [hresult] at hrun
      exact ⟨state', (guardedReaches_of_runWhile hpreserved hguard hstart hresult).1, hrun⟩

theorem exists_guardedReaches_of_run (step : State → Label → Option State)
    (check : State → Label → Bool) (state : State) (labels : List Label)
    (property : State → Bool)
    (hrun : (runWhile step check state labels).any property = true) :
    ∃ state', GuardedReaches step (fun state label => check state label = true) state state' ∧
      property state' = true :=
  @exists_guardedReaches_of_runWhile _ _ step check _ (fun _ => True)
    (fun _ _ _ _ _ _ => trivial) (fun _ _ _ hcheck => hcheck) _ trivial labels property hrun

theorem exists_reaches_of_run (step : State → Label → Option State) (state : State)
    (labels : List Label) (property : State → Bool)
    (hrun : (run step state labels).any property = true) :
    ∃ state', Reaches step state state' ∧ property state' = true := by
  obtain ⟨state', hreaches, hproperty⟩ :=
    exists_guardedReaches_of_run step (fun _ _ => true) state labels property hrun
  exact ⟨state', hreaches.reaches, hproperty⟩

/-! ## Tallies -/

/-- The sum of the weights of the steps of a run. -/
def tally (step : State → Label → Option State) (weight : State → Label → ℕ) (state : State) :
    List Label → ℕ
  | [] => 0
  | label :: labels =>
      match step state label with
      | none => 0
      | some next => weight state label + tally step weight next labels

/-- A quantity that grows in every step by the weight of the step grows over a
run by the tally. -/
theorem quantity_of_run {weight : State → Label → ℕ} {known : State → Prop}
    {quantity : State → ℤ}
    (hknown : ∀ state label state', known state → step state label = some state' → known state')
    (hweight : ∀ state label state', known state → step state label = some state' →
      quantity state' = quantity state + weight state label)
    {labels : List Label} {state state' : State} (hstart : known state)
    (hrun : run step state labels = some state') :
    quantity state' = quantity state + tally step weight state labels := by
  induction labels generalizing state with
  | nil =>
      obtain rfl := Option.some.inj hrun
      exact (Int.add_zero _).symm
  | cons label labels ih =>
      rw [run, runWhile, if_pos rfl] at hrun
      rw [tally]
      cases hstep : step state label with
      | none =>
          rw [hstep] at hrun
          cases hrun
      | some next =>
          rw [hstep] at hrun
          calc
            quantity state' = quantity next + tally step weight next labels :=
              ih (hknown _ _ _ hstart hstep) hrun
            _ = quantity state + weight state label + tally step weight next labels := by
              rw [hweight _ _ _ hstart hstep]
            _ = quantity state + (weight state label + tally step weight next labels : ℕ) := by
              rw [Int.natCast_add, Int.add_assoc]

/-- A quantity that changes in no step by more than one has changed over a run by at
most its length. -/
theorem within_of_run {known : State → Prop} {quantity : State → ℤ}
    (hknown : ∀ state label state', known state → step state label = some state' → known state')
    (hwithin : ∀ state label state', known state → step state label = some state' →
      quantity state' ≤ quantity state + 1 ∧ quantity state ≤ quantity state' + 1)
    {labels : List Label} {state state' : State} (hstart : known state)
    (hrun : run step state labels = some state') :
    quantity state' ≤ quantity state + labels.length ∧
      quantity state ≤ quantity state' + labels.length := by
  induction labels generalizing state with
  | nil =>
      obtain rfl := Option.some.inj hrun
      exact ⟨Int.le_add_of_nonneg_right (Int.le_refl 0), Int.le_add_of_nonneg_right (Int.le_refl 0)⟩
  | cons label labels ih =>
      rw [run, runWhile, if_pos rfl] at hrun
      cases hstep : step state label with
      | none =>
          rw [hstep] at hrun
          cases hrun
      | some next =>
          rw [hstep] at hrun
          have hfirst := hwithin _ _ _ hstart hstep
          have hrest := ih (hknown _ _ _ hstart hstep) hrun
          rw [List.length_cons]
          omega

end ZeroFeed.Transition
