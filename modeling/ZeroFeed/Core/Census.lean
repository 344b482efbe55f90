import Mathlib.Data.Int.Notation
import Mathlib.Data.Nat.Notation
import Mathlib.Logic.Function.Basic

/-!
# Counting processes by where they are

Every member of a pool is at some point, and a point has a weight: one for the
members a counter should include, zero for the others, or an amount.  The census is
the sum of the weights.  A step that moves one member changes it by the difference
of two weights, which is what the code has to add to its counter in that step.
-/

namespace ZeroFeed.Census

variable {Index Point : Type*}

def census (weight : Point → ℤ) (points : Index → Point) : List Index → ℤ
  | [] => 0
  | index :: members => weight (points index) + census weight points members

variable {weight : Point → ℤ} {points points' : Index → Point} {members : List Index}

theorem census_congr (hsame : ∀ index ∈ members, weight (points' index) = weight (points index)) :
    census weight points' members = census weight points members := by
  induction members with
  | nil => rfl
  | cons index members ih =>
      rw [List.forall_mem_cons] at hsame
      rw [census, census, hsame.1, ih hsame.2]

theorem census_append (more : List Index) :
    census weight points (members ++ more) =
      census weight points members + census weight points more := by
  induction members with
  | nil => exact (Int.zero_add _).symm
  | cons index members ih =>
      rw [List.cons_append, census, census, ih, Int.add_assoc]

/-- A census of ones and zeros. -/
theorem census_eq_length {among : Point → Bool}
    (hweight : ∀ point, weight point = if among point then 1 else 0) :
    census weight points members = (members.filter fun index => among (points index)).length := by
  induction members with
  | nil => rfl
  | cons index members ih =>
      rw [census, ih, hweight, List.filter_cons]
      split
      · rw [List.length_cons]
        omega
      · omega

variable [DecidableEq Index] {index : Index}

theorem census_update_of_notMem (hindex : index ∉ members) (point : Point) :
    census weight (Function.update points index point) members =
      census weight points members := by
  apply census_congr
  intro other hother
  rw [Function.update_of_ne]
  rintro rfl
  exact hindex hother

/-- A member that moves. -/
theorem census_update (hmembers : members.Nodup) (hindex : index ∈ members) (point : Point) :
    census weight (Function.update points index point) members =
      census weight points members + (weight point - weight (points index)) := by
  induction members with
  | nil => cases hindex
  | cons other members ih =>
      rw [List.nodup_cons] at hmembers
      rw [census, census]
      rcases List.mem_cons.mp hindex with rfl | hlater
      · rw [Function.update_self, census_update_of_notMem hmembers.1]
        omega
      · have hother : other ≠ index := by
          rintro rfl
          exact hmembers.1 hlater
        rw [Function.update_of_ne hother, ih hmembers.2 hlater]
        omega

/-! ## Counters that wrap -/

/-- An unsigned counter that has been increased by the given total. -/
def CountsTo (counter : UInt64) (total : ℤ) : Prop := (counter.toNat : ℤ) = total % UInt64.size

theorem CountsTo.add {counter : UInt64} {total : ℤ} (hcounts : CountsTo counter total)
    (amount : ℕ) : CountsTo (counter + UInt64.ofNat amount) (total + amount) := by
  simp only [CountsTo, UInt64.size] at hcounts ⊢
  rw [UInt64.toNat_add, UInt64.toNat_ofNat']
  omega

end ZeroFeed.Census
