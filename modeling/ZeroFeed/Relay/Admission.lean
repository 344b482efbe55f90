import ZeroFeed.Relay.FrontDoor

/-!
# The number of connections (`activeConns`, `metrics.ActiveConnections`)

Both counters are exact.  The limit is tested before the counter goes up, in a step
of its own: it holds where one goroutine accepts all connections, and overlapping
WebSocket upgrades can exceed it by any number.
-/

namespace ZeroFeed.FrontDoor

open ZeroFeed.ByteString
open ZeroFeed.Handlers (Handler)
open ZeroFeed.Transition
open ZeroFeed.Census

/-! ## The counters -/

section Counting

variable {Failure : Type*}

/-- Between `activeConns.Add(1)` and `activeConns.Add(-1)`. -/
def Visitor.isOpen (visitor : Visitor Failure) : Bool :=
  match visitor.point with
  | .counted | .leaving => true
  | point => point.inside

/-- Between `ActiveConnections.Add(1)` and `ActiveConnections.Add(-1)`. -/
def Visitor.isMeasured (visitor : Visitor Failure) : Bool :=
  visitor.transport.measured && visitor.point.inside

/-- Past the check and not yet counted. -/
def Visitor.isPending (visitor : Visitor Failure) : Bool :=
  match visitor.point with
  | .admitted => true
  | _ => false

/-- In the hands of the goroutine that accepted it. -/
def Visitor.inLoop (visitor : Visitor Failure) : Bool :=
  match visitor.point with
  | .arrived | .admitted | .counted => true
  | _ => false

/-- The accept loops that have had a connection: one for TCP, one for each QUIC
connection. -/
def State.loops (state : State Failure) : List Transport :=
  (state.arrivals.filterMap fun conn =>
    (state.visitors conn).map fun visitor => visitor.transport).dedup

/-- The counters change by as much as the numbers of connections they stand for. -/
structure Balanced (state : State Failure) (visitor : Visitor Failure) (state' : State Failure)
    (visitor' : Visitor Failure) : Prop where
  active : state'.activeConns + indicator Visitor.isOpen (some visitor) =
    state.activeConns + indicator Visitor.isOpen (some visitor')
  measured : state'.metrics.activeConnections + indicator Visitor.isMeasured (some visitor) =
    state.metrics.activeConnections + indicator Visitor.isMeasured (some visitor')
  pending : state'.pending + indicator Visitor.isPending (some visitor) =
    state.pending + indicator Visitor.isPending (some visitor')

variable {state state' : State Failure} {conn : ℕ} {visitor : Visitor Failure}
variable {point : Point Failure}

theorem Visitor.isOpen_of_inside (hinside : visitor.point.inside = true) :
    visitor.isOpen = true := by
  unfold Visitor.isOpen
  split
  · rfl
  · rfl
  · exact hinside

theorem Visitor.isPending_of_inside (hinside : visitor.point.inside = true) :
    visitor.isPending = false := by
  unfold Visitor.isPending
  split
  · rename_i hpoint
    rw [hpoint] at hinside
    cases hinside
  · rfl

/-- A step within `handleConnection` counts nothing. -/
theorem Balanced.of_inside (hbefore : visitor.point.inside = true)
    (hafter : point.inside = true) (hactive : state'.activeConns = state.activeConns)
    (hmeasured : state'.metrics.activeConnections = state.metrics.activeConnections)
    (hpending : state'.pending = state.pending) :
    Balanced state visitor state' { visitor with point := point } where
  active := by
    rw [hactive, indicator_some, indicator_some, Visitor.isOpen_of_inside hbefore,
      Visitor.isOpen_of_inside hafter]
  measured := by
    rw [hmeasured, indicator_some, indicator_some, Visitor.isMeasured, Visitor.isMeasured, hbefore,
      hafter]
  pending := by
    rw [hpending, indicator_some, indicator_some, Visitor.isPending_of_inside hbefore,
      Visitor.isPending_of_inside hafter]

theorem Crossing.balanced (hcrossing : Crossing state conn visitor point state')
    (hrouted : visitor.point = .counted → visitor.transport.measured = true) :
    Balanced state visitor state' { visitor with point := point } := by
  cases hcrossing with
  | turnAway relay hpoint | findRoom hpoint | count hpoint =>
      constructor <;>
        simp [indicator, Visitor.isOpen, Visitor.isMeasured, Visitor.isPending, Point.inside,
          hpoint, State.setRelay, State.move, State.release]
  | countOnly hpoint hmeasured | unmeasure hpoint hmeasured =>
      constructor <;>
        simp [indicator, Visitor.isOpen, Visitor.isMeasured, Visitor.isPending, Point.inside,
          hpoint, hmeasured, State.setMetrics, State.move, State.release]
  | measure hpoint =>
      constructor <;>
        simp [indicator, Visitor.isOpen, Visitor.isMeasured, Visitor.isPending, Point.inside,
          hpoint, hrouted hpoint, State.setMetrics, State.move, State.release]
  | leave hpoint =>
      have hmeasured : visitor.isMeasured = false := by
        rcases hpoint with hpoint | ⟨-, hmeasured⟩
        · simp [Visitor.isMeasured, hpoint, Point.inside]
        · simp [Visitor.isMeasured, hmeasured]
      have hgone : Visitor.isMeasured { visitor with point := .gone } = false := by
        simp [Visitor.isMeasured, Point.inside]
      rcases hpoint with hpoint | ⟨hpoint, -⟩ <;> constructor <;>
        simp [indicator, Visitor.isOpen, Visitor.isPending, Point.inside, hpoint, hmeasured, hgone,
          State.move]

theorem Visit.balanced (hvisit : Visit state conn visitor point state') :
    Balanced state visitor state' { visitor with point := point } := by
  obtain ⟨hbefore, hafter⟩ := hvisit.inside
  cases hvisit <;> exact .of_inside hbefore hafter rfl rfl rfl

/-- The counters are the numbers of connections they stand for. -/
structure Counted (state : State Failure) : Prop where
  listed : Listed state
  routed : ∀ conn visitor, state.visitors conn = some visitor → visitor.point = .counted →
    visitor.transport.measured = true
  active : state.activeConns = state.number Visitor.isOpen
  measured : state.metrics.activeConnections = state.number Visitor.isMeasured
  pending : state.pending = state.number Visitor.isPending

theorem counted_start (config : Config Failure) : Counted (State.start config) where
  listed := ⟨List.nodup_nil, fun conn => by simp [State.start]⟩
  routed := fun conn visitor hvisitor => by cases hvisitor
  active := rfl
  measured := rfl
  pending := rfl

theorem Counted.of_move (hcounted : Counted state) (hvisitor : state.visitors conn = some visitor)
    (hmove : Move state conn visitor point state') (hlisted : Listed state') : Counted state' := by
  have hbalanced : Balanced state visitor state' { visitor with point := point } := by
    rcases hmove with hcrossing | hvisit
    · exact hcrossing.balanced (hcounted.routed conn visitor hvisitor)
    · exact hvisit.balanced
  have hnumber := number_of_move hcounted.listed hvisitor hmove
  refine ⟨hlisted, ?_, ?_, ?_, ?_⟩
  · intro other visitor' hvisitor' hpoint
    rw [hmove.visitors, Function.update_apply] at hvisitor'
    split at hvisitor'
    · cases hvisitor'
      rcases hmove with hcrossing | hvisit
      · cases hcrossing with
        | count _ hmeasured => exact hmeasured
        | _ => cases hpoint
      · have hinside := hvisit.inside.2
        rw [show point = .counted from hpoint] at hinside
        cases hinside
    · exact hcounted.routed other visitor' hvisitor' hpoint
  · have hactive := hbalanced.active
    rw [hnumber, ← hcounted.active]
    omega
  · have hmeasured := hbalanced.measured
    rw [hnumber, ← hcounted.measured]
    omega
  · have hpending := hbalanced.pending
    rw [hnumber, ← hcounted.pending]
    omega

theorem Counted.of_step (hcounted : Counted state) (hstep : Step state state') :
    Counted state' := by
  have hlisted := hcounted.listed.of_step hstep
  cases hstep with
  | move conn visitor point _ hvisitor hmove => exact hcounted.of_move hvisitor hmove hlisted
  | arrive conn arrival hnew =>
      have hnumber := number_of_arrive hcounted.listed hnew arrival
      refine ⟨hlisted, ?_, ?_, ?_, ?_⟩
      · intro other visitor' hvisitor' hpoint
        change Function.update state.visitors conn (some ⟨arrival, .arrived⟩) other = _ at hvisitor'
        rw [Function.update_apply] at hvisitor'
        split at hvisitor'
        · cases hvisitor'
          cases hpoint
        · exact hcounted.routed other visitor' hvisitor' hpoint
      · rw [hnumber]
        exact hcounted.active.trans (Int.zero_add _).symm
      · have harrived : Visitor.isMeasured (⟨arrival, .arrived⟩ : Visitor Failure) = false :=
          Bool.and_false _
        rw [hnumber, indicator_some, harrived]
        exact hcounted.measured.trans (Int.zero_add _).symm
      · rw [hnumber]
        exact hcounted.pending.trans (Int.zero_add _).symm
  | background | cleanup =>
      exact ⟨hlisted, hcounted.routed, hcounted.active, hcounted.measured, hcounted.pending⟩

/-! ## The limit -/

/-- As many connections as find room at the same moment can go beyond the limit. -/
structure Bounded (state : State Failure) : Prop where
  pending : state.pending ≤ state.peak
  active : state.activeConns + state.pending ≤ maxActiveConnections - 1 + max 1 state.peak

theorem bounded_start (config : Config Failure) : Bounded (State.start config) := by
  have hlimit : (0 : ℤ) + 0 ≤ maxActiveConnections - 1 + max 1 0 := by decide
  exact ⟨le_rfl, hlimit⟩

theorem Bounded.of_step (hbounded : Bounded state) (hstep : Step state state') :
    Bounded state' := by
  obtain ⟨hpending, hactive⟩ := hbounded
  cases hstep with
  | arrive | background | cleanup => exact ⟨hpending, hactive⟩
  | move conn visitor point _ hvisitor hmove =>
      rcases hmove with hcrossing | hvisit
      · cases hcrossing with
        | turnAway | measure | unmeasure => exact ⟨hpending, hactive⟩
        | findRoom hpoint hroom =>
            refine ⟨le_max_right _ _, ?_⟩
            change state.activeConns + (state.pending + 1) ≤
              maxActiveConnections - 1 + max 1 (max state.peak (state.pending + 1))
            omega
        | count | countOnly =>
            refine ⟨(Int.sub_le_self _ (by decide)).trans hpending, ?_⟩
            change state.activeConns + 1 + (state.pending - 1) ≤ _
            calc
              state.activeConns + 1 + (state.pending - 1) = state.activeConns + state.pending := by
                omega
              _ ≤ maxActiveConnections - 1 + max 1 state.peak := hactive
        | leave =>
            refine ⟨hpending, ?_⟩
            change state.activeConns - 1 + state.pending ≤ _
            exact le_trans (by omega) hactive
      · cases hvisit <;> exact ⟨hpending, hactive⟩

/-- A goroutine that accepts one connection after the other has one in its hands. -/
structure Looping (state : State Failure) : Prop where
  busy : ∀ conn visitor, state.visitors conn = some visitor → visitor.inLoop = true →
    visitor.transport.serial = true → state.accepting visitor.transport = true
  alone : ∀ conn visitor other visitor', state.visitors conn = some visitor →
    state.visitors other = some visitor' → visitor.inLoop = true → visitor'.inLoop = true →
    visitor.transport.serial = true → visitor'.transport = visitor.transport → other = conn

theorem looping_start (config : Config Failure) : Looping (State.start config) where
  busy := fun conn visitor hvisitor => by cases hvisitor
  alone := fun conn visitor other visitor' hvisitor => by cases hvisitor

theorem Visitor.inLoop_of_inside (hinside : visitor.point.inside = true) :
    visitor.inLoop = false := by
  unfold Visitor.inLoop
  split
  · rename_i hpoint
    rw [hpoint] at hinside
    cases hinside
  · rename_i hpoint
    rw [hpoint] at hinside
    cases hinside
  · rename_i hpoint
    rw [hpoint] at hinside
    cases hinside
  · rfl

/-- A connection stays with the accept loop, or leaves it, which frees the loop. -/
theorem Move.loop (hmove : Move state conn visitor point state') :
    state'.accepting = state.accepting ∧
        Visitor.inLoop { visitor with point := point } = visitor.inLoop ∨
      state'.accepting = Function.update state.accepting visitor.transport false ∧
        visitor.inLoop = true ∧ Visitor.inLoop { visitor with point := point } = false := by
  rcases hmove with hcrossing | hvisit
  · cases hcrossing with
    | turnAway relay hpoint | countOnly hpoint | measure hpoint =>
        exact .inr ⟨rfl, by rw [Visitor.inLoop, hpoint], rfl⟩
    | findRoom hpoint | count hpoint | unmeasure hpoint =>
        exact .inl ⟨rfl, by rw [Visitor.inLoop.eq_1 visitor, hpoint]; rfl⟩
    | leave hpoint =>
        refine .inl ⟨rfl, ?_⟩
        rcases hpoint with hpoint | ⟨hpoint, -⟩ <;>
          rw [Visitor.inLoop.eq_1 visitor, hpoint] <;> rfl
  · obtain ⟨hbefore, hafter⟩ := hvisit.inside
    refine .inl ⟨?_, ?_⟩
    · cases hvisit <;> rfl
    · rw [Visitor.inLoop_of_inside hbefore]
      exact Visitor.inLoop_of_inside hafter

theorem Looping.of_move (hlooping : Looping state) (hvisitor : state.visitors conn = some visitor)
    (hmove : Move state conn visitor point state') : Looping state' := by
  -- A connection in a loop after the step was there before it, with the same transport.
  have hearlier : ∀ other visitor', state'.visitors other = some visitor' →
      visitor'.inLoop = true → ∃ earlier, state.visitors other = some earlier ∧
        earlier.inLoop = true ∧ earlier.transport = visitor'.transport := by
    intro other visitor' hvisitor' hloop'
    rw [hmove.visitors, Function.update_apply] at hvisitor'
    split at hvisitor'
    · rename_i hsame
      cases hvisitor'
      refine ⟨visitor, hsame ▸ hvisitor, ?_, rfl⟩
      rcases hmove.loop with ⟨-, hkept⟩ | ⟨-, hbefore, -⟩
      · exact hkept.symm.trans hloop'
      · exact hbefore
    · exact ⟨visitor', hvisitor', hloop', rfl⟩
  refine ⟨?_, ?_⟩
  · intro other visitor' hvisitor' hloop' hserial
    obtain ⟨earlier, hbefore, hloop, htransport⟩ := hearlier other visitor' hvisitor' hloop'
    have hbusy := hlooping.busy other earlier hbefore hloop (htransport ▸ hserial)
    rw [htransport] at hbusy
    rcases hmove.loop with ⟨haccepting, -⟩ | ⟨haccepting, hleaver, hleft⟩
    · rw [haccepting]
      exact hbusy
    · -- The loop that was freed has no other connection in its hands.
      rw [haccepting, Function.update_of_ne]
      · exact hbusy
      · intro hsame
        have hserial' : visitor.transport.serial = true := hsame ▸ hserial
        have hother : other = conn := hlooping.alone conn visitor other earlier hvisitor hbefore
          hleaver hloop hserial' (htransport.trans hsame)
        subst hother
        rw [hmove.visitors, Function.update_self] at hvisitor'
        cases hvisitor'
        rw [hleft] at hloop'
        cases hloop'
  · intro one visitor₁ other visitor₂ hone hother hloop₁ hloop₂ hserial hsame
    obtain ⟨earlier₁, hbefore₁, hearlier₁, htransport₁⟩ := hearlier one visitor₁ hone hloop₁
    obtain ⟨earlier₂, hbefore₂, hearlier₂, htransport₂⟩ := hearlier other visitor₂ hother hloop₂
    exact hlooping.alone one earlier₁ other earlier₂ hbefore₁ hbefore₂ hearlier₁ hearlier₂
      (htransport₁ ▸ hserial) (by rw [htransport₂, hsame, htransport₁])

theorem Looping.of_arrive (hlooping : Looping state) {arrival : Arrival Failure}
    (hfree : state.accepting arrival.transport = false) :
    Looping (state.enter conn arrival) := by
  have hfresh : ∀ other visitor', state.visitors other = some visitor' → visitor'.inLoop = true →
      visitor'.transport.serial = true → visitor'.transport ≠ arrival.transport := by
    intro other visitor' hvisitor' hloop hserial hsame
    have hbusy := hlooping.busy other visitor' hvisitor' hloop hserial
    rw [hsame, hfree] at hbusy
    cases hbusy
  have hcases : ∀ other visitor', (state.enter conn arrival).visitors other = some visitor' →
      other = conn ∧ visitor' = ⟨arrival, .arrived⟩ ∨
        other ≠ conn ∧ state.visitors other = some visitor' := by
    intro other visitor' hvisitor'
    change Function.update state.visitors conn (some ⟨arrival, .arrived⟩) other = _ at hvisitor'
    rw [Function.update_apply] at hvisitor'
    split at hvisitor'
    · rename_i hsame
      exact .inl ⟨hsame, (Option.some.inj hvisitor').symm⟩
    · rename_i hother
      exact .inr ⟨hother, hvisitor'⟩
  refine ⟨?_, ?_⟩
  · intro other visitor' hvisitor' hloop hserial
    change Function.update state.accepting arrival.transport arrival.transport.serial
      visitor'.transport = true
    rcases hcases other visitor' hvisitor' with ⟨-, rfl⟩ | ⟨-, hold⟩
    · rw [Function.update_self]
      exact hserial
    · rw [Function.update_of_ne (hfresh other visitor' hold hloop hserial)]
      exact hlooping.busy other visitor' hold hloop hserial
  · intro one visitor₁ other visitor₂ hone hother hloop₁ hloop₂ hserial hsame
    rcases hcases one visitor₁ hone with ⟨rfl, rfl⟩ | ⟨-, hold₁⟩
    · rcases hcases other visitor₂ hother with ⟨rfl, -⟩ | ⟨-, hold₂⟩
      · rfl
      · exact absurd hsame (hfresh other visitor₂ hold₂ hloop₂ (hsame ▸ hserial))
    · rcases hcases other visitor₂ hother with ⟨rfl, rfl⟩ | ⟨-, hold₂⟩
      · exact absurd hsame.symm (hfresh one visitor₁ hold₁ hloop₁ hserial)
      · exact hlooping.alone one visitor₁ other visitor₂ hold₁ hold₂ hloop₁ hloop₂ hserial hsame

theorem Looping.of_step (hlooping : Looping state) (hstep : Step state state') :
    Looping state' := by
  cases hstep with
  | arrive conn arrival hnew hfree => exact hlooping.of_arrive hfree
  | move conn visitor point _ hvisitor hmove => exact hlooping.of_move hvisitor hmove
  | background | cleanup => exact ⟨hlooping.busy, hlooping.alone⟩

/-- No connection has come as a WebSocket. -/
def Serial (state : State Failure) : Prop :=
  ∀ conn visitor, state.visitors conn = some visitor → visitor.transport.serial = true

theorem mem_loops (hlisted : Listed state) (hvisitor : state.visitors conn = some visitor) :
    visitor.transport ∈ state.loops := by
  rw [State.loops, List.mem_dedup, List.mem_filterMap]
  exact ⟨conn, hlisted.mem hvisitor, by rw [hvisitor]; rfl⟩

/-- Pending connections have different accept loops. -/
theorem pending_le_loops (hcounted : Counted state) (hlooping : Looping state)
    (hserial : Serial state) : state.pending ≤ state.loops.length := by
  have hfind : ∀ conn ∈ state.arrivals.filter fun conn => (state.visitors conn).any
      Visitor.isPending, ∃ visitor, state.visitors conn = some visitor ∧
        visitor.inLoop = true := by
    intro conn hconn
    have hany := (List.mem_filter.mp hconn).2
    cases hvisitor : state.visitors conn with
    | none => simp [hvisitor] at hany
    | some visitor =>
        simp only [hvisitor, Option.any_some, Visitor.isPending] at hany
        refine ⟨visitor, rfl, ?_⟩
        split at hany
        · rename_i hpoint
          rw [Visitor.inLoop, hpoint]
        · cases hany
  have hnumber : state.pending = ((state.arrivals.filter fun conn =>
      (state.visitors conn).any Visitor.isPending).map fun conn =>
        (state.visitors conn).map fun visitor => visitor.transport).length := by
    rw [List.length_map, hcounted.pending]
    exact census_eq_length fun _ => rfl
  rw [hnumber, Int.ofNat_le, ← state.loops.length_map (f := some)]
  apply List.Subperm.length_le
  apply List.subperm_of_subset
  · -- Two of them with one transport would be in the hands of one goroutine.
    apply List.Nodup.map_on _ (hcounted.listed.nodup.filter _)
    intro one hone other hother hsame
    obtain ⟨visitor, hvisitor, hloop⟩ := hfind one hone
    obtain ⟨visitor', hvisitor', hloop'⟩ := hfind other hother
    rw [hvisitor, hvisitor'] at hsame
    exact (hlooping.alone one visitor other visitor' hvisitor hvisitor' hloop hloop'
      (hserial one visitor hvisitor) (Option.some.inj hsame).symm).symm
  · intro transport htransport
    obtain ⟨conn, hconn, rfl⟩ := List.mem_map.mp htransport
    obtain ⟨visitor, hvisitor, -⟩ := hfind conn hconn
    rw [hvisitor]
    exact List.mem_map_of_mem (mem_loops hcounted.listed hvisitor)

theorem serial_of_step (hstep : Step state state') (hserial : Serial state') : Serial state := by
  intro conn visitor hvisitor
  cases hstep with
  | arrive other arrival hnew =>
      apply hserial conn visitor
      change Function.update state.visitors other (some ⟨arrival, .arrived⟩) conn = some visitor
      rw [Function.update_of_ne]
      · exact hvisitor
      · rintro rfl
        rw [hnew] at hvisitor
        cases hvisitor
  | move other visitor' point _ hother hmove =>
      have hkept := hserial conn
      rw [hmove.visitors, Function.update_apply] at hkept
      split at hkept
      · rename_i hsame
        subst hsame
        obtain rfl := Option.some.inj (hother.symm.trans hvisitor)
        exact hkept { visitor' with point := point } rfl
      · exact hkept visitor hvisitor
  | background | cleanup => exact hserial conn visitor hvisitor

theorem loops_of_move (hvisitor : state.visitors conn = some visitor)
    (hmove : Move state conn visitor point state') : state'.loops = state.loops := by
  rw [State.loops, State.loops, hmove.arrivals, hmove.visitors]
  congr 2
  funext other
  rw [Function.update_apply]
  split
  · rename_i hsame
    rw [hsame, hvisitor]
    rfl
  · rfl

theorem length_loops_le (hstep : Step state state') :
    state.loops.length ≤ state'.loops.length := by
  cases hstep with
  | move conn visitor point _ hvisitor hmove => rw [loops_of_move hvisitor hmove]
  | background | cleanup => exact Nat.le_refl _
  | arrive conn arrival hnew =>
      apply List.Subperm.length_le
      apply List.subperm_of_subset (List.nodup_dedup _)
      intro transport htransport
      simp only [State.loops, List.mem_dedup, List.mem_filterMap] at htransport ⊢
      obtain ⟨other, hother, htransport⟩ := htransport
      refine ⟨other, List.mem_cons_of_mem conn hother, ?_⟩
      change (Function.update state.visitors conn (some ⟨arrival, .arrived⟩) other).map _ = _
      rw [Function.update_of_ne]
      · exact htransport
      · rintro rfl
        rw [hnew] at htransport
        cases htransport

/-- What a run keeps: without WebSockets at most one connection for each accept loop
has been pending at the same time. -/
structure Admitted (state : State Failure) : Prop where
  counted : Counted state
  bounded : Bounded state
  looping : Looping state
  peak : Serial state → state.peak ≤ state.loops.length

theorem admitted_start (config : Config Failure) : Admitted (State.start config) where
  counted := counted_start config
  bounded := bounded_start config
  looping := looping_start config
  peak := fun _ => le_rfl

theorem peak_of_step (hstep : Step state state') :
    state'.peak = state.peak ∨ state'.peak = max state.peak state'.pending := by
  cases hstep with
  | move conn visitor point _ hvisitor hmove =>
      rcases hmove with hcrossing | hvisit
      · cases hcrossing with
        | findRoom => exact .inr rfl
        | _ => exact .inl rfl
      · cases hvisit <;> exact .inl rfl
  | _ => exact .inl rfl

theorem Admitted.of_step (hadmitted : Admitted state) (hstep : Step state state') :
    Admitted state' := by
  have hcounted := hadmitted.counted.of_step hstep
  have hlooping := hadmitted.looping.of_step hstep
  refine ⟨hcounted, hadmitted.bounded.of_step hstep, hlooping, fun hserial => ?_⟩
  have hbefore := hadmitted.peak (serial_of_step hstep hserial)
  have hgrows := length_loops_le hstep
  have hpending := pending_le_loops hcounted hlooping hserial
  rcases peak_of_step hstep with hsame | hmax
  · omega
  · omega

theorem admitted_of_reaches {config : Config Failure}
    (hreaches : Reaches (State.step config) (State.start config) state) : Admitted state :=
  Reaches.invariant (admitted_start config)
    (fun _ _ _ hadmitted hstep => hadmitted.of_step (step_of_step hstep)) hreaches

/-- At most every connection that has arrived is of a kind. -/
theorem number_within (among : Visitor Failure → Bool) (state : State Failure) :
    0 ≤ state.number among ∧ state.number among ≤ state.arrivals.length := by
  have hnumber : state.number among =
      (state.arrivals.filter fun conn => (state.visitors conn).any among).length :=
    census_eq_length fun _ => rfl
  rw [hnumber]
  exact ⟨Int.natCast_nonneg _, Int.ofNat_le.mpr (List.length_filter_le _ _)⟩

/-- Both counters are of type `atomic.Int64`; `2 ^ 63 - 1` connections do not wrap
them. -/
theorem counters_le_arrivals {config : Config Failure}
    (hreaches : Reaches (State.step config) (State.start config) state) :
    (0 ≤ state.activeConns ∧ state.activeConns ≤ state.arrivals.length) ∧
      0 ≤ state.metrics.activeConnections ∧
        state.metrics.activeConnections ≤ state.arrivals.length := by
  have hcounted := (admitted_of_reaches hreaches).counted
  rw [hcounted.active, hcounted.measured]
  exact ⟨number_within _ state, number_within _ state⟩

/-- However the goroutines of all connections interleave, each counter is the number of
connections between its own two updates; QUIC streams update `activeConns` only.  The
limit can be exceeded by as many connections as were past the check at the same time,
less one.  Without WebSockets there is at most one of them for each accept loop, so
that with TCP alone the limit is kept. -/
theorem connections_counted {config : Config Failure}
    (hreaches : Reaches (State.step config) (State.start config) state) :
    (state.arrivals.Nodup ∧ ∀ conn, conn ∈ state.arrivals ↔ (state.visitors conn).isSome) ∧
    state.activeConns = state.number Visitor.isOpen ∧
    state.metrics.activeConnections = state.number Visitor.isMeasured ∧
    state.activeConns + state.number Visitor.isPending ≤
      maxActiveConnections - 1 + max 1 state.peak ∧
    (Serial state → state.activeConns ≤
      maxActiveConnections - 1 + max 1 (state.loops.length : ℤ)) := by
  obtain ⟨hcounted, hbounded, -, hpeak⟩ := admitted_of_reaches hreaches
  have hpending := hcounted.pending
  have hnonneg := (number_within Visitor.isPending state).1
  have hactive := hbounded.active
  refine ⟨⟨hcounted.listed.nodup, hcounted.listed.present⟩, hcounted.active, hcounted.measured,
    hpending ▸ hactive, fun hserial => ?_⟩
  have hloops := hpeak hserial
  omega

/-- A connection on which nothing arrives. -/
def silent (Failure : Type*) (transport : Transport) : Arrival Failure where
  transport := transport
  remoteAddr := []
  stream := ⟨[], .eof, by simp⟩

/-- A WebSocket and a TCP connection find room before either is counted; the first is
then served to its end. -/
def overlap : List (Label Unit) :=
  [.arrive 0 (silent Unit .webSocket), .arrive 1 (silent Unit .tcp), .proceed 0, .proceed 1,
    .proceed 0, .proceed 0, .proceed 0, .limit 0 5, .proceed 0, .proceed 0, .proceed 1, .proceed 0]

theorem connections_counted_overlap : ∃ state : State Unit,
    (state.peak = 2 ∧ state.arrivals = [1, 0]) ∧ state.activeConns = 2 ∧
    state.number Visitor.isOpen = 2 ∧ state.number Visitor.isMeasured = 0 ∧
    state.activeConns + state.number Visitor.isPending ≤ maxActiveConnections + 1 := by
  obtain ⟨state, hreaches, hend⟩ := exists_reaches_of_run
    (State.step ⟨false, true, id, ()⟩) (State.start ⟨false, true, id, ()⟩) overlap
    (fun state => state.peak = 2 ∧ state.arrivals = [1, 0] ∧ state.activeConns = 2 ∧
      state.metrics.activeConnections = 0) (by decide +kernel)
  obtain ⟨hpeak, harrivals, hactive, hmeasured⟩ := of_decide_eq_true hend
  obtain ⟨-, hopen, hinside, hlimit, -⟩ := connections_counted hreaches
  refine ⟨state, ⟨hpeak, harrivals⟩, hactive, hopen.symm.trans hactive,
    hinside.symm.trans hmeasured, ?_⟩
  rw [hpeak] at hlimit
  exact hlimit

/-! ## Exceeding the limit -/

/-- WebSockets have been opened one after the other: the first ones are counted, the
next ones have passed the check. -/
structure Queued (config : Config Failure) (counted waiting : ℕ) (state : State Failure) :
    Prop where
  reaches : Reaches (State.step config) (State.start config) state
  active : state.activeConns = counted
  free : state.accepting .webSocket = false
  visitors : ∀ conn, state.visitors conn =
    if conn < counted then some ⟨silent Failure .webSocket, .counted⟩
    else if conn < counted + waiting then some ⟨silent Failure .webSocket, .admitted⟩ else none

theorem step_admit (config : Config Failure) (hvisitor : state.visitors conn = some visitor)
    (hpoint : visitor.point = .arrived) (hroom : state.activeConns < maxActiveConnections) :
    state.step config (.proceed conn) = some { state.move conn visitor .admitted with
      pending := state.pending + 1
      peak := max state.peak (state.pending + 1) } := by
  simp only [State.step, hvisitor, Option.bind_some, State.proceed, hpoint]
  exact if_neg (not_le.mpr hroom)

theorem step_count (config : Config Failure) (hvisitor : state.visitors conn = some visitor)
    (hpoint : visitor.point = .admitted) (hmeasured : visitor.transport.measured = true) :
    state.step config (.proceed conn) = some (State.move { state with
      activeConns := state.activeConns + 1
      pending := state.pending - 1 } conn visitor .counted) := by
  simp only [State.step, hvisitor, Option.bind_some, State.proceed, hpoint]
  exact if_pos hmeasured

variable {config : Config Failure} {counted waiting : ℕ}

theorem exists_admit (hqueued : Queued config counted waiting state)
    (hroom : (counted : ℤ) < maxActiveConnections) :
    ∃ state', Queued config counted (waiting + 1) state' := by
  have henter : state.step config (.arrive (counted + waiting) (silent Failure .webSocket)) =
      some (state.enter (counted + waiting) (silent Failure .webSocket)) := by
    apply if_neg
    rw [hqueued.visitors, if_neg (by omega), if_neg (by omega)]
    simp [silent, hqueued.free]
  have hentered : (state.enter (counted + waiting) (silent Failure .webSocket)).visitors
      (counted + waiting) = some ⟨silent Failure .webSocket, .arrived⟩ := Function.update_self ..
  have hadmit := step_admit config hentered rfl (hqueued.active.trans_lt hroom)
  refine ⟨_, (hqueued.reaches.tail ⟨_, henter⟩).tail ⟨_, hadmit⟩, hqueued.active, ?_, ?_⟩
  · exact Function.update_self Transport.webSocket false state.accepting
  · intro conn
    simp only [State.move, State.enter, Function.update_idem]
    rw [Function.update_apply, hqueued.visitors]
    split_ifs <;> first | rfl | omega

theorem exists_count (hqueued : Queued config counted (waiting + 1) state) :
    ∃ state', Queued config (counted + 1) waiting state' := by
  have hvisitor : state.visitors counted = some ⟨silent Failure .webSocket, .admitted⟩ := by
    rw [hqueued.visitors, if_neg (by omega), if_pos (by omega)]
  have hcount := step_count config hvisitor rfl rfl
  refine ⟨_, hqueued.reaches.tail ⟨_, hcount⟩, ?_, hqueued.free, ?_⟩
  · change state.activeConns + 1 = _
    rw [hqueued.active]
    rfl
  · intro conn
    simp only [State.move]
    rw [Function.update_apply, hqueued.visitors]
    split_ifs <;> first | rfl | omega

theorem exists_queued (hcounted : (counted : ℤ) ≤ maxActiveConnections) :
    ∃ state, Queued config counted 0 state := by
  induction counted with
  | zero => exact ⟨State.start config, .refl, rfl, rfl, fun conn => by simp [State.start]⟩
  | succ counted ih =>
      obtain ⟨state, hqueued⟩ := ih (by omega)
      obtain ⟨waiting, hwaiting⟩ := exists_admit hqueued (by omega)
      exact exists_count hwaiting

theorem exists_waiting (hroom : (counted : ℤ) < maxActiveConnections) (waiting : ℕ) :
    ∃ state, Queued config counted waiting state := by
  induction waiting with
  | zero => exact exists_queued hroom.le
  | succ waiting ih =>
      obtain ⟨state, hqueued⟩ := ih
      exact exists_admit hqueued hroom

theorem exists_counted (hqueued : Queued config counted waiting state) :
    ∃ state', Queued config (counted + waiting) 0 state' := by
  induction waiting generalizing counted state with
  | zero => exact ⟨state, hqueued⟩
  | succ waiting ih =>
      obtain ⟨next, hnext⟩ := exists_count hqueued
      rw [Nat.add_comm waiting 1, ← Nat.add_assoc]
      exact ih hnext

/-- The limit is a check and not a reservation.  Upgrades that overlap between the two
can open any number of connections beyond it. -/
theorem connections_exceed_limit (config : Config Failure) (surplus : ℕ) :
    ∃ state, Reaches (State.step config) (State.start config) state ∧
      state.activeConns = maxActiveConnections + surplus ∧
      state.number Visitor.isOpen = maxActiveConnections + surplus := by
  have hroom : ((9999 : ℕ) : ℤ) < maxActiveConnections := by decide
  obtain ⟨waiting, hwaiting⟩ : ∃ state, Queued config 9999 (surplus + 1) state :=
    exists_waiting hroom (surplus + 1)
  obtain ⟨state, hqueued⟩ := exists_counted hwaiting
  have hactive : state.activeConns = maxActiveConnections + surplus := by
    rw [hqueued.active, maxActiveConnections]
    omega
  exact ⟨state, hqueued.reaches, hactive,
    (admitted_of_reaches hqueued.reaches).counted.active.symm.trans hactive⟩

end Counting

end ZeroFeed.FrontDoor
