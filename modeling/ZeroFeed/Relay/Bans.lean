import ZeroFeed.Relay.FrontDoor

/-!
# Bans at the front door (`handleConnection` and `pkg/relay/ratelimit.go`)

The limiter is asked once for each connection, before the first byte of a frame is
read, and told of a failure by whichever goroutine meets one.  The relay never records
a success.  The log of these calls determines which connections are refused; a
refused connection is never read from.
-/

namespace ZeroFeed.FrontDoor

open ZeroFeed.ByteString
open ZeroFeed.RateLimit
open ZeroFeed.Handlers (Handler Input Server)
open ZeroFeed.Isolation
open ZeroFeed.Transition
open ZeroFeed.Census

variable {Failure : Type*}

def State.history (state : State Failure) : List Call := state.calls.map Prod.snd

/-- The call asks about an address with three failures of which the last is less than
five minutes ago. -/
def refused (before : List Call) (call : Call) : Bool :=
  match call.operation with
  | .isBanned remoteAddr => call.now < banEnd (failuresOf (ipOf remoteAddr) before)
  | _ => false

/-- The number of such calls among those after `before`. -/
def refusals (before : List Call) : List Call → ℤ
  | [] => 0
  | call :: calls => (if refused before call then 1 else 0) + refusals (before ++ [call]) calls

theorem refusals_concat (before calls : List Call) (call : Call) :
    refusals before (calls ++ [call]) =
      refusals before calls + if refused (before ++ calls) call then 1 else 0 := by
  induction calls generalizing before with
  | nil =>
      rw [List.nil_append, List.append_nil, refusals, refusals, refusals]
      omega
  | cons first calls ih =>
      rw [List.cons_append, refusals, refusals, ih, List.append_assoc, List.singleton_append]
      omega

/-- The answer of the limiter, from the calls it has had. -/
theorem isBanned_eq_refused (before : List Call) (now : ℕ) (remoteAddr : Bytes) :
    ((newRateLimiter.run before).isBanned now remoteAddr).2 =
      refused before ⟨now, .isBanned remoteAddr⟩ := by
  obtain ⟨henabled, hcounts⟩ := watches_newRateLimiter (ipOf remoteAddr) before
  rw [Bool.eq_iff_iff, isBanned_answer henabled, refused, decide_eq_true_iff]
  generalize failuresOf (ipOf remoteAddr) before = failures at hcounts
  generalize (newRateLimiter.run before).records (ipOf remoteAddr) = record at hcounts
  cases hcounts with
  | absent =>
      constructor
      · rintro ⟨record, hrecord, -⟩
        cases hrecord
      · intro hnow
        exact absurd hnow (Nat.not_lt_zero now)
  | present record _ hattempts hbanned =>
      rw [← hbanned]
      constructor
      · rintro ⟨_, hrecord, hnow⟩
        cases hrecord
        exact hnow
      · exact fun hnow => ⟨record, rfl, hnow⟩

/-! ## Connections nothing has been read from -/

/-- Before the first frame is passed to the handler. -/
def Point.early : Point Failure → Bool
  | .arrived | .admitted | .counted | .opened | .checking .. | .banned | .reading ..
  | .failing _ _ true | .dropping true | .closing => true
  | _ => false

/-- On the way of a connection that is refused. -/
def Point.turnedAway : Point Failure → Bool
  | .banned | .closing | .returned | .leaving | .gone => true
  | _ => false

def Point.hasReturned : Point Failure → Bool
  | .returned | .leaving | .gone => true
  | _ => false

section Steps

variable {state state' : State Failure} {conn : ℕ} {visitor : Visitor Failure}
variable {point : Point Failure}

theorem early_resume (remoteAddr : Bytes) (after : Handler) :
    (State.resume remoteAddr after : Point Failure).early = false := by
  unfold State.resume
  split <;> rfl

theorem early_afterFirst (remoteAddr : Bytes) (after : Handler) :
    (State.afterFirst remoteAddr after : Point Failure).early = false := by
  unfold State.afterFirst
  split <;> rfl

/-- A connection is early only as long as its handler has not been called. -/
theorem Move.early (hmove : Move state conn visitor point state') (hearly : point.early = true) :
    visitor.point.early = true ∧ state'.relay = state.relay := by
  rcases hmove with hcrossing | hvisit
  · cases hcrossing with
    | findRoom hpoint | count hpoint | countOnly hpoint | measure hpoint =>
        exact ⟨by rw [hpoint]; rfl, rfl⟩
    | turnAway | unmeasure | leave => cases hearly
  · cases hvisit with
    | address _ hpoint | check _ _ _ _ hpoint | refuse hpoint | reject _ _ _ hpoint =>
        exact ⟨by rw [hpoint]; rfl, rfl⟩
    | accept relay source remoteAddr =>
        rw [early_afterFirst] at hearly
        cases hearly
    | serve relay remoteAddr =>
        rw [early_resume] at hearly
        cases hearly
    | fail now remoteAddr malformed hangUp _ hpoint hclock hnext =>
        rw [hnext] at hearly
        cases malformed with
        | false => cases hearly
        | true =>
            cases hangUp with
            | false => cases hearly
            | true => exact ⟨by rw [hpoint]; rfl, rfl⟩
    | drop hangUp _ hpoint hnext =>
        rw [hnext] at hearly
        cases hangUp with
        | false => cases hearly
        | true => exact ⟨by rw [hpoint]; rfl, rfl⟩
    | close | relay | transfer => cases hearly

/-- A refused connection stays on its way, and its handler does not return without
closing the socket. -/
theorem Move.turnedAway (hmove : Move state conn visitor point state')
    (hturned : visitor.point.turnedAway = true) :
    point.turnedAway = true ∧ (state'.relay = state.relay ∧
        (point.hasReturned = true → visitor.point.hasReturned = true) ∨
      state.relay.step (.handler conn (.accept none)) = some state'.relay) := by
  rcases hmove with hcrossing | hvisit
  · cases hcrossing with
    | unmeasure hpoint => exact ⟨rfl, .inl ⟨rfl, fun _ => by rw [hpoint]; rfl⟩⟩
    | leave hpoint =>
        refine ⟨rfl, .inl ⟨rfl, fun _ => ?_⟩⟩
        rcases hpoint with hpoint | ⟨hpoint, -⟩ <;> rw [hpoint] <;> rfl
    | turnAway _ hpoint | findRoom hpoint | count hpoint | countOnly hpoint | measure hpoint =>
        rw [hpoint] at hturned
        cases hturned
  · cases hvisit with
    | refuse => exact ⟨rfl, .inl ⟨rfl, nofun⟩⟩
    | close relay hpoint hrelay => exact ⟨rfl, .inr hrelay⟩
    | address _ hpoint | check _ _ _ _ hpoint | accept _ _ _ _ hpoint | reject _ _ _ hpoint
    | fail _ _ _ _ _ hpoint | drop _ _ hpoint | serve _ _ _ hpoint | relay _ _ hpoint
    | transfer _ _ hpoint =>
        rw [hpoint] at hturned
        cases hturned

end Steps

section Relay

variable {relay relay' : Handlers.State}

/-- Closing a connection before its first frame is only possible there, and leaves the
logs as they are. -/
theorem step_accept_none {conn : ℕ}
    (hrelay : relay.step (.handler conn (.accept none)) = some relay') :
    relay'.server.received = relay.server.received ∧
      relay'.server.clients = relay.server.clients ∧ relay'.server.netClosed conn = true := by
  obtain ⟨⟨server, handler⟩, hhandle, rfl⟩ := Option.map_eq_some_iff.mp hrelay
  generalize relay.handlers conn = handler' at hhandle
  cases handler' with
  | idle =>
      cases hhandle
      exact ⟨rfl, rfl, by simp [Server.closeNet]⟩
  | register role env session => cases role <;> cases hhandle
  | greeting session rest => cases rest <;> cases hhandle
  | forwarding session env last rest => cases rest <;> cases hhandle
  | _ => cases hhandle

/-- A step that is not one of its handler leaves a connection where it is, unread and
unregistered if it was. -/
theorem untouched_of_relay (hvalid : WellFormed relay) {label : Handlers.Label} {conn : ℕ}
    (hother : ∀ input, label ≠ .handler conn input) (hstep : relay.step label = some relay') :
    relay'.handlers conn = relay.handlers conn ∧
      relay'.server.received conn = relay.server.received conn ∧
      (relay.server.clients conn = none → relay'.server.clients conn = none) ∧
      (relay.server.netClosed conn = true → relay'.server.netClosed conn = true) := by
  rcases Handlers.cases_of_step hstep with
    ⟨mover, input, handler, hlabel, hsection, hhandlers⟩ | ⟨task, -, hbackground, hhandlers⟩
  · have hmover : conn ≠ mover := by
      rintro rfl
      exact hother input hlabel
    refine ⟨by rw [hhandlers, Function.update_of_ne hmover], received_of_section hsection hmover,
      ?_, Handlers.netClosed_of_section hsection conn⟩
    exact (outcome_of_section hvalid.server (hvalid.handlers mover) hsection).clients_none hmover
  · exact ⟨congrFun hhandlers conn, congrFun (received_of_background hbackground) conn,
      (evolves_of_background hbackground).clients_none,
      Handlers.netClosed_of_background hbackground conn⟩

end Relay

/-- A connection seen from a step of somebody else. -/
structure Untouched (state : State Failure) (conn : ℕ) (state' : State Failure) : Prop where
  visitors : state'.visitors conn = state.visitors conn
  handlers : state'.relay.handlers conn = state.relay.handlers conn
  received : state'.relay.server.received conn = state.relay.server.received conn
  clients : state.relay.server.clients conn = none → state'.relay.server.clients conn = none
  netClosed : state.relay.server.netClosed conn = true →
    state'.relay.server.netClosed conn = true

/-- A step is one of the connection's goroutine, or its arrival, or one of somebody
else. -/
theorem Step.cases_at {state state' : State Failure} (hvalid : WellFormed state.relay)
    (hstep : Step state state') (conn : ℕ) :
    (∃ visitor point, state.visitors conn = some visitor ∧ Move state conn visitor point state') ∨
      (state.visitors conn = none ∧ ∃ arrival, state' = state.enter conn arrival) ∨
      Untouched state conn state' := by
  cases hstep with
  | arrive other arrival hnew =>
      by_cases hsame : conn = other
      · subst hsame
        exact .inr (.inl ⟨hnew, arrival, rfl⟩)
      · exact .inr (.inr ⟨Function.update_of_ne hsame _ _, rfl, rfl, id, id⟩)
  | move other visitor point _ hvisitor hmove =>
      by_cases hsame : conn = other
      · subst hsame
        exact .inl ⟨visitor, point, hvisitor, hmove⟩
      · refine .inr (.inr ?_)
        have hvisitors : state'.visitors conn = state.visitors conn := by
          rw [hmove.visitors, Function.update_of_ne hsame]
        rcases hmove.relay with hrelay | ⟨input, hrelay⟩
        · exact ⟨hvisitors, by rw [hrelay], by rw [hrelay], by rw [hrelay]; exact id,
            by rw [hrelay]; exact id⟩
        · have hlabel : ∀ input', Handlers.Label.handler other input ≠ .handler conn input' := by
            rintro input' heq
            cases heq
            exact hsame rfl
          obtain ⟨hhandlers, hreceived, hclients, hnet⟩ :=
            untouched_of_relay hvalid hlabel hrelay
          exact ⟨hvisitors, hhandlers, hreceived, hclients, hnet⟩
  | background task relay hrelay =>
      have hlabel : ∀ input, Handlers.Label.task task ≠ .handler conn input := by
        intro input heq
        cases heq
      obtain ⟨hhandlers, hreceived, hclients, hnet⟩ := untouched_of_relay hvalid hlabel hrelay
      exact .inr (.inr ⟨rfl, hhandlers, hreceived, hclients, hnet⟩)
  | cleanup => exact .inr (.inr ⟨rfl, rfl, rfl, id, id⟩)

/-! ## What a run keeps -/

/-- A connection without a visitor, or with an early one, has an idle handler. -/
def Placed (state : State Failure) : Prop :=
  ∀ conn, (∀ visitor, state.visitors conn = some visitor → visitor.point.early = true) →
    state.relay.handlers conn = .idle

/-- A connection on the way of a refused one: no frame of it is decoded, it is not
registered, and once its handler has returned its socket is closed. -/
def TurnedAway (state : State Failure) (conn : ℕ) : Prop :=
  ∃ visitor, state.visitors conn = some visitor ∧ visitor.point.turnedAway = true ∧
    state.relay.server.received conn = [] ∧ state.relay.server.clients conn = none ∧
    (visitor.point.hasReturned = true → state.relay.server.netClosed conn = true)

section Runs

variable {state state' : State Failure} {conn : ℕ} {visitor : Visitor Failure}
variable {point : Point Failure}

theorem Placed.of_step (hvalid : WellFormed state.relay) (hplaced : Placed state)
    (hstep : Step state state') : Placed state' := by
  intro conn hearly
  rcases hstep.cases_at hvalid conn with
    ⟨visitor, point, hvisitor, hmove⟩ | ⟨hnew, arrival, rfl⟩ | huntouched
  · rw [hmove.visitors] at hearly
    obtain ⟨hbefore, hrelay⟩ := hmove.early (hearly _ (Function.update_self ..))
    rw [hrelay]
    apply hplaced conn
    intro visitor' hvisitor'
    obtain rfl := Option.some.inj (hvisitor.symm.trans hvisitor')
    exact hbefore
  · apply hplaced conn
    intro visitor hvisitor
    rw [hnew] at hvisitor
    cases hvisitor
  · rw [huntouched.visitors] at hearly
    rw [huntouched.handlers]
    exact hplaced conn hearly

theorem TurnedAway.of_step (hvalid : WellFormed state.relay) (hturned : TurnedAway state conn)
    (hstep : Step state state') : TurnedAway state' conn := by
  obtain ⟨visitor, hvisitor, hpoint, hreceived, hclients, hclosed⟩ := hturned
  rcases hstep.cases_at hvalid conn with
    ⟨mover, point, hmover, hmove⟩ | ⟨hnew, -⟩ | huntouched
  · obtain rfl := Option.some.inj (hvisitor.symm.trans hmover)
    obtain ⟨hpoint', hrelay⟩ := hmove.turnedAway hpoint
    refine ⟨{ visitor with point := point }, ?_, hpoint', ?_⟩
    · rw [hmove.visitors, Function.update_self]
    · rcases hrelay with ⟨hrelay, hbefore⟩ | hrelay
      · rw [hrelay]
        exact ⟨hreceived, hclients, fun hafter => hclosed (hbefore hafter)⟩
      · obtain ⟨hkept, hnone, hnet⟩ := step_accept_none hrelay
        rw [hkept, hnone]
        exact ⟨hreceived, hclients, fun _ => hnet⟩
  · rw [hnew] at hvisitor
    cases hvisitor
  · exact ⟨visitor, huntouched.visitors.trans hvisitor, hpoint,
      huntouched.received.trans hreceived, huntouched.clients hclients,
      fun hreturned => huntouched.netClosed (hclosed hreturned)⟩

/-- What is known of every state before the log is looked at. -/
structure Settled (state : State Failure) : Prop where
  valid : WellFormed state.relay
  listed : Listed state
  placed : Placed state

/-- A connection that is found banned has not been read from. -/
theorem turnedAway_of_check (hsettled : Settled state)
    (hvisitor : state.visitors conn = some visitor)
    (hmove : Move state conn visitor point state') {source : ProxyProto.Conn Failure}
    {remoteAddr : Bytes} (hpoint : visitor.point = .checking source remoteAddr)
    (hnext : point = .banned) (hrelay : state'.relay = state.relay) : TurnedAway state' conn := by
  have hidle : state.relay.handlers conn = .idle := by
    apply hsettled.placed conn
    intro visitor' hvisitor'
    obtain rfl := Option.some.inj (hvisitor.symm.trans hvisitor')
    rw [hpoint]
    rfl
  have hunread := hsettled.valid.handlers conn
  rw [hidle] at hunread
  subst hnext
  rw [TurnedAway, hrelay]
  exact ⟨{ visitor with point := .banned }, by rw [hmove.visitors, Function.update_self], rfl,
    hunread.1, hunread.2, nofun⟩

theorem settled_of_reaches {config : Config Failure}
    (hreaches : Reaches (State.step config) (State.start config) state) : Settled state := by
  have hvalid : ∀ state, Reaches (State.step config) (State.start config) state →
      WellFormed state.relay := fun _ hbefore => wellFormed_of_reaches (relay_reaches hbefore)
  refine ⟨hvalid state hreaches, ?_, ?_⟩
  · refine Reaches.invariant ?_ (fun _ _ _ hlisted hstep => ?_) hreaches
    · exact ⟨List.nodup_nil, fun conn => by simp [State.start]⟩
    · exact hlisted.of_step (step_of_step hstep)
  · refine Reaches.invariant_of_known hvalid (fun _ _ => rfl) ?_ hreaches
    intro state label state' hvalid hplaced hstep
    exact Placed.of_step hvalid hplaced (step_of_step hstep)

end Runs

/-! ## The log of the calls -/

/-- About to be refused. -/
def Visitor.isBanned (visitor : Visitor Failure) : Bool :=
  match visitor.point with
  | .banned => true
  | _ => false

/-- The step calls the limiter. -/
structure Called (state : State Failure) (caller : Option ℕ) (call : Call)
    (state' : State Failure) : Prop where
  inOrder : state.clock ≤ call.now
  limiter : state'.limiter = state.limiter.perform call
  clock : state'.clock = call.now
  calls : state'.calls = state.calls ++ [(caller, call)]

/-- The step does not call the limiter. -/
structure Uncalled (state state' : State Failure) : Prop where
  limiter : state'.limiter = state.limiter
  clock : state'.clock = state.clock
  calls : state'.calls = state.calls

section Log

variable {state state' : State Failure} {conn : ℕ} {visitor : Visitor Failure}
variable {point : Point Failure}

/-- A step asks whether an address is banned, or counts a refusal, or has nothing to do
with bans; then it may still record a failure. -/
theorem Move.asks (hmove : Move state conn visitor point state') :
    (∃ now source remoteAddr, visitor.point = .checking source remoteAddr ∧
      point = (if (state.limiter.isBanned now remoteAddr).2 then .banned
        else .reading source remoteAddr) ∧
      state'.relay = state.relay ∧ state'.metrics = state.metrics ∧
      Called state (some conn) ⟨now, .isBanned remoteAddr⟩ state') ∨
    (visitor.isBanned = true ∧ Visitor.isBanned { visitor with point := point } = false ∧
      state'.metrics.rateLimitBansTotal = state.metrics.rateLimitBansTotal + 1 ∧
      Uncalled state state') ∨
    (visitor.isBanned = false ∧ Visitor.isBanned { visitor with point := point } = false ∧
      state'.metrics.rateLimitBansTotal = state.metrics.rateLimitBansTotal ∧
      (Uncalled state state' ∨ ∃ now remoteAddr,
        Called state (some conn) ⟨now, .recordFailure remoteAddr⟩ state')) := by
  rcases hmove with hcrossing | hvisit
  · refine .inr (.inr ?_)
    cases hcrossing with
    | turnAway relay hpoint | findRoom hpoint | count hpoint | countOnly hpoint | measure hpoint
    | unmeasure hpoint =>
        exact ⟨by rw [Visitor.isBanned, hpoint], rfl, rfl, .inl ⟨rfl, rfl, rfl⟩⟩
    | leave hpoint =>
        refine ⟨?_, rfl, rfl, .inl ⟨rfl, rfl, rfl⟩⟩
        rcases hpoint with hpoint | ⟨hpoint, -⟩ <;> rw [Visitor.isBanned, hpoint]
  · cases hvisit with
    | check now source remoteAddr _ hpoint hclock hnext =>
        exact .inl ⟨now, source, remoteAddr, hpoint, hnext, rfl, rfl, hclock, rfl, rfl, rfl⟩
    | refuse hpoint =>
        exact .inr (.inl ⟨by rw [Visitor.isBanned, hpoint], rfl, rfl, rfl, rfl, rfl⟩)
    | fail now remoteAddr malformed hangUp _ hpoint hclock hnext =>
        refine .inr (.inr ⟨by rw [Visitor.isBanned, hpoint], ?_, rfl,
          .inr ⟨now, remoteAddr, hclock, rfl, rfl, rfl⟩⟩)
        rw [hnext]
        cases malformed <;> rfl
    | address _ hpoint hnext =>
        refine .inr (.inr ⟨by rw [Visitor.isBanned, hpoint], ?_, rfl, .inl ⟨rfl, rfl, rfl⟩⟩)
        rcases hnext with rfl | ⟨source, remoteAddr, rfl⟩ <;> rfl
    | reject _ source remoteAddr hpoint hnext =>
        refine .inr (.inr ⟨by rw [Visitor.isBanned, hpoint], ?_, rfl, .inl ⟨rfl, rfl, rfl⟩⟩)
        rcases hnext with rfl | rfl <;> rfl
    | drop hangUp _ hpoint hnext =>
        refine .inr (.inr ⟨by rw [Visitor.isBanned, hpoint], ?_, rfl, .inl ⟨rfl, rfl, rfl⟩⟩)
        rw [hnext]
        cases hangUp <;> rfl
    | accept relay source remoteAddr env hpoint =>
        refine .inr (.inr ⟨by rw [Visitor.isBanned, hpoint], ?_, rfl, .inl ⟨rfl, rfl, rfl⟩⟩)
        unfold State.afterFirst
        split <;> rfl
    | serve relay remoteAddr input hpoint =>
        refine .inr (.inr ⟨by rw [Visitor.isBanned, hpoint], ?_, rfl, .inl ⟨rfl, rfl, rfl⟩⟩)
        unfold State.resume
        split <;> rfl
    | close relay hpoint | relay _ _ hpoint | transfer _ _ hpoint =>
        exact .inr (.inr ⟨by rw [Visitor.isBanned, hpoint], rfl, rfl, .inl ⟨rfl, rfl, rfl⟩⟩)

/-- The limiter is what its calls made it; they are in order, and none is a success. -/
structure Logged (state : State Failure) : Prop where
  limiter : state.limiter = newRateLimiter.run state.history
  ordered : state.history.Pairwise fun earlier later => earlier.now ≤ later.now
  clock : ∀ call ∈ state.history, call.now ≤ state.clock
  successless : ∀ call ∈ state.history, ∀ ip, ¬ call.Succeeds ip

theorem history_of_called {caller : Option ℕ} {call : Call}
    (hcalled : Called state caller call state') : state'.history = state.history ++ [call] := by
  rw [State.history, hcalled.calls, List.map_append]
  rfl

theorem Logged.of_called (hlogged : Logged state) {caller : Option ℕ} {call : Call}
    (hcalled : Called state caller call state') (hsuccess : ∀ ip, ¬ call.Succeeds ip) :
    Logged state' := by
  have hhistory := history_of_called hcalled
  refine ⟨?_, ?_, ?_, ?_⟩
  · rw [hcalled.limiter, hhistory, RateLimiter.run, List.foldl_append, hlogged.limiter]
    rfl
  · rw [hhistory, List.pairwise_append]
    refine ⟨hlogged.ordered, List.pairwise_singleton _ _, ?_⟩
    intro earlier hearlier later hlater
    rw [List.mem_singleton.mp hlater]
    exact (hlogged.clock earlier hearlier).trans hcalled.inOrder
  · rw [hhistory, hcalled.clock, List.forall_mem_append]
    refine ⟨fun earlier hearlier => (hlogged.clock earlier hearlier).trans hcalled.inOrder, ?_⟩
    exact List.forall_mem_singleton.mpr le_rfl
  · rw [hhistory, List.forall_mem_append]
    exact ⟨hlogged.successless, List.forall_mem_singleton.mpr hsuccess⟩

theorem history_of_uncalled (huncalled : Uncalled state state') :
    state'.history = state.history := by
  rw [State.history, huncalled.calls]
  rfl

theorem Logged.of_uncalled (hlogged : Logged state) (huncalled : Uncalled state state') :
    Logged state' := by
  have hhistory := history_of_uncalled huncalled
  refine ⟨?_, ?_, ?_, ?_⟩
  · rw [huncalled.limiter, hhistory]
    exact hlogged.limiter
  · rw [hhistory]
    exact hlogged.ordered
  · rw [hhistory, huncalled.clock]
    exact hlogged.clock
  · rw [hhistory]
    exact hlogged.successless

/-- What a run keeps with rate limiting on. -/
structure Guarded (state : State Failure) : Prop where
  logged : Logged state
  turned : ∀ before conn call after, state.calls = before ++ (some conn, call) :: after →
    refused (before.map Prod.snd) call = true → TurnedAway state conn
  bans : CountsTo state.metrics.rateLimitBansTotal
    (refusals [] state.history - state.number Visitor.isBanned)

theorem guarded_start {config : Config Failure} (hlimiting : config.rateLimiting = true) :
    Guarded (State.start config) where
  logged :=
    { limiter := by rw [State.start, hlimiting]; rfl
      ordered := List.Pairwise.nil
      clock := fun call hcall => absurd hcall List.not_mem_nil
      successless := fun call hcall => absurd hcall List.not_mem_nil }
  turned := fun before conn call after hcalls => by simp [State.start] at hcalls
  bans := rfl

/-- The entries of the log after a call are the earlier ones and that of the call. -/
theorem turned_of_called {caller : Option ℕ} {call : Call}
    (hcalled : Called state caller call state')
    (hearlier : ∀ before conn call after, state.calls = before ++ (some conn, call) :: after →
      refused (before.map Prod.snd) call = true → TurnedAway state' conn)
    (hlast : ∀ conn, caller = some conn → refused state.history call = true →
      TurnedAway state' conn)
    (before : List (Option ℕ × Call)) (conn : ℕ) (entry : Call) (after : List (Option ℕ × Call))
    (hcalls : state'.calls = before ++ (some conn, entry) :: after)
    (hrefused : refused (before.map Prod.snd) entry = true) : TurnedAway state' conn := by
  rw [hcalled.calls] at hcalls
  rcases List.eq_nil_or_concat after with rfl | ⟨earlier, last, rfl⟩
  · obtain ⟨hbefore, hentry⟩ := List.append_inj' hcalls rfl
    cases hentry
    rw [← hbefore] at hrefused
    exact hlast conn rfl hrefused
  · rw [List.concat_eq_append, ← List.cons_append, ← List.append_assoc] at hcalls
    exact hearlier before conn entry earlier (List.append_inj' hcalls rfl).1 hrefused

theorem Guarded.turned_of_step (hsettled : Settled state) (hguarded : Guarded state)
    (hstep : Step state state') (before : List (Option ℕ × Call)) (conn : ℕ) (call : Call)
    (after : List (Option ℕ × Call)) (hcalls : state.calls = before ++ (some conn, call) :: after)
    (hrefused : refused (before.map Prod.snd) call = true) : TurnedAway state' conn :=
  (hguarded.turned before conn call after hcalls hrefused).of_step hsettled.valid hstep

theorem Guarded.of_check (hsettled : Settled state) (hguarded : Guarded state)
    (hvisitor : state.visitors conn = some visitor)
    (hmove : Move state conn visitor point state') {now : ℕ} {source : ProxyProto.Conn Failure}
    {remoteAddr : Bytes} (hpoint : visitor.point = .checking source remoteAddr)
    (hnext : point = if (state.limiter.isBanned now remoteAddr).2 then .banned
      else .reading source remoteAddr)
    (hrelay : state'.relay = state.relay) (hmetrics : state'.metrics = state.metrics)
    (hcalled : Called state (some conn) ⟨now, .isBanned remoteAddr⟩ state') : Guarded state' := by
  have hstep : Step state state' := .move conn visitor point state' hvisitor hmove
  have hanswer : (state.limiter.isBanned now remoteAddr).2 =
      refused state.history ⟨now, .isBanned remoteAddr⟩ := by
    rw [hguarded.logged.limiter, isBanned_eq_refused]
  rw [hanswer] at hnext
  refine ⟨hguarded.logged.of_called hcalled fun _ => id, ?_, ?_⟩
  · refine turned_of_called hcalled (hguarded.turned_of_step hsettled hstep) ?_
    intro other hother hrefused
    obtain rfl := Option.some.inj hother
    rw [if_pos hrefused] at hnext
    exact turnedAway_of_check hsettled hvisitor hmove hpoint hnext hrelay
  · have hbefore : visitor.isBanned = false := by rw [Visitor.isBanned, hpoint]
    have hafter : Visitor.isBanned { visitor with point := point } =
        refused state.history ⟨now, .isBanned remoteAddr⟩ := by
      rw [hnext]
      cases refused state.history ⟨now, .isBanned remoteAddr⟩ <;> rfl
    rw [hmetrics, history_of_called hcalled, refusals_concat,
      number_of_move hsettled.listed hvisitor hmove, indicator_some, indicator_some, hbefore,
      hafter, List.nil_append]
    have hbans := hguarded.bans
    rw [CountsTo] at hbans ⊢
    rw [hbans]
    congr 1
    simp only [Bool.false_eq_true, if_false]
    omega

theorem Guarded.of_move (hsettled : Settled state) (hguarded : Guarded state)
    (hvisitor : state.visitors conn = some visitor)
    (hmove : Move state conn visitor point state') : Guarded state' := by
  have hearlier := hguarded.turned_of_step hsettled
    (.move conn visitor point state' hvisitor hmove)
  have hnumber := number_of_move hsettled.listed hvisitor hmove Visitor.isBanned
  rcases hmove.asks with ⟨now, source, remoteAddr, hpoint, hnext, hrelay, hmetrics, hcalled⟩ |
    ⟨hbefore, hafter, hbans, huncalled⟩ | ⟨hbefore, hafter, hbans, hcalls⟩
  · exact hguarded.of_check hsettled hvisitor hmove hpoint hnext hrelay hmetrics hcalled
  · refine ⟨hguarded.logged.of_uncalled huncalled, ?_, ?_⟩
    · rw [huncalled.calls]
      exact hearlier
    · have htotal : refusals [] state.history - state'.number Visitor.isBanned =
          refusals [] state.history - state.number Visitor.isBanned + 1 := by
        rw [hnumber, indicator_some, indicator_some, hbefore, hafter, if_pos rfl,
          if_neg Bool.false_ne_true]
        omega
      rw [hbans, history_of_uncalled huncalled, htotal]
      exact hguarded.bans.add 1
  · rw [indicator_some, indicator_some, hbefore, hafter, Int.sub_self, Int.add_zero] at hnumber
    rcases hcalls with huncalled | ⟨now, remoteAddr, hcalled⟩
    · refine ⟨hguarded.logged.of_uncalled huncalled, ?_, ?_⟩
      · rw [huncalled.calls]
        exact hearlier
      · rw [hbans, hnumber, history_of_uncalled huncalled]
        exact hguarded.bans
    · refine ⟨hguarded.logged.of_called hcalled fun _ => id,
        turned_of_called hcalled hearlier (fun _ _ hrefused => by cases hrefused), ?_⟩
      rw [hbans, hnumber, history_of_called hcalled, refusals_concat]
      exact (Int.add_zero (refusals [] state.history)).symm ▸ hguarded.bans

theorem Guarded.of_step (hsettled : Settled state) (hguarded : Guarded state)
    (hstep : Step state state') : Guarded state' := by
  have hearlier := hguarded.turned_of_step hsettled hstep
  cases hstep with
  | move conn visitor point _ hvisitor hmove => exact hguarded.of_move hsettled hvisitor hmove
  | arrive conn arrival hnew =>
      refine ⟨hguarded.logged.of_uncalled ⟨rfl, rfl, rfl⟩, hearlier, ?_⟩
      rw [number_of_arrive hsettled.listed hnew]
      exact (Int.zero_add (state.number Visitor.isBanned)).symm ▸ hguarded.bans
  | background task relay hrelay =>
      exact ⟨hguarded.logged.of_uncalled ⟨rfl, rfl, rfl⟩, hearlier,
        hguarded.bans⟩
  | cleanup now hclock =>
      have hcalled : Called state none ⟨now, .cleanupStale staleAge⟩
          (state.setLimiter (state.limiter.cleanupStale now staleAge) none
            ⟨now, .cleanupStale staleAge⟩) := ⟨hclock, rfl, rfl, rfl⟩
      refine ⟨hguarded.logged.of_called hcalled fun _ => id,
        turned_of_called hcalled hearlier (fun _ hcaller => by cases hcaller), ?_⟩
      rw [history_of_called hcalled, refusals_concat]
      exact (Int.add_zero (refusals [] state.history)).symm ▸ hguarded.bans

theorem guarded_of_reaches {config : Config Failure} (hlimiting : config.rateLimiting = true)
    (hreaches : Reaches (State.step config) (State.start config) state) : Guarded state :=
  Reaches.invariant_of_known (fun _ => settled_of_reaches) (guarded_start hlimiting)
    (fun _ _ _ hsettled hguarded hstep => hguarded.of_step hsettled (step_of_step hstep)) hreaches

/-- A relay with rate limiting, in any interleaving.  A connection whose address is
asked about within five minutes of a third or later failure of that address is turned
away, whatever the connections of other clients did between: from the answer on it is
at none of the points where a frame is read, it is never registered, and its socket is
closed when its handler returns.  `RateLimitBansTotal` is the number of checks so
answered, up to the refusals under way and modulo its width. -/
theorem bans_enforced {config : Config Failure} (hlimiting : config.rateLimiting = true)
    (hreaches : Reaches (State.step config) (State.start config) state) :
    (∀ before caller failure between conn now remoteAddr after,
      state.calls = before ++ (caller, failure) :: between ++
        (some conn, ⟨now, .isBanned remoteAddr⟩) :: after →
      failure.Fails (ipOf remoteAddr) →
      maxFailedAttempts ≤
        (failuresOf (ipOf remoteAddr) (before.map Prod.snd ++ [failure])).length →
      now < failure.now + banDuration → TurnedAway state conn) ∧
    CountsTo state.metrics.rateLimitBansTotal
      (refusals [] state.history - state.number Visitor.isBanned) := by
  have hguarded := guarded_of_reaches hlimiting hreaches
  refine ⟨?_, hguarded.bans⟩
  intro before caller failure between conn now remoteAddr after hcalls hfails hthird hsoon
  have hhistory : state.history = before.map Prod.snd ++ failure :: between.map Prod.snd ++
      [⟨now, .isBanned remoteAddr⟩] ++ after.map Prod.snd := by
    rw [State.history, hcalls]
    simp
  have hordered := hguarded.logged.ordered
  rw [hhistory] at hordered
  have hbanned := isBanned_of_third (hordered.sublist (List.sublist_append_left _ _)) hfails hthird
    hsoon fun call hcall => hguarded.logged.successless call (by
      rw [hhistory]
      simp [List.mem_map.mp hcall]) _
  rw [isBanned_eq_refused] at hbanned
  have hrefused : refused ((before ++ (caller, failure) :: between).map Prod.snd)
      ⟨now, .isBanned remoteAddr⟩ = true := by
    rw [List.map_append]
    exact hbanned
  exact hguarded.turned (before ++ (caller, failure) :: between) conn _ after hcalls hrefused

end Log

/-- A TCP connection that sends one byte and ends. -/
def garbage (remoteAddr : Bytes) : Arrival Unit where
  transport := .tcp
  remoteAddr := remoteAddr
  stream := ⟨[[0x47]], .eof, by simp⟩

/-- A connection is accepted and checked at the given time. -/
def ask (conn now : ℕ) : List (Label Unit) :=
  .arrive conn (garbage [0x61, Text.colon, UInt8.ofNat conn]) ::
    List.replicate 4 (.proceed conn) ++ [.limit conn now]

/-- Three clients of one address fail, interleaved with each other, and a fourth one
comes at the last moment of the ban and is closed. -/
def siege : List (Label Unit) :=
  ask 1 10 ++ ask 2 11 ++ ask 3 12 ++
    [.proceed 2, .proceed 1, .limit 2 20, .proceed 3, .limit 3 21, .limit 1 22] ++
    ask 4 (21 + banDuration) ++ [.proceed 4, .proceed 4]

theorem bans_enforced_siege : ∃ state : State Unit,
    state.calls.length = 7 ∧ TurnedAway state 4 ∧ state.relay.server.netClosed 4 = true ∧
      CountsTo state.metrics.rateLimitBansTotal (1 - state.number Visitor.isBanned) := by
  obtain ⟨state, hreaches, hend⟩ := exists_reaches_of_run
    (State.step ⟨false, true, id, ()⟩) (State.start ⟨false, true, id, ()⟩) siege
    (fun state => state.calls =
      [(some 1, ⟨10, .isBanned [0x61, Text.colon, 1]⟩),
        (some 2, ⟨11, .isBanned [0x61, Text.colon, 2]⟩),
        (some 3, ⟨12, .isBanned [0x61, Text.colon, 3]⟩),
        (some 2, ⟨20, .recordFailure [0x61, Text.colon, 2]⟩),
        (some 3, ⟨21, .recordFailure [0x61, Text.colon, 3]⟩),
        (some 1, ⟨22, .recordFailure [0x61, Text.colon, 1]⟩),
        (some 4, ⟨21 + banDuration, .isBanned [0x61, Text.colon, 4]⟩)] ∧
      state.relay.server.netClosed 4 = true) (by decide +kernel)
  obtain ⟨hcalls, hclosed⟩ := of_decide_eq_true hend
  obtain ⟨hturned, hbans⟩ := bans_enforced rfl hreaches
  have hfourth := hturned [_, _, _, _, _] _ _ [] _ _ _ [] hcalls (by decide +kernel)
    (by decide +kernel) (by decide +kernel)
  refine ⟨state, by rw [hcalls]; rfl, hfourth, hclosed, ?_⟩
  have hrefusals : refusals [] state.history = 1 := by
    rw [State.history, hcalls]
    decide +kernel
  rw [hrefusals] at hbans
  exact hbans

end ZeroFeed.FrontDoor
