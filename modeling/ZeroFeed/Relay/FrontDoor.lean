import ZeroFeed.Core.Census
import ZeroFeed.Relay.Isolation
import ZeroFeed.Relay.ProxyProto
import ZeroFeed.Relay.RateLimit

/-!
# From the listeners to the handlers (`pkg/relay/server.go`, `server_quic.go`)

A connection arrives over TCP, as an upgraded WebSocket or as a QUIC stream.  It is
admitted while `activeConns` is below the limit, counted, and served by
`handleConnection`, which finds the address of the client, asks the rate limiter and
reads the first frame; what the handler does from there on is the relay of
`Relay/Handlers.lean`.  When the handler returns, the counters go down again.

The goroutines of all connections run interleaved.  Every atomic counter and every
method of the limiter is a step of its own, so that a check and the action it guards
are two steps.
-/

namespace ZeroFeed.FrontDoor

open ZeroFeed.ByteString
open ZeroFeed.Messages
open ZeroFeed.Text
open ZeroFeed.ShortReads
open ZeroFeed.ProxyProto
open ZeroFeed.RateLimit
open ZeroFeed.Handlers (Handler Input Task)
open ZeroFeed.Transition
open ZeroFeed.Census

/-! ## Connections -/

def maxActiveConnections : ℤ := 10000

/-- How a connection reaches the relay.  A QUIC stream belongs to a connection with
an accept loop of its own. -/
inductive Transport where
  | tcp
  | webSocket
  | quic (connection : ℕ)
  deriving DecidableEq

namespace Transport

/-- One goroutine accepts, checks and counts the connections one after the other.
WebSocket upgrades are served by the goroutines of the HTTP server. -/
def serial : Transport → Bool
  | .webSocket => false
  | _ => true

/-- `handleQuicConn` leaves `metrics.ActiveConnections` alone. -/
def measured : Transport → Bool
  | .quic _ => false
  | _ => true

end Transport

/-- A connection: the text of its remote address and what can be read from it. -/
structure Arrival (Failure : Type*) where
  transport : Transport
  remoteAddr : Bytes
  stream : Segments Failure

/-- What the goroutine of a connection does next.  `failing` records a failure.  If
`malformed`, the frame is counted after that, and closed only then if `hangUp`;
otherwise the handler goes on. -/
inductive Point (Failure : Type*) where
  | arrived
  | admitted
  | counted
  | opened
  | checking (conn : Conn Failure) (remoteAddr : Bytes)
  | banned
  | reading (conn : Conn Failure) (remoteAddr : Bytes)
  | failing (remoteAddr : Bytes) (malformed hangUp : Bool)
  | dropping (hangUp : Bool)
  | closing
  | serving (remoteAddr : Bytes)
  | relaying (remoteAddr : Bytes) (env : Envelope)
  | transferring (remoteAddr : Bytes) (env : Envelope)
  | returned
  | leaving
  | gone

structure Visitor (Failure : Type*) extends Arrival Failure where
  point : Point Failure

/-- The flags of the relay, and how the parts of its environment print and fail:
`net.IP.String`, and the error for a PROXY header beyond the limit. -/
structure Config (Failure : Type*) where
  trustProxy : Bool
  rateLimiting : Bool
  ipString : Bytes → Bytes
  exceeds : Failure

section Address

variable {Failure : Type*} (config : Config Failure) (arrival : Arrival Failure)

/-- The text of a client's address. -/
def addrString : ClientAddr → Bytes
  | .remote => arrival.remoteAddr
  | .ipv4 ip port => config.ipString ip ++ colon :: decimal port
  | .ipv6 ip port => leftBracket :: config.ipString ip ++ rightBracket :: colon :: decimal port

/-- The connection and the address `handleConnection` goes on with, or nothing if
there is a PROXY header that cannot be read. -/
def clientOf : Option (Conn Failure × Bytes) :=
  if config.trustProxy then
    match parseProxyHeaderV2 config.exceeds arrival.stream with
    | (_, _, some _) => none
    | (conn, addr, none) => some (conn, addrString config arrival addr)
  else some (.bare arrival.stream, arrival.remoteAddr)

end Address

/-- `errors.Is(err, ErrUnsupportedVer)`. -/
def unsupportedVer {Failure : Type*} : Stream.DecodeError Failure → Bool
  | .frame (.unsupportedVer _) => true
  | _ => false

/-- `errors.Is(err, io.EOF)`; the error of a payload wraps that of its reader. -/
def isEOF {Failure : Type*} : Stream.DecodeError Failure → Bool
  | .header .eof => true
  | .payload _ .eof => true
  | _ => false

/-! ## The relay -/

/-- For the range of the signed counter see `counters_le_arrivals`; the unsigned ones
wrap. -/
structure Metrics where
  activeConnections : ℤ
  rateLimitBansTotal : UInt64
  malformedPacketsDroppedTotal : UInt64
  messagesRelayedTotal : UInt64
  bytesTransferredTotal : UInt64

structure State (Failure : Type*) where
  relay : Handlers.State
  limiter : RateLimiter
  /-- Its range is that of `counters_le_arrivals`. -/
  activeConns : ℤ
  metrics : Metrics
  visitors : ℕ → Option (Visitor Failure)
  /-- The accept loop has a connection in its hands. -/
  accepting : Transport → Bool
  clock : ℕ
  /-- Log: the connections that have arrived, the last one first. -/
  arrivals : List ℕ
  /-- Log: the connections that are admitted and not yet counted, and the largest
  number of them there has been. -/
  pending : ℤ
  peak : ℤ
  /-- Log: the calls on the limiter and the connections they were made for. -/
  calls : List (Option ℕ × Call)

inductive Label (Failure : Type*) where
  | arrive (conn : ℕ) (arrival : Arrival Failure)
  | proceed (conn : ℕ)
  | limit (conn now : ℕ)
  | serve (conn : ℕ) (input : Input)
  | background (task : Task)
  | cleanup (now : ℕ)

/-- The age at which the janitor drops a record. -/
def staleAge : ℤ := 15 * 60 * 1000000000

namespace State

variable {Failure : Type*} (config : Config Failure) (state : State Failure)

/-- `NewServer` with the flags set. -/
def start : State Failure where
  relay := .start
  limiter := { newRateLimiter with enabled := config.rateLimiting }
  activeConns := 0
  metrics := ⟨0, 0, 0, 0, 0⟩
  visitors := fun _ => none
  accepting := fun _ => false
  clock := 0
  arrivals := []
  pending := 0
  peak := 0
  calls := []

/-- A connection is accepted. -/
def enter (conn : ℕ) (arrival : Arrival Failure) : State Failure :=
  { state with
    visitors := Function.update state.visitors conn (some ⟨arrival, .arrived⟩)
    accepting := Function.update state.accepting arrival.transport arrival.transport.serial
    arrivals := conn :: state.arrivals }

def move (conn : ℕ) (visitor : Visitor Failure) (point : Point Failure) : State Failure :=
  { state with
    visitors := Function.update state.visitors conn (some { visitor with point := point }) }

/-- The accept loop turns to its next connection. -/
def release (transport : Transport) : State Failure :=
  { state with accepting := Function.update state.accepting transport false }

def setMetrics (metrics : Metrics) : State Failure := { state with metrics := metrics }

def setRelay (relay : Handlers.State) : State Failure := { state with relay := relay }

/-- A call on the limiter, after which it is the given one. -/
def setLimiter (limiter : RateLimiter) (caller : Option ℕ) (call : Call) : State Failure :=
  { state with
    limiter := limiter
    clock := call.now
    calls := state.calls ++ [(caller, call)] }

/-- Where a connection goes after a section of its handler: a `SyncReq` for an
unknown session is a failure, and a frame to be forwarded is counted first. -/
def resume (remoteAddr : Bytes) (after : Handler) : Point Failure :=
  match after with
  | .exited => .returned
  | .syncUnknown => .failing remoteAddr false false
  | .forward _ env false => .relaying remoteAddr env
  | _ => .serving remoteAddr

/-- The same after the first frame; the handler has returned if it is none of the
frames a connection may begin with. -/
def afterFirst (remoteAddr : Bytes) (after : Handler) : Point Failure :=
  match after with
  | .exited => .failing remoteAddr true false
  | _ => .serving remoteAddr

/-- The steps that take no input. -/
def proceed (conn : ℕ) (visitor : Visitor Failure) : Option (State Failure) :=
  let metrics := state.metrics
  match visitor.point with
  | .arrived =>
      if maxActiveConnections ≤ state.activeConns then
        (state.relay.step (.handler conn (.accept none))).map fun relay =>
          ((state.setRelay relay).move conn visitor .gone).release visitor.transport
      else
        some { state.move conn visitor .admitted with
          pending := state.pending + 1
          peak := max state.peak (state.pending + 1) }
  | .admitted =>
      let state := { state with
        activeConns := state.activeConns + 1
        pending := state.pending - 1 }
      if visitor.transport.measured then some (state.move conn visitor .counted)
      else some ((state.move conn visitor .opened).release visitor.transport)
  | .counted =>
      some (((state.setMetrics
        { metrics with activeConnections := metrics.activeConnections + 1 }).move conn visitor
          .opened).release visitor.transport)
  | .opened =>
      match clientOf config visitor.toArrival with
      | none => some (state.move conn visitor .closing)
      | some (source, remoteAddr) => some (state.move conn visitor (.checking source remoteAddr))
  | .banned =>
      some ((state.setMetrics
        { metrics with rateLimitBansTotal := metrics.rateLimitBansTotal + 1 }).move conn visitor
          .closing)
  | .reading source remoteAddr =>
      match source.decodeWithMax Envelope.maxHandshakePayload with
      | .ok env =>
          (state.relay.step (.handler conn (.accept (some env)))).map fun relay =>
            (state.setRelay relay).move conn visitor (afterFirst remoteAddr (relay.handlers conn))
      | .error err =>
          if unsupportedVer err ∨ isEOF err then some (state.move conn visitor .closing)
          else some (state.move conn visitor (.failing remoteAddr true true))
  | .dropping hangUp =>
      some ((state.setMetrics
        { metrics with
          malformedPacketsDroppedTotal := metrics.malformedPacketsDroppedTotal + 1 }).move conn
            visitor (if hangUp then .closing else .returned))
  | .closing =>
      (state.relay.step (.handler conn (.accept none))).map fun relay =>
        (state.setRelay relay).move conn visitor .returned
  | .relaying remoteAddr env =>
      some ((state.setMetrics
        { metrics with messagesRelayedTotal := metrics.messagesRelayedTotal + 1 }).move conn
          visitor (.transferring remoteAddr env))
  | .transferring remoteAddr env =>
      some ((state.setMetrics
        { metrics with
          bytesTransferredTotal :=
            metrics.bytesTransferredTotal + UInt64.ofNat env.payload.length }).move conn visitor
              (.serving remoteAddr))
  | .returned =>
      if visitor.transport.measured then
        some ((state.setMetrics
          { metrics with activeConnections := metrics.activeConnections - 1 }).move conn visitor
            .leaving)
      else some { state.move conn visitor .gone with activeConns := state.activeConns - 1 }
  | .leaving => some { state.move conn visitor .gone with activeConns := state.activeConns - 1 }
  | .checking _ _ | .failing _ _ _ | .serving _ | .gone => none

/-- The calls on the limiter. -/
def limit (conn now : ℕ) (visitor : Visitor Failure) : Option (State Failure) :=
  match visitor.point with
  | .checking source remoteAddr =>
      let (limiter, answer) := state.limiter.isBanned now remoteAddr
      some ((state.setLimiter limiter (some conn) ⟨now, .isBanned remoteAddr⟩).move conn visitor
        (if answer then .banned else .reading source remoteAddr))
  | .failing remoteAddr malformed hangUp =>
      some ((state.setLimiter (state.limiter.recordFailure now remoteAddr) (some conn)
        ⟨now, .recordFailure remoteAddr⟩).move conn visitor
          (if malformed then .dropping hangUp else .serving remoteAddr))
  | _ => none

/-- A section of the connection's handler. -/
def serve (conn : ℕ) (input : Input) (visitor : Visitor Failure) : Option (State Failure) :=
  match visitor.point with
  | .serving remoteAddr =>
      (state.relay.step (.handler conn input)).map fun relay =>
        (state.setRelay relay).move conn visitor (resume remoteAddr (relay.handlers conn))
  | _ => none

def step : Label Failure → Option (State Failure)
  | .arrive conn arrival =>
      if (state.visitors conn).isSome ∨ state.accepting arrival.transport = true then none
      else some (state.enter conn arrival)
  | .proceed conn => (state.visitors conn).bind (state.proceed config conn)
  | .limit conn now =>
      if now < state.clock then none else (state.visitors conn).bind (state.limit conn now)
  | .serve conn input => (state.visitors conn).bind (state.serve conn input)
  | .background task => (state.relay.step (.task task)).map state.setRelay
  | .cleanup now =>
      if now < state.clock then none
      else
        some (state.setLimiter (state.limiter.cleanupStale now staleAge) none
          ⟨now, .cleanupStale staleAge⟩)

end State

/-! ## What a step can do -/

section Steps

variable {Failure : Type*} (config : Config Failure) (state : State Failure)

/-- The steps of the goroutine of one connection on the way in and on the way out, and
where they lead. -/
inductive Crossing (conn : ℕ) (visitor : Visitor Failure) :
    Point Failure → State Failure → Prop where
  | turnAway (relay : Handlers.State) (hpoint : visitor.point = .arrived)
      (hrelay : state.relay.step (.handler conn (.accept none)) = some relay) :
      Crossing conn visitor .gone
        (((state.setRelay relay).move conn visitor .gone).release visitor.transport)
  | findRoom (hpoint : visitor.point = .arrived)
      (hroom : state.activeConns < maxActiveConnections) :
      Crossing conn visitor .admitted { state.move conn visitor .admitted with
        pending := state.pending + 1
        peak := max state.peak (state.pending + 1) }
  | count (hpoint : visitor.point = .admitted) (hmeasured : visitor.transport.measured = true) :
      Crossing conn visitor .counted (State.move { state with
        activeConns := state.activeConns + 1
        pending := state.pending - 1 } conn visitor .counted)
  | countOnly (hpoint : visitor.point = .admitted)
      (hmeasured : visitor.transport.measured = false) :
      Crossing conn visitor .opened ((State.move { state with
        activeConns := state.activeConns + 1
        pending := state.pending - 1 } conn visitor .opened).release visitor.transport)
  | measure (hpoint : visitor.point = .counted) :
      Crossing conn visitor .opened (((state.setMetrics { state.metrics with
        activeConnections := state.metrics.activeConnections + 1 }).move conn visitor
          .opened).release visitor.transport)
  | unmeasure (hpoint : visitor.point = .returned)
      (hmeasured : visitor.transport.measured = true) :
      Crossing conn visitor .leaving ((state.setMetrics { state.metrics with
        activeConnections := state.metrics.activeConnections - 1 }).move conn visitor .leaving)
  | leave (hpoint : visitor.point = .leaving ∨
        visitor.point = .returned ∧ visitor.transport.measured = false) :
      Crossing conn visitor .gone
        { state.move conn visitor .gone with activeConns := state.activeConns - 1 }

/-- The steps inside of `handleConnection`. -/
inductive Visit (conn : ℕ) (visitor : Visitor Failure) :
    Point Failure → State Failure → Prop where
  | address (point : Point Failure) (hpoint : visitor.point = .opened)
      (hnext : point = .closing ∨ ∃ source remoteAddr, point = .checking source remoteAddr) :
      Visit conn visitor point (state.move conn visitor point)
  | check (now : ℕ) (source : Conn Failure) (remoteAddr : Bytes) (point : Point Failure)
      (hpoint : visitor.point = .checking source remoteAddr) (hclock : state.clock ≤ now)
      (hnext : point = if (state.limiter.isBanned now remoteAddr).2 then .banned
        else .reading source remoteAddr) :
      Visit conn visitor point
        ((state.setLimiter (state.limiter.isBanned now remoteAddr).1 (some conn)
          ⟨now, .isBanned remoteAddr⟩).move conn visitor point)
  | refuse (hpoint : visitor.point = .banned) :
      Visit conn visitor .closing ((state.setMetrics { state.metrics with
        rateLimitBansTotal := state.metrics.rateLimitBansTotal + 1 }).move conn visitor .closing)
  | accept (relay : Handlers.State) (source : Conn Failure) (remoteAddr : Bytes) (env : Envelope)
      (hpoint : visitor.point = .reading source remoteAddr)
      (hrelay : state.relay.step (.handler conn (.accept (some env))) = some relay) :
      Visit conn visitor (State.afterFirst remoteAddr (relay.handlers conn))
        ((state.setRelay relay).move conn visitor
          (State.afterFirst remoteAddr (relay.handlers conn)))
  | reject (point : Point Failure) (source : Conn Failure) (remoteAddr : Bytes)
      (hpoint : visitor.point = .reading source remoteAddr)
      (hnext : point = .closing ∨ point = .failing remoteAddr true true) :
      Visit conn visitor point (state.move conn visitor point)
  | fail (now : ℕ) (remoteAddr : Bytes) (malformed hangUp : Bool) (point : Point Failure)
      (hpoint : visitor.point = .failing remoteAddr malformed hangUp)
      (hclock : state.clock ≤ now)
      (hnext : point = if malformed then .dropping hangUp else .serving remoteAddr) :
      Visit conn visitor point
        ((state.setLimiter (state.limiter.recordFailure now remoteAddr) (some conn)
          ⟨now, .recordFailure remoteAddr⟩).move conn visitor point)
  | drop (hangUp : Bool) (point : Point Failure) (hpoint : visitor.point = .dropping hangUp)
      (hnext : point = if hangUp then .closing else .returned) :
      Visit conn visitor point ((state.setMetrics { state.metrics with
        malformedPacketsDroppedTotal := state.metrics.malformedPacketsDroppedTotal + 1 }).move
          conn visitor point)
  | close (relay : Handlers.State) (hpoint : visitor.point = .closing)
      (hrelay : state.relay.step (.handler conn (.accept none)) = some relay) :
      Visit conn visitor .returned ((state.setRelay relay).move conn visitor .returned)
  | serve (relay : Handlers.State) (remoteAddr : Bytes) (input : Input)
      (hpoint : visitor.point = .serving remoteAddr)
      (hrelay : state.relay.step (.handler conn input) = some relay) :
      Visit conn visitor (State.resume remoteAddr (relay.handlers conn))
        ((state.setRelay relay).move conn visitor
          (State.resume remoteAddr (relay.handlers conn)))
  | relay (remoteAddr : Bytes) (env : Envelope)
      (hpoint : visitor.point = .relaying remoteAddr env) :
      Visit conn visitor (.transferring remoteAddr env) ((state.setMetrics { state.metrics with
        messagesRelayedTotal := state.metrics.messagesRelayedTotal + 1 }).move conn visitor
          (.transferring remoteAddr env))
  | transfer (remoteAddr : Bytes) (env : Envelope)
      (hpoint : visitor.point = .transferring remoteAddr env) :
      Visit conn visitor (.serving remoteAddr) ((state.setMetrics { state.metrics with
        bytesTransferredTotal := state.metrics.bytesTransferredTotal +
          UInt64.ofNat env.payload.length }).move conn visitor (.serving remoteAddr))

inductive Move (conn : ℕ) (visitor : Visitor Failure) (point : Point Failure)
    (state' : State Failure) : Prop where
  | cross (hcrossing : Crossing state conn visitor point state')
  | visit (hvisit : Visit state conn visitor point state')

/-- A step is one of a connection's goroutine, or the arrival of a connection, or one
of the relay's other goroutines, or one of the janitor. -/
inductive Step : State Failure → Prop where
  | arrive (conn : ℕ) (arrival : Arrival Failure) (hnew : state.visitors conn = none)
      (hfree : state.accepting arrival.transport = false) :
      Step (state.enter conn arrival)
  | move (conn : ℕ) (visitor : Visitor Failure) (point : Point Failure) (state' : State Failure)
      (hvisitor : state.visitors conn = some visitor)
      (hmove : Move state conn visitor point state') : Step state'
  | background (task : Task) (relay : Handlers.State)
      (hrelay : state.relay.step (.task task) = some relay) : Step (state.setRelay relay)
  | cleanup (now : ℕ) (hclock : state.clock ≤ now) :
      Step (state.setLimiter (state.limiter.cleanupStale now staleAge) none
        ⟨now, .cleanupStale staleAge⟩)

variable {config state} {state' : State Failure} {conn : ℕ} {visitor : Visitor Failure}

theorem move_of_proceed (hproceed : state.proceed config conn visitor = some state') :
    ∃ point, Move state conn visitor point state' := by
  unfold State.proceed at hproceed
  dsimp only at hproceed
  split at hproceed
  · rename_i hpoint
    split at hproceed
    · obtain ⟨relay, hrelay, rfl⟩ := Option.map_eq_some_iff.mp hproceed
      exact ⟨_, .cross (.turnAway relay hpoint hrelay)⟩
    · rename_i hroom
      cases hproceed
      exact ⟨_, .cross (.findRoom hpoint (not_le.mp hroom))⟩
  · rename_i hpoint
    split at hproceed
    · rename_i hmeasured
      cases hproceed
      exact ⟨_, .cross (.count hpoint hmeasured)⟩
    · rename_i hmeasured
      cases hproceed
      exact ⟨_, .cross (.countOnly hpoint (Bool.eq_false_of_not_eq_true hmeasured))⟩
  · rename_i hpoint
    cases hproceed
    exact ⟨_, .cross (.measure hpoint)⟩
  · rename_i hpoint
    split at hproceed
    · cases hproceed
      exact ⟨_, .visit (.address _ hpoint (.inl rfl))⟩
    · cases hproceed
      exact ⟨_, .visit (.address _ hpoint (.inr ⟨_, _, rfl⟩))⟩
  · rename_i hpoint
    cases hproceed
    exact ⟨_, .visit (.refuse hpoint)⟩
  · rename_i source remoteAddr hpoint
    split at hproceed
    · obtain ⟨relay, hrelay, rfl⟩ := Option.map_eq_some_iff.mp hproceed
      exact ⟨_, .visit (.accept relay source remoteAddr _ hpoint hrelay)⟩
    · split at hproceed
      · cases hproceed
        exact ⟨_, .visit (.reject _ source remoteAddr hpoint (.inl rfl))⟩
      · cases hproceed
        exact ⟨_, .visit (.reject _ source remoteAddr hpoint (.inr rfl))⟩
  · rename_i hangUp hpoint
    cases hproceed
    exact ⟨_, .visit (.drop hangUp _ hpoint rfl)⟩
  · rename_i hpoint
    obtain ⟨relay, hrelay, rfl⟩ := Option.map_eq_some_iff.mp hproceed
    exact ⟨_, .visit (.close relay hpoint hrelay)⟩
  · rename_i hpoint
    cases hproceed
    exact ⟨_, .visit (.relay _ _ hpoint)⟩
  · rename_i hpoint
    cases hproceed
    exact ⟨_, .visit (.transfer _ _ hpoint)⟩
  · rename_i hpoint
    split at hproceed
    · rename_i hmeasured
      cases hproceed
      exact ⟨_, .cross (.unmeasure hpoint hmeasured)⟩
    · rename_i hmeasured
      cases hproceed
      exact ⟨_, .cross (.leave (.inr ⟨hpoint, Bool.eq_false_of_not_eq_true hmeasured⟩))⟩
  · rename_i hpoint
    cases hproceed
    exact ⟨_, .cross (.leave (.inl hpoint))⟩
  all_goals cases hproceed

theorem move_of_limit {now : ℕ} (hclock : state.clock ≤ now)
    (hlimit : state.limit conn now visitor = some state') :
    ∃ point, Move state conn visitor point state' := by
  unfold State.limit at hlimit
  split at hlimit
  · rename_i source remoteAddr hpoint
    cases hlimit
    exact ⟨_, .visit (.check now source remoteAddr _ hpoint hclock rfl)⟩
  · rename_i remoteAddr malformed hangUp hpoint
    cases hlimit
    exact ⟨_, .visit (.fail now remoteAddr malformed hangUp _ hpoint hclock rfl)⟩
  · cases hlimit

theorem step_of_step {label : Label Failure} (hstep : state.step config label = some state') :
    Step state state' := by
  cases label with
  | arrive conn arrival =>
      simp only [State.step] at hstep
      split at hstep
      · cases hstep
      · rename_i hnew
        rw [not_or, Option.not_isSome_iff_eq_none, Bool.not_eq_true] at hnew
        cases hstep
        exact .arrive conn arrival hnew.1 hnew.2
  | proceed conn =>
      obtain ⟨visitor, hvisitor, hproceed⟩ := Option.bind_eq_some_iff.mp hstep
      obtain ⟨point, hmove⟩ := move_of_proceed hproceed
      exact .move conn visitor point _ hvisitor hmove
  | limit conn now =>
      simp only [State.step] at hstep
      split at hstep
      · cases hstep
      · rename_i hclock
        obtain ⟨visitor, hvisitor, hlimit⟩ := Option.bind_eq_some_iff.mp hstep
        obtain ⟨point, hmove⟩ := move_of_limit (not_lt.mp hclock) hlimit
        exact .move conn visitor point _ hvisitor hmove
  | serve conn input =>
      obtain ⟨visitor, hvisitor, hserve⟩ := Option.bind_eq_some_iff.mp hstep
      unfold State.serve at hserve
      split at hserve
      · rename_i remoteAddr hpoint
        obtain ⟨relay, hrelay, rfl⟩ := Option.map_eq_some_iff.mp hserve
        exact .move conn visitor _ _ hvisitor (.visit (.serve relay remoteAddr input hpoint hrelay))
      · cases hserve
  | background task =>
      obtain ⟨relay, hrelay, rfl⟩ := Option.map_eq_some_iff.mp hstep
      exact .background task relay hrelay
  | cleanup now =>
      simp only [State.step] at hstep
      split at hstep
      · cases hstep
      · rename_i hclock
        cases hstep
        exact .cleanup now (not_lt.mp hclock)

end Steps

/-! ## Who is where -/

section Places

variable {Failure : Type*}

/-- Inside `handleConnection`, or about to enter it or to count its end. -/
def Point.inside : Point Failure → Bool
  | .arrived | .admitted | .counted | .leaving | .gone => false
  | _ => true

def indicator (among : Visitor Failure → Bool) (visitor : Option (Visitor Failure)) : ℤ :=
  if visitor.any among then 1 else 0

/-- The number of connections of a kind. -/
def State.number (among : Visitor Failure → Bool) (state : State Failure) : ℤ :=
  census (indicator among) state.visitors state.arrivals

theorem indicator_some (among : Visitor Failure → Bool) (visitor : Visitor Failure) :
    indicator among (some visitor) = if among visitor then 1 else 0 := rfl

theorem inside_resume (remoteAddr : Bytes) (after : Handler) :
    (State.resume remoteAddr after : Point Failure).inside = true := by
  unfold State.resume
  split <;> rfl

theorem inside_afterFirst (remoteAddr : Bytes) (after : Handler) :
    (State.afterFirst remoteAddr after : Point Failure).inside = true := by
  unfold State.afterFirst
  split <;> rfl

variable {state state' : State Failure} {conn : ℕ} {visitor : Visitor Failure}
variable {point : Point Failure}

/-- A step of the goroutine of a connection moves that connection only. -/
theorem Move.visitors (hmove : Move state conn visitor point state') :
    state'.visitors =
      Function.update state.visitors conn (some { visitor with point := point }) := by
  rcases hmove with hcrossing | hvisit
  · cases hcrossing <;> rfl
  · cases hvisit <;> rfl

theorem Move.arrivals (hmove : Move state conn visitor point state') :
    state'.arrivals = state.arrivals := by
  rcases hmove with hcrossing | hvisit
  · cases hcrossing <;> rfl
  · cases hvisit <;> rfl

/-- The steps inside of `handleConnection` begin and end there. -/
theorem Visit.inside (hvisit : Visit state conn visitor point state') :
    visitor.point.inside = true ∧ point.inside = true := by
  cases hvisit with
  | address _ hpoint hnext =>
      refine ⟨by rw [hpoint]; rfl, ?_⟩
      rcases hnext with rfl | ⟨source, remoteAddr, rfl⟩ <;> rfl
  | check now source remoteAddr _ hpoint hclock hnext =>
      refine ⟨by rw [hpoint]; rfl, ?_⟩
      rw [hnext]
      split <;> rfl
  | accept relay source remoteAddr env hpoint =>
      exact ⟨by rw [hpoint]; rfl, inside_afterFirst _ _⟩
  | reject _ source remoteAddr hpoint hnext =>
      refine ⟨by rw [hpoint]; rfl, ?_⟩
      rcases hnext with rfl | rfl <;> rfl
  | fail now remoteAddr malformed hangUp _ hpoint hclock hnext =>
      refine ⟨by rw [hpoint]; rfl, ?_⟩
      rw [hnext]
      split <;> rfl
  | drop hangUp _ hpoint hnext =>
      refine ⟨by rw [hpoint]; rfl, ?_⟩
      rw [hnext]
      split <;> rfl
  | serve relay remoteAddr input hpoint => exact ⟨by rw [hpoint]; rfl, inside_resume _ _⟩
  | refuse hpoint | relay remoteAddr env hpoint | transfer remoteAddr env hpoint
  | close relay hpoint => exact ⟨by rw [hpoint]; rfl, rfl⟩

/-- The log of arrivals lists every connection once. -/
structure Listed (state : State Failure) : Prop where
  nodup : state.arrivals.Nodup
  present : ∀ conn, conn ∈ state.arrivals ↔ (state.visitors conn).isSome

theorem Listed.mem (hlisted : Listed state) (hvisitor : state.visitors conn = some visitor) :
    conn ∈ state.arrivals :=
  (hlisted.present conn).mpr (by rw [hvisitor]; rfl)

theorem Listed.of_step (hlisted : Listed state) (hstep : Step state state') : Listed state' := by
  cases hstep with
  | arrive conn arrival hnew =>
      have hfresh : conn ∉ state.arrivals := by
        rw [hlisted.present, hnew]
        exact Bool.false_ne_true
      refine ⟨List.nodup_cons.mpr ⟨hfresh, hlisted.nodup⟩, fun other => ?_⟩
      change other ∈ conn :: state.arrivals ↔
        (Function.update state.visitors conn (some ⟨arrival, .arrived⟩) other).isSome = true
      rw [List.mem_cons, hlisted.present, Function.update_apply]
      split <;> simp [*]
  | move conn visitor point _ hvisitor hmove =>
      refine ⟨hmove.arrivals ▸ hlisted.nodup, fun other => ?_⟩
      rw [hmove.arrivals, hmove.visitors, hlisted.present, Function.update_apply]
      split
      · rename_i hsame
        rw [hsame, hvisitor]
        exact Iff.rfl
      · exact Iff.rfl
  | background | cleanup => exact ⟨hlisted.nodup, hlisted.present⟩

theorem number_of_move (hlisted : Listed state) (hvisitor : state.visitors conn = some visitor)
    (hmove : Move state conn visitor point state') (among : Visitor Failure → Bool) :
    state'.number among = state.number among +
      (indicator among (some { visitor with point := point }) -
        indicator among (some visitor)) := by
  rw [State.number, State.number, hmove.arrivals, hmove.visitors,
    census_update hlisted.nodup (hlisted.mem hvisitor), hvisitor]

theorem number_of_arrive (hlisted : Listed state) (hnew : state.visitors conn = none)
    (arrival : Arrival Failure) (among : Visitor Failure → Bool) :
    (state.enter conn arrival).number among =
      indicator among (some ⟨arrival, .arrived⟩) + state.number among := by
  have hfresh : conn ∉ state.arrivals := by
    rw [hlisted.present, hnew]
    exact Bool.false_ne_true
  change census (indicator among)
    (Function.update state.visitors conn (some ⟨arrival, .arrived⟩)) (conn :: state.arrivals) = _
  rw [census, Function.update_self, census_update_of_notMem hfresh]
  rfl

/-- The relay behind the door makes a step of the connection's handler, or none. -/
theorem Move.relay (hmove : Move state conn visitor point state') :
    state'.relay = state.relay ∨
      ∃ input, state.relay.step (.handler conn input) = some state'.relay := by
  rcases hmove with hcrossing | hvisit
  · cases hcrossing with
    | turnAway relay hpoint hrelay => exact .inr ⟨_, hrelay⟩
    | _ => exact .inl rfl
  · cases hvisit with
    | accept relay source remoteAddr env hpoint hrelay => exact .inr ⟨_, hrelay⟩
    | close relay hpoint hrelay => exact .inr ⟨_, hrelay⟩
    | serve relay remoteAddr input hpoint hrelay => exact .inr ⟨_, hrelay⟩
    | _ => exact .inl rfl

theorem relay_of_step (hstep : Step state state') :
    state'.relay = state.relay ∨ ∃ label, state.relay.step label = some state'.relay := by
  cases hstep with
  | move conn visitor point _ hvisitor hmove =>
      rcases hmove.relay with hsame | ⟨input, hrelay⟩
      · exact .inl hsame
      · exact .inr ⟨_, hrelay⟩
  | background task relay hrelay => exact .inr ⟨_, hrelay⟩
  | arrive | cleanup => exact .inl rfl

/-- Behind the door the relay runs as it does without one. -/
theorem relay_reaches {config : Config Failure}
    (hreaches : Reaches (State.step config) (State.start config) state) :
    Reaches Handlers.State.step Handlers.State.start state.relay := by
  induction hreaches with
  | refl => exact .refl
  | tail _ hlast ih =>
      obtain ⟨label, hstep⟩ := hlast
      rcases relay_of_step (step_of_step hstep) with hsame | hrelay
      · rw [hsame]
        exact ih
      · exact ih.tail hrelay

end Places

end ZeroFeed.FrontDoor
