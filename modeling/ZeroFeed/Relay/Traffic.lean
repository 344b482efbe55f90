import ZeroFeed.Relay.Bans
import ZeroFeed.Relay.Passage

/-!
# Relayed traffic (`MessagesRelayedTotal`, `BytesTransferredTotal`)

`loopPublisher` counts a frame between reading it and forwarding it, and the frame
that closes a session not at all.  The counters are therefore what all sessions have
forwarded, with the frames in the hands of handlers and without those that are not
yet counted.
-/

namespace ZeroFeed.FrontDoor

open ZeroFeed.ByteString
open ZeroFeed.Messages
open ZeroFeed.Session
open ZeroFeed.Handlers (Handler Input Server Section Background handle)
open ZeroFeed.Isolation
open ZeroFeed.Passage
open ZeroFeed.Transition
open ZeroFeed.Census

/-! ## What the relay has forwarded -/

section Forwarded

variable (weight : Envelope → ℕ)

/-- The weight of a frame; a frame that closes the session has none. -/
def countedWeight (env : Envelope) : ℤ := if env.msgType = msgTypeClose then 0 else weight env

def load (frames : List Envelope) : ℤ := census (countedWeight weight) id frames

/-- The weight of all frames given to `ForwardFromPublisher`, over all sessions. -/
def forwardedTotal (srv : Server) : ℤ :=
  census (fun object : RelaySession => load weight object.forwarded) srv.objects
    (List.range srv.created)

/-- A frame that has been read and is not yet forwarded. -/
def inHand : Handler → ℤ
  | .forward _ env false => weight env
  | _ => 0

/-- Only the frame that closes the session ends the loop. -/
def Marked : Handler → Prop
  | .forward _ env last => last = decide (env.msgType = msgTypeClose)
  | _ => True

variable {weight} {srv srv' : Server} {conn : ℕ} {handler handler' : Handler} {input : Input}

theorem forwardedTotal_of_same (hcreated : srv'.created = srv.created)
    (hforwarded : ∀ session, (srv'.objects session).forwarded = (srv.objects session).forwarded) :
    forwardedTotal weight srv' = forwardedTotal weight srv := by
  rw [forwardedTotal, forwardedTotal, hcreated]
  apply census_congr
  intro session _
  rw [hforwarded]

theorem forwardedTotal_createSession (sessionID : SessionID) :
    forwardedTotal weight (srv.createSession sessionID) = forwardedTotal weight srv := by
  have hfresh : srv.created ∉ List.range srv.created := by simp
  change census _ (Function.update srv.objects srv.created (.new sessionID srv.now))
    (List.range (srv.created + 1)) = _
  rw [List.range_succ, census_append, census_update_of_notMem hfresh, census, census,
    Function.update_self]
  exact Int.add_zero _

theorem forwardedTotal_forward {session : ℕ} {env : Envelope} (hsession : session < srv.created) :
    forwardedTotal weight (srv.setObject session { srv.objects session with
      forwarded := (srv.objects session).forwarded ++ [env] }) =
        forwardedTotal weight srv + countedWeight weight env := by
  change census _ (Function.update srv.objects session _) (List.range srv.created) = _
  rw [census_update List.nodup_range (List.mem_range.mpr hsession)]
  have hload : load weight ((srv.objects session).forwarded ++ [env]) =
      load weight (srv.objects session).forwarded + countedWeight weight env := by
    rw [load, census_append]
    exact congrArg _ (Int.add_zero _)
  rw [hload, forwardedTotal]
  omega

/-- A section of a handler with nothing in hand that leaves the logs of the sessions
alone. -/
theorem forwardedTotal_of_kept (hnothing : inHand weight handler = 0)
    (hcreated : srv'.created = srv.created)
    (hforwarded : ∀ session, (srv'.objects session).forwarded = (srv.objects session).forwarded) :
    forwardedTotal weight srv' = forwardedTotal weight srv + inHand weight handler := by
  rw [hnothing, Int.add_zero, forwardedTotal_of_same hcreated hforwarded]

theorem sendFrame_created (publisher : ℕ) (transfer : Transfer) (written : Bool) :
    (srv.sendFrame publisher transfer written).created = srv.created := by
  rcases srv.sendFrame_cases publisher transfer written with hsame | ⟨client, -, hsent⟩
  · rw [hsame]
  · rw [hsent]
    rfl

/-- A section forwards what its handler had in hand. -/
theorem forwardedTotal_of_section (hvalid : ServerValid srv)
    (hhandler : HandlerValid srv conn handler) (hmarked : Marked handler)
    (hsection : Section conn srv input handler srv' handler') :
    forwardedTotal weight srv' = forwardedTotal weight srv + inHand weight handler := by
  cases hsection with
  | forward session env last =>
      obtain ⟨-, -, -, hsession, -⟩ := carries_of_registered hvalid hhandler.1
      rw [forwardedTotal_forward hsession]
      congr 1
      rw [show last = decide (env.msgType = msgTypeClose) from hmarked]
      by_cases hclose : env.msgType = msgTypeClose
      · rw [countedWeight, if_pos hclose, decide_eq_true hclose]
        rfl
      · rw [countedWeight, if_neg hclose, decide_eq_false hclose]
        rfl
  | fetchNew role env => exact (forwardedTotal_createSession env.sessionID).trans (by simp [inHand])
  | registerPublisher | registerSubscriber | greet | greetDone | leave =>
      exact forwardedTotal_of_kept rfl rfl (srv.setObject_congr RelaySession.forwarded rfl)
  | greetSend | announce | sendTo =>
      apply forwardedTotal_of_kept rfl (sendFrame_created _ _ _)
      intro session
      rw [Server.sendFrame_objects]
  | syncSend env publisher written =>
      have hobjects := srv.sendFrame_objects publisher ⟨conn, env⟩ written
      exact forwardedTotal_of_kept rfl (sendFrame_created publisher ⟨conn, env⟩ written)
        fun session => congrArg RelaySession.forwarded (congrFun hobjects session)
  | removeClose role session sessionID target =>
      exact forwardedTotal_of_kept rfl (srv.closeSession_created target)
        (closeSession_forwarded srv target)
  | _ => exact (Int.add_zero _).symm

theorem forwardedTotal_of_background {task : Handlers.Task}
    (hbackground : Background srv task srv') :
    forwardedTotal weight srv' = forwardedTotal weight srv := by
  cases hbackground with
  | removeSubscriber session conn =>
      have hobject : ((srv.objects session).removeSubscriber conn).forwarded =
          (srv.objects session).forwarded := rfl
      exact forwardedTotal_of_same rfl (srv.setObject_congr RelaySession.forwarded hobject)
  | sweepClose kind entry =>
      exact forwardedTotal_of_same (srv.closeSession_created entry.2)
        (closeSession_forwarded srv entry.2)
  | _ => rfl

theorem marked_of_loopPublisher {session : ℕ}
    (hhandle : handle srv conn (.loopPublisher session) input = some (srv', handler')) :
    Marked handler' := by
  cases input with
  | read frame =>
      cases frame with
      | none =>
          obtain ⟨-, rfl⟩ := Prod.mk.inj (Option.some.inj hhandle)
          trivial
      | some env =>
          simp only [handle, Handlers.handlePublisher] at hhandle
          split_ifs at hhandle
          · obtain ⟨-, rfl⟩ := Prod.mk.inj (Option.some.inj hhandle)
            trivial
          · obtain ⟨-, rfl⟩ := Prod.mk.inj (Option.some.inj hhandle)
            rfl
  | _ => cases hhandle

theorem marked_of_handle (hhandle : handle srv conn handler input = some (srv', handler')) :
    Marked handler' := by
  have hsection := Handlers.section_of_handle hhandle
  cases hsection with
  | publisherRead session env last => exact marked_of_loopPublisher hhandle
  | leave session next hnext => rcases hnext with rfl | rfl <;> trivial
  | _ => trivial

end Forwarded

section Relay

variable {relay relay' : Handlers.State}

def AllMarked (relay : Handlers.State) : Prop := ∀ conn, Marked (relay.handlers conn)

theorem marked_of_reaches (hreaches : Reaches Handlers.State.step Handlers.State.start relay) :
    AllMarked relay := by
  apply Reaches.invariant (fun _ => trivial) ?_ hreaches
  intro relay label relay' hmarked hstep conn
  cases label with
  | handler mover input =>
      obtain ⟨⟨server, handler⟩, hhandle, rfl⟩ := Option.map_eq_some_iff.mp hstep
      change Marked (Function.update relay.handlers mover handler conn)
      rw [Function.update_apply]
      split
      · exact marked_of_handle hhandle
      · exact hmarked conn
  | task task =>
      obtain ⟨server, -, rfl⟩ := Option.map_eq_some_iff.mp hstep
      exact hmarked conn

/-- A section of a handler adds the frame it has read. -/
theorem relayed_of_handler (weight : Envelope → ℕ) {conn : ℕ} {input : Input}
    {arrivals : List ℕ} (hvalid : WellFormed relay) (hmarked : Marked (relay.handlers conn))
    (hnodup : arrivals.Nodup) (hconn : conn ∈ arrivals)
    (hrelay : relay.step (.handler conn input) = some relay') :
    forwardedTotal weight relay'.server + census (inHand weight) relay'.handlers arrivals =
      forwardedTotal weight relay.server + census (inHand weight) relay.handlers arrivals +
        inHand weight (relay'.handlers conn) := by
  obtain ⟨⟨server, handler⟩, hhandle, rfl⟩ := Option.map_eq_some_iff.mp hrelay
  have htotal : forwardedTotal weight server =
      forwardedTotal weight relay.server + inHand weight (relay.handlers conn) :=
    forwardedTotal_of_section hvalid.server (hvalid.handlers conn) hmarked
      (Handlers.section_of_handle hhandle)
  change forwardedTotal weight server +
    census (inHand weight) (Function.update relay.handlers conn handler) arrivals = _ +
      inHand weight (Function.update relay.handlers conn handler conn)
  rw [htotal, census_update hnodup hconn, Function.update_self]
  omega

theorem relayed_of_task (weight : Envelope → ℕ) {task : Handlers.Task}
    (hrelay : relay.step (.task task) = some relay') :
    forwardedTotal weight relay'.server = forwardedTotal weight relay.server ∧
      relay'.handlers = relay.handlers := by
  obtain ⟨server, hperform, rfl⟩ := Option.map_eq_some_iff.mp hrelay
  exact ⟨forwardedTotal_of_background (Handlers.background_of_perform hperform), rfl⟩

/-- After the first frame of a connection, and if there is none, its handler holds no
frame for forwarding. -/
theorem inHand_of_accept {weight : Envelope → ℕ} {conn : ℕ} {frame : Option Envelope}
    (hrelay : relay.step (.handler conn (.accept frame)) = some relay') :
    inHand weight (relay'.handlers conn) = 0 := by
  obtain ⟨⟨server, handler⟩, hhandle, rfl⟩ := Option.map_eq_some_iff.mp hrelay
  change inHand weight (Function.update relay.handlers conn handler conn) = 0
  rw [Function.update_self]
  have hsection := Handlers.section_of_handle hhandle
  generalize relay.handlers conn = before at hhandle hsection
  cases hsection with
  | publisherRead => cases hhandle
  | leave session next hnext => rcases hnext with rfl | rfl <;> rfl
  | _ => rfl

end Relay

/-! ## The counters -/

variable {Failure : Type*}

/-- What a counter counts: a weight for each frame, what is still to be counted of the
frame a connection is busy with, and the counter. -/
structure Ledger (Failure : Type*) where
  weight : Envelope → ℕ
  owes : Point Failure → ℤ
  counter : Metrics → UInt64

def messages (Failure : Type*) : Ledger Failure where
  weight := fun _ => 1
  owes := fun point =>
    match point with
    | .relaying _ _ => 1
    | _ => 0
  counter := Metrics.messagesRelayedTotal

def bytes (Failure : Type*) : Ledger Failure where
  weight := fun env => env.payload.length
  owes := fun point =>
    match point with
    | .relaying _ env => env.payload.length
    | .transferring _ env => env.payload.length
    | _ => 0
  counter := Metrics.bytesTransferredTotal

/-- Busy with counting a frame. -/
def Point.busy : Point Failure → Bool
  | .relaying .. | .transferring .. => true
  | _ => false

namespace Ledger

variable (ledger : Ledger Failure)

/-- The weight of the frames that have been read for forwarding. -/
def relayed (state : State Failure) : ℤ :=
  forwardedTotal ledger.weight state.relay.server +
    census (inHand ledger.weight) state.relay.handlers state.arrivals

def owedBy : Option (Visitor Failure) → ℤ
  | none => 0
  | some visitor => ledger.owes visitor.point

/-- The weight of those that are still to be counted. -/
def owed (state : State Failure) : ℤ := census ledger.owedBy state.visitors state.arrivals

/-- The counter is up to date. -/
def Balances (state : State Failure) : Prop :=
  CountsTo (ledger.counter state.metrics) (ledger.relayed state - ledger.owed state)

/-- A frame is owed when it has been read, and counted by one of the two steps that
follow. -/
structure Sound : Prop where
  starts : ledger.counter ⟨0, 0, 0, 0, 0⟩ = 0
  reads : ∀ remoteAddr env, ledger.owes (.relaying remoteAddr env) = ledger.weight env
  free : ∀ point : Point Failure, point.busy = false → ledger.owes point = 0
  relays : ∀ metrics remoteAddr env total,
    CountsTo (ledger.counter metrics) (total - ledger.owes (.relaying remoteAddr env)) →
      CountsTo (ledger.counter { metrics with
        messagesRelayedTotal := metrics.messagesRelayedTotal + 1 })
          (total - ledger.owes (.transferring remoteAddr env))
  transfers : ∀ metrics remoteAddr env total,
    CountsTo (ledger.counter metrics) (total - ledger.owes (.transferring remoteAddr env)) →
      CountsTo (ledger.counter { metrics with
        bytesTransferredTotal :=
          metrics.bytesTransferredTotal + UInt64.ofNat env.payload.length }) total
  others : ∀ metrics metrics' : Metrics,
    metrics'.messagesRelayedTotal = metrics.messagesRelayedTotal →
    metrics'.bytesTransferredTotal = metrics.bytesTransferredTotal →
    ledger.counter metrics' = ledger.counter metrics

end Ledger

theorem sound_messages : (messages Failure).Sound where
  starts := rfl
  reads := fun _ _ => rfl
  free := by
    intro point hfree
    cases point with
    | relaying => cases hfree
    | _ => rfl
  relays := by
    intro metrics remoteAddr env total hcounts
    have hadd := CountsTo.add hcounts 1
    change CountsTo _ (total - 1 + 1) at hadd
    rw [Int.sub_add_cancel] at hadd
    exact (Int.sub_zero total).symm ▸ hadd
  transfers := by
    intro metrics remoteAddr env total hcounts
    exact (Int.sub_zero total) ▸ hcounts
  others := fun _ _ hmessages _ => hmessages

theorem sound_bytes : (bytes Failure).Sound where
  starts := rfl
  reads := fun _ _ => rfl
  free := by
    intro point hfree
    cases point with
    | relaying => cases hfree
    | transferring => cases hfree
    | _ => rfl
  relays := fun _ _ _ _ hcounts => hcounts
  transfers := by
    intro metrics remoteAddr env total hcounts
    have hadd := CountsTo.add hcounts env.payload.length
    change CountsTo _ (total - env.payload.length + env.payload.length) at hadd
    rw [Int.sub_add_cancel] at hadd
    exact hadd
  others := fun _ _ _ hbytes => hbytes

section Steps

variable {ledger : Ledger Failure} {state state' : State Failure} {conn : ℕ}
variable {visitor : Visitor Failure} {point : Point Failure}

theorem owed_of_move (hlisted : Listed state) (hvisitor : state.visitors conn = some visitor)
    (hmove : Move state conn visitor point state') :
    ledger.owed state' = ledger.owed state + (ledger.owes point - ledger.owes visitor.point) := by
  rw [Ledger.owed, Ledger.owed, hmove.arrivals, hmove.visitors,
    census_update hlisted.nodup (hlisted.mem hvisitor), hvisitor]
  rfl

theorem busy_afterFirst (remoteAddr : Bytes) (after : Handler) :
    (State.afterFirst remoteAddr after : Point Failure).busy = false := by
  unfold State.afterFirst
  split <;> rfl

/-- What a connection owes after a section is the frame its handler has read. -/
theorem owes_resume (hsound : ledger.Sound) (remoteAddr : Bytes) (after : Handler) :
    ledger.owes (State.resume remoteAddr after) = inHand ledger.weight after := by
  unfold State.resume
  split
  · exact hsound.free _ rfl
  · exact hsound.free _ rfl
  · exact hsound.reads _ _
  · rename_i hexited hunknown hforward
    rw [hsound.free _ rfl]
    unfold inHand
    split
    · rename_i session env
      exact absurd rfl (hforward session env)
    · rfl

/-- A step that calls the handler. -/
theorem balances_of_relay (hsettled : Settled state) (hmarked : Marked (state.relay.handlers conn))
    (hbalances : ledger.Balances state) (hvisitor : state.visitors conn = some visitor)
    (hmove : Move state conn visitor point state') {input : Input}
    (hrelay : state.relay.step (.handler conn input) = some state'.relay)
    (hmetrics : state'.metrics = state.metrics) (hbefore : ledger.owes visitor.point = 0)
    (hafter : ledger.owes point = inHand ledger.weight (state'.relay.handlers conn)) :
    ledger.Balances state' := by
  have hrelayed := relayed_of_handler ledger.weight hsettled.valid hmarked
    hsettled.listed.nodup (hsettled.listed.mem hvisitor) hrelay
  have htotal : ledger.relayed state' - ledger.owed state' =
      ledger.relayed state - ledger.owed state := by
    rw [owed_of_move hsettled.listed hvisitor hmove, hbefore, hafter, Ledger.relayed,
      hmove.arrivals, hrelayed, Ledger.relayed]
    omega
  rw [Ledger.Balances, hmetrics, htotal]
  exact hbalances

/-- A step that does not. -/
theorem balances_of_quiet (hlisted : Listed state) (hvisitor : state.visitors conn = some visitor)
    (hmove : Move state conn visitor point state') (hrelay : state'.relay = state.relay)
    (hcounts : CountsTo (ledger.counter state'.metrics)
      (ledger.relayed state - ledger.owed state + ledger.owes visitor.point -
        ledger.owes point)) :
    ledger.Balances state' := by
  have htotal : ledger.relayed state' - ledger.owed state' =
      ledger.relayed state - ledger.owed state + ledger.owes visitor.point -
        ledger.owes point := by
    rw [owed_of_move hlisted hvisitor hmove, Ledger.relayed, hmove.arrivals, hrelay,
      Ledger.relayed]
    omega
  rw [Ledger.Balances, htotal]
  exact hcounts

/-- A step that has nothing to do with a frame to be forwarded. -/
theorem balances_of_free (hsound : ledger.Sound) (hlisted : Listed state)
    (hbalances : ledger.Balances state) (hvisitor : state.visitors conn = some visitor)
    (hmove : Move state conn visitor point state') (hrelay : state'.relay = state.relay)
    (hmessages : state'.metrics.messagesRelayedTotal = state.metrics.messagesRelayedTotal)
    (hbytes : state'.metrics.bytesTransferredTotal = state.metrics.bytesTransferredTotal)
    (hbefore : visitor.point.busy = false) (hafter : point.busy = false) :
    ledger.Balances state' := by
  apply balances_of_quiet hlisted hvisitor hmove hrelay
  rw [hsound.free _ hbefore, hsound.free _ hafter, Int.add_zero, Int.sub_zero,
    hsound.others _ _ hmessages hbytes]
  exact hbalances

theorem balances_of_crossing (hsound : ledger.Sound) (hsettled : Settled state)
    (hmarked : AllMarked state.relay) (hbalances : ledger.Balances state)
    (hvisitor : state.visitors conn = some visitor)
    (hcrossing : Crossing state conn visitor point state') : ledger.Balances state' := by
  have hmove : Move state conn visitor point state' := .cross hcrossing
  have hfree := balances_of_free hsound hsettled.listed hbalances hvisitor hmove
  cases hcrossing with
  | turnAway relay hpoint hrelay =>
      refine balances_of_relay hsettled (hmarked conn) hbalances hvisitor hmove hrelay rfl ?_ ?_
      · rw [hpoint]
        exact hsound.free _ rfl
      · exact (hsound.free _ rfl).trans (inHand_of_accept hrelay).symm
  | findRoom hpoint | count hpoint | countOnly hpoint | measure hpoint | unmeasure hpoint =>
      exact hfree rfl rfl rfl (by rw [hpoint]; rfl) rfl
  | leave hpoint =>
      refine hfree rfl rfl rfl ?_ rfl
      rcases hpoint with hpoint | ⟨hpoint, -⟩ <;> rw [hpoint] <;> rfl

theorem balances_of_visit (hsound : ledger.Sound) (hsettled : Settled state)
    (hmarked : AllMarked state.relay) (hbalances : ledger.Balances state)
    (hvisitor : state.visitors conn = some visitor)
    (hvisit : Visit state conn visitor point state') : ledger.Balances state' := by
  have hmove : Move state conn visitor point state' := .visit hvisit
  have hfree := balances_of_free hsound hsettled.listed hbalances hvisitor hmove
  have hcalled : ∀ input, state.relay.step (.handler conn input) = some state'.relay →
      state'.metrics = state.metrics → visitor.point.busy = false →
      ledger.owes point = inHand ledger.weight (state'.relay.handlers conn) →
      ledger.Balances state' := fun input hrelay hmetrics hbefore =>
    balances_of_relay hsettled (hmarked conn) hbalances hvisitor hmove hrelay hmetrics
      (hsound.free _ hbefore)
  cases hvisit with
  | address _ hpoint hnext =>
      refine hfree rfl rfl rfl (by rw [hpoint]; rfl) ?_
      rcases hnext with rfl | ⟨source, remoteAddr, rfl⟩ <;> rfl
  | check now source remoteAddr _ hpoint hclock hnext =>
      refine hfree rfl rfl rfl (by rw [hpoint]; rfl) ?_
      rw [hnext]
      split <;> rfl
  | refuse hpoint => exact hfree rfl rfl rfl (by rw [hpoint]; rfl) rfl
  | reject _ source remoteAddr hpoint hnext =>
      refine hfree rfl rfl rfl (by rw [hpoint]; rfl) ?_
      rcases hnext with rfl | rfl <;> rfl
  | fail now remoteAddr malformed hangUp _ hpoint hclock hnext =>
      refine hfree rfl rfl rfl (by rw [hpoint]; rfl) ?_
      rw [hnext]
      split <;> rfl
  | drop hangUp _ hpoint hnext =>
      refine hfree rfl rfl rfl (by rw [hpoint]; rfl) ?_
      rw [hnext]
      split <;> rfl
  | accept relay source remoteAddr env hpoint hrelay =>
      refine hcalled _ hrelay rfl (by rw [hpoint]; rfl) ?_
      rw [hsound.free _ (busy_afterFirst _ _)]
      exact (inHand_of_accept hrelay).symm
  | close relay hpoint hrelay =>
      refine hcalled _ hrelay rfl (by rw [hpoint]; rfl) ?_
      exact (hsound.free _ rfl).trans (inHand_of_accept hrelay).symm
  | serve relay remoteAddr input hpoint hrelay =>
      exact hcalled _ hrelay rfl (by rw [hpoint]; rfl) (owes_resume hsound _ _)
  | relay remoteAddr env hpoint =>
      apply balances_of_quiet hsettled.listed hvisitor hmove rfl
      rw [hpoint]
      apply hsound.relays
      rw [Int.add_sub_cancel]
      exact hbalances
  | transfer remoteAddr env hpoint =>
      apply balances_of_quiet hsettled.listed hvisitor hmove rfl
      rw [hpoint, hsound.free (.serving remoteAddr) rfl, Int.sub_zero]
      apply hsound.transfers state.metrics remoteAddr env
      rw [Int.add_sub_cancel]
      exact hbalances

theorem balances_of_step (hsound : ledger.Sound) (hsettled : Settled state)
    (hmarked : AllMarked state.relay) (hbalances : ledger.Balances state)
    (hstep : Step state state') : ledger.Balances state' := by
  cases hstep with
  | move conn visitor point _ hvisitor hmove =>
      rcases hmove with hcrossing | hvisit
      · exact balances_of_crossing hsound hsettled hmarked hbalances hvisitor hcrossing
      · exact balances_of_visit hsound hsettled hmarked hbalances hvisitor hvisit
  | arrive conn arrival hnew =>
      have hfresh : conn ∉ state.arrivals := by
        rw [hsettled.listed.present, hnew]
        exact Bool.false_ne_true
      have hidle : state.relay.handlers conn = .idle := by
        apply hsettled.placed conn
        intro visitor hvisitor
        rw [hnew] at hvisitor
        cases hvisitor
      have hrelayed : ledger.relayed (state.enter conn arrival) = ledger.relayed state := by
        change forwardedTotal ledger.weight state.relay.server +
          census (inHand ledger.weight) state.relay.handlers (conn :: state.arrivals) = _
        rw [census, hidle, Ledger.relayed]
        exact congrArg _ (Int.zero_add _)
      have howed : ledger.owed (state.enter conn arrival) = ledger.owed state := by
        change census ledger.owedBy (Function.update state.visitors conn (some ⟨arrival, .arrived⟩))
          (conn :: state.arrivals) = _
        rw [census, Function.update_self, census_update_of_notMem hfresh, Ledger.owedBy,
          hsound.free _ rfl, Int.zero_add, Ledger.owed]
      rw [Ledger.Balances, hrelayed, howed]
      exact hbalances
  | background task relay hrelay =>
      obtain ⟨hforwarded, hhandlers⟩ := relayed_of_task ledger.weight hrelay
      have hrelayed : ledger.relayed (state.setRelay relay) = ledger.relayed state := by
        change forwardedTotal ledger.weight relay.server +
          census (inHand ledger.weight) relay.handlers state.arrivals = _
        rw [hforwarded, hhandlers]
        rfl
      rw [Ledger.Balances, hrelayed]
      exact hbalances
  | cleanup => exact hbalances

theorem balances_of_reaches (hsound : ledger.Sound) {config : Config Failure}
    (hreaches : Reaches (State.step config) (State.start config) state) :
    ledger.Balances state := by
  have hknown : ∀ state, Reaches (State.step config) (State.start config) state →
      Settled state ∧ AllMarked state.relay := fun _ hbefore =>
    ⟨settled_of_reaches hbefore, marked_of_reaches (relay_reaches hbefore)⟩
  refine Reaches.invariant_of_known hknown ?_ ?_ hreaches
  · change CountsTo (ledger.counter ⟨0, 0, 0, 0, 0⟩) 0
    rw [hsound.starts]
    rfl
  · intro state label state' hbefore hbalances hstep
    exact balances_of_step hsound hbefore.1 hbefore.2 hbalances (step_of_step hstep)

/-- In every interleaving `MessagesRelayedTotal` is the number of frames other than
`Close` that publishers have sent for forwarding, and `BytesTransferredTotal` that of
the bytes of their payloads, both modulo their width and without what is still to be
counted.  The frames are those all sessions have forwarded and those in the hands of
handlers; a `Close` is forwarded and not counted. -/
theorem traffic_counted {config : Config Failure}
    (hreaches : Reaches (State.step config) (State.start config) state) :
    CountsTo state.metrics.messagesRelayedTotal
        ((messages Failure).relayed state - (messages Failure).owed state) ∧
      CountsTo state.metrics.bytesTransferredTotal
        ((bytes Failure).relayed state - (bytes Failure).owed state) :=
  ⟨balances_of_reaches sound_messages hreaches, balances_of_reaches sound_bytes hreaches⟩

end Steps

/-- The wire bytes of a publisher's first frame. -/
def introduction : Bytes :=
  let frame := Handlers.bareFrame msgTypePAKEInitPub
  serializeHeader frame.version frame.msgType frame.sessionID frame.nonce frame.payload.length

theorem introduction_ne_nil : introduction ≠ [] := by
  apply List.ne_nil_of_length_pos
  rw [introduction, length_serializeHeader]
  decide

/-- A connection that begins with a publisher's frame. -/
def publishing : Arrival Unit where
  transport := .tcp
  remoteAddr := [0x61]
  stream := ⟨[introduction], .eof, by simp [introduction_ne_nil]⟩

/-- A publisher is registered, one of its frames is forwarded, and a second one is
counted as a message and not yet in bytes. -/
def publication : List (Label Unit) :=
  .arrive 0 publishing :: List.replicate 4 (.proceed 0) ++
    [.limit 0 1, .proceed 0, .serve 0 .proceed, .serve 0 .proceed, .serve 0 (.order []),
      .serve 0 .proceed,
      .serve 0 (.read (some { Handlers.bareFrame msgTypeDataStream with payload := [1, 2, 3] })),
      .proceed 0, .proceed 0, .serve 0 (.order []), .serve 0 .proceed,
      .serve 0 (.read (some { Handlers.bareFrame msgTypeDataStream with payload := [4, 5] })),
      .proceed 0]

theorem traffic_counted_publication : ∃ state : State Unit,
    state.metrics.messagesRelayedTotal = 2 ∧ state.metrics.bytesTransferredTotal = 3 ∧
      CountsTo 2 ((messages Unit).relayed state - (messages Unit).owed state) ∧
      CountsTo 3 ((bytes Unit).relayed state - (bytes Unit).owed state) ∧
      (bytes Unit).relayed state = 5 := by
  obtain ⟨state, hreaches, hend⟩ := exists_reaches_of_run
    (State.step ⟨false, true, id, ()⟩) (State.start ⟨false, true, id, ()⟩) publication
    (fun state => state.metrics.messagesRelayedTotal = 2 ∧
      state.metrics.bytesTransferredTotal = 3 ∧ (bytes Unit).relayed state = 5)
    (by decide +kernel)
  obtain ⟨hmessages, hbytes, hrelayed⟩ := of_decide_eq_true hend
  obtain ⟨hcounted, htransferred⟩ := traffic_counted hreaches
  rw [hmessages] at hcounted
  rw [hbytes] at htransferred
  exact ⟨state, hmessages, hbytes, hcounted, htransferred, hrelayed⟩

end ZeroFeed.FrontDoor
