import Mathlib.Data.Fintype.Basic
import ZeroFeed.Core.RwLocking

/-!
# The locks of the relay (`pkg/relay`)

The relay has one lock for its session map, one for its rate limiter, one for each
session, and for each connection a lock for writing frames, the `sync.Once` that
closes it and, under a WebSocket, one lock for reading and one for writing.  The
functions goroutines run are written here as the lock operations they perform.
What decides between their branches (the frames that arrive, which session the map
holds, who is registered, which connection was closed before) is a parameter, so
that every path is covered.  Reads and writes on the network and on the queues of the
subscribers are taken to end.  For most of them a deadline sees to it; a WebSocket
answers a ping in the middle of `Read` with a write that has no deadline of its own,
and ends only when the peer reads or the connection is closed.

Locks are taken in one order.  The longest nest is in `removeSession`, which holds
the lock of the map and that of a session while it closes the clients; where
`handleConnection` writes to a new publisher, it holds the lock of the session and
takes two more.  No function reads a lock it reads already.  So the goroutines
never wait for each other in a circle (`relay_calls_return`).
-/

namespace ZeroFeed.RelayLocks

open ZeroFeed.Transition
open ZeroFeed.RwLocking

inductive Lock where
  | srvMu
  | limiterMu
  | sessionMu (session : ℕ)
  | writeMu (client : ℕ)
  | closeOnce (client : ℕ)
  | wsReadMu (client : ℕ)
  | wsWriteMu (client : ℕ)
  deriving DecidableEq

abbrev Code := Program Lock

/-- A connection: what it belongs to and what it runs over. -/
structure Client where
  id : ℕ
  publisher : Bool
  websocket : Bool

/-! ## Connections -/

namespace Client

variable (client : Client)

/-- `Write` of the connection. -/
def write : Code :=
  if client.websocket then guarded .write (.wsWriteMu client.id) [.work] else [.work]

/-- `Read` of the connection; a WebSocket may answer pings before there is data. -/
def read (pings : ℕ) : Code :=
  if client.websocket then
    guarded .write (.wsReadMu client.id)
      ((List.range pings).flatMap (fun _ => .work :: guarded .write (.wsWriteMu client.id) [.work])
        ++ [.work])
  else [.work]

/-- `protocol.Decode`, with the pings that each of its reads meets. -/
def decode (reads : List ℕ) : Code := reads.flatMap client.read

/-- A frame for a subscriber goes to its queue. -/
def sendFrame : Code :=
  if client.publisher then guarded .write (.writeMu client.id) client.write else [.work]

/-- A `sync.Once` that is done takes no lock. -/
def close (done : Bool) : Code :=
  if done then [] else guarded .write (.closeOnce client.id) [.work]

/-- `writeLoop`, and whether it ends with an error. -/
def writeLoop (frames : ℕ) (failed : Bool) (done : Bool) : Code :=
  (List.range frames).flatMap (fun _ => client.write) ++ if failed then client.close done else []

end Client

/-! ## Sessions -/

/-- A session that is closed, with the clients registered there. -/
structure Closing where
  session : ℕ
  clients : List (Client × Bool)

def isEmpty (session : ℕ) : Code := guarded .read (.sessionMu session) []

def isReapable (session : ℕ) : Code :=
  guarded .read (.sessionMu session) [] ++ isEmpty session

/-- The former publisher is closed once more if it is replaced. -/
def registerPublisher (session : ℕ) (former : Option (Client × Bool)) : Code :=
  guarded .write (.sessionMu session)
    (.work :: former.toList.flatMap fun (client, done) => client.close done)

def registerSubscriber (session : ℕ) : Code := guarded .write (.sessionMu session) []

def removeSubscriber (session : ℕ) (removed : Option (Client × Bool)) : Code :=
  guarded .write (.sessionMu session) [] ++
    removed.toList.flatMap fun (client, done) => client.close done

def forwardFromPublisher (session : ℕ) (subscribers : List Client) : Code :=
  guarded .read (.sessionMu session) [] ++
    (subscribers.flatMap Client.sendFrame ++ [.work])

def forwardToPublisher (session : ℕ) (publisher : Option Client) : Code :=
  guarded .read (.sessionMu session) [] ++ publisher.toList.flatMap Client.sendFrame

/-- `RelaySession.Close`. -/
def Closing.close (closing : Closing) : Code :=
  guarded .write (.sessionMu closing.session)
    (closing.clients.flatMap fun (client, done) => client.close done)

/-! ## The server -/

def getOrCreateSession : Code := guarded .write .srvMu []

def lookupSession : Code := guarded .read .srvMu []

def removeSession (found : Option Closing) : Code :=
  guarded .write .srvMu (found.toList.flatMap Closing.close)

def closeAll (sessions : List Closing) : Code :=
  guarded .write .srvMu (sessions.flatMap Closing.close)

/-- The sessions of the map, and which of them are reapable. -/
def reapStaleSessions (sessions : List (Closing × Bool)) : Code :=
  guarded .write .srvMu (sessions.flatMap fun (closing, reapable) =>
    isReapable closing.session ++ if reapable then closing.close else [])

/-- `IsBanned`, `RecordFailure`, `CleanupStale` or `SetEnabled`. -/
def limiter : Code := guarded .write .limiterMu []

/-- One round of `loopPublisher`: the reads of `Decode`, and the subscribers a frame
that is forwarded goes to. -/
structure PublisherRound where
  reads : List ℕ
  forwarded : Option (List Client)

def loopPublisher (session : ℕ) (client : Client) (rounds : List PublisherRound)
    (found : Option Closing) : Code :=
  rounds.flatMap (fun round => client.decode round.reads ++
      round.forwarded.toList.flatMap (forwardFromPublisher session)) ++
    removeSession found

/-- One round of `loopSubscriber`, and the publisher a frame that is forwarded goes
to. -/
structure SubscriberRound where
  reads : List ℕ
  forwarded : Option (Option Client)

def loopSubscriber (session : ℕ) (client : Client) (rounds : List SubscriberRound)
    (removed : Option (Client × Bool)) (found : Option (Option Closing)) : Code :=
  rounds.flatMap (fun round => client.decode round.reads ++
      round.forwarded.toList.flatMap (forwardToPublisher session)) ++
    (removeSubscriber session removed ++
      (guarded .read (.sessionMu session) [] ++ found.toList.flatMap removeSession))

/-- How `handleConnection` goes on after the ban check. -/
inductive First where
  | banned
  | unsupported (reads : List ℕ)
  | malformed (reads : List ℕ)
  | eof (reads : List ℕ)
  /-- `initial` are the subscribers whose first frame the publisher gets. -/
  | pakeInitPub (reads : List ℕ) (session : ℕ) (former : Option (Client × Bool))
      (initial : List Client) (rounds : List PublisherRound) (found : Option Closing)
  | duplicate (reads : List ℕ) (session : ℕ)
  | pakeInitSub (reads : List ℕ) (session : ℕ) (publisher : Option Client)
      (rounds : List SubscriberRound) (removed : Option (Client × Bool))
      (found : Option (Option Closing))
  /-- `forwarded` is the publisher if it is another connection. -/
  | syncReq (reads : List ℕ) (session : ℕ) (forwarded : Option (Option Client))
  | syncReqUnknown (reads : List ℕ)
  | other (reads : List ℕ)

def handleFirst (client : Client) : First → Code
  | .banned => [.work]
  | .unsupported reads => client.decode reads ++ client.write
  | .malformed reads => client.decode reads ++ limiter
  | .eof reads => client.decode reads
  | .pakeInitPub reads session former initial rounds found =>
      client.decode reads ++ (getOrCreateSession ++ (registerPublisher session former ++
        (guarded .read (.sessionMu session) (initial.flatMap fun _ => client.sendFrame) ++
          loopPublisher session client rounds found)))
  | .duplicate reads session =>
      client.decode reads ++ (getOrCreateSession ++ registerPublisher session none)
  | .pakeInitSub reads session publisher rounds removed found =>
      client.decode reads ++ (getOrCreateSession ++ (registerSubscriber session ++
        (guarded .read (.sessionMu session) [] ++ (publisher.toList.flatMap Client.sendFrame ++
          loopSubscriber session client rounds removed found))))
  | .syncReq reads session forwarded =>
      client.decode reads ++ (lookupSession ++ (guarded .read (.sessionMu session) [] ++
        forwarded.toList.flatMap (forwardToPublisher session)))
  | .syncReqUnknown reads => client.decode reads ++ (lookupSession ++ limiter)
  | .other reads => client.decode reads ++ limiter

/-- `proxy` are the reads of `ParseProxyHeaderV2`. -/
def handleConnection (client : Client) (proxy : List ℕ) (first : First) : Code :=
  guarded .read .srvMu [] ++ (client.decode proxy ++ (limiter ++ handleFirst client first))

/-- What goroutines of the relay run. -/
inductive Call where
  | handleConnection (client : Client) (proxy : List ℕ) (first : First)
  | writeLoop (client : Client) (frames : ℕ) (failed done : Bool)
  | removeSubscriber (session : ℕ) (removed : Option (Client × Bool))
  /-- A tick of the timer in `Start`. -/
  | cleanup (sessions : List (Closing × Bool))
  | closeAll (sessions : List Closing)
  | close (sessions : List Closing)
  /-- `Addr` or `SessionCount`. -/
  | inspect
  /-- The section of `Start`, of `StartQUIC` or of `SetTrustProxy`. -/
  | configure
  | setRateLimiting

def body : Call → Code
  | .handleConnection client proxy first => handleConnection client proxy first
  | .writeLoop client frames failed done => client.writeLoop frames failed done
  | .removeSubscriber session removed => removeSubscriber session removed
  | .cleanup sessions => limiter ++ reapStaleSessions sessions
  | .closeAll sessions => closeAll sessions
  | .close sessions => guarded .write .srvMu [.work] ++ closeAll sessions
  | .inspect => guarded .read .srvMu []
  | .configure => guarded .write .srvMu []
  | .setRateLimiting => limiter

/-! ## The order of the locks -/

def rank : Lock → ℕ
  | .srvMu | .limiterMu => 0
  | .sessionMu _ => 1
  | .writeMu _ | .closeOnce _ | .wsReadMu _ => 2
  | .wsWriteMu _ => 3

theorem rank_le (lock : Lock) : rank lock ≤ 3 := by
  cases lock <;> simp [rank]

/-- A section in which nothing else is taken. -/
theorem above_leaf {least : ℕ} {mode : Mode} {lock : Lock} (hleast : least ≤ rank lock) :
    Above rank least (guarded mode lock []) :=
  .guarded hleast .nil

section Connections

variable (client : Client)

theorem above_write : Above rank 3 client.write := by
  rw [Client.write]
  split_ifs
  · exact .guarded le_rfl .work
  · exact .work

theorem above_decode (reads : List ℕ) : Above rank 2 (client.decode reads) := by
  apply Above.flatMap
  intro pings _
  rw [Client.read]
  split_ifs
  · refine .guarded le_rfl (.append (.flatMap _ fun _ _ => ?_) .work)
    exact Above.work.append (.guarded le_rfl .work)
  · exact .work

theorem above_sendFrame : Above rank 2 client.sendFrame := by
  rw [Client.sendFrame]
  split_ifs
  · exact .guarded le_rfl (above_write client)
  · exact .work

theorem above_close (done : Bool) : Above rank 2 (client.close done) := by
  rw [Client.close]
  split_ifs
  · exact .nil
  · exact .guarded le_rfl .work

theorem above_writeLoop (frames : ℕ) (failed done : Bool) :
    Above rank 2 (client.writeLoop frames failed done) := by
  refine .append (.flatMap _ fun _ _ => (above_write client).weaken (Nat.le_succ 2)) ?_
  split_ifs
  · exact above_close client done
  · exact .nil

end Connections

section Sessions

variable (session : ℕ)

theorem above_closes (clients : List (Client × Bool)) :
    Above rank 2 (clients.flatMap fun (client, done) => client.close done) :=
  .flatMap _ fun entry _ => above_close entry.1 entry.2

theorem above_sends (clients : List Client) : Above rank 2 (clients.flatMap Client.sendFrame) :=
  .flatMap _ fun client _ => above_sendFrame client

theorem above_registerPublisher (former : Option (Client × Bool)) :
    Above rank 1 (registerPublisher session former) :=
  .guarded le_rfl (Above.work.append (above_closes _))

theorem above_removeSubscriber (removed : Option (Client × Bool)) :
    Above rank 1 (removeSubscriber session removed) :=
  .append (above_leaf le_rfl) ((above_closes _).weaken (Nat.le_succ 1))

theorem above_forwardFromPublisher (subscribers : List Client) :
    Above rank 1 (forwardFromPublisher session subscribers) :=
  .append (above_leaf le_rfl) (.append ((above_sends _).weaken (Nat.le_succ 1)) .work)

theorem above_forwardToPublisher (publisher : Option Client) :
    Above rank 1 (forwardToPublisher session publisher) :=
  .append (above_leaf le_rfl) ((above_sends _).weaken (Nat.le_succ 1))

theorem above_closing (closing : Closing) : Above rank 1 closing.close :=
  .guarded le_rfl (above_closes _)

end Sessions

section Server

theorem above_removeSession (found : Option Closing) : Above rank 0 (removeSession found) :=
  .guarded le_rfl (.flatMap _ fun closing _ => above_closing closing)

theorem above_closeAll (sessions : List Closing) : Above rank 0 (closeAll sessions) :=
  .guarded le_rfl (.flatMap _ fun closing _ => above_closing closing)

theorem above_reapStaleSessions (sessions : List (Closing × Bool)) :
    Above rank 0 (reapStaleSessions sessions) := by
  refine .guarded le_rfl (.flatMap _ fun entry _ => ?_)
  refine .append (.append (above_leaf le_rfl) (above_leaf le_rfl)) ?_
  split_ifs
  · exact above_closing entry.1
  · exact .nil

theorem above_loopPublisher (session : ℕ) (client : Client) (rounds : List PublisherRound)
    (found : Option Closing) : Above rank 0 (loopPublisher session client rounds found) := by
  refine .append (.flatMap _ fun round _ => ?_) (above_removeSession found)
  exact .append ((above_decode client _).weaken (Nat.zero_le 2))
    (.flatMap _ fun _ _ => (above_forwardFromPublisher session _).weaken (Nat.zero_le 1))

theorem above_loopSubscriber (session : ℕ) (client : Client) (rounds : List SubscriberRound)
    (removed : Option (Client × Bool)) (found : Option (Option Closing)) :
    Above rank 0 (loopSubscriber session client rounds removed found) := by
  refine .append (.flatMap _ fun round _ => ?_) ?_
  · exact .append ((above_decode client _).weaken (Nat.zero_le 2))
      (.flatMap _ fun _ _ => (above_forwardToPublisher session _).weaken (Nat.zero_le 1))
  · exact .append ((above_removeSubscriber session removed).weaken (Nat.zero_le 1))
      (.append (above_leaf (Nat.zero_le 1)) (.flatMap _ fun _ _ => above_removeSession _))

theorem above_handleFirst (client : Client) (first : First) :
    Above rank 0 (handleFirst client first) := by
  have hdecode : ∀ reads, Above rank 0 (client.decode reads) := fun reads =>
    (above_decode client reads).weaken (Nat.zero_le 2)
  have hleaf : ∀ mode lock, Above rank 0 (guarded mode lock []) := fun _ _ =>
    above_leaf (Nat.zero_le _)
  cases first with
  | banned => exact .work
  | unsupported reads => exact (hdecode reads).append ((above_write client).weaken (Nat.zero_le 3))
  | malformed reads => exact (hdecode reads).append (hleaf _ _)
  | eof reads => exact hdecode reads
  | pakeInitPub reads session former initial rounds found =>
      refine (hdecode reads).append ((hleaf _ _).append (.append
        ((above_registerPublisher session former).weaken (Nat.zero_le 1)) (.append ?_
          (above_loopPublisher session client rounds found))))
      exact .guarded (Nat.zero_le 1) (.flatMap _ fun _ _ => above_sendFrame client)
  | duplicate reads session =>
      exact (hdecode reads).append ((hleaf _ _).append
        ((above_registerPublisher session none).weaken (Nat.zero_le 1)))
  | pakeInitSub reads session publisher rounds removed found =>
      exact (hdecode reads).append ((hleaf _ _).append ((hleaf _ _).append ((hleaf _ _).append
        (((above_sends _).weaken (Nat.zero_le 2)).append
          (above_loopSubscriber session client rounds removed found)))))
  | syncReq reads session forwarded =>
      exact (hdecode reads).append ((hleaf _ _).append ((hleaf _ _).append
        (.flatMap _ fun _ _ => (above_forwardToPublisher session _).weaken (Nat.zero_le 1))))
  | syncReqUnknown reads => exact (hdecode reads).append ((hleaf _ _).append (hleaf _ _))
  | other reads => exact (hdecode reads).append (hleaf _ _)

theorem above_body (call : Call) : Above rank 0 (body call) := by
  have hleaf : ∀ mode lock, Above rank 0 (guarded mode lock []) := fun _ _ =>
    above_leaf (Nat.zero_le _)
  cases call with
  | handleConnection client proxy first =>
      exact (hleaf _ _).append (((above_decode client proxy).weaken (Nat.zero_le 2)).append
        ((hleaf _ _).append (above_handleFirst client first)))
  | writeLoop client frames failed done =>
      exact (above_writeLoop client frames failed done).weaken (Nat.zero_le 2)
  | removeSubscriber session removed =>
      exact (above_removeSubscriber session removed).weaken (Nat.zero_le 1)
  | cleanup sessions => exact (hleaf _ _).append (above_reapStaleSessions sessions)
  | closeAll sessions => exact above_closeAll sessions
  | close sessions => exact .append (.guarded le_rfl .work) (above_closeAll sessions)
  | inspect | configure | setRateLimiting => exact hleaf _ _

end Server

/-! ## Every call returns -/

section Progress

variable {Thread : Type*} [DecidableEq Thread]

/-- Whichever calls the goroutines of the relay make, one that waits for a lock waits
for a goroutine that can move, or for one that waits for such a goroutine, and so on.
If no further calls are made, every order of moves comes to an end after a bounded
number, and where no goroutine can move any more all of them have returned. -/
theorem relay_calls_return {state : State Thread Lock}
    (hreaches : Reaches (State.step · body) State.start state) :
    (∀ thread, state.program thread ≠ [] → ∃ other,
      Relation.ReflTransGen (WaitsFor state) thread other ∧ (state.move other).isSome) ∧
    ∀ threads : Finset Thread, (∀ thread, thread ∉ threads → state.program thread = []) →
      ∀ schedule state', State.moves schedule state = some state' →
        schedule.length ≤ ∑ thread ∈ threads, remaining state thread ∧
          ((∀ thread, state'.move thread = none) → ∀ thread, state'.program thread = []) := by
  have hconsistent : Consistent rank state :=
    consistent_of_reaches (fun call => (above_body call).disciplined) hreaches
  constructor
  · exact fun thread hprogram => exists_movable rank_le hconsistent hprogram
  · intro threads hidle schedule state' hmoves
    constructor
    · rw [← remaining_sum_of_moves schedule hconsistent hidle hmoves]
      exact Nat.le_add_right _ _
    · intro hstuck thread
      by_contra hprogram
      obtain ⟨other, -, hother⟩ := exists_movable rank_le
        (consistent_of_schedule schedule hconsistent hmoves) hprogram
      rw [hstuck other] at hother
      cases hother

/-- A publisher's handler reads a session whose subscriber's first frame it sends,
the relay shuts down and waits for that session, and its address is asked for. -/
def shutdown : List (Label (Fin 3) Call) :=
  .call 0 (.handleConnection ⟨0, true, false⟩ []
      (.pakeInitPub [0] 5 none [⟨1, false, false⟩] [] none)) ::
    List.replicate 14 (.move 0) ++
  .call 1 (.closeAll [⟨5, [(⟨0, true, false⟩, false)]⟩]) :: List.replicate 3 (.move 1) ++
  [.call 2 .inspect]

theorem relay_calls_return_shutdown : ∃ state : State (Fin 3) Lock,
    (state.owner .srvMu = some 1 ∧ state.readers (.sessionMu 5) = [0] ∧
      (state.move 2).isNone ∧ (state.move 1).isNone) ∧
    (∃ other, Relation.ReflTransGen (WaitsFor state) 2 other ∧ (state.move other).isSome) ∧
    ∀ schedule state', State.moves schedule state = some state' →
      schedule.length ≤ ∑ thread, remaining state thread ∧
        ((∀ thread, state'.move thread = none) → ∀ thread, state'.program thread = []) := by
  obtain ⟨state, hreaches, hend⟩ := exists_reaches_of_run (State.step · body) State.start shutdown
    (fun state => (state.owner .srvMu = some 1 ∧ state.readers (.sessionMu 5) = [0] ∧
      (state.move 2).isNone ∧ (state.move 1).isNone) ∧ (state.program 2).isEmpty = false)
    (by decide +kernel)
  obtain ⟨hwaits, hprogram⟩ := of_decide_eq_true hend
  obtain ⟨hchain, hreturn⟩ := relay_calls_return hreaches
  refine ⟨state, hwaits, hchain 2 ?_, ?_⟩
  · intro hnil
    rw [hnil] at hprogram
    cases hprogram
  · exact hreturn Finset.univ fun thread hthread => absurd (Finset.mem_univ thread) hthread

end Progress

end ZeroFeed.RelayLocks
