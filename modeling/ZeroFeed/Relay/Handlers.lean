import Mathlib.Data.List.AList
import ZeroFeed.Core.Threads
import ZeroFeed.Relay.Session

/-!
# Interleavings of the relay's goroutines (`pkg/relay/server.go`)

Every accepted connection is served by its own `handleConnection`.  A handler
is the program point it has reached with the values it holds; `handle` performs
the code up to the end of its next critical section, channel operation or
network operation.  The other goroutines are the writers of the subscribers,
the delayed closing of their sockets, the removals `ForwardFromPublisher`
starts when a send fails, and the sweeps over all sessions (`reapStaleSessions`
and `CloseAll`).  The order in which a Go map is iterated, the frames that
arrive, the outcome of a write and the case a `select` takes are inputs.

`srv.mu` is held over several steps by `removeSession` and by the sweeps, so its
state records who holds it and how far that goroutine has come.  Waiting for a
queue to drain only delays the next read and has no step of its own.
-/

namespace ZeroFeed.Handlers

open ZeroFeed.ByteString
open ZeroFeed.Messages
open ZeroFeed.Session
open ZeroFeed.Transition

abbrev Sessions := AList (fun _ : SessionID => ℕ)
abbrev Entry := Sigma (fun _ : SessionID => ℕ)

inductive Sweep where
  | reap
  | closeAll
  deriving DecidableEq

/-- How far a sweep has come with the first of the remaining entries. -/
inductive SweepStage where
  | next
  | age
  | close
  | erase
  deriving DecidableEq

/-- The holder of `srv.mu`.  The two middle states are those of
`removeSession`, called by the handler of `conn`: before and after the session
found under the identifier was closed. -/
inductive ServerLock where
  | free
  | closing (conn : ℕ) (sessionID : SessionID) (target : ℕ)
  | erasing (conn : ℕ) (sessionID : SessionID) (target : ℕ)
  | sweeping (kind : Sweep) (stage : SweepStage) (rest : List Entry)
  deriving DecidableEq

/-- Session objects are numbered in the order of their creation; `objects` is
meaningful below `created`. -/
structure Server where
  sessions : Sessions
  objects : ℕ → RelaySession
  created : ℕ
  clients : ℕ → Option ClientConn
  netClosed : ℕ → Bool
  srvMu : ServerLock
  /-- An `atomic.Int64` and an `atomic.Uint64`.  A run of fewer than `2 ^ 63` steps
  does not wrap them (`Accounting.counters_within`). -/
  activeSessions : ℤ
  sessionsCreatedTotal : ℕ
  now : ℤ
  /-- Calls of `RemoveSubscriber` started by `ForwardFromPublisher`. -/
  removals : List (ℕ × ℕ)
  /-- Subscribers such a call has taken out of the map and not yet closed. -/
  removed : List ℕ
  /-- Log: the frames read from each connection. -/
  received : ℕ → List Envelope

namespace Server

variable (srv : Server)

/-- `NewServer`. -/
def new : Server where
  sessions := ∅
  objects := fun _ => RelaySession.new ⟨List.replicate sessionIDSize 0, rfl⟩ 0
  created := 0
  clients := fun _ => none
  netClosed := fun _ => false
  srvMu := .free
  activeSessions := 0
  sessionsCreatedTotal := 0
  now := 0
  removals := []
  removed := []
  received := fun _ => []

/-- `ClientConn.IsClosed`. -/
def isClosed (conn : ℕ) : Bool := (srv.clients conn).any ClientConn.done

def lookupSession (sessionID : SessionID) : Option ℕ := srv.sessions.lookup sessionID

def receive (conn : ℕ) (env : Envelope) : Server :=
  { srv with received := Function.update srv.received conn (srv.received conn ++ [env]) }

def closeNet (conn : ℕ) : Server :=
  { srv with netClosed := Function.update srv.netClosed conn true }

def setClient (conn : ℕ) (client : ClientConn) : Server :=
  { srv with clients := Function.update srv.clients conn (some client) }

def setObject (session : ℕ) (object : RelaySession) : Server :=
  { srv with objects := Function.update srv.objects session object }

/-- `ClientConn.Close` on several clients: the socket of a publisher is closed
at once, that of a subscriber some time later. -/
def closeClients (conns : List ℕ) : Server :=
  { srv with
    clients := fun conn =>
      if conn ∈ conns then (srv.clients conn).map ClientConn.close else srv.clients conn
    netClosed := fun conn =>
      srv.netClosed conn ||
        (decide (conn ∈ conns) && (srv.clients conn).any (·.role = .publisher)) }

/-- `RelaySession.Close`. -/
def closeSession (session : ℕ) : Server :=
  if (srv.objects session).closed then srv
  else (srv.closeClients (srv.objects session).members).setObject session
    (srv.objects session).close

/-- The branch of `getOrCreateSession` that finds no session. -/
def createSession (sessionID : SessionID) : Server :=
  { srv with
    sessions := srv.sessions.insert sessionID srv.created
    objects := Function.update srv.objects srv.created (.new sessionID srv.now)
    created := srv.created + 1
    activeSessions := srv.activeSessions + 1
    sessionsCreatedTotal := srv.sessionsCreatedTotal + 1 }

/-- No handler is inside a read section of the session's `mu`. -/
def writable (session : ℕ) : Bool := (srv.objects session).readers == 0

/-- A publisher's `SendFrame`. -/
def sendFrame (publisher : ℕ) (transfer : Transfer) (written : Bool) : Server :=
  match srv.clients publisher with
  | some client =>
      if written && !srv.netClosed publisher then
        srv.setClient publisher (client.accept transfer)
      else srv
  | none => srv

@[simp]
theorem setClient_clients (conn : ℕ) (client : ClientConn) :
    (srv.setClient conn client).clients = Function.update srv.clients conn (some client) := rfl

@[simp]
theorem setClient_objects (conn : ℕ) (client : ClientConn) :
    (srv.setClient conn client).objects = srv.objects := rfl

@[simp]
theorem setObject_clients (session : ℕ) (object : RelaySession) :
    (srv.setObject session object).clients = srv.clients := rfl

@[simp]
theorem setObject_objects (session : ℕ) (object : RelaySession) :
    (srv.setObject session object).objects = Function.update srv.objects session object := rfl

/-- A session that gets a new value related to its old one leaves every session
related to itself. -/
theorem setObject_related (relation : RelaySession → RelaySession → Prop)
    (hrefl : ∀ object, relation object object) {session : ℕ} {object : RelaySession}
    (hobject : relation (srv.objects session) object) (other : ℕ) :
    relation (srv.objects other) ((srv.setObject session object).objects other) := by
  by_cases hother : other = session
  · subst hother
    simpa using hobject
  · simpa [hother] using hrefl (srv.objects other)

theorem setObject_congr {Value : Type*} (field : RelaySession → Value) {session : ℕ}
    {object : RelaySession} (hfield : field object = field (srv.objects session)) (other : ℕ) :
    field ((srv.setObject session object).objects other) = field (srv.objects other) :=
  srv.setObject_related (fun before after => field after = field before) (fun _ => rfl) hfield
    other

theorem lookupSession_createSession (sessionID other : SessionID) :
    (srv.createSession sessionID).lookupSession other =
      if other = sessionID then some srv.created else srv.lookupSession other := by
  rw [lookupSession, createSession]
  split
  · rename_i hsame
    rw [hsame, AList.lookup_insert]
  · rename_i hother
    rw [AList.lookup_insert_ne hother, lookupSession]

theorem lookupSession_erase {srv srv' : Server} {sessionID : SessionID}
    (hsessions : srv'.sessions = srv.sessions.erase sessionID) (other : SessionID) :
    srv'.lookupSession other =
      if other = sessionID then none else srv.lookupSession other := by
  rw [lookupSession, hsessions]
  split
  · rename_i hsame
    rw [hsame, AList.lookup_erase]
  · rename_i hother
    rw [AList.lookup_erase_ne hother, lookupSession]

/-- A send changes at most the log of the publisher. -/
theorem sendFrame_cases (publisher : ℕ) (transfer : Transfer) (written : Bool) :
    srv.sendFrame publisher transfer written = srv ∨
      ∃ client, srv.clients publisher = some client ∧
        srv.sendFrame publisher transfer written =
          srv.setClient publisher (client.accept transfer) := by
  rw [sendFrame]
  split
  · rename_i client hclient
    split
    · exact .inr ⟨client, hclient, rfl⟩
    · exact .inl rfl
  · exact .inl rfl

@[simp]
theorem sendFrame_received (publisher : ℕ) (transfer : Transfer) (written : Bool) :
    (srv.sendFrame publisher transfer written).received = srv.received := by
  rcases srv.sendFrame_cases publisher transfer written with hsame | ⟨client, -, hsent⟩
  · rw [hsame]
  · rw [hsent]
    rfl

@[simp]
theorem sendFrame_objects (publisher : ℕ) (transfer : Transfer) (written : Bool) :
    (srv.sendFrame publisher transfer written).objects = srv.objects := by
  rcases srv.sendFrame_cases publisher transfer written with hsame | ⟨client, -, hsent⟩
  · rw [hsame]
  · rw [hsent]
    rfl

@[simp]
theorem sendFrame_removed (publisher : ℕ) (transfer : Transfer) (written : Bool) :
    (srv.sendFrame publisher transfer written).removed = srv.removed := by
  rcases srv.sendFrame_cases publisher transfer written with hsame | ⟨client, -, hsent⟩
  · rw [hsame]
  · rw [hsent]
    rfl

@[simp]
theorem closeSession_removed (session : ℕ) :
    (srv.closeSession session).removed = srv.removed := by
  rw [closeSession]
  split <;> rfl

@[simp]
theorem closeSession_received (session : ℕ) :
    (srv.closeSession session).received = srv.received := by
  rw [closeSession]
  split <;> rfl

@[simp]
theorem closeSession_lookupSession (session : ℕ) (sessionID : SessionID) :
    (srv.closeSession session).lookupSession sessionID = srv.lookupSession sessionID := by
  rw [closeSession]
  split <;> rfl

@[simp]
theorem closeSession_created (session : ℕ) :
    (srv.closeSession session).created = srv.created := by
  rw [closeSession]
  split <;> rfl

theorem closeSession_objects_of_ne {session other : ℕ} (hother : other ≠ session) :
    (srv.closeSession session).objects other = srv.objects other := by
  rw [closeSession]
  split
  · rfl
  · exact Function.update_of_ne hother _ _

theorem closeSession_objects_self (session : ℕ) :
    (srv.closeSession session).objects session = (srv.objects session).close := by
  rw [closeSession]
  split
  · rename_i hclosed
    rw [RelaySession.close, if_pos hclosed]
  · exact Function.update_self _ _ _

/-- A socket that is closed stays closed. -/
theorem netClosed_closeNet {conn : ℕ} (hclosed : srv.netClosed conn = true) (other : ℕ) :
    (srv.closeNet other).netClosed conn = true := by
  simp [closeNet, Function.update_apply, hclosed]

theorem netClosed_closeClients {conn : ℕ} (hclosed : srv.netClosed conn = true)
    (conns : List ℕ) : (srv.closeClients conns).netClosed conn = true := by
  simp [closeClients, hclosed]

theorem netClosed_closeSession {conn : ℕ} (hclosed : srv.netClosed conn = true)
    (session : ℕ) : (srv.closeSession session).netClosed conn = true := by
  rw [closeSession]
  split
  · exact hclosed
  · exact srv.netClosed_closeClients hclosed _

@[simp]
theorem sendFrame_netClosed (publisher : ℕ) (transfer : Transfer) (written : Bool) :
    (srv.sendFrame publisher transfer written).netClosed = srv.netClosed := by
  rcases srv.sendFrame_cases publisher transfer written with hsame | ⟨client, -, hsent⟩
  · rw [hsame]
  · rw [hsent]
    rfl

end Server

/-! ## Handlers -/

/-- The program points of `handleConnection` and its callees.  `removing` is
inside `removeSession` with `srv.mu` held. -/
inductive Handler where
  | idle
  | fetch (role : Role) (env : Envelope)
  | register (role : Role) (env : Envelope) (session : ℕ)
  | greet (session : ℕ)
  | greeting (session : ℕ) (rest : List ℕ)
  | findPublisher (env : Envelope) (session : ℕ)
  | announce (env : Envelope) (session publisher : ℕ)
  | loopPublisher (session : ℕ)
  | forward (session : ℕ) (env : Envelope) (last : Bool)
  | forwarding (session : ℕ) (env : Envelope) (last : Bool) (rest : List ℕ)
  | loopSubscriber (session : ℕ)
  | forwardTo (session : ℕ) (env : Envelope)
  | sendTo (session : ℕ) (env : Envelope) (publisher : ℕ)
  | leave (session : ℕ)
  | hangUp (session : ℕ)
  | testEmpty (session : ℕ)
  | remove (role : Role) (session : ℕ)
  | removing (role : Role) (session : ℕ)
  | syncLookup (env : Envelope)
  | syncUnknown
  | syncRead (env : Envelope) (session : ℕ)
  | syncForward (env : Envelope) (session : ℕ)
  | syncSend (env : Envelope) (publisher : ℕ)
  | exited
  deriving DecidableEq

/-- What the environment contributes to a handler's step.  The first frame is
missing if the connection was refused or the frame could not be decoded. -/
inductive Input where
  | accept (first : Option Envelope)
  | proceed
  | order (conns : List ℕ)
  | read (frame : Option Envelope)
  | send (written : Bool)
  | enqueue
  | sawDone
  | timedOut
  deriving DecidableEq

section Handle

variable (srv : Server) (conn : ℕ)

/-- `handleConnection` up to the registration. -/
def handleFirst : Handler → Input → Option (Server × Handler)
  | .idle, .accept none => some (srv.closeNet conn, .exited)
  | .idle, .accept (some env) =>
      let srv := srv.receive conn env
      if env.msgType = msgTypePAKEInitPub then some (srv, .fetch .publisher env)
      else if env.msgType = msgTypePAKEInitSub then some (srv, .fetch .subscriber env)
      else if env.msgType = msgTypeSyncReq then some (srv, .syncLookup env)
      else some (srv.closeNet conn, .exited)
  | .fetch role env, .proceed =>
      if srv.srvMu = .free then
        match srv.lookupSession env.sessionID with
        | some session => some (srv, .register role env session)
        | none => some (srv.createSession env.sessionID, .register role env srv.created)
      else none
  | .register .publisher env session, .proceed =>
      if srv.writable session then
        match (srv.objects session).registerPublisher srv.isClosed conn with
        | none => some (srv.closeNet conn, .exited)
        | some object =>
            some ((srv.setObject session object).setClient conn
              (.new .publisher env session object.forwarded.length), .greet session)
      else none
  | .register .subscriber env session, .proceed =>
      if srv.writable session then
        let object := (srv.objects session).registerSubscriber conn
        some ((srv.setObject session object).setClient conn
          (.new .subscriber env session object.forwarded.length), .findPublisher env session)
      else none
  | _, _ => none

/-- A registered publisher: the initial frames of the subscribers that came
first, then `loopPublisher`. -/
def handlePublisher : Handler → Input → Option (Server × Handler)
  | .greet session, .order conns =>
      let object := srv.objects session
      if conns.Perm object.subscribers then
        some (srv.setObject session { object with readers := object.readers + 1 },
          .greeting session conns)
      else none
  | .greeting session [], .proceed =>
      let object := srv.objects session
      some (srv.setObject session { object with readers := object.readers - 1 },
        .loopPublisher session)
  | .greeting session (subscriber :: rest), .send written =>
      match srv.clients subscriber with
      | none => none
      | some client =>
          some (srv.sendFrame conn ⟨subscriber, client.initialEnv⟩ written,
            .greeting session rest)
  | .loopPublisher session, .read none => some (srv, .remove .publisher session)
  | .loopPublisher session, .read (some env) =>
      if env.msgType = msgTypeHeartbeat then
        some (srv.receive conn env, .loopPublisher session)
      else
        some (srv.receive conn env,
          .forward session env (decide (env.msgType = msgTypeClose)))
  | .forward session env last, .order conns =>
      let object := srv.objects session
      if conns.Perm object.subscribers then
        some (srv.setObject session { object with forwarded := object.forwarded ++ [env] },
          .forwarding session env last conns)
      else none
  | .forwarding session _ last [], .proceed =>
      some (srv, if last then .remove .publisher session else .loopPublisher session)
  | .forwarding session env last (subscriber :: rest), .enqueue =>
      match srv.clients subscriber with
      | none => none
      | some client =>
          if client.sendCh.length < subscriberQueueSize then
            some (srv.setClient subscriber (client.enqueue ⟨conn, env⟩),
              .forwarding session env last rest)
          else none
  | .forwarding session env last (subscriber :: rest), .sawDone =>
      if srv.isClosed subscriber then
        some ({ srv with removals := srv.removals ++ [(session, subscriber)] },
          .forwarding session env last rest)
      else none
  | .forwarding session env last (subscriber :: rest), .timedOut =>
      some ({ srv with removals := srv.removals ++ [(session, subscriber)] },
        .forwarding session env last rest)
  | _, _ => none

/-- A registered subscriber: its initial frame goes to the publisher that came
first, then `loopSubscriber`. -/
def handleSubscriber : Handler → Input → Option (Server × Handler)
  | .findPublisher env session, .proceed =>
      match (srv.objects session).publisher with
      | none => some (srv, .loopSubscriber session)
      | some publisher => some (srv, .announce env session publisher)
  | .announce env session publisher, .send written =>
      some (srv.sendFrame publisher ⟨conn, env⟩ written, .loopSubscriber session)
  | .loopSubscriber session, .read none => some (srv, .leave session)
  | .loopSubscriber session, .read (some env) =>
      if env.msgType = msgTypeSyncReq ∨ env.msgType = msgTypeKeyConfirm ∨
          env.msgType = msgTypeChunkAck then
        some (srv.receive conn env, .forwardTo session env)
      else some (srv.receive conn env, .loopSubscriber session)
  | .forwardTo session env, .proceed =>
      match (srv.objects session).publisher with
      | none => some (srv, .loopSubscriber session)
      | some publisher => some (srv, .sendTo session env publisher)
  | .sendTo session env publisher, .send written =>
      some (srv.sendFrame publisher ⟨conn, env⟩ written, .loopSubscriber session)
  | .leave session, .proceed =>
      if srv.writable session then
        let object := srv.objects session
        some (srv.setObject session (object.removeSubscriber conn),
          if conn ∈ object.subscribers then .hangUp session else .testEmpty session)
      else none
  | .hangUp session, .proceed => some (srv.closeClients [conn], .testEmpty session)
  | .testEmpty session, .proceed =>
      let object := srv.objects session
      some (srv, if object.publisher = none ∧ object.subscribers = [] then
        .remove .subscriber session else .exited)
  | _, _ => none

/-- `removeSession`, called with the identifier of the handler's own session. -/
def handleRemoval : Handler → Input → Option (Server × Handler)
  | .remove role session, .proceed =>
      let sessionID := (srv.objects session).sessionID
      if srv.srvMu = .free then
        match srv.lookupSession sessionID with
        | none => some (srv, .exited)
        | some target =>
            some ({ srv with srvMu := .closing conn sessionID target },
              .removing role session)
      else none
  | .removing role session, .proceed =>
      match srv.srvMu with
      | .closing owner sessionID target =>
          if owner = conn ∧ srv.writable target then
            some ({ srv.closeSession target with srvMu := .erasing conn sessionID target },
              .removing role session)
          else none
      | .erasing owner sessionID _ =>
          if owner = conn then
            some ({ srv with
              sessions := srv.sessions.erase sessionID
              activeSessions := srv.activeSessions - 1
              srvMu := .free }, .exited)
          else none
      | _ => none
  | _, _ => none

/-- A connection whose first frame is a `SyncReq`: it is never registered, and
closed after the request was passed on. -/
def handleSync : Handler → Input → Option (Server × Handler)
  | .syncLookup env, .proceed =>
      if srv.srvMu = .free then
        match srv.lookupSession env.sessionID with
        | none => some (srv, .syncUnknown)
        | some session => some (srv, .syncRead env session)
      else none
  | .syncUnknown, .proceed => some (srv.closeNet conn, .exited)
  | .syncRead env session, .proceed =>
      match (srv.objects session).publisher with
      | none => some (srv.closeNet conn, .exited)
      | some publisher =>
          if publisher = conn then some (srv.closeNet conn, .exited)
          else some (srv, .syncForward env session)
  | .syncForward env session, .proceed =>
      match (srv.objects session).publisher with
      | none => some (srv.closeNet conn, .exited)
      | some publisher => some (srv, .syncSend env publisher)
  | .syncSend env publisher, .send written =>
      some ((srv.sendFrame publisher ⟨conn, env⟩ written).closeNet conn, .exited)
  | _, _ => none

/-- Run a handler to the end of its next section. -/
def handle (handler : Handler) (input : Input) : Option (Server × Handler) :=
  match handler with
  | .idle | .fetch .. | .register .. => handleFirst srv conn handler input
  | .greet _ | .greeting .. | .loopPublisher _ | .forward .. | .forwarding .. =>
      handlePublisher srv conn handler input
  | .findPublisher .. | .announce .. | .loopSubscriber _ | .forwardTo .. | .sendTo ..
  | .leave _ | .hangUp _ | .testEmpty _ => handleSubscriber srv conn handler input
  | .remove .. | .removing .. => handleRemoval srv conn handler input
  | .syncLookup _ | .syncUnknown | .syncRead .. | .syncForward .. | .syncSend .. =>
      handleSync srv conn handler input
  | .exited => none

end Handle

/-! ## What a section can do -/

/-- The effects of `handle`, one constructor for each way a section can end. -/
inductive Section (conn : ℕ) (srv : Server) (input : Input) :
    Handler → Server → Handler → Prop where
  | refuse : Section conn srv input .idle (srv.closeNet conn) .exited
  | drop (env : Envelope) :
      Section conn srv input .idle ((srv.receive conn env).closeNet conn) .exited
  | acceptClient (role : Role) (env : Envelope) (htype : env.msgType = role.initType) :
      Section conn srv input .idle (srv.receive conn env) (.fetch role env)
  | acceptSync (env : Envelope) :
      Section conn srv input .idle (srv.receive conn env) (.syncLookup env)
  | fetchFound (role : Role) (env : Envelope) (session : ℕ) (hfree : srv.srvMu = .free)
      (hlookup : srv.lookupSession env.sessionID = some session) :
      Section conn srv input (.fetch role env) srv (.register role env session)
  | fetchNew (role : Role) (env : Envelope) (hfree : srv.srvMu = .free)
      (hlookup : srv.lookupSession env.sessionID = none) :
      Section conn srv input (.fetch role env) (srv.createSession env.sessionID)
        (.register role env srv.created)
  | rejectPublisher (env : Envelope) (session publisher : ℕ)
      (hpublisher : (srv.objects session).publisher = some publisher)
      (hopen : srv.isClosed publisher = false) :
      Section conn srv input (.register .publisher env session) (srv.closeNet conn) .exited
  | registerPublisher (env : Envelope) (session : ℕ)
      (hwritable : srv.writable session = true)
      (hclosed : ∀ publisher, (srv.objects session).publisher = some publisher →
        srv.isClosed publisher = true) :
      Section conn srv input (.register .publisher env session)
        ((srv.setObject session { srv.objects session with publisher := some conn }).setClient
          conn (.new .publisher env session (srv.objects session).forwarded.length))
        (.greet session)
  | registerSubscriber (env : Envelope) (session : ℕ)
      (hwritable : srv.writable session = true) :
      Section conn srv input (.register .subscriber env session)
        ((srv.setObject session ((srv.objects session).registerSubscriber conn)).setClient
          conn (.new .subscriber env session (srv.objects session).forwarded.length))
        (.findPublisher env session)
  | greet (session : ℕ) (conns : List ℕ) (hperm : conns.Perm (srv.objects session).subscribers) :
      Section conn srv input (.greet session)
        (srv.setObject session
          { srv.objects session with readers := (srv.objects session).readers + 1 })
        (.greeting session conns)
  | greetDone (session : ℕ) :
      Section conn srv input (.greeting session [])
        (srv.setObject session
          { srv.objects session with readers := (srv.objects session).readers - 1 })
        (.loopPublisher session)
  | greetSend (session subscriber : ℕ) (rest : List ℕ) (client : ClientConn) (written : Bool)
      (hinput : input = .send written) (hclient : srv.clients subscriber = some client) :
      Section conn srv input (.greeting session (subscriber :: rest))
        (srv.sendFrame conn ⟨subscriber, client.initialEnv⟩ written) (.greeting session rest)
  | publisherGone (session : ℕ) :
      Section conn srv input (.loopPublisher session) srv (.remove .publisher session)
  | publisherHeartbeat (session : ℕ) (env : Envelope) :
      Section conn srv input (.loopPublisher session) (srv.receive conn env)
        (.loopPublisher session)
  | publisherRead (session : ℕ) (env : Envelope) (last : Bool) :
      Section conn srv input (.loopPublisher session) (srv.receive conn env)
        (.forward session env last)
  | forward (session : ℕ) (env : Envelope) (last : Bool) (conns : List ℕ)
      (hperm : conns.Perm (srv.objects session).subscribers) :
      Section conn srv input (.forward session env last)
        (srv.setObject session { srv.objects session with
          forwarded := (srv.objects session).forwarded ++ [env] })
        (.forwarding session env last conns)
  | forwardDone (session : ℕ) (env : Envelope) :
      Section conn srv input (.forwarding session env false []) srv (.loopPublisher session)
  | forwardLast (session : ℕ) (env : Envelope) :
      Section conn srv input (.forwarding session env true []) srv (.remove .publisher session)
  | forwardEnqueue (session : ℕ) (env : Envelope) (last : Bool) (subscriber : ℕ)
      (rest : List ℕ) (client : ClientConn) (hclient : srv.clients subscriber = some client) :
      Section conn srv input (.forwarding session env last (subscriber :: rest))
        (srv.setClient subscriber (client.enqueue ⟨conn, env⟩))
        (.forwarding session env last rest)
  | forwardFailed (session : ℕ) (env : Envelope) (last : Bool) (subscriber : ℕ)
      (rest : List ℕ) (hfailed : srv.isClosed subscriber = true ∨ input = .timedOut) :
      Section conn srv input (.forwarding session env last (subscriber :: rest))
        { srv with removals := srv.removals ++ [(session, subscriber)] }
        (.forwarding session env last rest)
  | findNone (env : Envelope) (session : ℕ) (hpublisher : (srv.objects session).publisher = none) :
      Section conn srv input (.findPublisher env session) srv (.loopSubscriber session)
  | findSome (env : Envelope) (session publisher : ℕ)
      (hpublisher : (srv.objects session).publisher = some publisher) :
      Section conn srv input (.findPublisher env session) srv (.announce env session publisher)
  | announce (env : Envelope) (session publisher : ℕ) (written : Bool)
      (hinput : input = .send written) :
      Section conn srv input (.announce env session publisher)
        (srv.sendFrame publisher ⟨conn, env⟩ written) (.loopSubscriber session)
  | subscriberGone (session : ℕ) :
      Section conn srv input (.loopSubscriber session) srv (.leave session)
  | subscriberIgnored (session : ℕ) (env : Envelope) :
      Section conn srv input (.loopSubscriber session) (srv.receive conn env)
        (.loopSubscriber session)
  | subscriberRead (session : ℕ) (env : Envelope) :
      Section conn srv input (.loopSubscriber session) (srv.receive conn env)
        (.forwardTo session env)
  | forwardToNone (session : ℕ) (env : Envelope) :
      Section conn srv input (.forwardTo session env) srv (.loopSubscriber session)
  | forwardToSome (session : ℕ) (env : Envelope) (publisher : ℕ)
      (hpublisher : (srv.objects session).publisher = some publisher) :
      Section conn srv input (.forwardTo session env) srv (.sendTo session env publisher)
  | sendTo (session : ℕ) (env : Envelope) (publisher : ℕ) (written : Bool) :
      Section conn srv input (.sendTo session env publisher)
        (srv.sendFrame publisher ⟨conn, env⟩ written) (.loopSubscriber session)
  | leave (session : ℕ) (next : Handler)
      (hnext : next = .hangUp session ∨ next = .testEmpty session) :
      Section conn srv input (.leave session)
        (srv.setObject session ((srv.objects session).removeSubscriber conn)) next
  | hangUp (session : ℕ) :
      Section conn srv input (.hangUp session) (srv.closeClients [conn]) (.testEmpty session)
  | testEmpty (session : ℕ) (hpublisher : (srv.objects session).publisher = none)
      (hsubscribers : (srv.objects session).subscribers = []) :
      Section conn srv input (.testEmpty session) srv (.remove .subscriber session)
  | testOccupied (session : ℕ) : Section conn srv input (.testEmpty session) srv .exited
  | removeAbsent (role : Role) (session : ℕ) :
      Section conn srv input (.remove role session) srv .exited
  | removeLock (role : Role) (session target : ℕ) (hfree : srv.srvMu = .free)
      (hlookup : srv.lookupSession (srv.objects session).sessionID = some target) :
      Section conn srv input (.remove role session)
        { srv with srvMu := .closing conn (srv.objects session).sessionID target }
        (.removing role session)
  | removeClose (role : Role) (session : ℕ) (sessionID : SessionID) (target : ℕ)
      (hinput : input = .proceed) (hlock : srv.srvMu = .closing conn sessionID target) :
      Section conn srv input (.removing role session)
        { srv.closeSession target with srvMu := .erasing conn sessionID target }
        (.removing role session)
  | removeErase (role : Role) (session : ℕ) (sessionID : SessionID) (target : ℕ)
      (hlock : srv.srvMu = .erasing conn sessionID target) :
      Section conn srv input (.removing role session)
        { srv with
          sessions := srv.sessions.erase sessionID
          activeSessions := srv.activeSessions - 1
          srvMu := .free } .exited
  | syncFound (env : Envelope) (session : ℕ)
      (hlookup : srv.lookupSession env.sessionID = some session) :
      Section conn srv input (.syncLookup env) srv (.syncRead env session)
  | syncRead (env : Envelope) (session : ℕ) :
      Section conn srv input (.syncRead env session) srv (.syncForward env session)
  | syncForward (env : Envelope) (session publisher : ℕ)
      (hpublisher : (srv.objects session).publisher = some publisher) :
      Section conn srv input (.syncForward env session) srv (.syncSend env publisher)
  | syncSend (env : Envelope) (publisher : ℕ) (written : Bool) :
      Section conn srv input (.syncSend env publisher)
        ((srv.sendFrame publisher ⟨conn, env⟩ written).closeNet conn) .exited
  | syncAbsent (env : Envelope) : Section conn srv input (.syncLookup env) srv .syncUnknown
  | syncUnknown : Section conn srv input .syncUnknown (srv.closeNet conn) .exited
  | syncSkip (env : Envelope) (session : ℕ) :
      Section conn srv input (.syncRead env session) (srv.closeNet conn) .exited
  | syncLost (env : Envelope) (session : ℕ) :
      Section conn srv input (.syncForward env session) (srv.closeNet conn) .exited

/-- Where a handler goes on after its registration. -/
def Handler.registered (role : Role) (env : Envelope) (session : ℕ) : Handler :=
  match role with
  | .publisher => .greet session
  | .subscriber => .findPublisher env session

section Inversion

variable {srv srv' : Server} {conn : ℕ} {handler handler' : Handler} {input : Input}

theorem section_of_handleFirst
    (hhandle : handleFirst srv conn handler input = some (srv', handler')) :
    Section conn srv input handler srv' handler' := by
  simp only [handleFirst] at hhandle
  split at hhandle
  · cases hhandle
    exact .refuse
  · split at hhandle
    · rename_i htype
      cases hhandle
      exact .acceptClient .publisher _ htype
    split at hhandle
    · rename_i htype
      cases hhandle
      exact .acceptClient .subscriber _ htype
    split at hhandle
    · cases hhandle
      exact .acceptSync _
    · cases hhandle
      exact .drop _
  · split at hhandle
    · rename_i hfree
      split at hhandle
      · rename_i hlookup
        cases hhandle
        exact .fetchFound _ _ _ hfree hlookup
      · rename_i hlookup
        cases hhandle
        exact .fetchNew _ _ hfree hlookup
    · cases hhandle
  · rename_i env session
    split at hhandle
    · rename_i hwritable
      by_cases hclosed : (srv.objects session).publisher.all srv.isClosed = true
      · simp only [RelaySession.registerPublisher, if_pos hclosed] at hhandle
        cases hhandle
        refine .registerPublisher _ _ hwritable ?_
        intro publisher hpublisher
        simpa only [hpublisher, Option.all_some] using hclosed
      · simp only [RelaySession.registerPublisher, if_neg hclosed] at hhandle
        cases hhandle
        cases hpublisher : (srv.objects session).publisher with
        | none => simp [hpublisher] at hclosed
        | some publisher =>
            rw [hpublisher, Option.all_some, Bool.not_eq_true] at hclosed
            exact .rejectPublisher _ _ _ hpublisher hclosed
    · cases hhandle
  · split at hhandle
    · rename_i hwritable
      cases hhandle
      exact .registerSubscriber _ _ hwritable
    · cases hhandle
  · cases hhandle

theorem section_of_handlePublisher
    (hhandle : handlePublisher srv conn handler input = some (srv', handler')) :
    Section conn srv input handler srv' handler' := by
  simp only [handlePublisher] at hhandle
  split at hhandle
  · split at hhandle
    · rename_i hperm
      cases hhandle
      exact .greet _ _ hperm
    · cases hhandle
  · cases hhandle
    exact .greetDone _
  · split at hhandle
    · cases hhandle
    · rename_i hclient
      cases hhandle
      exact .greetSend _ _ _ _ _ rfl hclient
  · cases hhandle
    exact .publisherGone _
  · split at hhandle
    · cases hhandle
      exact .publisherHeartbeat _ _
    · cases hhandle
      exact .publisherRead _ _ _
  · split at hhandle
    · rename_i hperm
      cases hhandle
      exact .forward _ _ _ _ hperm
    · cases hhandle
  · rename_i last
    cases last
    · cases hhandle
      exact .forwardDone _ _
    · cases hhandle
      exact .forwardLast _ _
  · split at hhandle
    · cases hhandle
    split at hhandle
    · rename_i hclient hroom
      cases hhandle
      exact .forwardEnqueue _ _ _ _ _ _ hclient
    · cases hhandle
  · split at hhandle
    · rename_i hclosed
      cases hhandle
      exact .forwardFailed _ _ _ _ _ (.inl hclosed)
    · cases hhandle
  · cases hhandle
    exact .forwardFailed _ _ _ _ _ (.inr rfl)
  · cases hhandle

theorem section_of_handleSubscriber
    (hhandle : handleSubscriber srv conn handler input = some (srv', handler')) :
    Section conn srv input handler srv' handler' := by
  simp only [handleSubscriber] at hhandle
  split at hhandle
  · split at hhandle
    · rename_i hpublisher
      cases hhandle
      exact .findNone _ _ hpublisher
    · rename_i hpublisher
      cases hhandle
      exact .findSome _ _ _ hpublisher
  · cases hhandle
    exact .announce _ _ _ _ rfl
  · cases hhandle
    exact .subscriberGone _
  · split at hhandle
    · cases hhandle
      exact .subscriberRead _ _
    · cases hhandle
      exact .subscriberIgnored _ _
  · split at hhandle
    · cases hhandle
      exact .forwardToNone _ _
    · rename_i hpublisher
      cases hhandle
      exact .forwardToSome _ _ _ hpublisher
  · cases hhandle
    exact .sendTo _ _ _ _
  · split at hhandle
    · cases hhandle
      refine .leave _ _ ?_
      split
      · exact .inl rfl
      · exact .inr rfl
    · cases hhandle
  · cases hhandle
    exact .hangUp _
  · by_cases hempty : (srv.objects ‹_›).publisher = none ∧ (srv.objects ‹_›).subscribers = []
    · rw [if_pos hempty] at hhandle
      cases hhandle
      exact .testEmpty _ hempty.1 hempty.2
    · rw [if_neg hempty] at hhandle
      cases hhandle
      exact .testOccupied _
  · cases hhandle

theorem section_of_handleRemoval
    (hhandle : handleRemoval srv conn handler input = some (srv', handler')) :
    Section conn srv input handler srv' handler' := by
  simp only [handleRemoval] at hhandle
  split at hhandle
  · split at hhandle
    · rename_i hfree
      split at hhandle
      · cases hhandle
        exact .removeAbsent _ _
      · rename_i hlookup
        cases hhandle
        exact .removeLock _ _ _ hfree hlookup
    · cases hhandle
  · split at hhandle
    · rename_i hlock
      split at hhandle
      · rename_i howner
        obtain ⟨rfl, -⟩ := howner
        cases hhandle
        exact .removeClose _ _ _ _ rfl hlock
      · cases hhandle
    · rename_i hlock
      split at hhandle
      · rename_i howner
        obtain rfl := howner
        cases hhandle
        exact .removeErase _ _ _ _ hlock
      · cases hhandle
    · cases hhandle
  · cases hhandle

theorem section_of_handleSync
    (hhandle : handleSync srv conn handler input = some (srv', handler')) :
    Section conn srv input handler srv' handler' := by
  simp only [handleSync] at hhandle
  split at hhandle
  · split at hhandle
    · split at hhandle
      · cases hhandle
        exact .syncAbsent _
      · rename_i hlookup
        cases hhandle
        exact .syncFound _ _ hlookup
    · cases hhandle
  · cases hhandle
    exact .syncUnknown
  · split at hhandle
    · cases hhandle
      exact .syncSkip _ _
    split at hhandle
    · cases hhandle
      exact .syncSkip _ _
    · cases hhandle
      exact .syncRead _ _
  · split at hhandle
    · cases hhandle
      exact .syncLost _ _
    · rename_i hpublisher
      cases hhandle
      exact .syncForward _ _ _ hpublisher
  · cases hhandle
    exact .syncSend _ _ _
  · cases hhandle

/-- Every step of a handler is one of the sections above. -/
theorem section_of_handle (hhandle : handle srv conn handler input = some (srv', handler')) :
    Section conn srv input handler srv' handler' := by
  cases handler with
  | idle | fetch | register => exact section_of_handleFirst hhandle
  | greet | greeting | loopPublisher | forward | forwarding =>
      exact section_of_handlePublisher hhandle
  | findPublisher | announce | loopSubscriber | forwardTo | sendTo | leave | hangUp
  | testEmpty => exact section_of_handleSubscriber hhandle
  | remove | removing => exact section_of_handleRemoval hhandle
  | syncLookup | syncUnknown | syncRead | syncForward | syncSend =>
      exact section_of_handleSync hhandle
  | exited => cases hhandle

theorem netClosed_of_section (hsection : Section conn srv input handler srv' handler')
    (other : ℕ) (hclosed : srv.netClosed other = true) : srv'.netClosed other = true := by
  cases hsection with
  | refuse | rejectPublisher | syncUnknown | syncSkip | syncLost =>
      exact srv.netClosed_closeNet hclosed conn
  | drop env => exact (srv.receive conn env).netClosed_closeNet hclosed conn
  | greetSend | announce | sendTo =>
      rw [Server.sendFrame_netClosed]
      exact hclosed
  | syncSend env publisher written =>
      apply Server.netClosed_closeNet
      rw [Server.sendFrame_netClosed]
      exact hclosed
  | hangUp => exact srv.netClosed_closeClients hclosed [conn]
  | removeClose role session sessionID target => exact srv.netClosed_closeSession hclosed target
  | _ => exact hclosed

end Inversion

/-! ## The other goroutines -/

/-- A step outside the handlers. -/
inductive Task where
  | writer (conn : ℕ) (input : ClientConn.WriterInput)
  | closeSocket (conn : ℕ)
  | removeSubscriber (session conn : ℕ)
  | closeRemoved (conn : ℕ)
  | startSweep (kind : Sweep) (order : List Entry)
  | sweep
  | tick (elapsed : ℕ)
  deriving DecidableEq

/-- The next step of a sweep that holds `srv.mu`. -/
def sweepStep (srv : Server) : Option Server :=
  match srv.srvMu with
  | .sweeping _ .next [] => some { srv with srvMu := .free }
  | .sweeping .reap .next (entry :: rest) =>
      some { srv with srvMu := if (srv.objects entry.2).isEmpty
        then .sweeping .reap .age (entry :: rest) else .sweeping .reap .next rest }
  | .sweeping .reap .age (entry :: rest) =>
      some { srv with srvMu := if (srv.objects entry.2).outgrown srv.now
        then .sweeping .reap .close (entry :: rest) else .sweeping .reap .next rest }
  | .sweeping .closeAll .next (entry :: rest) =>
      some { srv with srvMu := .sweeping .closeAll .close (entry :: rest) }
  | .sweeping kind .close (entry :: rest) =>
      if srv.writable entry.2 then
        some { srv.closeSession entry.2 with srvMu := .sweeping kind .erase (entry :: rest) }
      else none
  | .sweeping kind .erase (entry :: rest) =>
      some { srv with
        sessions := srv.sessions.erase entry.1
        activeSessions := match kind with
          | .reap => srv.activeSessions - 1
          | .closeAll => srv.activeSessions
        srvMu := .sweeping kind .next rest }
  | _ => none

def perform (srv : Server) : Task → Option Server
  | .writer conn input =>
      match srv.clients conn with
      | none => none
      | some client =>
          if input = .wrote true ∧ srv.netClosed conn then none
          else (client.writeLoop client.writer input).map (srv.setClient conn)
  | .closeSocket conn => if srv.isClosed conn then some (srv.closeNet conn) else none
  | .removeSubscriber session conn =>
      if (session, conn) ∈ srv.removals ∧ srv.writable session then
        let object := srv.objects session
        some { srv.setObject session (object.removeSubscriber conn) with
          removals := srv.removals.erase (session, conn)
          removed := if conn ∈ object.subscribers then conn :: srv.removed else srv.removed }
      else none
  | .closeRemoved conn =>
      if conn ∈ srv.removed then
        some { srv.closeClients [conn] with removed := srv.removed.erase conn }
      else none
  | .startSweep kind order =>
      if srv.srvMu = .free ∧ order.Perm srv.sessions.entries then
        some { srv with srvMu := .sweeping kind .next order }
      else none
  | .sweep => sweepStep srv
  | .tick elapsed => some { srv with now := srv.now + elapsed }

/-- The effects of `perform`. -/
inductive Background (srv : Server) (task : Task) : Server → Prop where
  | writer (conn : ℕ) (input : ClientConn.WriterInput) (client client' : ClientConn)
      (htask : task = .writer conn input) (hclient : srv.clients conn = some client)
      (hwrite : WriterStep client input client') :
      Background srv task (srv.setClient conn client')
  | closeSocket (conn : ℕ) (hclosed : srv.isClosed conn = true) :
      Background srv task (srv.closeNet conn)
  | removeSubscriber (session conn : ℕ) (htask : task = .removeSubscriber session conn)
      (removals : List (ℕ × ℕ)) (removed : List ℕ)
      (hremoved : ∀ other ∈ removed, other ∈ srv.removed ∨
        other = conn ∧ conn ∈ (srv.objects session).subscribers) :
      Background srv task
        { srv.setObject session ((srv.objects session).removeSubscriber conn) with
          removals := removals
          removed := removed }
  | closeRemoved (conn : ℕ) (removed : List ℕ) (hconn : conn ∈ srv.removed)
      (hremoved : removed ⊆ srv.removed) :
      Background srv task { srv.closeClients [conn] with removed := removed }
  | startSweep (kind : Sweep) (order : List Entry) (hfree : srv.srvMu = .free)
      (hperm : order.Perm srv.sessions.entries) :
      Background srv task { srv with srvMu := .sweeping kind .next order }
  | sweepEnd (kind : Sweep) (hlock : srv.srvMu = .sweeping kind .next []) :
      Background srv task { srv with srvMu := .free }
  | sweepMove (kind : Sweep) (stage stage' : SweepStage) (rest rest' : List Entry)
      (hlock : srv.srvMu = .sweeping kind stage rest) (hrest : rest' <:+ rest)
      (hstage : stage ≠ .erase) (hstage' : stage' ≠ .erase) :
      Background srv task { srv with srvMu := .sweeping kind stage' rest' }
  | sweepClose (kind : Sweep) (entry : Entry) (rest : List Entry) (htask : task = .sweep)
      (hlock : srv.srvMu = .sweeping kind .close (entry :: rest)) :
      Background srv task
        { srv.closeSession entry.2 with srvMu := .sweeping kind .erase (entry :: rest) }
  | sweepErase (kind : Sweep) (entry : Entry) (rest : List Entry) (activeSessions : ℤ)
      (hlock : srv.srvMu = .sweeping kind .erase (entry :: rest)) :
      Background srv task
        { srv with
          sessions := srv.sessions.erase entry.1
          activeSessions := activeSessions
          srvMu := .sweeping kind .next rest }
  | tick (elapsed : ℕ) : Background srv task { srv with now := srv.now + elapsed }

theorem background_of_sweepStep {srv srv' : Server} (hsweep : sweepStep srv = some srv') :
    Background srv .sweep srv' := by
  rw [sweepStep] at hsweep
  split at hsweep
  · rename_i hlock
    cases hsweep
    exact .sweepEnd _ hlock
  · rename_i entry rest hlock
    cases hsweep
    split
    · exact .sweepMove _ _ _ _ _ hlock (List.suffix_refl _) (by decide) (by decide)
    · exact .sweepMove _ _ _ _ _ hlock (List.suffix_cons entry rest) (by decide) (by decide)
  · rename_i entry rest hlock
    cases hsweep
    split
    · exact .sweepMove _ _ _ _ _ hlock (List.suffix_refl _) (by decide) (by decide)
    · exact .sweepMove _ _ _ _ _ hlock (List.suffix_cons entry rest) (by decide) (by decide)
  · rename_i entry rest hlock
    cases hsweep
    exact .sweepMove _ _ _ _ _ hlock (List.suffix_refl _) (by decide) (by decide)
  · rename_i hlock
    split at hsweep
    · cases hsweep
      exact .sweepClose _ _ _ rfl hlock
    · cases hsweep
  · rename_i hlock
    cases hsweep
    exact .sweepErase _ _ _ _ hlock
  · cases hsweep

theorem background_of_perform {srv srv' : Server} {task : Task}
    (hperform : perform srv task = some srv') : Background srv task srv' := by
  cases task with
  | writer conn input =>
      simp only [perform] at hperform
      split at hperform
      · cases hperform
      rename_i client hclient
      split at hperform
      · cases hperform
      obtain ⟨client', hwrite, rfl⟩ := Option.map_eq_some_iff.mp hperform
      exact .writer _ _ _ _ rfl hclient (writerStep_of_writeLoop hwrite)
  | closeSocket conn =>
      simp only [perform] at hperform
      split at hperform
      · rename_i hclosed
        cases hperform
        exact .closeSocket _ hclosed
      · cases hperform
  | removeSubscriber session conn =>
      simp only [perform] at hperform
      split at hperform
      · cases hperform
        refine .removeSubscriber _ _ rfl _ _ ?_
        intro other hother
        split at hother
        · rename_i hentered
          rcases List.mem_cons.mp hother with rfl | hold
          · exact .inr ⟨rfl, hentered⟩
          · exact .inl hold
        · exact .inl hother
      · cases hperform
  | closeRemoved conn =>
      simp only [perform] at hperform
      split at hperform
      · rename_i hconn
        cases hperform
        exact .closeRemoved _ _ hconn List.erase_subset
      · cases hperform
  | startSweep kind order =>
      simp only [perform] at hperform
      split at hperform
      · rename_i hstart
        cases hperform
        exact .startSweep _ _ hstart.1 hstart.2
      · cases hperform
  | sweep => exact background_of_sweepStep hperform
  | tick elapsed =>
      cases hperform
      exact .tick _

theorem netClosed_of_background {srv srv' : Server} {task : Task}
    (hbackground : Background srv task srv') (conn : ℕ) (hclosed : srv.netClosed conn = true) :
    srv'.netClosed conn = true := by
  cases hbackground with
  | closeSocket other => exact srv.netClosed_closeNet hclosed other
  | closeRemoved other => exact srv.netClosed_closeClients hclosed [other]
  | sweepClose kind entry => exact srv.netClosed_closeSession hclosed entry.2
  | _ => exact hclosed

/-! ## The system -/

structure State where
  server : Server
  handlers : ℕ → Handler

inductive Label where
  | handler (conn : ℕ) (input : Input)
  | task (task : Task)
  deriving DecidableEq

namespace State

/-- A relay that has not accepted a connection. -/
def start : State := ⟨.new, fun _ => .idle⟩

def step (state : State) : Label → Option State
  | .handler conn input =>
      (handle state.server conn (state.handlers conn) input).map fun (server, handler) =>
        ⟨server, Function.update state.handlers conn handler⟩
  | .task task => (perform state.server task).map fun server => ⟨server, state.handlers⟩

end State

/-- A step is a section of one handler, which leaves the others where they are,
or a step of another goroutine. -/
theorem cases_of_step {state state' : State} {label : Label}
    (hstep : state.step label = some state') :
    (∃ conn input handler', label = .handler conn input ∧
      Section conn state.server input (state.handlers conn) state'.server handler' ∧
      state'.handlers = Function.update state.handlers conn handler') ∨
    ∃ task, label = .task task ∧ Background state.server task state'.server ∧
      state'.handlers = state.handlers := by
  cases label with
  | handler conn input =>
      obtain ⟨⟨server, handler'⟩, hhandle, rfl⟩ := Option.map_eq_some_iff.mp hstep
      exact .inl ⟨conn, input, handler', rfl, section_of_handle hhandle, rfl⟩
  | task task =>
      obtain ⟨server, hperform, rfl⟩ := Option.map_eq_some_iff.mp hstep
      exact .inr ⟨task, rfl, background_of_perform hperform, rfl⟩

/-! ## Schedules -/

/-- Only the first `count` connections have been accepted. -/
abbrev State.IdleFrom (count : ℕ) (state : State) : Prop :=
  Threads.IdleFrom Handler.idle count state.handlers

/-- The step is not one of a handler beyond the first `count`. -/
def Label.below (count : ℕ) : Label → Bool
  | .handler conn _ => decide (conn < count)
  | .task _ => true

theorem idleFrom_start (count : ℕ) : State.start.IdleFrom count :=
  Threads.idleFrom_const Handler.idle count

theorem idleFrom_step {count : ℕ} {state state' : State} {label : Label}
    (hidle : state.IdleFrom count) (hbelow : label.below count = true)
    (hstep : state.step label = some state') : state'.IdleFrom count := by
  rw [State.IdleFrom]
  rcases cases_of_step hstep with ⟨mover, input, handler', rfl, -, hhandlers⟩ | ⟨_, -, -, hhandlers⟩
  · rw [hhandlers]
    exact hidle.update (of_decide_eq_true hbelow) handler'
  · rw [hhandlers]
    exact hidle

/-- Follow a list of labels as long as a check succeeds and only the first `count`
handlers run. -/
def State.runBelow (check : State → Label → Bool) (count : ℕ) (labels : List Label) :
    Option State :=
  runWhile State.step (fun state label => label.below count && check state label) State.start
    labels

/-- Such a run is a restricted run if the check implies the condition for a state with
no other handler in use. -/
theorem guardedReaches_of_runBelow {count : ℕ} {check : State → Label → Bool}
    {guard : State → Label → Prop} {labels : List Label} {state : State}
    (hguard : ∀ state label, state.IdleFrom count → check state label = true →
      guard state label)
    (hrun : State.runBelow check count labels = some state) :
    GuardedReaches State.step guard State.start state ∧ state.IdleFrom count := by
  refine guardedReaches_of_runWhile ?_ ?_ (idleFrom_start count) hrun
  · intro state label state' hidle hcheck hstep
    exact idleFrom_step hidle (Bool.and_eq_true_iff.mp hcheck).1 hstep
  · intro state label hidle hcheck
    exact hguard state label hidle (Bool.and_eq_true_iff.mp hcheck).2

theorem exists_guardedReaches_of_runBelow {count : ℕ} {check : State → Label → Bool}
    {guard : State → Label → Prop} (labels : List Label) (property : State → Bool)
    (hguard : ∀ state label, state.IdleFrom count → check state label = true →
      guard state label)
    (hrun : (State.runBelow check count labels).any property = true) :
    ∃ state, GuardedReaches State.step guard State.start state ∧ property state = true := by
  obtain ⟨state, hresult, hproperty⟩ := (Option.any_eq_true _ _).mp hrun
  exact ⟨state, (guardedReaches_of_runBelow hguard hresult).1, hproperty⟩

/-- A frame without payload for the session identifier that is all zeros. -/
def bareFrame (msgType : Byte) : Envelope where
  version := version
  msgType := msgType
  sessionID := ⟨List.replicate sessionIDSize 0, rfl⟩
  nonce := ⟨List.replicate nonceSize 0, rfl⟩
  payload := []

/-- A connection is accepted, reads a first frame of its role and fetches its
session. -/
def arrive (conn : ℕ) (role : Role) : List Label :=
  [.handler conn (.accept (some (bareFrame role.initType))), .handler conn .proceed]

/-- A publisher that meets no subscriber goes from the registration to its read
loop. -/
def settlePublisher (conn : ℕ) : List Label :=
  [.handler conn .proceed, .handler conn (.order []), .handler conn .proceed]

end ZeroFeed.Handlers
