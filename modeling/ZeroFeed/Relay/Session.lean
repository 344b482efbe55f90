import ZeroFeed.Protocol.Messages

/-!
# Relay clients and sessions (`pkg/relay/session.go`)

A `ClientConn` wraps one accepted connection, a `RelaySession` lists the
clients that share a session identifier.  Connections are numbered in the order
in which the relay accepts them and a client is named by the number of its
connection; the key `RegisterSubscriber` invents is unique per connection, so
the subscriber map is the list of its clients.

Beside the fields of the source both records keep a log that no operation
reads: what `SendFrame` accepted and from which connection it came, what
`writeLoop` wrote, which frames `ForwardFromPublisher` was called with.
-/

namespace ZeroFeed.Session

open ZeroFeed.ByteString
open ZeroFeed.Messages

def subscriberQueueSize : ℕ := 200

/-- Thirty seconds, in nanoseconds. -/
def sessionGracePeriod : ℤ := 30 * 10 ^ 9

/-! ## Clients -/

inductive Role where
  | publisher
  | subscriber
  deriving DecidableEq

/-- The type of the frame with which a client of a role introduces itself. -/
def Role.initType : Role → Byte
  | .publisher => msgTypePAKEInitPub
  | .subscriber => msgTypePAKEInitSub

/-- A frame that was passed on, and the connection it had been read from. -/
structure Transfer where
  source : ℕ
  env : Envelope
  deriving DecidableEq

/-- Where a subscriber's `writeLoop` is. -/
inductive Writer where
  | selecting
  | writing (env : Envelope)
  | closing
  | draining
  | drainWriting (env : Envelope)
  | returned
  deriving DecidableEq

structure ClientConn where
  role : Role
  initialEnv : Envelope
  sendCh : List Envelope
  done : Bool
  writer : Writer
  /-- Log: the session object the client registered on. -/
  session : ℕ
  /-- Log: how many frames that session had forwarded before. -/
  joinedAt : ℕ
  /-- Log: the frames for which `SendFrame` returned no error. -/
  sent : List Transfer
  /-- Log: the frames `writeLoop` wrote to the socket. -/
  written : List Envelope
  /-- Log: a write of `writeLoop` failed. -/
  failed : Bool
  deriving DecidableEq

namespace ClientConn

/-- `NewClientConn`; the writer of a publisher is never started. -/
def new (role : Role) (initialEnv : Envelope) (session joinedAt : ℕ) : ClientConn where
  role := role
  initialEnv := initialEnv
  sendCh := []
  done := false
  writer := match role with
    | .publisher => .returned
    | .subscriber => .selecting
  session := session
  joinedAt := joinedAt
  sent := []
  written := []
  failed := false

variable (client : ClientConn)

def close : ClientConn := { client with done := true }

/-- A publisher's `SendFrame` that wrote the frame. -/
def accept (transfer : Transfer) : ClientConn :=
  { client with sent := client.sent ++ [transfer] }

/-- A subscriber's `SendFrame` that put the frame into the channel. -/
def enqueue (transfer : Transfer) : ClientConn :=
  { client with
    sendCh := client.sendCh ++ [transfer.env]
    sent := client.sent ++ [transfer] }

/-- What `writeLoop` does next: one of the ready cases of a `select`, or the
result of the pending write. -/
inductive WriterInput where
  | done
  | receive
  | wrote (success : Bool)
  | proceed
  deriving DecidableEq

/-- One step of `writeLoop`. -/
def writeLoop : Writer → WriterInput → Option ClientConn
  | .selecting, .done =>
      if client.done then some { client with writer := .draining } else none
  | .selecting, .receive =>
      match client.sendCh with
      | [] => none
      | env :: rest => some { client with sendCh := rest, writer := .writing env }
  | .writing env, .wrote true =>
      some { client with written := client.written ++ [env], writer := .selecting }
  | .writing _, .wrote false => some { client with failed := true, writer := .closing }
  | .closing, .proceed => some { client.close with writer := .returned }
  | .draining, .receive =>
      match client.sendCh with
      | [] => none
      | env :: rest => some { client with sendCh := rest, writer := .drainWriting env }
  | .draining, .proceed =>
      if client.sendCh = [] then some { client with writer := .returned } else none
  | .drainWriting env, .wrote true =>
      some { client with written := client.written ++ [env], writer := .draining }
  | .drainWriting _, .wrote false => some { client with failed := true, writer := .draining }
  | _, _ => none

end ClientConn

/-- The frame `writeLoop` has taken from the channel and not yet written. -/
def Writer.held : Writer → List Envelope
  | .writing env | .drainWriting env => [env]
  | _ => []

/-- The effects of `writeLoop`. -/
inductive WriterStep (client : ClientConn) (input : ClientConn.WriterInput) :
    ClientConn → Prop where
  | move (writer : Writer) (hheld : client.writer.held = []) (hheld' : writer.held = [])
      (hclosing : writer ≠ .closing) :
      WriterStep client input { client with writer := writer }
  | receive (env : Envelope) (rest : List Envelope) (writer : Writer)
      (hsendCh : client.sendCh = env :: rest) (hheld : client.writer.held = [])
      (hheld' : writer.held = [env]) :
      WriterStep client input { client with sendCh := rest, writer := writer }
  | wrote (env : Envelope) (writer : Writer) (hinput : input = .wrote true)
      (hheld : client.writer.held = [env]) (hheld' : writer.held = [])
      (hclosing : writer ≠ .closing) :
      WriterStep client input
        { client with written := client.written ++ [env], writer := writer }
  | failed (env : Envelope) (writer : Writer) (hheld : client.writer.held = [env])
      (hheld' : writer.held = []) :
      WriterStep client input { client with failed := true, writer := writer }
  | close (hwriter : client.writer = .closing) :
      WriterStep client input { client.close with writer := .returned }

theorem writerStep_of_writeLoop {client client' : ClientConn}
    {input : ClientConn.WriterInput}
    (hwrite : client.writeLoop client.writer input = some client') :
    WriterStep client input client' := by
  generalize hwriter : client.writer = writer at hwrite
  have hheld : client.writer.held = writer.held := congrArg Writer.held hwriter
  simp only [ClientConn.writeLoop] at hwrite
  split at hwrite
  · split at hwrite
    · cases hwrite
      exact .move .draining hheld rfl (by decide)
    · cases hwrite
  · split at hwrite
    · cases hwrite
    · rename_i hsendCh
      cases hwrite
      exact .receive _ _ _ hsendCh hheld rfl
  · cases hwrite
    exact .wrote _ .selecting rfl hheld rfl (by decide)
  · cases hwrite
    exact .failed _ .closing hheld rfl
  · cases hwrite
    exact .close hwriter
  · split at hwrite
    · cases hwrite
    · rename_i hsendCh
      cases hwrite
      exact .receive _ _ _ hsendCh hheld rfl
  · split at hwrite
    · cases hwrite
      exact .move .returned hheld rfl (by decide)
    · cases hwrite
  · cases hwrite
    exact .wrote _ .draining rfl hheld rfl (by decide)
  · cases hwrite
    exact .failed _ .draining hheld rfl
  · cases hwrite

/-! ## Sessions -/

structure RelaySession where
  sessionID : SessionID
  publisher : Option ℕ
  subscribers : List ℕ
  createdAt : ℤ
  closed : Bool
  /-- Handlers inside a read section of `mu` that spans several steps. -/
  readers : ℕ
  /-- Log: the frames `ForwardFromPublisher` was called with. -/
  forwarded : List Envelope
  deriving DecidableEq

namespace RelaySession

/-- `NewRelaySession`. -/
def new (sessionID : SessionID) (now : ℤ) : RelaySession where
  sessionID := sessionID
  publisher := none
  subscribers := []
  createdAt := now
  closed := false
  readers := 0
  forwarded := []

variable (session : RelaySession)

def isEmpty : Bool :=
  session.closed || (session.publisher.isNone && session.subscribers.isEmpty)

/-- The second half of `IsReapable`. -/
def outgrown (now : ℤ) : Bool := decide (sessionGracePeriod ≤ now - session.createdAt)

/-- `RegisterPublisher`, or `none` if the newcomer is rejected.  A publisher
whose connection is closed is replaced. -/
def registerPublisher (isClosed : ℕ → Bool) (conn : ℕ) : Option RelaySession :=
  if session.publisher.all isClosed then some { session with publisher := some conn }
  else none

def registerSubscriber (conn : ℕ) : RelaySession :=
  { session with subscribers := session.subscribers ++ [conn] }

/-- The locked part of `RemoveSubscriber`. -/
def removeSubscriber (conn : ℕ) : RelaySession :=
  { session with subscribers := session.subscribers.filter (· ≠ conn) }

/-- The clients `Close` closes. -/
def members : List ℕ := session.publisher.toList ++ session.subscribers

/-- `RelaySession.Close` without the closing of the members. -/
def close : RelaySession :=
  if session.closed then session
  else { session with closed := true, publisher := none, subscribers := [] }

@[simp]
theorem close_closed : session.close.closed = true := by
  rw [close]
  split
  · assumption
  · rfl

@[simp]
theorem close_sessionID : session.close.sessionID = session.sessionID := by
  rw [close]
  split <;> rfl

end RelaySession

end ZeroFeed.Session
