import ZeroFeed.Relay.Isolation

/-!
# Fan-out without gaps

What is written to a subscriber's socket is a contiguous run of the forwarded
frames that starts with the first one after its registration.  A frame goes
through four places: the forwarder that has taken its snapshot of the
subscribers and not come to this one yet, the channel, the hands of `writeLoop`,
and the socket.  Until a write fails, what is in the last three and what the
first one still owes add up to all frames forwarded since the registration; once
the client is out of the map nothing more is owed to it, and once a write has
failed nothing more is written.

Assumed are the three things a run of the source provides: a send times out only
after the writer of that subscriber has failed and closed the connection, no
write succeeds after a failed one, and the calls of `ForwardFromPublisher` on
one session follow one another.
-/

namespace ZeroFeed.FanOut

open ZeroFeed.Messages
open ZeroFeed.Session
open ZeroFeed.Handlers
open ZeroFeed.Isolation
open ZeroFeed.Transition

/-- The frames forwarded since the client registered. -/
def stream (srv : Server) (client : ClientConn) : List Envelope :=
  (srv.objects client.session).forwarded.drop client.joinedAt

/-- The session of a handler inside `ForwardFromPublisher`. -/
def forwards : Handler → Option ℕ
  | .forwarding session _ _ _ => some session
  | _ => none

/-- The subscribers such a handler has yet to come to. -/
def pending : Handler → List ℕ
  | .forwarding _ _ _ rest => rest
  | _ => []

def Owes (handler : Handler) (session subscriber : ℕ) (env : Envelope) : Prop :=
  ∃ last rest, handler = .forwarding session env last rest ∧ subscriber ∈ rest

/-- Some handler has yet to come to the subscriber with the frame. -/
def Owed (state : State) (session subscriber : ℕ) (env : Envelope) : Prop :=
  ∃ conn, Owes (state.handlers conn) session subscriber env

structure Assumptions (state : State) (label : Label) : Prop where
  timeout : ∀ conn session env last subscriber rest, label = .handler conn .timedOut →
    state.handlers conn = .forwarding session env last (subscriber :: rest) →
      ∃ client, state.server.clients subscriber = some client ∧ client.failed = true ∧
        client.done = true
  write : ∀ conn client, label = .task (.writer conn (.wrote true)) →
    state.server.clients conn = some client → client.failed = false
  sequential : ∀ conn input session env last, label = .handler conn input →
    state.handlers conn = .forward session env last →
      ∀ other, forwards (state.handlers other) ≠ some session

/-! ## One subscriber -/

/-- All frames of a stream, or an initial part of it for a client that has
left. -/
def Follows (entered : Prop) (frames stream : List Envelope) : Prop :=
  frames <+: stream ∧ (entered → frames = stream)

structure InOrder (srv : Server) (owed : Envelope → Prop) (conn : ℕ) (client : ClientConn) :
    Prop where
  joined : client.joinedAt ≤ (srv.objects client.session).forwarded.length
  written : client.written <+: stream srv client
  queue : client.failed = false →
    client.written ++ client.writer.held ++ client.sendCh = client.sent.map Transfer.env
  closing : client.writer = .closing → client.failed = true
  done : client.done = true → conn ∈ (srv.objects client.session).subscribers →
    client.failed = true
  owing : client.failed = false → ∀ env, owed env →
    Follows (conn ∈ (srv.objects client.session).subscribers)
      (client.sent.map Transfer.env ++ [env]) (stream srv client)
  settled : client.failed = false → (∀ env, ¬ owed env) →
    Follows (conn ∈ (srv.objects client.session).subscribers)
      (client.sent.map Transfer.env) (stream srv client)

section Client

variable {srv srv' : Server} {owed owed' : Envelope → Prop} {conn : ℕ}
variable {client client' : ClientConn}

theorem Follows.mono {entered entered' : Prop} {frames frames' : List Envelope}
    (hfollows : Follows entered frames frames') (hentered : entered' → entered) :
    Follows entered' frames frames' :=
  ⟨hfollows.1, fun hstays => hfollows.2 (hentered hstays)⟩

theorem InOrder.new {session : ℕ} {env : Envelope} {joinedAt : ℕ}
    (hjoined : joinedAt = (srv.objects session).forwarded.length)
    (hnone : ∀ env, ¬ owed env) :
    InOrder srv owed conn (.new .subscriber env session joinedAt) := by
  have hstream : stream srv (.new .subscriber env session joinedAt) = [] := by
    rw [stream, List.drop_eq_nil_iff]
    exact hjoined.ge
  refine ⟨hjoined.le, List.nil_prefix, fun _ => rfl, nofun, nofun,
    fun _ env howed => absurd howed (hnone env), fun _ _ => ?_⟩
  rw [hstream]
  exact ⟨List.prefix_refl _, fun _ => rfl⟩

/-- What was handed to the channel is an initial part of the stream. -/
theorem InOrder.sent_initial (horder : InOrder srv owed conn client)
    (hfailed : client.failed = false) :
    client.sent.map Transfer.env <+: stream srv client := by
  by_cases howed : ∃ env, owed env
  · obtain ⟨env, howed⟩ := howed
    exact (List.prefix_append _ _).trans (horder.owing hfailed env howed).1
  · exact (horder.settled hfailed (not_exists.mp howed)).1

/-- Nothing is forwarded, nobody enters, and the client is at most closed. -/
theorem InOrder.of_neutral (horder : InOrder srv owed conn client)
    (hclient : client' = client ∨
      client' = client.close ∧ conn ∉ (srv'.objects client.session).subscribers)
    (hforwarded : (srv'.objects client.session).forwarded =
      (srv.objects client.session).forwarded)
    (hsubscribers : conn ∈ (srv'.objects client.session).subscribers →
      conn ∈ (srv.objects client.session).subscribers)
    (howed : ∀ env, owed' env ↔ owed env) : InOrder srv' owed' conn client' := by
  have hstream : stream srv' client = stream srv client := by rw [stream, stream, hforwarded]
  have hbase : InOrder srv' owed' conn client := by
    refine ⟨hforwarded ▸ horder.joined, hstream ▸ horder.written, horder.queue, horder.closing,
      fun hdone hentered => horder.done hdone (hsubscribers hentered), ?_, ?_⟩
    · intro hfailed env henv
      rw [hstream]
      exact (horder.owing hfailed env ((howed env).mp henv)).mono hsubscribers
    · intro hfailed hnone
      rw [hstream]
      exact (horder.settled hfailed fun env henv => hnone env ((howed env).mpr henv)).mono
        hsubscribers
  rcases hclient with rfl | ⟨rfl, hleft⟩
  · exact hbase
  · exact ⟨hbase.joined, hbase.written, hbase.queue, hbase.closing,
      fun _ hentered => absurd hentered hleft, hbase.owing, hbase.settled⟩

/-- A send that failed: the frame is not owed any more. -/
theorem InOrder.of_failed_send (horder : InOrder srv owed conn client)
    (hfailed : client.failed = true ∨ client.done = true)
    (hnone : ∀ env, ¬ owed' env) : InOrder srv owed' conn client := by
  refine ⟨horder.joined, horder.written, horder.queue, horder.closing, horder.done,
    fun _ env henv => absurd henv (hnone env), ?_⟩
  intro hworking _
  have hdone : client.done = true := by
    rcases hfailed with hfailed | hdone
    · rw [hworking] at hfailed
      cases hfailed
    · exact hdone
  refine ⟨horder.sent_initial hworking, fun hentered => ?_⟩
  rw [horder.done hdone hentered] at hworking
  cases hworking

theorem InOrder.of_enqueue (horder : InOrder srv owed conn client) {source : ℕ} {env : Envelope}
    (howed : owed env) (hnone : ∀ env, ¬ owed' env) :
    InOrder srv owed' conn (client.enqueue ⟨source, env⟩) := by
  refine ⟨horder.joined, horder.written, ?_, horder.closing, horder.done,
    fun _ env henv => absurd henv (hnone env), ?_⟩
  · intro hworking
    have hqueue := horder.queue hworking
    simp only [ClientConn.enqueue, List.map_append, List.map_cons, List.map_nil, ← hqueue,
      List.append_assoc]
  · intro hworking _
    rw [ClientConn.enqueue, List.map_append]
    exact horder.owing hworking env howed

/-- The snapshot of `ForwardFromPublisher`: the frame is owed to exactly the
clients in the map. -/
theorem InOrder.of_forward (horder : InOrder srv owed conn client) {env : Envelope}
    (hforwarded : (srv'.objects client.session).forwarded =
      (srv.objects client.session).forwarded ++ [env])
    (hsubscribers : (srv'.objects client.session).subscribers =
      (srv.objects client.session).subscribers)
    (hnone : ∀ env, ¬ owed env)
    (howed : ∀ frame, owed' frame ↔
      frame = env ∧ conn ∈ (srv.objects client.session).subscribers) :
    InOrder srv' owed' conn client := by
  have hstream : stream srv' client = stream srv client ++ [env] := by
    rw [stream, stream, hforwarded, List.drop_append_of_le_length horder.joined]
  refine ⟨?_, ?_, horder.queue, horder.closing, hsubscribers ▸ horder.done, ?_, ?_⟩
  · rw [hforwarded, List.length_append]
    exact Nat.le_add_right_of_le horder.joined
  · rw [hstream]
    exact horder.written.trans (List.prefix_append _ _)
  · intro hworking frame hframe
    obtain ⟨rfl, hentered⟩ := (howed frame).mp hframe
    rw [hstream, (horder.settled hworking hnone).2 hentered]
    exact ⟨List.prefix_refl _, fun _ => rfl⟩
  · intro hworking hsettled
    rw [hstream, hsubscribers]
    refine ⟨(horder.sent_initial hworking).trans (List.prefix_append _ _), fun hentered => ?_⟩
    exact absurd ((howed env).mpr ⟨rfl, hentered⟩) (hsettled env)

theorem InOrder.of_writer (horder : InOrder srv owed conn client)
    {input : ClientConn.WriterInput} (hwrite : WriterStep client input client')
    (hworking : input = .wrote true → client.failed = false) :
    InOrder srv owed conn client' := by
  cases hwrite with
  | move writer hheld hheld' hclosing =>
      refine ⟨horder.joined, horder.written, ?_, fun heq => absurd heq hclosing, horder.done,
        horder.owing, horder.settled⟩
      intro hfailed
      have hqueue := horder.queue hfailed
      rw [hheld] at hqueue
      rw [hheld']
      exact hqueue
  | receive env rest writer hsendCh hheld hheld' =>
      refine ⟨horder.joined, horder.written, ?_, ?_, horder.done, horder.owing, horder.settled⟩
      · intro hfailed
        have hqueue := horder.queue hfailed
        rw [hheld, hsendCh] at hqueue
        rw [hheld']
        simpa using hqueue
      · intro hclosing
        rw [show writer = .closing from hclosing] at hheld'
        cases hheld'
  | wrote env writer hinput hheld hheld' hclosing =>
      have hfailed := hworking hinput
      have hqueue := horder.queue hfailed
      rw [hheld] at hqueue
      refine ⟨horder.joined, ?_, ?_, fun heq => absurd heq hclosing, horder.done, horder.owing,
        horder.settled⟩
      · refine List.IsPrefix.trans ?_ (horder.sent_initial hfailed)
        rw [← hqueue]
        exact List.prefix_append _ _
      · intro _
        rw [hheld', List.append_nil]
        exact hqueue
  | failed env writer hheld hheld' =>
      exact ⟨horder.joined, horder.written, nofun, fun _ => rfl, fun _ _ => rfl, nofun, nofun⟩
  | close hwriter =>
      have hfailed := horder.closing hwriter
      exact ⟨horder.joined, horder.written,
        fun hworking => absurd (hworking.symm.trans hfailed) (by decide), nofun,
        fun _ _ => hfailed, fun hworking => absurd (hworking.symm.trans hfailed) (by decide),
        fun hworking => absurd (hworking.symm.trans hfailed) (by decide)⟩

end Client

/-! ## All subscribers -/

structure GapFree (state : State) : Prop where
  clients : ∀ conn client, state.server.clients conn = some client →
    client.role = .subscriber →
      InOrder state.server (Owed state client.session conn) conn client
  single : ∀ conn other session, forwards (state.handlers conn) = some session →
    forwards (state.handlers other) = some session → conn = other
  distinct : ∀ conn, (pending (state.handlers conn)).Nodup
  subscribers : ∀ session, (state.server.objects session).subscribers.Nodup
  left : ∀ conn session, state.handlers conn = .hangUp session →
    conn ∉ (state.server.objects session).subscribers
  removed : ∀ conn ∈ state.server.removed, state.server.clients conn ≠ none ∧
    ∀ session, conn ∉ (state.server.objects session).subscribers

/-- Nothing is forwarded, nobody enters, and clients are closed only when they
are out of the map. -/
structure Neutral (srv srv' : Server) : Prop where
  forwarded : ∀ session < srv.created,
    (srv'.objects session).forwarded = (srv.objects session).forwarded
  subscribers : ∀ session,
    List.Sublist (srv'.objects session).subscribers (srv.objects session).subscribers
  clients : ∀ conn client', srv'.clients conn = some client' → client'.role = .subscriber →
    ∃ client, srv.clients conn = some client ∧ (client' = client ∨
      client' = client.close ∧ conn ∉ (srv'.objects client.session).subscribers)

section Neutral

variable {srv srv' : Server}

/-- A step that touches neither subscribers nor their clients. -/
theorem Neutral.of_eq (hobjects : ∀ session < srv.created,
      (srv'.objects session).forwarded = (srv.objects session).forwarded)
    (hsubscribers : ∀ session,
      List.Sublist (srv'.objects session).subscribers (srv.objects session).subscribers)
    (hclients : ∀ conn client', srv'.clients conn = some client' →
      client'.role = .subscriber → srv.clients conn = some client') : Neutral srv srv' :=
  ⟨hobjects, hsubscribers, fun conn client' hclient' hrole =>
    ⟨client', hclients conn client' hclient' hrole, .inl rfl⟩⟩

theorem Neutral.of_same (hobjects : srv'.objects = srv.objects)
    (hclients : srv'.clients = srv.clients) : Neutral srv srv' :=
  .of_eq (fun _ _ => by rw [hobjects]) (fun _ => by rw [hobjects])
    (fun _ _ hclient _ => hclients ▸ hclient)

theorem Neutral.setObject {session : ℕ} {object : RelaySession}
    (hforwarded : object.forwarded = (srv.objects session).forwarded)
    (hsubscribers : List.Sublist object.subscribers (srv.objects session).subscribers) :
    Neutral srv (srv.setObject session object) :=
  .of_eq (fun other _ => srv.setObject_congr RelaySession.forwarded hforwarded other)
    (srv.setObject_related (fun before after => List.Sublist after.subscribers before.subscribers)
      (fun _ => List.Sublist.refl _) hsubscribers)
    (fun _ _ hclient _ => hclient)

theorem Neutral.removeSubscriber (session conn : ℕ) : Neutral srv
    (srv.setObject session ((srv.objects session).removeSubscriber conn)) :=
  .setObject rfl List.filter_sublist

/-- A new session takes the place of an object that was never used. -/
theorem Neutral.createSession (sessionID : SessionID) :
    Neutral srv (srv.createSession sessionID) := by
  refine .of_eq ?_ ?_ (fun _ _ hclient _ => hclient)
  · intro session hsession
    simp [Server.createSession, hsession.ne]
  · intro session
    by_cases hnew : session = srv.created
    · subst hnew
      simp [Server.createSession, RelaySession.new]
    · simp [Server.createSession, hnew]

theorem Neutral.registerPublisher (env : Envelope) (session conn joined : ℕ) : Neutral srv
    ((srv.setObject session { srv.objects session with publisher := some conn }).setClient conn
      (.new .publisher env session joined)) := by
  have hobject : Neutral srv
      (srv.setObject session { srv.objects session with publisher := some conn }) :=
    .setObject rfl (List.Sublist.refl _)
  refine .of_eq hobject.forwarded hobject.subscribers ?_
  intro other client hclient hrole
  by_cases hother : other = conn
  · subst hother
    simp only [Server.setClient_clients, Function.update_self, Option.some.injEq] at hclient
    subst hclient
    cases hrole
  · simpa [hother] using hclient

theorem Neutral.sendFrame {publisher session : ℕ}
    (hregistered : Registered srv publisher .publisher session) (transfer : Transfer)
    (written : Bool) : Neutral srv (srv.sendFrame publisher transfer written) := by
  obtain ⟨own, hown, hrole, -⟩ := hregistered
  refine .of_eq (fun _ _ => by rw [Server.sendFrame_objects])
    (fun _ => by rw [Server.sendFrame_objects]) ?_
  intro conn client' hclient' hsubscriber
  rcases srv.sendFrame_cases publisher transfer written with hsame | ⟨client, hclient, hsent⟩
  · rwa [hsame] at hclient'
  · simp only [hsent, Server.setClient_clients] at hclient'
    by_cases hconn : conn = publisher
    · subst hconn
      obtain rfl := Option.some.inj (hclient.symm.trans hown)
      rw [Function.update_self] at hclient'
      obtain rfl := Option.some.inj hclient'
      rw [ClientConn.accept, hrole] at hsubscriber
      cases hsubscriber
    · rwa [Function.update_of_ne hconn] at hclient'

theorem Neutral.closeClients {conns : List ℕ}
    (hleft : ∀ conn ∈ conns, ∀ client, srv.clients conn = some client →
      conn ∉ (srv.objects client.session).subscribers) :
    Neutral srv (srv.closeClients conns) := by
  refine ⟨fun _ _ => rfl, fun _ => List.Sublist.refl _, ?_⟩
  intro conn client' hclient' _
  simp only [Server.closeClients] at hclient'
  split at hclient'
  · rename_i hconn
    obtain ⟨client, hclient, rfl⟩ := Option.map_eq_some_iff.mp hclient'
    exact ⟨client, hclient, .inr ⟨rfl, hleft conn hconn client hclient⟩⟩
  · exact ⟨client', hclient', .inl rfl⟩

theorem Neutral.closeSession (hvalid : ServerValid srv) (target : ℕ) :
    Neutral srv (srv.closeSession target) := by
  rw [Server.closeSession]
  split
  · exact .of_same rfl rfl
  rename_i hopen
  have hclose : (srv.objects target).close =
      { srv.objects target with closed := true, publisher := none, subscribers := [] } := by
    rw [RelaySession.close, if_neg hopen]
  have hobject : Neutral srv (srv.setObject target (srv.objects target).close) :=
    .setObject (by rw [hclose]) (by rw [hclose]; exact List.nil_sublist _)
  refine ⟨hobject.forwarded, hobject.subscribers, ?_⟩
  intro conn client' hclient' hsubscriber
  simp only [Server.setObject_clients, Server.closeClients] at hclient'
  split at hclient'
  · rename_i hmember
    obtain ⟨client, hclient, rfl⟩ := Option.map_eq_some_iff.mp hclient'
    refine ⟨client, hclient, .inr ⟨rfl, ?_⟩⟩
    -- A subscriber among the members of the session registered on it.
    have htarget : client.session = target := by
      rcases List.mem_append.mp hmember with hpublisher | hconn
      · obtain ⟨own, hown, hrole, -⟩ :=
          hvalid.publishers target conn (Option.mem_toList.mp hpublisher)
        obtain rfl := Option.some.inj (hclient.symm.trans hown)
        rw [ClientConn.close, hrole] at hsubscriber
        cases hsubscriber
      · obtain ⟨own, hown, -, hsession⟩ := hvalid.subscribers target conn hconn
        obtain rfl := Option.some.inj (hclient.symm.trans hown)
        exact hsession
    simp [htarget, hclose]
  · exact ⟨client', hclient', .inl rfl⟩

end Neutral

theorem clients_of_neutral {state state' : State} (hvalid : WellFormed state)
    (hfree : GapFree state) (hneutral : Neutral state.server state'.server)
    (howed : ∀ session subscriber env,
      Owed state' session subscriber env ↔ Owed state session subscriber env) :
    ∀ conn client', state'.server.clients conn = some client' → client'.role = .subscriber →
      InOrder state'.server (Owed state' client'.session conn) conn client' := by
  intro conn client' hclient' hrole
  obtain ⟨client, hclient, hheir⟩ := hneutral.clients conn client' hclient' hrole
  have hsame : client'.role = client.role ∧ client'.session = client.session := by
    rcases hheir with rfl | ⟨rfl, -⟩ <;> exact ⟨rfl, rfl⟩
  rw [hsame.1] at hrole
  rw [hsame.2]
  exact (hfree.clients conn client hclient hrole).of_neutral hheir
    (hneutral.forwarded _ (hvalid.server.clients conn client hclient).session.1)
    (fun hentered => (hneutral.subscribers _).subset hentered) (howed _ _)

/-! ## Steps of a handler -/

theorem not_owes_of_pending {handler : Handler} (hpending : pending handler = [])
    (session subscriber : ℕ) (env : Envelope) : ¬ Owes handler session subscriber env := by
  rintro ⟨last, rest, rfl, hmem⟩
  obtain rfl : rest = [] := hpending
  cases hmem

theorem Owes.forwards {handler : Handler} {session subscriber : ℕ} {env : Envelope}
    (howes : Owes handler session subscriber env) : forwards handler = some session := by
  obtain ⟨last, rest, rfl, -⟩ := howes
  rfl

@[simp]
theorem owes_forwarding (session target subscriber : ℕ) (env frame : Envelope) (last : Bool)
    (rest : List ℕ) : Owes (.forwarding session env last rest) target subscriber frame ↔
      target = session ∧ frame = env ∧ subscriber ∈ rest := by
  constructor
  · rintro ⟨_, _, hforwarding, hmem⟩
    cases hforwarding
    exact ⟨rfl, rfl, hmem⟩
  · rintro ⟨rfl, rfl, hmem⟩
    exact ⟨last, rest, rfl, hmem⟩

section Sections

variable {state state' : State} {conn : ℕ} {handler' : Handler}
variable (hhandlers : state'.handlers = Function.update state.handlers conn handler')

include hhandlers

/-- What is owed after the step of one handler. -/
theorem owed_update (session subscriber : ℕ) (env : Envelope) :
    Owed state' session subscriber env ↔ Owes handler' session subscriber env ∨
      ∃ other ≠ conn, Owes (state.handlers other) session subscriber env := by
  rw [Owed, hhandlers, Function.exists_update_iff state.handlers
    (p := fun _ handler => Owes handler session subscriber env)]

theorem owed_iff_of_owes {session subscriber : ℕ} {env : Envelope}
    (hsame : Owes handler' session subscriber env ↔
      Owes (state.handlers conn) session subscriber env) :
    Owed state' session subscriber env ↔ Owed state session subscriber env := by
  have hstays := owed_update (Function.update_eq_self conn state.handlers).symm session
    subscriber env
  rw [owed_update hhandlers, hsame, hstays]

theorem single_update (hfree : GapFree state)
    (halone : ∀ session, forwards handler' = some session → ∀ other ≠ conn,
      forwards (state.handlers other) ≠ some session) :
    ∀ one other session, forwards (state'.handlers one) = some session →
      forwards (state'.handlers other) = some session → one = other := by
  intro one other session hone hother
  rw [hhandlers] at hone hother
  by_cases hmover : one = conn
  · subst hmover
    rw [Function.update_self] at hone
    by_contra hne
    rw [Function.update_of_ne (Ne.symm hne)] at hother
    exact halone session hone other (Ne.symm hne) hother
  · rw [Function.update_of_ne hmover] at hone
    by_cases hmover' : other = conn
    · subst hmover'
      rw [Function.update_self] at hother
      exact absurd hone (halone session hother one hmover)
    · rw [Function.update_of_ne hmover'] at hother
      exact hfree.single one other session hone hother

theorem distinct_update (hfree : GapFree state) (hdistinct : (pending handler').Nodup) :
    ∀ other, (pending (state'.handlers other)).Nodup := by
  rw [hhandlers, Function.forall_update_iff state.handlers
    (p := fun _ handler => (pending handler).Nodup)]
  exact ⟨hdistinct, fun other _ => hfree.distinct other⟩

/-- Whoever has left stays out, unless the section registers somebody. -/
theorem left_update (hfree : GapFree state)
    (hleft : ∀ session, handler' = .hangUp session →
      conn ∉ (state'.server.objects session).subscribers)
    (hsubscribers : ∀ other ≠ conn, ∀ session,
      other ∈ (state'.server.objects session).subscribers →
        other ∈ (state.server.objects session).subscribers) :
    ∀ other session, state'.handlers other = .hangUp session →
      other ∉ (state'.server.objects session).subscribers := by
  rw [hhandlers, Function.forall_update_iff state.handlers
    (p := fun other handler => ∀ session, handler = .hangUp session →
      other ∉ (state'.server.objects session).subscribers)]
  exact ⟨hleft, fun other hother session hhangUp hentered =>
    hfree.left other session hhangUp (hsubscribers other hother session hentered)⟩

end Sections

/-- Sections outside of a registration and a fan-out. -/
structure Passive (srv : Server) (conn : ℕ) (handler : Handler) (srv' : Server)
    (handler' : Handler) : Prop where
  neutral : Neutral srv srv'
  removed : srv'.removed = srv.removed
  before : pending handler = []
  after : pending handler' = []
  stops : forwards handler' = none
  left : ∀ session, handler' = .hangUp session →
    conn ∉ (srv'.objects session).subscribers

/-- Before its registration a client is in no snapshot of a fan-out. -/
theorem not_owes_of_fresh {state : State} (hvalid : WellFormed state) {conn : ℕ}
    (hfresh : state.server.clients conn = none) (other target : ℕ) (frame : Envelope) :
    ¬ Owes (state.handlers other) target conn frame := by
  rintro ⟨last, rest, hforwarding, hmem⟩
  have hregistered := hvalid.handlers other
  rw [hforwarding] at hregistered
  obtain ⟨client, hclient, -⟩ := hregistered.2 conn hmem
  rw [hfresh] at hclient
  cases hclient

theorem not_entered_of_fresh {state : State} (hvalid : WellFormed state) {conn : ℕ}
    (hfresh : state.server.clients conn = none) (target : ℕ) :
    conn ∉ (state.server.objects target).subscribers := by
  intro hentered
  obtain ⟨client, hclient, -⟩ := hvalid.server.subscribers target conn hentered
  rw [hfresh] at hclient
  cases hclient

section Fan

variable {state state' : State} {conn : ℕ} {handler' : Handler}
variable (hvalid : WellFormed state) (hfree : GapFree state)
variable (hhandlers : state'.handlers = Function.update state.handlers conn handler')

include hvalid hfree hhandlers

theorem gapFree_of_passive (hgrows : Grows state.server state'.server)
    (hpassive : Passive state.server conn (state.handlers conn) state'.server handler') :
    GapFree state' where
  clients := by
    refine clients_of_neutral hvalid hfree hpassive.neutral fun _ _ _ => ?_
    exact owed_iff_of_owes hhandlers (iff_of_false
      (not_owes_of_pending hpassive.after _ _ _) (not_owes_of_pending hpassive.before _ _ _))
  single := single_update hhandlers hfree (by simp [hpassive.stops])
  distinct := distinct_update hhandlers hfree (by simp [hpassive.after])
  subscribers := fun session =>
    (hfree.subscribers session).sublist (hpassive.neutral.subscribers session)
  left := left_update hhandlers hfree hpassive.left fun _ _ session hentered =>
    (hpassive.neutral.subscribers session).subset hentered
  removed := by
    intro other hremoved
    rw [hpassive.removed] at hremoved
    obtain ⟨hclient, hleft⟩ := hfree.removed other hremoved
    obtain ⟨client, hclient⟩ := Option.ne_none_iff_exists'.mp hclient
    obtain ⟨client', hclient', -⟩ := hgrows.clients other client hclient
    exact ⟨Option.ne_none_iff_exists'.mpr ⟨client', hclient'⟩, fun session hentered =>
      hleft session ((hpassive.neutral.subscribers session).subset hentered)⟩

/-- A newcomer is owed nothing. -/
theorem gapFree_of_registerSubscriber {env : Envelope} {session : ℕ}
    (hpoint : state.handlers conn = .register .subscriber env session)
    (hserver : state'.server =
      (state.server.setObject session
        ((state.server.objects session).registerSubscriber conn)).setClient conn
          (.new .subscriber env session (state.server.objects session).forwarded.length))
    (hnext : handler' = .findPublisher env session) : GapFree state' := by
  have hfresh : state.server.clients conn = none := by
    have hregister := hvalid.handlers conn
    rw [hpoint] at hregister
    exact hregister.2
  have howed : ∀ target subscriber frame,
      Owed state' target subscriber frame ↔ Owed state target subscriber frame := by
    intro target subscriber frame
    refine owed_iff_of_owes hhandlers (iff_of_false ?_ ?_)
    · rw [hnext]
      exact not_owes_of_pending rfl _ _ _
    · rw [hpoint]
      exact not_owes_of_pending rfl _ _ _
  have hforwarded : ∀ target, (state'.server.objects target).forwarded =
      (state.server.objects target).forwarded := by
    rw [hserver]
    exact state.server.setObject_congr RelaySession.forwarded (by rfl)
  have hsubscribers : ∀ other ≠ conn, ∀ target,
      other ∈ (state'.server.objects target).subscribers →
        other ∈ (state.server.objects target).subscribers := by
    intro other hother target hentered
    by_cases htarget : target = session
    · subst htarget
      simpa [hserver, RelaySession.registerSubscriber, hother] using hentered
    · simpa [hserver, htarget] using hentered
  have hclients : ∀ other ≠ conn,
      state'.server.clients other = state.server.clients other := by
    intro other hother
    simp [hserver, hother]
  refine ⟨?_, ?_, ?_, ?_, ?_, ?_⟩
  · intro other client hclient hrole
    by_cases hother : other = conn
    · subst hother
      simp only [hserver, Server.setClient_clients, Function.update_self, Option.some.injEq]
        at hclient
      subst hclient
      refine .new (hforwarded session ▸ rfl) fun frame hframe => ?_
      obtain ⟨owner, howes⟩ := (howed _ _ _).mp hframe
      exact not_owes_of_fresh hvalid hfresh owner _ _ howes
    · rw [hclients other hother] at hclient
      exact (hfree.clients other client hclient hrole).of_neutral (.inl rfl)
        (hforwarded client.session) (hsubscribers other hother client.session)
        (howed client.session other)
  · exact single_update hhandlers hfree (by rw [hnext]; nofun)
  · exact distinct_update hhandlers hfree (by rw [hnext]; exact List.nodup_nil)
  · intro target
    by_cases htarget : target = session
    · subst htarget
      have hout := not_entered_of_fresh hvalid hfresh target
      simpa [hserver, RelaySession.registerSubscriber, List.nodup_append, hout] using
        ⟨hfree.subscribers target, by
          rintro other hentered rfl
          exact hout hentered⟩
    · simpa [hserver, htarget] using hfree.subscribers target
  · exact left_update hhandlers hfree (by rw [hnext]; nofun) hsubscribers
  · intro other hremoved
    rw [hserver] at hremoved
    obtain ⟨hclient, hleft⟩ := hfree.removed other hremoved
    have hother : other ≠ conn := by
      rintro rfl
      exact hclient hfresh
    exact ⟨hclients other hother ▸ hclient, fun target hentered =>
      hleft target (hsubscribers other hother target hentered)⟩

omit hvalid in
theorem gapFree_of_forward {env : Envelope} {session : ℕ} {last : Bool} {conns : List ℕ}
    (hpoint : state.handlers conn = .forward session env last)
    (hperm : conns.Perm (state.server.objects session).subscribers)
    (hserver : state'.server = state.server.setObject session { state.server.objects session with
      forwarded := (state.server.objects session).forwarded ++ [env] })
    (hnext : handler' = .forwarding session env last conns)
    (halone : ∀ other, forwards (state.handlers other) ≠ some session) : GapFree state' := by
  have hsubscribers : ∀ target, (state'.server.objects target).subscribers =
      (state.server.objects target).subscribers := by
    rw [hserver]
    exact state.server.setObject_congr RelaySession.subscribers (by rfl)
  refine ⟨?_, ?_, ?_, ?_, ?_, ?_⟩
  · intro other client hclient hrole
    rw [hserver] at hclient
    have horder := hfree.clients other client hclient hrole
    by_cases hsession : client.session = session
    · have hforwarded : (state'.server.objects client.session).forwarded =
          (state.server.objects client.session).forwarded ++ [env] := by
        simp [hserver, hsession]
      refine horder.of_forward hforwarded (hsubscribers _) ?_ ?_
      · rintro frame ⟨owner, howes⟩
        exact halone owner (hsession ▸ howes.forwards)
      · intro frame
        rw [owed_update hhandlers, hnext, owes_forwarding, hperm.mem_iff, hsession]
        constructor
        · rintro (⟨-, rfl, hentered⟩ | ⟨owner, -, howes⟩)
          · exact ⟨rfl, hentered⟩
          · exact absurd howes.forwards (halone owner)
        · rintro ⟨rfl, hentered⟩
          exact .inl ⟨rfl, rfl, hentered⟩
    · refine horder.of_neutral (.inl rfl) (by simp [hserver, hsession])
        (fun hentered => hsubscribers _ ▸ hentered) fun frame =>
          owed_iff_of_owes hhandlers (iff_of_false ?_ ?_)
      · rw [hnext, owes_forwarding]
        exact fun howes => hsession howes.1
      · rw [hpoint]
        exact not_owes_of_pending rfl _ _ _
  · refine single_update hhandlers hfree ?_
    rw [hnext]
    rintro _ ⟨⟩ other -
    exact halone other
  · refine distinct_update hhandlers hfree ?_
    rw [hnext]
    exact hperm.nodup_iff.mpr (hfree.subscribers session)
  · intro target
    rw [hsubscribers]
    exact hfree.subscribers target
  · exact left_update hhandlers hfree (by rw [hnext]; nofun) fun other _ target hentered =>
      hsubscribers target ▸ hentered
  · intro other hremoved
    rw [hserver] at hremoved
    obtain ⟨hclient, hleft⟩ := hfree.removed other hremoved
    exact ⟨hserver ▸ hclient, fun target hentered => hleft target (hsubscribers target ▸ hentered)⟩

/-- `ForwardFromPublisher` has come to the next subscriber. -/
theorem gapFree_of_forwarding {env : Envelope} {session subscriber : ℕ} {last : Bool}
    {rest : List ℕ}
    (hpoint : state.handlers conn = .forwarding session env last (subscriber :: rest))
    (hnext : handler' = .forwarding session env last rest)
    (hobjects : state'.server.objects = state.server.objects)
    (hremoved : state'.server.removed = state.server.removed)
    (hclients : ∀ other ≠ subscriber,
      state'.server.clients other = state.server.clients other)
    (hsubscriber : ∀ client, state.server.clients subscriber = some client →
      client.role = .subscriber → client.session = session →
        ∃ client', state'.server.clients subscriber = some client' ∧
          client'.session = session ∧ ∀ owed, (∀ frame, ¬ owed frame) →
            InOrder state'.server owed subscriber client') : GapFree state' := by
  have hdistinct : (subscriber :: rest).Nodup := by
    have hpending := hfree.distinct conn
    rwa [hpoint] at hpending
  have hforwards : forwards (state.handlers conn) = some session := by rw [hpoint, forwards]
  obtain ⟨client, hclient, hrole, hsession⟩ :
      Registered state.server subscriber .subscriber session := by
    have hforwarding := hvalid.handlers conn
    rw [hpoint] at hforwarding
    exact hforwarding.2 subscriber List.mem_cons_self
  obtain ⟨client', hclient', hsession', horder⟩ := hsubscriber client hclient hrole hsession
  refine ⟨?_, ?_, ?_, ?_, ?_, ?_⟩
  · intro other found hfound hfoundRole
    by_cases hother : other = subscriber
    · subst hother
      obtain rfl := Option.some.inj (hclient'.symm.trans hfound)
      -- Nobody else forwards on this session and the snapshot lists nobody twice.
      refine horder _ fun frame howed => ?_
      rw [owed_update hhandlers, hnext, owes_forwarding, hsession'] at howed
      rcases howed with ⟨-, -, hmem⟩ | ⟨owner, howner, howes⟩
      · exact (List.nodup_cons.mp hdistinct).1 hmem
      · exact howner (hfree.single owner conn session howes.forwards hforwards)
    · rw [hclients other hother] at hfound
      refine (hfree.clients other found hfound hfoundRole).of_neutral (.inl rfl)
        (by rw [hobjects]) (by rw [hobjects]; exact id) fun frame =>
          owed_iff_of_owes hhandlers ?_
      rw [hnext, hpoint, owes_forwarding, owes_forwarding, List.mem_cons, or_iff_right hother]
  · refine single_update hhandlers hfree ?_
    rw [hnext]
    rintro _ ⟨⟩ other hother hforwarding
    exact hother (hfree.single other conn session hforwarding hforwards)
  · refine distinct_update hhandlers hfree ?_
    rw [hnext]
    exact (List.nodup_cons.mp hdistinct).2
  · rw [hobjects]
    exact hfree.subscribers
  · refine left_update hhandlers hfree (by rw [hnext]; nofun) ?_
    rw [hobjects]
    exact fun _ _ _ => id
  · intro other hother
    rw [hremoved] at hother
    rw [hobjects]
    obtain ⟨hfound, hleft⟩ := hfree.removed other hother
    refine ⟨?_, hleft⟩
    by_cases hsame : other = subscriber
    · rw [hsame, hclient']
      nofun
    · rw [hclients other hsame]
      exact hfound

/-- The frame goes into the subscriber's queue, where it had been owed. -/
theorem gapFree_of_forwardEnqueue {env : Envelope} {session subscriber : ℕ} {last : Bool}
    {rest : List ℕ} {client : ClientConn}
    (hpoint : state.handlers conn = .forwarding session env last (subscriber :: rest))
    (hclient : state.server.clients subscriber = some client)
    (hserver : state'.server = state.server.setClient subscriber (client.enqueue ⟨conn, env⟩))
    (hnext : handler' = .forwarding session env last rest) : GapFree state' := by
  refine gapFree_of_forwarding hvalid hfree hhandlers hpoint hnext (by rw [hserver]; rfl)
    (by rw [hserver]; rfl) ?_ ?_
  · intro other hother
    simp [hserver, hother]
  · intro found hfound hrole hsession
    obtain rfl := Option.some.inj (hclient.symm.trans hfound)
    refine ⟨client.enqueue ⟨conn, env⟩, by simp [hserver], hsession, fun owed hnone => ?_⟩
    rw [hserver]
    refine ((hfree.clients subscriber client hclient hrole).of_enqueue ⟨conn, ?_⟩ hnone).of_neutral
      (.inl rfl) rfl id fun _ => Iff.rfl
    rw [hpoint, owes_forwarding, hsession]
    exact ⟨rfl, rfl, List.mem_cons_self⟩

/-- The frame is skipped, for a subscriber that is closed or whose write has failed. -/
theorem gapFree_of_forwardFailed {env : Envelope} {session subscriber : ℕ} {last : Bool}
    {rest : List ℕ}
    (hpoint : state.handlers conn = .forwarding session env last (subscriber :: rest))
    (hserver : state'.server =
      { state.server with removals := state.server.removals ++ [(session, subscriber)] })
    (hnext : handler' = .forwarding session env last rest)
    (hfailed : ∀ client, state.server.clients subscriber = some client →
      client.failed = true ∨ client.done = true) : GapFree state' := by
  refine gapFree_of_forwarding hvalid hfree hhandlers hpoint hnext (by rw [hserver])
    (by rw [hserver]) (fun _ _ => by rw [hserver]) ?_
  intro client hclient hrole hsession
  refine ⟨client, by rw [hserver]; exact hclient, hsession, fun owed hnone => ?_⟩
  rw [hserver]
  exact ((hfree.clients subscriber client hclient hrole).of_failed_send (hfailed client hclient)
    hnone).of_neutral (.inl rfl) rfl id fun _ => Iff.rfl

theorem gapFree_of_section {input : Input} (hassume : Assumptions state (.handler conn input))
    (hgrows : Grows state.server state'.server)
    (hsection : Section conn state.server input (state.handlers conn) state'.server handler') :
    GapFree state' := by
  have hhandler := hvalid.handlers conn
  have hleft := hfree.left conn
  have hquiet : Passive state.server conn (state.handlers conn) state'.server handler' →
      GapFree state' := gapFree_of_passive hvalid hfree hhandlers hgrows
  generalize hpoint : state.handlers conn = handler at hsection hhandler hleft hquiet
  generalize hserver : state'.server = srv' at hsection hquiet
  cases hsection with
  | registerSubscriber env session =>
      exact gapFree_of_registerSubscriber hvalid hfree hhandlers hpoint hserver rfl
  | forward session env last conns hperm =>
      exact gapFree_of_forward hfree hhandlers hpoint hperm hserver rfl
        (hassume.sequential conn input session env last rfl hpoint)
  | forwardEnqueue session env last subscriber rest client hclient =>
      exact gapFree_of_forwardEnqueue hvalid hfree hhandlers hpoint hclient hserver rfl
  | forwardFailed session env last subscriber rest hfailed =>
      refine gapFree_of_forwardFailed hvalid hfree hhandlers hpoint hserver rfl ?_
      intro client hclient
      rcases hfailed with hclosed | rfl
      · rw [Server.isClosed, hclient] at hclosed
        exact .inr hclosed
      · obtain ⟨found, hfound, hfailed, -⟩ :=
          hassume.timeout conn session env last subscriber rest rfl hpoint
        obtain rfl := Option.some.inj (hclient.symm.trans hfound)
        exact .inl hfailed
  | fetchNew role env =>
      exact hquiet ⟨.createSession _, rfl, rfl, rfl, rfl, by rintro _ ⟨⟩⟩
  | registerPublisher env session =>
      exact hquiet ⟨.registerPublisher env session conn _, rfl, rfl, rfl, rfl, by rintro _ ⟨⟩⟩
  | greet session | greetDone session =>
      exact hquiet ⟨.setObject rfl (List.Sublist.refl _), rfl, rfl, rfl, rfl, by rintro _ ⟨⟩⟩
  | greetSend session subscriber rest client written =>
      exact hquiet ⟨.sendFrame hhandler.1 _ _, by simp, rfl, rfl, rfl, by rintro _ ⟨⟩⟩
  | announce env session publisher written | sendTo session env publisher written =>
      exact hquiet ⟨.sendFrame hhandler.2 _ _, by simp, rfl, rfl, rfl, by rintro _ ⟨⟩⟩
  | syncSend env publisher written =>
      obtain ⟨-, session, -, hregistered⟩ := hhandler
      have hsend := Neutral.sendFrame hregistered ⟨conn, env⟩ written
      exact hquiet ⟨⟨hsend.forwarded, hsend.subscribers, hsend.clients⟩,
        by simp [Server.closeNet], rfl, rfl, rfl, by rintro _ ⟨⟩⟩
  | leave session next hnext =>
      have hobject : Neutral state.server _ := .removeSubscriber session conn
      rcases hnext with rfl | rfl
      · refine hquiet ⟨hobject, rfl, rfl, rfl, rfl, ?_⟩
        rintro _ ⟨⟩
        simp [RelaySession.removeSubscriber]
      · exact hquiet ⟨hobject, rfl, rfl, rfl, rfl, by rintro _ ⟨⟩⟩
  | hangUp session =>
      refine hquiet ⟨.closeClients ?_, rfl, rfl, rfl, rfl, by rintro _ ⟨⟩⟩
      intro other hother client hclient
      obtain rfl := List.mem_singleton.mp hother
      obtain ⟨own, hown, -, hsession⟩ := hhandler
      obtain rfl := Option.some.inj (hclient.symm.trans hown)
      rw [hsession]
      exact hleft session rfl
  | removeClose role session sessionID target =>
      have hclose := Neutral.closeSession hvalid.server target
      exact hquiet ⟨⟨hclose.forwarded, hclose.subscribers, hclose.clients⟩, by simp, rfl, rfl, rfl,
        by rintro _ ⟨⟩⟩
  | _ => exact hquiet ⟨.of_same rfl rfl, rfl, rfl, rfl, rfl, by rintro _ ⟨⟩⟩

end Fan

/-! ## Steps of the other goroutines -/

section Tasks

variable {state state' : State} (hvalid : WellFormed state) (hfree : GapFree state)
variable (hhandlers : state'.handlers = state.handlers)

include hvalid hfree hhandlers

theorem gapFree_of_neutral (hneutral : Neutral state.server state'.server)
    (hremoved : ∀ conn ∈ state'.server.removed, state'.server.clients conn ≠ none ∧
      ∀ session, conn ∉ (state'.server.objects session).subscribers) : GapFree state' where
  clients := clients_of_neutral hvalid hfree hneutral fun _ _ _ => by rw [Owed, Owed, hhandlers]
  single := hhandlers ▸ hfree.single
  distinct := hhandlers ▸ hfree.distinct
  subscribers := fun session => (hfree.subscribers session).sublist (hneutral.subscribers session)
  left := by
    intro conn session hhangUp hentered
    rw [hhandlers] at hhangUp
    exact hfree.left conn session hhangUp ((hneutral.subscribers session).subset hentered)
  removed := hremoved

omit hvalid in
theorem gapFree_of_writer {conn : ℕ} {input : ClientConn.WriterInput}
    {client client' : ClientConn} (hclient : state.server.clients conn = some client)
    (hserver : state'.server = state.server.setClient conn client')
    (hwrite : WriterStep client input client')
    (hworking : input = .wrote true → client.failed = false) : GapFree state' := by
  have hsame : client'.role = client.role ∧ client'.session = client.session := by
    cases hwrite <;> exact ⟨rfl, rfl⟩
  have howed : ∀ session subscriber env,
      Owed state' session subscriber env ↔ Owed state session subscriber env :=
    fun _ _ _ => by rw [Owed, Owed, hhandlers]
  have hobjects : state'.server.objects = state.server.objects := by rw [hserver]; rfl
  refine ⟨?_, hhandlers ▸ hfree.single, hhandlers ▸ hfree.distinct, hobjects ▸ hfree.subscribers,
    hobjects ▸ hhandlers ▸ hfree.left, ?_⟩
  · intro other found hfound hrole
    by_cases hother : other = conn
    · subst hother
      simp only [hserver, Server.setClient_clients, Function.update_self, Option.some.injEq]
        at hfound
      subst hfound
      rw [hsame.1] at hrole
      rw [hsame.2]
      exact ((hfree.clients other client hclient hrole).of_writer hwrite hworking).of_neutral
        (.inl rfl) (by rw [hobjects]) (by rw [hobjects]; exact id) (howed _ _)
    · simp only [hserver, Server.setClient_clients, Function.update_of_ne hother] at hfound
      exact (hfree.clients other found hfound hrole).of_neutral (.inl rfl) (by rw [hobjects])
        (by rw [hobjects]; exact id) (howed _ _)
  · intro other hremoved
    rw [hserver] at hremoved
    obtain ⟨hfound, hleft⟩ := hfree.removed other hremoved
    refine ⟨?_, hobjects ▸ hleft⟩
    by_cases hother : other = conn
    · subst hother
      simp [hserver]
    · simpa [hserver, hother] using hfound

theorem gapFree_of_background {task : Task} (hassume : Assumptions state (.task task))
    (hbackground : Background state.server task state'.server) : GapFree state' := by
  have hquiet := gapFree_of_neutral hvalid hfree hhandlers
  have hstays : ∀ conn ∈ state.server.removed, state'.server.clients conn ≠ none := by
    intro conn hremoved
    obtain ⟨client, hclient⟩ := Option.ne_none_iff_exists'.mp (hfree.removed conn hremoved).1
    obtain ⟨client', hclient', -⟩ :=
      (evolves_of_background hbackground).grows.clients conn client hclient
    exact Option.ne_none_iff_exists'.mpr ⟨client', hclient'⟩
  generalize hserver : state'.server = srv' at hbackground hquiet hstays
  have hneutral : Neutral state.server srv' → srv'.removed ⊆ state.server.removed →
      GapFree state' := by
    intro hneutral hremoved
    refine hquiet hneutral fun conn hconn => ⟨hstays conn (hremoved hconn), ?_⟩
    exact fun session hentered => (hfree.removed conn (hremoved hconn)).2 session
      ((hneutral.subscribers session).subset hentered)
  cases hbackground with
  | writer conn input client client' htask hclient hwrite =>
      refine gapFree_of_writer hfree hhandlers hclient hserver hwrite ?_
      rintro rfl
      exact hassume.write conn client (htask ▸ rfl) hclient
  | removeSubscriber session conn htask removals removed hremoved =>
      have hobject : Neutral state.server _ := .removeSubscriber session conn
      refine hquiet ⟨hobject.forwarded, hobject.subscribers, hobject.clients⟩ ?_
      intro other hother
      rcases hremoved other hother with hold | ⟨rfl, hentered⟩
      · exact ⟨(hfree.removed other hold).1, fun target htarget =>
          (hfree.removed other hold).2 target ((hobject.subscribers target).subset htarget)⟩
      obtain ⟨client, hclient, -, hsession⟩ := hvalid.server.subscribers session other hentered
      refine ⟨Option.ne_none_iff_exists'.mpr ⟨client, hclient⟩, fun target htarget => ?_⟩
      -- The client registered on one session only, which has just dropped it.
      obtain ⟨found, hfound, -, hsession'⟩ :=
        hvalid.server.subscribers target other ((hobject.subscribers target).subset htarget)
      obtain rfl := Option.some.inj (hclient.symm.trans hfound)
      obtain rfl := hsession.symm.trans hsession'
      simp [RelaySession.removeSubscriber] at htarget
  | closeRemoved conn removed hconn hremoved =>
      have hclose : Neutral state.server (state.server.closeClients [conn]) := by
        refine .closeClients fun other hother client _ => ?_
        obtain rfl := List.mem_singleton.mp hother
        exact (hfree.removed other hconn).2 _
      exact hneutral ⟨hclose.forwarded, hclose.subscribers, hclose.clients⟩ hremoved
  | sweepClose kind entry rest =>
      have hclose := Neutral.closeSession hvalid.server entry.2
      exact hneutral ⟨hclose.forwarded, hclose.subscribers, hclose.clients⟩ (by simp)
  | _ => exact hneutral (.of_same rfl rfl) (List.Subset.refl _)

end Tasks

theorem gapFree_start : GapFree State.start where
  clients := nofun
  single := nofun
  distinct := fun _ => List.nodup_nil
  subscribers := fun _ => List.nodup_nil
  left := nofun
  removed := nofun

theorem gapFree_step {state state' : State} {label : Label} (hvalid : WellFormed state)
    (hfree : GapFree state) (hassume : Assumptions state label)
    (hstep : state.step label = some state') : GapFree state' := by
  rcases cases_of_step hstep with
    ⟨conn, input, handler', rfl, hsection, hhandlers⟩ | ⟨task, rfl, hbackground, hhandlers⟩
  · have hgrows := (outcome_of_section hvalid.server (hvalid.handlers conn) hsection).grows
    exact gapFree_of_section hvalid hfree hhandlers hassume hgrows hsection
  · exact gapFree_of_background hvalid hfree hhandlers hassume hbackground

theorem gapFree_of_reaches {state : State}
    (hreaches : GuardedReaches State.step Assumptions State.start state) : GapFree state :=
  GuardedReaches.invariant (fun _ hbefore => wellFormed_of_reaches hbefore.reaches)
    gapFree_start (fun _ _ _ => gapFree_step) hreaches

/-- The frames written to a subscriber are the first frames forwarded since its
registration. -/
theorem subscriber_gapFree (state : State)
    (hreaches : GuardedReaches State.step Assumptions State.start state) (conn : ℕ)
    (client : ClientConn) (hclient : state.server.clients conn = some client)
    (hrole : client.role = .subscriber) :
    client.written <+: (state.server.objects client.session).forwarded.drop client.joinedAt :=
  ((gapFree_of_reaches hreaches).clients conn client hclient hrole).written

/-- The condition of `Assumptions`, evaluated for the first `count`
connections. -/
def assumptions (count : ℕ) (state : State) : Label → Bool
  | .handler conn input =>
      match state.handlers conn with
      | .forward session _ _ =>
          decide (∀ other ∈ List.range count, forwards (state.handlers other) ≠ some session)
      | _ => decide (input ≠ .timedOut)
  | .task (.writer conn (.wrote true)) =>
      (state.server.clients conn).all fun client => !client.failed
  | .task _ => true

theorem assumptions_of_eval {count : ℕ} {state : State} {label : Label}
    (hidle : state.IdleFrom count) (heval : assumptions count state label = true) :
    Assumptions state label where
  timeout := by
    rintro conn session env last subscriber rest rfl hpoint
    simp [assumptions, hpoint] at heval
  write := by
    rintro conn client rfl hclient
    simpa [assumptions, hclient] using heval
  sequential := by
    rintro conn input session env last rfl hpoint
    simp only [assumptions, hpoint, decide_eq_true_eq] at heval
    exact hidle.forall (fun _ handler => forwards handler ≠ some session) nofun
      fun other hother => heval other (List.mem_range.mpr hother)

/-- A subscriber joins after a first frame; of the two frames that follow one
has been written to it. -/
def broadcast : List Label :=
  let data := bareFrame msgTypeDataStream
  arrive 0 .publisher ++ settlePublisher 0 ++
    [.handler 0 (.read (some data)), .handler 0 (.order []), .handler 0 .proceed] ++
    arrive 1 .subscriber ++
    [.handler 1 .proceed, .handler 1 .proceed, .handler 1 (.send true),
      .handler 0 (.read (some data)), .handler 0 (.order [1]), .handler 0 .enqueue,
      .handler 0 .proceed, .task (.writer 1 .receive),
      .handler 0 (.read (some data)), .task (.writer 1 (.wrote true)), .handler 0 (.order [1])]

theorem subscriber_gapFree_broadcast : ∃ state : State,
    (state.server.objects 0).forwarded.length = 3 ∧
      ∃ client, state.server.clients 1 = some client ∧ client.joinedAt = 1 ∧
        client.written = [bareFrame msgTypeDataStream] ∧
        client.written <+:
          (state.server.objects client.session).forwarded.drop client.joinedAt := by
  obtain ⟨state, hreaches, hend⟩ := exists_guardedReaches_of_runBelow broadcast
    (fun state => (state.server.objects 0).forwarded.length = 3 ∧
      (state.server.clients 1).map (fun client =>
        (client.role, client.joinedAt, client.written)) =
          some (.subscriber, 1, [bareFrame msgTypeDataStream]))
    (@assumptions_of_eval 2) (by decide +kernel)
  obtain ⟨hforwarded, hview⟩ := of_decide_eq_true hend
  obtain ⟨client, hclient, hfields⟩ := Option.map_eq_some_iff.mp hview
  obtain ⟨hrole, hjoined, hwritten⟩ :
      client.role = .subscriber ∧ client.joinedAt = 1 ∧
        client.written = [bareFrame msgTypeDataStream] := by
    simpa only [Prod.mk.injEq] using hfields
  exact ⟨state, hforwarded, client, hclient, hjoined, hwritten,
    subscriber_gapFree state hreaches 1 client hclient hrole⟩

end ZeroFeed.FanOut
