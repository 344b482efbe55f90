import ZeroFeed.Relay.Directory

/-!
# One live publisher per session

`RegisterPublisher` looks at the publisher the session has and replaces it only
if it is closed, so a session object never loses a live publisher to a newcomer.
`RelaySession.Close` takes the publisher out of the object and closes it in the
same critical section.  Every publisher client that is still open is therefore
the one its session object names, also in objects that have left the map.

A publisher has no writer goroutine, and its `Close` closes the socket together
with the `done` channel; a publisher whose socket is open is not closed in
either sense.
-/

namespace ZeroFeed.Publishers

open ZeroFeed.Messages
open ZeroFeed.Session
open ZeroFeed.Handlers
open ZeroFeed.Isolation
open ZeroFeed.Directory
open ZeroFeed.Transition

/-- The connection of a client is open in one of two senses: `IsClosed` reports
false, or the socket was not closed. -/
def Live (srv : Server) (conn : ℕ) : Prop :=
  srv.isClosed conn = false ∨ srv.netClosed conn = false

/-- A publisher client of a session object whose connection is not closed. -/
def LivePublisher (srv : Server) (session conn : ℕ) : Prop :=
  Registered srv conn .publisher session ∧ Live srv conn

/-! ## The invariant -/

/-- The writer of a publisher has nothing to do. -/
structure Unwritten (client : ClientConn) : Prop where
  sendCh : client.sendCh = []
  held : client.writer.held = []
  closing : client.writer ≠ .closing

structure PublisherValid (srv : Server) : Prop where
  unwritten : ∀ conn client, srv.clients conn = some client → client.role = .publisher →
    Unwritten client
  socket : ∀ conn client, srv.clients conn = some client → client.role = .publisher →
    client.done = true → srv.netClosed conn = true
  sole : ∀ conn client, srv.clients conn = some client → client.role = .publisher →
    client.done = false → (srv.objects client.session).publisher = some conn

/-- A publisher client before and after a step that leaves its socket closed or
open. -/
structure Succeeds (netClosed : Bool) (client client' : ClientConn) : Prop where
  role : client.role = .publisher
  session : client'.session = client.session
  unwritten : Unwritten client → Unwritten client'
  stays : client.done = true → client'.done = true
  socket : client'.done = true → client.done = true ∨ netClosed = true

/-- A step that registers no publisher and takes none that is live out of its
session. -/
structure Steady (srv srv' : Server) : Prop where
  clients : ∀ conn client', srv'.clients conn = some client' → client'.role = .publisher →
    ∃ client, srv.clients conn = some client ∧
      Succeeds (srv'.netClosed conn) client client'
  netClosed : ∀ conn, srv.netClosed conn = true → srv'.netClosed conn = true
  publisher : ∀ session publisher, (srv.objects session).publisher = some publisher →
    srv'.isClosed publisher = true ∨ (srv'.objects session).publisher = some publisher

theorem Succeeds.refl {netClosed : Bool} {client : ClientConn}
    (hrole : client.role = .publisher) : Succeeds netClosed client client :=
  ⟨hrole, rfl, id, id, .inl⟩

section Steps

variable {srv srv' : Server}

theorem PublisherValid.of_steady (hvalid : PublisherValid srv) (hsteady : Steady srv srv') :
    PublisherValid srv' where
  unwritten := by
    intro conn client' hclient' hrole'
    obtain ⟨client, hclient, hsucceeds⟩ := hsteady.clients conn client' hclient' hrole'
    exact hsucceeds.unwritten (hvalid.unwritten conn client hclient hsucceeds.role)
  socket := by
    intro conn client' hclient' hrole' hdone'
    obtain ⟨client, hclient, hsucceeds⟩ := hsteady.clients conn client' hclient' hrole'
    cases hsucceeds.socket hdone' with
    | inl hdone =>
        exact hsteady.netClosed conn (hvalid.socket conn client hclient hsucceeds.role hdone)
    | inr hnet => exact hnet
  sole := by
    intro conn client' hclient' hrole' hopen'
    obtain ⟨client, hclient, hsucceeds⟩ := hsteady.clients conn client' hclient' hrole'
    have hopen : client.done = false := by
      apply Bool.eq_false_iff.mpr
      intro hdone
      exact absurd (hsucceeds.stays hdone) (Bool.eq_false_iff.mp hopen')
    rw [hsucceeds.session]
    cases hsteady.publisher _ conn (hvalid.sole conn client hclient hsucceeds.role hopen) with
    | inl hclosed =>
        rw [Server.isClosed, hclient', Option.any_some, hopen'] at hclosed
        cases hclosed
    | inr hpublisher => exact hpublisher

/-- A step without effect on clients and sockets. -/
theorem Steady.of_clients (hclients : srv'.clients = srv.clients)
    (hnet : ∀ conn, srv.netClosed conn = true → srv'.netClosed conn = true)
    (hpublisher : ∀ session publisher, (srv.objects session).publisher = some publisher →
      (srv'.objects session).publisher = some publisher) : Steady srv srv' where
  clients := by
    intro conn client hclient hrole
    rw [hclients] at hclient
    exact ⟨client, hclient, .refl hrole⟩
  netClosed := hnet
  publisher := fun session publisher hbefore => .inr (hpublisher session publisher hbefore)

theorem Steady.refl (srv : Server) : Steady srv srv :=
  .of_clients rfl (fun _ hnet => hnet) (fun _ _ hpublisher => hpublisher)

theorem Steady.closeNet (hsteady : Steady srv srv') (conn : ℕ) :
    Steady srv (srv'.closeNet conn) where
  clients := by
    intro other client' hclient' hrole'
    obtain ⟨client, hclient, hsucceeds⟩ := hsteady.clients other client' hclient' hrole'
    refine ⟨client, hclient, hsucceeds.role, hsucceeds.session, hsucceeds.unwritten,
      hsucceeds.stays, ?_⟩
    intro hdone
    apply (hsucceeds.socket hdone).imp_right
    intro hnet
    by_cases hsame : other = conn
    · simp [Server.closeNet, hsame]
    · simp [Server.closeNet, hsame, hnet]
  netClosed := by
    intro other hnet
    by_cases hsame : other = conn
    · simp [Server.closeNet, hsame]
    · simpa [Server.closeNet, hsame] using hsteady.netClosed other hnet
  publisher := hsteady.publisher

/-- A session that keeps its publisher. -/
theorem Steady.setObject {session : ℕ} {object : RelaySession}
    (hpublisher : object.publisher = (srv.objects session).publisher) :
    Steady srv (srv.setObject session object) := by
  refine .of_clients rfl (fun _ hnet => hnet) ?_
  intro other publisher hbefore
  exact (srv.setObject_congr RelaySession.publisher hpublisher other).trans hbefore

/-- One client changes. -/
theorem Steady.setClient {conn : ℕ} {client : ClientConn}
    (hclient : client.role = .publisher →
      ∃ before, srv.clients conn = some before ∧
        Succeeds (srv.netClosed conn) before client) :
    Steady srv (srv.setClient conn client) where
  clients := by
    intro other client' hclient' hrole'
    by_cases hsame : other = conn
    · subst hsame
      rw [Server.setClient_clients, Function.update_self] at hclient'
      obtain rfl := Option.some.inj hclient'
      exact hclient hrole'
    · rw [Server.setClient_clients, Function.update_of_ne hsame] at hclient'
      exact ⟨client', hclient', .refl hrole'⟩
  netClosed := fun _ hnet => hnet
  publisher := fun _ _ hpublisher => .inr hpublisher

theorem Steady.sendFrame (publisher : ℕ) (transfer : Transfer) (written : Bool) :
    Steady srv (srv.sendFrame publisher transfer written) := by
  rcases srv.sendFrame_cases publisher transfer written with hsame | ⟨client, hclient, hsent⟩
  · rw [hsame]
    exact .refl srv
  · rw [hsent]
    apply Steady.setClient
    intro hrole
    exact ⟨client, hclient, hrole, rfl,
      fun hidle => ⟨hidle.sendCh, hidle.held, hidle.closing⟩, id, .inl⟩

theorem steady_closeClients (conns : List ℕ) : Steady srv (srv.closeClients conns) where
  clients := by
    intro conn client' hclient' hrole'
    simp only [Server.closeClients] at hclient'
    split at hclient'
    · rename_i hmem
      obtain ⟨client, hclient, rfl⟩ := Option.map_eq_some_iff.mp hclient'
      refine ⟨client, hclient, hrole', rfl,
        fun hidle => ⟨hidle.sendCh, hidle.held, hidle.closing⟩, fun _ => rfl, fun _ => .inr ?_⟩
      have hpublisher : client.role = .publisher := hrole'
      simp [Server.closeClients, hmem, hclient, hpublisher]
    · exact ⟨client', hclient', .refl hrole'⟩
  netClosed := by
    intro conn hnet
    simp [Server.closeClients, hnet]
  publisher := fun _ _ hpublisher => .inr hpublisher

/-- The members of a session are clients, so `Close` closes the publisher. -/
theorem steady_closeSession (hserver : ServerValid srv) (target : ℕ) :
    Steady srv (srv.closeSession target) := by
  rw [Server.closeSession]
  split
  · exact .refl srv
  have hsteady := @steady_closeClients srv (srv.objects target).members
  refine ⟨hsteady.clients, hsteady.netClosed, ?_⟩
  intro session publisher hpublisher
  by_cases hsame : session = target
  · subst hsame
    obtain ⟨client, hclient, -, -⟩ := hserver.publishers session publisher hpublisher
    have hmember : publisher ∈ (srv.objects session).members := by
      simp [RelaySession.members, hpublisher]
    left
    simp [Server.isClosed, Server.closeClients, hmember, hclient, ClientConn.close]
  · right
    rw [Server.setObject_objects, Function.update_of_ne hsame]
    exact hpublisher

theorem steady_createSession (hserver : ServerValid srv) (sessionID : SessionID) :
    Steady srv (srv.createSession sessionID) := by
  refine .of_clients rfl (fun _ hnet => hnet) ?_
  intro session publisher hpublisher
  -- An object that has a publisher exists, so the new one is another.
  obtain ⟨client, hclient, -, hsession⟩ := hserver.publishers session publisher hpublisher
  have hold : session < srv.created := hsession ▸ (hserver.clients _ _ hclient).session.1
  simpa [Server.createSession, Function.update_of_ne hold.ne] using hpublisher

theorem steady_writer {conn : ℕ} {client client' : ClientConn}
    {input : ClientConn.WriterInput} (hvalid : PublisherValid srv)
    (hclient : srv.clients conn = some client) (hwrite : WriterStep client input client') :
    Steady srv (srv.setClient conn client') := by
  apply Steady.setClient
  cases hwrite with
  | move writer _ hheld' hclosing =>
      intro hrole
      exact ⟨client, hclient, hrole, rfl, fun hidle => ⟨hidle.sendCh, hheld', hclosing⟩, id,
        .inl⟩
  | receive env rest writer hsendCh =>
      intro hrole
      have hempty := (hvalid.unwritten conn client hclient hrole).sendCh
      rw [hsendCh] at hempty
      cases hempty
  | wrote env writer _ hheld | failed env writer hheld =>
      intro hrole
      have hempty := (hvalid.unwritten conn client hclient hrole).held
      rw [hheld] at hempty
      cases hempty
  | close hwriter =>
      intro hrole
      exact absurd hwriter (hvalid.unwritten conn client hclient hrole).closing

variable {conn : ℕ} {handler handler' : Handler} {input : Input}

/-- A publisher is entered in place of one that is closed. -/
theorem publisherValid_register (hvalid : PublisherValid srv) (session : ℕ) (env : Envelope)
    (joinedAt : ℕ)
    (hclosed : ∀ publisher, (srv.objects session).publisher = some publisher →
      srv.isClosed publisher = true) :
    PublisherValid ((srv.setObject session
      { srv.objects session with publisher := some conn }).setClient conn
        (.new .publisher env session joinedAt)) := by
  have hcases : ∀ other client, Function.update srv.clients conn
      (some (.new .publisher env session joinedAt)) other = some client →
      other = conn ∧ client = .new .publisher env session joinedAt ∨
        srv.clients other = some client := by
    intro other client hclient
    by_cases hsame : other = conn
    · rw [hsame, Function.update_self] at hclient
      exact .inl ⟨hsame, (Option.some.inj hclient).symm⟩
    · rw [Function.update_of_ne hsame] at hclient
      exact .inr hclient
  constructor
  · intro other client hclient hrole
    rcases hcases other client hclient with ⟨-, rfl⟩ | hold
    · exact ⟨rfl, rfl, Writer.noConfusion⟩
    · exact hvalid.unwritten other client hold hrole
  · intro other client hclient hrole hdone
    rcases hcases other client hclient with ⟨-, rfl⟩ | hold
    · cases hdone
    · exact hvalid.socket other client hold hrole hdone
  · intro other client hclient hrole hopen
    rcases hcases other client hclient with ⟨rfl, rfl⟩ | hold
    · simp [ClientConn.new]
    · have hpublisher := hvalid.sole other client hold hrole hopen
      by_cases hsession : client.session = session
      · have hdone := hclosed other (hsession ▸ hpublisher)
        rw [Server.isClosed, hold, Option.any_some, hopen] at hdone
        cases hdone
      · simpa [hsession] using hpublisher

theorem publisherValid_of_section (hserver : ServerValid srv)
    (hhandler : HandlerValid srv conn handler) (hvalid : PublisherValid srv)
    (hsection : Section conn srv input handler srv' handler') : PublisherValid srv' := by
  cases hsection with
  | refuse | rejectPublisher | syncUnknown | syncSkip | syncLost =>
      exact hvalid.of_steady (.closeNet (.refl srv) conn)
  | drop env =>
      have hreceived : PublisherValid (srv.receive conn env) :=
        ⟨hvalid.unwritten, hvalid.socket, hvalid.sole⟩
      exact hreceived.of_steady (.closeNet (.refl _) conn)
  | fetchNew role env => exact hvalid.of_steady (steady_createSession hserver env.sessionID)
  | registerPublisher env session _ hclosed =>
      exact publisherValid_register hvalid session env _ hclosed
  | registerSubscriber env session =>
      have hentered : PublisherValid (srv.setObject session
          ((srv.objects session).registerSubscriber conn)) :=
        hvalid.of_steady (.setObject rfl)
      exact hentered.of_steady (.setClient (fun hrole => Role.noConfusion hrole))
  | greet | greetDone | forward | leave => exact hvalid.of_steady (.setObject rfl)
  | greetSend | announce | sendTo => exact hvalid.of_steady (.sendFrame _ _ _)
  | syncSend => exact hvalid.of_steady (.closeNet (.sendFrame _ _ _) _)
  | forwardEnqueue session env last subscriber rest client hclient =>
      obtain ⟨other, hother, hrole, -⟩ := hhandler.2 subscriber List.mem_cons_self
      obtain rfl := Option.some.inj (hclient.symm.trans hother)
      apply hvalid.of_steady
      apply Steady.setClient
      intro hpublisher
      cases hrole.symm.trans hpublisher
  | hangUp => exact hvalid.of_steady (steady_closeClients [conn])
  | removeClose role session sessionID target =>
      have hsteady := steady_closeSession hserver target
      exact hvalid.of_steady ⟨hsteady.clients, hsteady.netClosed, hsteady.publisher⟩
  | _ => exact ⟨hvalid.unwritten, hvalid.socket, hvalid.sole⟩

theorem publisherValid_of_background {task : Task} (hserver : ServerValid srv)
    (hvalid : PublisherValid srv) (hbackground : Background srv task srv') :
    PublisherValid srv' := by
  cases hbackground with
  | writer conn input client client' _ hclient hwrite =>
      exact hvalid.of_steady (steady_writer hvalid hclient hwrite)
  | closeSocket conn => exact hvalid.of_steady (.closeNet (.refl srv) conn)
  | removeSubscriber session conn =>
      have hsteady : Steady srv (srv.setObject session
          ((srv.objects session).removeSubscriber conn)) := .setObject rfl
      exact hvalid.of_steady ⟨hsteady.clients, hsteady.netClosed, hsteady.publisher⟩
  | closeRemoved conn =>
      have hsteady := @steady_closeClients srv [conn]
      exact hvalid.of_steady ⟨hsteady.clients, hsteady.netClosed, hsteady.publisher⟩
  | sweepClose kind entry rest =>
      have hsteady := steady_closeSession hserver entry.2
      exact hvalid.of_steady ⟨hsteady.clients, hsteady.netClosed, hsteady.publisher⟩
  | _ => exact ⟨hvalid.unwritten, hvalid.socket, hvalid.sole⟩

end Steps

theorem publisherValid_of_reaches {state : State}
    (hreaches : Reaches State.step State.start state) : PublisherValid state.server := by
  have hstart : WellFormed State.start ∧ PublisherValid State.start.server := by
    refine ⟨wellFormed_start, ?_, ?_, ?_⟩ <;> rintro conn client ⟨⟩
  refine (@Reaches.invariant _ _ State.step _ _
    (fun state => WellFormed state ∧ PublisherValid state.server) hstart ?_ hreaches).2
  intro state label state' hvalid hstep
  refine ⟨wellFormed_step hvalid.1 hstep, ?_⟩
  rcases cases_of_step hstep with ⟨conn, _, _, -, hsection, -⟩ | ⟨_, -, hbackground, -⟩
  · exact publisherValid_of_section hvalid.1.server (hvalid.1.handlers conn) hvalid.2 hsection
  · exact publisherValid_of_background hvalid.1.server hvalid.2 hbackground

/-! ## The publisher of a session -/

section Reachable

variable {srv : Server} (hvalid : PublisherValid srv)
include hvalid

/-- A live publisher is not closed: its socket is closed together with `done`. -/
theorem isClosed_of_live {conn session : ℕ} (hlive : LivePublisher srv session conn) :
    srv.isClosed conn = false := by
  obtain ⟨⟨client, hclient, hrole, -⟩, hopen⟩ := hlive
  cases hopen with
  | inl hopen => exact hopen
  | inr hnet =>
      rw [Server.isClosed, hclient, Option.any_some]
      apply Bool.eq_false_iff.mpr
      intro hdone
      rw [hvalid.socket conn client hclient hrole hdone] at hnet
      cases hnet

theorem publisher_of_live {conn session : ℕ} (hlive : LivePublisher srv session conn) :
    (srv.objects session).publisher = some conn := by
  have hopen := isClosed_of_live hvalid hlive
  obtain ⟨⟨client, hclient, hrole, rfl⟩, -⟩ := hlive
  rw [Server.isClosed, hclient, Option.any_some] at hopen
  exact hvalid.sole conn client hclient hrole hopen

end Reachable

/-- `RegisterPublisher` turns a newcomer away. -/
theorem registerPublisher_of_open {object : RelaySession} {isClosed : ℕ → Bool} {publisher : ℕ}
    (hpublisher : object.publisher = some publisher) (hopen : isClosed publisher = false)
    (conn : ℕ) : object.registerPublisher isClosed conn = none := by
  rw [RelaySession.registerPublisher, hpublisher, Option.all_some, hopen]
  rfl

/-- The only effect of the call that turns the newcomer away is on the newcomer's
socket. -/
theorem step_of_rejected {state : State} {conn session : ℕ} {env : Envelope}
    (hpoint : state.handlers conn = .register .publisher env session)
    (hrejected : (state.server.objects session).registerPublisher state.server.isClosed conn =
      none) (input : Input) :
    state.step (.handler conn input) =
      if input = .proceed ∧ state.server.writable session then
        some ⟨state.server.closeNet conn, Function.update state.handlers conn .exited⟩
      else none := by
  rw [State.step, hpoint]
  cases input with
  | proceed =>
      simp only [handle, handleFirst, hrejected, true_and]
      split <;> rfl
  | accept | order | read | send | enqueue | sawDone | timedOut => rfl

/-- Whenever `srv.mu` is free, a session in the map is open and has at most one
publisher client that is live.  A newcomer that meets a live publisher is turned
away by `RegisterPublisher` as soon as the call gets the session's lock, and
only the newcomer's socket is closed. -/
theorem one_live_publisher (state : State) (hreaches : Reaches State.step State.start state) :
    (state.server.srvMu = .free → ∀ sessionID session,
      state.server.lookupSession sessionID = some session →
        (state.server.objects session).closed = false ∧
          ∀ conn other, LivePublisher state.server session conn →
            LivePublisher state.server session other → conn = other) ∧
      ∀ conn env session publisher,
        state.handlers conn = .register .publisher env session →
        (state.server.objects session).publisher = some publisher →
        Live state.server publisher →
          conn ≠ publisher ∧
          (state.server.objects session).registerPublisher state.server.isClosed conn = none ∧
          ∀ input, state.step (.handler conn input) =
            if input = .proceed ∧ state.server.writable session then
              some ⟨state.server.closeNet conn, Function.update state.handlers conn .exited⟩
            else none := by
  have hvalid := publisherValid_of_reaches hreaches
  have hformed := wellFormed_of_reaches hreaches
  constructor
  · intro hfree sessionID session hlookup
    have hunlocked : ∀ sessionID, ¬ Erasing sessionID state.server.srvMu := by
      rw [hfree]
      exact fun _ => id
    refine ⟨(directoryValid_of_reaches hreaches).closed_eq_false hunlocked hlookup, ?_⟩
    intro conn other hconn hother
    apply Option.some.inj
    calc
      some conn = (state.server.objects session).publisher := (publisher_of_live hvalid hconn).symm
      _ = some other := publisher_of_live hvalid hother
  · intro conn env session publisher hpoint hpublisher hlive
    have hregistered : LivePublisher state.server session publisher :=
      ⟨hformed.server.publishers session publisher hpublisher, hlive⟩
    have hopen := isClosed_of_live hvalid hregistered
    have hrejected := registerPublisher_of_open hpublisher hopen conn
    refine ⟨?_, hrejected, step_of_rejected hpoint hrejected⟩
    rintro rfl
    obtain ⟨⟨client, hclient, -⟩, -⟩ := hregistered
    have hnewcomer := hformed.handlers conn
    rw [hpoint] at hnewcomer
    cases hnewcomer.2.symm.trans hclient

/-- Two publishers come for the same session.  The first has registered, the
second has fetched the session. -/
def contest : List Label := arrive 0 .publisher ++ settlePublisher 0 ++ arrive 1 .publisher

theorem one_live_publisher_contest : ∃ state : State,
    LivePublisher state.server 0 0 ∧
      (∀ other, LivePublisher state.server 0 other → other = 0) ∧
      state.step (.handler 1 .proceed) =
        some ⟨state.server.closeNet 1, Function.update state.handlers 1 .exited⟩ := by
  obtain ⟨state, hreaches, hend⟩ := exists_reaches_of_run State.step State.start contest
    (fun state =>
      (state.server.srvMu = .free ∧
        state.server.lookupSession (bareFrame msgTypePAKEInitPub).sessionID = some 0 ∧
        state.handlers 1 = .register .publisher (bareFrame msgTypePAKEInitPub) 0) ∧
      ((state.server.objects 0).publisher = some 0 ∧ state.server.isClosed 0 = false ∧
        state.server.writable 0) ∧
      (state.server.clients 0).map (fun client => (client.role, client.session)) =
        some (.publisher, 0))
    (by decide +kernel)
  obtain ⟨⟨hfree, hlookup, hpoint⟩, ⟨hpublisher, hopen, hwritable⟩, hregistered⟩ :=
    of_decide_eq_true hend
  obtain ⟨client, hclient, hfields⟩ := Option.map_eq_some_iff.mp hregistered
  obtain ⟨hrole, hsession⟩ := Prod.mk.inj hfields
  have hlive : LivePublisher state.server 0 0 := ⟨⟨client, hclient, hrole, hsession⟩, .inl hopen⟩
  obtain ⟨hsole, hnewcomer⟩ := one_live_publisher state hreaches
  refine ⟨state, hlive, ?_, ?_⟩
  · intro other hother
    exact (hsole hfree _ 0 hlookup).2 other 0 hother hlive
  · rw [(hnewcomer 1 _ 0 0 hpoint hpublisher (.inl hopen)).2.2, if_pos ⟨rfl, hwritable⟩]

end ZeroFeed.Publishers
