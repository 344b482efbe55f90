import ZeroFeed.Relay.Handlers

/-!
# Session isolation

A frame reaches a subscriber or a publisher only from a connection that
introduced itself with the same session identifier, whatever identifiers later
frames carry and however sessions are removed and created again in between.

The invariant behind it says what a client, a session object and a handler may
refer to.  It is stated through facts that stay true once they hold: what was
read from a connection, the identifier of a session object, and the identity of
a registered client.  Apart from the creation of a session and the two
registrations, a step only narrows what the objects refer to (`Evolves`).
-/

namespace ZeroFeed.Isolation

open ZeroFeed.ByteString
open ZeroFeed.Messages
open ZeroFeed.Session
open ZeroFeed.Handlers
open ZeroFeed.Transition

/-! ## Facts that stay true -/

/-- The first frame of a connection. -/
def first (srv : Server) (conn : ℕ) : Option Envelope := (srv.received conn).head?

/-- A connection is a client of a session object. -/
def Registered (srv : Server) (conn : ℕ) (role : Role) (session : ℕ) : Prop :=
  ∃ client, srv.clients conn = some client ∧ client.role = role ∧ client.session = session

/-- A frame that may be passed on to a client with the given role and
identifier: it was read from a connection whose first frame carried that
identifier, and for a subscriber this connection is a publisher's. -/
def Admissible (srv : Server) (role : Role) (sessionID : SessionID) (transfer : Transfer) :
    Prop :=
  transfer.env ∈ srv.received transfer.source ∧
    ∃ env, first srv transfer.source = some env ∧ env.sessionID = sessionID ∧
      (role = .subscriber → env.msgType = msgTypePAKEInitPub)

/-- A session object exists and carries an identifier. -/
def Carries (srv : Server) (session : ℕ) (sessionID : SessionID) : Prop :=
  session < srv.created ∧ (srv.objects session).sessionID = sessionID

/-- The same client at a later time. -/
structure Continues (client client' : ClientConn) : Prop where
  role : client'.role = client.role
  initialEnv : client'.initialEnv = client.initialEnv
  session : client'.session = client.session
  joinedAt : client'.joinedAt = client.joinedAt
  sent : client.sent <+: client'.sent
  done : client.done = true → client'.done = true

theorem Continues.refl (client : ClientConn) : Continues client client :=
  ⟨rfl, rfl, rfl, rfl, List.prefix_refl _, id⟩

/-- What happens to logs, identifiers and identities in any step. -/
structure Grows (srv srv' : Server) : Prop where
  created : srv.created ≤ srv'.created
  sessionID : ∀ session < srv.created,
    (srv'.objects session).sessionID = (srv.objects session).sessionID
  received : ∀ conn, srv.received conn <+: srv'.received conn
  clients : ∀ conn client, srv.clients conn = some client →
    ∃ client', srv'.clients conn = some client' ∧ Continues client client'

section Growth

variable {srv srv' : Server} (hgrows : Grows srv srv')

include hgrows

theorem first_of_grows {conn : ℕ} {env : Envelope} (hfirst : first srv conn = some env) :
    first srv' conn = some env := by
  obtain ⟨suffix, hsuffix⟩ := hgrows.received conn
  rw [first, ← hsuffix, List.head?_append_of_ne_nil]
  · exact hfirst
  · rintro hnil
    simp [first, hnil] at hfirst

theorem mem_received_of_grows {conn : ℕ} {env : Envelope} (hmem : env ∈ srv.received conn) :
    env ∈ srv'.received conn :=
  (hgrows.received conn).subset hmem

theorem registered_of_grows {conn session : ℕ} {role : Role}
    (hregistered : Registered srv conn role session) : Registered srv' conn role session := by
  obtain ⟨client, hclient, hrole, hsession⟩ := hregistered
  obtain ⟨client', hclient', hsame⟩ := hgrows.clients conn client hclient
  exact ⟨client', hclient', hsame.role.trans hrole, hsame.session.trans hsession⟩

theorem isClosed_of_grows {conn : ℕ} (hclosed : srv.isClosed conn = true) :
    srv'.isClosed conn = true := by
  obtain ⟨client, hclient, hdone⟩ := (Option.any_eq_true _ _).mp hclosed
  obtain ⟨client', hclient', hsame⟩ := hgrows.clients conn client hclient
  exact (Option.any_eq_true _ _).mpr ⟨client', hclient', hsame.done hdone⟩

theorem isClosed_eq_false_of_grows {conn : ℕ} (hopen : srv'.isClosed conn = false) :
    srv.isClosed conn = false := by
  apply Bool.eq_false_iff.mpr
  intro hclosed
  rw [isClosed_of_grows hgrows hclosed] at hopen
  cases hopen

theorem admissible_of_grows {role : Role} {sessionID : SessionID} {transfer : Transfer}
    (hadmissible : Admissible srv role sessionID transfer) :
    Admissible srv' role sessionID transfer := by
  obtain ⟨hmem, env, hfirst, hrest⟩ := hadmissible
  exact ⟨mem_received_of_grows hgrows hmem, env, first_of_grows hgrows hfirst, hrest⟩

theorem carries_of_grows {session : ℕ} {sessionID : SessionID}
    (hcarries : Carries srv session sessionID) : Carries srv' session sessionID :=
  ⟨hcarries.1.trans_le hgrows.created,
    (hgrows.sessionID session hcarries.1).trans hcarries.2⟩

end Growth

/-! ## The invariant -/

structure ClientValid (srv : Server) (conn : ℕ) (client : ClientConn) : Prop where
  first : first srv conn = some client.initialEnv
  initType : client.initialEnv.msgType = client.role.initType
  session : Carries srv client.session client.initialEnv.sessionID
  sent : ∀ transfer ∈ client.sent,
    Admissible srv client.role client.initialEnv.sessionID transfer

structure ServerValid (srv : Server) : Prop where
  clients : ∀ conn client, srv.clients conn = some client → ClientValid srv conn client
  publishers : ∀ session publisher, (srv.objects session).publisher = some publisher →
    Registered srv publisher .publisher session
  subscribers : ∀ session, ∀ conn ∈ (srv.objects session).subscribers,
    Registered srv conn .subscriber session
  objects : ∀ session < srv.created, ∃ conn role env, first srv conn = some env ∧
    env.msgType = Role.initType role ∧ env.sessionID = (srv.objects session).sessionID
  sessions : ∀ sessionID session, srv.lookupSession sessionID = some session →
    Carries srv session sessionID

/-- What the handler of a connection may hold at each point. -/
def HandlerValid (srv : Server) (conn : ℕ) : Handler → Prop
  | .idle => srv.received conn = [] ∧ srv.clients conn = none
  | .fetch role env =>
      (first srv conn = some env ∧ env.msgType = role.initType) ∧ srv.clients conn = none
  | .register role env session =>
      (first srv conn = some env ∧ env.msgType = role.initType ∧
        Carries srv session env.sessionID) ∧ srv.clients conn = none
  | .greet session | .loopPublisher session => Registered srv conn .publisher session
  | .greeting session rest =>
      Registered srv conn .publisher session ∧
        ∀ other ∈ rest, Registered srv other .subscriber session
  | .forward session env _ =>
      Registered srv conn .publisher session ∧ env ∈ srv.received conn
  | .forwarding session env _ rest =>
      (Registered srv conn .publisher session ∧ env ∈ srv.received conn) ∧
        ∀ other ∈ rest, Registered srv other .subscriber session
  | .findPublisher env session =>
      Registered srv conn .subscriber session ∧ first srv conn = some env
  | .announce env session publisher =>
      (Registered srv conn .subscriber session ∧ first srv conn = some env) ∧
        Registered srv publisher .publisher session
  | .loopSubscriber session | .leave session | .hangUp session | .testEmpty session =>
      Registered srv conn .subscriber session
  | .forwardTo session env =>
      Registered srv conn .subscriber session ∧ env ∈ srv.received conn
  | .sendTo session env publisher =>
      (Registered srv conn .subscriber session ∧ env ∈ srv.received conn) ∧
        Registered srv publisher .publisher session
  | .remove role session | .removing role session => Registered srv conn role session
  | .syncLookup env => first srv conn = some env
  | .syncRead env session | .syncForward env session =>
      first srv conn = some env ∧ Carries srv session env.sessionID
  | .syncSend env publisher =>
      first srv conn = some env ∧ ∃ session, Carries srv session env.sessionID ∧
        Registered srv publisher .publisher session
  | .syncUnknown | .exited => True

structure WellFormed (state : State) : Prop where
  server : ServerValid state.server
  handlers : ∀ conn, HandlerValid state.server conn (state.handlers conn)

/-- What a handler may hold, it may still hold after a step of another
goroutine. -/
theorem handlerValid_of_grows {srv srv' : Server} (hgrows : Grows srv srv') {conn : ℕ}
    (hreceived : srv'.received conn = srv.received conn)
    (hclients : srv.clients conn = none → srv'.clients conn = none) {handler : Handler}
    (hvalid : HandlerValid srv conn handler) : HandlerValid srv' conn handler := by
  cases handler with
  | idle => exact ⟨hreceived.trans hvalid.1, hclients hvalid.2⟩
  | fetch role env =>
      exact ⟨⟨first_of_grows hgrows hvalid.1.1, hvalid.1.2⟩, hclients hvalid.2⟩
  | register role env session =>
      obtain ⟨⟨hfirst, htype, hcarries⟩, hnone⟩ := hvalid
      exact ⟨⟨first_of_grows hgrows hfirst, htype, carries_of_grows hgrows hcarries⟩,
        hclients hnone⟩
  | greet | loopPublisher | loopSubscriber | leave | hangUp | testEmpty | remove | removing =>
      exact registered_of_grows hgrows hvalid
  | greeting session rest =>
      exact ⟨registered_of_grows hgrows hvalid.1, fun other hother =>
        registered_of_grows hgrows (hvalid.2 other hother)⟩
  | forward | forwardTo =>
      exact ⟨registered_of_grows hgrows hvalid.1, mem_received_of_grows hgrows hvalid.2⟩
  | forwarding session env last rest =>
      exact ⟨⟨registered_of_grows hgrows hvalid.1.1, mem_received_of_grows hgrows hvalid.1.2⟩,
        fun other hother => registered_of_grows hgrows (hvalid.2 other hother)⟩
  | findPublisher =>
      exact ⟨registered_of_grows hgrows hvalid.1, first_of_grows hgrows hvalid.2⟩
  | announce =>
      exact ⟨⟨registered_of_grows hgrows hvalid.1.1, first_of_grows hgrows hvalid.1.2⟩,
        registered_of_grows hgrows hvalid.2⟩
  | sendTo =>
      exact ⟨⟨registered_of_grows hgrows hvalid.1.1, mem_received_of_grows hgrows hvalid.1.2⟩,
        registered_of_grows hgrows hvalid.2⟩
  | syncLookup => exact first_of_grows hgrows hvalid
  | syncRead | syncForward =>
      exact ⟨first_of_grows hgrows hvalid.1, carries_of_grows hgrows hvalid.2⟩
  | syncSend =>
      obtain ⟨hfirst, session, hcarries, hregistered⟩ := hvalid
      exact ⟨first_of_grows hgrows hfirst, session, carries_of_grows hgrows hcarries,
        registered_of_grows hgrows hregistered⟩
  | syncUnknown | exited => trivial

/-! ## Steps that register nobody -/

structure Narrows (object object' : RelaySession) : Prop where
  sessionID : object'.sessionID = object.sessionID
  publisher : ∀ publisher, object'.publisher = some publisher →
    object.publisher = some publisher
  subscribers : object'.subscribers ⊆ object.subscribers

/-- The same client, possibly with further admissible frames. -/
structure Heir (srv : Server) (client client' : ClientConn) : Prop extends
    Continues client client' where
  added : ∀ transfer ∈ client'.sent, transfer ∈ client.sent ∨
    Admissible srv client.role client.initialEnv.sessionID transfer

structure Evolves (srv srv' : Server) : Prop where
  created : srv'.created = srv.created
  received : ∀ conn, srv.received conn <+: srv'.received conn
  objects : ∀ session, Narrows (srv.objects session) (srv'.objects session)
  sessions : ∀ sessionID session, srv'.lookupSession sessionID = some session →
    srv.lookupSession sessionID = some session
  clients : ∀ conn, Option.Rel (Heir srv) (srv.clients conn) (srv'.clients conn)

theorem Narrows.refl (object : RelaySession) : Narrows object object :=
  ⟨rfl, fun _ hpublisher => hpublisher, List.Subset.refl _⟩

/-- A client to which no frame is sent. -/
theorem Heir.of_sent {srv : Server} {client client' : ClientConn}
    (hsame : Continues client client') (hsent : client'.sent = client.sent) :
    Heir srv client client' :=
  ⟨hsame, fun _ htransfer => .inl (hsent ▸ htransfer)⟩

theorem Heir.refl (srv : Server) (client : ClientConn) : Heir srv client client :=
  .of_sent (.refl client) rfl

theorem heirs_refl (srv : Server) (conn : ℕ) :
    Option.Rel (Heir srv) (srv.clients conn) (srv.clients conn) := by
  cases srv.clients conn with
  | none => exact .none
  | some client => exact .some (.refl srv client)

theorem Evolves.grows {srv srv' : Server} (hevolves : Evolves srv srv') : Grows srv srv' where
  created := hevolves.created.ge
  sessionID := fun session _ => (hevolves.objects session).sessionID
  received := hevolves.received
  clients := by
    intro conn client hclient
    have hheir := hevolves.clients conn
    rw [hclient] at hheir
    cases hclient' : srv'.clients conn with
    | none =>
        rw [hclient'] at hheir
        cases hheir
    | some client' =>
        rw [hclient'] at hheir
        obtain ⟨hheir⟩ := hheir
        exact ⟨client', rfl, hheir.toContinues⟩

theorem Evolves.clients_none {srv srv' : Server} (hevolves : Evolves srv srv') {conn : ℕ}
    (hnone : srv.clients conn = none) : srv'.clients conn = none := by
  have hheir := hevolves.clients conn
  rw [hnone] at hheir
  cases hclient' : srv'.clients conn with
  | none => rfl
  | some client' =>
      rw [hclient'] at hheir
      cases hheir

theorem Evolves.serverValid {srv srv' : Server} (hevolves : Evolves srv srv')
    (hvalid : ServerValid srv) : ServerValid srv' where
  clients := by
    intro conn client' hclient'
    have hheir := hevolves.clients conn
    rw [hclient'] at hheir
    cases hclient : srv.clients conn with
    | none =>
        rw [hclient] at hheir
        cases hheir
    | some client =>
        rw [hclient] at hheir
        obtain ⟨hheir⟩ := hheir
        obtain ⟨hfirst, htype, hsession, hsent⟩ := hvalid.clients conn client hclient
        refine ⟨?_, ?_, ?_, ?_⟩
        · rw [hheir.initialEnv]
          exact first_of_grows hevolves.grows hfirst
        · rw [hheir.initialEnv, hheir.role]
          exact htype
        · rw [hheir.initialEnv, hheir.session]
          exact carries_of_grows hevolves.grows hsession
        · intro transfer htransfer
          rw [hheir.role, hheir.initialEnv]
          rcases hheir.added transfer htransfer with hold | hnew
          · exact admissible_of_grows hevolves.grows (hsent transfer hold)
          · exact admissible_of_grows hevolves.grows hnew
  publishers := fun session publisher hpublisher =>
    registered_of_grows hevolves.grows
      (hvalid.publishers session publisher ((hevolves.objects session).publisher _ hpublisher))
  subscribers := fun session conn hconn =>
    registered_of_grows hevolves.grows
      (hvalid.subscribers session conn ((hevolves.objects session).subscribers hconn))
  objects := by
    intro session hsession
    rw [hevolves.created] at hsession
    obtain ⟨conn, role, env, hfirst, htype, hid⟩ := hvalid.objects session hsession
    exact ⟨conn, role, env, first_of_grows hevolves.grows hfirst, htype,
      hid.trans (hevolves.objects session).sessionID.symm⟩
  sessions := fun sessionID session hlookup =>
    carries_of_grows hevolves.grows
      (hvalid.sessions sessionID session (hevolves.sessions sessionID session hlookup))

section Primitives

variable (srv : Server)

theorem Evolves.refl : Evolves srv srv where
  created := rfl
  received := fun _ => List.prefix_refl _
  objects := fun _ => .refl _
  sessions := fun _ _ hlookup => hlookup
  clients := heirs_refl srv

theorem evolves_receive (conn : ℕ) (env : Envelope) : Evolves srv (srv.receive conn env) where
  created := rfl
  received := by
    intro other
    by_cases hother : other = conn
    · subst hother
      exact ⟨[env], by simp [Server.receive]⟩
    · simp [Server.receive, hother]
  objects := fun _ => .refl _
  sessions := fun _ _ hlookup => hlookup
  clients := heirs_refl srv

theorem evolves_closeNet (conn : ℕ) : Evolves srv (srv.closeNet conn) :=
  let hrefl := Evolves.refl srv
  ⟨hrefl.created, hrefl.received, hrefl.objects, hrefl.sessions, hrefl.clients⟩

theorem evolves_setObject {session : ℕ} {object : RelaySession}
    (hnarrows : Narrows (srv.objects session) object) :
    Evolves srv (srv.setObject session object) where
  created := rfl
  received := fun _ => List.prefix_refl _
  objects := srv.setObject_related Narrows Narrows.refl hnarrows
  sessions := fun _ _ hlookup => hlookup
  clients := heirs_refl srv

theorem evolves_setClient {conn : ℕ} {client client' : ClientConn}
    (hclient : srv.clients conn = some client) (hheir : Heir srv client client') :
    Evolves srv (srv.setClient conn client') where
  created := rfl
  received := fun _ => List.prefix_refl _
  objects := fun _ => .refl _
  sessions := fun _ _ hlookup => hlookup
  clients := by
    intro other
    by_cases hother : other = conn
    · subst hother
      simpa [hclient] using hheir
    · simpa [hother] using heirs_refl srv other

theorem evolves_sendFrame {publisher session : ℕ} {sessionID : SessionID} {transfer : Transfer}
    (hvalid : ServerValid srv) (hregistered : Registered srv publisher .publisher session)
    (hcarries : Carries srv session sessionID)
    (hadmissible : Admissible srv .publisher sessionID transfer) (written : Bool) :
    Evolves srv (srv.sendFrame publisher transfer written) := by
  obtain ⟨client, hclient, hrole, hsession⟩ := hregistered
  have hid : client.initialEnv.sessionID = sessionID := by
    rw [← hcarries.2, ← hsession]
    exact (hvalid.clients publisher client hclient).session.2.symm
  simp only [Server.sendFrame, hclient]
  split
  · apply evolves_setClient srv hclient
    refine ⟨⟨rfl, rfl, rfl, rfl, List.prefix_append _ _, id⟩, ?_⟩
    intro other hother
    rcases List.mem_append.mp hother with hold | hnew
    · exact .inl hold
    · rw [List.mem_singleton.mp hnew, hrole, hid]
      exact .inr hadmissible
  · exact .refl srv

theorem evolves_closeClients (conns : List ℕ) : Evolves srv (srv.closeClients conns) where
  created := rfl
  received := fun _ => List.prefix_refl _
  objects := fun _ => .refl _
  sessions := fun _ _ hlookup => hlookup
  clients := by
    intro conn
    simp only [Server.closeClients]
    split
    · cases srv.clients conn with
      | none => exact .none
      | some client =>
          exact .some (.of_sent ⟨rfl, rfl, rfl, rfl, List.prefix_refl _, fun _ => rfl⟩ rfl)
    · exact heirs_refl srv conn

theorem narrows_close (object : RelaySession) : Narrows object object.close := by
  rw [RelaySession.close]
  split
  · exact .refl object
  · exact ⟨rfl, by rintro _ ⟨⟩, List.nil_subset _⟩

theorem evolves_closeSession (session : ℕ) : Evolves srv (srv.closeSession session) := by
  rw [Server.closeSession]
  split
  · exact .refl srv
  · have hclients := evolves_closeClients srv (srv.objects session).members
    have hobject := evolves_setObject srv (narrows_close (srv.objects session))
    exact ⟨rfl, hclients.received, hobject.objects, hclients.sessions, hclients.clients⟩

theorem evolves_erase (sessionID : SessionID) {srv' : Server}
    (hsessions : srv'.sessions = srv.sessions.erase sessionID)
    (hcreated : srv'.created = srv.created) (hreceived : srv'.received = srv.received)
    (hobjects : srv'.objects = srv.objects) (hclients : srv'.clients = srv.clients) :
    Evolves srv srv' where
  created := hcreated
  received := fun conn => hreceived ▸ List.prefix_refl _
  objects := fun session => hobjects ▸ .refl _
  sessions := by
    intro other session hlookup
    rw [Server.lookupSession_erase hsessions] at hlookup
    split at hlookup
    · cases hlookup
    · exact hlookup
  clients := fun conn => hclients ▸ heirs_refl srv conn

theorem narrows_removeSubscriber (object : RelaySession) (conn : ℕ) :
    Narrows object (object.removeSubscriber conn) :=
  ⟨rfl, fun _ hpublisher => hpublisher, List.filter_subset_self _⟩

end Primitives

/-! ## New sessions and new clients -/

section Additions

variable {srv : Server} {conn : ℕ} {role : Role} {env : Envelope}

theorem grows_createSession (sessionID : SessionID) :
    Grows srv (srv.createSession sessionID) where
  created := Nat.le_succ _
  sessionID := by
    intro session hsession
    simp [Server.createSession, hsession.ne]
  received := fun _ => List.prefix_refl _
  clients := fun _ client hclient =>
    ⟨client, hclient, .refl client⟩

theorem serverValid_createSession (hvalid : ServerValid srv)
    (hfirst : first srv conn = some env) (htype : env.msgType = role.initType) :
    ServerValid (srv.createSession env.sessionID) := by
  have hgrows : Grows srv (srv.createSession env.sessionID) :=
    grows_createSession env.sessionID
  refine ⟨?_, ?_, ?_, ?_, ?_⟩
  · intro other client hclient
    obtain ⟨hfirst, htype, hsession, hsent⟩ := hvalid.clients other client hclient
    exact ⟨hfirst, htype, carries_of_grows hgrows hsession, hsent⟩
  · intro session publisher hpublisher
    by_cases hnew : session = srv.created
    · subst hnew
      simp [Server.createSession, RelaySession.new] at hpublisher
    · simp only [Server.createSession, Function.update_of_ne hnew] at hpublisher
      exact hvalid.publishers session publisher hpublisher
  · intro session other hother
    by_cases hnew : session = srv.created
    · subst hnew
      simp [Server.createSession, RelaySession.new] at hother
    · simp only [Server.createSession, Function.update_of_ne hnew] at hother
      exact hvalid.subscribers session other hother
  · intro session hsession
    by_cases hnew : session = srv.created
    · subst hnew
      exact ⟨conn, role, env, hfirst, htype, by simp [Server.createSession, RelaySession.new]⟩
    · have hold : session < srv.created :=
        lt_of_le_of_ne (Nat.lt_succ_iff.mp hsession) hnew
      obtain ⟨other, role, env, hfirst, htype, hid⟩ := hvalid.objects session hold
      exact ⟨other, role, env, hfirst, htype, hid.trans (hgrows.sessionID session hold).symm⟩
  · intro sessionID session hlookup
    rw [Server.lookupSession_createSession] at hlookup
    split at hlookup
    · rename_i hid
      obtain rfl := Option.some.inj hlookup
      exact ⟨Nat.lt_succ_self _, by simp [Server.createSession, RelaySession.new, hid]⟩
    · exact carries_of_grows hgrows (hvalid.sessions sessionID session hlookup)

variable {session : ℕ} {object : RelaySession}

theorem grows_register (hfresh : srv.clients conn = none) (client : ClientConn)
    (hid : object.sessionID = (srv.objects session).sessionID) :
    Grows srv ((srv.setObject session object).setClient conn client) where
  created := le_rfl
  sessionID := fun other _ => srv.setObject_congr RelaySession.sessionID hid other
  received := fun _ => List.prefix_refl _
  clients := by
    intro other client' hclient'
    have hother : other ≠ conn := by
      rintro rfl
      rw [hfresh] at hclient'
      cases hclient'
    exact ⟨client', by simpa [hother] using hclient',
      .refl client'⟩

/-- If a session lists only registered clients in one of its places, so it does after a
newcomer has taken that place or another one. -/
theorem registered_of_register (listed : RelaySession → ℕ → Prop) {client : ClientConn}
    {place : Role}
    (hgrows : Grows srv ((srv.setObject session object).setClient conn client))
    (hnewcomer : Registered ((srv.setObject session object).setClient conn client) conn role
      session)
    (hold : ∀ other peer, listed (srv.objects other) peer → Registered srv peer place other)
    (hlisted : ∀ peer, listed object peer →
      listed (srv.objects session) peer ∨ peer = conn ∧ role = place)
    (other peer : ℕ)
    (hpeer : listed (((srv.setObject session object).setClient conn client).objects other) peer) :
    Registered ((srv.setObject session object).setClient conn client) peer place other := by
  by_cases hsession : other = session
  · subst hsession
    simp only [Server.setClient_objects, Server.setObject_objects, Function.update_self] at hpeer
    rcases hlisted peer hpeer with hbefore | ⟨rfl, rfl⟩
    · exact registered_of_grows hgrows (hold other peer hbefore)
    · exact hnewcomer
  · simp only [Server.setClient_objects, Server.setObject_objects,
      Function.update_of_ne hsession] at hpeer
    exact registered_of_grows hgrows (hold other peer hpeer)

/-- A registration that only adds the newcomer, in its own role. -/
theorem serverValid_register (hvalid : ServerValid srv) (hfresh : srv.clients conn = none)
    (hfirst : first srv conn = some env) (htype : env.msgType = role.initType)
    (hcarries : Carries srv session env.sessionID) (joinedAt : ℕ)
    (hid : object.sessionID = (srv.objects session).sessionID)
    (hpublisher : ∀ publisher, object.publisher = some publisher →
      (srv.objects session).publisher = some publisher ∨ publisher = conn ∧ role = .publisher)
    (hsubscribers : ∀ other ∈ object.subscribers,
      other ∈ (srv.objects session).subscribers ∨ other = conn ∧ role = .subscriber) :
    ServerValid ((srv.setObject session object).setClient conn
      (.new role env session joinedAt)) := by
  have hgrows := grows_register hfresh (.new role env session joinedAt) hid
  have hnewcomer : Registered ((srv.setObject session object).setClient conn
      (.new role env session joinedAt)) conn role session :=
    ⟨.new role env session joinedAt, by simp, rfl, rfl⟩
  refine ⟨?_, ?_, ?_, ?_, ?_⟩
  · intro other client hclient
    by_cases hother : other = conn
    · subst hother
      simp only [Server.setClient_clients, Function.update_self, Option.some.injEq] at hclient
      subst hclient
      exact ⟨first_of_grows hgrows hfirst, htype, carries_of_grows hgrows hcarries,
        nofun⟩
    · simp only [Server.setClient_clients, Function.update_of_ne hother] at hclient
      obtain ⟨hfirst, htype, hsession, hsent⟩ := hvalid.clients other client hclient
      exact ⟨first_of_grows hgrows hfirst, htype, carries_of_grows hgrows hsession,
        fun transfer htransfer => admissible_of_grows hgrows (hsent transfer htransfer)⟩
  · exact registered_of_register (fun relay peer => relay.publisher = some peer) hgrows hnewcomer
      hvalid.publishers hpublisher
  · exact registered_of_register (fun relay peer => peer ∈ relay.subscribers) hgrows hnewcomer
      hvalid.subscribers hsubscribers
  · intro other hother
    obtain ⟨creator, role, env, hfirst, htype, hsessionID⟩ := hvalid.objects other hother
    exact ⟨creator, role, env, first_of_grows hgrows hfirst, htype,
      hsessionID.trans (hgrows.sessionID other hother).symm⟩
  · intro sessionID other hlookup
    exact carries_of_grows hgrows (hvalid.sessions sessionID other hlookup)

end Additions

/-! ## Every step -/

section Steps

variable {srv srv' : Server} {conn : ℕ} {handler handler' : Handler} {input : Input}

/-- The identifier a registered client's session carries is that of its first
frame. -/
theorem carries_of_registered (hvalid : ServerValid srv) {role : Role} {session : ℕ}
    (hregistered : Registered srv conn role session) :
    ∃ env, first srv conn = some env ∧ env.msgType = role.initType ∧
      Carries srv session env.sessionID := by
  obtain ⟨client, hclient, hrole, hsession⟩ := hregistered
  obtain ⟨hfirst, htype, hcarries, -⟩ := hvalid.clients conn client hclient
  exact ⟨client.initialEnv, hfirst, hrole ▸ htype, hsession ▸ hcarries⟩

/-- A frame read by a handler may go to the publisher of its own session. -/
theorem evolves_sendFrame_own (hvalid : ServerValid srv) {role : Role} {env : Envelope}
    {session publisher : ℕ} (hown : Registered srv conn role session)
    (hread : env ∈ srv.received conn)
    (hpublisher : Registered srv publisher .publisher session) (written : Bool) :
    Evolves srv (srv.sendFrame publisher ⟨conn, env⟩ written) := by
  obtain ⟨initial, hfirst, -, hcarries⟩ := carries_of_registered hvalid hown
  exact evolves_sendFrame srv hvalid hpublisher hcarries
    ⟨hread, initial, hfirst, rfl, nofun⟩ written

theorem mem_received_of_first {env : Envelope} (hfirst : first srv conn = some env) :
    env ∈ srv.received conn :=
  List.mem_of_mem_head? hfirst

theorem evolves_of_background {task : Task} (hbackground : Background srv task srv') :
    Evolves srv srv' := by
  have hrefl := Evolves.refl srv
  cases hbackground with
  | writer conn input client client' htask hclient hwrite =>
      apply evolves_setClient srv hclient
      cases hwrite with
      | move | receive | wrote | failed =>
          exact .of_sent ⟨rfl, rfl, rfl, rfl, List.prefix_refl _, id⟩ rfl
      | close => exact .of_sent ⟨rfl, rfl, rfl, rfl, List.prefix_refl _, fun _ => rfl⟩ rfl
  | closeSocket conn => exact evolves_closeNet srv conn
  | removeSubscriber session conn htask removals removed =>
      have hobject := evolves_setObject srv
        (narrows_removeSubscriber (srv.objects session) conn)
      exact ⟨hobject.created, hobject.received, hobject.objects, hobject.sessions,
        hobject.clients⟩
  | closeRemoved conn removed =>
      have hclients := evolves_closeClients srv [conn]
      exact ⟨hclients.created, hclients.received, hclients.objects, hclients.sessions,
        hclients.clients⟩
  | startSweep | sweepEnd | sweepMove | tick =>
      exact ⟨hrefl.created, hrefl.received, hrefl.objects, hrefl.sessions, hrefl.clients⟩
  | sweepClose kind entry rest =>
      have hclose := evolves_closeSession srv entry.2
      exact ⟨hclose.created, hclose.received, hclose.objects, hclose.sessions,
        hclose.clients⟩
  | sweepErase kind entry rest activeSessions hlock =>
      exact evolves_erase srv entry.1 rfl rfl rfl rfl rfl

/-- Only a handler's own frames are added to its log. -/
theorem received_of_section (hsection : Section conn srv input handler srv' handler')
    {other : ℕ} (hother : other ≠ conn) : srv'.received other = srv.received other := by
  cases hsection with
  | acceptClient | acceptSync | drop | publisherHeartbeat | publisherRead | subscriberIgnored
  | subscriberRead => exact Function.update_of_ne hother _ _
  | greetSend | announce | sendTo => rw [Server.sendFrame_received]
  | syncSend => exact congrFun (srv.sendFrame_received _ _ _) other
  | removeClose => exact congrFun (srv.closeSession_received _) other
  | _ => rfl

theorem received_of_background {task : Task} (hbackground : Background srv task srv') :
    srv'.received = srv.received := by
  cases hbackground with
  | sweepClose => exact srv.closeSession_received _
  | _ => rfl

/-- A section narrows what objects refer to, creates a session or registers the
handler's connection. -/
inductive Outcome (srv : Server) (conn : ℕ) : Server → Handler → Prop where
  | evolves {srv' : Server} {handler' : Handler} (hevolves : Evolves srv srv') :
      Outcome srv conn srv' handler'
  | creates (role : Role) (env : Envelope) (hfirst : first srv conn = some env)
      (htype : env.msgType = role.initType) :
      Outcome srv conn (srv.createSession env.sessionID) (.register role env srv.created)
  | registers (role : Role) (env : Envelope) (session : ℕ) (object : RelaySession)
      (joinedAt : ℕ) (hfresh : srv.clients conn = none) (hfirst : first srv conn = some env)
      (htype : env.msgType = role.initType) (hcarries : Carries srv session env.sessionID)
      (hid : object.sessionID = (srv.objects session).sessionID)
      (hpublisher : ∀ publisher, object.publisher = some publisher →
        (srv.objects session).publisher = some publisher ∨
          publisher = conn ∧ role = .publisher)
      (hsubscribers : ∀ other ∈ object.subscribers,
        other ∈ (srv.objects session).subscribers ∨ other = conn ∧ role = .subscriber) :
      Outcome srv conn ((srv.setObject session object).setClient conn
        (.new role env session joinedAt)) (.registered role env session)

theorem Outcome.grows (houtcome : Outcome srv conn srv' handler') : Grows srv srv' := by
  cases houtcome with
  | evolves hevolves => exact hevolves.grows
  | creates role env hfirst htype => exact grows_createSession env.sessionID
  | registers role env session object joinedAt hfresh hfirst htype hcarries hid =>
      exact grows_register hfresh _ hid

theorem Outcome.serverValid (houtcome : Outcome srv conn srv' handler') (hvalid : ServerValid srv) :
    ServerValid srv' := by
  cases houtcome with
  | evolves hevolves => exact hevolves.serverValid hvalid
  | creates role env hfirst htype => exact serverValid_createSession hvalid hfirst htype
  | registers role env session object joinedAt hfresh hfirst htype hcarries hid hpublisher
      hsubscribers =>
      exact serverValid_register hvalid hfresh hfirst htype hcarries joinedAt hid hpublisher
        hsubscribers

theorem Outcome.clients_none (houtcome : Outcome srv conn srv' handler') {other : ℕ}
    (hother : other ≠ conn) (hnone : srv.clients other = none) :
    srv'.clients other = none := by
  cases houtcome with
  | evolves hevolves => exact hevolves.clients_none hnone
  | creates => exact hnone
  | registers => simpa [hother] using hnone

/-- A publisher is greeted with the first envelope of a subscriber of its session. -/
theorem evolves_greetSend {publisher session subscriber : ℕ} {client : ClientConn}
    (hvalid : ServerValid srv) (hown : Registered srv publisher .publisher session)
    (hregistered : Registered srv subscriber .subscriber session)
    (hclient : srv.clients subscriber = some client) (written : Bool) :
    Evolves srv (srv.sendFrame publisher ⟨subscriber, client.initialEnv⟩ written) := by
  obtain ⟨other, hother, -, hsession⟩ := hregistered
  obtain rfl := Option.some.inj (hclient.symm.trans hother)
  obtain ⟨hfirst, -, hcarries, -⟩ := hvalid.clients subscriber client hclient
  exact evolves_sendFrame srv hvalid hown (hsession ▸ hcarries)
    ⟨mem_received_of_first hfirst, client.initialEnv, hfirst, rfl, nofun⟩ written

/-- A frame its publisher sent enters the queue of a subscriber of the same session. -/
theorem evolves_enqueue {publisher session subscriber : ℕ} {env : Envelope} {client : ClientConn}
    (hvalid : ServerValid srv) (hown : Registered srv publisher .publisher session)
    (hread : env ∈ srv.received publisher)
    (hregistered : Registered srv subscriber .subscriber session)
    (hclient : srv.clients subscriber = some client) :
    Evolves srv (srv.setClient subscriber (client.enqueue ⟨publisher, env⟩)) := by
  obtain ⟨other, hother, -, hsession⟩ := hregistered
  obtain rfl := Option.some.inj (hclient.symm.trans hother)
  obtain ⟨initial, hfirst, htype, hcarries⟩ := carries_of_registered hvalid hown
  have hid : initial.sessionID = client.initialEnv.sessionID := by
    rw [← hcarries.2, ← hsession]
    exact (hvalid.clients subscriber client hclient).session.2
  refine evolves_setClient srv hclient ⟨⟨rfl, rfl, rfl, rfl, List.prefix_append _ _, id⟩, ?_⟩
  intro transfer htransfer
  rcases List.mem_append.mp htransfer with hold | hnew
  · exact .inl hold
  · rw [List.mem_singleton.mp hnew]
    exact .inr ⟨hread, initial, hfirst, hid, fun _ => htype⟩

theorem outcome_of_section (hvalid : ServerValid srv)
    (hhandler : HandlerValid srv conn handler)
    (hsection : Section conn srv input handler srv' handler') :
    Outcome srv conn srv' handler' := by
  have hrefl := Evolves.refl srv
  cases hsection with
  | refuse | rejectPublisher | syncUnknown | syncSkip | syncLost =>
      exact .evolves (evolves_closeNet srv conn)
  | drop env =>
      have hreceive := evolves_receive srv conn env
      exact .evolves ⟨hreceive.created, hreceive.received, hreceive.objects,
        hreceive.sessions, hreceive.clients⟩
  | acceptClient _ env | acceptSync env | publisherHeartbeat _ env | publisherRead _ env
  | subscriberIgnored _ env | subscriberRead _ env =>
      exact .evolves (evolves_receive srv conn env)
  | fetchNew role env => exact .creates role env hhandler.1.1 hhandler.1.2
  | registerPublisher env session =>
      obtain ⟨⟨hfirst, htype, hcarries⟩, hfresh⟩ := hhandler
      refine .registers .publisher env session _ _ hfresh hfirst htype hcarries rfl ?_ ?_
      · intro publisher hpublisher
        exact .inr ⟨(Option.some.inj hpublisher).symm, rfl⟩
      · exact fun _ hother => .inl hother
  | registerSubscriber env session =>
      obtain ⟨⟨hfirst, htype, hcarries⟩, hfresh⟩ := hhandler
      refine .registers .subscriber env session _ _ hfresh hfirst htype hcarries rfl ?_ ?_
      · exact fun _ hpublisher => .inl hpublisher
      · intro other hother
        rcases List.mem_append.mp hother with hold | hnew
        · exact .inl hold
        · exact .inr ⟨List.mem_singleton.mp hnew, rfl⟩
  | greet session | greetDone session | forward session =>
      exact .evolves (evolves_setObject srv
        ⟨rfl, fun _ hpublisher => hpublisher, List.Subset.refl _⟩)
  | greetSend session subscriber rest client written hinput hclient =>
      exact .evolves (evolves_greetSend hvalid hhandler.1
        (hhandler.2 subscriber List.mem_cons_self) hclient written)
  | forwardEnqueue session env last subscriber rest client hclient =>
      obtain ⟨⟨hown, hread⟩, hrest⟩ := hhandler
      exact .evolves (evolves_enqueue hvalid hown hread (hrest subscriber List.mem_cons_self)
        hclient)
  | announce env session publisher written =>
      exact .evolves (evolves_sendFrame_own hvalid hhandler.1.1
        (mem_received_of_first hhandler.1.2) hhandler.2 written)
  | sendTo session env publisher written =>
      exact .evolves (evolves_sendFrame_own hvalid hhandler.1.1 hhandler.1.2 hhandler.2 written)
  | syncSend env publisher written =>
      obtain ⟨hfirst, session, hcarries, hregistered⟩ := hhandler
      have hadmissible : Admissible srv .publisher env.sessionID ⟨conn, env⟩ :=
        ⟨mem_received_of_first hfirst, env, hfirst, rfl, nofun⟩
      have hsend := evolves_sendFrame srv hvalid hregistered hcarries hadmissible written
      exact .evolves ⟨hsend.created, hsend.received, hsend.objects, hsend.sessions,
        hsend.clients⟩
  | leave session =>
      exact .evolves (evolves_setObject srv (narrows_removeSubscriber _ conn))
  | hangUp => exact .evolves (evolves_closeClients srv [conn])
  | removeClose role session sessionID target =>
      have hclose := evolves_closeSession srv target
      exact .evolves ⟨hclose.created, hclose.received, hclose.objects, hclose.sessions,
        hclose.clients⟩
  | removeErase role session sessionID =>
      exact .evolves (evolves_erase srv sessionID rfl rfl rfl rfl rfl)
  | _ =>
      exact .evolves ⟨hrefl.created, hrefl.received, hrefl.objects, hrefl.sessions,
        hrefl.clients⟩

theorem handlerValid_of_section (hvalid : ServerValid srv)
    (hhandler : HandlerValid srv conn handler) (hgrows : Grows srv srv')
    (hsection : Section conn srv input handler srv' handler') :
    HandlerValid srv' conn handler' := by
  have hfirst : ∀ env, srv.received conn = [] → first (srv.receive conn env) conn = some env := by
    intro env hempty
    simp [first, Server.receive, hempty]
  have hread : ∀ env, env ∈ (srv.receive conn env).received conn := by
    intro env
    simp [Server.receive]
  cases hsection with
  | refuse | drop | rejectPublisher | testOccupied | removeAbsent | removeErase | syncSend
  | syncAbsent | syncUnknown | syncSkip | syncLost => trivial
  | acceptClient role env htype => exact ⟨⟨hfirst env hhandler.1, htype⟩, hhandler.2⟩
  | acceptSync env => exact hfirst env hhandler.1
  | fetchFound role env session hfree hlookup =>
      exact ⟨⟨hhandler.1.1, hhandler.1.2, hvalid.sessions _ _ hlookup⟩, hhandler.2⟩
  | fetchNew role env =>
      exact ⟨⟨hhandler.1.1, hhandler.1.2, Nat.lt_succ_self _,
        by simp [Server.createSession, RelaySession.new]⟩, hhandler.2⟩
  | registerPublisher env session =>
      exact ⟨_, Function.update_self _ _ _, rfl, rfl⟩
  | registerSubscriber env session =>
      exact ⟨⟨_, Function.update_self _ _ _, rfl, rfl⟩, hhandler.1.1⟩
  | greet session conns hperm =>
      refine ⟨registered_of_grows hgrows hhandler, fun other hother => ?_⟩
      exact registered_of_grows hgrows
        (hvalid.subscribers session other (hperm.subset hother))
  | greetSend session subscriber rest =>
      exact ⟨registered_of_grows hgrows hhandler.1, fun other hother =>
        registered_of_grows hgrows (hhandler.2 other (List.mem_cons_of_mem _ hother))⟩
  | greetDone => exact registered_of_grows hgrows hhandler.1
  | publisherGone | publisherHeartbeat | subscriberGone | subscriberIgnored | hangUp
  | testEmpty | removeLock | removeClose => exact registered_of_grows hgrows hhandler
  | publisherRead session env | subscriberRead session env =>
      exact ⟨registered_of_grows hgrows hhandler, hread env⟩
  | forward session env last conns hperm =>
      refine ⟨⟨registered_of_grows hgrows hhandler.1, hhandler.2⟩, fun other hother => ?_⟩
      exact registered_of_grows hgrows
        (hvalid.subscribers session other (hperm.subset hother))
  | forwardDone | forwardLast => exact hhandler.1.1
  | forwardEnqueue | forwardFailed =>
      exact ⟨⟨registered_of_grows hgrows hhandler.1.1, hhandler.1.2⟩, fun other hother =>
        registered_of_grows hgrows (hhandler.2 other (List.mem_cons_of_mem _ hother))⟩
  | findNone | forwardToNone => exact hhandler.1
  | findSome env session publisher hpublisher | forwardToSome session env publisher hpublisher =>
      exact ⟨hhandler, hvalid.publishers session publisher hpublisher⟩
  | announce | sendTo => exact registered_of_grows hgrows hhandler.1.1
  | leave session next hnext =>
      rcases hnext with rfl | rfl
      · exact registered_of_grows hgrows hhandler
      · exact registered_of_grows hgrows hhandler
  | syncFound env session hlookup => exact ⟨hhandler, hvalid.sessions _ _ hlookup⟩
  | syncRead => exact hhandler
  | syncForward env session publisher hpublisher =>
      exact ⟨hhandler.1, session, hhandler.2, hvalid.publishers session publisher hpublisher⟩

end Steps

theorem wellFormed_start : WellFormed State.start where
  server :=
    { clients := nofun
      publishers := nofun
      subscribers := nofun
      objects := nofun
      sessions := nofun }
  handlers := fun _ => ⟨rfl, rfl⟩

theorem wellFormed_step {state state' : State} {label : Label} (hvalid : WellFormed state)
    (hstep : state.step label = some state') : WellFormed state' := by
  rcases cases_of_step hstep with
    ⟨conn, input, handler', -, hsection, hhandlers⟩ | ⟨task, -, hbackground, hhandlers⟩
  · have houtcome := outcome_of_section hvalid.server (hvalid.handlers conn) hsection
    refine ⟨houtcome.serverValid hvalid.server, ?_⟩
    rw [hhandlers, Function.forall_update_iff state.handlers
      (p := fun conn handler => HandlerValid state'.server conn handler)]
    refine ⟨handlerValid_of_section hvalid.server (hvalid.handlers conn) houtcome.grows
      hsection, ?_⟩
    intro other hother
    exact handlerValid_of_grows houtcome.grows (received_of_section hsection hother)
      (houtcome.clients_none hother) (hvalid.handlers other)
  · have hevolves := evolves_of_background hbackground
    refine ⟨hevolves.serverValid hvalid.server, fun conn => ?_⟩
    rw [hhandlers]
    exact handlerValid_of_grows hevolves.grows
      (congrFun (received_of_background hbackground) conn) hevolves.clients_none
      (hvalid.handlers conn)

theorem wellFormed_of_reaches {state : State}
    (hreaches : Reaches State.step State.start state) : WellFormed state :=
  Reaches.invariant wellFormed_start (fun _ _ _ => wellFormed_step) hreaches

/-- Frames are passed on only between connections whose first frames carry the
same identifier, and every entry of `Server.sessions` was made for such a first
frame. -/
theorem sessions_isolated (state : State) (hreaches : Reaches State.step State.start state) :
    (∀ conn client, state.server.clients conn = some client → ∀ transfer ∈ client.sent,
      transfer.env ∈ state.server.received transfer.source ∧
        ∃ own source, first state.server conn = some own ∧
          first state.server transfer.source = some source ∧
          source.sessionID = own.sessionID ∧
          (client.role = .subscriber → source.msgType = msgTypePAKEInitPub)) ∧
    ∀ sessionID session, state.server.lookupSession sessionID = some session →
      (state.server.objects session).sessionID = sessionID ∧
        ∃ conn env, first state.server conn = some env ∧ env.sessionID = sessionID ∧
          (env.msgType = msgTypePAKEInitPub ∨ env.msgType = msgTypePAKEInitSub) := by
  have hvalid := (wellFormed_of_reaches hreaches).server
  constructor
  · intro conn client hclient transfer htransfer
    obtain ⟨hfirst, -, -, hsent⟩ := hvalid.clients conn client hclient
    obtain ⟨hread, source, hsource, hid, hrole⟩ := hsent transfer htransfer
    exact ⟨hread, client.initialEnv, source, hfirst, hsource, hid, hrole⟩
  · intro sessionID session hlookup
    obtain ⟨hcreated, hid⟩ := hvalid.sessions sessionID session hlookup
    obtain ⟨conn, role, env, hfirst, htype, henv⟩ := hvalid.objects session hcreated
    refine ⟨hid, conn, env, hfirst, henv.trans hid, ?_⟩
    cases role with
    | publisher => exact .inl htype
    | subscriber => exact .inr htype

/-- A publisher and a subscriber meet, the publisher forwards a frame and the
subscriber answers it. -/
def exchange : List Label :=
  arrive 0 .publisher ++ settlePublisher 0 ++ arrive 1 .subscriber ++
    [.handler 1 .proceed, .handler 1 .proceed, .handler 1 (.send true),
      .handler 0 (.read (some (bareFrame msgTypeDataStream))), .handler 0 (.order [1]),
      .handler 0 .enqueue,
      .handler 1 (.read (some (bareFrame msgTypeChunkAck))), .handler 1 .proceed,
      .handler 1 (.send true)]

theorem sessions_isolated_exchange : ∃ state, Reaches State.step State.start state ∧
    ((state.server.clients 0).map (·.sent.length) = some 2 ∧
      (state.server.clients 1).map (·.sent) =
        some [⟨0, bareFrame msgTypeDataStream⟩]) ∧
    ∃ own source, first state.server 1 = some own ∧ first state.server 0 = some source ∧
      source.sessionID = own.sessionID := by
  obtain ⟨state, hreaches, hsent⟩ := exists_reaches_of_run State.step State.start exchange
    (fun state => (state.server.clients 0).map (·.sent.length) = some 2 ∧
      (state.server.clients 1).map (·.sent) = some [⟨0, bareFrame msgTypeDataStream⟩])
    (by decide +kernel)
  have hboth := of_decide_eq_true hsent
  obtain ⟨client, hclient, hlog⟩ := Option.map_eq_some_iff.mp hboth.2
  obtain ⟨-, own, source, hown, hsource, hid, -⟩ :=
    (sessions_isolated state hreaches).1 1 client hclient
      ⟨0, bareFrame msgTypeDataStream⟩ (by simp [hlog])
  exact ⟨state, hreaches, hboth, own, source, hown, hsource, hid⟩

end ZeroFeed.Isolation
