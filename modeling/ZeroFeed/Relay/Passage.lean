import ZeroFeed.Relay.FanOut

/-!
# What passes through a session

Towards the subscribers a session forwards the frames its publishers sent after
their first one, without the heartbeats, and of each publisher in the order in
which they were read.  A frame that has been read and not been forwarded yet is
in the hands of the publisher's own handler.

Towards the publisher only the first frames of subscribers pass, and later
frames of the three types `loopSubscriber` and the one-shot `SyncReq` let
through.

Neither direction needs an assumption on the interleaving.
-/

namespace ZeroFeed.Passage

open ZeroFeed.ByteString
open ZeroFeed.Messages
open ZeroFeed.Session
open ZeroFeed.Handlers
open ZeroFeed.Isolation
open ZeroFeed.Transition

/-! ## Frames held by a handler -/

/-- The frames a subscriber gets through to the publisher after its first one. -/
def Upward (env : Envelope) : Prop :=
  env.msgType = msgTypeSyncReq ∨ env.msgType = msgTypeKeyConfirm ∨
    env.msgType = msgTypeChunkAck

/-- What is known of the frame in the hands of a handler. -/
def Typed : Handler → Prop
  | .forward _ env _ => env.msgType ≠ msgTypeHeartbeat
  | .forwardTo _ env | .sendTo _ env _ => Upward env
  | .syncLookup env | .syncRead env _ | .syncForward env _ | .syncSend env _ => Upward env
  | _ => True

section Reading

variable {srv srv' : Server} {conn session : ℕ} {env : Envelope} {handler handler' : Handler}
variable {input : Input}

theorem receive_inj {other : Envelope}
    (hsame : srv.receive conn other = srv.receive conn env) : other = env := by
  have hlog := congrFun (congrArg Server.received hsame) conn
  simpa [Server.receive] using hlog

theorem acceptSync_msgType
    (hhandle : handle srv conn .idle input = some (srv', .syncLookup env)) :
    env.msgType = msgTypeSyncReq := by
  cases input with
  | accept frame =>
      cases frame with
      | none => cases hhandle
      | some read =>
          simp only [handle, handleFirst] at hhandle
          split_ifs at hhandle with hpub hsub hsync
          · cases hhandle
          · cases hhandle
          · cases hhandle
            exact hsync
          · cases hhandle
  | _ => cases hhandle

theorem loopSubscriber_msgType
    (hhandle : handle srv conn (.loopSubscriber session) input =
      some (srv', .forwardTo session env)) : Upward env := by
  cases input with
  | read frame =>
      cases frame with
      | none => cases hhandle
      | some read =>
          simp only [handle, handleSubscriber] at hhandle
          split_ifs at hhandle with hpassed
          · cases hhandle
            exact hpassed
          · cases hhandle
  | _ => cases hhandle

/-- `loopPublisher` keeps heartbeats to itself and forwards everything else. -/
theorem loopPublisher_msgType
    (hhandle : handle srv conn (.loopPublisher session) input =
      some (srv.receive conn env, handler')) :
    (env.msgType = msgTypeHeartbeat ∧ handler' = .loopPublisher session) ∨
      env.msgType ≠ msgTypeHeartbeat ∧ ∃ last, handler' = .forward session env last := by
  cases input with
  | read frame =>
      cases frame with
      | none =>
          have hserver := (Prod.mk.inj (Option.some.inj hhandle)).1
          have hlog := congrFun (congrArg Server.received hserver) conn
          simp [Server.receive] at hlog
      | some read =>
          simp only [handle, handlePublisher] at hhandle
          split_ifs at hhandle with hheartbeat
          · obtain ⟨hserver, rfl⟩ := Prod.mk.inj (Option.some.inj hhandle)
            obtain rfl := receive_inj hserver
            exact .inl ⟨hheartbeat, rfl⟩
          · obtain ⟨hserver, rfl⟩ := Prod.mk.inj (Option.some.inj hhandle)
            obtain rfl := receive_inj hserver
            exact .inr ⟨hheartbeat, _, rfl⟩
  | _ => cases hhandle

theorem typed_of_handle (htyped : Typed handler)
    (hhandle : handle srv conn handler input = some (srv', handler')) : Typed handler' := by
  have hsection := section_of_handle hhandle
  cases hsection with
  | acceptSync env => exact .inl (acceptSync_msgType hhandle)
  | publisherRead session env last =>
      rcases loopPublisher_msgType hhandle with ⟨-, hloop⟩ | ⟨htype, -⟩
      · cases hloop
      · exact htype
  | subscriberRead session env => exact loopSubscriber_msgType hhandle
  | forwardToSome | syncFound | syncRead | syncForward => exact htyped
  | leave session next hnext => rcases hnext with rfl | rfl <;> trivial
  | _ => trivial

end Reading

/-! ## Who is registered -/

section Registrations

variable {srv srv' : Server} {conn : ℕ} {handler' : Handler}

theorem registered_of_evolves (hevolves : Evolves srv srv') {other session : ℕ} {role : Role}
    (hregistered : Registered srv' other role session) : Registered srv other role session := by
  obtain ⟨client', hclient', hrole, hsession⟩ := hregistered
  have hheir := hevolves.clients other
  rw [hclient'] at hheir
  cases hclient : srv.clients other with
  | none =>
      rw [hclient] at hheir
      cases hheir
  | some client =>
      rw [hclient] at hheir
      obtain ⟨hheir⟩ := hheir
      exact ⟨client, hclient, hheir.role.symm.trans hrole, hheir.session.symm.trans hsession⟩

/-- After a section the same connections are registered, and possibly the
handler's own, which was not before. -/
theorem registered_of_outcome (houtcome : Outcome srv conn srv' handler') {other session : ℕ}
    {role : Role} (hregistered : Registered srv' other role session) :
    Registered srv other role session ∨
      other = conn ∧ srv.clients conn = none ∧ ∃ env, handler' = .registered role env session := by
  cases houtcome with
  | evolves hevolves => exact .inl (registered_of_evolves hevolves hregistered)
  | creates => exact .inl hregistered
  | registers place env target object joinedAt hfresh =>
      by_cases hother : other = conn
      · subst hother
        obtain ⟨client, hclient, hrole, hsession⟩ := hregistered
        simp only [Server.setClient_clients, Function.update_self, Option.some.injEq] at hclient
        subst hclient
        obtain rfl : place = role := hrole
        obtain rfl : target = session := hsession
        exact .inr ⟨rfl, hfresh, env, rfl⟩
      · obtain ⟨client, hclient, hrest⟩ := hregistered
        simp only [Server.setClient_clients, Function.update_of_ne hother] at hclient
        exact .inl ⟨client, hclient, hrest⟩

/-- A connection has one role and one session. -/
theorem registered_inj {other session session' : ℕ} {role role' : Role}
    (hfirst : Registered srv other role session) (hsecond : Registered srv other role' session') :
    role = role' ∧ session = session' := by
  obtain ⟨client, hclient, rfl, rfl⟩ := hfirst
  obtain ⟨found, hfound, hrole, hsession⟩ := hsecond
  obtain rfl := Option.some.inj (hclient.symm.trans hfound)
  exact ⟨hrole, hsession⟩

theorem not_registered_of_none {role : Role} {session : ℕ} (hnone : srv.clients conn = none) :
    ¬ Registered srv conn role session := by
  rintro ⟨client, hclient, -⟩
  rw [hnone] at hclient
  cases hclient

end Registrations

/-! ## Towards the subscribers -/

/-- The frames the relay does not keep to itself. -/
def carried (frames : List Envelope) : List Envelope :=
  frames.filter fun env => env.msgType ≠ msgTypeHeartbeat

/-- What a publisher has sent for its subscribers: its first frame only
introduces it. -/
def outgoing (srv : Server) (conn : ℕ) : List Envelope := carried ((srv.received conn).drop 1)

/-- The frame a handler has read and not forwarded yet. -/
def inFlight : Handler → List Envelope
  | .forward _ env _ => [env]
  | _ => []

/-- The forwarded frames of a session with the publisher each was read from. -/
structure Sourced (state : State) (session : ℕ) (tagged : List (ℕ × Envelope)) : Prop where
  frames : tagged.map Prod.snd = (state.server.objects session).forwarded
  sources : ∀ entry ∈ tagged, Registered state.server entry.1 .publisher session
  complete : ∀ conn, Registered state.server conn .publisher session →
    (tagged.filter fun entry => entry.1 = conn).map Prod.snd ++ inFlight (state.handlers conn) =
      outgoing state.server conn

/-- The invariant of the downward direction.  A connection without a client has
sent at most the frame that introduces it. -/
structure Downward (state : State) : Prop where
  sessions : ∀ session, ∃ tagged, Sourced state session tagged
  single : ∀ conn, state.server.clients conn = none →
    (state.server.received conn).length ≤ 1
  typed : ∀ conn, Typed (state.handlers conn)

theorem carried_append (left right : List Envelope) :
    carried (left ++ right) = carried left ++ carried right :=
  List.filter_append ..

/-- A further frame of a registered connection is added to what it sends. -/
theorem outgoing_receive {srv : Server} {conn session : ℕ} {role : Role}
    (hvalid : ServerValid srv) (hregistered : Registered srv conn role session) (env : Envelope) :
    outgoing (srv.receive conn env) conn = outgoing srv conn ++ carried [env] := by
  obtain ⟨client, hclient, -⟩ := hregistered
  have hfirst := (hvalid.clients conn client hclient).first
  rw [first] at hfirst
  cases hreceived : srv.received conn with
  | nil =>
      rw [hreceived] at hfirst
      cases hfirst
  | cons head rest =>
      simp only [outgoing, Server.receive, Function.update_self, hreceived, List.cons_append,
        List.drop_succ_cons, List.drop_zero, carried_append]

theorem closeSession_forwarded (srv : Server) (target session : ℕ) :
    ((srv.closeSession target).objects session).forwarded =
      (srv.objects session).forwarded := by
  by_cases hsession : session = target
  · subst hsession
    rw [srv.closeSession_objects_self, RelaySession.close]
    split <;> rfl
  · rw [srv.closeSession_objects_of_ne hsession]

section Steps

variable {state state' : State} {session : ℕ} {tagged : List (ℕ × Envelope)}

/-- Nothing was forwarded, and what the publishers have read more they hold. -/
theorem Sourced.of_unforwarded (hsourced : Sourced state session tagged)
    (hgrows : Grows state.server state'.server)
    (hforwarded : (state'.server.objects session).forwarded =
      (state.server.objects session).forwarded)
    (hold : ∀ conn, Registered state'.server conn .publisher session →
      Registered state.server conn .publisher session)
    (hread : ∀ conn, Registered state.server conn .publisher session → ∃ frames,
      inFlight (state'.handlers conn) = inFlight (state.handlers conn) ++ frames ∧
        outgoing state'.server conn = outgoing state.server conn ++ frames) :
    Sourced state' session tagged where
  frames := hsourced.frames.trans hforwarded.symm
  sources := fun entry hentry => registered_of_grows hgrows (hsourced.sources entry hentry)
  complete := by
    intro conn hregistered
    have hbefore := hold conn hregistered
    obtain ⟨frames, hflight, houtgoing⟩ := hread conn hbefore
    rw [hflight, houtgoing, ← List.append_assoc, hsourced.complete conn hbefore]

end Steps

/-- A section that neither forwards a frame nor registers a publisher. -/
structure Quiet (srv : Server) (conn : ℕ) (handler : Handler) (srv' : Server)
    (handler' : Handler) : Prop where
  forwarded : ∀ session, (srv'.objects session).forwarded = (srv.objects session).forwarded
  newcomer : ∀ session, handler' ≠ .greet session
  read : ∀ session, Registered srv conn .publisher session → ∃ frames,
    inFlight handler' = inFlight handler ++ frames ∧
      outgoing srv' conn = outgoing srv conn ++ frames

section Sections

variable {srv srv' : Server} {conn : ℕ} {handler handler' : Handler} {input : Input}

theorem Quiet.of_unread (hforwarded : ∀ session,
      (srv'.objects session).forwarded = (srv.objects session).forwarded)
    (hnewcomer : ∀ session, handler' ≠ .greet session)
    (hflight : inFlight handler' = inFlight handler)
    (hreceived : ∀ session, Registered srv conn .publisher session →
      srv'.received conn = srv.received conn) :
    Quiet srv conn handler srv' handler' := by
  refine ⟨hforwarded, hnewcomer, fun session hregistered => ⟨[], ?_, ?_⟩⟩
  · rw [hflight, List.append_nil]
  · rw [outgoing, outgoing, hreceived session hregistered, List.append_nil]

/-- A frame read from a connection that is not a publisher's. -/
theorem Quiet.of_receive {env : Envelope} (hnewcomer : ∀ session, handler' ≠ .greet session)
    (hflight : inFlight handler' = inFlight handler)
    (hother : ∀ session, ¬ Registered srv conn .publisher session) :
    Quiet srv conn handler (srv.receive conn env) handler' :=
  .of_unread (fun _ => rfl) hnewcomer hflight
    fun session hregistered => absurd hregistered (hother session)

theorem Quiet.of_setObject {session : ℕ} {object : RelaySession}
    (hforwarded : object.forwarded = (srv.objects session).forwarded)
    (hnewcomer : ∀ session, handler' ≠ .greet session)
    (hflight : inFlight handler' = inFlight handler) :
    Quiet srv conn handler (srv.setObject session object) handler' :=
  .of_unread (srv.setObject_congr RelaySession.forwarded hforwarded) hnewcomer hflight
    fun _ _ => rfl

theorem not_publisher_of_subscriber {session : ℕ}
    (hregistered : Registered srv conn .subscriber session) (target : ℕ) :
    ¬ Registered srv conn .publisher target := by
  intro hpublisher
  cases (registered_inj hregistered hpublisher).1

end Sections

section Downward

variable {state state' : State} {conn : ℕ} {handler' : Handler} {input : Input}
variable (hvalid : WellFormed state) (hdown : Downward state)
variable (hhandlers : state'.handlers = Function.update state.handlers conn handler')

include hdown hhandlers

theorem sourced_of_quiet (houtcome : Outcome state.server conn state'.server handler')
    (hreceived : ∀ other, other ≠ conn →
      state'.server.received other = state.server.received other)
    (hquiet : Quiet state.server conn (state.handlers conn) state'.server handler')
    (session : ℕ) : ∃ tagged, Sourced state' session tagged := by
  obtain ⟨tagged, hsourced⟩ := hdown.sessions session
  refine ⟨tagged, hsourced.of_unforwarded houtcome.grows (hquiet.forwarded session) ?_ ?_⟩
  · intro other hregistered
    rcases registered_of_outcome houtcome hregistered with hold | ⟨-, -, env, hnew⟩
    · exact hold
    · exact absurd hnew (hquiet.newcomer session)
  · intro other hregistered
    rw [hhandlers]
    by_cases hother : other = conn
    · subst hother
      rw [Function.update_self]
      exact hquiet.read session hregistered
    · rw [Function.update_of_ne hother, outgoing, outgoing, hreceived other hother]
      exact ⟨[], (List.append_nil _).symm, (List.append_nil _).symm⟩

/-- The frame moves from the hands of its publisher to the forwarded frames. -/
theorem sourced_of_forward {env : Envelope} {target : ℕ} {last : Bool} {conns : List ℕ}
    (hown : Registered state.server conn .publisher target)
    (hpoint : state.handlers conn = .forward target env last)
    (hserver : state'.server = state.server.setObject target
      { state.server.objects target with
        forwarded := (state.server.objects target).forwarded ++ [env] })
    (hhandler' : handler' = .forwarding target env last conns) (session : ℕ) :
    ∃ tagged, Sourced state' session tagged := by
  obtain ⟨tagged, hsourced⟩ := hdown.sessions session
  have hclients : ∀ other, Registered state'.server other .publisher session ↔
      Registered state.server other .publisher session := by
    intro other
    rw [hserver]
    exact Iff.rfl
  have hsent : ∀ other, outgoing state'.server other = outgoing state.server other := by
    intro other
    rw [hserver]
    rfl
  by_cases hsession : session = target
  · subst hsession
    refine ⟨tagged ++ [(conn, env)], ?_, ?_, ?_⟩
    · rw [List.map_append, hsourced.frames, hserver, Server.setObject_objects,
        Function.update_self]
      rfl
    · intro entry hentry
      rw [hclients]
      rcases List.mem_append.mp hentry with hold | hnew
      · exact hsourced.sources entry hold
      · rw [List.mem_singleton.mp hnew]
        exact hown
    · intro other hregistered
      rw [hclients] at hregistered
      have hcomplete := hsourced.complete other hregistered
      rw [hsent, ← hcomplete, hhandlers, List.filter_append, List.map_append]
      by_cases hother : other = conn
      · subst hother
        rw [Function.update_self, hhandler', hpoint, List.filter_cons_of_pos (by simp)]
        simp only [inFlight, List.filter_nil, List.map_cons, List.map_nil, List.append_nil]
      · rw [Function.update_of_ne hother, List.filter_cons_of_neg (by simp [Ne.symm hother])]
        simp only [List.filter_nil, List.map_nil, List.append_nil]
  · refine ⟨tagged, ?_, fun entry hentry => (hclients _).mpr (hsourced.sources entry hentry), ?_⟩
    · rw [hsourced.frames, hserver, Server.setObject_objects, Function.update_of_ne hsession]
    · intro other hregistered
      rw [hclients] at hregistered
      have hother : other ≠ conn := by
        rintro rfl
        exact hsession (registered_inj hregistered hown).2
      rw [hsent, hhandlers, Function.update_of_ne hother]
      exact hsourced.complete other hregistered

/-- A publisher that has just registered has sent only its first frame. -/
theorem sourced_of_registerPublisher {target : ℕ}
    (houtcome : Outcome state.server conn state'.server handler')
    (hfresh : state.server.clients conn = none)
    (hforwarded : ∀ session, (state'.server.objects session).forwarded =
      (state.server.objects session).forwarded)
    (hreceived : state'.server.received = state.server.received)
    (hhandler' : handler' = .greet target) (session : ℕ) :
    ∃ tagged, Sourced state' session tagged := by
  obtain ⟨tagged, hsourced⟩ := hdown.sessions session
  refine ⟨tagged, hsourced.frames.trans (hforwarded session).symm, fun entry hentry =>
    registered_of_grows houtcome.grows (hsourced.sources entry hentry), ?_⟩
  intro other hregistered
  rw [hhandlers, outgoing, hreceived]
  by_cases hother : other = conn
  · subst hother
    have hnone : tagged.filter (fun entry => entry.1 = other) = [] := by
      apply List.filter_eq_nil_iff.mpr
      intro entry hentry hsame
      have hsource := hsourced.sources entry hentry
      rw [of_decide_eq_true hsame] at hsource
      exact not_registered_of_none hfresh hsource
    have hfirst : (state.server.received other).drop 1 = [] :=
      List.drop_eq_nil_iff.mpr (hdown.single other hfresh)
    rw [Function.update_self, hhandler', hnone, hfirst]
    rfl
  · rcases registered_of_outcome houtcome hregistered with hold | ⟨hsame, -⟩
    · rw [Function.update_of_ne hother]
      exact hsourced.complete other hold
    · exact absurd hsame hother

include hvalid

/-- Nobody is registered on a session that has just been created. -/
theorem sourced_of_createSession {sessionID : SessionID}
    (hserver : state'.server = state.server.createSession sessionID)
    (hflight : inFlight (state.handlers conn) = []) (hflight' : inFlight handler' = [])
    (session : ℕ) : ∃ tagged, Sourced state' session tagged := by
  have hclients : ∀ other, Registered state'.server other .publisher session →
      Registered state.server other .publisher session := by
    rw [hserver]
    exact fun _ hregistered => hregistered
  by_cases hsession : session = state.server.created
  · refine ⟨[], ?_, fun _ hentry => absurd hentry List.not_mem_nil, ?_⟩
    · simp [hserver, hsession, Server.createSession, RelaySession.new]
    · intro other hregistered
      obtain ⟨env, -, -, hcarries⟩ :=
        carries_of_registered hvalid.server (hclients other hregistered)
      exact absurd hcarries.1 (by omega)
  · obtain ⟨tagged, hsourced⟩ := hdown.sessions session
    have hgrows : Grows state.server state'.server := by
      rw [hserver]
      exact grows_createSession sessionID
    refine ⟨tagged, hsourced.of_unforwarded hgrows ?_ hclients ?_⟩
    · simp [hserver, Server.createSession, hsession]
    · intro other _
      refine ⟨[], ?_, ?_⟩
      · rw [hhandlers, List.append_nil]
        by_cases hother : other = conn
        · subst hother
          rw [Function.update_self, hflight, hflight']
        · rw [Function.update_of_ne hother]
      · rw [hserver, List.append_nil]
        rfl

theorem sourced_of_handle
    (hhandle : handle state.server conn (state.handlers conn) input =
      some (state'.server, handler')) (session : ℕ) : ∃ tagged, Sourced state' session tagged := by
  have hsection := section_of_handle hhandle
  have hhandler := hvalid.handlers conn
  have houtcome := outcome_of_section hvalid.server hhandler hsection
  have hquiet : Quiet state.server conn (state.handlers conn) state'.server handler' →
      ∃ tagged, Sourced state' session tagged := fun hquiet =>
    sourced_of_quiet hdown hhandlers houtcome (fun _ => received_of_section hsection) hquiet session
  generalize hpoint : state.handlers conn = handler at hhandle hsection hhandler hquiet
  generalize hserver : state'.server = srv' at hhandle hsection houtcome hquiet
  cases hsection with
  | forward target env last conns =>
      exact sourced_of_forward hdown hhandlers hhandler.1 hpoint hserver rfl session
  | registerPublisher env target =>
      exact sourced_of_registerPublisher hdown hhandlers (hserver ▸ houtcome) hhandler.2
        (hserver ▸ state.server.setObject_congr RelaySession.forwarded rfl) (by rw [hserver]; rfl)
        rfl session
  | fetchNew role env =>
      exact sourced_of_createSession hvalid hdown hhandlers hserver (by rw [hpoint]; rfl) rfl
        session
  | publisherHeartbeat target env =>
      refine hquiet ⟨fun _ => rfl, by simp, fun other hregistered => ⟨[], rfl, ?_⟩⟩
      rcases loopPublisher_msgType hhandle with ⟨htype, -⟩ | ⟨-, last, hread⟩
      · rw [outgoing_receive hvalid.server hregistered, carried,
          List.filter_cons_of_neg (by simp [htype]), List.filter_nil]
      · cases hread
  | publisherRead target env last =>
      refine hquiet ⟨fun _ => rfl, by simp, fun other hregistered => ⟨[env], rfl, ?_⟩⟩
      rcases loopPublisher_msgType hhandle with ⟨-, hloop⟩ | ⟨htype, -⟩
      · cases hloop
      · rw [outgoing_receive hvalid.server hregistered, carried,
          List.filter_cons_of_pos (by simp [htype]), List.filter_nil]
  | drop env =>
      exact hquiet (.of_unread (fun _ => rfl) (by simp) rfl fun _ hregistered =>
        absurd hregistered (not_registered_of_none hhandler.2))
  | acceptClient role env | acceptSync env =>
      exact hquiet (.of_receive (by simp) rfl fun _ => not_registered_of_none hhandler.2)
  | subscriberIgnored target env | subscriberRead target env =>
      exact hquiet (.of_receive (by simp) rfl (not_publisher_of_subscriber hhandler))
  | registerSubscriber env target =>
      exact hquiet (.of_unread (state.server.setObject_congr RelaySession.forwarded rfl) (by simp)
        rfl fun _ _ => rfl)
  | greet target | greetDone target => exact hquiet (.of_setObject rfl (by simp) rfl)
  | leave target next hnext =>
      rcases hnext with rfl | rfl
      · exact hquiet (.of_setObject rfl (by simp) rfl)
      · exact hquiet (.of_setObject rfl (by simp) rfl)
  | greetSend | announce | sendTo => exact hquiet (.of_unread (by simp) (by simp) rfl (by simp))
  | syncSend =>
      exact hquiet (.of_unread (by simp [Server.closeNet]) (by simp) rfl
        (by simp [Server.closeNet]))
  | removeClose =>
      exact hquiet (.of_unread (closeSession_forwarded state.server _) (by simp) rfl (by simp))
  | _ => exact hquiet (.of_unread (fun _ => rfl) (by simp) rfl fun _ _ => rfl)

end Downward

/-- Only a registered connection is read from twice. -/
theorem single_of_section {srv srv' : Server} {conn : ℕ} {handler handler' : Handler}
    {input : Input} (hvalid : ServerValid srv) (hhandler : HandlerValid srv conn handler)
    (hsingle : ∀ other, srv.clients other = none → (srv.received other).length ≤ 1)
    (hsection : Section conn srv input handler srv' handler') (other : ℕ)
    (hnone : srv'.clients other = none) : (srv'.received other).length ≤ 1 := by
  have hgrows := (outcome_of_section hvalid hhandler hsection).grows
  have hbefore : srv.clients other = none := by
    cases hclient : srv.clients other with
    | none => rfl
    | some client =>
        obtain ⟨client', hclient', -⟩ := hgrows.clients other client hclient
        rw [hnone] at hclient'
        cases hclient'
  by_cases hother : other = conn
  · subst hother
    have hlength := hsingle other hbefore
    cases hsection with
    | drop env | acceptClient role env | acceptSync env =>
        simp [Server.receive, Server.closeNet, hhandler.1]
    | publisherHeartbeat | publisherRead | subscriberIgnored | subscriberRead =>
        exact absurd hhandler (not_registered_of_none hbefore)
    | greetSend | announce | sendTo => simpa using hlength
    | syncSend => simpa [Server.closeNet] using hlength
    | removeClose => simpa using hlength
    | _ => exact hlength
  · rw [received_of_section hsection hother]
    exact hsingle other hbefore

theorem downward_start : Downward State.start where
  sessions := fun session => ⟨[], rfl, nofun, by rintro conn ⟨client, hclient, -⟩; cases hclient⟩
  single := fun _ _ => Nat.zero_le _
  typed := fun _ => trivial

theorem downward_step {state state' : State} {label : Label} (hvalid : WellFormed state)
    (hdown : Downward state) (hstep : state.step label = some state') : Downward state' := by
  cases label with
  | handler conn input =>
      obtain ⟨⟨server, handler'⟩, hhandle, rfl⟩ := Option.map_eq_some_iff.mp hstep
      refine ⟨sourced_of_handle hvalid hdown rfl hhandle, ?_, ?_⟩
      · exact single_of_section hvalid.server (hvalid.handlers conn) hdown.single
          (section_of_handle hhandle)
      · rw [Function.forall_update_iff state.handlers (p := fun _ handler => Typed handler)]
        exact ⟨typed_of_handle (hdown.typed conn) hhandle, fun other _ => hdown.typed other⟩
  | task task =>
      obtain ⟨server, hperform, rfl⟩ := Option.map_eq_some_iff.mp hstep
      have hbackground := background_of_perform hperform
      have hevolves := evolves_of_background hbackground
      have hreceived := received_of_background hbackground
      have hforwarded : ∀ session, (server.objects session).forwarded =
          (state.server.objects session).forwarded := by
        intro session
        cases hbackground with
        | removeSubscriber target conn =>
            have hobject : ((state.server.objects target).removeSubscriber conn).forwarded =
                (state.server.objects target).forwarded := rfl
            exact state.server.setObject_congr RelaySession.forwarded hobject session
        | sweepClose => exact closeSession_forwarded state.server _ session
        | _ => rfl
      refine ⟨fun session => ?_, fun conn hnone => ?_, hdown.typed⟩
      · obtain ⟨tagged, hsourced⟩ := hdown.sessions session
        refine ⟨tagged, hsourced.of_unforwarded hevolves.grows (hforwarded session)
          (fun _ => registered_of_evolves hevolves) fun conn _ => ⟨[], ?_, ?_⟩⟩
        · exact (List.append_nil _).symm
        · rw [outgoing, outgoing, hreceived, List.append_nil]
      · rw [hreceived]
        apply hdown.single
        cases hclient : state.server.clients conn with
        | none => rfl
        | some client =>
            obtain ⟨client', hclient', -⟩ := hevolves.grows.clients conn client hclient
            rw [hnone] at hclient'
            cases hclient'

theorem downward_of_reaches {state : State} (hreaches : Reaches State.step State.start state) :
    Downward state :=
  Reaches.invariant_of_known (fun _ => wellFormed_of_reaches) downward_start
    (fun _ _ _ => downward_step) hreaches

/-- With one publisher the session has forwarded what that publisher sent, up to
the frame in its handler's hands. -/
theorem forwarded_of_sole {state : State} (hreaches : Reaches State.step State.start state)
    {conn session : ℕ} (hregistered : Registered state.server conn .publisher session)
    (hsole : ∀ other, Registered state.server other .publisher session → other = conn) :
    (state.server.objects session).forwarded ++ inFlight (state.handlers conn) =
      outgoing state.server conn := by
  obtain ⟨tagged, hsourced⟩ := (downward_of_reaches hreaches).sessions session
  have hall : tagged.filter (fun entry => entry.1 = conn) = tagged := by
    apply List.filter_eq_self.mpr
    intro entry hentry
    exact decide_eq_true (hsole entry.1 (hsourced.sources entry hentry))
  have hcomplete := hsourced.complete conn hregistered
  rw [hall, hsourced.frames] at hcomplete
  exact hcomplete

/-! ## Towards the publisher -/

/-- A frame that may be handed to a publisher. -/
def Inbound (srv : Server) (transfer : Transfer) : Prop :=
  Upward transfer.env ∨ ∃ client, srv.clients transfer.source = some client ∧
    client.role = .subscriber ∧ client.initialEnv = transfer.env

/-- Publishers were sent nothing in the step, or frames they may be handed. -/
def Sends (srv srv' : Server) : Prop :=
  ∀ conn client', srv'.clients conn = some client' → client'.role = .publisher →
    ∀ transfer ∈ client'.sent, Inbound srv transfer ∨
      ∃ client, srv.clients conn = some client ∧ client.role = .publisher ∧
        transfer ∈ client.sent

section Sends

variable {srv srv' : Server} {conn : ℕ} {handler handler' : Handler} {input : Input}

theorem sends_of_clients (hclients : srv'.clients = srv.clients) : Sends srv srv' := by
  intro conn client hclient hrole transfer htransfer
  rw [hclients] at hclient
  exact .inr ⟨client, hclient, hrole, htransfer⟩

/-- One client changes, and gains at most frames it may be handed. -/
theorem sends_of_setClient {other : ℕ} {next : ClientConn}
    (hclients : srv'.clients = Function.update srv.clients other (some next))
    (hnext : next.role = .publisher → ∀ transfer ∈ next.sent, Inbound srv transfer ∨
      ∃ client, srv.clients other = some client ∧ client.role = .publisher ∧
        transfer ∈ client.sent) : Sends srv srv' := by
  intro conn client hclient hrole transfer htransfer
  rw [hclients] at hclient
  by_cases hother : conn = other
  · subst hother
    rw [Function.update_self] at hclient
    obtain rfl := Option.some.inj hclient
    exact hnext hrole transfer htransfer
  · rw [Function.update_of_ne hother] at hclient
    exact .inr ⟨client, hclient, hrole, htransfer⟩

theorem sends_sendFrame {publisher : ℕ} {transfer : Transfer} (written : Bool)
    (hinbound : Inbound srv transfer) : Sends srv (srv.sendFrame publisher transfer written) := by
  rcases srv.sendFrame_cases publisher transfer written with hsame | ⟨client, hclient, hsent⟩
  · rw [hsame]
    exact sends_of_clients rfl
  · rw [hsent]
    refine sends_of_setClient rfl fun hrole other hother => ?_
    rcases List.mem_append.mp hother with hold | hnew
    · exact .inr ⟨client, hclient, hrole, hold⟩
    · rw [List.mem_singleton.mp hnew]
      exact .inl hinbound

theorem sends_closeClients (conns : List ℕ) : Sends srv (srv.closeClients conns) := by
  intro conn client' hclient' hrole transfer htransfer
  simp only [Server.closeClients] at hclient'
  split at hclient'
  · obtain ⟨client, hclient, rfl⟩ := Option.map_eq_some_iff.mp hclient'
    exact .inr ⟨client, hclient, hrole, htransfer⟩
  · exact .inr ⟨client', hclient', hrole, htransfer⟩

theorem sends_closeSession (target : ℕ) : Sends srv (srv.closeSession target) := by
  rw [Server.closeSession]
  split
  · exact sends_of_clients rfl
  · exact sends_closeClients (srv.objects target).members

theorem inbound_of_first (hvalid : ServerValid srv) {session : ℕ} {env : Envelope}
    (hregistered : Registered srv conn .subscriber session) (hfirst : first srv conn = some env) :
    Inbound srv ⟨conn, env⟩ := by
  obtain ⟨client, hclient, hrole, -⟩ := hregistered
  have hinitial := (hvalid.clients conn client hclient).first
  exact .inr ⟨client, hclient, hrole, Option.some.inj (hinitial.symm.trans hfirst)⟩

theorem sends_of_section (hvalid : ServerValid srv) (hhandler : HandlerValid srv conn handler)
    (htyped : Typed handler) (hsection : Section conn srv input handler srv' handler') :
    Sends srv srv' := by
  cases hsection with
  | registerPublisher | registerSubscriber =>
      exact sends_of_setClient rfl fun _ _ htransfer => absurd htransfer List.not_mem_nil
  | greetSend session subscriber rest client written hinput hclient =>
      obtain ⟨other, hother, hrole, -⟩ := hhandler.2 subscriber List.mem_cons_self
      obtain rfl := Option.some.inj (hclient.symm.trans hother)
      exact sends_sendFrame written (.inr ⟨client, hclient, hrole, rfl⟩)
  | forwardEnqueue session env last subscriber rest client hclient =>
      refine sends_of_setClient rfl fun hrole => ?_
      obtain ⟨other, hother, hsubscriber, -⟩ := hhandler.2 subscriber List.mem_cons_self
      obtain rfl := Option.some.inj (hclient.symm.trans hother)
      cases hrole.symm.trans hsubscriber
  | announce env session publisher written =>
      exact sends_sendFrame written (inbound_of_first hvalid hhandler.1.1 hhandler.1.2)
  | sendTo session env publisher written => exact sends_sendFrame written (.inl htyped)
  | syncSend env publisher written =>
      have hsends : Sends srv (srv.sendFrame publisher ⟨conn, env⟩ written) :=
        sends_sendFrame written (.inl htyped)
      exact fun other client => hsends other client
  | hangUp => exact sends_closeClients [conn]
  | removeClose role session sessionID target =>
      exact fun other client => sends_closeSession target other client
  | _ => exact sends_of_clients rfl

theorem sends_of_background {task : Task} (hbackground : Background srv task srv') :
    Sends srv srv' := by
  cases hbackground with
  | writer conn input client client' htask hclient hwrite =>
      refine sends_of_setClient rfl fun hrole transfer htransfer =>
        .inr ⟨client, hclient, ?_, ?_⟩
      · cases hwrite <;> exact hrole
      · cases hwrite <;> exact htransfer
  | closeRemoved conn => exact fun other client => sends_closeClients [conn] other client
  | sweepClose kind entry => exact fun other client => sends_closeSession entry.2 other client
  | _ => exact sends_of_clients rfl

theorem inbound_of_grows (hgrows : Grows srv srv') {transfer : Transfer}
    (hinbound : Inbound srv transfer) : Inbound srv' transfer := by
  rcases hinbound with hupward | ⟨client, hclient, hrole, hinitial⟩
  · exact .inl hupward
  · obtain ⟨client', hclient', hsame⟩ := hgrows.clients _ client hclient
    exact .inr ⟨client', hclient', hsame.role.trans hrole, hsame.initialEnv.trans hinitial⟩

end Sends

/-- Everything a publisher was sent, it could be handed. -/
theorem inbound_of_reaches {state : State} (hreaches : Reaches State.step State.start state)
    {conn : ℕ} {client : ClientConn} (hclient : state.server.clients conn = some client)
    (hrole : client.role = .publisher) {transfer : Transfer} (htransfer : transfer ∈ client.sent) :
    Inbound state.server transfer := by
  induction hreaches generalizing conn client with
  | refl => cases hclient
  | @tail before after hbefore hlast ih =>
      obtain ⟨label, hstep⟩ := hlast
      have hvalid := wellFormed_of_reaches hbefore
      have htyped := (downward_of_reaches hbefore).typed
      obtain ⟨hgrows, hsends⟩ : Grows before.server after.server ∧
          Sends before.server after.server := by
        rcases cases_of_step hstep with
          ⟨mover, input, handler', -, hsection, -⟩ | ⟨task, -, hbackground, -⟩
        · exact ⟨(outcome_of_section hvalid.server (hvalid.handlers mover) hsection).grows,
            sends_of_section hvalid.server (hvalid.handlers mover) (htyped mover) hsection⟩
        · exact ⟨(evolves_of_background hbackground).grows, sends_of_background hbackground⟩
      apply inbound_of_grows hgrows
      rcases hsends conn client hclient hrole transfer htransfer with hnew | hold
      · exact hnew
      · obtain ⟨earlier, hearlier, hpublisher, hsent⟩ := hold
        exact ih hearlier hpublisher hsent

/-- An introduction that reaches a publisher is the first frame of the
subscriber it came from. -/
theorem introduction_of_reaches {state : State}
    (hreaches : Reaches State.step State.start state) {conn : ℕ} {client : ClientConn}
    (hclient : state.server.clients conn = some client) (hrole : client.role = .publisher)
    {transfer : Transfer} (htransfer : transfer ∈ client.sent)
    (htype : transfer.env.msgType = msgTypePAKEInitSub) :
    ∃ subscriber, state.server.clients transfer.source = some subscriber ∧
      subscriber.role = .subscriber ∧ subscriber.initialEnv = transfer.env := by
  rcases inbound_of_reaches hreaches hclient hrole htransfer with hupward | hfirst
  · rw [Upward, htype] at hupward
    exact absurd hupward (by decide)
  · exact hfirst

end ZeroFeed.Passage
