import ZeroFeed.Relay.Directory

/-!
# Clients in the session the map holds

A handler fetches its session in one section and registers on it in a later
one, and the registration does not look at `closed`.  If the session is closed
in between, the client sits in an object that nobody else can find.  The grace
period keeps the reaper from doing so; `stranded_publisher` is a run in which a
leaving subscriber does it.  As long as no session is closed while a handler has
fetched it and not yet registered, and `ForwardFromPublisher` only has closed
clients removed, every client in its read loop is registered in the session
under its identifier.
-/

namespace ZeroFeed.Seats

open ZeroFeed.Messages
open ZeroFeed.Session
open ZeroFeed.Handlers
open ZeroFeed.Isolation
open ZeroFeed.Directory
open ZeroFeed.Transition

/-- The role and the session of a handler from its registration to the end of
its read loop. -/
def serving : Handler → Option (Role × ℕ)
  | .greet session | .greeting session _ | .loopPublisher session | .forward session _ _
  | .forwarding session _ _ _ => some (.publisher, session)
  | .findPublisher _ session | .announce _ session _ | .loopSubscriber session
  | .forwardTo session _ | .sendTo session _ _ => some (.subscriber, session)
  | _ => none

/-- The session a handler has fetched and not yet registered on. -/
def fetched : Handler → Option ℕ
  | .register _ _ session => some session
  | _ => none

/-- The handler is in its read loop. -/
def inReadLoop : Handler → Bool
  | .loopPublisher _ | .forward .. | .forwarding .. | .loopSubscriber _ | .forwardTo ..
  | .sendTo .. => true
  | _ => false

/-- The client is entered in the session in its role. -/
def Entered (object : RelaySession) (conn : ℕ) : Role → Prop
  | .publisher => object.publisher = some conn
  | .subscriber => conn ∈ object.subscribers

/-- The session is open and the client is entered in it. -/
def Sits (object : RelaySession) (conn : ℕ) (role : Role) : Prop :=
  object.closed = false ∧ Entered object conn role

/-- The session object a step closes. -/
def closing (state : State) : Label → Option ℕ
  | .handler conn .proceed =>
      match state.handlers conn, state.server.srvMu with
      | .removing _ _, .closing owner _ target => if owner = conn then some target else none
      | _, _ => none
  | .task .sweep =>
      match state.server.srvMu with
      | .sweeping _ .close (entry :: _) => some entry.2
      | _ => none
  | _ => none

/-- No session is closed under a handler that has fetched it and not yet
registered, and only closed subscribers are removed by other goroutines. -/
structure Orderly (state : State) (label : Label) : Prop where
  fetched : ∀ target, closing state label = some target →
    ∀ conn, fetched (state.handlers conn) ≠ some target
  removal : ∀ session conn, label = .task (.removeSubscriber session conn) →
    state.server.isClosed conn = true

/-- Handlers about to register hold an open session, and clients that are not
closed sit in one. -/
structure Seated (state : State) : Prop where
  fetched : ∀ conn role env session, state.handlers conn = .register role env session →
    (state.server.objects session).closed = false
  seated : ∀ conn role session, serving (state.handlers conn) = some (role, session) →
    state.server.isClosed conn = false →
      Sits (state.server.objects session) conn role

section Seats

variable {srv srv' : Server} {conn other session : ℕ} {role : Role}

theorem registered_of_serving {handler : Handler} (hvalid : HandlerValid srv conn handler)
    (hserving : serving handler = some (role, session)) :
    Registered srv conn role session := by
  cases handler with
  | greet | loopPublisher | loopSubscriber =>
      cases hserving
      exact hvalid
  | greeting | forward | findPublisher | forwardTo =>
      cases hserving
      exact hvalid.1
  | forwarding | announce | sendTo =>
      cases hserving
      exact hvalid.1.1
  | _ => cases hserving

/-- Closing a session closes the clients that sit in it. -/
theorem isClosed_closeSession (hregistered : Registered srv conn role session)
    (hsits : Sits (srv.objects session) conn role) :
    (srv.closeSession session).isClosed conn = true := by
  obtain ⟨hopen, hentered⟩ := hsits
  obtain ⟨client, hclient, -⟩ := hregistered
  have hmember : conn ∈ (srv.objects session).members := by
    rw [RelaySession.members]
    cases role with
    | publisher =>
        rw [Entered] at hentered
        simp [hentered]
    | subscriber => exact List.mem_append_right _ hentered
  simp [Server.closeSession, hopen, Server.isClosed, Server.closeClients,
    hmember, hclient, ClientConn.close]

theorem sits_closeSession (hregistered : Registered srv conn role session)
    (hsits : Sits (srv.objects session) conn role) {target : ℕ}
    (hstays : (srv.closeSession target).isClosed conn = false) :
    Sits ((srv.closeSession target).objects session) conn role := by
  have hne : session ≠ target := by
    rintro rfl
    rw [isClosed_closeSession hregistered hsits] at hstays
    cases hstays
  rw [Server.closeSession_objects_of_ne srv hne]
  exact hsits

theorem sits_setObject (hsits : Sits (srv.objects session) conn role) {target : ℕ}
    {object : RelaySession} (hobject : session = target → Sits object conn role) :
    Sits ((srv.setObject target object).objects session) conn role := by
  by_cases hsame : session = target
  · subst hsame
    simpa using hobject rfl
  · simpa [hsame] using hsits

theorem sits_removeSubscriber {object : RelaySession} (hsits : Sits object conn role)
    {removed : ℕ} (hne : conn ≠ removed) : Sits (object.removeSubscriber removed) conn role := by
  cases role with
  | publisher => exact hsits
  | subscriber => exact ⟨hsits.1, by simpa [Entered, RelaySession.removeSubscriber, hne]
      using hsits.2⟩

/-- A client that is not closed and goes on serving keeps its seat. -/
theorem sits_of_section {handler handler' : Handler} {input : Input} (hgrows : Grows srv srv')
    (hsection : Section conn srv input handler srv' handler')
    (hregistered : Registered srv other role session) (hsession : session < srv.created)
    (hserving : other = conn → serving handler' ≠ none)
    (hsits : Sits (srv.objects session) other role) (hstays : srv'.isClosed other = false) :
    Sits (srv'.objects session) other role := by
  cases hsection with
  | fetchNew role env =>
      simpa only [Server.createSession, Function.update_of_ne hsession.ne] using hsits
  | registerPublisher env target hwritable hclosed =>
      refine sits_setObject hsits ?_
      rintro rfl
      cases role with
      | publisher =>
          have hbefore := isClosed_of_grows hgrows (hclosed other hsits.2)
          rw [hbefore] at hstays
          cases hstays
      | subscriber => exact hsits
  | registerSubscriber env target =>
      refine sits_setObject hsits ?_
      rintro rfl
      cases role with
      | publisher => exact hsits
      | subscriber => exact ⟨hsits.1, List.mem_append_left _ hsits.2⟩
  | greet | greetDone | forward =>
      refine sits_setObject hsits ?_
      rintro rfl
      cases role with
      | publisher => exact hsits
      | subscriber => exact hsits
  | leave target next hnext =>
      refine sits_setObject hsits ?_
      rintro rfl
      refine sits_removeSubscriber hsits ?_
      rintro rfl
      rcases hnext with rfl | rfl
      · exact hserving rfl rfl
      · exact hserving rfl rfl
  | greetSend | announce | sendTo => simpa only [Server.sendFrame_objects] using hsits
  | syncSend env publisher written =>
      have hobjects := srv.sendFrame_objects publisher ⟨conn, env⟩ written
      exact (congrFun hobjects session).symm ▸ hsits
  | removeClose role session sessionID target =>
      exact sits_closeSession hregistered hsits hstays
  | _ => exact hsits

theorem sits_of_background {task : Task} (hbackground : Background srv task srv')
    (hremoval : ∀ target removed, task = .removeSubscriber target removed →
      srv.isClosed removed = true) (hgrows : Grows srv srv')
    (hregistered : Registered srv other role session)
    (hsits : Sits (srv.objects session) other role) (hstays : srv'.isClosed other = false) :
    Sits (srv'.objects session) other role := by
  cases hbackground with
  | removeSubscriber target removed htask =>
      refine sits_setObject hsits ?_
      rintro rfl
      refine sits_removeSubscriber hsits ?_
      rintro rfl
      have hafter := isClosed_of_grows hgrows (hremoval _ _ htask)
      rw [hafter] at hstays
      cases hstays
  | sweepClose => exact sits_closeSession hregistered hsits hstays
  | _ => exact hsits

end Seats

section Step

variable {state state' : State} {label : Label}

/-- A session that a handler has fetched stays open. -/
theorem closed_of_orderly (hvalid : WellFormed state) (hguard : Orderly state label)
    (hstep : state.step label = some state') {conn : ℕ} {role : Role} {env : Envelope}
    {session : ℕ} (hfetched : state.handlers conn = .register role env session)
    (hopen : (state.server.objects session).closed = false) :
    (state'.server.objects session).closed = false := by
  have hcarries : HandlerValid state.server conn (.register role env session) :=
    hfetched ▸ hvalid.handlers conn
  rcases cases_of_step hstep with
    ⟨mover, input, handler', rfl, hsection, -⟩ | ⟨task, rfl, hbackground, -⟩
  · rcases closed_of_section hsection hcarries.1.2.2.1 with
      hsame | ⟨⟨moverRole, own, hremoving⟩, rfl, sessionID, hlock⟩
    · exact hsame.trans hopen
    · exact absurd (by rw [hfetched, fetched])
        (hguard.fetched session (by simp [closing, hremoving, hlock]) conn)
  · rcases closed_of_background hbackground session with
      hsame | ⟨rfl, kind, entry, rest, hlock, rfl⟩
    · exact hsame.trans hopen
    · exact absurd (by rw [hfetched, fetched])
        (hguard.fetched entry.2 (by simp [closing, hlock]) conn)

/-- A handler that has just fetched its session holds an open one. -/
theorem closed_of_fetch {srv srv' : Server} {conn : ℕ} {input : Input} {handler : Handler}
    {role : Role} {env : Envelope} {session : ℕ} (hdirectory : DirectoryValid srv)
    (hsection : Section conn srv input handler srv' (.register role env session)) :
    (srv'.objects session).closed = false := by
  cases hsection with
  | fetchFound _ _ _ hfree hlookup =>
      exact hdirectory.closed_eq_false (by rw [hfree]; exact fun _ => id) hlookup
  | fetchNew => simp [Server.createSession, RelaySession.new]
  | leave _ _ hnext =>
      rcases hnext with hnext | hnext
      · cases hnext
      · cases hnext

/-- A handler that starts to serve has just registered. -/
theorem serving_of_section {srv srv' : Server} {conn : ℕ} {input : Input}
    {handler handler' : Handler} {role : Role} {session : ℕ}
    (hsection : Section conn srv input handler srv' handler')
    (hserving : serving handler' = some (role, session)) :
    serving handler = some (role, session) ∨
      (∃ env, handler = .register role env session) ∧
        (srv'.objects session).closed = (srv.objects session).closed ∧
        Entered (srv'.objects session) conn role := by
  cases hsection with
  | registerPublisher env target =>
      cases hserving
      exact .inr ⟨⟨env, rfl⟩, by simp, by simp [Entered]⟩
  | registerSubscriber env target =>
      cases hserving
      exact .inr ⟨⟨env, rfl⟩, by simp [RelaySession.registerSubscriber],
        by simp [Entered, RelaySession.registerSubscriber]⟩
  | leave _ _ hnext =>
      rcases hnext with rfl | rfl
      · cases hserving
      · cases hserving
  | _ =>
      first
      | exact .inl hserving
      | cases hserving

theorem seated_step (hvalid : WellFormed state) (hdirectory : DirectoryValid state.server)
    (hseated : Seated state) (hguard : Orderly state label)
    (hstep : state.step label = some state') : Seated state' := by
  have hfetched : ∀ conn role env session,
      state.handlers conn = .register role env session →
        (state'.server.objects session).closed = false := by
    intro conn role env session hpoint
    exact closed_of_orderly hvalid hguard hstep hpoint
      (hseated.fetched conn role env session hpoint)
  rcases cases_of_step hstep with
    ⟨mover, input, handler', rfl, hsection, hhandlers⟩ | ⟨task, rfl, hbackground, hhandlers⟩
  · have hgrows := (outcome_of_section hvalid.server (hvalid.handlers mover) hsection).grows
    constructor
    · intro conn role env session hpoint
      rw [hhandlers] at hpoint
      by_cases hconn : conn = mover
      · subst hconn
        rw [Function.update_self] at hpoint
        subst hpoint
        exact closed_of_fetch hdirectory hsection
      · rw [Function.update_of_ne hconn] at hpoint
        exact hfetched conn role env session hpoint
    · intro conn role session hserving hstays
      have hbefore := isClosed_eq_false_of_grows hgrows hstays
      have hkept : serving (state.handlers conn) = some (role, session) →
          (conn = mover → serving handler' ≠ none) →
          Sits (state'.server.objects session) conn role := by
        intro hserved hgoes
        have hregistered := registered_of_serving (hvalid.handlers conn) hserved
        obtain ⟨_, -, -, hcarries⟩ := carries_of_registered hvalid.server hregistered
        exact sits_of_section hgrows hsection hregistered hcarries.1 hgoes
          (hseated.seated conn role session hserved hbefore) hstays
      rw [hhandlers] at hserving
      by_cases hconn : conn = mover
      · subst hconn
        rw [Function.update_self] at hserving
        rcases serving_of_section hsection hserving with
          hserved | ⟨⟨env, hpoint⟩, hclosed, hentered⟩
        · exact hkept hserved fun _ => by simp [hserving]
        · exact ⟨hclosed.trans (hseated.fetched conn role env session hpoint), hentered⟩
      · rw [Function.update_of_ne hconn] at hserving
        exact hkept hserving fun hsame => absurd hsame hconn
  · have hgrows := (evolves_of_background hbackground).grows
    constructor
    · intro conn role env session hpoint
      rw [hhandlers] at hpoint
      exact hfetched conn role env session hpoint
    · intro conn role session hserving hstays
      rw [hhandlers] at hserving
      have hbefore := isClosed_eq_false_of_grows hgrows hstays
      refine sits_of_background hbackground ?_ hgrows
        (registered_of_serving (hvalid.handlers conn) hserving)
        (hseated.seated conn role session hserving hbefore) hstays
      rintro target removed rfl
      exact hguard.removal target removed rfl

theorem seated_of_reaches (hreaches : GuardedReaches State.step Orderly State.start state) :
    Seated state := by
  have hstart : Seated State.start := by
    constructor
    · intro conn role env session hpoint
      cases hpoint
    · intro conn role session hserving
      cases hserving
  refine @GuardedReaches.invariant _ _ State.step Orderly _ _
    (fun state => WellFormed state ∧ DirectoryValid state.server) _ ?_ hstart ?_ hreaches
  · intro state hbefore
    exact ⟨wellFormed_of_reaches hbefore.reaches, directoryValid_of_reaches hbefore.reaches⟩
  · intro state label state' hknown hseated hguard hstep
    exact seated_step hknown.1 hknown.2 hseated hguard hstep

end Step

/-- Every client in its read loop whose connection is not closed is registered
in the session the map holds under the identifier of its initial frame. -/
theorem registered_listed (state : State)
    (hreaches : GuardedReaches State.step Orderly State.start state) :
    ∀ conn client, state.server.clients conn = some client →
      inReadLoop (state.handlers conn) = true → state.server.isClosed conn = false →
        ∃ session, state.server.lookupSession client.initialEnv.sessionID = some session ∧
          Entered (state.server.objects session) conn client.role := by
  intro conn client hclient hloop hopen
  have hvalid := wellFormed_of_reaches hreaches.reaches
  have hdirectory := directoryValid_of_reaches hreaches.reaches
  obtain ⟨⟨role, session⟩, hserving⟩ :
      ∃ seat, serving (state.handlers conn) = some seat := by
    cases hpoint : state.handlers conn <;> simp_all [inReadLoop, serving]
  obtain ⟨hsession, hentered⟩ :=
    (seated_of_reaches hreaches).seated conn role session hserving hopen
  obtain ⟨own, hown, hrole, htarget⟩ :=
    registered_of_serving (hvalid.handlers conn) hserving
  obtain rfl := Option.some.inj (hclient.symm.trans hown)
  obtain ⟨hcreated, hid⟩ := (hvalid.server.clients conn client hclient).session
  rw [htarget] at hcreated hid
  refine ⟨session, ?_, hrole ▸ hentered⟩
  rw [← hid]
  exact hdirectory.opened session hcreated hsession

/-! ## Runs -/

/-- A subscriber is alone in its session.  A publisher fetches that session; the
subscriber leaves, finds it empty and removes it; the publisher registers. -/
def overtaken : List Label :=
  arrive 0 .subscriber ++ [.handler 0 .proceed, .handler 0 .proceed] ++
    arrive 1 .publisher ++
    [.handler 0 (.read none), .handler 0 .proceed, .handler 0 .proceed, .handler 0 .proceed,
      .handler 0 .proceed, .handler 0 .proceed, .handler 0 .proceed] ++
    settlePublisher 1

/-- The publisher waits in its read loop, and its session is not in the map. -/
theorem stranded_publisher :
    ∃ state, Reaches State.step State.start state ∧
      state.handlers 1 = .loopPublisher 0 ∧ state.server.isClosed 1 = false ∧
      ∃ client, state.server.clients 1 = some client ∧
        state.server.lookupSession client.initialEnv.sessionID = none := by
  obtain ⟨state, hreaches, hend⟩ := exists_reaches_of_run State.step State.start overtaken
    (fun state => state.handlers 1 = .loopPublisher 0 ∧ state.server.isClosed 1 = false ∧
      (state.server.clients 1).map (fun client =>
        state.server.lookupSession client.initialEnv.sessionID) = some none)
    (by decide +kernel)
  obtain ⟨hloop, hopen, hlookup⟩ := of_decide_eq_true hend
  obtain ⟨client, hclient, hnone⟩ := Option.map_eq_some_iff.mp hlookup
  exact ⟨state, hreaches, hloop, hopen, client, hclient, hnone⟩

/-- The condition of `Orderly`, evaluated for the first `count` connections. -/
def orderly (count : ℕ) (state : State) (label : Label) : Bool :=
  (closing state label).all (fun target =>
      decide (∀ conn ∈ List.range count, fetched (state.handlers conn) ≠ some target)) &&
    match label with
    | .task (.removeSubscriber _ conn) => state.server.isClosed conn
    | _ => true

theorem orderly_of_eval {count : ℕ} {state : State} {label : Label}
    (hidle : state.IdleFrom count) (heval : orderly count state label = true) :
    Orderly state label := by
  obtain ⟨hfetched, hremoval⟩ := Bool.and_eq_true_iff.mp heval
  constructor
  · intro target htarget
    rw [htarget, Option.all_some, decide_eq_true_eq] at hfetched
    refine hidle.forall (fun _ handler => fetched handler ≠ some target) nofun ?_
    intro conn hconn
    exact hfetched conn (List.mem_range.mpr hconn)
  · rintro session conn rfl
    exact hremoval

/-- A subscriber finds its publisher, leaves again and removes nothing. -/
def visit : List Label :=
  arrive 0 .publisher ++ settlePublisher 0 ++ arrive 1 .subscriber ++
    [.handler 1 .proceed, .handler 1 .proceed, .handler 1 (.send true),
      .handler 1 (.read none), .handler 1 .proceed, .handler 1 .proceed, .handler 1 .proceed]

theorem registered_listed_visit : ∃ state : State,
    state.handlers 0 = .loopPublisher 0 ∧ state.handlers 1 = .exited ∧
      ∃ client, state.server.clients 0 = some client ∧
        ∃ session, state.server.lookupSession client.initialEnv.sessionID = some session ∧
          Entered (state.server.objects session) 0 client.role := by
  obtain ⟨state, hreaches, hend⟩ := exists_guardedReaches_of_runBelow visit
    (fun state => state.handlers 0 = .loopPublisher 0 ∧ state.handlers 1 = .exited ∧
      (state.server.clients 0).isSome ∧ state.server.isClosed 0 = false)
    (@orderly_of_eval 2) (by decide +kernel)
  obtain ⟨hloop, hexited, hclient, hopen⟩ := of_decide_eq_true hend
  obtain ⟨client, hclient⟩ := Option.isSome_iff_exists.mp hclient
  exact ⟨state, hloop, hexited, client, hclient,
    registered_listed state hreaches 0 client hclient (by rw [hloop, inReadLoop]) hopen⟩

end ZeroFeed.Seats
