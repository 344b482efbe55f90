import ZeroFeed.Relay.Directory

/-!
# What a leaving client takes with it

A handler removes its session by identifier: `removeSession` closes whatever
object the map holds at that moment.  A subscriber's handler decides whether to
remove in one section and removes in a later one.  `successor_closed` is a run
in which a subscriber of a removed session closes the session that was created
after it, and with it the connection of the new publisher.

Teardown is confined to the handler's own session, and for a subscriber to its
own connection, if a session is created under an identifier only when every
handler of the earlier ones has returned, and nobody registers on a session
between a subscriber's test for emptiness and its removal.
-/

namespace ZeroFeed.Teardown

open ZeroFeed.Messages
open ZeroFeed.Session
open ZeroFeed.Handlers
open ZeroFeed.Isolation
open ZeroFeed.Directory
open ZeroFeed.Transition

/-- The session object a handler of a client holds. -/
def held : Handler → Option ℕ
  | .register _ _ session | .greet session | .greeting session _ | .findPublisher _ session
  | .announce _ session _ | .loopPublisher session | .forward session _ _
  | .forwarding session _ _ _ | .loopSubscriber session | .forwardTo session _
  | .sendTo session _ _ | .leave session | .hangUp session | .testEmpty session
  | .remove _ session | .removing _ session => some session
  | _ => none

/-- The role and the session of a handler that has left its read loop. -/
def exiting : Handler → Option (Role × ℕ)
  | .leave session | .hangUp session | .testEmpty session => some (.subscriber, session)
  | .remove role session | .removing role session => some (role, session)
  | _ => none

/-- The session a subscriber's handler has found empty. -/
def emptied : Handler → Option ℕ
  | .remove .subscriber session | .removing .subscriber session => some session
  | _ => none

/-- Every other session, and for a subscriber every other client, is left as it
is. -/
structure Confined (srv srv' : Server) (conn : ℕ) (role : Role) (session : ℕ) : Prop where
  closed : ∀ other, other ≠ session →
    (srv'.objects other).closed = (srv.objects other).closed
  listed : ∀ sessionID other, other ≠ session → srv.lookupSession sessionID = some other →
    srv'.lookupSession sessionID = some other
  clients : role = .subscriber → ∀ other, other ≠ conn →
    srv'.isClosed other = srv.isClosed other ∧ srv'.netClosed other = srv.netClosed other

/-- Sessions of one identifier do not overlap with handlers of earlier ones, and
nobody registers on a session that was found empty. -/
structure Separate (state : State) (label : Label) : Prop where
  creation : ∀ conn input role env, label = .handler conn input →
    state.handlers conn = .fetch role env →
    state.server.lookupSession env.sessionID = none →
      ∀ other session, held (state.handlers other) = some session →
        (state.server.objects session).sessionID ≠ env.sessionID
  registration : ∀ conn input role env session, label = .handler conn input →
    state.handlers conn = .register role env session →
      ∀ other, emptied (state.handlers other) ≠ some session

/-! ## The caller of `removeSession` -/

/-- The handler inside `removeSession` and the identifier it passed. -/
def caller : ServerLock → Option (ℕ × SessionID)
  | .closing conn sessionID _ | .erasing conn sessionID _ => some (conn, sessionID)
  | _ => none

/-- `removeSession` runs with the identifier of its caller's session. -/
def LockOwned (state : State) : Prop :=
  ∀ conn sessionID, caller state.server.srvMu = some (conn, sessionID) →
    ∃ role session, state.handlers conn = .removing role session ∧
      (state.server.objects session).sessionID = sessionID

section Sections

variable {srv srv' : Server} {conn session : ℕ} {handler handler' : Handler} {input : Input}

theorem created_of_held (hserver : ServerValid srv) (hvalid : HandlerValid srv conn handler)
    (hheld : held handler = some session) : session < srv.created := by
  have hregistered : ∀ role, Registered srv conn role session → session < srv.created := by
    intro role hregistered
    obtain ⟨_, -, -, hcarries⟩ := carries_of_registered hserver hregistered
    exact hcarries.1
  cases handler with
  | register =>
      cases hheld
      exact hvalid.1.2.2.1
  | greet | loopPublisher | loopSubscriber | leave | hangUp | testEmpty | remove | removing =>
      cases hheld
      exact hregistered _ hvalid
  | greeting | forward | findPublisher | forwardTo =>
      cases hheld
      exact hregistered _ hvalid.1
  | forwarding | announce | sendTo =>
      cases hheld
      exact hregistered _ hvalid.1.1
  | _ => cases hheld

/-- A handler holds one session from the moment it fetches it. -/
theorem held_of_section (hsection : Section conn srv input handler srv' handler')
    (hheld : held handler' = some session) :
    held handler = some session ∨ ∃ role env, handler = .fetch role env ∧
      handler' = .register role env session := by
  cases hsection with
  | fetchFound role env | fetchNew role env =>
      cases hheld
      exact .inr ⟨role, env, rfl, rfl⟩
  | leave _ _ hnext =>
      rcases hnext with rfl | rfl
      · exact .inl hheld
      · exact .inl hheld
  | _ =>
      first
      | exact .inl hheld
      | cases hheld

theorem emptied_of_section (hsection : Section conn srv input handler srv' handler')
    (hemptied : emptied handler' = some session) :
    emptied handler = some session ∨
      (srv.objects session).publisher = none ∧ (srv.objects session).subscribers = [] := by
  cases hsection with
  | testEmpty _ hpublisher hsubscribers =>
      cases hemptied
      exact .inr ⟨hpublisher, hsubscribers⟩
  | leave _ _ hnext =>
      rcases hnext with rfl | rfl
      · cases hemptied
      · cases hemptied
  | removeLock role own =>
      cases role with
      | publisher => cases hemptied
      | subscriber => exact .inl hemptied
  | removeClose role own =>
      cases role with
      | publisher => cases hemptied
      | subscriber => exact .inl hemptied
  | _ => cases hemptied

/-- `getOrCreateSession`. -/
theorem fetch_of_section {role : Role} {env : Envelope}
    (hsection : Section conn srv input (.fetch role env) srv' handler') :
    (∃ found, handler' = .register role env found ∧ srv' = srv ∧
      srv.lookupSession env.sessionID = some found) ∨
    handler' = .register role env srv.created ∧ srv' = srv.createSession env.sessionID ∧
      srv.lookupSession env.sessionID = none := by
  cases hsection with
  | fetchFound _ _ found hfree hlookup => exact .inl ⟨found, rfl, rfl, hlookup⟩
  | fetchNew _ _ hfree hlookup => exact .inr ⟨rfl, rfl, hlookup⟩

theorem created_of_section (hsection : Section conn srv input handler srv' handler')
    (hfetch : ∀ role env, handler ≠ .fetch role env) : srv'.created = srv.created := by
  cases hsection with
  | fetchNew role env => exact absurd rfl (hfetch role env)
  | greetSend | announce | sendTo | syncSend => exact (Quiet.sendFrame srv _ _ _).created
  | removeClose => exact srv.closeSession_created _
  | _ => rfl

theorem register_of_section {role : Role} {env : Envelope}
    (hsection : Section conn srv input handler srv' (.registered role env session)) :
    ∃ env, handler = .register role env session := by
  cases role with
  | publisher =>
      cases hsection with
      | registerPublisher env => exact ⟨env, rfl⟩
      | leave _ _ hnext =>
          rcases hnext with hnext | hnext
          · cases hnext
          · cases hnext
  | subscriber =>
      cases hsection with
      | registerSubscriber env => exact ⟨env, rfl⟩
      | leave _ _ hnext =>
          rcases hnext with hnext | hnext
          · cases hnext
          · cases hnext

/-- A handler's step takes or releases the lock for itself only. -/
theorem caller_of_section (hsection : Section conn srv input handler srv' handler') :
    caller srv'.srvMu = caller srv.srvMu ∧
      (∀ role own, handler = .removing role own → handler' = handler) ∨
    (∃ role own, handler' = .removing role own ∧ srv'.objects = srv.objects ∧
      caller srv'.srvMu = some (conn, (srv.objects own).sessionID)) ∨
    caller srv'.srvMu = none := by
  cases hsection with
  | greetSend | announce | sendTo | syncSend =>
      exact .inl ⟨congrArg caller (Quiet.sendFrame srv _ _ _).srvMu, nofun⟩
  | removeLock role own => exact .inr (.inl ⟨role, own, rfl, rfl, rfl⟩)
  | removeClose role own sessionID target hinput hlock =>
      exact .inl ⟨by rw [hlock, caller, caller], fun _ _ _ => rfl⟩
  | removeErase => exact .inr (.inr rfl)
  | _ => exact .inl ⟨rfl, nofun⟩

theorem caller_of_background {task : Task} (hbackground : Background srv task srv') :
    caller srv'.srvMu = caller srv.srvMu ∨ caller srv'.srvMu = none := by
  cases hbackground with
  | startSweep | sweepEnd | sweepMove | sweepClose | sweepErase => exact .inr rfl
  | _ => exact .inl rfl

end Sections

section Steps

variable {state state' : State} {label : Label}

theorem lockOwned_step (hvalid : WellFormed state) (howned : LockOwned state)
    (hstep : state.step label = some state') : LockOwned state' := by
  have hkept : Grows state.server state'.server → ∀ conn sessionID,
      caller state.server.srvMu = some (conn, sessionID) →
      ∃ role session, state.handlers conn = .removing role session ∧
        (state'.server.objects session).sessionID = sessionID := by
    intro hgrows conn sessionID hcaller
    obtain ⟨role, session, hpoint, hid⟩ := howned conn sessionID hcaller
    have hcreated : session < state.server.created :=
      created_of_held hvalid.server (hvalid.handlers conn) (by rw [hpoint, held])
    exact ⟨role, session, hpoint, (hgrows.sessionID session hcreated).trans hid⟩
  intro conn sessionID hcaller
  rcases cases_of_step hstep with
    ⟨mover, input, handler', -, hsection, hhandlers⟩ | ⟨task, -, hbackground, hhandlers⟩
  · have hgrows := (outcome_of_section hvalid.server (hvalid.handlers mover) hsection).grows
    rcases caller_of_section hsection with
      ⟨hsame, hstays⟩ | ⟨role, own, hpoint, hobjects, hafter⟩ | hnone
    · rw [hsame] at hcaller
      obtain ⟨role, session, hremoving, hid⟩ := hkept hgrows conn sessionID hcaller
      refine ⟨role, session, ?_, hid⟩
      rw [hhandlers]
      by_cases hconn : conn = mover
      · subst hconn
        rw [Function.update_self, hstays role session hremoving, hremoving]
      · rw [Function.update_of_ne hconn, hremoving]
    · rw [hafter] at hcaller
      cases hcaller
      exact ⟨role, own, by rw [hhandlers, Function.update_self, hpoint], by rw [hobjects]⟩
    · rw [hnone] at hcaller
      cases hcaller
  · have hgrows := (evolves_of_background hbackground).grows
    rw [hhandlers]
    rcases caller_of_background hbackground with hsame | hnone
    · rw [hsame] at hcaller
      exact hkept hgrows conn sessionID hcaller
    · rw [hnone] at hcaller
      cases hcaller

theorem lockOwned_of_reaches (hreaches : Reaches State.step State.start state) :
    LockOwned state := by
  refine (@Reaches.invariant _ _ State.step _ _ (fun state => WellFormed state ∧ LockOwned state)
    ⟨wellFormed_start, nofun⟩ ?_ hreaches).2
  intro state label state' hknown hstep
  exact ⟨wellFormed_step hknown.1 hstep, lockOwned_step hknown.1 hknown.2 hstep⟩

/-! ## Separate sessions -/

/-- In separate runs a handler holds the newest session of its identifier, and
what a subscriber found empty is still empty. -/
structure Apart (state : State) : Prop where
  newest : ∀ conn session, held (state.handlers conn) = some session →
    ∀ other < state.server.created,
      (state.server.objects other).sessionID = (state.server.objects session).sessionID →
        other ≤ session
  empty : ∀ conn session, emptied (state.handlers conn) = some session →
    (state.server.objects session).publisher = none ∧
      (state.server.objects session).subscribers = []

theorem held_of_emptied {handler : Handler} {session : ℕ}
    (hemptied : emptied handler = some session) : held handler = some session := by
  cases handler with
  | remove role | removing role =>
      cases role with
      | publisher => cases hemptied
      | subscriber => exact hemptied
  | _ => cases hemptied

/-- Nobody enters a session that was found empty. -/
theorem empty_of_outcome {srv srv' : Server} {conn session : ℕ} {handler' : Handler}
    (houtcome : Outcome srv conn srv' handler') (hcreated : session < srv.created)
    (hregistration : ∀ role env, handler' ≠ .registered role env session)
    (hempty : (srv.objects session).publisher = none ∧ (srv.objects session).subscribers = []) :
    (srv'.objects session).publisher = none ∧ (srv'.objects session).subscribers = [] := by
  cases houtcome with
  | evolves hevolves =>
      obtain ⟨-, hpublisher, hsubscribers⟩ := hevolves.objects session
      constructor
      · rw [Option.eq_none_iff_forall_ne_some]
        intro publisher hsome
        have hbefore := hpublisher publisher hsome
        rw [hempty.1] at hbefore
        cases hbefore
      · rw [hempty.2] at hsubscribers
        exact List.subset_nil.mp hsubscribers
  | creates => simpa only [Server.createSession, Function.update_of_ne hcreated.ne] using hempty
  | registers role env target =>
      have hne : session ≠ target := by
        rintro rfl
        exact hregistration role env rfl
      simpa [hne] using hempty

/-- The newest session of an identifier stays the newest while a handler holds
it. -/
theorem newest_of_section {conn mover session : ℕ} {input : Input} {handler' : Handler}
    (hvalid : WellFormed state) (hapart : Apart state)
    (hguard : Separate state (.handler mover input))
    (hsection : Section mover state.server input (state.handlers mover) state'.server handler')
    (hheld : held (state.handlers conn) = some session) :
    ∀ other < state'.server.created,
      (state'.server.objects other).sessionID = (state'.server.objects session).sessionID →
        other ≤ session := by
  have hcreated := created_of_held hvalid.server (hvalid.handlers conn) hheld
  have hgrows := (outcome_of_section hvalid.server (hvalid.handlers mover) hsection).grows
  have hold : ∀ other < state.server.created,
      (state'.server.objects other).sessionID = (state'.server.objects session).sessionID →
        other ≤ session := by
    intro other hother hid
    rw [hgrows.sessionID other hother, hgrows.sessionID session hcreated] at hid
    exact hapart.newest conn session hheld other hother hid
  intro other hother hid
  by_cases hfetch : ∃ role env, state.handlers mover = .fetch role env
  · obtain ⟨role, env, hpoint⟩ := hfetch
    rw [hpoint] at hsection
    rcases fetch_of_section hsection with ⟨found, -, hsame, -⟩ | ⟨-, hnew, hlookup⟩
    · rw [hsame] at hother
      exact hold other hother hid
    · by_cases hlast : other = state.server.created
      · have hdifferent := hguard.creation mover input role env rfl hpoint hlookup conn session
          hheld
        rw [hgrows.sessionID session hcreated, hlast, hnew] at hid
        simp only [Server.createSession, Function.update_self, RelaySession.new] at hid
        exact absurd hid.symm hdifferent
      · rw [hnew] at hother
        exact hold other (lt_of_le_of_ne (Nat.lt_succ_iff.mp hother) hlast) hid
  · rw [created_of_section hsection fun role env hpoint => hfetch ⟨role, env, hpoint⟩] at hother
    exact hold other hother hid

/-- The handler that moved had the session before, or has just fetched it. -/
theorem newest_of_mover {mover session : ℕ} {input : Input} {handler' : Handler}
    (hvalid : WellFormed state) (hdirectory : DirectoryValid state.server)
    (hapart : Apart state) (hguard : Separate state (.handler mover input))
    (hsection : Section mover state.server input (state.handlers mover) state'.server handler')
    (hheld : held handler' = some session) :
    ∀ other < state'.server.created,
      (state'.server.objects other).sessionID = (state'.server.objects session).sessionID →
        other ≤ session := by
  rcases held_of_section hsection hheld with hbefore | ⟨role, env, hpoint, hafter⟩
  · exact newest_of_section hvalid hapart hguard hsection hbefore
  · rw [hpoint] at hsection
    rcases fetch_of_section hsection with ⟨found, hfound, hsame, hlookup⟩ | ⟨hfound, hnew, -⟩
    · rw [hafter] at hfound
      cases hfound
      rw [hsame]
      intro other hother hid
      rw [(hvalid.server.sessions _ _ hlookup).2] at hid
      exact hdirectory.newest env.sessionID session hlookup other hother hid
    · rw [hafter] at hfound
      cases hfound
      rw [hnew]
      intro other hother _
      exact Nat.lt_succ_iff.mp hother

/-- What the handler that moved takes for empty it found empty before or tested just
now, and its section registers nobody. -/
theorem empty_of_mover {mover session : ℕ} {input : Input} {handler' : Handler}
    (hvalid : WellFormed state) (hapart : Apart state)
    (hsection : Section mover state.server input (state.handlers mover) state'.server handler')
    (hemptied : emptied handler' = some session) :
    (state'.server.objects session).publisher = none ∧
      (state'.server.objects session).subscribers = [] := by
  have hleaving : ∀ role env, handler' ≠ .registered role env session := by
    rintro role env rfl
    cases role with
    | publisher => cases hemptied
    | subscriber => cases hemptied
  have hempty : (state.server.objects session).publisher = none ∧
      (state.server.objects session).subscribers = [] := by
    rcases emptied_of_section hsection hemptied with hbefore | hempty
    · exact hapart.empty mover session hbefore
    · exact hempty
  have hheld : held (state.handlers mover) = some session := by
    rcases held_of_section hsection (held_of_emptied hemptied) with hheld | ⟨role, env, -, rfl⟩
    · exact hheld
    · cases hemptied
  exact empty_of_outcome (outcome_of_section hvalid.server (hvalid.handlers mover) hsection)
    (created_of_held hvalid.server (hvalid.handlers mover) hheld) hleaving hempty

theorem apart_of_section {mover : ℕ} {input : Input} {handler' : Handler}
    (hvalid : WellFormed state) (hdirectory : DirectoryValid state.server)
    (hapart : Apart state) (hguard : Separate state (.handler mover input))
    (hsection : Section mover state.server input (state.handlers mover) state'.server handler')
    (hhandlers : state'.handlers = Function.update state.handlers mover handler') :
    Apart state' := by
  constructor
  · intro conn session hheld
    rw [hhandlers] at hheld
    by_cases hconn : conn = mover
    · subst hconn
      rw [Function.update_self] at hheld
      exact newest_of_mover hvalid hdirectory hapart hguard hsection hheld
    · rw [Function.update_of_ne hconn] at hheld
      exact newest_of_section hvalid hapart hguard hsection hheld
  · intro conn session hemptied
    rw [hhandlers] at hemptied
    by_cases hconn : conn = mover
    · subst hconn
      rw [Function.update_self] at hemptied
      exact empty_of_mover hvalid hapart hsection hemptied
    · rw [Function.update_of_ne hconn] at hemptied
      refine empty_of_outcome (outcome_of_section hvalid.server (hvalid.handlers mover) hsection)
        ?_ ?_ (hapart.empty conn session hemptied)
      · exact created_of_held hvalid.server (hvalid.handlers conn) (held_of_emptied hemptied)
      · rintro role env rfl
        obtain ⟨env, hpoint⟩ := register_of_section hsection
        exact hguard.registration mover input role env session rfl hpoint conn hemptied

theorem apart_step (hvalid : WellFormed state) (hdirectory : DirectoryValid state.server)
    (hapart : Apart state) (hguard : Separate state label)
    (hstep : state.step label = some state') : Apart state' := by
  rcases cases_of_step hstep with
    ⟨mover, input, handler', rfl, hsection, hhandlers⟩ | ⟨task, -, hbackground, hhandlers⟩
  · exact apart_of_section hvalid hdirectory hapart hguard hsection hhandlers
  · have hevolves := evolves_of_background hbackground
    constructor
    · intro conn session hheld other hother hid
      rw [hhandlers] at hheld
      rw [hevolves.created] at hother
      rw [(hevolves.objects other).sessionID, (hevolves.objects session).sessionID] at hid
      exact hapart.newest conn session hheld other hother hid
    · intro conn session hemptied
      rw [hhandlers] at hemptied
      have hcreated := created_of_held hvalid.server (hvalid.handlers conn)
        (held_of_emptied hemptied)
      have houtcome : Outcome state.server conn state'.server .exited := .evolves hevolves
      refine empty_of_outcome houtcome hcreated ?_ (hapart.empty conn session hemptied)
      intro role env hpoint
      cases role with
      | publisher => cases hpoint
      | subscriber => cases hpoint

theorem apart_of_reaches (hreaches : GuardedReaches State.step Separate State.start state) :
    Apart state := by
  have hstart : Apart State.start := by
    constructor
    · intro conn session hheld
      cases hheld
    · intro conn session hemptied
      cases hemptied
  refine @GuardedReaches.invariant _ _ State.step Separate _ _
    (fun state => WellFormed state ∧ DirectoryValid state.server) _ ?_ hstart ?_ hreaches
  · intro state hbefore
    exact ⟨wellFormed_of_reaches hbefore.reaches, directoryValid_of_reaches hbefore.reaches⟩
  · intro state label state' hknown hapart hguard hstep
    exact apart_step hknown.1 hknown.2 hapart hguard hstep

/-- What `removeSession` finds is the session of its caller. -/
theorem target_of_removing {conn session target : ℕ} {role : Role} {sessionID : SessionID}
    (hvalid : WellFormed state) (hdirectory : DirectoryValid state.server)
    (howned : LockOwned state) (hapart : Apart state)
    (hpoint : state.handlers conn = .removing role session)
    (hcaller : caller state.server.srvMu = some (conn, sessionID))
    (hlookup : state.server.lookupSession sessionID = some target) :
    target = session ∧ (state.server.objects session).sessionID = sessionID := by
  obtain ⟨_, own, hown, hid⟩ := howned conn sessionID hcaller
  rw [hpoint] at hown
  cases hown
  have hheld : held (state.handlers conn) = some session := by rw [hpoint, held]
  obtain ⟨hcreated, htarget⟩ := hvalid.server.sessions sessionID target hlookup
  refine ⟨le_antisymm ?_ ?_, hid⟩
  · exact hapart.newest conn session hheld target hcreated (htarget.trans hid.symm)
  · exact hdirectory.newest sessionID target hlookup session
      (created_of_held hvalid.server (hvalid.handlers conn) hheld) hid

end Steps

/-- Closing a session without clients closes no client. -/
theorem closeSession_empty {srv : Server} {session : ℕ}
    (hempty : (srv.objects session).publisher = none ∧ (srv.objects session).subscribers = [])
    (conn : ℕ) : (srv.closeSession session).isClosed conn = srv.isClosed conn ∧
      (srv.closeSession session).netClosed conn = srv.netClosed conn := by
  rw [Server.closeSession]
  split
  · exact ⟨rfl, rfl⟩
  · simp [Server.isClosed, Server.setObject, Server.closeClients, RelaySession.members, hempty]

theorem confined_of_section {srv srv' : Server} {conn session : ℕ} {role : Role}
    {input : Input} {handler handler' : Handler} (hdirectory : DirectoryValid srv)
    (hsection : Section conn srv input handler srv' handler')
    (hexiting : exiting handler = some (role, session))
    (htarget : ∀ sessionID target, handler = .removing role session →
      caller srv.srvMu = some (conn, sessionID) →
      srv.lookupSession sessionID = some target → target = session)
    (hempty : emptied handler = some session →
      (srv.objects session).publisher = none ∧ (srv.objects session).subscribers = []) :
    Confined srv srv' conn role session := by
  cases hsection with
  | subscriberGone | testEmpty | testOccupied | removeAbsent | publisherGone | removeLock =>
      exact ⟨fun _ _ => rfl, fun _ _ _ hlookup => hlookup, fun _ _ _ => ⟨rfl, rfl⟩⟩
  | leave own =>
      cases hexiting
      refine ⟨fun other hother => ?_, fun _ _ _ hlookup => hlookup, fun _ _ _ => ⟨rfl, rfl⟩⟩
      simp [hother]
  | hangUp own =>
      refine ⟨fun _ _ => rfl, fun _ _ _ hlookup => hlookup, fun _ other hother => ?_⟩
      simp [Server.isClosed, Server.closeClients, hother]
  | removeClose role' own sessionID target hinput hlock =>
      cases hexiting
      have hlookup : LockValid srv (.closing conn sessionID target) := hlock ▸ hdirectory.lock
      obtain rfl := htarget sessionID target rfl (by rw [hlock, caller]) hlookup
      refine ⟨fun other hother => ?_, fun _ _ _ hfound => ?_, ?_⟩
      · simp [closed_closeSession, hother]
      · exact (srv.closeSession_lookupSession _ _).trans hfound
      · rintro rfl other -
        exact closeSession_empty (hempty rfl) other
  | removeErase role' own sessionID target hlock =>
      cases hexiting
      have herasing : LockValid srv (.erasing conn sessionID target) := hlock ▸ hdirectory.lock
      obtain rfl := htarget sessionID target rfl (by rw [hlock, caller]) herasing.1
      refine ⟨fun _ _ => rfl, fun other found hfound hlookup => ?_, fun _ _ _ => ⟨rfl, rfl⟩⟩
      rw [Server.lookupSession_erase rfl, if_neg]
      · exact hlookup
      · rintro rfl
        exact hfound (Option.some.inj (hlookup.symm.trans herasing.1))
  | _ => cases hexiting

/-- In separate runs, no step of a handler that has left its read loop closes or
removes another session than the handler's own, and none of a subscriber's
closes the connection of another client. -/
theorem teardown_confined (state state' : State) (conn : ℕ) (input : Input) (role : Role)
    (session : ℕ) (hreaches : GuardedReaches State.step Separate State.start state)
    (hexiting : exiting (state.handlers conn) = some (role, session))
    (hstep : state.step (.handler conn input) = some state') :
    Confined state.server state'.server conn role session := by
  have hvalid := wellFormed_of_reaches hreaches.reaches
  have hdirectory := directoryValid_of_reaches hreaches.reaches
  have howned := lockOwned_of_reaches hreaches.reaches
  have hapart := apart_of_reaches hreaches
  rcases cases_of_step hstep with
    ⟨mover, moved, handler', hlabel, hsection, -⟩ | ⟨task, hlabel, -, -⟩
  · cases hlabel
    refine confined_of_section hdirectory hsection hexiting ?_ (hapart.empty conn session)
    intro sessionID target hpoint hcaller hlookup
    exact (target_of_removing hvalid hdirectory howned hapart hpoint hcaller hlookup).1
  · cases hlabel

/-! ## Runs -/

/-- A publisher and a subscriber share a session.  The publisher leaves, which
removes the session; another publisher creates the next one under the same
identifier; then the subscriber notices that its socket was closed. -/
def succession : List Label :=
  arrive 0 .publisher ++ settlePublisher 0 ++ arrive 1 .subscriber ++
    [.handler 1 .proceed, .handler 1 .proceed, .handler 1 (.send true),
      .handler 0 (.read none), .handler 0 .proceed, .handler 0 .proceed, .handler 0 .proceed] ++
    arrive 2 .publisher ++ settlePublisher 2 ++
    [.handler 1 (.read none), .handler 1 .proceed, .handler 1 .proceed, .handler 1 .proceed]

/-- The subscriber of session 0 is about to close session 1, which was created
later under the same identifier, and the connection of its publisher. -/
theorem successor_closed :
    ∃ state state', Reaches State.step State.start state ∧
      state.handlers 1 = .removing .subscriber 0 ∧
      state.step (.handler 1 .proceed) = some state' ∧
      (state.server.objects 1).sessionID = (state.server.objects 0).sessionID ∧
      (state.server.objects 1).closed = false ∧ (state'.server.objects 1).closed = true ∧
      state.server.isClosed 2 = false ∧ state'.server.isClosed 2 = true := by
  obtain ⟨state, hreaches, hend⟩ := exists_reaches_of_run State.step State.start succession
    (fun state => state.handlers 1 = .removing .subscriber 0 ∧
      (state.server.objects 1).sessionID = (state.server.objects 0).sessionID ∧
      (state.server.objects 1).closed = false ∧ state.server.isClosed 2 = false ∧
      (state.step (.handler 1 .proceed)).any fun state' =>
        (state'.server.objects 1).closed && state'.server.isClosed 2)
    (by decide +kernel)
  obtain ⟨hpoint, hid, hopen, hserving, hafter⟩ := of_decide_eq_true hend
  obtain ⟨state', hstep, hclosed⟩ := (Option.any_eq_true _ _).mp hafter
  obtain ⟨hobject, hclient⟩ := Bool.and_eq_true_iff.mp hclosed
  exact ⟨state, state', hreaches, hpoint, hstep, hid, hopen, hobject, hserving, hclient⟩

/-- The condition of `Separate`, evaluated for the first `count` connections. -/
def separate (count : ℕ) (state : State) : Label → Bool
  | .handler conn _ =>
      match state.handlers conn with
      | .fetch _ env =>
          (state.server.lookupSession env.sessionID).isSome ||
            decide (∀ other ∈ List.range count, ∀ session ∈ held (state.handlers other),
              (state.server.objects session).sessionID ≠ env.sessionID)
      | .register _ _ session =>
          decide (∀ other ∈ List.range count, emptied (state.handlers other) ≠ some session)
      | _ => true
  | .task _ => true

theorem separate_of_eval {count : ℕ} {state : State} {label : Label}
    (hidle : state.IdleFrom count) (heval : separate count state label = true) :
    Separate state label := by
  constructor
  · rintro conn input role env rfl hpoint hlookup
    simp only [separate, hpoint, hlookup, Option.isSome_none, Bool.false_or,
      decide_eq_true_eq] at heval
    refine hidle.forall (fun _ handler => ∀ session, held handler = some session →
      (state.server.objects session).sessionID ≠ env.sessionID) nofun ?_
    intro other hother session hheld
    exact heval other (List.mem_range.mpr hother) session hheld
  · rintro conn input role env session rfl hpoint
    simp only [separate, hpoint, decide_eq_true_eq] at heval
    refine hidle.forall (fun _ handler => emptied handler ≠ some session) nofun ?_
    intro other hother
    exact heval other (List.mem_range.mpr hother)

/-- As `arrive`, for another session identifier. -/
def arriveElsewhere (conn : ℕ) (role : Role) : List Label :=
  [.handler conn (.accept (some { bareFrame role.initType with
      sessionID := ⟨List.replicate sessionIDSize 1, rfl⟩ })), .handler conn .proceed]

/-- A subscriber leaves the session it was alone in, up to the point where it
has found the session to remove.  In another session a publisher serves a
subscriber. -/
def departure : List Label :=
  arrive 0 .subscriber ++ [.handler 0 .proceed, .handler 0 .proceed] ++
    arriveElsewhere 1 .publisher ++ settlePublisher 1 ++
    arriveElsewhere 2 .subscriber ++
    [.handler 2 .proceed, .handler 2 .proceed, .handler 2 (.send true),
      .handler 0 (.read none), .handler 0 .proceed, .handler 0 .proceed, .handler 0 .proceed,
      .handler 0 .proceed]

theorem teardown_confined_departure : ∃ state state' : State,
    state.step (.handler 0 .proceed) = some state' ∧
      (state.server.objects 0).closed = false ∧ (state'.server.objects 0).closed = true ∧
      state.handlers 1 = .loopPublisher 1 ∧ state.handlers 2 = .loopSubscriber 1 ∧
      (state.server.objects 1).closed = false ∧
      Confined state.server state'.server 0 .subscriber 0 := by
  obtain ⟨state, hreaches, hend⟩ := exists_guardedReaches_of_runBelow departure
    (fun state => state.handlers 0 = .removing .subscriber 0 ∧
      (state.server.objects 0).closed = false ∧
      (state.handlers 1 = .loopPublisher 1 ∧ state.handlers 2 = .loopSubscriber 1 ∧
        (state.server.objects 1).closed = false) ∧
      (state.step (.handler 0 .proceed)).any fun state' => (state'.server.objects 0).closed)
    (@separate_of_eval 3) (by decide +kernel)
  obtain ⟨hpoint, hopen, ⟨hhost, hguest, helsewhere⟩, hafter⟩ := of_decide_eq_true hend
  obtain ⟨state', hstep, hclosed⟩ := (Option.any_eq_true _ _).mp hafter
  exact ⟨state, state', hstep, hopen, hclosed, hhost, hguest, helsewhere,
    teardown_confined state state' 0 .proceed .subscriber 0 hreaches
      (by rw [hpoint, exiting]) hstep⟩

end ZeroFeed.Teardown
