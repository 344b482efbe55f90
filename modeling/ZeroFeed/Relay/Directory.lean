import ZeroFeed.Relay.Isolation

/-!
# The session map

`Server.sessions` is changed only with `srv.mu` held, so what a holder of the
lock found in the map is still there when it goes on.  It follows that every
session object that is not closed is in the map, that an entry of the map is
closed only while its removal is under way, and that the map holds the newest
object of each identifier.
-/

namespace ZeroFeed.Directory

open ZeroFeed.Messages
open ZeroFeed.Session
open ZeroFeed.Handlers
open ZeroFeed.Isolation
open ZeroFeed.Transition

/-! ## The map under its lock -/

/-- What the holder of `srv.mu` may rely on. -/
def LockValid (srv : Server) : ServerLock → Prop
  | .free => True
  | .closing _ sessionID target => srv.lookupSession sessionID = some target
  | .erasing _ sessionID target =>
      srv.lookupSession sessionID = some target ∧ (srv.objects target).closed = true
  | .sweeping _ stage rest =>
      (rest.map Sigma.fst).Nodup ∧
        (∀ entry ∈ rest, srv.lookupSession entry.1 = some entry.2) ∧
        (stage = .erase → ∀ entry ∈ rest.head?, (srv.objects entry.2).closed = true)

/-- The holder of `srv.mu` has closed the session under an identifier and not
yet erased the entry. -/
def Erasing (sessionID : SessionID) : ServerLock → Prop
  | .erasing _ erased _ => erased = sessionID
  | .sweeping _ .erase (entry :: _) => entry.1 = sessionID
  | _ => False

structure DirectoryValid (srv : Server) : Prop where
  lock : LockValid srv srv.srvMu
  listed : ∀ sessionID session, srv.lookupSession sessionID = some session →
    (srv.objects session).closed = true → Erasing sessionID srv.srvMu
  opened : ∀ session < srv.created, (srv.objects session).closed = false →
    srv.lookupSession (srv.objects session).sessionID = some session
  newest : ∀ sessionID target, srv.lookupSession sessionID = some target →
    ∀ session < srv.created, (srv.objects session).sessionID = sessionID →
      session ≤ target

/-- A step that leaves the map, its lock and the state of the objects alone. -/
structure Quiet (srv srv' : Server) : Prop where
  lookupSession : ∀ sessionID, srv'.lookupSession sessionID = srv.lookupSession sessionID
  srvMu : srv'.srvMu = srv.srvMu
  created : srv'.created = srv.created
  closed : ∀ session, (srv'.objects session).closed = (srv.objects session).closed
  sessionID : ∀ session, (srv'.objects session).sessionID = (srv.objects session).sessionID

section Map

variable {srv srv' : Server}

theorem lockValid_congr
    (hlookup : ∀ sessionID, srv'.lookupSession sessionID = srv.lookupSession sessionID)
    (hclosed : ∀ session, (srv.objects session).closed = true →
      (srv'.objects session).closed = true)
    {lock : ServerLock} (hvalid : LockValid srv lock) : LockValid srv' lock := by
  cases lock with
  | free => trivial
  | closing conn sessionID target => exact (hlookup sessionID).trans hvalid
  | erasing conn sessionID target =>
      exact ⟨(hlookup sessionID).trans hvalid.1, hclosed target hvalid.2⟩
  | sweeping kind stage rest =>
      exact ⟨hvalid.1, fun entry hentry => (hlookup entry.1).trans (hvalid.2.1 entry hentry),
        fun hstage entry hentry => hclosed entry.2 (hvalid.2.2 hstage entry hentry)⟩

theorem DirectoryValid.of_quiet (hvalid : DirectoryValid srv) (hquiet : Quiet srv srv') :
    DirectoryValid srv' where
  lock := by
    rw [hquiet.srvMu]
    exact lockValid_congr hquiet.lookupSession
      (fun session hclosed => (hquiet.closed session).trans hclosed) hvalid.lock
  listed := by
    intro sessionID session hlookup hclosed
    rw [hquiet.lookupSession] at hlookup
    rw [hquiet.closed] at hclosed
    rw [hquiet.srvMu]
    exact hvalid.listed sessionID session hlookup hclosed
  opened := by
    intro session hsession hopen
    rw [hquiet.created] at hsession
    rw [hquiet.closed] at hopen
    rw [hquiet.lookupSession, hquiet.sessionID]
    exact hvalid.opened session hsession hopen
  newest := by
    intro sessionID target hlookup session hsession hid
    rw [hquiet.lookupSession] at hlookup
    rw [hquiet.created] at hsession
    rw [hquiet.sessionID] at hid
    exact hvalid.newest sessionID target hlookup session hsession hid

theorem Quiet.setObject {session : ℕ} {object : RelaySession}
    (hclosed : object.closed = (srv.objects session).closed)
    (hid : object.sessionID = (srv.objects session).sessionID) :
    Quiet srv (srv.setObject session object) :=
  ⟨fun _ => rfl, rfl, rfl, srv.setObject_congr RelaySession.closed hclosed,
    srv.setObject_congr RelaySession.sessionID hid⟩

/-- While no entry is being erased, the map holds open sessions only. -/
theorem DirectoryValid.closed_eq_false (hvalid : DirectoryValid srv)
    (hlock : ∀ sessionID, ¬ Erasing sessionID srv.srvMu) {sessionID : SessionID} {session : ℕ}
    (hlookup : srv.lookupSession sessionID = some session) :
    (srv.objects session).closed = false :=
  Bool.eq_false_iff.mpr fun hclosed =>
    hlock sessionID (hvalid.listed sessionID session hlookup hclosed)

theorem directoryValid_createSession (hvalid : DirectoryValid srv) {sessionID : SessionID}
    (hfree : srv.srvMu = .free) (hlookup : srv.lookupSession sessionID = none) :
    DirectoryValid (srv.createSession sessionID) where
  lock := by
    change LockValid _ srv.srvMu
    rw [hfree]
    trivial
  listed := by
    intro other session hother hclosed
    rw [Server.lookupSession_createSession] at hother
    split at hother
    · obtain rfl := Option.some.inj hother
      simp [Server.createSession, RelaySession.new] at hclosed
    · by_cases hnew : session = srv.created
      · subst hnew
        simp [Server.createSession, RelaySession.new] at hclosed
      · simp only [Server.createSession, Function.update_of_ne hnew] at hclosed
        exact hvalid.listed other session hother hclosed
  opened := by
    intro session hsession hopen
    rw [Server.lookupSession_createSession]
    by_cases hnew : session = srv.created
    · subst hnew
      simp [Server.createSession, RelaySession.new]
    · have hold : session < srv.created :=
        lt_of_le_of_ne (Nat.lt_succ_iff.mp hsession) hnew
      simp only [Server.createSession, Function.update_of_ne hnew] at hopen ⊢
      have hfound := hvalid.opened session hold hopen
      rw [if_neg]
      · exact hfound
      · intro hsame
        rw [hsame, hlookup] at hfound
        cases hfound
  newest := by
    intro other target hother session hsession hid
    rw [Server.lookupSession_createSession] at hother
    split at hother
    · obtain rfl := Option.some.inj hother
      exact Nat.lt_succ_iff.mp hsession
    · rename_i hdifferent
      by_cases hnew : session = srv.created
      · subst hnew
        simp only [Server.createSession, Function.update_self, RelaySession.new] at hid
        exact absurd hid.symm hdifferent
      · simp only [Server.createSession, Function.update_of_ne hnew] at hid
        exact hvalid.newest other target hother session
          (lt_of_le_of_ne (Nat.lt_succ_iff.mp hsession) hnew) hid

/-- Taking, passing on or releasing the lock. -/
theorem directoryValid_lock (hvalid : DirectoryValid srv)
    (hbefore : ∀ sessionID, ¬ Erasing sessionID srv.srvMu) {lock : ServerLock}
    (hlock : LockValid srv lock) : DirectoryValid { srv with srvMu := lock } where
  lock := lockValid_congr (fun _ => rfl) (fun _ hclosed => hclosed) hlock
  listed := by
    intro sessionID session hlookup hclosed
    exact absurd hclosed (Bool.eq_false_iff.mp (hvalid.closed_eq_false hbefore hlookup))
  opened := hvalid.opened
  newest := hvalid.newest

theorem closed_closeSession (target session : ℕ) :
    ((srv.closeSession target).objects session).closed =
      (decide (session = target) || (srv.objects session).closed) := by
  by_cases hsame : session = target
  · subst hsame
    simp [Server.closeSession_objects_self]
  · simp [Server.closeSession_objects_of_ne srv hsame, hsame]

theorem sessionID_closeSession (target session : ℕ) :
    ((srv.closeSession target).objects session).sessionID =
      (srv.objects session).sessionID := by
  by_cases hsame : session = target
  · subst hsame
    rw [Server.closeSession_objects_self, RelaySession.close_sessionID]
  · rw [Server.closeSession_objects_of_ne srv hsame]

theorem directoryValid_closeSession (hserver : ServerValid srv) (hvalid : DirectoryValid srv)
    (hbefore : ∀ sessionID, ¬ Erasing sessionID srv.srvMu) {sessionID : SessionID}
    {target : ℕ} (htarget : srv.lookupSession sessionID = some target) {lock : ServerLock}
    (herasing : Erasing sessionID lock) (hlock : LockValid (srv.closeSession target) lock) :
    DirectoryValid { srv.closeSession target with srvMu := lock } where
  lock := lockValid_congr (fun _ => rfl) (fun _ hclosed => hclosed) hlock
  listed := by
    intro other session hlookup hclosed
    have hbefore' := (srv.closeSession_lookupSession target other).symm.trans hlookup
    rw [closed_closeSession, hvalid.closed_eq_false hbefore hbefore', Bool.or_false] at hclosed
    -- An object is listed under its own identifier, so under one identifier only.
    obtain rfl := of_decide_eq_true hclosed
    obtain rfl : sessionID = other :=
      (hserver.sessions _ _ htarget).2.symm.trans (hserver.sessions _ _ hbefore').2
    exact herasing
  opened := by
    intro session hsession hopen
    rw [closed_closeSession, Bool.or_eq_false_iff] at hopen
    rw [Server.closeSession_created] at hsession
    rw [sessionID_closeSession]
    exact (srv.closeSession_lookupSession _ _).trans (hvalid.opened session hsession hopen.2)
  newest := by
    intro sessionID found hlookup session hsession hid
    rw [sessionID_closeSession] at hid
    rw [Server.closeSession_created] at hsession
    exact hvalid.newest sessionID found
      ((srv.closeSession_lookupSession _ _).symm.trans hlookup) session hsession hid

theorem directoryValid_erase (hvalid : DirectoryValid srv) {sessionID : SessionID} {target : ℕ}
    (hlookup : srv.lookupSession sessionID = some target)
    (hclosed : (srv.objects target).closed = true)
    (herasing : ∀ other, Erasing other srv.srvMu → other = sessionID) {lock : ServerLock}
    {activeSessions : ℤ}
    (hlock : LockValid { srv with sessions := srv.sessions.erase sessionID } lock) :
    DirectoryValid { srv with
      sessions := srv.sessions.erase sessionID
      activeSessions := activeSessions
      srvMu := lock } where
  lock := lockValid_congr (fun _ => rfl) (fun _ hclosed => hclosed) hlock
  listed := by
    intro other session hother hsession
    rw [Server.lookupSession_erase rfl] at hother
    split at hother
    · cases hother
    · rename_i hdifferent
      exact absurd (herasing other (hvalid.listed other session hother hsession)) hdifferent
  opened := by
    intro session hsession hopen
    have hfound := hvalid.opened session hsession hopen
    rw [Server.lookupSession_erase rfl, if_neg]
    · exact hfound
    · intro hsame
      rw [hsame, hlookup] at hfound
      obtain rfl := Option.some.inj hfound
      rw [hclosed] at hopen
      cases hopen
  newest := by
    intro other found hother session hsession hid
    rw [Server.lookupSession_erase rfl] at hother
    split at hother
    · cases hother
    · exact hvalid.newest other found hother session hsession hid

theorem Quiet.refl (srv : Server) : Quiet srv srv :=
  ⟨fun _ => rfl, rfl, rfl, fun _ => rfl, fun _ => rfl⟩

theorem Quiet.sendFrame (srv : Server) (publisher : ℕ) (transfer : Transfer) (written : Bool) :
    Quiet srv (srv.sendFrame publisher transfer written) := by
  rcases srv.sendFrame_cases publisher transfer written with hsame | ⟨client, -, hsent⟩
  · rw [hsame]
    exact .refl srv
  · rw [hsent]
    exact ⟨fun _ => rfl, rfl, rfl, fun _ => rfl, fun _ => rfl⟩

theorem Quiet.setClient (hquiet : Quiet srv srv') {conn : ℕ} {client : ClientConn} :
    Quiet srv (srv'.setClient conn client) :=
  ⟨hquiet.lookupSession, hquiet.srvMu, hquiet.created, hquiet.closed, hquiet.sessionID⟩

theorem Quiet.closeNet (hquiet : Quiet srv srv') {conn : ℕ} : Quiet srv (srv'.closeNet conn) :=
  ⟨hquiet.lookupSession, hquiet.srvMu, hquiet.created, hquiet.closed, hquiet.sessionID⟩

variable {conn : ℕ} {handler handler' : Handler} {input : Input}

theorem directoryValid_of_section (hserver : ServerValid srv) (hvalid : DirectoryValid srv)
    (hsection : Section conn srv input handler srv' handler') : DirectoryValid srv' := by
  cases hsection with
  | fetchNew role env hfree hlookup => exact directoryValid_createSession hvalid hfree hlookup
  | registerPublisher | registerSubscriber =>
      refine hvalid.of_quiet (.setClient ?_)
      exact .setObject rfl rfl
  | greet | greetDone | forward | leave => exact hvalid.of_quiet (.setObject rfl rfl)
  | greetSend | announce | sendTo => exact hvalid.of_quiet (.sendFrame srv _ _ _)
  | syncSend => exact hvalid.of_quiet (.closeNet (.sendFrame srv _ _ _))
  | removeLock role session target hfree hlookup =>
      exact directoryValid_lock hvalid (by rw [hfree]; exact fun _ => id) hlookup
  | removeClose role session sessionID target _ hlock =>
      have hlookup : LockValid srv (.closing conn sessionID target) := hlock ▸ hvalid.lock
      exact directoryValid_closeSession hserver hvalid (by rw [hlock]; exact fun _ => id)
        hlookup rfl
        ⟨(srv.closeSession_lookupSession _ _).trans hlookup, by simp [closed_closeSession]⟩
  | removeErase role session sessionID target hlock =>
      have herasing : LockValid srv (.erasing conn sessionID target) := hlock ▸ hvalid.lock
      exact directoryValid_erase hvalid herasing.1 herasing.2
        (by rw [hlock]; exact fun _ => Eq.symm) trivial
  | _ => exact hvalid.of_quiet ⟨fun _ => rfl, rfl, rfl, fun _ => rfl, fun _ => rfl⟩

theorem directoryValid_of_background {task : Task} (hserver : ServerValid srv)
    (hvalid : DirectoryValid srv) (hbackground : Background srv task srv') :
    DirectoryValid srv' := by
  cases hbackground with
  | removeSubscriber session conn =>
      have hquiet : Quiet srv (srv.setObject session
          ((srv.objects session).removeSubscriber conn)) := .setObject rfl rfl
      exact hvalid.of_quiet ⟨hquiet.lookupSession, hquiet.srvMu, hquiet.created,
        hquiet.closed, hquiet.sessionID⟩
  | startSweep kind order hfree hperm =>
      refine directoryValid_lock hvalid (by rw [hfree]; exact fun _ => id) ⟨?_, ?_, nofun⟩
      · exact (hperm.map Sigma.fst).nodup_iff.mpr srv.sessions.nodupKeys
      · intro entry hentry
        exact AList.mem_lookup_iff.mpr (hperm.subset hentry)
  | sweepEnd kind hlock =>
      exact directoryValid_lock hvalid (by rw [hlock]; exact fun _ => id) trivial
  | sweepMove kind stage stage' rest rest' hlock hrest hstage hstage' =>
      have hsweep : LockValid srv (.sweeping kind stage rest) := hlock ▸ hvalid.lock
      have hbefore : ∀ sessionID, ¬ Erasing sessionID srv.srvMu := by
        rw [hlock]
        intro sessionID
        cases stage with
        | erase => exact absurd rfl hstage
        | next | age | close => exact id
      exact directoryValid_lock hvalid hbefore
        ⟨hsweep.1.sublist (hrest.sublist.map Sigma.fst),
          fun entry hentry => hsweep.2.1 entry (hrest.subset hentry),
          fun herase => absurd herase hstage'⟩
  | sweepClose kind entry rest _ hlock =>
      have hsweep : LockValid srv (.sweeping kind .close (entry :: rest)) :=
        hlock ▸ hvalid.lock
      refine directoryValid_closeSession hserver hvalid (by rw [hlock]; exact fun _ => id)
        (hsweep.2.1 entry List.mem_cons_self) rfl ⟨hsweep.1, ?_, ?_⟩
      · intro other hother
        exact (srv.closeSession_lookupSession _ _).trans (hsweep.2.1 other hother)
      · rintro - other hother
        obtain rfl := Option.some.inj hother
        simp [closed_closeSession]
  | sweepErase kind entry rest activeSessions hlock =>
      have hsweep : LockValid srv (.sweeping kind .erase (entry :: rest)) :=
        hlock ▸ hvalid.lock
      obtain ⟨hnodup, hlookup, hclosed⟩ := hsweep
      obtain ⟨hfresh, hnodup⟩ := List.nodup_cons.mp hnodup
      refine directoryValid_erase hvalid (hlookup entry List.mem_cons_self)
        (hclosed rfl entry rfl) (by rw [hlock]; exact fun _ => Eq.symm) ⟨hnodup, ?_, nofun⟩
      intro other hother
      rw [Server.lookupSession_erase rfl, if_neg]
      · exact hlookup other (List.mem_cons_of_mem _ hother)
      · intro hsame
        exact hfresh (List.mem_map.mpr ⟨other, hother, hsame⟩)
  | _ => exact hvalid.of_quiet ⟨fun _ => rfl, rfl, rfl, fun _ => rfl, fun _ => rfl⟩

/-- A session is closed only by the handler that found it in `removeSession`. -/
theorem closed_of_section (hsection : Section conn srv input handler srv' handler')
    {session : ℕ} (hsession : session < srv.created) :
    (srv'.objects session).closed = (srv.objects session).closed ∨
      (∃ role own, handler = .removing role own) ∧ input = .proceed ∧
        ∃ sessionID, srv.srvMu = .closing conn sessionID session := by
  cases hsection with
  | fetchNew role env =>
      exact .inl (by simp only [Server.createSession, Function.update_of_ne hsession.ne])
  | registerPublisher | registerSubscriber | greet | greetDone | forward | leave =>
      exact .inl (srv.setObject_congr RelaySession.closed (by rfl) session)
  | greetSend | announce | sendTo => exact .inl (by rw [Server.sendFrame_objects])
  | syncSend env publisher written =>
      exact .inl (congrArg RelaySession.closed
        (congrFun (srv.sendFrame_objects publisher ⟨conn, env⟩ written) session))
  | removeClose role own sessionID target hinput hlock =>
      by_cases hsame : session = target
      · subst hsame
        exact .inr ⟨⟨role, own, rfl⟩, hinput, sessionID, hlock⟩
      · exact .inl (by simp [closed_closeSession, hsame])
  | _ => exact .inl rfl

/-- Apart from the handlers only the sweeps close sessions. -/
theorem closed_of_background {task : Task} (hbackground : Background srv task srv')
    (session : ℕ) :
    (srv'.objects session).closed = (srv.objects session).closed ∨
      task = .sweep ∧ ∃ kind entry rest,
        srv.srvMu = .sweeping kind .close (entry :: rest) ∧ entry.2 = session := by
  cases hbackground with
  | removeSubscriber target removed =>
      exact .inl (srv.setObject_congr RelaySession.closed (by rfl) session)
  | sweepClose kind entry rest htask hlock =>
      by_cases hsame : session = entry.2
      · exact .inr ⟨htask, kind, entry, rest, hlock, hsame.symm⟩
      · exact .inl (by simp [closed_closeSession, hsame])
  | _ => exact .inl rfl

end Map

theorem directoryValid_of_reaches {state : State}
    (hreaches : Reaches State.step State.start state) : DirectoryValid state.server := by
  have hstart : WellFormed State.start ∧ DirectoryValid State.start.server :=
    ⟨wellFormed_start, trivial, nofun, nofun, nofun⟩
  refine (@Reaches.invariant _ _ State.step _ _
    (fun state => WellFormed state ∧ DirectoryValid state.server) hstart ?_ hreaches).2
  intro state label state' hvalid hstep
  refine ⟨wellFormed_step hvalid.1 hstep, ?_⟩
  rcases cases_of_step hstep with ⟨_, _, _, -, hsection, -⟩ | ⟨_, -, hbackground, -⟩
  · exact directoryValid_of_section hvalid.1.server hvalid.2 hsection
  · exact directoryValid_of_background hvalid.1.server hvalid.2 hbackground

end ZeroFeed.Directory
