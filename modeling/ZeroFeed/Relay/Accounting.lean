import ZeroFeed.Relay.Directory

/-!
# Session metrics (`pkg/relay/metrics.go`)

`ActiveSessions` and `SessionsCreatedTotal` are adjusted by hand wherever a
session enters or leaves the map: `getOrCreateSession` counts both up,
`removeSession` and the reaper count the gauge down with every entry they
delete, `CloseAll` deletes entries and leaves the gauge alone.  Over any run the
gauge therefore exceeds the size of the map by the number of sessions the calls
of `CloseAll` found there.
-/

namespace ZeroFeed.Accounting

open ZeroFeed.Messages
open ZeroFeed.Session
open ZeroFeed.Handlers
open ZeroFeed.Directory
open ZeroFeed.Transition

/-! ## The books -/

/-- The entries a running `CloseAll` has still to delete. -/
def owed : ServerLock → ℕ
  | .sweeping .closeAll _ rest => rest.length
  | _ => 0

/-- What the metrics are compared with. -/
structure Books where
  entries : List Entry
  active : ℤ
  total : ℕ
  owed : ℕ

def books (srv : Server) : Books :=
  ⟨srv.sessions.entries, srv.activeSessions, srv.sessionsCreatedTotal, owed srv.srvMu⟩

/-- The effect of a step on the books, and how many sessions a `CloseAll` that
starts in it finds in the map. -/
inductive Posting (before : Books) : ℕ → Books → Prop where
  | keep : Posting before 0 before
  | insert (entry : Entry) (hnew : entry ∉ before.entries) :
      Posting before 0
        ⟨entry :: before.entries, before.active + 1, before.total + 1, before.owed⟩
  | remove (entry : Entry) (rest : List Entry) (hperm : before.entries.Perm (entry :: rest)) :
      Posting before 0 ⟨rest, before.active - 1, before.total, before.owed⟩
  | beginCloseAll (howed : before.owed = 0) :
      Posting before before.entries.length
        ⟨before.entries, before.active, before.total, before.entries.length⟩
  | purge (entry : Entry) (rest : List Entry) (owed : ℕ)
      (hperm : before.entries.Perm (entry :: rest)) (howed : before.owed = owed + 1) :
      Posting before 0 ⟨rest, before.active, before.total, owed⟩

/-- How many sessions the step finds in the map as a call of `CloseAll`. -/
def found (state : State) : Label → ℕ
  | .task (.startSweep .closeAll _) => state.server.sessions.entries.length
  | _ => 0

/-- How many session objects the step inserts into the map. -/
def inserted (state : State) (label : Label) : ℕ :=
  match state.step label with
  | none => 0
  | some next =>
      (next.server.sessions.entries.filter (· ∉ state.server.sessions.entries)).length

section Steps

variable {srv srv' : Server}

theorem posting_of_books (hbooks : books srv' = books srv) :
    Posting (books srv) 0 (books srv') :=
  hbooks ▸ .keep

theorem books_of_lock {lock : ServerLock} (hlock : srv.srvMu = lock) :
    books srv =
      ⟨srv.sessions.entries, srv.activeSessions, srv.sessionsCreatedTotal, owed lock⟩ := by
  rw [books, hlock]

theorem books_closeSession (srv : Server) (target : ℕ) (lock : ServerLock) :
    books { srv.closeSession target with srvMu := lock } =
      ⟨srv.sessions.entries, srv.activeSessions, srv.sessionsCreatedTotal, owed lock⟩ := by
  simp only [books, Server.closeSession]
  split <;> rfl

theorem books_sendFrame (srv : Server) (publisher : ℕ) (transfer : Transfer) (written : Bool) :
    books (srv.sendFrame publisher transfer written) = books srv := by
  rcases srv.sendFrame_cases publisher transfer written with hsame | ⟨client, -, hsent⟩
  · rw [hsame]
  · rw [hsent]
    rfl

theorem posting_createSession {sessionID : SessionID}
    (hlookup : srv.lookupSession sessionID = none) :
    Posting (books srv) 0 (books (srv.createSession sessionID)) := by
  have habsent : sessionID ∉ srv.sessions := AList.lookup_eq_none.mp hlookup
  have hentries : (srv.createSession sessionID).sessions.entries =
      ⟨sessionID, srv.created⟩ :: srv.sessions.entries :=
    AList.entries_insert_of_notMem habsent
  have hnew : (⟨sessionID, srv.created⟩ : Entry) ∉ srv.sessions.entries := by
    intro hmem
    exact habsent (AList.mem_keys.mpr (List.mem_keys_of_mem hmem))
  have hbooks : books (srv.createSession sessionID) =
      ⟨⟨sessionID, srv.created⟩ :: srv.sessions.entries, srv.activeSessions + 1,
        srv.sessionsCreatedTotal + 1, owed srv.srvMu⟩ := by
    rw [← hentries]
    rfl
  rw [hbooks]
  exact .insert _ hnew

/-- An entry the map holds is one of its entries, and erasing leaves the rest. -/
theorem entries_erase {sessionID : SessionID} {target : ℕ}
    (hlookup : srv.lookupSession sessionID = some target) :
    ∃ entry, srv.sessions.entries.Perm
      (entry :: (srv.sessions.erase sessionID).entries) := by
  have hkey : sessionID ∈ srv.sessions.entries.keys :=
    AList.lookup_isSome.mp (Option.isSome_of_eq_some hlookup)
  obtain ⟨found, before, after, -, hentries, hrest⟩ := List.exists_of_kerase hkey
  refine ⟨⟨sessionID, found⟩, ?_⟩
  change srv.sessions.entries.Perm (_ :: List.kerase sessionID srv.sessions.entries)
  rw [hrest, hentries]
  exact List.perm_middle

theorem posting_of_section {conn : ℕ} {handler handler' : Handler} {input : Input}
    (hvalid : DirectoryValid srv) (hsection : Section conn srv input handler srv' handler') :
    Posting (books srv) 0 (books srv') := by
  cases hsection with
  | fetchNew role env _ hlookup => exact posting_createSession hlookup
  | greetSend | announce | sendTo => exact posting_of_books (books_sendFrame srv _ _ _)
  | syncSend => exact posting_of_books (books_sendFrame srv _ _ _)
  | removeLock role session target hfree =>
      exact posting_of_books (books_of_lock hfree).symm
  | removeClose role session sessionID target _ hlock =>
      apply posting_of_books
      rw [books_closeSession, books_of_lock hlock]
      rfl
  | removeErase role session sessionID target hlock =>
      have herasing : LockValid srv (.erasing conn sessionID target) := hlock ▸ hvalid.lock
      obtain ⟨entry, hperm⟩ := entries_erase herasing.1
      rw [books_of_lock hlock]
      exact .remove entry _ hperm
  | _ => exact .keep

/-- A sweep that holds the lock. -/
theorem posting_of_sweepStep (hvalid : DirectoryValid srv) (hsweep : sweepStep srv = some srv') :
    Posting (books srv) 0 (books srv') := by
  rw [sweepStep] at hsweep
  split at hsweep
  · rename_i kind hlock
    cases hsweep
    rw [books_of_lock hlock]
    cases kind <;> exact .keep
  · rename_i entry rest hlock
    cases hsweep
    rw [books_of_lock hlock]
    split <;> exact .keep
  · rename_i entry rest hlock
    cases hsweep
    rw [books_of_lock hlock]
    split <;> exact .keep
  · rename_i entry rest hlock
    cases hsweep
    rw [books_of_lock hlock]
    exact .keep
  · rename_i kind entry rest hlock
    split at hsweep
    · cases hsweep
      rw [books_closeSession, books_of_lock hlock]
      cases kind <;> exact .keep
    · cases hsweep
  · rename_i kind entry rest hlock
    cases hsweep
    have hsweeping : LockValid srv (.sweeping kind .erase (entry :: rest)) :=
      hlock ▸ hvalid.lock
    obtain ⟨erased, hperm⟩ := entries_erase (hsweeping.2.1 entry List.mem_cons_self)
    rw [books_of_lock hlock]
    cases kind with
    | reap => exact .remove erased _ hperm
    | closeAll => exact .purge erased _ rest.length hperm rfl
  · cases hsweep

theorem posting_of_perform {task : Task} (hvalid : DirectoryValid srv)
    (hperform : perform srv task = some srv') (handlers : ℕ → Handler) :
    Posting (books srv) (found ⟨srv, handlers⟩ (.task task)) (books srv') := by
  cases task with
  | writer conn input =>
      simp only [perform] at hperform
      split at hperform
      · cases hperform
      split at hperform
      · cases hperform
      obtain ⟨client, -, rfl⟩ := Option.map_eq_some_iff.mp hperform
      exact .keep
  | closeSocket | removeSubscriber | closeRemoved =>
      simp only [perform] at hperform
      split at hperform
      · cases hperform
        exact .keep
      · cases hperform
  | startSweep kind order =>
      simp only [perform] at hperform
      split at hperform
      · rename_i hstart
        cases hperform
        rw [books_of_lock hstart.1]
        cases kind with
        | reap => exact .keep
        | closeAll =>
            have hlength : owed (.sweeping .closeAll .next order) =
              srv.sessions.entries.length := hstart.2.length_eq
            rw [books, hlength]
            exact .beginCloseAll rfl
      · cases hperform
  | sweep => exact posting_of_sweepStep hvalid hperform
  | tick elapsed =>
      cases hperform
      exact .keep

end Steps

theorem posting_of_step {state state' : State} {label : Label}
    (hvalid : DirectoryValid state.server) (hstep : state.step label = some state') :
    Posting (books state.server) (found state label) (books state'.server) := by
  cases label with
  | handler conn input =>
      obtain ⟨⟨server, handler'⟩, hhandle, rfl⟩ := Option.map_eq_some_iff.mp hstep
      exact posting_of_section hvalid (section_of_handle hhandle)
  | task task =>
      obtain ⟨server, hperform, rfl⟩ := Option.map_eq_some_iff.mp hstep
      exact posting_of_perform hvalid hperform state.handlers

/-! ## Runs -/

/-- By how much the gauge exceeds the entries that will be left when a running
`CloseAll` has ended. -/
def Books.drift (books : Books) : ℤ := books.active - (books.entries.length - books.owed : ℤ)

theorem drift_of_posting {before after : Books} {count : ℕ}
    (hposting : Posting before count after) : after.drift = before.drift + count := by
  cases hposting with
  | keep => simp
  | insert entry =>
      simp only [Books.drift, List.length_cons, Nat.cast_add, Nat.cast_one, Nat.cast_zero]
      ring
  | remove entry rest hperm =>
      simp only [Books.drift, hperm.length_eq, List.length_cons, Nat.cast_add, Nat.cast_one,
        Nat.cast_zero]
      ring
  | beginCloseAll howed =>
      simp only [Books.drift, howed, Nat.cast_zero]
      ring
  | purge entry rest owed hperm howed =>
      simp only [Books.drift, howed, hperm.length_eq, List.length_cons, Nat.cast_add,
        Nat.cast_one, Nat.cast_zero]
      ring

/-- The created total counts the entries that are new in the map. -/
theorem total_of_posting {before after : Books} {count : ℕ}
    (hposting : Posting before count after) :
    after.total = before.total + (after.entries.filter (· ∉ before.entries)).length := by
  have hkept : ∀ entries : List Entry, entries ⊆ before.entries →
      (entries.filter (· ∉ before.entries)).length = 0 := by
    intro entries hsubset
    rw [List.length_eq_zero_iff, List.filter_eq_nil_iff]
    intro entry hentry
    simpa using hsubset hentry
  cases hposting with
  | keep | beginCloseAll => rw [hkept _ (List.Subset.refl _), Nat.add_zero]
  | insert entry hnew =>
      rw [List.filter_cons_of_pos (by simpa using hnew), List.length_cons,
        hkept _ (List.Subset.refl _)]
  | remove entry rest hperm | purge entry rest _ hperm =>
      have hsubset : rest ⊆ before.entries :=
        fun other hother => hperm.symm.subset (List.mem_cons_of_mem entry hother)
      rw [hkept rest hsubset, Nat.add_zero]

section Runs

variable {labels : List Label} {state : State}
  (hrun : run State.step State.start labels = some state)
include hrun

/-- The gauge exceeds the entries of the map by the sessions `CloseAll` found. -/
theorem drift_of_run :
    (books state.server).drift = tally State.step found State.start labels := by
  have hdrift := @quantity_of_run _ _ State.step found (Reaches State.step State.start)
    (fun state => (books state.server).drift)
    (fun _ label _ hreaches hstep => hreaches.tail ⟨label, hstep⟩)
    (fun _ _ _ hreaches hstep =>
      drift_of_posting (posting_of_step (directoryValid_of_reaches hreaches) hstep))
    labels State.start state .refl hrun
  exact hdrift.trans (Int.zero_add _)

theorem sessionsCreatedTotal_of_run :
    state.server.sessionsCreatedTotal = tally State.step inserted State.start labels := by
  have htotal := @quantity_of_run _ _ State.step inserted (Reaches State.step State.start)
    (fun state => (state.server.sessionsCreatedTotal : ℤ))
    (fun _ label _ hreaches hstep => hreaches.tail ⟨label, hstep⟩) ?_
    labels State.start state .refl hrun
  · exact Int.natCast_inj.mp (htotal.trans (Int.zero_add _))
  intro before label after hreaches hstep
  rw [inserted, hstep, ← Int.natCast_add]
  exact congrArg Nat.cast
    (total_of_posting (posting_of_step (directoryValid_of_reaches hreaches) hstep))

/-- Neither counter leaves the range of its type within `2 ^ 63 - 1` steps. -/
theorem counters_within : state.server.sessionsCreatedTotal ≤ labels.length ∧
    -(labels.length : ℤ) ≤ state.server.activeSessions ∧
      state.server.activeSessions ≤ labels.length := by
  have hwithin : ∀ quantity : Books → ℤ, (∀ before count after, Posting before count after →
      quantity after ≤ quantity before + 1 ∧ quantity before ≤ quantity after + 1) →
      quantity (books state.server) ≤ quantity (books State.start.server) + labels.length ∧
        quantity (books State.start.server) ≤ quantity (books state.server) + labels.length :=
    fun quantity hquantity => @within_of_run _ _ State.step (Reaches State.step State.start)
      (fun state => quantity (books state.server))
      (fun _ label _ hreaches hstep => hreaches.tail ⟨label, hstep⟩)
      (fun _ _ _ hreaches hstep => hquantity _ _ _
        (posting_of_step (directoryValid_of_reaches hreaches) hstep))
      labels State.start state .refl hrun
  have htotal := hwithin (fun books => books.total) fun _ _ _ hposting => by
    cases hposting <;> grind
  have hactive := hwithin Books.active fun _ _ _ hposting => by
    cases hposting <;> grind
  simp only [books, State.start, Server.new] at htotal hactive
  omega

end Runs

/-- Whenever `srv.mu` is free, the created total is the number of insertions, and
the gauge is the number of entries exactly if no `CloseAll` of the run has found
a session in the map. -/
theorem metrics_exact_iff (labels : List Label) (state : State)
    (hrun : run State.step State.start labels = some state)
    (hfree : state.server.srvMu = .free) :
    (state.server.activeSessions = state.server.sessions.entries.length ∧
      state.server.sessionsCreatedTotal = tally State.step inserted State.start labels) ↔
      tally State.step found State.start labels = 0 := by
  have hdrift := drift_of_run hrun
  rw [books_of_lock hfree] at hdrift
  simp only [Books.drift, owed, Nat.cast_zero, sub_zero] at hdrift
  constructor
  · rintro ⟨hexact, -⟩
    omega
  · intro hnone
    exact ⟨by omega, sessionsCreatedTotal_of_run hrun⟩

/-- A publisher creates a session and leaves again, which removes it. -/
def visit : List Label :=
  arrive 0 .publisher ++ settlePublisher 0 ++
    [.handler 0 (.read none), .handler 0 .proceed, .handler 0 .proceed, .handler 0 .proceed]

theorem metrics_exact_visit : ∃ state, run State.step State.start visit = some state ∧
    tally State.step found State.start visit = 0 ∧
      state.server.activeSessions = state.server.sessions.entries.length ∧
      state.server.sessionsCreatedTotal = tally State.step inserted State.start visit := by
  have hend : (run State.step State.start visit).any
      (fun state => state.server.srvMu = .free) = true := by decide +kernel
  obtain ⟨state, hrun, hfree⟩ := (Option.any_eq_true _ _).mp hend
  have hfound : tally State.step found State.start visit = 0 := by decide +kernel
  exact ⟨state, hrun, hfound,
    (metrics_exact_iff visit state hrun (of_decide_eq_true hfree)).mpr hfound⟩

/-- `CloseAll` while the map holds the session of a publisher. -/
def shutdown : List Label :=
  arrive 0 .publisher ++
    [.task (.startSweep .closeAll [⟨(bareFrame msgTypePAKEInitPub).sessionID, 0⟩]),
      .task .sweep, .task .sweep, .task .sweep, .task .sweep]

/-- After `CloseAll` the map is empty and the gauge says that one session is
active. -/
theorem activeSessions_shutdown : ∃ state, Reaches State.step State.start state ∧
    state.server.srvMu = .free ∧ state.server.sessions.entries = [] ∧
      state.server.activeSessions = 1 := by
  obtain ⟨state, hreaches, hend⟩ := exists_reaches_of_run State.step State.start shutdown
    (fun state => state.server.srvMu = .free ∧ state.server.sessions.entries = [] ∧
      state.server.activeSessions = 1)
    (by decide +kernel)
  exact ⟨state, hreaches, of_decide_eq_true hend⟩

end ZeroFeed.Accounting
