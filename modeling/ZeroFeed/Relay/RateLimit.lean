import ZeroFeed.Core.Text

/-!
# Failed attempts and bans (`pkg/relay/ratelimit.go`)

One record for each address counts its failures; the third and every later one
bans the address for five minutes.  A lookup drops the record of a ban that is
over, a success drops it at once, and the janitor drops records that have been idle.
-/

namespace ZeroFeed.RateLimit

open ZeroFeed.ByteString
open ZeroFeed.Text

def maxFailedAttempts : ℕ := 3

/-- Five minutes; times and durations are in nanoseconds. -/
def banDuration : ℕ := 5 * 60 * 1000000000

/-- The zero `time.Time` is the clock's origin.  For the range of `attempts` see
`attempts_le_length`. -/
structure IPRecord where
  attempts : ℕ
  bannedUntil : ℕ
  lastActivity : ℕ
  deriving DecidableEq

namespace IPRecord

variable (record : IPRecord) (now : ℕ)

def new : IPRecord := ⟨0, 0, 0⟩

/-- What `IsBanned` leaves of a record, and its answer. -/
def lookedUp : Option IPRecord × Bool :=
  let record := { record with lastActivity := now }
  if now < record.bannedUntil then (some record, true)
  else if record.bannedUntil < now ∧ maxFailedAttempts ≤ record.attempts then (none, false)
  else (some record, false)

/-- What `RecordFailure` makes of a record. -/
def failed : IPRecord :=
  let record := { record with lastActivity := now, attempts := record.attempts + 1 }
  if maxFailedAttempts ≤ record.attempts then { record with bannedUntil := now + banDuration }
  else record

/-- `now.Sub`, which stops at the largest duration. -/
def idle : ℕ := min (now - record.lastActivity) (2 ^ 63 - 1)

def Stale (maxAge : ℤ) : Prop := record.bannedUntil < now ∧ maxAge < record.idle now

instance (maxAge : ℤ) : Decidable (record.Stale now maxAge) :=
  inferInstanceAs (Decidable (_ ∧ _))

end IPRecord

structure RateLimiter where
  records : Bytes → Option IPRecord
  enabled : Bool

def newRateLimiter : RateLimiter := ⟨fun _ => none, true⟩

/-- The address without its port, or as it is if it has none. -/
def ipOf (remoteAddr : Bytes) : Bytes :=
  match splitHostPort remoteAddr with
  | some (ip, _) => ip
  | none => remoteAddr

namespace RateLimiter

variable (limiter : RateLimiter)

def put (ip : Bytes) (record : Option IPRecord) : RateLimiter :=
  { limiter with records := Function.update limiter.records ip record }

def isBanned (now : ℕ) (remoteAddr : Bytes) : RateLimiter × Bool :=
  if limiter.enabled = false then (limiter, false)
  else
    match limiter.records (ipOf remoteAddr) with
    | none => (limiter, false)
    | some record =>
        (limiter.put (ipOf remoteAddr) (record.lookedUp now).1, (record.lookedUp now).2)

def recordFailure (now : ℕ) (remoteAddr : Bytes) : RateLimiter :=
  if limiter.enabled = false then limiter
  else
    let record := (limiter.records (ipOf remoteAddr)).getD .new
    limiter.put (ipOf remoteAddr) (some (record.failed now))

/-- Also while the limiter is disabled. -/
def recordSuccess (remoteAddr : Bytes) : RateLimiter := limiter.put (ipOf remoteAddr) none

def cleanupStale (now : ℕ) (maxAge : ℤ) : RateLimiter :=
  { limiter with
    records := fun ip => (limiter.records ip).filter fun record => ¬ record.Stale now maxAge }

end RateLimiter

/-! ## Runs -/

inductive Operation where
  | isBanned (remoteAddr : Bytes)
  | recordFailure (remoteAddr : Bytes)
  | recordSuccess (remoteAddr : Bytes)
  | cleanupStale (maxAge : ℤ)
  deriving DecidableEq

/-- A call and the clock reading it takes. -/
structure Call where
  now : ℕ
  operation : Operation
  deriving DecidableEq

def RateLimiter.perform (limiter : RateLimiter) (call : Call) : RateLimiter :=
  match call.operation with
  | .isBanned remoteAddr => (limiter.isBanned call.now remoteAddr).1
  | .recordFailure remoteAddr => limiter.recordFailure call.now remoteAddr
  | .recordSuccess remoteAddr => limiter.recordSuccess remoteAddr
  | .cleanupStale maxAge => limiter.cleanupStale call.now maxAge

def RateLimiter.run (limiter : RateLimiter) (history : List Call) : RateLimiter :=
  history.foldl perform limiter

namespace Call

variable (call : Call) (ip : Bytes)

/-- The addresses a call is about; the janitor's is about all. -/
def Concerns : Prop :=
  match call.operation with
  | .isBanned remoteAddr => ipOf remoteAddr = ip
  | .recordFailure remoteAddr => ipOf remoteAddr = ip
  | .recordSuccess remoteAddr => ipOf remoteAddr = ip
  | .cleanupStale _ => True

def Fails : Prop :=
  match call.operation with
  | .recordFailure remoteAddr => ipOf remoteAddr = ip
  | _ => False

def Succeeds : Prop :=
  match call.operation with
  | .recordSuccess remoteAddr => ipOf remoteAddr = ip
  | _ => False

instance : Decidable (call.Concerns ip) :=
  match call with
  | ⟨_, .isBanned remoteAddr⟩ => inferInstanceAs (Decidable (ipOf remoteAddr = ip))
  | ⟨_, .recordFailure remoteAddr⟩ => inferInstanceAs (Decidable (ipOf remoteAddr = ip))
  | ⟨_, .recordSuccess remoteAddr⟩ => inferInstanceAs (Decidable (ipOf remoteAddr = ip))
  | ⟨_, .cleanupStale _⟩ => inferInstanceAs (Decidable True)

instance : Decidable (call.Fails ip) :=
  match call with
  | ⟨_, .recordFailure remoteAddr⟩ => inferInstanceAs (Decidable (ipOf remoteAddr = ip))
  | ⟨_, .isBanned _⟩ => inferInstanceAs (Decidable False)
  | ⟨_, .recordSuccess _⟩ => inferInstanceAs (Decidable False)
  | ⟨_, .cleanupStale _⟩ => inferInstanceAs (Decidable False)

end Call

/-- A run in which the failures of one address are noted as long as its record
lives. -/
structure Watched where
  limiter : RateLimiter
  failures : List ℕ

namespace Watched

variable (ip : Bytes) (watched : Watched)

def step (call : Call) : Watched :=
  let limiter := watched.limiter.perform call
  let deleted := (watched.limiter.records ip).isSome && (limiter.records ip).isNone
  ⟨limiter,
    if deleted then []
    else if call.Fails ip then watched.failures ++ [call.now]
    else watched.failures⟩

def run (history : List Call) : Watched := history.foldl (step ip) watched

end Watched

/-- The times of the `RecordFailure` calls on an address since its record was last
deleted. -/
def failuresOf (ip : Bytes) (history : List Call) : List ℕ :=
  (Watched.run ip ⟨newRateLimiter, []⟩ history).failures

/-! ## One record

With the limiter enabled, what a call does to the record of one address depends on
that record alone. -/

def Call.next (call : Call) (ip : Bytes) (record : Option IPRecord) : Option IPRecord :=
  if call.Concerns ip then
    match call.operation with
    | .isBanned _ => record.bind fun record => (record.lookedUp call.now).1
    | .recordFailure _ => some ((record.getD .new).failed call.now)
    | .recordSuccess _ => none
    | .cleanupStale maxAge => record.filter fun record => ¬ record.Stale call.now maxAge
  else record

section Record

variable {limiter : RateLimiter} (henabled : limiter.enabled = true)

theorem put_records (ip other : Bytes) (record : Option IPRecord) :
    (limiter.put other record).records ip = if other = ip then record else limiter.records ip := by
  change Function.update limiter.records other record ip = _
  rw [Function.update_apply]
  simp only [eq_comm]

include henabled

theorem isBanned_eq (now : ℕ) (remoteAddr : Bytes) :
    limiter.isBanned now remoteAddr =
      match limiter.records (ipOf remoteAddr) with
      | none => (limiter, false)
      | some record =>
          (limiter.put (ipOf remoteAddr) (record.lookedUp now).1, (record.lookedUp now).2) :=
  if_neg (by simp [henabled])

theorem perform_enabled (call : Call) : (limiter.perform call).enabled = true := by
  unfold RateLimiter.perform
  split
  · rw [isBanned_eq henabled]
    split <;> exact henabled
  · rw [RateLimiter.recordFailure, if_neg (by simp [henabled])]
    exact henabled
  · exact henabled
  · exact henabled

theorem perform_records (call : Call) (ip : Bytes) :
    (limiter.perform call).records ip = call.next ip (limiter.records ip) := by
  obtain ⟨now, operation⟩ := call
  cases operation with
  | isBanned remoteAddr =>
      change (limiter.isBanned now remoteAddr).1.records ip = if ipOf remoteAddr = ip then _ else _
      rw [isBanned_eq henabled]
      by_cases hip : ipOf remoteAddr = ip
      · subst hip
        rw [if_pos rfl]
        cases hrecord : limiter.records (ipOf remoteAddr) with
        | none => exact hrecord
        | some record => exact (put_records _ _ _).trans (if_pos rfl)
      · rw [if_neg hip]
        split
        · rfl
        · exact (put_records _ _ _).trans (if_neg hip)
  | recordFailure remoteAddr =>
      change (limiter.recordFailure now remoteAddr).records ip =
        if ipOf remoteAddr = ip then _ else _
      rw [RateLimiter.recordFailure, if_neg (by simp [henabled]), put_records]
      by_cases hip : ipOf remoteAddr = ip
      · rw [hip]
      · rw [if_neg hip, if_neg hip]
  | recordSuccess remoteAddr => exact put_records _ _ _
  | cleanupStale maxAge => exact (if_pos trivial).symm

end Record

/-! ## The failures noted -/

/-- The end of the ban that these failures bring; the clock's origin for none. -/
def banEnd (failures : List ℕ) : ℕ :=
  if maxFailedAttempts ≤ failures.length then failures.getLastD 0 + banDuration else 0

/-- A record says how many failures were noted and when the ban of the last one
ends. -/
inductive Counts : Option IPRecord → List ℕ → Prop where
  | absent : Counts none []
  | present (record : IPRecord) (failures : List ℕ) (hattempts : record.attempts = failures.length)
      (hbanned : record.bannedUntil = banEnd failures) : Counts (some record) failures

/-- The notes after a call, from the record before and after it. -/
def noted (record next : Option IPRecord) (call : Call) (ip : Bytes) (failures : List ℕ) : List ℕ :=
  if record.isSome && next.isNone then []
  else if call.Fails ip then failures ++ [call.now]
  else failures

theorem counts_lookedUp {record : IPRecord} {failures : List ℕ}
    (hcounts : Counts (some record) failures) (now : ℕ) :
    (record.lookedUp now).1 = none ∨ Counts (record.lookedUp now).1 failures := by
  cases hcounts with
  | present _ _ hattempts hbanned =>
      unfold IPRecord.lookedUp
      dsimp only
      split_ifs
      · exact .inr (.present _ _ hattempts hbanned)
      · exact .inl rfl
      · exact .inr (.present _ _ hattempts hbanned)

theorem counts_failed {record : Option IPRecord} {failures : List ℕ}
    (hcounts : Counts record failures) (now : ℕ) :
    Counts (some ((record.getD .new).failed now)) (failures ++ [now]) := by
  have hattempts : (record.getD .new).attempts = failures.length := by
    cases hcounts with
    | absent => rfl
    | present _ _ hattempts _ => exact hattempts
  have hbanned : (record.getD .new).bannedUntil = banEnd failures := by
    cases hcounts with
    | absent => rfl
    | present _ _ _ hbanned => exact hbanned
  have hlength : (failures ++ [now]).length = failures.length + 1 := List.length_append
  unfold IPRecord.failed
  dsimp only
  by_cases hthird : maxFailedAttempts ≤ failures.length + 1
  · rw [hattempts, if_pos hthird]
    refine .present _ _ hlength.symm ?_
    rw [banEnd, hlength, if_pos hthird, List.getLastD_concat]
  · rw [hattempts, if_neg hthird]
    refine .present _ _ hlength.symm ?_
    rw [banEnd, hlength, if_neg hthird]
    change (record.getD .new).bannedUntil = 0
    rw [hbanned, banEnd, if_neg (by omega)]

/-- A call that is no failure leaves a counting record or none. -/
theorem counts_noted {record next : Option IPRecord} {failures : List ℕ} {call : Call} {ip : Bytes}
    (hcounts : Counts record failures) (hfails : ¬ call.Fails ip)
    (hnext : next = none ∨ Counts next failures) :
    Counts next (noted record next call ip failures) := by
  cases next with
  | none =>
      have hnoted : noted record none call ip failures = [] := by
        cases hcounts with
        | absent => exact if_neg hfails
        | present => rfl
      rw [hnoted]
      exact .absent
  | some next =>
      have hnoted : noted record (some next) call ip failures = failures := by
        rw [noted, Option.isNone_some, Bool.and_false, if_neg Bool.false_ne_true, if_neg hfails]
      rw [hnoted]
      exact hnext.resolve_left (Option.some_ne_none next)

theorem noted_of_fails {record : Option IPRecord} (next : IPRecord) (failures : List ℕ)
    {call : Call}
    {ip : Bytes} (hfails : call.Fails ip) :
    noted record (some next) call ip failures = failures ++ [call.now] := by
  rw [noted, Option.isNone_some, Bool.and_false, if_neg Bool.false_ne_true, if_pos hfails]

theorem counts_next {record : Option IPRecord} {failures : List ℕ}
    (hcounts : Counts record failures) (call : Call) (ip : Bytes) :
    Counts (call.next ip record) (noted record (call.next ip record) call ip failures) := by
  obtain ⟨now, operation⟩ := call
  unfold Call.next
  by_cases hip : Call.Concerns ⟨now, operation⟩ ip
  · rw [if_pos hip]
    cases operation with
    | isBanned remoteAddr =>
        apply counts_noted hcounts id
        cases hcounts with
        | absent => exact .inl rfl
        | present record failures hattempts hbanned =>
            exact counts_lookedUp (.present record failures hattempts hbanned) now
    | recordFailure remoteAddr =>
        have hfails : Call.Fails ⟨now, .recordFailure remoteAddr⟩ ip := hip
        dsimp only
        rw [noted_of_fails _ _ hfails]
        exact counts_failed hcounts now
    | recordSuccess remoteAddr => exact counts_noted hcounts id (.inl rfl)
    | cleanupStale maxAge =>
        apply counts_noted hcounts id
        cases hcounts with
        | absent => exact .inl rfl
        | present record failures hattempts hbanned =>
            dsimp only
            rw [Option.filter_some]
            split
            · exact .inr (.present record failures hattempts hbanned)
            · exact .inl rfl
  · rw [if_neg hip]
    refine counts_noted hcounts (fun hfails => hip ?_) (.inr hcounts)
    cases operation with
    | recordFailure remoteAddr => exact hfails
    | isBanned | recordSuccess | cleanupStale => exact hfails.elim

/-! ## Whole runs -/

/-- The limiter is enabled and its record of the address counts the failures noted. -/
structure Watches (ip : Bytes) (watched : Watched) : Prop where
  enabled : watched.limiter.enabled = true
  counts : Counts (watched.limiter.records ip) watched.failures

theorem watches_step {ip : Bytes} {watched : Watched} (hwatches : Watches ip watched)
    (call : Call) :
    Watches ip (watched.step ip call) where
  enabled := perform_enabled hwatches.enabled call
  counts := by
    have hnext := perform_records hwatches.enabled call ip
    change Counts ((watched.limiter.perform call).records ip)
      (noted (watched.limiter.records ip) ((watched.limiter.perform call).records ip) call ip
        watched.failures)
    rw [hnext]
    exact counts_next hwatches.counts call ip

theorem watches_run {ip : Bytes} {watched : Watched} (hwatches : Watches ip watched)
    (history : List Call) : Watches ip (watched.run ip history) := by
  induction history generalizing watched with
  | nil => exact hwatches
  | cons call history ih => exact ih (watches_step hwatches call)

theorem run_limiter (ip : Bytes) (watched : Watched) (history : List Call) :
    (watched.run ip history).limiter = watched.limiter.run history := by
  induction history generalizing watched with
  | nil => rfl
  | cons call history ih => exact ih (watched.step ip call)

theorem watches_newRateLimiter (ip : Bytes) (history : List Call) :
    (newRateLimiter.run history).enabled = true ∧
      Counts ((newRateLimiter.run history).records ip) (failuresOf ip history) := by
  have hwatches : Watches ip (Watched.run ip ⟨newRateLimiter, []⟩ history) :=
    watches_run ⟨rfl, .absent⟩ history
  have hlimiter := run_limiter ip ⟨newRateLimiter, []⟩ history
  rw [failuresOf]
  rw [← hlimiter]
  exact ⟨hwatches.enabled, hwatches.counts⟩

theorem length_noted_le (record next : Option IPRecord) (call : Call) (ip : Bytes)
    (failures : List ℕ) : (noted record next call ip failures).length ≤ failures.length + 1 := by
  unfold noted
  split_ifs
  · exact Nat.zero_le _
  · exact List.length_append.le
  · exact Nat.le_succ _

theorem length_run_failures_le (ip : Bytes) (watched : Watched) (history : List Call) :
    (watched.run ip history).failures.length ≤ watched.failures.length + history.length := by
  induction history generalizing watched with
  | nil => exact Nat.le_refl _
  | cons call history ih =>
      calc
        (watched.run ip (call :: history)).failures.length
            ≤ (watched.step ip call).failures.length + history.length := ih _
        _ ≤ watched.failures.length + 1 + history.length :=
          Nat.add_le_add_right (length_noted_le _ _ _ _ _) _
        _ = watched.failures.length + (call :: history).length := by
          rw [List.length_cons]
          omega

/-- `Attempts` is an `int` of the source; `2 ^ 63 - 1` calls do not wrap it. -/
theorem attempts_le_length {ip : Bytes} {history : List Call} {record : IPRecord}
    (hrecord : (newRateLimiter.run history).records ip = some record) :
    record.attempts ≤ history.length := by
  have hcounts := (watches_newRateLimiter ip history).2
  rw [hrecord] at hcounts
  have hlength := length_run_failures_le ip ⟨newRateLimiter, []⟩ history
  rw [← failuresOf, List.length_nil, Nat.zero_add] at hlength
  cases hcounts with
  | present _ _ hattempts => exact hattempts.trans_le hlength

/-! ## Bans -/

/-- A ban that lasts at least until the given time. -/
structure BannedUntil (ip : Bytes) (stop : ℕ) (limiter : RateLimiter) : Prop where
  enabled : limiter.enabled = true
  record : ∃ record, limiter.records ip = some record ∧
    maxFailedAttempts ≤ record.attempts ∧ stop ≤ record.bannedUntil

theorem bannedUntil_perform {ip : Bytes} {stop : ℕ} {limiter : RateLimiter}
    (hbanned : BannedUntil ip stop limiter) {call : Call} (hsuccess : ¬ call.Succeeds ip)
    (hnow : call.now < stop) (hlate : stop ≤ call.now + banDuration) :
    BannedUntil ip stop (limiter.perform call) := by
  obtain ⟨henabled, record, hrecord, hattempts, huntil⟩ := hbanned
  refine ⟨perform_enabled henabled call, ?_⟩
  rw [perform_records henabled, hrecord]
  obtain ⟨now, operation⟩ := call
  unfold Call.next
  by_cases hip : Call.Concerns ⟨now, operation⟩ ip
  · rw [if_pos hip]
    cases operation with
    | isBanned remoteAddr =>
        have hlooked : record.lookedUp now = (some { record with lastActivity := now }, true) :=
          if_pos (hnow.trans_le huntil)
        refine ⟨{ record with lastActivity := now }, ?_, hattempts, huntil⟩
        change (record.lookedUp now).1 = _
        rw [hlooked]
    | recordFailure remoteAddr =>
        have hfailed : record.failed now = ⟨record.attempts + 1, now + banDuration, now⟩ :=
          if_pos (Nat.le_succ_of_le hattempts)
        refine ⟨⟨record.attempts + 1, now + banDuration, now⟩, ?_, Nat.le_succ_of_le hattempts,
          hlate⟩
        exact congrArg some hfailed
    | recordSuccess remoteAddr => exact absurd hip hsuccess
    | cleanupStale maxAge =>
        have hkept : ¬ record.Stale now maxAge := fun hstale =>
          (hnow.trans_le huntil).not_gt hstale.1
        refine ⟨record, ?_, hattempts, huntil⟩
        exact (Option.filter_some ..).trans (if_pos (by simpa using hkept))
  · rw [if_neg hip]
    exact ⟨record, rfl, hattempts, huntil⟩

theorem bannedUntil_run {ip : Bytes} {stop : ℕ} {limiter : RateLimiter}
    (hbanned : BannedUntil ip stop limiter) {history : List Call}
    (hsuccess : ∀ call ∈ history, ¬ call.Succeeds ip) (hnow : ∀ call ∈ history, call.now < stop)
    (hlate : ∀ call ∈ history, stop ≤ call.now + banDuration) :
    BannedUntil ip stop (limiter.run history) := by
  induction history generalizing limiter with
  | nil => exact hbanned
  | cons call history ih =>
      rw [List.forall_mem_cons] at hsuccess hnow hlate
      exact ih (bannedUntil_perform hbanned hsuccess.1 hnow.1 hlate.1) hsuccess.2 hnow.2 hlate.2

/-- A failure is noted whatever came before it. -/
theorem failuresOf_concat {ip : Bytes} (before : List Call) {failure : Call}
    (hfails : failure.Fails ip) :
    failuresOf ip (before ++ [failure]) = failuresOf ip before ++ [failure.now] := by
  have hwatches : Watches ip (Watched.run ip ⟨newRateLimiter, []⟩ before) :=
    watches_run ⟨rfl, .absent⟩ before
  generalize hwatched : Watched.run ip ⟨newRateLimiter, []⟩ before = watched at hwatches
  have hnext : ∃ next, (watched.limiter.perform failure).records ip = some next := by
    rw [perform_records hwatches.enabled]
    obtain ⟨now, operation⟩ := failure
    cases operation with
    | recordFailure remoteAddr => exact ⟨_, if_pos hfails⟩
    | isBanned | recordSuccess | cleanupStale => exact hfails.elim
  obtain ⟨next, hnext⟩ := hnext
  calc
    failuresOf ip (before ++ [failure]) = (watched.step ip failure).failures := by
      rw [failuresOf, Watched.run, List.foldl_append, ← hwatched]
      rfl
    _ = noted (watched.limiter.records ip) (some next) failure ip watched.failures := by
      rw [← hnext]
      rfl
    _ = watched.failures ++ [failure.now] := noted_of_fails next _ hfails
    _ = failuresOf ip before ++ [failure.now] := by rw [← hwatched, failuresOf]

/-- The third failure, and every later one, starts a ban. -/
theorem bannedUntil_of_fails {ip : Bytes} {before : List Call} {failure : Call}
    (hfails : failure.Fails ip)
    (hthird : maxFailedAttempts ≤ (failuresOf ip (before ++ [failure])).length) :
    BannedUntil ip (failure.now + banDuration) (newRateLimiter.run (before ++ [failure])) := by
  obtain ⟨henabled, hcounts⟩ := watches_newRateLimiter ip (before ++ [failure])
  refine ⟨henabled, ?_⟩
  have hlast : (failuresOf ip (before ++ [failure])).getLastD 0 = failure.now := by
    rw [failuresOf_concat before hfails, List.getLastD_concat]
  generalize failuresOf ip (before ++ [failure]) = failures at hcounts hthird hlast
  generalize (newRateLimiter.run (before ++ [failure])).records ip = record at hcounts
  cases hcounts with
  | absent => exact absurd hthird (by decide)
  | present record _ hattempts hbanned =>
      refine ⟨record, rfl, hattempts ▸ hthird, ?_⟩
      rw [hbanned, banEnd, if_pos hthird, hlast]

/-- The answer depends on the record alone. -/
theorem isBanned_answer {limiter : RateLimiter} (henabled : limiter.enabled = true) (now : ℕ)
    (remoteAddr : Bytes) :
    (limiter.isBanned now remoteAddr).2 = true ↔
      ∃ record, limiter.records (ipOf remoteAddr) = some record ∧ now < record.bannedUntil := by
  rw [isBanned_eq henabled]
  cases limiter.records (ipOf remoteAddr) with
  | none => simp
  | some record =>
      have hanswer : (record.lookedUp now).2 = decide (now < record.bannedUntil) := by
        unfold IPRecord.lookedUp
        dsimp only
        split_ifs with hbefore <;> simp [hbefore]
      simp [hanswer]

/-! ## Other addresses -/

theorem next_of_not_concerns {call : Call} {ip : Bytes} (hother : ¬ call.Concerns ip)
    (record : Option IPRecord) : call.next ip record = record :=
  if_neg hother

/-- Calls on other addresses can be left out. -/
theorem run_records_filter (ip : Bytes) {limiter limiter' : RateLimiter}
    (henabled : limiter.enabled = true) (henabled' : limiter'.enabled = true)
    (hrecords : limiter'.records ip = limiter.records ip) (history : List Call) :
    (limiter'.run (history.filter fun call => call.Concerns ip)).records ip =
      (limiter.run history).records ip := by
  induction history generalizing limiter limiter' with
  | nil => exact hrecords
  | cons call history ih =>
      by_cases hconcerns : call.Concerns ip
      · rw [List.filter_cons_of_pos (by simpa using hconcerns)]
        refine ih (perform_enabled henabled call) (perform_enabled henabled' call) ?_
        rw [perform_records henabled, perform_records henabled', hrecords]
      · rw [List.filter_cons_of_neg (by simpa using hconcerns)]
        refine ih (perform_enabled henabled call) henabled' ?_
        rw [perform_records henabled, next_of_not_concerns hconcerns, hrecords]

/-- After a third failure the ban stands until it is over or a success lifts it. -/
theorem isBanned_of_third {before between : List Call} {failure : Call} {now : ℕ}
    {remoteAddr : Bytes}
    (hclock : List.Pairwise (fun earlier later : Call => earlier.now ≤ later.now)
      (before ++ failure :: between ++ [⟨now, .isBanned remoteAddr⟩]))
    (hfails : failure.Fails (ipOf remoteAddr))
    (hthird : maxFailedAttempts ≤ (failuresOf (ipOf remoteAddr) (before ++ [failure])).length)
    (hsoon : now < failure.now + banDuration)
    (hsuccess : ∀ call ∈ between, ¬ call.Succeeds (ipOf remoteAddr)) :
    ((newRateLimiter.run (before ++ failure :: between)).isBanned now remoteAddr).2 = true := by
  obtain ⟨henabled, -⟩ :=
    watches_newRateLimiter (ipOf remoteAddr) (before ++ failure :: between)
  rw [isBanned_answer henabled]
  rw [List.append_assoc, List.cons_append, List.pairwise_append, List.pairwise_cons,
    List.pairwise_append] at hclock
  obtain ⟨-, ⟨hafter, -, -, huntil⟩, -⟩ := hclock
  have hrun := bannedUntil_run (bannedUntil_of_fails hfails hthird) hsuccess
    (fun call hcall => (huntil call hcall _ (List.mem_singleton_self _)).trans_lt hsoon)
    (fun call hcall => Nat.add_le_add_right (hafter call (List.mem_append_left _ hcall)) _)
  rw [RateLimiter.run, RateLimiter.run, ← List.foldl_append, List.append_assoc] at hrun
  obtain ⟨-, record, hrecord, -, hstop⟩ := hrun
  exact ⟨record, hrecord, hsoon.trans_le hstop⟩

/-- A ban that is not over was set by a third or later failure. -/
theorem third_of_lt_banEnd {failures : List ℕ} {now : ℕ} (hnow : now < banEnd failures) :
    maxFailedAttempts ≤ failures.length ∧
      ∃ last ∈ failures.getLast?, now < last + banDuration := by
  rw [banEnd] at hnow
  split at hnow
  · next hthird =>
      have hnonempty : failures ≠ [] := by
        rintro rfl
        exact absurd hthird (by decide)
      refine ⟨hthird, failures.getLastD 0, ?_, hnow⟩
      rw [List.getLast?_eq_some_getLast hnonempty, List.getLastD_eq_getLast?,
        List.getLast?_eq_some_getLast hnonempty]
      rfl
  · exact absurd hnow (Nat.not_lt_zero now)

/-- In every run with a clock that does not go back, a third failure bans its
address for five minutes unless a success intervenes, only three failures of which
the last is less than five minutes ago ban it, and calls on other addresses make no
difference. -/
theorem bans_of_run (history : List Call) (now : ℕ) (remoteAddr : Bytes)
    (hclock : List.Pairwise (fun earlier later : Call => earlier.now ≤ later.now)
      (history ++ [⟨now, .isBanned remoteAddr⟩])) :
    (∀ before failure between, history = before ++ failure :: between →
        failure.Fails (ipOf remoteAddr) →
        maxFailedAttempts ≤ (failuresOf (ipOf remoteAddr) (before ++ [failure])).length →
        now < failure.now + banDuration →
        (∀ call ∈ between, ¬ call.Succeeds (ipOf remoteAddr)) →
        ((newRateLimiter.run history).isBanned now remoteAddr).2 = true) ∧
      (((newRateLimiter.run history).isBanned now remoteAddr).2 = true →
        maxFailedAttempts ≤ (failuresOf (ipOf remoteAddr) history).length ∧
          ∃ last ∈ (failuresOf (ipOf remoteAddr) history).getLast?, now < last + banDuration) ∧
      ((newRateLimiter.run
          (history.filter fun call => call.Concerns (ipOf remoteAddr))).isBanned now remoteAddr).2 =
        ((newRateLimiter.run history).isBanned now remoteAddr).2 := by
  obtain ⟨henabled, hcounts⟩ := watches_newRateLimiter (ipOf remoteAddr) history
  refine ⟨?_, ?_, ?_⟩
  · rintro before failure between rfl hfails hthird hsoon hsuccess
    exact isBanned_of_third hclock hfails hthird hsoon hsuccess
  · rw [isBanned_answer henabled]
    rintro ⟨record, hrecord, hnow⟩
    rw [hrecord] at hcounts
    generalize failuresOf (ipOf remoteAddr) history = failures at hcounts
    cases hcounts with
    | present _ _ hattempts hbanned => exact third_of_lt_banEnd (hbanned ▸ hnow)
  · have hrecords := run_records_filter (ipOf remoteAddr) rfl rfl
      (Eq.refl (newRateLimiter.records (ipOf remoteAddr))) history
    have henabled' := (watches_newRateLimiter (ipOf remoteAddr)
      (history.filter fun call => call.Concerns (ipOf remoteAddr))).1
    rw [Bool.eq_iff_iff, isBanned_answer henabled, isBanned_answer henabled', hrecords]

/-- Three failures from three ports of one address, the success of another one and
the janitor. -/
def sampleHistory : List Call :=
  [⟨100, .recordFailure [0x61, colon, 0x31]⟩, ⟨110, .recordFailure [0x61, colon, 0x32]⟩,
    ⟨115, .recordSuccess [0x62, colon, 0x31]⟩, ⟨120, .recordFailure [0x61, colon, 0x33]⟩,
    ⟨130, .cleanupStale 0⟩]

/-- The last moment of the ban. -/
theorem bans_of_run_third :
    ((newRateLimiter.run sampleHistory).isBanned (119 + banDuration)
      [0x61, colon, 0x34]).2 = true := by
  have hbans := bans_of_run sampleHistory (119 + banDuration) [0x61, colon, 0x34]
    (by decide +kernel)
  exact hbans.1 [_, _, _] _ [_] rfl (by decide +kernel) (by decide +kernel) (by decide +kernel)
    (List.forall_mem_singleton.mpr id)

end ZeroFeed.RateLimit
