import ZeroFeed.Feed.Reconnect

/-!
# A subscriber that is left alone

`Feed.Subscriber` executes `SubscribeStream` frame by frame, `Feed.Reconnect`
section by section, with other goroutines in between.  When no other goroutine
runs, the sections of one frame add up to the round of `Feed.Subscriber`: the
interleaved model starts from the same code, and what was proved about rounds
holds for its undisturbed runs.  Output and file transfers are left out, since
the sections do not route payloads.
-/

namespace ZeroFeed.Solo

open ZeroFeed.ByteString
open ZeroFeed.Messages
open ZeroFeed.Primitives
open ZeroFeed.Cipher
open ZeroFeed.Ring
open ZeroFeed.Frame
open ZeroFeed.Transfer
open ZeroFeed.Threads
open ZeroFeed.Transition
open ZeroFeed.Reconnect
open ZeroFeed.Subscriber (Stream Exit ReadFrame Inbound unpadded)

variable {suite : Suite} {host : Host}

/-- The engine and the log agree with a stream that reads from `conn`. -/
structure Agrees (conn : ℕ) (shared : Shared suite) (stream : Stream host) : Prop where
  connected : shared.engine.conn = some conn
  cipher : stream.engine.cipher = shared.engine.cipher.bind shared.ciphers
  live : ∀ cipher, shared.engine.cipher = some cipher → shared.ciphers cipher ≠ none
  ringBuffer : stream.engine.ringBuffer = shared.engine.ringBuffer
  lastSeqNum : stream.engine.lastSeqNum = shared.engine.lastSeqNum
  sas : stream.engine.sas = shared.engine.sas
  delivered : stream.delivered = shared.delivered.map Prod.snd

/-- Where a goroutine is after a round. -/
def resting : Option Exit → Goroutine suite
  | none => .loop
  | some _ => .idle

section Round

variable {conn : ℕ} {shared : Shared suite} {stream : Stream host} {env : Envelope}
variable (hagrees : Agrees conn shared stream)
include hagrees

/-- The engine has no cipher, or a cipher object with a key. -/
theorem Agrees.cipher_cases :
    (shared.engine.cipher = none ∧ stream.engine.cipher = none) ∨
      ∃ cipher key, shared.engine.cipher = some cipher ∧ shared.ciphers cipher = some key ∧
        stream.engine.cipher = some key := by
  have hstream := hagrees.cipher
  cases hcipher : shared.engine.cipher with
  | none =>
      rw [hcipher] at hstream
      exact .inl ⟨rfl, hstream⟩
  | some cipher =>
      obtain ⟨key, hkey⟩ := Option.ne_none_iff_exists'.mp (hagrees.live cipher hcipher)
      rw [hcipher, Option.bind_some, hkey] at hstream
      exact .inr ⟨cipher, key, rfl, hkey, hstream⟩

/-- The last section of a rekey. -/
theorem Agrees.updateKey {cipher : ℕ} {key : Key} {salt nextKey : Bytes}
    (hcipher : shared.engine.cipher = some cipher) (hkey : shared.ciphers cipher = some key)
    (hstream : stream.engine.cipher = some key)
    (hratchet : ratchetKey suite key.val salt = .ok nextKey) :
    Agrees conn (shared.updateKey nextKey) (Subscriber.ratchetTo suite stream key salt) := by
  simp only [Subscriber.ratchetTo, hratchet, Shared.updateKey, hcipher, hkey, hstream]
  refine ⟨hagrees.connected, ?_, ?_, hagrees.ringBuffer, hagrees.lastSeqNum, rfl,
    hagrees.delivered⟩
  · simp
  · rintro other ⟨⟩
    simp

/-- The two sections of a delivery. -/
theorem Agrees.deliver (msg : SeqMsg) :
    Agrees conn
      { shared with
        engine := { shared.engine with
          lastSeqNum := msg.seqNum
          ringBuffer := shared.engine.ringBuffer.push msg.seqNum msg.payload }
        delivered := shared.delivered ++ [(conn, msg)] }
      (Subscriber.deliver suite stream msg) where
  connected := hagrees.connected
  cipher := hagrees.cipher
  live := hagrees.live
  ringBuffer := by rw [Subscriber.deliver, hagrees.ringBuffer]
  lastSeqNum := rfl
  sas := hagrees.sas
  delivered := by simp [Subscriber.deliver, hagrees.delivered]

theorem rekey_runs (hlong : ¬ env.payload.length < 8) :
    ∃ after, Runs advance (shared, .rekeyCipher env)
        (after, resting (Subscriber.receiveRekey suite stream env).2) ∧
      Agrees conn after (Subscriber.receiveRekey suite stream env).1 := by
  obtain ⟨hcipher, hstream⟩ | ⟨cipher, key, hcipher, hkey, hstream⟩ := hagrees.cipher_cases
  · have hruns : Runs advance (shared, .rekeyCipher env) (shared, .loop) :=
      runs_of_advance .proceed (by simp only [advance, receiveRekey, hcipher])
    simp only [Subscriber.receiveRekey, if_neg hlong, hstream]
    exact ⟨shared, hruns, hagrees⟩
  have hfetch : Runs advance (shared, .rekeyCipher env) (shared, .rekeyDecrypt cipher env) :=
    runs_of_advance .proceed (by simp only [advance, receiveRekey, hcipher])
  cases hopen : openFrame suite key env with
  | error err =>
      have hruns : Runs advance (shared, .rekeyDecrypt cipher env) (shared, .idle) :=
        runs_of_advance .proceed (by simp only [advance, receiveRekey, hkey, hopen])
      simp only [Subscriber.receiveRekey, if_neg hlong, hstream, hopen]
      exact ⟨shared, hfetch.trans hruns, hagrees⟩
  | ok salt =>
      have hdecrypt : Runs advance (shared, .rekeyDecrypt cipher env)
          (shared, .rekeyGetKey cipher salt) :=
        runs_of_advance .proceed (by simp only [advance, receiveRekey, hkey, hopen])
      simp only [Subscriber.receiveRekey, if_neg hlong, hstream, hopen]
      cases hratchet : ratchetKey suite key.val salt with
      | error err =>
          have hruns : Runs advance (shared, .rekeyGetKey cipher salt) (shared, .loop) :=
            runs_of_advance .proceed (by simp only [advance, receiveRekey, hkey, hratchet])
          simp only [Subscriber.ratchetTo, hratchet]
          exact ⟨shared, (hfetch.trans hdecrypt).trans hruns, hagrees⟩
      | ok nextKey =>
          have hgetKey : Runs advance (shared, .rekeyGetKey cipher salt)
              (shared, .rekeyInstall nextKey) :=
            runs_of_advance .proceed (by simp only [advance, receiveRekey, hkey, hratchet])
          have hinstall : Runs advance (shared, .rekeyInstall nextKey)
              (shared.updateKey nextKey, .loop) :=
            runs_of_advance .proceed (by simp [advance, receiveRekey, hcipher])
          exact ⟨shared.updateKey nextKey,
            ((hfetch.trans hdecrypt).trans hgetKey).trans hinstall,
            hagrees.updateKey hcipher hkey hstream hratchet⟩

theorem data_runs (hlong : ¬ env.payload.length < 8) :
    ∃ after, Runs advance (shared, .dataCipher conn env)
        (after, resting (Subscriber.receiveData suite stream env).2) ∧
      Agrees conn after (Subscriber.receiveData suite stream env).1 := by
  obtain ⟨hcipher, hstream⟩ | ⟨cipher, key, hcipher, hkey, hstream⟩ := hagrees.cipher_cases
  · have hruns : Runs advance (shared, .dataCipher conn env) (shared, .loop) :=
      runs_of_advance .proceed (by simp only [advance, receiveData, hcipher])
    simp only [Subscriber.receiveData, if_neg hlong, hstream]
    exact ⟨shared, hruns, hagrees⟩
  have hfetch : Runs advance (shared, .dataCipher conn env)
      (shared, .dataDecrypt conn cipher env) :=
    runs_of_advance .proceed (by simp only [advance, receiveData, hcipher])
  cases hopen : openFrame suite key env with
  | error err =>
      have hruns : Runs advance (shared, .dataDecrypt conn cipher env) (shared, .idle) :=
        runs_of_advance .proceed (by simp only [advance, receiveData, hkey, hopen])
      simp only [Subscriber.receiveData, if_neg hlong, hstream, hopen]
      exact ⟨shared, hfetch.trans hruns, hagrees⟩
  | ok plaintext =>
      set msg : SeqMsg := ⟨clearSeqNum env, unpadded plaintext⟩ with hmsg
      have hdecrypt : Runs advance (shared, .dataDecrypt conn cipher env)
          (shared, .deduplicate conn msg) :=
        runs_of_advance .proceed (by simp only [advance, receiveData, hkey, hopen, hmsg])
      simp only [Subscriber.receiveData, if_neg hlong, hstream, hopen, hagrees.lastSeqNum]
      by_cases hold : clearSeqNum env ≤ shared.engine.lastSeqNum
      · have hskip : Runs advance (shared, .deduplicate conn msg) (shared, .loop) :=
          runs_of_advance .proceed (by simp only [advance, receiveData, hmsg, if_pos hold])
        rw [if_pos hold]
        exact ⟨shared, (hfetch.trans hdecrypt).trans hskip, hagrees⟩
      · have hmark : Runs advance (shared, .deduplicate conn msg)
            ({ shared with engine := { shared.engine with lastSeqNum := msg.seqNum } },
              .push conn msg) :=
          runs_of_advance .proceed (by simp only [advance, receiveData, hmsg, if_neg hold])
        have hpush := @runs_of_advance _ _ _ (@advance suite)
          { shared with engine := { shared.engine with lastSeqNum := msg.seqNum } } _
          (.push conn msg) _ .proceed rfl
        rw [if_neg hold]
        exact ⟨_, ((hfetch.trans hdecrypt).trans hmark).trans hpush, hagrees.deliver msg⟩

/-- The sections of one frame are the round of `Feed.Subscriber`. -/
theorem receive_runs (env : Envelope) :
    ∃ after, Runs advance (shared, dispatchFrame conn env)
        (after, resting (Subscriber.receive suite stream env).2) ∧
      Agrees conn after (Subscriber.receive suite stream env).1 := by
  rw [dispatchFrame, Subscriber.receive]
  by_cases hclose : env.msgType = msgTypeClose
  · rw [if_pos hclose, if_pos hclose]
    exact ⟨shared, .refl, hagrees⟩
  rw [if_neg hclose, if_neg hclose]
  by_cases hheartbeat : env.msgType = msgTypeHeartbeat
  · rw [if_pos hheartbeat, if_pos hheartbeat]
    exact ⟨shared, .refl, hagrees⟩
  rw [if_neg hheartbeat, if_neg hheartbeat]
  by_cases hrekey : env.msgType = msgTypeRekey
  · rw [if_pos hrekey, if_pos hrekey]
    by_cases hshort : env.payload.length < 8
    · rw [if_pos hshort, Subscriber.receiveRekey, if_pos hshort]
      exact ⟨shared, .refl, hagrees⟩
    · rw [if_neg hshort]
      exact rekey_runs hagrees hshort
  rw [if_neg hrekey, if_neg hrekey]
  by_cases hdata : env.msgType ≠ msgTypeDataStream
  · rw [if_pos hdata, if_pos hdata]
    exact ⟨shared, .refl, hagrees⟩
  rw [if_neg hdata, if_neg hdata]
  by_cases hshort : env.payload.length < 8
  · rw [if_pos hshort, Subscriber.receiveData, if_pos hshort]
    exact ⟨shared, .refl, hagrees⟩
  · rw [if_neg hshort]
    exact data_runs hagrees hshort

end Round

/-- A goroutine that is alone reads frames from its connection as
`SubscribeStream` does in `Feed.Subscriber`. -/
theorem subscribeStream_runs {conn : ℕ} (frames : List ReadFrame) {shared : Shared suite}
    {stream : Stream host} (hagrees : Agrees conn shared stream) :
    ∃ after, Runs advance (shared, .loop)
        (after, resting (Subscriber.subscribeStream suite stream (frames.map .frame)).2) ∧
      Agrees conn after
        (Subscriber.subscribeStream suite stream (frames.map .frame)).1 := by
  induction frames generalizing shared stream with
  | nil => exact ⟨shared, .refl, hagrees⟩
  | cons frame frames ih =>
      have hfetch : Runs advance (shared, .loop) (shared, .reading conn) :=
        runs_of_advance .proceed
          (by simp only [advance, subscribeStream, hagrees.connected])
      have hread : Runs advance (shared, .reading conn) (shared, dispatchFrame conn frame.val) :=
        runs_of_advance (.read (some frame.val))
          (by simp only [advance, subscribeStream])
      obtain ⟨next, hround, hnext⟩ := receive_runs hagrees frame.val
      rw [List.map_cons, Subscriber.subscribeStream]
      split
      · rename_i stream' hstep
        rw [Subscriber.step] at hstep
        rw [hstep] at hround hnext
        obtain ⟨after, hruns, hafter⟩ := ih hnext
        exact ⟨after, ((hfetch.trans hread).trans hround).trans hruns, hafter⟩
      · rename_i stream' exit hstep
        rw [Subscriber.step] at hstep
        rw [hstep] at hround hnext
        exact ⟨next, (hfetch.trans hread).trans hround, hnext.connected, hnext.cipher, hnext.live,
          hnext.ringBuffer, hnext.lastSeqNum, hnext.sas, hnext.delivered⟩

/-- The same as a run of the whole system in which one goroutine moves. -/
theorem subscribeStream_reached {conn thread : ℕ} (frames : List ReadFrame)
    {state : State suite} {stream : Stream host} (hpoint : state.threads thread = .loop)
    (hagrees : Agrees conn state.shared stream) :
    ∃ state', Reaches State.step state state' ∧
      state'.threads = Function.update state.threads thread
        (resting (Subscriber.subscribeStream suite stream (frames.map .frame)).2) ∧
      Agrees conn state'.shared
        (Subscriber.subscribeStream suite stream (frames.map .frame)).1 := by
  obtain ⟨after, hruns, hafter⟩ := subscribeStream_runs frames hagrees
  rw [← hpoint] at hruns
  exact ⟨_, reaches_of_runs hruns, rfl, hafter⟩

end ZeroFeed.Solo
