import ZeroFeed.Core.ShortReads

/-!
# Buffered readers

A Go `bufio.Reader` over a connection.  `Peek` takes bytes from the connection
into the buffer without handing them out; the buffered reader still delivers
them, the connection does not.
-/

namespace ZeroFeed.BufferedReads

open ZeroFeed.ByteString
open ZeroFeed.ShortReads

/-- The size of the buffer `bufio.NewReader` makes. -/
def bufferSize : ℕ := 4096

structure Buffered (Failure : Type*) where
  buf : Bytes
  conn : Segments Failure

namespace Buffered

variable {Failure : Type*}

def newReader (conn : Segments Failure) : Buffered Failure := ⟨[], conn⟩

/-- What the buffered reader will deliver. -/
def contents (state : Buffered Failure) : Bytes := state.buf ++ state.conn.segments.flatten

/-- Fill the buffer until it holds `count` bytes, with a bound on the number of
reads. -/
def fillTo (count : ℕ) : ℕ → Buffered Failure → Option (ReadError Failure) × Buffered Failure
  | 0, state => (if count ≤ state.buf.length then none else some .unexpectedEOF, state)
  | reads + 1, state =>
      if count ≤ state.buf.length then (none, state)
      else
        let result := state.conn.read (bufferSize - state.buf.length)
        match result.err with
        | some err => (some err, ⟨state.buf ++ result.bytes, result.next⟩)
        | none => fillTo count reads ⟨state.buf ++ result.bytes, result.next⟩

/-- `Peek`, for a count that fits into the buffer.  A read of the connection
brings at least a byte, so `count` reads are enough. -/
def peek (count : ℕ) (state : Buffered Failure) :
    Except (ReadError Failure) Bytes × Buffered Failure :=
  match fillTo count count state with
  | (some err, state') => (.error err, state')
  | (none, state') => (.ok (state'.buf.take count), state')

/-- `Discard` of bytes that are in the buffer. -/
def discard (count : ℕ) (state : Buffered Failure) : Buffered Failure :=
  { state with buf := state.buf.drop count }

/-- `Read`: from the buffer, or after one read of the connection, which bypasses
the buffer if the caller's is at least as large. -/
def read (state : Buffered Failure) (size : ℕ) : ReadResult (Buffered Failure) Failure :=
  if size = 0 then ⟨[], none, state⟩
  else if state.buf ≠ [] then
    ⟨state.buf.take size, none, { state with buf := state.buf.drop size }⟩
  else if bufferSize ≤ size then
    let result := state.conn.read size
    ⟨result.bytes, result.err, ⟨[], result.next⟩⟩
  else
    let result := state.conn.read bufferSize
    if result.bytes = [] then ⟨[], result.err, ⟨[], result.next⟩⟩
    else ⟨result.bytes.take size, none, ⟨result.bytes.drop size, result.next⟩⟩

/-- A read of a connection that has bytes left moves some of them. -/
theorem read_conn {conn : Segments Failure} (hsome : conn.segments ≠ []) {size : ℕ}
    (hsize : 0 < size) :
    ∃ bytes next, conn.read size = ⟨bytes, none, next⟩ ∧ bytes ≠ [] ∧ bytes.length ≤ size ∧
      conn.segments.flatten = bytes ++ next.segments.flatten ∧ next.ending = conn.ending :=
  ⟨_, _, conn.read_of_ne_nil hsome,
    List.ne_nil_of_length_pos (takeFront_pos conn.nonempty hsize hsome),
    length_takeFront_le conn.segments size, (takeFront_append conn.segments size).symm, rfl⟩

/-! ## Peeking -/

/-- The state after reads into the buffer: nothing is lost. -/
structure Filled (state state' : Buffered Failure) : Prop where
  contents : state'.contents = state.contents
  ending : state'.conn.ending = state.conn.ending

theorem fillTo_spec {count reads : ℕ} {state : Buffered Failure}
    (hreads : count ≤ state.buf.length + reads) (hcount : count ≤ bufferSize) :
    ∃ err state', fillTo count reads state = (err, state') ∧ Filled state state' ∧
      (err = none ∧ count ≤ state'.buf.length ∨
        err = some state.conn.ending ∧ state'.conn.segments = [] ∧
          state.contents.length < count) := by
  induction reads generalizing state with
  | zero =>
      have henough : count ≤ state.buf.length := hreads
      exact ⟨none, state, by rw [fillTo, if_pos henough], ⟨rfl, rfl⟩, .inl ⟨rfl, henough⟩⟩
  | succ reads ih =>
      rw [fillTo]
      split
      · rename_i henough
        exact ⟨none, state, rfl, ⟨rfl, rfl⟩, .inl ⟨rfl, henough⟩⟩
      · rename_i hshort
        by_cases hnil : state.conn.segments = []
        · rw [state.conn.read_of_nil hnil]
          have hall : state.contents = state.buf := by
            rw [contents, hnil, List.flatten_nil, List.append_nil]
          refine ⟨_, _, rfl, ⟨?_, rfl⟩, .inr ⟨rfl, hnil, ?_⟩⟩
          · rw [contents, contents, List.append_nil]
          · rw [hall]
            exact not_le.mp hshort
        · have hroom : 0 < bufferSize - state.buf.length := by omega
          obtain ⟨bytes, next, hread, hbytes, -, hflatten, hending⟩ := read_conn hnil hroom
          rw [hread]
          have hpos := List.length_pos_of_ne_nil hbytes
          have hmoved : (⟨state.buf ++ bytes, next⟩ : Buffered Failure).contents =
              state.contents := by
            rw [contents, contents, hflatten, List.append_assoc]
          have hfewer : count ≤
              (⟨state.buf ++ bytes, next⟩ : Buffered Failure).buf.length + reads := by
            rw [List.length_append]
            omega
          obtain ⟨err, state', hfill, hfilled, hcase⟩ := ih hfewer
          rw [hmoved, hending] at hcase
          exact ⟨err, state', hfill,
            ⟨hfilled.contents.trans hmoved, hfilled.ending.trans hending⟩, hcase⟩

/-- If there are enough bytes, `Peek` shows the first of them and they are in the
buffer; otherwise it reports the error and has taken everything off the
connection. -/
theorem peek_spec {count : ℕ} (hcount : count ≤ bufferSize) (state : Buffered Failure) :
    ∃ state', Filled state state' ∧
      (peek count state = (.ok (state.contents.take count), state') ∧
          count ≤ state'.buf.length ∨
        peek count state = (.error state.conn.ending, state') ∧ state'.conn.segments = [] ∧
          state.contents.length < count) := by
  obtain ⟨err, state', hfill, hfilled, hcase⟩ :=
    fillTo_spec (Nat.le_add_left count state.buf.length) hcount
  refine ⟨state', hfilled, ?_⟩
  rw [peek, hfill]
  rcases hcase with ⟨rfl, hbuf⟩ | ⟨rfl, hnil, hshort⟩
  · left
    have htake : state'.buf.take count = state.contents.take count := by
      rw [← hfilled.contents, contents, List.take_append_of_le_length hbuf]
    exact ⟨congrArg (Except.ok ·, state') htake, hbuf⟩
  · exact .inr ⟨rfl, hnil, hshort⟩

theorem contents_discard {count : ℕ} {state : Buffered Failure}
    (hcount : count ≤ state.buf.length) :
    (discard count state).contents = state.contents.drop count := by
  rw [contents, contents, discard, List.drop_append_of_le_length hcount]

/-! ## Reading -/

/-- A `Read` fails at the end of the contents only. -/
theorem readCase (state : Buffered Failure) (size : ℕ) :
    ReadCase contents (fun state => state.conn.ending) (fun state => state.contents.length)
      state size (read state size) := by
  -- Progress follows from the bytes delivered.
  have hmore : ∀ bytes (next : Buffered Failure), bytes.length ≤ size →
      state.contents = bytes ++ next.contents → next.conn.ending = state.conn.ending →
      (0 < size → bytes ≠ []) →
        ReadCase contents (fun state => state.conn.ending) (fun state => state.contents.length)
          state size ⟨bytes, none, next⟩ := by
    intro bytes next hlength hcontents hending hbytes
    refine .more bytes next hlength hcontents hending ?_
    intro hsize
    rw [hcontents, List.length_append]
    exact Nat.lt_add_of_pos_left (List.length_pos_of_ne_nil (hbytes hsize))
  rw [read]
  by_cases hzero : size = 0
  · rw [if_pos hzero]
    exact hmore [] state (Nat.zero_le size) rfl rfl (fun hpos => absurd hzero hpos.ne')
  rw [if_neg hzero]
  by_cases hbuf : state.buf = []
  · rw [if_neg (not_not.mpr hbuf)]
    have hcontents : state.contents = state.conn.segments.flatten := by
      rw [contents, hbuf, List.nil_append]
    by_cases hnil : state.conn.segments = []
    · simp only [state.conn.read_of_nil hnil, if_true, ite_self]
      exact .ended _ (by rw [hcontents, hnil, List.flatten_nil])
    · split
      · obtain ⟨bytes, next, hread, hbytes, hlength, hflatten, hending⟩ :=
          read_conn hnil (Nat.pos_of_ne_zero hzero)
        rw [hread]
        exact hmore bytes ⟨[], next⟩ hlength (hcontents.trans hflatten) hending
          (fun _ => hbytes)
      · obtain ⟨bytes, next, hread, hbytes, -, hflatten, hending⟩ :=
          read_conn hnil (show 0 < bufferSize by decide)
        rw [hread]
        dsimp only
        rw [if_neg hbytes]
        refine hmore _ _ (List.length_take_le size bytes) ?_ hending ?_
        · rw [hcontents, hflatten, contents, ← List.append_assoc, List.take_append_drop]
        · intro hpos
          exact mt List.take_eq_nil_iff.mp (not_or.mpr ⟨hpos.ne', hbytes⟩)
  · rw [if_pos hbuf]
    refine hmore _ _ (List.length_take_le size state.buf) ?_ rfl ?_
    · rw [contents, contents, ← List.append_assoc, List.take_append_drop]
    · intro hpos
      exact mt List.take_eq_nil_iff.mp (not_or.mpr ⟨hpos.ne', hbuf⟩)

/-- The buffered reader delivers its buffer and then the connection. -/
def reader (Failure : Type*) : Reader (Buffered Failure) Failure :=
  .ofCases read contents (fun state => state.conn.ending) (fun state => state.contents.length)
    readCase

end Buffered

end ZeroFeed.BufferedReads
