import ZeroFeed.Core.ByteString

/-!
# Readers that may read short

A Go `io.Reader` answers a request for `size` bytes with at most that many,
possibly none, and possibly together with the error that ends the stream.  A
`Reader` carries what it stands for: the bytes still to be delivered, the error
they end with, and a bound on the number of reads it takes to get there.
`io.ReadFull` then depends on nothing else, however short the reads are.
-/

namespace ZeroFeed.ShortReads

open ZeroFeed.ByteString

/-- `failed` collects every error other than `io.EOF` and
`io.ErrUnexpectedEOF`. -/
inductive ReadError (Failure : Type*) where
  | eof
  | unexpectedEOF
  | failed (failure : Failure)
  deriving DecidableEq

/-- What one `Read` returns, and the reader it leaves behind. -/
structure ReadResult (State Failure : Type*) where
  bytes : Bytes
  err : Option (ReadError Failure)
  next : State

/-- An error may come with the last bytes; then the reader it leaves reports
the same error again.  After an error that came alone nothing is promised. -/
structure Reader (State Failure : Type*) where
  read : State → ℕ → ReadResult State Failure
  contents : State → Bytes
  final : State → ReadError Failure
  potential : State → ℕ
  length_read : ∀ state size, (read state size).bytes.length ≤ size
  contents_more : ∀ state size, (read state size).err = none →
    contents state = (read state size).bytes ++ contents (read state size).next
  final_more : ∀ state size, (read state size).err = none →
    final (read state size).next = final state
  potential_more : ∀ state size, 0 < size → (read state size).err = none →
    potential (read state size).next < potential state
  contents_last : ∀ state size err, (read state size).err = some err →
    contents state = (read state size).bytes
  final_last : ∀ state size err, (read state size).err = some err → err = final state
  contents_ended : ∀ state size err, (read state size).err = some err →
    (read state size).bytes ≠ [] → contents (read state size).next = []
  final_ended : ∀ state size err, (read state size).err = some err →
    (read state size).bytes ≠ [] → final (read state size).next = final state

/-- The error `io.ReadFull` makes of the reader's own one when it has only got
part of what it asked for. -/
def ReadError.afterPartial {Failure : Type*} (err : ReadError Failure) (got : Bytes) :
    ReadError Failure :=
  match err with
  | .eof => if got = [] then .eof else .unexpectedEOF
  | .unexpectedEOF => .unexpectedEOF
  | .failed failure => .failed failure

/-- What one `Read` of a reader without errors beside data can do: report the end
of the contents, or deliver a front of them. -/
inductive ReadCase {State Failure : Type*} (contents : State → Bytes)
    (final : State → ReadError Failure) (potential : State → ℕ) (state : State) (size : ℕ) :
    ReadResult State Failure → Prop where
  | ended (next : State) (hcontents : contents state = []) :
      ReadCase contents final potential state size ⟨[], some (final state), next⟩
  | more (bytes : Bytes) (next : State) (hlength : bytes.length ≤ size)
      (hcontents : contents state = bytes ++ contents next) (hfinal : final next = final state)
      (hpotential : 0 < size → potential next < potential state) :
      ReadCase contents final potential state size ⟨bytes, none, next⟩

section Cases

variable {State Failure : Type*} {contents : State → Bytes} {final : State → ReadError Failure}
variable {potential : State → ℕ} {state : State} {size : ℕ} {result : ReadResult State Failure}
variable (hcase : ReadCase contents final potential state size result)

include hcase

theorem ReadCase.length_le : result.bytes.length ≤ size := by
  cases hcase with
  | ended => exact Nat.zero_le size
  | more bytes next hlength => exact hlength

theorem ReadCase.of_more (herr : result.err = none) :
    contents state = result.bytes ++ contents result.next ∧
      final result.next = final state ∧
      (0 < size → potential result.next < potential state) := by
  cases hcase with
  | ended => cases herr
  | more bytes next _ hcontents hfinal hpotential => exact ⟨hcontents, hfinal, hpotential⟩

theorem ReadCase.of_last {err : ReadError Failure} (herr : result.err = some err) :
    result.bytes = [] ∧ contents state = [] ∧ err = final state := by
  cases hcase with
  | ended next hcontents => exact ⟨rfl, hcontents, (Option.some.inj herr).symm⟩
  | more => cases herr

end Cases

/-- A reader from its cases. -/
def Reader.ofCases {State Failure : Type*} (read : State → ℕ → ReadResult State Failure)
    (contents : State → Bytes) (final : State → ReadError Failure) (potential : State → ℕ)
    (hcase : ∀ state size, ReadCase contents final potential state size (read state size)) :
    Reader State Failure where
  read := read
  contents := contents
  final := final
  potential := potential
  length_read state size := (hcase state size).length_le
  contents_more state size herr := ((hcase state size).of_more herr).1
  final_more state size herr := ((hcase state size).of_more herr).2.1
  potential_more state size hsize herr := ((hcase state size).of_more herr).2.2 hsize
  contents_last state size err herr := by
    obtain ⟨hbytes, hcontents, -⟩ := (hcase state size).of_last herr
    rw [hbytes, hcontents]
  final_last state size err herr := ((hcase state size).of_last herr).2.2
  contents_ended state size err herr hbytes :=
    absurd ((hcase state size).of_last herr).1 hbytes
  final_ended state size err herr hbytes :=
    absurd ((hcase state size).of_last herr).1 hbytes

@[simp]
theorem ReadError.afterPartial_nil {Failure : Type*} (err : ReadError Failure) :
    err.afterPartial [] = err := by
  cases err <;> rfl

namespace Reader

variable {State Failure : Type*} (reader : Reader State Failure)

/-- The loop of `io.ReadFull`.  The reads it may make are counted, since it
would not end on a reader that never makes progress. -/
def readLoop : ℕ → Bytes → State → ℕ → Except (ReadError Failure) Bytes × State
  | _, got, state, 0 => (.ok got, state)
  | 0, _, state, _ + 1 => (.error .unexpectedEOF, state)
  | reads + 1, got, state, missing + 1 =>
      let result := reader.read state (missing + 1)
      match result.err with
      | none =>
          readLoop reads (got ++ result.bytes) result.next
            (missing + 1 - result.bytes.length)
      | some err =>
          if result.bytes.length = missing + 1 then (.ok (got ++ result.bytes), result.next)
          else (.error (err.afterPartial (got ++ result.bytes)), result.next)

def readFull (state : State) (count : ℕ) : Except (ReadError Failure) Bytes × State :=
  reader.readLoop (reader.potential state + 1) [] state count

/-! ## What `readFull` returns -/

theorem readLoop_of_le {reads : ℕ} {state : State} {count : ℕ} (got : Bytes)
    (hreads : reader.potential state < reads)
    (hcount : count ≤ (reader.contents state).length) :
    ∃ next, reader.readLoop reads got state count =
        (.ok (got ++ (reader.contents state).take count), next) ∧
      reader.contents next = (reader.contents state).drop count ∧
      reader.final next = reader.final state := by
  induction reads generalizing state count got with
  | zero => omega
  | succ reads ih =>
      cases count with
      | zero => exact ⟨state, by simp [readLoop], rfl, rfl⟩
      | succ missing =>
          have hlength := reader.length_read state (missing + 1)
          rw [readLoop]
          cases herr : (reader.read state (missing + 1)).err with
          | none =>
              have hcontents := reader.contents_more state (missing + 1) herr
              have hpotential := reader.potential_more state (missing + 1) (by omega) herr
              rw [hcontents, List.length_append] at hcount
              have hleft : missing + 1 - (reader.read state (missing + 1)).bytes.length ≤
                  (reader.contents (reader.read state (missing + 1)).next).length := by
                omega
              obtain ⟨next, hloop, hrest, hfinal⟩ :=
                ih (got ++ (reader.read state (missing + 1)).bytes)
                  (Nat.lt_of_lt_of_le hpotential (Nat.le_of_lt_succ hreads)) hleft
              refine ⟨next, ?_, ?_, ?_⟩
              · dsimp only
                rw [hloop, hcontents, List.take_append, List.take_of_length_le hlength,
                  List.append_assoc]
              · rw [hrest, hcontents, List.drop_append, List.drop_of_length_le hlength,
                  List.nil_append]
              · rw [hfinal, reader.final_more state (missing + 1) herr]
          | some err =>
              have hcontents := reader.contents_last state (missing + 1) err herr
              rw [hcontents] at hcount
              have hfull : (reader.read state (missing + 1)).bytes.length = missing + 1 := by
                omega
              have hsome : (reader.read state (missing + 1)).bytes ≠ [] :=
                List.ne_nil_of_length_pos (by omega)
              refine ⟨(reader.read state (missing + 1)).next, ?_, ?_, ?_⟩
              · dsimp only
                rw [if_pos hfull, hcontents, List.take_of_length_le hlength]
              · rw [reader.contents_ended state (missing + 1) err herr hsome, hcontents,
                  List.drop_of_length_le hlength]
              · exact reader.final_ended state (missing + 1) err herr hsome

theorem readLoop_of_lt {reads : ℕ} {state : State} {count : ℕ} (got : Bytes)
    (hreads : reader.potential state < reads)
    (hcount : (reader.contents state).length < count) :
    (reader.readLoop reads got state count).1 =
      .error ((reader.final state).afterPartial (got ++ reader.contents state)) := by
  induction reads generalizing state count got with
  | zero => omega
  | succ reads ih =>
      cases count with
      | zero => omega
      | succ missing =>
          rw [readLoop]
          cases herr : (reader.read state (missing + 1)).err with
          | none =>
              have hcontents := reader.contents_more state (missing + 1) herr
              have hpotential := reader.potential_more state (missing + 1) (by omega) herr
              rw [hcontents, List.length_append] at hcount
              have hleft : (reader.contents (reader.read state (missing + 1)).next).length <
                  missing + 1 - (reader.read state (missing + 1)).bytes.length := by
                omega
              dsimp only
              rw [ih _ (Nat.lt_of_lt_of_le hpotential (Nat.le_of_lt_succ hreads)) hleft,
                reader.final_more state (missing + 1) herr, hcontents, List.append_assoc]
          | some err =>
              have hcontents := reader.contents_last state (missing + 1) err herr
              rw [hcontents] at hcount
              dsimp only
              rw [if_neg (by omega), hcontents,
                reader.final_last state (missing + 1) err herr]

/-- A request that the contents can fill is filled with exactly their first
bytes. -/
theorem readFull_of_le {state : State} {count : ℕ}
    (hcount : count ≤ (reader.contents state).length) :
    ∃ next, reader.readFull state count =
        (.ok ((reader.contents state).take count), next) ∧
      reader.contents next = (reader.contents state).drop count ∧
      reader.final next = reader.final state :=
  reader.readLoop_of_le [] (Nat.lt_succ_self _) hcount

theorem readFull_of_lt {state : State} {count : ℕ}
    (hcount : (reader.contents state).length < count) :
    ∃ next, reader.readFull state count =
      (.error ((reader.final state).afterPartial (reader.contents state)), next) :=
  ⟨_, Prod.ext (reader.readLoop_of_lt [] (Nat.lt_succ_self _) hcount) rfl⟩

/-! ## Reading with given buffer sizes -/

/-- Successive reads with buffers of the given sizes, up to the first error. -/
def readAll (state : State) : List ℕ → Bytes × Option (ReadError Failure)
  | [] => ([], none)
  | size :: sizes =>
      let result := reader.read state size
      match result.err with
      | some err => (result.bytes, some err)
      | none =>
          let rest := readAll result.next sizes
          (result.bytes ++ rest.1, rest.2)

theorem isPrefix_readAll (state : State) (sizes : List ℕ) :
    (reader.readAll state sizes).1 <+: reader.contents state := by
  induction sizes generalizing state with
  | nil => exact List.nil_prefix
  | cons size sizes ih =>
      rw [readAll]
      cases herr : (reader.read state size).err with
      | some err => rw [reader.contents_last state size err herr]
      | none =>
          rw [reader.contents_more state size herr]
          exact List.prefix_append_right_inj _ |>.mpr (ih _)

/-- Once an error has come, everything has been read. -/
theorem readAll_of_err {state : State} {sizes : List ℕ} {err : ReadError Failure}
    (hend : (reader.readAll state sizes).2 = some err) :
    (reader.readAll state sizes).1 = reader.contents state ∧ err = reader.final state := by
  induction sizes generalizing state with
  | nil => cases hend
  | cons size sizes ih =>
      rw [readAll] at hend ⊢
      cases herr : (reader.read state size).err with
      | some err' =>
          rw [herr] at hend
          obtain rfl := Option.some.inj hend
          exact ⟨(reader.contents_last state size err' herr).symm,
            reader.final_last state size err' herr⟩
      | none =>
          rw [herr] at hend
          obtain ⟨hbytes, hfinal⟩ := ih hend
          rw [reader.contents_more state size herr, ← reader.final_more state size herr]
          exact ⟨congrArg _ hbytes, hfinal⟩

/-- Enough buffers with room for a byte lead to the error. -/
theorem readAll_ends {state : State} {sizes : List ℕ} (hsizes : ∀ size ∈ sizes, 0 < size)
    (hmany : reader.potential state < sizes.length) :
    (reader.readAll state sizes).2 = some (reader.final state) := by
  induction sizes generalizing state with
  | nil => exact absurd hmany (Nat.not_lt_zero _)
  | cons size sizes ih =>
      rw [readAll]
      cases herr : (reader.read state size).err with
      | some err => exact congrArg some (reader.final_last state size err herr)
      | none =>
          have hless := reader.potential_more state size (hsizes size List.mem_cons_self) herr
          have hrest : reader.potential (reader.read state size).next < sizes.length :=
            Nat.lt_of_lt_of_le hless (Nat.le_of_lt_succ hmany)
          rw [← reader.final_more state size herr]
          exact ih (fun other hother => hsizes other (List.mem_cons_of_mem _ hother)) hrest

end Reader

/-! ## Bytes that arrive in segments -/

/-- A connection on which the bytes arrive in pieces that are never empty, and
the error that follows the last one. -/
structure Segments (Failure : Type*) where
  segments : List Bytes
  ending : ReadError Failure
  nonempty : ∀ segment ∈ segments, segment ≠ []

/-- One read from the front segment: all of it, or as much as fits. -/
def takeFront : List Bytes → ℕ → Bytes × List Bytes
  | [], _ => ([], [])
  | segment :: rest, size =>
      if segment.length ≤ size then (segment, rest)
      else (segment.take size, segment.drop size :: rest)

section TakeFront

variable (segments : List Bytes) {size : ℕ}

theorem length_takeFront_le (size : ℕ) : (takeFront segments size).1.length ≤ size := by
  cases segments with
  | nil => exact Nat.zero_le size
  | cons segment rest =>
      rw [takeFront]
      split
      · assumption
      · exact List.length_take_le size segment

theorem takeFront_append (size : ℕ) :
    (takeFront segments size).1 ++ (takeFront segments size).2.flatten =
      segments.flatten := by
  cases segments with
  | nil => rfl
  | cons segment rest =>
      rw [takeFront]
      split
      · rfl
      · rw [List.flatten_cons, List.flatten_cons, ← List.append_assoc, List.take_append_drop]

variable {segments} (hnonempty : ∀ segment ∈ segments, segment ≠ [])

include hnonempty

theorem takeFront_nonempty (size : ℕ) :
    ∀ segment ∈ (takeFront segments size).2, segment ≠ [] := by
  cases segments with
  | nil => exact hnonempty
  | cons segment rest =>
      have hrest : ∀ other ∈ rest, other ≠ [] := fun other hother =>
        hnonempty other (List.mem_cons_of_mem _ hother)
      rw [takeFront]
      split
      · exact hrest
      · have hleft : segment.drop size ≠ [] := by
          apply List.ne_nil_of_length_pos
          rw [List.length_drop]
          omega
        exact List.forall_mem_cons.mpr ⟨hleft, hrest⟩

theorem takeFront_pos (hsize : 0 < size) (hsome : segments ≠ []) :
    0 < (takeFront segments size).1.length := by
  cases segments with
  | nil => exact absurd rfl hsome
  | cons segment rest =>
      rw [takeFront]
      split
      · exact List.length_pos_of_ne_nil (hnonempty segment List.mem_cons_self)
      · rw [List.length_take]
        omega

end TakeFront

namespace Segments

variable {Failure : Type*} (conn : Segments Failure)

def read (size : ℕ) : ReadResult (Segments Failure) Failure :=
  if conn.segments = [] then ⟨[], some conn.ending, conn⟩
  else
    { bytes := (takeFront conn.segments size).1
      err := none
      next := ⟨(takeFront conn.segments size).2, conn.ending,
        takeFront_nonempty conn.nonempty size⟩ }

theorem read_of_nil {size : ℕ} (hnil : conn.segments = []) :
    conn.read size = ⟨[], some conn.ending, conn⟩ :=
  if_pos hnil

theorem read_of_ne_nil {size : ℕ} (hsome : conn.segments ≠ []) :
    conn.read size = ⟨(takeFront conn.segments size).1, none,
      ⟨(takeFront conn.segments size).2, conn.ending,
        takeFront_nonempty conn.nonempty size⟩⟩ :=
  if_neg hsome

theorem readCase (size : ℕ) :
    ReadCase (fun conn : Segments Failure => conn.segments.flatten) ending
      (fun conn => conn.segments.flatten.length) conn size (conn.read size) := by
  by_cases hnil : conn.segments = []
  · rw [read_of_nil conn hnil]
    exact .ended conn (by rw [hnil, List.flatten_nil])
  · rw [read_of_ne_nil conn hnil]
    refine .more _ _ (length_takeFront_le conn.segments size)
      (takeFront_append conn.segments size).symm rfl ?_
    intro hsize
    have hpos := takeFront_pos conn.nonempty hsize hnil
    rw [← takeFront_append conn.segments size, List.length_append]
    exact Nat.lt_add_of_pos_left hpos

/-- The bytes delivered are the segments joined together. -/
def reader (Failure : Type*) : Reader (Segments Failure) Failure :=
  .ofCases read (fun conn => conn.segments.flatten) ending
    (fun conn => conn.segments.flatten.length) readCase

end Segments

end ZeroFeed.ShortReads
