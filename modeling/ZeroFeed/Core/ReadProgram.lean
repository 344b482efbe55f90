import ZeroFeed.Core.ShortReads

/-!
# Programs that read with `io.ReadFull`

A program asks for a number of bytes and goes on with exactly that many, returns
a value or fails; an error of the reader ends it.  It can be run on any reader
and on a plain byte string.  Since `io.ReadFull` sees nothing of a reader but its
contents and how they end, the two agree, and a program has to be understood on
byte strings only.
-/

namespace ZeroFeed.ReadProgram

open ZeroFeed.ByteString
open ZeroFeed.ShortReads

inductive Program (Failure Value : Type*) where
  | done (value : Value)
  | fail (err : ReadError Failure)
  | readFull (count : ℕ) (next : Bytes → Program Failure Value)

namespace Program

variable {State Failure Value : Type*}

/-- `ReadByte` of a buffered reader. -/
def readByte (next : Byte → Program Failure Value) : Program Failure Value :=
  .readFull 1 fun bytes => next (bytes.headD 0)

def run (reader : Reader State Failure) :
    Program Failure Value → State → Except (ReadError Failure) Value × State
  | .done value, state => (.ok value, state)
  | .fail err, state => (.error err, state)
  | .readFull count next, state =>
      match reader.readFull state count with
      | (.error err, last) => (.error err, last)
      | (.ok bytes, last) => (next bytes).run reader last

/-- The program on a byte string that ends with an error, and what it leaves. -/
def parse (final : ReadError Failure) :
    Program Failure Value → Bytes → Except (ReadError Failure) (Value × Bytes)
  | .done value, input => .ok (value, input)
  | .fail err, _ => .error err
  | .readFull count next, input =>
      if count ≤ input.length then (next (input.take count)).parse final (input.drop count)
      else .error (final.afterPartial input)

/-! ## Running on a reader -/

section Refinement

variable {reader : Reader State Failure} {program : Program Failure Value} {state : State}

/-- A program that gets through on the contents gets through on the reader. -/
theorem run_of_ok {value : Value} {rest : Bytes}
    (hparse : program.parse (reader.final state) (reader.contents state) = .ok (value, rest)) :
    ∃ next, program.run reader state = (.ok value, next) ∧ reader.contents next = rest ∧
      reader.final next = reader.final state := by
  induction program generalizing state with
  | done value' =>
      rw [parse, Except.ok.injEq, Prod.mk.injEq] at hparse
      obtain ⟨rfl, rfl⟩ := hparse
      exact ⟨state, rfl, rfl, rfl⟩
  | fail err => cases hparse
  | readFull count next ih =>
      rw [parse] at hparse
      split at hparse
      · rename_i hcount
        obtain ⟨middle, hread, hcontents, hfinal⟩ := reader.readFull_of_le hcount
        rw [← hcontents, ← hfinal] at hparse
        obtain ⟨last, hrun, hrest, hend⟩ := ih _ hparse
        refine ⟨last, ?_, hrest, hend.trans hfinal⟩
        rw [run, hread]
        exact hrun
      · cases hparse

theorem run_of_error {err : ReadError Failure}
    (hparse : program.parse (reader.final state) (reader.contents state) = .error err) :
    ∃ next, program.run reader state = (.error err, next) := by
  induction program generalizing state with
  | done value => cases hparse
  | fail err' =>
      rw [parse, Except.error.injEq] at hparse
      exact ⟨state, by rw [run, hparse]⟩
  | readFull count next ih =>
      rw [parse] at hparse
      split at hparse
      · rename_i hcount
        obtain ⟨middle, hread, hcontents, hfinal⟩ := reader.readFull_of_le hcount
        rw [← hcontents, ← hfinal] at hparse
        rw [run, hread]
        exact ih _ hparse
      · rename_i hcount
        obtain ⟨last, hread⟩ := reader.readFull_of_lt (not_le.mp hcount)
        rw [Except.error.injEq] at hparse
        exact ⟨last, by rw [run, hread, hparse]⟩

end Refinement

/-! ## Running on a byte string -/

section Parse

variable {final : ReadError Failure} {program : Program Failure Value}

/-- A request takes the field it asks for. -/
theorem parse_readFull_append {count : ℕ} {bytes : Bytes} (hlength : bytes.length = count)
    (next : Bytes → Program Failure Value) (rest : Bytes) :
    (readFull count next).parse final (bytes ++ rest) = (next bytes).parse final rest := by
  have hcount : count ≤ (bytes ++ rest).length := by
    rw [List.length_append]
    omega
  rw [parse, if_pos hcount, List.take_left' hlength, List.drop_left' hlength]

/-- A program that gets through has got what it asked for first. -/
theorem parse_of_readFull {count : ℕ} {next : Bytes → Program Failure Value} {input : Bytes}
    {result : Value × Bytes} (hparse : (readFull count next).parse final input = .ok result) :
    (next (input.take count)).parse final (input.drop count) = .ok result := by
  rw [parse] at hparse
  split at hparse
  · exact hparse
  · cases hparse

theorem parse_readByte_cons (byte : Byte) (next : Byte → Program Failure Value) (rest : Bytes) :
    (readByte next).parse final (byte :: rest) = (next byte).parse final rest :=
  @parse_readFull_append _ _ final 1 [byte] rfl _ rest

theorem parse_readByte_nil (next : Byte → Program Failure Value) :
    (readByte next).parse final [] = .error final := by
  rw [readByte, parse, if_neg (by simp), ReadError.afterPartial_nil]

/-- What is left is an end of the input. -/
theorem suffix_of_parse {input rest : Bytes} {value : Value}
    (hparse : program.parse final input = .ok (value, rest)) : rest <:+ input := by
  induction program generalizing input with
  | done value' =>
      rw [parse, Except.ok.injEq, Prod.mk.injEq] at hparse
      rw [hparse.2]
  | fail err => cases hparse
  | readFull count next ih =>
      rw [parse] at hparse
      split at hparse
      · exact (ih _ hparse).trans (List.drop_suffix count input)
      · cases hparse

/-- A program that begins with a byte leaves less than it was given. -/
theorem length_lt_of_parse_readByte {next : Byte → Program Failure Value} {input rest : Bytes}
    {value : Value} (hparse : (readByte next).parse final input = .ok (value, rest)) :
    rest.length < input.length := by
  cases input with
  | nil =>
      rw [parse_readByte_nil] at hparse
      cases hparse
  | cons byte tail =>
      rw [parse_readByte_cons] at hparse
      exact Nat.lt_succ_of_le (suffix_of_parse hparse).length_le

end Parse

end Program

end ZeroFeed.ReadProgram
