import Mathlib.Data.List.Basic
import Mathlib.Data.List.TakeWhile

/-!
# Regular expressions with leftmost-first matching

A backtracking matcher tries alternatives in the order in which they are written
and repetitions as long as possible first.  `lengths` lists the lengths of all
matches at the front of a text in that order of preference; the match a
leftmost-first engine reports is the first of them.  A text is read character by
character, and a decoder says how many symbols the first character has.
-/

namespace ZeroFeed.Regex

variable {Symbol : Type*}

inductive Pattern (Symbol : Type*) where
  /-- One character, given as the symbols it consists of. -/
  | char (accepts : List Symbol → Bool)
  | seq (first second : Pattern Symbol)
  | alt (first second : Pattern Symbol)
  | star (body : Pattern Symbol)

/-- How many symbols the first character of a text has. -/
structure Decoder (Symbol : Type*) where
  width : List Symbol → ℕ
  width_pos : ∀ text, text ≠ [] → 0 < width text
  width_le : ∀ text, width text ≤ text.length

/-- Greedy repetition: another round, if it consumes something, is preferred to
stopping. -/
def repeated (body : List Symbol → List ℕ) : ℕ → List Symbol → List ℕ
  | 0, _ => [0]
  | fuel + 1, text =>
      (((body text).filter (0 < ·)).flatMap fun count =>
        (repeated body fuel (text.drop count)).map (count + ·)) ++ [0]

section Matching

variable (decoder : Decoder Symbol)

/-- The character at the front of the text. -/
def Decoder.first (text : List Symbol) : List Symbol := text.take (decoder.width text)

/-- The lengths of the matches at the front, the preferred one first. -/
def lengths : Pattern Symbol → List Symbol → List ℕ
  | .char accepts, text =>
      if text ≠ [] ∧ accepts (decoder.first text) then [decoder.width text] else []
  | .seq first second, text =>
      (lengths first text).flatMap fun count =>
        (lengths second (text.drop count)).map (count + ·)
  | .alt first second, text => lengths first text ++ lengths second text
  | .star body, text => repeated (lengths body) text.length text

/-- The match a leftmost-first engine reports at the front. -/
def matchFront (pattern : Pattern Symbol) (text : List Symbol) : Option ℕ :=
  (lengths decoder pattern text).head?

/-- Delete every match, from left to right and without overlaps: a character at
which no match begins is kept, and an empty match deletes nothing. -/
def deleteAll (pattern : Pattern Symbol) : ℕ → List Symbol → List Symbol
  | 0, _ => []
  | _ + 1, [] => []
  | fuel + 1, symbol :: rest =>
      let text := symbol :: rest
      match matchFront decoder pattern text with
      | some (count + 1) => deleteAll pattern fuel (text.drop (count + 1))
      | _ => decoder.first text ++ deleteAll pattern fuel (text.drop (decoder.width text))

/-- How far a run of accepted characters reaches. -/
def run (accepts : List Symbol → Bool) : ℕ → List Symbol → ℕ
  | 0, _ => 0
  | fuel + 1, text =>
      if text ≠ [] ∧ accepts (decoder.first text) then
        decoder.width text + run accepts fuel (text.drop (decoder.width text))
      else 0

variable {decoder}

theorem matchFront_alt (first second : Pattern Symbol) (text : List Symbol) :
    matchFront decoder (.alt first second) text =
      (matchFront decoder first text <|> matchFront decoder second text) := by
  simp only [matchFront, lengths, List.head?_append]
  cases (lengths decoder first text).head? <;> rfl

/-- A repeated character and what follows it exclude each other: then nothing is
ever given back, and the rest is matched behind the longest run. -/
theorem flatMap_repeated {accepts : List Symbol → Bool} {rest : List Symbol → List ℕ}
    (hexcludes : ∀ text, text ≠ [] → accepts (decoder.first text) = true → rest text = [])
    (fuel : ℕ) (text : List Symbol) (hfuel : text.length ≤ fuel) :
    ((repeated (lengths decoder (.char accepts)) fuel text).flatMap fun count =>
        (rest (text.drop count)).map (count + ·)) =
      (rest (text.drop (run decoder accepts fuel text))).map
        (run decoder accepts fuel text + ·) := by
  induction fuel generalizing text with
  | zero => rw [repeated, run, List.flatMap_singleton]
  | succ fuel ih =>
      rw [repeated, run, lengths]
      split
      · rename_i haccepted
        obtain ⟨htext, haccepts⟩ := haccepted
        have hpos := decoder.width_pos text htext
        have hshorter : (text.drop (decoder.width text)).length ≤ fuel := by
          rw [List.length_drop]
          omega
        have hkept : [decoder.width text].filter (0 < ·) = [decoder.width text] := by
          simp [hpos]
        have hstop := hexcludes text htext haccepts
        rw [hkept, List.flatMap_singleton, List.flatMap_append, List.flatMap_singleton,
          List.drop_zero, hstop, List.map_nil, List.append_nil, List.flatMap_map]
        have hrest := congrArg (List.map (decoder.width text + ·)) (ih _ hshorter)
        simpa [List.map_flatMap, List.drop_drop, Nat.add_assoc, Function.comp_def] using hrest
      · simp

theorem lengths_star_seq {accepts : List Symbol → Bool} {rest : Pattern Symbol}
    (hexcludes : ∀ text, text ≠ [] → accepts (decoder.first text) = true →
      lengths decoder rest text = []) (text : List Symbol) :
    lengths decoder (.seq (.star (.char accepts)) rest) text =
      (lengths decoder rest (text.drop (run decoder accepts text.length text))).map
        (run decoder accepts text.length text + ·) := by
  rw [lengths, lengths]
  exact flatMap_repeated hexcludes text.length text le_rfl

end Matching

end ZeroFeed.Regex
