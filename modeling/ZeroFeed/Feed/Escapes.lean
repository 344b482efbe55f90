import ZeroFeed.Core.Regex
import ZeroFeed.Feed.Sanitize

/-!
# What sanitisation leaves (`getAnsiRe` in `pkg/feed/subscriber.go`)

The regular expression of the source, alternative by alternative, and that
`sanitizeTextOutput` deletes its leftmost-first matches.  Nothing that begins
with an escape survives, but of a control sequence only the forms the first
alternative knows disappear as a whole.
-/

namespace ZeroFeed.Escapes

open ZeroFeed.ByteString
open ZeroFeed.Regex
open ZeroFeed.Sanitize

/-! ## Characters -/

theorem high_of_inRange {low high byte : Byte} (hlow : 0x80 ≤ low)
    (hrange : inRange low high byte = true) : 0x80 ≤ byte := by
  rw [inRange, Bool.and_eq_true, decide_eq_true_iff] at hrange
  exact UInt8.le_trans hlow hrange.1

theorem high_of_isSecond {first second : Byte} (hsecond : isSecond first second = true) :
    0x80 ≤ second := by
  rw [isSecond] at hsecond
  split_ifs at hsecond
  · exact high_of_inRange (by decide) hsecond
  · exact high_of_inRange (by decide) hsecond
  · exact high_of_inRange (by decide) hsecond
  · exact high_of_inRange (by decide) hsecond
  · exact high_of_inRange (by decide) hsecond

/-- A character of several bytes has no ASCII byte. -/
theorem runeWidth_cases {text : Bytes} (htext : text ≠ []) :
    runeWidth text = 1 ∨ 1 < runeWidth text ∧ runeWidth text ≤ text.length ∧
      ∀ byte ∈ text.take (runeWidth text), 0x80 ≤ byte := by
  have hcontinuation : ∀ byte, isContinuation byte = true → 0x80 ≤ byte :=
    fun byte => high_of_inRange (by decide)
  have htwo : ∀ byte, inRange 0xC2 0xDF byte = true → 0x80 ≤ byte :=
    fun byte => high_of_inRange (by decide)
  have hthree : ∀ byte, inRange 0xE0 0xEF byte = true → 0x80 ≤ byte :=
    fun byte => high_of_inRange (by decide)
  have hfour : ∀ byte, inRange 0xF0 0xF4 byte = true → 0x80 ≤ byte :=
    fun byte => high_of_inRange (by decide)
  cases text with
  | nil => exact absurd rfl htext
  | cons first rest =>
      have hsecond : ∀ second, isSecond first second = true → 0x80 ≤ second :=
        fun second => high_of_isSecond
      unfold runeWidth
      dsimp only
      -- by the number of bytes available, and then by the width found
      split
      · split_ifs
        all_goals simp_all
      · split_ifs
        all_goals simp_all
      · split_ifs
        all_goals simp_all
      · exact .inl rfl

theorem runeWidth_of_ascii {byte : Byte} (hascii : byte < 0x80) (rest : Bytes) :
    runeWidth (byte :: rest) = 1 := by
  rcases runeWidth_cases (List.cons_ne_nil byte rest) with hone | ⟨hmany, -, hhigh⟩
  · exact hone
  · have hmem : byte ∈ (byte :: rest).take (runeWidth (byte :: rest)) := by
      obtain ⟨count, hcount⟩ := Nat.exists_eq_add_of_lt hmany
      rw [hcount, Nat.add_comm 1, List.take_succ_cons]
      exact List.mem_cons_self
    exact absurd (hhigh byte hmem) (UInt8.not_le.mpr hascii)

/-- UTF-8, with every invalid byte standing for itself. -/
def utf8 : Decoder Byte where
  width := runeWidth
  width_pos text htext := by
    rcases runeWidth_cases htext with hone | ⟨hmany, -⟩
    · rw [hone]
      exact Nat.one_pos
    · exact Nat.zero_lt_of_lt hmany
  width_le text := by
    by_cases htext : text = []
    · rw [htext]
      exact le_rfl
    rcases runeWidth_cases htext with hone | ⟨-, hle, -⟩
    · rw [hone]
      exact List.length_pos_iff.mpr htext
    · exact hle

theorem first_cases (byte : Byte) (rest : Bytes) :
    utf8.first (byte :: rest) = [byte] ∨
      1 < (utf8.first (byte :: rest)).length ∧
        ∀ other ∈ utf8.first (byte :: rest), 0x80 ≤ other := by
  rw [Decoder.first]
  rcases runeWidth_cases (List.cons_ne_nil byte rest) with hone | ⟨hmany, hle, hhigh⟩
  · refine .inl ?_
    change (byte :: rest).take (runeWidth (byte :: rest)) = [byte]
    rw [hone]
    rfl
  · refine .inr ⟨?_, hhigh⟩
    rw [List.length_take]
    exact lt_min hmany (lt_of_lt_of_le hmany hle)

theorem mem_first (byte : Byte) (rest : Bytes) : byte ∈ utf8.first (byte :: rest) := by
  have hpos : 0 < runeWidth (byte :: rest) := utf8.width_pos _ (List.cons_ne_nil byte rest)
  obtain ⟨count, hcount⟩ := Nat.exists_eq_add_of_lt hpos
  change byte ∈ (byte :: rest).take (runeWidth (byte :: rest))
  rw [hcount, Nat.zero_add, List.take_succ_cons]
  exact List.mem_cons_self

/-! ## The regular expression -/

/-- One of the characters of a class of ASCII characters. -/
def oneOf (accepts : Byte → Bool) (character : Bytes) : Bool :=
  character.length = 1 && character.all accepts

/-- Any character but some ASCII characters. -/
def noneOf (excluded : List Byte) (character : Bytes) : Bool :=
  character.all fun byte => byte ∉ excluded

def literal (byte : Byte) : Pattern Byte := .char (oneOf (· = byte))

/-- `\x1b\[[0-9;]*[A-Za-z]`. -/
def csi : Pattern Byte :=
  .seq (literal esc) (.seq (literal 0x5B)
    (.seq (.star (.char (oneOf isParameter))) (.char (oneOf isLetter))))

/-- `(?:\x07|\x1b\\)`. -/
def terminator : Pattern Byte := .alt (literal bel) (.seq (literal esc) (literal 0x5C))

/-- `\x1b\][^\x07\x1b]*(?:\x07|\x1b\\)`. -/
def osc : Pattern Byte :=
  .seq (literal esc) (.seq (literal 0x5D)
    (.seq (.star (.char (noneOf [bel, esc]))) terminator))

/-- `\x1b[^\x1b]`. -/
def escapeChar : Pattern Byte := .seq (literal esc) (.char (noneOf [esc]))

/-- `[\x00-\x08\x0B\x0C\x0E-\x1F\x7F]`. -/
def controls : Pattern Byte := .char (oneOf isControl)

def ansiStripRe : Pattern Byte := .alt csi (.alt osc (.alt escapeChar controls))

/-! ## The regular expression and its compiled form -/

section Classes

variable {accepts : Byte → Bool} (hascii : ∀ byte, accepts byte = true → byte < 0x80)
include hascii

theorem oneOf_first (byte : Byte) (rest : Bytes) :
    oneOf accepts (utf8.first (byte :: rest)) = accepts byte := by
  rcases first_cases byte rest with hone | ⟨hmany, hhigh⟩
  · simp [hone, oneOf]
  · have hbyte := hhigh byte (mem_first byte rest)
    have hrefused : accepts byte = false := by
      rw [← Bool.not_eq_true]
      intro haccepts
      exact absurd (hascii byte haccepts) (UInt8.not_lt.mpr hbyte)
    have hlength : (utf8.first (byte :: rest)).length ≠ 1 := hmany.ne'
    simp [oneOf, hlength, hrefused]

theorem first_of_accepts {byte : Byte} (haccepts : accepts byte = true) (rest : Bytes) :
    utf8.first (byte :: rest) = [byte] := by
  rcases first_cases byte rest with hone | ⟨-, hhigh⟩
  · exact hone
  · exact absurd (hascii byte haccepts) (UInt8.not_lt.mpr (hhigh byte (mem_first byte rest)))

theorem lengths_oneOf (byte : Byte) (rest : Bytes) :
    lengths utf8 (.char (oneOf accepts)) (byte :: rest) = if accepts byte then [1] else [] := by
  rw [lengths, oneOf_first hascii]
  by_cases haccepts : accepts byte = true
  · have hwidth : utf8.width (byte :: rest) = 1 := runeWidth_of_ascii (hascii byte haccepts) rest
    simp [haccepts, hwidth]
  · simp [haccepts]

end Classes

theorem lengths_char_nil (character : Bytes → Bool) :
    lengths utf8 (.char character) [] = [] := by
  simp [lengths]

theorem noneOf_first {excluded : List Byte} (hascii : ∀ byte ∈ excluded, byte < 0x80)
    (byte : Byte) (rest : Bytes) :
    noneOf excluded (utf8.first (byte :: rest)) = true ↔ byte ∉ excluded := by
  rw [noneOf, List.all_eq_true]
  constructor
  · intro hall
    simpa using hall byte (mem_first byte rest)
  · intro hbyte other hother
    rcases first_cases byte rest with hone | ⟨-, hhigh⟩
    · rw [hone, List.mem_singleton] at hother
      simpa [hother] using hbyte
    · have hnot : other ∉ excluded := fun hmem =>
        absurd (hascii other hmem) (UInt8.not_lt.mpr (hhigh other hother))
      simpa using hnot

/-- A run of characters of a class reaches as far as a run of bytes. -/
theorem run_eq_takeWhile {character : Bytes → Bool} {accepts : Byte → Bool}
    (hfirst : ∀ byte rest, character (utf8.first (byte :: rest)) = accepts byte)
    (hall : ∀ byte rest, accepts byte = true →
      ∀ other ∈ utf8.first (byte :: rest), accepts other = true)
    (fuel : ℕ) (text : Bytes) (hfuel : text.length ≤ fuel) :
    run utf8 character fuel text = (text.takeWhile accepts).length := by
  induction fuel generalizing text with
  | zero =>
      rw [List.length_eq_zero_iff.mp (Nat.le_zero.mp hfuel)]
      rfl
  | succ fuel ih =>
      cases text with
      | nil => simp [run]
      | cons byte rest =>
          by_cases haccepts : accepts byte = true
          · have hpos := utf8.width_pos _ (List.cons_ne_nil byte rest)
            have hlength : (utf8.first (byte :: rest)).length = utf8.width (byte :: rest) :=
              List.length_take_of_le (utf8.width_le _)
            have hshorter : ((byte :: rest).drop (utf8.width (byte :: rest))).length ≤ fuel := by
              rw [List.length_drop]
              omega
            have hsplit : byte :: rest = utf8.first (byte :: rest) ++
                (byte :: rest).drop (utf8.width (byte :: rest)) :=
              (List.take_append_drop _ _).symm
            rw [run, if_pos ⟨List.cons_ne_nil _ _, (hfirst byte rest).trans haccepts⟩,
              ih _ hshorter]
            conv_rhs => rw [hsplit, List.takeWhile_append_of_pos (hall byte rest haccepts),
              List.length_append, hlength]
          · rw [run, if_neg (fun hrun => haccepts ((hfirst byte rest).symm.trans hrun.2)),
              List.takeWhile_cons_of_neg haccepts]
            rfl

theorem lengths_literal {byte : Byte} (hascii : byte < 0x80) (other : Byte) (rest : Bytes) :
    lengths utf8 (literal byte) (other :: rest) = if other = byte then [1] else [] := by
  rw [literal, lengths_oneOf ]
  · simp
  · intro other hother
    rw [of_decide_eq_true hother]
    exact hascii

theorem lengths_literal_seq {byte : Byte} (hascii : byte < 0x80) (pattern : Pattern Byte)
    (other : Byte) (rest : Bytes) :
    lengths utf8 (.seq (literal byte) pattern) (other :: rest) =
      if other = byte then (lengths utf8 pattern rest).map (1 + ·) else [] := by
  rw [lengths, lengths_literal hascii]
  by_cases hother : other = byte
  · simp [hother]
  · simp [hother]

theorem ascii_of_isParameter (byte : Byte) (hbyte : isParameter byte = true) : byte < 0x80 := by
  revert byte
  decide +kernel

theorem ascii_of_isLetter (byte : Byte) (hbyte : isLetter byte = true) : byte < 0x80 := by
  revert byte
  decide +kernel

theorem ascii_of_isControl (byte : Byte) (hbyte : isControl byte = true) : byte < 0x80 := by
  revert byte
  decide +kernel

theorem not_isLetter_of_isParameter (byte : Byte) (hbyte : isParameter byte = true) :
    isLetter byte = false := by
  revert byte
  decide +kernel

theorem drop_length_takeWhile (accepts : Byte → Bool) (text : Bytes) :
    text.drop (text.takeWhile accepts).length = text.dropWhile accepts := by
  have hsplit : text.takeWhile accepts ++ text.dropWhile accepts = text :=
    List.takeWhile_append_dropWhile
  calc
    text.drop (text.takeWhile accepts).length =
        (text.takeWhile accepts ++ text.dropWhile accepts).drop
          (text.takeWhile accepts).length := by rw [hsplit]
    _ = text.dropWhile accepts := List.drop_left

theorem letter_excludes (text : Bytes) (htext : text ≠ [])
    (hparameter : oneOf isParameter (utf8.first text) = true) :
    lengths utf8 (.char (oneOf isLetter)) text = [] := by
  obtain ⟨byte, rest, rfl⟩ := List.exists_cons_of_ne_nil htext
  rw [oneOf_first ascii_of_isParameter] at hparameter
  rw [lengths_oneOf ascii_of_isLetter, not_isLetter_of_isParameter byte hparameter]
  rfl

theorem run_parameters (text : Bytes) :
    run utf8 (oneOf isParameter) text.length text = (text.takeWhile isParameter).length := by
  refine run_eq_takeWhile (oneOf_first ascii_of_isParameter) ?_ _ _ le_rfl
  intro byte rest hparameter other hother
  rw [first_of_accepts ascii_of_isParameter hparameter, List.mem_singleton] at hother
  rwa [hother]

theorem matchFront_csi (rest : Bytes) :
    matchFront utf8 csi (esc :: rest) = (matchCSI rest).map (1 + ·) := by
  rw [matchFront, csi, lengths_literal_seq (by decide), if_pos rfl]
  cases rest with
  | nil => simp [lengths, literal, matchCSI]
  | cons bracket rest =>
      rw [lengths_literal_seq (by decide), matchCSI]
      by_cases hbracket : bracket = 0x5B
      · rw [if_pos hbracket, if_pos hbracket, lengths_star_seq letter_excludes, run_parameters]
        dsimp only
        cases rest.drop (rest.takeWhile isParameter).length with
        | nil => simp [lengths_char_nil]
        | cons final others =>
            rw [lengths_oneOf ascii_of_isLetter]
            by_cases hletter : isLetter final = true
            · simp [hletter]
              omega
            · simp [hletter]
      · simp [hbracket]

theorem lengths_terminator (stop : Byte) (rest : Bytes) :
    lengths utf8 terminator (stop :: rest) =
      if stop = bel then [1] else if stop = esc ∧ rest.head? = some 0x5C then [2] else [] := by
  rw [terminator, lengths, lengths_literal (by decide), lengths_literal_seq (by decide)]
  by_cases hbel : stop = bel
  · have hesc : bel ≠ esc := by decide
    simp [hbel, hesc]
  · cases rest with
    | nil => simp [hbel, lengths, literal]
    | cons last others =>
        rw [lengths_literal (by decide)]
        by_cases hlast : last = 0x5C
        · simp [hbel, hlast]
        · simp [hbel, hlast]

theorem ascii_of_mem_bel_esc (byte : Byte) (hbyte : byte ∈ [bel, esc]) : byte < 0x80 := by
  rcases List.mem_pair.mp hbyte with rfl | rfl
  · decide
  · decide

theorem terminator_excludes (text : Bytes) (htext : text ≠ [])
    (hnone : noneOf [bel, esc] (utf8.first text) = true) :
    lengths utf8 terminator text = [] := by
  obtain ⟨byte, rest, rfl⟩ := List.exists_cons_of_ne_nil htext
  rw [noneOf_first ascii_of_mem_bel_esc, List.mem_pair, not_or] at hnone
  rw [lengths_terminator, if_neg hnone.1, if_neg (fun hstop => hnone.2 hstop.1)]

theorem run_text (text : Bytes) :
    run utf8 (noneOf [bel, esc]) text.length text =
      (text.takeWhile fun byte => byte ≠ bel && byte ≠ esc).length := by
  refine run_eq_takeWhile ?_ ?_ _ _ le_rfl
  · intro byte rest
    rw [Bool.eq_iff_iff, noneOf_first ascii_of_mem_bel_esc]
    simp
  · intro byte rest hbyte other hother
    have hnone : noneOf [bel, esc] (utf8.first (byte :: rest)) = true := by
      rw [noneOf_first ascii_of_mem_bel_esc]
      simpa using hbyte
    rw [noneOf, List.all_eq_true] at hnone
    simpa using hnone other hother

theorem matchFront_osc (rest : Bytes) :
    matchFront utf8 osc (esc :: rest) = (matchOSC rest).map (1 + ·) := by
  rw [matchFront, osc, lengths_literal_seq (by decide), if_pos rfl]
  cases rest with
  | nil => simp [lengths, literal, matchOSC]
  | cons bracket rest =>
      rw [lengths_literal_seq (by decide), matchOSC]
      by_cases hbracket : bracket = 0x5D
      · rw [if_pos hbracket, if_pos hbracket, lengths_star_seq terminator_excludes, run_text]
        dsimp only
        rw [drop_length_takeWhile fun byte => byte ≠ bel && byte ≠ esc]
        have hstop := List.head?_dropWhile_not (fun byte => byte ≠ bel && byte ≠ esc) rest
        cases htext : rest.dropWhile fun byte => byte ≠ bel && byte ≠ esc with
        | nil => simp [lengths, terminator, literal]
        | cons stop others =>
            rw [htext] at hstop
            rw [lengths_terminator]
            by_cases hbel : stop = bel
            · simp [hbel]
              omega
            · have hesc : stop = esc := by simpa [hbel] using hstop
              by_cases hlast : others.head? = some 0x5C
              · rw [if_neg hbel, if_pos ⟨hesc, hlast⟩]
                simp [hbel, hlast]
                omega
              · rw [if_neg hbel, if_neg (fun hend => hlast hend.2)]
                simp [hbel, hlast]
      · simp [hbracket]

theorem matchFront_escapeChar (rest : Bytes) :
    matchFront utf8 escapeChar (esc :: rest) = (matchEscape rest).map (1 + ·) := by
  rw [matchFront, escapeChar, lengths_literal_seq (by decide), if_pos rfl]
  cases rest with
  | nil => simp [lengths, matchEscape]
  | cons byte rest =>
      have hascii : ∀ byte ∈ [esc], byte < 0x80 := by
        intro byte hbyte
        rw [List.mem_singleton.mp hbyte]
        decide
      have hchar := noneOf_first hascii byte rest
      rw [List.mem_singleton] at hchar
      rw [lengths, matchEscape]
      by_cases hbyte : byte = esc
      · have hrefused : noneOf [esc] (utf8.first (byte :: rest)) = false := by
          rw [← Bool.not_eq_true, hchar]
          exact not_not.mpr hbyte
        rw [if_neg (fun haccepts => by simp [hrefused] at haccepts), if_pos hbyte]
        rfl
      · rw [if_pos ⟨List.cons_ne_nil _ _, hchar.mpr hbyte⟩, if_neg hbyte]
        rfl

/-- Where and how far the regular expression matches. -/
theorem matchFront_ansiStripRe (first : Byte) (rest : Bytes) :
    matchFront utf8 ansiStripRe (first :: rest) = (matchLength first rest).map (1 + ·) := by
  rw [ansiStripRe, matchFront_alt, matchFront_alt, matchFront_alt, matchLength]
  have hcontrols : matchFront utf8 controls (first :: rest) =
      if isControl first then some 1 else none := by
    rw [matchFront, controls, lengths_oneOf ascii_of_isControl]
    split <;> rfl
  by_cases hesc : first = esc
  · subst hesc
    rw [matchFront_csi, matchFront_osc, matchFront_escapeChar, hcontrols, if_pos (by decide),
      if_pos rfl]
    cases matchCSI rest <;> cases matchOSC rest <;> cases matchEscape rest <;> rfl
  · have hnone : ∀ pattern,
        matchFront utf8 (.seq (literal esc) pattern) (first :: rest) = none := by
      intro pattern
      rw [matchFront, lengths_literal_seq (by decide), if_neg hesc]
      rfl
    rw [csi, osc, escapeChar, hnone, hnone, hnone, hcontrols, if_neg hesc]
    split <;> rfl

theorem isControl_of_mem_first {byte : Byte} (hbyte : isControl byte = false) (rest : Bytes) :
    ∀ other ∈ utf8.first (byte :: rest), isControl other = false := by
  intro other hother
  rcases first_cases byte rest with hone | ⟨-, hhigh⟩
  · rw [hone, List.mem_singleton] at hother
    rwa [hother]
  · rw [← Bool.not_eq_true]
    intro hcontrol
    exact absurd (ascii_of_isControl other hcontrol) (UInt8.not_lt.mpr (hhigh other hother))

/-- The model's scan deletes the leftmost-first matches of the source's regular
expression, without overlaps. -/
theorem deleteAll_ansiStripRe {fuel : ℕ} {data : Bytes} (hfuel : data.length ≤ fuel) :
    deleteAll utf8 ansiStripRe fuel data = sanitizeTextOutput data := by
  induction fuel generalizing data with
  | zero =>
      rw [List.length_eq_zero_iff.mp (Nat.le_zero.mp hfuel)]
      rfl
  | succ fuel ih =>
      cases data with
      | nil => rfl
      | cons first rest =>
          rw [deleteAll, matchFront_ansiStripRe]
          rw [List.length_cons] at hfuel
          cases hmatch : matchLength first rest with
          | some count =>
              rw [sanitizeTextOutput_of_some hmatch, Option.map_some, Nat.add_comm]
              have hdrop : (rest.drop count).length ≤ rest.length :=
                (List.drop_sublist count rest).length_le
              exact ih (show (rest.drop count).length ≤ fuel by omega)
          | none =>
              have hclean := isControl_of_mem_first (matchLength_eq_none_iff.mp hmatch) rest
              have hpos := utf8.width_pos _ (List.cons_ne_nil first rest)
              have hrest : ((first :: rest).drop (utf8.width (first :: rest))).length ≤ fuel := by
                rw [List.length_drop, List.length_cons]
                omega
              have hsplit : first :: rest = utf8.first (first :: rest) ++
                  (first :: rest).drop (utf8.width (first :: rest)) :=
                (List.take_append_drop _ _).symm
              calc
                utf8.first (first :: rest) ++ deleteAll utf8 ansiStripRe fuel
                    ((first :: rest).drop (utf8.width (first :: rest))) =
                    utf8.first (first :: rest) ++ sanitizeTextOutput
                      ((first :: rest).drop (utf8.width (first :: rest))) := by rw [ih hrest]
                _ = sanitizeTextOutput (first :: rest) := by
                  rw [← sanitizeTextOutput_append _ hclean, ← hsplit]

/-! ## What survives -/

/-- The control bytes of ASCII except tab, line feed and carriage return. -/
def Forbidden (byte : Byte) : Prop :=
  byte ≤ 0x08 ∨ byte = 0x0B ∨ byte = 0x0C ∨ (0x0E ≤ byte ∧ byte ≤ 0x1F) ∨ byte = 0x7F

instance (byte : Byte) : Decidable (Forbidden byte) :=
  inferInstanceAs (Decidable (_ ∨ _ ∨ _ ∨ (_ ∧ _) ∨ _))

theorem isControl_eq_false_iff (byte : Byte) : isControl byte = false ↔ ¬ Forbidden byte := by
  revert byte
  decide +kernel

/-- The output is a subsequence of the input without control bytes, sanitising
again changes nothing, and neither does sanitising clean input. -/
theorem sanitizeTextOutput_clean (data : Bytes) :
    List.Sublist (sanitizeTextOutput data) data ∧
      (∀ byte ∈ sanitizeTextOutput data, ¬ Forbidden byte) ∧
      sanitizeTextOutput (sanitizeTextOutput data) = sanitizeTextOutput data ∧
      ((∀ byte ∈ data, ¬ Forbidden byte) → sanitizeTextOutput data = data) := by
  have hclean : ∀ byte ∈ sanitizeTextOutput data, isControl byte = false :=
    fun byte => isControl_of_mem_removeMatches
  refine ⟨sanitizeTextOutput_sublist data, ?_, removeMatches_eq_self le_rfl hclean, ?_⟩
  · intro byte hbyte
    rw [← isControl_eq_false_iff]
    exact hclean byte hbyte
  · intro hallowed
    apply removeMatches_eq_self le_rfl
    intro byte hbyte
    rw [isControl_eq_false_iff]
    exact hallowed byte hbyte

/-! ## Control sequences -/

/-- A control sequence: `ESC [`, parameter bytes, intermediate bytes and a final
byte. -/
structure ControlSequence where
  parameters : Bytes
  intermediates : Bytes
  final : Byte
  inParameters : ∀ byte ∈ parameters, inRange 0x30 0x3F byte = true
  inIntermediates : ∀ byte ∈ intermediates, inRange 0x20 0x2F byte = true
  isFinal : inRange 0x40 0x7E final = true

namespace ControlSequence

variable (sequence : ControlSequence)

/-- What follows `ESC [`. -/
def body : Bytes := sequence.parameters ++ sequence.intermediates ++ [sequence.final]

def bytes : Bytes := esc :: 0x5B :: sequence.body

/-- The forms `\x1b\[[0-9;]*[A-Za-z]` covers. -/
def Covered : Prop :=
  (∀ byte ∈ sequence.parameters, isParameter byte = true) ∧ sequence.intermediates = [] ∧
    isLetter sequence.final = true

end ControlSequence

/-- Printable ASCII text. -/
abbrev PrintableText := {text : Bytes // ∀ byte ∈ text, inRange 0x20 0x7E byte = true}

theorem not_isLetter_of_parameterByte (byte : Byte) (hbyte : inRange 0x30 0x3F byte = true) :
    isLetter byte = false := by
  revert byte
  decide +kernel

theorem intermediateByte (byte : Byte) (hbyte : inRange 0x20 0x2F byte = true) :
    isParameter byte = false ∧ isLetter byte = false := by
  revert byte
  decide +kernel

theorem not_isParameter_of_finalByte (byte : Byte) (hbyte : inRange 0x40 0x7E byte = true) :
    isParameter byte = false := by
  revert byte
  decide +kernel

theorem isControl_of_printable (byte : Byte) (hbyte : inRange 0x20 0x7E byte = true) :
    isControl byte = false := by
  revert byte
  decide +kernel

theorem printable_of_body (byte : Byte) (hbyte : inRange 0x30 0x3F byte = true ∨
      inRange 0x20 0x2F byte = true ∨ inRange 0x40 0x7E byte = true) :
    inRange 0x20 0x7E byte = true := by
  revert byte
  decide +kernel

theorem matchCSI_eq (rest : Bytes) :
    matchCSI (0x5B :: rest) = ((rest.dropWhile isParameter).head?.filter isLetter).map fun _ =>
      (rest.takeWhile isParameter).length + 2 := by
  rw [matchCSI, if_pos rfl]
  dsimp only
  rw [drop_length_takeWhile]
  cases rest.dropWhile isParameter with
  | nil => rfl
  | cons final others =>
      by_cases hletter : isLetter final = true
      · simp [hletter]
      · simp [hletter]

namespace ControlSequence

variable {sequence : ControlSequence}

theorem isControl_body : ∀ byte ∈ sequence.body, isControl byte = false := by
  intro byte hbyte
  apply isControl_of_printable
  apply printable_of_body
  rw [body, List.mem_append, List.mem_append, List.mem_singleton] at hbyte
  rcases hbyte with (hparameter | hintermediate) | rfl
  · exact .inl (sequence.inParameters byte hparameter)
  · exact .inr (.inl (sequence.inIntermediates byte hintermediate))
  · exact .inr (.inr sequence.isFinal)

/-- The first byte that is no digit and no semicolon is a letter only in the
forms covered. -/
theorem covered_of_head {text : Bytes} {byte : Byte}
    (hhead : ((sequence.body ++ text).dropWhile isParameter).head? = some byte)
    (hletter : isLetter byte = true) : sequence.Covered := by
  have hassoc : sequence.body ++ text =
      sequence.parameters ++ (sequence.intermediates ++ sequence.final :: text) := by
    simp [body]
  rw [hassoc, List.dropWhile_append] at hhead
  cases hrest : sequence.parameters.dropWhile isParameter with
  | cons first others =>
      -- a parameter byte that is not covered stands first
      rw [hrest, if_neg (by simp)] at hhead
      obtain rfl : first = byte := by simpa using hhead
      have hmem : first ∈ sequence.parameters := by
        apply (List.dropWhile_sublist isParameter).subset
        rw [hrest]
        exact List.mem_cons_self
      rw [not_isLetter_of_parameterByte first (sequence.inParameters first hmem)] at hletter
      cases hletter
  | nil =>
      have hparameters := List.dropWhile_eq_nil_iff.mp hrest
      rw [hrest, List.isEmpty_nil, if_pos rfl] at hhead
      cases hintermediates : sequence.intermediates with
      | cons first others =>
          have hfirst := intermediateByte first
            (sequence.inIntermediates first (by simp [hintermediates]))
          rw [hintermediates, List.cons_append, List.dropWhile_cons_of_neg (by simp [hfirst.1])]
            at hhead
          obtain rfl : first = byte := by simpa using hhead
          rw [hfirst.2] at hletter
          cases hletter
      | nil =>
          have hfinal := not_isParameter_of_finalByte _ sequence.isFinal
          rw [hintermediates, List.nil_append, List.dropWhile_cons_of_neg (by simp [hfinal])]
            at hhead
          obtain rfl : sequence.final = byte := by simpa using hhead
          exact ⟨hparameters, hintermediates, hletter⟩

theorem matchCSI_of_covered (hcovered : sequence.Covered) (text : Bytes) :
    matchCSI (0x5B :: (sequence.body ++ text)) = some (sequence.body.length + 1) := by
  obtain ⟨hparameters, hintermediates, hletter⟩ := hcovered
  have hfinal := not_isParameter_of_finalByte _ sequence.isFinal
  have hbody : sequence.body ++ text = sequence.parameters ++ sequence.final :: text := by
    simp [body, hintermediates]
  rw [matchCSI_eq, hbody, List.dropWhile_append_of_pos hparameters,
    List.takeWhile_append_of_pos hparameters, List.dropWhile_cons_of_neg (by simp [hfinal]),
    List.takeWhile_cons_of_neg (by simp [hfinal])]
  simp [hletter, body, hintermediates]

theorem matchCSI_of_not_covered (hcovered : ¬ sequence.Covered) (text : Bytes) :
    matchCSI (0x5B :: (sequence.body ++ text)) = none := by
  rw [matchCSI_eq, Option.map_eq_none_iff, Option.filter_eq_none_iff]
  intro byte hhead hletter
  exact hcovered (covered_of_head hhead hletter)

/-- A sequence that is not covered loses `ESC [` and keeps the rest. -/
theorem sanitizeTextOutput_bytes (text : PrintableText) :
    (sequence.Covered → sanitizeTextOutput (sequence.bytes ++ text.val) = text.val) ∧
      (¬ sequence.Covered →
        sanitizeTextOutput (sequence.bytes ++ text.val) = sequence.body ++ text.val) := by
  have htext : sanitizeTextOutput text.val = text.val :=
    removeMatches_eq_self le_rfl fun byte hbyte =>
      isControl_of_printable byte (text.property byte hbyte)
  constructor
  · intro hcovered
    have hmatch : matchLength esc (0x5B :: (sequence.body ++ text.val)) =
        some (sequence.body.length + 1) := by
      rw [matchLength, if_pos rfl, matchCSI_of_covered hcovered]
      rfl
    rw [bytes, List.cons_append, List.cons_append, sanitizeTextOutput_of_some hmatch,
      List.drop_succ_cons, List.drop_left, htext]
  · intro hcovered
    have hbracket : matchEscape (0x5B :: (sequence.body ++ text.val)) = some 1 := by
      rw [matchEscape, if_neg (by decide), runeWidth_of_ascii (by decide)]
    have hosc : matchOSC (0x5B :: (sequence.body ++ text.val)) = none := by
      rw [matchOSC, if_neg (by decide)]
    have hmatch : matchLength esc (0x5B :: (sequence.body ++ text.val)) = some 1 := by
      rw [matchLength, if_pos rfl, matchCSI_of_not_covered hcovered, hosc, hbracket]
      rfl
    rw [bytes, List.cons_append, List.cons_append, sanitizeTextOutput_of_some hmatch,
      List.drop_succ_cons, List.drop_zero, sanitizeTextOutput_append _ isControl_body, htext]

end ControlSequence

/-- A control sequence between two printable texts disappears exactly if its
parameters are digits and semicolons, it has no intermediate bytes and ends in a
letter. -/
theorem stripped_iff_covered (before after : PrintableText) (sequence : ControlSequence) :
    sanitizeTextOutput (before.val ++ sequence.bytes ++ after.val) = before.val ++ after.val ↔
      sequence.Covered := by
  have hbefore : ∀ byte ∈ before.val, isControl byte = false := fun byte hbyte =>
    isControl_of_printable byte (before.property byte hbyte)
  obtain ⟨hcovered, hnot⟩ := sequence.sanitizeTextOutput_bytes after
  rw [List.append_assoc, sanitizeTextOutput_append _ hbefore, List.append_cancel_left_eq]
  constructor
  · intro hstripped
    by_contra hrest
    rw [hnot hrest] at hstripped
    have hlength := congrArg List.length hstripped
    simp only [ControlSequence.body, List.length_append, List.length_singleton] at hlength
    omega
  · exact hcovered

/-- `ESC [ 3 ~`, what the delete key sends. -/
def deleteKey : ControlSequence where
  parameters := [0x33]
  intermediates := []
  final := 0x7E
  inParameters := by decide +kernel
  inIntermediates := by decide +kernel
  isFinal := by decide

/-- `3~` stays in the text. -/
theorem sanitizeTextOutput_deleteKey :
    sanitizeTextOutput ([0x61] ++ deleteKey.bytes ++ [0x62]) = [0x61, 0x33, 0x7E, 0x62] ∧
      sanitizeTextOutput ([0x61] ++ deleteKey.bytes ++ [0x62]) ≠ [0x61] ++ [0x62] := by
  decide +kernel

end ZeroFeed.Escapes
