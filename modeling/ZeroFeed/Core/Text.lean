import ZeroFeed.Core.ByteString

/-!
# Text as bytes

The functions of a string library that work on bytes, for text that need not be
valid in any encoding.
-/

namespace ZeroFeed.Text

open ZeroFeed.ByteString

section Lists

variable {α : Type*} {separator : α} {left right front back : List α}

/-- What comes before a separator cannot reach past it. -/
theorem prefix_append_cons_iff (hleft : separator ∉ left) :
    left <+: right ++ separator :: back ↔ left <+: right := by
  refine ⟨fun hwhole => ?_, fun hright => hright.trans (List.prefix_append _ _)⟩
  rcases List.prefix_or_prefix_of_prefix hwhole (List.prefix_append right _) with hright | hright
  · exact hright
  · obtain ⟨tail, rfl⟩ := hright
    rw [List.prefix_append_right_inj] at hwhole
    cases tail with
    | nil => rw [List.append_nil]
    | cons first tail =>
        obtain rfl : first = separator := (List.cons_prefix_cons.mp hwhole).1
        exact absurd (List.mem_append_right _ List.mem_cons_self) hleft

/-- Two texts are split by their first separator alike. -/
theorem append_cons_prefix_iff (hleft : separator ∉ left) (hright : separator ∉ right) :
    left ++ separator :: front <+: right ++ separator :: back ↔ left = right ∧ front <+: back := by
  constructor
  · intro hwhole
    obtain ⟨tail, rfl⟩ := (prefix_append_cons_iff hleft).mp
      ((List.prefix_append left _).trans hwhole)
    rw [List.append_assoc, List.prefix_append_right_inj] at hwhole
    cases tail with
    | nil => exact ⟨(List.append_nil left).symm, (List.cons_prefix_cons.mp hwhole).2⟩
    | cons first tail =>
        obtain rfl : separator = first := (List.cons_prefix_cons.mp hwhole).1
        exact absurd (List.mem_append_right _ List.mem_cons_self) hright
  · rintro ⟨rfl, hback⟩
    exact (List.prefix_append_right_inj left).mpr (List.cons_prefix_cons.mpr ⟨rfl, hback⟩)

theorem suffix_append_cons_iff (hleft : separator ∉ left) :
    left <:+ front ++ separator :: back ↔ left <:+ back := by
  have hsplit : (front ++ separator :: back).reverse =
      back.reverse ++ separator :: front.reverse := by simp
  rw [← List.reverse_prefix, ← List.reverse_prefix, hsplit]
  exact prefix_append_cons_iff (mt List.mem_reverse.mp hleft)

/-- A separator that stands on neither side stands in the middle. -/
theorem eq_append_cons_of_within {middle before after : List α} (hleft : separator ∉ left)
    (hright : separator ∉ right)
    (heq : left ++ (middle ++ right) = before ++ separator :: after) :
    ∃ front rest, middle = front ++ separator :: rest ∧ rest ++ right = after := by
  have hpast : ∃ front, middle ++ right = front ++ separator :: after := by
    rcases List.append_eq_append_iff.mp heq with ⟨front, -, hrest⟩ | ⟨between, rfl, hrest⟩
    · exact ⟨front, hrest⟩
    · cases between with
      | nil => exact ⟨[], hrest.symm⟩
      | cons byte between =>
          obtain rfl : separator = byte := (List.cons.inj hrest).1
          exact absurd (List.mem_append_right _ List.mem_cons_self) hleft
  obtain ⟨front, hfront⟩ := hpast
  rcases List.append_eq_append_iff.mp hfront with ⟨beyond, -, rfl⟩ | ⟨rest, rfl, hrest⟩
  · exact absurd (List.mem_append_right _ List.mem_cons_self) hright
  · cases rest with
    | nil =>
        rw [List.nil_append] at hrest
        exact absurd (hrest ▸ List.mem_cons_self) hright
    | cons byte rest =>
        obtain ⟨rfl, hafter⟩ := List.cons.inj hrest
        exact ⟨front, rest, rfl, hafter.symm⟩

end Lists

/-- The position of the last occurrence of a byte. -/
def lastIndexByte (text : Bytes) (byte : Byte) : Option ℕ :=
  (text.reverse.idxOf? byte).map fun index => text.length - 1 - index

/-! ## White space -/

/-- The characters that Unicode calls white space, in UTF-8. -/
def spaces : List Bytes :=
  [[0x09], [0x0A], [0x0B], [0x0C], [0x0D], [0x20], [0xC2, 0x85], [0xC2, 0xA0], [0xE1, 0x9A, 0x80],
    [0xE2, 0x80, 0x80], [0xE2, 0x80, 0x81], [0xE2, 0x80, 0x82], [0xE2, 0x80, 0x83],
    [0xE2, 0x80, 0x84], [0xE2, 0x80, 0x85], [0xE2, 0x80, 0x86], [0xE2, 0x80, 0x87],
    [0xE2, 0x80, 0x88], [0xE2, 0x80, 0x89], [0xE2, 0x80, 0x8A], [0xE2, 0x80, 0xA8],
    [0xE2, 0x80, 0xA9], [0xE2, 0x80, 0xAF], [0xE2, 0x81, 0x9F], [0xE3, 0x80, 0x80]]

/-- Remove words from the front as long as there is one; every round removes a
byte. -/
def dropWords (words : List Bytes) : ℕ → Bytes → Bytes
  | 0, text => text
  | fuel + 1, text =>
      match words.find? fun word => word.isPrefixOf text with
      | none => text
      | some word => dropWords words fuel (text.drop word.length)

def trimLeft (text : Bytes) : Bytes := dropWords spaces text.length text

/-- No continuation byte starts a character, so the last character is white space
exactly if one of these words ends the text. -/
def trimRight (text : Bytes) : Bytes :=
  (dropWords (spaces.map List.reverse) text.length text.reverse).reverse

def trimSpace (text : Bytes) : Bytes := trimRight (trimLeft text)

section Words

variable {words : List Bytes}

theorem dropWords_suffix (words : List Bytes) (fuel : ℕ) (text : Bytes) :
    dropWords words fuel text <:+ text := by
  induction fuel generalizing text with
  | zero => exact List.suffix_refl text
  | succ fuel ih =>
      rw [dropWords]
      split
      · exact List.suffix_refl text
      · exact (ih _).trans (List.drop_suffix _ _)

/-- More rounds than bytes change nothing. -/
theorem dropWords_of_le (hwords : ∀ word ∈ words, word ≠ []) {fuel : ℕ} {text : Bytes}
    (hfuel : text.length ≤ fuel) :
    dropWords words fuel text = dropWords words text.length text := by
  induction fuel using Nat.strong_induction_on generalizing text with
  | _ fuel ih =>
      cases fuel with
      | zero => rw [Nat.le_zero.mp hfuel]
      | succ fuel =>
          cases text with
          | nil =>
              have hfind : (words.find? fun word => word.isPrefixOf []) = none := by
                rw [List.find?_eq_none]
                intro word hword hstarts
                exact hwords word hword (List.prefix_nil.mp (List.isPrefixOf_iff_prefix.mp hstarts))
              rw [dropWords, hfind]
              rfl
          | cons byte rest =>
              rw [List.length_cons, dropWords, dropWords]
              split
              · rfl
              · next word hfind =>
                  have hword := List.mem_of_find?_eq_some hfind
                  have hpositive := List.length_pos_iff.mpr (hwords word hword)
                  have hshorter : ((byte :: rest).drop word.length).length ≤ rest.length := by
                    rw [List.length_drop, List.length_cons]
                    omega
                  rw [List.length_cons] at hfuel
                  rw [ih fuel (by omega) (by omega), ih rest.length (by omega) hshorter]

/-- Nothing is removed from a byte on that no word contains. -/
theorem dropWords_append_cons (hwords : ∀ word ∈ words, word ≠ []) {byte : Byte}
    (hbyte : ∀ word ∈ words, byte ∉ word) {fuel : ℕ} {text : Bytes} (hfuel : text.length ≤ fuel)
    (rest : Bytes) :
    dropWords words fuel (text ++ byte :: rest) = dropWords words fuel text ++ byte :: rest := by
  induction fuel generalizing text with
  | zero => rfl
  | succ fuel ih =>
      have hfind : (words.find? fun word => word.isPrefixOf (text ++ byte :: rest)) =
          words.find? fun word => word.isPrefixOf text := by
        apply List.find?_congr
        intro word hword
        rw [Bool.eq_iff_iff, List.isPrefixOf_iff_prefix, List.isPrefixOf_iff_prefix]
        exact prefix_append_cons_iff (hbyte word hword)
      rw [dropWords, dropWords, hfind]
      split
      · rfl
      · next word hsome =>
          have hpositive := List.length_pos_iff.mpr
            (hwords word (List.mem_of_find?_eq_some hsome))
          have hfound := List.find?_some hsome
          have hstarts := List.isPrefixOf_iff_prefix.mp hfound
          rw [List.drop_append_of_le_length hstarts.length_le]
          apply ih
          rw [List.length_drop]
          omega

end Words

/-- A byte that is no part of any white space. -/
def Solid (byte : Byte) : Prop := ∀ word ∈ spaces, byte ∉ word

instance (byte : Byte) : Decidable (Solid byte) :=
  inferInstanceAs (Decidable (∀ word ∈ spaces, byte ∉ word))

theorem spaces_ne_nil : ∀ word ∈ spaces, word ≠ [] := by decide

theorem trimLeft_cons {byte : Byte} (hbyte : Solid byte) (rest : Bytes) :
    trimLeft (byte :: rest) = byte :: rest := by
  have hnil : dropWords spaces (byte :: rest).length [] = [] :=
    dropWords_of_le spaces_ne_nil (Nat.zero_le _)
  have hcons := @dropWords_append_cons spaces spaces_ne_nil byte hbyte (byte :: rest).length []
    (Nat.zero_le _) rest
  rwa [hnil] at hcons

theorem trimRight_append_cons {byte : Byte} (hbyte : Solid byte) (front back : Bytes) :
    trimRight (front ++ byte :: back) = front ++ byte :: trimRight back := by
  have hwords : ∀ word ∈ spaces.map List.reverse, word ≠ [] := by decide
  have hreverse : ∀ word ∈ spaces.map List.reverse, byte ∉ word := by
    intro word hword
    obtain ⟨space, hspace, rfl⟩ := List.mem_map.mp hword
    exact mt List.mem_reverse.mp (hbyte space hspace)
  have hsplit : (front ++ byte :: back).reverse = back.reverse ++ byte :: front.reverse := by simp
  have hfuel : back.reverse.length ≤ (front ++ byte :: back).length := by
    rw [List.length_reverse, List.length_append, List.length_cons]
    omega
  rw [trimRight, hsplit, dropWords_append_cons hwords hreverse hfuel, dropWords_of_le hwords hfuel,
    List.length_reverse, trimRight]
  simp

theorem prefix_trimRight (text : Bytes) : trimRight text <+: text := by
  rw [← List.reverse_suffix, trimRight, List.reverse_reverse]
  exact dropWords_suffix _ _ _

theorem length_trimSpace_le (text : Bytes) : (trimSpace text).length ≤ text.length :=
  (prefix_trimRight _).length_le.trans (dropWords_suffix _ _ _).length_le

/-! ## Splitting -/

/-- Before and after the first occurrence of a byte. -/
def cutByte (separator : Byte) (text : Bytes) : Bytes × Bytes :=
  (text.takeWhile fun byte => byte ≠ separator,
    (text.dropWhile fun byte => byte ≠ separator).drop 1)

theorem cutByte_append_cons {separator : Byte} {before : Bytes} (hbefore : separator ∉ before)
    (after : Bytes) : cutByte separator (before ++ separator :: after) = (before, after) := by
  have hpasses : ∀ byte ∈ before, decide (byte ≠ separator) = true := by
    intro byte hbyte
    exact decide_eq_true fun heq => hbefore (heq ▸ hbyte)
  rw [cutByte, List.takeWhile_append_of_pos hpasses, List.dropWhile_append_of_pos hpasses]
  simp

theorem length_cutByte_fst_le (separator : Byte) (text : Bytes) :
    (cutByte separator text).1.length ≤ text.length :=
  (List.takeWhile_sublist _).length_le

theorem length_cutByte_snd_le (separator : Byte) (text : Bytes) :
    (cutByte separator text).2.length ≤ text.length := by
  have hdropped : (text.dropWhile fun byte => byte ≠ separator).length ≤ text.length :=
    (List.dropWhile_suffix _).length_le
  rw [cutByte, List.length_drop]
  omega

theorem cutByte_of_not_mem {separator : Byte} {text : Bytes} (htext : separator ∉ text) :
    cutByte separator text = (text, []) := by
  have hpasses : ∀ byte ∈ text, decide (byte ≠ separator) = true := by
    intro byte hbyte
    exact decide_eq_true fun heq => htext (heq ▸ hbyte)
  rw [cutByte, List.takeWhile_eq_self_iff.mpr hpasses, List.dropWhile_eq_nil_iff.mpr hpasses]
  rfl

/-- Before and after the first occurrence of a word. -/
def cutWord (word : Bytes) : Bytes → Option (Bytes × Bytes)
  | [] => none
  | byte :: rest =>
      if word <+: byte :: rest then some ([], (byte :: rest).drop word.length)
      else (cutWord word rest).map fun halves => (byte :: halves.1, halves.2)

/-- The pieces between the occurrences of a word; every round consumes the word. -/
def splitWord (word : Bytes) : ℕ → Bytes → List Bytes
  | 0, text => [text]
  | fuel + 1, text =>
      match cutWord word text with
      | none => [text]
      | some (before, after) => before :: splitWord word fuel after

theorem eq_append_of_cutWord {word text before after : Bytes}
    (hcut : cutWord word text = some (before, after)) : text = before ++ word ++ after := by
  induction text generalizing before with
  | nil => cases hcut
  | cons byte rest ih =>
      rw [cutWord] at hcut
      split at hcut
      · next hstarts =>
          obtain ⟨rfl, rfl⟩ := Prod.mk.inj (Option.some.inj hcut)
          obtain ⟨tail, htail⟩ := hstarts
          rw [← htail, List.drop_left]
          rfl
      · obtain ⟨halves, hhalves, heq⟩ := Option.map_eq_some_iff.mp hcut
        obtain ⟨rfl, rfl⟩ := Prod.mk.inj heq
        rw [ih hhalves]
        rfl

theorem cutWord_of_not_mem {first : Byte} (others : Bytes) {text : Bytes} (htext : first ∉ text) :
    cutWord (first :: others) text = none := by
  induction text with
  | nil => rfl
  | cons byte rest ih =>
      rw [List.mem_cons, not_or] at htext
      rw [cutWord, if_neg fun hstarts => htext.1 (List.cons_prefix_cons.mp hstarts).1, ih htext.2]
      rfl

theorem cutWord_append {first : Byte} (others : Bytes) {before : Bytes} (hbefore : first ∉ before)
    (after : Bytes) :
    cutWord (first :: others) (before ++ (first :: others ++ after)) = some (before, after) := by
  induction before with
  | nil =>
      rw [List.nil_append, List.cons_append, cutWord,
        if_pos (List.cons_prefix_cons.mpr ⟨rfl, List.prefix_append others after⟩), List.length_cons,
        List.drop_succ_cons, List.drop_left]
  | cons byte before ih =>
      rw [List.mem_cons, not_or] at hbefore
      rw [List.cons_append, cutWord,
        if_neg fun hstarts => hbefore.1 (List.cons_prefix_cons.mp hstarts).1, ih hbefore.2]
      rfl

theorem splitWord_ne_nil (word : Bytes) (fuel : ℕ) (text : Bytes) :
    splitWord word fuel text ≠ [] := by
  cases fuel with
  | zero => exact List.cons_ne_nil _ _
  | succ fuel =>
      rw [splitWord]
      split <;> exact List.cons_ne_nil _ _

/-- Two pieces are what stands before and after the word. -/
theorem eq_append_of_splitWord {word text before after : Bytes} {fuel : ℕ}
    (hsplit : splitWord word fuel text = [before, after]) : text = before ++ word ++ after := by
  cases fuel with
  | zero => cases hsplit
  | succ fuel =>
      rw [splitWord] at hsplit
      split at hsplit
      · cases hsplit
      · next front back hcut =>
          obtain ⟨rfl, hrest⟩ := List.cons.inj hsplit
          have hback : back = after := by
            cases fuel with
            | zero => exact (List.cons.inj hrest).1
            | succ fuel =>
                rw [splitWord] at hrest
                split at hrest
                · exact (List.cons.inj hrest).1
                · exact absurd (List.cons.inj hrest).2 (splitWord_ne_nil _ _ _)
          rw [eq_append_of_cutWord hcut, hback]

/-- A word whose first byte stands on neither side lies in the middle, if it does not hold
the byte that the right side starts with. -/
theorem eq_append_of_word_within {first : Byte} {others head middle tail before after : Bytes}
    (hhead : first ∉ head) (htail : first ∉ tail) (hothers : ∀ byte ∈ tail.head?, byte ∉ others)
    (heq : head ++ (middle ++ tail) = before ++ (first :: others ++ after)) :
    ∃ left right, middle = left ++ (first :: others ++ right) ∧ after = right ++ tail := by
  obtain ⟨left, rest, hmiddle, hrest⟩ := eq_append_cons_of_within hhead htail heq
  rcases List.append_eq_append_iff.mp hrest with ⟨beyond, hbeyond, hstart⟩ | ⟨right, hright, hafter⟩
  · cases beyond with
    | nil =>
        rw [List.append_nil] at hbeyond
        exact ⟨left, [], by rw [hmiddle, hbeyond, List.append_nil], hstart.symm⟩
    | cons byte beyond =>
        have hbyte : byte ∈ others := hbeyond ▸ List.mem_append_right rest List.mem_cons_self
        exact absurd hbyte (hothers byte (by rw [hstart]; rfl))
  · exact ⟨left, right, by rw [hmiddle, hright]; rfl, hafter⟩

theorem splitWord_of_not_mem {first : Byte} (others : Bytes) {text : Bytes} (htext : first ∉ text)
    (fuel : ℕ) : splitWord (first :: others) fuel text = [text] := by
  cases fuel with
  | zero => rfl
  | succ fuel => rw [splitWord, cutWord_of_not_mem others htext]

theorem splitWord_append {first : Byte} (others : Bytes) {before after : Bytes}
    (hbefore : first ∉ before) (hafter : first ∉ after) (fuel : ℕ) :
    splitWord (first :: others) (fuel + 1) (before ++ (first :: others ++ after)) =
      [before, after] := by
  rw [splitWord, cutWord_append others hbefore]
  dsimp only
  rw [splitWord_of_not_mem others hafter]

/-! ## Letter case -/

def isUpper (byte : Byte) : Bool := 0x41 ≤ byte && byte ≤ 0x5A

def isLower (byte : Byte) : Bool := 0x61 ≤ byte && byte ≤ 0x7A

def isDigit (byte : Byte) : Bool := 0x30 ≤ byte && byte ≤ 0x39

def lowerByte (byte : Byte) : Byte := if isUpper byte then byte + 0x20 else byte

/-- A byte that is no lower-case letter comes from itself only. -/
theorem eq_of_lowerByte {byte other : Byte} (hlower : isLower byte = false)
    (hbyte : lowerByte other = byte) : other = byte := by
  have hletters : ∀ other : Byte, isUpper other = true → isLower (other + 0x20) = true := by
    decide +kernel
  rw [lowerByte] at hbyte
  split at hbyte
  · next hupper =>
      rw [← hbyte, hletters other hupper] at hlower
      cases hlower
  · exact hbyte

/-- Case mapping and case folding.  Characters beyond ASCII are mapped by tables; all
that is used of them is that the lower case of such a character is a letter. -/
structure Casing where
  /-- The lower case of a longest run of bytes beyond ASCII. -/
  lowerRun : Bytes → Bytes
  equalFold : Bytes → Bytes → Bool
  lowerRun_nil : lowerRun [] = []
  lowerRun_letters : ∀ run, ∀ byte ∈ lowerRun run, isLower byte = true ∨ 0x80 ≤ byte
  equalFold_refl : ∀ text, equalFold text text = true

namespace Casing

variable (casing : Casing)

def toLowerFrom (run : Bytes) : Bytes → Bytes
  | [] => casing.lowerRun run
  | byte :: rest =>
      if byte < 0x80 then casing.lowerRun run ++ lowerByte byte :: toLowerFrom [] rest
      else toLowerFrom (run ++ [byte]) rest

def toLower (text : Bytes) : Bytes := casing.toLowerFrom [] text

theorem toLowerFrom_append_cons (run left right : Bytes) {byte : Byte} (hbyte : byte < 0x80) :
    casing.toLowerFrom run (left ++ byte :: right) =
      casing.toLowerFrom run left ++ lowerByte byte :: casing.toLower right := by
  induction left generalizing run with
  | nil => exact if_pos hbyte
  | cons first left ih =>
      rw [List.cons_append, toLowerFrom, toLowerFrom, ih, ih]
      split
      · rw [List.append_assoc, List.cons_append]
      · rfl

/-- A byte of ASCII stands for itself wherever it stands. -/
theorem toLower_append_cons (left right : Bytes) {byte : Byte} (hbyte : byte < 0x80) :
    casing.toLower (left ++ byte :: right) =
      casing.toLower left ++ lowerByte byte :: casing.toLower right :=
  casing.toLowerFrom_append_cons [] left right hbyte

theorem toLower_nil : casing.toLower [] = [] := casing.lowerRun_nil

theorem toLower_cons (text : Bytes) {byte : Byte} (hbyte : byte < 0x80) :
    casing.toLower (byte :: text) = lowerByte byte :: casing.toLower text := by
  have hcons := casing.toLower_append_cons [] text hbyte
  rwa [casing.toLower_nil] at hcons

theorem toLower_of_forall {text : Bytes} (htext : ∀ byte ∈ text, byte < 0x80) :
    casing.toLower text = text.map lowerByte := by
  induction text with
  | nil => exact casing.toLower_nil
  | cons byte text ih =>
      rw [List.forall_mem_cons] at htext
      rw [casing.toLower_cons text htext.1, ih htext.2, List.map_cons]

/-- Lower case brings no punctuation that was not there. -/
theorem not_mem_toLowerFrom {byte : Byte} (hascii : byte < 0x80) (hlower : isLower byte = false)
    {run text : Bytes} (htext : byte ∉ text) : byte ∉ casing.toLowerFrom run text := by
  have hrun : ∀ run, byte ∉ casing.lowerRun run := by
    intro run hmem
    rcases casing.lowerRun_letters run byte hmem with hletter | hhigh
    · rw [hlower] at hletter
      cases hletter
    · exact UInt8.not_le.mpr hascii hhigh
  induction text generalizing run with
  | nil => exact hrun run
  | cons first text ih =>
      rw [List.mem_cons, not_or] at htext
      rw [toLowerFrom]
      split
      · rw [List.mem_append, List.mem_cons, not_or, not_or]
        exact ⟨hrun run, fun heq => htext.1 (eq_of_lowerByte hlower heq.symm).symm, ih htext.2⟩
      · exact ih htext.2

theorem not_mem_toLower {byte : Byte} (hascii : byte < 0x80) (hlower : isLower byte = false)
    {text : Bytes} (htext : byte ∉ text) : byte ∉ casing.toLower text :=
  casing.not_mem_toLowerFrom hascii hlower htext

/-- Tables that know no letter beyond ASCII. -/
def ofAscii : Casing where
  lowerRun run := run.filter fun byte => 0x80 ≤ byte
  equalFold left right := left.map lowerByte = right.map lowerByte
  lowerRun_nil := rfl
  lowerRun_letters _ _ hmem := .inr (by simpa using (List.mem_filter.mp hmem).2)
  equalFold_refl _ := decide_eq_true rfl

end Casing

/-! ## Hexadecimal digits -/

/-- The value of a digit in either case. -/
def unhex (byte : Byte) : Option Byte :=
  if isDigit byte then some (byte - 0x30)
  else if 0x61 ≤ byte ∧ byte ≤ 0x66 then some (byte - 0x61 + 10)
  else if 0x41 ≤ byte ∧ byte ≤ 0x46 then some (byte - 0x41 + 10)
  else none

def decodePair (high low : Byte) : Option Byte :=
  match unhex high, unhex low with
  | some high, some low => some (high * 16 + low)
  | _, _ => none

def decodeHex : Bytes → Option Bytes
  | [] => some []
  | [_] => none
  | high :: low :: rest =>
      (decodePair high low).bind fun byte => (decodeHex rest).map fun bytes => byte :: bytes

theorem length_of_decodeHex {text bytes : Bytes} (hdecode : decodeHex text = some bytes) :
    text.length = 2 * bytes.length := by
  induction text using decodeHex.induct generalizing bytes with
  | case1 =>
      obtain rfl := Option.some.inj hdecode
      rfl
  | case2 => cases hdecode
  | case3 high low rest ih =>
      obtain ⟨byte, -, hrest⟩ := Option.bind_eq_some_iff.mp hdecode
      obtain ⟨decoded, hdecoded, rfl⟩ := Option.map_eq_some_iff.mp hrest
      simp only [List.length_cons, ih hdecoded]
      omega

/-- The digits of a number. -/
def decimal (number : ℕ) : Bytes :=
  (Nat.toDigits 10 number).map fun digit => UInt8.ofNat digit.toNat

/-! ## Network addresses -/

def slash : Byte := 0x2F

def colon : Byte := 0x3A

def leftBracket : Byte := 0x5B

def rightBracket : Byte := 0x5D

/-- Host and port of an address `host:port` or `[host]:port`; no bracket may stand
elsewhere, and without brackets no second colon. -/
def splitHostPort (hostport : Bytes) : Option (Bytes × Bytes) :=
  match lastIndexByte hostport colon with
  | none => none
  | some last =>
      let port := hostport.drop (last + 1)
      if hostport.head? = some leftBracket then
        match hostport.idxOf? rightBracket with
        | none => none
        | some close =>
            if close + 1 ≠ last then none
            else if leftBracket ∈ hostport.drop 1 ∨ rightBracket ∈ hostport.drop (close + 1) then
              none
            else some ((hostport.take close).drop 1, port)
      else if colon ∈ hostport.take last then none
      else if leftBracket ∈ hostport ∨ rightBracket ∈ hostport then none
      else some (hostport.take last, port)

end ZeroFeed.Text
