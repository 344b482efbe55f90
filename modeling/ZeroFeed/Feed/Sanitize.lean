import ZeroFeed.Core.ByteString

/-!
# Output sanitisation (`sanitizeTextOutput` in `pkg/feed/subscriber.go`)

Text is written to a terminal after one regular expression has been replaced
by nothing everywhere.  Go matches alternatives in order at the leftmost
position and reads UTF-8, with every invalid byte standing for itself.  The
four alternatives start with an escape or a control byte, so a match never
begins inside a multi-byte character and the scan may proceed byte by byte.
-/

namespace ZeroFeed.Sanitize

open ZeroFeed.ByteString

def esc : Byte := 0x1B

def bel : Byte := 0x07

def inRange (low high byte : Byte) : Bool := low ≤ byte && byte ≤ high

def isContinuation (byte : Byte) : Bool := inRange 0x80 0xBF byte

/-- Accepted second bytes of a multi-byte character, by its first byte. -/
def isSecond (first second : Byte) : Bool :=
  if first = 0xE0 then inRange 0xA0 0xBF second
  else if first = 0xED then inRange 0x80 0x9F second
  else if first = 0xF0 then inRange 0x90 0xBF second
  else if first = 0xF4 then inRange 0x80 0x8F second
  else isContinuation second

/-- `utf8.DecodeRune`: the width of the first character. -/
def runeWidth : Bytes → ℕ
  | [] => 0
  | first :: rest =>
      match rest with
      | second :: third :: fourth :: _ =>
          if inRange 0xF0 0xF4 first && isSecond first second && isContinuation third &&
            isContinuation fourth then 4
          else if inRange 0xE0 0xEF first && isSecond first second &&
            isContinuation third then 3
          else if inRange 0xC2 0xDF first && isSecond first second then 2
          else 1
      | [second, third] =>
          if inRange 0xE0 0xEF first && isSecond first second && isContinuation third then 3
          else if inRange 0xC2 0xDF first && isSecond first second then 2
          else 1
      | [second] => if inRange 0xC2 0xDF first && isSecond first second then 2 else 1
      | [] => 1

/-! ## The alternatives -/

/-- `[0-9;]`. -/
def isParameter (byte : Byte) : Bool := inRange 0x30 0x39 byte || byte = 0x3B

/-- `[A-Za-z]`. -/
def isLetter (byte : Byte) : Bool := inRange 0x41 0x5A byte || inRange 0x61 0x7A byte

/-- `\x1b\[[0-9;]*[A-Za-z]`, after the escape: the length matched. -/
def matchCSI : Bytes → Option ℕ
  | bracket :: rest =>
      if bracket = 0x5B then
        let parameters := rest.takeWhile isParameter
        match rest.drop parameters.length with
        | final :: _ => if isLetter final then some (parameters.length + 2) else none
        | [] => none
      else none
  | [] => none

/-- `\x1b\][^\x07\x1b]*(?:\x07|\x1b\\)`, after the escape. -/
def matchOSC : Bytes → Option ℕ
  | bracket :: rest =>
      if bracket = 0x5D then
        let text := rest.takeWhile fun byte => byte ≠ bel && byte ≠ esc
        match rest.drop text.length with
        | stop :: rest =>
            if stop = bel then some (text.length + 2)
            else if rest.head? = some 0x5C then some (text.length + 3)
            else none
        | [] => none
      else none
  | [] => none

/-- `\x1b[^\x1b]`, after the escape: one whole character. -/
def matchEscape : Bytes → Option ℕ
  | [] => none
  | byte :: rest => if byte = esc then none else some (runeWidth (byte :: rest))

/-- `[\x00-\x08\x0B\x0C\x0E-\x1F\x7F]`. -/
def isControl (byte : Byte) : Bool :=
  inRange 0x00 0x08 byte || byte = 0x0B || byte = 0x0C || inRange 0x0E 0x1F byte ||
    byte = 0x7F

/-- How many bytes after the first one the match at this position covers, if
there is one. -/
def matchLength (first : Byte) (rest : Bytes) : Option ℕ :=
  if first = esc then
    some ((matchCSI rest <|> matchOSC rest <|> matchEscape rest).getD 0)
  else if isControl first then some 0
  else none

/-- `ReplaceAll` with an empty replacement; every round consumes a byte. -/
def removeMatches : ℕ → Bytes → Bytes
  | 0, _ => []
  | _ + 1, [] => []
  | fuel + 1, first :: rest =>
      match matchLength first rest with
      | none => first :: removeMatches fuel rest
      | some count => removeMatches fuel (rest.drop count)

def sanitizeTextOutput (data : Bytes) : Bytes := removeMatches data.length data

/-! ## What passes unchanged -/

/-- The escape is itself a control byte, so a match starts exactly at the
control bytes. -/
theorem matchLength_eq_none_iff {first : Byte} {rest : Bytes} :
    matchLength first rest = none ↔ isControl first = false := by
  rw [matchLength]
  split
  · rename_i hescape
    rw [hescape]
    exact iff_of_false (Option.some_ne_none _) (by decide)
  · split <;> simp_all

theorem isControl_of_mem_removeMatches {fuel : ℕ} {data : Bytes} {byte : Byte}
    (hbyte : byte ∈ removeMatches fuel data) : isControl byte = false := by
  induction fuel generalizing data with
  | zero => exact (List.not_mem_nil hbyte).elim
  | succ fuel ih =>
      cases data with
      | nil => exact (List.not_mem_nil hbyte).elim
      | cons first rest =>
          rw [removeMatches] at hbyte
          split at hbyte
          · rename_i hnone
            obtain rfl | hrest := List.mem_cons.mp hbyte
            · exact matchLength_eq_none_iff.mp hnone
            · exact ih hrest
          · exact ih hbyte

theorem removeMatches_eq_self {fuel : ℕ} {data : Bytes} (hfuel : data.length ≤ fuel)
    (hclean : ∀ byte ∈ data, isControl byte = false) : removeMatches fuel data = data := by
  induction data generalizing fuel with
  | nil => cases fuel <;> rfl
  | cons first rest ih =>
      obtain ⟨fuel, rfl⟩ := Nat.exists_eq_add_of_lt (Nat.zero_lt_of_lt hfuel)
      have hnone : matchLength first rest = none :=
        matchLength_eq_none_iff.mpr (hclean first List.mem_cons_self)
      rw [Nat.zero_add, removeMatches, hnone]
      simp only
      rw [ih (by simpa using hfuel) fun byte hbyte => hclean byte (List.mem_cons_of_mem _ hbyte)]

/-- More rounds than bytes change nothing. -/
theorem removeMatches_of_le {fuel rounds : ℕ} {data : Bytes} (hfuel : data.length ≤ fuel)
    (hrounds : data.length ≤ rounds) : removeMatches fuel data = removeMatches rounds data := by
  induction fuel generalizing rounds data with
  | zero =>
      rw [List.length_eq_zero_iff.mp (Nat.le_zero.mp hfuel)]
      cases rounds <;> rfl
  | succ fuel ih =>
      cases data with
      | nil => cases rounds <;> rfl
      | cons first rest =>
          obtain ⟨rounds, rfl⟩ := Nat.exists_eq_add_of_lt (Nat.zero_lt_of_lt hrounds)
          rw [Nat.zero_add, removeMatches, removeMatches]
          rw [List.length_cons] at hfuel hrounds
          cases matchLength first rest with
          | none =>
              dsimp only
              rw [ih (by omega) (show rest.length ≤ rounds by omega)]
          | some count =>
              have hdrop : (rest.drop count).length ≤ rest.length :=
                (List.drop_sublist count rest).length_le
              exact ih (by omega) (by omega)

theorem sanitizeTextOutput_of_none {first : Byte} {rest : Bytes}
    (hnone : isControl first = false) :
    sanitizeTextOutput (first :: rest) = first :: sanitizeTextOutput rest := by
  rw [sanitizeTextOutput, List.length_cons, removeMatches, matchLength_eq_none_iff.mpr hnone]
  rfl

theorem sanitizeTextOutput_of_some {first : Byte} {rest : Bytes} {count : ℕ}
    (hmatch : matchLength first rest = some count) :
    sanitizeTextOutput (first :: rest) = sanitizeTextOutput (rest.drop count) := by
  rw [sanitizeTextOutput, List.length_cons, removeMatches, hmatch]
  exact removeMatches_of_le (List.drop_sublist count rest).length_le le_rfl

theorem sanitizeTextOutput_append {clean : Bytes} (rest : Bytes)
    (hclean : ∀ byte ∈ clean, isControl byte = false) :
    sanitizeTextOutput (clean ++ rest) = clean ++ sanitizeTextOutput rest := by
  induction clean with
  | nil => rfl
  | cons first clean ih =>
      rw [List.cons_append, sanitizeTextOutput_of_none (hclean first List.mem_cons_self),
        ih fun byte hbyte => hclean byte (List.mem_cons_of_mem _ hbyte), List.cons_append]

theorem sanitizeTextOutput_sublist (data : Bytes) :
    List.Sublist (sanitizeTextOutput data) data := by
  induction hlength : data.length using Nat.strong_induction_on generalizing data with
  | _ length ih =>
      cases data with
      | nil => exact List.Sublist.refl _
      | cons first rest =>
          subst hlength
          cases hmatch : matchLength first rest with
          | none =>
              rw [sanitizeTextOutput_of_none (matchLength_eq_none_iff.mp hmatch)]
              exact (ih rest.length (Nat.lt_succ_self _) rest rfl).cons_cons first
          | some count =>
              rw [sanitizeTextOutput_of_some hmatch]
              have hshorter : (rest.drop count).length < (first :: rest).length :=
                Nat.lt_succ_of_le (List.drop_sublist count rest).length_le
              apply List.Sublist.trans (ih _ hshorter (rest.drop count) rfl)
              exact (List.drop_sublist count rest).cons first

/-- Text comes through the filter chunk by chunk unchanged exactly when it holds
no control byte. -/
theorem flatten_map_sanitizeTextOutput_eq_iff (chunks : List Bytes) :
    (chunks.map sanitizeTextOutput).flatten = chunks.flatten ↔
      ∀ byte ∈ chunks.flatten, isControl byte = false := by
  constructor
  · intro heq byte hbyte
    rw [← heq] at hbyte
    obtain ⟨text, htext, hbyte⟩ := List.mem_flatten.mp hbyte
    obtain ⟨chunk, -, rfl⟩ := List.mem_map.mp htext
    exact isControl_of_mem_removeMatches hbyte
  · intro hclean
    have hchunk : ∀ chunk ∈ chunks, sanitizeTextOutput chunk = chunk := fun chunk hmem =>
      removeMatches_eq_self (le_refl _) fun byte hbyte =>
        hclean byte (List.mem_flatten.mpr ⟨chunk, hmem, hbyte⟩)
    rw [List.map_congr_left hchunk, List.map_id']

end ZeroFeed.Sanitize
