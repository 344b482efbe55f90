import ZeroFeed.Core.Text

/-!
# Query strings

A component is written with every byte escaped that is not a letter, a digit or one
of four marks, and read back byte by byte.  A query is a list of parameters between
ampersands, of which those that cannot be read are dropped.
-/

namespace ZeroFeed.Query

open ZeroFeed.ByteString
open ZeroFeed.Text

def space : Byte := 0x20

def hash : Byte := 0x23

def percent : Byte := 0x25

def ampersand : Byte := 0x26

def plus : Byte := 0x2B

def semicolon : Byte := 0x3B

def equals : Byte := 0x3D

def question : Byte := 0x3F

/-! ## Components -/

/-- Letters, digits and `-`, `.`, `_`, `~`. -/
def isUnreserved (byte : Byte) : Bool :=
  isUpper byte || isLower byte || isDigit byte || byte = 0x2D || byte = 0x2E || byte = 0x5F ||
    byte = 0x7E

def upperHex (value : ℕ) : Byte := UInt8.ofNat (if value < 10 then 0x30 + value else 0x37 + value)

def escapeByte (byte : Byte) : Bytes :=
  if isUnreserved byte then [byte]
  else if byte = space then [plus]
  else [percent, upperHex (byte.toNat / 16), upperHex (byte.toNat % 16)]

def queryEscape (text : Bytes) : Bytes := text.flatMap escapeByte

def plusToSpace (byte : Byte) : Byte := if byte = plus then space else byte

def queryUnescape : Bytes → Option Bytes
  | [] => some []
  | byte :: rest =>
      if byte = percent then
        match rest with
        | high :: low :: rest =>
            (decodePair high low).bind fun byte => (queryUnescape rest).map fun text => byte :: text
        | _ => none
      else (queryUnescape rest).map fun text => plusToSpace byte :: text

theorem queryUnescape_cons {byte : Byte} (hbyte : byte ≠ percent) (rest : Bytes) :
    queryUnescape (byte :: rest) =
      (queryUnescape rest).map fun text => plusToSpace byte :: text := by
  rw [queryUnescape.eq_def]
  exact if_neg hbyte

theorem queryUnescape_percent (high low : Byte) (rest : Bytes) :
    queryUnescape (percent :: high :: low :: rest) =
      (decodePair high low).bind fun byte => (queryUnescape rest).map fun text => byte :: text := by
  rw [queryUnescape.eq_def]
  exact if_pos rfl

theorem queryUnescape_escapeByte (byte : Byte) (rest : Bytes) :
    queryUnescape (escapeByte byte ++ rest) =
      (queryUnescape rest).map fun text => byte :: text := by
  have hunreserved : ∀ byte : Byte, isUnreserved byte = true →
      byte ≠ percent ∧ plusToSpace byte = byte := by decide +kernel
  have hpair : ∀ byte : Byte,
      decodePair (upperHex (byte.toNat / 16)) (upperHex (byte.toNat % 16)) = some byte := by
    decide +kernel
  rw [escapeByte]
  split_ifs with hplain hspace
  · obtain ⟨hpercent, hsame⟩ := hunreserved byte hplain
    rw [List.singleton_append, queryUnescape_cons hpercent, hsame]
  · rw [List.singleton_append, queryUnescape_cons (by decide), hspace]
    rfl
  · change queryUnescape (percent :: _ :: _ :: rest) = _
    rw [queryUnescape_percent, hpair]
    rfl

theorem queryUnescape_queryEscape_append (text rest : Bytes) :
    queryUnescape (queryEscape text ++ rest) =
      (queryUnescape rest).map fun tail => text ++ tail := by
  induction text with
  | nil => exact Option.map_id'.symm
  | cons byte text ih =>
      have hcons : queryEscape (byte :: text) = escapeByte byte ++ queryEscape text := rfl
      rw [hcons, List.append_assoc, queryUnescape_escapeByte, ih, Option.map_map]
      rfl

/-- A component reads back as it was. -/
theorem queryUnescape_queryEscape (text : Bytes) :
    queryUnescape (queryEscape text) = some text := by
  have hround := queryUnescape_queryEscape_append text []
  rw [List.append_nil] at hround
  rw [hround]
  exact congrArg some (List.append_nil text)

/-- The bytes of an escaped component. -/
def isEscaped (byte : Byte) : Bool := isUnreserved byte || byte = plus || byte = percent

theorem isEscaped_of_mem {text : Bytes} {byte : Byte} (hbyte : byte ∈ queryEscape text) :
    isEscaped byte = true := by
  have hescape : ∀ source : Byte, (escapeByte source).all isEscaped = true := by decide +kernel
  obtain ⟨source, -, hsource⟩ := List.mem_flatMap.mp hbyte
  exact List.all_eq_true.mp (hescape source) byte hsource

theorem not_mem_queryEscape {byte : Byte} (hbyte : isEscaped byte = false) (text : Bytes) :
    byte ∉ queryEscape text := by
  intro hmem
  rw [isEscaped_of_mem hmem] at hbyte
  cases hbyte

theorem queryEscape_ne_nil {text : Bytes} (htext : text ≠ []) : queryEscape text ≠ [] := by
  intro hnil
  have hround := queryUnescape_queryEscape text
  rw [hnil] at hround
  exact htext (Option.some.inj hround).symm

/-- An escaped component has no white space to trim. -/
theorem trimRight_append_queryEscape {text : Bytes} (htext : text ≠ []) (front : Bytes) :
    trimRight (front ++ queryEscape text) = front ++ queryEscape text := by
  have hsolid : ∀ byte : Byte, isEscaped byte = true → Solid byte := by decide +kernel
  have hlast := List.dropLast_append_getLast (queryEscape_ne_nil htext)
  have hescaped := isEscaped_of_mem (List.getLast_mem (queryEscape_ne_nil htext))
  rw [← hlast, ← List.append_assoc, trimRight_append_cons (hsolid _ hescaped)]
  rfl

/-- A byte that is no hexadecimal digit separates what is read before and after it. -/
theorem queryUnescape_append_cons {separator : Byte} (hhex : unhex separator = none)
    (left right : Bytes) :
    queryUnescape (left ++ separator :: right) =
      (queryUnescape left).bind fun text =>
        (queryUnescape (separator :: right)).map fun tail => text ++ tail := by
  have hfirst : ∀ low, decodePair separator low = none := by
    intro low
    rw [decodePair, hhex]
  have hsecond : ∀ high, decodePair high separator = none := by
    intro high
    rw [decodePair, hhex]
    cases unhex high <;> rfl
  induction left using queryUnescape.induct with
  | case1 => exact Option.map_id'.symm
  | case2 high low rest ih =>
      change queryUnescape (percent :: high :: low :: (rest ++ separator :: right)) = _
      rw [queryUnescape_percent, queryUnescape_percent, ih]
      cases decodePair high low with
      | none => rfl
      | some byte => cases queryUnescape rest <;> simp [Option.map_map, Function.comp_def]
  | case3 rest hshort =>
      -- an escape that ends here cannot take the separator as a digit
      cases rest with
      | nil =>
          cases right with
          | nil => rfl
          | cons low right =>
              change queryUnescape (percent :: separator :: low :: right) = _
              rw [queryUnescape_percent, hfirst]
              rfl
      | cons high rest =>
          cases rest with
          | nil =>
              change queryUnescape (percent :: high :: separator :: right) = _
              rw [queryUnescape_percent, hsecond]
              rfl
          | cons low rest => exact (hshort high low rest rfl).elim
  | case4 byte rest hbyte ih =>
      rw [List.cons_append, queryUnescape_cons hbyte, queryUnescape_cons hbyte, ih]
      cases queryUnescape rest <;> simp [Option.map_map, Function.comp_def]

/-- Reading never adds a byte, and loses two with every escape. -/
theorem length_queryUnescape {text unescaped : Bytes}
    (hunescape : queryUnescape text = some unescaped) :
    unescaped.length ≤ text.length ∧ (percent ∈ text → unescaped.length < text.length) := by
  induction text using queryUnescape.induct generalizing unescaped with
  | case1 =>
      obtain rfl := Option.some.inj hunescape
      exact ⟨le_rfl, fun hmem => absurd hmem List.not_mem_nil⟩
  | case2 high low rest ih =>
      rw [queryUnescape_percent] at hunescape
      obtain ⟨byte, -, hrest⟩ := Option.bind_eq_some_iff.mp hunescape
      obtain ⟨tail, htail, rfl⟩ := Option.map_eq_some_iff.mp hrest
      have hle := (ih htail).1
      simp only [List.length_cons]
      omega
  | case3 rest hshort =>
      rw [queryUnescape.eq_def] at hunescape
      dsimp only at hunescape
      rw [if_pos rfl] at hunescape
      split at hunescape
      · exact (hshort _ _ _ rfl).elim
      · cases hunescape
  | case4 byte rest hbyte ih =>
      rw [queryUnescape_cons hbyte] at hunescape
      obtain ⟨tail, htail, rfl⟩ := Option.map_eq_some_iff.mp hunescape
      obtain ⟨hle, hlt⟩ := ih htail
      simp only [List.length_cons]
      refine ⟨by omega, fun hmem => ?_⟩
      rw [List.mem_cons] at hmem
      have hshorter := hlt (hmem.resolve_left (Ne.symm hbyte))
      omega

theorem queryUnescape_of_not_mem {text : Bytes} (htext : percent ∉ text) :
    queryUnescape text = some (text.map plusToSpace) := by
  induction text with
  | nil => rfl
  | cons byte text ih =>
      rw [List.mem_cons, not_or] at htext
      rw [queryUnescape_cons (Ne.symm htext.1), ih htext.2]
      rfl

/-- What reading leaves alone. -/
theorem queryUnescape_eq_self_iff {text : Bytes} :
    queryUnescape text = some text ↔ percent ∉ text ∧ plus ∉ text := by
  constructor
  · intro hself
    have hpercent : percent ∉ text := fun hmem => lt_irrefl _ ((length_queryUnescape hself).2 hmem)
    refine ⟨hpercent, fun hplus => ?_⟩
    rw [queryUnescape_of_not_mem hpercent] at hself
    have hspace : plus ∉ text.map plusToSpace := by
      have hnever : ∀ byte : Byte, plusToSpace byte ≠ plus := by decide +kernel
      intro hmem
      obtain ⟨byte, -, hbyte⟩ := List.mem_map.mp hmem
      exact hnever byte hbyte
    rw [Option.some.inj hself] at hspace
    exact hspace hplus
  · rintro ⟨hpercent, hplus⟩
    rw [queryUnescape_of_not_mem hpercent]
    have hfixed : ∀ byte ∈ text, plusToSpace byte = id byte := by
      intro byte hbyte
      exact if_neg fun heq : byte = plus => hplus (heq ▸ hbyte)
    rw [List.map_congr_left hfixed, List.map_id]

theorem queryUnescape_append_of_not_mem {left : Bytes} (hpercent : percent ∉ left)
    (hplus : plus ∉ left) (right : Bytes) :
    queryUnescape (left ++ right) = (queryUnescape right).map fun text => left ++ text := by
  induction left with
  | nil => exact Option.map_id'.symm
  | cons byte left ih =>
      rw [List.mem_cons, not_or] at hpercent hplus
      have hsame : plusToSpace byte = byte := if_neg (Ne.symm hplus.1)
      rw [List.cons_append, queryUnescape_cons (Ne.symm hpercent.1), ih hpercent.2 hplus.2,
        Option.map_map, hsame]
      rfl

/-! ## Parameters -/

def parameter (piece : Bytes) : Option (Bytes × Bytes) :=
  if semicolon ∈ piece ∨ piece = [] then none
  else
    (queryUnescape (cutByte equals piece).1).bind fun key =>
      (queryUnescape (cutByte equals piece).2).map fun value => (key, value)

def parseQuery (query : Bytes) : List (Bytes × Bytes) :=
  (query.splitOn ampersand).filterMap parameter

/-- The first value of a key, empty if there is none. -/
def get (values : List (Bytes × Bytes)) (key : Bytes) : Bytes := (values.lookup key).getD []

theorem parseQuery_append_cons (left right : Bytes) :
    parseQuery (left ++ ampersand :: right) = parseQuery left ++ parseQuery right := by
  rw [parseQuery, List.splitOn_append_cons_self, List.filterMap_append]
  rfl

theorem parseQuery_of_not_mem {piece : Bytes} (hpiece : ampersand ∉ piece) :
    parseQuery piece = (parameter piece).toList := by
  rw [parseQuery, List.splitOn_eq_singleton hpiece]
  cases hparameter : parameter piece <;> simp [hparameter]

/-- A key that needs no escaping. -/
def PlainKey (key : Bytes) : Prop := ∀ byte ∈ key, isUnreserved byte = true

instance (key : Bytes) : Decidable (PlainKey key) :=
  inferInstanceAs (Decidable (∀ byte ∈ key, isUnreserved byte = true))

theorem PlainKey.not_mem {key : Bytes} (hkey : PlainKey key) {byte : Byte}
    (hbyte : isUnreserved byte = false) : byte ∉ key := by
  intro hmem
  rw [hkey byte hmem] at hbyte
  cases hbyte

theorem parameter_append_cons {key value : Bytes} (hkey : PlainKey key)
    (hvalue : semicolon ∉ value) :
    parameter (key ++ equals :: value) = (queryUnescape value).map fun value => (key, value) := by
  have hcut := cutByte_append_cons (hkey.not_mem (by decide : isUnreserved equals = false)) value
  have hself : queryUnescape key = some key :=
    queryUnescape_eq_self_iff.mpr ⟨hkey.not_mem (by decide), hkey.not_mem (by decide)⟩
  have hgood : ¬ (semicolon ∈ key ++ equals :: value ∨ key ++ equals :: value = []) := by
    simp [hkey.not_mem (by decide : isUnreserved semicolon = false), hvalue,
      (by decide : semicolon ≠ equals)]
  rw [parameter, if_neg hgood, hcut, hself]
  rfl

theorem get_cons (pair : Bytes × Bytes) (values : List (Bytes × Bytes)) (key : Bytes) :
    get (pair :: values) key = if key = pair.1 then pair.2 else get values key := by
  rw [get, List.lookup_cons]
  by_cases hkey : key = pair.1
  · simp [hkey]
  · simp [hkey, beq_eq_false_iff_ne.mpr hkey, get]

theorem get_append (left right : List (Bytes × Bytes)) (key : Bytes) :
    get (left ++ right) key = get left key ∨ get (left ++ right) key = get right key := by
  rw [get, List.lookup_append]
  cases hleft : left.lookup key with
  | none => exact .inr rfl
  | some value => exact .inl (by rw [get, hleft]; rfl)

/-- Values of other keys can be left out. -/
theorem get_append_of_forall_ne (left : List (Bytes × Bytes)) {right : List (Bytes × Bytes)}
    {key : Bytes} (hright : ∀ pair ∈ right, pair.1 ≠ key) :
    get (left ++ right) key = get left key := by
  induction left with
  | nil =>
      induction right with
      | nil => rfl
      | cons pair right ih =>
          rw [List.forall_mem_cons] at hright
          rw [List.nil_append, get_cons, if_neg (Ne.symm hright.1)]
          exact ih hright.2
  | cons pair left ih => rw [List.cons_append, get_cons, get_cons, ih]

/-! ## Optional parameters -/

/-- A further parameter with the given text for its value, unless the value is empty. -/
def part (key text value : Bytes) : Bytes :=
  if value = [] then [] else ampersand :: (key ++ equals :: text)

def entries (key value : Bytes) : List (Bytes × Bytes) :=
  if value = [] then [] else [(key, value)]

theorem parseQuery_append_part {key text value : Bytes} (hkey : PlainKey key)
    (hampersand : ampersand ∉ text) (hsemicolon : semicolon ∉ text)
    (htext : queryUnescape text = some value) (left : Bytes) :
    parseQuery (left ++ part key text value) = parseQuery left ++ entries key value := by
  rw [part, entries]
  split_ifs with hvalue
  · rw [List.append_nil, List.append_nil]
  · have hmem : ampersand ∉ key ++ equals :: text := by
      simp [hkey.not_mem (by decide : isUnreserved ampersand = false), hampersand,
        (by decide : ampersand ≠ equals)]
    rw [parseQuery_append_cons, parseQuery_of_not_mem hmem, parameter_append_cons hkey hsemicolon,
      htext]
    rfl

theorem parseQuery_append_escaped {key : Bytes} (hkey : PlainKey key) (left value : Bytes) :
    parseQuery (left ++ part key (queryEscape value) value) =
      parseQuery left ++ entries key value :=
  parseQuery_append_part hkey (not_mem_queryEscape (by decide) value)
    (not_mem_queryEscape (by decide) value) (queryUnescape_queryEscape value) left

theorem key_of_mem_entries {key value : Bytes} {pair : Bytes × Bytes}
    (hpair : pair ∈ entries key value) : pair.1 = key := by
  rw [entries] at hpair
  split_ifs at hpair
  · exact absurd hpair List.not_mem_nil
  · exact congrArg Prod.fst (List.mem_singleton.mp hpair)

theorem get_entries_self {key : Bytes} {values : List (Bytes × Bytes)}
    (hvalues : get values key = []) (value : Bytes) :
    get (entries key value ++ values) key = value := by
  rw [entries]
  split_ifs with hvalue
  · rw [hvalue]
    exact hvalues
  · rw [List.singleton_append, get_cons, if_pos rfl]

theorem get_entries_of_ne {key other : Bytes} (hother : other ≠ key) (value : Bytes)
    (values : List (Bytes × Bytes)) :
    get (entries key value ++ values) other = get values other := by
  rw [entries]
  split_ifs with hvalue
  · rfl
  · rw [List.singleton_append, get_cons, if_neg hother]

/-! ## Sizes

Every value takes its length, its key and two separators from the query. -/

def cost (pair : Bytes × Bytes) : ℕ :=
  if pair.2 = [] then 0 else pair.1.length + pair.2.length + 2

theorem cost_le_of_parameter {piece : Bytes} {pair : Bytes × Bytes}
    (hparameter : parameter piece = some pair) : cost pair ≤ piece.length + 1 := by
  rw [parameter] at hparameter
  split at hparameter
  · cases hparameter
  obtain ⟨key, hkey, hrest⟩ := Option.bind_eq_some_iff.mp hparameter
  obtain ⟨value, hvalue, rfl⟩ := Option.map_eq_some_iff.mp hrest
  have hkeyLength := (length_queryUnescape hkey).1
  have hvalueLength := (length_queryUnescape hvalue).1
  rw [cost]
  split
  · omega
  · next hnonempty =>
      by_cases hequals : equals ∈ piece
      · obtain ⟨before, after, rfl, hbefore⟩ := List.eq_append_cons_of_mem hequals
        rw [cutByte_append_cons hbefore] at hkeyLength hvalueLength
        simp only [List.length_append, List.length_cons]
        dsimp only at hkeyLength hvalueLength ⊢
        omega
      · rw [cutByte_of_not_mem hequals] at hvalueLength
        exact absurd (List.length_eq_zero_iff.mp (Nat.le_zero.mp hvalueLength)) hnonempty

theorem sum_cost_parseQuery (query : Bytes) :
    ((parseQuery query).map cost).sum ≤ query.length + 1 := by
  induction hlength : query.length using Nat.strong_induction_on generalizing query with
  | _ length ih =>
      have hpiece : ∀ piece : Bytes, ampersand ∉ piece →
          ((parseQuery piece).map cost).sum ≤ piece.length + 1 := by
        intro piece hpiece
        rw [parseQuery_of_not_mem hpiece]
        cases hparameter : parameter piece with
        | none => exact Nat.zero_le _
        | some pair => simpa using cost_le_of_parameter hparameter
      by_cases hmem : ampersand ∈ query
      · obtain ⟨before, after, rfl, hbefore⟩ := List.eq_append_cons_of_mem hmem
        rw [List.length_append, List.length_cons] at hlength
        have hafter := ih after.length (by omega) after rfl
        have hfirst := hpiece before hbefore
        rw [parseQuery_append_cons, List.map_append, List.sum_append]
        omega
      · exact hlength ▸ hpiece query hmem

/-- Different keys find their values in different places. -/
theorem sum_cost_get (values : List (Bytes × Bytes)) {keys : List Bytes} (hkeys : keys.Nodup) :
    (keys.map fun key => cost (key, get values key)).sum ≤ (values.map cost).sum := by
  induction values generalizing keys with
  | nil =>
      have hzero : ∀ key ∈ keys, cost (key, get [] key) = 0 := fun _ _ => rfl
      rw [List.map_congr_left hzero]
      simp
  | cons pair values ih =>
      rw [List.map_cons, List.sum_cons]
      have hothers : ∀ keys : List Bytes, pair.1 ∉ keys →
          (keys.map fun key => cost (key, get (pair :: values) key)) =
            keys.map fun key => cost (key, get values key) := by
        intro keys hkeys
        apply List.map_congr_left
        intro key hkey
        rw [get_cons, if_neg fun heq : key = pair.1 => hkeys (heq ▸ hkey)]
      by_cases hmem : pair.1 ∈ keys
      · obtain ⟨before, after, rfl⟩ := List.append_of_mem hmem
        rw [List.nodup_middle, List.nodup_cons] at hkeys
        have hown : cost (pair.1, get (pair :: values) pair.1) = cost pair := by
          rw [get_cons, if_pos rfl]
        rw [(List.perm_middle.map _).sum_eq, List.map_cons, List.sum_cons, hown, hothers _ hkeys.1]
        exact Nat.add_le_add_left (ih hkeys.2) _
      · rw [hothers keys hmem]
        exact (ih hkeys).trans (Nat.le_add_left _ _)

/-- Read once more, a further parameter has the size of its key and value. -/
theorem length_queryUnescape_append_part {key : Bytes} (hkey : PlainKey key)
    {left value unescaped : Bytes}
    (hunescape : queryUnescape (left ++ part key (queryEscape value) value) = some unescaped) :
    ∃ text, queryUnescape left = some text ∧
      unescaped.length = text.length + cost (key, value) := by
  rw [part] at hunescape
  rw [cost]
  split_ifs at hunescape ⊢ with hvalue
  · exact ⟨unescaped, by rwa [List.append_nil] at hunescape, rfl⟩
  · have hplain : queryUnescape ((ampersand :: (key ++ [equals])) ++ queryEscape value) =
        some ((ampersand :: (key ++ [equals])) ++ value) := by
      rw [queryUnescape_append_of_not_mem, queryUnescape_queryEscape]
      · rfl
      · simp [hkey.not_mem (by decide : isUnreserved percent = false),
          (by decide : percent ≠ ampersand), (by decide : percent ≠ equals)]
      · simp [hkey.not_mem (by decide : isUnreserved plus = false),
          (by decide : plus ≠ ampersand), (by decide : plus ≠ equals)]
    have hjoin : ampersand :: (key ++ equals :: queryEscape value) =
        (ampersand :: (key ++ [equals])) ++ queryEscape value := by simp
    rw [queryUnescape_append_cons (by decide), hjoin, hplain] at hunescape
    obtain ⟨text, htext, hrest⟩ := Option.bind_eq_some_iff.mp hunescape
    obtain rfl := Option.some.inj hrest
    refine ⟨text, htext, ?_⟩
    simp only [List.length_append, List.length_cons, List.length_nil]
    omega

/-- All values together fit into the query. -/
theorem sum_cost_get_parseQuery (query : Bytes) {keys : List Bytes} (hkeys : keys.Nodup) :
    (keys.map fun key => cost (key, get (parseQuery query) key)).sum ≤ query.length + 1 :=
  (sum_cost_get _ hkeys).trans (sum_cost_parseQuery query)

theorem cost_get_parseQuery (query key : Bytes) :
    cost (key, get (parseQuery query) key) ≤ query.length + 1 := by
  simpa using sum_cost_get_parseQuery query (List.nodup_singleton key)

theorem length_get_parseQuery {query key : Bytes} (hvalue : get (parseQuery query) key ≠ []) :
    key.length + (get (parseQuery query) key).length + 1 ≤ query.length := by
  have hcost := cost_get_parseQuery query key
  rw [cost, if_neg hvalue] at hcost
  dsimp only at hcost
  omega

/-- A value is shorter than the text given for it, unless that text was read as one piece. -/
theorem get_parseQuery_cases {key : Bytes} (hkey : PlainKey key) {text : Bytes}
    (hvalue : get (parseQuery (key ++ equals :: text)) key ≠ []) :
    (get (parseQuery (key ++ equals :: text)) key).length < text.length ∨
      ampersand ∉ text ∧ semicolon ∉ text ∧
        queryUnescape text = some (get (parseQuery (key ++ equals :: text)) key) := by
  by_cases hampersand : ampersand ∈ text
  · left
    obtain ⟨before, after, rfl, -⟩ := List.eq_append_cons_of_mem hampersand
    rw [← List.cons_append, ← List.append_assoc, parseQuery_append_cons] at hvalue ⊢
    simp only [List.length_append, List.length_cons]
    rcases get_append (parseQuery (key ++ equals :: before)) (parseQuery after) key with hget | hget
    · rw [hget] at hvalue ⊢
      have hlength := length_get_parseQuery hvalue
      rw [List.length_append, List.length_cons] at hlength
      omega
    · rw [hget] at hvalue ⊢
      have hlength := length_get_parseQuery hvalue
      omega
  · right
    have hmem : ampersand ∉ key ++ equals :: text := by
      simp [hkey.not_mem (by decide : isUnreserved ampersand = false), hampersand,
        (by decide : ampersand ≠ equals)]
    rw [parseQuery_of_not_mem hmem] at hvalue ⊢
    have hsemicolon : semicolon ∉ text := by
      intro hsemicolon
      have hbad : semicolon ∈ key ++ equals :: text := by simp [hsemicolon]
      rw [parameter, if_pos (.inl hbad)] at hvalue
      exact hvalue rfl
    refine ⟨hampersand, hsemicolon, ?_⟩
    rw [parameter_append_cons hkey hsemicolon] at hvalue ⊢
    cases htext : queryUnescape text with
    | none =>
        rw [htext] at hvalue
        exact absurd rfl hvalue
    | some value => simp [get]

end ZeroFeed.Query
