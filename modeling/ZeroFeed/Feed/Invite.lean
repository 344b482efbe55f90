import ZeroFeed.Core.Query
import ZeroFeed.Crypto.Cipher

/-!
# Invites (`pkg/feed/invite.go`)

An invite is handed over as the plain code, as a `zerofeed://` URI, or as a link to
the landing page that carries the URI behind `#join=`.  The code, the transport and
the fingerprint are escaped in the URI; the relay address is not.
-/

namespace ZeroFeed.Invite

open ZeroFeed.ByteString
open ZeroFeed.Cipher
open ZeroFeed.Text
open ZeroFeed.Query

structure Invitation where
  code : Bytes
  relayAddr : Bytes
  transportMode : Bytes
  spkiFingerprint : Bytes
  deriving DecidableEq

inductive InviteError where
  | empty
  | invalidURI
  | missingCode
  deriving DecidableEq

def defaultLandingURL : Bytes := ascii "https://nicolainzerillo.github.io/ZeroFeed-Landing/"

def joinMark : Bytes := ascii "#join="

def uriScheme : Bytes := ascii "zerofeed://"

def generateInvite (code relayAddr : Bytes) : Invitation := ⟨code, relayAddr, [], []⟩

/-! ## Parsing -/

/-- Which texts between the scheme and the query `url.Parse` accepts as host and path. -/
structure HostRules where
  accepts : Bytes → Bool
  accepts_join : accepts (ascii "join") = true

def isControl (byte : Byte) : Bool := byte < 0x20 || byte = 0x7F

/-- `url.Parse` of a text with the scheme in front: the raw query.  The fragment has to
be escaped properly, but nothing else of it is used. -/
def parseURL (rules : HostRules) (rawURL : Bytes) : Option Bytes :=
  let url := (cutByte hash rawURL).1
  let fragment := (cutByte hash rawURL).2
  let rest := cutByte question (url.drop uriScheme.length)
  if (∃ byte ∈ url, isControl byte = true) ∨ rules.accepts rest.1 = false ∨
      queryUnescape fragment = none then none
  else some rest.2

/-- The URI or the plain code. -/
def parseURI (rules : HostRules) (raw : Bytes) : Except InviteError Invitation :=
  if uriScheme <+: raw then
    match parseURL rules raw with
    | none => .error .invalidURI
    | some rawQuery =>
        let q := parseQuery rawQuery
        if get q (ascii "code") = [] then .error .missingCode
        else .ok ⟨get q (ascii "code"), get q (ascii "relay"), get q (ascii "transport"),
          get q (ascii "fingerprint")⟩
  else .ok ⟨raw, [], [], []⟩

/-- What follows `#join=`, if that occurs once. -/
def fromLanding (raw : Bytes) : Bytes :=
  match splitWord joinMark raw.length raw with
  | [_, joined] => (queryUnescape joined).getD joined
  | _ => raw

def parseInvite (rules : HostRules) (raw : Bytes) : Except InviteError Invitation :=
  let raw := trimSpace raw
  if raw = [] then .error .empty else parseURI rules (fromLanding raw)

/-! ## Formatting -/

namespace Invitation

variable (invite : Invitation)

def params : List Bytes :=
  (if invite.code ≠ [] then [ascii "code=" ++ queryEscape invite.code] else []) ++
    (if invite.relayAddr ≠ [] then [ascii "relay=" ++ invite.relayAddr] else []) ++
    (if invite.transportMode ≠ [] then
      [ascii "transport=" ++ queryEscape invite.transportMode] else []) ++
    (if invite.spkiFingerprint ≠ [] then
      [ascii "fingerprint=" ++ queryEscape invite.spkiFingerprint] else [])

def toURI : Bytes := ascii "zerofeed://join?" ++ List.intercalate [ampersand] invite.params

def toWebURL : Bytes := defaultLandingURL ++ joinMark ++ queryEscape invite.toURI

end Invitation

/-! ## The text of a URI -/

def joinURL (query : Bytes) : Bytes := uriScheme ++ (ascii "join" ++ question :: query)

def codeParam (code : Bytes) : Bytes := ascii "code" ++ equals :: queryEscape code

def relayParam (relay : Bytes) : Bytes := ascii "relay" ++ equals :: relay

/-- The parameters after the relay address. -/
def escapedParams (invite : Invitation) : Bytes :=
  part (ascii "transport") (queryEscape invite.transportMode) invite.transportMode ++
    part (ascii "fingerprint") (queryEscape invite.spkiFingerprint) invite.spkiFingerprint

def escapedPairs (invite : Invitation) : List (Bytes × Bytes) :=
  entries (ascii "transport") invite.transportMode ++
    entries (ascii "fingerprint") invite.spkiFingerprint

theorem toURI_eq {invite : Invitation} (hcode : invite.code ≠ []) :
    invite.toURI = joinURL (codeParam invite.code ++
      part (ascii "relay") invite.relayAddr invite.relayAddr ++ escapedParams invite) := by
  have hhead : ascii "zerofeed://join?" = uriScheme ++ (ascii "join" ++ [question]) := by
    decide
  have hcodeKey : ascii "code=" = ascii "code" ++ [equals] := by decide
  have hrelayKey : ascii "relay=" = ascii "relay" ++ [equals] := by decide
  have htransportKey : ascii "transport=" = ascii "transport" ++ [equals] := by decide
  have hfingerprintKey : ascii "fingerprint=" = ascii "fingerprint" ++ [equals] := by decide
  rw [Invitation.toURI, Invitation.params, hhead, hcodeKey, hrelayKey, htransportKey,
    hfingerprintKey]
  simp only [joinURL, codeParam, escapedParams, part, if_pos hcode]
  by_cases hrelay : invite.relayAddr = [] <;> by_cases htransport : invite.transportMode = [] <;>
    by_cases hfingerprint : invite.spkiFingerprint = [] <;>
    simp [hrelay, htransport, hfingerprint, List.intercalate]

theorem plainKey_code : PlainKey (ascii "code") := by decide +kernel

theorem plainKey_relay : PlainKey (ascii "relay") := by decide +kernel

theorem plainKey_transport : PlainKey (ascii "transport") := by decide +kernel

theorem plainKey_fingerprint : PlainKey (ascii "fingerprint") := by decide +kernel

/-- The bytes of escaped parameters. -/
def isParamByte (byte : Byte) : Bool := isEscaped byte || byte = ampersand || byte = equals

theorem isParamByte_of_mem_part {key : Bytes} (hkey : PlainKey key) {value : Bytes} {byte : Byte}
    (hbyte : byte ∈ part key (queryEscape value) value) : isParamByte byte = true := by
  have hunreserved : ∀ byte : Byte, isUnreserved byte = true → isParamByte byte = true := by
    decide +kernel
  have hescaped : ∀ byte : Byte, isEscaped byte = true → isParamByte byte = true := by
    decide +kernel
  rw [part] at hbyte
  split_ifs at hbyte
  · exact absurd hbyte List.not_mem_nil
  · rw [List.mem_cons, List.mem_append, List.mem_cons] at hbyte
    rcases hbyte with rfl | hbyte | rfl | hbyte
    · decide
    · exact hunreserved byte (hkey byte hbyte)
    · decide
    · exact hescaped byte (isEscaped_of_mem hbyte)

theorem isParamByte_of_mem {invite : Invitation} {byte : Byte}
    (hbyte : byte ∈ escapedParams invite) : isParamByte byte = true := by
  rcases List.mem_append.mp hbyte with hbyte | hbyte
  · exact isParamByte_of_mem_part plainKey_transport hbyte
  · exact isParamByte_of_mem_part plainKey_fingerprint hbyte

theorem not_mem_escapedParams {byte : Byte} (hbyte : isParamByte byte = false)
    (invite : Invitation) : byte ∉ escapedParams invite := by
  intro hmem
  rw [isParamByte_of_mem hmem] at hbyte
  cases hbyte

/-- There are none, or they start with an ampersand. -/
theorem escapedParams_cases (invite : Invitation) :
    (invite.transportMode = [] ∧ invite.spkiFingerprint = [] ∧ escapedParams invite = []) ∨
      ∃ rest, escapedParams invite = ampersand :: rest := by
  unfold escapedParams part
  split_ifs with htransport hfingerprint
  · exact .inl ⟨htransport, hfingerprint, rfl⟩
  · exact .inr ⟨_, rfl⟩
  · exact .inr ⟨_, rfl⟩
  · exact .inr ⟨_, rfl⟩

theorem parseQuery_append_escapedParams (left : Bytes) (invite : Invitation) :
    parseQuery (left ++ escapedParams invite) = parseQuery left ++ escapedPairs invite := by
  rw [escapedParams, ← List.append_assoc, parseQuery_append_escaped plainKey_fingerprint,
    parseQuery_append_escaped plainKey_transport, List.append_assoc]
  rfl

theorem escapedPairs_ne_relay (invite : Invitation) :
    ∀ pair ∈ escapedPairs invite, pair.1 ≠ ascii "relay" := by
  intro pair hpair
  rcases List.mem_append.mp hpair with hpair | hpair
  · rw [key_of_mem_entries hpair]
    decide
  · rw [key_of_mem_entries hpair]
    decide

/-- All the values of an invite. -/
def pairs (invite : Invitation) : List (Bytes × Bytes) :=
  (ascii "code", invite.code) :: (entries (ascii "relay") invite.relayAddr ++ escapedPairs invite)

theorem get_pairs_code (invite : Invitation) : get (pairs invite) (ascii "code") = invite.code := by
  rw [pairs, get_cons, if_pos rfl]

theorem get_pairs_relay (invite : Invitation) :
    get (pairs invite) (ascii "relay") = invite.relayAddr := by
  rw [pairs, get_cons, if_neg (by decide : ascii "relay" ≠ ascii "code")]
  exact get_entries_self (get_append_of_forall_ne [] (escapedPairs_ne_relay invite)) _

theorem get_pairs_transport (invite : Invitation) :
    get (pairs invite) (ascii "transport") = invite.transportMode := by
  have hother : ∀ pair ∈ entries (ascii "fingerprint") invite.spkiFingerprint,
      pair.1 ≠ ascii "transport" := by
    intro pair hpair
    rw [key_of_mem_entries hpair]
    decide
  rw [pairs, get_cons, if_neg (by decide : ascii "transport" ≠ ascii "code"),
    get_entries_of_ne (by decide)]
  exact get_entries_self (get_append_of_forall_ne [] hother) _

theorem get_pairs_fingerprint (invite : Invitation) :
    get (pairs invite) (ascii "fingerprint") = invite.spkiFingerprint := by
  have hself := @get_entries_self (ascii "fingerprint") [] rfl invite.spkiFingerprint
  rw [List.append_nil] at hself
  rw [pairs, get_cons, if_neg (by decide : ascii "fingerprint" ≠ ascii "code"),
    get_entries_of_ne (by decide), escapedPairs, get_entries_of_ne (by decide), hself]

theorem other_of_isParamByte : ∀ byte : Byte, isParamByte byte = false →
    isUnreserved byte = false ∧ isEscaped byte = false ∧ byte ≠ ampersand ∧ byte ≠ equals := by
  decide +kernel

theorem not_mem_codeParam {byte : Byte} (hbyte : isParamByte byte = false) (code : Bytes) :
    byte ∉ codeParam code := by
  obtain ⟨hunreserved, hescaped, -, hequals⟩ := other_of_isParamByte byte hbyte
  rw [codeParam, List.mem_append, List.mem_cons, not_or, not_or]
  exact ⟨plainKey_code.not_mem hunreserved, hequals, not_mem_queryEscape hescaped code⟩

theorem not_mem_relayParam {byte : Byte} (hbyte : isParamByte byte = false) {relay : Bytes}
    (hrelay : byte ∉ relay) : byte ∉ relayParam relay := by
  obtain ⟨hunreserved, -, -, hequals⟩ := other_of_isParamByte byte hbyte
  rw [relayParam, List.mem_append, List.mem_cons, not_or, not_or]
  exact ⟨plainKey_relay.not_mem hunreserved, hequals, hrelay⟩

theorem not_mem_params {byte : Byte} (hbyte : isParamByte byte = false) {invite : Invitation}
    (hrelay : byte ∉ invite.relayAddr) :
    byte ∉ codeParam invite.code ++ part (ascii "relay") invite.relayAddr invite.relayAddr ++
      escapedParams invite := by
  have hpart : byte ∉ part (ascii "relay") invite.relayAddr invite.relayAddr := by
    rw [part]
    split_ifs
    · exact List.not_mem_nil
    · rw [List.mem_cons, not_or]
      exact ⟨(other_of_isParamByte byte hbyte).2.2.1, not_mem_relayParam hbyte hrelay⟩
  rw [List.mem_append, List.mem_append, not_or, not_or]
  exact ⟨⟨not_mem_codeParam hbyte _, hpart⟩, not_mem_escapedParams hbyte _⟩

theorem parseQuery_codeParam (code : Bytes) :
    parseQuery (codeParam code) = [(ascii "code", code)] := by
  have hmem : ampersand ∉ codeParam code := by
    simp [codeParam, plainKey_code.not_mem (by decide : isUnreserved ampersand = false),
      not_mem_queryEscape (by decide : isEscaped ampersand = false),
      (by decide : ampersand ≠ equals)]
  have hparameter : parameter (codeParam code) = some (ascii "code", code) := by
    rw [codeParam, parameter_append_cons plainKey_code (not_mem_queryEscape (by decide) code),
      queryUnescape_queryEscape]
    rfl
  rw [parseQuery_of_not_mem hmem, hparameter]
  rfl

/-! ## Parsing a URI -/

section Parsing

variable (rules : HostRules)

theorem prefix_joinURL (query : Bytes) : uriScheme <+: joinURL query := List.prefix_append _ _

theorem joinURL_append (left right : Bytes) : joinURL (left ++ right) = joinURL left ++ right := by
  simp [joinURL]

theorem not_mem_joinURL {byte : Byte} (hbyte : byte ∉ ascii "zerofeed://join?") {query : Bytes}
    (hquery : byte ∉ query) : byte ∉ joinURL query := by
  have hhead : ascii "zerofeed://join?" = uriScheme ++ (ascii "join" ++ [question]) := by
    decide
  have hsplit : joinURL query = ascii "zerofeed://join?" ++ query := by
    rw [hhead]
    simp [joinURL]
  rw [hsplit, List.mem_append, not_or]
  exact ⟨hbyte, hquery⟩

theorem cutByte_question_joinURL (query : Bytes) :
    cutByte question ((joinURL query).drop uriScheme.length) = (ascii "join", query) := by
  have hjoin : question ∉ ascii "join" := by decide
  rw [joinURL, List.drop_left, cutByte_append_cons hjoin]

/-- A query without a fragment is read whole unless it holds a control byte. -/
theorem parseURL_joinURL {query : Bytes} (hhash : hash ∉ query) :
    parseURL rules (joinURL query) =
      if ∃ byte ∈ joinURL query, isControl byte = true then none else some query := by
  have hwhole : hash ∉ joinURL query := not_mem_joinURL (by decide) hhash
  rw [parseURL, cutByte_of_not_mem hwhole]
  dsimp only
  rw [cutByte_question_joinURL]
  simp [rules.accepts_join, queryUnescape]

theorem eq_of_parseURL_fragment {query fragment rawQuery : Bytes} (hhash : hash ∉ query)
    (hparse : parseURL rules (joinURL (query ++ hash :: fragment)) = some rawQuery) :
    rawQuery = query := by
  have hwhole : hash ∉ joinURL query := not_mem_joinURL (by decide) hhash
  rw [parseURL, joinURL_append, cutByte_append_cons hwhole] at hparse
  dsimp only at hparse
  rw [cutByte_question_joinURL] at hparse
  split at hparse
  · cases hparse
  · exact (Option.some.inj hparse).symm

/-- What an accepted URI says. -/
theorem eq_of_parseURI {raw : Bytes} {parsed : Invitation}
    (hparse : parseURI rules raw = .ok parsed) (hscheme : uriScheme <+: raw) :
    ∃ rawQuery, parseURL rules raw = some rawQuery ∧
      parsed.code = get (parseQuery rawQuery) (ascii "code") ∧ parsed.code ≠ [] ∧
      parsed.relayAddr = get (parseQuery rawQuery) (ascii "relay") ∧
      parsed.transportMode = get (parseQuery rawQuery) (ascii "transport") ∧
      parsed.spkiFingerprint = get (parseQuery rawQuery) (ascii "fingerprint") := by
  rw [parseURI, if_pos hscheme] at hparse
  split at hparse
  · cases hparse
  · next rawQuery hquery =>
      dsimp only at hparse
      split at hparse
      · cases hparse
      · next hcode =>
          obtain rfl := Except.ok.inj hparse
          exact ⟨rawQuery, hquery, rfl, hcode, rfl, rfl, rfl⟩

/-- What `ParseQuery` has to pass through as it stands. -/
def Transparent (relay : Bytes) : Prop :=
  ∀ byte ∈ relay, isControl byte = false ∧ byte ∉ [hash, percent, ampersand, plus, semicolon]

instance (relay : Bytes) : Decidable (Transparent relay) :=
  inferInstanceAs (Decidable (∀ byte ∈ relay,
    isControl byte = false ∧ byte ∉ [hash, percent, ampersand, plus, semicolon]))

theorem Transparent.not_mem {relay : Bytes} (hrelay : Transparent relay) {byte : Byte}
    (hbyte : byte ∈ [hash, percent, ampersand, plus, semicolon]) : byte ∉ relay :=
  fun hmem => (hrelay byte hmem).2 hbyte

theorem transparent_of_not_mem {relay : Bytes} (hcontrol : ∀ byte ∈ relay, isControl byte = false)
    (hhash : hash ∉ relay) (hampersand : ampersand ∉ relay) (hsemicolon : semicolon ∉ relay)
    (hself : queryUnescape relay = some relay) : Transparent relay := by
  obtain ⟨hpercent, hplus⟩ := queryUnescape_eq_self_iff.mp hself
  intro byte hbyte
  refine ⟨hcontrol byte hbyte, fun hmem => ?_⟩
  simp only [List.mem_cons, List.not_mem_nil, or_false] at hmem
  rcases hmem with rfl | rfl | rfl | rfl | rfl <;> contradiction

theorem isParamByte_of_control : ∀ byte : Byte, isControl byte = true →
    isParamByte byte = false ∧ byte ∉ ascii "zerofeed://join?" := by
  decide +kernel

/-- With such a relay address the URI says what the invite does. -/
theorem parseURI_toURI {invite : Invitation} (hcode : invite.code ≠ [])
    (hrelay : Transparent invite.relayAddr) : parseURI rules invite.toURI = .ok invite := by
  have hhash := not_mem_params (by decide : isParamByte hash = false) (hrelay.not_mem (by decide))
  have hcontrol : ¬ ∃ byte ∈ invite.toURI, isControl byte = true := by
    rintro ⟨byte, hmem, hbyte⟩
    obtain ⟨hparam, hhead⟩ := isParamByte_of_control byte hbyte
    have hplain : byte ∉ invite.relayAddr := by
      intro hmem
      rw [(hrelay byte hmem).1] at hbyte
      cases hbyte
    rw [toURI_eq hcode] at hmem
    exact not_mem_joinURL hhead (not_mem_params hparam hplain) hmem
  have hself : queryUnescape invite.relayAddr = some invite.relayAddr :=
    queryUnescape_eq_self_iff.mpr ⟨hrelay.not_mem (by decide), hrelay.not_mem (by decide)⟩
  have hquery : parseQuery (codeParam invite.code ++
      part (ascii "relay") invite.relayAddr invite.relayAddr ++ escapedParams invite) =
        pairs invite := by
    rw [parseQuery_append_escapedParams, parseQuery_append_part plainKey_relay
      (hrelay.not_mem (by decide)) (hrelay.not_mem (by decide)) hself, parseQuery_codeParam,
      List.append_assoc]
    rfl
  rw [parseURI, if_pos (toURI_eq hcode ▸ prefix_joinURL _), toURI_eq hcode,
    parseURL_joinURL rules hhash, ← toURI_eq hcode, if_neg hcontrol]
  dsimp only
  rw [hquery, get_pairs_code, get_pairs_relay, get_pairs_transport, get_pairs_fingerprint,
    if_neg hcode]

/-! ## What a relay address can do to the URI

A relay address that is not read back as it stands is read back shorter: something in
it ended the value, or was an escape. -/

/-- The URI with another text for the relay address. -/
def relayURI (invite : Invitation) (relay : Bytes) : Bytes :=
  joinURL (codeParam invite.code ++ ampersand :: (relayParam relay ++ escapedParams invite))

theorem toURI_eq_relayURI {invite : Invitation} (hcode : invite.code ≠ [])
    (hrelay : invite.relayAddr ≠ []) : invite.toURI = relayURI invite invite.relayAddr := by
  rw [toURI_eq hcode, part, if_neg hrelay, relayURI]
  simp [relayParam]

theorem get_relay_codeParam (code rest : Bytes) :
    get (parseQuery (codeParam code ++ ampersand :: rest)) (ascii "relay") =
      get (parseQuery rest) (ascii "relay") := by
  rw [parseQuery_append_cons, parseQuery_codeParam, List.singleton_append, get_cons,
    if_neg (by decide : ascii "relay" ≠ ascii "code")]

theorem get_relay_escapedParams (left : Bytes) (invite : Invitation) :
    get (parseQuery (left ++ escapedParams invite)) (ascii "relay") =
      get (parseQuery left) (ascii "relay") := by
  rw [parseQuery_append_escapedParams, get_append_of_forall_ne _ (escapedPairs_ne_relay invite)]

/-- What follows a hash is the fragment. -/
theorem relay_of_fragment {invite : Invitation} {before after rawQuery : Bytes}
    (hbefore : hash ∉ before)
    (hquery : parseURL rules (relayURI invite (before ++ hash :: after)) = some rawQuery) :
    get (parseQuery rawQuery) (ascii "relay") =
      get (parseQuery (relayParam before)) (ascii "relay") := by
  have hshape : relayURI invite (before ++ hash :: after) =
      joinURL ((codeParam invite.code ++ ampersand :: relayParam before) ++
        hash :: (after ++ escapedParams invite)) := by simp [relayURI, relayParam]
  have hnone : hash ∉ codeParam invite.code ++ ampersand :: relayParam before := by
    rw [List.mem_append, List.mem_cons, not_or, not_or]
    exact ⟨not_mem_codeParam (by decide) _, by decide, not_mem_relayParam (by decide) hbefore⟩
  rw [hshape] at hquery
  rw [eq_of_parseURL_fragment rules hnone hquery, get_relay_codeParam]

theorem relay_of_no_fragment {invite : Invitation} {relay rawQuery : Bytes} (hhash : hash ∉ relay)
    (hquery : parseURL rules (relayURI invite relay) = some rawQuery) :
    (∀ byte ∈ relay, isControl byte = false) ∧
      get (parseQuery rawQuery) (ascii "relay") =
        get (parseQuery (relayParam relay)) (ascii "relay") := by
  have hnone : hash ∉ codeParam invite.code ++
      ampersand :: (relayParam relay ++ escapedParams invite) := by
    rw [List.mem_append, List.mem_cons, List.mem_append, not_or, not_or, not_or]
    exact ⟨not_mem_codeParam (by decide) _, by decide, not_mem_relayParam (by decide) hhash,
      not_mem_escapedParams (by decide) _⟩
  rw [relayURI, parseURL_joinURL rules hnone] at hquery
  split_ifs at hquery with hcontrol
  obtain rfl := Option.some.inj hquery
  refine ⟨fun byte hbyte => ?_, by rw [get_relay_codeParam, get_relay_escapedParams]⟩
  rw [← Bool.not_eq_true]
  intro htrue
  exact hcontrol ⟨byte, by simp [joinURL, relayParam, hbyte], htrue⟩

theorem relay_of_parseURI {invite parsed : Invitation} {relay : Bytes}
    (hparse : parseURI rules (relayURI invite relay) = .ok parsed)
    (hvalue : parsed.relayAddr ≠ []) :
    parsed.relayAddr.length < relay.length ∨
      (∀ byte ∈ relay, isControl byte = false) ∧ hash ∉ relay ∧ ampersand ∉ relay ∧
        semicolon ∉ relay ∧ queryUnescape relay = some parsed.relayAddr := by
  obtain ⟨rawQuery, hquery, -, -, hrelay, -, -⟩ := eq_of_parseURI rules hparse (prefix_joinURL _)
  rw [hrelay] at hvalue ⊢
  by_cases hhash : hash ∈ relay
  · left
    obtain ⟨before, after, rfl, hbefore⟩ := List.eq_append_cons_of_mem hhash
    rw [relay_of_fragment rules hbefore hquery] at hvalue ⊢
    have hlength := length_get_parseQuery hvalue
    simp only [relayParam, List.length_append, List.length_cons] at hlength ⊢
    omega
  · obtain ⟨hcontrol, hsame⟩ := relay_of_no_fragment rules hhash hquery
    rw [hsame, relayParam] at hvalue ⊢
    exact (get_parseQuery_cases plainKey_relay hvalue).imp_right fun hrest =>
      ⟨hcontrol, hhash, hrest⟩

theorem length_query_le (rawURL : Bytes) :
    (cutByte question (rawURL.drop uriScheme.length)).2.length ≤ rawURL.length := by
  apply (length_cutByte_snd_le _ _).trans
  rw [List.length_drop]
  omega

theorem length_le_of_parseURL {raw rawQuery : Bytes} (hparse : parseURL rules raw = some rawQuery) :
    rawQuery.length ≤ raw.length := by
  rw [parseURL] at hparse
  split at hparse
  · cases hparse
  · obtain rfl := Option.some.inj hparse
    exact (length_query_le _).trans (length_cutByte_fst_le hash raw)

/-- In a URI that the further parameters follow, the address is read from the text before
them. -/
theorem relay_of_parseURL_append {invite : Invitation} {text rawQuery : Bytes}
    (hscheme : uriScheme <+: text ++ escapedParams invite)
    (hquery : parseURL rules (text ++ escapedParams invite) = some rawQuery) :
    ∃ query, query.length ≤ text.length ∧
      get (parseQuery rawQuery) (ascii "relay") = get (parseQuery query) (ascii "relay") := by
  rw [parseURL] at hquery
  split at hquery
  · cases hquery
  obtain rfl := Option.some.inj hquery
  by_cases hhash : hash ∈ text
  · obtain ⟨before, after, rfl, hbefore⟩ := List.eq_append_cons_of_mem hhash
    refine ⟨_, ?_, rfl⟩
    rw [List.append_assoc, List.cons_append, cutByte_append_cons hbefore, List.length_append]
    exact (length_query_le before).trans (Nat.le_add_right _ _)
  · have hwhole : hash ∉ text ++ escapedParams invite := by
      rw [List.mem_append, not_or]
      exact ⟨hhash, not_mem_escapedParams (by decide) _⟩
    obtain ⟨rest, rfl⟩ : uriScheme <+: text := by
      rcases escapedParams_cases invite with ⟨-, -, hnone⟩ | ⟨others, hsome⟩
      · rwa [hnone, List.append_nil] at hscheme
      · rw [hsome] at hscheme
        exact (prefix_append_cons_iff (by decide)).mp hscheme
    rw [cutByte_of_not_mem hwhole, List.append_assoc, List.drop_left, List.length_append]
    by_cases hquestion : question ∈ rest
    · obtain ⟨host, query, rfl, hhost⟩ := List.eq_append_cons_of_mem hquestion
      refine ⟨query, ?_, ?_⟩
      · rw [List.length_append, List.length_cons]
        omega
      · rw [List.append_assoc, List.cons_append, cutByte_append_cons hhost,
          get_relay_escapedParams]
    · refine ⟨[], Nat.zero_le _, ?_⟩
      rw [cutByte_of_not_mem]
      rw [List.mem_append, not_or]
      exact ⟨hquestion, not_mem_escapedParams (by decide) _⟩

/-- Only a URI names a relay address. -/
theorem prefix_of_relay {raw : Bytes} {parsed : Invitation}
    (hparse : parseURI rules raw = .ok parsed) (hvalue : parsed.relayAddr ≠ []) :
    uriScheme <+: raw := by
  by_contra hscheme
  rw [parseURI, if_neg hscheme] at hparse
  obtain rfl := Except.ok.inj hparse
  exact hvalue rfl

/-- An address inside another one is shorter still. -/
theorem relay_lt_of_parseURI_append {invite parsed : Invitation} {text : Bytes}
    (hparse : parseURI rules (text ++ escapedParams invite) = .ok parsed)
    (hvalue : parsed.relayAddr ≠ []) : parsed.relayAddr.length < text.length := by
  have hscheme := prefix_of_relay rules hparse hvalue
  obtain ⟨rawQuery, hquery, -, -, hrelay, -, -⟩ := eq_of_parseURI rules hparse hscheme
  obtain ⟨query, hlength, hget⟩ := relay_of_parseURL_append rules hscheme hquery
  rw [hrelay, hget] at hvalue ⊢
  have hinside := length_get_parseQuery hvalue
  omega

/-! ## `#join=` inside a URI -/

/-- The values an invite cannot lose. -/
structure Carries (parsed invite : Invitation) : Prop where
  relayAddr : parsed.relayAddr = invite.relayAddr
  transportMode : invite.transportMode = [] ∨ parsed.transportMode = invite.transportMode
  spkiFingerprint : invite.spkiFingerprint = [] ∨ parsed.spkiFingerprint = invite.spkiFingerprint

theorem carries_self (invite : Invitation) : Carries invite invite := ⟨rfl, .inr rfl, .inr rfl⟩

theorem cost_le_of_eq {key value other : Bytes} (hvalue : value = [] ∨ other = value) :
    cost (key, value) ≤ cost (key, other) := by
  rcases hvalue with rfl | rfl
  · exact Nat.zero_le _
  · exact le_rfl

/-- A text that reads as a URI is longer than the values read from it. -/
theorem cost_le_of_parseURI {raw : Bytes} {parsed : Invitation}
    (hparse : parseURI rules raw = .ok parsed) (hvalue : parsed.relayAddr ≠ []) :
    parsed.relayAddr.length + cost (ascii "transport", parsed.transportMode) +
      cost (ascii "fingerprint", parsed.spkiFingerprint) < raw.length := by
  obtain ⟨rawQuery, hquery, -, -, hrelay, htransport, hfingerprint⟩ :=
    eq_of_parseURI rules hparse (prefix_of_relay rules hparse hvalue)
  have hkeys : [ascii "relay", ascii "transport", ascii "fingerprint"].Nodup := by decide
  have hsum := sum_cost_get_parseQuery rawQuery hkeys
  have hlength := length_le_of_parseURL rules hquery
  simp only [List.map_cons, List.map_nil, List.sum_cons, List.sum_nil, ← hrelay, ← htransport,
    ← hfingerprint] at hsum
  have hrelayCost : cost (ascii "relay", parsed.relayAddr) = parsed.relayAddr.length + 7 := by
    rw [cost, if_neg hvalue]
    change 5 + parsed.relayAddr.length + 2 = _
    omega
  omega

/-- A `#join=` in a URI lies in the relay address. -/
theorem joinMark_within {invite : Invitation} {relay before after : Bytes}
    (hsplit : relayURI invite relay = before ++ joinMark ++ after) :
    ∃ left right, relay = left ++ (joinMark ++ right) ∧ after = right ++ escapedParams invite := by
  have hshape : relayURI invite relay =
      joinURL (codeParam invite.code ++ ampersand :: relayParam []) ++
        (relay ++ escapedParams invite) := by simp [relayURI, relayParam, joinURL]
  have hhead : hash ∉ joinURL (codeParam invite.code ++ ampersand :: relayParam []) := by
    apply not_mem_joinURL (by decide)
    rw [List.mem_append, List.mem_cons, not_or, not_or]
    exact ⟨not_mem_codeParam (by decide) _, by decide,
      not_mem_relayParam (by decide) List.not_mem_nil⟩
  have hstart : ∀ byte ∈ (escapedParams invite).head?, byte ∉ ascii "join=" := by
    intro byte hbyte
    rcases escapedParams_cases invite with ⟨-, -, hnone⟩ | ⟨others, hsome⟩
    · rw [hnone] at hbyte
      cases hbyte
    · rw [hsome] at hbyte
      obtain rfl := Option.some.inj hbyte
      decide
  rw [hshape, List.append_assoc] at hsplit
  exact eq_append_of_word_within hhead (not_mem_escapedParams (by decide) _) hstart hsplit

/-- Unescaping once more leaves the further parameters their room. -/
theorem relay_lt_of_queryUnescape {invite parsed : Invitation} {text raw : Bytes}
    (hunescape : queryUnescape (text ++ escapedParams invite) = some raw)
    (hparse : parseURI rules raw = .ok parsed) (hcarries : Carries parsed invite)
    (hvalue : parsed.relayAddr ≠ []) : parsed.relayAddr.length < text.length := by
  have hcost := cost_le_of_parseURI rules hparse hvalue
  rw [escapedParams, ← List.append_assoc] at hunescape
  obtain ⟨front, hfront, hfingerprint⟩ :=
    length_queryUnescape_append_part plainKey_fingerprint hunescape
  obtain ⟨unescaped, hunescaped, htransport⟩ :=
    length_queryUnescape_append_part plainKey_transport hfront
  have hlength := (length_queryUnescape hunescaped).1
  have htransportCost := @cost_le_of_eq (ascii "transport") _ _ hcarries.transportMode
  have hfingerprintCost := @cost_le_of_eq (ascii "fingerprint") _ _ hcarries.spkiFingerprint
  omega

/-- Read from behind a `#join=` of its own, the relay address is shorter. -/
theorem relay_lt_of_landing {invite parsed : Invitation} {relay before after : Bytes}
    (hsplit : relayURI invite relay = before ++ joinMark ++ after)
    (hparse : parseURI rules ((queryUnescape after).getD after) = .ok parsed)
    (hcarries : Carries parsed invite) (hvalue : parsed.relayAddr ≠ []) :
    parsed.relayAddr.length < relay.length := by
  obtain ⟨left, right, rfl, rfl⟩ := joinMark_within hsplit
  have hshorter : parsed.relayAddr.length < right.length := by
    cases hunescape : queryUnescape (right ++ escapedParams invite) with
    | none =>
        rw [hunescape] at hparse
        exact relay_lt_of_parseURI_append rules hparse hvalue
    | some raw =>
        rw [hunescape] at hparse
        exact relay_lt_of_queryUnescape rules hunescape hparse hcarries hvalue
  simp only [List.length_append]
  omega

/-- Whatever the parser makes of a URI, it keeps the relay address only if that address
was read as it stands. -/
theorem relay_of_fromLanding {invite parsed : Invitation} {relay : Bytes}
    (hparse : parseURI rules (fromLanding (relayURI invite relay)) = .ok parsed)
    (hcarries : Carries parsed invite) (hvalue : invite.relayAddr ≠ [])
    (hlength : relay.length ≤ invite.relayAddr.length) :
    (∀ byte ∈ relay, isControl byte = false) ∧ hash ∉ relay ∧ ampersand ∉ relay ∧
      semicolon ∉ relay ∧ queryUnescape relay = some invite.relayAddr := by
  rw [← hcarries.relayAddr] at hvalue hlength ⊢
  rw [fromLanding] at hparse
  split at hparse
  · next before after hsplit =>
      have hshorter := relay_lt_of_landing rules (eq_append_of_splitWord hsplit) hparse hcarries
        hvalue
      omega
  · exact (relay_of_parseURI rules hparse hvalue).resolve_left (by omega)

end Parsing

/-! ## Trimming -/

theorem trimSpace_joinURL (query : Bytes) :
    trimSpace (joinURL query) = trimRight (joinURL query) := by
  have hcons : ∃ rest, joinURL query = 0x7A :: rest := ⟨_, rfl⟩
  obtain ⟨rest, hrest⟩ := hcons
  rw [trimSpace, hrest, trimLeft_cons (by decide)]

/-- A relay address that is followed by nothing loses the white space at its end. -/
theorem trimSpace_relayURI {invite : Invitation} (hparams : escapedParams invite = [])
    (relay : Bytes) : trimSpace (relayURI invite relay) = relayURI invite (trimRight relay) := by
  have hshape : ∀ relay, relayURI invite relay =
      joinURL (codeParam invite.code ++ ampersand :: ascii "relay") ++ equals :: relay := by
    intro relay
    simp [relayURI, relayParam, joinURL, hparams]
  rw [relayURI, trimSpace_joinURL, ← relayURI, hshape, trimRight_append_cons (by decide), ← hshape]

/-- Any other URI ends in an escaped value. -/
theorem trimSpace_toURI {invite : Invitation} (hcode : invite.code ≠ [])
    (hend : invite.relayAddr = [] ∨ escapedParams invite ≠ []) :
    trimSpace invite.toURI = invite.toURI := by
  suffices hescaped : ∃ front text, text ≠ [] ∧ invite.toURI = front ++ queryEscape text by
    obtain ⟨front, text, htext, hshape⟩ := hescaped
    rw [toURI_eq hcode, trimSpace_joinURL, ← toURI_eq hcode, hshape,
      trimRight_append_queryEscape htext]
  rw [toURI_eq hcode]
  by_cases hfingerprint : invite.spkiFingerprint = []
  · by_cases htransport : invite.transportMode = []
    · have hparams : escapedParams invite = [] := by
        rw [escapedParams, part, part, if_pos hfingerprint, if_pos htransport]
        rfl
      have hrelay := hend.resolve_right (not_not_intro hparams)
      refine ⟨joinURL (ascii "code" ++ [equals]), _, hcode, ?_⟩
      rw [hparams, part, if_pos hrelay, codeParam]
      simp [joinURL]
    · refine ⟨joinURL (codeParam invite.code ++
        part (ascii "relay") invite.relayAddr invite.relayAddr ++
          ampersand :: (ascii "transport" ++ [equals])), _, htransport, ?_⟩
      simp [escapedParams, part, hfingerprint, htransport, joinURL]
  · refine ⟨joinURL (codeParam invite.code ++
      part (ascii "relay") invite.relayAddr invite.relayAddr ++
        part (ascii "transport") (queryEscape invite.transportMode) invite.transportMode ++
          ampersand :: (ascii "fingerprint" ++ [equals])), _, hfingerprint, ?_⟩
    simp [escapedParams, part, hfingerprint, joinURL]

/-! ## The three forms -/

section Forms

variable (rules : HostRules)

theorem joinMark_eq : joinMark = hash :: ascii "join=" := by decide

theorem fromLanding_of_not_mem {raw : Bytes} (hraw : hash ∉ raw) : fromLanding raw = raw := by
  rw [fromLanding, joinMark_eq, splitWord_of_not_mem _ hraw]

theorem parseInvite_of_trimSpace {raw text : Bytes} (htrim : trimSpace raw = text)
    (htext : text ≠ []) : parseInvite rules raw = parseURI rules (fromLanding text) := by
  subst htrim
  rw [parseInvite]
  exact if_neg htext

theorem toURI_ne_nil (invite : Invitation) : invite.toURI ≠ [] := List.cons_ne_nil _ _

theorem parseInvite_toURI {invite : Invitation} (hcode : invite.code ≠ [])
    (hrelay : Transparent invite.relayAddr)
    (hend : invite.transportMode = [] → invite.spkiFingerprint = [] →
      trimRight invite.relayAddr = invite.relayAddr) :
    parseInvite rules invite.toURI = .ok invite := by
  have htrim : trimSpace invite.toURI = invite.toURI := by
    by_cases hvalue : invite.relayAddr = []
    · exact trimSpace_toURI hcode (.inl hvalue)
    · rcases escapedParams_cases invite with ⟨htransport, hfingerprint, hnone⟩ | ⟨rest, hsome⟩
      · rw [toURI_eq_relayURI hcode hvalue, trimSpace_relayURI hnone, hend htransport hfingerprint]
      · exact trimSpace_toURI hcode (.inr (hsome ▸ List.cons_ne_nil _ _))
  have hhash : hash ∉ invite.toURI := by
    rw [toURI_eq hcode]
    exact not_mem_joinURL (by decide) (not_mem_params (by decide) (hrelay.not_mem (by decide)))
  rw [parseInvite_of_trimSpace rules htrim (toURI_ne_nil invite), fromLanding_of_not_mem hhash,
    parseURI_toURI rules hcode hrelay]

/-- What is left of the URI after trimming. -/
theorem exists_relayURI_of_trimSpace {invite : Invitation} (hcode : invite.code ≠ [])
    (hvalue : invite.relayAddr ≠ []) :
    ∃ relay, trimSpace invite.toURI = relayURI invite relay ∧ relay <+: invite.relayAddr ∧
      (invite.transportMode = [] → invite.spkiFingerprint = [] →
        relay = trimRight invite.relayAddr) := by
  rcases escapedParams_cases invite with ⟨-, -, hnone⟩ | ⟨rest, hsome⟩
  · exact ⟨_, by rw [toURI_eq_relayURI hcode hvalue, trimSpace_relayURI hnone],
      prefix_trimRight _, fun _ _ => rfl⟩
  · have hparams : escapedParams invite ≠ [] := hsome ▸ List.cons_ne_nil _ _
    refine ⟨invite.relayAddr, ?_, List.prefix_rfl, fun htransport hfingerprint => ?_⟩
    · rw [trimSpace_toURI hcode (.inr hparams), toURI_eq_relayURI hcode hvalue]
    · exact absurd (by simp [escapedParams, part, htransport, hfingerprint]) hparams

theorem transparent_of_toURI {invite parsed : Invitation} (hcode : invite.code ≠ [])
    (hparse : parseInvite rules invite.toURI = .ok parsed) (hcarries : Carries parsed invite) :
    Transparent invite.relayAddr ∧ (invite.transportMode = [] → invite.spkiFingerprint = [] →
      trimRight invite.relayAddr = invite.relayAddr) := by
  by_cases hvalue : invite.relayAddr = []
  · rw [hvalue]
    exact ⟨fun _ hmem => absurd hmem List.not_mem_nil, fun _ _ => rfl⟩
  obtain ⟨relay, htrim, hstarts, hend⟩ := exists_relayURI_of_trimSpace hcode hvalue
  rw [parseInvite_of_trimSpace rules htrim (List.cons_ne_nil _ _)] at hparse
  obtain ⟨hcontrol, hhash, hampersand, hsemicolon, hunescape⟩ :=
    relay_of_fromLanding rules hparse hcarries hvalue hstarts.length_le
  obtain rfl : relay = invite.relayAddr :=
    hstarts.eq_of_length_le (length_queryUnescape hunescape).1
  exact ⟨transparent_of_not_mem hcontrol hhash hampersand hsemicolon hunescape,
    fun htransport hfingerprint => (hend htransport hfingerprint).symm⟩

theorem parseInvite_toWebURL (invite : Invitation) :
    parseInvite rules invite.toWebURL = parseURI rules invite.toURI := by
  obtain ⟨rest, hrest⟩ : ∃ rest, invite.toWebURL = 0x68 :: rest := ⟨_, rfl⟩
  have htrim : trimSpace invite.toWebURL = invite.toWebURL := by
    rw [trimSpace, hrest, trimLeft_cons (by decide), ← hrest, Invitation.toWebURL,
      trimRight_append_queryEscape (toURI_ne_nil invite)]
  have hlanding : fromLanding invite.toWebURL = invite.toURI := by
    have hbefore : hash ∉ defaultLandingURL := by decide +kernel
    have hafter : hash ∉ queryEscape invite.toURI := not_mem_queryEscape (by decide) _
    have hlength : invite.toWebURL.length = rest.length + 1 := by rw [hrest, List.length_cons]
    rw [fromLanding, hlength, Invitation.toWebURL, joinMark_eq, List.append_assoc,
      splitWord_append _ hbefore hafter]
    dsimp only
    rw [queryUnescape_queryEscape, Option.getD_some]
  rw [parseInvite_of_trimSpace rules htrim (hrest ▸ List.cons_ne_nil _ _), hlanding]

theorem transparent_of_toWebURL {invite parsed : Invitation} (hcode : invite.code ≠ [])
    (hparse : parseInvite rules invite.toWebURL = .ok parsed)
    (hrelay : parsed.relayAddr = invite.relayAddr) : Transparent invite.relayAddr := by
  by_cases hvalue : invite.relayAddr = []
  · rw [hvalue]
    exact fun _ hmem => absurd hmem List.not_mem_nil
  rw [parseInvite_toWebURL, toURI_eq_relayURI hcode hvalue] at hparse
  have hcases := relay_of_parseURI rules hparse (hrelay ▸ hvalue)
  rw [hrelay] at hcases
  obtain ⟨hcontrol, hhash, hampersand, hsemicolon, hunescape⟩ :=
    hcases.resolve_left (lt_irrefl _)
  exact transparent_of_not_mem hcontrol hhash hampersand hsemicolon hunescape

/-- A code that is taken for itself: no white space around it, not one `#join=` inside it,
and not a URI. -/
def Bare (code : Bytes) : Prop :=
  trimSpace code = code ∧ (splitWord joinMark code.length code).length ≠ 2 ∧ ¬ uriScheme <+: code

instance (code : Bytes) : Decidable (Bare code) :=
  inferInstanceAs (Decidable (_ ∧ _ ∧ _))

theorem fromLanding_cases (raw : Bytes) :
    (fromLanding raw = raw ∧ (splitWord joinMark raw.length raw).length ≠ 2) ∨
      (fromLanding raw).length < raw.length := by
  rw [fromLanding]
  split
  · next before after hsplit =>
      right
      have hunescaped : ((queryUnescape after).getD after).length ≤ after.length := by
        cases hunescape : queryUnescape after with
        | none => exact le_rfl
        | some text => exact (length_queryUnescape hunescape).1
      have hlength := congrArg List.length (eq_append_of_splitWord hsplit)
      have hmark : joinMark.length = 6 := by decide
      simp only [List.length_append] at hlength
      omega
  · next hother =>
      refine .inl ⟨rfl, fun hlength => ?_⟩
      obtain ⟨before, after, hsplit⟩ := List.length_eq_two.mp hlength
      exact hother before after hsplit

theorem code_of_parseURI {raw : Bytes} {parsed : Invitation}
    (hparse : parseURI rules raw = .ok parsed) :
    (¬ uriScheme <+: raw ∧ parsed.code = raw) ∨ parsed.code.length < raw.length := by
  by_cases hscheme : uriScheme <+: raw
  · right
    obtain ⟨rawQuery, hquery, hcode, hvalue, -, -, -⟩ := eq_of_parseURI rules hparse hscheme
    rw [hcode] at hvalue ⊢
    have hinside := length_get_parseQuery hvalue
    have hlength := length_le_of_parseURL rules hquery
    omega
  · rw [parseURI, if_neg hscheme] at hparse
    obtain rfl := Except.ok.inj hparse
    exact .inl ⟨hscheme, rfl⟩

theorem code_of_parseInvite_iff {code : Bytes} (hcode : code ≠ []) :
    (∃ parsed, parseInvite rules code = .ok parsed ∧ parsed.code = code) ↔ Bare code := by
  constructor
  · rintro ⟨parsed, hparse, hsame⟩
    have hvalue : trimSpace code ≠ [] := by
      intro hnil
      rw [parseInvite, hnil] at hparse
      cases hparse
    rw [parseInvite_of_trimSpace rules rfl hvalue] at hparse
    have htrimLength := length_trimSpace_le code
    -- any step that removed a byte would leave a shorter code
    rcases code_of_parseURI rules hparse with ⟨hscheme, hplain⟩ | hshorter
    · rw [hsame] at hplain
      rcases fromLanding_cases (trimSpace code) with ⟨hlanding, hpieces⟩ | hshorter
      · have htrim : trimSpace code = code := by rw [← hlanding, ← hplain]
        rw [htrim] at hlanding hpieces hscheme
        rw [hlanding] at hscheme
        exact ⟨htrim, hpieces, hscheme⟩
      · rw [← hplain] at hshorter
        omega
    · rw [hsame] at hshorter
      rcases fromLanding_cases (trimSpace code) with ⟨hlanding, -⟩ | hlanding
      · rw [hlanding] at hshorter
        omega
      · omega
  · rintro ⟨htrim, hpieces, hscheme⟩
    have hlanding : fromLanding code = code := by
      rw [fromLanding]
      split
      · next hsplit =>
          rw [hsplit] at hpieces
          exact absurd rfl hpieces
      · rfl
    refine ⟨⟨code, [], [], []⟩, ?_, rfl⟩
    rw [parseInvite_of_trimSpace rules htrim hcode, hlanding, parseURI, if_neg hscheme]

/-- Exactly which codes and relay addresses survive the three forms.  Only the relay
address can break a URI or a link: it is written into the query as it stands. -/
theorem joined_iff (code relay : Bytes) (hcode : code ≠ []) :
    ((∃ parsed, parseInvite rules code = .ok parsed ∧ parsed.code = code) ↔ Bare code) ∧
    ((∃ parsed, parseInvite rules (generateInvite code relay).toURI = .ok parsed ∧
      parsed.code = code ∧ parsed.relayAddr = relay) ↔
        Transparent relay ∧ trimRight relay = relay) ∧
    ((∃ parsed, parseInvite rules (generateInvite code relay).toWebURL = .ok parsed ∧
      parsed.code = code ∧ parsed.relayAddr = relay) ↔ Transparent relay) ∧
    ∀ invite : Invitation, invite.code = code → invite.relayAddr = relay →
      (parseInvite rules invite.toURI = .ok invite ↔
        Transparent relay ∧ (invite.transportMode = [] → invite.spkiFingerprint = [] →
          trimRight relay = relay)) ∧
      (parseInvite rules invite.toWebURL = .ok invite ↔ Transparent relay) := by
  refine ⟨code_of_parseInvite_iff rules hcode, ⟨?_, ?_⟩, ⟨?_, ?_⟩, ?_⟩
  · rintro ⟨parsed, hparse, -, hrelay⟩
    obtain ⟨htransparent, hend⟩ := @transparent_of_toURI rules (generateInvite code relay) parsed
      hcode hparse ⟨hrelay, .inl rfl, .inl rfl⟩
    exact ⟨htransparent, hend rfl rfl⟩
  · rintro ⟨htransparent, hend⟩
    exact ⟨_, @parseInvite_toURI rules (generateInvite code relay) hcode htransparent
      fun _ _ => hend, rfl, rfl⟩
  · rintro ⟨parsed, hparse, -, hrelay⟩
    exact @transparent_of_toWebURL rules (generateInvite code relay) parsed hcode hparse hrelay
  · intro htransparent
    refine ⟨generateInvite code relay, ?_, rfl, rfl⟩
    rw [parseInvite_toWebURL]
    exact @parseURI_toURI rules (generateInvite code relay) hcode htransparent
  · rintro invite rfl rfl
    refine ⟨⟨fun hparse => transparent_of_toURI rules hcode hparse (carries_self invite),
      fun hgood => parseInvite_toURI rules hcode hgood.1 hgood.2⟩,
      ⟨fun hparse => transparent_of_toWebURL rules hcode hparse rfl, fun htransparent => ?_⟩⟩
    rw [parseInvite_toWebURL, parseURI_toURI rules hcode htransparent]

end Forms

def anyHost : HostRules := ⟨fun _ => true, rfl⟩

theorem joined_iff_localhost :
    parseInvite anyHost (generateInvite (ascii "orbit-nova") (ascii "localhost:9000")).toURI =
      .ok (generateInvite (ascii "orbit-nova") (ascii "localhost:9000")) :=
  ((joined_iff anyHost (ascii "orbit-nova") (ascii "localhost:9000") (by decide)).2.2.2
    (generateInvite (ascii "orbit-nova") (ascii "localhost:9000")) rfl rfl).1.mpr
      ⟨by decide +kernel, fun _ _ => by decide +kernel⟩

/-- A blank in front of the code is lost, and so is a relay address after its first
ampersand. -/
theorem parseInvite_truncates :
    parseInvite anyHost (ascii " orbit-nova") = .ok (generateInvite (ascii "orbit-nova") []) ∧
      parseInvite anyHost
          (generateInvite (ascii "orbit-nova") (ascii "wss://relay/?a=1&b=2")).toURI =
        .ok (generateInvite (ascii "orbit-nova") (ascii "wss://relay/?a=1")) ∧
      parseInvite anyHost
          (generateInvite (ascii "orbit-nova") (ascii "wss://relay/?a=1&b=2")).toWebURL =
        .ok (generateInvite (ascii "orbit-nova") (ascii "wss://relay/?a=1")) := by
  decide +kernel

end ZeroFeed.Invite
