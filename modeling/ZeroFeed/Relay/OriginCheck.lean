import ZeroFeed.Core.Text
import ZeroFeed.Crypto.Cipher

/-!
# The origin of a WebSocket request (`isAllowedOrigin`, `UpgradeWebSocket`)

A browser names the site a request comes from.  The relay compares that text with
prefixes and suffixes; for a text that is an origin this says which hosts pass.
-/

namespace ZeroFeed.OriginCheck

open ZeroFeed.ByteString
open ZeroFeed.Cipher
open ZeroFeed.Text

variable (casing : Casing)

def comma : Byte := 0x2C

def loopbackPrefixes : List Bytes :=
  [ascii "http://localhost", ascii "https://localhost", ascii "http://127.0.0.1",
    ascii "https://127.0.0.1"]

/-- `envAllowed` is the value of `ZEROFEED_ALLOWED_ORIGINS`, empty if it is unset. -/
def isAllowedOrigin (envAllowed origin host : Bytes) : Bool :=
  let lowerOrigin := casing.toLower origin
  if envAllowed ≠ [] ∧ (envAllowed = ascii "*" ∨
      ∃ allowed ∈ envAllowed.splitOn comma, casing.equalFold (trimSpace allowed) origin = true) then
    true
  else if ∃ allowed ∈ loopbackPrefixes, allowed <+: lowerOrigin then true
  else if lowerOrigin = ascii "https://nicolainzerillo.github.io" ∨
      ascii ".github.io" <:+ lowerOrigin then true
  else if host ≠ [] ∧ (lowerOrigin = ascii "http://" ++ casing.toLower host ∨
      lowerOrigin = ascii "https://" ++ casing.toLower host) then true
  else false

/-- The headers that are read, with `r.Host`. -/
structure Request where
  upgrade : Bytes
  webSocketKey : Bytes
  origin : Bytes
  host : Bytes

inductive UpgradeError where
  | notWebSocket
  | missingKey
  | originNotAllowed
  | hijackingUnsupported
  | hijackFailed
  | writeFailed
  deriving DecidableEq

/-- What the web server does once the request has been accepted. -/
structure Takeover where
  supported : Bool
  hijacked : Bool
  written : Bool

def wsMagicGUID : Bytes := ascii "258EAFA5-E914-47DA-95CA-C5AB0DC85B11"

/-- `digest` is SHA-1 in base 64. -/
def computeAcceptKey (digest : Bytes → Bytes) (clientKey : Bytes) : Bytes :=
  digest (clientKey ++ wsMagicGUID)

def switchingProtocols (acceptKey : Bytes) : Bytes :=
  ascii "HTTP/1.1 101 Switching Protocols\r\nUpgrade: websocket\r\nConnection: Upgrade\r\n" ++
    ascii "Sec-WebSocket-Accept: " ++ acceptKey ++ ascii "\r\n\r\n"

/-- The response written on the connection that is returned. -/
def upgradeWebSocket (digest : Bytes → Bytes) (envAllowed : Bytes) (request : Request)
    (takeover : Takeover) : Except UpgradeError Bytes :=
  if casing.equalFold request.upgrade (ascii "websocket") = false then .error .notWebSocket
  else
    let clientKey := trimSpace request.webSocketKey
    let origin := trimSpace request.origin
    if clientKey = [] then .error .missingKey
    else if origin ≠ [] ∧ isAllowedOrigin casing envAllowed origin request.host = false then
      .error .originNotAllowed
    else if takeover.supported = false then .error .hijackingUnsupported
    else if takeover.hijacked = false then .error .hijackFailed
    else if takeover.written = false then .error .writeFailed
    else .ok (switchingProtocols (computeAcceptKey digest clientKey))

/-- None of the checks of the request has ended the call. -/
def PastOriginCheck (result : Except UpgradeError Bytes) : Prop :=
  ∀ err ∈ [UpgradeError.notWebSocket, .missingKey, .originNotAllowed], result ≠ .error err

/-! ## Origins -/

def portText : Option Bytes → Bytes
  | none => []
  | some port => colon :: port

def originText (scheme host : Bytes) (port : Option Bytes) : Bytes :=
  scheme ++ colon :: slash :: slash :: (host ++ portText port)

/-- A text `scheme://host` or `scheme://host:port`.  A colon in the host needs
brackets around it, and there is no white space around the text. -/
structure Origin where
  scheme : Bytes
  host : Bytes
  port : Option Bytes
  hscheme : colon ∉ scheme
  hhost : slash ∉ host ∧
    (colon ∈ host → host.head? = some leftBracket ∧ host.getLast? = some rightBracket)
  hport : ∀ digits ∈ port, ∀ byte ∈ digits, isDigit byte = true
  htrimmed : trimSpace (originText scheme host port) = originText scheme host port

namespace Origin

variable (origin : Origin)

def text : Bytes := originText origin.scheme origin.host origin.port

theorem trimSpace_text : trimSpace origin.text = origin.text := origin.htrimmed

/-- The hosts that are meant to pass, and the relay's own pages. -/
def Intended (host : Bytes) : Prop :=
  casing.toLower origin.host = ascii "localhost" ∨
    casing.toLower origin.host = ascii "127.0.0.1" ∨
    ascii ".github.io" <:+ casing.toLower origin.host ∨
    casing.toLower origin.text = ascii "http://" ++ casing.toLower host ∨
    casing.toLower origin.text = ascii "https://" ++ casing.toLower host

def webSchemes : List Bytes := [ascii "http", ascii "https"]

def loopbackNames : List Bytes := [ascii "localhost", ascii "127.0.0.1"]

/-- A host that only starts like a loopback name. -/
def ExtendsLoopback : Prop :=
  casing.toLower origin.scheme ∈ webSchemes ∧
    ∃ name ∈ loopbackNames, name <+: casing.toLower origin.host ∧ casing.toLower origin.host ≠ name

theorem toLower_portText {port : Option Bytes}
    (hport : ∀ digits ∈ port, ∀ byte ∈ digits, isDigit byte = true) (host : Bytes) :
    casing.toLower (host ++ portText port) = casing.toLower host ++ portText port := by
  have hdigit : ∀ byte : Byte, isDigit byte = true → byte < 0x80 ∧ lowerByte byte = byte := by
    decide +kernel
  cases port with
  | none => rw [portText, List.append_nil, List.append_nil]
  | some digits =>
      have hdigits : casing.toLower digits = digits := by
        have hbytes := hport digits rfl
        rw [casing.toLower_of_forall fun byte hmem => (hdigit byte (hbytes byte hmem)).1]
        exact List.map_congr_left (fun byte hmem => (hdigit byte (hbytes byte hmem)).2) |>.trans
          (List.map_id digits)
      rw [portText, casing.toLower_append_cons _ _ (by decide), hdigits]
      rfl

theorem toLower_text :
    casing.toLower origin.text = casing.toLower origin.scheme ++
      colon :: slash :: slash :: (casing.toLower origin.host ++ portText origin.port) := by
  rw [text, originText, casing.toLower_append_cons _ _ (by decide),
    casing.toLower_cons _ (by decide), casing.toLower_cons _ (by decide),
    toLower_portText casing origin.hport]
  rfl

theorem prefix_toLower_text_iff {scheme name : Bytes} (hscheme : colon ∉ scheme)
    (hname : colon ∉ name) :
    scheme ++ colon :: slash :: slash :: name <+: casing.toLower origin.text ↔
      casing.toLower origin.scheme = scheme ∧ name <+: casing.toLower origin.host := by
  have hlower : colon ∉ casing.toLower origin.scheme :=
    casing.not_mem_toLower (by decide) (by decide) origin.hscheme
  have hhost : name <+: casing.toLower origin.host ++ portText origin.port ↔
      name <+: casing.toLower origin.host := by
    cases origin.port with
    | none => rw [portText, List.append_nil]
    | some digits => exact prefix_append_cons_iff hname
  rw [toLower_text, append_cons_prefix_iff hscheme hlower, List.cons_prefix_cons,
    List.cons_prefix_cons, hhost, eq_comm]
  simp

theorem exists_loopbackPrefix_iff :
    (∃ allowed ∈ loopbackPrefixes, allowed <+: casing.toLower origin.text) ↔
      casing.toLower origin.scheme ∈ webSchemes ∧
        ∃ name ∈ loopbackNames, name <+: casing.toLower origin.host := by
  have hprefixes : loopbackPrefixes = loopbackNames.flatMap fun name =>
      webSchemes.map fun scheme => scheme ++ colon :: slash :: slash :: name := by decide +kernel
  have hschemes : ∀ scheme ∈ webSchemes, colon ∉ scheme := by decide +kernel
  have hnames : ∀ name ∈ loopbackNames, colon ∉ name := by decide +kernel
  rw [hprefixes]
  constructor
  · rintro ⟨allowed, hallowed, hstarts⟩
    obtain ⟨name, hname, hallowed⟩ := List.mem_flatMap.mp hallowed
    obtain ⟨scheme, hscheme, rfl⟩ := List.mem_map.mp hallowed
    rw [prefix_toLower_text_iff casing origin (hschemes scheme hscheme) (hnames name hname)]
      at hstarts
    exact ⟨hstarts.1 ▸ hscheme, name, hname, hstarts.2⟩
  · rintro ⟨hscheme, name, hname, hstarts⟩
    refine ⟨_, List.mem_flatMap.mpr ⟨name, hname, List.mem_map_of_mem hscheme⟩, ?_⟩
    rw [prefix_toLower_text_iff casing origin (hschemes _ hscheme) (hnames name hname)]
    exact ⟨rfl, hstarts⟩

/-- The suffix is one of the host: what comes before it ends in a slash, and a port
has no dot. -/
theorem suffix_host_of_suffix_text (hsuffix : ascii ".github.io" <:+ casing.toLower origin.text) :
    ascii ".github.io" <:+ casing.toLower origin.host := by
  have hslash : slash ∉ ascii ".github.io" := by decide +kernel
  have hcolon : colon ∉ ascii ".github.io" := by decide +kernel
  have hdot : (0x2E : Byte) ∈ ascii ".github.io" := by decide +kernel
  rw [toLower_text] at hsuffix
  cases hport : origin.port with
  | none =>
      have hsplit : casing.toLower origin.scheme ++
          colon :: slash :: slash :: (casing.toLower origin.host ++ portText none) =
          (casing.toLower origin.scheme ++ [colon, slash]) ++
            slash :: casing.toLower origin.host := by simp [portText]
      rw [hport, hsplit] at hsuffix
      exact (suffix_append_cons_iff hslash).mp hsuffix
  | some digits =>
      have hsplit : casing.toLower origin.scheme ++
          colon :: slash :: slash :: (casing.toLower origin.host ++ portText (some digits)) =
          (casing.toLower origin.scheme ++ colon :: slash :: slash :: casing.toLower origin.host) ++
            colon :: digits := by simp [portText]
      rw [hport, hsplit] at hsuffix
      have hdigits := (suffix_append_cons_iff hcolon).mp hsuffix
      have hdigit := origin.hport digits hport 0x2E (hdigits.mem hdot)
      exact absurd hdigit (by decide)

/-- An allowed origin is one that is meant to pass, or extends a loopback name. -/
theorem intended_or_extendsLoopback {host : Bytes}
    (hallowed : isAllowedOrigin casing [] origin.text host = true) :
    origin.Intended casing host ∨ origin.ExtendsLoopback casing := by
  rw [isAllowedOrigin, if_neg (by simp)] at hallowed
  split at hallowed
  · next hloopback =>
      obtain ⟨hscheme, name, hname, hstarts⟩ :=
        (exists_loopbackPrefix_iff casing origin).mp hloopback
      by_cases heq : casing.toLower origin.host = name
      · left
        rcases List.mem_pair.mp hname with rfl | rfl
        · exact .inl heq
        · exact .inr (.inl heq)
      · exact .inr ⟨hscheme, name, hname, hstarts, heq⟩
  split at hallowed
  · next hpages =>
      have hsuffix : ascii ".github.io" <:+ casing.toLower origin.text := by
        rcases hpages with hpage | hsuffix
        · rw [hpage]
          decide +kernel
        · exact hsuffix
      exact .inl (.inr (.inr (.inl (suffix_host_of_suffix_text casing origin hsuffix))))
  split at hallowed
  · next hown => exact .inl (.inr (.inr (.inr hown.2)))
  · cases hallowed

theorem isAllowedOrigin_of_extendsLoopback (hextends : origin.ExtendsLoopback casing)
    (host : Bytes) : isAllowedOrigin casing [] origin.text host = true := by
  obtain ⟨hscheme, name, hname, hstarts, -⟩ := hextends
  have hloopback := (exists_loopbackPrefix_iff casing origin).mpr ⟨hscheme, name, hname, hstarts⟩
  rw [isAllowedOrigin, if_neg (by simp), if_pos hloopback]

end Origin

/-- Of a request whose headers are in order, the origin decides. -/
theorem isAllowedOrigin_of_pastOriginCheck {digest : Bytes → Bytes} {envAllowed : Bytes}
    {request : Request} {takeover : Takeover} (horigin : trimSpace request.origin ≠ [])
    (hpast : PastOriginCheck (upgradeWebSocket casing digest envAllowed request takeover)) :
    isAllowedOrigin casing envAllowed (trimSpace request.origin) request.host = true := by
  by_contra hrefused
  rw [Bool.not_eq_true] at hrefused
  unfold upgradeWebSocket at hpast
  split at hpast
  · exact hpast .notWebSocket (by simp) rfl
  dsimp only at hpast
  split at hpast
  · exact hpast .missingKey (by simp) rfl
  rw [if_pos ⟨horigin, hrefused⟩] at hpast
  exact hpast .originNotAllowed (by simp) rfl

/-- Without configured origins, the check admits only the intended hosts exactly as
far as no other host starts with a loopback name. -/
theorem pastOriginCheck_intended_iff (digest : Bytes → Bytes) (origin : Origin) (host : Bytes) :
    (∀ (request : Request) (takeover : Takeover), request.origin = origin.text →
        request.host = host →
        PastOriginCheck (upgradeWebSocket casing digest [] request takeover) →
        origin.Intended casing host) ↔
      (origin.ExtendsLoopback casing → origin.Intended casing host) := by
  have hnonempty : origin.text ≠ [] := by simp [Origin.text, originText]
  constructor
  · intro hchecked hextends
    have hkey : trimSpace [0x61] = [0x61] := by decide +kernel
    have hallowed := Origin.isAllowedOrigin_of_extendsLoopback casing origin hextends host
    refine hchecked ⟨ascii "websocket", [0x61], origin.text, host⟩ ⟨true, true, true⟩ rfl rfl ?_
    intro err _
    rw [upgradeWebSocket, casing.equalFold_refl, if_neg (by simp)]
    dsimp only
    have hrefused : ¬ (trimSpace origin.text ≠ [] ∧
        isAllowedOrigin casing [] (trimSpace origin.text) host = false) := by
      rw [origin.trimSpace_text, hallowed]
      simp
    rw [hkey, if_neg (List.cons_ne_nil _ _), if_neg hrefused]
    simp
  · intro hextends request takeover horigin hhost hpast
    have htrimmed : trimSpace request.origin = origin.text := horigin ▸ origin.trimSpace_text
    have hallowed := isAllowedOrigin_of_pastOriginCheck casing (htrimmed ▸ hnonempty) hpast
    rw [htrimmed, hhost] at hallowed
    rcases Origin.intended_or_extendsLoopback casing origin hallowed with hintended | hloopback
    · exact hintended
    · exact hextends hloopback

/-- A site of someone else whose name starts with `localhost.`. -/
def sampleOrigin : Origin where
  scheme := ascii "http"
  host := ascii "localhost.evil.com"
  port := none
  hscheme := by decide +kernel
  hhost := by decide +kernel
  hport := by decide +kernel
  htrimmed := by decide +kernel

def sampleRequest : Request :=
  ⟨ascii "websocket", ascii "a2V5", sampleOrigin.text, ascii "relay.example"⟩

theorem pastOriginCheck_localhost_subdomain :
    PastOriginCheck (upgradeWebSocket Casing.ofAscii id [] sampleRequest ⟨true, true, true⟩) ∧
      ¬ sampleOrigin.Intended Casing.ofAscii sampleRequest.host := by
  unfold PastOriginCheck Origin.Intended
  decide +kernel

end ZeroFeed.OriginCheck
