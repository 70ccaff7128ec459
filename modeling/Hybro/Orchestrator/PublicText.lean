import Hybro.Library.PythonText
import Hybro.Library.TextPattern

/-! # Privacy-safe public text

The one-shot sanitizer of a complete text and the streaming sanitizer that
releases prefixes of a growing one. What Python takes from the Unicode database
is a parameter; the secrets are a list in the order in which they are replaced,
longest first.
-/

namespace Hybro.Orchestrator

open PythonText TextPattern

/-! ## Characters -/

/-- `str.isalnum`, `str.isprintable` and `str.casefold` of one character. -/
structure UnicodeDatabase where
  isAlnum : Char → Bool
  isPrintable : Char → Bool
  casefold : Char → Text

def asciiDatabase : UnicodeDatabase where
  isAlnum := Char.isAlphanum
  isPrintable c := 0x20 ≤ c.val && c.val < 0x7f
  casefold c := [c.toLower]

variable (unicode : UnicodeDatabase)

def UnicodeDatabase.casefoldText (text : Text) : Text := text.flatMap unicode.casefold

def isWordChar (c : Char) : Bool := unicode.isAlnum c || c == '_'

/-- The letter a character stands for under `(?i)`. -/
def ignoringCase (c : Char) : Char :=
  match c with
  | '\u0130' | '\u0131' => 'i'
  | '\u017f' => 's'
  | '\u212a' => 'k'
  | c => c.toLower

def literal (word : String) : Pattern :=
  .all (word.toList.map fun letter => .char fun c => ignoringCase c == letter)

def anyOf (characters : String) (c : Char) : Bool := characters.toList.contains c

def noneOf (characters : String) (c : Char) : Bool := !(isSpace c || anyOf characters c)

/-! ## Credential patterns -/

def redaction : Text := "[REDACTED]".toList

def publicDsnSchemes : Pattern :=
  .oneOf [.seq (literal "http") (.optional (literal "s")),
    .seq (literal "mongodb") (.optional (literal "+srv")),
    .seq (literal "redis") (.optional (literal "s")),
    .seq (literal "amqp") (.optional (literal "s")),
    .seq (literal "postgres") (.optional (literal "ql")), literal "mysql"]

def schemeWord : Pattern := .alt (literal "bearer") (literal "basic")

/-- A scheme word followed by white space is never the token. -/
def notScheme : Pattern := .notAhead (.seq schemeWord (.char isSpace))

def isTokenChar (c : Char) : Bool :=
  (ignoringCase c).isAlpha || c.isDigit || anyOf "._~+/=-" c

def authScheme : Pattern :=
  .all [.boundary (isWordChar unicode), .group schemeWord, .many1 isSpace, notScheme,
    .group (.many1 isTokenChar)]

def authTokenSpan : Pattern :=
  .all [.boundary (isWordChar unicode), schemeWord, .many1 isSpace, notScheme, .many isTokenChar]

def separatedWords (first second : String) : Pattern :=
  .all [literal first, .optional (.char (anyOf "_-")), literal second]

def queryNames : Pattern :=
  .oneOf [separatedWords "api" "key", separatedWords "access" "token", literal "auth",
    literal "password", literal "secret", literal "token"]

def scalarNames : Pattern :=
  .oneOf [separatedWords "api" "key", separatedWords "access" "token", literal "password",
    literal "secret", literal "token"]

/-- `_CREDENTIAL_PATTERNS` -/
def dsnCredential : Pattern :=
  .all [.group (.seq publicDsnSchemes (literal "://")), .group (.many (noneOf "/@:")),
    literal ":", .group (.many1 (noneOf "/@")), literal "@"]

def queryCredential : Pattern :=
  .all [.group (.all [.char (anyOf "?&"), queryNames, literal "="]),
    .group (.many1 (noneOf "&#"))]

def scalarCredential : Pattern :=
  .all [.group scalarNames, .many isSpace, .char (anyOf ":="), .many isSpace,
    .group (.many1 (noneOf ",;"))]

/-- `_ACTIVE_CREDENTIAL_PATTERNS`: a value that may still grow. -/
def activeCredentialPatterns : List Pattern :=
  [.all [publicDsnSchemes, literal "://", .many (noneOf "@"), .atEnd],
    .all [.char (anyOf "?&"), queryNames, literal "=", .many (noneOf "&#"), .atEnd],
    .all [scalarNames, .many isSpace, .char (anyOf ":="), .many isSpace, .many (noneOf ",;"),
      .atEnd]]

/-! ## Tokens of a scheme -/

def isBase64Char (c : Char) : Bool := c.isAlphanum || c == '+' || c == '/'

/-- `_BASE64.fullmatch` -/
def isBase64 : Text → Bool
  | [] => true
  | [a, b, '=', '='] => isBase64Char a && isBase64Char b
  | [a, b, c, '='] => isBase64Char a && isBase64Char b && isBase64Char c
  | a :: b :: c :: d :: rest =>
      isBase64Char a && isBase64Char b && isBase64Char c && isBase64Char d && isBase64 rest
  | _ => false

def sextet (c : Char) : Nat :=
  if c.isUpper then c.toNat - 65
  else if c.isLower then c.toNat - 71
  else if c.isDigit then c.toNat + 4
  else if c == '+' then 62 else 63

/-- `base64.b64decode` of a text that `isBase64` accepts. -/
def b64decode : Text → List Nat
  | [a, b, '=', '='] => [sextet a * 4 + sextet b / 16]
  | [a, b, c, '='] =>
      [sextet a * 4 + sextet b / 16, sextet b % 16 * 16 + sextet c / 4]
  | a :: b :: c :: d :: rest =>
      [sextet a * 4 + sextet b / 16, sextet b % 16 * 16 + sextet c / 4,
        sextet c % 4 * 64 + sextet d] ++ b64decode rest
  | _ => []

def decodeUtf8 (bytes : List Nat) : Option Text :=
  (String.fromUTF8? ⟨(bytes.map Nat.toUInt8).toArray⟩).map String.toList

/-- Whether a decoded Basic token is a printable `user:password`. -/
def isUserPassword (decoded : Text) : Bool :=
  let user := decoded.takeWhile (· != ':')
  let password := decoded.drop (user.length + 1)
  user.length < decoded.length && !user.isEmpty && !password.isEmpty &&
    decoded.all unicode.isPrintable

def rstrip (characters : String) (text : Text) : Text :=
  (text.reverse.dropWhile (anyOf characters)).reverse

def isAuthToken (scheme value token : Text) : Bool :=
  if scheme.map ignoringCase = "bearer".toList then
    16 ≤ (rstrip "." value).length && token.any Char.isDigit
  else
    !token.isEmpty && isBase64 token && (decodeUtf8 (b64decode token)).any (isUserPassword unicode)

def redactAuthToken (replacement : Text) (m : Match) : Text :=
  let value := m.group 2
  let token := rstrip ".-" value
  if !isAuthToken unicode (m.group 1) value token then m.text
  else replacement ++ value.drop token.length

/-! ## One complete text -/

def sanitizePublicText (secretValues : List Text) (replacement text : Text) : Text :=
  let withoutSecrets := secretValues.foldl (fun sanitized secret =>
    TextPattern.replace secret replacement sanitized) text
  let withoutAuth := (authScheme unicode).sub (redactAuthToken unicode replacement) withoutSecrets
  let withoutDsn := dsnCredential.sub (fun m => m.group 1 ++ replacement ++ ['@']) withoutAuth
  let withoutQuery := queryCredential.sub (fun m => m.group 1 ++ replacement) withoutDsn
  scalarCredential.sub (fun m => m.group 1 ++ replacement) withoutQuery

/-! ## Markers that may still grow -/

def dsnMarkerProbes : List Text :=
  ["mongodb://", "mongodb+srv://", "redis://", "rediss://", "amqp://", "amqps://",
    "postgres://", "postgresql://", "mysql://"].map String.toList

def authMarkerProbes : List Text := ["bearer ", "basic "].map String.toList

def strictCredentialMarkerProbes : List Text :=
  ["bearer ", "basic ", "http://", "https://", "?api_key=", "&api_key=", "?api-key=",
    "&api-key=", "?access_token=", "&access_token=", "?access-token=", "&access-token=",
    "?auth=", "&auth=", "?password=", "&password=", "?secret=", "&secret=", "?token=",
    "&token=", "api_key=", "api_key:", "api-key=", "api-key:", "access_token=",
    "access_token:", "access-token=", "access-token:", "password=", "password:", "secret=",
    "secret:", "token=", "token:"].map String.toList

def longest (texts : List Text) : Nat := (texts.map List.length).foldl max 0

def contextChars : Nat := longest (strictCredentialMarkerProbes ++ dsnMarkerProbes)

def lastChars (n : Nat) (text : Text) : Text := text.drop (text.length - n)

/-- `_context_window`: the released tail, with an "x" when it starts inside a word. -/
def contextWindow (text : Text) : Text :=
  if text.length ≤ contextChars then text
  else
    let window := lastChars contextChars text
    let insideWord := (text.reverse[contextChars]?.any (isWordChar unicode)) &&
      (window.head?.any (isWordChar unicode))
    if insideWord then 'x' :: window else window

/-! ## The streaming sanitizer -/

structure PublicTextSanitizer where
  secrets : List Text
  replacement : Text := redaction
  maxPublicChars : Nat := 32000
  lookbehindChars : Nat
  pending : Text := []
  rawContext : Text := []
  publicText : Text := []
  publicLength : Nat := 0
  deriving DecidableEq

/-- `PublicTextSanitizer(secret_values=…)` -/
def PublicTextSanitizer.fresh (secrets : List Text) : PublicTextSanitizer where
  secrets := secrets
  lookbehindChars := max 512 (longest secrets - 1)

/-- The largest size from `n` down to one that passes. -/
def largestSize (passes : Nat → Bool) : Nat → Option Nat
  | 0 => none
  | n + 1 => if passes (n + 1) then some (n + 1) else largestSize passes n

namespace PublicTextSanitizer

variable (sanitizer : PublicTextSanitizer)

def secretPrefix (lowered secret : Text) : Nat :=
  let folded := unicode.casefoldText secret
  if folded.isSuffixOf lowered then 0
  else (largestSize (fun size => (folded.take size).isSuffixOf lowered)
    (min (secret.length - 1) sanitizer.pending.length)).getD 0

def markerPrefix (lowered detectorText : Text) : Nat :=
  let completed := longest (sanitizer.secrets.filter fun secret =>
    (unicode.casefoldText secret).isSuffixOf lowered)
  let atWordStart := fun size => !(detectorText.reverse[size]?.any (isWordChar unicode))
  (largestSize (fun size => completed < size && strictCredentialMarkerProbes.any fun marker =>
      (lastChars size lowered).isPrefixOf marker &&
        (atWordStart size || !authMarkerProbes.contains marker))
    (min sanitizer.pending.length (longest strictCredentialMarkerProbes))).getD 0

def outsideAuthTokens (detectorText : Text) (contextLength releaseAt : Nat) : Nat :=
  ((authTokenSpan unicode).spans detectorText).foldl (fun releaseAt (first, last) =>
    if detectorText.length ≤ last ∨
        (first < releaseAt + contextLength ∧ releaseAt + contextLength < last) then
      min releaseAt (first - contextLength)
    else releaseAt) releaseAt

def provenSafePrefixLength : Except String Nat :=
  if sanitizer.pending = [] then .ok 0
  else
    let length := sanitizer.pending.length
    let lowered := unicode.casefoldText sanitizer.pending
    let detectorText := sanitizer.rawContext ++ sanitizer.pending
    let contextLength := sanitizer.rawContext.length
    let afterSecrets := sanitizer.secrets.foldl (fun releaseAt secret =>
      min releaseAt (length - sanitizer.secretPrefix unicode lowered secret)) length
    let afterActive := activeCredentialPatterns.foldl (fun releaseAt pattern =>
      match pattern.search detectorText with
      | some start => min releaseAt (start - contextLength)
      | none => releaseAt) afterSecrets
    let afterMarkers :=
      min afterActive (length - sanitizer.markerPrefix unicode lowered detectorText)
    let releaseAt := outsideAuthTokens unicode detectorText contextLength afterMarkers
    if sanitizer.lookbehindChars < length - releaseAt then
      .error "public credential token exceeds sanitizer bound"
    else .ok releaseAt

def appendPublic (value : Text) : Except String (PublicTextSanitizer × Text) :=
  let sanitize := sanitizePublicText unicode sanitizer.secrets sanitizer.replacement
  let combined := sanitizer.rawContext ++ value
  let sanitizedContext := sanitize sanitizer.rawContext
  let sanitizedCombined := sanitize combined
  let sanitized :=
    if sanitizedContext.isPrefixOf sanitizedCombined then
      sanitizedCombined.drop sanitizedContext.length
    else sanitize value
  if sanitizer.maxPublicChars < sanitizer.publicLength + sanitized.length then
    .error "public text limit exceeded"
  else
    .ok ({ sanitizer with
      rawContext := contextWindow unicode combined
      publicText := sanitizer.publicText ++ sanitized
      publicLength := sanitizer.publicLength + sanitized.length }, sanitized)

def feed (chunk : Text) : Except String (PublicTextSanitizer × Text) := do
  let fed := { sanitizer with pending := sanitizer.pending ++ chunk }
  if fed.maxPublicChars < fed.publicLength + fed.pending.length then
    .error "public text limit exceeded"
  else
    let releaseAt ← fed.provenSafePrefixLength unicode
    if releaseAt = 0 then return (fed, [])
    else
      let retained : PublicTextSanitizer := { fed with pending := fed.pending.drop releaseAt }
      retained.appendPublic unicode (fed.pending.take releaseAt)

def flush : Except String (PublicTextSanitizer × Text) :=
  if sanitizer.pending = [] then .ok (sanitizer, [])
  else { sanitizer with pending := [] }.appendPublic unicode sanitizer.pending

/-- `finish`: the whole public text. -/
def finish : Except String Text := do
  let (flushed, _) ← sanitizer.flush unicode
  return flushed.publicText

end PublicTextSanitizer

end Hybro.Orchestrator
