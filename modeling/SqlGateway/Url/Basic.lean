import SqlGateway.Text.Fold
import SqlGateway.Text.Split
import SqlGateway.Url.Host

/-!
# URLs

A URL names a scheme, the credentials, host and port of an authority, a path, and the named values
of a query. Reading it leaves out blanks at its ends and line breaks and tabulators everywhere, and
resolves the `.` and `..` segments of the path. Credentials and query values are given decoded; path
and host are given encoded.
-/

namespace SqlGateway

structure Url where
  scheme : String
  username : String
  password : Option String
  host : Option String
  port : Option UInt16
  /-- The segments of the path, percent-encoded. -/
  path : List (List Char)
  query : List (String × String)
deriving DecidableEq, Repr

namespace Url

/-! ## The pieces of the text -/

def significant (text : List Char) : List Char :=
  let isMargin (character : Char) : Bool := character.toNat ≤ 32
  let trimmed := ((text.dropWhile isMargin).reverse.dropWhile isMargin).reverse
  trimmed.filter fun character => character ∉ ['\t', '\n', '\r']

def isSchemeChar (character : Char) : Bool :=
  character.isAlphanum || ['+', '-', '.'].contains character

def scheme? (text : List Char) : Option (List Char × List Char) :=
  match text with
  | first :: _ =>
    if !first.isAlpha then none
    else
      match text.dropWhile isSchemeChar with
      | ':' :: rest => some ((text.takeWhile isSchemeChar).map Char.toLower, rest)
      | _ => none
  | [] => none

def endsAuthority (web : Bool) (character : Char) : Bool :=
  character = '/' || character = '?' || character = '#' || (web && character = '\\')

def cutLastAt (text : List Char) : Option (List Char × List Char) :=
  match Text.cut '@' text.reverse with
  | none => none
  | some (behind, before) => some (before.reverse, behind.reverse)

def credentials (text : List Char) : List Char × List Char :=
  (Text.cut ':' text).getD (text, [])

/-- The host and what follows it, a port or nothing. A colon in brackets belongs to the host. -/
def cutHost (inBrackets : Bool) : List Char → List Char × List Char
  | [] => ([], [])
  | character :: rest =>
    if character = ':' && !inBrackets then ([], character :: rest)
    else
      let inside := character = '[' || (inBrackets && character ≠ ']')
      let (host, behind) := cutHost inside rest
      (character :: host, behind)

/-- The number of a port: the digits up to the end or up to a backslash, and the rest. -/
def portNumber (total : Nat) (any : Bool) : List Char →
    Except Problem (Option UInt16 × List Char)
  | [] => .ok (if any then some total.toUInt16 else none, [])
  | character :: rest =>
    if character.isDigit then
      let value := total * 10 + Text.digitValue character
      if 65535 < value then .error .invalidPort else portNumber value true rest
    else if character = '\\' then
      .ok (if any then some total.toUInt16 else none, character :: rest)
    else .error .invalidPort

/-! ## Paths -/

def isPathChar (character : Char) : Bool :=
  32 < character.toNat && character.toNat < 127 &&
    character ∉ ['"', '<', '>', '`', '#', '?', '\x7b', '\x7d']

def isSingleDot (segment : List Char) : Bool :=
  let lower := segment.map Char.toLower
  lower = ".".toList || lower = "%2e".toList

def isDoubleDot (segment : List Char) : Bool :=
  let lower := segment.map Char.toLower
  lower = "..".toList || lower = "%2e.".toList || lower = ".%2e".toList ||
    lower = "%2e%2e".toList

/-- Whether a segment is the letter of a drive, which two points do not leave. -/
def isDrive : List Char → Bool
  | [letter, mark] => letter.isAlpha && (mark = ':' || mark = '|')
  | letter :: mark :: next :: _ =>
    letter.isAlpha && (mark = ':' || mark = '|') && next = '\\'
  | _ => false

/-- The segments above a place; `found` holds those before it, last first. -/
def ascend (found : List (List Char)) : List (List Char) :=
  match found with
  | segment :: above => if isDrive segment then found else above
  | [] => []

/-- The segments with the points resolved; `found` holds those before, last first. -/
def resolve (found : List (List Char)) : List (List Char) → List (List Char)
  | [] => found.reverse
  | segment :: rest =>
    let last := if rest.isEmpty then [[]] else []
    if isDoubleDot segment then resolve (last ++ ascend found) rest
    else if isSingleDot segment then resolve (last ++ found) rest
    else resolve (segment :: found) rest

def pathSegments (text : List Char) : List (List Char) :=
  let segments := Text.pieces '/' (match text with | '/' :: rest => rest | other => other)
  resolve [] (segments.map (Percent.encode isPathChar))

/-! ## Queries -/

def formText (text : List Char) : String :=
  Percent.decode (text.map fun character => if character = '+' then ' ' else character)

/-- One pair of a query; the value begins behind the first `=`. -/
def queryPair (text : List Char) : String × String :=
  match Text.cut '=' text with
  | some (name, value) => (formText name, formText value)
  | none => (formText text, "")

def queryPairs (text : List Char) : List (String × String) :=
  ((Text.pieces '&' text).filter fun piece => !piece.isEmpty).map queryPair

/-- The pairs of the query in the text behind authority and path, which begins with `?` if there
is a query. -/
def queryOf (text : List Char) : List (String × String) :=
  match text with
  | '?' :: rest => queryPairs (rest.takeWhile (· ≠ '#'))
  | _ => []

def isPathEnd (character : Char) : Bool := character = '?' || character = '#'

/-! ## Whole URLs -/

/-- The credentials and the host and port of an authority, as they are written. An authority that
begins with `@` and has nothing behind it is refused. -/
def cutAuthority (authority behind : List Char) :
    Except Problem (List Char × List Char × List Char) :=
  match cutLastAt authority with
  | none => .ok ([], [], authority)
  | some ([], rest) =>
    if rest.isEmpty && !behind.isEmpty then .error .emptyHost else .ok ([], [], rest)
  | some (written, rest) =>
    let (username, password) := credentials written
    .ok (username, password, rest)

def withAuthority (scheme : String) (text : List Char) : Except Problem Url :=
  let authority := text.takeWhile fun character => !endsAuthority false character
  let behind := text.dropWhile fun character => !endsAuthority false character
  match cutAuthority authority behind with
  | .error problem => .error problem
  | .ok (username, password, hostAndPort) =>
    let (written, portText) := cutHost false hostAndPort
    match Host.plain written with
    | .error problem => .error problem
    | .ok host =>
      if host.isEmpty && !portText.isEmpty then .error .emptyHost
      else
        match portNumber 0 false (portText.drop 1) with
        | .error problem => .error problem
        | .ok (port, rest) =>
          if host.isEmpty && !(username.isEmpty && password.isEmpty) then .error .emptyHost
          else
            let tail := rest ++ behind
            .ok {
              scheme
              username := Percent.decode username
              password := if password.isEmpty then none else some (Percent.decode password)
              host := if host.isEmpty then none else some (String.ofList host)
              port
              path := pathSegments (tail.takeWhile fun character => !isPathEnd character)
              query := queryOf (tail.dropWhile fun character => !isPathEnd character) }

def withoutAuthority (scheme : String) (text : List Char) : Url where
  scheme
  username := ""
  password := none
  host := none
  port := none
  path := pathSegments (text.takeWhile fun character => !isPathEnd character)
  query := queryOf (text.dropWhile fun character => !isPathEnd character)

/-! ## URLs of the web

Nothing is made of them but their scheme; they are still refused where they are not sound. -/

def webSchemes : List String := ["http", "https", "ws", "wss", "ftp"]

def checkWeb (text : List Char) : Except Problem Unit :=
  let isSlash (character : Char) : Bool := character = '/' || character = '\\'
  let text := text.dropWhile isSlash
  let authority := text.takeWhile fun character => !endsAuthority true character
  let behind := text.dropWhile fun character => !endsAuthority true character
  match cutAuthority authority behind with
  | .error problem => .error problem
  | .ok (_, _, hostAndPort) =>
    let (written, portText) := cutHost false hostAndPort
    if written.isEmpty then .error .emptyHost
    else
      match Host.checkWeb written with
      | .error problem => .error problem
      | .ok () => (portNumber 0 false (portText.drop 1)).map fun _ => ()

def checkFile (text : List Char) : Except Problem Unit :=
  match text with
  | first :: second :: rest =>
    if endsAuthority true first && endsAuthority true second &&
        !isPathEnd first && !isPathEnd second then
      let host := rest.takeWhile fun character => !endsAuthority true character
      if host.isEmpty || isDrive host then .ok () else Host.checkWeb host
    else .ok ()
  | _ => .ok ()

def ofScheme (scheme : String) : Url := ⟨scheme, "", none, none, none, [], []⟩

def parse (text : String) : Except Problem Url :=
  match scheme? (significant text.toList) with
  | none => .error .noScheme
  | some (schemeChars, rest) =>
    let scheme := String.ofList schemeChars
    if webSchemes.contains scheme then (checkWeb rest).map fun () => ofScheme scheme
    else if scheme = "file" then (checkFile rest).map fun () => ofScheme scheme
    else
      match rest with
      | '/' :: '/' :: authority => withAuthority scheme authority
      | other => .ok (withoutAuthority scheme other)

end Url

end SqlGateway
