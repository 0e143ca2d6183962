import Errand.Text.Blank
import Errand.Web.Host

/-!
# Addresses

An address as it is typed in and as it is written: a scheme, an authority with a host, a path, a
query and a fragment. Some schemes are special: their addresses always have a host, however many
slashes of either kind come before it, and their paths always begin with a slash. Reading is
lenient. Blanks and controls around an address are dropped, tabs and line ends anywhere; characters
that cannot stand where they do are written as bytes; a part of the path that is a point is left
out, and two points also take away the part before them.
-/

set_option autoImplicit false

namespace Errand.Web

/-- Who is addressed. -/
structure Authority where
  /-- The user. -/
  user : String := ""
  /-- The user's password. -/
  password : String := ""
  /-- The host. -/
  host : Host
  /-- The number at the host, if it is not the usual one. -/
  portNumber : Option Nat := none
deriving DecidableEq, Repr

/-- The path of an address. -/
inductive Path
  /-- Parts, each after a slash. -/
  | parts (parts : List String)
  /-- A text without parts. -/
  | whole (text : String)
deriving DecidableEq, Repr

/-- An address. -/
structure Url where
  /-- The scheme. -/
  scheme : String
  /-- Who is addressed. -/
  authority : Option Authority
  /-- The path. -/
  path : Path
  /-- What follows a question mark. -/
  query : Option String
  /-- What follows a number sign. -/
  fragment : Option String
deriving DecidableEq, Repr

namespace Url

/-! ### Schemes -/

/-- The special schemes, and the usual numbers at their hosts. -/
def special : List (String × Option Nat) :=
  [("http", some 80), ("https", some 443), ("ws", some 80), ("wss", some 443), ("ftp", some 21),
    ("file", none)]

/-- Whether a scheme is special. -/
def isSpecial (scheme : String) : Bool :=
  (special.lookup scheme).isSome

/-- A slash, or what counts as one in special addresses. -/
def isSlash (special : Bool) (c : Char) : Bool :=
  c == '/' || (special && c == '\\')

/-- A character that ends an authority. -/
def endsAuthority (special : Bool) (c : Char) : Bool :=
  isSlash special c || c == '?' || c == '#'

/-- The scheme of a text in lower case, and what follows it. -/
def splitScheme? (text : List Char) : Option (String × List Char) :=
  let isSchemeChar (c : Char) : Bool := c.isAlphanum || c == '+' || c == '-' || c == '.'
  let scheme := text.takeWhile isSchemeChar
  match scheme, text.drop scheme.length with
  | first :: _, ':' :: rest =>
    if first.isAlpha then some (String.ofList (scheme.map Char.toLower), rest) else none
  | _, _ => none

/-! ### Authorities -/

/-- The text before the last `@` and the text after it. -/
def splitUser (text : List Char) : Option (List Char) × List Char :=
  let host := (text.reverse.takeWhile (· != '@')).reverse
  if host.length = text.length then (none, text)
  else (some (text.take (text.length - host.length - 1)), host)

/-- The host, which ends at a colon outside brackets, and what follows it. -/
def splitHost (inBrackets : Bool) : List Char → List Char × List Char
  | [] => ([], [])
  | c :: rest =>
    if c = ':' && !inBrackets then ([], c :: rest)
    else
      let (host, after) := splitHost (c = '[' || (inBrackets && c != ']')) rest
      (c :: host, after)

/-- The number of 16 bits that digits stand for. No digits stand for none, and the usual number is
not kept. -/
def portNumber? (usual : Option Nat) (digits : List Char) : Option (Option Nat) := do
  let number ← Host.digits? 10 digits
  if 65535 < number then none
  else if digits.isEmpty || some number = usual then return none
  else return some number

/-- Reads an authority, and gives what follows it. A special scheme needs a host, and so do a user
and a number. A backslash after the digits of a number already belongs to the path. -/
def authority? (scheme : String) (text : List Char) : Option (Authority × List Char) := do
  let special := isSpecial scheme
  let (user, rest) := splitUser text
  let encode (part : List Char) : String := String.ofList (Percent.encode Percent.userSet part)
  let name := (user.getD []).takeWhile (· != ':')
  let password := (user.getD []).drop (name.length + 1)
  let (host, after) := splitHost false rest
  if host.isEmpty && (special || user.isSome || !after.isEmpty) then none
  let host ← if special then Host.parse? host else Host.foreign? host
  let digits := (after.drop 1).takeWhile (· != '\\')
  let portNumber ← portNumber? ((Url.special.lookup scheme).join) digits
  return ({ user := encode name, password := encode password, host, portNumber },
    after.drop (digits.length + 1))

/-! ### Paths -/

/-- The parts of a text between slashes. -/
def pathParts (special : Bool) (text : List Char) : List (List Char) :=
  Text.parts '/' (text.map fun c => if isSlash special c then '/' else c)

/-- A part with its points written out. -/
def bare (part : List Char) : List Char :=
  match part with
  | '%' :: '2' :: e :: rest => if e = 'e' ∨ e = 'E' then '.' :: bare rest else part
  | c :: rest => c :: bare rest
  | [] => []

/-- A letter and a colon or a bar, as the drives of a machine are named; a backslash ends the name
like the end of the text. -/
def isDrive : List Char → Bool
  | letter :: mark :: rest =>
    letter.isAlpha && (mark == ':' || mark == '|') && (rest.isEmpty || rest.head? = some '\\')
  | _ => false

/-- The parts without the last one; a drive is not left. -/
def up (parts : List (List Char)) : List (List Char) :=
  if parts.getLast?.any isDrive then parts else parts.dropLast

/-- Walks along parts, from the parts already passed. -/
def walk (passed : List (List Char)) : List (List Char) → List (List Char)
  | [] => passed
  | part :: rest =>
    let dots := bare part
    if dots = "..".toList then
      let passed := up passed
      if rest.isEmpty then passed ++ [[]] else walk passed rest
    else if dots = ".".toList then
      if rest.isEmpty then passed ++ [[]] else walk passed rest
    else walk (passed ++ [part]) rest

/-- The path that a text after the authority makes. -/
def pathOf (scheme : String) (text : List Char) : Path :=
  let special := isSpecial scheme
  let file := scheme = "file"
  match text, special with
  | [], false => .parts []
  | text, _ =>
    let text := if text.head?.any (isSlash special) then text.drop 1 else text
    let text := if file then text.dropWhile (isSlash special) else text
    .parts ((walk [] (pathParts special text)).map fun part =>
      String.ofList (Percent.encode Percent.pathSet part))

/-! ### Reading -/

/-- The parts of a text before its query, in its query and in its fragment. -/
def splitTail (special : Bool) (text : List Char) :
    List Char × Option String × Option String :=
  let main := text.takeWhile (· != '#')
  let fragment := match text.drop main.length with
    | [] => none
    | _ :: rest => some (String.ofList (Percent.encode Percent.fragmentSet rest))
  let front := main.takeWhile (· != '?')
  let query := match main.drop front.length with
    | [] => none
    | _ :: rest => some (String.ofList (Percent.encode (Percent.querySet special) rest))
  (front, query, fragment)

/-- A text without what is dropped from addresses. -/
def cleaned (text : List Char) : List Char :=
  (Text.stripWhile (·.toNat ≤ 0x20) text).filter fun c => c != '\t' && c != '\n' && c != '\r'

/-- The authority and the path of an address of files: a host comes after two slashes, unless a
drive is there; the own machine need not be named. -/
def filePath? (text : List Char) : Option (Authority × Path) :=
  let own : Authority := { host := .name "" }
  match text with
  | a :: b :: rest =>
    if isSlash true a && isSlash true b then do
      let host := rest.takeWhile (!isSlash true ·)
      if host.isEmpty || isDrive host then return (own, pathOf "file" rest)
      else
        let path := pathOf "file" (rest.drop host.length)
        let host ← Host.parse? host
        return (if host = .name "localhost" then own else { host }, path)
    else some (own, pathOf "file" text)
  | text => some (own, pathOf "file" text)

/-- The authority and the path of an address. -/
def authorityAndPath? (scheme : String) (text : List Char) : Option (Option Authority × Path) :=
  let special := isSpecial scheme
  let withAuthority (text : List Char) : Option (Option Authority × Path) := do
    let front := text.takeWhile (!isSlash special ·)
    let (authority, after) ← authority? scheme front
    return (some authority, pathOf scheme (after ++ text.drop front.length))
  if scheme = "file" then (filePath? text).map fun (authority, path) => (some authority, path)
  else if special then withAuthority (text.dropWhile (isSlash true))
  else
    match text with
    | '/' :: '/' :: rest => withAuthority rest
    | '/' :: _ => some (none, pathOf scheme text)
    | _ => some (none, .whole (String.ofList (Percent.encode [] text)))

/-- Reads an address. -/
def parse? (text : String) : Option Url := do
  let (scheme, rest) ← splitScheme? (cleaned text.toList)
  let (front, query, fragment) := splitTail (isSpecial scheme) rest
  let (authority, path) ← authorityAndPath? scheme front
  return { scheme, authority, path, query, fragment }

/-! ### Writing -/

/-- An authority as it is written. -/
def authorityText (authority : Authority) : String :=
  let password := if authority.password = "" then "" else ":" ++ authority.password
  let user := authority.user ++ password
  (if user = "" then "" else user ++ "@") ++ authority.host.toText ++
    (authority.portNumber.map fun number => ":" ++ toString number).getD ""

/-- A path as it is written. -/
def pathText : Path → String
  | .parts parts => String.join (parts.map ("/" ++ ·))
  | .whole text => text

/-- An address as it is written. A path that could be taken for an authority is kept apart. -/
def toText (url : Url) : String :=
  let between := match url.authority, url.path with
    | some authority, _ => "//" ++ authorityText authority
    | none, .parts ("" :: _ :: _) => "/."
    | none, _ => ""
  url.scheme ++ ":" ++ between ++ pathText url.path ++
    (url.query.map ("?" ++ ·)).getD "" ++ (url.fragment.map ("#" ++ ·)).getD ""

/-- Whether an address has a host. -/
def hasHost (url : Url) : Bool :=
  url.authority.any fun authority => authority.host != .name ""

/-- Whether a user and a password say who asks. -/
def tells (authority : Authority) : Bool :=
  (Percent.decodeText? authority.user.toList).isSome &&
    (authority.user != "" || (Percent.decodeText? authority.password.toList).isSome)

/-- An address without its user, if the user can be told. -/
def withoutUser (url : Url) : Url :=
  match url.authority with
  | some authority =>
    if tells authority then
      { url with authority := some { authority with user := "", password := "" } }
    else url
  | none => url

end Url

end Errand.Web
