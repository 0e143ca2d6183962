/-!
# Targets of requests

A request names its target in one of three ways: as a path with a query, as a whole address whose
authority comes before the path, or as an authority alone. `*` is a path of its own. What follows a
`#` is no part of the target.

Each part has its own characters. Bytes beyond ASCII may stand in a path and in a query, but not in
an authority; there a percent sign belongs to the user or inside brackets, and after the user at
most one colon remains.
-/

set_option autoImplicit false

namespace Errand.Web.Target

/-- A character that the names of methods, headers and media types may have. -/
def isTokenChar (c : Char) : Bool :=
  c.isAlphanum || "!#$%&'*+-.^_\x60|~".toList.contains c

/-! ### Authorities -/

/-- A character of an authority that stands for itself. -/
def isAuthorityChar (c : Char) : Bool :=
  c.isAlphanum || "!$&'()*+,-.;=_~".toList.contains c

/-- What is known of an authority after some of its characters. -/
structure Authority where
  /-- The colons since the user or the closing bracket. -/
  colons : Nat := 0
  /-- Whether there was an opening bracket. -/
  opened : Bool := false
  /-- Whether there was a closing bracket. -/
  closed : Bool := false
  /-- Whether there was a percent sign since the user or the closing bracket. -/
  escaped : Bool := false
  /-- Whether the last character ended a user. -/
  afterUser : Bool := false
deriving DecidableEq, Repr

namespace Authority

/-- What is known after one more character. -/
def step? (known : Authority) (c : Char) : Option Authority :=
  let known := { known with afterUser := false }
  match c with
  | ':' => if known.colons < 8 then some { known with colons := known.colons + 1 } else none
  | '[' => if known.escaped || known.opened then none else some { known with opened := true }
  | ']' =>
    if known.opened && !known.closed then
      some { known with closed := true, colons := 0, escaped := false }
    else none
  | '@' => some { known with colons := 0, escaped := false, afterUser := true }
  | '%' => some { known with escaped := true }
  | c => if isAuthorityChar c then some known else none

/-- Whether an authority may end here. -/
def isWhole (known : Authority) : Bool :=
  known.opened == known.closed && known.colons ≤ 1 && !known.afterUser && !known.escaped

end Authority

/-- A character that ends an authority. -/
def endsAuthority (c : Char) : Bool :=
  c == '/' || c == '?' || c == '#'

/-- Whether a text is an authority; it may be empty. -/
def isAuthority (text : List Char) : Bool :=
  (text.foldlM Authority.step? {}).any Authority.isWhole

/-! ### Paths -/

/-- A character of a path. -/
def isPathChar (c : Char) : Bool :=
  0x20 < c.toNat && !(['<', '>', '\x60', '?', '#'].contains c)

/-- A character of a query. -/
def isQueryChar (c : Char) : Bool :=
  0x20 < c.toNat && !(['"', '<', '>', '#'].contains c)

/-- The path of a text that may have a query; none if it has a character that cannot stand there. -/
def pathOf? (text : List Char) : Option (List Char) :=
  let main := text.takeWhile (· != '#')
  let path := main.takeWhile (· != '?')
  if path.all isPathChar && (main.drop (path.length + 1)).all isQueryChar then some path else none

/-! ### Targets -/

/-- A character of a scheme, at any place. -/
def isSchemeChar (c : Char) : Bool :=
  c.isAlphanum || c == '+' || c == '-' || c == '.' || c == '~'

/-- What follows the scheme of a text, if it has one. -/
def afterScheme? (text : List Char) : Option (List Char) :=
  let scheme := text.takeWhile isSchemeChar
  match text.drop scheme.length with
  | ':' :: '/' :: '/' :: rest => if 3 < text.length then some rest else none
  | _ => none

/-- The longest scheme that is taken. -/
def maxSchemeLength : Nat := 64

/-- The longest target that is taken, in bytes. -/
def maxLength : Nat := 65534

/-- The path of a target; none if the target is none. -/
def path? (target : String) : Option String :=
  let text := target.toList
  if maxLength < target.utf8ByteSize then none
  else
    match text with
    | [] => none
    | ['*'] => some "*"
    | '/' :: _ => (pathOf? text).map String.ofList
    | _ =>
      match afterScheme? text with
      | none => if isAuthority text then some "" else none
      | some rest =>
        let authority := rest.takeWhile (!endsAuthority ·)
        if authority.isEmpty || maxSchemeLength + 3 + rest.length < text.length ||
            !isAuthority authority then none
        else
          (pathOf? (rest.drop authority.length)).map fun path =>
            if path.isEmpty then "/" else String.ofList path

end Errand.Web.Target
