/-!
# Patterns of paths

A pattern is written like a path. `{name}` in it stands for the rest of a part between slashes, and
`{*name}` for all that is left of the path; neither stands for nothing. A brace that is meant as a
character is written twice. A part must not start with `:` or `*`.
-/

set_option autoImplicit false

namespace Errand.Web

/-- A piece of a pattern. -/
inductive PathPattern.Piece
  /-- A character that stands for itself. -/
  | literal (c : Char)
  /-- The rest of a part. -/
  | part
  /-- The rest of the path. -/
  | remainder
deriving DecidableEq, Repr

/-- A pattern that paths are compared with. -/
abbrev PathPattern := List PathPattern.Piece

namespace PathPattern

/-- The characters of a pattern; a brace that was written twice is one that is marked. -/
def marked : List Char → List (Char × Bool)
  | '\x7b' :: '\x7b' :: rest => ('\x7b', true) :: marked rest
  | '\x7d' :: '\x7d' :: rest => ('\x7d', true) :: marked rest
  | c :: rest => (c, false) :: marked rest
  | [] => []

/-- What follows the name of a parameter and its closing brace. -/
def afterName? : List (Char × Bool) → Option (List (Char × Bool))
  | [] => none
  | ('\x7d', false) :: rest => some rest
  | (c, _) :: rest => if c = '*' || c = '/' then none else afterName? rest

theorem length_afterName? {text rest : List (Char × Bool)} (h : afterName? text = some rest) :
    rest.length < text.length := by
  fun_induction afterName? text with
  | case1 => simp at h
  | case2 => simp_all
  | case3 => simp at h
  | case4 _ _ _ _ _ ih => have := ih h; simp; omega

/-- The parameter whose opening brace was read, and what follows it. Its name has a character, which
may be any but a closing brace; a parameter ends its part. -/
def parameter? : List (Char × Bool) → Option (Piece × List (Char × Bool))
  | ('\x7d', _) :: _ | [] => none
  | ('*', _) :: ('\x7d', false) :: _ => none
  | (c, _) :: name =>
    match afterName? name with
    | none => none
    | some [] => some (if c = '*' then .remainder else .part, [])
    | some (d :: rest) => if d.1 = '/' && c ≠ '*' then some (.part, d :: rest) else none

theorem length_parameter? {text rest : List (Char × Bool)} {piece : Piece}
    (h : parameter? text = some (piece, rest)) : rest.length < text.length := by
  unfold parameter? at h
  split at h
  all_goals try simp at h
  next name _ _ =>
    split at h
    · simp at h
    · simp only [Option.some.injEq, Prod.mk.injEq] at h
      simp [← h.2]
    · next rest' hn =>
      have := length_afterName? hn
      split at h
      · simp only [Option.some.injEq, Prod.mk.injEq] at h
        rw [← h.2]
        simp only [List.length_cons] at this ⊢
        omega
      · simp at h

/-- The pieces of marked characters. -/
def pieces? (text : List (Char × Bool)) : Option PathPattern :=
  match text with
  | [] => some []
  | ('\x7d', false) :: _ => none
  | ('\x7b', false) :: name =>
    match h : parameter? name with
    | none => none
    | some (piece, rest) =>
      have := length_parameter? h
      (pieces? rest).map (piece :: ·)
  | (c, _) :: rest => (pieces? rest).map (.literal c :: ·)
termination_by text.length
decreasing_by all_goals simp_all; try omega

/-- A pattern has fewer pieces than this that stand for the rest of a part. -/
def maxParts : Nat := 26

/-- Whether a part of a pattern may start as this one does. -/
def mayStart (part : String) : Bool :=
  !part.startsWith ":" && !part.startsWith "*"

/-- The pattern that a text writes down. -/
def parse? (text : String) : Option PathPattern :=
  if text.startsWith "/" && (text.splitOn "/").all mayStart then
    (pieces? (marked text.toList)).filter fun pattern => pattern.count .part < maxParts
  else none

/-- Whether a pattern stands for a path. -/
def takes : PathPattern → List Char → Bool
  | [], path => path.isEmpty
  | .literal c :: pattern, d :: path => c = d && takes pattern path
  | .literal _ :: _, [] => false
  | .part :: pattern, path =>
    let value := path.takeWhile (· ≠ '/')
    !value.isEmpty && takes pattern (path.drop value.length)
  | .remainder :: _, path => !path.isEmpty

end PathPattern

end Errand.Web
