import Courier.Text.Blank

/-!
# Subjects

A subject is the address of a message: tokens joined by dots, such as `orders.eu.created`.
As a pattern, the token `*` stands for exactly one token and `>`, as the last token, for one
or more. A subject is valid when it is nonempty, holds none of the characters
`, ? $`, space, tab, return, newline or backspace, has no empty token, and has `>` only as its
last token; the checks run in that order.

`covers p s` says that the pattern `p` covers the subject `s`, token by token, and
`overlaps` that either of two subjects covers the other.
-/

namespace Courier

/-- A message subject. -/
structure Subject where
  text : String
  deriving DecidableEq, Repr, Inhabited

/-- Why a subject is refused. -/
inductive SubjectError where
  | empty
  | emptyToken (subject : String)
  | invalidCharacters (subject : String)
  | nonTerminalWildcard (subject : String)
  | duplicate (subject : String)
  deriving DecidableEq, Repr, Inhabited

namespace SubjectError

/-- The wording of a refusal. -/
def message : SubjectError → String
  | .empty => "empty subject"
  | .emptyToken s => "subject `" ++ s ++ "` contains an empty token"
  | .invalidCharacters s => "subject `" ++ s ++ "` contains invalid characters"
  | .nonTerminalWildcard s => "subject `" ++ s ++ "` has a non-terminal `>` wildcard"
  | .duplicate s => "subject `" ++ s ++ "` is already mapped"

end SubjectError

namespace Subject

/-- The token that stands for one token. -/
def one : String := "*"

/-- The last token that stands for one or more tokens. -/
def rest : String := ">"

/-- Characters a subject may not hold. -/
def forbidden (c : Char) : Bool :=
  c == ',' || c == '?' || c == ' ' || c == '\r' || c == '\n' || c == '\t' || c == '$' ||
    c == '\x08'

/-- The tokens of a subject; none for the empty subject. -/
def tokens (s : Subject) : List String :=
  if s.text.isEmpty then [] else Text.split s.text '.'

/-- Whether the subject is empty. -/
def isEmpty (s : Subject) : Bool := s.text.isEmpty

/-- Whether some token is a wildcard. -/
def isWildcard (s : Subject) : Bool := s.tokens.any fun t => t == one || t == rest

/-- The first refusal among the tokens: an empty token, or `>` before the last token. -/
def checkTokens (s : String) : List String → Except SubjectError Unit
  | [] => .ok ()
  | t :: more =>
    if t.isEmpty then .error (.emptyToken s)
    else if t == rest && !more.isEmpty then .error (.nonTerminalWildcard s)
    else checkTokens s more

/-- Checks a subject: nonempty, no forbidden character, then its tokens. -/
def validate (s : Subject) : Except SubjectError Unit :=
  if s.text.isEmpty then .error .empty
  else if s.text.toList.any forbidden then .error (.invalidCharacters s.text)
  else checkTokens s.text s.tokens

/-- Whether the pattern tokens cover the subject tokens. -/
def tokensMatch : List String → List String → Bool
  | [], [] => true
  | [], _ :: _ => false
  | p :: ps, ts =>
    if p == rest then !ts.isEmpty
    else
      match ts with
      | [] => false
      | t :: more => (p == one || p == t) && tokensMatch ps more

/-- Whether the pattern `p` covers the subject `s`. -/
def covers (p s : Subject) : Bool := tokensMatch p.tokens s.tokens

/-- Whether either subject covers the other. -/
def overlaps (a b : Subject) : Bool := a.covers b || b.covers a

/-- The subject of a prefix and suffixes: each part without its blanks at both ends, empty
parts dropped, the rest joined by dots. -/
def build (pre : String) (suffixes : List String) : Subject :=
  ⟨".".intercalate ((pre :: suffixes).map Text.trim |>.filter (!·.isEmpty))⟩

/-- The subject of parts joined by dots, as `build` with no prefix. -/
def join (parts : List String) : Subject := build "" parts

end Subject

end Courier
