import Courier.Subject
import Courier.Text.Case
import Courier.Rpc.Descriptor

/-!
# Subjects of services and methods

The subject of a method is built from tokens: the caller's prefix, the service's tokens and
the method's tokens. A service's tokens are `service`, then the words of its package name and
of its name without a trailing `Service`, unless the descriptor fixes them; a method's tokens
are the words of its name unless the descriptor fixes them. Words are found at capital
letters, after a run of capitals has been folded into one word (`PKGFarAway` reads
`pkg far away`), and are lowercased.

A token written `{name}` is a variable: it is replaced by the value of `name`, or by the
wildcard `*` when `name` has no value. A value scoped to a service, `service/name`, wins over
the unscoped `name`.
-/

namespace Courier.Derive

open Text

/-- Folds a leading run of capitals so that only its first and last capital remain: a word in
capitals only is lowercased whole. -/
def normalizePascalCase (word : String) : String :=
  if upper word == word then lower word
  else
    let cs := word.toList
    let run := (cs.takeWhile isUppercase).length
    if run ≤ 1 then word
    else
      String.ofList (cs.zipIdx.flatMap fun (c, i) =>
        if i == 0 || run - 1 ≤ i then [c] else lowerChar c)

/-- Splits characters before every capital after the first character; `current` is the word
being collected. -/
def splitAtCapitals : List Char → List Char → List (List Char)
  | current, [] => [current]
  | current, c :: rest =>
    if isUppercase c then current :: splitAtCapitals [c] rest
    else splitAtCapitals (current ++ [c]) rest

/-- The lowercase words of a name written in capitalized words. -/
def splitPascalCase (word : String) : List String :=
  match (normalizePascalCase word).toList with
  | [] => []
  | c :: rest =>
    (splitAtCapitals [c] rest).filterMap fun w =>
      if w.isEmpty then none else some (lower (String.ofList w))

/-- The nonempty parts of a dotted text, without their blanks at both ends. -/
def dotSplit (value : String) : List String :=
  (split value '.').map trim |>.filter (!·.isEmpty)

/-- The tokens of a service from its full name: `service`, the words of its package name and
the words of its name without a trailing `Service`. -/
def serviceTokens (fullName : String) : List String :=
  if fullName.isEmpty then []
  else
    let d : ServiceDescriptor := { fullName }
    let name := d.name
    let name := if name.endsWith "Service" then (name.dropEnd 7).toString else name
    "service" :: splitPascalCase d.packageName ++ splitPascalCase name

/-- Whether an optional text holds something other than blanks. -/
def nonBlank : Option String → Option String
  | some t => if (trim t).isEmpty then none else some t
  | none => none

/-- The tokens of a service in its subjects: fixed by its descriptor, or derived from its full
name. -/
def serviceTokensOf (service : ServiceDescriptor) : List String :=
  match nonBlank service.subjectPrefix with
  | some p => dotSplit p
  | none => serviceTokens service.fullName

/-- The tokens of a method in its subject: fixed by its descriptor, or the words of its name. -/
def methodTokensOf (method : MethodDescriptor) : List String :=
  match nonBlank method.subjectSuffix with
  | some s => dotSplit s
  | none => splitPascalCase method.name

/-- The subject tokens of a method of a service under a prefix, or why they are invalid. -/
def subjectTokens (pre : String) (service : ServiceDescriptor) (method : MethodDescriptor) :
    Except RpcError (List String) :=
  let svc := serviceTokensOf service
  if svc.isEmpty then .error (.invalidSubject (method.name ++ "@" ++ service.fullName))
  else
    let tokens := dotSplit pre ++ svc ++ methodTokensOf method
    match (Subject.join tokens).validate with
    | .error e => .error (.invalidSubject e.message)
    | .ok () => .ok tokens

/-- The variable a token names: a token that opens with `{` or closes with `}`, without its
leading braces and trailing braces. -/
def variableName (token : String) : Option String :=
  if token.startsWith "\x7b" || token.endsWith "\x7d" then
    let opened := token.toList.dropWhile (· == '\x7b')
    some (String.ofList (opened.reverse.dropWhile (· == '\x7d')).reverse)
  else none

/-- The tokens with their dotted parts split and their variables replaced by values, or by
the wildcard `*` when a variable has none. -/
def parametrize (tokens : List String) (vars : Option (List (String × String))) : List String :=
  (tokens.flatMap dotSplit).map fun t =>
    match variableName t with
    | some n => ((vars.bind (Keyed.find? n)).getD Subject.one)
    | none => t

/-- The variables of a service: the unscoped values, overridden by those scoped to the service
as `service/name`. -/
def serviceVars (fullName : String) (vars : Option (List (String × String))) :
    Option (List (String × String)) :=
  vars.map fun vs =>
    let unscoped := vs.filter fun (k, _) => !k.toList.contains '/'
    vs.foldl (fun acc (k, v) =>
      match split k '/' with
      | svc :: rest@(_ :: _) =>
        if svc == fullName then Keyed.insert ("/".intercalate rest) v acc else acc
      | _ => acc) (Keyed.ofList unscoped)

end Courier.Derive
