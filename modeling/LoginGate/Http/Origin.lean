import LoginGate.Http.Fields
import LoginGate.Pattern.Matches
import LoginGate.Pattern.Reader

/-!
# Http/Origin — which pages of other origins may call

A response to a path of the interface says which origin may read it. The list of allowed origins may
hold a wildcard, which stands for every origin, and patterns, which stand for the origins that start
with a match. As soon as any entry is not the wildcard, callers may send credentials.
-/

namespace LoginGate.Http.Origin

/-- The entry that stands for every origin. -/
def wildcard : String := "*"

/-- The pattern that stands for every origin as well. -/
def anyText : String := ".*"

/-- The characters that make an entry a pattern rather than an origin. -/
def patternChars : List Char := "*\\]?$^[()".toList

/-- Whether an entry is a pattern. -/
def isPattern (entry : String) : Bool := entry.toList.any patternChars.contains

/-- An entry of the list of allowed origins. -/
inductive Entry where
  | everyone
  | origin (s : String)
  | pattern (p : Pattern)

namespace Entry

/-- An entry from its text. -/
def ofText (entry : String) : Except Pattern.Fault Entry :=
  if entry = wildcard ∨ entry = anyText then .ok .everyone
  else if isPattern entry then
    match Pattern.ofText { ignoreCase := true } entry with
    | .ok p => .ok (.pattern p)
    | .error fault => .error fault
  else .ok (.origin entry)

/-- Whether an entry covers an origin; letter case does not count. -/
def covers (origin : String) : Entry → Bool
  | .everyone => true
  | .origin s => Text.sameFolded s origin
  | .pattern p => p.matchesStart origin

/-- Whether an entry stands for every origin. -/
def isEveryone : Entry → Bool
  | .everyone => true
  | _ => false

/-- The origin of an entry that is not a pattern. -/
def origin? : Entry → Option String
  | .origin s => some s
  | _ => none

end Entry

/-- Who may call, and whether with credentials. -/
structure Policy where
  entries : List Entry
  withCredentials : Bool

/-- The policy of a list of allowed origins. -/
def Policy.ofList (allowed : List String) : Except Pattern.Fault Policy := do
  let entries ← allowed.mapM Entry.ofText
  return { entries, withCredentials := allowed.any (· != wildcard) }

/-- The first of some texts in alphabetical order. -/
def first? : List String → Option String
  | [] => none
  | s :: rest =>
    match first? rest with
    | some t => some (if t < s then t else s)
    | none => some s

/-- **The origin that a response names**, if any: the caller's, if it is covered; for a caller that
names none, the wildcard unless credentials are supported, or else the first origin of the list. -/
def named? (policy : Policy) (origin : String) : Option String :=
  if origin ≠ "" then
    if policy.entries.any (·.covers origin) then some origin else none
  else if policy.entries.any (·.isEveryone) then
    if policy.withCredentials then none else some wildcard
  else first? (policy.entries.filterMap Entry.origin?)

/-- The methods that pages may use. -/
def methods : String := "DELETE, GET, HEAD, OPTIONS, PATCH, POST, PUT"

/-- The names of fields that a page asks for, trimmed and in order. -/
def askedFields (value : String) : String :=
  let names := ((Text.splitAll ',' value.toList).map Text.trim).map String.ofList
  ", ".intercalate (names.mergeSort fun a b => decide (a ≤ b))

/-- What answers the question of a page before its actual call. -/
def preflight (method : String) (fields : Fields) : Fields :=
  let asked := Text.upper (fields.getText "Access-Control-Request-Method").toList
  if method = "OPTIONS" && asked ≠ [] && Text.occursIn asked methods.toList then
    let names := askedFields (fields.getText "Access-Control-Request-Headers")
    (if names = "" then [] else [("Access-Control-Allow-Headers", names)]) ++
      [("Access-Control-Allow-Methods", methods)]
  else []

/-- Whether another caller could get another answer. -/
def varies (policy : Policy) (name : String) : Bool :=
  name != wildcard &&
    (1 < policy.entries.length || policy.entries.any fun entry => entry.origin?.isNone)

/-- **The fields of a response about origins.** -/
def fields (policy : Policy) (method : String) (request : Fields) : Fields :=
  match named? policy (request.getText "Origin") with
  | none => []
  | some name =>
    [("Access-Control-Allow-Origin", name)] ++
      (if policy.withCredentials then [("Access-Control-Allow-Credentials", "true")] else []) ++
      (if request.getText "Access-Control-Request-Private-Network" = "true" then
        [("Access-Control-Allow-Private-Network", "false")]
       else []) ++
      preflight method request ++
      (if varies policy name then [("Vary", "Origin")] else [])

end LoginGate.Http.Origin
