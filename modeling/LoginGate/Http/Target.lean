import LoginGate.Http.Reference

/-!
# Http/Target — the host and the path that a target leads to

A target is a reference to one of the hosts that the service answers for, and without an authority
the usual one. Its path is taken for a reference again, twice: an authority in front of it is
dropped the first time, and written in its plain form the second time.
-/

namespace LoginGate.Http.Target

/-- Why a target leads nowhere. -/
inductive Fault where
  | malformed
  /-- A label of the host is empty or too long. -/
  | badHost
  deriving DecidableEq, Repr

/-- The host that is meant where none is named. -/
def usualHost : List Char := "localhost".toList

/-- The parts of a reference. -/
def reference (s : List Char) : Except Fault Reference :=
  match Reference.ofText? s with
  | some r => .ok r
  | none => .error .malformed

/-- An authority in its plain form. -/
def plainAuthority (s : List Char) : Except Fault (List Char) :=
  match (Authority.ofText s).text with
  | .ok text => .ok text
  | .error .badHost => .error .badHost
  | .error .badPort => .error .malformed

/-- A path that may be a reference itself, with the authority in its plain form. -/
def plainPath (s : List Char) : Except Fault (List Char) := do
  let r ← reference s
  return ({ r with authority := ← plainAuthority r.authority } : Reference).text

/-- **The host and the path of a target.** The path is decoded and starts with one slash. -/
def read (target : String) : Except Fault (String × String) := do
  let outer ← reference target.toList
  let query := if outer.query = [] then [] else '?' :: outer.query
  let inner ← reference (outer.path ++ query)
  let path ← plainPath inner.path
  let authority := if outer.authority = [] then usualHost else outer.authority
  let host ← plainAuthority authority
  return (String.ofList host,
    String.ofList ('/' :: (Percent.decode path).dropWhile (· = '/')))

end LoginGate.Http.Target
