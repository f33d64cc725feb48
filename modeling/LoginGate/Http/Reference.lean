import LoginGate.Http.Host
import LoginGate.Http.Percent
import LoginGate.Number.IntegerText

/-!
# Http/Reference — what a request is sent to, taken apart

A reference is a scheme with a colon, an authority behind two slashes, a path, a query behind a
question mark and a fragment behind a hash sign; all but the path may be missing. Control characters
and spaces in front do not count, and neither do tabs and line ends anywhere.
-/

namespace LoginGate.Http

/-- The parts of a reference that matter to a request. -/
structure Reference where
  scheme : List Char
  authority : List Char
  path : List Char
  query : List Char
  deriving DecidableEq, Repr

namespace Reference

/-- A character that may stand inside a scheme. -/
def isSchemeChar (c : Char) : Bool := c.isAlphanum || c == '+' || c == '-' || c == '.'

/-- The scheme at the start of a text, in lower case, and what follows its colon. -/
def splitScheme (s : List Char) : List Char × List Char :=
  let name := s.takeWhile (· ≠ ':')
  match name, s.drop name.length with
  | first :: _, _ :: rest =>
    if first.isAlpha && name.all isSchemeChar then (name.map Char.toLower, rest) else ([], s)
  | _, _ => ([], s)

/-- The characters that stand for others some of which end an authority. -/
def isDeceptive (c : Char) : Bool :=
  [0x2047, 0x2048, 0x2049, 0x2100, 0x2101, 0x2105, 0x2106, 0x2a74, 0xfe13, 0xfe16, 0xfe55, 0xfe56,
    0xfe5f, 0xfe6b, 0xff03, 0xff0f, 0xff1a, 0xff1f, 0xff20].contains c.toNat

/-- Whether the brackets of an authority pair and hold what may stand in brackets. -/
def hasGoodBrackets (authority : List Char) : Bool :=
  match authority.contains '[', authority.contains ']' with
  | false, false => true
  | true, true =>
    Host.mayBeBracketed (((authority.dropWhile (· ≠ '[')).drop 1).takeWhile (· ≠ ']'))
  | _, _ => false

/-- **The parts of a reference.** An authority must not deceive about where it ends. -/
def ofText? (s : List Char) : Option Reference :=
  let s := (s.dropWhile (·.toNat ≤ 0x20)).filter fun c => c ≠ '\t' && c ≠ '\r' && c ≠ '\n'
  let (scheme, rest) := splitScheme s
  let (authority, rest) :=
    match rest with
    | '/' :: '/' :: rest =>
      let authority := rest.takeWhile fun c => c ≠ '/' && c ≠ '?' && c ≠ '#'
      (authority, rest.drop authority.length)
    | rest => ([], rest)
  let rest := rest.takeWhile (· ≠ '#')
  let path := rest.takeWhile (· ≠ '?')
  if hasGoodBrackets authority && !authority.any isDeceptive then
    some { scheme, authority, path, query := rest.drop (path.length + 1) }
  else none

/-- The schemes whose references have an authority even if it is empty. -/
def authoritySchemes : List String :=
  ["ftp", "http", "gopher", "nntp", "telnet", "imap", "wais", "file", "mms", "https", "shttp",
    "snews", "prospero", "rtsp", "rtspu", "rsync", "svn", "svn+ssh", "sftp", "nfs", "git",
    "git+ssh", "ws", "wss"]

/-- The scheme, the authority and the path of a reference in one text again. -/
def text (r : Reference) : List Char :=
  let doubled := "//".toList.isPrefixOf r.path
  let rest :=
    if r.authority ≠ [] || (authoritySchemes.contains (String.ofList r.scheme) && !doubled) then
      let path := if r.path ≠ [] && r.path.head? ≠ some '/' then '/' :: r.path else r.path
      "//".toList ++ r.authority ++ path
    else r.path
  if r.scheme = [] then rest else r.scheme ++ ':' :: rest

end Reference

/-- The parts of an authority. -/
structure Authority where
  user : List Char
  password : List Char
  host : List Char
  port : List Char
  deriving DecidableEq, Repr

namespace Authority

/-- **The parts of an authority**: who calls stands before the last `@`, and the port behind a
colon. -/
def ofText (s : List Char) : Authority :=
  let (who, place) := (Text.splitLast? '@' s).getD ([], s)
  let (user, password) := (Text.splitFirst? ':' who).getD (who, [])
  let (host, port) :=
    match Text.splitFirst? '[' place with
    | some (_, inside) =>
      let host := inside.takeWhile (· ≠ ']')
      let after := inside.drop (host.length + 1)
      (host, ((Text.splitFirst? ':' after).getD ([], [])).2)
    | none => (Text.splitFirst? ':' place).getD (place, [])
  { user, password, host, port }

/-- Why an authority cannot be written in ASCII. -/
inductive Fault where
  | badHost
  | badPort
  deriving DecidableEq, Repr

/-- A host in lower case, apart from its zone, and in ASCII. -/
def hostText (host : List Char) : Except Fault (List Char) :=
  let name := host.takeWhile (· ≠ '%')
  match Host.domain? (Text.lower name ++ host.drop name.length) with
  | some ascii => .ok (if ascii.contains ':' then '[' :: ascii ++ [']'] else ascii)
  | none => .error .badHost

/-- A port behind its colon; port zero goes without saying. -/
def portText (port : List Char) : Except Fault (List Char) :=
  if port = [] then .ok []
  else if !port.all Char.isDigit then .error .badPort
  else
    let n := port.foldl (fun n d => 10 * n + (d.toNat - 48)) 0
    if 65535 < n then .error .badPort
    else .ok (if n = 0 then [] else ':' :: Number.decimal n)

/-- The characters that stand for themselves in what says who calls. -/
def isCallerChar : Char → Bool := Percent.isPlainOr "_.-~%!$&'()*+,;="

/-- **An authority in ASCII.** -/
def text (a : Authority) : Except Fault (List Char) := do
  let place := (← hostText a.host) ++ (← portText a.port)
  if a.user = [] then return place
  else
    let quote := Percent.encode isCallerChar
    let password := if a.password = [] then [] else ':' :: quote a.password
    return quote a.user ++ password ++ '@' :: place

end Authority
end LoginGate.Http
