import LoginGate.Bytes.Hex
import LoginGate.Bytes.Utf8
import LoginGate.Digest.Hash
import LoginGate.Text.Blank
import LoginGate.Text.Case
import LoginGate.Text.Split

/-!
# Http/Fields — header fields of a request

Names are compared without regard to letter case, and an underscore counts as a hyphen. Fields of
one name count as one field, their values joined by commas.
-/

namespace LoginGate.Http

/-- Header fields: names and values, in the order given. -/
abbrev Fields := List (String × String)

namespace Fields

/-- What is compared of a name. -/
def key (name : String) : List Char :=
  (Text.upper name.toList).map fun c => if c = '_' then '-' else c

/-- Join two values of one name. -/
def joinValues (a b : String) : String := a ++ ", " ++ b

/-- Add a field to fields with different names. -/
def merge (name value : String) : Fields → Fields
  | [] => [(name, value)]
  | (n, v) :: rest =>
    if key n = key name then (n, joinValues v value) :: rest else (n, v) :: merge name value rest

/-- Fields with equal names joined, in the order of their first ones. -/
def merged (fields : Fields) : Fields := fields.foldl (fun acc f => merge f.1 f.2 acc) []

/-- **The value of a field**, if there is one of that name. -/
def get? (fields : Fields) (name : String) : Option String :=
  match (fields.filter fun f => key f.1 = key name).map (·.2) with
  | [] => none
  | v :: rest => some (rest.foldl joinValues v)

/-- The value of a field, or nothing. -/
def getText (fields : Fields) (name : String) : String := (fields.get? name).getD ""

/-- **The bearer token** of a request; empty if there is none. -/
def bearer (fields : Fields) : String :=
  let value := (fields.getText "Authorization").toList
  if "Bearer ".toList.isPrefixOf value then String.ofList (Text.trim (value.drop 7)) else ""

/-- **Where a request comes from**: the first address that a proxy has noted, or else the peer. -/
def clientAddress (fields : Fields) (peer : String) : String :=
  let forwarded := fields.getText "X-Forwarded-For"
  if forwarded ≠ "" then
    String.ofList (Text.trim (forwarded.toList.takeWhile (· ≠ ',')))
  else if peer = "" then "unknown"
  else peer

/-- The fields whose values are not for the log. -/
def sensitive : List String := ["authorization", "cookie", "set-cookie", "x-csrf-token"]

/-- A field for the log: a sensitive value is replaced by the start of its digest. -/
def veil (field : String × String) : String × String :=
  if sensitive.contains (String.ofList (Text.lower field.1.toList)) then
    let digest := Bytes.toHex (Hash.digest .sha256 (Bytes.ofText field.2))
    (field.1, "<hashed:" ++ String.ofList (digest.take 8) ++ ">")
  else field

/-- Fields with their names as they are shown: every word starts with a capital letter. -/
def shown (fields : Fields) : Fields :=
  fields.merged.map fun f => (String.ofList (Text.title (key f.1)), f.2)

end Fields
end LoginGate.Http
