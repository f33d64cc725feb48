import LoginGate.Json.Value

/-!
# Field — values checked field by field

A checked value is the value, or the errors of all the fields that do not fit. An error names its
field by a path and says what kind it is; the path is empty where the value as a whole does not fit.
-/

namespace LoginGate

/-- A value of one field that does not fit. -/
structure FieldError where
  path : String
  kind : String
  deriving DecidableEq, Repr

/-- A value, or the errors of its fields. -/
abbrev Checked (α : Type) := Except (List FieldError) α

namespace FieldError

/-- The same error seen from outside a field. -/
def within (name : String) (e : FieldError) : FieldError :=
  { e with path := if e.path = "" then name else name ++ "." ++ e.path }

/-- Some errors as the context of an answer: the paths sorted and each once, and the errors in the
order found. A value without a path is unknown. -/
def context (errors : List FieldError) : List (String × Json) :=
  let named := (errors.map (·.path)).filter (· != "")
  let paths := (named.mergeSort (fun a b => decide (a ≤ b))).eraseReps
  let shown (e : FieldError) : Json :=
    .object [("field", .text (if e.path = "" then "unknown" else e.path)), ("type", .text e.kind)]
  [("fields", .array (paths.map Json.text)), ("errors", .array (errors.map shown))]

end FieldError

namespace Checked

/-- A value that does not fit as a whole. -/
def fail {α : Type} (kind : String) : Checked α := .error [⟨"", kind⟩]

/-- A value inside a field. -/
def under {α : Type} (name : String) (x : Checked α) : Checked α :=
  match x with
  | .ok a => .ok a
  | .error errors => .error (errors.map (·.within name))

/-- **Two values: the errors of both are kept**, the first one's first. -/
def both {α β : Type} (x : Checked α) (y : Checked β) : Checked (α × β) :=
  match x, y with
  | .ok a, .ok b => .ok (a, b)
  | .error e, .ok _ => .error e
  | .ok _, .error f => .error f
  | .error e, .error f => .error (e ++ f)

/-- The items of a list, each named by its place. -/
def each {α : Type} (check : Json → Checked α) (place : Nat) : List Json → Checked (List α)
  | [] => .ok []
  | x :: rest =>
    match both (under (toString place) (check x)) (each check (place + 1) rest) with
    | .ok (a, as) => .ok (a :: as)
    | .error e => .error e

theorem both_eq_ok {α β : Type} {x : Checked α} {y : Checked β} {a : α} {b : β} :
    both x y = .ok (a, b) ↔ x = .ok a ∧ y = .ok b := by
  cases x <;> cases y <;> simp [both]

theorem under_eq_ok {α : Type} {name : String} {x : Checked α} {a : α} :
    under name x = .ok a ↔ x = .ok a := by
  cases x <;> simp [under]

end Checked

/-- A text, of characters. -/
def Json.asText : Json → Checked String
  | .text s => .ok s
  | .brokenText => .fail "string_unicode"
  | _ => .fail "string_type"

end LoginGate
