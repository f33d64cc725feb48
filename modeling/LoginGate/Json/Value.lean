import LoginGate.Number.Binary64

/-!
# Json/Value — JSON documents

Integers are exact and of any size; numbers with a fraction or an exponent are binary64. A text that
holds half of a surrogate pair on its own is no string of characters: all that is kept of it is that
it was there (`brokenText`), since no field accepts it. Objects keep their members in the order
written; of equal names the last one counts.
-/

namespace LoginGate

/-- A JSON document. -/
inductive Json where
  | null
  | bool (b : Bool)
  | int (n : Int)
  | real (x : Binary64)
  | text (s : String)
  | brokenText
  | array (items : List Json)
  | object (members : List (String × Json))
  deriving Repr, Inhabited

namespace Json

/-- The last member of a name. -/
def lookup? (name : String) : List (String × Json) → Option Json
  | [] => none
  | (key, value) :: rest =>
    match lookup? name rest with
    | some later => some later
    | none => if key = name then some value else none

/-- The member of a name, if the document is an object that has one. -/
def member? (doc : Json) (name : String) : Option Json :=
  match doc with
  | .object members => lookup? name members
  | _ => none

/-- **Whether a document counts as something**: not null, false, a zero, or empty. -/
def isTruthy : Json → Bool
  | .null => false
  | .bool b => b
  | .int n => n != 0
  | .real x => !x.isZero
  | .text s => s != ""
  | .brokenText => true
  | .array items => !items.isEmpty
  | .object members => !members.isEmpty

@[simp] theorem lookup?_nil (name : String) : lookup? name [] = none := rfl

theorem lookup?_append (name : String) (xs ys : List (String × Json)) :
    lookup? name (xs ++ ys) = (lookup? name ys).or (lookup? name xs) := by
  induction xs with
  | nil => cases h : lookup? name ys <;> simp [h]
  | cons m rest ih =>
    obtain ⟨key, value⟩ := m
    cases h : lookup? name ys with
    | some v => simp [lookup?, ih, h]
    | none => simp [lookup?, ih, h]

end Json
end LoginGate
