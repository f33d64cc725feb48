/-!
# Log/Kind — the kinds of the values that a template can reach

A template can go on from a value to what is known about it. Every value is of one kind; a kind has
a name, a description, a few sizes, and members. The members themselves, and what arises when one of
them meets a value, are values of kinds of their own.
-/

namespace LoginGate.Log

/-- A kind of values. -/
inductive Kind where
  /-- The kind of everything. -/
  | object
  /-- The kind of the kinds. -/
  | kind
  | text
  | row
  | number
  /-- The kind of the missing value. -/
  | nothing
  /-- Operations that have their value already. -/
  | bound
  | boundSlot
  | slot
  | method
  | shared
  | property
  | field
  /-- The members of a kind by their names. -/
  | catalogue
  deriving DecidableEq, Repr

/-- The form of a member. -/
inductive Form where
  /-- An operation that the language of expressions itself performs. -/
  | slot
  | method
  /-- An operation on the kind rather than on a value. -/
  | shared
  /-- An operation that makes values of the kind. -/
  | made
  /-- An operation that takes neither a value nor the kind. -/
  | free
  /-- Something computed from the value. -/
  | property
  /-- Something stored with the value. -/
  | field
  /-- A text that is the same for all values, or the missing value. -/
  | constant
  deriving DecidableEq, Repr

/-- A member of a kind: its form, its name, its signature and its description, line by line. -/
structure Member where
  form : Form
  name : String
  signature : Option String
  description : Option (List String)
  deriving Repr

namespace Kind

/-- The name of a kind, as it is shown. -/
def name : Kind → String
  | .object => "object"
  | .kind => "type"
  | .text => "str"
  | .row => "tuple"
  | .number => "int"
  | .nothing => "NoneType"
  | .bound => "builtin_function_or_method"
  | .boundSlot => "method-wrapper"
  | .slot => "wrapper_descriptor"
  | .method => "method_descriptor"
  | .shared => "classmethod_descriptor"
  | .property => "getset_descriptor"
  | .field => "member_descriptor"
  | .catalogue => "mappingproxy"

/-- A kind and the kind of everything above it, in the order in which members are looked up. -/
def line (k : Kind) : List Kind := if k = .object then [.object] else [k, .object]

/-- Whether a kind can be narrowed by something in brackets. -/
def canNarrow : Kind → Bool
  | .kind | .row | .catalogue => true
  | _ => false

/-- The sizes and marks of a kind: the bytes of a value, the bytes of each further item, and the
places of two tables. -/
structure Measures where
  size : Nat
  itemSize : Nat
  marks : Nat
  memberTable : Nat
  watchers : Nat

/-- **The measures of a kind.** -/
def measures : Kind → Measures
  | .object => ⟨16, 0, 529664, 0, 0⟩
  | .kind => ⟨904, 40, 2148031744, 264, 368⟩
  | .text => ⟨80, 0, 273159424, 0, 0⟩
  | .row => ⟨24, 8, 71849248, 0, 0⟩
  | .number => ⟨24, 4, 21501184, 0, 0⟩
  | .nothing => ⟨16, 0, 528640, 0, 0⟩
  | .bound => ⟨56, 0, 547200, 0, 40⟩
  | .boundSlot => ⟨32, 0, 545152, 0, 0⟩
  | .slot => ⟨56, 0, 676224, 0, 0⟩
  | .method => ⟨56, 0, 678272, 0, 0⟩
  | .shared => ⟨56, 0, 545152, 0, 0⟩
  | .property => ⟨48, 0, 545152, 0, 0⟩
  | .field => ⟨48, 0, 545152, 0, 0⟩
  | .catalogue => ⟨24, 0, 545088, 0, 0⟩

/-- The signature of a kind, where it has one. -/
def signature? : Kind → Option String
  | .object => some "()"
  | .row => some "(iterable=(), /)"
  | _ => none

end Kind
end LoginGate.Log
