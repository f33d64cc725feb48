import LoginGate.Log.KindTable
import LoginGate.Number.IntegerText
import LoginGate.Text.Quoted

/-!
# Log/Item — what a path of a template leads to

A path starts at a text and goes from item to item: by the name of a member, or by an index. A
member is looked up along the line of the item's kind. On the way it meets the item: an operation
takes it as its value, a property is computed from it. A kind is an item too, and its own members
come before those that it has as a kind, but for what is computed from it.
-/

namespace LoginGate.Log

/-- What a path can lead to. -/
inductive Item where
  | text (s : List Char)
  | number (n : Nat)
  | nothing
  | kind (k : Kind)
  | row (kinds : List Kind)
  /-- The members of a kind by their names. -/
  | catalogue (k : Kind)
  /-- A kind narrowed by what its brackets hold. -/
  | narrowed (k : Kind) (brackets : List Char)
  /-- A member as its kind has it. -/
  | member (owner : Kind) (m : Member)
  /-- An operation that has its value already. -/
  | bound (self : Item) (owner : Kind) (m : Member)

/-- The kind of a member as its kind has it. -/
def Form.kind : Form → Kind
  | .slot => .slot
  | .shared => .shared
  | .property => .property
  | .field => .field
  | .method | .made | .free | .constant => .method

/-- The description of a member as one text. -/
def Member.text? (m : Member) : Option (List Char) :=
  m.description.map fun lines => ("\n".intercalate lines).toList

/-- The member of a kind's own with a name. -/
def Kind.own? (k : Kind) (name : List Char) : Option Member :=
  k.members.find? fun m => m.name.toList = name

/-- **The member with a name along the line of a kind**, and whose it is. -/
def Kind.find? (k : Kind) (name : List Char) : Option (Kind × Member) :=
  k.line.findSome? fun owner => (owner.own? name).map (owner, ·)

namespace Item

/-- The kind of an item. -/
def kindOf : Item → Kind
  | .text _ => .text
  | .number _ => .number
  | .nothing => .nothing
  | .kind _ => .kind
  | .row _ => .row
  | .catalogue _ => .catalogue
  | .narrowed _ _ => .kind
  | .member _ m => m.form.kind
  | .bound _ _ m => if m.form = .slot then .boundSlot else .bound

/-- A text, or the missing value. -/
def ofText? : Option (List Char) → Item
  | some s => .text s
  | none => .nothing

/-! ## Members that meet an item -/

/-- A member of `owner` as the kind `k` shows it. -/
def showAt (k owner : Kind) (m : Member) : Item :=
  match m.form with
  | .constant => ofText? m.text?
  | .made => .bound (.kind owner) owner m
  | .free => .bound .nothing owner m
  | .shared => .bound (.kind k) owner m
  | .slot | .method | .property | .field => .member owner m

/-- The description of a kind. -/
def describe (k : Kind) : Item :=
  if k = .kind then
    .text "type(object) -> the object's type\ntype(name, bases, dict, **kwds) -> a new type".toList
  else
    match k.own? "__doc__".toList with
    | some m => showAt k k m
    | none => .nothing

/-- What is computed from a kind under a name. -/
def computedOfKind? (k : Kind) (name : String) : Option Item :=
  match name with
  | "__class__" => some (.kind .kind)
  | "__name__" | "__qualname__" => some (.text k.name.toList)
  | "__module__" => some (.text "builtins".toList)
  | "__doc__" => some (describe k)
  | "__text_signature__" => some (ofText? (k.signature?.map String.toList))
  | "__mro__" => some (.row k.line)
  | "__bases__" => some (.row (k.line.drop 1))
  | "__base__" => some (if k = .object then .nothing else .kind .object)
  | "__dict__" => some (.catalogue k)
  | "__basicsize__" => some (.number k.measures.size)
  | "__itemsize__" => some (.number k.measures.itemSize)
  | "__flags__" => some (.number k.measures.marks)
  | "__dictoffset__" => some (.number k.measures.memberTable)
  | "__weakrefoffset__" => some (.number k.measures.watchers)
  | _ => none

/-- What is computed from a member, in whatever way it has been reached, under a name. The value
that it may have been given, and whose it is called, are passed along. -/
def computedOfMember? (self : Item) (owner : Kind) (m : Member) (whose name : String) :
    Option Item :=
  match name with
  | "__name__" => some (.text m.name.toList)
  | "__qualname__" => some (.text (whose ++ "." ++ m.name).toList)
  | "__doc__" => some (ofText? m.text?)
  | "__text_signature__" => some (ofText? (m.signature.map String.toList))
  | "__objclass__" => some (.kind owner)
  | "__self__" => some self
  | "__module__" => some .nothing
  | _ => none

/-- Whose operation one with a value is called: that of the value's kind, or of the value itself if
it is a kind. -/
def whose (self : Item) (owner : Kind) (m : Member) : String :=
  match m.form, self with
  | .slot, _ | .free, _ => owner.name
  | _, .kind k => k.name
  | _, item => item.kindOf.name

/-- **What is computed from an item** under the name of a property or a field of its kind. -/
def computed? (item : Item) (name : String) : Option Item :=
  match item with
  | .kind k => computedOfKind? k name
  | _ =>
    if name = "__class__" then some (.kind item.kindOf)
    else
      match item with
      | .number n =>
        if name = "imag" then some (.number 0)
        else if name = "denominator" then some (.number 1)
        else some (.number n)
      | .member owner m => computedOfMember? .nothing owner m owner.name name
      | .bound self owner m => computedOfMember? self owner m (whose self owner m) name
      | _ => none

/-- A member that meets an item. -/
def meet (item : Item) (owner : Kind) (m : Member) : Option Item :=
  match m.form with
  | .property | .field => item.computed? m.name
  | .slot | .method => some (.bound item owner m)
  | .constant | .made | .free | .shared => some (showAt item.kindOf owner m)

/-- Whether a member is computed from the item that it meets. -/
def isComputed (m : Member) : Bool := m.form = .property ∨ m.form = .field

/-- The item that the name of a member of a kind leads to. -/
def memberOfKind? (k : Kind) (name : List Char) : Option Item :=
  match Kind.kind.find? name, k.find? name with
  | some (owner, m), some (owner', m') =>
    if isComputed m then (Item.kind k).meet owner m else some (showAt k owner' m')
  | none, some (owner, m) => some (showAt k owner m)
  | some (owner, m), none => (Item.kind k).meet owner m
  | none, none => none

/-- **The item that the name of a member leads to.** A narrowed kind has the members of the kind. -/
def member? (item : Item) (name : List Char) : Option Item :=
  match item with
  | .kind k => memberOfKind? k name
  | .narrowed k _ =>
    if name = "__origin__".toList then some (.kind k)
    else if name = "__parameters__".toList then some (.row [])
    else memberOfKind? k name
  | _ => (item.kindOf.find? name).bind fun (owner, m) => item.meet owner m

/-! ## Items as text -/

/-- A member as its kind has it, as text. -/
def memberText (owner : Kind) (m : Member) : String :=
  let word := match m.form with
    | .slot => "slot wrapper"
    | .property => "attribute"
    | .field => "member"
    | .method | .shared | .made | .free | .constant => "method"
  "<" ++ word ++ " '" ++ m.name ++ "' of '" ++ owner.name ++ "' objects>"

/-- An operation that has its value, as text. -/
def boundText (self : Item) (owner : Kind) (m : Member) : String :=
  let word := if m.form = .slot then "method-wrapper '" ++ m.name ++ "'"
    else "built-in method " ++ m.name
  let value := match m.form, self with
    | .free, _ => Kind.kind.name
    | _, item => item.kindOf.name
  if m.form = .free ∧ owner = .object then "<" ++ word ++ ">"
  else "<" ++ word ++ " of " ++ value ++ " object>"

/-- The text of a kind. -/
def kindText (k : Kind) : String := "<class '" ++ k.name ++ "'>"

/-- A row as text; a single item keeps its comma. -/
def rowText : List Kind → String
  | [] => "()"
  | [k] => "(" ++ kindText k ++ ",)"
  | ks => "(" ++ ", ".intercalate (ks.map kindText) ++ ")"

/-- An item that is no text and no catalogue, as text. -/
def plainText : Item → String
  | .text s => String.ofList (Text.quoted s)
  | .number n => String.ofList (Number.decimal n)
  | .nothing => "None"
  | .kind k => kindText k
  | .row kinds => rowText kinds
  | .catalogue _ => ""
  | .narrowed k brackets => k.name ++ "[" ++ String.ofList brackets ++ "]"
  | .member owner m => memberText owner m
  | .bound self owner m => boundText self owner m

/-- What a catalogue has for a member. -/
def entry (k : Kind) (m : Member) : Item :=
  if m.form = .shared then .member k m else showAt k k m

/-- A catalogue as text: every name with what it stands for. -/
def catalogueText (k : Kind) : String :=
  let line (m : Member) : String :=
    String.ofList (Text.quoted m.name.toList) ++ ": " ++ (entry k m).plainText
  "\x7b" ++ ", ".intercalate (k.members.map line) ++ "\x7d"

/-- **An item as text that shows what it is**; a text comes quoted. -/
def quoted : Item → List Char
  | .catalogue k => (Kind.catalogue.name ++ "(" ++ catalogueText k ++ ")").toList
  | item => item.plainText.toList

/-- **An item as text**; a text is its own, and a catalogue does not say that it is one. -/
def shown : Item → List Char
  | .text s => s
  | .catalogue k => (catalogueText k).toList
  | item => item.quoted

end Item
end LoginGate.Log
