import LoginGate.Text.Case
import LoginGate.Text.Punycode
import LoginGate.Text.Split

/-!
# Http/Host — names and addresses of hosts

A host is a domain of labels with dots between, or an address of eight groups in brackets. A label
holds up to 63 characters; one that is not ASCII is written in ASCII, behind a mark that says so.
-/

namespace LoginGate.Http.Host

open LoginGate.Text

/-! ## Domains -/

/-- The longest label. -/
def maxLabel : Nat := 63

/-- The mark of a label that is written in ASCII. -/
def labelMark : List Char := "xn--".toList

/-- Whether a text is ASCII. -/
def isAscii (s : List Char) : Bool := s.all (·.toNat < 0x80)

/-- The characters that no label shows. -/
def isInvisible (c : Char) : Bool :=
  let n := c.toNat
  n == 0xad || n == 0x34f || n == 0x1806 || (0x180b ≤ n && n ≤ 0x180d) ||
    (0x200b ≤ n && n ≤ 0x200d) || n == 0x2060 || (0xfe00 ≤ n && n ≤ 0xfe0f) || n == 0xfeff

/-- The dots of all scripts. -/
def isDot (c : Char) : Bool := c == '.' || c == '\u3002' || c == '\uff0e' || c == '\uff61'

/-- A label, if it is neither empty nor too long. -/
def sized? (label : List Char) : Option (List Char) :=
  if label.isEmpty || maxLabel < label.length then none else some label

/-- A label in ASCII. -/
def label? (label : List Char) : Option (List Char) :=
  if isAscii label then sized? label
  else
    let bare := fold (label.filter (!isInvisible ·))
    if isAscii bare then sized? bare
    else if labelMark.isPrefixOf bare then none
    else sized? (labelMark ++ Punycode.encode bare)

/-- **A domain in ASCII**, if each label fits. The last one may be empty, since a domain may end in
a dot. -/
def domain? (name : List Char) : Option (List Char) :=
  if name.isEmpty then some []
  else if isAscii name then
    let labels := splitAll '.' name
    if labels.dropLast.all (fun l => (sized? l).isSome) &&
        (labels.getLast?.any (·.length ≤ maxLabel)) then some name
    else none
  else do
    let labels := splitAll '.' (name.map fun c => if isDot c then '.' else c)
    let (labels, tail) :=
      if labels.getLast? = some [] then (labels.dropLast, ['.']) else (labels, [])
    let labels ← labels.mapM label?
    some (List.intercalate ['.'] labels ++ tail)

/-! ## Addresses -/

/-- Whether a text is one of the four numbers of a short address. -/
def isOctet (s : List Char) : Bool :=
  !s.isEmpty && s.all Char.isDigit && s.length ≤ 3 && (s == ['0'] || s.head? != some '0') &&
    s.foldl (fun n d => 10 * n + (d.toNat - 48)) 0 ≤ 255

/-- Whether a text is a short address. -/
def isShortAddress (s : List Char) : Bool :=
  let octets := splitAll '.' s
  octets.length == 4 && octets.all isOctet

/-- Whether a character is a hexadecimal digit. -/
def isHexDigit (c : Char) : Bool :=
  c.isDigit || ('a' ≤ c && c ≤ 'f') || ('A' ≤ c && c ≤ 'F')

/-- Whether a text is a group of an address. -/
def isGroup (s : List Char) : Bool := !s.isEmpty && s.length ≤ 4 && s.all isHexDigit

/-- The groups of an address, if a short address at its end is written as two of them. -/
def groups? (s : List Char) : Option (List (List Char)) :=
  let parts := splitAll ':' s
  match parts.getLast? with
  | some last =>
    if last.contains '.' then
      if isShortAddress last then some (parts.dropLast ++ [['0'], ['0']]) else none
    else some parts
  | none => none

/-- Whether groups, empty at one place or at none, make an address. -/
def areGroups (parts : List (List Char)) : Bool :=
  let inner := (parts.drop 1).dropLast
  match inner.findIdx? (·.isEmpty) with
  | none => parts.length == 8 && parts.all isGroup
  | some i =>
    let high := parts.take (i + 1)
    let low := parts.drop (i + 2)
    let high := if high.head? = some [] then high.drop 1 else high
    let low := if low.getLast? = some [] then low.dropLast else low
    high.all isGroup && low.all isGroup && high.length + low.length < 8 &&
      (parts.head? != some [] || high.isEmpty) && (parts.getLast? != some [] || low.isEmpty)

/-- Whether a text is an address of eight groups, perhaps with the name of a zone behind a percent
sign. -/
def isAddress (s : List Char) : Bool :=
  let bare := s.takeWhile (· ≠ '%')
  let zone := s.drop bare.length
  (zone.isEmpty || (1 < zone.length && !(zone.drop 1).contains '%')) && !s.contains '/' &&
    2 < (splitAll ':' bare).length &&
    match groups? bare with
    | some parts => parts.length ≤ 9 && areGroups parts
    | none => false

/-- Whether a text may stand in brackets: an address, or one of a later version, which says so. -/
def mayBeBracketed (s : List Char) : Bool :=
  match s with
  | 'v' :: rest =>
    let version := rest.takeWhile isHexDigit
    match rest.drop version.length with
    | '.' :: _ :: _ => !version.isEmpty
    | _ => false
  | s => isAddress s

end LoginGate.Http.Host
