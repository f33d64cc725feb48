import LoginGate.Bytes.Hex
import LoginGate.Bytes.Lossy

/-!
# Http/Percent — bytes written as a percent sign and two digits

Paths of requests are read so; the path attribute of a cookie and the name of a caller in front of a
host are written so.
-/

namespace LoginGate.Http.Percent

/-- The bytes of a text, escapes read; a percent sign without two digits stands for itself. -/
def bytes : List Char → List UInt8
  | [] => []
  | '%' :: a :: b :: rest =>
    match Bytes.hexValue? a, Bytes.hexValue? b with
    | some x, some y => UInt8.ofNat (x * 16 + y) :: bytes rest
    | _, _ => Bytes.utf8 ['%'] ++ bytes (a :: b :: rest)
  | c :: rest => Bytes.utf8 [c] ++ bytes rest

/-- **Read a text**, leniently. -/
def decode (s : List Char) : List Char := Bytes.lossy (bytes s)

/-- **Write a text**: the characters of a class of ASCII characters stand for themselves. -/
def encode (isSafe : Char → Bool) (s : List Char) : List Char :=
  (Bytes.utf8 s).flatMap fun b =>
    let c := Char.ofNat b.toNat
    if b < 0x80 && isSafe c then [c]
    else '%' :: (Bytes.hexNumeral 2 b.toNat).map Char.toUpper

/-- A letter, a digit or one of some marks. -/
def isPlainOr (marks : String) (c : Char) : Bool := c.isAlphanum || marks.toList.contains c

end LoginGate.Http.Percent
