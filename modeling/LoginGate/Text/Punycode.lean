/-!
# Text/Punycode — a text of any script in ASCII

The ASCII characters of the text come first; then, after a hyphen, numbers say where the others
stand and which they are. Numbers are written in base 36 with digits of varying weight, least
significant first, and the weights follow the numbers seen so far.
-/

namespace LoginGate.Text.Punycode

/-- The digit of a value below 36: letters, then decimal digits. -/
def digit (n : Nat) : Char := Char.ofNat (if n < 26 then 97 + n else 22 + n)

/-- Where the weights lie after a number. -/
def adapt (delta count : Nat) (isFirst : Bool) : Nat :=
  let scaled := if isFirst then delta / 700 else delta / 2
  shrink 0 (scaled + scaled / count) (scaled + 1)
where
  /-- Divide until the number is small; the quotients count. -/
  shrink (k n : Nat) : (fuel : Nat) → Nat
    | 0 => k
    | fuel + 1 => if 455 < n then shrink (k + 36) (n / 35) fuel else k + 36 * n / (n + 38)

/-- A number written with the weights that lie at `bias`. -/
def number (bias : Nat) : (fuel k n : Nat) → List Char
  | 0, _, _ => []
  | fuel + 1, k, n =>
    let t := if k ≤ bias then 1 else min (k - bias) 26
    if n < t then [digit n]
    else digit (t + (n - t) % (36 - t)) :: number bias fuel (k + 36) ((n - t) / (36 - t))

/-- The state of the writer: the number to come, the weights, and how many characters are written.
-/
structure State where
  delta : Nat
  bias : Nat
  written : Nat
  text : List Char

/-- Write the occurrences of one character, walking over the text once. -/
def place (n ascii : Nat) : State → List Char → State
  | s, [] => s
  | s, c :: rest =>
    if c.toNat < n then place n ascii { s with delta := s.delta + 1 } rest
    else if c.toNat = n then
      place n ascii
        { delta := 0, bias := adapt s.delta (s.written + 1) (s.written == ascii)
          written := s.written + 1, text := s.text ++ number s.bias (s.delta + 1) 36 s.delta } rest
    else place n ascii s rest

/-- Write the characters from a code point on, in the order of the code points. -/
def writeFrom (all : List Char) (ascii : Nat) : (fuel n : Nat) → State → State
  | 0, _, s => s
  | fuel + 1, n, s =>
    match (all.filter fun c => n ≤ c.toNat).map (·.toNat) with
    | [] => s
    | m :: more =>
      let next := more.foldl min m
      let s := { s with delta := s.delta + (next - n) * (s.written + 1) }
      let s := place next ascii s all
      writeFrom all ascii fuel (next + 1) { s with delta := s.delta + 1 }

/-- **A text in ASCII.** -/
def encode (s : List Char) : List Char :=
  let ascii := s.filter (·.toNat < 0x80)
  let start := if ascii.isEmpty then [] else ascii ++ ['-']
  (writeFrom s ascii.length s.length 0x80 ⟨0, 72, ascii.length, start⟩).text

end LoginGate.Text.Punycode
