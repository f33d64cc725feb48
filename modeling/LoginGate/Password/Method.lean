import LoginGate.Digest.Scrypt
import LoginGate.Number.IntegerText
import LoginGate.Text.Split

/-!
# Password/Method — how a password becomes a key

A method is named by a text: `scrypt`, or `scrypt:cost:width:lanes`, or `pbkdf2`, with a digest name
and an iteration count that may be left out. `Method.ofText` reads it, refusing parameters that the
derivation does not admit; `Method.text` writes it back with every parameter spelled out.
-/

namespace LoginGate

/-- Why a password cannot be hashed or compared. -/
inductive PasswordError where
  /-- No such method, digest or number of arguments, or parameters out of the method's domain. -/
  | refused
  /-- A parameter of the memory-hard method below zero, where the machine wants an unsigned word. -/
  | unsignedExpected
  /-- A parameter too large for a machine word. -/
  | tooLarge
  /-- The stored key is not ASCII, which the constant-time comparison does not take. -/
  | foreignKey
  deriving DecidableEq, Repr

namespace Password

/-- A derivation with its parameters. The digest's name is kept as it was written. -/
inductive Method where
  | scrypt (cost width lanes : Nat)
  | pbkdf2 (hash : Hash) (name : List Char) (iterations : Nat)
  deriving Repr

/-- The names of the digests that count in any letter case, the registered object identifiers
among them. -/
def digestNames : List (Hash × List String) :=
  [(.md5, ["md5", "ssl3-md5", "1.2.840.113549.2.5"]),
   (.md5sha1, ["md5-sha1"]),
   (.sha1, ["sha1", "sha-1", "ssl3-sha1", "1.3.14.3.2.26"]),
   (.sha224, ["sha224", "sha-224", "sha2-224", "2.16.840.1.101.3.4.2.4"]),
   (.sha256, ["sha256", "sha-256", "sha2-256", "2.16.840.1.101.3.4.2.1"]),
   (.sha384, ["sha384", "sha-384", "sha2-384", "2.16.840.1.101.3.4.2.2"]),
   (.sha512, ["sha512", "sha-512", "sha2-512", "2.16.840.1.101.3.4.2.3"]),
   (.sha512of28, ["sha512-224", "sha-512/224", "sha2-512/224", "2.16.840.1.101.3.4.2.5"]),
   (.sha512of32, ["sha512-256", "sha-512/256", "sha2-512/256", "2.16.840.1.101.3.4.2.6"]),
   (.sha3 .bytes28, ["sha3-224", "2.16.840.1.101.3.4.2.7"]),
   (.sha3 .bytes32, ["sha3-256", "2.16.840.1.101.3.4.2.8"]),
   (.sha3 .bytes48, ["sha3-384", "2.16.840.1.101.3.4.2.9"]),
   (.sha3 .bytes64, ["sha3-512", "2.16.840.1.101.3.4.2.10"]),
   (.ripemd160, ["ripemd160", "ripemd", "ripemd-160", "rmd160", "1.3.36.3.2.1"]),
   (.sm3, ["sm3", "1.2.156.10197.1.401"]),
   (.blake2b, ["blake2b512", "blake2b-512", "1.3.6.1.4.1.1722.12.2.1.16"]),
   (.blake2s, ["blake2s256", "blake2s-256", "1.3.6.1.4.1.1722.12.2.2.8"])]

/-- Further names, which count only as they are written here. -/
def plainDigestNames : List (Hash × List String) :=
  [(.blake2b, ["blake2b"]),
   (.blake2s, ["blake2s"]),
   (.sha3 .bytes28, ["sha3_224"]),
   (.sha3 .bytes32, ["sha3_256"]),
   (.sha3 .bytes48, ["sha3_384"]),
   (.sha3 .bytes64, ["sha3_512"]),
   (.sha512of28, ["sha512_224", "SHA512_224"]),
   (.sha512of32, ["sha512_256", "SHA512_256"])]

/-- **The digest of a name.** -/
def hashOfName? (name : List Char) : Option Hash :=
  let find (names : List (Hash × List String)) (text : String) : Option Hash :=
    (names.find? (fun entry => entry.2.contains text)).map Prod.fst
  (find plainDigestNames (String.ofList name)).or
    (find digestNames (String.ofList (name.map Char.toLower)))

/-- Iterations where the text gives none. -/
def defaultIterations : Int := 1000000

/-- Whether an integer fits a signed machine word of 64 bits. -/
def fitsWord (n : Int) : Bool := -0x8000000000000000 ≤ n && n < 0x8000000000000000

/-- Whether an integer fits an unsigned machine word of 64 bits. -/
def fitsUnsigned (n : Int) : Bool := 0 ≤ n && n < 0x10000000000000000

/-- **The iterated digest**: a known digest, and from one to `2 ^ 31 - 1` iterations. -/
def iterated (name : List Char) (iterations : Int) : Except PasswordError Method :=
  if !fitsWord iterations then .error .tooLarge
  else
    match hashOfName? name with
    | none => .error .refused
    | some hash =>
      if iterations < 1 then .error .refused
      else if 0x80000000 ≤ iterations then .error .tooLarge
      else .ok (.pbkdf2 hash name iterations.toNat)

/-- Whether `n` is a power of two. -/
def isPowerOfTwo (n : Nat) : Bool := n ≠ 0 && 1 <<< n.log2 = n

/-- What the derivation itself asks of its parameters: none is zero, the lanes are not too many, a
narrow block bounds the cost, and the memory needed stays within the allowance. -/
def admits (cost width lanes allowance : Nat) : Bool :=
  0 < width && 0 < lanes && width * lanes < 0x40000000 &&
    (4 ≤ width || cost < 1 <<< (16 * width)) &&
    128 * width * lanes + 128 * width * (cost + 2) ≤ allowance

/-- **The memory-hard derivation.** The allowance is computed first and must fit a machine word;
then the parameters are looked at from left to right. -/
def memoryHard (cost width lanes : Int) : Except PasswordError Method :=
  let allowance := 132 * cost * width * lanes
  if !fitsWord allowance then .error .tooLarge
  else if !fitsUnsigned cost then .error .unsignedExpected
  else if cost < 2 ∨ !isPowerOfTwo cost.toNat then .error .refused
  else if !fitsUnsigned width then .error .unsignedExpected
  else if !fitsUnsigned lanes then .error .unsignedExpected
  else if 0x80000000 ≤ allowance then .error .refused
  else if admits cost.toNat width.toNat lanes.toNat allowance.toNat then
    .ok (.scrypt cost.toNat width.toNat lanes.toNat)
  else .error .refused

namespace Method

/-- **The method that a text names.** -/
def ofText (text : List Char) : Except PasswordError Method :=
  match Text.splitAll ':' text with
  | name :: args =>
    if name = "scrypt".toList then
      match args with
      | [] => memoryHard 32768 8 1
      | [n, r, p] =>
        match Number.integer? 10 n, Number.integer? 10 r, Number.integer? 10 p with
        | some n, some r, some p => memoryHard n r p
        | _, _, _ => .error .refused
      | _ => .error .refused
    else if name = "pbkdf2".toList then
      match args with
      | [] => iterated "sha256".toList defaultIterations
      | [digest] => iterated digest defaultIterations
      | [digest, count] =>
        match Number.integer? 10 count with
        | some n => iterated digest n
        | none => .error .refused
      | _ => .error .refused
    else .error .refused
  | [] => .error .refused

/-- The text of a method, with all of its parameters. -/
def text : Method → List Char
  | .scrypt cost width lanes =>
    "scrypt:".toList ++ Number.decimal cost ++ ':' :: Number.decimal width ++
      ':' :: Number.decimal lanes
  | .pbkdf2 _ name iterations => "pbkdf2:".toList ++ name ++ ':' :: Number.decimal iterations

/-- The key of a password under a salt. -/
def derive (method : Method) (password salt : List UInt8) : List UInt8 :=
  match method with
  | .scrypt cost width lanes => Scrypt.derive password salt cost width lanes 64
  | .pbkdf2 hash _ iterations => Pbkdf2.derive hash password salt iterations hash.size

end Method
end Password
end LoginGate
