import LoginGate.Password.Hash
import LoginGate.Proofs.Numerals

/-!
# Proofs/Password — a stored hash verifies its password

A stored hash names its method with every parameter spelled out. That text is read back as the same
method, and neither it nor the salt has a `$` in it, as long as the salts drawn have none; so the
password is put through the very derivation that it was hashed with.
-/

namespace LoginGate.Password

/-! ## Methods that texts can name -/

/-- **What every method that is named by a text fulfils**: its parameters have been accepted, and
the name of its digest has no colon. -/
def Method.Accepted : Method → Prop
  | .scrypt cost width lanes => memoryHard cost width lanes = .ok (.scrypt cost width lanes)
  | .pbkdf2 digest name iterations =>
    iterated name iterations = .ok (.pbkdf2 digest name iterations) ∧ ':' ∉ name

/-- The memory-hard derivation accepts no parameters but unsigned words. -/
theorem memoryHard_eq_ok {cost width lanes : Int} {m : Method}
    (h : memoryHard cost width lanes = .ok m) :
    m = .scrypt cost.toNat width.toNat lanes.toNat ∧
      fitsUnsigned cost = true ∧ fitsUnsigned width = true ∧ fitsUnsigned lanes = true := by
  simp only [memoryHard] at h
  split at h
  · exact nomatch h
  split at h
  · exact nomatch h
  next costly =>
  split at h
  · exact nomatch h
  split at h
  · exact nomatch h
  next wide =>
  split at h
  · exact nomatch h
  next many =>
  split at h
  · exact nomatch h
  split at h
  · exact ⟨(Except.ok.inj h).symm, by simpa using costly, by simpa using wide, by simpa using many⟩
  · exact nomatch h

/-- The iterated digest accepts known names alone, and from one to `2 ^ 31 - 1` iterations. -/
theorem iterated_eq_ok {name : List Char} {iterations : Int} {m : Method}
    (h : iterated name iterations = .ok m) : ∃ digest, hashOfName? name = some digest ∧
      m = .pbkdf2 digest name iterations.toNat ∧ 1 ≤ iterations ∧ iterations < 0x80000000 := by
  simp only [iterated] at h
  split at h
  · exact nomatch h
  split at h
  · exact nomatch h
  next digest known =>
  split at h
  · exact nomatch h
  split at h
  · exact nomatch h
  exact ⟨digest, known, (Except.ok.inj h).symm, by omega, by omega⟩

theorem toNat_of_fitsUnsigned {n : Int} (h : fitsUnsigned n = true) : (n.toNat : Int) = n := by
  simp only [fitsUnsigned, Bool.and_eq_true, decide_eq_true_eq] at h
  omega

/-- The memory-hard derivation keeps the parameters that it accepts. -/
theorem accepted_of_memoryHard {cost width lanes : Int} {m : Method}
    (h : memoryHard cost width lanes = .ok m) : m.Accepted := by
  obtain ⟨rfl, costly, wide, many⟩ := memoryHard_eq_ok h
  rw [Method.Accepted, toNat_of_fitsUnsigned costly, toNat_of_fitsUnsigned wide,
    toNat_of_fitsUnsigned many]
  exact h

/-- The iterated digest keeps the parameters that it accepts. -/
theorem accepted_of_iterated {name : List Char} {iterations : Int} {m : Method}
    (h : iterated name iterations = .ok m) (clean : ':' ∉ name) : m.Accepted := by
  obtain ⟨digest, -, rfl, positive, -⟩ := iterated_eq_ok h
  rw [Method.Accepted, Int.toNat_of_nonneg (by omega)]
  exact ⟨h, clean⟩

/-! ## What a text asks for -/

/-- **What a text can ask for**: a derivation, whatever its parameters are. -/
inductive Request where
  | memoryHard (cost width lanes : Int)
  | iterated (digest : List Char) (rounds : Int)

namespace Request

/-- **The texts of a request.** Numbers may be left out, and are read as people write them. -/
inductive WrittenAs : Request → List Char → Prop
  | scrypt : WrittenAs (memoryHard 32768 8 1) "scrypt".toList
  | scryptWith {n r p : List Char} {cost width lanes : Int} (clean : ∀ s ∈ [n, r, p], ':' ∉ s)
    (costly : Number.integer? 10 n = some cost) (wide : Number.integer? 10 r = some width)
    (many : Number.integer? 10 p = some lanes) :
    WrittenAs (memoryHard cost width lanes) ("scrypt:".toList ++ n ++ ':' :: r ++ ':' :: p)
  | pbkdf2 : WrittenAs (iterated "sha256".toList 1000000) "pbkdf2".toList
  | pbkdf2With {digest : List Char} (clean : ':' ∉ digest) :
    WrittenAs (iterated digest 1000000) ("pbkdf2:".toList ++ digest)
  | pbkdf2Counted {digest n : List Char} {rounds : Int} (clean : ∀ s ∈ [digest, n], ':' ∉ s)
    (counted : Number.integer? 10 n = some rounds) :
    WrittenAs (iterated digest rounds) ("pbkdf2:".toList ++ digest ++ ':' :: n)

/-- What becomes of a request. -/
def judge : Request → Except PasswordError Method
  | memoryHard cost width lanes => Password.memoryHard cost width lanes
  | iterated digest rounds => Password.iterated digest rounds

variable {request : Request} {text : List Char}

/-- **A text names what its request comes to.** -/
theorem ofText_of_writtenAs (h : request.WrittenAs text) : Method.ofText text = request.judge := by
  have scrypt : "scrypt:".toList = "scrypt".toList ++ [':'] := by decide
  have pbkdf2 : "pbkdf2:".toList = "pbkdf2".toList ++ [':'] := by decide
  have apart : "pbkdf2".toList ≠ "scrypt".toList := by decide
  rw [Method.ofText, Text.splitAll_eq_splitOn]
  cases h with
  | scrypt =>
    rw [List.splitOn_eq_singleton (by decide)]
    rfl
  | @scryptWith n r p _ _ _ clean costly wide many =>
    have joined : "scrypt:".toList ++ n ++ ':' :: r ++ ':' :: p =
        [':'].intercalate ["scrypt".toList, n, r, p] := by
      simp [List.intercalate, scrypt]
    rw [joined, List.splitOn_intercalate ':' (List.forall_mem_cons.mpr ⟨by decide, clean⟩)
      (List.cons_ne_nil _ _)]
    simp only [if_true]
    rw [costly, wide, many]
    rfl
  | pbkdf2 =>
    rw [List.splitOn_eq_singleton (by decide)]
    rfl
  | @pbkdf2With digest clean =>
    have joined : "pbkdf2:".toList ++ digest = [':'].intercalate ["pbkdf2".toList, digest] := by
      simp [List.intercalate, pbkdf2]
    rw [joined, List.splitOn_intercalate ':'
      (List.forall_mem_cons.mpr ⟨by decide, List.forall_mem_singleton.mpr clean⟩)
      (List.cons_ne_nil _ _)]
    simp only [apart, if_false, if_true]
    rfl
  | @pbkdf2Counted digest n _ clean counted =>
    have joined : "pbkdf2:".toList ++ digest ++ ':' :: n =
        [':'].intercalate ["pbkdf2".toList, digest, n] := by
      simp [List.intercalate, pbkdf2]
    rw [joined, List.splitOn_intercalate ':' (List.forall_mem_cons.mpr ⟨by decide, clean⟩)
      (List.cons_ne_nil _ _)]
    simp only [apart, if_false, if_true]
    rw [counted]
    rfl

/-- **A text that asks for nothing is refused.** -/
theorem writtenAs_or_refused (text : List Char) :
    (∃ request : Request, request.WrittenAs text) ∨ Method.ofText text = .error .refused := by
  have joined : [':'].intercalate (text.splitOn ':') = text := List.intercalate_splitOn ':'
  have clean : ∀ part ∈ text.splitOn ':', ':' ∉ part := fun _ => Text.notMem_of_mem_splitOn
  rw [Method.ofText, Text.splitAll_eq_splitOn]
  split
  next name args parts =>
    rw [parts] at joined clean
    subst joined
    replace clean := (List.forall_mem_cons.mp clean).2
    split
    · next named =>
      subst named
      split
      · exact .inl ⟨_, .scrypt⟩
      · split
        · next costly wide many =>
          have written := WrittenAs.scryptWith clean costly wide many
          exact .inl ⟨_, by simpa [List.intercalate] using written⟩
        · exact .inr rfl
      · exact .inr rfl
    split
    · next named =>
      subst named
      split
      · exact .inl ⟨_, .pbkdf2⟩
      · have written := WrittenAs.pbkdf2With (clean _ List.mem_cons_self)
        exact .inl ⟨_, by simpa [List.intercalate] using written⟩
      · split
        · next counted =>
          have written := WrittenAs.pbkdf2Counted clean counted
          exact .inl ⟨_, by simpa [List.intercalate] using written⟩
        · exact .inr rfl
      · exact .inr rfl
    · exact .inr rfl
  · exact .inr rfl

/-- The name of a digest is one part of a text. -/
theorem colon_notMem_of_writtenAs {digest : List Char} {rounds : Int}
    (h : (iterated digest rounds).WrittenAs text) : ':' ∉ digest := by
  cases h with
  | pbkdf2 => decide
  | pbkdf2With clean => exact clean
  | pbkdf2Counted clean counted => exact clean _ List.mem_cons_self

/-- What is made of a request has been accepted. -/
theorem accepted_of_judge {m : Method} (written : request.WrittenAs text)
    (h : request.judge = .ok m) : m.Accepted := by
  cases request with
  | memoryHard cost width lanes => exact accepted_of_memoryHard h
  | iterated digest rounds => exact accepted_of_iterated h (colon_notMem_of_writtenAs written)

end Request

/-- **A text names accepted methods alone.** -/
theorem accepted_of_ofText {text : List Char} {m : Method} (h : Method.ofText text = .ok m) :
    m.Accepted := by
  obtain ⟨request, written⟩ | refused := Request.writtenAs_or_refused text
  · exact Request.accepted_of_judge written (Request.ofText_of_writtenAs written ▸ h)
  · exact nomatch refused.symm.trans h

/-! ## The text of a method -/

/-- What is no digit stands in no decimal numeral. -/
theorem notMem_decimal {c : Char} (h : c.isDigit = false) (n : Nat) : c ∉ Number.decimal n :=
  fun mem => Bool.false_ne_true (h.symm.trans (Number.isDigit_of_mem_decimal mem))

/-- The parameters of a method are read back. -/
theorem integer?_of_fitsUnsigned {n : Nat} (h : fitsUnsigned n = true) :
    Number.integer? 10 (Number.decimal n) = some n := by
  simp only [fitsUnsigned, Bool.and_eq_true, decide_eq_true_eq] at h
  have digits : (Number.decimal n).length ≤ 20 :=
    (Number.length_decimal_le_iff (by decide)).mpr (by omega)
  exact Number.integer?_decimal (Nat.le_trans digits (by decide))

/-- **The text of an accepted method names it.** -/
theorem ofText_text {m : Method} (h : m.Accepted) : Method.ofText m.text = .ok m := by
  have digits := notMem_decimal (c := ':') (by decide)
  cases m with
  | scrypt cost width lanes =>
    obtain ⟨-, costly, wide, many⟩ := memoryHard_eq_ok h
    have written : (Request.memoryHard cost width lanes).WrittenAs
        (Method.text (.scrypt cost width lanes)) :=
      .scryptWith (by simp [digits]) (integer?_of_fitsUnsigned costly)
        (integer?_of_fitsUnsigned wide) (integer?_of_fitsUnsigned many)
    exact (Request.ofText_of_writtenAs written).trans h
  | pbkdf2 digest name iterations =>
    obtain ⟨accepted, clean⟩ := h
    obtain ⟨-, -, -, -, bound⟩ := iterated_eq_ok accepted
    have fits : fitsUnsigned iterations = true := by
      simp only [fitsUnsigned, Bool.and_eq_true, decide_eq_true_eq]
      omega
    have written : (Request.iterated name iterations).WrittenAs
        (Method.text (.pbkdf2 digest name iterations)) :=
      .pbkdf2Counted (by simp [clean, digits]) (integer?_of_fitsUnsigned fits)
    exact (Request.ofText_of_writtenAs written).trans accepted

/-- No name of a digest has a `$` in it. -/
theorem dollar_notMem_of_known {name : List Char} {digest : Hash}
    (h : hashOfName? name = some digest) : '$' ∉ name := by
  have listed {names : List (Hash × List String)} {text : String}
      (clean : ∀ entry ∈ names, ∀ t ∈ entry.2, '$' ∉ t.toList)
      (found : (names.find? (fun entry => entry.2.contains text)).map Prod.fst = some digest) :
      '$' ∉ text.toList := by
    obtain ⟨entry, found, -⟩ := Option.map_eq_some_iff.mp found
    have there := List.find?_some found
    exact clean entry (List.mem_of_find?_eq_some found) text (by simpa using there)
  unfold hashOfName? at h
  obtain found | ⟨-, found⟩ := Option.or_eq_some_iff.mp h
  · have notMem := listed (by decide) found
    simpa using notMem
  · have notMem := listed (by decide) found
    intro mem
    refine notMem ?_
    rw [String.toList_ofList]
    exact List.mem_map.mpr ⟨'$', mem, by decide⟩

/-- The text of an accepted method has no `$` in it. -/
theorem dollar_notMem_text {m : Method} (h : m.Accepted) : '$' ∉ m.text := by
  have digits := notMem_decimal (c := '$') (by decide)
  cases m with
  | scrypt cost width lanes =>
    unfold Method.text
    simp only [List.mem_append, List.mem_cons, not_or]
    exact ⟨⟨⟨by decide, digits cost⟩, by decide, digits width⟩, by decide, digits lanes⟩
  | pbkdf2 digest name iterations =>
    obtain ⟨accepted, -⟩ := h
    obtain ⟨digest, known, -⟩ := iterated_eq_ok accepted
    unfold Method.text
    simp only [List.mem_append, List.mem_cons, not_or]
    exact ⟨⟨by decide, dollar_notMem_of_known known⟩, by decide, digits iterations⟩

/-! ## Stored hashes -/

/-- A key in hexadecimal is ASCII. -/
theorem toHex_ascii (bytes : List UInt8) : (Bytes.toHex bytes).all (·.toNat < 128) = true := by
  have ascii : ∀ d, d < 16 → (Bytes.hexDigit d).toNat < 128 := by decide
  induction bytes with
  | nil => rfl
  | cons b rest ih =>
    have bound : b.toNat < 256 := b.toNat_lt
    simp [Bytes.toHex, ascii (b.toNat / 16) (by omega), ascii (b.toNat % 16) (by omega), ih]

/-- **The parts of a stored hash**: it is cut at its first two `$`. -/
theorem parts?_eq_some_iff {stored method salt key : List Char} :
    parts? stored = some (method, salt, key) ↔
      stored = method ++ '$' :: (salt ++ '$' :: key) ∧ '$' ∉ method ∧ '$' ∉ salt := by
  constructor
  · intro h
    unfold parts? at h
    split at h
    · exact nomatch h
    next first rest cut =>
    split at h
    · exact nomatch h
    next second third again =>
    cases h
    obtain ⟨rfl, plain⟩ := Text.splitFirst?_eq_some cut
    obtain ⟨rfl, salted⟩ := Text.splitFirst?_eq_some again
    exact ⟨rfl, plain, salted⟩
  · rintro ⟨rfl, plain, salted⟩
    simp only [parts?, Text.splitFirst?_append plain, Text.splitFirst?_append salted]

/-- A stored hash falls into the parts that it was put together from. -/
theorem parts?_hash {m : Method} (h : m.Accepted) (password : List Char) {salt : List Char}
    (plain : '$' ∉ salt) :
    parts? (m.hash password salt) = some (m.text, salt, m.key password salt) :=
  parts?_eq_some_iff.mpr ⟨by simp [Method.hash], dollar_notMem_text h, plain⟩

/-- **Under an accepted method the keys are compared**, if the stored one is ASCII. -/
theorem verify_of_ofText {stored : String} {method salt key : List Char} {m : Method}
    (parts : parts? stored.toList = some (method, salt, key)) (named : Method.ofText method = .ok m)
    (password : String) :
    verify password stored =
      if key.all (·.toNat < 128) then .ok (m.key password.toList salt == key)
      else .error .foreignKey := by
  have checked : check password stored =
      if key.all (·.toNat < 128) then .ok (m.key password.toList salt == key)
      else .error .foreignKey := by
    unfold check
    rw [parts]
    simp only [named]
    rfl
  rw [verify, checked]
  by_cases ascii : key.all (·.toNat < 128) = true
  · rw [if_pos ascii]
  · rw [if_neg ascii]

/-- A password is hashed under every method that a text names. -/
theorem hash_of_ofText {method : String} {m : Method} (named : Method.ofText method.toList = .ok m)
    (password salt : String) :
    hash method password salt = .ok (String.ofList (m.hash password.toList salt.toList)) := by
  rw [hash, named]
  rfl

/-- A hash is made under the method that the text names. -/
theorem exists_ofText_of_hash {method password salt stored : String}
    (h : hash method password salt = .ok stored) : ∃ m, Method.ofText method.toList = .ok m ∧
      stored = String.ofList (m.hash password.toList salt.toList) := by
  cases named : Method.ofText method.toList with
  | error e =>
    rw [hash, named] at h
    exact nomatch h
  | ok m =>
    rw [hash_of_ofText named] at h
    exact ⟨m, rfl, (Except.ok.inj h).symm⟩

/-- **A hash verifies the passwords with the same key**, as long as there is no `$` in the salt. -/
theorem verify_ofList_hash {m : Method} (accepted : m.Accepted) (password : String) {salt : String}
    (plain : '$' ∉ salt.toList) (other : String) :
    verify other (String.ofList (m.hash password.toList salt.toList)) =
      .ok (m.key other.toList salt.toList == m.key password.toList salt.toList) := by
  have parts := parts?_hash accepted password.toList plain
  rw [← String.toList_ofList (l := m.hash _ _)] at parts
  rw [verify_of_ofText parts (ofText_text accepted), Method.key, if_pos (toHex_ascii _), Method.key]

/-- **A password fits its own hash**, under any method, as long as there is no `$` in the salt. -/
theorem verify_hash {method password salt stored : String}
    (h : hash method password salt = .ok stored) (plain : '$' ∉ salt.toList) :
    verify password stored = .ok true := by
  obtain ⟨m, named, rfl⟩ := exists_ofText_of_hash h
  rw [verify_ofList_hash (accepted_of_ofText named) _ plain, beq_self_eq_true]

end LoginGate.Password
