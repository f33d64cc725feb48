import LoginGate.Proofs.Password
import LoginGate.Proofs.Run.Accounts

/-!
# Proofs/Run/Registration — the three outcomes of a registration

A registration that breaks a rule is told the first one that it breaks. One that breaks none, but
wants a name that some account answers to, is a conflict. Every other one adds one account, under an
identifier that no account has had. Which of the three it is, is decided by the texts given and the
names stored, and nothing else is changed.
-/

namespace LoginGate

/-! ## What each rule says -/

namespace Registration.Rule

/-- All rules, in the order in which they are looked at. -/
def inOrder : List Rule :=
  [.usernameLength, .emailLength, .emailFormat, .passwordLength, .passwordUppercase,
    .passwordLowercase, .passwordDigit, .passwordSymbol]

/-- **What it means to break a rule**, whatever the others say. -/
def BrokenBy (username email password : String) : Rule → Prop
  | .usernameLength => ¬ (3 ≤ username.length ∧ username.length ≤ 30)
  | .emailLength => ¬ (5 ≤ email.length ∧ email.length ≤ 50)
  | .emailFormat => '@' ∉ email.toList
  | .passwordLength => password.length < 8
  | .passwordUppercase => ∀ c ∈ password.toList, Text.isUppercase c = false
  | .passwordLowercase => ∀ c ∈ password.toList, Text.isLowercase c = false
  | .passwordDigit => ∀ c ∈ password.toList, Text.isNumber c = false
  | .passwordSymbol =>
    ∀ c ∈ password.toList, Text.isPunctuation c = false ∧ Text.isSymbol c = false

instance (username email password : String) :
    DecidablePred (BrokenBy username email password)
  | .usernameLength => inferInstanceAs (Decidable (¬ _))
  | .emailLength => inferInstanceAs (Decidable (¬ _))
  | .emailFormat => inferInstanceAs (Decidable (_ ∉ _))
  | .passwordLength => inferInstanceAs (Decidable (_ < _))
  | .passwordUppercase => List.decidableBAll _ _
  | .passwordLowercase => List.decidableBAll _ _
  | .passwordDigit => List.decidableBAll _ _
  | .passwordSymbol => List.decidableBAll _ _

/-- Every rule is looked at. -/
theorem mem_inOrder (r : Rule) : r ∈ inOrder := by
  cases r <;> decide

end Registration.Rule

namespace Registration
variable {username email password : String}

/-! ## The rule that is named is the first broken one -/

theorem find?_decide_cons {P : Rule → Prop} [DecidablePred P] (r : Rule) (rules : List Rule) :
    (r :: rules).find? (fun r => decide (P r)) =
      if P r then some r else rules.find? fun r => decide (P r) := by
  by_cases h : P r <;> simp [h]

theorem not_any_eq_true_iff {p : Char → Bool} {cs : List Char} :
    (!cs.any p) = true ↔ ∀ c ∈ cs, p c = false := by
  simp

theorem firstBroken?_eq_find? (username email password : String) :
    firstBroken? username email password =
      Rule.inOrder.find? fun r => decide (r.BrokenBy username email password) := by
  have name : brokenByUsername? username =
      [Rule.usernameLength].find? fun r => decide (r.BrokenBy username email password) := by
    simp only [find?_decide_cons, List.find?_nil]
    exact (ite_not _ _ _).symm
  have address : brokenByEmail? email =
      [Rule.emailLength, .emailFormat].find? fun r =>
        decide (r.BrokenBy username email password) := by
    simp only [find?_decide_cons, List.find?_nil]
    exact if_congr .rfl rfl (ite_not _ _ _).symm
  have secret : brokenByPassword? password =
      [Rule.passwordLength, .passwordUppercase, .passwordLowercase, .passwordDigit,
        .passwordSymbol].find? fun r => decide (r.BrokenBy username email password) := by
    simp only [find?_decide_cons, List.find?_nil]
    refine if_congr .rfl rfl (if_congr not_any_eq_true_iff rfl (if_congr not_any_eq_true_iff rfl
      (if_congr not_any_eq_true_iff rfl (if_congr ?_ rfl rfl))))
    simp only [not_any_eq_true_iff, Bool.or_eq_false_iff]
    rfl
  rw [firstBroken?, name, address, secret, ← List.find?_append, ← List.find?_append]
  rfl

end Registration

/-! ## Identifiers of accounts have been drawn -/

/-- Every identifier of an account has been drawn. -/
def Supply.CoversUsers (supply : Supply) (w : World) : Prop :=
  ∀ u ∈ w.store.users, u.id ∈ supply.idsDrawn w

theorem Effect.coversUsers {service : Service} {w w' : World} (h : Effect service w w')
    (covers : service.supply.CoversUsers w) : service.supply.CoversUsers w' := by
  have more : service.supply.idsDrawn w ⊆ service.supply.idsDrawn w' :=
    Supply.idsDrawn_mono h.le.2.1
  have kept {store : Store} (after : w'.store = store) (same : store.users = w.store.users) :
      service.supply.CoversUsers w' :=
    fun u hu => more (covers u (same ▸ after ▸ hu))
  cases h with
  | idle store => exact kept store rfl
  | enrolled u id created unblocked uncrossed unique after =>
    intro v hv
    rw [after.store_eq] at hv
    obtain hv | hv := List.mem_append.mp hv
    · exact more (covers v hv)
    · obtain rfl := List.mem_singleton.mp hv
      exact id ▸ Supply.next_id_mem (Nat.lt_of_lt_of_eq (Nat.lt_succ_self _) after.ids_eq.symm)
  | flagged id blocked after =>
    intro v hv
    rw [after.store_eq] at hv
    obtain ⟨u, hu, rfl⟩ := List.mem_map.mp hv
    have drawn := more (covers u hu)
    split <;> exact drawn
  | opened s id token owner created within issued unique after => exact kept after.store_eq rfl
  | rotated session token expires live within there free after => exact kept after.store_eq rfl
  | ended owner id after => exact kept after.store_eq rfl
  | endedAll owner after => exact kept after.store_eq rfl

namespace Run

variable {service : Service} {σ : State}

theorem step_coversUsers {e : Event} (h : service.supply.CoversUsers σ.world) :
    service.supply.CoversUsers (step service σ e).2.world :=
  step_induct (P := fun w => service.supply.CoversUsers w) e (fun effect => effect.coversUsers h)
    fun _ => h

/-- **Wherever a run leads, the identifiers of accounts have been drawn.** -/
theorem Reachable.coversUsers (h : Reachable service σ) : service.supply.CoversUsers σ.world := by
  obtain ⟨now, threshold, events, rfl⟩ := h
  exact run_induct (P := fun τ => service.supply.CoversUsers τ.world) (fun _ _ => step_coversUsers)
    (fun _ hu => absurd hu List.not_mem_nil) events

end Run

/-! ## The three outcomes -/

namespace Service

variable {service : Service} {w : World} {username email password : String}

/-- **Registrations are taken**: the storage answers, the clock shows a date, and the method for new
passwords is one that passwords can be hashed under, with a salt that does not break up the hash. -/
structure Registers (service : Service) (w : World) : Prop where
  answers : w.faultIn ≠ 1
  date : Instant.isDate w.now = true
  method : ∃ m, Password.Method.ofText service.hashMethod.toList = .ok m
  salt : '$' ∉ (service.supply.salt (w.salts + 1)).toList

/-- **The outcome of a registration.** -/
structure Enrolment (service : Service) (username email password : String) (w : World) : Prop where
  /-- The first rule that is broken is named, and nothing is drawn, stored or even logged. -/
  refused : (∃ rule, Registration.Rule.BrokenBy username email password rule) →
    ∃ before rule after, Registration.Rule.inOrder = before ++ rule :: after ∧
      rule.BrokenBy username email password ∧
      (∀ r ∈ before, ¬ r.BrokenBy username email password) ∧
      service.register username email password w =
        (.error (.app (.validation "validation_error"
          [("rule", .text rule.name), ("message", .text rule.message)])), w)
  /-- A name that stands in either column for some account is a conflict, and no table changes. -/
  conflicting : (∀ rule, ¬ Registration.Rule.BrokenBy username email password rule) →
    (∃ u ∈ w.store.users, ∃ name ∈ [username, email], u.username = name ∨ u.email = name) →
    service.Registers w →
      (service.register username email password w).1 = .error (.app (.conflict "user")) ∧
        (service.register username email password w).2.store = w.store
  /-- Names that stand in neither column get a new account, under an identifier that is new, with a
  hash that verifies the password; nothing else changes. -/
  enrolled : (∀ rule, ¬ Registration.Rule.BrokenBy username email password rule) →
    (∀ u ∈ w.store.users, ∀ name ∈ [username, email], u.username ≠ name ∧ u.email ≠ name) →
    service.Registers w → service.supply.id (w.ids + 1) ∉ service.supply.idsDrawn w →
      ∃ id hash, (service.register username email password w).1 = .ok id ∧
        id ∉ service.supply.idsDrawn w ∧ id ∉ w.store.userIds ∧
        Password.verify password hash = .ok true ∧
        (service.register username email password w).2.store =
          { w.store with users := w.store.users ++ [
              { id, email, username, passwordHash := hash, created := w.now, isBlocked := false }] }

/-- The rules come first. -/
theorem register_of_firstBroken {rule : Registration.Rule}
    (broken : Registration.firstBroken? username email password = some rule) :
    service.register username email password w = (.error (.app (.ofRule rule)), w) := by
  unfold register
  rw [broken]
  rfl

/-- Where no rule is broken, an account is created under the identifier that is drawn next. -/
theorem register_of_lawful {hash : String}
    (lawful : ∀ rule, ¬ Registration.Rule.BrokenBy username email password rule)
    (hashed : Password.hash service.hashMethod password (service.supply.salt (w.salts + 1)) =
      .ok hash) :
    service.register username email password w =
      Act.resume (fun id => do
          Act.log .info ("auth.register: created user_id=" ++ id.text)
          return id)
        (Store.createUser (service.supply.id (w.ids + 1)) email username hash
          { w.withId with salts := w.salts + 1 }) := by
  have unbroken : Registration.firstBroken? username email password = none := by
    rw [Registration.firstBroken?_eq_find?]
    simpa using fun rule _ => lawful rule
  have drawn : service.hashPassword password w = (.ok hash, { w with salts := w.salts + 1 }) := by
    change ((Password.hash service.hashMethod password (service.supply.salt (w.salts + 1))).mapError
      Failure.password, _) = _
    rw [hashed]
    rfl
  unfold register enter
  rw [unbroken]
  simp only
  rw [Act.bind_eq_resume, drawn]
  rfl

/-- **A registration under a name that is taken** is a conflict. -/
theorem register_of_taken
    (lawful : ∀ rule, ¬ Registration.Rule.BrokenBy username email password rule)
    (registers : service.Registers w)
    (taken : ∃ u ∈ w.store.users, ∃ name ∈ [username, email], u.username = name ∨ u.email = name) :
    (service.register username email password w).1 = .error (.app (.conflict "user")) ∧
      (service.register username email password w).2.store = w.store := by
  obtain ⟨m, named⟩ := registers.method
  rw [register_of_lawful lawful (Password.hash_of_ofText named _ _)]
  refine Store.createUser_cases (P := fun p => (Act.resume _ p).1 =
    .error (.app (.conflict "user")) ∧ (Act.resume _ p).2.store = w.store) ?_ ?_ ?_ ?_
  · exact fun w' fault _ => absurd fault registers.answers
  · exact fun w' undated _ => nomatch undated.symm.trans registers.date
  · exact fun u w' _ _ after => ⟨rfl, after.store_eq⟩
  · intro u w' row uncrossed unique _
    obtain ⟨v, hv, name, given, held⟩ := taken
    have clash : w.store.hasCrossedName u = true ∨ w.store.hasSameColumn u = true := by
      rw [Store.clashes_iff, row]
      exact ⟨v, hv, .inr ⟨name, given, held⟩⟩
    obtain crossed | same := clash
    · exact nomatch uncrossed.symm.trans crossed
    · exact nomatch unique.symm.trans same

/-- **A registration under names that are free** adds an account. -/
theorem register_of_free
    (lawful : ∀ rule, ¬ Registration.Rule.BrokenBy username email password rule)
    (registers : service.Registers w)
    (free : ∀ u ∈ w.store.users, ∀ name ∈ [username, email], u.username ≠ name ∧ u.email ≠ name)
    (new : service.supply.id (w.ids + 1) ∉ w.store.userIds) :
    ∃ hash, (service.register username email password w).1 = .ok (service.supply.id (w.ids + 1)) ∧
      Password.verify password hash = .ok true ∧
      (service.register username email password w).2.store =
        w.store.addUser ⟨service.supply.id (w.ids + 1), email, username, hash, w.now, false⟩ := by
  obtain ⟨m, named⟩ := registers.method
  obtain ⟨hash, hashed⟩ : ∃ hash, Password.hash service.hashMethod password
      (service.supply.salt (w.salts + 1)) = .ok hash := ⟨_, Password.hash_of_ofText named _ _⟩
  refine ⟨hash, ?_⟩
  rw [register_of_lawful lawful hashed]
  refine Store.createUser_cases (P := fun p => (Act.resume _ p).1 = _ ∧ _ ∧
    (Act.resume _ p).2.store = _) ?_ ?_ ?_ ?_
  · exact fun w' fault _ => absurd fault registers.answers
  · exact fun w' undated _ => nomatch undated.symm.trans registers.date
  · rintro u w' rfl clash -
    obtain ⟨v, hv, same | ⟨name, given, held⟩⟩ := Store.clashes_iff.mp clash
    · exact absurd (List.mem_map.mpr ⟨v, hv, same⟩) new
    · exact absurd held (not_or.mpr (free v hv name given))
  · rintro u w' rfl - - after
    exact ⟨rfl, Password.verify_hash hashed registers.salt, after.store_eq⟩

end Service

namespace Run

variable {service : Service} {σ : State}

/-- **Every registration has one of three outcomes**, wherever a run has led. -/
theorem register_enrolment (reachable : Reachable service σ) (username email password : String) :
    service.Enrolment username email password σ.world := by
  constructor
  · rintro ⟨r, broken⟩
    have some : (Registration.firstBroken? username email password).isSome := by
      rw [Registration.firstBroken?_eq_find?, List.find?_isSome]
      exact ⟨r, r.mem_inOrder, decide_eq_true broken⟩
    obtain ⟨rule, first⟩ := Option.isSome_iff_exists.mp some
    have answer : service.register username email password σ.world = _ :=
      Service.register_of_firstBroken first
    rw [Registration.firstBroken?_eq_find?, List.find?_eq_some_iff_append] at first
    obtain ⟨broken, before, after, split, kept⟩ := first
    exact ⟨before, rule, after, split, of_decide_eq_true broken,
      fun r hr => by simpa using kept r hr, answer⟩
  · exact fun lawful taken registers => Service.register_of_taken lawful registers taken
  · intro lawful free registers new
    have unheld : service.supply.id (σ.world.ids + 1) ∉ σ.world.store.userIds := fun held => by
      obtain ⟨u, hu, same⟩ := List.mem_map.mp held
      exact new (same ▸ reachable.coversUsers u hu)
    obtain ⟨hash, returns, verifies, stored⟩ :=
      Service.register_of_free lawful registers free unheld
    exact ⟨_, hash, returns, new, unheld, verifies, stored⟩

theorem sample_method (accessSeconds : Int) :
    ∃ m, Password.Method.ofText (sample accessSeconds).hashMethod.toList = .ok m := by
  have fit : (Password.Method.ofText "pbkdf2:sha256:1".toList).isOk = true := by decide +kernel
  change ∃ m, Password.Method.ofText "pbkdf2:sha256:1".toList = .ok m
  cases named : Password.Method.ofText "pbkdf2:sha256:1".toList with
  | error e => exact nomatch named ▸ fit
  | ok m => exact ⟨m, rfl⟩

/-- After `alice` has registered and logged in. -/
def inhabited : State := run (sample 900) (start 0 .info) opening

set_option maxRecDepth 100000 in
/-- There is one account. -/
theorem inhabited_spec : (∃ u ∈ inhabited.world.store.users, u.email = "alice@example.com") ∧
    (∀ u ∈ inhabited.world.store.users, u.username = "alice" ∧ u.email = "alice@example.com") ∧
    inhabited.world.ids = 2 ∧ inhabited.world.now = 0 ∧ inhabited.world.faultIn = 0 := by
  decide +kernel

set_option maxRecDepth 100000 in
/-- Nobody can take the email of `alice` as a username, and everyone else can still register. -/
theorem inhabited_enrolment : Reachable (sample 900) inhabited ∧
    ((sample 900).register "alice@example.com" "mallory@example.com" "Passw0rd!"
      inhabited.world).1 = .error (.app (.conflict "user")) ∧
    ∃ id, ((sample 900).register "bob" "bob@example.com" "Passw0rd!" inhabited.world).1 = .ok id ∧
      id ∉ inhabited.world.store.userIds := by
  obtain ⟨⟨u, hu, email⟩, names, ids, now, calm⟩ := inhabited_spec
  have reachable : Reachable (sample 900) inhabited := reachable_run ..
  have registers : (sample 900).Registers inhabited.world :=
    { answers := calm ▸ by decide
      date := now ▸ by decide
      method := sample_method 900
      salt := sample_salts 900 _ }
  have crossing :=
    register_enrolment reachable "alice@example.com" "mallory@example.com" "Passw0rd!"
  have joining := register_enrolment reachable "bob" "bob@example.com" "Passw0rd!"
  have lawful : ∀ rule, ¬ Registration.Rule.BrokenBy "bob" "bob@example.com" "Passw0rd!" rule := by
    intro rule
    cases rule <;> decide +kernel
  have free : ∀ v ∈ inhabited.world.store.users, ∀ name ∈ ["bob", "bob@example.com"],
      v.username ≠ name ∧ v.email ≠ name := by
    intro v hv
    rw [(names v hv).1, (names v hv).2]
    decide
  have fresh : (sample 900).supply.Unrepeated inhabited.world.withId :=
    sample_unrepeated 900 (show inhabited.world.ids + 1 < _ from ids ▸ by decide)
  obtain ⟨id, hash, returns, -, new, -⟩ :=
    joining.enrolled lawful free registers (fresh.next_id_notMem (Nat.lt_succ_self _))
  refine ⟨reachable, (crossing.conflicting ?_ ⟨u, hu, _, List.mem_cons_self, .inr email⟩
    registers).1, id, returns, new⟩
  intro rule
  cases rule <;> decide +kernel

end Run
end LoginGate
