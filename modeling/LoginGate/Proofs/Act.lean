import LoginGate.World

/-!
# Proofs/Act — what a step results in, and what is left of the world

A step hands on a world whether it ends well or not. Most steps leave the tables, the clock and the
draws of identifiers and refresh tokens as they are (`IsQuiet`); of the others it is said what the
tables have become (`Yields`). Of the results it is said what they have in common (`Gives`). The
rules for `>>=` and `orElse` split a step where it may fail, so that no proof about a service has to
open the step type.
-/

namespace LoginGate

namespace World

/-- **The world after a step that has put other tables in place**: the clock stands where it stood,
no identifier or refresh token has been drawn, and no fault has come up. The log and the salts are
of no account here. -/
structure Yields (w : World) (store : Store) (w' : World) : Prop where
  store_eq : w'.store = store
  now_eq : w'.now = w.now
  ids_eq : w'.ids = w.ids
  tokens_eq : w'.tokens = w.tokens
  faultIn_le : w'.faultIn ≤ w.faultIn

/-- A world with the same tables, clock and draws. -/
abbrev Quiet (w w' : World) : Prop := w.Yields w.store w'

theorem Quiet.refl (w : World) : w.Quiet w := ⟨rfl, rfl, rfl, rfl, Nat.le_refl _⟩

theorem Yields.trans {w w₁ w₂ : World} {s₁ s₂ : Store} (h₁ : w.Yields s₁ w₁)
    (h₂ : w₁.Yields s₂ w₂) : w.Yields s₂ w₂ :=
  ⟨h₂.store_eq, h₂.now_eq.trans h₁.now_eq, h₂.ids_eq.trans h₁.ids_eq,
    h₂.tokens_eq.trans h₁.tokens_eq, Nat.le_trans h₂.faultIn_le h₁.faultIn_le⟩

theorem Yields.quiet {w w₁ w₂ : World} {s : Store} (h₁ : w.Yields s w₁) (h₂ : w₁.Quiet w₂) :
    w.Yields s w₂ :=
  h₁.trans ⟨h₂.store_eq.trans h₁.store_eq, h₂.now_eq, h₂.ids_eq, h₂.tokens_eq,
    h₂.faultIn_le⟩

theorem quiet_log (w : World) (level : Log.Level) (message : String) :
    w.Quiet (w.log level message) := ⟨rfl, rfl, rfl, rfl, Nat.le_refl _⟩

theorem quiet_countdown (w : World) : w.Quiet w.countdown :=
  ⟨rfl, rfl, rfl, rfl, Nat.sub_le _ _⟩

/-- The world after an identifier has been drawn. -/
def withId (w : World) : World := { w with ids := w.ids + 1 }

/-- The world after a refresh token has been drawn. -/
def withToken (w : World) : World := { w with tokens := w.tokens + 1 }

theorem Yields.withId {w w' : World} {s : Store} (h : w.Yields s w') :
    w.withId.Yields s w'.withId :=
  ⟨h.store_eq, h.now_eq, congrArg (· + 1) h.ids_eq, h.tokens_eq, h.faultIn_le⟩

theorem Yields.withToken {w w' : World} {s : Store} (h : w.Yields s w') :
    w.withToken.Yields s w'.withToken :=
  ⟨h.store_eq, h.now_eq, h.ids_eq, congrArg (· + 1) h.tokens_eq, h.faultIn_le⟩

end World

namespace Act

variable {α β : Type}

/-! ## Splitting a step where it may fail -/

/-- Go on with the next step after one that has ended in some way. -/
def resume (f : α → Act β) : Except Failure α × World → Except Failure β × World
  | (.ok a, w) => f a w
  | (.error e, w) => (.error e, w)

/-- Go on after a step whose failure is to be handled. -/
def recover (handle : Failure → Act α) : Except Failure α × World → Except Failure α × World
  | (.ok a, w) => (.ok a, w)
  | (.error e, w) => handle e w

@[simp] theorem resume_ok (f : α → Act β) (a : α) (w : World) : resume f (.ok a, w) = f a w := rfl

@[simp] theorem resume_error (f : α → Act β) (e : Failure) (w : World) :
    resume f (.error e, w) = (.error e, w) := rfl

@[simp] theorem recover_ok (handle : Failure → Act α) (a : α) (w : World) :
    recover handle (.ok a, w) = (.ok a, w) := rfl

@[simp] theorem recover_error (handle : Failure → Act α) (e : Failure) (w : World) :
    recover handle (.error e, w) = handle e w := rfl

theorem bind_eq_resume (x : Act α) (f : α → Act β) (w : World) :
    (x >>= f) w = resume f (x w) := rfl

theorem orElse_eq_recover (x : Act α) (handle : Failure → Act α) (w : World) :
    orElse x handle w = recover handle (x w) := rfl

/-- What is made of a result is made of it and of nothing else. -/
theorem bind_pure_fst (x : Act α) (f : α → β) (w : World) :
    ((x >>= fun a => Pure.pure (f a)) w).1 = (x w).1.map f := by
  rw [bind_eq_resume]
  rcases x w with ⟨_ | _, w'⟩ <;> rfl

/-! ## Quiet steps -/

/-- A step that leaves the tables, the clock and the draws alone, however it ends. -/
def IsQuiet (x : Act α) : Prop := ∀ w : World, w.Quiet (x w).2

theorem isQuiet_pure (a : α) : (Pure.pure a : Act α).IsQuiet := World.Quiet.refl

theorem isQuiet_atNow (x : Instant → Except Failure α) : (atNow x).IsQuiet := World.Quiet.refl

theorem isQuiet_drawSalt (supply : Supply) : (drawSalt supply).IsQuiet :=
  fun _ => ⟨rfl, rfl, rfl, rfl, Nat.le_refl _⟩

theorem IsQuiet.bind {x : Act α} {f : α → Act β} (hx : x.IsQuiet) (hf : ∀ a, (f a).IsQuiet) :
    (x >>= f).IsQuiet := fun w => by
  rw [bind_eq_resume]
  have h := hx w
  generalize x w = p at h ⊢
  rcases p with ⟨_ | a, w'⟩
  · exact h
  · exact h.quiet (hf a w')

/-! ## What a step results in -/

/-- Whatever a step results in has a property. -/
def Gives (x : Act α) (P : α → Prop) : Prop := ∀ w a, (x w).1 = .ok a → P a

theorem gives_pure {P : α → Prop} {a : α} (h : P a) : (Pure.pure a : Act α).Gives P :=
  fun _ _ result => Except.ok.inj result ▸ h

theorem gives_fail {P : α → Prop} (e : Failure) : (fail e : Act α).Gives P :=
  fun _ _ result => nomatch result

theorem Gives.bind {x : Act α} {f : α → Act β} {P : α → Prop} {Q : β → Prop} (hx : x.Gives P)
    (hf : ∀ a, P a → (f a).Gives Q) : (x >>= f).Gives Q := fun w b result => by
  rw [bind_eq_resume] at result
  have h := hx w
  generalize x w = p at h result
  rcases p with ⟨_ | a, w'⟩
  · exact nomatch result
  · exact hf a (h a rfl) w' b result

/-- It is the last step that decides. -/
theorem gives_bind {x : Act α} {f : α → Act β} {Q : β → Prop} (hf : ∀ a, (f a).Gives Q) :
    (x >>= f).Gives Q :=
  Gives.bind (P := fun _ => True) (fun _ _ _ => trivial) fun a _ => hf a

theorem Gives.orElse {x : Act α} {handle : Failure → Act α} {P : α → Prop} (hx : x.Gives P)
    (handled : ∀ e, (handle e).Gives P) : (orElse x handle).Gives P := fun w a result => by
  rw [orElse_eq_recover] at result
  have h := hx w
  generalize x w = p at h result
  rcases p with ⟨e | _, w'⟩
  · exact handled e w' a result
  · exact h a result

/-! ## Steps that draw, and steps that depend on the clock -/

theorem drawId_apply (supply : Supply) (w : World) :
    drawId supply w = (.ok (supply.id (w.ids + 1)), w.withId) := rfl

theorem drawToken_apply (supply : Supply) (w : World) :
    drawToken supply w = (.ok (supply.token (w.tokens + 1)), w.withToken) := rfl

/-- The clock shows the world's time if that is a date, and fails otherwise. -/
theorem clock_apply (w : World) :
    clock w = (if Instant.isDate w.now then .ok w.now else .error .noDate, w) := by
  unfold clock
  rw [atNow_apply]

theorem later_apply (t : Instant) (span : Int) (w : World) :
    later t span w = match Instant.plus? t span with
      | some t => (.ok t, w)
      | none => (.error .noDate, w) := by
  unfold later
  cases Instant.plus? t span <;> rfl

end Act
end LoginGate
