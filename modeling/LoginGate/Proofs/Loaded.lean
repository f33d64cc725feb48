import LoginGate.Proofs.Except
import LoginGate.Proofs.Setup

/-!
# Proofs/Loaded — settings that have been loaded

A setting is its default or what its check has let through, so whatever the check guarantees and the
default has holds of the setting (`setting_induct`). Each group of a configuration has been loaded
from some members and some variables, and an assignment leaves a group as it is or loads it anew
(`Loaded`). So what holds of a group that loads holds of the group of any configuration: the
settings of tokens name an algorithm that is known, and lifetimes that are not over at once.
-/

namespace LoginGate

namespace Settings

/-- **A setting is its default or has passed its check.** -/
theorem setting_induct {α : Type} {sources : Sources} {given : List (String × Json)}
    {publicName ownName : String} {default : α} {check : Json → Checked α} {P : α → Prop}
    (unset : P default) (checked : ∀ value a, check value = .ok a → P a) {a : α}
    (h : setting sources given publicName ownName default check = .ok a) : P a := by
  unfold setting at h
  split at h
  · exact Except.ok.inj h ▸ unset
  · exact checked _ a (Checked.under_eq_ok.mp h)

theorem le_of_integerFrom {least n : Int} {value : Json} (h : integerFrom least value = .ok n) :
    least ≤ n := by
  obtain ⟨m, -, checked⟩ := bind_eq_ok.mp h
  split at checked
  · exact nomatch checked
  · next small =>
    obtain rfl := Except.ok.inj checked
    exact Int.not_lt.mp small

theorem mem_algorithms_of_algorithmOf {value : Json} {name : String}
    (h : algorithmOf value = .ok name) : name ∈ algorithms := by
  obtain ⟨s, -, checked⟩ := bind_eq_ok.mp h
  simp only at checked
  split at checked
  · next known => exact Except.ok.inj checked ▸ known
  · exact nomatch checked

/-- **What is known of the settings of tokens.** -/
structure Tokens.Usable (t : Tokens) : Prop where
  algorithm : t.algorithm ∈ algorithms
  access : 1 ≤ t.accessTtlSeconds
  session : 1 ≤ t.sessionTtlDays

/-- **Settings of tokens that load are usable.** -/
theorem Tokens.usable_of_load {sources : Sources} {given : List (String × Json)} {t : Tokens}
    (h : Tokens.load sources given = .ok t) : t.Usable := by
  obtain ⟨_, found, made⟩ := bind_eq_ok.mp h
  obtain rfl := Except.ok.inj made
  obtain ⟨-, rest⟩ := Checked.both_eq_ok.mp found
  obtain ⟨algorithm, rest⟩ := Checked.both_eq_ok.mp rest
  obtain ⟨-, rest⟩ := Checked.both_eq_ok.mp rest
  obtain ⟨access, session⟩ := Checked.both_eq_ok.mp rest
  constructor
  · exact setting_induct (by decide) (fun _ _ => mem_algorithms_of_algorithmOf) algorithm
  · exact setting_induct (by decide) (fun _ _ => le_of_integerFrom) access
  · exact setting_induct (by decide) (fun _ _ => le_of_integerFrom) session

end Settings

namespace Config

variable {sources : Settings.Sources} {config config' : Config} {printed printed' : String}

/-- The check for production lets a configuration through as it is. -/
theorem eq_of_check (h : config.check printed = .ok (config', printed')) : config' = config := by
  unfold check at h
  split at h
  · exact (Prod.mk.inj (Except.ok.inj h)).1.symm
  split at h
  · exact nomatch h
  split at h
  · exact (Prod.mk.inj (Except.ok.inj h)).1.symm
  · exact (Prod.mk.inj (Except.ok.inj h)).1.symm

/-- A group given as a document has been loaded from its members. -/
theorem exists_load_of_givenGroup {α : Type} {load : List (String × Json) → Checked α} {doc : Json}
    {a : α} (h : givenGroup load doc = .ok a) : ∃ given, load given = .ok a := by
  unfold givenGroup at h
  split at h
  · exact ⟨_, h⟩
  · exact nomatch h

/-- However a group is given, it has been loaded. -/
theorem exists_load_of_group {α : Type} {g : Settings.Group}
    {load : List (String × Json) → Checked α} {doc : Option Json} {a : α}
    (h : group g load doc = .ok (.ok a)) : ∃ given, load given = .ok a := by
  unfold group at h
  split at h
  · exact exists_load_of_givenGroup (Checked.under_eq_ok.mp (Except.ok.inj h))
  · split at h
    · next loaded => exact ⟨[], by rw [loaded, Except.ok.inj (Except.ok.inj h)]⟩
    · exact nomatch h

/-- **Each group has been loaded**, whatever variables were there at the time. -/
structure Loaded (c : Config) : Prop where
  database : ∃ sources given, Settings.Database.load sources given = .ok c.database
  tokens : ∃ sources given, Settings.Tokens.load sources given = .ok c.tokens
  security : ∃ sources given, Settings.Security.load sources given = .ok c.security

/-- **The groups of a configuration that loads have been loaded**, and its check has let it pass. -/
theorem loaded_of_load (h : load sources = .ok (config, printed)) :
    config.Loaded ∧ config.check "" = .ok (config, printed) := by
  simp only [load, bind_eq_ok] at h
  -- the documents of the three groups, and then the groups
  obtain ⟨_, -, _, -, _, -, _, loadedDatabase, _, loadedTokens, _, loadedSecurity, checked⟩ := h
  split at checked
  · exact nomatch checked
  next found =>
  obtain ⟨rfl, rest⟩ := Checked.both_eq_ok.mp found
  obtain ⟨rfl, rfl⟩ := Checked.both_eq_ok.mp rest
  have same := eq_of_check checked
  rw [same]
  exact ⟨⟨⟨_, exists_load_of_group loadedDatabase⟩, ⟨_, exists_load_of_group loadedTokens⟩,
    ⟨_, exists_load_of_group loadedSecurity⟩⟩, same ▸ checked⟩

/-- **A configuration that loads has usable settings of tokens.** -/
theorem usable_of_load (h : load sources = .ok (config, printed)) : config.tokens.Usable := by
  obtain ⟨_, _, loaded⟩ := (loaded_of_load h).1.tokens
  exact Settings.Tokens.usable_of_load loaded

/-- **Setting a field leaves the groups as they are, but for one that it loads.** -/
theorem Loaded.withField (loaded : config.Loaded) {field : String} {value : Json}
    (h : withField sources config field value = .ok config') : config'.Loaded := by
  unfold Config.withField at h
  replace h := Checked.under_eq_ok.mp h
  -- the three fields of the top level that are no groups
  split at h
  · obtain ⟨_, -, rfl⟩ := map_eq_ok.mp h
    exact { loaded with }
  split at h
  · obtain rfl := Except.ok.inj h
    exact { loaded with }
  split at h
  · obtain ⟨_, -, rfl⟩ := map_eq_ok.mp h
    exact { loaded with }
  -- the three groups
  split at h
  · obtain ⟨group, given, rfl⟩ := map_eq_ok.mp h
    exact { loaded with database := ⟨_, exists_load_of_givenGroup given⟩ }
  split at h
  · obtain ⟨group, given, rfl⟩ := map_eq_ok.mp h
    exact { loaded with tokens := ⟨_, exists_load_of_givenGroup given⟩ }
  split at h
  · obtain ⟨group, given, rfl⟩ := map_eq_ok.mp h
    exact { loaded with security := ⟨_, exists_load_of_givenGroup given⟩ }
  · exact nomatch h

/-- **An assignment keeps the groups loaded**, and the check lets the outcome pass. -/
theorem Loaded.assign (loaded : config.Loaded) {field : String} {value : Json}
    (h : assign sources config printed field value = .ok (config', printed')) :
    config'.Loaded ∧ config'.check printed = .ok (config', printed') := by
  unfold Config.assign at h
  split at h
  · exact nomatch h
  next assigned =>
  have same := eq_of_check h
  exact ⟨same ▸ loaded.withField assigned, same ▸ h⟩

end Config

/-- **The lifetimes of a service for usable settings are not over at once.** -/
theorem Service.MadeFor.lifetimes_pos {config : Config} {service : Service}
    (made : Service.MadeFor config service) (usable : config.tokens.Usable) :
    0 < service.signer.lifetime ∧ 0 < service.sessionSpan := by
  obtain ⟨-, access, session⟩ := usable
  rw [made.lifetime_eq, made.sessionSpan_eq]
  exact ⟨Int.mul_pos access (by decide), Int.mul_pos session (by decide)⟩

end LoginGate
