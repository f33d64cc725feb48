import LoginGate.Log.Relay
import LoginGate.Proofs.Except

/-!
# Proofs/Log/Relay — which texts get through the standard loggers

The application's own logger hands a text to the sink as it is. On the way through a standard logger
it is taken for a template, and its level is looked up by name. So a text gets through unchanged if
it has no braces, or if what its braces come to looks the same once redacted; and no text gets
through at a level without a standard name. Away from the one name that a template may use, a brace
has to be doubled, and every doubled brace comes out single (`fill_eq_ok_iff`).
-/

namespace LoginGate.Log

namespace Template

variable {name value s shown : List Char} {depth fuel : Nat}

/-! ## Texts with their braces doubled -/

/-- Whether a character opens or closes a field. -/
def IsBrace (c : Char) : Prop := c = '\x7b' ∨ c = '\x7d'

instance : DecidablePred IsBrace := fun c => inferInstanceAs (Decidable (c = '\x7b' ∨ c = '\x7d'))

/-- **A text as a template for it**: every brace is doubled. -/
def doubled (s : List Char) : List Char := s.flatMap fun c => if IsBrace c then [c, c] else [c]

theorem doubled_brace {c : Char} (h : IsBrace c) (s : List Char) :
    doubled (c :: s) = c :: c :: doubled s := by
  simp [doubled, h]

theorem doubled_cons {c : Char} (h : ¬ IsBrace c) (s : List Char) :
    doubled (c :: s) = c :: doubled s := by
  simp [doubled, h]

theorem doubled_of_plain (plain : ∀ c ∈ s, ¬ IsBrace c) : doubled s = s := by
  induction s with
  | nil => rfl
  | cons c s ih =>
    obtain ⟨head, tail⟩ := List.forall_mem_cons.mp plain
    rw [doubled_cons head, ih tail]

/-! ## One step of filling -/

theorem fillFrom_nil (name value : List Char) (depth fuel : Nat) :
    fillFrom name value depth fuel [] = .ok [] := by
  cases fuel <;> rfl

theorem fillFrom_brace {c : Char} (h : IsBrace c) (rest : List Char) :
    fillFrom name value depth (fuel + 1) (c :: c :: rest) =
      (fillFrom name value depth fuel rest).map (c :: ·) := by
  rcases h with rfl | rfl <;> rfl

theorem fillFrom_cons {c : Char} (h : ¬ IsBrace c) (rest : List Char) :
    fillFrom name value depth (fuel + 1) (c :: rest) =
      (fillFrom name value depth fuel rest).map (c :: ·) := by
  obtain ⟨opens, closes⟩ := not_or.mp h
  rw [fillFrom.eq_def]
  exact (if_neg closes).trans (if_neg opens)

/-- **A template for a text comes to the text.** -/
theorem fillFrom_doubled (enough : (doubled s).length ≤ fuel) :
    fillFrom name value depth fuel (doubled s) = .ok s := by
  induction s generalizing fuel with
  | nil => exact fillFrom_nil name value depth fuel
  | cons c s ih =>
    by_cases brace : IsBrace c
    · rw [doubled_brace brace] at enough ⊢
      obtain ⟨fuel, rfl⟩ := Nat.exists_eq_add_of_le' (Nat.one_le_of_lt enough)
      rw [fillFrom_brace brace, ih (by simp at enough; omega)]
      rfl
    · rw [doubled_cons brace] at enough ⊢
      obtain ⟨fuel, rfl⟩ := Nat.exists_eq_add_of_le' (Nat.one_le_of_lt enough)
      rw [fillFrom_cons brace, ih (by simpa using enough)]
      rfl

/-! ## What a field has to name -/

/-- The name of a field is what stands in front of where it stops. -/
theorem eq_of_fieldName {inBrackets : Bool} {found rest : List Char} {stop : Char}
    (h : fieldName inBrackets s = .ok (found, stop, rest)) : s = found ++ stop :: rest := by
  induction s generalizing inBrackets found with
  | nil => exact nomatch h
  | cons c s ih =>
    cases inBrackets with
    | true =>
      rw [fieldName] at h
      split at h
      · next inner =>
        obtain ⟨rfl, rfl, rfl⟩ := Prod.mk.injEq .. ▸ Except.ok.inj h
        rw [ih inner, List.cons_append]
      · exact nomatch h
    | false =>
      rw [fieldName] at h
      split at h
      · exact nomatch h
      split at h
      · cases h
        rfl
      split at h
      · next inner =>
        cases h
        rw [ih inner, List.cons_append]
      · exact nomatch h

/-- The name of a field is at its start, whatever conversion and format follow. -/
theorem prefix_of_field {f : Field} (h : field s = .ok f) : f.name <+: s := by
  obtain ⟨⟨name, stop, rest⟩, found, read⟩ := bind_eq_ok.mp h
  rw [eq_of_fieldName found]
  suffices same : f.name = name from same ▸ List.prefix_append _ _
  simp only at read
  split at read
  · cases read
    rfl
  split at read
  · obtain ⟨_, -, made⟩ := bind_eq_ok.mp read
    cases made
    rfl
  split at read
  · exact nomatch read
  · cases read
    rfl
  · obtain ⟨_, -, made⟩ := bind_eq_ok.mp read
    cases made
    rfl
  · exact nomatch read

/-- Only the one name there is leads to anything. -/
theorem prefix_of_lookUp {path : List Char} {item : Item} (h : lookUp name value path = .ok item) :
    name <+: path := by
  unfold lookUp at h
  simp only at h
  split at h
  · exact nomatch h
  obtain ⟨_, -, found⟩ := bind_eq_ok.mp h
  split at found
  · exact nomatch found
  split at found
  · next named => exact named ▸ List.takeWhile_prefix _
  · exact nomatch found

/-- A closing brace on its own cannot be filled, and an opening one cannot without the name. -/
theorem doubled_of_brace {c : Char} (brace : IsBrace c) {rest : List Char}
    (absent : ¬ name <:+: c :: rest)
    (h : fillFrom name value depth (fuel + 1) (c :: rest) = .ok shown) :
    ∃ more, rest = c :: more := by
  rw [fillFrom.eq_def] at h
  rcases brace with rfl | rfl
  · simp only [Char.reduceEq, if_false, if_true] at h
    split at h
    · exact ⟨_, rfl⟩
    · simp only [bind_eq_ok] at h
      obtain ⟨f, named, _, found, -⟩ := h
      -- the field would name the value
      have infix_ : name <:+: '\x7b' :: rest :=
        ((prefix_of_lookUp found).trans (prefix_of_field named)).isInfix.trans
          (List.suffix_cons _ _).isInfix
      exact absurd infix_ absent
  · simp only [if_true] at h
    split at h
    · exact ⟨_, rfl⟩
    · exact nomatch h

/-- **Without the name there is no field**: whatever a template comes to has its braces doubled
there. -/
theorem eq_doubled_of_fillFrom (absent : ¬ name <:+: s)
    (h : fillFrom name value depth fuel s = .ok shown) : s = doubled shown := by
  induction fuel generalizing s shown with
  | zero =>
    cases s with
    | nil => exact Except.ok.inj h ▸ rfl
    | cons => exact nomatch h
  | succ fuel ih =>
    have step {c : Char} {rest : List Char} (absent : ¬ name <:+: rest)
        (h : (fillFrom name value depth fuel rest).map (c :: ·) = .ok shown) :
        ∃ more, shown = c :: more ∧ rest = doubled more := by
      cases filled : fillFrom name value depth fuel rest with
      | error e =>
        rw [filled] at h
        exact nomatch h
      | ok more =>
        rw [filled] at h
        exact ⟨more, (Except.ok.inj h).symm, ih absent filled⟩
    cases s with
    | nil => exact Except.ok.inj h ▸ rfl
    | cons c rest =>
      have later {t : List Char} (suffix : t <:+ c :: rest) : ¬ name <:+: t :=
        fun inside => absent (inside.trans suffix.isInfix)
      by_cases brace : IsBrace c
      · obtain ⟨more, rfl⟩ := doubled_of_brace brace absent h
        rw [fillFrom_brace brace] at h
        obtain ⟨more, rfl, rfl⟩ := step (later ⟨[c, c], rfl⟩) h
        exact (doubled_brace brace _).symm
      · rw [fillFrom_cons brace] at h
        obtain ⟨more, rfl, rfl⟩ := step (later ⟨[c], rfl⟩) h
        exact (doubled_cons brace _).symm

/-! ## Whole templates -/

/-- **A template that does not use the name comes to a text exactly if it is the text with every
brace doubled.** -/
theorem fill_eq_ok_iff {name value text shown : String}
    (absent : ¬ name.toList <:+: text.toList) :
    fill name value text = .ok shown ↔ text.toList = doubled shown.toList := by
  unfold fill
  constructor
  · intro h
    cases filled : fillFrom name.toList value.toList 1 (text.length + 1) text.toList with
    | error e =>
      rw [filled] at h
      exact nomatch h
    | ok more =>
      rw [filled] at h
      obtain rfl := Except.ok.inj h
      rw [String.toList_ofList]
      exact eq_doubled_of_fillFrom absent filled
  · intro same
    have enough : (doubled shown.toList).length ≤ text.length + 1 := by
      rw [← same, String.length_toList]
      exact Nat.le_succ _
    rw [same, fillFrom_doubled enough]
    exact congrArg _ String.ofList_toList

/-- A text without braces is a template for itself, whatever the name. -/
theorem fill_of_plain {name value text : String} (plain : ∀ c ∈ text.toList, ¬ IsBrace c) :
    fill name value text = .ok text := by
  have enough : (doubled text.toList).length ≤ text.length + 1 := by
    rw [doubled_of_plain plain, String.length_toList]
    exact Nat.le_succ _
  have filled : fillFrom name.toList value.toList 1 (text.length + 1) (doubled text.toList) =
      .ok text.toList := fillFrom_doubled enough
  rw [doubled_of_plain plain] at filled
  unfold fill
  rw [filled]
  exact congrArg _ String.ofList_toList

end Template

/-! ## The way to the sink -/

theorem Level.number_of_ofStandard? {level : Int} {known : Level}
    (h : Level.ofStandard? level = some known) : known.number = level := by
  simpa using List.find?_some h

/-- The name under which messages may use the correlation id. -/
def correlationName : String := "correlation_id"

namespace Sink

variable {sink : Sink} {logger : String} {level : Int} {known : Level} {text : String}

/-- **A text gets through a standard logger**: nothing is raised, and the sink keeps one record
more, the text redacted under the correlation id of the moment. If the level has a standard name, it
is the record that the application's own logger makes. -/
def Delivers (sink : Sink) (logger : String) (level : Int) (text : String) : Prop :=
  ∃ sink' at_, sink.relay logger level text [] = .ok sink' ∧
    sink'.records = sink.records ++ [⟨at_, sink.correlation, Redact.redact text⟩] ∧
    ∀ known, Level.ofStandard? level = some known → sink' = sink.log known text

theorem log_of_taken (taken : sink.threshold.number ≤ known.number) (text : String) :
    sink.log known text = { sink with
      records := sink.records ++ [⟨known, sink.correlation, Redact.redact text⟩] } := if_pos taken

/-- A level without a standard name is refused, whatever the text. -/
theorem relay_of_unnamed (heard : loggerThreshold logger ≤ level)
    (unnamed : Level.ofStandard? level = none) (text : String) :
    sink.relay logger level text [] = .error .unknownLevel := by
  unfold relay
  rw [if_neg (Int.not_lt.mpr heard), unnamed]
  rfl

/-- At a level with a name, what is logged is what the text comes to as a template. -/
theorem relay_of_known (heard : loggerThreshold logger ≤ level)
    (taken : sink.threshold.number ≤ level) (named : Level.ofStandard? level = some known)
    (text : String) : sink.relay logger level text [] =
      match Template.fill correlationName sink.correlation text with
      | .error fault => .error (.template fault)
      | .ok shown => .ok (sink.log known shown) := by
  have above : ¬ known.number < sink.threshold.number := by
    rw [Level.number_of_ofStandard? named]
    exact Int.not_lt.mpr taken
  unfold relay
  rw [if_neg (Int.not_lt.mpr heard), named]
  exact if_neg above

/-- **A text gets through exactly if** its level has a standard name, and what it comes to as a
template looks the same once redacted. -/
theorem delivers_iff (heard : loggerThreshold logger ≤ level)
    (taken : sink.threshold.number ≤ level) : Delivers sink logger level text ↔
      ∃ known shown, Level.ofStandard? level = some known ∧
        Template.fill correlationName sink.correlation text = .ok shown ∧
        Redact.redact shown = Redact.redact text := by
  have taken' {known : Level} (named : Level.ofStandard? level = some known) :
      sink.threshold.number ≤ known.number := Level.number_of_ofStandard? named ▸ taken
  constructor
  · rintro ⟨sink', at_, relayed, kept, -⟩
    cases named : Level.ofStandard? level with
    | none => exact nomatch relayed.symm.trans (relay_of_unnamed heard named text)
    | some known =>
      rw [relay_of_known heard taken named] at relayed
      split at relayed
      · exact nomatch relayed
      · next shown filled =>
        obtain rfl := Except.ok.inj relayed
        rw [log_of_taken (taken' named)] at kept
        obtain ⟨-, -, same⟩ := Record.mk.inj (List.singleton_inj.mp (List.append_cancel_left kept))
        exact ⟨known, shown, rfl, filled, same⟩
  · rintro ⟨known, shown, named, filled, same⟩
    have logged : sink.log known shown = sink.log known text := by
      rw [log_of_taken (taken' named), log_of_taken (taken' named), same]
    refine ⟨sink.log known text, known, ?_, ?_, fun known' named' => ?_⟩
    · rw [relay_of_known heard taken named, filled, ← logged]
    · rw [log_of_taken (taken' named)]
    · rw [Option.some.inj (named.symm.trans named')]

/-- **Which texts get through a standard logger** at some level. -/
structure Relaying (sink : Sink) (logger : String) (level : Int) (text : String) : Prop where
  /-- Exactly those that look the same as templates, at a level with a standard name. -/
  delivers_iff : Delivers sink logger level text ↔
    ∃ known shown, Level.ofStandard? level = some known ∧
      Template.fill correlationName sink.correlation text = .ok shown ∧
      Redact.redact shown = Redact.redact text
  /-- Without braces, all of them. -/
  plain : (∀ c ∈ text.toList, ¬ Template.IsBrace c) →
    (Delivers sink logger level text ↔ (Level.ofStandard? level).isSome)
  /-- Away from the name of the correlation id, those that are some text with its braces doubled,
  and look the same with its braces single. -/
  braced : ¬ correlationName.toList <:+: text.toList →
    (Delivers sink logger level text ↔ (Level.ofStandard? level).isSome ∧
      ∃ shown : String, text.toList = Template.doubled shown.toList ∧
        Redact.redact shown = Redact.redact text)
  /-- At a level without a standard name nothing gets through: it is refused. -/
  unnamed : Level.ofStandard? level = none →
    sink.relay logger level text [] = .error .unknownLevel

/-- **Texts get through like this**, whatever the correlation id is, at every level that the logger
and the sink take. -/
theorem relaying (heard : loggerThreshold logger ≤ level)
    (taken : sink.threshold.number ≤ level) (text : String) :
    Relaying sink logger level text where
  delivers_iff := delivers_iff heard taken
  plain plain := by
    rw [delivers_iff heard taken, Template.fill_of_plain plain, Option.isSome_iff_exists]
    constructor
    · rintro ⟨known, -, named, -⟩
      exact ⟨known, named⟩
    · rintro ⟨known, named⟩
      exact ⟨known, text, named, rfl, rfl⟩
  braced absent := by
    simp only [delivers_iff heard taken, Template.fill_eq_ok_iff absent, Option.isSome_iff_exists]
    constructor
    · rintro ⟨known, shown, named, doubled, same⟩
      exact ⟨⟨known, named⟩, shown, doubled, same⟩
    · rintro ⟨⟨known, named⟩, shown, doubled, same⟩
      exact ⟨known, shown, named, doubled, same⟩
  unnamed unnamed := relay_of_unnamed heard unnamed text

/-- A sink that takes warnings, while a request is answered. -/
def answering : Sink := (empty .warning).correlate (some "request")

/-- A library's warning gets through, percent sign and all. -/
theorem warning_relayed : loggerThreshold "library.pool" ≤ 30 ∧ answering.threshold.number ≤ 30 ∧
    Relaying answering "library.pool" 30 "pool at 100% for alice@example.com" ∧
    Delivers answering "library.pool" 30 "pool at 100% for alice@example.com" := by
  have heard : loggerThreshold "library.pool" ≤ 30 := by decide +kernel
  have taken : answering.threshold.number ≤ 30 := by decide
  have through := relaying heard taken "pool at 100% for alice@example.com"
  have plain : ∀ c ∈ "pool at 100% for alice@example.com".toList, ¬ Template.IsBrace c := by
    simp [Template.IsBrace]
  exact ⟨heard, taken, through, (through.plain plain).mpr (by decide)⟩

/-- **A text with a brace in it is refused, and so is a level without a name**: the application's
own logger hands on the text as it is, and the standard logger fails. -/
theorem brace_refused : loggerThreshold "x.y" ≤ 20 ∧ (empty .info).threshold.number ≤ 20 ∧
    ((empty .info).log .info "plain \x7bx\x7d").records =
      [⟨.info, "-", Redact.redact "plain \x7bx\x7d"⟩] ∧
    (empty .info).relay "x.y" 20 "plain \x7bx\x7d" [] = .error (.template .noSuchName) ∧
    ¬ Delivers (empty .info) "x.y" 20 "plain \x7bx\x7d" ∧
    ¬ Delivers (empty .info) "x.y" 35 "plain" := by
  have heard : loggerThreshold "x.y" = 1 := by decide +kernel
  have refused : (empty .info).relay "x.y" 20 "plain \x7bx\x7d" [] =
      .error (.template .noSuchName) := by rfl
  have kept : (empty .info).log .info "plain \x7bx\x7d" = _ := log_of_taken (by decide) _
  refine ⟨heard ▸ by decide, by decide, congrArg records kept, refused, ?_, ?_⟩
  · rintro ⟨_, _, relayed, -⟩
    exact nomatch refused.symm.trans relayed
  · rintro ⟨_, _, relayed, -⟩
    exact nomatch (relay_of_unnamed (heard ▸ by decide) (by decide) "plain").symm.trans relayed

end Sink
end LoginGate.Log
