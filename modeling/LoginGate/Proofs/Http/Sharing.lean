import LoginGate.Proofs.Http.Frame

/-!
# Proofs/Http/Sharing — to whom credentials are open

That a caller may send credentials is said in a field that no endpoint writes: it comes with the
fields about origins, and these depend on the list of allowed origins and on the origin that the
request names, and on nothing else that is known or stored. So for every list it can be said exactly
whom it lends credentials to (`Lends`). As long as the wildcard is alone in the list or not in it,
an origin that is let in is matched by an entry that names it. Beside other entries, the wildcard
lets in everyone.
-/

namespace LoginGate

/-- What comes out of a list entry by entry is what comes out of its entries. -/
theorem mem_of_mapM {ε α β : Type} {f : α → Except ε β} {as : List α} {bs : List β}
    (h : as.mapM f = .ok bs) {b : β} : b ∈ bs ↔ ∃ a ∈ as, f a = .ok b := by
  induction as generalizing bs with
  | nil =>
    obtain rfl := Except.ok.inj h
    simp
  | cons a as ih =>
    simp only [List.mapM_cons, bind_eq_ok] at h
    obtain ⟨c, head, cs, tail, made⟩ := h
    obtain rfl := Except.ok.inj made
    rw [List.mem_cons, ih tail, List.exists_mem_cons_iff, head, Except.ok.injEq, eq_comm]

namespace Http

/-- **A response allows credentials.** -/
def Response.AllowsCredentials (a : Response) : Prop :=
  ("Access-Control-Allow-Credentials", "true") ∈ a.fields

namespace Origin

variable {allowed : List String} {policy : Policy} {origin text : String} {entry : Entry}

/-! ## Entries as they stand in the list -/

/-- **An entry matches an origin.** -/
def Matches (text origin : String) : Prop :=
  ∃ entry, Entry.ofText text = .ok entry ∧ entry.covers origin = true

theorem matches_wildcard (origin : String) : Matches wildcard origin := ⟨.everyone, rfl, rfl⟩

theorem isEveryone_iff (h : Entry.ofText text = .ok entry) :
    entry.isEveryone = true ↔ text = wildcard ∨ text = anyText := by
  unfold Entry.ofText at h
  split at h
  · next every =>
    obtain rfl := Except.ok.inj h
    exact iff_of_true rfl every
  · next named =>
    refine iff_of_false (fun every => ?_) named
    -- an origin and a pattern stand for themselves
    split at h
    · split at h
      · obtain rfl := Except.ok.inj h
        exact nomatch every
      · exact nomatch h
    · obtain rfl := Except.ok.inj h
      exact nomatch every

theorem origin?_eq_some {s : String} (h : Entry.ofText text = .ok entry) :
    entry.origin? = some s ↔ s = text ∧ isPattern text = false := by
  unfold Entry.ofText at h
  split at h
  · next every =>
    obtain rfl := Except.ok.inj h
    refine iff_of_false nofun fun ⟨_, plain⟩ => ?_
    rcases every with rfl | rfl <;> exact absurd plain (by decide)
  · split at h
    · next pattern =>
      split at h
      · obtain rfl := Except.ok.inj h
        exact iff_of_false nofun fun ⟨_, plain⟩ => by simp [pattern] at plain
      · exact nomatch h
    · next plain =>
      obtain rfl := Except.ok.inj h
      simp [Entry.origin?, plain, eq_comm]

/-! ## The policy of a list -/

theorem Policy.withCredentials_iff (made : Policy.ofList allowed = .ok policy) :
    policy.withCredentials = true ↔ ∃ text ∈ allowed, text ≠ wildcard := by
  obtain ⟨entries, read, same⟩ := bind_eq_ok.mp made
  obtain rfl := Except.ok.inj same
  simp

theorem Policy.mem_entries (made : Policy.ofList allowed = .ok policy) :
    entry ∈ policy.entries ↔ ∃ text ∈ allowed, Entry.ofText text = .ok entry := by
  obtain ⟨entries, read, same⟩ := bind_eq_ok.mp made
  obtain rfl := Except.ok.inj same
  exact mem_of_mapM read

/-- An origin is covered if an entry of the list matches it. -/
theorem Policy.any_covers (made : Policy.ofList allowed = .ok policy) :
    policy.entries.any (·.covers origin) = true ↔ ∃ text ∈ allowed, Matches text origin := by
  rw [List.any_eq_true]
  constructor
  · rintro ⟨entry, mem, covers⟩
    obtain ⟨text, listed, read⟩ := (mem_entries made).mp mem
    exact ⟨text, listed, entry, read, covers⟩
  · rintro ⟨text, listed, entry, read, covers⟩
    exact ⟨entry, (mem_entries made).mpr ⟨text, listed, read⟩, covers⟩

theorem Policy.any_isEveryone (made : Policy.ofList allowed = .ok policy) :
    policy.entries.any (·.isEveryone) = true ↔
      ∃ text ∈ allowed, text = wildcard ∨ text = anyText := by
  rw [List.any_eq_true]
  constructor
  · rintro ⟨entry, mem, every⟩
    obtain ⟨text, listed, read⟩ := (mem_entries made).mp mem
    exact ⟨text, listed, (isEveryone_iff read).mp every⟩
  · rintro ⟨text, listed, every⟩
    refine ⟨.everyone, (mem_entries made).mpr ⟨text, listed, if_pos every⟩, rfl⟩

/-- The origins of a policy are the entries of the list that are not patterns. -/
theorem Policy.mem_origins (made : Policy.ofList allowed = .ok policy) {s : String} :
    s ∈ policy.entries.filterMap Entry.origin? ↔ s ∈ allowed ∧ isPattern s = false := by
  rw [List.mem_filterMap]
  constructor
  · rintro ⟨entry, mem, same⟩
    obtain ⟨text, listed, read⟩ := (mem_entries made).mp mem
    obtain ⟨rfl, plain⟩ := (origin?_eq_some read).mp same
    exact ⟨listed, plain⟩
  · rintro ⟨listed, plain⟩
    have read : Entry.ofText s = .ok (.origin s) := by
      unfold Entry.ofText
      rw [if_neg, if_neg]
      · exact Bool.eq_false_iff.mp plain
      · rintro (rfl | rfl) <;> exact absurd plain (by decide)
    exact ⟨.origin s, (mem_entries made).mpr ⟨s, listed, read⟩, rfl⟩

theorem first?_eq_none {ss : List String} : first? ss = none ↔ ss = [] := by
  cases ss with
  | nil => exact iff_of_true rfl rfl
  | cons s rest =>
    refine iff_of_false (fun none => ?_) nofun
    unfold first? at none
    split at none <;> exact nomatch none

theorem mem_of_first? {ss : List String} {s : String} (h : first? ss = some s) : s ∈ ss := by
  induction ss generalizing s with
  | nil => exact nomatch h
  | cons t rest ih =>
    unfold first? at h
    split at h
    · next u first =>
      obtain rfl := Option.some.inj h
      split
      · exact List.mem_cons_of_mem _ (ih first)
      · exact List.mem_cons_self
    · obtain rfl := Option.some.inj h
      exact List.mem_cons_self

/-! ## Whom a list lends credentials to -/

/-- **A list lends credentials to an origin.** -/
inductive Lends (allowed : List String) (origin : String) : Prop where
  /-- Some entry matches the origin, and some entry, not necessarily the same, is not the
  wildcard. -/
  | matched (named : origin ≠ "") (fits : ∃ text ∈ allowed, Matches text origin)
    (other : ∃ text ∈ allowed, text ≠ wildcard)
  /-- The request names no origin, and no entry stands for everyone: an origin of the list is named
  instead. -/
  | unnamed (unnamed : origin = "") (closed : ∀ text ∈ allowed, text ≠ wildcard ∧ text ≠ anyText)
    (plain : ∃ text ∈ allowed, isPattern text = false)

/-- What answers a preflight are the names of fields and of methods. -/
theorem name_of_mem_preflight {method : String} {request : Fields} {f : String × String}
    (h : f ∈ preflight method request) :
    f.1 = "Access-Control-Allow-Headers" ∨ f.1 = "Access-Control-Allow-Methods" := by
  unfold preflight at h
  simp only at h
  split at h
  · rcases List.mem_append.mp h with h | h
    · split at h
      · exact absurd h List.not_mem_nil
      · obtain rfl := List.mem_singleton.mp h
        exact .inl rfl
    · obtain rfl := List.mem_singleton.mp h
      exact .inr rfl
  · exact absurd h List.not_mem_nil

/-- The field of credentials is there if they are supported and an origin is named. -/
theorem credentials_mem_fields (policy : Policy) (method : String) (request : Fields) :
    ("Access-Control-Allow-Credentials", "true") ∈ fields policy method request ↔
      policy.withCredentials = true ∧ (named? policy (request.getText "Origin")).isSome = true := by
  unfold fields
  cases named? policy (request.getText "Origin") with
  | none => simp
  | some name =>
    have other : ("Access-Control-Allow-Credentials", "true") ∉ preflight method request := by
      intro mem
      rcases name_of_mem_preflight mem with same | same <;> simp at same
    cases policy.withCredentials with
    | true => simp
    | false =>
      simp only [Bool.false_eq_true, if_false, List.append_nil, List.mem_append, other]
      split <;> split <;> simp

/-- The field of the origin tells the one that is named. -/
theorem origin_mem_fields (policy : Policy) (method : String) (request : Fields) {name : String} :
    ("Access-Control-Allow-Origin", name) ∈ fields policy method request ↔
      named? policy (request.getText "Origin") = some name := by
  unfold fields
  cases named? policy (request.getText "Origin") with
  | none => simp
  | some told =>
    have other : ("Access-Control-Allow-Origin", name) ∉ preflight method request := by
      intro mem
      rcases name_of_mem_preflight mem with same | same <;> simp at same
    simp only [List.mem_append, other, List.mem_singleton, Prod.mk.injEq, true_and,
      Option.some.injEq, eq_comm (a := name)]
    constructor
    · rintro ((((same | credentials) | network) | asked) | vary)
      · exact same
      · split at credentials <;> simp at credentials
      · split at network <;> simp at network
      · exact asked.elim
      · split at vary <;> simp at vary
    · exact fun same => .inl (.inl (.inl (.inl same)))

/-- **The fields about origins allow credentials to whom the list lends them.** -/
theorem credentials_iff_lends (made : Policy.ofList allowed = .ok policy) (method : String)
    (request : Fields) :
    ("Access-Control-Allow-Credentials", "true") ∈ fields policy method request ↔
      Lends allowed (request.getText "Origin") := by
  rw [credentials_mem_fields]
  generalize request.getText "Origin" = origin
  constructor
  · rintro ⟨supported, told⟩
    have other := (Policy.withCredentials_iff made).mp supported
    unfold named? at told
    split at told
    · next named =>
      split at told
      · next covered => exact .matched named ((Policy.any_covers made).mp covered) other
      · exact nomatch told
    · next unnamed =>
      split at told
      · exact nomatch told
      · next closed =>
        rw [Policy.any_isEveryone made] at closed
        obtain ⟨s, first⟩ := Option.isSome_iff_exists.mp told
        obtain ⟨listed, plain⟩ := (Policy.mem_origins made).mp (mem_of_first? first)
        refine .unnamed (not_not.mp unnamed) (fun text listed => ?_) ⟨s, listed, plain⟩
        exact ⟨fun every => closed ⟨text, listed, .inl every⟩,
          fun every => closed ⟨text, listed, .inr every⟩⟩
  · rintro (⟨named, fits, other⟩ | ⟨rfl, closed, s, listed, plain⟩)
    · refine ⟨(Policy.withCredentials_iff made).mpr other, ?_⟩
      unfold named?
      rw [if_pos named, if_pos ((Policy.any_covers made).mpr fits)]
      rfl
    · refine ⟨(Policy.withCredentials_iff made).mpr ⟨s, listed, (closed s listed).1⟩, ?_⟩
      have selective : ¬ policy.entries.any (·.isEveryone) = true := by
        rw [Policy.any_isEveryone made]
        rintro ⟨text, listed, rfl | rfl⟩
        · exact (closed _ listed).1 rfl
        · exact (closed _ listed).2 rfl
      have among : s ∈ policy.entries.filterMap Entry.origin? :=
        (Policy.mem_origins made).mpr ⟨listed, plain⟩
      unfold named?
      rw [if_neg (not_not.mpr rfl), if_neg selective, Option.isSome_iff_ne_none, Ne, first?_eq_none]
      exact List.ne_nil_of_mem among

/-- The origin that the fields name, where they allow credentials: the caller's own one, or one of
the list. -/
theorem named_of_lends (made : Policy.ofList allowed = .ok policy) {name : String}
    (lends : Lends allowed origin) (told : named? policy origin = some name) :
    name = origin ∨ origin = "" ∧ name ∈ allowed ∧ isPattern name = false := by
  unfold named? at told
  cases lends with
  | matched named fits other =>
    rw [if_pos named, if_pos ((Policy.any_covers made).mpr fits)] at told
    exact .inl (Option.some.inj told).symm
  | unnamed unnamed closed plain =>
    rw [if_neg (not_not.mpr unnamed)] at told
    split at told
    · next every =>
      obtain ⟨text, listed, every⟩ := (Policy.any_isEveryone made).mp every
      obtain ⟨wild, any⟩ := closed text listed
      exact absurd every (not_or.mpr ⟨wild, any⟩)
    · exact .inr ⟨unnamed, (Policy.mem_origins made).mp (mem_of_first? told)⟩

/-- The wildcard does not stand beside other entries. -/
def Unmixed (allowed : List String) : Prop := wildcard ∈ allowed → ∀ text ∈ allowed, text = wildcard

/-- **A list that is not mixed lends to the origins that an entry other than the wildcard matches.**
-/
theorem Unmixed.lends_iff (unmixed : Unmixed allowed) (named : origin ≠ "") :
    Lends allowed origin ↔ ∃ text ∈ allowed, text ≠ wildcard ∧ Matches text origin := by
  constructor
  · rintro (⟨-, ⟨text, listed, fits⟩, other, listed', ne⟩ | ⟨unnamed, -⟩)
    · refine ⟨text, listed, ?_, fits⟩
      rintro rfl
      exact ne (unmixed listed other listed')
    · exact absurd unnamed named
  · rintro ⟨text, listed, ne, fits⟩
    exact .matched named ⟨text, listed, fits⟩ ⟨text, listed, ne⟩

end Origin

/-! ## What endpoints write -/

/-- **Nothing is said about origins yet.** -/
def Response.Unframed (a : Response) : Prop :=
  ∀ f ∈ a.fields, f.1 ∈ ["Content-Type", "Set-Cookie", "Allow"]

namespace Response.Unframed

theorem json (status : Int) (doc : Json) : (Response.json status doc).Unframed := by
  simp [Response.Unframed, Response.json]

theorem empty (status : Int) {fields : Fields}
    (own : ∀ f ∈ fields, f.1 = "Set-Cookie" ∨ f.1 = "Allow") :
    (Response.empty status fields).Unframed := by
  simp +contextual [Response.Unframed, Response.empty, Response.pageType, own]

theorem page (status : Int) {fields : Fields} (allow : ∀ f ∈ fields, f.1 = "Allow") :
    (Response.page status fields).Unframed := by
  simp +contextual [Response.Unframed, Response.page, Response.pageType, allow]

theorem adding {a : Response} (h : a.Unframed) {f : String × String} (cookie : f.1 = "Set-Cookie") :
    (a.adding [f]).Unframed := by
  intro g mem
  rcases List.mem_append.mp mem with mem | mem
  · exact h g mem
  · obtain rfl := List.mem_singleton.mp mem
    simp [cookie]

end Response.Unframed

namespace Site

variable {site : Site} {r : Request} {w : World}

theorem failureResponse_unframed (f : Failure) : (failureResponse f).Unframed := by
  cases f <;> exact .json _ _

theorem name_of_refreshCookie {token : String} {now : Instant} {field : String × String}
    (h : site.refreshCookie token now = .ok field) : field.1 = "Set-Cookie" := by
  unfold refreshCookie at h
  split at h
  · obtain ⟨text, -, made⟩ := bind_eq_ok.mp h
    exact Except.ok.inj made ▸ rfl
  · exact nomatch h

theorem name_of_clearedCookie {field : String × String} (h : site.clearedCookie = .ok field) :
    field.1 = "Set-Cookie" := by
  obtain ⟨text, -, made⟩ := bind_eq_ok.mp h
  exact Except.ok.inj made ▸ rfl

/-- The endpoints for everyone write nothing about origins. -/
theorem answerAnyone_gives (site : Site) (e : Endpoint) (r : Request) :
    (site.answerAnyone e r).Gives Response.Unframed := by
  have cookie (token : String) (doc : Json) :
      (do return (Response.json 200 doc).adding [← Act.atNow (site.refreshCookie token)]).Gives
        Response.Unframed :=
    Act.Gives.bind (P := fun field => field.1 = "Set-Cookie")
      (fun _ _ made => name_of_refreshCookie made) fun _ name =>
        Act.gives_pure ((Response.Unframed.json _ _).adding name)
  cases e with
  | register =>
    exact Act.gives_bind fun _ => Act.gives_bind fun _ => Act.gives_bind fun _ =>
      Act.gives_pure (.json _ _)
  | login =>
    exact Act.gives_bind fun _ => Act.gives_bind fun _ => Act.gives_bind fun a => cookie _ _
  | refresh =>
    change (site.refresh r).Gives _
    rw [refresh_eq]
    split
    · exact Act.gives_fail _
    · exact Act.gives_bind fun pair => cookie _ _
  | health => exact Act.gives_pure (.json _ _)
  | logout | logoutAll | me | file => exact Act.gives_pure (.page _ nofun)

/-- Nor do those for callers. -/
theorem answerCaller_gives (site : Site) (e : Endpoint) (caller : Uuid) (r : Request) :
    (site.answerCaller e caller r).Gives Response.Unframed := by
  cases e with
  | logout =>
    exact Act.gives_bind fun _ => Act.gives_bind fun _ => Act.gives_bind fun _ =>
      Act.gives_pure (.empty _ nofun)
  | logoutAll =>
    refine Act.gives_bind fun _ => Act.Gives.bind (P := fun field => field.1 = "Set-Cookie")
      (fun _ _ made => name_of_clearedCookie made) fun _ name => Act.gives_bind fun _ =>
        Act.gives_pure (.empty _ (by simp [name]))
  | register | login | refresh | me | health | file => exact Act.gives_pure (.json _ _)

theorem explain_gives (site : Site) (r : Request) (f : Failure) :
    (site.explain r f).Gives Response.Unframed := by
  unfold explain
  split
  · exact Act.gives_bind fun _ => Act.gives_pure (failureResponse_unframed f)
  · exact Act.gives_pure (failureResponse_unframed f)

theorem rescue_gives (r : Request) {act : Act Response} (h : act.Gives Response.Unframed) :
    (site.rescue r act).Gives Response.Unframed :=
  h.orElse (site.explain_gives r)

theorem visit_gives (site : Site) (e : Endpoint) (r : Request) :
    (site.visit e r).Gives fun p => p.1.Unframed := by
  unfold visit
  split
  · exact Act.gives_pure (.empty _ (by simp))
  split
  · refine Act.Gives.orElse (Act.gives_bind fun caller => ?_) fun f => ?_
    · exact (rescue_gives r (site.answerCaller_gives e caller r)).bind fun _ h => Act.gives_pure h
    · exact (site.explain_gives r f).bind fun _ h => Act.gives_pure h
  · exact (rescue_gives r (site.answerAnyone_gives e r)).bind fun _ h => Act.gives_pure h

/-- **Nothing is said about origins where a request is dispatched.** -/
theorem dispatch_gives (site : Site) (r : Request) :
    (site.dispatch r).Gives fun p => p.1.Unframed := by
  unfold dispatch
  split
  · exact Act.gives_pure (.page _ nofun)
  split
  · split
    · exact Act.gives_pure (.page _ nofun)
    · exact site.visit_gives _ r
  · exact Act.gives_pure (.page _ nofun)
  · exact Act.gives_pure (.page _ (by simp))
  · exact Act.gives_pure (.page _ nofun)

/-- **A response is one of these with the fields of its frame.** -/
theorem respond_gives (site : Site) (r : Request) :
    (site.respond r).Gives fun a => ∃ inner, inner.Unframed ∧ a = site.finish r inner :=
  Act.gives_bind fun _ => Act.gives_bind fun _ => (site.dispatch_gives r).bind fun p h =>
    Act.gives_bind fun _ => Act.gives_bind fun _ => Act.gives_pure ⟨p.1, h, rfl⟩

/-- Of the fields of a response, those about origins are from its frame. -/
theorem mem_finish_iff {inner : Response} (unframed : inner.Unframed) {name value : String}
    (apart : name ∉ ["Content-Type", "Set-Cookie", "Allow"])
    (safe : name ∉ safetyFields.map Prod.fst) :
    (name, value) ∈ (site.finish r inner).fields ↔
      isShared r.path = true ∧
        (name, value) ∈ Origin.fields site.origins r.method r.fields := by
  have other : (name, value) ∉ inner.fields := fun mem => apart (unframed _ mem)
  have safe : (name, value) ∉ safetyFields := fun mem => safe (List.mem_map_of_mem mem)
  rw [fields_finish, frameFields, List.mem_append, List.mem_append]
  simp only [other, safe, false_or]
  split
  · next shared => simp [shared]
  · next unshared => simp [unshared]

/-! ## Whole exchanges -/

/-- **To whom a response opens credentials**, given the list of allowed origins. -/
structure Lending (allowed : List String) (r : Request) (a : Response) : Prop where
  /-- On the paths of the interface, to whom the list lends them. -/
  allows_iff : a.AllowsCredentials ↔
    isShared r.path = true ∧ Origin.Lends allowed (r.fields.getText "Origin")
  /-- They are opened to one origin: the one that the request names, or one of the list if it names
  none. -/
  opened : a.AllowsCredentials → ∃ name,
    (∀ value, ("Access-Control-Allow-Origin", value) ∈ a.fields ↔ value = name) ∧
    (name = r.fields.getText "Origin" ∨
      r.fields.getText "Origin" = "" ∧ name ∈ allowed ∧ Origin.isPattern name = false)
  /-- Unless the wildcard stands beside other entries, an entry other than the wildcard matches. -/
  listed : Origin.Unmixed allowed → r.fields.getText "Origin" ≠ "" → a.AllowsCredentials →
    ∃ text ∈ allowed, text ≠ Origin.wildcard ∧ Origin.Matches text (r.fields.getText "Origin")

/-- What a site knows of origins is read from the list of its configuration. -/
theorem origins_of_make {config : Config} {service : Service} {fresh : String}
    (made : Site.make config service fresh = .ok site) :
    Origin.Policy.ofList config.security.allowedOrigins = .ok site.origins := by
  obtain ⟨policy, read, same⟩ := bind_eq_ok.mp made
  obtain rfl := Except.ok.inj same
  unfold policyOf at read
  split at read
  · next ofList => exact ofList.trans (congrArg _ (Except.ok.inj read))
  · exact nomatch read
  · exact nomatch read
  · exact nomatch read

/-- A response with its frame opens credentials like this. -/
theorem lending_finish {allowed : List String}
    (made : Origin.Policy.ofList allowed = .ok site.origins) {inner : Response}
    (unframed : inner.Unframed) (r : Request) : Lending allowed r (site.finish r inner) := by
  have allows_iff : (site.finish r inner).AllowsCredentials ↔
      isShared r.path = true ∧ Origin.Lends allowed (r.fields.getText "Origin") := by
    unfold Response.AllowsCredentials
    rw [mem_finish_iff unframed (by decide) (by decide), Origin.credentials_iff_lends made]
  refine ⟨allows_iff, fun allows => ?_, fun unmixed named allows => ?_⟩
  · obtain ⟨shared, lends⟩ := allows_iff.mp allows
    have told := ((Origin.credentials_mem_fields ..).mp
      ((Origin.credentials_iff_lends made r.method r.fields).mpr lends)).2
    obtain ⟨name, told⟩ := Option.isSome_iff_exists.mp told
    refine ⟨name, fun value => ?_, Origin.named_of_lends made lends told⟩
    rw [mem_finish_iff unframed (by decide) (by decide), Origin.origin_mem_fields, told]
    simp [shared, eq_comm]
  · exact (unmixed.lends_iff named).mp (allows_iff.mp allows).2

/-- **Every request is responded to, and credentials are opened to those alone whom the list lends
them to.** -/
theorem respond_lending {config : Config} {service : Service} {fresh : String}
    (made : Site.make config service fresh = .ok site) (r : Request) (w : World) :
    ∃ a, (site.respond r w).1 = .ok a ∧ Lending config.security.allowedOrigins r a := by
  obtain ⟨a, responds, -⟩ := respond_touches site r w
  obtain ⟨inner, unframed, rfl⟩ := site.respond_gives r w a responds
  exact ⟨_, responds, lending_finish (origins_of_make made) unframed r⟩

/-! ## A list of two origins, and one with the wildcard beside an origin -/

/-- The list of allowed origins is set. -/
def listing (text : String) : Settings.Sources where
  process := [("ALLOWED_ORIGINS".toList, some text.toList)]
  file := []

/-- The settings that are in force then. -/
def listingConfig (allowed : List String) : Config :=
  { Run.plainConfig with
    security := { Run.plainConfig.security with allowedOrigins := allowed } }

/-- A site with such a list. -/
def listingSite (allowed : List String) (entries : List Origin.Entry) : Site :=
  { plainSite with
    security := (listingConfig allowed).security
    origins := ⟨entries, true⟩ }

/-- A page of some origin asks who its user is. -/
def asking (origin : String) : Request where
  method := "GET"
  path := Endpoint.me.path
  fields := [("Host", "localhost"), ("Origin", origin)]
  peer := "127.0.0.1"
  body := []

/-- Two origins are listed. -/
def pair : List String := ["https://b.io", "https://a.io"]

def pairSite : Site := listingSite pair [.origin "https://b.io", .origin "https://a.io"]

theorem load_pair : Config.load (listing "https://b.io, https://a.io,") =
    .ok (listingConfig pair, "") := by
  rfl

/-- Credentials are open to a listed origin, in whatever letter case it is named. -/
theorem pair_lending : Config.load (listing "https://b.io, https://a.io,") =
      .ok (listingConfig pair, "") ∧
    Site.make (listingConfig pair) Run.plain "fresh" = .ok pairSite ∧
    Origin.Unmixed pair ∧ ∃ a, (pairSite.respond (asking "HTTPS://A.IO") visited.world).1 = .ok a ∧
      Lending pair (asking "HTTPS://A.IO") a ∧ a.AllowsCredentials := by
  have made : Site.make (listingConfig pair) Run.plain "fresh" = .ok pairSite := rfl
  obtain ⟨a, responds, lending⟩ := respond_lending made (asking "HTTPS://A.IO") visited.world
  have shared : isShared (asking "HTTPS://A.IO").path = true := by decide +kernel
  refine ⟨load_pair, made, nofun, a, responds, lending, lending.allows_iff.mpr ⟨shared, ?_⟩⟩
  refine .matched (by decide +kernel) ?_ ⟨"https://b.io", by decide, by decide⟩
  exact ⟨"https://a.io", by decide, .origin "https://a.io", by rfl, by decide +kernel⟩

/-- The wildcard is listed beside an origin. -/
def mixed : List String := [Origin.wildcard, "https://a.io"]

def mixedSite : Site := listingSite mixed [.everyone, .origin "https://a.io"]

theorem load_mixed : Config.load (listing "*,https://a.io") = .ok (listingConfig mixed, "") := by
  rfl

/-- **Beside an origin, the wildcard opens credentials to every other one**: the settings are
accepted, the site is made, and a page of an origin that nothing but the wildcard matches may send
credentials. -/
theorem mixed_open : Config.load (listing "*,https://a.io") = .ok (listingConfig mixed, "") ∧
    Site.make (listingConfig mixed) Run.plain "fresh" = .ok mixedSite ∧
    isShared (asking "https://evil.io").path = true ∧
    (asking "https://evil.io").fields.getText "Origin" = "https://evil.io" ∧
    (¬ ∃ text ∈ mixed, text ≠ Origin.wildcard ∧ Origin.Matches text "https://evil.io") ∧
    ∃ a, (mixedSite.respond (asking "https://evil.io") (Run.start 0 .info).world).1 = .ok a ∧
      a.AllowsCredentials := by
  have made : Site.make (listingConfig mixed) Run.plain "fresh" = .ok mixedSite := rfl
  have named : (asking "https://evil.io").fields.getText "Origin" = "https://evil.io" := by
    decide +kernel
  have shared : isShared (asking "https://evil.io").path = true := by decide +kernel
  obtain ⟨a, responds, -⟩ :=
    respond_touches mixedSite (asking "https://evil.io") (Run.start 0 .info).world
  obtain ⟨inner, unframed, same⟩ := mixedSite.respond_gives _ _ a responds
  have lending := lending_finish (origins_of_make made) unframed (asking "https://evil.io")
  refine ⟨load_mixed, made, shared, named, ?_, a, responds,
    same ▸ lending.allows_iff.mpr ⟨shared, ?_⟩⟩
  · rintro ⟨text, listed, other, entry, read, covers⟩
    simp only [mixed, List.mem_cons, List.not_mem_nil, or_false] at listed
    obtain rfl := listed.resolve_left other
    obtain rfl := Except.ok.inj ((by rfl : Origin.Entry.ofText "https://a.io" =
      .ok (.origin "https://a.io")).symm.trans read)
    exact absurd covers (by decide +kernel)
  · rw [named]
    refine .matched (by decide) ⟨Origin.wildcard, by decide, Origin.matches_wildcard _⟩ ?_
    exact ⟨"https://a.io", by decide, by decide⟩

end Site
end Http
end LoginGate
