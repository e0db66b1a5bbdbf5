import Courier.Proofs.Authentication
import Mathlib.Logic.Function.Basic

/-! # The headers that setters make

The setters of a request act on one ordered list of entries, and some of them are given octets that
make no header. What they come to is described apart from the list: the values of every name as a
function, the names as they were first given, and the first fault. Main statement: whatever the
setters, a request that begins without headers ends with the values, the names and the fault of this
description.
-/

namespace Courier

/-! ## Spelling -/

namespace HeaderName

/-- The case of a letter is lost, and nothing else of an octet. -/
private theorem letter (octet : UInt8) :
    let c := Char.ofNat octet.toNat
    let small := Char.ofNat octet.toAsciiLower.toNat
    (small = c ∨ small.isAlphanum ∧ c.isAlphanum) ∧ small.toLower = c.toLower ∧
      UInt8.ofNat c.toLower.toNat = octet.toAsciiLower := by
  have all : ∀ n < 256,
      let c := Char.ofNat (UInt8.ofNat n).toNat
      let small := Char.ofNat (UInt8.ofNat n).toAsciiLower.toNat
      (small = c ∨ small.isAlphanum ∧ c.isAlphanum) ∧ small.toLower = c.toLower ∧
        UInt8.ofNat c.toLower.toNat = (UInt8.ofNat n).toAsciiLower := by
    decide +kernel
  have here := all octet.toNat octet.toNat_lt
  rwa [UInt8.ofNat_toNat] at here

theorem character?_toAsciiLower (octet : UInt8) :
    character? octet.toAsciiLower = character? octet := by
  obtain ⟨same | ⟨small, capital⟩, lower, _⟩ := letter octet
  · unfold character?
    rw [same]
  · simp only [character?, small, capital, true_or, ↓reduceIte, lower]

theorem toAsciiLower_of_character? {octet : UInt8} {c : Char} (stands : character? octet = some c) :
    octet.toAsciiLower = UInt8.ofNat c.toNat := by
  unfold character? at stands
  dsimp only at stands
  split at stands
  · rw [Option.some.injEq] at stands
    exact stands ▸ (letter octet).2.2.symm
  · exact absurd stands nofun

theorem map_toAsciiLower_of_mapM_character? {octets : Bytes} {chars : List Char}
    (stand : octets.mapM character? = some chars) :
    octets.map UInt8.toAsciiLower = chars.map fun c => UInt8.ofNat c.toNat := by
  induction octets generalizing chars with
  | nil =>
    obtain rfl : [] = chars := Option.some.inj stand
    rfl
  | cons octet rest ih =>
    rw [List.mapM_cons, Option.bind_eq_bind, Option.bind_eq_some_iff] at stand
    obtain ⟨c, first, stand⟩ := stand
    rw [Option.bind_eq_bind, Option.bind_eq_some_iff] at stand
    obtain ⟨later, others, last⟩ := stand
    obtain rfl : c :: later = chars := Option.some.inj last
    rw [List.map_cons, List.map_cons, toAsciiLower_of_character? first, ih others]

/-- The text of a name is what spells it, in small letters. -/
theorem map_toAsciiLower_of_ofBytes? {octets : Bytes} {name : HeaderName}
    (spelt : ofBytes? octets = some name) :
    octets.map UInt8.toAsciiLower = name.text.toList.map fun c => UInt8.ofNat c.toNat := by
  unfold ofBytes? at spelt
  split at spelt
  · exact absurd spelt nofun
  · obtain ⟨chars, stand, rfl⟩ := Option.map_eq_some_iff.mp spelt
    rw [String.toList_ofList, map_toAsciiLower_of_mapM_character? stand]

theorem ofBytes?_map_toAsciiLower (octets : Bytes) :
    ofBytes? (octets.map UInt8.toAsciiLower) = ofBytes? octets := by
  have same : character? ∘ UInt8.toAsciiLower = character? := by
    funext octet
    rw [Function.comp_apply, character?_toAsciiLower]
  simp only [ofBytes?, List.mapM_map, same, List.map_eq_nil_iff, List.length_map]

/-- Octets spell the name that others spell when they differ from these in case alone. -/
theorem ofBytes?_eq_some_iff {octets others : Bytes} {name : HeaderName}
    (spelt : ofBytes? octets = some name) :
    ofBytes? others = some name ↔
      others.map UInt8.toAsciiLower = octets.map UInt8.toAsciiLower := by
  constructor
  · intro again
    rw [map_toAsciiLower_of_ofBytes? again, map_toAsciiLower_of_ofBytes? spelt]
  · intro same
    rw [← ofBytes?_map_toAsciiLower, same, ofBytes?_map_toAsciiLower, spelt]

end HeaderName

/-! ## Names in order -/

namespace Headers

theorem nodup_names (headers : Headers) : headers.names.Nodup := headers.nodup

theorem eraseDups_eq_self {names : List HeaderName} (nodup : names.Nodup) :
    names.eraseDups = names := by
  induction names with
  | nil => rfl
  | cons name rest ih =>
    obtain ⟨fresh, later⟩ := List.nodup_cons.mp nodup
    have kept : rest.filter (fun other => !other == name) = rest := by
      rw [List.filter_eq_self]
      rintro other member
      have apart : other ≠ name := ne_of_mem_of_not_mem member fresh
      simpa using apart
    rw [List.eraseDups_cons, kept, ih later]

/-- Names that stand in the order in which they were first given go on doing so. -/
theorem eraseDups_append_of_eq {names given : List HeaderName} (first : names = given.eraseDups)
    (nodup : names.Nodup) (more : List HeaderName) :
    (names ++ more).eraseDups = (given ++ more).eraseDups := by
  have same : more.removeAll names = more.removeAll given := by
    unfold List.removeAll
    congr 1
    funext name
    rw [Bool.eq_iff_iff]
    simp [first]
  rw [List.eraseDups_append, List.eraseDups_append, same, eraseDups_eq_self nodup, first]

theorem names_change_eq (headers : Headers) (fresh : Entry) (update : Entry → Entry) :
    (change headers.entries fresh update).map (·.name) =
      (headers.names ++ [fresh.name]).eraseDups := by
  rw [names_change, List.eraseDups_append, eraseDups_eq_self headers.nodup_names]
  change (if hasName headers.entries fresh.name then headers.names else headers.names ++ _) = _
  have member : hasName headers.entries fresh.name = true ↔ fresh.name ∈ headers.names := hasName_iff
  unfold List.removeAll
  by_cases present : fresh.name ∈ headers.names
  · simp [member.mpr present, present]
  · simp [mt member.mp present, present, List.eraseDups_cons]

/-- Extending keeps the names and adds those of the others that are new. -/
theorem names_extend (headers others : Headers) :
    (headers.extend others).names = (headers.names ++ others.names).eraseDups := by
  unfold extend
  suffices each : ∀ (entries : List Entry) (headers : Headers),
      (entries.foldl put headers).names = (headers.names ++ entries.map (·.name)).eraseDups from
    each others.entries headers
  intro entries
  induction entries with
  | nil =>
    intro headers
    rw [List.map_nil, List.append_nil, eraseDups_eq_self headers.nodup_names]
    rfl
  | cons entry rest ih =>
    intro headers
    have placed : (headers.put entry).names = (headers.names ++ [entry.name]).eraseDups :=
      names_change_eq headers entry _
    rw [List.foldl_cons, ih, eraseDups_append_of_eq placed (headers.put entry).nodup_names,
      List.append_assoc, List.map_cons, List.singleton_append]

/-- Extending gives the names of the others their values, and leaves every other name alone. -/
theorem values_extend (headers others : Headers) (name : HeaderName) :
    (headers.extend others).values name =
      if name ∈ others.names then others.values name else headers.values name := by
  obtain ⟨entries, nodup⟩ := others
  unfold extend names
  dsimp only
  induction entries generalizing headers with
  | nil => rfl
  | cons entry rest ih =>
    obtain ⟨fresh, later⟩ := List.nodup_cons.mp nodup
    rw [List.foldl_cons, ih (headers.put entry) later, values_put]
    by_cases same : name = entry.name
    · subst same
      simp [fresh, values, find?]
    · simp [same, Ne.symm same, values, find?]

end Headers

/-! ## What setters ask for -/

namespace Request

/-- What a setter asks of the headers, or the fault that it notes. -/
inductive Change
  | append (name : HeaderName) (value : HeaderValue)
  | replace (name : HeaderName) (value : HeaderValue)
  | extend (headers : Headers)
  | fault (message : String)

/-- What a setter asks for that is given a name and a value, fit for a header or not. -/
def Change.given (change : HeaderName → HeaderValue → Change) (name value : Bytes) : Change :=
  match HeaderName.ofBytes? name, HeaderValue.ofBytes? value with
  | some name, some value => change name value
  | _, _ => .fault headerFault

/-- What a setter asks for, if it is one of the headers or of faults. -/
def Step.change? : Step → Option Change
  | .header name value => some (.given .append name value)
  | .setHeader name value => some (.given .replace name value)
  | .withHeaders headers => some (.extend headers)
  | .deferFault message => some (.fault message)
  | .body _ | .timeouts _ | .connectTimeout _ | .readTimeout _ | .policy _ | .bodyCap _ | .query _
  | .method _ | .url _ | .renew => none

namespace Change

/-- The values of every name after a change: one more value, one value in place of all, or the values
of the names that are given. -/
def onValues (values : HeaderName → List HeaderValue) : Change → HeaderName → List HeaderValue
  | append name value => Function.update values name (values name ++ [value])
  | replace name value => Function.update values name [value]
  | extend headers => fun name =>
    if name ∈ headers.names then headers.values name else values name
  | fault _ => values

/-- The names that a change gives. -/
def names : Change → List HeaderName
  | append name _ | replace name _ => [name]
  | extend headers => headers.names
  | fault _ => []

/-- The fault that is noted instead of a change. -/
def fault? : Change → Option String
  | fault message => some message
  | append .. | replace .. | extend _ => none

/-- A request after a change. -/
def apply (request : Request) : Change → Request
  | append name value => { request with headers := request.headers.append name value }
  | replace name value => { request with headers := request.headers.insert name value }
  | extend headers => { request with headers := request.headers.extend headers }
  | fault message => request.deferFault message

end Change

variable {request : Request}

/-! ## One setter -/

theorem withHeader_eq {change : Headers → HeaderName → HeaderValue → Headers}
    {asked : HeaderName → HeaderValue → Change}
    (same : ∀ name value,
      (asked name value).apply request =
        { request with headers := change request.headers name value })
    (name value : Bytes) :
    request.withHeader change name value = (Change.given asked name value).apply request := by
  unfold withHeader Change.given
  cases HeaderName.ofBytes? name with
  | none => rfl
  | some name =>
    cases HeaderValue.ofBytes? value with
    | none => rfl
    | some value => exact (same name value).symm

theorem given_eq_fault {asked : HeaderName → HeaderValue → Change} {name value : Bytes}
    (unfit : HeaderName.ofBytes? name = none ∨ HeaderValue.ofBytes? value = none) :
    Change.given asked name value = .fault headerFault := by
  unfold Change.given
  rcases unfit with unfit | unfit
  · rw [unfit]
  · rw [unfit]
    cases HeaderName.ofBytes? name <;> rfl

theorem apply_of_change? {step : Step} {change : Change} (asked : step.change? = some change) :
    request.apply step = .ok (change.apply request) := by
  cases step with
  | header name value =>
    obtain rfl := Option.some.inj asked
    exact congrArg Except.ok (withHeader_eq (fun _ _ => rfl) name value)
  | setHeader name value =>
    obtain rfl := Option.some.inj asked
    exact congrArg Except.ok (withHeader_eq (fun _ _ => rfl) name value)
  | withHeaders headers =>
    obtain rfl := Option.some.inj asked
    rfl
  | deferFault message =>
    obtain rfl := Option.some.inj asked
    rfl
  | body | timeouts | connectTimeout | readTimeout | policy | bodyCap | query | method | url
  | renew => exact absurd asked nofun

/-- A setter that asks for no change keeps the headers and the note, unless it begins anew. -/
theorem exists_apply_of_change?_eq_none (request : Request) {step : Step}
    (asked : step.change? = none) (kept : step ≠ .renew)
    (parsed : ∀ text, step = .url text → ∃ url, Url.parse text = .ok url) :
    ∃ next, request.apply step = .ok next ∧ next.headers = request.headers ∧
      next.deferred = request.deferred := by
  cases step with
  | header | setHeader | withHeaders | deferFault => exact absurd asked nofun
  | renew => exact absurd rfl kept
  | url text =>
    obtain ⟨url, parsed⟩ := parsed text rfl
    refine ⟨{ request with url }, ?_, rfl, rfl⟩
    rw [apply, parseUrl, parsed]
    rfl
  | body | timeouts | connectTimeout | readTimeout | policy | bodyCap | query | method =>
    exact ⟨_, rfl, rfl, rfl⟩

/-! ## All setters -/

/-- What a request holds when changes have been asked for one after another, from a request that had
no headers and no fault. -/
structure SetBy (request : Request) (changes : List Change) : Prop where
  values : request.headers.values = changes.foldl Change.onValues fun _ => []
  names : request.headers.names = (changes.flatMap Change.names).eraseDups
  deferred : request.deferred = changes.findSome? Change.fault?

theorem setBy_new (method : Method) (url : Url) : (new method url).SetBy [] := ⟨rfl, rfl, rfl⟩

namespace SetBy

variable {changes : List Change}

theorem congr {next : Request} (set : request.SetBy changes)
    (headers : next.headers = request.headers) (deferred : next.deferred = request.deferred) :
    next.SetBy changes where
  values := headers ▸ set.values
  names := headers ▸ set.names
  deferred := deferred.trans set.deferred

theorem apply (set : request.SetBy changes) (change : Change) :
    (change.apply request).SetBy (changes ++ [change]) where
  values := by
    rw [List.foldl_append, List.foldl_cons, List.foldl_nil, ← set.values]
    funext name
    cases change with
    | append other value =>
      simp only [Change.apply, Change.onValues, Headers.values_append, Function.update_apply]
    | replace other value =>
      simp only [Change.apply, Change.onValues, Headers.values_insert, Function.update_apply]
    | extend others => exact Headers.values_extend ..
    | fault message => rfl
  names := by
    rw [List.flatMap_append, List.flatMap_singleton,
      ← Headers.eraseDups_append_of_eq set.names request.headers.nodup_names]
    cases change with
    | append name value => exact Headers.names_change_eq ..
    | replace name value => exact Headers.names_change_eq ..
    | extend others => exact Headers.names_extend ..
    | fault message =>
      rw [Change.names, List.append_nil, Headers.eraseDups_eq_self request.headers.nodup_names]
      rfl
  deferred := by
    rw [List.findSome?_append, ← set.deferred, List.findSome?_singleton]
    cases change with
    | append | replace | extend => exact Option.or_none.symm
    | fault message => rfl

/-- Setters lead to a request that holds what they asked for. -/
theorem exists_applyAll (set : request.SetBy changes) {steps : List Step} (kept : .renew ∉ steps)
    (parsed : ∀ text, .url text ∈ steps → ∃ url, Url.parse text = .ok url) :
    ∃ next, request.applyAll steps = .ok next ∧
      next.SetBy (changes ++ steps.filterMap Step.change?) := by
  induction steps generalizing request changes with
  | nil => exact ⟨request, rfl, by rwa [List.filterMap_nil, List.append_nil]⟩
  | cons step rest ih =>
    have keptLater := List.not_mem_of_not_mem_cons kept
    have parsedLater : ∀ text, .url text ∈ rest → ∃ url, Url.parse text = .ok url :=
      fun text member => parsed text (List.mem_cons_of_mem _ member)
    unfold applyAll at ih ⊢
    rw [List.foldlM_cons]
    cases asked : step.change? with
    | some change =>
      rw [apply_of_change? asked, List.filterMap_cons_some asked, ← List.singleton_append,
        ← List.append_assoc]
      exact ih (set.apply change) keptLater parsedLater
    | none =>
      obtain ⟨next, applied, headers, deferred⟩ :=
        exists_apply_of_change?_eq_none request asked
          (List.ne_of_not_mem_cons kept).symm fun text same =>
            parsed text (same ▸ List.mem_cons_self ..)
      rw [applied, List.filterMap_cons_none asked]
      exact ih (set.congr headers deferred) keptLater parsedLater

end SetBy

/-- Setters leave a request with the values, the names and the first fault that they come to, and
with whatever URL they have set. An unfit name or value changes nothing but the note of a fault, and
the case of a name does not matter. -/
theorem headers_of_setters (method : Method) (url : Url) {steps : List Step} (kept : .renew ∉ steps)
    (parsed : ∀ text, .url text ∈ steps → ∃ url, Url.parse text = .ok url) :
    let changes := steps.filterMap Step.change?
    (∃ request, (new method url).applyAll steps = .ok request ∧
      request.headers.values = changes.foldl Change.onValues (fun _ => []) ∧
      request.headers.names = (changes.flatMap Change.names).eraseDups ∧
      request.check = match changes.findSome? Change.fault? with
        | none => .ok ()
        | some message => .error ⟨.builder, some (.text message), some request.url⟩) ∧
    (∀ (request : Request) (name value : Bytes),
      HeaderName.ofBytes? name = none ∨ HeaderValue.ofBytes? value = none →
      ∀ step ∈ [Step.header name value, .setHeader name value],
        request.apply step =
          .ok { request with deferred := request.deferred.or (some headerFault) }) ∧
    ∀ (octets others : Bytes) (name : HeaderName), HeaderName.ofBytes? octets = some name →
      (HeaderName.ofBytes? others = some name ↔
        others.map UInt8.toAsciiLower = octets.map UInt8.toAsciiLower) := by
  intro changes
  refine ⟨?_, ?_, fun _ _ _ => HeaderName.ofBytes?_eq_some_iff⟩
  · obtain ⟨request, made, set⟩ := (setBy_new method url).exists_applyAll kept parsed
    refine ⟨request, made, set.values, set.names, ?_⟩
    have noted : request.deferred = changes.findSome? Change.fault? := set.deferred
    rw [← noted]
    cases found : request.deferred with
    | none => exact check_eq_ok_iff.mpr found
    | some message => exact check_of_deferred found
  · intro request name value unfit step member
    have asked : step.change? = some (.fault headerFault) := by
      rcases List.mem_cons.mp member with rfl | member
      · exact congrArg some (given_eq_fault unfit)
      · obtain rfl := List.mem_singleton.mp member
        exact congrArg some (given_eq_fault unfit)
    exact apply_of_change? asked

/-- A header is given twice, in capitals and in small letters, with a fault and a URL between. -/
theorem headers_of_mixed_setters :
    let steps : List Step := [.header [88] [49], .header [32] [50], .url "http://b/",
      .header [120] [51], .deferFault "late"]
    .renew ∉ steps ∧ (∀ text, .url text ∈ steps → ∃ url, Url.parse text = .ok url) ∧
      ∃ request, (new .get (Builder.page "a")).applyAll steps = .ok request ∧
        request.headers.values ⟨"x"⟩ = [⟨[49]⟩, ⟨[51]⟩] ∧ request.headers.names = [⟨"x"⟩] ∧
        request.check = .error ⟨.builder, some (.text headerFault), some request.url⟩ := by
  intro steps
  have kept : .renew ∉ steps := by simp [steps]
  have parsed : ∀ text, .url text ∈ steps → ∃ url, Url.parse text = .ok url := by
    intro text member
    obtain rfl : text = "http://b/" := by simpa [steps] using member
    exact ⟨Builder.page "b", by cbv⟩
  have capital : HeaderName.ofBytes? [88] = some ⟨"x"⟩ := by cbv
  have blank : HeaderName.ofBytes? [32] = none := by cbv
  have small : HeaderName.ofBytes? [120] = some ⟨"x"⟩ := by cbv
  have digit (octet : UInt8) (allowed : HeaderValue.isAllowed octet = true) :
      HeaderValue.ofBytes? [octet] = some ⟨[octet]⟩ := by
    simp [HeaderValue.ofBytes?, allowed]
  have asked : steps.filterMap Step.change? = [.append ⟨"x"⟩ ⟨[49]⟩, .fault headerFault,
      .append ⟨"x"⟩ ⟨[51]⟩, .fault "late"] := by
    simp only [steps, List.filterMap_cons, List.filterMap_nil, Step.change?, Change.given, capital,
      blank, small, digit 49 (by decide), digit 51 (by decide)]
  obtain ⟨⟨request, made, values, names, checked⟩, _⟩ :=
    headers_of_setters .get (Builder.page "a") kept parsed
  rw [asked] at values names checked
  exact ⟨kept, parsed, request, made, congrFun values _, names, checked⟩

end Request

end Courier
