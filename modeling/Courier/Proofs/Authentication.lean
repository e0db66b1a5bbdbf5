import Courier.Builder.Basic
import Courier.Proofs.Credentials

/-! # Secrets that a builder writes

A builder has three setters for authentication. Two of them write a credential, which stays with its
origin. The third writes a header that redirection does not know as one, and every request of the
call carries it. Main statement: a secret is kept from other origins unless it is a key and a
request is sent after a redirect to another origin.
-/

namespace Courier

/-! ## Headers that redirection leaves alone -/

theorem Hop.Linked.values_throughout {hops : List Hop} {name : HeaderName} (linked : Linked hops)
    (common : name ∉ Redirect.credentials ∧ name ∉ Redirect.bodyHeaders)
    {given : List HeaderValue}
    (first : ∀ hop : Hop, hops[0]? = some hop → hop.request.headers.values name = given) :
    ∀ (place : Nat) (hop : Hop), hops[place]? = some hop →
      hop.request.headers.values name = given := by
  intro place hop here
  refine linked.from_place (fun _ hop => hop.request.headers.values name = given) 0 first ?_ place
    hop (Nat.zero_le _) here
  intro place hop next _ _ _ leads sound kept
  obtain ⟨response, target, _, _, _, _, _, same, _⟩ := leads.follows sound
  rw [same, Redirect.values_follow]
  simp only [common, and_false, or_self, ↓reduceIte]
  exact kept

/-- The key of a request goes wherever the call goes. -/
theorem Client.values_sent_apiKey {network : Network} {caller : Caller} {world : World}
    {request : Request} {place : Nat} {sent : WireRequest}
    (sends : Hop.Sends (hops network caller world request) place sent) :
    sent.values .apiKey = request.headers.values .apiKey := by
  have linked := linked_hops network caller world request
  have kept : HeaderName.apiKey ∉ Exchange.gained := by decide
  obtain ⟨hop, here, same⟩ := Hop.Sends.values_eq sends linked kept
  rw [same]
  apply linked.values_throughout (by decide) ?_ place hop here
  intro first start
  rw [(first_hop network caller world request start).1]
  exact Call.values_prepare _ _ (by decide)

namespace Builder

/-! ## What setters write -/

/-- The header in which a setter writes a secret. -/
def Setter.secret? : Setter → Option HeaderName
  | .apiKey _ => some .apiKey
  | .basicAuth .. | .bearerAuth _ => some .authorization
  | _ => none

theorem Setter.secret?_cases {setter : Setter} {name : HeaderName}
    (secret : setter.secret? = some name) :
    name = .apiKey ∨ name = .authorization := by
  cases setter with
  | apiKey key => exact .inl (Option.some.inj secret).symm
  | basicAuth | bearerAuth => exact .inr (Option.some.inj secret).symm
  | _ => cases secret

theorem ofBytes?_apiKey :
    HeaderName.ofBytes? (Utf8.encode HeaderName.apiKey.text) = some .apiKey := by
  cbv

theorem ofBytes?_authorization :
    HeaderName.ofBytes? (Utf8.encode HeaderName.authorization.text) = some .authorization := by
  cbv

/-- A builder that makes a request makes one with a header. -/
def Bears (builder : Builder) (name : HeaderName) : Prop :=
  builder.deferred = none → builder.headers.values name ≠ []

section Bears

variable {builder : Builder} {name : HeaderName}

theorem bears_deferFault (message : String) : (builder.deferFault message).Bears name := by
  intro faultless
  cases noted : builder.deferred <;> simp [deferFault, noted] at faultless

/-- A header that is written, whatever becomes of the others, leaves none without values. -/
theorem Bears.withHeader (bears : builder.Bears name)
    {change : Headers → HeaderName → HeaderValue → Headers}
    (grows : ∀ headers : Headers, ∀ other value, headers.values name ≠ [] →
      (change headers other value).values name ≠ []) (text value : Bytes) :
    (builder.withHeader change text value).Bears name := by
  unfold Builder.withHeader
  split
  · exact fun faultless => grows _ _ _ (bears faultless)
  · exact bears_deferFault _

theorem Bears.header (bears : builder.Bears name) (text value : Bytes) :
    (builder.header text value).Bears name := by
  apply bears.withHeader
  intro headers other value held
  rw [Headers.values_append]
  split
  · exact List.append_ne_nil_of_right_ne_nil _ (List.cons_ne_nil _ _)
  · exact held

theorem Bears.setHeader (bears : builder.Bears name) (text value : Bytes) :
    (builder.setHeader text value).Bears name := by
  apply bears.withHeader
  intro headers other value held
  rw [Headers.values_insert]
  split
  · exact List.cons_ne_nil _ _
  · exact held

theorem Bears.encoded (bears : builder.Bears name) (text : Except FormFault String) :
    (builder.encoded text).Bears name := by
  unfold Builder.encoded
  split
  · exact bears
  · exact bears_deferFault _

theorem Bears.headers (bears : builder.Bears name) (pairs : List (Bytes × Bytes)) :
    (pairs.foldl (fun builder pair => builder.header pair.1 pair.2) builder).Bears name := by
  induction pairs generalizing builder with
  | nil => exact bears
  | cons pair rest ih => exact ih (bears.header pair.1 pair.2)

/-- No setter takes a header away. -/
theorem Bears.apply (bears : builder.Bears name) (setter : Setter) :
    (builder.apply setter).Bears name := by
  cases setter with
  | header name value => exact bears.header _ _
  | headers pairs => exact bears.headers pairs
  | setHeader | cacheControl | userAgent | accept | contentType | apiKey | basicAuth | bearerAuth =>
    exact bears.setHeader _ _
  | debug | connectTimeout | readTimeout | timeoutSeconds | policy | bodyCap | query | rawBody =>
    exact bears
  | body datum => exact bears.encoded _
  | jsonBody datum => exact Bears.encoded (bears.setHeader _ _) _
  | form datum => exact Bears.encoded (bears.setHeader _ _) _
  | textBody text =>
    simp only [Builder.apply, Builder.textBody]
    split
    · exact bears
    · exact bears.setHeader _ _

theorem Bears.applyAll (bears : builder.Bears name) (setters : List Setter) :
    (builder.applyAll setters).Bears name := by
  induction setters generalizing builder with
  | nil => exact bears
  | cons setter rest ih => exact ih (bears.apply setter)

theorem bears_setText (spelled : HeaderName.ofBytes? (Utf8.encode name.text) = some name)
    (value : String) : (builder.setText name value).Bears name := by
  simp only [setText, Builder.setHeader, Builder.withHeader, spelled]
  split
  · rename_i same _
    obtain rfl := Option.some.inj same
    intro _
    rw [Headers.values_insert, if_pos rfl]
    exact List.cons_ne_nil _ _
  · exact bears_deferFault _

/-- A secret that is set is there. -/
theorem bears_secret {setter : Setter} (secret : setter.secret? = some name) :
    (builder.apply setter).Bears name := by
  cases setter with
  | apiKey key =>
    obtain rfl := Option.some.inj secret
    exact bears_setText ofBytes?_apiKey key
  | basicAuth | bearerAuth =>
    obtain rfl := Option.some.inj secret
    exact bears_setText ofBytes?_authorization _
  | _ => cases secret

/-- A secret that is set at some time stays there. -/
theorem bears_of_mem {setters : List Setter} {setter : Setter} (member : setter ∈ setters)
    (secret : setter.secret? = some name) : (builder.applyAll setters).Bears name := by
  obtain ⟨before, after, rfl⟩ := List.append_of_mem member
  rw [applyAll, List.foldl_append, List.foldl_cons]
  exact (bears_secret secret).applyAll after

end Bears

/-! ## What is sent -/

/-- A request that is built has the headers of its builder. -/
theorem build_ok {builder : Builder} {method : Method} {url : String} {request : Request}
    (built : builder.build method url = .ok request) :
    builder.deferred = none ∧ request.headers = builder.headers := by
  unfold build at built
  split at built
  · cases built
  · rename_i faultless
    refine ⟨faultless, ?_⟩
    unfold Request.parse at built
    cases parsed : Request.parseUrl url with
    | error failure => simp [parsed, Except.map] at built
    | ok url =>
      simp only [parsed, Except.map, Except.ok.injEq] at built
      subst built
      dsimp only
      split <;> exact Headers.empty_extend _

section

variable (network : Network) (caller : Caller) (world : World) (builder : Builder)
  (method : Method) (url : String)

/-- The exchanges of the call for which a builder makes the request, if it makes one. -/
def hops : List Hop :=
  match builder.build method url with
  | .error _ => []
  | .ok request => Client.hops network caller world request

/-- What sending sends is what its exchanges send. -/
theorem log_send :
    (send network caller world builder method url).2.log =
      world.log ++ (builder.hops network caller world method url).filterMap (·.outcome.sent) := by
  unfold send hops
  cases builder.build method url with
  | error failure => simp
  | ok request => exact Client.log_execute ..

end

variable {network : Network} {caller : Caller} {world : World} {builder : Builder}
  {method : Method} {url : String} {place : Nat} {sent : WireRequest}

theorem hops_eq {request : Request} (built : builder.build method url = .ok request) :
    builder.hops network caller world method url = Client.hops network caller world request := by
  simp only [hops, built]

/-- Exchanges belong to a request that is built. -/
theorem exists_built (sends : Hop.Sends (builder.hops network caller world method url) place sent) :
    ∃ request, builder.build method url = .ok request ∧
      Hop.Sends (Client.hops network caller world request) place sent := by
  cases built : builder.build method url with
  | error failure =>
    obtain ⟨hop, here, _⟩ := sends
    simp [hops, built] at here
  | ok request => exact ⟨request, rfl, hops_eq built ▸ sends⟩

/-- The credential that a builder writes is sent nowhere else. -/
theorem authorization_stays
    (sends : Hop.Sends (builder.hops network caller world method url) place sent) {left : Nat}
    (before : left < place)
    (departs : Hop.Departs (builder.hops network caller world method url) left) :
    sent.values .authorization = [] := by
  obtain ⟨request, built, sends⟩ := exists_built sends
  rw [hops_eq built] at departs
  exact Client.values_sent_after_departure sends (by decide) before departs

/-- The key that a builder writes is sent everywhere. -/
theorem apiKey_goes
    (sends : Hop.Sends (builder.hops network caller world method url) place sent) :
    sent.values .apiKey = builder.headers.values .apiKey := by
  obtain ⟨request, built, sends⟩ := exists_built sends
  rw [Client.values_sent_apiKey sends, (build_ok built).2]

theorem apiKey_sent {setters : List Setter} {setter : Setter} (member : setter ∈ setters)
    (secret : setter.secret? = some .apiKey)
    (sends : Hop.Sends ((builder.applyAll setters).hops network caller world method url) place
      sent) : sent.values .apiKey ≠ [] := by
  obtain ⟨request, built, _⟩ := exists_built sends
  rw [apiKey_goes sends]
  exact bears_of_mem member secret (build_ok built).1

/-- When a secret stays with its origin. What sending sends is what its exchanges send; a secret
that a setter has written is in no request after a redirect to another scheme, host or port exactly
when it is no key or there is no such request. -/
theorem secret_stays_iff (network : Network) (caller : Caller) (world : World)
    (setters : List Setter) (method : Method) (url : String) :
    let builder := new.applyAll setters
    let hops := builder.hops network caller world method url
    (send network caller world builder method url).2.log =
        world.log ++ hops.filterMap (·.outcome.sent) ∧
      ∀ setter ∈ setters, ∀ name, setter.secret? = some name →
        ((∀ place sent, Hop.Sends hops place sent → (∃ left < place, Hop.Departs hops left) →
            sent.values name = []) ↔
          (name = .apiKey → ∀ place sent, Hop.Sends hops place sent →
            ¬ ∃ left < place, Hop.Departs hops left)) := by
  intro builder hops
  refine ⟨log_send .., ?_⟩
  intro setter member name secret
  constructor
  · rintro stays rfl place sent sends away
    exact apiKey_sent member secret sends (stays place sent sends away)
  · rintro home place sent sends ⟨left, before, departs⟩
    rcases Setter.secret?_cases secret with key | rfl
    · exact absurd ⟨left, before, departs⟩ (home key place sent sends)
    · exact authorization_stays sends before departs

/-! ## A key that strays -/

/-- The root of a host. -/
def page (host : String) : Url :=
  ⟨"http", "", none, some (.domain host), none, .rooted [""], none, none⟩

/-- A network in which the first request is told to go to another host. -/
def movingNetwork : Network :=
  .scripted (fun _ => true) (fun _ _ => .accepted)
    [.raw (Utf8.encode "HTTP/1.1 302 \nlocation: http://b/\n\n") .closed] (.raw [] .closed)

/-- A client with the standard settings that has not been used. -/
def freshWorld : World := ⟨.new .standard .empty .off, []⟩

/-- A request for the head of a page. -/
def headRequest (headers : Headers) : Request :=
  { Request.new .head (page "a") with headers }

/-- The response that tells it to go to another host. -/
def movedResponse (headers : Headers) : Response :=
  ⟨⟨302⟩, .http11, Headers.empty.append .location ⟨Utf8.encode "http://b/"⟩, [],
    headRequest headers, 0, .blocking⟩

/-- A call for the head of a page goes on to the other host. -/
theorem hops_moving (headers : Headers) :
    ∃ first second rest, (Call.mk [.one .total] (.dispatch (headRequest headers) none)).hops
        movingNetwork .patient freshWorld = first :: second :: rest ∧
      first.request.url = page "a" ∧ second.request.url = page "b" ∧
      second.outcome.sent.isSome = true := by
  have moved : (Call.hop movingNetwork .patient (Call.record freshWorld [.one .total])
      (headRequest headers) none).next? =
        some (Redirect.follow ⟨302⟩ (headRequest headers) (page "b"), movedResponse headers) := by
    cbv
  have arrived : (Call.hop movingNetwork .patient
      (Call.record (Call.worldAfter movingNetwork .patient (Call.record freshWorld [.one .total])
        (headRequest headers) none) Call.continuing)
      (Redirect.follow ⟨302⟩ (headRequest headers) (page "b"))
      (some (movedResponse headers))).outcome.sent.isSome = true := by
    cbv
  rw [Call.hops_dispatch, moved]
  dsimp only
  rw [Call.hops_dispatch]
  refine ⟨_, _, _, rfl, ?_, ?_, arrived⟩
  · rw [Call.hop_request]
    rfl
  · rw [Call.hop_request]
    rfl

/-- A client with the standard settings names itself in the request. -/
theorem prepare_headRequest (headers : Headers) :
    ∃ named, Call.prepare .standard (headRequest headers) = headRequest named := by
  have allowed : HeaderValue.ofBytes? (Utf8.encode Settings.standard.userAgent) =
      some ⟨Utf8.encode Settings.standard.userAgent⟩ := by cbv
  unfold Call.prepare Request.setHeader Request.withHeader
  rw [HeaderName.ofBytes?_userAgent, allowed]
  split
  · exact ⟨_, rfl⟩
  · exact ⟨_, rfl⟩

/-- A key that is given for one host is told to another one. -/
theorem key_strays :
    ¬ ∀ (network : Network) (caller : Caller) (world : World) (setters : List Setter)
      (method : Method) (url : String),
      ∀ setter ∈ setters, ∀ name, setter.secret? = some name →
        ∀ place sent,
          Hop.Sends ((new.applyAll setters).hops network caller world method url) place sent →
          (∃ left < place,
            Hop.Departs ((new.applyAll setters).hops network caller world method url) left) →
          sent.values name = [] := by
  intro stays
  have built : (new.applyAll [.apiKey "k"]).build .head "http://a/" = .ok (headRequest
      (Headers.empty.extend (Headers.empty.insert .apiKey ⟨Utf8.encode "k"⟩))) := by
    have parsed : Request.parseUrl "http://a/" = .ok (page "a") := by cbv
    have allowed : HeaderValue.ofBytes? (Utf8.encode "k") = some ⟨Utf8.encode "k"⟩ := by cbv
    simp only [applyAll, List.foldl_cons, List.foldl_nil, apply, setText, setHeader, withHeader,
      ofBytes?_apiKey, allowed, build, Request.parse, parsed]
    rfl
  obtain ⟨named, prepared⟩ := prepare_headRequest
    (Headers.empty.extend (Headers.empty.insert .apiKey ⟨Utf8.encode "k"⟩))
  obtain ⟨first, second, rest, goes, origin, elsewhere, arrives⟩ := hops_moving named
  have exchanges : (new.applyAll [.apiKey "k"]).hops movingNetwork .patient freshWorld .head
      "http://a/" = first :: second :: rest := by
    rw [hops_eq built, ← goes, Client.hops, Call.begin]
    exact congrArg (fun request => (Call.mk _ (.dispatch request none)).hops _ _ _) prepared
  obtain ⟨sent, arrived⟩ := Option.isSome_iff_exists.mp arrives
  have sends : Hop.Sends ((new.applyAll [.apiKey "k"]).hops movingNetwork .patient freshWorld .head
      "http://a/") 1 sent := ⟨second, by rw [exchanges]; rfl, arrived⟩
  have departs : Hop.Departs ((new.applyAll [.apiKey "k"]).hops movingNetwork .patient freshWorld
      .head "http://a/") 0 := by
    rw [exchanges]
    refine ⟨first, second, rfl, rfl, ?_⟩
    rw [origin, elsewhere]
    decide
  have member : Setter.apiKey "k" ∈ [Setter.apiKey "k"] := List.mem_singleton_self _
  have kept := stays _ _ _ _ _ _ _ member .apiKey rfl 1 sent sends ⟨0, Nat.one_pos, departs⟩
  exact apiKey_sent member rfl sends kept

end Builder

end Courier
