import Mathlib
import Courier.Proofs.Endings
import Courier.Proofs.Hops
import Courier.Proofs.Twins

/-! # What stays local

The local parts of a URL stay local: they are sent to nobody, whatever the strategy and wherever a
chain of redirects leads, and neither what is sent nor what comes of it depends on them. Two calls of
one client for twins therefore perform the same exchanges but for the local parts. A pool is given
the whole URL as a target, so this needs that it is short enough for one, and that the request asks
for no tunnel, whose target is the authority.
-/

namespace Courier

/-! ## One exchange -/

/-- Outcomes of exchanges that have sent the same and come to twins. -/
structure Outcome.Twin (outcome other : Outcome) : Prop where
  sent : outcome.sent = other.sent
  result : Likewise Failure.Twin Response.Twin outcome.result other.result

theorem Outcome.Twin.unsent {failure other : Failure} (twins : failure.Twin other) :
    (Outcome.unsent failure).Twin (Outcome.unsent other) :=
  ⟨rfl, .error twins⟩

/-- The text of the URL is no longer than a target may be. -/
def Url.IsShort (url : Url) : Prop := url.text.utf8ByteSize ≤ Exchange.targetLimit

theorem Likewise.attachTo {α : Type} {values : α → α → Prop} {result other : Except Failure α}
    (alike : Likewise Failure.Twin values result other) {url url' : Url} (named : url.Twin url') :
    Likewise Failure.Twin values (Failure.attachTo url result) (Failure.attachTo url' other) := by
  cases alike with
  | ok same => exact .ok same
  | error twins => exact .error (twins.attach named)

namespace Request.Twin

open Exchange

variable {request other : Request} (twins : request.Twin other)

include twins

theorem preflight (caller : Caller) :
    Likewise Failure.Twin Eq (preflight caller request) (preflight caller other) := by
  obtain ⟨url, named, rfl⟩ := twins
  unfold Exchange.preflight Request.check
  dsimp only
  rw [named.scheme]
  cases request.deferred with
  | some message => exact .error ((Failure.Twin.refl _).withUrl named)
  | none =>
    dsimp only [bind, Except.bind]
    split
    · exact .error ((Failure.Twin.refl _).withUrl named)
    · split
      · exact .error ((Failure.Twin.refl _).withUrl named)
      · exact .ok rfl

theorem ownDraft (host : Host) :
    Likewise Failure.Twin Eq (ownDraft request host) (ownDraft other host) := by
  obtain ⟨url, named, rfl⟩ := twins
  unfold Exchange.ownDraft
  dsimp only
  rw [named.target, named.port]
  split
  · exact .error ((Failure.Twin.refl _).withUrl named)
  · exact .ok rfl

theorem prepareOwn (network : Network) :
    Likewise Failure.Twin Eq (prepareOwn network request) (prepareOwn network other) := by
  have drafted := twins.ownDraft
  obtain ⟨url, named, rfl⟩ := twins
  unfold Exchange.prepareOwn
  dsimp only
  rw [named.effectivePort?, named.host?]
  refine (Likewise.of_eq .refl fun _ => rfl).bind ?_
  rintro host _ rfl
  split
  · exact .error (.refl _)
  · exact .error (.refl _)
  · refine (drafted host).map ?_
    rintro draft _ rfl
    rfl

/-- A pool finds the same in the targets of twins, but for the credentials. -/
theorem absoluteTarget (short : request.url.IsShort) (short' : other.url.IsShort) :
    Likewise Failure.Twin
      (fun target target' => target'.1.host = target.1.host ∧ target'.1.port = target.1.port ∧
        target'.2 = target.2)
      (absoluteTarget request.url) (absoluteTarget other.url) := by
  obtain ⟨url, named, rfl⟩ := twins
  unfold Exchange.absoluteTarget
  rw [if_neg (Nat.not_lt.mpr short), if_neg (Nat.not_lt.mpr short'), named.authorityText]
  split
  · exact .error ((Failure.Twin.refl _).withUrl named)
  · rw [named.host?]
    refine (Likewise.of_eq .refl fun _ => rfl).map ?_
    rintro host _ rfl
    exact ⟨rfl, named.port, named.target⟩

theorem preparePooled (network : Network) (ordinary : request.method ≠ .connect)
    (short : request.url.IsShort) (short' : other.url.IsShort) :
    Likewise Failure.Twin Eq (preparePooled network request) (preparePooled network other) := by
  have written := twins.absoluteTarget short short'
  obtain ⟨url, named, rfl⟩ := twins
  unfold Exchange.preparePooled
  refine written.bind ?_
  rintro ⟨⟨credentials, host, port⟩, path⟩ ⟨⟨credentials', _, _⟩, _⟩ ⟨rfl, rfl, rfl⟩
  dsimp only
  split
  · exact .error (.refl _)
  · exact .error (.refl _)
  · refine .ok ?_
    unfold Exchange.poolDraft
    rw [if_neg ordinary, if_neg ordinary]

theorem prepare (network : Network) (strategy : Strategy) (ordinary : request.method ≠ .connect)
    (short : request.url.IsShort) (short' : other.url.IsShort) :
    Likewise Failure.Twin Eq (prepare network strategy request)
      (prepare network strategy other) := by
  cases strategy with
  | blocking => exact twins.prepareOwn network
  | pooled => exact twins.preparePooled network ordinary short short'
  | task => exact twins.preparePooled network ordinary short short'

/-- What is read from an answer depends on the request by its method and limits only. -/
theorem receive (strategy : Strategy) (redirects : UInt32) (answer : Answer) :
    Likewise Failure.Twin Response.Twin (receive strategy request redirects answer)
      (receive strategy other redirects answer) := by
  obtain ⟨url, named, rfl⟩ := twins
  unfold Exchange.receive
  split
  · exact .error (.refl _)
  · dsimp only
    split
    · exact .error (.refl _)
    · exact .error (.refl _)
    · refine (Likewise.of_eq .refl fun _ => rfl).map ?_
      rintro body _ rfl
      exact ⟨_, ⟨url, named, rfl⟩, rfl⟩

/-- An exchange for a twin sends the same and comes to twins. -/
theorem conduct (network : Network) (log : Log) (caller : Caller) (strategy : Strategy)
    (redirects : UInt32) (ordinary : request.method ≠ .connect) (short : request.url.IsShort)
    (short' : other.url.IsShort) :
    (conduct network log caller strategy request redirects).Twin
      (conduct network log caller strategy other redirects) := by
  have checked := twins.preflight caller
  have prepared := twins.prepare network strategy ordinary short short'
  have received := twins.receive strategy redirects
  obtain ⟨url, named, rfl⟩ := twins
  unfold Exchange.conduct
  generalize Exchange.preflight caller request = check at checked ⊢
  generalize Exchange.preflight caller _ = check' at checked ⊢
  cases checked with
  | error alike => exact .unsent alike
  | ok _ =>
    dsimp only
    rw [attach_eq, attach_eq]
    split
    · exact .unsent ((Failure.Twin.refl _).attach named)
    · unfold start
      generalize Exchange.prepare network strategy request = ready at prepared ⊢
      generalize Exchange.prepare network strategy _ = ready' at prepared ⊢
      cases prepared with
      | error alike => exact .unsent (alike.attach named)
      | ok same =>
        cases same
        exact ⟨rfl, (received _).attachTo named⟩

end Request.Twin

/-! ## Selecting -/

/-- What a factory makes does not depend on the local parts of URLs. -/
def Factory.Blind (factory : Factory) : Prop :=
  ∀ (calls : Nat) (request other : Request) (previous previous' : Option Response),
    request.Twin other → Option.Rel Response.Twin previous previous' →
      factory.construct calls request previous = factory.construct calls other previous'

/-- Every factory of a registry is blind. -/
def Registry.Blind (registry : Registry) : Prop :=
  ∀ strategy factory, registry.factory? strategy = some factory → factory.Blind

/-- What this library is able to do by itself does not depend on the local parts of URLs. -/
theorem Registry.blind_probe : Registry.probe.Blind := by
  intro strategy factory found calls request other previous previous' _ _
  cases strategy with
  | blocking => cases found
  | pooled =>
    cases found
    rfl
  | task =>
    cases found
    rfl

/-- Units that perform their exchanges alike, for twins. -/
def ExecutionUnit.Twin (unit other : ExecutionUnit) : Prop :=
  ∃ request, unit.request.Twin request ∧ other = { unit with request }

theorem ExecutionUnit.Twin.execute {unit other : ExecutionUnit} (twins : unit.Twin other)
    (network : Network) (log : Log) (caller : Caller) (ordinary : unit.request.method ≠ .connect)
    (short : unit.request.url.IsShort) (short' : other.request.url.IsShort) :
    (unit.execute network log caller).Twin (other.execute network log caller) := by
  obtain ⟨request, asked, rfl⟩ := twins
  unfold ExecutionUnit.execute
  dsimp only
  split
  · exact asked.conduct network log caller _ unit.redirects ordinary short short'
  · exact .unsent (.refl _)

theorem Response.Twin.hopIndex {previous previous' : Option Response}
    (follows : Option.Rel Response.Twin previous previous') :
    Response.hopIndex previous' = Response.hopIndex previous := by
  cases follows with
  | none => rfl
  | some twins =>
    obtain ⟨_, -, rfl⟩ := twins
    rfl

/-- For twins the same is selected. -/
theorem Registry.Blind.selectFrom {registry : Registry} (blind : registry.Blind)
    (seen : Strategy → Toggles) {request other : Request} (twins : request.Twin other)
    {previous previous' : Option Response} (follows : Option.Rel Response.Twin previous previous')
    (tiers : List Strategy) (tallies : Tallies) :
    let selection := Dispatcher.selectFrom registry seen request previous tiers tallies
    let selection' := Dispatcher.selectFrom registry seen other previous' tiers tallies
    selection.unit.Twin selection'.unit ∧ selection'.tallies = selection.tallies := by
  have bound (plan : Plan) :
      (ExecutionUnit.bind plan request previous).Twin (.bind plan other previous') := by
    refine ⟨other, twins, ?_⟩
    unfold ExecutionUnit.bind
    rw [Response.Twin.hopIndex follows]
  induction tiers generalizing tallies with
  | nil => exact ⟨bound _, rfl⟩
  | cons tier rest ih =>
    unfold Dispatcher.selectFrom
    dsimp only
    cases found : if (seen tier).prefers tier then registry.factory? tier else none with
    | none => exact ih tallies
    | some factory =>
      have registered : registry.factory? tier = some factory := by
        split at found
        · exact found
        · cases found
      have same := blind tier factory registered (tallies.of tier) request other previous previous'
        twins follows
      dsimp only
      rw [← same]
      cases factory.construct (tallies.of tier) request previous with
      | ok plan => exact ⟨bound plan, rfl⟩
      | error failure => exact ih (tallies.add tier)

/-! ## Whole calls -/

/-- Worlds that differ at most in what has been counted, and in whether the shared transport has been
started. -/
structure World.Twin (world other : World) : Prop where
  settings : other.client.settings = world.client.settings
  registry : other.client.dispatcher.registry = world.client.dispatcher.registry
  toggles : other.client.dispatcher.toggles = world.client.dispatcher.toggles
  tallies : other.client.dispatcher.tallies = world.client.dispatcher.tallies
  log : other.log = world.log

theorem Dispatcher.request_select (dispatcher : Dispatcher) (request : Request)
    (previous : Option Response) : (dispatcher.select request previous).1.request = request :=
  (selectFrom_bound _ _ request previous _ _).1

/-- In such worlds the same is selected for twins. -/
theorem World.Twin.select {world other : World} (worlds : world.Twin other)
    (blind : world.client.dispatcher.registry.Blind) {request twin : Request}
    (twins : request.Twin twin) {previous previous' : Option Response}
    (follows : Option.Rel Response.Twin previous previous') :
    let selected := world.client.dispatcher.select request previous
    let selected' := other.client.dispatcher.select twin previous'
    selected.1.Twin selected'.1 ∧ selected'.2.tallies = selected.2.tallies := by
  have selected := blind.selectFrom (fun _ => world.client.dispatcher.toggles) twins follows
    Strategy.preferred world.client.dispatcher.tallies
  unfold Dispatcher.select Dispatcher.selectSeeing
  rw [worlds.registry, worlds.toggles, worlds.tallies]
  exact selected

/-- Exchanges that are performed alike, for twins, and come to twins. -/
structure Hop.Twin (hop other : Hop) : Prop where
  unit : hop.unit.Twin other.unit
  outcome : hop.outcome.Twin other.outcome

namespace Hop.Twin

variable {hop other : Hop} (twins : hop.Twin other)

include twins

theorem next? :
    Option.Rel (fun asked asked' => asked.1.Twin asked'.1 ∧ asked.2.Twin asked'.2) hop.next?
      other.next? := by
  have alike := twins.outcome.result
  unfold Hop.next?
  generalize hop.outcome.result = result at alike ⊢
  generalize other.outcome.result = result' at alike ⊢
  cases alike with
  | error _ => exact .none
  | @ok response response' obtained =>
    have asks := obtained.next?
    dsimp only
    generalize Redirect.next? response = asked at asks ⊢
    generalize Redirect.next? response' = asked' at asks ⊢
    cases asks with
    | error _ => exact .none
    | ok alike =>
      cases alike with
      | none => exact .none
      | some requests => exact .some ⟨requests, obtained⟩

theorem conclusion : Likewise Failure.Twin Response.Twin hop.conclusion other.conclusion := by
  have alike := twins.outcome.result
  unfold Hop.conclusion
  generalize hop.outcome.result = result at alike ⊢
  generalize other.outcome.result = result' at alike ⊢
  cases alike with
  | error alike => exact .error alike
  | ok obtained => exact obtained.next?.map fun _ _ _ => obtained

end Hop.Twin

/-- Exchanges that are performed alike have sent the same. -/
theorem Hop.Twin.sent_eq {hops others : List Hop} (alike : List.Forall₂ Hop.Twin hops others) :
    others.filterMap (·.outcome.sent) = hops.filterMap (·.outcome.sent) := by
  induction alike with
  | nil => rfl
  | cons first _ ih => rw [List.filterMap_cons, List.filterMap_cons, ih, first.outcome.sent]

theorem Hop.Twin.getLast? {hops others : List Hop} (alike : List.Forall₂ Hop.Twin hops others) :
    Option.Rel Hop.Twin hops.getLast? others.getLast? := by
  induction alike with
  | nil => exact .none
  | @cons hop other rest others first _ ih =>
    rw [List.getLast?_cons, List.getLast?_cons]
    refine .some ?_
    generalize rest.getLast? = last at ih ⊢
    generalize others.getLast? = last' at ih ⊢
    cases ih with
    | none => exact first
    | some later => exact later

/-- A redirect asks for no tunnel. -/
theorem Redirect.method_follow (status : Status) {request : Request} (target : Url)
    (ordinary : request.method ≠ .connect) : (follow status request target).method ≠ .connect := by
  unfold follow
  dsimp only [Request.new]
  split
  · decide
  · exact ordinary

namespace Call

variable {network : Network} {caller : Caller} {world world' : World} {request request' : Request}
  {previous previous' : Option Response}

/-- In such worlds exchanges for twins are performed alike. -/
theorem twin_hop (network : Network) (caller : Caller)
    (blind : world.client.dispatcher.registry.Blind) (worlds : world.Twin world')
    (twins : request.Twin request') (follows : Option.Rel Response.Twin previous previous')
    (ordinary : request.method ≠ .connect) (short : request.url.IsShort)
    (short' : request'.url.IsShort) :
    (hop network caller world request previous).Twin
      (hop network caller world' request' previous') := by
  have unit := (worlds.select blind twins follows).1
  refine ⟨unit, ?_⟩
  unfold hop
  dsimp only
  rw [worlds.log]
  refine unit.execute network world.log caller ?_ ?_ ?_
  · rw [Dispatcher.request_select]
    exact ordinary
  · rw [Dispatcher.request_select]
    exact short
  · rw [Dispatcher.request_select]
    exact short'

/-- And they leave such worlds. -/
theorem twin_worldAfter (network : Network) (caller : Caller)
    (blind : world.client.dispatcher.registry.Blind) (worlds : world.Twin world')
    (twins : request.Twin request') (follows : Option.Rel Response.Twin previous previous')
    (ordinary : request.method ≠ .connect) (short : request.url.IsShort)
    (short' : request'.url.IsShort) :
    (worldAfter network caller world request previous).Twin
      (worldAfter network caller world' request' previous') := by
  have sent := (twin_hop network caller blind worlds twins follows ordinary short
    short').outcome.sent
  constructor
  case settings => exact worlds.settings
  case registry => exact worlds.registry
  case toggles => exact worlds.toggles
  case tallies => exact (worlds.select blind twins follows).2
  case log =>
    change world'.log ++ (hop network caller world' request' previous').outcome.sent.toList =
      world.log ++ (hop network caller world request previous).outcome.sent.toList
    rw [worlds.log, sent]

/-- A call that asks for no tunnel goes on to none. -/
theorem ordinary_next (ordinary : request.method ≠ .connect) {next : Request} {response : Response}
    (follows : (hop network caller world request previous).next? = some (next, response)) :
    next.method ≠ .connect := by
  obtain ⟨obtained, asked⟩ := Hop.next?_eq_some.mp follows
  obtain ⟨answered, -⟩ := (hop_sound world request previous).response obtained
  obtain ⟨limit, target, -, -, -, rfl⟩ := Redirect.next?_eq_some_iff.mp asked
  rw [answered, hop_request]
  exact Redirect.method_follow _ _ ordinary

/-- Calls for twins perform their exchanges alike. -/
theorem twin_hops (network : Network) (caller : Caller) (pending : List Increment)
    (request : Request) (previous : Option Response) (world : World) :
    ∀ (pending' : List Increment) (request' : Request) (previous' : Option Response)
      (world' : World), world.client.dispatcher.registry.Blind → world.Twin world' →
      request.Twin request' → Option.Rel Response.Twin previous previous' →
      request.method ≠ .connect →
      (∀ hop ∈ hops network caller ⟨pending, .dispatch request previous⟩ world,
        hop.request.url.IsShort) →
      (∀ hop ∈ hops network caller ⟨pending', .dispatch request' previous'⟩ world',
        hop.request.url.IsShort) →
      List.Forall₂ Hop.Twin (hops network caller ⟨pending, .dispatch request previous⟩ world)
        (hops network caller ⟨pending', .dispatch request' previous'⟩ world') := by
  induction pending, request, previous, world
    using dispatch_induction network caller with
  | step pending request previous world ih =>
    intro pending' request' previous' world' blind worlds twins follows ordinary short short'
    rw [hops_dispatch] at short ⊢
    rw [hops_dispatch] at short' ⊢
    rw [List.forall_mem_cons, hop_request] at short short'
    have recorded : (record world pending).Twin (record world' pending') :=
      ⟨worlds.settings, worlds.registry, worlds.toggles, worlds.tallies, worlds.log⟩
    have blind' : (record world pending).client.dispatcher.registry.Blind := blind
    have first := twin_hop network caller blind' recorded twins follows ordinary short.1 short'.1
    have later :=
      twin_worldAfter network caller blind' recorded twins follows ordinary short.1 short'.1
    refine .cons first ?_
    have asks := first.next?
    generalize next : (hop network caller (record world pending) request previous).next? = asked
      at asks short ⊢
    generalize (hop network caller (record world' pending') request' previous').next? = asked'
      at asks short' ⊢
    cases asks with
    | none => exact .nil
    | @some asked asked' alike =>
      obtain ⟨after, response⟩ := asked
      obtain ⟨after', response'⟩ := asked'
      exact ih after response next continuing after' (some response') _ blind later alike.1
        (.some alike.2) (ordinary_next ordinary next) short.2 short'.2

end Call

namespace Client

variable {network : Network} {caller : Caller}

/-- A client names itself to twins alike. -/
theorem twin_prepare (settings : Settings) {request other : Request} (twins : request.Twin other) :
    (Call.prepare settings request).Twin (Call.prepare settings other) := by
  obtain ⟨url, named, rfl⟩ := twins
  refine ⟨url, ?_, ?_⟩
  · obtain ⟨headers, deferred, prepared⟩ := Call.exists_prepare settings request
    rw [prepared]
    exact named
  · unfold Call.prepare Request.setHeader Request.withHeader Request.deferFault
    dsimp only
    split
    · rfl
    · split
      · rfl
      · rfl

theorem method_prepare (settings : Settings) (request : Request) :
    (Call.prepare settings request).method = request.method := by
  obtain ⟨headers, deferred, prepared⟩ := Call.exists_prepare settings request
  rw [prepared]

/-- What stays local stays so in whole calls: calls for twins, by clients with the same settings,
registry and switches, send the same requests and return twins, or fail alike, as long as no factory
looks at the local parts, no tunnel is asked for, and every URL of both is short enough for a
target. -/
theorem local_parts_stay (network : Network) (caller : Caller) (world other : World)
    (request twin : Request) (blind : world.client.dispatcher.registry.Blind)
    (worlds : world.Twin other) (twins : request.Twin twin) (ordinary : request.method ≠ .connect)
    (short : ∀ hop ∈ hops network caller world request, hop.request.url.IsShort)
    (short' : ∀ hop ∈ hops network caller other twin, hop.request.url.IsShort) :
    let ended := execute network caller world request
    let ended' := execute network caller other twin
    ended'.2.log = ended.2.log ∧ Likewise Failure.Twin Response.Twin ended.1 ended'.1 := by
  intro ended ended'
  have prepared : (Call.prepare world.client.settings request).Twin
      (Call.prepare other.client.settings twin) := by
    rw [worlds.settings]
    exact twin_prepare _ twins
  have ordinary' : (Call.prepare world.client.settings request).method ≠ .connect := by
    rw [method_prepare]
    exact ordinary
  have alike : List.Forall₂ Hop.Twin (hops network caller world request)
      (hops network caller other twin) :=
    Call.twin_hops network caller _ _ _ _ _ _ _ _ blind worlds prepared .none ordinary' short short'
  constructor
  · have log : ended.2.log = _ := log_execute network caller world request
    have log' : ended'.2.log = _ := log_execute network caller other twin
    rw [log, log', worlds.log, Hop.Twin.sent_eq alike]
  · obtain ⟨last, final, -, result⟩ := last_hop network caller world request
    obtain ⟨last', final', -, result'⟩ := last_hop network caller other twin
    have lasts := Hop.Twin.getLast? alike
    rw [final, final'] at lasts
    cases lasts with
    | some same =>
      change Likewise _ _ (execute network caller world request).1
        (execute network caller other twin).1
      rw [result, result']
      exact same.conclusion

/-! ### A page, as somebody names it -/

/-- A page of a host, as somebody names it. -/
def pageFor (username : String) (password : Option String) (name : String)
    (fragment : Option String) : Url :=
  ⟨"http", username, password, some (.domain "a"), none, .rooted [name], none, fragment⟩

/-- A request for the head of a page that leaves the name of the client empty. -/
def headFor (url : Url) : Request :=
  { Request.new .head url with headers := Headers.empty.append .userAgent ⟨[]⟩ }

/-- A network in which the first request is told to go on to the root of its host. -/
def turning : Network :=
  .scripted (fun _ => true) (fun _ _ => .accepted)
    [.raw (Utf8.encode "HTTP/1.1 302 \nlocation: /\n\n") .closed] (.raw [] .closed)

/-- The response that tells it so. -/
def turned (url : Url) : Response :=
  ⟨⟨302⟩, .http11, Headers.empty.append .location ⟨Utf8.encode "/"⟩, [], headFor url, 0, .blocking⟩

/-- A call for the page performs two exchanges, and whoever has named the page is still named when it
goes on. -/
theorem exists_hops_turning (username : String) (password fragment : Option String) :
    ∃ first second,
      hops turning .patient unused (headFor (pageFor username password "x" fragment)) =
        [first, second] ∧
      first.request.url = pageFor username password "x" fragment ∧
      second.request.url = pageFor username password "" none ∧
      first.outcome.sent.isSome = true ∧ second.outcome.sent.isSome = true := by
  let request := headFor (pageFor username password "x" fragment)
  let world := Call.record unused [.one .total]
  let next := Redirect.follow ⟨302⟩ request (pageFor username password "" none)
  let response := turned (pageFor username password "x" fragment)
  let later := Call.record (Call.worldAfter turning .patient world request none) Call.continuing
  have named : request.headers.contains .userAgent = true := rfl
  have prepared : Call.prepare unused.client.settings request = request := if_pos named
  have goesOn : (Call.hop turning .patient world request none).next? = some (next, response) := by
    cbv
  have ends : (Call.hop turning .patient later next (some response)).next? = none := by
    cbv
  rw [hops, Call.begin, prepared, Call.hops_dispatch, goesOn]
  dsimp only
  rw [Call.hops_dispatch, ends]
  refine ⟨_, _, rfl, ?_, ?_, ?_, ?_⟩
  · rw [Call.hop_request]
    rfl
  · rw [Call.hop_request]
    rfl
  · cbv
  · cbv

/-- Nobody gets to know who names a page, or to which part of it they go. -/
theorem local_parts_stay_turning :
    let ended := execute turning .patient unused (headFor (pageFor "" none "x" none))
    let ended' :=
      execute turning .patient unused (headFor (pageFor "u" (some "p") "x" (some "f")))
    ended.2.log.length = 2 ∧ ended'.2.log = ended.2.log := by
  intro ended ended'
  have short (username : String) (password fragment : Option String)
      (first : (pageFor username password "x" fragment).IsShort)
      (second : (pageFor username password "" none).IsShort) :
      ∀ hop ∈ hops turning .patient unused (headFor (pageFor username password "x" fragment)),
        hop.request.url.IsShort := by
    obtain ⟨hop, hop', exchanges, url, url', -⟩ := exists_hops_turning username password fragment
    rw [exchanges, List.forall_mem_cons, List.forall_mem_singleton, url, url']
    exact ⟨first, second⟩
  constructor
  · obtain ⟨hop, hop', exchanges, -, -, sends, sends'⟩ := exists_hops_turning "" none none
    obtain ⟨sent, arrived⟩ := Option.isSome_iff_exists.mp sends
    obtain ⟨sent', arrived'⟩ := Option.isSome_iff_exists.mp sends'
    have log : ended.2.log = _ :=
      log_execute turning .patient unused (headFor (pageFor "" none "x" none))
    rw [log, exchanges, List.filterMap_cons, arrived, List.filterMap_cons, arrived']
    rfl
  · have twins : (headFor (pageFor "" none "x" none)).Twin
        (headFor (pageFor "u" (some "p") "x" (some "f"))) := ⟨_, ⟨_, _, _, rfl⟩, rfl⟩
    exact (local_parts_stay turning .patient unused unused _ _ Registry.blind_probe
      ⟨rfl, rfl, rfl, rfl, rfl⟩ twins (by decide) (short _ _ _ (by cbv) (by cbv))
      (short _ _ _ (by cbv) (by cbv))).1

end Client

end Courier
