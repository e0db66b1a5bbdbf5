import Courier.Client.Stats
import Courier.Proofs.Selecting
import Courier.Proofs.StrategyAgreement

/-! # Reaching a host

A strategy makes a connection before it sends anything. A connection of one's own is made to the
host as the URL writes it, and a pool connects to what it finds in the target. So wherever a pool
gets through, a connection of one's own does too, unless the host is an address between brackets,
which it takes for a name that nobody can resolve. Where nobody gets through, the strategies report
the same kind of failure, unless the system has given the attempt up: a pool looks for a passed
deadline behind the failure, and a connection of one's own does not.
-/

namespace Courier

/-- Two failures agree just under a condition: in their kind, in whether a deadline passed, in
whether no connection was made, and in what is counted of them. -/
structure Failure.AgreeJust (failure other : Failure) (condition : Prop) : Prop where
  kind : failure.kind = other.kind ↔ condition
  isTimeout : failure.isTimeout = other.isTimeout ↔ condition
  isConnect : failure.isConnect = other.isConnect ↔ condition
  counted : Increment.ofFailure failure = Increment.ofFailure other ↔ condition

/-- The URL to which failures are tied plays no part in it. -/
theorem Failure.AgreeJust.attach {failure other : Failure} {condition : Prop}
    (agree : failure.AgreeJust other condition) (url : Url) :
    (failure.attach url).AgreeJust (other.attach url) condition :=
  ⟨agree.kind, agree.isTimeout, agree.isConnect, agree.counted⟩

namespace Exchange

variable {network : Network} {caller : Caller} {request : Request}

/-- The strategies that are preferred share the pool. -/
theorem prepare_preferred {tier : Strategy} (shared : tier ∈ Strategy.preferred) :
    prepare network tier request = preparePooled network request := by
  simp only [Strategy.preferred, List.mem_cons, List.not_mem_nil, or_false] at shared
  rcases shared with rfl | rfl
  · rfl
  · rfl

/-! ## Getting through -/

/-- A pool sends a request when it can write the URL and reaches the host that it finds there. -/
theorem preparePooled_eq_ok_iff {sent : WireRequest} :
    preparePooled network request = .ok sent ↔
      ∃ host, request.url.text.utf8ByteSize ≤ targetLimit ∧
        request.url.authorityText.any isUnwritable = false ∧ host? request.url = .ok host ∧
        network.reach false host (request.url.port.getD standardPort) = .accepted ∧
        sent = (poolDraft request ⟨request.url.credentialsText, host, request.url.port⟩
          request.url.target).wire host (request.url.port.getD standardPort) := by
  unfold preparePooled absoluteTarget
  by_cases long : targetLimit < request.url.text.utf8ByteSize
  · rw [if_pos long]
    constructor
    · nofun
    · rintro ⟨host, short, -⟩
      exact absurd long (Nat.not_lt.mpr short)
  · rw [if_neg long]
    have short : request.url.text.utf8ByteSize ≤ targetLimit := Nat.not_lt.mp long
    cases unwritable : request.url.authorityText.any isUnwritable with
    | true => simp [Except.bind]
    | false =>
      cases named : host? request.url with
      | error failure => simp [Except.bind, Except.map]
      | ok host =>
        simp only [Bool.false_eq_true, ↓reduceIte, Except.map, Except.bind, Except.ok.injEq,
          exists_eq_left', short, true_and]
        cases network.reach false host (request.url.port.getD standardPort) with
        | accepted => simp [eq_comm]
        | failed kind => simp
        | stalled => simp

/-- A connection of one's own carries a request to a host that it reaches. -/
theorem prepareOwn_eq_ok {host : Host} (named : host? request.url = .ok host)
    (reached : network.reach true host (request.url.effectivePort?.getD standardPort) = .accepted)
    (short : request.url.target.utf8ByteSize ≤ targetLimit) :
    prepareOwn network request = .ok
      ((Draft.mk request.method request.url.target (withHost request.headers host request.url.port)
        (request.body.getD [])).wire host (request.url.effectivePort?.getD standardPort)) := by
  unfold prepareOwn ownDraft
  rw [named]
  simp only [Except.bind, reached, Nat.not_lt.mpr short, ↓reduceIte, Except.map]

/-- A connection of one's own takes an address between brackets for a name. -/
theorem prepareOwn_bracketed {address : List UInt16}
    (bracketed : request.url.host = some (.ipv6 address)) :
    prepareOwn network request = .error (.of .connect (connectFault .unresolved)) := by
  unfold prepareOwn host?
  rw [bracketed]
  rfl

/-- Where a pool gets through, a connection of one's own does too, unless the host is an address
between brackets. It writes the path where a request for a tunnel would name the authority. -/
theorem prepareOwn_of_preparePooled {sent : WireRequest} (scheme : request.url.scheme = "http")
    (pooled : preparePooled network request = .ok sent)
    (plain : ∀ address, request.url.host ≠ some (.ipv6 address)) :
    prepareOwn network request = .ok { sent with target := request.url.target } := by
  obtain ⟨host, short, -, named, reached, rfl⟩ := preparePooled_eq_ok_iff.mp pooled
  have here : request.url.host = some host := host_of_host? named
  have named' : ∀ address, host ≠ .ipv6 address := by
    rintro address rfl
    exact plain address here
  have port := getD_effectivePort? scheme
  have reached' :
      network.reach true host (request.url.effectivePort?.getD standardPort) = .accepted := by
    rw [port, ← reach_of_not_ipv6 named']
    exact reached
  have within : request.url.target.utf8ByteSize ≤ targetLimit :=
    Nat.le_trans (utf8ByteSize_target_le request.url) short
  rw [prepareOwn_eq_ok named reached' within, port]
  rfl

/-! ## Not getting through -/

/-- The attempt to connect that is made for a request, and how it ends: the URL can be written as a
target, and it names a host that is no address between brackets. -/
structure Attempts (network : Network) (request : Request) (host : Host) (how : Connecting) :
    Prop where
  short : request.url.text.utf8ByteSize ≤ targetLimit
  writable : request.url.authorityText.any isUnwritable = false
  named : host? request.url = .ok host
  plain : ∀ address, host ≠ .ipv6 address
  ends : network.reach false host (request.url.port.getD standardPort) = how

/-- What a strategy makes of an attempt that does not end in a connection. -/
def attemptFailure? (strategy : Strategy) : Connecting → Option Failure
  | .accepted => none
  | .failed kind =>
    match strategy with
    | .blocking => some (.of .connect (connectFault kind))
    | .pooled | .task => some (poolFailure true (connectFault kind))
  | .stalled =>
    match strategy with
    | .blocking => some (.timeout .connect)
    | .pooled | .task => some (poolFailure true (connectFault .timedOut))

theorem Attempts.prepareOwn_eq_error {host : Host} {how : Connecting} {failure : Failure}
    (attempts : Attempts network request host how) (scheme : request.url.scheme = "http")
    (fails : attemptFailure? .blocking how = some failure) :
    prepareOwn network request = .error failure := by
  have ends : network.reach true host (request.url.effectivePort?.getD standardPort) = how := by
    rw [getD_effectivePort? scheme, ← reach_of_not_ipv6 attempts.plain]
    exact attempts.ends
  unfold prepareOwn
  rw [attempts.named]
  simp only [Except.bind, ends]
  cases how with
  | accepted => cases fails
  | failed kind =>
    obtain rfl := Option.some.inj fails
    rfl
  | stalled =>
    obtain rfl := Option.some.inj fails
    rfl

theorem Attempts.preparePooled_eq_error {host : Host} {how : Connecting} {failure : Failure}
    (attempts : Attempts network request host how)
    (fails : attemptFailure? .pooled how = some failure) :
    preparePooled network request = .error failure := by
  unfold preparePooled absoluteTarget
  rw [if_neg (Nat.not_lt.mpr attempts.short), if_neg (Bool.eq_false_iff.mp attempts.writable),
    attempts.named]
  simp only [Except.bind, Except.map, attempts.ends]
  cases how with
  | accepted => cases fails
  | failed kind =>
    obtain rfl := Option.some.inj fails
    rfl
  | stalled =>
    obtain rfl := Option.some.inj fails
    rfl

/-- An attempt that does not end in a connection ends the exchange in the same way. -/
theorem Attempts.prepare_eq_error {host : Host} {how : Connecting} {strategy : Strategy}
    {failure : Failure} (attempts : Attempts network request host how)
    (scheme : request.url.scheme = "http") (fails : attemptFailure? strategy how = some failure) :
    prepare network strategy request = .error failure := by
  cases strategy with
  | blocking => exact attempts.prepareOwn_eq_error scheme fails
  | pooled => exact attempts.preparePooled_eq_error fails
  | task =>
    have fails' : attemptFailure? .pooled how = some failure := by
      cases how <;> exact fails
    exact attempts.preparePooled_eq_error fails'

theorem exists_attemptFailure (strategy : Strategy) {how : Connecting} (failed : how ≠ .accepted) :
    ∃ failure, attemptFailure? strategy how = some failure := by
  cases how with
  | accepted => exact absurd rfl failed
  | failed kind => cases strategy <;> exact ⟨_, rfl⟩
  | stalled => cases strategy <;> exact ⟨_, rfl⟩

/-- A connection of one's own and a pool make the same of an attempt, unless the system has given it
up for the time that it took. -/
theorem agreeJust_attemptFailure {tier : Strategy} (shared : tier ∈ Strategy.preferred)
    {how : Connecting} {own pooled : Failure} (ownFails : attemptFailure? .blocking how = some own)
    (poolFails : attemptFailure? tier how = some pooled) :
    own.AgreeJust pooled (how ≠ .failed .timedOut) := by
  have poolFails' : attemptFailure? .pooled how = some pooled := by
    simp only [Strategy.preferred, List.mem_cons, List.not_mem_nil, or_false] at shared
    rcases shared with rfl | rfl
    · cases how <;> exact poolFails
    · exact poolFails
  cases how with
  | accepted => cases ownFails
  | stalled =>
    obtain rfl := Option.some.inj ownFails
    obtain rfl := Option.some.inj poolFails'
    constructor <;> decide
  | failed kind =>
    obtain rfl := Option.some.inj ownFails
    obtain rfl := Option.some.inj poolFails'
    cases kind <;> constructor <;> decide

/-- An exchange that gets no connection ends so, unless its caller has given up before. -/
theorem conduct_of_prepare_eq_error {strategy : Strategy} {failure : Failure}
    (passed : preflight caller request = .ok ())
    (refused : prepare network strategy request = .error failure) (log : Log)
    (redirects : UInt32) :
    conduct network log caller strategy request redirects =
      .unsent ((if caller.cancelled then .cancelled else failure).attach request.url) := by
  unfold conduct
  rw [passed]
  dsimp only
  cases caller.cancelled with
  | true => rfl
  | false =>
    unfold start
    rw [refused]
    rfl

end Exchange

namespace ExecutionUnit

/-- A request that is carried by a pool is carried by a connection of one's own exactly when its URL
names no address between brackets. Such an address is taken for a name, and nothing is sent. -/
theorem own_carries_iff (network : Network) (log : Log) (caller : Caller) (request : Request)
    (previous : Option Response) (tier : Strategy) (sent : WireRequest)
    (shared : tier ∈ Strategy.preferred)
    (carried : ((ofStrategy tier request previous).execute network log caller).sent = some sent) :
    let own := (ofStrategy .blocking request previous).execute network log caller
    (own.sent = some { sent with target := request.url.target } ↔
      ∀ address, request.url.host ≠ some (.ipv6 address)) ∧
    ∀ address, request.url.host = some (.ipv6 address) →
      own = .unsent
        ((Failure.of .connect (Exchange.connectFault .unresolved)).attach request.url) := by
  intro own
  obtain ⟨passed, patient, prepared⟩ := Exchange.conduct_sent.mp carried
  have scheme := (Exchange.preflight_eq_ok_iff.mp passed).2.2
  rw [Exchange.prepare_preferred shared] at prepared
  have bracketed (address : List UInt16) (here : request.url.host = some (.ipv6 address)) :
      own = .unsent
        ((Failure.of .connect (Exchange.connectFault .unresolved)).attach request.url) := by
    have refused : Exchange.prepare network .blocking request = .error _ :=
      Exchange.prepareOwn_bracketed here
    have ends := Exchange.conduct_of_prepare_eq_error passed refused log (Response.hopIndex previous)
    rw [patient] at ends
    exact ends
  refine ⟨⟨?_, ?_⟩, bracketed⟩
  · intro arrives address here
    rw [bracketed address here] at arrives
    cases arrives
  · intro plain
    have own := Exchange.prepareOwn_of_preparePooled scheme prepared plain
    exact Exchange.conduct_sent.mpr ⟨passed, patient, own⟩

/-! ### An address between brackets -/

/-- A host that is an address between brackets, the one by which a machine reaches itself. -/
def loopback : Url :=
  ⟨"http", "", none, some (.ipv6 [0, 0, 0, 0, 0, 0, 0, 1]), none, .rooted [""], none, none⟩

/-- A network in which every host is reached, and closes the connection. -/
def openNetwork : Network := .scripted (fun _ => true) (fun _ _ => .accepted) [] (.raw [] .closed)

/-- A request for the root of a named host is carried by the pool and by a connection of one's own. -/
theorem own_carries_to_name :
    ∃ sent, ((ofStrategy .pooled Selecting.rootRequest none).execute openNetwork [] .patient).sent =
        some sent ∧
      ((ofStrategy .blocking Selecting.rootRequest none).execute openNetwork [] .patient).sent =
        some { sent with target := Selecting.rootRequest.url.target } := by
  have carried : ((ofStrategy .pooled Selecting.rootRequest none).execute openNetwork []
      .patient).sent.isSome = true := by cbv
  obtain ⟨sent, carried⟩ := Option.isSome_iff_exists.mp carried
  refine ⟨sent, carried, ?_⟩
  apply (own_carries_iff openNetwork [] .patient Selecting.rootRequest none .pooled sent (by decide)
    carried).1.mpr
  intro address here
  cases here

/-- A host that can be reached may be out of reach for the strategy that is always available. -/
theorem own_misses_loopback :
    ¬ ∀ (network : Network) (log : Log) (caller : Caller) (request : Request)
      (previous : Option Response) (text : String), Url.parse text = .ok request.url →
      request.url.scheme = "http" → request.url.text.utf8ByteSize ≤ Exchange.targetLimit →
      (∀ host port, network.connecting host port = .accepted) →
      ∀ tier ∈ Strategy.preferred,
        ((ofStrategy tier request previous).execute network log caller).sent.isSome = true →
        ((ofStrategy .blocking request previous).execute network log caller).sent.isSome = true := by
  intro reaches
  have parsed : Url.parse "http://[::1]/" = .ok loopback := by cbv
  have short : loopback.text.utf8ByteSize ≤ Exchange.targetLimit := by cbv
  have carried : ((ofStrategy .pooled (.new .get loopback) none).execute openNetwork []
      .patient).sent.isSome = true := by cbv
  have missed : ((ofStrategy .blocking (.new .get loopback) none).execute openNetwork []
      .patient).sent.isSome = false := by cbv
  have reached := reaches openNetwork [] .patient (.new .get loopback) none "http://[::1]/" parsed rfl
    short (fun _ _ => rfl) .pooled (by decide) carried
  rw [missed] at reached
  cases reached

/-! ## Not getting through alike -/

/-- When an attempt to connect fails, all strategies report the same kind of failure, and the same is
counted of it, just when the attempt was not given up by the system for the time that it took, or
when the caller had given up before it was made. -/
theorem failures_agree_iff (network : Network) (log : Log) (caller : Caller) (request : Request)
    (previous : Option Response) (host : Host) (how : Connecting)
    (passed : Exchange.preflight caller request = .ok ())
    (attempts : Exchange.Attempts network request host how) (failed : how ≠ .accepted) :
    ∃ failure : Strategy → Failure,
      (∀ strategy, (ofStrategy strategy request previous).execute network log caller =
        .unsent (failure strategy)) ∧
      ∀ tier ∈ Strategy.preferred, (failure .blocking).AgreeJust (failure tier)
        (caller.cancelled = true ∨ how ≠ .failed .timedOut) := by
  have scheme := (Exchange.preflight_eq_ok_iff.mp passed).2.2
  choose made makes using fun strategy => Exchange.exists_attemptFailure strategy failed
  refine ⟨fun strategy =>
    (if caller.cancelled then .cancelled else made strategy).attach request.url, ?_, ?_⟩
  · intro strategy
    have refused := attempts.prepare_eq_error scheme (makes strategy)
    exact Exchange.conduct_of_prepare_eq_error passed refused log _
  · intro tier shared
    apply Failure.AgreeJust.attach
    cases caller.cancelled with
    | true => constructor <;> simp
    | false =>
      have agree := Exchange.agreeJust_attemptFailure shared (makes .blocking) (makes tier)
      simpa only [Bool.false_eq_true, ↓reduceIte, false_or] using agree

/-! ### An attempt that the system gives up -/

/-- A network in which every attempt to connect ends in the same failure. -/
def closedNetwork (kind : SocketFault.Kind) : Network :=
  { openNetwork with connecting := fun _ _ => .failed kind }

theorem attempts_root (kind : SocketFault.Kind) :
    Exchange.Attempts (closedNetwork kind) Selecting.rootRequest (.domain "a") (.failed kind) where
  short := by cbv
  writable := by cbv
  named := rfl
  plain := nofun
  ends := rfl

theorem preflight_root : Exchange.preflight .patient Selecting.rootRequest = .ok () := by
  rw [Exchange.preflight_eq_ok_iff]
  exact ⟨rfl, rfl, rfl⟩

/-- When a host refuses the connection, all strategies report one kind of failure. -/
theorem failures_agree_when_refused :
    ∃ failure : Strategy → Failure,
      (∀ strategy, (ofStrategy strategy Selecting.rootRequest none).execute (closedNetwork .refused) []
        .patient = .unsent (failure strategy)) ∧
      ∀ tier ∈ Strategy.preferred, (failure .blocking).kind = (failure tier).kind := by
  obtain ⟨failure, ends, agree⟩ := failures_agree_iff (closedNetwork .refused) [] .patient
    Selecting.rootRequest none (.domain "a") (.failed .refused) preflight_root
    (attempts_root .refused) (by decide)
  refine ⟨failure, ends, fun tier shared => ?_⟩
  apply (agree tier shared).kind.mpr
  exact .inr (by decide)

/-- When the system gives an attempt up, a pool reports a passed deadline and a connection of one's
own does not. -/
theorem failures_differ_when_given_up :
    ¬ ∀ (network : Network) (log : Log) (caller : Caller) (request : Request)
      (previous : Option Response) (host : Host) (how : Connecting),
      Exchange.preflight caller request = .ok () →
      Exchange.Attempts network request host how → how ≠ .accepted →
      ∀ tier ∈ Strategy.preferred, ∀ own pooled,
        ((ofStrategy .blocking request previous).execute network log caller).result = .error own →
        ((ofStrategy tier request previous).execute network log caller).result = .error pooled →
        own.kind = pooled.kind := by
  intro alike
  have own : ((ofStrategy .blocking Selecting.rootRequest none).execute (closedNetwork .timedOut) []
      .patient).result = .error ((Failure.of .connect (Exchange.connectFault .timedOut)).attach
        Selecting.rootRequest.url) := by cbv
  have pooled : ((ofStrategy .pooled Selecting.rootRequest none).execute (closedNetwork .timedOut) []
      .patient).result = .error ((Failure.of (.timeout .connect)
        (Exchange.connectFault .timedOut)).attach Selecting.rootRequest.url) := by cbv
  have same := alike (closedNetwork .timedOut) [] .patient Selecting.rootRequest none (.domain "a")
    (.failed .timedOut) preflight_root (attempts_root .timedOut) (by decide) .pooled (by decide) _ _
    own pooled
  cases same

end ExecutionUnit

end Courier
