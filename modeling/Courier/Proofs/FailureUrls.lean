import Courier.Proofs.Cancellation

/-! # Where a failure happened

Whoever gets a failure wants to know which of the requests of a chain it belongs to. Some steps of an
exchange name the URL in the failure that they raise, the others leave that to the exchange as a
whole, which never writes over what a step has named. So a call that fails names the URL of the last
request for which it has performed an exchange, and for a redirect that cannot be followed the URL of
the response that asks for it, not that of its target. Only a unit that fails on its own account,
which no strategy of this library makes, is reported as it is.
-/

namespace Courier

/-- A failure is one that was raised, tied to a URL unless it was tied to one before. -/
structure Failure.TracedTo (failure raised : Failure) (url : Url) : Prop where
  kind : failure.kind = raised.kind
  cause : failure.cause = raised.cause
  url : failure.url = some url
  kept : raised.url ≠ none → failure = raised

/-- What a failure says about a URL, if anything. -/
def Failure.Names (failure : Failure) (url : Url) : Prop :=
  failure.url = none ∨ failure.url = some url

/-- A failure that is tied to a URL stays as it is. -/
theorem Failure.attach_of_url {failure : Failure} {url other : Url}
    (named : failure.url = some other) : failure.attach url = failure := by
  obtain ⟨kind, cause, about⟩ := failure
  obtain rfl : about = some other := named
  rfl

theorem Failure.Names.tracedTo_attach {raised : Failure} {url : Url} (names : raised.Names url) :
    (raised.attach url).TracedTo raised url := by
  obtain ⟨kind, cause, about⟩ := raised
  rcases names with rfl | rfl
  · exact ⟨rfl, rfl, rfl, fun named => absurd rfl named⟩
  · exact ⟨rfl, rfl, rfl, fun _ => rfl⟩

namespace Exchange

variable {network : Network} {log : Log} {caller : Caller} {strategy : Strategy}
  {request : Request} {redirects : UInt32} {failure : Failure}

/-! ## What the steps name -/

theorem names_of_host? {url : Url} (unnamed : host? url = .error failure) : failure.Names url := by
  unfold host? at unnamed
  split at unnamed
  · cases unnamed
    exact .inl rfl
  · cases unnamed
    exact .inl rfl
  · cases unnamed

theorem names_of_absoluteTarget {url : Url} (unwritable : absoluteTarget url = .error failure) :
    failure.Names url := by
  unfold absoluteTarget at unwritable
  split at unwritable
  · cases unwritable
    exact .inr rfl
  · split at unwritable
    · cases unwritable
      exact .inr rfl
    · exact names_of_host? (map_eq_error_iff.mp unwritable)

theorem names_of_approach (fails : approach strategy request = .error failure) :
    failure.Names request.url := by
  cases strategy with
  | blocking => exact names_of_host? (map_eq_error_iff.mp fails)
  | pooled => exact names_of_absoluteTarget (map_eq_error_iff.mp fails)
  | task => exact names_of_absoluteTarget (map_eq_error_iff.mp fails)

theorem url_poolFailure (connecting : Bool) (cause : Cause) :
    (poolFailure connecting cause).url = none := by
  unfold poolFailure
  split <;> rfl

theorem url_classify (strategy : Strategy) (cause : Cause) :
    (classify strategy cause).url = none := by
  cases strategy with
  | blocking =>
    unfold classify ownFailure
    dsimp only
    split <;> rfl
  | pooled => exact url_poolFailure false cause
  | task => exact url_poolFailure false cause

theorem names_of_ready {found : Approach} (begun : approach strategy request = .ok found)
    {ended : Connecting} (unready : found.ready ended = .error failure) :
    failure.Names request.url := by
  rcases approach_eq_ok begun with ⟨-, host, -, rfl⟩ | ⟨-, target, -, rfl⟩
  · cases ended with
    | failed kind =>
      cases unready
      exact .inl rfl
    | stalled =>
      cases unready
      exact .inl rfl
    | accepted =>
      obtain ⟨-, rfl⟩ := ownDraft_eq_error_iff.mp (map_eq_error_iff.mp unready)
      exact .inr rfl
  · cases ended with
    | failed kind =>
      cases unready
      exact .inl (url_poolFailure ..)
    | stalled =>
      cases unready
      exact .inl (url_poolFailure ..)
    | accepted => cases unready

theorem names_of_prepare (unready : prepare network strategy request = .error failure) :
    failure.Names request.url := by
  rw [prepare_eq] at unready
  cases begun : approach strategy request with
  | error failure' =>
    rw [begun] at unready
    cases unready
    exact names_of_approach begun
  | ok found =>
    rw [begun] at unready
    exact names_of_ready begun unready

theorem url_of_readFrames {cap : Nat} {finish : Wire.Finish} {buffer : Bytes}
    {frames : List Wire.Frame} (lacking : Wire.readFrames cap finish buffer frames = .error failure) :
    failure.url = none := by
  induction frames generalizing buffer with
  | nil =>
    cases finish with
    | complete => cases lacking
    | broken fault =>
      cases lacking
      unfold Wire.bodyFailure
      split <;> rfl
    | stalled =>
      cases lacking
      rfl
  | cons frame rest ih =>
    cases frame with
    | trailers => exact ih lacking
    | data bytes =>
      unfold Wire.readFrames at lacking
      dsimp only at lacking
      split at lacking
      · cases lacking
      · exact ih lacking

/-- Whoever reads an answer leaves it to the exchange to name the URL. -/
theorem url_of_receive {answer : Answer}
    (lacking : receive strategy request redirects answer = .error failure) :
    failure.url = none := by
  unfold receive at lacking
  split at lacking
  · cases lacking
    rfl
  · split at lacking
    · cases lacking
      exact url_classify ..
    · cases lacking
      rfl
    · exact url_of_readFrames (map_eq_error_iff.mp lacking)

/-! ## One exchange -/

/-- What may put an end to an exchange where it is performed, whatever the network does. -/
inductive Upset
  /-- What waits on a connection of one's own does not start. -/
  | unstarted (fault : SocketFault)
  /-- A task goes away without a result. -/
  | lost
  deriving DecidableEq, Repr

/-- The failure of an exchange whose task has gone away. -/
def lostFailure : Failure := .of .request (.text "exchange task ended without a result")

/-- The result of an exchange amid what may put an end to it. -/
def conductAmid (upset : Option Upset) (network : Network) (log : Log) (caller : Caller)
    (strategy : Strategy) (request : Request) (redirects : UInt32) : Except Failure Response :=
  match preflight caller request with
  | .error failure => .error failure
  | .ok () =>
    match upset, strategy with
    | some (.unstarted fault), .blocking =>
      .error ((Failure.of .request (.socket fault)).withUrl request.url)
    | some .lost, .task => Failure.attachTo request.url (.error lostFailure)
    | _, _ => (conduct network log caller strategy request redirects).result

/-- What the step raises that makes an exchange fail, if one does. -/
def raised? (upset : Option Upset) (network : Network) (log : Log) (caller : Caller)
    (strategy : Strategy) (request : Request) (redirects : UInt32) : Option Failure :=
  match preflight caller request with
  | .error failure => some failure
  | .ok () =>
    match upset, strategy with
    | some (.unstarted fault), .blocking =>
      some ((Failure.of .request (.socket fault)).withUrl request.url)
    | some .lost, .task => some lostFailure
    | _, _ =>
      if caller.cancelled then some .cancelled
      else
        match (start network log strategy request redirects).result with
        | .error failure => some failure
        | .ok _ => none

/-- Where nothing puts an end to it, an exchange is performed as ever. -/
theorem conductAmid_none :
    conductAmid none network log caller strategy request redirects =
      (conduct network log caller strategy request redirects).result := by
  unfold conductAmid
  cases passed : preflight caller request with
  | error failure =>
    unfold conduct
    rw [passed]
    rfl
  | ok _ => rfl

theorem result_conduct (passed : preflight caller request = .ok ()) :
    (conduct network log caller strategy request redirects).result =
      Failure.attachTo request.url (if caller.cancelled then .error .cancelled
        else (start network log strategy request redirects).result) := by
  unfold conduct
  rw [passed]
  dsimp only
  rw [attach_eq]
  split <;> rfl

/-- A step that fails names the URL that was asked for, or none, and none of the steps follows
redirects. -/
theorem of_start_eq_error
    (fails : (start network log strategy request redirects).result = .error failure) :
    failure.Names request.url ∧ failure.kind ≠ .redirect := by
  unfold start at fails
  split at fails
  · rename_i failure' unready
    cases fails
    refine ⟨names_of_prepare unready, fun kind => ?_⟩
    rcases kind_of_prepare unready with other | other
    · rw [kind] at other
      cases other
    · rw [kind] at other
      exact absurd other (by decide)
  · refine ⟨.inl (url_of_receive fails), fun kind => ?_⟩
    rcases of_receive_eq_error fails with ⟨-, rfl⟩ | ⟨-, other⟩
    · cases kind
    · rw [kind] at other
      exact absurd other (by decide)

theorem of_raised? {upset : Option Upset} {raised : Failure}
    (fails : raised? upset network log caller strategy request redirects = some raised) :
    raised.Names request.url ∧ raised.kind ≠ .redirect := by
  unfold raised? at fails
  split at fails
  · rename_i failure' refused
    cases fails
    obtain ⟨kind, url⟩ := of_preflight_eq_error refused
    exact ⟨.inr url, by rw [kind]; nofun⟩
  · split at fails
    · cases fails
      exact ⟨.inr rfl, nofun⟩
    · cases fails
      exact ⟨.inl rfl, nofun⟩
    · split at fails
      · cases fails
        exact ⟨.inl rfl, nofun⟩
      · split at fails
        · rename_i failure' started
          cases fails
          exact of_start_eq_error started
        · cases fails

theorem exists_raised_attach {upset : Option Upset}
    (fails : conductAmid upset network log caller strategy request redirects = .error failure) :
    ∃ raised, raised? upset network log caller strategy request redirects = some raised ∧
      failure = raised.attach request.url := by
  unfold conductAmid at fails
  unfold raised?
  cases passed : preflight caller request with
  | error failure' =>
    rw [passed] at fails
    obtain rfl : failure' = failure := Except.error.inj fails
    exact ⟨_, rfl, (Failure.attach_of_url (of_preflight_eq_error passed).2).symm⟩
  | ok _ =>
    rw [passed] at fails
    dsimp only at fails ⊢
    split at fails
    · cases fails
      exact ⟨_, rfl, rfl⟩
    · cases fails
      exact ⟨_, rfl, rfl⟩
    · rw [result_conduct passed] at fails
      obtain ⟨raised, raises, tied⟩ := Failure.attachTo_eq_error fails
      refine ⟨raised, ?_, tied⟩
      cases given : caller.cancelled with
      | true =>
        rw [given, if_pos rfl] at raises
        rw [if_pos rfl, Except.error.inj raises]
      | false =>
        rw [given, if_neg Bool.false_ne_true] at raises
        rw [if_neg Bool.false_ne_true, raises]

/-- An exchange fails with what one of its steps raises, tied to the URL that was asked for unless
the step has named it. -/
theorem exists_raised {upset : Option Upset}
    (fails : conductAmid upset network log caller strategy request redirects = .error failure) :
    ∃ raised, raised? upset network log caller strategy request redirects = some raised ∧
      raised.kind ≠ .redirect ∧ failure.TracedTo raised request.url := by
  obtain ⟨raised, raises, rfl⟩ := exists_raised_attach fails
  obtain ⟨names, kind⟩ := of_raised? raises
  exact ⟨raised, raises, kind, names.tracedTo_attach⟩

end Exchange

/-! ## The failures of a call -/

/-- How the failure of a call comes from its last exchange, performed by a strategy after the
requests of a log: it has the URL of the exchange, and either a response has come that asks for a
redirect that cannot be followed, or a step of the exchange has raised it. -/
structure Hop.Explains (network : Network) (log : Log) (caller : Caller) (last : Hop)
    (strategy : Strategy) (failure : Failure) : Prop where
  url : failure.url = some last.request.url
  redirect : failure.kind = .redirect → ∃ response, last.outcome.result = .ok response ∧
    Redirect.next? response = .error failure ∧ failure.url = some response.url
  exchange : failure.kind ≠ .redirect → ∃ raised,
    Exchange.raised? none network log caller strategy last.request last.unit.redirects =
      some raised ∧ failure.TracedTo raised last.request.url

theorem Hop.explains {network : Network} {log : Log} {caller : Caller} {last : Hop}
    {strategy : Strategy} {failure : Failure}
    (executed : last.outcome = last.unit.execute network log caller)
    (performed : last.unit.conduct = .exchange strategy)
    (fails : last.conclusion = .error failure) :
    last.Explains network log caller strategy failure := by
  unfold conclusion at fails
  cases obtained : last.outcome.result with
  | ok response =>
    rw [obtained] at fails
    have lost := Exchange.map_eq_error_iff.mp fails
    have named : failure.url = some response.url := by
      obtain ⟨cause, rfl⟩ := Redirect.exists_cause_of_next? lost
      rfl
    have answered := (Sound.response ⟨network, log, caller, executed⟩ obtained).1
    refine ⟨?_, fun _ => ⟨response, obtained, lost, named⟩, fun other => ?_⟩
    · rw [named, Response.url, answered]
    · exact absurd (Client.kind_of_next? lost) other
  | error failure' =>
    rw [obtained] at fails
    obtain rfl : failure' = failure := Except.error.inj fails
    rw [executed, ExecutionUnit.execute, performed] at obtained
    obtain ⟨raised, raises, other, traced⟩ :=
      Exchange.exists_raised (Exchange.conductAmid_none.trans obtained)
    refine ⟨traced.url, fun kind => ?_, fun _ => ⟨raised, raises, traced⟩⟩
    exact absurd (traced.kind.symm.trans kind) other

namespace Client

/-- A call that fails tells where. If a strategy has performed its last exchange, the failure names
the URL of the last request; for a redirect that cannot be followed this is the URL of the response
that asks for it, and else the failure is what a step of the exchange has raised, with the URL that
the step has named if it has named one. The same holds where something else puts an end to one of the
exchanges. A unit that fails on its own account is reported as it is, and a client whose factories
make no such units always names the URL. -/
theorem failures_located (network : Network) (caller : Caller) (world : World) (request : Request) :
    let hops := hops network caller world request
    let ended := execute network caller world request
    (∃ place last, place + 1 = hops.length ∧ hops[place]? = some last ∧
      ∀ failure, ended.1 = .error failure →
        (∀ strategy, last.unit.conduct = .exchange strategy →
          last.Explains network (world.log ++ (Hop.sent hops).take place) caller strategy failure) ∧
        (∀ own, last.unit.conduct = .fail own → failure = own) ∧
        (world.client.dispatcher.registry.Performing → failure.url = some last.request.url)) ∧
    ∀ hop ∈ hops, ∀ strategy, hop.unit.conduct = .exchange strategy →
      ∀ upset log failure,
        Exchange.conductAmid upset network log caller strategy hop.request hop.unit.redirects =
          .error failure →
        ∃ raised, Exchange.raised? upset network log caller strategy hop.request
            hop.unit.redirects = some raised ∧ failure.TracedTo raised hop.request.url := by
  intro hops ended
  constructor
  · obtain ⟨place, last, count, here, -, result⟩ := exists_last_place network caller world request
    refine ⟨place, last, count, here, fun failure fails => ?_⟩
    have executed := (exchange_at here).1
    have concluded : last.conclusion = .error failure := result.symm.trans fails
    have explains (strategy : Strategy) (performed : last.unit.conduct = .exchange strategy) :=
      Hop.explains executed performed concluded
    refine ⟨explains, fun own failing => ?_, fun performing => ?_⟩
    · rw [Hop.conclusion, executed, ExecutionUnit.execute, failing] at concluded
      exact (Except.error.inj concluded).symm
    · obtain ⟨strategy, performed⟩ :=
        performs_hops performing last (List.mem_of_getElem? here)
      exact (explains strategy performed).url
  · intro hop _ strategy _ upset log failure fails
    obtain ⟨raised, raises, -, traced⟩ := Exchange.exists_raised fails
    exact ⟨raised, raises, traced⟩

/-- A unit that fails and names no URL leaves a call without one. -/
theorem failure_without_url :
    ¬ ∀ (network : Network) (caller : Caller) (world : World) (request : Request)
      (failure : Failure),
      (execute network caller world request).1 = .error failure →
      ∃ last, (hops network caller world request).getLast? = some last ∧
        failure.url = some last.request.url := by
  intro located
  have fails : (execute .isolated .patient (.failing (.of .request (.text "fake")))
      Selecting.rootRequest).1 = .error (.of .request (.text "fake")) := by cbv
  obtain ⟨last, -, named⟩ := located _ _ _ _ _ fails
  cases named

end Client

end Courier
