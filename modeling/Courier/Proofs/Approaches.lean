import Courier.Proofs.WireRequests

/-! # How a strategy comes to a connection

What a strategy prepares depends on the network at one point only: how its attempt to connect ends.
Before that it may find that the request cannot be written, and has made no attempt then; after that
it has a request to send only if it has a connection. So what goes wrong has a kind that tells when
it did, but that a connection of one's own is made before its target is written.
-/

namespace Courier.Exchange

/-- Where an attempt to connect is made, and what is made of how it ends. -/
structure Approach where
  byName : Bool
  host : Host
  port : UInt16
  ready : Connecting → Except Failure WireRequest

/-- The approach of a connection of one's own to a host. -/
def ownApproach (request : Request) (host : Host) : Approach :=
  let port := request.url.effectivePort?.getD standardPort
  ⟨true, host, port, fun
    | .failed kind => .error (.of .connect (connectFault kind))
    | .stalled => .error (.timeout .connect)
    | .accepted => (ownDraft request host).map fun draft => draft.wire host port⟩

/-- The approach of a pool to an authority, for a path. -/
def poolApproach (request : Request) (target : Authority × String) : Approach :=
  let (authority, path) := target
  let port := authority.port.getD standardPort
  ⟨false, authority.host, port, fun
    | .failed kind => .error (poolFailure true (connectFault kind))
    | .stalled => .error (poolFailure true (connectFault .timedOut))
    | .accepted => .ok ((poolDraft request authority path).wire authority.host port)⟩

/-- The approach of a strategy, for which no network is needed. -/
def approach (strategy : Strategy) (request : Request) : Except Failure Approach :=
  match strategy with
  | .blocking => (host? request.url).map (ownApproach request)
  | .pooled | .task => (absoluteTarget request.url).map (poolApproach request)

variable {network : Network} {strategy : Strategy} {request : Request}

section

variable {α β : Type} {result : Except Failure α} {change : α → β}

theorem map_eq_error_iff {failure : Failure} :
    result.map change = .error failure ↔ result = .error failure := by
  cases result with
  | error failure' => simp [Except.map]
  | ok value => simp [Except.map]

theorem map_eq_ok_iff {value : β} :
    result.map change = .ok value ↔ ∃ source, result = .ok source ∧ change source = value := by
  cases result with
  | error failure => simp [Except.map]
  | ok source => simp [Except.map]

end

/-- What a strategy prepares is what its approach makes of how the attempt ends. -/
theorem prepare_eq (network : Network) (strategy : Strategy) (request : Request) :
    prepare network strategy request = (approach strategy request).bind fun approach =>
      approach.ready (network.reach approach.byName approach.host approach.port) := by
  have own : prepareOwn network request = (approach .blocking request).bind fun approach =>
      approach.ready (network.reach approach.byName approach.host approach.port) := by
    unfold prepareOwn approach
    cases host? request.url with
    | error failure => rfl
    | ok host =>
      cases ended : network.reach true host (request.url.effectivePort?.getD standardPort) <;>
        simp only [Except.bind, Except.map, ownApproach, ended]
  have pooled : preparePooled network request = (approach .pooled request).bind fun approach =>
      approach.ready (network.reach approach.byName approach.host approach.port) := by
    unfold preparePooled approach
    cases absoluteTarget request.url with
    | error failure => rfl
    | ok target =>
      cases ended : network.reach false target.1.host (target.1.port.getD standardPort) <;>
        simp only [Except.bind, Except.map, poolApproach, ended]
  cases strategy with
  | blocking => exact own
  | pooled => exact pooled
  | task => exact pooled

/-- An approach is that to the host of the URL, or that to its text. -/
theorem approach_eq_ok {found : Approach} (begun : approach strategy request = .ok found) :
    (strategy = .blocking ∧ ∃ host, host? request.url = .ok host ∧ ownApproach request host = found) ∨
      (strategy ∈ Strategy.preferred ∧
        ∃ target, absoluteTarget request.url = .ok target ∧ poolApproach request target = found) := by
  cases strategy with
  | blocking => exact .inl ⟨rfl, map_eq_ok_iff.mp begun⟩
  | pooled => exact .inr ⟨by decide, map_eq_ok_iff.mp begun⟩
  | task => exact .inr ⟨by decide, map_eq_ok_iff.mp begun⟩

/-! ## Before an attempt -/

theorem kind_of_host? {url : Url} {failure : Failure} (unnamed : host? url = .error failure) :
    failure.kind = .builder := by
  unfold host? at unnamed
  split at unnamed
  · cases unnamed
    rfl
  · cases unnamed
    rfl
  · cases unnamed

theorem kind_of_absoluteTarget {url : Url} {failure : Failure}
    (unwritable : absoluteTarget url = .error failure) : failure.kind = .builder := by
  unfold absoluteTarget at unwritable
  split at unwritable
  · cases unwritable
    rfl
  · split at unwritable
    · cases unwritable
      rfl
    · exact kind_of_host? (map_eq_error_iff.mp unwritable)

/-- Only what cannot be written keeps a strategy from an attempt. -/
theorem kind_of_approach {failure : Failure} (fails : approach strategy request = .error failure) :
    failure.kind = .builder := by
  cases strategy with
  | blocking => exact kind_of_host? (map_eq_error_iff.mp fails)
  | pooled => exact kind_of_absoluteTarget (map_eq_error_iff.mp fails)
  | task => exact kind_of_absoluteTarget (map_eq_error_iff.mp fails)

/-! ## After an attempt -/

/-- The kinds of failures of an attempt to connect. -/
def connectKinds : List Failure.Kind := [.connect, .timeout .connect]

theorem kind_poolFailure (cause : Cause) : (poolFailure true cause).kind ∈ connectKinds := by
  unfold poolFailure
  cases cause.hasTimedOut with
  | true => exact List.mem_cons_of_mem _ (List.mem_singleton_self _)
  | false => exact List.mem_cons_self ..

/-- A connection of one's own writes its target last. -/
theorem ownDraft_eq_error_iff {host : Host} {failure : Failure} :
    ownDraft request host = .error failure ↔
      targetLimit < request.url.target.utf8ByteSize ∧
        failure = unwritten request.url .tooLong := by
  unfold ownDraft
  split
  · rename_i long
    simp only [long, true_and, Except.error.injEq]
    exact eq_comm
  · rename_i short
    simp only [short, false_and, reduceCtorEq]

/-- What goes wrong at an attempt that is not accepted is that no connection is made. With a
connection, only a target that is too long keeps one's own from being used. -/
theorem ready_eq_error {found : Approach} (begun : approach strategy request = .ok found)
    {ended : Connecting} {failure : Failure} (unready : found.ready ended = .error failure) :
    (ended ≠ .accepted ∧ failure.kind ∈ connectKinds) ∨
      (ended = .accepted ∧ strategy = .blocking ∧
        targetLimit < request.url.target.utf8ByteSize ∧ failure.kind = .builder) := by
  rcases approach_eq_ok begun with ⟨own, host, -, rfl⟩ | ⟨-, target, -, rfl⟩
  · cases ended with
    | failed kind =>
      cases unready
      exact .inl ⟨nofun, List.mem_cons_self ..⟩
    | stalled =>
      cases unready
      exact .inl ⟨nofun, List.mem_cons_of_mem _ (List.mem_singleton_self _)⟩
    | accepted =>
      obtain ⟨long, rfl⟩ := ownDraft_eq_error_iff.mp (map_eq_error_iff.mp unready)
      exact .inr ⟨rfl, own, long, rfl⟩
  · cases ended with
    | failed kind =>
      cases unready
      exact .inl ⟨nofun, kind_poolFailure _⟩
    | stalled =>
      cases unready
      exact .inl ⟨nofun, kind_poolFailure _⟩
    | accepted => cases unready

/-- Without a connection there is no request that could be sent. -/
theorem ready_eq_ok {found : Approach} (begun : approach strategy request = .ok found)
    {ended : Connecting} {sent : WireRequest} (ready : found.ready ended = .ok sent) :
    ended = .accepted := by
  rcases approach_eq_ok begun with ⟨-, host, -, rfl⟩ | ⟨-, target, -, rfl⟩
  · cases ended with
    | accepted => rfl
    | failed kind => cases ready
    | stalled => cases ready
  · cases ended with
    | accepted => rfl
    | failed kind => cases ready
    | stalled => cases ready

/-- Without a request to send, the request was none that can be written or the attempt has failed. -/
theorem kind_of_prepare {failure : Failure}
    (unready : prepare network strategy request = .error failure) :
    failure.kind = .builder ∨ failure.kind ∈ connectKinds := by
  rw [prepare_eq] at unready
  cases begun : approach strategy request with
  | error failure' =>
    rw [begun] at unready
    cases unready
    exact .inl (kind_of_approach begun)
  | ok found =>
    rw [begun] at unready
    rcases ready_eq_error begun unready with ⟨-, kind⟩ | ⟨-, -, -, kind⟩
    · exact .inr kind
    · exact .inl kind

end Courier.Exchange
