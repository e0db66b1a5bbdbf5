import Mathlib
import Courier.Dispatcher
import Courier.Proofs.WireRequests

/-! # Strategies agree

The strategies write a request and report what goes wrong each in its own way, but to the caller
they are one. Both ways over the pool come to the same, down to the cause of a failure; a connection
of one's own comes to the same request and the same response, or a failure of the same kind,
wherever the pool can write the URL and a connection is made.
-/

namespace Courier

/-! ## Outcomes -/

namespace Outcome

/-- The outcome with its response tagged as that of another strategy. -/
def relabel (outcome : Outcome) (strategy : Strategy) : Outcome :=
  ⟨outcome.result.map fun response => { response with strategy }, outcome.sent⟩

/-- Two exchanges send the same and end in the same response but for its tag, or in failures of one
kind that are tied to one URL. -/
structure Agrees (outcome other : Outcome) : Prop where
  sent : outcome.sent = other.sent
  result : match outcome.result, other.result with
    | .ok response, .ok response' => { response with strategy := response'.strategy } = response'
    | .error failure, .error failure' => failure.kind = failure'.kind ∧ failure.url = failure'.url
    | _, _ => False

theorem attach_relabel (outcome : Outcome) (strategy : Strategy) (url : Url) :
    (outcome.relabel strategy).attach url = (outcome.attach url).relabel strategy := by
  obtain ⟨result, sent⟩ := outcome
  cases result with
  | error failure => rfl
  | ok response => rfl

theorem agrees_relabel (outcome : Outcome) (strategy : Strategy) :
    outcome.Agrees (outcome.relabel strategy) := by
  obtain ⟨result, sent⟩ := outcome
  cases result with
  | error failure => exact ⟨rfl, rfl, rfl⟩
  | ok response => exact ⟨rfl, rfl⟩

end Outcome

namespace Exchange

variable {network : Network} {log : Log} {caller : Caller} {request : Request} {redirects : UInt32}

/-! ## What is read -/

/-- What is wrong with an answer is reported alike by all strategies. -/
theorem classify_reply (strategy : Strategy) (fault : ReplyFault) :
    classify strategy (.reply fault) = .of .request (.reply fault) := by
  cases strategy <;> rfl

theorem receive_relabel (strategy other : Strategy) (answer : Answer) :
    (receive strategy request redirects answer).map (fun response =>
      { response with strategy := other }) = receive other request redirects answer := by
  unfold receive
  split
  · rfl
  · cases deliver request.method answer with
    | broken fault => simp only [classify_reply, Except.map]
    | stalled => rfl
    | arrived head body =>
      dsimp only
      cases Wire.readBody request.bodyCap body with
      | error failure => rfl
      | ok body => rfl

/-- Strategies that send the same come to the same. -/
theorem conduct_relabel {strategy other : Strategy}
    (same : preflight caller request = .ok () →
      prepare network strategy request = prepare network other request) :
    (conduct network log caller strategy request redirects).relabel other =
      conduct network log caller other request redirects := by
  unfold conduct
  cases passed : preflight caller request with
  | error failure => rfl
  | ok _ =>
    dsimp only
    rw [← Outcome.attach_relabel]
    congr 1
    cases caller.cancelled with
    | true => rfl
    | false =>
      simp only [Bool.false_eq_true, ↓reduceIte]
      unfold start
      rw [same passed]
      cases prepare network other request with
      | error failure => rfl
      | ok sent =>
        unfold Outcome.relabel
        dsimp only
        rw [receive_relabel]

/-! ## What is sent -/

/-- The path with the query is a part of the text of a URL. -/
theorem utf8ByteSize_target_le (url : Url) : url.target.utf8ByteSize ≤ url.text.utf8ByteSize := by
  simp only [Url.target, Url.text, String.utf8ByteSize_append]
  omega

theorem host_of_host? {url : Url} {host : Host} (named : host? url = .ok host) :
    url.host = some host := by
  unfold host? at named
  split at named
  · cases named
  · cases named
  · rename_i found
    rw [found, Except.ok.inj named]

/-- A name or an address without colons is reached alike from a URL and from a target. -/
theorem reach_of_not_ipv6 {host : Host} (plain : ∀ address, host ≠ .ipv6 address) (port : UInt16) :
    network.reach false host port = network.reach true host port := by
  cases host with
  | ipv6 address => exact absurd rfl (plain address)
  | _ => rfl

/-- A URL that names no port stands for the one to which a pool connects then. -/
theorem getD_effectivePort? {url : Url} (scheme : url.scheme = "http") :
    url.effectivePort?.getD standardPort = url.port.getD standardPort := by
  unfold Url.effectivePort?
  rw [scheme]
  cases url.port <;> rfl

/-- Where a connection is made and the pool can write the URL, both ways send the same request. -/
theorem prepareOwn_eq_preparePooled (scheme : request.url.scheme = "http")
    (ordinary : request.method ≠ .connect)
    (plain : ∀ address, request.url.host ≠ some (.ipv6 address))
    (short : request.url.text.utf8ByteSize ≤ targetLimit)
    (writable : request.url.authorityText.any isUnwritable = false)
    (accepted : ∀ host, request.url.host = some host →
      network.reach true host (request.url.port.getD standardPort) = .accepted) :
    prepareOwn network request = preparePooled network request := by
  have port := getD_effectivePort? scheme
  have within : ¬ targetLimit < request.url.text.utf8ByteSize := Nat.not_lt.mpr short
  have within' : ¬ targetLimit < request.url.target.utf8ByteSize :=
    Nat.not_lt.mpr (Nat.le_trans (utf8ByteSize_target_le _) short)
  unfold prepareOwn preparePooled absoluteTarget
  rw [if_neg within, if_neg (Bool.eq_false_iff.mp writable), port]
  cases named : host? request.url with
  | error failure => rfl
  | ok host =>
    have here := host_of_host? named
    have plain' : ∀ address, host ≠ .ipv6 address := by
      rintro address rfl
      exact plain address here
    simp only [Except.bind, Except.map, reach_of_not_ipv6 plain', accepted host here, ownDraft,
      within', ↓reduceIte, poolDraft, ordinary]

end Exchange

/-! ## Units -/

namespace ExecutionUnit

/-- The unit that a strategy prepares for a request that follows a response. -/
def ofStrategy (strategy : Strategy) (request : Request) (previous : Option Response) :
    ExecutionUnit :=
  bind ⟨strategy, .exchange strategy⟩ request previous

theorem execute_relabel {network : Network} {log : Log} {caller : Caller} {request : Request}
    {previous : Option Response} {strategy other : Strategy}
    (same : Exchange.preflight caller request = .ok () →
      Exchange.prepare network strategy request = Exchange.prepare network other request) :
    ((ofStrategy strategy request previous).execute network log caller).relabel other =
      (ofStrategy other request previous).execute network log caller :=
  Exchange.conduct_relabel same

/-- Strategies agree. A task and the pool come to the same but for the tag of the response. So do a
connection of one's own and the pool, but for what is behind a failure, when the request asks for no
tunnel, its URL names no address with colons and can be written as a target, and a connection is
made. -/
theorem strategies_agree (network : Network) (log : Log) (caller : Caller) (request : Request)
    (previous : Option Response) :
    let outcome := fun strategy =>
      (ofStrategy strategy request previous).execute network log caller
    (outcome .task).relabel .pooled = outcome .pooled ∧
      (request.method ≠ .connect → (∀ address, request.url.host ≠ some (.ipv6 address)) →
        request.url.text.utf8ByteSize ≤ Exchange.targetLimit →
        request.url.authorityText.any Exchange.isUnwritable = false →
        (∀ host, request.url.host = some host →
          network.reach true host (request.url.port.getD Exchange.standardPort) = .accepted) →
        (outcome .blocking).Agrees (outcome .pooled)) := by
  intro outcome
  constructor
  · exact execute_relabel fun _ => rfl
  · intro ordinary plain short writable accepted
    have same : (outcome .blocking).relabel .pooled = outcome .pooled := by
      apply execute_relabel
      intro passed
      have scheme := (Exchange.preflight_eq_ok_iff.mp passed).2.2
      exact Exchange.prepareOwn_eq_preparePooled scheme ordinary plain short writable accepted
    rw [← same]
    exact (outcome .blocking).agrees_relabel .pooled

/-- A request for the root of a host, of which both ways send one. -/
theorem strategies_agree_at_root :
    let request := Request.new .get
      ⟨"http", "", none, some (.domain "a"), none, .rooted [""], none, none⟩
    let network := Network.scripted (fun _ => true) (fun _ _ => .accepted) [] (.raw [] .closed)
    let outcome := fun strategy =>
      (ofStrategy strategy request none).execute network [] .patient
    (outcome .blocking).Agrees (outcome .pooled) ∧ (outcome .pooled).sent.isSome = true := by
  dsimp only
  refine ⟨(strategies_agree _ [] .patient _ none).2 ?_ ?_ ?_ ?_ ?_, ?_⟩
  · decide
  · exact fun _ => nofun
  · cbv
  · cbv
  · rintro host ⟨⟩
    rfl
  · cbv

end ExecutionUnit

end Courier
