import Courier.Proofs.Accounts
import Courier.Proofs.Approaches
import Courier.Proofs.Endings
import Courier.Proofs.StrategyAgreement

/-! # What an exchange asks of the network

Whatever an exchange comes to, it may have asked the network twice at most: how an attempt to connect
ends, and what comes back for a request. Written as a tree of these questions, an exchange shows them
all, for whatever network answers. Main statement: what is refused, and what a caller has given up,
asks nothing at all; every other exchange makes one attempt and sends one request at most, and none
where the attempt fails; and a call sends no request after an exchange that fails.
-/

namespace Courier

/-! ## Dialogues -/

/-- A course of questions to a network, each with what is done about every answer to it. -/
inductive Dialogue
  | done (result : Except Failure Response)
  | connect (byName : Bool) (host : Host) (port : UInt16) (next : Connecting → Dialogue)
  | send (sent : WireRequest) (next : Reply → Dialogue)

/-- A question to a network, and its answer. -/
inductive Contact
  | attempt (byName : Bool) (host : Host) (port : UInt16) (ended : Connecting)
  | request (sent : WireRequest) (reply : Reply)

/-- The request that arrives by a contact, if one does. -/
def Contact.sent? : Contact → Option WireRequest
  | .attempt _ _ _ _ => none
  | .request sent _ => some sent

/-- What a dialogue with a network comes to after the requests of a log, and its contacts. -/
def Dialogue.hold (network : Network) (log : Log) : Dialogue → Except Failure Response × List Contact
  | .done result => (result, [])
  | .connect byName host port next =>
    let ended := network.reach byName host port
    let (result, later) := (next ended).hold network log
    (result, .attempt byName host port ended :: later)
  | .send sent next =>
    let reply := network.reply log sent
    let (result, later) := (next reply).hold network (log ++ [sent])
    (result, .request sent reply :: later)

/-- No contact, one attempt to connect, or one attempt that is accepted and then one request. -/
inductive Contact.Sparing : List Contact → Prop
  | silent : Sparing []
  | attempt (byName : Bool) (host : Host) (port : UInt16) (ended : Connecting) :
      Sparing [.attempt byName host port ended]
  | request (byName : Bool) (host : Host) (port : UInt16) (sent : WireRequest) (reply : Reply) :
      Sparing [.attempt byName host port .accepted, .request sent reply]

/-! ## The dialogue of an exchange -/

namespace Exchange

/-- The dialogue of an exchange. -/
def dialogue (caller : Caller) (strategy : Strategy) (request : Request) (redirects : UInt32) :
    Dialogue :=
  let conclude := fun (result : Except Failure Response) =>
    Dialogue.done (Failure.attachTo request.url result)
  match preflight caller request with
  | .error failure => .done (.error failure)
  | .ok () =>
    if caller.cancelled then conclude (.error .cancelled)
    else
      match approach strategy request with
      | .error failure => conclude (.error failure)
      | .ok approach =>
        .connect approach.byName approach.host approach.port fun ended =>
          match approach.ready ended with
          | .error failure => conclude (.error failure)
          | .ok sent => .send sent fun reply =>
            conclude (receive strategy request redirects (reply.answer request.method))

variable {network : Network} {log : Log} {caller : Caller} {strategy : Strategy}
  {request : Request} {redirects : UInt32}

/-- An exchange is its dialogue: it comes to the same, and what it sends is sent there. -/
theorem conduct_eq_hold (network : Network) (log : Log) (caller : Caller) (strategy : Strategy)
    (request : Request) (redirects : UInt32) :
    let outcome := conduct network log caller strategy request redirects
    let held := (dialogue caller strategy request redirects).hold network log
    outcome.result = held.1 ∧ outcome.sent.toList = held.2.filterMap Contact.sent? := by
  dsimp only
  unfold dialogue conduct
  cases preflight caller request with
  | error failure => exact ⟨rfl, rfl⟩
  | ok _ =>
    dsimp only
    rw [attach_eq]
    cases caller.cancelled with
    | true => exact ⟨rfl, rfl⟩
    | false =>
      simp only [Bool.false_eq_true, ↓reduceIte]
      unfold start
      rw [prepare_eq]
      cases approach strategy request with
      | error failure => exact ⟨rfl, rfl⟩
      | ok approach =>
        dsimp only [Except.bind, Dialogue.hold]
        cases approach.ready (network.reach approach.byName approach.host approach.port) with
        | error failure => exact ⟨rfl, rfl⟩
        | ok sent => exact ⟨rfl, rfl⟩

/-- An exchange asks no more than whether it has a connection and what comes back over it. -/
theorem sparing_hold (network : Network) (log : Log) (caller : Caller) (strategy : Strategy)
    (request : Request) (redirects : UInt32) :
    Contact.Sparing ((dialogue caller strategy request redirects).hold network log).2 := by
  unfold dialogue
  cases preflight caller request with
  | error failure => exact .silent
  | ok _ =>
    dsimp only
    split
    · exact .silent
    · cases begun : approach strategy request with
      | error failure => exact .silent
      | ok approach =>
        dsimp only [Dialogue.hold]
        cases readied : approach.ready
          (network.reach approach.byName approach.host approach.port) with
        | error failure => exact .attempt ..
        | ok sent =>
          rw [ready_eq_ok begun readied]
          exact .request ..

theorem dialogue_of_preflight_eq_error {failure : Failure}
    (refused : preflight caller request = .error failure) :
    dialogue caller strategy request redirects = .done (.error failure) := by
  unfold dialogue
  rw [refused]

theorem dialogue_of_cancelled (passed : preflight caller request = .ok ())
    (given : caller.cancelled = true) :
    dialogue caller strategy request redirects =
      .done (.error (Failure.cancelled.withUrl request.url)) := by
  unfold dialogue
  rw [passed]
  dsimp only
  rw [if_pos given]
  rfl

end Exchange

/-! ## After an exchange that fails -/

/-- A member of a list with one more is a member of the list, or the one more at the end. -/
theorem Hop.mem_or_eq_last {before : List Hop} {last hop : Hop} {place : Nat}
    (here : (before ++ [last])[place]? = some hop) :
    hop ∈ before ∨ (place = before.length ∧ hop = last) := by
  rcases Nat.lt_or_ge place before.length with earlier | later
  · rw [List.getElem?_append_left earlier] at here
    exact .inl (List.mem_of_getElem? here)
  · rw [List.getElem?_append_right later, List.getElem?_singleton] at here
    split at here
    · rename_i none
      exact .inr ⟨by omega, (Option.some.inj here).symm⟩
    · cases here

namespace Thread

/-- Of the exchanges of a call only the last can have failed, and then the call does nothing more but
record it. -/
theorem Books.eq_last {exchanges : List Hop} {next : Call.Next} {increments : List Increment}
    (books : Books exchanges next increments) {place : Nat} {hop : Hop}
    (here : exchanges[place]? = some hop) {failure : Failure}
    (fails : hop.outcome.result = .error failure) :
    place + 1 = exchanges.length ∧ ∃ result, next = .done result := by
  have unanswered {before : List Hop} (answered : ∀ hop ∈ before, hop.response?.isSome = true) :
      hop ∉ before := by
    intro member
    have obtained := answered hop member
    simp [Hop.response?, fails, Except.toOption] at obtained
  cases books with
  | dispatch _ _ _ answered => exact absurd (List.mem_of_getElem? here) (unanswered answered)
  | follow before last response answered obtained =>
    rcases Hop.mem_or_eq_last here with member | ⟨-, rfl⟩
    · exact absurd member (unanswered answered)
    · rw [fails] at obtained
      cases obtained
  | done before last result answered _ =>
    rcases Hop.mem_or_eq_last here with member | ⟨rfl, -⟩
    · exact absurd member (unanswered answered)
    · exact ⟨by rw [List.length_append, List.length_singleton], result, rfl⟩

/-- A call performs no exchange when it is about to return. -/
theorem step_of_done {thread : Thread} {result : Except Failure Response}
    (done : thread.call.next = .done result) (network : Network) (world : World) :
    (thread.step network world).1.call.next = .done result ∧
      (thread.step network world).1.exchanges = thread.exchanges := by
  obtain ⟨caller, ⟨pending, next⟩, selecting, exchanges, made⟩ := thread
  obtain rfl : next = .done result := done
  cases pending with
  | cons increment rest => exact ⟨rfl, rfl⟩
  | nil => exact ⟨rfl, rfl⟩

end Thread

namespace Crowd

variable {network : Network}

/-- After an event a thread is as it was, or has made a step, or its caller has given up. -/
theorem exists_getElem?_apply (network : Network) (event : Event) {crowd : Crowd} {place : Nat}
    {thread : Thread} (found : crowd.threads[place]? = some thread) :
    ∃ later, (crowd.apply network event).threads[place]? = some later ∧
      (later = thread ∨ later = (thread.step network crowd.world).1 ∨ later = thread.giveUp) := by
  rcases apply_cases network event crowd with
    ⟨-, caller, request, threads⟩ | ⟨other, old, new, found', threads, changed⟩ | ⟨threads, -⟩
  · obtain ⟨bound, -⟩ := List.getElem?_eq_some_iff.mp found
    exact ⟨thread, by rw [threads, List.getElem?_append_left bound, found], .inl rfl⟩
  · by_cases here : other = place
    · subst here
      obtain ⟨bound, -⟩ := List.getElem?_eq_some_iff.mp found
      obtain rfl : old = thread := Option.some.inj (found'.symm.trans found)
      refine ⟨new, by rw [threads, List.getElem?_set_self bound], .inr ?_⟩
      exact changed.imp And.left And.left
    · exact ⟨thread, by rw [threads, List.getElem?_set_ne here, found], .inl rfl⟩
  · exact ⟨thread, by rw [threads, found], .inl rfl⟩

/-- A call that is about to return performs no exchange, whatever else happens. -/
theorem exchanges_of_done (events : List Event) {crowd : Crowd} {place : Nat} {thread : Thread}
    (found : crowd.threads[place]? = some thread) {result : Except Failure Response}
    (done : thread.call.next = .done result) :
    ∃ later, (crowd.run network events).threads[place]? = some later ∧
      later.exchanges = thread.exchanges := by
  induction events generalizing crowd thread with
  | nil => exact ⟨thread, found, rfl⟩
  | cons event rest ih =>
    obtain ⟨later, found', changed⟩ := exists_getElem?_apply network event found
    have kept : later.call.next = .done result ∧ later.exchanges = thread.exchanges := by
      rcases changed with rfl | rfl | rfl
      · exact ⟨done, rfl⟩
      · exact Thread.step_of_done done network crowd.world
      · exact ⟨done, rfl⟩
    obtain ⟨last, found'', same⟩ := ih found' kept.1
    exact ⟨last, found'', same.trans kept.2⟩

end Crowd

/-- An exchange asks the network as little as it can. What is refused, for the first fault of a
setter, else for a caller that may not wait, else for the scheme, asks nothing, and neither does an
exchange that its caller has given up; any other makes one attempt to connect at most, and sends one
request at most, over a connection that was accepted. In a call, however its steps fall among those
of others, an exchange that fails is the last. -/
theorem ExecutionUnit.contacts_limited (network : Network) :
    (∀ (log : Log) (caller : Caller) (strategy : Strategy) (request : Request)
        (previous : Option Response),
      let outcome := (ofStrategy strategy request previous).execute network log caller
      let dialogue := Exchange.dialogue caller strategy request (Response.hopIndex previous)
      let held := dialogue.hold network log
      outcome.result = held.1 ∧ outcome.sent.toList = held.2.filterMap Contact.sent? ∧
      Contact.Sparing held.2 ∧
      (∀ message, request.deferred = some message →
        dialogue = .done (.error (Exchange.refusal request.url (.text message)))) ∧
      (request.deferred = none → caller.inAsync = true →
        dialogue = .done (.error (Exchange.refusal request.url .blockingInAsyncContext))) ∧
      (request.deferred = none → caller.inAsync = false → request.url.scheme ≠ "http" →
        dialogue = .done (.error
          (Exchange.refusal request.url (.unsupportedScheme request.url.scheme)))) ∧
      (request.deferred = none → caller.inAsync = false → request.url.scheme = "http" →
        caller.cancelled = true →
        dialogue = .done (.error (Failure.cancelled.withUrl request.url)))) ∧
    (∀ (settings : Settings) (registry : Registry) (toggles : Toggles) (log : Log)
        (events later : List Crowd.Event) (thread : Thread) (number place : Nat) (hop : Hop)
        (failure : Failure),
      let crowd := (Crowd.start settings registry toggles log).run network events
      crowd.threads[number]? = some thread → thread.exchanges[place]? = some hop →
      hop.outcome.result = .error failure →
      place + 1 = thread.exchanges.length ∧
        ∃ thread', (crowd.run network later).threads[number]? = some thread' ∧
          thread'.exchanges = thread.exchanges) := by
  constructor
  · intro log caller strategy request previous outcome dialogue held
    obtain ⟨result, sent⟩ :=
      Exchange.conduct_eq_hold network log caller strategy request (Response.hopIndex previous)
    refine ⟨result, sent, Exchange.sparing_hold .., ?_, ?_, ?_, ?_⟩
    · intro message noted
      exact Exchange.dialogue_of_preflight_eq_error
        (Exchange.preflight_eq_error_iff.mpr (.inl ⟨message, noted, rfl⟩))
    · intro fine inAsync
      exact Exchange.dialogue_of_preflight_eq_error
        (Exchange.preflight_eq_error_iff.mpr (.inr (.inl ⟨fine, inAsync, rfl⟩)))
    · intro fine waits unspoken
      exact Exchange.dialogue_of_preflight_eq_error
        (Exchange.preflight_eq_error_iff.mpr (.inr (.inr ⟨fine, waits, unspoken, rfl⟩)))
    · intro fine waits spoken given
      exact Exchange.dialogue_of_cancelled
        (Exchange.preflight_eq_ok_iff.mpr ⟨fine, waits, spoken⟩) given
  · intro settings registry toggles log events later thread number place hop failure crowd found
      here fails
    have booked := Crowd.booked_run network settings registry toggles log events thread
      (List.mem_of_getElem? found)
    obtain ⟨last, result, done⟩ := Thread.Books.eq_last booked here fails
    exact ⟨last, Crowd.exchanges_of_done later found done⟩

/-! ### An answer that breaks off -/

/-- What the exchanges of a call have sent, and whether they were answered. -/
def Thread.course (thread : Thread) : List (Bool × Bool) :=
  thread.exchanges.map fun hop => (hop.outcome.sent.isSome, hop.response?.isSome)

/-- Of two calls by turns only one is answered. The other has sent its request as well, and sends no
more. Of what keeps an exchange from the network, the first is reported. -/
theorem ExecutionUnit.contacts_limited_byTurns :
    let faulty := { Selecting.rootRequest with deferred := some "fault" }
    let secure := Request.new .get { Selecting.rootRequest.url with scheme := "https" }
    ((Crowd.start .standard .probe .off []).run Crowd.answeringOnce
        (Crowd.byTurns ++ [.step 1, .step 1])).threads[1]?.map Thread.course =
      some [(true, false)] ∧
    Exchange.dialogue ⟨true, true⟩ .pooled faulty (Response.hopIndex none) =
      .done (.error (Exchange.refusal faulty.url (.text "fault"))) ∧
    Exchange.dialogue ⟨true, true⟩ .pooled secure (Response.hopIndex none) =
      .done (.error (Exchange.refusal secure.url .blockingInAsyncContext)) ∧
    Exchange.dialogue ⟨false, true⟩ .pooled secure (Response.hopIndex none) =
      .done (.error (Exchange.refusal secure.url (.unsupportedScheme "https"))) ∧
    Exchange.dialogue ⟨false, true⟩ .pooled Selecting.rootRequest (Response.hopIndex none) =
      .done (.error (Failure.cancelled.withUrl Selecting.rootRequest.url)) := by
  intro faulty secure
  obtain ⟨exchange, call⟩ := contacts_limited Crowd.answeringOnce
  refine ⟨?_, ?_, ?_, ?_, ?_⟩
  · have course : ((Crowd.start .standard .probe .off []).run Crowd.answeringOnce
        Crowd.byTurns).threads[1]?.map Thread.course = some [(true, false)] := by
      cbv
    obtain ⟨thread, found, exchanged⟩ := Option.map_eq_some_iff.mp course
    obtain ⟨hop, alone, sent⟩ := List.map_eq_singleton_iff.mp exchanged
    obtain ⟨failure, fails⟩ : ∃ failure, hop.outcome.result = .error failure := by
      cases result : hop.outcome.result with
      | error failure => exact ⟨failure, rfl⟩
      | ok response => simp [Hop.response?, result, Except.toOption] at sent
    have first : thread.exchanges[0]? = some hop := by rw [alone]; rfl
    obtain ⟨-, thread', found', same⟩ := call .standard .probe .off [] Crowd.byTurns
      [.step 1, .step 1] thread 1 0 hop failure found first fails
    rw [Crowd.run_append, found', Option.map_some, Thread.course, same]
    exact congrArg some exchanged
  · exact (exchange [] ⟨true, true⟩ .pooled faulty none).2.2.2.1 "fault" rfl
  · exact (exchange [] ⟨true, true⟩ .pooled secure none).2.2.2.2.1 rfl rfl
  · exact (exchange [] ⟨false, true⟩ .pooled secure none).2.2.2.2.2.1 rfl rfl (by decide)
  · exact (exchange [] ⟨false, true⟩ .pooled Selecting.rootRequest none).2.2.2.2.2.2 rfl rfl rfl rfl

end Courier
