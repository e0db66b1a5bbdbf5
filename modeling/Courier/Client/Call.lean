import Courier.Client.Stats
import Courier.Config.Settings
import Courier.Dispatcher
import Courier.Http.Redirect

/-! # Calls of a client

A call of a client performs exchanges until one fails or its response asks for no other. Several calls
may run at once over the same dispatcher and counters, so a call is a sequence of steps, each of
which either adds to one counter or performs one exchange or looks at one response. Run by itself, a
call comes to an end, because each redirect that is followed leaves one less to follow.
-/

namespace Courier

/-- A client. -/
structure Client where
  settings : Settings
  dispatcher : Dispatcher
  stats : Stats

/-- A client that has not been used. -/
def Client.new (settings : Settings) (registry : Registry) (toggles : Toggles) : Client :=
  ⟨settings, .new registry toggles, .zero⟩

/-- A client that has not been used, unless its settings have a fault. -/
def Client.build (settings : Settings) (registry : Registry) (toggles : Toggles) :
    Except Settings.Fault Client :=
  settings.validate.map fun _ => .new settings registry toggles

/-- What the calls of a client share: the client, and the requests that have arrived. -/
structure World where
  client : Client
  log : Log

/-- What a call does when its increments are made. -/
inductive Call.Next
  /-- Performs an exchange for a request that follows a response. -/
  | dispatch (request : Request) (previous : Option Response)
  /-- Looks at whether a response asks for another exchange. -/
  | follow (response : Response)
  /-- Nothing more. -/
  | done (result : Except Failure Response)

/-- A call in progress. -/
structure Call where
  /-- Increments that are still to be made. -/
  pending : List Increment
  next : Call.Next

namespace Call

/-- The request with the name of the client, unless it has one. -/
def prepare (settings : Settings) (request : Request) : Request :=
  if request.headers.contains .userAgent then request
  else request.setHeader (Utf8.encode "user-agent") (Utf8.encode settings.userAgent)

/-- A call that has done nothing yet. -/
def begin (settings : Settings) (request : Request) : Call :=
  ⟨[.one .total], .dispatch (prepare settings request) none⟩

/-- A call that ends with a failure. -/
def failed (failure : Failure) : Call := ⟨Increment.ofFailure failure, .done (.error failure)⟩

/-- The call after an exchange. -/
def afterExchange (result : Except Failure Response) : Call :=
  match result with
  | .ok response => ⟨Increment.ofResponse response, .follow response⟩
  | .error failure => failed failure

/-- The call after a look at a response. -/
def afterResponse (response : Response) : Call :=
  match Redirect.next? response with
  | .error failure => failed failure
  | .ok none => ⟨[], .done (.ok response)⟩
  | .ok (some request) => ⟨[.one .redirects, .one .total], .dispatch request (some response)⟩

/-- What a call does when its increments are made. -/
def act (network : Network) (caller : Caller) (world : World) (next : Next) : Call × World :=
  match next with
  | .dispatch request previous =>
    let (outcome, dispatcher) :=
      world.client.dispatcher.execute network world.log caller request previous
    (afterExchange outcome.result,
      { client := { world.client with dispatcher }, log := world.log ++ outcome.sent.toList })
  | .follow response => (afterResponse response, world)
  | .done result => (⟨[], .done result⟩, world)

/-- The world after additions to the counters. -/
def record (world : World) (increments : List Increment) : World :=
  { world with client := { world.client with stats := world.client.stats.addAll increments } }

/-- One step: one addition, or what comes after the last. -/
def step (network : Network) (caller : Caller) (call : Call) (world : World) : Call × World :=
  match call.pending with
  | increment :: rest => ({ call with pending := rest }, record world [increment])
  | [] => act network caller world call.next

/-! ## Running a call by itself -/

/-- How many redirects may still be followed by a request with a policy at a place in a chain. -/
def hopsLeft (policy : RedirectPolicy) (redirects : UInt32) : Nat :=
  match policy with
  | .never => 0
  | .atMost limit => limit.toNat - redirects.toNat

/-- How much a call still has to do. -/
def Next.budget : Next → Nat
  | .dispatch request previous => 2 * hopsLeft request.policy (Response.hopIndex previous) + 2
  | .follow response => 2 * hopsLeft response.request.policy response.redirects + 1
  | .done _ => 0

theorem act_dispatch_budget {network : Network} {caller : Caller} {world : World} {request : Request}
    {previous : Option Response} :
    (act network caller world (.dispatch request previous)).1.next.budget <
      (Next.dispatch request previous).budget := by
  simp only [act, afterExchange]
  split
  · rename_i response obtained
    obtain ⟨asked, hop⟩ := Dispatcher.execute_ok obtained
    simp [Next.budget, asked, hop]
  · simp [Next.budget, failed]

theorem afterResponse_budget (response : Response) :
    (afterResponse response).next.budget < (Next.follow response).budget := by
  simp only [afterResponse]
  split
  · simp [Next.budget, failed]
  · simp [Next.budget]
  · rename_i request follows
    obtain ⟨limit, policy, below, kept⟩ := Redirect.next?_some follows
    have next : (Response.hopIndex (some response)).toNat = response.redirects.toNat + 1 :=
      Response.hopIndex_some_of_lt below
    have below' : response.redirects.toNat < limit.toNat := below
    simp only [Next.budget, hopsLeft, kept, policy, next]
    omega

/-- How many steps a call may still make. -/
def remaining (call : Call) : Nat := 4 * call.next.budget + call.pending.length

theorem failed_pending (failure : Failure) : (failed failure).pending.length ≤ 3 := by
  simp only [failed, Increment.ofFailure, List.length_cons]
  split
  · simp
  · split <;> simp

theorem act_pending (network : Network) (caller : Caller) (world : World) (next : Next) :
    (act network caller world next).1.pending.length ≤ 3 := by
  cases next with
  | dispatch request previous =>
    simp only [act, afterExchange]
    split
    · simp [Increment.ofResponse]
    · exact failed_pending _
  | follow response =>
    simp only [act, afterResponse]
    split
    · exact failed_pending _
    · simp
    · simp
  | done result => simp [act]

/-- A step of a call that has not ended leaves less to do. -/
theorem step_remaining {network : Network} {caller : Caller} {call : Call} {world : World}
    (unended : ∀ result, call ≠ ⟨[], .done result⟩) :
    (step network caller call world).1.remaining < call.remaining := by
  obtain ⟨pending, next⟩ := call
  cases pending with
  | cons increment rest => simp [step, remaining]
  | nil =>
    have few := act_pending network caller world next
    have less : (act network caller world next).1.next.budget < next.budget := by
      cases next with
      | dispatch request previous => exact act_dispatch_budget
      | follow response => exact afterResponse_budget response
      | done result => exact absurd rfl (unended result)
    simp only [step, remaining, List.length_nil]
    omega

/-- Runs a call to its end. -/
def run (network : Network) (caller : Caller) (call : Call) (world : World) :
    Except Failure Response × World :=
  let world := record world call.pending
  match _shape : call.next with
  | .done result => (result, world)
  | .dispatch request previous =>
    let after := act network caller world (.dispatch request previous)
    run network caller after.1 after.2
  | .follow response => run network caller (afterResponse response) world
termination_by call.next.budget
decreasing_by
  · rw [_shape]
    exact act_dispatch_budget
  · rw [_shape]
    exact afterResponse_budget response

end Call

/-- Performs the exchanges that a request leads to. -/
def Client.execute (network : Network) (caller : Caller) (world : World) (request : Request) :
    Except Failure Response × World :=
  (Call.begin world.client.settings request).run network caller world

end Courier
