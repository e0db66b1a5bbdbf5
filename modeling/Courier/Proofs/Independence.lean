import Mathlib
import Courier.Proofs.Crowd
import Courier.Proofs.RedirectLimit

/-! # Calls that do not mix

All that calls share are the counters, the counts of calls of the factories, and what has arrived at
the network. A thread adds to these, but what it does next depends on none of them, as long as
neither the network nor a factory remembers what it was asked before. So a call among others makes
the steps that it makes by itself, and returns what it returns by itself.
-/

namespace Courier

/-- What comes back for a request does not depend on those that have arrived before. -/
def Network.Forgetful (network : Network) : Prop :=
  ∀ first second sent, network.reply first sent = network.reply second sent

/-- What a factory makes does not depend on how often it was called before. -/
def Factory.Forgetful (factory : Factory) : Prop :=
  ∀ first second request previous,
    factory.construct first request previous = factory.construct second request previous

/-- Every factory of a registry is forgetful. -/
def Registry.Forgetful (registry : Registry) : Prop :=
  ∀ strategy factory, registry.factory? strategy = some factory → factory.Forgetful

/-- What this library is able to do by itself does not depend on how often it was done. -/
theorem Registry.forgetful_probe : Registry.probe.Forgetful := by
  intro strategy factory found first second request previous
  cases strategy with
  | blocking => cases found
  | pooled =>
    cases found
    rfl
  | task =>
    cases found
    rfl

/-! ## What an exchange depends on -/

theorem Exchange.conduct_congr {network : Network} (forgetful : network.Forgetful)
    (first second : Log) (caller : Caller) (strategy : Strategy) (request : Request)
    (redirects : UInt32) :
    conduct network first caller strategy request redirects =
      conduct network second caller strategy request redirects := by
  have started : start network first strategy request redirects =
      start network second strategy request redirects := by
    unfold start
    cases prepare network strategy request with
    | error failure => rfl
    | ok sent =>
      dsimp only
      rw [forgetful first second sent]
  unfold conduct
  rw [started]

theorem ExecutionUnit.execute_congr {network : Network} (forgetful : network.Forgetful)
    (unit : ExecutionUnit) (first second : Log) (caller : Caller) :
    unit.execute network first caller = unit.execute network second caller := by
  unfold execute
  cases unit.conduct with
  | exchange strategy => exact Exchange.conduct_congr forgetful ..
  | fail failure => rfl

/-- A response is what a strategy reads from the reply to a request that arrives, and this is what
the strategy makes of the request that the response refers to. -/
def Response.Answers (response : Response) (network : Network) : Prop :=
  ∃ strategy log sent, Exchange.prepare network strategy response.request = .ok sent ∧
    Exchange.receive strategy response.request response.redirects
      ((network.reply log sent).answer response.request.method) = .ok response

theorem Exchange.answers_of_start {network : Network} {log : Log} {strategy : Strategy}
    {request : Request} {redirects : UInt32} {response : Response}
    (started : (start network log strategy request redirects).result = .ok response) :
    response.Answers network := by
  unfold start at started
  cases prepared : prepare network strategy request with
  | error failure =>
    rw [prepared] at started
    cases started
  | ok sent =>
    rw [prepared] at started
    obtain ⟨rfl, rfl⟩ := receive_ok started
    exact ⟨strategy, log, sent, prepared, started⟩

theorem ExecutionUnit.answers_of_execute {network : Network} {log : Log} {caller : Caller}
    {unit : ExecutionUnit} {response : Response}
    (executed : (unit.execute network log caller).result = .ok response) :
    response.Answers network := by
  unfold execute at executed
  split at executed
  · unfold Exchange.conduct at executed
    split at executed
    · cases executed
    · have reached := Exchange.Outcome.attach_ok executed
      split at reached
      · cases reached
      · exact Exchange.answers_of_start reached
  · cases executed

/-- Every exchange of a call is performed over its network and for its caller. -/
theorem Call.exists_execute {network : Network} {caller : Caller} (pending : List Increment)
    (request : Request) (previous : Option Response) (world : World) :
    ∀ hop ∈ hops network caller ⟨pending, .dispatch request previous⟩ world,
      ∃ log, hop.outcome = hop.unit.execute network log caller := by
  induction pending, request, previous, world
    using dispatch_induction network caller with
  | step pending request previous world ih =>
    rw [hops_dispatch, List.forall_mem_cons]
    refine ⟨⟨_, rfl⟩, ?_⟩
    cases follows : (hop network caller (record world pending) request previous).next? with
    | none => simp
    | some asked => exact ih asked.1 asked.2 follows

namespace Selecting

variable {request : Request} {previous : Option Response}

/-- A step of a selection depends on the registry and on the switches. -/
theorem step_congr {selecting : Selecting} {dispatcher other : Dispatcher}
    (sameRegistry : dispatcher.registry = other.registry)
    (sameToggles : dispatcher.toggles = other.toggles)
    (registered : dispatcher.registry.Forgetful)
    (backed : selecting.Backed dispatcher.registry) :
    (selecting.step request previous dispatcher).1 =
      (selecting.step request previous other).1 := by
  cases selecting with
  | selected unit => rfl
  | looking tiers =>
    cases tiers with
    | nil => rfl
    | cons tier rest =>
      cases found : if dispatcher.toggles.prefers tier then dispatcher.registry.factory? tier
          else none with
      | none => simp only [step, ← sameRegistry, ← sameToggles, found]
      | some factory => simp only [step, ← sameRegistry, ← sameToggles, found]
  | constructing tier factory rest =>
    have same := registered tier factory backed (dispatcher.tallies.of tier)
      (other.tallies.of tier) request previous
    cases made : factory.construct (dispatcher.tallies.of tier) request previous with
    | ok plan => simp only [step, ← same, made]
    | error failure => simp only [step, ← same, made]

end Selecting

/-- Two worlds in which a call makes the same steps. -/
structure World.Alike (world other : World) : Prop where
  settings : world.client.settings = other.client.settings
  registry : world.client.dispatcher.registry = other.client.dispatcher.registry
  toggles : world.client.dispatcher.toggles = other.client.dispatcher.toggles

theorem World.Alike.trans {first second third : World} (earlier : first.Alike second)
    (later : second.Alike third) : first.Alike third :=
  ⟨earlier.settings.trans later.settings, earlier.registry.trans later.registry,
    earlier.toggles.trans later.toggles⟩

/-! ## A thread in a world -/

namespace Thread

variable {network : Network}

/-- The thread after a step in a world. -/
def stepIn (network : Network) (world : World) (thread : Thread) : Thread :=
  (thread.step network world).1

/-- A thread leaves alone what calls depend on. -/
theorem alike_step (network : Network) (thread : Thread) (world : World) :
    (thread.step network world).2.Alike world := by
  unfold step
  split
  · exact ⟨rfl, rfl, rfl⟩
  · split
    · exact ⟨rfl, rfl, rfl⟩
    · exact ⟨rfl, Selecting.registry_step .., Selecting.toggles_step ..⟩
  · exact ⟨rfl, rfl, rfl⟩
  · exact ⟨rfl, rfl, rfl⟩

theorem backed_step (network : Network) {thread : Thread} {world : World}
    (backed : thread.selecting.Backed world.client.dispatcher.registry) :
    (thread.stepIn network world).selecting.Backed world.client.dispatcher.registry := by
  unfold stepIn step
  split
  · exact backed
  · split
    · trivial
    · exact Selecting.backed_step ..
  · exact backed
  · exact backed

/-- A thread makes the same step in worlds that are alike. -/
theorem step_congr (forgetful : network.Forgetful) {thread : Thread} {world other : World}
    (alike : world.Alike other) (registered : other.client.dispatcher.registry.Forgetful)
    (backed : thread.selecting.Backed other.client.dispatcher.registry) :
    (thread.step network world).1 = thread.stepIn network other := by
  obtain ⟨caller, ⟨pending, next⟩, selecting, exchanges, made⟩ := thread
  cases pending with
  | cons increment rest => rfl
  | nil =>
    cases next with
    | follow response => rfl
    | done result => rfl
    | dispatch request previous =>
      have same := @Selecting.step_congr request previous selecting _ _ alike.registry
        alike.toggles (alike.registry ▸ registered) (alike.registry ▸ backed)
      cases selecting with
      | selected unit =>
        have executed := unit.execute_congr forgetful world.log other.log caller
        simp only [stepIn, step, executed]
      | looking tiers => simp only [stepIn, step, same]
      | constructing tier factory rest => simp only [stepIn, step, same]

/-- A thread that is left alone in a world makes the steps that it makes in one like it. -/
theorem iterate_advance (forgetful : network.Forgetful) {thread : Thread} {world other : World}
    (alike : world.Alike other) (registered : other.client.dispatcher.registry.Forgetful)
    (backed : thread.selecting.Backed other.client.dispatcher.registry) (steps : Nat) :
    ((advance network)^[steps] (thread, world)).1 = (stepIn network other)^[steps] thread := by
  induction steps generalizing thread world with
  | zero => rfl
  | succ steps ih =>
    have stepped := step_congr forgetful alike registered backed
    rw [Function.iterate_succ_apply, Function.iterate_succ_apply, ← stepped]
    have backed' := backed_step network backed
    rw [← stepped] at backed'
    exact ih ((alike_step network thread world).trans alike) backed'

theorem exchanges_stepIn (network : Network) (world : World) (thread : Thread) :
    thread.exchanges <+: (thread.stepIn network world).exchanges := by
  unfold stepIn step
  split
  · exact List.prefix_rfl
  · split
    · exact List.prefix_append ..
    · exact List.prefix_rfl
  · exact List.prefix_rfl
  · exact List.prefix_rfl

/-- What a thread has performed stays performed. -/
theorem exchanges_iterate (network : Network) (world : World) (thread : Thread) (steps : Nat) :
    thread.exchanges <+: ((stepIn network world)^[steps] thread).exchanges := by
  induction steps with
  | zero => exact List.prefix_rfl
  | succ steps ih =>
    rw [Function.iterate_succ_apply']
    exact ih.trans (exchanges_stepIn ..)

/-- A thread that has returned makes no more steps. -/
theorem stepIn_returned {world : World} {thread : Thread} {result : Except Failure Response}
    (returned : thread.result? = some result) : thread.stepIn network world = thread := by
  obtain ⟨caller, ⟨pending, next⟩, selecting, exchanges, made⟩ := thread
  cases pending with
  | cons increment rest => cases returned
  | nil =>
    cases next with
    | done result => rfl
    | dispatch request previous => cases returned
    | follow response => cases returned

/-- Once a thread has returned it stays as it is, and until then it is on the way there. -/
theorem iterate_of_ends {world : World} {thread final : Thread} {enough : Nat}
    {result : Except Failure Response}
    (ends : (stepIn network world)^[enough] thread = final) (returned : final.result? = some result)
    (steps : Nat) :
    let now := (stepIn network world)^[steps] thread
    now.exchanges <+: final.exchanges ∧
      (∀ other, now.result? = some other → now = final) ∧ (enough ≤ steps → now = final) := by
  intro now
  have late (reached : enough ≤ steps) : now = final := by
    have more : (stepIn network world)^[steps - enough] final = now := by
      rw [← ends, ← Function.iterate_add_apply, Nat.sub_add_cancel reached]
    rw [← more]
    exact Function.iterate_fixed (stepIn_returned returned) _
  rcases Nat.le_total enough steps with reached | before
  · have same := late reached
    exact ⟨same ▸ List.prefix_rfl, fun _ _ => same, late⟩
  · have more : (stepIn network world)^[enough - steps] now = final := by
      rw [← ends, ← Function.iterate_add_apply, Nat.sub_add_cancel before]
    refine ⟨?_, ?_, late⟩
    · rw [← more]
      exact exchanges_iterate ..
    · intro other returned'
      rw [← more]
      exact (Function.iterate_fixed (stepIn_returned returned') _).symm

/-- A thread comes to what the client makes of its call by itself. -/
theorem exists_ends (forgetful : network.Forgetful) (caller : Caller) (world : World)
    (request : Request) (registered : world.client.dispatcher.registry.Forgetful) :
    ∃ enough made, (stepIn network world)^[enough] (.begin world.client.settings caller request) =
      ⟨caller, ⟨[], .done (Client.execute network caller world request).1⟩, .begin,
        Client.hops network caller world request, made⟩ := by
  obtain ⟨enough, made, final⟩ := exists_steps_execute network caller world request
  have same := @iterate_advance network forgetful (.begin world.client.settings caller request)
    world world ⟨rfl, rfl, rfl⟩ registered trivial enough
  exact ⟨enough, made, same.symm.trans (congrArg Prod.fst final)⟩

end Thread

/-! ## A thread among others -/

namespace Crowd

namespace Event

/-- Someone sets a switch. -/
def isSet : Event → Bool
  | .set _ _ => true
  | _ => false

/-- The thread at a place makes a step. -/
def isStepOf (place : Nat) : Event → Bool
  | .step other => other = place
  | _ => false

/-- The caller of the thread at a place gives up. -/
def isGiveUpOf (place : Nat) : Event → Bool
  | .giveUp other => other = place
  | _ => false

end Event

variable {network : Network}

/-- As long as no switch is set, the world stays as it is for calls. -/
theorem alike_apply (network : Network) {event : Event} (crowd : Crowd)
    (unset : event.isSet = false) : (crowd.apply network event).world.Alike crowd.world := by
  cases event with
  | call caller request => exact ⟨rfl, rfl, rfl⟩
  | set strategy enabled => cases unset
  | step place =>
    simp only [apply]
    split
    · exact ⟨rfl, rfl, rfl⟩
    · exact Thread.alike_step ..
  | giveUp place =>
    simp only [apply]
    split <;> exact ⟨rfl, rfl, rfl⟩

theorem alike_run (network : Network) {events : List Event} (crowd : Crowd)
    (unset : ∀ event ∈ events, event.isSet = false) :
    (crowd.run network events).world.Alike crowd.world := by
  induction events generalizing crowd with
  | nil => exact ⟨rfl, rfl, rfl⟩
  | cons event rest ih =>
    obtain ⟨now, later⟩ := List.forall_mem_cons.mp unset
    exact (ih (crowd.apply network event) later).trans (alike_apply network crowd now)

/-- Only the steps of a thread change it, unless its caller gives up. -/
theorem getElem?_apply (network : Network) {event : Event} {crowd : Crowd} {place : Nat}
    {thread : Thread} (found : crowd.threads[place]? = some thread)
    (kept : event.isGiveUpOf place = false) :
    (crowd.apply network event).threads[place]? =
      some (if event.isStepOf place then (thread.step network crowd.world).1 else thread) := by
  obtain ⟨bound, -⟩ := List.getElem?_eq_some_iff.mp found
  cases event with
  | call caller request =>
    exact (List.getElem?_append_left bound).trans found
  | set strategy enabled => exact found
  | giveUp other =>
    have elsewhere : other ≠ place := of_decide_eq_false kept
    simp only [apply]
    split
    · exact found
    · exact (List.getElem?_set_ne elsewhere).trans found
  | step other =>
    simp only [apply]
    by_cases here : other = place
    · subst here
      rw [found]
      simp [Event.isStepOf, bound]
    · have unmoved : (Event.step other).isStepOf place = false := by simp [Event.isStepOf, here]
      rw [unmoved]
      split
      · exact found
      · exact (List.getElem?_set_ne here).trans found

/-- What a thread comes to among others is what its own steps come to in one world. -/
theorem getElem?_run (forgetful : network.Forgetful) {world : World}
    (registered : world.client.dispatcher.registry.Forgetful) {events : List Event} {crowd : Crowd}
    {place : Nat} {thread : Thread} (found : crowd.threads[place]? = some thread)
    (alike : crowd.world.Alike world)
    (backed : thread.selecting.Backed world.client.dispatcher.registry)
    (unset : ∀ event ∈ events, event.isSet = false)
    (kept : ∀ event ∈ events, event.isGiveUpOf place = false) :
    (crowd.run network events).threads[place]? =
      some ((Thread.stepIn network world)^[events.countP (·.isStepOf place)] thread) := by
  induction events generalizing crowd thread with
  | nil => exact found
  | cons event rest ih =>
    obtain ⟨now, later⟩ := List.forall_mem_cons.mp unset
    obtain ⟨notNow, notLater⟩ := List.forall_mem_cons.mp kept
    have next := getElem?_apply network found notNow
    have alike' := (alike_apply network crowd now).trans alike
    have stepped := Thread.step_congr forgetful alike registered backed
    rw [List.countP_cons]
    cases own : event.isStepOf place with
    | false =>
      rw [own] at next
      exact ih next alike' backed later notLater
    | true =>
      rw [own, if_pos rfl, stepped] at next
      rw [if_pos rfl, Function.iterate_succ_apply]
      exact ih next alike' (Thread.backed_step network backed) later notLater

/-- A call among others returns what it returns by itself, however the steps of all of them are
interleaved, as long as no switch is set and its caller does not give up. At every moment it has
performed the first of the exchanges that it performs by itself; it returns when it has made enough
steps of its own, however many the others have made. These exchanges are made for its own request
and for what redirection makes of that; a response that is returned refers to the request of the
last of them, counts them, and is read from the reply to that request. -/
theorem calls_independent (network : Network) (crowd : Crowd) (caller : Caller) (request : Request)
    (forgetful : network.Forgetful)
    (registered : crowd.world.client.dispatcher.registry.Forgetful) :
    let alone := (Client.execute network caller crowd.world request).1
    let hops := Client.hops network caller crowd.world request
    (∃ enough, ∀ before after, (∀ event ∈ before ++ after, event.isSet = false) →
      let place := (crowd.run network before).threads.length
      (∀ event ∈ after, event.isGiveUpOf place = false) →
      ∃ thread, (crowd.run network (before ++ .call caller request :: after)).threads[place]? =
          some thread ∧
        thread.exchanges <+: hops ∧
        (∀ result, thread.result? = some result → result = alone ∧ thread.exchanges = hops) ∧
        (enough ≤ after.countP (·.isStepOf place) → thread.result? = some alone)) ∧
    Hop.Linked hops ∧
    (∀ first, hops[0]? = some first →
      first.request = Call.prepare crowd.world.client.settings request) ∧
    ∀ response, alone = .ok response →
      response.redirects.toNat + 1 = hops.length ∧ response.Answers network ∧
      ∃ last, hops.getLast? = some last ∧ response.request = last.request := by
  intro alone hops
  refine ⟨?_, Client.linked_hops .., fun first here => (Client.first_hop _ _ _ _ here).1, ?_⟩
  · obtain ⟨enough, made, ends⟩ :=
      Thread.exists_ends forgetful caller crowd.world request registered
    refine ⟨enough, fun before after unset => ?_⟩
    intro place kept
    rw [List.forall_mem_append] at unset
    let here := crowd.run network before
    have alike : here.world.Alike crowd.world := alike_run network crowd unset.1
    have begun : (here.apply network (.call caller request)).threads[place]? =
        some (.begin crowd.world.client.settings caller request) := by
      simp only [apply, place, here, List.getElem?_concat_length, alike.settings]
    have reached := getElem?_run forgetful registered begun alike trivial unset.2 kept
    obtain ⟨performed, returned, enough⟩ :=
      Thread.iterate_of_ends ends rfl (after.countP (·.isStepOf place))
    rw [run_append]
    refine ⟨_, reached, performed, ?_, ?_⟩
    · intro result returns
      have same := returned result returns
      rw [same] at returns
      exact ⟨(Option.some.inj returns).symm, congrArg Thread.exchanges same⟩
    · intro many
      rw [enough many]
      rfl
  · intro response returns
    obtain ⟨last, final, ended, result⟩ := Client.last_hop network caller crowd.world request
    have member : last ∈ hops := List.mem_of_getLast? final
    obtain ⟨obtained, -⟩ := Hop.conclusion_ok ended (result.symm.trans returns)
    obtain ⟨log, executed⟩ := Call.exists_execute _ _ _ _ last member
    have answers : response.Answers network :=
      ExecutionUnit.answers_of_execute (executed ▸ obtained)
    have answered := ((Client.linked_hops ..).sound last member).response obtained
    exact ⟨(Client.returned _ _ _ _ returns).1, answers, last, final, answered.1⟩

/-! ### Two calls by turns, and one after the other -/

/-- A network in which every request is answered by its target. -/
def echoing : Network where
  resolves _ := true
  connecting _ _ := .accepted
  reply _ sent := .raw (Utf8.encode ("HTTP/1.1 200 \n\n" ++ sent.target)) .closed

theorem forgetful_echoing : echoing.Forgetful := fun _ _ _ => rfl

/-- A request for a page of a host. -/
def page (name : String) : Request :=
  .new .get ⟨"http", "", none, some (.domain "a"), none, .rooted [name], none, none⟩

/-- Each of two calls makes a step when the other has made one. -/
def crossing : List Event := (List.replicate 12 [.step 0, .step 1]).flatten

/-- Of two calls by turns the second gets its own page, as it does by itself. -/
theorem calls_independent_crossing :
    let crowd := start .standard .probe .off []
    ∃ response, response.body = Utf8.encode "/second" ∧
      (Client.execute echoing .patient crowd.world (page "second")).1 = .ok response ∧
      ((crowd.run echoing ([.call .patient (page "first"), .call .patient (page "second")] ++
        crossing)).threads[1]?.bind (·.result?)) = some (.ok response) := by
  intro crowd
  have body : (((crowd.run echoing ([.call .patient (page "first"),
      .call .patient (page "second")] ++ crossing)).threads[1]?.bind (·.result?)).map
        fun result => result.toOption.map (·.body)) = some (some (Utf8.encode "/second")) := by
    cbv
  obtain ⟨⟨enough, among⟩, -⟩ := calls_independent echoing crowd .patient (page "second")
    forgetful_echoing Registry.forgetful_probe
  obtain ⟨thread, found, -, same, -⟩ := among [.call .patient (page "first")] crossing
    (by decide) (by decide)
  have here : (crowd.run echoing ([.call .patient (page "first"),
      .call .patient (page "second")] ++ crossing)).threads[1]? = some thread := found
  rw [here, Option.bind_some] at body ⊢
  obtain ⟨result, returned, read⟩ := Option.map_eq_some_iff.mp body
  obtain ⟨response, answered, own⟩ := Option.map_eq_some_iff.mp read
  obtain rfl : result = .ok response := by
    cases result with
    | ok response' =>
      cases answered
      rfl
    | error failure => cases answered
  exact ⟨response, own, (same _ returned).1.symm, returned⟩

/-- A registry whose factory for tasks does not work at first, and then makes units that fail. -/
def reluctant : Registry :=
  ⟨.unavailable .notRegistered, .available
    { construct := fun calls _ _ =>
        if calls = 0 then .error (.rejected .task "busy")
        else .ok ⟨.task, .fail ⟨.request, none, none⟩⟩
      startsTransport := false }⟩

/-- Where a factory remembers its calls, a call may get another result because of one before it. -/
theorem calls_depend_on_reluctant :
    ¬ ∀ (network : Network) (crowd : Crowd) (caller : Caller) (request : Request)
      (before after : List Event), network.Forgetful →
      (∀ event ∈ before ++ after, event.isSet = false) →
      let place := (crowd.run network before).threads.length
      (∀ event ∈ after, event.isGiveUpOf place = false) →
      ∀ thread result,
        (crowd.run network (before ++ .call caller request :: after)).threads[place]? =
          some thread → thread.result? = some result →
        result = (Client.execute network caller crowd.world request).1 := by
  intro alone
  let crowd := start .standard reluctant ⟨true, false⟩ []
  let first : List Event := .call .patient (page "first") :: List.replicate 12 (.step 0)
  let second : List Event := .call .patient (page "first") :: List.replicate 12 (.step 1)
  have answered : ((crowd.run echoing first).threads[0]?.bind (·.result?)).map (·.toBool) =
      some true := by cbv
  have failed : ((crowd.run echoing (first ++ second)).threads[1]?.bind (·.result?)).map (·.toBool) =
      some false := by cbv
  have place : (crowd.run echoing first).threads.length = 1 := by cbv
  obtain ⟨one, oneReturns, fine⟩ := Option.map_eq_some_iff.mp answered
  obtain ⟨other, otherReturns, faulty⟩ := Option.map_eq_some_iff.mp failed
  obtain ⟨oneThread, oneFound, oneReturned⟩ := Option.bind_eq_some_iff.mp oneReturns
  obtain ⟨otherThread, otherFound, otherReturned⟩ := Option.bind_eq_some_iff.mp otherReturns
  have oneAlone := alone echoing crowd .patient (page "first") [] (List.replicate 12 (.step 0))
    forgetful_echoing (by decide) (by decide) oneThread one oneFound oneReturned
  have otherHere : (crowd.run echoing (first ++ second)).threads[(crowd.run echoing
      first).threads.length]? = some otherThread := by
    rw [place]
    exact otherFound
  have otherAlone := alone echoing crowd .patient (page "first") first (List.replicate 12 (.step 1))
    forgetful_echoing (by decide) (by decide) otherThread other otherHere otherReturned
  have same : one = other := oneAlone.trans otherAlone.symm
  rw [same, faulty] at fine
  cases fine

end Crowd

end Courier
