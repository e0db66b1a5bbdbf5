import Courier.Proofs.Selecting
import Courier.Proofs.Steps
import Mathlib.Algebra.GroupWithZero.Nat
import Mathlib.Algebra.Order.BigOperators.Group.List

/-! # Calls at once

Calls of one client may run at once, each in a thread of its own, while anyone sets switches and
gives calls up. They share the world, and nothing decides whose step comes next: a look at a switch,
a call of a factory, an exchange, a look at a response or one addition to a counter. A thread that
is left alone performs its call as the client does; what holds of a thread when it begins, and is
kept by its own steps in whatever world they find, holds of every thread at every moment.
-/

namespace Courier

/-- The world with another dispatcher. -/
def World.withDispatcher (world : World) (dispatcher : Dispatcher) : World :=
  { world with client := { world.client with dispatcher } }

/-- A call in progress, and what it has done so far. -/
structure Thread where
  caller : Caller
  call : Call
  /-- How far the selection of a unit for the next exchange has come. -/
  selecting : Selecting
  /-- The exchanges that were performed, in order. -/
  exchanges : List Hop
  /-- The increments that were made, in order. -/
  made : List Increment

namespace Thread

/-- A thread that has done nothing yet. -/
def begin (settings : Settings) (caller : Caller) (request : Request) : Thread :=
  ⟨caller, .begin settings request, .begin, [], []⟩

/-- What the call returned, if it has returned. -/
def result? (thread : Thread) : Option (Except Failure Response) :=
  match thread.call with
  | ⟨[], .done result⟩ => some result
  | _ => none

/-- The thread after its caller has given up. -/
def giveUp (thread : Thread) : Thread :=
  { thread with caller := { thread.caller with cancelled := true } }

/-- One step: one addition, or one step towards an exchange, or the exchange, or a look at its
response. -/
def step (network : Network) (thread : Thread) (world : World) : Thread × World :=
  match thread.call.pending, thread.call.next with
  | increment :: rest, next =>
    ({ thread with call := ⟨rest, next⟩, made := thread.made ++ [increment] },
      Call.record world [increment])
  | [], .dispatch request previous =>
    match thread.selecting with
    | .selected unit =>
      let outcome := unit.execute network world.log thread.caller
      ({ thread with
          call := Call.afterExchange outcome.result, selecting := .begin
          exchanges := thread.exchanges ++ [⟨unit, outcome⟩] },
        { world with log := world.log ++ outcome.sent.toList })
    | selecting =>
      let (selecting, dispatcher) := selecting.step request previous world.client.dispatcher
      ({ thread with selecting }, world.withDispatcher dispatcher)
  | [], .follow response => ({ thread with call := Call.afterResponse response }, world)
  | [], .done _ => (thread, world)

/-- A step makes at most one addition, which the counters get. -/
theorem step_made (network : Network) (thread : Thread) (world : World) :
    ∃ increments, (thread.step network world).1.made = thread.made ++ increments ∧
      (thread.step network world).2.client.stats = world.client.stats.addAll increments := by
  unfold step
  split
  · exact ⟨_, rfl, rfl⟩
  · split
    · exact ⟨[], (List.append_nil _).symm, rfl⟩
    · exact ⟨[], (List.append_nil _).symm, rfl⟩
  · exact ⟨[], (List.append_nil _).symm, rfl⟩
  · exact ⟨[], (List.append_nil _).symm, rfl⟩

/-! ## A thread by itself -/

/-- One step of a thread and its world. -/
def advance (network : Network) (state : Thread × World) : Thread × World :=
  state.1.step network state.2

variable (network : Network)

/-- A thread that is left alone with its selection gets the unit that is selected. -/
theorem exists_steps_selecting {request : Request} {previous : Option Response} {unit : ExecutionUnit}
    {dispatcher : Dispatcher} (thread : Thread) (world : World)
    (dispatching : thread.call = ⟨[], .dispatch request previous⟩) {count : Nat}
    (selected : (Selecting.advance request previous)^[count]
      (thread.selecting, world.client.dispatcher) = (.selected unit, dispatcher)) :
    ∃ steps, (advance network)^[steps] (thread, world) =
      ({ thread with selecting := .selected unit }, world.withDispatcher dispatcher) := by
  induction count generalizing thread world with
  | zero =>
    obtain ⟨here, same⟩ := Prod.mk.inj selected
    refine ⟨0, ?_⟩
    rw [← here, ← same]
    rfl
  | succ count ih =>
    rw [Function.iterate_succ_apply] at selected
    by_cases ended : ∃ unit, thread.selecting = .selected unit
    · obtain ⟨unit', here⟩ := ended
      rw [here] at selected
      exact ih thread world dispatching (by rw [here]; exact selected)
    · let next := thread.selecting.step request previous world.client.dispatcher
      have stepped : thread.step network world =
          ({ thread with selecting := next.1 }, world.withDispatcher next.2) := by
        unfold step
        rw [dispatching]
        dsimp only
        split
        · rename_i unit' here
          exact absurd ⟨unit', here⟩ ended
        · rfl
      obtain ⟨steps, final⟩ := ih { thread with selecting := next.1 }
        (world.withDispatcher next.2) dispatching selected
      refine ⟨steps + 1, ?_⟩
      rw [Function.iterate_succ_apply, advance, stepped]
      exact final

/-- A thread that is left alone comes to where a step of its call leads. -/
theorem exists_steps_step (thread : Thread) (world : World) (ready : thread.selecting = .begin) :
    let after := thread.call.step network thread.caller world
    ∃ steps made, (advance network)^[steps] (thread, world) =
      ({ thread with
          call := after.1, made
          exchanges := thread.exchanges ++
            Call.performed network thread.caller (thread.call, world) }, after.2) := by
  obtain ⟨caller, ⟨pending, next⟩, selecting, exchanges, made⟩ := thread
  obtain rfl : selecting = .begin := ready
  cases pending with
  | cons increment rest =>
    refine ⟨1, made ++ [increment], ?_⟩
    simp [advance, step, Call.step, Call.performed]
  | nil =>
    cases next with
    | follow response =>
      refine ⟨1, made, ?_⟩
      simp [advance, step, Call.step, Call.act, Call.performed]
    | done result =>
      refine ⟨0, made, ?_⟩
      simp [Call.step, Call.act, Call.performed]
    | dispatch request previous =>
      obtain ⟨count, selected⟩ :=
        Selecting.exists_steps request previous world.client.dispatcher
      obtain ⟨steps, final⟩ := exists_steps_selecting network
        ⟨caller, ⟨[], .dispatch request previous⟩, .begin, exchanges, made⟩ world rfl selected
      refine ⟨steps + 1, made, ?_⟩
      rw [Function.iterate_succ_apply', final]
      rfl

/-- A thread that is left alone performs its call as the call runs by itself. -/
theorem exists_steps_run (thread : Thread) (world : World) (ready : thread.selecting = .begin) :
    let after := thread.call.run network thread.caller world
    ∃ steps made, (advance network)^[steps] (thread, world) =
      ({ thread with
          call := ⟨[], .done after.1⟩, made
          exchanges := thread.exchanges ++ thread.call.hops network thread.caller world },
        after.2) := by
  induction bound : thread.call.remaining using Nat.strong_induction_on generalizing thread world with
  | _ remaining ih =>
    by_cases ended : ∃ result, thread.call = ⟨[], .done result⟩
    · obtain ⟨caller, call, selecting, exchanges, made⟩ := thread
      obtain ⟨result, rfl⟩ := ended
      refine ⟨0, made, ?_⟩
      rw [Call.run, Call.hops]
      simp [Call.record, Stats.addAll]
    · have less : (thread.call.step network thread.caller world).1.remaining < remaining :=
        bound ▸ Call.step_remaining fun result same => ended ⟨result, same⟩
      obtain ⟨steps, made, next⟩ := exists_steps_step network thread world ready
      obtain ⟨steps', made', final⟩ := ih _ less
        { thread with
          call := (thread.call.step network thread.caller world).1, made
          exchanges := thread.exchanges ++
            Call.performed network thread.caller (thread.call, world) }
        (thread.call.step network thread.caller world).2 ready rfl
      refine ⟨steps' + steps, made', ?_⟩
      rw [Function.iterate_add_apply, next, final]
      simp only [Call.run_step, List.append_assoc, ← Call.hops_step]

/-- A thread that is left alone performs its call as the client does. -/
theorem exists_steps_execute (caller : Caller) (world : World) (request : Request) :
    let after := Client.execute network caller world request
    ∃ steps made, (advance network)^[steps]
        (.begin world.client.settings caller request, world) =
      (⟨caller, ⟨[], .done after.1⟩, .begin, Client.hops network caller world request, made⟩,
        after.2) :=
  exists_steps_run network _ world rfl

end Thread

/-- Calls at once, and the world that they share. -/
structure Crowd where
  world : World
  threads : List Thread

namespace Crowd

/-- No calls yet of a client that has not been used. -/
def start (settings : Settings) (registry : Registry) (toggles : Toggles) (log : Log) : Crowd :=
  ⟨⟨.new settings registry toggles, log⟩, []⟩

/-- What happens next. -/
inductive Event
  /-- A call begins. -/
  | call (caller : Caller) (request : Request)
  /-- The thread at a place makes a step. -/
  | step (place : Nat)
  /-- The caller of the thread at a place gives up. -/
  | giveUp (place : Nat)
  /-- Someone sets a switch. -/
  | set (strategy : Strategy) (enabled : Bool)

/-- The calls after an event. -/
def apply (network : Network) (crowd : Crowd) : Event → Crowd
  | .call caller request =>
    { crowd with threads :=
        crowd.threads ++ [.begin crowd.world.client.settings caller request] }
  | .step place =>
    match crowd.threads[place]? with
    | none => crowd
    | some thread =>
      let (thread, world) := thread.step network crowd.world
      ⟨world, crowd.threads.set place thread⟩
  | .giveUp place =>
    match crowd.threads[place]? with
    | none => crowd
    | some thread => { crowd with threads := crowd.threads.set place thread.giveUp }
  | .set strategy enabled =>
    { crowd with world :=
        crowd.world.withDispatcher (crowd.world.client.dispatcher.set strategy enabled) }

/-- The calls after events. -/
def run (network : Network) (events : List Event) (crowd : Crowd) : Crowd :=
  events.foldl (apply network) crowd

variable {network : Network}

/-- What an event comes to: a thread begins, or one thread makes a step or is given up, or no thread
and no counter changes. -/
theorem apply_cases (network : Network) (event : Event) (crowd : Crowd) :
    let after := crowd.apply network event
    (after.world = crowd.world ∧ ∃ caller request, after.threads =
      crowd.threads ++ [.begin crowd.world.client.settings caller request]) ∨
    (∃ place old new, crowd.threads[place]? = some old ∧
      after.threads = crowd.threads.set place new ∧
      (new = (old.step network crowd.world).1 ∧ after.world = (old.step network crowd.world).2 ∨
        new = old.giveUp ∧ after.world = crowd.world)) ∨
    (after.threads = crowd.threads ∧
      after.world.client.stats = crowd.world.client.stats) := by
  cases event with
  | call caller request => exact .inl ⟨rfl, caller, request, rfl⟩
  | set strategy enabled => exact .inr (.inr ⟨rfl, rfl⟩)
  | step place =>
    unfold apply
    dsimp only
    split
    · exact .inr (.inr ⟨rfl, rfl⟩)
    · rename_i old found
      exact .inr (.inl ⟨place, old, _, found, rfl, .inl ⟨rfl, rfl⟩⟩)
  | giveUp place =>
    unfold apply
    dsimp only
    split
    · exact .inr (.inr ⟨rfl, rfl⟩)
    · rename_i old found
      exact .inr (.inl ⟨place, old, _, found, rfl, .inr ⟨rfl, rfl⟩⟩)

/-! ## What holds of every thread -/

/-- What holds of a thread that begins, and is kept by its steps and when its caller gives up, holds
of every thread at every moment. -/
theorem forall_threads (holds : Thread → Prop)
    (begins : ∀ settings caller request, holds (.begin settings caller request))
    (steps : ∀ thread world, holds thread → holds (thread.step network world).1)
    (gives : ∀ thread, holds thread → holds thread.giveUp) (events : List Event) {crowd : Crowd}
    (before : ∀ thread ∈ crowd.threads, holds thread) :
    ∀ thread ∈ (crowd.run network events).threads, holds thread := by
  induction events generalizing crowd with
  | nil => exact before
  | cons event rest ih =>
    apply ih
    intro thread member
    rcases apply_cases network event crowd with
      ⟨-, caller, request, threads⟩ | ⟨place, old, new, found, threads, changed⟩ | ⟨threads, -⟩
    · rw [threads, List.mem_append, List.mem_singleton] at member
      rcases member with member | rfl
      · exact before thread member
      · exact begins ..
    · rw [threads] at member
      have held := before old (List.mem_of_getElem? found)
      rcases List.mem_or_eq_of_mem_set member with member | rfl
      · exact before thread member
      · rcases changed with ⟨rfl, -⟩ | ⟨rfl, -⟩
        · exact steps old crowd.world held
        · exact gives old held
    · exact before thread (threads ▸ member)

end Crowd

/-! ## Counting -/

/-- What increments add to a counter, all together. -/
def Increment.tally (counter : Counter) (increments : List Increment) : Nat :=
  (increments.map fun increment =>
    if increment.counter = counter then increment.amount.toNat else 0).sum

namespace Increment

variable {counter : Counter}

@[simp]
theorem tally_nil : tally counter [] = 0 := rfl

@[simp]
theorem tally_cons (increment : Increment) (rest : List Increment) :
    tally counter (increment :: rest) =
      (if increment.counter = counter then increment.amount.toNat else 0) + tally counter rest :=
  rfl

@[simp]
theorem tally_append (first second : List Increment) :
    tally counter (first ++ second) = tally counter first + tally counter second := by
  simp [tally]

end Increment

/-- Additions change a counter by what they add to it. -/
theorem Stats.get_addAll (stats : Stats) (increments : List Increment) (counter : Counter) :
    (stats.addAll increments).get counter =
      stats.get counter + UInt64.ofNat (Increment.tally counter increments) := by
  induction increments generalizing stats with
  | nil => simp [addAll]
  | cons increment rest ih =>
    change ((stats.add increment).addAll rest).get counter = _
    rw [ih, get_add, Increment.tally_cons, UInt64.ofNat_add, ← UInt64.add_assoc]
    split
    · rw [UInt64.ofNat_toNat]
    · simp

namespace Crowd

variable {network : Network}

/-- What the calls have added to a counter so far, all together. -/
def tally (crowd : Crowd) (counter : Counter) : Nat :=
  (crowd.threads.map fun thread => Increment.tally counter thread.made).sum

/-- Where one member is replaced, a sum changes by what the member adds to it. -/
theorem sum_map_set {α : Type} (f : α → Nat) {members : List α} {place : Nat} {old : α}
    (found : members[place]? = some old) (new : α) :
    ((members.set place new).map f).sum + f old = (members.map f).sum + f new := by
  induction members generalizing place with
  | nil => cases found
  | cons member rest ih =>
    cases place with
    | zero =>
      obtain rfl : member = old := Option.some.inj found
      simp only [List.set_cons_zero, List.map_cons, List.sum_cons]
      omega
    | succ place =>
      have later := ih found
      simp only [List.set_cons_succ, List.map_cons, List.sum_cons]
      omega

/-- What an event adds to the counters is what the threads note. -/
theorem exists_added (network : Network) (event : Event) (crowd : Crowd) :
    ∃ increments,
      (crowd.apply network event).world.client.stats =
        crowd.world.client.stats.addAll increments ∧
      ∀ counter, (crowd.apply network event).tally counter =
        crowd.tally counter + Increment.tally counter increments := by
  rcases apply_cases network event crowd with
    ⟨world, caller, request, threads⟩ | ⟨place, old, new, found, threads, changed⟩ | ⟨threads, stats⟩
  · refine ⟨[], by rw [world]; rfl, fun counter => ?_⟩
    simp [tally, threads, Thread.begin]
  · obtain ⟨increments, noted, added⟩ : ∃ increments, new.made = old.made ++ increments ∧
        (crowd.apply network event).world.client.stats =
          crowd.world.client.stats.addAll increments := by
      rcases changed with ⟨rfl, world⟩ | ⟨rfl, world⟩
      · rw [world]
        exact old.step_made network crowd.world
      · exact ⟨[], (List.append_nil _).symm, by rw [world]; rfl⟩
    refine ⟨increments, added, fun counter => ?_⟩
    -- Only one summand changes, and by what its thread noted.
    have sum := sum_map_set (fun thread => Increment.tally counter thread.made) found new
    rw [noted, Increment.tally_append] at sum
    unfold tally
    rw [threads]
    omega
  · refine ⟨[], stats, fun counter => ?_⟩
    simp [tally, threads]

theorem run_append (first second : List Event) (crowd : Crowd) :
    crowd.run network (first ++ second) = (crowd.run network first).run network second :=
  List.foldl_append

/-- What the calls have added never becomes less. -/
theorem tally_le_tally_run (events : List Event) (crowd : Crowd) (counter : Counter) :
    crowd.tally counter ≤ (crowd.run network events).tally counter := by
  induction events generalizing crowd with
  | nil => exact Nat.le_refl _
  | cons event rest ih =>
    obtain ⟨increments, -, more⟩ := exists_added network event crowd
    have later := ih (crowd.apply network event)
    have now := more counter
    change _ ≤ ((crowd.apply network event).run network rest).tally counter
    omega

/-- Every counter shows what the calls have added to it, but for its width. -/
theorem get_stats_run (events : List Event) {crowd : Crowd}
    (before : ∀ counter,
      crowd.world.client.stats.get counter = UInt64.ofNat (crowd.tally counter))
    (counter : Counter) :
    (crowd.run network events).world.client.stats.get counter =
      UInt64.ofNat ((crowd.run network events).tally counter) := by
  induction events generalizing crowd with
  | nil => exact before counter
  | cons event rest ih =>
    apply ih
    intro counter
    obtain ⟨increments, added, more⟩ := exists_added network event crowd
    rw [added, Stats.get_addAll, before, more, UInt64.ofNat_add]

end Crowd

end Courier
