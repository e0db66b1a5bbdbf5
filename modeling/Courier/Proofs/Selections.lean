import Courier.Proofs.Crowd
import Mathlib.Data.List.Induction

/-! # What selections do

Any number of selections may be in progress at once, and anyone may set a switch between two of
their steps. Each looks at the switches of the strategies in their order, and calls a factory when
it finds the switch on and a factory recorded; it goes on to the next strategy only when that call
was refused or not made. What it has looked at and called so far says where it stands, so what it
selects follows from its own looks and calls, whatever the others do.
-/

namespace Courier

namespace Registry

/-- The last of records that is for a strategy. -/
def lastRecord? (records : List (Strategy × Availability)) (strategy : Strategy) :
    Option Availability :=
  (records.reverse.find? (·.1 = strategy)).map (·.2)

theorem availability?_record (registry : Registry) {strategy : Strategy} (other : Strategy)
    (availability : Availability) (greater : strategy ≠ .blocking) :
    (registry.record other availability).availability? strategy =
      if other = strategy then some availability else registry.availability? strategy := by
  cases strategy with
  | blocking => exact absurd rfl greater
  | pooled => cases other <;> rfl
  | task => cases other <;> rfl

theorem availability?_ofRecords (records : List (Strategy × Availability)) {strategy : Strategy}
    (greater : strategy ≠ .blocking) :
    (ofRecords records).availability? strategy =
      some ((lastRecord? records strategy).getD (.unavailable .notRegistered)) := by
  induction records using List.reverseRecOn with
  | nil =>
    cases strategy with
    | blocking => exact absurd rfl greater
    | pooled => rfl
    | task => rfl
  | append_singleton records record ih =>
    have last : ofRecords (records ++ [record]) =
        (ofRecords records).record record.1 record.2 := by
      unfold ofRecords
      rw [List.foldl_concat]
    unfold lastRecord? at ih ⊢
    rw [last, availability?_record _ _ _ greater, ih, List.reverse_concat, List.find?_cons]
    by_cases here : record.1 = strategy
    · simp only [here, ↓reduceIte, decide_true, Option.map_some, Option.getD_some]
    · simp only [here, ↓reduceIte, decide_false]

/-- A greater strategy has the factory that the last record for it gives. -/
theorem factory?_ofRecords (records : List (Strategy × Availability)) {strategy : Strategy}
    (greater : strategy ≠ .blocking) (factory : Factory) :
    (ofRecords records).factory? strategy = some factory ↔
      lastRecord? records strategy = some (.available factory) := by
  unfold factory?
  rw [availability?_ofRecords records greater]
  cases lastRecord? records strategy with
  | none => simp
  | some availability => cases availability <;> simp

end Registry

/-! ## One selection -/

theorem Tallies.of_add (tallies : Tallies) (called : Strategy) {tier : Strategy}
    (greater : tier ≠ .blocking) :
    (tallies.add called).of tier = tallies.of tier + if called = tier then 1 else 0 := by
  cases tier with
  | blocking => exact absurd rfl greater
  | pooled => cases called <;> rfl
  | task => cases called <;> rfl

namespace Selecting

/-- The look at a switch that is the next step, and what it shows. -/
def look? (dispatcher : Dispatcher) : Selecting → Option (Strategy × Bool)
  | .looking (tier :: _) => some (tier, dispatcher.toggles.prefers tier)
  | _ => none

/-- The call of a factory that is the next step, and what comes of it. -/
def call? (request : Request) (previous : Option Response) (dispatcher : Dispatcher) :
    Selecting → Option (Strategy × Except ConstructionFailure Plan)
  | .constructing tier factory _ =>
    some (tier, factory.construct (dispatcher.tallies.of tier) request previous)
  | _ => none

/-- How many steps are left at most. -/
def remaining : Selecting → Nat
  | .looking tiers => 2 * tiers.length + 1
  | .constructing _ _ rest => 2 * rest.length + 2
  | .selected _ => 0

theorem remaining_step (request : Request) (previous : Option Response) (selecting : Selecting)
    (dispatcher : Dispatcher) :
    (selecting.step request previous dispatcher).1.remaining ≤ selecting.remaining - 1 := by
  have stepped := stepped_step request previous selecting dispatcher
  generalize selecting.step request previous dispatcher = after at stepped ⊢
  cases stepped with
  | passes passed =>
    simp only [remaining, List.length_cons]
    omega
  | finds wanted found =>
    simp only [remaining, List.length_cons]
    omega
  | refuses refused =>
    simp only [remaining]
    omega
  | falls => exact Nat.zero_le _
  | makes made => exact Nat.zero_le _
  | stays => exact Nat.zero_le _

theorem eq_selected_of_remaining {selecting : Selecting} (none : selecting.remaining = 0) :
    ∃ unit, selecting = .selected unit := by
  cases selecting with
  | looking tiers => cases none
  | constructing tier factory rest => cases none
  | selected unit => exact ⟨unit, rfl⟩

theorem look?_eq_some {selecting : Selecting} {dispatcher : Dispatcher} {look : Strategy × Bool}
    (looks : selecting.look? dispatcher = some look) :
    ∃ rest, selecting = .looking (look.1 :: rest) ∧
      dispatcher.toggles.prefers look.1 = look.2 := by
  unfold look? at looks
  split at looks
  · rename_i tier rest
    obtain rfl := Option.some.inj looks
    exact ⟨rest, rfl, rfl⟩
  · cases looks

/-- A dispatcher counts the calls of its factories. -/
theorem tallies_step (request : Request) (previous : Option Response) (selecting : Selecting)
    (dispatcher : Dispatcher) {tier : Strategy} (greater : tier ≠ .blocking) :
    (selecting.step request previous dispatcher).2.tallies.of tier = dispatcher.tallies.of tier +
      (selecting.call? request previous dispatcher).toList.countP (·.1 = tier) := by
  have stepped := stepped_step request previous selecting dispatcher
  generalize selecting.step request previous dispatcher = after at stepped ⊢
  cases stepped with
  | makes made => simp [call?, Tallies.of_add _ _ greater]
  | refuses refused => simp [call?, Tallies.of_add _ _ greater]
  | passes passed => rfl
  | finds wanted found => rfl
  | falls => rfl
  | stays => rfl

theorem remaining_iterate (request : Request) (previous : Option Response)
    (state : Selecting × Dispatcher) (steps : Nat) :
    ((advance request previous)^[steps] state).1.remaining ≤ state.1.remaining - steps := by
  induction steps with
  | zero => exact Nat.le_refl _
  | succ steps ih =>
    rw [Function.iterate_succ_apply']
    have less : (advance request previous ((advance request previous)^[steps] state)).1.remaining ≤
        ((advance request previous)^[steps] state).1.remaining - 1 := remaining_step ..
    omega

/-- A selection that is left alone for as many steps as are left at most comes to what the
dispatcher selects. -/
theorem iterate_begin (request : Request) (previous : Option Response) (dispatcher : Dispatcher) :
    (advance request previous)^[begin.remaining] (begin, dispatcher) =
      (.selected (dispatcher.select request previous).1,
        (dispatcher.select request previous).2) := by
  have fixed (unit : ExecutionUnit) (dispatcher : Dispatcher) :
      advance request previous (.selected unit, dispatcher) = (.selected unit, dispatcher) := rfl
  obtain ⟨steps, ends⟩ := exists_steps request previous dispatcher
  have spent := remaining_iterate request previous (begin, dispatcher) begin.remaining
  rw [Nat.sub_self, Nat.le_zero] at spent
  obtain ⟨unit, selected⟩ := eq_selected_of_remaining spent
  generalize here : (advance request previous)^[begin.remaining] (begin, dispatcher) = final
    at selected ⊢
  obtain ⟨_, after⟩ := final
  obtain rfl := selected
  -- Neither of the two states changes any more, so both are where all steps together lead.
  calc
    (.selected unit, after)
    _ = (advance request previous)^[steps] (.selected unit, after) :=
      (Function.iterate_fixed (fixed ..) steps).symm
    _ = (advance request previous)^[steps + begin.remaining] (begin, dispatcher) := by
      rw [Function.iterate_add_apply, here]
    _ = (advance request previous)^[begin.remaining] (.selected _, _) := by
      rw [Nat.add_comm, Function.iterate_add_apply, ends]
    _ = (.selected _, _) := Function.iterate_fixed (fixed ..) _

end Selecting

/-- A selection in progress, what it is made for, and what it has done so far. -/
structure Inquiry where
  request : Request
  previous : Option Response
  selecting : Selecting
  /-- The strategies that were tried, each with what its switch showed, in order. -/
  looks : List (Strategy × Bool)
  /-- The strategies whose factories were called, each with what came of the call, in order. -/
  calls : List (Strategy × Except ConstructionFailure Plan)

namespace Inquiry

/-- A selection that has done nothing yet. -/
def begin (request : Request) (previous : Option Response) : Inquiry :=
  ⟨request, previous, .begin, [], []⟩

/-- One step of a selection. -/
def step (inquiry : Inquiry) (dispatcher : Dispatcher) : Inquiry × Dispatcher :=
  let (selecting, after) := inquiry.selecting.step inquiry.request inquiry.previous dispatcher
  ({ inquiry with
      selecting
      looks := inquiry.looks ++ (inquiry.selecting.look? dispatcher).toList
      calls := inquiry.calls ++
        (inquiry.selecting.call? inquiry.request inquiry.previous dispatcher).toList }, after)

/-- How often the factory of a strategy was called. -/
def count (tier : Strategy) (inquiry : Inquiry) : Nat := inquiry.calls.countP (·.1 = tier)

/-! ## What its looks and calls say -/

section

variable (registry : Registry) (request : Request) (previous : Option Response)

/-- The strategies among those that were tried whose factories are called. -/
def due (looks : List (Strategy × Bool)) : List Strategy :=
  (looks.filter fun look => look.2 && (registry.factory? look.1).isSome).map (·.1)

/-- Every factory that was to be called was called, once, and refused. -/
structure Refused (looks : List (Strategy × Bool))
    (calls : List (Strategy × Except ConstructionFailure Plan)) : Prop where
  called : calls.map (·.1) = due registry looks
  refused : ∀ call ∈ calls, ∃ factory count failure, registry.factory? call.1 = some factory ∧
    factory.construct count request previous = .error failure ∧ call.2 = .error failure

/-- Where a selection stands with the looks and calls that it has made. -/
inductive Course : Selecting → List (Strategy × Bool) →
    List (Strategy × Except ConstructionFailure Plan) → Prop
  | looking {tiers looks calls} (turns : looks.map (·.1) ++ tiers = Strategy.preferred)
      (refused : Refused registry request previous looks calls) :
      Course (.looking tiers) looks calls
  | constructing {tier factory rest looks calls}
      (turns : looks.map (·.1) ++ tier :: rest = Strategy.preferred)
      (refused : Refused registry request previous looks calls)
      (found : registry.factory? tier = some factory) :
      Course (.constructing tier factory rest) (looks ++ [(tier, true)]) calls
  | made {tier factory rest looks calls count plan}
      (turns : looks.map (·.1) ++ tier :: rest = Strategy.preferred)
      (refused : Refused registry request previous looks calls)
      (found : registry.factory? tier = some factory)
      (constructs : factory.construct count request previous = .ok plan) :
      Course (.selected (.bind plan request previous)) (looks ++ [(tier, true)])
        (calls ++ [(tier, .ok plan)])
  | fallen {looks calls} (turns : looks.map (·.1) = Strategy.preferred)
      (refused : Refused registry request previous looks calls) :
      Course (.selected (.fallback request previous)) looks calls

end

variable {registry : Registry} {request : Request} {previous : Option Response}
  {looks : List (Strategy × Bool)} {calls : List (Strategy × Except ConstructionFailure Plan)}

theorem due_concat (tier : Strategy) (wanted : Bool) :
    due registry (looks ++ [(tier, wanted)]) = due registry looks ++
      if wanted && (registry.factory? tier).isSome then [tier] else [] := by
  unfold due
  rw [List.filter_append, List.map_append]
  congr 1
  cases here : wanted && (registry.factory? tier).isSome with
  | true => simp [here]
  | false => simp [here]

theorem course_begin (registry : Registry) (request : Request) (previous : Option Response) :
    Course registry request previous .begin [] [] := by
  apply Course.looking
  · rfl
  · constructor
    · rfl
    · simp

/-- Every step of a selection follows its course. -/
theorem Course.step {selecting : Selecting} {dispatcher : Dispatcher}
    (course : Course dispatcher.registry request previous selecting looks calls) :
    Course dispatcher.registry request previous
      (selecting.step request previous dispatcher).1
      (looks ++ (selecting.look? dispatcher).toList)
      (calls ++ (selecting.call? request previous dispatcher).toList) := by
  have stepped := Selecting.stepped_step request previous selecting dispatcher
  generalize selecting.step request previous dispatcher = after at stepped ⊢
  cases stepped with
  | stays =>
    simp only [Selecting.look?, Selecting.call?, Option.toList_none, List.append_nil]
    exact course
  | falls =>
    obtain ⟨turns, refused⟩ := course
    rw [List.append_nil] at turns
    simp only [Selecting.look?, Selecting.call?, Option.toList_none, List.append_nil]
    exact .fallen turns refused
  | passes passed =>
    obtain ⟨turns, refused⟩ := course
    simp only [Selecting.look?, Selecting.call?, Option.toList_some, Option.toList_none,
      List.append_nil]
    refine .looking ?_ ⟨?_, refused.refused⟩
    · rw [List.map_append, List.append_assoc]
      exact turns
    · rw [due_concat, passed]
      exact refused.called.trans (List.append_nil _).symm
  | finds wanted found =>
    obtain ⟨turns, refused⟩ := course
    simp only [Selecting.look?, Selecting.call?, Option.toList_some, Option.toList_none,
      List.append_nil, wanted]
    exact .constructing turns refused found
  | makes made =>
    cases course with
    | constructing turns refused found =>
      simp only [Selecting.look?, Selecting.call?, Option.toList_some, Option.toList_none,
        List.append_nil, made]
      exact .made turns refused found made
  | refuses refuses =>
    cases course with
    | constructing turns refused found =>
      simp only [Selecting.look?, Selecting.call?, Option.toList_some, Option.toList_none,
        List.append_nil, refuses]
      refine .looking ?_ ⟨?_, ?_⟩
      · rw [List.map_append, List.append_assoc]
        exact turns
      · rw [due_concat, found, List.map_append, refused.called]
        rfl
      · rw [List.forall_mem_append]
        refine ⟨refused.refused, ?_⟩
        rw [List.forall_mem_singleton]
        exact ⟨_, _, _, found, refuses, rfl⟩

theorem Course.answers {selecting : Selecting}
    (course : Course registry request previous selecting looks calls) :
    ∀ call ∈ calls, ∃ factory count, registry.factory? call.1 = some factory ∧
      call.2 = factory.construct count request previous := by
  have own {looks calls} (refused : Refused registry request previous looks calls) :
      ∀ call ∈ calls, ∃ factory count, registry.factory? call.1 = some factory ∧
        call.2 = factory.construct count request previous := by
    intro call member
    obtain ⟨factory, count, failure, found, fails, answer⟩ := refused.refused call member
    exact ⟨factory, count, found, answer.trans fails.symm⟩
  cases course with
  | looking turns refused => exact own refused
  | constructing turns refused found => exact own refused
  | fallen turns refused => exact own refused
  | made turns refused found constructs =>
    rw [List.forall_mem_append, List.forall_mem_singleton]
    exact ⟨own refused, _, _, found, constructs.symm⟩

/-- A selection that has ended has made every call that it had to make, and only those. -/
theorem Course.called {unit : ExecutionUnit}
    (course : Course registry request previous (.selected unit) looks calls) :
    looks.map (·.1) <+: Strategy.preferred ∧ calls.map (·.1) = due registry looks := by
  cases course with
  | fallen turns refused => exact ⟨turns ▸ List.prefix_rfl, refused.called⟩
  | @made tier _ rest _ _ _ _ turns refused found constructs =>
    constructor
    · rw [← turns, List.map_append, List.append_cons]
      exact List.prefix_append ..
    · rw [due_concat, found, List.map_append, refused.called]
      rfl

theorem Refused.not_made (refused : Refused registry request previous looks calls) (tier : Strategy)
    (plan : Plan) : (tier, .ok plan) ∉ calls := by
  intro member
  obtain ⟨-, -, failure, -, -, answer⟩ := refused.refused _ member
  cases answer

/-- A selection that has ended has tried a strategy if none before it made a unit. -/
theorem Course.tried_iff {unit : ExecutionUnit}
    (course : Course registry request previous (.selected unit) looks calls) {tier : Strategy}
    (preferred : tier ∈ Strategy.preferred) :
    tier ∈ looks.map (·.1) ↔
      ∀ higher, tier.rank < higher.rank → ∀ plan, (higher, .ok plan) ∉ calls := by
  cases course with
  | fallen turns refused =>
    rw [turns]
    exact ⟨fun _ higher _ plan => refused.not_made higher plan, fun _ => preferred⟩
  | @made maker _ rest earlier before _ plan turns refused found constructs =>
    have ordered : (earlier.map (·.1) ++ maker :: rest).Pairwise (·.rank > ·.rank) := by
      rw [turns]
      decide
    obtain ⟨-, later, above⟩ := List.pairwise_append.mp ordered
    have below := (List.pairwise_cons.mp later).1
    rw [List.map_append, List.mem_append]
    constructor
    · intro tried higher less plan' member
      rcases List.mem_append.mp member with member | member
      · exact refused.not_made higher plan' member
      · obtain ⟨rfl, -⟩ := Prod.mk.inj (List.mem_singleton.mp member)
        rcases tried with tried | tried
        · have greater := above tier tried higher List.mem_cons_self
          omega
        · obtain rfl := List.mem_singleton.mp tried
          exact Nat.lt_irrefl _ less
    · intro none
      rw [← turns, List.mem_append, List.mem_cons] at preferred
      rcases preferred with tried | rfl | left
      · exact .inl tried
      · exact .inr List.mem_cons_self
      · have made : (maker, .ok plan) ∈ before ++ [(maker, .ok plan)] := by simp
        exact absurd made (none maker (below tier left) plan)

/-- What a selection selects is what the factory made that it called last, or else the unit that is
always available. -/
theorem Course.selected {unit : ExecutionUnit}
    (course : Course registry request previous (.selected unit) looks calls) :
    (∃ tier plan, (tier, .ok plan) ∈ calls ∧ unit = .bind plan request previous) ∨
      (∀ tier plan, (tier, .ok plan) ∉ calls) ∧ unit = .fallback request previous := by
  cases course with
  | fallen turns refused => exact .inr ⟨refused.not_made, rfl⟩
  | @made maker _ _ _ _ _ plan turns refused found constructs =>
    refine .inl ⟨maker, plan, ?_, rfl⟩
    simp

theorem mem_due {tier : Strategy} :
    tier ∈ due registry looks ↔
      (tier, true) ∈ looks ∧ ∃ factory, registry.factory? tier = some factory := by
  simp only [due, List.mem_map, List.mem_filter, Bool.and_eq_true, Option.isSome_iff_exists]
  constructor
  · rintro ⟨⟨tier', wanted⟩, ⟨member, rfl, found⟩, rfl⟩
    exact ⟨member, found⟩
  · rintro ⟨member, found⟩
    exact ⟨(tier, true), ⟨member, rfl, found⟩, rfl⟩

/-- What a selection that has ended has done, and what it has selected. -/
structure Answered (records : List (Strategy × Availability)) (inquiry : Inquiry)
    (unit : ExecutionUnit) : Prop where
  /-- The strategies were tried in their order. -/
  inOrder : inquiry.looks.map (·.1) <+: Strategy.preferred
  /-- A strategy was tried if none before it made a unit. -/
  tried_iff : ∀ tier ∈ Strategy.preferred, tier ∈ inquiry.looks.map (·.1) ↔
    ∀ higher, tier.rank < higher.rank → ∀ plan, (higher, .ok plan) ∉ inquiry.calls
  /-- No factory was called twice. -/
  once : (inquiry.calls.map (·.1)).Nodup
  /-- The factory was called if the strategy was tried, its switch showed that it is wanted, and it
  is recorded as available. -/
  called_iff : ∀ tier, tier ∈ inquiry.calls.map (·.1) ↔ (tier, true) ∈ inquiry.looks ∧
    ∃ factory, Registry.lastRecord? records tier = some (.available factory)
  /-- The factory that was called is the one that is recorded last, and it was told the request and
  the response before. -/
  answers : ∀ call ∈ inquiry.calls, ∃ factory count,
    Registry.lastRecord? records call.1 = some (.available factory) ∧
      call.2 = factory.construct count inquiry.request inquiry.previous
  /-- The unit is the one that was made, and if none was made the one that is always available. -/
  selected :
    (∃ tier plan, (tier, .ok plan) ∈ inquiry.calls ∧ unit.kind = plan.kind ∧
      unit.conduct = plan.conduct) ∨
    (∀ tier plan, (tier, .ok plan) ∉ inquiry.calls) ∧ unit.kind = .blocking ∧
      unit.conduct = .exchange .blocking
  /-- It is bound to the request, at the place after the response before. -/
  bound : unit.request = inquiry.request
  place : unit.redirects.toNat = inquiry.previous.elim 0 fun response =>
    min (response.redirects.toNat + 1) (UInt32.size - 1)

theorem toNat_hopIndex (previous : Option Response) :
    (Response.hopIndex previous).toNat = previous.elim 0 fun response =>
      min (response.redirects.toNat + 1) (UInt32.size - 1) := by
  cases previous with
  | none => rfl
  | some response =>
    have bound := response.redirects.toNat_lt
    simp only [Response.hopIndex, Option.elim_some]
    split
    · rename_i small
      have one : (1 : UInt32).toNat = 1 := rfl
      rw [UInt32.toNat_add, one]
      simp only [UInt32.size] at small ⊢
      omega
    · rename_i great
      simp only [UInt32.size] at great ⊢
      omega

theorem Course.answered {records : List (Strategy × Availability)} {inquiry : Inquiry}
    {unit : ExecutionUnit} (ended : inquiry.selecting = .selected unit)
    (course : Course (.ofRecords records) inquiry.request inquiry.previous inquiry.selecting
      inquiry.looks inquiry.calls) : inquiry.Answered records unit := by
  rw [ended] at course
  obtain ⟨inOrder, called⟩ := course.called
  have greater (tier : Strategy) (tried : tier ∈ inquiry.looks.map (·.1)) : tier ≠ .blocking := by
    rintro rfl
    exact absurd (inOrder.subset tried) (by decide)
  have recorded {tier : Strategy} (tried : tier ∈ inquiry.looks.map (·.1)) (factory : Factory) :=
    Registry.factory?_ofRecords records (greater tier tried) factory
  have looked {tier : Strategy} (member : tier ∈ inquiry.calls.map (·.1)) :
      tier ∈ inquiry.looks.map (·.1) := by
    rw [called, mem_due] at member
    exact List.mem_map_of_mem member.1
  refine
    { inOrder, tried_iff := fun tier preferred => course.tried_iff preferred
      once := ?_, called_iff := ?_, answers := ?_, selected := ?_, bound := ?_, place := ?_ }
  · have distinct : (inquiry.looks.map (·.1)).Nodup :=
      inOrder.sublist.nodup (by decide)
    rw [called]
    exact distinct.sublist (List.filter_sublist.map _)
  · intro tier
    rw [called, mem_due]
    apply and_congr_right
    intro wanted
    exact exists_congr (recorded (List.mem_map_of_mem wanted))
  · intro call member
    obtain ⟨factory, count, found, answer⟩ := course.answers call member
    have available := (recorded (looked (List.mem_map_of_mem member)) factory).mp found
    exact ⟨factory, count, available, answer⟩
  · rcases course.selected with ⟨tier, plan, made, rfl⟩ | ⟨none, rfl⟩
    · exact .inl ⟨tier, plan, made, rfl, rfl⟩
    · exact .inr ⟨none, rfl, rfl⟩
  · rcases course.selected with ⟨tier, plan, -, rfl⟩ | ⟨-, rfl⟩ <;> rfl
  · rcases course.selected with ⟨tier, plan, -, rfl⟩ | ⟨-, rfl⟩ <;>
      exact toNat_hopIndex inquiry.previous

end Inquiry

/-! ## Selections at once -/

/-- Selections in progress, and the dispatcher that they share. -/
structure Desk where
  dispatcher : Dispatcher
  inquiries : List Inquiry

namespace Desk

/-- No selections yet, and a dispatcher that has not been used. -/
def start (records : List (Strategy × Availability)) (toggles : Toggles) : Desk :=
  ⟨.new (.ofRecords records) toggles, []⟩

/-- What happens next. -/
inductive Event
  /-- A selection begins. -/
  | ask (request : Request) (previous : Option Response)
  /-- The selection at a place makes a step. -/
  | step (place : Nat)
  /-- Someone sets a switch. -/
  | set (strategy : Strategy) (enabled : Bool)

namespace Event

/-- The selection at a place makes a step. -/
def isStepOf (place : Nat) : Event → Bool
  | .step other => other = place
  | _ => false

/-- What an event does to the switches. -/
def switch (toggles : Toggles) : Event → Toggles
  | .set strategy enabled => toggles.set strategy enabled
  | _ => toggles

end Event

/-- The selections after an event. -/
def apply (desk : Desk) : Event → Desk
  | .ask request previous =>
    { desk with inquiries := desk.inquiries ++ [.begin request previous] }
  | .step place =>
    match desk.inquiries[place]? with
    | none => desk
    | some inquiry =>
      let (inquiry, dispatcher) := inquiry.step desk.dispatcher
      ⟨dispatcher, desk.inquiries.set place inquiry⟩
  | .set strategy enabled => { desk with dispatcher := desk.dispatcher.set strategy enabled }

/-- The selections after events. -/
def run (events : List Event) (desk : Desk) : Desk := events.foldl apply desk

theorem run_append (first second : List Event) (desk : Desk) :
    desk.run (first ++ second) = (desk.run first).run second :=
  List.foldl_append

theorem run_concat (events : List Event) (event : Event) (desk : Desk) :
    desk.run (events ++ [event]) = (desk.run events).apply event :=
  List.foldl_concat ..

/-- What stands at a place after an event was there before, or begins there, or has made a step. -/
theorem apply_cases {desk : Desk} {event : Event} {place : Nat} {inquiry : Inquiry}
    (found : (desk.apply event).inquiries[place]? = some inquiry) :
    desk.inquiries[place]? = some inquiry ∨
      (∃ request previous, inquiry = .begin request previous) ∨
      ∃ old, event = .step place ∧ desk.inquiries[place]? = some old ∧
        inquiry = (old.step desk.dispatcher).1 := by
  cases event with
  | set strategy enabled => exact .inl found
  | ask request previous =>
    simp only [apply, List.getElem?_append] at found
    split at found
    · exact .inl found
    · right
      left
      rw [List.getElem?_singleton] at found
      split at found
      · exact ⟨request, previous, (Option.some.inj found).symm⟩
      · cases found
  | step other =>
    simp only [apply] at found
    split at found
    · exact .inl found
    · rename_i old here
      rw [List.getElem?_set] at found
      split at found
      · rename_i same
        subst same
        split at found
        · exact .inr (.inr ⟨old, rfl, here, (Option.some.inj found).symm⟩)
        · cases found
      · exact .inl found

/-- Only the steps of a selection change it. -/
theorem getElem?_apply {desk : Desk} (event : Event) {place : Nat} {inquiry : Inquiry}
    (found : desk.inquiries[place]? = some inquiry) :
    (desk.apply event).inquiries[place]? =
      some (if event.isStepOf place then (inquiry.step desk.dispatcher).1 else inquiry) := by
  obtain ⟨bound, -⟩ := List.getElem?_eq_some_iff.mp found
  cases event with
  | set strategy enabled => exact found
  | ask request previous => exact (List.getElem?_append_left bound).trans found
  | step other =>
    simp only [apply]
    by_cases here : other = place
    · subst here
      rw [found]
      simp [Event.isStepOf, bound]
    · have unmoved : (Event.step other).isStepOf place = false := by simp [Event.isStepOf, here]
      rw [unmoved]
      split
      · exact found
      · exact (List.getElem?_set_ne here).trans found

/-! ### What selections leave alone -/

theorem registry_apply (desk : Desk) (event : Event) :
    (desk.apply event).dispatcher.registry = desk.dispatcher.registry := by
  cases event with
  | ask request previous => rfl
  | set strategy enabled => rfl
  | step place =>
    simp only [apply]
    split
    · rfl
    · exact Selecting.registry_step ..

theorem registry_run (events : List Event) (desk : Desk) :
    (desk.run events).dispatcher.registry = desk.dispatcher.registry := by
  induction events generalizing desk with
  | nil => rfl
  | cons event rest ih => exact (ih (desk.apply event)).trans (registry_apply desk event)

theorem toggles_apply (desk : Desk) (event : Event) :
    (desk.apply event).dispatcher.toggles = event.switch desk.dispatcher.toggles := by
  cases event with
  | ask request previous => rfl
  | set strategy enabled => rfl
  | step place =>
    simp only [apply]
    split
    · rfl
    · exact Selecting.toggles_step ..

/-- Selections leave the switches as they are set. -/
theorem toggles_run (events : List Event) (desk : Desk) :
    (desk.run events).dispatcher.toggles = events.foldl Event.switch desk.dispatcher.toggles := by
  induction events generalizing desk with
  | nil => rfl
  | cons event rest ih =>
    rw [List.foldl_cons, ← toggles_apply]
    exact ih (desk.apply event)

/-! ### What selections do -/

/-- Every selection follows its course. -/
theorem course_run (records : List (Strategy × Availability)) (toggles : Toggles)
    (events : List Event) {place : Nat} {inquiry : Inquiry}
    (found : ((start records toggles).run events).inquiries[place]? = some inquiry) :
    Inquiry.Course (.ofRecords records) inquiry.request inquiry.previous inquiry.selecting
      inquiry.looks inquiry.calls := by
  induction events using List.reverseRecOn generalizing inquiry with
  | nil => cases found
  | append_singleton events event ih =>
    rw [run_concat] at found
    have registry := registry_run events (start records toggles)
    rcases apply_cases found with here | ⟨request, previous, rfl⟩ | ⟨old, -, here, rfl⟩
    · exact ih here
    · exact Inquiry.course_begin ..
    · have course := ih here
      have same : Registry.ofRecords records =
          ((start records toggles).run events).dispatcher.registry := registry.symm
      rw [same] at course ⊢
      exact course.step

/-- Every look of a selection shows the switch as it is when the selection makes a step of its
own. -/
theorem exists_look (records : List (Strategy × Availability)) (toggles : Toggles)
    (events : List Event) {place : Nat} {inquiry : Inquiry}
    (found : ((start records toggles).run events).inquiries[place]? = some inquiry) :
    ∀ look ∈ inquiry.looks, ∃ earlier later before rest, events = earlier ++ .step place :: later ∧
      ((start records toggles).run earlier).inquiries[place]? = some before ∧
      before.selecting = .looking (look.1 :: rest) ∧
      ((start records toggles).run earlier).dispatcher.toggles.prefers look.1 = look.2 := by
  induction events using List.reverseRecOn generalizing inquiry with
  | nil => cases found
  | append_singleton events event ih =>
    have longer {inquiry : Inquiry}
        (found : ((start records toggles).run events).inquiries[place]? = some inquiry) :
        ∀ look ∈ inquiry.looks, ∃ earlier later before rest,
          events ++ [event] = earlier ++ .step place :: later ∧
          ((start records toggles).run earlier).inquiries[place]? = some before ∧
          before.selecting = .looking (look.1 :: rest) ∧
          ((start records toggles).run earlier).dispatcher.toggles.prefers look.1 = look.2 := by
      intro look member
      obtain ⟨earlier, later, before, rest, cut, here⟩ := ih found look member
      refine ⟨earlier, later ++ [event], before, rest, ?_, here⟩
      rw [cut, List.append_assoc, List.cons_append]
    rw [run_concat] at found
    rcases apply_cases found with here | ⟨request, previous, rfl⟩ | ⟨old, rfl, here, rfl⟩
    · exact longer here
    · nofun
    · intro look member
      rcases List.mem_append.mp member with member | member
      · exact longer here look member
      · obtain ⟨rest, looking, shown⟩ := Selecting.look?_eq_some (Option.mem_toList.mp member)
        exact ⟨events, [], old, rest, rfl, here, looking, shown⟩

/-- How often the factory of a strategy was called, by all selections together. -/
def count (tier : Strategy) (desk : Desk) : Nat := (desk.inquiries.map (Inquiry.count tier)).sum

/-- Every call of a factory that the dispatcher counts was made by a selection. -/
theorem tallies_run (records : List (Strategy × Availability)) (toggles : Toggles)
    (events : List Event) {tier : Strategy} (greater : tier ≠ .blocking) :
    ((start records toggles).run events).dispatcher.tallies.of tier =
      ((start records toggles).run events).count tier := by
  induction events using List.reverseRecOn with
  | nil => cases tier <;> rfl
  | append_singleton events event ih =>
    rw [run_concat]
    generalize (start records toggles).run events = desk at ih ⊢
    cases event with
    | set strategy enabled => exact ih
    | ask request previous =>
      simp only [apply, count, List.map_append, List.sum_append] at ih ⊢
      exact ih
    | step place =>
      simp only [apply]
      split
      · exact ih
      · rename_i inquiry found
        have sum := Crowd.sum_map_set (Inquiry.count tier) found (inquiry.step desk.dispatcher).1
        have called := Selecting.tallies_step inquiry.request inquiry.previous inquiry.selecting
          desk.dispatcher greater
        have more : (inquiry.step desk.dispatcher).1.count tier = inquiry.count tier +
            (inquiry.selecting.call? inquiry.request inquiry.previous
              desk.dispatcher).toList.countP (·.1 = tier) := List.countP_append
        unfold count at ih ⊢
        change (inquiry.selecting.step inquiry.request inquiry.previous
            desk.dispatcher).2.tallies.of tier =
          ((desk.inquiries.set place (inquiry.step desk.dispatcher).1).map (Inquiry.count tier)).sum
        omega

/-- The factory of a strategy that is not recorded as available is never called. -/
theorem count_eq_zero (records : List (Strategy × Availability)) (toggles : Toggles)
    (events : List Event) {tier : Strategy} (greater : tier ≠ .blocking)
    (absent : ∀ factory, Registry.lastRecord? records tier ≠ some (.available factory)) :
    ((start records toggles).run events).count tier = 0 := by
  apply List.sum_eq_zero
  intro number member
  obtain ⟨inquiry, present, rfl⟩ := List.mem_map.mp member
  obtain ⟨place, found⟩ := List.getElem?_of_mem present
  apply List.countP_eq_zero.mpr
  intro call called same
  obtain rfl := of_decide_eq_true same
  obtain ⟨factory, _, available, -⟩ := (course_run records toggles events found).answers call called
  exact absent factory ((Registry.factory?_ofRecords records greater factory).mp available)

/-- A selection comes nearer to its end with each of its steps, whatever the others do. -/
theorem exists_run (events : List Event) {desk : Desk} {place : Nat} {inquiry : Inquiry}
    (found : desk.inquiries[place]? = some inquiry) :
    ∃ final, (desk.run events).inquiries[place]? = some final ∧
      final.request = inquiry.request ∧ final.previous = inquiry.previous ∧
      final.selecting.remaining ≤
        inquiry.selecting.remaining - events.countP (·.isStepOf place) := by
  induction events generalizing desk inquiry with
  | nil => exact ⟨inquiry, found, rfl, rfl, Nat.le_refl _⟩
  | cons event rest ih =>
    obtain ⟨final, here, request, previous, less⟩ := ih (getElem?_apply event found)
    refine ⟨final, here, ?_⟩
    rw [List.countP_cons]
    cases own : event.isStepOf place with
    | false =>
      rw [own] at request previous less
      exact ⟨request, previous, less⟩
    | true =>
      rw [own, if_pos rfl] at request previous less
      have nearer : (inquiry.step desk.dispatcher).1.selecting.remaining ≤
          inquiry.selecting.remaining - 1 := Selecting.remaining_step ..
      refine ⟨request, previous, ?_⟩
      rw [if_pos rfl]
      omega

/-- A selection that is left alone makes its steps as it makes them by itself. -/
theorem run_alone (steps : Nat) {desk : Desk} {place : Nat} {inquiry : Inquiry}
    (found : desk.inquiries[place]? = some inquiry) :
    ∃ final, (desk.run (List.replicate steps (.step place))).inquiries[place]? = some final ∧
      (final.selecting, (desk.run (List.replicate steps (.step place))).dispatcher) =
        (Selecting.advance inquiry.request inquiry.previous)^[steps]
          (inquiry.selecting, desk.dispatcher) := by
  induction steps generalizing desk inquiry with
  | zero => exact ⟨inquiry, found, rfl⟩
  | succ steps ih =>
    have next := getElem?_apply (.step place) found
    have own : (Event.step place).isStepOf place = true := by simp [Event.isStepOf]
    rw [own, if_pos rfl] at next
    obtain ⟨final, here, same⟩ := ih next
    refine ⟨final, here, ?_⟩
    rw [Function.iterate_succ_apply]
    have stepped : (desk.apply (.step place)).dispatcher = (inquiry.step desk.dispatcher).2 := by
      simp only [apply, found]
    rw [stepped] at same
    exact same

/-- Whatever the order of the steps of selections and of the setting of switches, no selection
changes the registry or a switch, and the factory of a strategy that is not recorded as available is
never called. A selection ends after a few steps of its own, and then it has tried the strategies in
their order, has called the factories that were due, each once and with its own request, and has
selected what the last of them made or the unit that is always available. Each of its looks shows
the switch as it is at a step of its own; a selection that is left alone is what the dispatcher
makes of its request at once. -/
theorem selections_answered (records : List (Strategy × Availability)) (toggles : Toggles)
    (request : Request) (previous : Option Response) (before after : List Event) :
    let desk := (start records toggles).run before
    let place := desk.inquiries.length
    let events := before ++ .ask request previous :: after
    let final := (start records toggles).run events
    final.dispatcher.registry = .ofRecords records ∧
    final.dispatcher.toggles = events.foldl Event.switch toggles ∧
    (∀ tier ∈ Strategy.preferred, final.dispatcher.tallies.of tier = final.count tier ∧
      ((∀ factory, Registry.lastRecord? records tier ≠ some (.available factory)) →
        final.dispatcher.tallies.of tier = 0)) ∧
    ∃ inquiry, final.inquiries[place]? = some inquiry ∧
      inquiry.request = request ∧ inquiry.previous = previous ∧
      (5 ≤ after.countP (·.isStepOf place) → ∃ unit, inquiry.selecting = .selected unit) ∧
      (∀ unit, inquiry.selecting = .selected unit → inquiry.Answered records unit) ∧
      (∀ look ∈ inquiry.looks, ∃ earlier later inquiry' rest,
        events = earlier ++ .step place :: later ∧
        ((start records toggles).run earlier).inquiries[place]? = some inquiry' ∧
        inquiry'.selecting = .looking (look.1 :: rest) ∧
        ((start records toggles).run earlier).dispatcher.toggles.prefers look.1 = look.2) ∧
      (after = List.replicate 5 (.step place) →
        inquiry.selecting = .selected (desk.dispatcher.select request previous).1 ∧
        final.dispatcher = (desk.dispatcher.select request previous).2) := by
  intro desk place events final
  refine ⟨registry_run .., toggles_run .., ?_, ?_⟩
  · intro tier preferred
    have greater : tier ≠ .blocking := by
      rintro rfl
      exact absurd preferred (by decide)
    have counted := tallies_run records toggles events greater
    refine ⟨counted, fun absent => ?_⟩
    rw [counted]
    exact count_eq_zero records toggles events greater absent
  · have begun : (desk.apply (.ask request previous)).inquiries[place]? =
        some (.begin request previous) := List.getElem?_concat_length ..
    have continued : final = (desk.apply (.ask request previous)).run after := run_append ..
    obtain ⟨inquiry, found, own, own', less⟩ := exists_run after begun
    rw [← continued] at found
    refine ⟨inquiry, found, own, own', ?_, ?_, exists_look records toggles events found, ?_⟩
    · intro enough
      apply Selecting.eq_selected_of_remaining
      have whole : (Inquiry.begin request previous).selecting.remaining = 5 := rfl
      omega
    · intro unit ended
      exact Inquiry.Course.answered ended (course_run records toggles events found)
    · rintro rfl
      obtain ⟨inquiry', found', same⟩ := run_alone 5 begun
      rw [← continued] at found' same
      obtain rfl := Option.some.inj (found.symm.trans found')
      have alone := Selecting.iterate_begin request previous desk.dispatcher
      exact Prod.mk.inj (same.trans alone)

/-- Where the factory for tasks refuses, the pool is asked next, by the record that was made last. -/
example :
    let refusing : Factory := ⟨fun _ _ _ => .error (.rejected .task "busy"), false⟩
    let records := [(.task, .available refusing), (.blocking, .available refusing),
      (.pooled, .unavailable .notRegistered), (.pooled, .available (Registry.sharedFactory .pooled))]
    let desk := (start records ⟨true, true⟩).run
      (.ask Selecting.rootRequest none :: List.replicate 5 (.step 0))
    desk.inquiries.map (fun inquiry => inquiry.selecting.unit?.map (·.kind)) =
        [some .pooled] ∧
      desk.dispatcher.tallies = ⟨1, 1⟩ := by
  decide

end Desk

end Courier
