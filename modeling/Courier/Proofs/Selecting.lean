import Courier.Dispatcher
import Mathlib.Data.Nat.Init
import Mathlib.Logic.Function.Iterate

/-! # Selecting while switches change

A selection looks at one switch after the other, and between two of its steps anyone may set a
switch. What it comes to is what a selection comes to that sees each switch as it was at a moment of
its own, the moments in the order of the turns. Where every strategy is available, the strategy is
therefore the one that the rule gives for the two switches, each as it was at some moment; both
held at one moment, unless between the two looks the switch for tasks was turned on and the switch
for the pool was set after it.
-/

namespace Courier

/-- The strategy that the switches ask for where every strategy is available. -/
def Toggles.choice (toggles : Toggles) : Strategy :=
  if toggles.task then .task else if toggles.pooled then .pooled else .blocking

/-- A strategy is available, and its factory always makes a unit of it. -/
def Registry.Provides (registry : Registry) (tier : Strategy) : Prop :=
  ∃ factory, registry.factory? tier = some factory ∧ ∀ calls request previous,
    ∃ plan, factory.construct calls request previous = .ok plan ∧ plan.kind = tier

namespace Dispatcher

variable {registry : Registry} {request : Request} {previous : Option Response}

/-- Only what is seen of the switches of the strategies that are tried matters. -/
theorem selectFrom_congr {seen other : Strategy → Toggles} {tiers : List Strategy}
    (same : ∀ tier ∈ tiers, seen tier = other tier) (tallies : Tallies) :
    selectFrom registry seen request previous tiers tallies =
      selectFrom registry other request previous tiers tallies := by
  induction tiers generalizing tallies with
  | nil => rfl
  | cons tier rest ih =>
    have later := ih fun tier member => same tier (List.mem_cons_of_mem _ member)
    simp only [selectFrom, same tier List.mem_cons_self, later]

/-- Where every strategy is available, the first whose switch is on is selected. -/
theorem kind_selectFrom {seen : Strategy → Toggles} {tiers : List Strategy}
    (provided : ∀ tier ∈ tiers, registry.Provides tier) (tallies : Tallies) :
    (selectFrom registry seen request previous tiers tallies).unit.kind =
      (tiers.find? fun tier => (seen tier).prefers tier).getD .blocking := by
  induction tiers generalizing tallies with
  | nil => rfl
  | cons tier rest ih =>
    obtain ⟨factory, available, constructs⟩ := provided tier List.mem_cons_self
    obtain ⟨plan, constructed, kind⟩ := constructs (tallies.of tier) request previous
    have later := ih (fun tier member => provided tier (List.mem_cons_of_mem _ member)) tallies
    cases wanted : (seen tier).prefers tier with
    | true =>
      simp only [selectFrom, wanted, available, constructed, ↓reduceIte, List.find?_cons_of_pos,
        Option.getD_some]
      exact kind
    | false =>
      simpa only [selectFrom, wanted, Bool.false_eq_true, ↓reduceIte, not_false_eq_true,
        List.find?_cons_of_neg] using later

end Dispatcher

/-- A selection in progress. -/
inductive Selecting
  /-- About to look at the switch of the first of the strategies that are left. -/
  | looking (tiers : List Strategy)
  /-- About to call the factory of a strategy, with others left. -/
  | constructing (tier : Strategy) (factory : Factory) (rest : List Strategy)
  | selected (unit : ExecutionUnit)

namespace Selecting

/-- A selection that has not looked at anything yet. -/
def begin : Selecting := .looking Strategy.preferred

/-- The unit that was selected. -/
def unit? : Selecting → Option ExecutionUnit
  | .selected unit => some unit
  | _ => none

/-- One step: a look at a switch, a call of a factory, or the unit that is always available. -/
def step (request : Request) (previous : Option Response) (dispatcher : Dispatcher) :
    Selecting → Selecting × Dispatcher
  | .looking [] => (.selected (.fallback request previous), dispatcher)
  | .looking (tier :: rest) =>
    match if dispatcher.toggles.prefers tier then dispatcher.registry.factory? tier else none with
    | none => (.looking rest, dispatcher)
    | some factory => (.constructing tier factory rest, dispatcher)
  | .constructing tier factory rest =>
    let called := { dispatcher with tallies := dispatcher.tallies.add tier }
    match factory.construct (dispatcher.tallies.of tier) request previous with
    | .ok plan =>
      (.selected (.bind plan request previous),
        { called with started := dispatcher.started || factory.startsTransport })
    | .error _ => (.looking rest, called)
  | .selected unit => (.selected unit, dispatcher)

variable {request : Request} {previous : Option Response}

/-- What a step can come to: the strategy whose turn it is may be passed over or looked into, its
factory may make a unit or refuse, and where no strategy is left the unit is the one that is always
available. -/
inductive Stepped (request : Request) (previous : Option Response) (dispatcher : Dispatcher) :
    Selecting → Selecting × Dispatcher → Prop
  | passes {tier : Strategy} {rest : List Strategy}
      (passed : (dispatcher.toggles.prefers tier &&
        (dispatcher.registry.factory? tier).isSome) = false) :
      Stepped request previous dispatcher (.looking (tier :: rest)) (.looking rest, dispatcher)
  | finds {tier : Strategy} {rest : List Strategy} {factory : Factory}
      (wanted : dispatcher.toggles.prefers tier = true)
      (found : dispatcher.registry.factory? tier = some factory) :
      Stepped request previous dispatcher (.looking (tier :: rest))
        (.constructing tier factory rest, dispatcher)
  | falls :
      Stepped request previous dispatcher (.looking [])
        (.selected (.fallback request previous), dispatcher)
  | makes {tier : Strategy} {factory : Factory} {rest : List Strategy} {plan : Plan}
      (made : factory.construct (dispatcher.tallies.of tier) request previous = .ok plan) :
      Stepped request previous dispatcher (.constructing tier factory rest)
        (.selected (.bind plan request previous), { dispatcher with
          tallies := dispatcher.tallies.add tier
          started := dispatcher.started || factory.startsTransport })
  | refuses {tier : Strategy} {factory : Factory} {rest : List Strategy}
      {failure : ConstructionFailure}
      (refused : factory.construct (dispatcher.tallies.of tier) request previous =
        .error failure) :
      Stepped request previous dispatcher (.constructing tier factory rest)
        (.looking rest, { dispatcher with tallies := dispatcher.tallies.add tier })
  | stays {unit : ExecutionUnit} :
      Stepped request previous dispatcher (.selected unit) (.selected unit, dispatcher)

theorem stepped_step (request : Request) (previous : Option Response) (selecting : Selecting)
    (dispatcher : Dispatcher) :
    Stepped request previous dispatcher selecting
      (selecting.step request previous dispatcher) := by
  cases selecting with
  | selected unit => exact .stays
  | looking tiers =>
    cases tiers with
    | nil => exact .falls
    | cons tier rest =>
      cases wanted : dispatcher.toggles.prefers tier with
      | false =>
        simp only [step, wanted, Bool.false_eq_true, ↓reduceIte]
        exact .passes (by rw [wanted, Bool.false_and])
      | true =>
        simp only [step, wanted, ↓reduceIte]
        cases found : dispatcher.registry.factory? tier with
        | none => exact .passes (by rw [found, Option.isSome_none, Bool.and_false])
        | some factory => exact .finds wanted found
  | constructing tier factory rest =>
    simp only [step]
    cases made : factory.construct (dispatcher.tallies.of tier) request previous with
    | ok plan => exact .makes made
    | error failure => exact .refuses made

/-! ## A selection by itself -/

/-- One step of a selection and its dispatcher. -/
def advance (request : Request) (previous : Option Response) (state : Selecting × Dispatcher) :
    Selecting × Dispatcher :=
  state.1.step request previous state.2

/-- A selection that is left alone comes to what the dispatcher selects. -/
theorem exists_steps_looking (tiers : List Strategy) (dispatcher : Dispatcher) :
    ∃ steps, (advance request previous)^[steps] (.looking tiers, dispatcher) =
      let selection := Dispatcher.selectFrom dispatcher.registry (fun _ => dispatcher.toggles)
        request previous tiers dispatcher.tallies
      (.selected selection.unit, { dispatcher with
        tallies := selection.tallies, started := dispatcher.started || selection.starts }) := by
  induction tiers generalizing dispatcher with
  | nil =>
    refine ⟨1, ?_⟩
    simp [advance, step, Dispatcher.selectFrom]
  | cons tier rest ih =>
    unfold Dispatcher.selectFrom
    split
    · rename_i passed
      obtain ⟨steps, final⟩ := ih dispatcher
      refine ⟨steps + 1, ?_⟩
      rw [Function.iterate_succ_apply]
      simpa only [advance, step, passed] using final
    · rename_i factory found
      split
      · rename_i plan constructed
        refine ⟨2, ?_⟩
        simp only [Function.iterate_succ_apply, Function.iterate_zero_apply, advance, step, found,
          constructed]
      · rename_i failure refused
        obtain ⟨steps, final⟩ := ih { dispatcher with tallies := dispatcher.tallies.add tier }
        refine ⟨steps + 2, ?_⟩
        rw [Function.iterate_succ_apply, Function.iterate_succ_apply]
        simpa only [advance, step, found, refused] using final

theorem exists_steps (request : Request) (previous : Option Response) (dispatcher : Dispatcher) :
    ∃ steps, (advance request previous)^[steps] (begin, dispatcher) =
      (.selected (dispatcher.select request previous).1,
        (dispatcher.select request previous).2) :=
  exists_steps_looking Strategy.preferred dispatcher

/-! ## A selection while others set switches -/

/-- What happens next: someone sets a switch, or the selection makes a step. -/
inductive Event
  | set (strategy : Strategy) (enabled : Bool)
  | step
  deriving DecidableEq, Repr

/-- A selection and its dispatcher after an event. -/
def apply (request : Request) (previous : Option Response) (state : Selecting × Dispatcher) :
    Event → Selecting × Dispatcher
  | .set strategy enabled => (state.1, state.2.set strategy enabled)
  | .step => state.1.step request previous state.2

/-- A selection and its dispatcher after events. -/
def run (request : Request) (previous : Option Response) (events : List Event)
    (state : Selecting × Dispatcher) : Selecting × Dispatcher :=
  events.foldl (apply request previous) state

/-- A selection and its dispatcher at a moment, counted by the events before it. -/
def moment (request : Request) (previous : Option Response) (events : List Event)
    (state : Selecting × Dispatcher) (before : Nat) : Selecting × Dispatcher :=
  run request previous (events.take before) state

theorem toggles_step (selecting : Selecting) (dispatcher : Dispatcher) :
    (selecting.step request previous dispatcher).2.toggles = dispatcher.toggles := by
  have stepped := stepped_step request previous selecting dispatcher
  generalize selecting.step request previous dispatcher = after at stepped ⊢
  cases stepped <;> rfl

theorem registry_step (selecting : Selecting) (dispatcher : Dispatcher) :
    (selecting.step request previous dispatcher).2.registry = dispatcher.registry := by
  have stepped := stepped_step request previous selecting dispatcher
  generalize selecting.step request previous dispatcher = after at stepped ⊢
  cases stepped <;> rfl

/-- The factory that is about to be called is that of a registry. -/
def Backed (registry : Registry) : Selecting → Prop
  | .looking _ => True
  | .constructing tier factory _ => registry.factory? tier = some factory
  | .selected _ => True

theorem backed_step (selecting : Selecting) (dispatcher : Dispatcher) :
    (selecting.step request previous dispatcher).1.Backed dispatcher.registry := by
  have stepped := stepped_step request previous selecting dispatcher
  generalize selecting.step request previous dispatcher = after at stepped ⊢
  cases stepped with
  | finds wanted found => exact found
  | passes passed => trivial
  | falls => trivial
  | makes made => trivial
  | refuses refused => trivial
  | stays => trivial

/-- From one moment to the next the switches change by what is set, and by nothing else. -/
theorem toggles_moment_succ (events : List Event) (state : Selecting × Dispatcher) (before : Nat) :
    (moment request previous events state (before + 1)).2.toggles =
      match events[before]? with
      | some (.set strategy enabled) =>
        (moment request previous events state before).2.toggles.set strategy enabled
      | _ => (moment request previous events state before).2.toggles := by
  unfold moment run
  rw [List.take_add_one, List.foldl_append]
  cases events[before]? with
  | none => rfl
  | some event =>
    cases event with
    | set strategy enabled => rfl
    | step => exact toggles_step ..

/-- Before a selection makes its next step, others may only have set switches. -/
theorem exists_next_step {events : List Event} {selecting : Selecting} {dispatcher : Dispatcher}
    {unit : ExecutionUnit} (unended : selecting.unit? = none)
    (ended : (run request previous events (selecting, dispatcher)).1 = .selected unit) :
    ∃ waiting toggles, waiting < events.length ∧
      moment request previous events (selecting, dispatcher) waiting =
        (selecting, { dispatcher with toggles }) ∧
      (∀ before, moment request previous events (selecting, dispatcher) (waiting + 1 + before) =
        moment request previous (events.drop (waiting + 1))
          (selecting.step request previous { dispatcher with toggles }) before) ∧
      (run request previous (events.drop (waiting + 1))
        (selecting.step request previous { dispatcher with toggles })).1 = .selected unit := by
  induction events generalizing dispatcher with
  | nil =>
    obtain rfl : selecting = .selected unit := ended
    cases unended
  | cons event rest ih =>
    cases event with
    | step =>
      refine ⟨0, dispatcher.toggles, Nat.zero_lt_succ _, rfl, fun before => ?_, ended⟩
      rw [Nat.zero_add, Nat.add_comm]
      rfl
    | set strategy enabled =>
      obtain ⟨waiting, toggles, inside, here, after, ended'⟩ := ih ended
      refine ⟨waiting + 1, toggles, Nat.succ_lt_succ inside, here, fun before => ?_, ended'⟩
      rw [Nat.add_right_comm]
      exact after before

/-- A unit that was selected stays. -/
theorem run_selected (events : List Event) (unit : ExecutionUnit) (dispatcher : Dispatcher) :
    (run request previous events (.selected unit, dispatcher)).1 = .selected unit := by
  induction events generalizing dispatcher with
  | nil => rfl
  | cons event rest ih =>
    cases event with
    | set strategy enabled => exact ih _
    | step => exact ih dispatcher

/-- Moments of a selection in progress, one for the turn of each strategy, in the order of the
turns. -/
structure Turns (state : Nat → Selecting × Dispatcher) (limit : Nat) (tiers : List Strategy)
    (place : Strategy → Nat) : Prop where
  ordered : (tiers.map place).Pairwise (· ≤ ·)
  within : ∀ tier ∈ tiers, place tier < limit
  unended : ∀ tier ∈ tiers, (state (place tier)).1.unit? = none

/-- The turn of a strategy comes before the turns of those after it. -/
theorem Turns.cons {state later : Nat → Selecting × Dispatcher} {offset limit first : Nat}
    {tier : Strategy} {rest : List Strategy} {place : Strategy → Nat}
    (turns : Turns later limit rest place) (absent : tier ∉ rest) (before : first < offset)
    (unended : (state first).1.unit? = none)
    (shifted : ∀ before, state (offset + before) = later before) :
    ∃ place' : Strategy → Nat, place' tier = first ∧
      (∀ other ∈ rest, place' other = offset + place other) ∧
      Turns state (offset + limit) (tier :: rest) place' := by
  have moved : ∀ other ∈ rest,
      (if other = tier then first else offset + place other) = offset + place other :=
    fun other member => if_neg (ne_of_mem_of_not_mem member absent)
  refine ⟨fun other => if other = tier then first else offset + place other, if_pos rfl, moved,
    ?_, ?_, ?_⟩
  · rw [List.map_cons, if_pos rfl, List.map_congr_left moved, List.pairwise_cons]
    constructor
    · intro time member
      obtain ⟨other, -, rfl⟩ := List.mem_map.mp member
      omega
    · have ordered := turns.ordered
      rw [List.pairwise_map] at ordered ⊢
      exact ordered.imp fun earlier => by omega
  · rw [List.forall_mem_cons, if_pos rfl]
    refine ⟨by omega, fun other member => ?_⟩
    have inside := turns.within other member
    rw [moved other member]
    omega
  · rw [List.forall_mem_cons, if_pos rfl]
    refine ⟨unended, fun other member => ?_⟩
    rw [moved other member, shifted]
    exact turns.unended other member

/-- A selection among others is one that sees the switch of each strategy at a moment of its own. -/
theorem exists_turns {tiers : List Strategy} (distinct : tiers.Nodup) {events : List Event}
    {dispatcher : Dispatcher} {unit : ExecutionUnit}
    (ended : (run request previous events (.looking tiers, dispatcher)).1 = .selected unit) :
    ∃ place, Turns (moment request previous events (.looking tiers, dispatcher)) events.length
        tiers place ∧
      unit = (Dispatcher.selectFrom dispatcher.registry
        (fun tier =>
          (moment request previous events (.looking tiers, dispatcher) (place tier)).2.toggles)
        request previous tiers dispatcher.tallies).unit := by
  induction tiers generalizing events dispatcher with
  | nil =>
    obtain ⟨waiting, toggles, -, -, -, ended'⟩ := exists_next_step rfl ended
    refine ⟨fun _ => 0, ⟨.nil, nofun, nofun⟩, ?_⟩
    rw [step, run_selected] at ended'
    exact (Selecting.selected.inj ended').symm
  | cons tier rest ih =>
    obtain ⟨absent, distinct'⟩ := List.nodup_cons.mp distinct
    obtain ⟨looks, toggles, inside, here, after, ended'⟩ := exists_next_step rfl ended
    have unended : (moment request previous events (.looking (tier :: rest), dispatcher)
        looks).1.unit? = none := by rw [here]; rfl
    -- what is left to the strategies after this one
    have turn_passed (offset : Nat) {left : List Event} {toggles : Toggles} {tallies : Tallies}
        (later : looks < offset) (whole : offset + left.length = events.length)
        (shifted : ∀ before, moment request previous events (.looking (tier :: rest), dispatcher)
          (offset + before) = moment request previous left
            (.looking rest, { dispatcher with toggles, tallies }) before)
        (ended : (run request previous left
          (.looking rest, { dispatcher with toggles, tallies })).1 = .selected unit) :
        ∃ place, place tier = looks ∧
          Turns (moment request previous events (.looking (tier :: rest), dispatcher))
            events.length (tier :: rest) place ∧
          unit = (Dispatcher.selectFrom dispatcher.registry
            (fun tier' => (moment request previous events (.looking (tier :: rest), dispatcher)
              (place tier')).2.toggles) request previous rest tallies).unit := by
      obtain ⟨place, turns, selected⟩ := ih distinct' ended
      obtain ⟨place', first, moved, turns'⟩ := turns.cons absent later unended shifted
      refine ⟨place', first, whole ▸ turns', ?_⟩
      rw [selected]
      congr 1
      apply Dispatcher.selectFrom_congr
      intro other member
      rw [moved other member, shifted]
    cases found : if toggles.prefers tier then dispatcher.registry.factory? tier else none with
    | none =>
      simp only [step, found] at after ended'
      obtain ⟨place, first, turns, selected⟩ := turn_passed (looks + 1)
        (Nat.lt_succ_self looks) (by rw [List.length_drop]; omega) after ended'
      refine ⟨place, turns, ?_⟩
      rw [Dispatcher.selectFrom, first, here]
      simpa only [found] using selected
    | some factory =>
      simp only [step, found] at after ended'
      obtain ⟨calls, toggles', inside', -, after', ended''⟩ := exists_next_step rfl ended'
      cases made : factory.construct (dispatcher.tallies.of tier) request previous with
      | ok plan =>
        simp only [step, made, run_selected, Selecting.selected.injEq] at ended''
        refine ⟨fun _ => looks, ⟨?_, fun _ _ => inside, fun _ _ => unended⟩, ?_⟩
        · exact List.pairwise_map.mpr (List.pairwise_of_forall fun _ _ => Nat.le_refl _)
        · rw [Dispatcher.selectFrom, here]
          simp only [found, made, ended'']
      | error failure =>
        simp only [step, made] at after' ended''
        rw [List.length_drop] at inside'
        obtain ⟨place, first, turns, selected⟩ := turn_passed (looks + 1 + (calls + 1))
          (by omega) (by rw [List.length_drop, List.length_drop]; omega)
          (fun before => by rw [Nat.add_assoc, after, after']) ended''
        refine ⟨place, turns, ?_⟩
        rw [Dispatcher.selectFrom, first, here]
        simpa only [found, made] using selected

/-! ## The rule -/

/-- A switch that changes has been set. -/
theorem set_of_changed (strategy : Strategy) {events : List Event}
    {state : Selecting × Dispatcher} {before : Nat} {enabled : Bool}
    (old : (moment request previous events state before).2.toggles.prefers strategy ≠ enabled)
    (new : (moment request previous events state (before + 1)).2.toggles.prefers strategy =
      enabled) :
    events[before]? = some (.set strategy enabled) := by
  rw [toggles_moment_succ] at new
  cases here : events[before]? with
  | none =>
    rw [here] at new
    exact absurd new old
  | some event =>
    rw [here] at new
    cases event with
    | step => exact absurd new old
    | set strategy' enabled' =>
      cases strategy <;> cases strategy' <;>
        simp_all [Toggles.set, Toggles.prefers]

/-- What does not hold at first and holds in the end begins to hold in between. -/
theorem exists_crossing (holds : Nat → Prop) {first last : Nat} (ordered : first ≤ last)
    (before : ¬ holds first) (after : holds last) :
    ∃ time, first ≤ time ∧ time < last ∧ ¬ holds time ∧ holds (time + 1) := by
  induction last, ordered using Nat.le_induction with
  | base => exact absurd after before
  | succ last reached ih =>
    by_cases already : holds last
    · obtain ⟨time, later, earlier, crossing⟩ := ih already
      exact ⟨time, later, Nat.lt_succ_of_lt earlier, crossing⟩
    · exact ⟨last, reached, Nat.lt_succ_self last, already, after⟩

/-- When the switch for tasks is off at one moment, it still is off at a moment when the switch for
the pool is as it is at a later one, or it is turned on before that switch is set. -/
theorem off_together {events : List Event} {state : Selecting × Dispatcher} {first second : Nat}
    (ordered : first ≤ second)
    (off : (moment request previous events state first).2.toggles.task = false) :
    (∃ time, first ≤ time ∧ time ≤ second ∧
      (moment request previous events state time).2.toggles =
        ⟨false, (moment request previous events state second).2.toggles.pooled⟩) ∨
    ∃ on later enabled, first ≤ on ∧ on < later ∧ later < second ∧
      events[on]? = some (.set .task true) ∧ events[later]? = some (.set .pooled enabled) := by
  let task := fun time => (moment request previous events state time).2.toggles.task
  let pooled := fun time => (moment request previous events state time).2.toggles.pooled
  by_cases together : ∃ time, first ≤ time ∧ time ≤ second ∧ task time = false ∧
      pooled time = pooled second
  · obtain ⟨time, later, earlier, off, same⟩ := together
    exact .inl ⟨time, later, earlier, congr (congrArg Toggles.mk off) same⟩
  · have on_when_same (time : Nat) (later : first ≤ time) (earlier : time ≤ second)
        (same : pooled time = pooled second) : task time = true := by
      by_contra off
      exact together ⟨time, later, earlier, Bool.eq_false_iff.mpr off, same⟩
    have differs : pooled first ≠ pooled second := by
      intro same
      have on := on_when_same first (Nat.le_refl _) ordered same
      exact Bool.false_ne_true (off.symm.trans on)
    obtain ⟨later, reached, before, other, same⟩ :=
      exists_crossing (fun time => pooled time = pooled second) ordered differs rfl
    have setPooled := set_of_changed .pooled other same
    have on : task later = true := by
      have on := on_when_same (later + 1) (Nat.le_succ_of_le reached) before same
      simp only [task, toggles_moment_succ, setPooled] at on
      exact on
    obtain ⟨turned, reached', before', wasOff, isOn⟩ :=
      exists_crossing (fun time => task time = true) reached (Bool.eq_false_iff.mp off) on
    exact .inr ⟨turned, later, _, reached', before', before,
      set_of_changed .task wasOff isOn, setPooled⟩

/-- Where every strategy is available, the rule applied to the switches that are seen decides. -/
theorem kind_selectFrom_preferred {registry : Registry} {seen : Strategy → Toggles}
    (provided : ∀ tier ∈ Strategy.preferred, registry.Provides tier) (tallies : Tallies) :
    (Dispatcher.selectFrom registry seen request previous Strategy.preferred tallies).unit.kind =
      Toggles.choice ⟨(seen .task).task, (seen .pooled).pooled⟩ := by
  rw [Dispatcher.kind_selectFrom provided]
  unfold Strategy.preferred Toggles.choice
  cases task : (seen .task).task <;> cases pooled : (seen .pooled).pooled <;>
    simp [Toggles.prefers, task, pooled]

/-- Where every strategy is available, the strategy that is selected while others set switches is
the one that the rule gives for the two switches, each as it was at a moment of the selection, that
of tasks not after that of the pool. Both held at one moment between the two, unless the switch for
tasks was turned on and after that the switch for the pool was set. -/
theorem selected_by_rule (request : Request) (previous : Option Response) (events : List Event)
    (dispatcher : Dispatcher) (unit : ExecutionUnit)
    (provided : ∀ tier ∈ Strategy.preferred, dispatcher.registry.Provides tier)
    (ended : (run request previous events (begin, dispatcher)).1 = .selected unit) :
    let state := moment request previous events (begin, dispatcher)
    let switches := fun time => (state time).2.toggles
    ∃ first second, first ≤ second ∧ second < events.length ∧
      (state first).1.unit? = none ∧ (state second).1.unit? = none ∧
      unit.kind = Toggles.choice ⟨(switches first).task, (switches second).pooled⟩ ∧
      ((∃ time, first ≤ time ∧ time ≤ second ∧ unit.kind = (switches time).choice) ∨
        ∃ on later enabled, first ≤ on ∧ on < later ∧ later < second ∧
          events[on]? = some (.set .task true) ∧ events[later]? = some (.set .pooled enabled)) := by
  intro state switches
  obtain ⟨place, turns, selected⟩ := exists_turns (show Strategy.preferred.Nodup by decide) ended
  have ordered : place .task ≤ place .pooled := by
    simpa [Strategy.preferred] using turns.ordered
  have rule : unit.kind = Toggles.choice
      ⟨(switches (place .task)).task, (switches (place .pooled)).pooled⟩ := by
    rw [selected]
    exact kind_selectFrom_preferred provided _
  refine ⟨place .task, place .pooled, ordered, turns.within .pooled (by decide),
    turns.unended .task (by decide), turns.unended .pooled (by decide), rule, ?_⟩
  cases wanted : (switches (place .task)).task with
  | true =>
    refine .inl ⟨place .task, Nat.le_refl _, ordered, ?_⟩
    rw [rule]
    simp [Toggles.choice, wanted]
  | false =>
    rcases off_together ordered wanted with ⟨time, later, earlier, same⟩ | torn
    · refine .inl ⟨time, later, earlier, ?_⟩
      rw [rule, wanted]
      exact congrArg Toggles.choice same.symm
    · exact .inr torn

/-! ## A selection that is torn -/

theorem provides_probe : ∀ tier ∈ Strategy.preferred, Registry.probe.Provides tier := by
  intro tier member
  simp only [Strategy.preferred, List.mem_cons, List.not_mem_nil, or_false] at member
  rcases member with rfl | rfl
  · exact ⟨_, rfl, fun _ _ _ => ⟨_, rfl, rfl⟩⟩
  · exact ⟨_, rfl, fun _ _ _ => ⟨_, rfl, rfl⟩⟩

/-- A request for the root of a host. -/
def rootRequest : Request :=
  .new .get ⟨"http", "", none, some (.domain "a"), none, .rooted [""], none, none⟩

/-- A dispatcher by which the pool is wanted. -/
def poolWanted : Dispatcher := .new .probe ⟨false, true⟩

/-- Between the two looks of a selection tasks come to be wanted, and after that the pool no longer
is. -/
def changeOfMind : List Event := [.step, .set .task true, .set .pooled false, .step, .step]

theorem run_changeOfMind :
    (run rootRequest none changeOfMind (begin, poolWanted)).1 =
      .selected (.fallback rootRequest none) := rfl

/-- What is selected then is what the rule gives for the switches as they were at two moments. -/
theorem selected_by_rule_torn :
    let switches := fun time =>
      (moment rootRequest none changeOfMind (begin, poolWanted) time).2.toggles
    ∃ first second, first ≤ second ∧ second < changeOfMind.length ∧
      Strategy.blocking = Toggles.choice ⟨(switches first).task, (switches second).pooled⟩ := by
  intro switches
  obtain ⟨first, second, ordered, inside, -, -, rule, -⟩ := selected_by_rule rootRequest none
    changeOfMind poolWanted _ provides_probe run_changeOfMind
  exact ⟨first, second, ordered, inside, rule⟩

/-- A strategy may be selected that the rule gives at no moment. -/
theorem selected_against_rule :
    ¬ ∀ (request : Request) (previous : Option Response) (events : List Event)
      (dispatcher : Dispatcher) (unit : ExecutionUnit),
      (∀ tier ∈ Strategy.preferred, dispatcher.registry.Provides tier) →
      (run request previous events (begin, dispatcher)).1 = .selected unit →
      ∃ time ≤ events.length, unit.kind =
        (moment request previous events (begin, dispatcher) time).2.toggles.choice := by
  intro ruled
  obtain ⟨time, within, same⟩ :=
    ruled rootRequest none changeOfMind poolWanted _ provides_probe run_changeOfMind
  have never : ∀ time ≤ changeOfMind.length, Strategy.blocking ≠
      (moment rootRequest none changeOfMind (begin, poolWanted) time).2.toggles.choice := by
    decide
  exact never time within same

end Selecting

end Courier
