import Courier.Proofs.AmbientVisits
import Mathlib.Data.List.Induction
import Mathlib.Data.List.Nodup

/-! # Who makes the ambient client

Visits to the ambient client run at once, each in a thread of its own, and those who have got the
client work with it meanwhile. The visits take effect one after another, each between the moment when
it begins and that when it returns, as if their uses had been made in this order. So the slot is
filled once, everyone who asks gets the client that is there, and the first use that has settings
decides which ones the client has.
-/

namespace Courier.Ambient

/-! ## Visits at once -/

/-- Visits to the slot, each in a thread of its own. -/
structure Race where
  toggles : Toggles
  slot : Slot
  /-- The visits that have begun, in order. -/
  visits : List Visit
  /-- What was done to the client, in order. -/
  history : List Deed

namespace Race

/-- No visits yet. -/
def start (toggles : Toggles) : Race := ⟨toggles, .empty, [], []⟩

/-- What happens next. -/
inductive Event
  /-- A visit begins. -/
  | call (use : Use)
  /-- The visit at a place makes a step. -/
  | step (place : Nat)
  /-- Who has got the client from the visit at a place works with it. -/
  | work (place : Nat) (dispatcher : Dispatcher) (stats : Stats)

/-- The visits after an event. -/
def apply (race : Race) : Event → Race
  | .call use => { race with visits := race.visits ++ [⟨use, .begun⟩] }
  | .step place =>
    match race.visits[place]? with
    | none => race
    | some ⟨use, stage⟩ =>
      let (stage, slot, deeds) := stage.step race.toggles place use race.slot
      { race with
        slot, visits := race.visits.set place ⟨use, stage⟩, history := race.history ++ deeds }
  | .work place dispatcher stats =>
    match race.visits[place]? with
    | some ⟨_, .left (.client maker)⟩ =>
      if race.slot.maker? = some maker then
        { race with
          slot := race.slot.work dispatcher stats
          history := race.history ++ [.work dispatcher stats] }
      else race
    | _ => race

/-- The visits after events. -/
def run (events : List Event) (race : Race) : Race := events.foldl apply race

theorem run_append (first second : List Event) (race : Race) :
    race.run (first ++ second) = (race.run first).run second :=
  List.foldl_append

theorem run_concat (events : List Event) (event : Event) (race : Race) :
    race.run (events ++ [event]) = (race.run events).apply event :=
  List.foldl_concat ..

/-- What an event can do. -/
inductive Happened (race : Race) : Event → Race → Prop
  | called (use : Use) :
      Happened race (.call use) { race with visits := race.visits ++ [⟨use, .begun⟩] }
  | stepped {place : Nat} {use : Use} {stage stage' : Stage} {slot : Slot} {deeds : List Deed}
      (found : race.visits[place]? = some ⟨use, stage⟩)
      (stepped : Stepped race.toggles place use stage race.slot (stage', slot, deeds)) :
      Happened race (.step place)
        { race with
          slot, visits := race.visits.set place ⟨use, stage'⟩, history := race.history ++ deeds }
  | worked {place maker : Nat} {client : Client} {dispatcher : Dispatcher} {stats : Stats}
      (there : race.slot = .filled maker client) :
      Happened race (.work place dispatcher stats)
        { race with
          slot := .filled maker { client with dispatcher, stats }
          history := race.history ++ [.work dispatcher stats] }
  | absent {place : Nat} (absent : race.visits[place]? = none) : Happened race (.step place) race
  | unheld {place : Nat} {dispatcher : Dispatcher} {stats : Stats} :
      Happened race (.work place dispatcher stats) race

theorem happened_apply (race : Race) (event : Event) : Happened race event (race.apply event) := by
  cases event with
  | call use => exact .called use
  | step place =>
    unfold apply
    dsimp only
    cases found : race.visits[place]? with
    | none => exact .absent found
    | some visit => exact .stepped found (stepped_step ..)
  | work place dispatcher stats =>
    unfold apply
    dsimp only
    split
    · split
      · rename_i there
        obtain ⟨client, there⟩ := Slot.maker?_eq_some_iff.mp there
        rw [there]
        exact .worked there
      · exact .unheld
    · exact .unheld

/-- A step of a visit changes only its own stage and the slot. -/
theorem step_at (race : Race) {place : Nat} {use : Use} {stage : Stage}
    (found : race.visits[place]? = some ⟨use, stage⟩) :
    ∃ stage' deeds,
      (race.apply (.step place)).visits = race.visits.set place ⟨use, stage'⟩ ∧
      Stepped race.toggles place use stage race.slot
        (stage', (race.apply (.step place)).slot, deeds) := by
  have happened := happened_apply race (.step place)
  generalize race.apply (.step place) = after at happened ⊢
  cases happened with
  | absent absent => cases absent.symm.trans found
  | stepped found' stepped =>
    obtain ⟨rfl, rfl⟩ := Visit.mk.inj (Option.some.inj (found.symm.trans found'))
    exact ⟨_, _, rfl, stepped⟩

/-- The visits of a race, the slot, and what has been recorded, fit together. -/
structure Sound (race : Race) : Prop where
  visits : ∀ place (visit : Visit), race.visits[place]? = some visit →
    visit.Sound race.toggles race.slot place
  /-- Who is to fill the slot is about to. -/
  filler : ∀ place, race.slot = .filling place →
    ∃ visit, race.visits[place]? = some visit ∧ visit.stage = .filling
  /-- Of every visit that has taken effect its use is recorded once, and of the others nothing. -/
  recorded : ∀ place, race.history.filter (Deed.isOf place) =
    race.visits[place]?.elim [] (Visit.record place)

theorem sound_start (toggles : Toggles) : (start toggles).Sound where
  visits place visit found := by cases found
  filler place waits := by cases waits
  recorded place := rfl

variable {race : Race}

/-- What stands at a place when one more has begun stood there before, or is the one. -/
theorem getElem?_concat_cases {visits : List Visit} {place : Nat} {visit fresh : Visit}
    (found : (visits ++ [fresh])[place]? = some visit) :
    visits[place]? = some visit ∨ visit = fresh := by
  rw [List.getElem?_append] at found
  split at found
  · exact .inl found
  · rw [List.getElem?_singleton] at found
    split at found
    · exact .inr (Option.some.inj found).symm
    · cases found

theorem Sound.called (sound : race.Sound) (use : Use) :
    Sound { race with visits := race.visits ++ [⟨use, .begun⟩] } := by
  have old {place : Nat} {visit : Visit} (found : race.visits[place]? = some visit) :
      (race.visits ++ [⟨use, .begun⟩])[place]? = some visit := by
    obtain ⟨inside, -⟩ := List.getElem?_eq_some_iff.mp found
    exact (List.getElem?_append_left inside).trans found
  constructor
  · intro place visit found
    rcases getElem?_concat_cases found with found | rfl
    · exact sound.visits place visit found
    · trivial
  · intro place waits
    obtain ⟨visit, found, fills⟩ := sound.filler place waits
    exact ⟨visit, old found, fills⟩
  · intro place
    rw [sound.recorded place]
    dsimp only
    cases found : race.visits[place]? with
    | some visit => rw [old found]
    | none =>
      cases found' : (race.visits ++ [⟨use, .begun⟩])[place]? with
      | none => rfl
      | some visit =>
        obtain rfl := (getElem?_concat_cases found').resolve_left (by rw [found]; exact nofun)
        rfl

theorem Sound.stepped (sound : race.Sound) {place : Nat} {use : Use} {stage stage' : Stage}
    {slot : Slot} {deeds : List Deed} (found : race.visits[place]? = some ⟨use, stage⟩)
    (stepped : Stepped race.toggles place use stage race.slot (stage', slot, deeds)) :
    Sound { race with
      slot, visits := race.visits.set place ⟨use, stage'⟩, history := race.history ++ deeds } := by
  obtain ⟨inside, -⟩ := List.getElem?_eq_some_iff.mp found
  have here : (race.visits.set place ⟨use, stage'⟩)[place]? = some ⟨use, stage'⟩ :=
    List.getElem?_set_self inside
  have there {other : Nat} (away : other ≠ place) :
      (race.visits.set place ⟨use, stage'⟩)[other]? = race.visits[other]? :=
    List.getElem?_set_ne away.symm
  have before := sound.visits place _ found
  constructor
  · intro other visit found'
    by_cases same : other = place
    · subst same
      obtain rfl := Option.some.inj (here.symm.trans found')
      exact stepped.sound before
    · exact (sound.visits other visit ((there same).symm.trans found')).mono
        (stepped.maker?_eq before) (stepped.eq_of_filling before same)
  · rintro other rfl
    rcases stepped.of_filling with ⟨rfl, fills⟩ | ⟨waited, goesOn⟩
    · exact ⟨_, here, fills⟩
    · obtain ⟨visit, found', fills⟩ := sound.filler other waited
      by_cases same : other = place
      · subst same
        obtain rfl := Option.some.inj (found.symm.trans found')
        exact absurd fills goesOn
      · exact ⟨visit, (there same).trans found', fills⟩
  · intro other
    dsimp only
    rw [List.filter_append, sound.recorded other]
    by_cases same : other = place
    · subst same
      rw [found, here, stepped.filter_deeds]
      exact stepped.record_eq
    · rw [there same, stepped.filter_deeds_of_ne same, List.append_nil]

theorem Sound.worked (sound : race.Sound) {maker : Nat} {client : Client}
    (there : race.slot = .filled maker client) (dispatcher : Dispatcher) (stats : Stats) :
    Sound { race with
      slot := .filled maker { client with dispatcher, stats }
      history := race.history ++ [.work dispatcher stats] } := by
  constructor
  · intro place visit found
    have before := sound.visits place visit found
    rw [there] at before
    exact before.mono (fun _ filled => filled) nofun
  · exact nofun
  · intro place
    dsimp only
    rw [List.filter_append, ← sound.recorded place]
    exact List.append_nil _

theorem Sound.apply (sound : race.Sound) (event : Event) : (race.apply event).Sound := by
  have happened := happened_apply race event
  generalize race.apply event = after at happened ⊢
  cases happened with
  | called use => exact sound.called use
  | stepped found stepped => exact sound.stepped found stepped
  | worked there => exact sound.worked there ..
  | absent absent => exact sound
  | unheld => exact sound

theorem Sound.run (sound : race.Sound) (events : List Event) : (race.run events).Sound := by
  induction events generalizing race with
  | nil => exact sound
  | cons event rest ih => exact ih (sound.apply event)

/-! ## What a race comes to -/

/-- The ambient client as the slot has it. -/
def view (race : Race) : Ambient := ⟨race.toggles, race.slot.client?⟩

/-- What an event does to the slot is what the deeds that it records do to the ambient client. -/
theorem Sound.exists_deeds (sound : race.Sound) (event : Event) :
    ∃ deeds, (race.apply event).history = race.history ++ deeds ∧
      (race.apply event).view = race.view.performAll deeds := by
  have happened := happened_apply race event
  generalize race.apply event = after at happened ⊢
  cases happened with
  | called use => exact ⟨[], (List.append_nil _).symm, rfl⟩
  | stepped found stepped =>
    exact ⟨_, rfl, stepped.client_eq (sound.visits _ _ found)⟩
  | worked there =>
    refine ⟨_, rfl, ?_⟩
    unfold view
    rw [there]
    rfl
  | absent absent => exact ⟨[], (List.append_nil _).symm, rfl⟩
  | unheld => exact ⟨[], (List.append_nil _).symm, rfl⟩

theorem Sound.exists_deeds_run (sound : race.Sound) (events : List Event) :
    ∃ deeds, (race.run events).history = race.history ++ deeds ∧
      (race.run events).view = race.view.performAll deeds := by
  induction events generalizing race with
  | nil => exact ⟨[], (List.append_nil _).symm, rfl⟩
  | cons event rest ih =>
    obtain ⟨first, recorded, done⟩ := sound.exists_deeds event
    obtain ⟨second, recorded', done'⟩ := ih (sound.apply event)
    refine ⟨first ++ second, ?_, ?_⟩
    · exact recorded'.trans (by rw [recorded, List.append_assoc])
    · exact done'.trans (by rw [done, performAll_append])

/-- A client that is there stays there, with its settings. -/
theorem Sound.filled_run (sound : race.Sound) {maker : Nat} {client : Client}
    (there : race.slot = .filled maker client) (events : List Event) :
    ∃ client', (race.run events).slot = .filled maker client' ∧
      client'.settings = client.settings := by
  induction events generalizing race client with
  | nil => exact ⟨client, there, rfl⟩
  | cons event rest ih =>
    obtain ⟨client', there', same⟩ : ∃ client', (race.apply event).slot = .filled maker client' ∧
        client'.settings = client.settings := by
      have happened := happened_apply race event
      generalize race.apply event = after at happened ⊢
      cases happened with
      | called use => exact ⟨client, there, rfl⟩
      | stepped found stepped =>
        have before := sound.visits _ _ found
        rw [there] at stepped before
        exact ⟨client, stepped.eq_of_filled before, rfl⟩
      | worked there' =>
        obtain ⟨rfl, rfl⟩ := Slot.filled.inj (there.symm.trans there')
        exact ⟨_, rfl, rfl⟩
      | absent absent => exact ⟨client, there, rfl⟩
      | unheld => exact ⟨client, there, rfl⟩
    obtain ⟨last, final, same'⟩ := ih (sound.apply event) there'
    exact ⟨last, final, same'.trans same⟩

section Start

variable (toggles : Toggles) (events : List Event)

theorem sound_run : ((start toggles).run events).Sound := (sound_start toggles).run events

/-- Whatever the order of the steps, the visits take effect one after another. -/
theorem view_run :
    ((start toggles).run events).view =
      (Ambient.start toggles).performAll ((start toggles).run events).history := by
  obtain ⟨deeds, recorded, done⟩ := (sound_start toggles).exists_deeds_run events
  obtain rfl : ((start toggles).run events).history = deeds := recorded
  exact done

/-- The client has the settings of the first use that has any. -/
theorem settings_run :
    ((start toggles).run events).slot.client?.map (·.settings) =
      (Deed.uses ((start toggles).run events).history).findSome? Use.settings? := by
  have done := congrArg (fun ambient => ambient.client.map (·.settings)) (view_run toggles events)
  exact done.trans (settings_performAll ..)

end Start

/-! ### Copies of the counters -/

/-- Each load for a copy is made at a moment of the visit, from the counters of the client. -/
def Loaded (toggles : Toggles) (events : List Event) (place maker : Nat) (loaded : List Stats) :
    Prop :=
  ∀ load stats, loaded[load]? = some stats → ∃ earlier client, earlier <+: events ∧
    ((start toggles).run earlier).visits[place]? =
      some ⟨.stats, .copying maker (loaded.take load)⟩ ∧
    ((start toggles).run earlier).slot = .filled maker client ∧ client.stats = stats

/-- The copy that a visit makes, or has made, is made of such loads. -/
def Copied (toggles : Toggles) (events : List Event) (place : Nat) : Stage → Prop
  | .copying maker loaded => loaded.length ≤ loads ∧ Loaded toggles events place maker loaded
  | .left (.counters maker copy) => ∃ loaded, loaded.length = loads ∧ copy = copyOf loaded ∧
      Loaded toggles events place maker loaded
  | _ => True

theorem copied_found {toggles : Toggles} {events : List Event} {place : Nat} (use : Use)
    (maker : Nat) : Copied toggles events place (use.found maker) := by
  cases use with
  | stats => exact ⟨Nat.zero_le _, fun load stats here => by cases here⟩
  | client => trivial
  | init settings => trivial

theorem Loaded.mono {toggles : Toggles} {events events' : List Event} {place maker : Nat}
    {loaded : List Stats} (made : Loaded toggles events place maker loaded)
    (longer : events <+: events') : Loaded toggles events' place maker loaded := by
  intro load stats here
  obtain ⟨earlier, client, before, rest⟩ := made load stats here
  exact ⟨earlier, client, before.trans longer, rest⟩

/-- One more load is made now. -/
theorem Loaded.concat {toggles : Toggles} {events : List Event} (event : Event) {place maker : Nat}
    {loaded : List Stats} {client : Client} (made : Loaded toggles events place maker loaded)
    (copying : ((start toggles).run events).visits[place]? = some ⟨.stats, .copying maker loaded⟩)
    (there : ((start toggles).run events).slot = .filled maker client) :
    Loaded toggles (events ++ [event]) place maker (loaded ++ [client.stats]) := by
  intro load stats here
  rw [List.getElem?_append] at here
  split at here
  · rename_i before
    rw [List.take_append_of_le_length (Nat.le_of_lt before)]
    exact made.mono (List.prefix_append ..) load stats here
  · rename_i last
    rw [List.getElem?_singleton] at here
    split at here
    · obtain rfl : load = loaded.length := by omega
      rw [List.take_left]
      exact ⟨events, client, List.prefix_append .., copying, there, Option.some.inj here⟩
    · cases here

theorem Copied.mono {toggles : Toggles} {events events' : List Event} {place : Nat} {stage : Stage}
    (copied : Copied toggles events place stage) (longer : events <+: events') :
    Copied toggles events' place stage := by
  cases stage with
  | copying maker loaded => exact ⟨copied.1, copied.2.mono longer⟩
  | left answer =>
    cases answer with
    | counters maker copy =>
      obtain ⟨loaded, all, made, from'⟩ := copied
      exact ⟨loaded, all, made, from'.mono longer⟩
    | _ => trivial
  | _ => trivial

/-- What stands at a place after an event was there before, or has begun, or has made a step. -/
theorem Happened.cases {event : Event} {after : Race} (happened : Happened race event after)
    {place : Nat} {use : Use} {stage : Stage} (found : after.visits[place]? = some ⟨use, stage⟩) :
    race.visits[place]? = some ⟨use, stage⟩ ∨ stage = .begun ∨
      ∃ before deeds, race.visits[place]? = some ⟨use, before⟩ ∧
        Stepped race.toggles place use before race.slot (stage, after.slot, deeds) := by
  cases happened with
  | called use =>
    rcases getElem?_concat_cases found with found | fresh
    · exact .inl found
    · exact .inr (.inl (Visit.mk.inj fresh).2)
  | @stepped other _ _ _ _ _ there stepped =>
    by_cases same : place = other
    · subst same
      obtain ⟨inside, -⟩ := List.getElem?_eq_some_iff.mp there
      have here := (List.getElem?_set_self inside).symm.trans found
      obtain ⟨rfl, rfl⟩ := Visit.mk.inj (Option.some.inj here)
      exact .inr (.inr ⟨_, _, there, stepped⟩)
    · exact .inl ((List.getElem?_set_ne (Ne.symm same)).symm.trans found)
  | worked there => exact .inl found
  | absent absent => exact .inl found
  | unheld => exact .inl found

/-- A step keeps to the loads that were made. -/
theorem Copied.stepped {toggles : Toggles} {events : List Event} (event : Event) {place : Nat}
    {use : Use} {before stage : Stage} {slot : Slot} {deeds : List Deed}
    (found : ((start toggles).run events).visits[place]? = some ⟨use, before⟩)
    (stepped : Stepped ((start toggles).run events).toggles place use before
      ((start toggles).run events).slot (stage, slot, deeds))
    (copied : Copied toggles events place before) :
    Copied toggles (events ++ [event]) place stage := by
  have sound := (sound_run toggles events).visits place _ found
  generalize there : ((start toggles).run events).slot = now at stepped sound
  cases stepped with
  | refused given faulty => trivial
  | made offers => trivial
  | taken => trivial
  | late => trivial
  | claimed asks => trivial
  | filled => exact copied_found ..
  | found asks => exact copied_found ..
  | loaded few =>
    obtain rfl : use = .stats := sound.1
    refine ⟨?_, copied.2.concat event found there⟩
    rw [List.length_append]
    exact few
  | copied all =>
    exact ⟨_, Nat.le_antisymm copied.1 (Nat.le_of_not_lt all), rfl,
      copied.2.mono (List.prefix_append ..)⟩
  | stayed unclaimed idle => exact copied.mono (List.prefix_append ..)

theorem copied_run (toggles : Toggles) (events : List Event) {place : Nat} {use : Use}
    {stage : Stage} (found : ((start toggles).run events).visits[place]? = some ⟨use, stage⟩) :
    Copied toggles events place stage := by
  induction events using List.reverseRecOn generalizing stage with
  | nil => cases found
  | append_singleton events event ih =>
    rw [run_concat] at found
    rcases (happened_apply ..).cases found with found | rfl | ⟨before, deeds, found, stepped⟩
    · exact (ih found).mono (List.prefix_append ..)
    · trivial
    · exact (ih found).stepped event found stepped

/-! ### Visits that change nothing -/

/-- A visit that gives settings with a fault, or finds a client there, leaves the slot as it is. -/
theorem Sound.slot_of_idle (sound : race.Sound) {place : Nat} {settings : Settings} {stage : Stage}
    (found : race.visits[place]? = some ⟨.init settings, stage⟩)
    (idle : settings.validate ≠ .ok () ∨ ∃ maker client, race.slot = .filled maker client) :
    (race.apply (.step place)).slot = race.slot := by
  obtain ⟨stage', deeds, -, stepped⟩ := race.step_at found
  have before := sound.visits place _ found
  generalize (race.apply (.step place)).slot = after at stepped ⊢
  generalize race.slot = slot at stepped idle before ⊢
  cases stepped with
  | taken =>
    obtain ⟨settings', ⟨same, faultless⟩, -⟩ := before
    obtain rfl := Use.init.inj same
    rcases idle with faulty | ⟨maker, client, there⟩
    · exact absurd faultless faulty
    · cases there
  | claimed asks => cases asks
  | filled => cases before.1
  | _ => rfl

/-! ### Visits that return -/

/-- A visit that need not wait returns after some steps of its own. -/
theorem Sound.exists_answer_of_free (sound : race.Sound) {place : Nat} {use : Use} {stage : Stage}
    (found : race.visits[place]? = some ⟨use, stage⟩)
    (free : ∀ maker, race.slot = .filling maker → stage = .filling) :
    ∃ steps answer,
      (race.run (List.replicate steps (.step place))).visits[place]? =
        some ⟨use, .left answer⟩ := by
  induction bound : stage.remaining using Nat.strongRecOn generalizing race stage with
  | ind remaining ih =>
    by_cases ended : ∃ answer, stage = .left answer
    · obtain ⟨answer, rfl⟩ := ended
      exact ⟨0, answer, found⟩
    · obtain ⟨stage', deeds, stood, stepped⟩ := race.step_at found
      obtain ⟨inside, -⟩ := List.getElem?_eq_some_iff.mp found
      have here : (race.apply (.step place)).visits[place]? = some ⟨use, stage'⟩ := by
        rw [stood]
        exact List.getElem?_set_self inside
      obtain ⟨less, free'⟩ := stepped.remaining_lt (sound.visits place _ found) free
        fun answer same => ended ⟨answer, same⟩
      obtain ⟨steps, answer, returned⟩ := ih _ (bound ▸ less) (sound.apply _) here free' rfl
      exact ⟨steps + 1, answer, returned⟩

/-- Every visit returns after some steps of its own, before which the visit for which it waits may
have to make one. -/
theorem Sound.exists_answer (sound : race.Sound) {place : Nat} {use : Use} {stage : Stage}
    (found : race.visits[place]? = some ⟨use, stage⟩) :
    ∃ (steps : List Nat) (answer : Answer),
      (race.run (steps.map .step)).visits[place]? = some ⟨use, .left answer⟩ := by
  by_cases free : ∀ maker, race.slot = .filling maker → stage = .filling
  · obtain ⟨steps, answer, returned⟩ := sound.exists_answer_of_free found free
    exact ⟨List.replicate steps place, answer, by rw [List.map_replicate]; exact returned⟩
  · push Not at free
    obtain ⟨maker, waits, unclaimed⟩ := free
    obtain ⟨⟨use', stage'⟩, found', rfl⟩ := sound.filler maker waits
    have away : maker ≠ place := by
      rintro rfl
      exact unclaimed (Visit.mk.inj (Option.some.inj (found.symm.trans found'))).2
    obtain ⟨stage', deeds, stood, stepped⟩ := race.step_at found'
    have here : (race.apply (.step maker)).visits[place]? = some ⟨use, stage⟩ := by
      rw [stood]
      exact (List.getElem?_set_ne away).trans found
    have free' : ∀ other, (race.apply (.step maker)).slot = .filling other → stage = .filling := by
      intro other waits'
      generalize (race.apply (.step maker)).slot = slot at stepped waits'
      cases stepped with
      | filled => cases waits'
      | stayed unclaimed' idle => exact absurd rfl unclaimed'
    obtain ⟨steps, answer, returned⟩ := (sound.apply _).exists_answer_of_free here free'
    exact ⟨maker :: List.replicate steps place, answer, by
      rw [List.map_cons, List.map_replicate]; exact returned⟩

/-! ### Everything together -/

/-- The uses that are recorded are those of the visits that have taken effect. -/
theorem Sound.mem_history_iff (sound : race.Sound) {place : Nat} {use : Use} :
    .use place use ∈ race.history ↔
      ∃ stage, race.visits[place]? = some ⟨use, stage⟩ ∧ stage.took = true := by
  have kept : (Deed.use place use).isOf place = true := decide_eq_true rfl
  have filtered : .use place use ∈ race.history ↔
      .use place use ∈ race.visits[place]?.elim [] (Visit.record place) := by
    rw [← sound.recorded place, List.mem_filter, and_iff_left kept]
  rw [filtered]
  constructor
  · intro member
    cases found : race.visits[place]? with
    | none =>
      rw [found] at member
      cases member
    | some visit =>
      rw [found] at member
      obtain ⟨same, took⟩ := Visit.eq_of_mem_record member
      obtain ⟨-, rfl⟩ := Deed.use.inj same
      exact ⟨visit.stage, rfl, took⟩
  · rintro ⟨stage, found, took⟩
    have record : Visit.record place ⟨use, stage⟩ = [.use place use] := if_pos took
    rw [found, Option.elim_some, record]
    exact List.mem_cons_self

/-- No visit takes effect twice. -/
theorem Sound.nodup_visits (sound : race.Sound) : (Deed.visits race.history).Nodup := by
  rw [List.nodup_iff_count_le_one]
  intro place
  rw [Deed.count_visits, sound.recorded place]
  cases race.visits[place]? with
  | none => exact Nat.zero_le _
  | some visit =>
    change (visit.record place).length ≤ 1
    unfold Visit.record
    split
    · exact Nat.le_refl _
    · exact Nat.zero_le _

/-- What has taken effect stands before everything that takes effect later. -/
theorem Sound.exists_visits_run (sound : race.Sound) (events : List Event) {first second : Nat}
    {use : Use} {stage : Stage} (found : race.visits[first]? = some ⟨use, stage⟩)
    (took : stage.took = true) (absent : race.visits[second]? = none)
    (later : second ∈ Deed.visits (race.run events).history) :
    ∃ before after, Deed.visits (race.run events).history = before ++ after ∧
      first ∈ before ∧ second ∈ after := by
  obtain ⟨deeds, recorded, -⟩ := sound.exists_deeds_run events
  rw [recorded, Deed.visits_append] at later ⊢
  have recorded := Deed.mem_visits.mpr ⟨use, sound.mem_history_iff.mpr ⟨stage, found, took⟩⟩
  refine ⟨_, _, rfl, recorded, (List.mem_append.mp later).resolve_left fun early => ?_⟩
  obtain ⟨use', early⟩ := Deed.mem_visits.mp early
  obtain ⟨stage', found', -⟩ := sound.mem_history_iff.mp early
  cases absent.symm.trans found'

/-- Whoever has asked for the client has got the one that is there. -/
theorem Sound.of_client (sound : race.Sound) {place : Nat} {answer : Answer}
    (found : race.visits[place]? = some ⟨.client, .left answer⟩) :
    ∃ maker, answer = .client maker ∧ race.slot.maker? = some maker := by
  have visit := sound.visits place _ found
  cases answer with
  | nothing => exact absurd trivial visit
  | client maker => exact ⟨maker, rfl, visit.2⟩
  | counters maker copy => cases visit.1

/-- Whoever has asked for the counters has got a copy of those of the client that is there. -/
theorem Sound.of_stats (sound : race.Sound) {place : Nat} {answer : Answer}
    (found : race.visits[place]? = some ⟨.stats, .left answer⟩) :
    ∃ maker copy, answer = .counters maker copy ∧ race.slot.maker? = some maker := by
  have visit := sound.visits place _ found
  cases answer with
  | nothing => exact absurd trivial visit
  | client maker => cases visit.1
  | counters maker copy => exact ⟨maker, copy, rfl, visit.2⟩

/-- There is a client when a visit has taken effect that asks for it or offers settings. -/
theorem exists_filled_iff (toggles : Toggles) (events : List Event) :
    (∃ maker client, ((start toggles).run events).slot = .filled maker client) ↔
      ∃ use ∈ Deed.uses ((start toggles).run events).history,
        use.Asks ∨ ∃ settings, use.Offers settings := by
  have settings := settings_run toggles events
  generalize ((start toggles).run events).slot = slot at settings ⊢
  have there : (∃ maker client, slot = .filled maker client) ↔
      slot.client?.map (·.settings) ≠ none := by
    cases slot <;> simp [Slot.client?]
  rw [there, settings, ne_eq, List.findSome?_eq_none_iff]
  push Not
  refine exists_congr fun use => and_congr_right fun _ => ?_
  rw [ne_eq, Use.settings?_eq_none_iff, not_and_or, not_not, not_forall]
  simp only [not_not]

/-- What is so of the visits after events, in whatever order they have made their steps. -/
structure Settled (toggles : Toggles) (events : List Event) (race : Race) : Prop where
  /-- The visits take effect one after another, each as its use does by itself. -/
  view_eq : race.view = (Ambient.start toggles).performAll race.history
  /-- No visit takes effect twice. -/
  once : (Deed.visits race.history).Nodup
  /-- What takes effect is the use of a visit that has begun. -/
  begun : ∀ place use, .use place use ∈ race.history →
    ∃ stage, race.visits[place]? = some ⟨use, stage⟩
  /-- A visit that has returned has taken effect. -/
  returned : ∀ (place : Nat) (use : Use) (answer : Answer),
    race.visits[place]? = some ⟨use, .left answer⟩ → .use place use ∈ race.history
  /-- A visit that has returned before another begins takes effect before it. -/
  ordered : ∀ earlier, earlier <+: events → ∀ (first second : Nat) (use : Use) (answer : Answer),
    ((start toggles).run earlier).visits[first]? = some ⟨use, .left answer⟩ →
    ((start toggles).run earlier).visits[second]? = none → second ∈ Deed.visits race.history →
    ∃ before after, Deed.visits race.history = before ++ after ∧ first ∈ before ∧ second ∈ after
  /-- There is a client when a visit has taken effect that asks for it or offers settings. -/
  there_iff : (∃ maker client, race.slot = .filled maker client) ↔
    ∃ use ∈ Deed.uses race.history, use.Asks ∨ ∃ settings, use.Offers settings
  /-- The client is never replaced, and keeps its settings. -/
  kept : ∀ earlier, earlier <+: events → ∀ maker client,
    ((start toggles).run earlier).slot = .filled maker client →
    ∃ client', race.slot = .filled maker client' ∧ client'.settings = client.settings
  /-- Every visit that asks for the client gets the one that is there. -/
  client : ∀ (place : Nat) (answer : Answer),
    race.visits[place]? = some ⟨.client, .left answer⟩ →
    ∃ maker, answer = .client maker ∧ race.slot.maker? = some maker
  /-- Every visit that asks for the counters gets a copy of those of the client that is there. -/
  counters : ∀ (place : Nat) (answer : Answer),
    race.visits[place]? = some ⟨.stats, .left answer⟩ →
    ∃ maker loaded, answer = .counters maker (copyOf loaded) ∧ race.slot.maker? = some maker ∧
      loaded.length = loads ∧ Loaded toggles events place maker loaded
  /-- If settings are given in time, the client has them. -/
  inTime : ∀ maker client, race.slot = .filled maker client → ∀ settings,
    GivenInTime (Deed.uses race.history) settings → client.settings = settings
  /-- If none are, it has the standard settings. -/
  standard : ∀ maker client, race.slot = .filled maker client →
    (∀ settings, ¬ GivenInTime (Deed.uses race.history) settings) → client.settings = .standard
  /-- A visit that gives settings with a fault, or finds a client there, changes nothing. -/
  idle : ∀ (place : Nat) (settings : Settings) (stage : Stage),
    race.visits[place]? = some ⟨.init settings, stage⟩ →
    settings.validate ≠ .ok () ∨ (∃ maker client, race.slot = .filled maker client) →
    (race.apply (.step place)).slot = race.slot ∧ ∀ other, other ≠ place →
      (race.apply (.step place)).visits[other]? = race.visits[other]?
  /-- Every visit can return, if those that are there make steps. -/
  returns : ∀ (place : Nat) (use : Use) (stage : Stage),
    race.visits[place]? = some ⟨use, stage⟩ →
    ∃ (steps : List Nat) (answer : Answer),
      (race.run (steps.map .step)).visits[place]? = some ⟨use, .left answer⟩

/-- Visits to the ambient client, in any number and from any threads, take effect one after another,
in an order that no visit that returns before another begins contradicts. The client that is there
first stays, and all who ask for it or its counters get that client, which has the first settings
without a fault if these were given before anyone asked, and else the standard settings. -/
theorem settles (toggles : Toggles) (events : List Event) :
    Settled toggles events ((start toggles).run events) := by
  have sound := sound_run toggles events
  have decided {maker : Nat} {client : Client}
      (there : ((start toggles).run events).slot = .filled maker client) :
      (Deed.uses ((start toggles).run events).history).findSome? Use.settings? =
        some client.settings := by
    rw [← settings_run, there]
    rfl
  constructor
  · exact view_run toggles events
  · exact sound.nodup_visits
  · intro place use member
    obtain ⟨stage, found, -⟩ := sound.mem_history_iff.mp member
    exact ⟨stage, found⟩
  · exact fun place use answer found => sound.mem_history_iff.mpr ⟨_, found, rfl⟩
  · rintro earlier ⟨rest, rfl⟩ first second use answer found absent later
    rw [run_append] at later ⊢
    exact (sound_run toggles earlier).exists_visits_run rest found rfl absent later
  · exact exists_filled_iff toggles events
  · rintro earlier ⟨rest, rfl⟩ maker client there
    rw [run_append]
    exact (sound_run toggles earlier).filled_run there rest
  · exact fun place answer found => sound.of_client found
  · intro place answer found
    obtain ⟨maker, copy, rfl, there⟩ := sound.of_stats found
    obtain ⟨loaded, all, rfl, made⟩ := copied_run toggles events found
    exact ⟨maker, loaded, rfl, there, all, made⟩
  · intro maker client there settings given
    exact Option.some.inj ((decided there).symm.trans given.findSome?)
  · exact fun maker client there late => standard_of_findSome? late (decided there)
  · intro place settings stage found idle
    refine ⟨sound.slot_of_idle found idle, fun other away => ?_⟩
    obtain ⟨stage', deeds, stood, -⟩ := Race.step_at _ found
    rw [stood]
    exact List.getElem?_set_ne away.symm
  · exact fun place use stage found => sound.exists_answer found

/-- Settings that were checked before anyone asked are late if they reach the slot after that. -/
example :
    ((start .off).run
      [.call (.init .standard), .step 0, .call .client, .step 1, .step 1, .step 0]).slot.maker? =
        some 1 := by
  cbv

end Race

end Courier.Ambient
