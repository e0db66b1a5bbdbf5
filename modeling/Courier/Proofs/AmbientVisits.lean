import Courier.Client.Ambient
import Mathlib.Data.List.Basic

/-! # Visits to the ambient client

The parts of a program ask for the ambient client, copy its counters, and give settings for it. A use
makes the client if there is none and it has settings for one, so one after another the uses leave the
client to the first that has any. In a thread of its own a use is a visit of several steps: settings
are checked and a client is made of them before the slot is looked at, and a visit that finds the slot
empty when it asks for the client claims the slot and lets the others wait. With one of its steps a
visit takes effect, and what this step does to the slot is what the use does to the ambient client.
-/

namespace Courier.Ambient

namespace Use

/-- The client or its counters are asked for. -/
def Asks : Use → Prop
  | .client => True
  | .stats => True
  | .init _ => False

/-- Settings without a fault are given. -/
def Offers (use : Use) (settings : Settings) : Prop :=
  use = .init settings ∧ settings.validate = .ok ()

/-- The settings of the client that is made if there is none; with a fault in them none is made. -/
def settings? : Use → Option Settings
  | .client => some .standard
  | .stats => some .standard
  | .init settings =>
    match settings.validate with
    | .ok () => some settings
    | .error _ => none

theorem Asks.settings? {use : Use} (asks : use.Asks) : use.settings? = some .standard := by
  cases use with
  | client => rfl
  | stats => rfl
  | init settings => cases asks

theorem Offers.settings? {use : Use} {settings : Settings} (offers : use.Offers settings) :
    use.settings? = some settings := by
  obtain ⟨rfl, faultless⟩ := offers
  simp only [Use.settings?, faultless]

theorem asks_or_offers {use : Use} {settings : Settings} (makes : use.settings? = some settings) :
    (use.Asks ∧ settings = .standard) ∨ use.Offers settings := by
  cases use with
  | client => exact .inl ⟨trivial, (Option.some.inj makes).symm⟩
  | stats => exact .inl ⟨trivial, (Option.some.inj makes).symm⟩
  | init given =>
    simp only [Use.settings?] at makes
    split at makes
    · rename_i faultless
      obtain rfl := Option.some.inj makes
      exact .inr ⟨rfl, faultless⟩
    · cases makes

theorem settings?_eq_none_iff {use : Use} :
    use.settings? = none ↔ ¬ use.Asks ∧ ∀ settings, ¬ use.Offers settings := by
  constructor
  · intro idle
    refine ⟨fun asks => ?_, fun settings offers => ?_⟩
    · rw [asks.settings?] at idle
      cases idle
    · rw [offers.settings?] at idle
      cases idle
  · rintro ⟨unasked, unoffered⟩
    rw [Option.eq_none_iff_forall_ne_some]
    intro settings makes
    rcases asks_or_offers makes with ⟨asks, -⟩ | offers
    · exact unasked asks
    · exact unoffered settings offers

end Use

/-! ## One use after another -/

/-- A use makes a client if there is none and it has settings for one, and does nothing else. -/
theorem apply_eq (ambient : Ambient) (use : Use) :
    ambient.apply use =
      { ambient with client := ambient.client.or (use.settings?.map ambient.newClient) } := by
  cases use with
  | client =>
    change ambient.leave ambient.globalClient = _
    unfold leave globalClient
    cases ambient.client <;> rfl
  | stats =>
    change ambient.leave ambient.globalClient = _
    unfold leave globalClient
    cases ambient.client <;> rfl
  | init settings =>
    change ambient.init settings = _
    unfold init Use.settings?
    dsimp only
    cases settings.validate with
    | error fault => simp only [Option.map_none, Option.or_none]
    | ok _ =>
      cases present : ambient.client with
      | none => rfl
      | some client =>
        change ambient = { ambient with client := some client }
        rw [← present]

/-- What is done to the ambient client. -/
inductive Deed
  /-- A visit uses it. -/
  | use (visit : Nat) (use : Use)
  /-- Those who have the client work with it, which changes its dispatcher and its counters. -/
  | work (dispatcher : Dispatcher) (stats : Stats)

namespace Deed

/-- The uses among deeds. -/
def uses (deeds : List Deed) : List Use :=
  deeds.filterMap fun
    | .use _ what => some what
    | .work .. => none

/-- The visits whose uses are among deeds. -/
def visits (deeds : List Deed) : List Nat :=
  deeds.filterMap fun
    | .use visit _ => some visit
    | .work .. => none

/-- The deed is the use of the visit at a place. -/
def isOf (place : Nat) : Deed → Bool
  | .use visit _ => visit = place
  | .work .. => false

theorem visits_append (first second : List Deed) :
    visits (first ++ second) = visits first ++ visits second :=
  List.filterMap_append

theorem mem_visits {deeds : List Deed} {place : Nat} :
    place ∈ visits deeds ↔ ∃ use, .use place use ∈ deeds := by
  unfold visits
  rw [List.mem_filterMap]
  constructor
  · rintro ⟨deed, member, named⟩
    cases deed with
    | work dispatcher stats => cases named
    | use visit what =>
      obtain rfl := Option.some.inj named
      exact ⟨what, member⟩
  · rintro ⟨use, member⟩
    exact ⟨_, member, rfl⟩

/-- As often as the use of a visit is done, the visit is named. -/
theorem count_visits (deeds : List Deed) (place : Nat) :
    (visits deeds).count place = (deeds.filter (isOf place)).length := by
  induction deeds with
  | nil => rfl
  | cons deed rest ih =>
    cases deed with
    | work dispatcher stats => exact ih
    | use visit what =>
      change (visit :: visits rest).count place = _
      by_cases same : visit = place
      · rw [List.filter_cons_of_pos (by simp [isOf, same]), same, List.count_cons_self, ih]
        rfl
      · rw [List.filter_cons_of_neg (by simp [isOf, same]), List.count_cons_of_ne same, ih]

end Deed

/-- What is left after a deed. -/
def perform (ambient : Ambient) : Deed → Ambient
  | .use _ use => ambient.apply use
  | .work dispatcher stats =>
    { ambient with client := ambient.client.map fun client => { client with dispatcher, stats } }

/-- What is left after deeds. -/
def performAll (ambient : Ambient) (deeds : List Deed) : Ambient := deeds.foldl perform ambient

theorem performAll_append (ambient : Ambient) (first second : List Deed) :
    ambient.performAll (first ++ second) = (ambient.performAll first).performAll second :=
  List.foldl_append

/-- The client has the settings that the first use has that has any, unless there was a client
before, which keeps its own. -/
theorem settings_performAll (ambient : Ambient) (deeds : List Deed) :
    (ambient.performAll deeds).client.map (·.settings) =
      (ambient.client.map (·.settings)).or ((Deed.uses deeds).findSome? Use.settings?) := by
  induction deeds generalizing ambient with
  | nil => exact (Option.or_none ..).symm
  | cons deed rest ih =>
    change ((ambient.perform deed).performAll rest).client.map (·.settings) = _
    rw [ih]
    cases deed with
    | work dispatcher stats =>
      change ((ambient.client.map _).map _).or _ = (ambient.client.map _).or _
      rw [Option.map_map]
      rfl
    | use visit use =>
      change ((ambient.apply use).client.map _).or _ =
        (ambient.client.map _).or ((use :: Deed.uses rest).findSome? Use.settings?)
      rw [apply_eq, Option.map_or, Option.or_assoc, List.findSome?_cons]
      cases use.settings? <;> rfl

/-- Settings without a fault were given before any others were, and before the client or its counters
were asked for. -/
def GivenInTime (uses : List Use) (settings : Settings) : Prop :=
  ∃ before after, uses = before ++ .init settings :: after ∧ settings.validate = .ok () ∧
    ∀ use ∈ before, ¬ use.Asks ∧ ∀ other, ¬ use.Offers other

theorem GivenInTime.findSome? {uses : List Use} {settings : Settings}
    (given : GivenInTime uses settings) : uses.findSome? Use.settings? = some settings := by
  obtain ⟨before, after, rfl, faultless, idle⟩ := given
  have makes : (Use.init settings).settings? = some settings :=
    Use.Offers.settings? ⟨rfl, faultless⟩
  refine List.findSome?_eq_some_iff.mpr ⟨before, _, after, rfl, makes, ?_⟩
  exact fun use member => Use.settings?_eq_none_iff.mpr (idle use member)

/-- The first use that has settings asks for the client, unless it gives them in time. -/
theorem standard_of_findSome? {uses : List Use} {settings : Settings}
    (late : ∀ other, ¬ GivenInTime uses other)
    (first : uses.findSome? Use.settings? = some settings) :
    settings = .standard := by
  obtain ⟨before, use, after, rfl, makes, idle⟩ := List.findSome?_eq_some_iff.mp first
  rcases Use.asks_or_offers makes with ⟨-, standard⟩ | ⟨rfl, faultless⟩
  · exact standard
  · refine absurd ⟨before, after, rfl, faultless, ?_⟩ (late settings)
    exact fun other member => Use.settings?_eq_none_iff.mp (idle other member)

/-! ## One visit -/

/-- Where the client is kept. A client is told from others by the visit that has made it. -/
inductive Slot
  | empty
  /-- A visit makes the client, and the others wait for it. -/
  | filling (maker : Nat)
  | filled (maker : Nat) (client : Client)

namespace Slot

/-- The client, if it is there. -/
def client? : Slot → Option Client
  | .filled _ client => some client
  | _ => none

/-- The visit that has made the client, if it is there. -/
def maker? : Slot → Option Nat
  | .filled maker _ => some maker
  | _ => none

/-- The slot when those who have the client have worked with it. -/
def work (dispatcher : Dispatcher) (stats : Stats) : Slot → Slot
  | .filled maker client => .filled maker { client with dispatcher, stats }
  | slot => slot

theorem maker?_eq_some_iff {slot : Slot} {maker : Nat} :
    slot.maker? = some maker ↔ ∃ client, slot = .filled maker client := by
  cases slot with
  | empty => simp [maker?]
  | filling other => simp [maker?]
  | filled other client => simp [maker?]

end Slot

/-- What a visit comes back with. -/
inductive Answer
  | nothing
  /-- The client that a visit has made. -/
  | client (maker : Nat)
  /-- A copy of the counters of that client. -/
  | counters (maker : Nat) (copy : Stats.Snapshot)

/-- How far a visit has come. -/
inductive Stage
  | begun
  /-- Its settings have no fault, and it has made a client of them. -/
  | offering (client : Client)
  /-- It makes the client for which the others wait. -/
  | filling
  /-- It copies the counters of the client that a visit has made, and has loaded some of them. -/
  | copying (maker : Nat) (loaded : List Stats)
  | left (answer : Answer)

/-- How many loads a copy of the counters takes. -/
def loads : Nat := 13

/-- The copy that loads make, each of which gets the counters as they are then. -/
def copyOf (loaded : List Stats) : Stats.Snapshot :=
  Stats.snapshotSeeing fun load => loaded.getD load .zero

/-- How a visit goes on that has found the client. -/
def Use.found (maker : Nat) : Use → Stage
  | .stats => .copying maker []
  | _ => .left (.client maker)

/-- One step of a visit: how far it comes, what becomes of the slot, and what it has done. -/
def Stage.step (toggles : Toggles) (visit : Nat) (use : Use) (stage : Stage) (slot : Slot) :
    Stage × Slot × List Deed :=
  match stage with
  | .begun =>
    match use, slot with
    | .init settings, slot =>
      match settings.validate with
      | .ok () => (.offering (.new settings .probe toggles), slot, [])
      | .error _ => (.left .nothing, slot, [.use visit use])
    | _, .empty => (.filling, .filling visit, [])
    | _, .filling maker => (.begun, .filling maker, [])
    | _, .filled maker client => (use.found maker, .filled maker client, [.use visit use])
  | .offering client =>
    match slot with
    | .empty => (.left .nothing, .filled visit client, [.use visit use])
    | .filling maker => (.offering client, .filling maker, [])
    | .filled maker present => (.left .nothing, .filled maker present, [.use visit use])
  | .filling => (use.found visit, .filled visit (.new .standard .probe toggles), [.use visit use])
  | .copying maker loaded =>
    match slot with
    | .filled holder client =>
      if holder = maker then
        if loaded.length < loads then (.copying maker (loaded ++ [client.stats]), slot, [])
        else (.left (.counters maker (copyOf loaded)), slot, [])
      else (.copying maker loaded, slot, [])
    | slot => (.copying maker loaded, slot, [])
  | .left answer => (.left answer, slot, [])

/-- What a step of a visit can do. -/
inductive Stepped (toggles : Toggles) (visit : Nat) (use : Use) :
    Stage → Slot → Stage × Slot × List Deed → Prop
  /-- Settings with a fault are passed over. -/
  | refused {slot : Slot} {settings : Settings} {fault : Settings.Fault}
      (given : use = .init settings) (faulty : settings.validate = .error fault) :
      Stepped toggles visit use .begun slot (.left .nothing, slot, [.use visit use])
  /-- A client is made of settings without a fault. -/
  | made {slot : Slot} {settings : Settings} (offers : use.Offers settings) :
      Stepped toggles visit use .begun slot (.offering (.new settings .probe toggles), slot, [])
  /-- The slot is empty, and a client is put into it. -/
  | taken {client : Client} :
      Stepped toggles visit use (.offering client) .empty
        (.left .nothing, .filled visit client, [.use visit use])
  /-- There is a client already. -/
  | late {client present : Client} {maker : Nat} :
      Stepped toggles visit use (.offering client) (.filled maker present)
        (.left .nothing, .filled maker present, [.use visit use])
  /-- The slot is empty, and the others are to wait for a client. -/
  | claimed (asks : use.Asks) :
      Stepped toggles visit use .begun .empty (.filling, .filling visit, [])
  /-- The client for which the others wait is put into the slot. -/
  | filled {slot : Slot} :
      Stepped toggles visit use .filling slot
        (use.found visit, .filled visit (.new .standard .probe toggles), [.use visit use])
  /-- The client is there. -/
  | found (asks : use.Asks) {client : Client} {maker : Nat} :
      Stepped toggles visit use .begun (.filled maker client)
        (use.found maker, .filled maker client, [.use visit use])
  /-- A counter is loaded. -/
  | loaded {client : Client} {maker : Nat} {earlier : List Stats} (few : earlier.length < loads) :
      Stepped toggles visit use (.copying maker earlier) (.filled maker client)
        (.copying maker (earlier ++ [client.stats]), .filled maker client, [])
  /-- All counters have been loaded. -/
  | copied {client : Client} {maker : Nat} {earlier : List Stats}
      (all : ¬ earlier.length < loads) :
      Stepped toggles visit use (.copying maker earlier) (.filled maker client)
        (.left (.counters maker (copyOf earlier)), .filled maker client, [])
  /-- The visit has ended, or waits. -/
  | stayed {stage : Stage} {slot : Slot} (unclaimed : stage ≠ .filling)
      (idle : (∃ answer, stage = .left answer) ∨ (∃ maker, slot = .filling maker) ∨
        ∃ maker loaded, stage = .copying maker loaded ∧ slot.maker? ≠ some maker) :
      Stepped toggles visit use stage slot (stage, slot, [])

theorem stepped_step (toggles : Toggles) (visit : Nat) (use : Use) (stage : Stage) (slot : Slot) :
    Stepped toggles visit use stage slot (stage.step toggles visit use slot) := by
  cases stage with
  | begun =>
    cases use with
    | init settings =>
      simp only [Stage.step]
      cases checked : settings.validate with
      | ok _ => exact .made ⟨rfl, checked⟩
      | error fault => exact .refused rfl checked
    | client =>
      have asks : Use.client.Asks := trivial
      cases slot with
      | empty => exact .claimed asks
      | filling maker => exact .stayed nofun (.inr (.inl ⟨maker, rfl⟩))
      | filled maker client => exact .found asks
    | stats =>
      have asks : Use.stats.Asks := trivial
      cases slot with
      | empty => exact .claimed asks
      | filling maker => exact .stayed nofun (.inr (.inl ⟨maker, rfl⟩))
      | filled maker client => exact .found asks
  | offering client =>
    cases slot with
    | empty => exact .taken
    | filling maker => exact .stayed nofun (.inr (.inl ⟨maker, rfl⟩))
    | filled maker present => exact .late
  | filling => exact .filled
  | copying maker earlier =>
    cases slot with
    | empty => exact .stayed nofun (.inr (.inr ⟨maker, earlier, rfl, nofun⟩))
    | filling other => exact .stayed nofun (.inr (.inl ⟨other, rfl⟩))
    | filled holder client =>
      simp only [Stage.step]
      split
      · rename_i same
        subst same
        split
        · exact .loaded ‹_›
        · exact .copied ‹_›
      · rename_i other
        exact .stayed nofun
          (.inr (.inr ⟨maker, earlier, rfl, fun same => other (Option.some.inj same)⟩))
  | left answer => exact .stayed nofun (.inl ⟨answer, rfl⟩)

/-- A use in progress. -/
structure Visit where
  use : Use
  stage : Stage

namespace Visit

/-- What is true of a visit at a place as long as it is at its stage. -/
def Sound (toggles : Toggles) (slot : Slot) (place : Nat) (visit : Visit) : Prop :=
  match visit.stage with
  | .begun => True
  | .offering client =>
    ∃ settings, visit.use.Offers settings ∧ client = .new settings .probe toggles
  | .filling => visit.use.Asks ∧ slot = .filling place
  | .copying maker _ => visit.use = .stats ∧ slot.maker? = some maker
  | .left .nothing => ¬ visit.use.Asks
  | .left (.client maker) => visit.use = .client ∧ slot.maker? = some maker
  | .left (.counters maker _) => visit.use = .stats ∧ slot.maker? = some maker

variable {toggles : Toggles} {slot slot' : Slot} {place : Nat} {visit : Visit}

/-- A visit is still sound when the slot has changed, unless it was the one to fill the slot. -/
theorem Sound.mono (sound : visit.Sound toggles slot place)
    (kept : ∀ maker, slot.maker? = some maker → slot'.maker? = some maker)
    (waited : slot = .filling place → slot' = .filling place) :
    visit.Sound toggles slot' place := by
  obtain ⟨use, stage⟩ := visit
  cases stage with
  | begun => exact sound
  | offering client => exact sound
  | filling => exact ⟨sound.1, waited sound.2⟩
  | copying maker loaded => exact ⟨sound.1, kept maker sound.2⟩
  | left answer =>
    cases answer with
    | nothing => exact sound
    | client maker => exact ⟨sound.1, kept maker sound.2⟩
    | counters maker copy => exact ⟨sound.1, kept maker sound.2⟩

theorem sound_found {use : Use} {maker : Nat} (asks : use.Asks) (there : slot.maker? = some maker) :
    Sound toggles slot place ⟨use, use.found maker⟩ := by
  cases use with
  | client => exact ⟨rfl, there⟩
  | stats => exact ⟨rfl, there⟩
  | init settings => cases asks

end Visit

/-- A visit at the stage has taken effect. -/
def Stage.took : Stage → Bool
  | .copying .. => true
  | .left _ => true
  | _ => false

/-- What is recorded of a visit at a place: its use, when it has taken effect. -/
def Visit.record (place : Nat) (visit : Visit) : List Deed :=
  if visit.stage.took then [.use place visit.use] else []

theorem Visit.eq_of_mem_record {place : Nat} {visit : Visit} {deed : Deed}
    (member : deed ∈ visit.record place) : deed = .use place visit.use ∧ visit.stage.took = true := by
  unfold Visit.record at member
  split at member
  · rename_i took
    exact ⟨List.mem_singleton.mp member, took⟩
  · cases member

/-- How many steps a visit has still to make, at most, if it need not wait. -/
def Stage.remaining : Stage → Nat
  | .begun => loads + 3
  | .filling => loads + 2
  | .copying _ loaded => loads - loaded.length + 1
  | .offering _ => 1
  | .left _ => 0

theorem Use.took_found (use : Use) (maker : Nat) : (use.found maker).took = true := by
  cases use <;> rfl

namespace Stepped

variable {toggles : Toggles} {place : Nat} {use : Use} {stage stage' : Stage} {slot slot' : Slot}
  {deeds : List Deed}

/-- A sound visit that makes a step is sound afterwards. -/
theorem sound (stepped : Stepped toggles place use stage slot (stage', slot', deeds))
    (before : Visit.Sound toggles slot place ⟨use, stage⟩) :
    Visit.Sound toggles slot' place ⟨use, stage'⟩ := by
  cases stepped with
  | refused given faulty =>
    subst given
    exact not_false
  | made offers => exact ⟨_, offers, rfl⟩
  | taken =>
    obtain ⟨settings, ⟨rfl, -⟩, -⟩ := before
    exact not_false
  | late =>
    obtain ⟨settings, ⟨rfl, -⟩, -⟩ := before
    exact not_false
  | claimed asks => exact ⟨asks, rfl⟩
  | filled => exact Visit.sound_found before.1 rfl
  | found asks => exact Visit.sound_found asks rfl
  | loaded few => exact before
  | copied all => exact before
  | stayed unclaimed idle => exact before

/-- A step changes nothing about a slot that is filled. -/
theorem eq_of_filled {maker : Nat} {client : Client}
    (stepped : Stepped toggles place use stage (.filled maker client) (stage', slot', deeds))
    (before : Visit.Sound toggles (.filled maker client) place ⟨use, stage⟩) :
    slot' = .filled maker client := by
  cases stepped with
  | filled => cases before.2
  | _ => rfl

theorem maker?_eq (stepped : Stepped toggles place use stage slot (stage', slot', deeds))
    (before : Visit.Sound toggles slot place ⟨use, stage⟩) (maker : Nat)
    (there : slot.maker? = some maker) : slot'.maker? = some maker := by
  obtain ⟨client, rfl⟩ := Slot.maker?_eq_some_iff.mp there
  rw [stepped.eq_of_filled before]
  rfl

/-- A step changes nothing about a slot that another visit is to fill. -/
theorem eq_of_filling (stepped : Stepped toggles place use stage slot (stage', slot', deeds))
    (before : Visit.Sound toggles slot place ⟨use, stage⟩) {other : Nat} (away : other ≠ place)
    (waits : slot = .filling other) : slot' = .filling other := by
  subst waits
  cases stepped with
  | filled => exact absurd (Slot.filling.inj before.2) away
  | _ => rfl

/-- Who is to fill the slot after a step was to fill it before, or has just claimed it. -/
theorem of_filling {other : Nat}
    (stepped : Stepped toggles place use stage slot (stage', .filling other, deeds)) :
    (other = place ∧ stage' = .filling) ∨ (slot = .filling other ∧ stage ≠ .filling) := by
  cases stepped with
  | refused given faulty => exact .inr ⟨rfl, nofun⟩
  | made offers => exact .inr ⟨rfl, nofun⟩
  | claimed asks => exact .inl ⟨rfl, rfl⟩
  | stayed unclaimed idle => exact .inr ⟨rfl, unclaimed⟩

/-- A step does what is recorded of a visit after it and not before. -/
theorem record_eq (stepped : Stepped toggles place use stage slot (stage', slot', deeds)) :
    Visit.record place ⟨use, stage⟩ ++ deeds = Visit.record place ⟨use, stage'⟩ := by
  have found (maker : Nat) : Visit.record place ⟨use, use.found maker⟩ = [.use place use] :=
    if_pos (use.took_found maker)
  cases stepped with
  | filled => exact (found place).symm
  | found asks => exact (found _).symm
  | copied all => exact List.append_nil _
  | loaded few => exact List.append_nil _
  | stayed unclaimed idle => exact List.append_nil _
  | _ => rfl

/-- What a step does is the use of its visit. -/
theorem eq_of_mem (stepped : Stepped toggles place use stage slot (stage', slot', deeds))
    {deed : Deed} (member : deed ∈ deeds) : deed = .use place use := by
  have recorded : deed ∈ Visit.record place ⟨use, stage'⟩ :=
    stepped.record_eq ▸ List.mem_append_right _ member
  exact (Visit.eq_of_mem_record recorded).1

theorem filter_deeds (stepped : Stepped toggles place use stage slot (stage', slot', deeds)) :
    deeds.filter (Deed.isOf place) = deeds := by
  rw [List.filter_eq_self]
  intro deed member
  rw [stepped.eq_of_mem member]
  exact decide_eq_true rfl

theorem filter_deeds_of_ne (stepped : Stepped toggles place use stage slot (stage', slot', deeds))
    {other : Nat} (away : other ≠ place) : deeds.filter (Deed.isOf other) = [] := by
  rw [List.filter_eq_nil_iff]
  intro deed member
  rw [stepped.eq_of_mem member]
  exact ne_true_of_eq_false (decide_eq_false away.symm)

/-- A visit that has not ended and need not wait comes closer to its end, and need not wait then. -/
theorem remaining_lt (stepped : Stepped toggles place use stage slot (stage', slot', deeds))
    (before : Visit.Sound toggles slot place ⟨use, stage⟩)
    (free : ∀ maker, slot = .filling maker → stage = .filling)
    (unended : ∀ answer, stage ≠ .left answer) :
    stage'.remaining < stage.remaining ∧ ∀ maker, slot' = .filling maker → stage' = .filling := by
  have found (maker : Nat) : (use.found maker).remaining < Stage.filling.remaining := by
    cases use <;> simp [Use.found, Stage.remaining, loads]
  cases stepped with
  | refused given faulty => exact ⟨Nat.succ_pos _, fun maker waits => by cases free maker waits⟩
  | made offers =>
    exact ⟨by simp [Stage.remaining, loads], fun maker waits => by cases free maker waits⟩
  | taken => exact ⟨Nat.succ_pos _, nofun⟩
  | late => exact ⟨Nat.succ_pos _, nofun⟩
  | claimed asks => exact ⟨Nat.lt_succ_self _, fun maker waits => rfl⟩
  | filled => exact ⟨found place, nofun⟩
  | found asks => exact ⟨Nat.lt_trans (found _) (Nat.lt_succ_self _), nofun⟩
  | loaded few =>
    refine ⟨?_, nofun⟩
    simp only [Stage.remaining, List.length_append, List.length_singleton]
    omega
  | copied all => exact ⟨Nat.succ_pos _, nofun⟩
  | stayed unclaimed idle =>
    rcases idle with ⟨answer, ended⟩ | ⟨maker, waits⟩ | ⟨maker, loaded, rfl, other⟩
    · exact absurd ended (unended answer)
    · exact absurd (free maker waits) unclaimed
    · exact absurd before.2 other

/-- What a step does to the slot is what its deeds do to the ambient client. -/
theorem client_eq (stepped : Stepped toggles place use stage slot (stage', slot', deeds))
    (before : Visit.Sound toggles slot place ⟨use, stage⟩) :
    (⟨toggles, slot'.client?⟩ : Ambient) = performAll ⟨toggles, slot.client?⟩ deeds := by
  have used (client : Option Client) : performAll ⟨toggles, client⟩ [.use place use] =
      ⟨toggles, client.or (use.settings?.map (.new · .probe toggles))⟩ := apply_eq ..
  cases stepped with
  | refused given faulty =>
    have idle : use.settings? = none := by
      simp only [given, Use.settings?, faulty]
    rw [used, idle, Option.map_none, Option.or_none]
  | made offers => rfl
  | taken =>
    obtain ⟨settings, offers, rfl⟩ := before
    rw [used, offers.settings?]
    rfl
  | late => rw [used]; rfl
  | claimed asks => rfl
  | filled =>
    obtain ⟨asks, rfl⟩ := before
    rw [used, asks.settings?]
    rfl
  | found asks => rw [used]; rfl
  | loaded few => rfl
  | copied all => rfl
  | stayed unclaimed idle => rfl

end Stepped

end Courier.Ambient
