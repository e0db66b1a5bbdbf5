import Courier.Proofs.Hops

/-! # Units that perform

A registry may hold factories of its own, and their units need not exchange anything: one may fail
with any failure, also with one that says that a limit was reached or that somebody has given up. The
factories of this library make none of these. Main statement: where the factories of a registry only
make units that exchange by a strategy, every exchange of a call is performed by a strategy.
-/

namespace Courier

/-- The unit performs its exchange by a strategy. -/
def ExecutionUnit.Performs (unit : ExecutionUnit) : Prop :=
  ∃ strategy, unit.conduct = .exchange strategy

/-- The units that the factories of a registry make perform their exchanges by strategies. -/
def Registry.Performing (registry : Registry) : Prop :=
  ∀ tier factory, registry.factory? tier = some factory → ∀ calls request previous plan,
    factory.construct calls request previous = .ok plan →
      ∃ strategy, plan.conduct = .exchange strategy

/-- What this library is able to do by itself, it does by its strategies. -/
theorem Registry.performing_probe : Registry.probe.Performing := by
  intro tier factory found calls request previous plan made
  cases tier with
  | blocking => cases found
  | pooled =>
    cases found
    cases made
    exact ⟨.pooled, rfl⟩
  | task =>
    cases found
    cases made
    exact ⟨.task, rfl⟩

theorem Registry.Performing.selectFrom {registry : Registry} (performing : registry.Performing)
    (seen : Strategy → Toggles) (request : Request) (previous : Option Response)
    (tiers : List Strategy) (tallies : Tallies) :
    (Dispatcher.selectFrom registry seen request previous tiers tallies).unit.Performs := by
  induction tiers generalizing tallies with
  | nil => exact ⟨.blocking, rfl⟩
  | cons tier rest ih =>
    unfold Dispatcher.selectFrom
    split
    · exact ih tallies
    · rename_i factory found
      have recorded : registry.factory? tier = some factory := by
        split at found
        · exact found
        · cases found
      split
      · rename_i plan made
        exact performing tier factory recorded _ request previous plan made
      · exact ih (tallies.add tier)

namespace Call

variable {network : Network} {caller : Caller}

theorem performs_hop (world : World) (request : Request) (previous : Option Response)
    (performing : world.client.dispatcher.registry.Performing) :
    (hop network caller world request previous).unit.Performs :=
  performing.selectFrom (fun _ => world.client.dispatcher.toggles) request previous
    Strategy.preferred world.client.dispatcher.tallies

theorem performs_hops (pending : List Increment) (request : Request) (previous : Option Response)
    (world : World) :
    world.client.dispatcher.registry.Performing →
      ∀ hop ∈ hops network caller ⟨pending, .dispatch request previous⟩ world,
        hop.unit.Performs := by
  induction pending, request, previous, world
    using dispatch_induction network caller with
  | step pending request previous world ih =>
    intro performing
    rw [hops_dispatch, List.forall_mem_cons]
    refine ⟨performs_hop _ request previous performing, ?_⟩
    cases follows : (hop network caller (record world pending) request previous).next? with
    | none => exact List.forall_mem_nil _
    | some asked =>
      obtain ⟨next, response⟩ := asked
      exact ih next response follows performing

end Call

/-- Every exchange of a call is performed by a strategy. -/
theorem Client.performs_hops {network : Network} {caller : Caller} {world : World}
    {request : Request} (performing : world.client.dispatcher.registry.Performing) :
    ∀ hop ∈ hops network caller world request, hop.unit.Performs :=
  Call.performs_hops _ _ _ _ performing

/-! ### Units that do not -/

/-- A registry whose factory for tasks makes units that fail. -/
def Registry.failing (failure : Failure) : Registry :=
  ⟨.unavailable .notRegistered, .available
    { construct := fun _ _ _ => .ok ⟨.task, .fail failure⟩
      startsTransport := false }⟩

/-- A world with a client that prefers tasks, of which it has only units that fail. -/
def World.failing (failure : Failure) : World :=
  ⟨.new .standard (.failing failure) ⟨true, false⟩, []⟩

end Courier
