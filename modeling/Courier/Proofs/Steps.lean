import Courier.Proofs.Hops
import Mathlib.Data.List.Range

/-! # The steps of a call

A call that runs by itself is a call that makes one step after another. A step leaves less to do
unless the call has ended, so there are finitely many, and the exchanges of the call are those that
its steps perform, in their order.
-/

namespace Courier.Call

variable {network : Network} {caller : Caller}

/-- One step of a call in its world. -/
def advance (network : Network) (caller : Caller) (state : Call × World) : Call × World :=
  step network caller state.1 state.2

/-- The exchange that a step performs, if it performs one. -/
def performed (network : Network) (caller : Caller) (state : Call × World) : List Hop :=
  match state.1 with
  | ⟨[], .dispatch request previous⟩ => [hop network caller state.2 request previous]
  | _ => []

/-- A step changes nothing about where a call ends. -/
theorem run_step (call : Call) (world : World) :
    run network caller (step network caller call world).1 (step network caller call world).2 =
      run network caller call world := by
  obtain ⟨pending, next⟩ := call
  cases pending with
  | cons increment rest =>
    unfold run
    rfl
  | nil =>
    cases next with
    | dispatch request previous =>
      exact (run.eq_def network caller ⟨[], .dispatch request previous⟩ world).symm
    | follow response => exact (run.eq_def network caller ⟨[], .follow response⟩ world).symm
    | done result => rfl

/-- A step performs the first of the exchanges of a call, or leaves them all to later steps. -/
theorem hops_step (call : Call) (world : World) :
    hops network caller call world =
      performed network caller (call, world) ++
        hops network caller (step network caller call world).1
          (step network caller call world).2 := by
  obtain ⟨pending, next⟩ := call
  cases pending with
  | cons increment rest =>
    rw [hops, hops]
    rfl
  | nil =>
    cases next with
    | dispatch request previous =>
      exact hops.eq_def network caller ⟨[], .dispatch request previous⟩ world
    | follow response => exact hops.eq_def network caller ⟨[], .follow response⟩ world
    | done result => rfl

/-- A call comes to an end after finitely many steps, and its exchanges are those that the steps
perform. -/
theorem exists_steps (call : Call) (world : World) :
    ∃ steps, (advance network caller)^[steps] (call, world) =
        (⟨[], .done (run network caller call world).1⟩, (run network caller call world).2) ∧
      hops network caller call world = (List.range steps).flatMap fun before =>
        performed network caller ((advance network caller)^[before] (call, world)) := by
  induction bound : call.remaining using Nat.strong_induction_on generalizing call world with
  | _ remaining ih =>
    by_cases ended : ∃ result, call = ⟨[], .done result⟩
    · obtain ⟨result, rfl⟩ := ended
      refine ⟨0, ?_, ?_⟩
      · rw [run]
        rfl
      · rw [hops]
        rfl
    · have less := @step_remaining network caller call world fun result same => ended ⟨result, same⟩
      obtain ⟨steps, final, exchanges⟩ := ih _ (bound ▸ less) (step network caller call world).1
        (step network caller call world).2 rfl
      refine ⟨steps + 1, ?_, ?_⟩
      · rw [Function.iterate_succ_apply, ← run_step]
        exact final
      · rw [hops_step, exchanges, List.range_succ_eq_map, List.flatMap_cons, List.flatMap_map]
        rfl

end Courier.Call
