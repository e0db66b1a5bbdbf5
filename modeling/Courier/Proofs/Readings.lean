import Courier.Proofs.Accounts

/-! # Reading counters while they change

Whoever copies the counters loads one after the other, and calls go on between two loads. At every
moment no more exchanges are counted as answered without error than have begun, because a call says
that an exchange begins before it says how it was answered. A copy keeps to this only as far as the
order of its loads allows: it loads the count of exchanges first, so what begins and is answered
between the two loads is missing from one and present in the other.
-/

namespace Courier

namespace Increment

/-- What is recorded of a response counts it at most once as one without error. -/
theorem tally_successful_ofResponse (response : Response) :
    tally .successful (ofResponse response) ≤ 1 := by
  cases status : response.status.isError <;> simp [ofResponse, one, status]

/-- A failure is not counted as a response. -/
theorem tally_successful_ofFailure (failure : Failure) :
    tally .successful (ofFailure failure) = 0 := by
  unfold ofFailure
  split
  · rfl
  · split <;> rfl

end Increment

/-- The share of one count in another, not rounded. -/
def Stats.quotient (successful total : UInt64) : ℚ := successful.toNat / total.toNat

theorem Stats.quotient_le_one_iff (successful total : UInt64) :
    quotient successful total ≤ 1 ↔ total.toNat = 0 ∨ successful ≤ total := by
  unfold quotient
  rw [UInt64.le_iff_toNat_le]
  rcases Nat.eq_zero_or_pos total.toNat with none | some
  · simp [none]
  · rw [div_le_one (by exact_mod_cast some), Nat.cast_le]
    exact ⟨.inr, fun bounded => bounded.resolve_left some.ne'⟩

/-! ## What one call has said -/

namespace Thread

/-- A call has counted no more responses without error than exchanges. What it is about to count is
covered too: an exchange for which the call is getting ready will have been counted before it is
answered. -/
def Covered (thread : Thread) : Prop :=
  let made := fun counter => Increment.tally counter thread.made
  let pending := fun counter => Increment.tally counter thread.call.pending
  match thread.call.next with
  | .dispatch .. => pending .successful = 0 ∧ made .successful ≤ made .total ∧
      made .successful < made .total + pending .total
  | _ => made .successful + pending .successful ≤ made .total

theorem Covered.le {thread : Thread} (covered : thread.Covered) :
    Increment.tally .successful thread.made ≤ Increment.tally .total thread.made := by
  unfold Covered at covered
  dsimp only at covered
  split at covered
  · exact covered.2.1
  · omega

theorem covered_begin (settings : Settings) (caller : Caller) (request : Request) :
    (begin settings caller request).Covered := by
  simp [Covered, begin, Call.begin, Increment.one]

/-- A call that has counted no more responses without error than exchanges may fail. -/
theorem covered_failed {thread : Thread} (failure : Failure)
    (call : thread.call = Call.failed failure)
    (le : Increment.tally .successful thread.made ≤ Increment.tally .total thread.made) :
    thread.Covered := by
  unfold Covered
  rw [call]
  simp only [Call.failed, Increment.tally_successful_ofFailure]
  omega

theorem Covered.step (network : Network) {thread : Thread} (covered : thread.Covered)
    (world : World) : (thread.step network world).1.Covered := by
  obtain ⟨caller, ⟨pending, next⟩, selecting, exchanges, made⟩ := thread
  have le : Increment.tally .successful made ≤ Increment.tally .total made := covered.le
  cases pending with
  | cons increment rest =>
    unfold Covered at covered ⊢
    unfold Thread.step
    dsimp only at covered ⊢
    -- The addition moves from pending to made; if an exchange is next, it counts no response.
    cases next
    all_goals
      simp only [Increment.tally_cons, Increment.tally_append, Increment.tally_nil] at covered ⊢
      omega
  | nil =>
    cases next with
    | done result => exact covered
    | follow response =>
      unfold Thread.step
      dsimp only
      cases asked : Redirect.next? response with
      | error failure =>
        exact covered_failed failure (by simp only [Call.afterResponse, asked]) le
      | ok follows =>
        cases follows with
        | none => simpa [Covered, Call.afterResponse, asked] using le
        | some request =>
          have next : Call.afterResponse response =
              ⟨Call.continuing, .dispatch request (some response)⟩ := by
            simp only [Call.afterResponse, asked, Call.continuing]
          simp only [Covered, next]
          exact ⟨rfl, le, Nat.lt_succ_of_le le⟩
    | dispatch request previous =>
      unfold Thread.step
      dsimp only
      split
      · rename_i unit
        cases obtained : (unit.execute network world.log caller).result with
        | error failure =>
          exact covered_failed failure (by simp only [Call.afterExchange]) le
        | ok response =>
          have once := Increment.tally_successful_ofResponse response
          simp only [Covered, Increment.tally_nil] at covered
          simp only [Covered, Call.afterExchange]
          omega
      · exact covered

end Thread

/-! ## What all calls have said -/

namespace Crowd

/-- How many exchanges have begun. -/
def begun (crowd : Crowd) : Nat := crowd.tally .total

/-- How many responses without error have been counted. -/
def succeeded (crowd : Crowd) : Nat := crowd.tally .successful

/-- The calls when so many of some events have happened. -/
def moment (network : Network) (events : List Event) (crowd : Crowd) (time : Nat) : Crowd :=
  crowd.run network (events.take time)

/-- At every moment no more responses without error have been counted than exchanges have begun. -/
theorem succeeded_le_begun (network : Network) (settings : Settings) (registry : Registry)
    (toggles : Toggles) (log : Log) (events : List Event) :
    ((start settings registry toggles log).run network events).succeeded ≤
      ((start settings registry toggles log).run network events).begun := by
  apply List.sum_le_sum
  intro thread member
  have covered := forall_threads Thread.Covered Thread.covered_begin
    (fun _ world covered => covered.step network world) (fun _ covered => covered) events
    (List.forall_mem_nil _) thread member
  exact covered.le

/-- What has been counted stays counted. -/
theorem monotone_tally_moment (network : Network) (events : List Event) (crowd : Crowd)
    (counter : Counter) :
    Monotone fun time => (crowd.moment network events time).tally counter := by
  apply monotone_nat_of_le_succ
  intro time
  unfold moment
  rw [List.take_add_one, run_append]
  exact tally_le_tally_run ..

theorem tally_moment_le_run (network : Network) (events : List Event) (crowd : Crowd) (time : Nat)
    (counter : Counter) :
    (crowd.moment network events time).tally counter ≤ (crowd.run network events).tally counter := by
  have whole : crowd.run network (events.take time ++ events.drop time) = _ := run_append ..
  rw [List.take_append_drop] at whole
  rw [whole]
  exact tally_le_tally_run ..

/-- As long as the count of exchanges has not gone round, the counters show what has been counted. -/
theorem toNat_moment (network : Network) (settings : Settings) (registry : Registry)
    (toggles : Toggles) (log : Log) (events : List Event)
    (few : ((start settings registry toggles log).run network events).begun < UInt64.size)
    (time : Nat) :
    let crowd := (start settings registry toggles log).moment network events time
    crowd.world.client.stats.total.toNat = crowd.begun ∧
      crowd.world.client.stats.successful.toNat = crowd.succeeded := by
  intro crowd
  have shown : ∀ counter,
      crowd.world.client.stats.get counter = UInt64.ofNat (crowd.tally counter) :=
    get_stats network settings registry toggles log (events.take time)
  have within : crowd.begun < UInt64.size :=
    Nat.lt_of_le_of_lt (tally_moment_le_run ..) few
  have less : crowd.succeeded ≤ crowd.begun := succeeded_le_begun ..
  constructor
  · exact (congrArg UInt64.toNat (shown .total)).trans (UInt64.toNat_ofNat_of_lt' within)
  · exact (congrArg UInt64.toNat (shown .successful)).trans
      (UInt64.toNat_ofNat_of_lt' (Nat.lt_of_le_of_lt less within))

/-- Whoever loads the count of responses before that of exchanges finds no more responses without
error than exchanges. -/
theorem successful_le_total_later (network : Network) (settings : Settings) (registry : Registry)
    (toggles : Toggles) (log : Log) (events : List Event)
    (few : ((start settings registry toggles log).run network events).begun < UInt64.size)
    {first second : Nat} (ordered : first ≤ second) :
    let crowd := (start settings registry toggles log).moment network events
    (crowd first).world.client.stats.successful ≤ (crowd second).world.client.stats.total := by
  intro crowd
  have responses : _ = (crowd first).succeeded :=
    (toNat_moment network settings registry toggles log events few first).2
  have exchanges : _ = (crowd second).begun :=
    (toNat_moment network settings registry toggles log events few second).1
  have less : (crowd first).succeeded ≤ (crowd first).begun := succeeded_le_begun ..
  have more : (crowd first).begun ≤ (crowd second).begun :=
    monotone_tally_moment network events _ .total ordered
  rw [UInt64.le_iff_toNat_le, responses, exchanges]
  exact less.trans more

/-- From one moment to another, no more exchanges have begun than are, at the other, not counted as
answered without error. -/
def Steady (first second : Crowd) : Prop :=
  second.begun - first.begun ≤ second.begun - second.succeeded

/-- Whoever loads the count of exchanges before that of responses finds no more responses without
error than exchanges just when the calls were steady from one load to the other. -/
theorem successful_le_total_iff (network : Network) (settings : Settings) (registry : Registry)
    (toggles : Toggles) (log : Log) (events : List Event)
    (few : ((start settings registry toggles log).run network events).begun < UInt64.size)
    {first second : Nat} (ordered : first ≤ second) :
    let crowd := (start settings registry toggles log).moment network events
    (crowd second).world.client.stats.successful ≤ (crowd first).world.client.stats.total ↔
      Steady (crowd first) (crowd second) := by
  intro crowd
  have exchanges : _ = (crowd first).begun :=
    (toNat_moment network settings registry toggles log events few first).1
  have responses : _ = (crowd second).succeeded :=
    (toNat_moment network settings registry toggles log events few second).2
  have less : (crowd second).succeeded ≤ (crowd second).begun := succeeded_le_begun ..
  have more : (crowd first).begun ≤ (crowd second).begun :=
    monotone_tally_moment network events _ .total ordered
  rw [UInt64.le_iff_toNat_le, responses, exchanges]
  unfold Steady
  omega

/-- A copy of the counters that is made while calls go on shows no more responses without error than
exchanges just when the calls were steady from the first of its loads to the second. In the same way
the share that is loaded with it, or by itself, is at most one, unless no exchange had begun. -/
theorem copy_bounded_iff (network : Network) (settings : Settings) (registry : Registry)
    (toggles : Toggles) (log : Log) (events : List Event) (moments : Nat → Nat)
    (ordered : Monotone moments)
    (few : ((start settings registry toggles log).run network events).begun < UInt64.size) :
    let crowd := fun load =>
      (start settings registry toggles log).moment network events (moments load)
    let seen := fun load => (crowd load).world.client.stats
    let copy := Stats.snapshotSeeing seen
    (copy.counters.successful ≤ copy.counters.total ↔ Steady (crowd 0) (crowd 1)) ∧
    copy.ratio = Stats.share (seen 12).successful (seen 11).total ∧
    ∀ load, Stats.quotient (seen (load + 1)).successful (seen load).total ≤ 1 ↔
      (crowd load).begun = 0 ∨ Steady (crowd load) (crowd (load + 1)) := by
  intro crowd seen copy
  have loaded (load : Nat) : (seen (load + 1)).successful ≤ (seen load).total ↔
      Steady (crowd load) (crowd (load + 1)) :=
    successful_le_total_iff network settings registry toggles log events few
      (ordered (Nat.le_succ load))
  refine ⟨loaded 0, rfl, fun load => ?_⟩
  have exchanges : (seen load).total.toNat = (crowd load).begun :=
    (toNat_moment network settings registry toggles log events few (moments load)).1
  rw [Stats.quotient_le_one_iff, loaded, exchanges]

/-- Two calls that make their steps by turns have both begun their exchanges after ten events. Whoever
copies the counters after that, one load after each event, is not misled. -/
theorem copy_bounded_byTurns :
    let seen := fun load => ((start .standard .probe .off []).moment answeringOnce byTurns
      (10 + load)).world.client.stats
    (Stats.snapshotSeeing seen).counters.successful ≤ (Stats.snapshotSeeing seen).counters.total ∧
      Stats.quotient (seen 12).successful (seen 11).total ≤ 1 := by
  intro seen
  have few : ((start .standard .probe .off []).run answeringOnce byTurns).begun < UInt64.size := by
    have two : ((start .standard .probe .off []).run answeringOnce byTurns).begun = 2 := by cbv
    rw [two]
    decide
  have ordered : Monotone fun load => 10 + load := fun _ _ le => Nat.add_le_add_left le 10
  obtain ⟨copied, -, shared⟩ := copy_bounded_iff answeringOnce .standard .probe .off [] byTurns
    (fun load => 10 + load) ordered few
  have begun (time : Nat) (member : time ∈ [10, 11, 21, 22]) :
      ((start .standard .probe .off []).moment answeringOnce byTurns time).begun = 2 := by
    simp only [List.mem_cons, List.not_mem_nil, or_false] at member
    rcases member with rfl | rfl | rfl | rfl
    all_goals cbv
  refine ⟨copied.mpr ?_, (shared 11).mpr (.inr ?_)⟩
  · unfold Steady
    rw [begun 10 (by decide), begun 11 (by decide)]
    exact Nat.zero_le _
  · unfold Steady
    rw [begun 21 (by decide), begun 22 (by decide)]
    exact Nat.zero_le _

/-! ### A copy that is overtaken -/

/-- A network in which every request is answered. -/
def answering : Network :=
  .scripted (fun _ => true) (fun _ _ => .accepted) []
    (.raw (Utf8.encode "HTTP/1.1 200 \n\n") .closed)

/-- One load when the first of two calls has begun its exchange, and all others when both calls have
been answered. -/
def overtaken (load : Nat) : Nat := if load = 0 then 3 else 26

/-- A copy may show more responses without error than exchanges, and a share may be greater than
one. -/
theorem copy_overtaken :
    let seen := fun load => ((start .standard .probe .off []).moment answering byTurns
      (overtaken load)).world.client.stats
    Monotone overtaken ∧
      (Stats.snapshotSeeing seen).counters.total < (Stats.snapshotSeeing seen).counters.successful ∧
      1 < Stats.quotient (seen 1).successful (seen 0).total := by
  intro seen
  have exchanges : ((start .standard .probe .off []).moment answering byTurns
      (overtaken 0)).world.client.stats.total = 1 := by
    cbv
  have responses : ((start .standard .probe .off []).moment answering byTurns
      (overtaken 1)).world.client.stats.successful = 2 := by
    cbv
  refine ⟨?_, ?_, ?_⟩
  · intro first second le
    unfold overtaken
    split <;> split <;> omega
  · simp only [Stats.snapshotSeeing, seen, exchanges, responses]
    decide
  · simp only [← not_le, Stats.quotient_le_one_iff, seen, exchanges, responses]
    decide

end Crowd

end Courier
