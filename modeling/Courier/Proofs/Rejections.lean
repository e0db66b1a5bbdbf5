import Courier.Proofs.Contacts
import Courier.Proofs.Reaching

/-! # What cannot be sent

An exchange is rejected when its request cannot be made into one. For some requests no exchange is
begun, whatever the strategy. Beyond these, a pool rejects every URL that it cannot write as a
target, before it makes any contact; a connection of one's own needs less of a URL, but finds that a
target is too long only when it is connected. Main statement: whether a request is rejected is
decided by the request alone just when no exchange is begun for it, or its URL can be written.
-/

namespace Courier

/-- No exchange is begun for the request: a setter had a fault, the scheme is not spoken, or the URL
names no host. -/
def Request.Unaskable (request : Request) : Prop :=
  request.deferred ≠ none ∨ request.url.scheme ≠ "http" ∨ request.url.hostText? = none

/-- The whole URL can be written as a target. -/
structure Url.Writable (url : Url) : Prop where
  short : url.text.utf8ByteSize ≤ Exchange.targetLimit
  plain : url.authorityText.any Exchange.isUnwritable = false

/-- The exchange fails because its request cannot be made into one. -/
def Outcome.Rejected (outcome : Outcome) : Prop :=
  ∃ failure, outcome.result = .error failure ∧ failure.kind = .builder

namespace Exchange

variable {network : Network} {log : Log} {strategy : Strategy} {request : Request}
  {redirects : UInt32}

/-- A connection of one's own is made for a target that is too long. -/
def Overruns (network : Network) (request : Request) : Prop :=
  targetLimit < request.url.target.utf8ByteSize ∧ ∃ host, host? request.url = .ok host ∧
    network.reach true host (request.url.effectivePort?.getD standardPort) = .accepted

/-! ## Before an attempt -/

theorem host?_eq_error_iff {url : Url} :
    (∃ failure, host? url = .error failure) ↔ url.hostText? = none := by
  unfold Url.hostText? host?
  cases url.host with
  | none => simp
  | some host => cases host <;> simp

/-- A target is written for every URL that can be written and names a host. -/
theorem absoluteTarget_eq_error_iff {url : Url} :
    (∃ failure, absoluteTarget url = .error failure) ↔ url.hostText? = none ∨ ¬ url.Writable := by
  unfold absoluteTarget
  by_cases long : targetLimit < url.text.utf8ByteSize
  · have unwritable : ¬ url.Writable := fun writable => Nat.not_lt.mpr writable.short long
    simp only [long, ↓reduceIte, Except.error.injEq, exists_eq', unwritable, not_false_eq_true,
      or_true]
  · rw [if_neg long]
    cases odd : url.authorityText.any isUnwritable with
    | true =>
      have unwritable : ¬ url.Writable := fun writable =>
        absurd (odd.symm.trans writable.plain) (by decide)
      simp only [↓reduceIte, Except.error.injEq, exists_eq', unwritable, not_false_eq_true, or_true]
    | false =>
      have writable : url.Writable := ⟨Nat.not_lt.mp long, odd⟩
      simp only [Bool.false_eq_true, ↓reduceIte, map_eq_error_iff, host?_eq_error_iff, writable,
        not_true_eq_false, or_false]

/-- Without a host no attempt is made, and a pool makes none for a URL that it cannot write. -/
theorem approach_eq_error_iff :
    (∃ failure, approach strategy request = .error failure) ↔
      request.url.hostText? = none ∨ (strategy ∈ Strategy.preferred ∧ ¬ request.url.Writable) := by
  cases strategy with
  | blocking =>
    simp only [approach, map_eq_error_iff, host?_eq_error_iff, Strategy.preferred, List.mem_cons,
      reduceCtorEq, List.not_mem_nil, or_self, false_and, or_false]
  | pooled =>
    simp only [approach, map_eq_error_iff, absoluteTarget_eq_error_iff, Strategy.preferred,
      List.mem_cons, reduceCtorEq, List.not_mem_nil, or_false, or_true, true_and]
  | task =>
    simp only [approach, map_eq_error_iff, absoluteTarget_eq_error_iff, Strategy.preferred,
      List.mem_cons, reduceCtorEq, List.not_mem_nil, or_false, true_and]

/-! ## What is rejected -/

theorem not_mem_connectKinds {failure : Failure} (kind : failure.kind = .builder) :
    failure.kind ∉ connectKinds := by
  rw [kind]
  decide

/-- What is rejected when a connection has been attempted overruns a connection of one's own. -/
theorem ready_rejects_iff {found : Approach} (begun : approach strategy request = .ok found) :
    (∃ failure, found.ready (network.reach found.byName found.host found.port) = .error failure ∧
        failure.kind = .builder) ↔ strategy = .blocking ∧ Overruns network request := by
  constructor
  · rintro ⟨failure, unready, kind⟩
    rcases ready_eq_error begun unready with ⟨-, kind'⟩ | ⟨accepted, own, long, -⟩
    · exact absurd kind' (not_mem_connectKinds kind)
    · obtain ⟨-, host, named, rfl⟩ | ⟨shared, -⟩ := approach_eq_ok begun
      · exact ⟨own, long, host, named, accepted⟩
      · rw [own] at shared
        exact absurd shared (by decide)
  · rintro ⟨rfl, long, host, named, accepted⟩
    have here : found = ownApproach request host := by
      unfold approach at begun
      rw [named] at begun
      exact (Except.ok.inj begun).symm
    refine ⟨unwritten request.url .tooLong, ?_, rfl⟩
    rw [here]
    dsimp only [ownApproach]
    rw [accepted]
    exact map_eq_error_iff.mpr (ownDraft_eq_error_iff.mpr ⟨long, rfl⟩)

theorem prepare_rejects_iff :
    (∃ failure, prepare network strategy request = .error failure ∧ failure.kind = .builder) ↔
      request.url.hostText? = none ∨ (strategy ∈ Strategy.preferred ∧ ¬ request.url.Writable) ∨
        (strategy = .blocking ∧ Overruns network request) := by
  rw [prepare_eq, ← or_assoc, ← approach_eq_error_iff]
  cases begun : approach strategy request with
  | error failure =>
    have rejects : failure.kind = .builder := kind_of_approach begun
    simp only [Except.bind, Except.error.injEq, exists_eq_left', rejects, exists_eq', true_or]
  | ok found =>
    simp only [Except.bind, reduceCtorEq, exists_false, false_or]
    exact ready_rejects_iff begun

/-- What is read from an answer is no reason to reject the request. -/
theorem kind_of_receive {answer : Answer} {failure : Failure}
    (lacking : receive strategy request redirects answer = .error failure) :
    failure.kind ≠ .builder := by
  rcases of_receive_eq_error lacking with ⟨-, rfl⟩ | ⟨-, kind⟩
  · decide
  · intro same
    rw [same] at kind
    exact absurd kind (by decide)

theorem unaskable_of_preflight_eq_error {failure : Failure}
    (refused : preflight .patient request = .error failure) : request.Unaskable := by
  rcases preflight_eq_error_iff.mp refused with
    ⟨message, noted, -⟩ | ⟨-, inAsync, -⟩ | ⟨-, -, unspoken, -⟩
  · exact .inl (noted ▸ Option.some_ne_none message)
  · cases inAsync
  · exact .inr (.inl unspoken)

theorem unaskable_iff_of_preflight_eq_ok (passed : preflight .patient request = .ok ()) :
    request.Unaskable ↔ request.url.hostText? = none := by
  obtain ⟨fine, -, spoken⟩ := preflight_eq_ok_iff.mp passed
  simp only [Request.Unaskable, fine, spoken, ne_eq, not_true_eq_false, false_or]

/-- An exchange of a patient caller is rejected when it is not begun, or when its strategy cannot
write what the request asks for. -/
theorem rejected_conduct_iff :
    (conduct network log .patient strategy request redirects).Rejected ↔
      request.Unaskable ∨ (strategy ∈ Strategy.preferred ∧ ¬ request.url.Writable) ∨
        (strategy = .blocking ∧ Overruns network request) := by
  constructor
  · rintro ⟨failure, fails, kind⟩
    have ends := ending network log .patient strategy request redirects
    generalize conduct network log .patient strategy request redirects = outcome at ends fails
    cases ends with
    | refused failure' reason => exact .inl (unaskable_of_preflight_eq_error reason)
    | givenUp passed given => cases given
    | unready failure' passed patient reason =>
      cases fails
      rw [unaskable_iff_of_preflight_eq_ok passed]
      exact prepare_rejects_iff.mp ⟨failure', reason, kind⟩
    | answered sent passed patient prepared =>
      obtain ⟨failure', lacking, rfl⟩ := Failure.attachTo_eq_error fails
      have kind' : failure'.kind = .builder := kind
      exact absurd kind' (kind_of_receive lacking)
  · intro causes
    cases passed : preflight .patient request with
    | error failure =>
      refine ⟨failure, ?_, (of_preflight_eq_error passed).1⟩
      unfold conduct
      rw [passed]
      rfl
    | ok _ =>
      rw [unaskable_iff_of_preflight_eq_ok passed] at causes
      obtain ⟨failure, reason, kind⟩ := prepare_rejects_iff.mpr causes
      rw [conduct_of_prepare_eq_error passed reason log redirects]
      exact ⟨_, rfl, kind⟩

/-- A patient caller makes no contact just when no exchange is begun, or when the strategy cannot
write the URL. -/
theorem hold_patient_eq_nil_iff :
    ((dialogue .patient strategy request redirects).hold network log).2 = [] ↔
      request.Unaskable ∨ (strategy ∈ Strategy.preferred ∧ ¬ request.url.Writable) := by
  cases passed : preflight .patient request with
  | error failure =>
    rw [dialogue_of_preflight_eq_error passed]
    exact iff_of_true rfl (.inl (unaskable_of_preflight_eq_error passed))
  | ok _ =>
    have waits : Caller.patient.cancelled = false := rfl
    rw [unaskable_iff_of_preflight_eq_ok passed, ← approach_eq_error_iff]
    simp only [dialogue, passed, waits, Bool.false_eq_true, ↓reduceIte]
    cases approach strategy request with
    | error failure => exact iff_of_true rfl ⟨failure, rfl⟩
    | ok found => simp [Dialogue.hold]

end Exchange

namespace ExecutionUnit

theorem rejected_execute_iff {network : Network} {log : Log} {strategy : Strategy}
    {request : Request} {previous : Option Response} :
    ((ofStrategy strategy request previous).execute network log .patient).Rejected ↔
      request.Unaskable ∨ (strategy ∈ Strategy.preferred ∧ ¬ request.url.Writable) ∨
        (strategy = .blocking ∧ Exchange.Overruns network request) :=
  Exchange.rejected_conduct_iff

/-- Whether a patient caller's request is rejected is decided by the request alone, and before any
contact, just when no exchange is begun for it or its whole URL can be written as a target. The pool
rejects what it cannot write, whatever the network. A connection of one's own rejects less, and it
does so only over a network that lets it connect. -/
theorem rejections_agree_iff (request : Request) :
    let outcome := fun network log strategy previous =>
      (ofStrategy strategy request previous).execute network log .patient
    let held := fun network log strategy previous =>
      (Exchange.dialogue .patient strategy request (Response.hopIndex previous)).hold network log
    (∀ network log strategy previous,
      (outcome network log strategy previous).result = (held network log strategy previous).1) ∧
    (∀ network log previous, ∀ tier ∈ Strategy.preferred,
      ((outcome network log tier previous).Rejected ↔
        request.Unaskable ∨ ¬ request.url.Writable)) ∧
    (∀ network log previous,
      ((outcome network log .blocking previous).Rejected ↔
        request.Unaskable ∨ Exchange.Overruns network request)) ∧
    (((∃ network log strategy previous, (outcome network log strategy previous).Rejected) →
        ∀ network log strategy previous, (outcome network log strategy previous).Rejected ∧
          (held network log strategy previous).2 = []) ↔
      request.Unaskable ∨ request.url.Writable) := by
  intro outcome held
  have pool network log previous : ∀ tier ∈ Strategy.preferred,
      ((outcome network log tier previous).Rejected ↔
        request.Unaskable ∨ ¬ request.url.Writable) := by
    intro tier shared
    have other : tier ≠ .blocking := by
      rintro rfl
      exact absurd shared (by decide)
    refine rejected_execute_iff.trans ?_
    simp only [shared, true_and, other, false_and, or_false]
  have own network log previous : (outcome network log .blocking previous).Rejected ↔
      request.Unaskable ∨ Exchange.Overruns network request := by
    have other : Strategy.blocking ∉ Strategy.preferred := by decide
    refine rejected_execute_iff.trans ?_
    simp only [other, true_and, false_and, false_or]
  refine ⟨fun network log strategy previous => (Exchange.conduct_eq_hold ..).1, pool, own, ?_⟩
  constructor
  · intro decided
    by_contra undecided
    obtain ⟨askable, unwritable⟩ := not_or.mp undecided
    -- The pool rejects the request, so a connection of one's own would have to, without a contact.
    have rejects : (outcome .isolated [] .pooled none).Rejected :=
      (pool .isolated [] none .pooled (by decide)).mpr (.inr unwritable)
    obtain ⟨-, silent⟩ := decided ⟨_, _, _, _, rejects⟩ .isolated [] .blocking none
    rcases Exchange.hold_patient_eq_nil_iff.mp silent with unaskable | ⟨shared, -⟩
    · exact askable unaskable
    · exact absurd shared (by decide)
  · intro known rejected network log strategy previous
    have unaskable : request.Unaskable := by
      obtain ⟨network', log', strategy', previous', rejects⟩ := rejected
      rcases known with unaskable | writable
      · exact unaskable
      · rcases rejected_execute_iff.mp rejects with
          unaskable | ⟨-, unwritable⟩ | ⟨-, long, -⟩
        · exact unaskable
        · exact absurd writable unwritable
        · have short := Nat.le_trans (Exchange.utf8ByteSize_target_le request.url) writable.short
          exact absurd long (Nat.not_lt.mpr short)
    exact ⟨rejected_execute_iff.mpr (.inl unaskable),
      Exchange.hold_patient_eq_nil_iff.mpr (.inl unaskable)⟩

/-! ### A path that is too long -/

/-- A URL whose path is longer than a target may be. -/
def longPath : Url :=
  ⟨"http", "", none, some (.domain "h"), none,
    .rooted [String.ofList (List.replicate 65600 'p')], none, none⟩

theorem utf8Len_replicate (count : Nat) : String.utf8Len (List.replicate count 'p') = count := by
  induction count with
  | zero => rfl
  | succ count ih =>
    rw [List.replicate_succ, String.utf8Len_cons, ih]
    rfl

theorem not_writable_longPath : ¬ longPath.Writable := by
  rintro ⟨short, -⟩
  have path : longPath.path.text =
      "" ++ "/" ++ String.ofList (List.replicate 65600 'p') := rfl
  unfold Url.text at short
  rw [path] at short
  simp only [String.utf8ByteSize_append, String.utf8ByteSize_ofList, utf8Len_replicate,
    Exchange.targetLimit] at short
  omega

/-- Where a host refuses the connection, the pool rejects a request that a connection of one's own
does not. -/
theorem rejections_differ :
    ¬ ∀ (request : Request) (network other : Network) (log log' : Log)
      (strategy strategy' : Strategy) (previous previous' : Option Response),
      ((ofStrategy strategy request previous).execute network log .patient).Rejected →
      ((ofStrategy strategy' request previous').execute other log' .patient).Rejected ∧
        ((Exchange.dialogue .patient strategy' request (Response.hopIndex previous')).hold other
          log').2 = [] := by
  intro decided
  let request := Request.new .get longPath
  have rejects : ((ofStrategy .pooled request none).execute (closedNetwork .refused) []
      .patient).Rejected :=
    rejected_execute_iff.mpr (.inr (.inl ⟨by decide, not_writable_longPath⟩))
  obtain ⟨rejects', -⟩ := decided request (closedNetwork .refused) (closedNetwork .refused) [] []
    .pooled .blocking none none rejects
  rcases rejected_execute_iff.mp rejects' with
    (noted | unspoken | unnamed) | ⟨shared, -⟩ | ⟨-, -, host, named, accepted⟩
  · exact noted rfl
  · exact unspoken rfl
  · cases unnamed
  · exact absurd shared (by decide)
  · cases named
    cases accepted

end ExecutionUnit

end Courier
