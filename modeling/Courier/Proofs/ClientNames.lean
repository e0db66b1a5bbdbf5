import Courier.Client.Ambient
import Courier.Proofs.Cancellation
import Courier.Proofs.Credentials

/-! # The name that a client gives itself

The settings of a client are checked before there is a client, and the name among them is put into a
header of every request that has none of its own. The check asks that the name is neither empty nor
long, but a header takes no controls. So there are clients whose name can stand in no header: every
call that leaves the name to them fails at its first exchange, for the fault of a setter that its
caller has not called. The other clients report no such fault that the request did not have before.
-/

namespace Courier

/-- The name of the client can stand in a header. -/
def Settings.IsPresentable (settings : Settings) : Prop :=
  ∀ octet ∈ Utf8.encode settings.userAgent, HeaderValue.isAllowed octet = true

instance (settings : Settings) : Decidable settings.IsPresentable :=
  decidable_of_iff ((Utf8.encode settings.userAgent).all HeaderValue.isAllowed) List.all_eq_true

/-- A request brings a name of its own, or that of the client can stand in a header. -/
def Settings.Suit (settings : Settings) (request : Request) : Prop :=
  request.headers.contains .userAgent = true ∨ settings.IsPresentable

theorem HeaderValue.ofBytes?_eq_none_iff {bytes : Bytes} :
    ofBytes? bytes = none ↔ ¬ ∀ octet ∈ bytes, isAllowed octet = true := by
  unfold ofBytes?
  rw [← List.all_eq_true]
  split <;> simp_all

/-- A request need bring no name. -/
theorem Settings.forall_suit_iff {settings : Settings} :
    (∀ request : Request, request.check = .ok () → settings.Suit request) ↔
      settings.IsPresentable := by
  constructor
  · intro suits
    exact (suits Selecting.rootRequest rfl).resolve_left (by decide)
  · exact fun presentable request _ => .inr presentable

namespace Call

variable {settings : Settings} {request : Request}

/-- A client that suits a request notes no fault about it. -/
theorem deferred_prepare (suits : settings.Suit request) :
    (prepare settings request).deferred = request.deferred := by
  unfold prepare
  split
  · rfl
  · rename_i unnamed
    obtain ⟨value, spelled⟩ :
        ∃ value, HeaderValue.ofBytes? (Utf8.encode settings.userAgent) = some value := by
      rw [← Option.ne_none_iff_exists', ne_eq, HeaderValue.ofBytes?_eq_none_iff, not_not]
      exact suits.resolve_left unnamed
    unfold Request.setHeader Request.withHeader
    rw [HeaderName.ofBytes?_userAgent, spelled]

/-- A client that does not suit a request notes a fault about it. -/
theorem prepare_of_not_suit (unsuited : ¬ settings.Suit request) :
    prepare settings request = request.deferFault Request.headerFault := by
  obtain ⟨unnamed, unpresentable⟩ := not_or.mp unsuited
  unfold prepare Request.setHeader Request.withHeader
  rw [if_neg unnamed, HeaderName.ofBytes?_userAgent,
    HeaderValue.ofBytes?_eq_none_iff.mpr unpresentable]

theorem check_prepare_iff (fine : request.check = .ok ()) :
    (prepare settings request).check = .ok () ↔ settings.Suit request := by
  rw [Request.check_eq_ok_iff] at fine ⊢
  by_cases suits : settings.Suit request
  · exact iff_of_true ((deferred_prepare suits).trans fine) suits
  · refine iff_of_false (fun spared => ?_) suits
    rw [prepare_of_not_suit suits, Request.deferFault, fine] at spared
    cases spared

end Call

/-! ## Along a call -/

/-- A request that follows a redirect is a new one, of which no fault is noted. -/
theorem Hop.Leads.check {hop next : Hop} (leads : hop.Leads next) (sound : hop.Sound) :
    next.request.check = .ok () := by
  obtain ⟨response, target, limit, -, -, -, -, same, -⟩ := leads.follows sound
  rw [Request.check_eq_ok_iff, same]
  rfl

/-- Only a fault of the first request can be noted along a call. -/
theorem Hop.Linked.check {hops : List Hop} (linked : Linked hops) {first : Hop}
    (here : hops[0]? = some first) :
    (∀ hop ∈ hops, hop.request.check = .ok ()) ↔ first.request.check = .ok () := by
  constructor
  · exact fun fine => fine first (List.mem_of_getElem? here)
  · intro fine hop member
    obtain ⟨place, there⟩ := List.getElem?_of_mem member
    exact linked.from_first here (fun hop => hop.request.check = .ok ()) fine
      (fun _ _ _ _ leads sound _ => leads.check sound) there

/-- A unit sends nothing for a request that is refused, and reports that if it performs an
exchange. -/
theorem ExecutionUnit.execute_of_refused (network : Network) (log : Log) {caller : Caller}
    {unit : ExecutionUnit} {refusal : Failure}
    (refused : Exchange.preflight caller unit.request = .error refusal) :
    ∃ failure, unit.execute network log caller = .unsent failure ∧
      (unit.Performs → failure = refusal) := by
  unfold execute
  split
  · refine ⟨refusal, ?_, fun _ => rfl⟩
    unfold Exchange.conduct
    rw [refused]
  · rename_i own returned
    refine ⟨own, rfl, fun ⟨strategy, performed⟩ => ?_⟩
    rw [returned] at performed
    cases performed

namespace Client

variable {network : Network} {caller : Caller} {world : World} {request : Request}

theorem check_hops_iff (fine : request.check = .ok ()) :
    (∀ hop ∈ hops network caller world request, hop.request.check = .ok ()) ↔
      world.client.settings.Suit request := by
  obtain ⟨first, begun⟩ := exists_first network caller world request
  rw [(linked_hops ..).check begun, (first_hop network caller world request begun).1]
  exact Call.check_prepare_iff fine

/-- A call of a client that does not suit its request ends with its first exchange, which is refused
for a fault of a setter, and sends nothing. -/
theorem exists_only_of_not_suit (fine : request.check = .ok ())
    (unsuited : ¬ world.client.settings.Suit request) :
    ∃ only, hops network caller world request = [only] ∧
      (execute network caller world request).2.log = world.log ∧
      (only.unit.Performs → (execute network caller world request).1 =
        .error (Exchange.refusal request.url (.text Request.headerFault))) := by
  obtain ⟨first, begun⟩ := exists_first network caller world request
  have executed : first.outcome = first.unit.execute network world.log caller := by
    rw [(exchange_at begun).1, List.take_zero, List.append_nil]
  have asked : first.unit.request = request.deferFault Request.headerFault :=
    (first_hop network caller world request begun).1.trans (Call.prepare_of_not_suit unsuited)
  have refused : Exchange.preflight caller first.unit.request =
      .error (Exchange.refusal request.url (.text Request.headerFault)) := by
    rw [asked, Exchange.preflight_eq_error_iff]
    refine .inl ⟨Request.headerFault, ?_, rfl⟩
    rw [Request.deferFault, Request.check_eq_ok_iff.mp fine, Option.none_or]
  obtain ⟨failure, unsent, performed⟩ :=
    ExecutionUnit.execute_of_refused network world.log refused
  have fails : first.outcome.result = .error failure := by
    rw [executed, unsent]
    rfl
  obtain ⟨-, count, result⟩ := fails_at begun fails
  obtain ⟨only, alone⟩ := List.length_eq_one_iff.mp count.symm
  rw [alone] at begun
  obtain rfl : only = first := Option.some.inj begun
  refine ⟨only, alone, ?_, fun performs => ?_⟩
  · rw [log_execute, alone, List.filterMap_cons, executed, unsent]
    exact List.append_nil _
  · rw [result, performed performs]

/-! ## Clients that are obtained for settings -/

/-- A client that was obtained for settings: it was made of them because they have no fault, or they
were given for the ambient client before there was one; and it may have been used since. -/
inductive ObtainedFor (settings : Settings) : Client → Prop
  | built {registry : Registry} {toggles : Toggles} {client : Client}
      (made : build settings registry toggles = .ok client) : ObtainedFor settings client
  | ambient {ambient : Ambient} {client : Client} (absent : ambient.client = none)
      (made : (ambient.init settings).client = some client) : ObtainedFor settings client
  | used {before : Client} (earlier : ObtainedFor settings before) (dispatcher : Dispatcher)
      (stats : Stats) : ObtainedFor settings { before with dispatcher, stats }

variable {settings : Settings} {client : Client}

theorem build_eq_ok_iff {registry : Registry} {toggles : Toggles} :
    build settings registry toggles = .ok client ↔
      settings.validate = .ok () ∧ client = .new settings registry toggles := by
  unfold build
  cases settings.validate with
  | error fault => simp [Except.map]
  | ok _ =>
    simp only [Except.map, Except.ok.injEq, true_and]
    exact eq_comm

theorem ObtainedFor.settings_eq (obtained : client.ObtainedFor settings) :
    settings.validate = .ok () ∧ client.settings = settings := by
  induction obtained with
  | built made =>
    obtain ⟨faultless, rfl⟩ := build_eq_ok_iff.mp made
    exact ⟨faultless, rfl⟩
  | ambient absent made =>
    unfold Ambient.init at made
    split at made
    · rename_i faultless _
      cases made
      exact ⟨faultless, rfl⟩
    · rw [absent] at made
      cases made
  | used earlier dispatcher stats ih => exact ih

/-- There is a client for settings exactly when the check of them finds no fault. -/
theorem exists_obtainedFor_iff : (∃ client, ObtainedFor settings client) ↔
    settings.validate = .ok () := by
  constructor
  · rintro ⟨client, obtained⟩
    exact obtained.settings_eq.1
  · intro faultless
    exact ⟨.new settings .probe .off, .built (build_eq_ok_iff.mpr ⟨faultless, rfl⟩)⟩

/-- What a client makes of a request in which no setter has found a fault has none either exactly
when the client suits the request: the request brings a name, or that of the client can stand in a
header. No exchange of a call of such a client is then refused for a setter. For any other request
the first exchange is, it is the only one, and nothing is sent. The clients that suit every request
are those whose name can stand in a header. -/
theorem usable_iff (settings : Settings) :
    ((∃ client, ObtainedFor settings client) ↔ settings.validate = .ok ()) ∧
    ((∀ request : Request, request.check = .ok () → settings.Suit request) ↔
      settings.IsPresentable) ∧
    ∀ client, ObtainedFor settings client → ∀ request : Request, request.check = .ok () →
      ((Call.prepare client.settings request).check = .ok () ↔ settings.Suit request) ∧
      ∀ (network : Network) (caller : Caller) (log : Log),
        let hops := hops network caller ⟨client, log⟩ request
        let ended := execute network caller ⟨client, log⟩ request
        ((∀ hop ∈ hops, hop.request.check = .ok ()) ↔ settings.Suit request) ∧
        (¬ settings.Suit request →
          ∃ only, hops = [only] ∧ ended.2.log = log ∧
            (only.unit.Performs → ended.1 =
              .error (Exchange.refusal request.url (.text Request.headerFault)))) := by
  refine ⟨exists_obtainedFor_iff, Settings.forall_suit_iff, fun client obtained request fine => ?_⟩
  obtain ⟨-, same⟩ := obtained.settings_eq
  rw [← same]
  refine ⟨Call.check_prepare_iff fine, fun network caller log => ⟨check_hops_iff fine, ?_⟩⟩
  exact @exists_only_of_not_suit network caller ⟨client, log⟩ request fine

/-- The standard settings have no fault, and their client prepares a request for the root without
one. -/
theorem usable_iff_standard :
    (∃ client, ObtainedFor .standard client) ∧
    (Call.prepare .standard Selecting.rootRequest).check = .ok () ∧
    ∀ hop ∈ hops .isolated .patient unused Selecting.rootRequest, hop.request.check = .ok () := by
  obtain ⟨obtained, suited, usable⟩ := usable_iff .standard
  have suits : Settings.standard.Suit Selecting.rootRequest := by
    exact suited.mpr (List.all_eq_true.mp (by cbv)) Selecting.rootRequest rfl
  have made : build .standard .probe .off = .ok (.new .standard .probe .off) :=
    build_eq_ok_iff.mpr ⟨by cbv, rfl⟩
  obtain ⟨prepares, calls⟩ := usable (.new .standard .probe .off) (.built made)
    Selecting.rootRequest rfl
  exact ⟨⟨_, .built made⟩, prepares.mpr suits, (calls .isolated .patient []).1.mpr suits⟩

/-- Settings whose name runs over two lines, which the check of them lets pass. -/
def twoLines : Settings := { Settings.standard with userAgent := "a\nb" }

/-- A call for the root of a client with such a name is refused. -/
theorem unusable_twoLines :
    ¬ ∀ settings client, ObtainedFor settings client → ∀ request : Request, request.check = .ok () →
      (Call.prepare client.settings request).check = .ok () ∧
      ∀ network caller log, ∀ hop ∈ hops network caller ⟨client, log⟩ request,
        hop.request.check = .ok () := by
  intro usable
  have made : build twoLines .probe .off = .ok (.new twoLines .probe .off) :=
    build_eq_ok_iff.mpr ⟨by cbv, rfl⟩
  have fine := (usable _ _ (.built made) Selecting.rootRequest rfl).1
  have refused : (Call.prepare twoLines Selecting.rootRequest).check =
      .error (Exchange.refusal Selecting.rootRequest.url (.text Request.headerFault)) := by cbv
  cases refused.symm.trans fine

end Client

end Courier
