import Courier.Proofs.Authentication
import Courier.Proofs.NextRequests

/-! # The order of headers along redirects

A request that follows a redirect leaves out some names. They are removed one after another, and each
time the last entry moves into the place that is freed. Which entry a place ends with can be told from
the headers as they were: an entry that is left stays, and where one is removed the search goes on at
the place that is the last when its turn comes. So the order is kept when no more than one entry is
left after the first name that is removed, and it is lost when more are left there than removed names
stand there in a row. Main statement: the headers that follow are those of the other names, each with
its values and at the place so told, and when this is the order that they had.
-/

namespace Courier

namespace Headers

variable {entries : List Entry} {names : List HeaderName} {name : HeaderName} {entry : Entry}

/-- The entries of all names but some, in order. -/
def others (names : List HeaderName) (entries : List Entry) : List Entry :=
  entries.filter (·.name ∉ names)

/-- The entries without some names, removed one after another. -/
def withoutAll (entries : List Entry) (names : List HeaderName) : List Entry :=
  names.foldl without entries

theorem entries_removeAll (headers : Headers) (names : List HeaderName) :
    (headers.removeAll names).entries = withoutAll headers.entries names := by
  unfold removeAll withoutAll
  induction names generalizing headers with
  | nil => rfl
  | cons name rest ih => exact ih (headers.remove name)

/-! ## What is left -/

theorem nodup_withoutAll (nodup : (entries.map (·.name)).Nodup) (names : List HeaderName) :
    ((withoutAll entries names).map (·.name)).Nodup := by
  unfold withoutAll
  induction names generalizing entries with
  | nil => exact nodup
  | cons name rest ih => exact ih (nodup_without name nodup)

theorem mem_withoutAll (nodup : (entries.map (·.name)).Nodup) :
    entry ∈ withoutAll entries names ↔ entry ∈ entries ∧ entry.name ∉ names := by
  unfold withoutAll
  induction names generalizing entries with
  | nil => simp
  | cons name rest ih =>
    rw [List.foldl_cons, ih (nodup_without name nodup), mem_without nodup, List.mem_cons, not_or,
      and_assoc]

/-- Whatever moves, the entries that are left are those of the other names. -/
theorem withoutAll_perm (nodup : (entries.map (·.name)).Nodup) (names : List HeaderName) :
    (withoutAll entries names).Perm (others names entries) := by
  have once := (nodup_withoutAll nodup names).of_map
  rw [others, List.perm_ext_iff_of_nodup once (nodup.of_map.filter _)]
  intro entry
  rw [mem_withoutAll nodup, List.mem_filter, decide_eq_true_eq]

/-! ## What stays in its place -/

theorem without_append {front back : List Entry} (apart : ∀ entry ∈ front, entry.name ≠ name) :
    without (front ++ back) name = front ++ without back name := by
  have ahead : ∀ entry ∈ front, decide (entry.name ≠ name) = true := by simpa using apart
  have absent : hasName front name = false := by simpa [hasName] using apart
  have present : hasName (front ++ back) name = hasName back name := by
    rw [hasName, List.any_append]
    change (hasName front name || hasName back name) = _
    rw [absent, Bool.false_or]
  unfold without around
  rw [present, List.takeWhile_append_of_pos ahead, List.dropWhile_append_of_pos ahead]
  split
  · simp only [List.append_assoc]
  · rfl

/-- Entries before all of the names stay where they are. -/
theorem withoutAll_append {front back : List Entry} (apart : ∀ entry ∈ front, entry.name ∉ names) :
    withoutAll (front ++ back) names = front ++ withoutAll back names := by
  unfold withoutAll
  induction names generalizing back with
  | nil => rfl
  | cons name rest ih =>
    rw [List.foldl_cons, List.foldl_cons,
      without_append fun entry member => List.ne_of_not_mem_cons (apart entry member)]
    exact ih fun entry member => List.not_mem_of_not_mem_cons (apart entry member)

/-! ## What comes to stand at a place -/

/-- Which entry comes to stand at a place when names are removed one after another. An entry of
another name stays. Where one is removed at some turn, what moves in is what comes to stand at the
place that is the last at that turn. -/
inductive Fills (names : List HeaderName) (entries : List Entry) : Nat → Entry → Prop
  | stays {place : Nat} {entry : Entry} (here : entries[place]? = some entry)
      (other : entry.name ∉ names) : Fills names entries place entry
  | moves {place turn : Nat} {removed entry : Entry} (here : entries[place]? = some removed)
      (turned : (names.filter (hasName entries))[turn]? = some removed.name)
      (fills : Fills names entries (entries.length - 1 - turn) entry) :
      Fills names entries place entry

/-- No more than one entry comes to stand at a place. -/
theorem Fills.unique (once : names.Nodup) {place : Nat} {other : Entry}
    (fills : Fills names entries place entry) (fills' : Fills names entries place other) :
    entry = other := by
  have among {turn : Nat} {removed : Entry}
      (turned : (names.filter (hasName entries))[turn]? = some removed.name) :
      removed.name ∈ names :=
    List.mem_of_mem_filter (List.mem_of_getElem? turned)
  induction fills with
  | stays here apart =>
    cases fills' with
    | stays here' apart' => exact Option.some.inj (here.symm.trans here')
    | moves here' turned' _ =>
      obtain rfl := Option.some.inj (here.symm.trans here')
      exact absurd (among turned') apart
  | moves here turned _ ih =>
    cases fills' with
    | stays here' apart' =>
      obtain rfl := Option.some.inj (here.symm.trans here')
      exact absurd (among turned) apart'
    | moves here' turned' fills' =>
      obtain rfl := Option.some.inj (here.symm.trans here')
      obtain ⟨bound, _⟩ := List.getElem?_eq_some_iff.mp turned
      obtain rfl := (List.getElem?_inj bound (once.filter _)).mp (turned.trans turned'.symm)
      exact ih fills'

/-- After a removal an entry stands where it stood, or it was the last one and has moved. -/
theorem getElem?_without_cases {place : Nat} (present : hasName entries name = true)
    (here : (without entries name)[place]? = some entry) :
    entries[place]? = some entry ∨ ∃ removed, entries[place]? = some removed ∧
      removed.name = name ∧ entries[entries.length - 1]? = some entry := by
  obtain ⟨removed, named, split⟩ := entries_eq_around present
  rw [without, if_pos present] at here
  dsimp only at here
  generalize (around entries name).1 = front at split here
  generalize (around entries name).2 = back at split here
  subst split
  rw [List.append_assoc] at here
  rcases Nat.lt_or_ge place front.length with before | after
  · rw [List.getElem?_append_left before] at here ⊢
    exact .inl here
  · rw [List.getElem?_append_right after] at here ⊢
    rcases back.eq_nil_or_concat' with rfl | ⟨inside, last, rfl⟩
    · simp at here
    · simp only [List.getLast?_concat, Option.toList_some, List.singleton_append,
        List.dropLast_concat] at here
      generalize place - front.length = distance at here ⊢
      cases distance with
      | zero =>
        obtain rfl : last = entry := Option.some.inj here
        refine .inr ⟨removed, rfl, named, ?_⟩
        simp
      | succ further =>
        rw [List.getElem?_cons_succ] at here ⊢
        obtain ⟨bound, _⟩ := List.getElem?_eq_some_iff.mp here
        rw [List.getElem?_append_left bound]
        exact .inl here

theorem length_without (present : hasName entries name = true) :
    (without entries name).length = entries.length - 1 := by
  obtain ⟨removed, _, split⟩ := entries_eq_around present
  have length := congrArg List.length split
  rw [(without_perm present).length_eq, length]
  simp

/-- The other names are there as they were before. -/
theorem hasName_without (nodup : (entries.map (·.name)).Nodup) {other : HeaderName}
    (apart : other ≠ name) : hasName (without entries name) other = hasName entries other := by
  rw [Bool.eq_iff_iff, hasName_iff, hasName_iff, List.mem_map, List.mem_map]
  constructor
  · rintro ⟨entry, member, named⟩
    exact ⟨entry, ((mem_without nodup).mp member).1, named⟩
  · rintro ⟨entry, member, named⟩
    exact ⟨entry, (mem_without nodup).mpr ⟨member, named ▸ apart⟩, named⟩

/-- What comes to stand at a place after a removal, the removals that follow included. -/
theorem Fills.of_without (nodup : (entries.map (·.name)).Nodup) {rest : List HeaderName}
    (fresh : name ∉ rest) {place : Nat} (fills : Fills rest (without entries name) place entry) :
    Fills (name :: rest) entries place entry := by
  cases present : hasName entries name with
  | false =>
    have absent : without entries name = entries := by rw [without, present]; rfl
    rw [absent] at fills
    have skipped : (name :: rest).filter (hasName entries) = rest.filter (hasName entries) :=
      List.filter_cons_of_neg (by simp [present])
    induction fills with
    | @stays place entry here other =>
      have member : entry ∈ without entries name := by
        rw [absent]
        exact List.mem_of_getElem? here
      have apart : entry.name ≠ name := ((mem_without nodup).mp member).2
      exact .stays here (by simp [apart, other])
    | moves here turned _ ih => exact .moves here (skipped ▸ turned) ih
  | true =>
    have first : (name :: rest).filter (hasName entries) = name :: rest.filter (hasName entries) :=
      List.filter_cons_of_pos present
    have later : rest.filter (hasName (without entries name)) = rest.filter (hasName entries) :=
      List.filter_congr fun other member =>
        hasName_without nodup (ne_of_mem_of_not_mem member fresh)
    -- What stands at a place after the removal stood there before, or it stood at the last place.
    have back {place : Nat} {other out : Entry} (here : (without entries name)[place]? = some other)
        (reaches : ∀ place, entries[place]? = some other → Fills (name :: rest) entries place out) :
        Fills (name :: rest) entries place out := by
      rcases getElem?_without_cases present here with stood | ⟨removed, stood, named, last⟩
      · exact reaches place stood
      · exact .moves stood (by rw [first, named, List.getElem?_cons_zero]) (reaches _ last)
    induction fills with
    | stays here other =>
      have apart := ((mem_without nodup).mp (List.mem_of_getElem? here)).2
      exact back here fun place stood => .stays stood (by simp [apart, other])
    | @moves place turn removed entry here turned _ ih =>
      have turnedNext : ((name :: rest).filter (hasName entries))[turn + 1]? =
          some removed.name := by
        rw [first, List.getElem?_cons_succ, ← later]
        exact turned
      have sameEnd : (without entries name).length - 1 - turn = entries.length - 1 - (turn + 1) := by
        rw [length_without present]
        omega
      exact back here fun place stood => .moves stood turnedNext (sameEnd ▸ ih)

/-- The entries that are left, place by place. -/
theorem getElem?_withoutAll_iff (nodup : (entries.map (·.name)).Nodup) (once : names.Nodup)
    {place : Nat} :
    (withoutAll entries names)[place]? = some entry ↔
      place < (others names entries).length ∧ Fills names entries place entry := by
  have fills {place : Nat} {entry : Entry}
      (here : (withoutAll entries names)[place]? = some entry) :
      Fills names entries place entry := by
    unfold withoutAll at here
    induction names generalizing entries with
    | nil => exact .stays here List.not_mem_nil
    | cons name rest ih =>
      obtain ⟨fresh, onceLater⟩ := List.nodup_cons.mp once
      exact (ih (nodup_without name nodup) onceLater here).of_without nodup fresh
  have length := (withoutAll_perm nodup names).length_eq
  constructor
  · intro here
    obtain ⟨bound, _⟩ := List.getElem?_eq_some_iff.mp here
    exact ⟨length ▸ bound, fills here⟩
  · rintro ⟨bound, filled⟩
    rw [← length] at bound
    have here := List.getElem?_eq_getElem bound
    rw [here, (fills here).unique once filled]

/-! ## When the order is kept -/

/-- Some names, removed one after another, leave the other entries in the order that they had. -/
def InOrder (names : List HeaderName) (entries : List Entry) : Prop :=
  withoutAll entries names = others names entries

/-- The entries from the first of some names on. -/
def behind (names : List HeaderName) (entries : List Entry) : List Entry :=
  entries.dropWhile (·.name ∉ names)

/-- How many entries are left after the first of some names. -/
def left (names : List HeaderName) (entries : List Entry) : Nat :=
  (others names (behind names entries)).length

/-- How many entries of some names, from the first on, stand in a row. -/
def row (names : List HeaderName) (entries : List Entry) : Nat :=
  ((behind names entries).takeWhile (·.name ∈ names)).length

/-- What stands before the first of the names has no part in the order. -/
theorem inOrder_behind_iff : InOrder names (behind names entries) ↔ InOrder names entries := by
  have ahead : ∀ entry ∈ entries.takeWhile (·.name ∉ names), entry.name ∉ names := by
    intro entry member
    simpa using List.mem_takeWhile_imp member
  have apart : others names (entries.takeWhile (·.name ∉ names)) =
      entries.takeWhile (·.name ∉ names) := by
    exact List.filter_eq_self.mpr (by simpa using ahead)
  have split : entries.takeWhile (·.name ∉ names) ++ behind names entries = entries :=
    List.takeWhile_append_dropWhile
  conv_rhs => rw [← split]
  unfold InOrder
  rw [withoutAll_append ahead, others, others, List.filter_append]
  change _ ↔ _ = others names (entries.takeWhile (·.name ∉ names)) ++ _
  rw [apart, List.append_cancel_left_eq]

/-- A single entry is in order wherever it has moved. -/
theorem inOrder_of_left_le_one (nodup : (entries.map (·.name)).Nodup)
    (few : left names entries ≤ 1) : InOrder names entries := by
  have nodup' : ((behind names entries).map (·.name)).Nodup :=
    nodup.sublist ((List.dropWhile_sublist _).map _)
  have same := withoutAll_perm nodup' names
  rw [← inOrder_behind_iff, InOrder]
  unfold left at few
  generalize others names (behind names entries) = rest at few same ⊢
  match rest with
  | [] => exact same.eq_nil
  | [entry] => exact same.eq_singleton
  | _ :: _ :: _ => simp at few

/-- What is left behind the first of the names is left behind the row of which it is part. -/
theorem exists_row (names : List HeaderName) (entries : List Entry) :
    ∃ run rest, behind names entries = run ++ rest ∧ run.length = row names entries ∧
      (run = [] → rest = []) ∧ others names (run ++ rest) = others names rest ∧
      ∀ first tail, rest = first :: tail → first.name ∉ names := by
  unfold row behind
  have begun := List.head?_dropWhile_not (fun entry : Entry => decide (entry.name ∉ names)) entries
  generalize entries.dropWhile (·.name ∉ names) = back at begun ⊢
  have ended := List.head?_dropWhile_not (fun entry : Entry => decide (entry.name ∈ names)) back
  refine ⟨_, _, List.takeWhile_append_dropWhile.symm, rfl, ?_, ?_, ?_⟩
  · intro none
    cases back with
    | nil => rfl
    | cons first tail =>
      have removed : first.name ∈ names := by simpa using begun
      simp [removed] at none
  · have removed : others names (back.takeWhile (·.name ∈ names)) = [] := by
      refine List.filter_eq_nil_iff.mpr fun entry member => ?_
      simpa using List.mem_takeWhile_imp member
    rw [others, List.filter_append]
    exact congrArg (· ++ _) removed
  · intro first tail same
    rw [same] at ended
    simpa using ended

/-- An order that is kept moves no entry past one that stays. -/
theorem left_le_row_of_inOrder (nodup : (entries.map (·.name)).Nodup) (once : names.Nodup)
    (ordered : InOrder names entries) : left names entries ≤ row names entries := by
  have nodup' : ((behind names entries).map (·.name)).Nodup :=
    nodup.sublist ((List.dropWhile_sublist _).map _)
  have kept : withoutAll (behind names entries) names = others names (behind names entries) :=
    inOrder_behind_iff.mpr ordered
  obtain ⟨run, rest, split, length, started, gone, ended⟩ := exists_row names entries
  rw [← length, left]
  rw [split] at kept nodup' ⊢
  -- Were the row shorter, the first entry behind it would not move, although it comes first.
  by_contra short
  cases rest with
  | nil =>
    rw [gone] at short
    exact short (Nat.zero_le _)
  | cons first tail =>
    have other : first.name ∉ names := ended first tail rfl
    have stays : (withoutAll (run ++ first :: tail) names)[run.length]? = some first :=
      (getElem?_withoutAll_iff nodup' once).mpr ⟨Nat.not_le.mp short, .stays (by simp) other⟩
    have comesFirst : others names (first :: tail) = first :: others names tail :=
      List.filter_cons_of_pos (by simpa using other)
    rw [kept, gone, comesFirst] at stays
    cases run with
    | nil => cases started rfl
    | cons removed more =>
      rw [List.length_cons, List.getElem?_cons_succ] at stays
      have again : first ∈ tail := List.mem_of_mem_filter (List.mem_of_getElem? stays)
      exact (List.nodup_cons.mp (List.nodup_append.mp nodup'.of_map).2.1).1 again

/-- The order is kept when every entry that is left comes to stand at its place among those. -/
theorem inOrder_iff (nodup : (entries.map (·.name)).Nodup) (once : names.Nodup) :
    InOrder names entries ↔ ∀ place entry, (others names entries)[place]? = some entry →
      Fills names entries place entry := by
  constructor
  · intro ordered place entry here
    rw [← ordered] at here
    exact ((getElem?_withoutAll_iff nodup once).mp here).2
  · intro fills
    apply List.ext_getElem (withoutAll_perm nodup names).length_eq
    intro place _ bound
    have here := List.getElem?_eq_getElem bound
    have there := (getElem?_withoutAll_iff nodup once).mpr ⟨bound, fills place _ here⟩
    exact (List.getElem?_eq_some_iff.mp there).2

instance (names : List HeaderName) (entries : List Entry) : Decidable (InOrder names entries) :=
  inferInstanceAs (Decidable (_ = _))

/-- Two entries that are left behind two removed names change places or do not, as the names are
removed from the left or from the right. -/
example : let entries : List Entry :=
      [⟨.authorization, ⟨[]⟩, []⟩, ⟨.cookie, ⟨[]⟩, []⟩, ⟨.accept, ⟨[]⟩, []⟩, ⟨.host, ⟨[]⟩, []⟩]
    ¬ InOrder [.authorization, .cookie] entries ∧ InOrder [.cookie, .authorization] entries := by
  decide

theorem removeAll_append (headers : Headers) (names more : List HeaderName) :
    headers.removeAll (names ++ more) = (headers.removeAll names).removeAll more :=
  List.foldl_append ..

end Headers

namespace Redirect

/-- The names that a request loses at its next URL. -/
def dropped (status : Status) (request : Request) (target : Url) : List HeaderName :=
  (if request.url.OtherOrigin target then credentials else []) ++
    if Rewrites status request.method then bodyHeaders else []

theorem entries_follow (status : Status) (request : Request) (target : Url) :
    (follow status request target).headers.entries =
      Headers.withoutAll request.headers.entries (dropped status request target) := by
  have kept : headersFor request target (becomesGet status request) =
      request.headers.removeAll (dropped status request target) := by
    unfold headersFor dropped
    simp only [← becomesGet_iff, ← Url.sameOrigin_eq_false_iff, Headers.removeAll_append]
    cases request.url.sameOrigin target <;> cases becomesGet status request <;> rfl
  rw [← Headers.entries_removeAll, ← kept]
  exact congrArg Headers.entries (Headers.empty_extend _)

theorem nodup_dropped (status : Status) (request : Request) (target : Url) :
    (dropped status request target).Nodup := by
  unfold dropped
  split <;> split <;> decide

/-- When the headers of a request keep their order at the next URL. The headers that follow are those
of all names but the dropped ones, each with its values, and each stands where the removals bring it.
So they are in the order that they had exactly when the removals bring each one to its place among
them. This is so when at most one of them came after the first that is dropped, and only if no more
of them came after it than dropped ones stood there in a row. -/
theorem order_kept_iff {response : Response} {next : Request}
    (follows : next? response = .ok (some next)) :
    let given := response.request.headers.entries
    let names := dropped response.status response.request next.url
    let kept := Headers.others names given
    next.headers.entries.Perm kept ∧
    (∀ place entry, next.headers.entries[place]? = some entry ↔
      place < kept.length ∧ Headers.Fills names given place entry) ∧
    (next.headers.entries = kept ↔
      ∀ place entry, kept[place]? = some entry → Headers.Fills names given place entry) ∧
    (Headers.left names given ≤ 1 → next.headers.entries = kept) ∧
    (next.headers.entries = kept → Headers.left names given ≤ Headers.row names given) := by
  intro given names kept
  obtain ⟨limit, target, -, -, -, rfl⟩ := next?_eq_some_iff.mp follows
  have nodup := response.request.headers.nodup
  have once : names.Nodup := nodup_dropped ..
  rw [entries_follow]
  exact ⟨Headers.withoutAll_perm nodup names,
    fun _ _ => Headers.getElem?_withoutAll_iff nodup once, Headers.inOrder_iff nodup once,
    Headers.inOrder_of_left_le_one nodup, Headers.left_le_row_of_inOrder nodup once⟩

/-- Headers for a page, of which one is a credential. -/
def withCredential (place : Nat) : Headers :=
  .ofPairs ([(.accept, ⟨[]⟩), (.cacheControl, ⟨[]⟩)].insertIdx place (.authorization, ⟨[]⟩))

theorem next?_movedResponse (headers : Headers) : next? (Builder.movedResponse headers) =
    .ok (some (follow ⟨302⟩ (Builder.headRequest headers) (Builder.page "b"))) := by
  have leads : (Builder.movedResponse headers).location? = .ok (some (Builder.page "b")) := by cbv
  have below : (0 : UInt32) < 20 := by decide
  exact next?_eq_some_iff.mpr ⟨20, _, rfl, ⟨rfl, leads⟩, below, rfl⟩

/-- A credential between two other headers. -/
theorem order_kept_between :
    next? (Builder.movedResponse (withCredential 1)) =
      .ok (some (follow ⟨302⟩ (Builder.headRequest (withCredential 1)) (Builder.page "b"))) ∧
    (follow ⟨302⟩ (Builder.headRequest (withCredential 1)) (Builder.page "b")).headers.entries =
      [⟨.accept, ⟨[]⟩, []⟩, ⟨.cacheControl, ⟨[]⟩, []⟩] := by
  refine ⟨next?_movedResponse _, ?_⟩
  exact (order_kept_iff (next?_movedResponse _)).2.2.2.1 (by decide)

/-- A credential before two other headers makes them change places. -/
theorem order_lost :
    ¬ ∀ (response : Response) (next : Request), next? response = .ok (some next) →
      next.headers.entries = response.request.headers.entries.filter
        (·.name ∉ dropped response.status response.request next.url) := by
  intro kept
  have ordered := kept _ _ (next?_movedResponse (withCredential 0))
  revert ordered
  decide

end Redirect

end Courier
