import Courier.Bench.Summary
import Mathlib.Data.List.Induction

/-! # The lines of a summary

Two results lead a summary, each found by a scan that keeps the best result so far: a result takes
its place that is no slower, or whose percentile is less. Thus of equals the last has the throughput
and the first the latency, and since all numbers are in one total order there is a leader of either
kind in every list that is not empty, NaNs or not. The results that are then compared with the first
leader are chosen by another test, which no NaN passes. Main statement: the lines of a summary are
two lines of headings, a row for each result, and unless there is none the two leaders and these
comparisons, all in the order of the results.
-/

namespace Courier

/-- A number lies above zero when it comes after zero in the total order and is no NaN. -/
theorem Double.isPositive_iff {x : Double} :
    x.isPositive = true ↔ x.isNaN = false ∧ Double.zero.orderKey < x.orderKey := by
  have zero : Double.zero.orderKey = signSize := by decide
  have nonzero : x.bits ≠ 0 ↔ x.bits.toNat ≠ 0 := by rw [ne_eq, ← UInt64.toNat_inj]; rfl
  rw [zero, orderKey]
  cases sign : x.isNegative with
  | true =>
    have negative : signSize ≤ x.bits.toNat := of_decide_eq_true sign
    have before : ¬ signSize < UInt64.size - 1 - x.bits.toNat := by
      simp only [signSize, UInt64.size] at negative ⊢
      omega
    exact iff_of_false (by simp [isPositive, sign]) fun both => before both.2
  | false => simp [isPositive, sign, nonzero, Nat.pos_iff_ne_zero]

namespace Bench.Summary

/-! ## Leaders -/

section

variable {α : Type} {beats : α → α → Prop} [DecidableRel beats] {items : List α} {leader : α}

/-- One more item of a scan for the best one. -/
def better (beats : α → α → Prop) [DecidableRel beats] (best : Option α) (item : α) : Option α :=
  match best with
  | some leader => if beats item leader then some item else best
  | none => some item

/-- The best item of a list, found by looking at each in turn. -/
def scan (beats : α → α → Prop) [DecidableRel beats] (items : List α) : Option α :=
  items.foldl (better beats) none

/-- An item of a list leads it that beats all before it and is not beaten by any after it. -/
def Leads (beats : α → α → Prop) (items : List α) (leader : α) : Prop :=
  ∃ before after, items = before ++ leader :: after ∧ (∀ item ∈ before, beats leader item) ∧
    ∀ item ∈ after, ¬ beats item leader

omit [DecidableRel beats] in
theorem Leads.mem (leads : Leads beats items leader) : leader ∈ items := by
  obtain ⟨before, after, rfl, -, -⟩ := leads
  simp

theorem better_some (item : α) :
    better beats (some leader) item = some (if beats item leader then item else leader) := by
  simp only [better]
  split <;> rfl

theorem scan_concat (item : α) :
    scan beats (items ++ [item]) = better beats (scan beats items) item := by
  rw [scan, List.foldl_append, List.foldl_cons, List.foldl_nil, scan]

/-- Every item of a list is looked at, so something is found unless there is none. -/
theorem scan_eq_none_iff : scan beats items = none ↔ items = [] := by
  induction items using List.reverseRecOn with
  | nil => exact iff_of_true rfl rfl
  | append_singleton items item _ =>
    rw [scan_concat]
    cases scan beats items with
    | none => simp [better]
    | some best => simp [better_some]

theorem exists_scan (filled : items ≠ []) : ∃ leader, scan beats items = some leader :=
  Option.ne_none_iff_exists'.mp (mt scan_eq_none_iff.mp filled)

/-- What is found by scanning leads, if whatever beats an item beats also all that this item beats
and all that do not beat it. -/
theorem leads_of_scan (trans : ∀ x y z, beats x y → beats y z → beats x z)
    (weak : ∀ x y z, beats x y → ¬ beats z y → beats x z)
    (found : scan beats items = some leader) : Leads beats items leader := by
  induction items using List.reverseRecOn generalizing leader with
  | nil => exact absurd found nofun
  | append_singleton items item ih =>
    rw [scan_concat] at found
    cases earlier : scan beats items with
    | none =>
      rw [earlier] at found
      obtain rfl := scan_eq_none_iff.mp earlier
      obtain rfl := Option.some.inj found
      exact ⟨[], [], rfl, nofun, nofun⟩
    | some best =>
      obtain ⟨before, after, rfl, ahead, kept⟩ := ih earlier
      rw [earlier, better_some, Option.some.injEq] at found
      split at found
      · rename_i beaten
        obtain rfl := found
        refine ⟨before ++ best :: after, [], rfl, ?_, nofun⟩
        rw [List.forall_mem_append, List.forall_mem_cons]
        exact ⟨fun other member => trans _ _ _ beaten (ahead other member), beaten,
          fun other member => weak _ _ _ beaten (kept other member)⟩
      · rename_i unbeaten
        obtain rfl := found
        refine ⟨before, after ++ [item], by simp, ahead, ?_⟩
        rw [List.forall_mem_append, List.forall_mem_singleton]
        exact ⟨kept, unbeaten⟩

/-- Scanning finds the item that leads. -/
theorem scan_eq_some_iff (trans : ∀ x y z, beats x y → beats y z → beats x z)
    (weak : ∀ x y z, beats x y → ¬ beats z y → beats x z) :
    scan beats items = some leader ↔ Leads beats items leader := by
  refine ⟨leads_of_scan trans weak, ?_⟩
  rintro ⟨before, after, rfl, ahead, kept⟩
  have taken : better beats (scan beats before) leader = some leader := by
    cases earlier : scan beats before with
    | none => rfl
    | some best => rw [better_some, if_pos (ahead best (leads_of_scan trans weak earlier).mem)]
  -- From here on the leader stays, whatever was best before it.
  rw [scan, List.foldl_append, List.foldl_cons, ← scan, taken]
  clear taken ahead
  induction after with
  | nil => rfl
  | cons item rest ih =>
    rw [List.forall_mem_cons] at kept
    rw [List.foldl_cons, better_some, if_neg kept.1, ih kept.2]

/-- An item of a list with the greatest measure, of several the last. -/
def LastGreatest (measure : α → Nat) (items : List α) (item : α) : Prop :=
  ∃ before after, items = before ++ item :: after ∧
    (∀ other ∈ before, measure other ≤ measure item) ∧ ∀ other ∈ after, measure other < measure item

/-- An item of a list with the least measure, of several the first. -/
def FirstLeast (measure : α → Nat) (items : List α) (item : α) : Prop :=
  ∃ before after, items = before ++ item :: after ∧
    (∀ other ∈ before, measure item < measure other) ∧ ∀ other ∈ after, measure item ≤ measure other

end

/-- The scan for the throughput takes the last of equals. -/
theorem fastest?_eq (results : List Result) :
    fastest? results = scan (fun x y => y.perSecond.orderKey ≤ x.perSecond.orderKey) results := by
  unfold fastest? scan
  congr 1
  funext best result
  cases best <;> rfl

/-- The scan for the latency takes the first of equals. -/
theorem lowest?_eq (results : List Result) :
    lowest? results =
      scan (fun x y => x.latency.p95.orderKey < y.latency.p95.orderKey) results := by
  unfold lowest? scan
  congr 1
  funext best result
  cases best <;> rfl

variable {results : List Result} {leader : Result}

theorem fastest?_eq_some_iff :
    fastest? results = some leader ↔ LastGreatest (·.perSecond.orderKey) results leader := by
  rw [fastest?_eq, scan_eq_some_iff (fun _ _ _ _ _ => by omega) (fun _ _ _ _ _ => by omega)]
  simp only [Leads, LastGreatest, Nat.not_le]

theorem lowest?_eq_some_iff :
    lowest? results = some leader ↔ FirstLeast (·.latency.p95.orderKey) results leader := by
  rw [lowest?_eq, scan_eq_some_iff (fun _ _ _ _ _ => by omega) (fun _ _ _ _ _ => by omega)]
  simp only [Leads, FirstLeast, Nat.not_lt]

theorem mem_of_fastest? (found : fastest? results = some leader) : leader ∈ results := by
  obtain ⟨before, after, rfl, -, -⟩ := fastest?_eq_some_iff.mp found
  simp

theorem mem_of_lowest? (found : lowest? results = some leader) : leader ∈ results := by
  obtain ⟨before, after, rfl, -, -⟩ := lowest?_eq_some_iff.mp found
  simp

theorem exists_fastest? (filled : results ≠ []) : ∃ leader, fastest? results = some leader :=
  fastest?_eq results ▸ exists_scan filled

theorem exists_lowest? (filled : results ≠ []) : ∃ leader, lowest? results = some leader :=
  lowest?_eq results ▸ exists_scan filled

/-! ## Lines -/

/-- The lines of a summary of some results. -/
theorem lines_eq {fastest lowest : Result} (first : fastest? results = some fastest)
    (second : lowest? results = some lowest) :
    lines results = [.heading, .rule] ++ results.map .row ++
      ([.blank, .throughput fastest, .latency lowest] ++
        (results.filter (isCompared fastest)).map (.comparison · fastest)) := by
  rw [lines, first, second]

/-- The results that a line names. -/
def Line.named : Line → List Result
  | .heading | .rule | .blank => []
  | .row result => [result]
  | .throughput leader | .latency leader => [leader]
  | .comparison result leader => [result, leader]

/-- The lines of a summary name no results but those that are summarised. -/
theorem mem_of_named {line : Line} (member : line ∈ lines results) {result : Result}
    (named : result ∈ line.named) : result ∈ results := by
  rw [lines, List.mem_append, List.mem_append, List.mem_map] at member
  rcases member with (heading | ⟨other, inside, rfl⟩) | leading
  · obtain rfl | rfl : line = .heading ∨ line = .rule := by simpa using heading
    · exact absurd named nofun
    · exact absurd named nofun
  · obtain rfl : result = other := by simpa [Line.named] using named
    exact inside
  · split at leading
    · rename_i fastest lowest first second
      have hasFastest := mem_of_fastest? first
      have hasLowest := mem_of_lowest? second
      simp only [List.mem_append, List.mem_cons, List.not_mem_nil, or_false, List.mem_map]
        at leading
      rcases leading with (rfl | rfl | rfl) | ⟨other, compared, rfl⟩
      · exact absurd named nofun
      · rwa [List.mem_singleton.mp named]
      · rwa [List.mem_singleton.mp named]
      · obtain rfl | rfl : result = other ∨ result = fastest := by simpa [Line.named] using named
        · exact (List.mem_filter.mp compared).1
        · exact hasFastest
    · exact absurd leading nofun

/-! ## Text -/

@[simp] theorem Line.text_heading : heading.text =
    "Strategy   |   Avg(ms) | Median(ms) |   P95(ms) |   Min(ms) |   Max(ms) |   Req/sec" := by
  rfl

@[simp] theorem Line.text_rule : rule.text = String.ofList (List.replicate 86 '-') := rfl

@[simp] theorem Line.text_row (result : Result) : (row result).text =
    columns result.strategy (amount result.latency.avg) (amount result.latency.median)
      (amount result.latency.p95) (amount result.latency.min) (amount result.latency.max)
      (amount result.perSecond) ++ "  " ++
      Nat.repr result.successful.toNat ++ "/" ++ Nat.repr result.total.toNat := rfl

@[simp] theorem Line.text_blank : blank.text = "" := rfl

@[simp] theorem Line.text_throughput (leader : Result) : (throughput leader).text =
    "Highest throughput: " ++ leader.strategy ++ " (" ++ amount leader.perSecond ++ " req/sec)" :=
  rfl

@[simp] theorem Line.text_latency (leader : Result) : (latency leader).text =
    "Lowest 95th percentile latency: " ++ leader.strategy ++ " (" ++ amount leader.latency.p95 ++
      " ms)" := rfl

@[simp] theorem Line.text_comparison (result leader : Result) : (comparison result leader).text =
    result.strategy ++ " throughput is " ++ amount (excess leader.perSecond result.perSecond) ++
      "% lower than " ++ leader.strategy := rfl

theorem newline_notMem_toDigits (n : Nat) : '\n' ∉ Nat.toDigits 10 n := fun member =>
  absurd (Nat.isDigit_of_mem_toDigits (by decide) (by decide) member) (by decide)

theorem newline_notMem_amount (x : Double) : '\n' ∉ (amount x).toList := by
  simp only [amount, Double.fixed]
  split
  · decide
  split
  · split <;> simp [newline_notMem_toDigits]
  · split <;> decide

theorem newline_notMem_columns {strategy avg median p95 min max perSecond : String}
    (whole : ∀ text ∈ [strategy, avg, median, p95, min, max, perSecond], '\n' ∉ text.toList) :
    '\n' ∉ (columns strategy avg median p95 min max perSecond).toList := by
  simp only [List.forall_mem_cons] at whole
  simp [columns, left, right, padding, whole]

/-- A line ends only where it ought to, if the names of the strategies in it do not end it. -/
theorem Line.newline_notMem_text {line : Line}
    (whole : ∀ result ∈ line.named, '\n' ∉ result.strategy.toList) : '\n' ∉ line.text.toList := by
  cases line with
  | heading => simp
  | rule => simp
  | row result =>
    have name := whole result (by simp [named])
    have table : '\n' ∉ (columns result.strategy (amount result.latency.avg)
        (amount result.latency.median) (amount result.latency.p95) (amount result.latency.min)
        (amount result.latency.max) (amount result.perSecond)).toList :=
      newline_notMem_columns (by simp [name, newline_notMem_amount])
    simp [table, newline_notMem_toDigits]
  | blank => simp
  | throughput leader | latency leader =>
    have name := whole leader (by simp [named])
    simp [name, newline_notMem_amount]
  | comparison result leader =>
    have name := whole result (by simp [named])
    have other := whole leader (by simp [named])
    simp [name, other, newline_notMem_amount]

/-- Cutting lines that are ended and joined gives these lines, and an empty one after the last
end. -/
theorem splitOn_join {texts : List String} (whole : ∀ text ∈ texts, '\n' ∉ text.toList) :
    (String.join (texts.map (· ++ "\n"))).toList.splitOn '\n' =
      texts.map String.toList ++ [[]] := by
  induction texts with
  | nil => rfl
  | cons text rest ih =>
    rw [List.forall_mem_cons] at whole
    have first : (String.join ((text :: rest).map (· ++ "\n"))).toList =
        text.toList ++ '\n' :: (String.join (rest.map (· ++ "\n"))).toList := by
      simp [String.toList_join]
    have apart : ∀ c ∈ text.toList, (c == '\n') = false := by
      intro c member
      simpa using ne_of_mem_of_not_mem member whole.1
    rw [first, List.splitOn, List.splitOnP_append_cons_of_forall_mem apart '\n' (by simp),
      ← List.splitOn, ih whole.2]
    rfl

/-! ## Summaries -/

/-- A result is compared with the leader if it is of another strategy and its throughput lies above
zero. -/
theorem isCompared_eq (leader : Result) :
    isCompared leader = fun result =>
      decide (result.strategy ≠ leader.strategy ∧ result.perSecond.isNaN = false ∧
        Double.zero.orderKey < result.perSecond.orderKey) := by
  funext result
  rw [Bool.eq_iff_iff]
  simp [isCompared, Double.isPositive_iff]

/-- What a summary says. Its text is that of its lines, each of them ended, and if no strategy has a
name that ends a line, these are the lines into which the text is cut. They are two lines of headings
and a row for each result, in order, and no more if there is no result. A row has the name of the
strategy at the left end of its column, the latencies and the throughput at the right ends of theirs,
and then how many responses of how many exchanges report success. Otherwise there follow a blank line,
the last result of the greatest throughput, the first of the least percentile, and a comparison for
each result that is not of the leading strategy and has a throughput above zero, in order. -/
theorem leaders_named (results : List Result) :
    let blanks := fun (width : Nat) (text : String) =>
      String.ofList (List.replicate (width - text.length) ' ')
    let number := fun (width : Nat) (x : Double) => blanks width (amount x) ++ amount x
    let row := fun result : Result =>
      " | ".intercalate
          [result.strategy ++ blanks 10 result.strategy, number 9 result.latency.avg,
            number 10 result.latency.median, number 9 result.latency.p95,
            number 9 result.latency.min, number 9 result.latency.max, number 9 result.perSecond] ++
        "  " ++ Nat.repr result.successful.toNat ++ "/" ++ Nat.repr result.total.toNat
    let headings :=
      ["Strategy   |   Avg(ms) | Median(ms) |   P95(ms) |   Min(ms) |   Max(ms) |   Req/sec",
        String.ofList (List.replicate 86 '-')]
    ∃ printed : List String,
      render results = String.join (printed.map (· ++ "\n")) ∧
      ((∀ result ∈ results, '\n' ∉ result.strategy.toList) →
        (render results).toList.splitOn '\n' = printed.map String.toList ++ [[]]) ∧
      (results = [] → printed = headings) ∧
      (results ≠ [] → ∃ fastest lowest,
        LastGreatest (·.perSecond.orderKey) results fastest ∧
        FirstLeast (·.latency.p95.orderKey) results lowest ∧
        printed = headings ++ results.map row ++
          ["", "Highest throughput: " ++ fastest.strategy ++ " (" ++ amount fastest.perSecond ++
              " req/sec)",
            "Lowest 95th percentile latency: " ++ lowest.strategy ++ " (" ++
              amount lowest.latency.p95 ++ " ms)"] ++
          (results.filter fun result => result.strategy ≠ fastest.strategy ∧
              result.perSecond.isNaN = false ∧
              Double.zero.orderKey < result.perSecond.orderKey).map fun result =>
            result.strategy ++ " throughput is " ++
              amount (excess fastest.perSecond result.perSecond) ++ "% lower than " ++
              fastest.strategy) := by
  intro blanks number row headings
  refine ⟨(lines results).map Line.text, ?_, ?_, ?_, ?_⟩
  · rw [render, List.map_map]
    rfl
  · intro whole
    have texts : ∀ text ∈ (lines results).map Line.text, '\n' ∉ text.toList := by
      rw [List.forall_mem_map]
      intro line member
      exact Line.newline_notMem_text fun result named => whole result (mem_of_named member named)
    rw [← splitOn_join texts, render, List.map_map]
    rfl
  · rintro rfl
    rfl
  · intro filled
    obtain ⟨fastest, first⟩ := exists_fastest? filled
    obtain ⟨lowest, second⟩ := exists_lowest? filled
    refine ⟨fastest, lowest, fastest?_eq_some_iff.mp first, lowest?_eq_some_iff.mp second, ?_⟩
    have rows : (results.map Line.row).map Line.text = results.map row := List.map_map ..
    rw [lines_eq first second, isCompared_eq, List.map_append, List.map_append, List.map_append,
      rows, List.map_map]
    simp [headings, Function.comp_def]

/-- A result of some throughput and percentile. -/
def sampleResult (strategy : String) (p95 perSecond : UInt64) : Result :=
  ⟨strategy, .zero, 3, 4, ⟨.zero, .zero, ⟨p95⟩, .zero, .zero⟩, ⟨perSecond⟩⟩

/-- Results that tie: two of the greatest throughput, and two of the least percentile, which is the
negative zero. One has no number for its throughput, one has none at all. -/
def tied : List Result :=
  [sampleResult "blocking" 0x3FF0000000000000 0xFFF8000000000000,
    sampleResult "pooled" 0x8000000000000000 0x4000000000000000,
    sampleResult "task" 0x8000000000000000 0x4000000000000000,
    sampleResult "pooled" 0 0,
    sampleResult "blocking" 0 0x3FF0000000000000]

/-- The last of the fastest and the first of the least lead; those of the leading strategy, with no
number and with none at all are not compared. -/
theorem leaders_named_tied :
    (∀ result ∈ tied, '\n' ∉ result.strategy.toList) ∧ tied ≠ [] ∧
      (render tied).toList.splitOn '\n' =
        ["Strategy   |   Avg(ms) | Median(ms) |   P95(ms) |   Min(ms) |   Max(ms) |   Req/sec",
          String.ofList (List.replicate 86 '-'),
          "blocking   |      0.00 |       0.00 |      1.00 |      0.00 |      0.00 |       NaN  3/4",
          "pooled     |      0.00 |       0.00 |     -0.00 |      0.00 |      0.00 |      2.00  3/4",
          "task       |      0.00 |       0.00 |     -0.00 |      0.00 |      0.00 |      2.00  3/4",
          "pooled     |      0.00 |       0.00 |      0.00 |      0.00 |      0.00 |      0.00  3/4",
          "blocking   |      0.00 |       0.00 |      0.00 |      0.00 |      0.00 |      1.00  3/4",
          "",
          "Highest throughput: task (2.00 req/sec)",
          "Lowest 95th percentile latency: pooled (-0.00 ms)",
          "pooled throughput is 0.00% lower than task",
          "blocking throughput is 100.00% lower than task"].map String.toList ++ [[]] := by
  have whole : ∀ result ∈ tied, '\n' ∉ result.strategy.toList := by
    simp [tied, sampleResult]
  have filled : tied ≠ [] := by simp [tied]
  obtain ⟨printed, -, cut, -, leading⟩ := leaders_named tied
  obtain ⟨fastest, lowest, first, second, rfl⟩ := leading filled
  have foundFirst : fastest? tied =
      some (sampleResult "task" 0x8000000000000000 0x4000000000000000) := by
    decide
  have foundSecond : lowest? tied =
      some (sampleResult "pooled" 0x8000000000000000 0x4000000000000000) := by
    decide
  obtain rfl := Option.some.inj ((fastest?_eq_some_iff.mpr first).symm.trans foundFirst)
  obtain rfl := Option.some.inj ((lowest?_eq_some_iff.mpr second).symm.trans foundSecond)
  refine ⟨whole, filled, (cut whole).trans ?_⟩
  apply congrArg fun printed : List String => printed.map String.toList ++ [[]]
  decide +kernel

end Bench.Summary

end Courier
