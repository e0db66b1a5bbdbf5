import Courier.Bench.Latency
import Courier.Number.Fixed
import Mathlib.Algebra.Order.Floor.Div

/-! # Latencies by rank

The total order of numbers tells any two of them apart, so the ascending order of samples is the same
list in whatever order they came, and each of its places holds the one sample of that rank. The place
of the ninety-fifth percentile is computed with a product that is rounded twice, once for the factor,
which is no binary fraction, and once for the product; for all counts that memory could ever hold this
does not move the place. Main statement: a summary consists of samples at the ranks that it is named
for, and depends on nothing but which samples there are.
-/

namespace Courier

namespace Double

/-- A rounded quotient is off by no more than a half. -/
theorem two_mul_le_roundDiv (numerator : Nat) {denominator : Nat} (positive : 0 < denominator) :
    2 * numerator ≤ 2 * (roundDiv numerator denominator * denominator) + denominator := by
  have whole := Nat.div_add_mod' numerator denominator
  have small := Nat.mod_lt numerator positive
  have up : (numerator / denominator + 1) * denominator =
      numerator / denominator * denominator + denominator := Nat.succ_mul ..
  unfold roundDiv
  dsimp only
  split
  · omega
  split
  · omega
  split <;> omega

/-- Rounding does not pass a whole number. -/
theorem roundDiv_le {numerator denominator bound : Nat} (positive : 0 < denominator)
    (below : numerator ≤ bound * denominator) : roundDiv numerator denominator ≤ bound := by
  have floor : numerator / denominator ≤ bound := Nat.div_le_of_le_mul (by rwa [Nat.mul_comm])
  rcases floor.eq_or_lt with same | less
  · have whole := Nat.div_add_mod' numerator denominator
    rw [same] at whole
    have nothing : numerator % denominator = 0 := by omega
    unfold roundDiv
    rw [nothing]
    dsimp only
    rw [Nat.mul_zero, if_pos positive, same]
  · unfold roundDiv
    dsimp only
    split
    · omega
    split
    · omega
    split <;> omega

end Double

namespace Bench.Latency

/-! ## The place of the percentile -/

/-- The double that is nearest to nineteen twentieths. -/
def nineteenTwentieths : Double := ⟨0x3FEE666666666666⟩

/-- A count with only fifty-three binary digits, as a double keeps them. -/
def toPrecision (count : Nat) : Nat :=
  let unit := 2 ^ (count.log2 - 52)
  Double.roundDiv count unit * unit

/-- The place of the ninety-fifth percentile as doubles give it: a count times nineteen twentieths is
rounded to a double, and this is rounded up. A double is taken here in the units of its factor. -/
def p95Place (count : Nat) : Nat :=
  let units := 2 ^ (1074 - nineteenTwentieths.scale)
  let product := toPrecision (count * nineteenTwentieths.significand)
  Min.min ((product + (units - 1)) / units - 1) (count - 1)

theorem significand_nineteenTwentieths : nineteenTwentieths.significand = 8556839292003942 := by
  decide

theorem scale_nineteenTwentieths : nineteenTwentieths.scale = 1021 := by decide

/-- The product lies less than a whole below nineteen twentieths of the count, and does not exceed
these rounded up. -/
theorem toPrecision_product {count : Nat} (few : count < 2 ^ 48) :
    let product := toPrecision (count * 8556839292003942)
    2 ^ 53 * (19 * count) < 20 * product + 2 ^ 53 ∧ product ≤ (19 * count + 19) / 20 * 2 ^ 53 := by
  intro product
  let whole := count * 8556839292003942
  have places : whole.log2 - 52 ≤ 48 := by
    have bound : whole < 2 ^ 101 := by omega
    have log : whole.log2 < 101 := by
      rcases Nat.eq_zero_or_pos whole with none | some
      · rw [none]
        decide
      · exact (Nat.log2_lt (Nat.pos_iff_ne_zero.mp some)).mpr bound
    omega
  obtain ⟨spare, sum⟩ := Nat.exists_eq_add_of_le places
  let unit := 2 ^ (whole.log2 - 52)
  have positive : 0 < unit := Nat.two_pow_pos _
  have power : unit * 2 ^ spare = 2 ^ 48 := by rw [← Nat.pow_add, ← sum]
  have small : unit ≤ 2 ^ 48 := power ▸ Nat.le_mul_of_pos_right unit (Nat.two_pow_pos spare)
  have near : 2 * whole ≤ 2 * product + unit := Double.two_mul_le_roundDiv whole positive
  have within : whole ≤ (19 * count + 19) / 20 * 2 ^ 53 := by omega
  have grid : (19 * count + 19) / 20 * 2 ^ 53 =
      (19 * count + 19) / 20 * (2 ^ spare * 2 ^ 5) * unit := by
    calc (19 * count + 19) / 20 * 2 ^ 53
        = (19 * count + 19) / 20 * (2 ^ 48 * 2 ^ 5) := by rw [← Nat.pow_add]
      _ = (19 * count + 19) / 20 * (unit * 2 ^ spare * 2 ^ 5) := by rw [power]
      _ = _ := by simp only [Nat.mul_assoc, Nat.mul_comm, Nat.mul_left_comm]
  constructor
  · omega
  · rw [grid] at within ⊢
    exact Nat.mul_le_mul_right unit (Double.roundDiv_le positive within)

/-- Rounding does not move the place of the percentile. -/
theorem p95Place_eq {count : Nat} (few : count < 2 ^ 48) : p95Place count = p95Index count := by
  obtain ⟨above, below⟩ := toPrecision_product few
  unfold p95Place p95Index
  rw [significand_nineteenTwentieths, scale_nineteenTwentieths]
  dsimp only at above below ⊢
  generalize toPrecision (count * 8556839292003942) = product at above below ⊢
  omega

/-! ## Ranks -/

/-- A number is the one of a rank among samples: it is one of them, fewer than the rank lie before it,
and no fewer lie before it or are equal to it. -/
structure OfRank (samples : List Double) (rank : Nat) (x : Double) : Prop where
  member : x ∈ samples
  before_lt : samples.countP (·.orderKey < x.orderKey) < rank
  le_upTo : rank ≤ samples.countP (·.orderKey ≤ x.orderKey)

section

variable {samples others : List Double} {rank : Nat} {x y : Double}

theorem OfRank.of_perm (ofRank : OfRank samples rank x) (perm : samples.Perm others) :
    OfRank others rank x where
  member := perm.mem_iff.mp ofRank.member
  before_lt := perm.countP_eq _ ▸ ofRank.before_lt
  le_upTo := perm.countP_eq _ ▸ ofRank.le_upTo

/-- A number of a greater rank is no less. -/
theorem OfRank.orderKey_le {other : Nat} (first : OfRank samples rank x)
    (second : OfRank samples other y) (ranks : rank ≤ other) : x.orderKey ≤ y.orderKey := by
  by_contra later
  have among : samples.countP (·.orderKey ≤ y.orderKey) ≤
      samples.countP (·.orderKey < x.orderKey) := by
    apply List.countP_mono_left
    intro sample _ upTo
    rw [decide_eq_true_eq] at upTo ⊢
    omega
  have before := first.before_lt
  have upTo := second.le_upTo
  omega

/-- There is one number of a rank. -/
theorem OfRank.unique (first : OfRank samples rank x) (second : OfRank samples rank y) : x = y :=
  Double.orderKey_injective (Nat.le_antisymm (first.orderKey_le second (Nat.le_refl _))
    (second.orderKey_le first (Nat.le_refl _)))

/-- In ascending order the rank of a sample is how many stand before it, and one more. -/
theorem ofRank_append_cons {before after : List Double}
    (ascending : (before ++ x :: after).Pairwise fun x y => ascends x y) :
    OfRank (before ++ x :: after) (before.length + 1) x := by
  obtain ⟨-, later, earlier⟩ := List.pairwise_append.mp ascending
  have upTo : ∀ sample ∈ before, decide (sample.orderKey ≤ x.orderKey) = true :=
    fun sample member => earlier sample member x (List.mem_cons_self ..)
  have notBefore : ∀ sample ∈ x :: after, ¬ decide (sample.orderKey < x.orderKey) = true := by
    intro sample member
    rw [decide_eq_true_eq, Nat.not_lt]
    rcases List.mem_cons.mp member with rfl | behind
    · exact Nat.le_refl _
    · exact of_decide_eq_true ((List.pairwise_cons.mp later).1 sample behind)
  refine ⟨by simp, ?_, ?_⟩
  · rw [List.countP_append, List.countP_eq_zero.mpr notBefore, Nat.add_zero]
    exact Nat.lt_succ_of_le List.countP_le_length
  · have itself : (x :: after).countP (·.orderKey ≤ x.orderKey) =
        after.countP (·.orderKey ≤ x.orderKey) + 1 :=
      List.countP_cons_of_pos (decide_eq_true (Nat.le_refl _))
    rw [List.countP_append, List.countP_eq_length.mpr upTo, itself]
    omega

/-- In ascending order the ranks are the places, counted from one. -/
theorem ofRank_getElem (ascending : samples.Pairwise fun x y => ascends x y) {k : Nat}
    (inside : k < samples.length) : OfRank samples (k + 1) samples[k] := by
  have around : samples = samples.take k ++ samples[k] :: samples.drop (k + 1) := by
    rw [← List.drop_eq_getElem_cons inside, List.take_append_drop]
  have place := ofRank_append_cons (around ▸ ascending)
  rwa [← around, List.length_take_of_le inside.le] at place

/-! ## The ascending order -/

theorem pairwise_ordered (samples : List Double) :
    (ordered samples).Pairwise fun x y => ascends x y :=
  List.pairwise_mergeSort
    (fun x y z first second => decide_eq_true
      ((of_decide_eq_true first : x.orderKey ≤ y.orderKey).trans (of_decide_eq_true second)))
    (fun x y => by
      rw [Bool.or_eq_true]
      exact (Nat.le_total x.orderKey y.orderKey).imp decide_eq_true decide_eq_true)
    samples

theorem ordered_perm (samples : List Double) : (ordered samples).Perm samples :=
  List.mergeSort_perm samples ascends

theorem length_ordered (samples : List Double) : (ordered samples).length = samples.length :=
  (ordered_perm samples).length_eq

/-- The ascending order does not depend on the order in which the samples came. -/
theorem ordered_eq_of_perm (perm : samples.Perm others) : ordered samples = ordered others := by
  have same : (ordered samples).Perm (ordered others) :=
    ((ordered_perm samples).trans perm).trans (ordered_perm others).symm
  refine same.eq_of_pairwise ?_ (pairwise_ordered samples) (pairwise_ordered others)
  intro x y _ _ first second
  exact Double.orderKey_injective
    (Nat.le_antisymm (of_decide_eq_true first) (of_decide_eq_true second))

/-- A place of the ascending order holds the sample of its rank. -/
theorem ofRank_getD {k : Nat} (inside : k < samples.length) :
    OfRank samples (k + 1) ((ordered samples).getD k .zero) := by
  have inside' : k < (ordered samples).length := (length_ordered samples).symm ▸ inside
  rw [List.getD_eq_getElem?_getD, List.getElem?_eq_getElem inside', Option.getD_some]
  exact (ofRank_getElem (pairwise_ordered samples) inside').of_perm (ordered_perm samples)

end

/-! ## Summaries -/

theorem ofSamples_eq {samples : List Double} (some : samples ≠ []) :
    ofSamples samples =
      { avg := sum (ordered samples) / .ofCount samples.length.toUInt64
        median := (ordered samples).getD (medianIndex samples.length) .zero
        p95 := (ordered samples).getD (p95Index samples.length) .zero
        min := (ordered samples).getD 0 .zero
        max := (ordered samples).getD (samples.length - 1) .zero } := by
  have length := length_ordered samples
  unfold ofSamples
  split
  · rename_i none
    rw [none, List.length_nil] at length
    exact absurd (List.eq_nil_of_length_eq_zero length.symm) some
  · rename_i least rest found
    rw [found] at length ⊢
    dsimp only
    rw [length]
    rfl

/-- Samples that came in another order have the same summary, to the bit. -/
theorem ofSamples_eq_of_perm {samples others : List Double} (perm : samples.Perm others) :
    ofSamples samples = ofSamples others := by
  unfold ofSamples
  rw [ordered_eq_of_perm perm]

theorem p95Place_lt {count : Nat} (some : 0 < count) : p95Place count < count :=
  (Nat.min_le_right _ _).trans_lt (Nat.sub_lt some Nat.one_pos)

/-- The place of the percentile follows nineteen twentieths of all samples, rounded up. -/
theorem p95Index_succ {count : Nat} (some : 0 < count) :
    p95Index count + 1 = (19 * count) ⌈/⌉ 20 := by
  rw [Nat.ceilDiv_eq_add_pred_div, p95Index]
  omega

/-- What a summary of samples is. All places that are looked at are there, and that of the percentile is
the one that doubles give. Its numbers are samples, namely the least one, the upper one in the middle,
the one with nineteen twentieths of all at or before it, and the greatest one, in this order. Samples
that came in another order have the same summary, its mean included, to the bit. -/
theorem summarised_by_rank (samples : List Double) (some : samples ≠ [])
    (few : samples.length < 2 ^ 48) :
    let count := samples.length
    let summary := ofSamples samples
    (∀ place ∈ [0, medianIndex count, p95Place count, count - 1], place < count) ∧
    p95Place count = p95Index count ∧
    OfRank samples 1 summary.min ∧
    OfRank samples (count / 2 + 1) summary.median ∧
    OfRank samples ((19 * count) ⌈/⌉ 20) summary.p95 ∧
    OfRank samples count summary.max ∧
    (summary.min.orderKey ≤ summary.median.orderKey ∧
      summary.median.orderKey ≤ summary.p95.orderKey ∧
      summary.p95.orderKey ≤ summary.max.orderKey) ∧
    ∀ others : List Double, others.Perm samples → ofSamples others = summary := by
  intro count summary
  have positive : 0 < count := List.length_pos_of_ne_nil some
  have middle : medianIndex count < count := Nat.div_lt_self positive (by decide)
  have last : count - 1 < count := Nat.sub_lt positive Nat.one_pos
  have rounded : p95Place count = p95Index count := p95Place_eq few
  have percentile : p95Index count < count := rounded ▸ p95Place_lt positive
  have shape : summary = _ := ofSamples_eq some
  have least : OfRank samples 1 summary.min := shape ▸ ofRank_getD positive
  have median : OfRank samples (count / 2 + 1) summary.median := shape ▸ ofRank_getD middle
  have p95 : OfRank samples (p95Index count + 1) summary.p95 := shape ▸ ofRank_getD percentile
  have greatest : OfRank samples (count - 1 + 1) summary.max := shape ▸ ofRank_getD last
  rw [p95Index_succ positive] at p95
  rw [Nat.sub_add_cancel positive] at greatest
  have upper : count / 2 + 1 ≤ (19 * count) ⌈/⌉ 20 := by
    rw [Nat.ceilDiv_eq_add_pred_div]
    omega
  have all : (19 * count) ⌈/⌉ 20 ≤ count := by
    rw [Nat.ceilDiv_eq_add_pred_div]
    omega
  refine ⟨?_, rounded, least, median, p95, greatest, ⟨least.orderKey_le median (Nat.le_add_left ..),
    median.orderKey_le p95 upper, p95.orderKey_le greatest all⟩,
    fun others perm => ofSamples_eq_of_perm perm⟩
  simp only [List.forall_mem_cons]
  exact ⟨positive, middle, p95Place_lt positive, last, List.forall_mem_nil _⟩

/-- A NaN, both infinities and both zeros. -/
def unordered : List Double :=
  [⟨0x7FF8000000000000⟩, .zero, ⟨0x7FF0000000000000⟩, .negativeZero, ⟨0xFFF0000000000000⟩]

/-- The positive zero is the one in the middle, and the NaN the greatest. -/
theorem summarised_by_rank_unordered :
    unordered ≠ [] ∧ unordered.length < 2 ^ 48 ∧
      (ofSamples unordered).min = ⟨0xFFF0000000000000⟩ ∧ (ofSamples unordered).median = .zero ∧
      (ofSamples unordered).p95 = ⟨0x7FF8000000000000⟩ ∧
      (ofSamples unordered).max = ⟨0x7FF8000000000000⟩ ∧
      ofSamples unordered.reverse = ofSamples unordered := by
  have some : unordered ≠ [] := by decide
  have few : unordered.length < 2 ^ 48 := by decide
  obtain ⟨-, -, least, median, p95, greatest, -, same⟩ := summarised_by_rank unordered some few
  have greatest' : OfRank unordered 5 ⟨0x7FF8000000000000⟩ :=
    ⟨by decide, by decide, by decide⟩
  exact ⟨some, few, least.unique ⟨by decide, by decide, by decide⟩,
    median.unique ⟨by decide, by decide, by decide⟩, p95.unique greatest',
    greatest.unique greatest', same _ (List.reverse_perm _)⟩

end Bench.Latency

end Courier
