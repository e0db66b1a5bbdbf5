import Courier.Text.Base64
import Mathlib.Data.Nat.Bitwise
import Mathlib.Data.List.Basic

/-! # What base64 letters stand for

A letter of a base64 text stands for six binary digits, and the octets that the text spells are
these digits taken eight at a time. Where they do not come out even, zeros fill up the last letter
and equals signs the last four characters. This says nothing of groups of three octets, in which the
text is written and read. Main statement: a text is read as the octets that it spells and as nothing
else, and there is no other text that spells them.
-/

namespace Courier.Base64

/-! ## Binary digits -/

/-- The last binary digits of a number, in the order in which they are written. -/
def bits (count value : Nat) : List Bool := (List.range count).reverse.map value.testBit

@[simp] theorem length_bits (count value : Nat) : (bits count value).length = count := by
  simp [bits]

/-- Digits behind others are those of a greater number. -/
theorem bits_append {count last value rest : Nat} (small : rest < 2 ^ last) :
    bits count value ++ bits last rest = bits (count + last) (value * 2 ^ last + rest) := by
  have low : ∀ place ∈ List.range last, rest.testBit place =
      (value * 2 ^ last + rest).testBit place := by
    intro place member
    rw [Nat.mul_comm, Nat.testBit_two_pow_mul_add _ small, if_pos (List.mem_range.mp member)]
  have high : ∀ place ∈ List.range count, value.testBit place =
      (value * 2 ^ last + rest).testBit (last + place) := by
    intro place _
    rw [Nat.mul_comm, Nat.testBit_two_pow_mul_add _ small, if_neg (by omega),
      Nat.add_sub_cancel_left]
  simp [bits, Nat.add_comm count last, List.range_add, List.map_congr_left low,
    List.map_congr_left high, Function.comp_def]

@[simp] theorem bits_zero (count : Nat) : bits count 0 = List.replicate count false := by
  simp [bits, List.eq_replicate_iff]

/-- Numbers that have no more digits are told apart by these. -/
theorem bits_inj {count value other : Nat} (small : value < 2 ^ count)
    (small' : other < 2 ^ count) : bits count value = bits count other ↔ value = other := by
  refine ⟨fun same => ?_, fun same => same ▸ rfl⟩
  apply Nat.eq_of_testBit_eq
  intro place
  by_cases inside : place < count
  · exact List.map_inj_left.mp same place (by simpa using inside)
  · have beyond : 2 ^ count ≤ 2 ^ place := Nat.pow_le_pow_right Nat.two_pos (Nat.not_lt.mp inside)
    rw [Nat.testBit_lt_two_pow (small.trans_le beyond),
      Nat.testBit_lt_two_pow (small'.trans_le beyond)]

/-! ## Letters -/

/-- The letters in the order of their values. -/
def alphabet : List Char :=
  "ABCDEFGHIJKLMNOPQRSTUVWXYZabcdefghijklmnopqrstuvwxyz0123456789+/".toList

theorem alphabet_eq : alphabet = (List.range 64).map letter := by decide +kernel

theorem mem_alphabet_iff {c : Char} : c ∈ alphabet ↔ ∃ value < 64, letter value = c := by
  simp [alphabet_eq]

theorem letter_mem_alphabet {value : Nat} (small : value < 64) : letter value ∈ alphabet :=
  mem_alphabet_iff.mpr ⟨value, small, rfl⟩

/-- The value of a letter is its place. -/
theorem idxOf_letter {value : Nat} (small : value < 64) :
    alphabet.idxOf (letter value) = value := by
  have all : ∀ value < 64, alphabet.idxOf (letter value) = value := by decide +kernel
  exact all value small

theorem letter_ne_padding {value : Nat} (small : value < 64) : letter value ≠ '=' := by
  have all : ∀ value < 64, letter value ≠ '=' := by decide
  exact all value small

theorem letterValue?_letter {value : Nat} (small : value < 64) :
    letterValue? (letter value) = some value := by
  have all : ∀ value < 64, letterValue? (letter value) = some value := by decide +kernel
  exact all value small

theorem eq_letter_of_letterValue? {c : Char} {value : Nat} (read : letterValue? c = some value) :
    value < 64 ∧ letter value = c := by
  have named {n : Nat} (same : n = c.toNat) : Char.ofNat n = c := same ▸ Char.ofNat_toNat c
  unfold letterValue? at read
  dsimp only at read
  split at read
  · obtain rfl := Option.some.inj read
    refine ⟨by omega, ?_⟩
    rw [letter, if_pos (by omega)]
    exact named (by omega)
  split at read
  · obtain rfl := Option.some.inj read
    refine ⟨by omega, ?_⟩
    rw [letter, if_neg (by omega), if_pos (by omega)]
    exact named (by omega)
  split at read
  · obtain rfl := Option.some.inj read
    refine ⟨by omega, ?_⟩
    rw [letter, if_neg (by omega), if_neg (by omega), if_pos (by omega)]
    exact named (by omega)
  split at read
  · rename_i plus
    obtain rfl := Option.some.inj read
    exact ⟨by decide, plus ▸ by decide⟩
  split at read
  · rename_i slash
    obtain rfl := Option.some.inj read
    exact ⟨by decide, slash ▸ by decide⟩
  · exact absurd read nofun

/-! ## Reading what is written -/

theorem decodeChars?_four {x y z w : Nat} (hx : x < 64) (hy : y < 64) (hz : z < 64) (hw : w < 64)
    (rest : List Char) :
    decodeChars? (letter x :: letter y :: letter z :: letter w :: rest) =
      (decodeChars? rest).map fun more =>
        let word := x * 262144 + y * 4096 + z * 64 + w
        (word / 65536).toUInt8 :: (word / 256 % 256).toUInt8 :: (word % 256).toUInt8 :: more := by
  have full := letter_ne_padding hw
  rw [decodeChars?.eq_4 _ _ _ _ _ (fun _ same _ => full same) (fun same _ => full same)]
  simp only [letterValue?_letter, hx, hy, hz, hw]
  cases decodeChars? rest <;> rfl

theorem decodeChars?_three {x y z : Nat} (hx : x < 64) (hy : y < 64) (hz : z < 64)
    (filled : z % 4 = 0) :
    decodeChars? [letter x, letter y, letter z, '='] =
      let word := x * 4096 + y * 64 + z
      some [(word / 1024).toUInt8, (word / 4 % 256).toUInt8] := by
  rw [decodeChars?.eq_3 _ _ _ (letter_ne_padding hz)]
  simp [letterValue?_letter, hx, hy, hz, filled]

theorem decodeChars?_two {x y : Nat} (hx : x < 64) (hy : y < 64) (filled : y % 16 = 0) :
    decodeChars? [letter x, letter y, '=', '='] = some [(x * 4 + y / 16).toUInt8] := by
  simp [decodeChars?, letterValue?_letter, hx, hy, filled]

private theorem toUInt8_eq {n : Nat} (octet : UInt8) (same : n = octet.toNat) : n.toUInt8 = octet :=
  same ▸ UInt8.ofNat_toNat

/-- What is written is read as the octets for which it was written. -/
theorem decodeChars?_encodeChars (octets : Bytes) :
    decodeChars? (encodeChars octets) = some octets := by
  induction octets using encodeChars.induct with
  | case1 a b c rest ih =>
    have ha := a.toNat_lt
    have hb := b.toNat_lt
    have hc := c.toNat_lt
    rw [encodeChars, decodeChars?_four (by omega) (by omega) (by omega) (by omega), ih,
      Option.map_some]
    dsimp only
    rw [toUInt8_eq a (by omega), toUInt8_eq b (by omega), toUInt8_eq c (by omega)]
  | case2 a b =>
    have ha := a.toNat_lt
    have hb := b.toNat_lt
    rw [encodeChars, decodeChars?_three (by omega) (by omega) (by omega) (by omega)]
    dsimp only
    rw [toUInt8_eq a (by omega), toUInt8_eq b (by omega)]
  | case3 a =>
    have ha := a.toNat_lt
    rw [encodeChars, decodeChars?_two (by omega) (by omega) (by omega), toUInt8_eq a (by omega)]
  | case4 => rfl

private theorem toNat_toUInt8 {n : Nat} (small : n < 256) : n.toUInt8.toNat = n :=
  UInt8.toNat_ofNat_of_lt' small

/-- What is read as octets is what is written for them. -/
theorem eq_encodeChars_of_decodeChars? {chars : List Char} {octets : Bytes}
    (read : decodeChars? chars = some octets) : chars = encodeChars octets := by
  fun_induction decodeChars? chars generalizing octets with
  | case1 =>
    obtain rfl := Option.some.inj read
    rfl
  | case2 a b =>
    simp only [Option.bind_eq_bind, Option.bind_eq_some_iff, Option.ite_none_right_eq_some] at read
    obtain ⟨x, hx, y, hy, empty, made⟩ := read
    obtain ⟨hx, rfl⟩ := eq_letter_of_letterValue? hx
    obtain ⟨hy, rfl⟩ := eq_letter_of_letterValue? hy
    obtain rfl := Option.some.inj made
    have first : (x * 4 + y / 16) / 4 = x := by omega
    have second : (x * 4 + y / 16) % 4 * 16 = y := by omega
    rw [encodeChars, toNat_toUInt8 (by omega), first, second]
  | case3 a b c _ =>
    simp only [Option.bind_eq_bind, Option.bind_eq_some_iff, Option.ite_none_right_eq_some] at read
    obtain ⟨x, hx, y, hy, z, hz, empty, made⟩ := read
    obtain ⟨hx, rfl⟩ := eq_letter_of_letterValue? hx
    obtain ⟨hy, rfl⟩ := eq_letter_of_letterValue? hy
    obtain ⟨hz, rfl⟩ := eq_letter_of_letterValue? hz
    obtain rfl := Option.some.inj made
    generalize same : x * 4096 + y * 64 + z = word
    have high : word / 1024 < 256 := by omega
    have low : word / 4 % 256 < 256 := Nat.mod_lt _ (by decide)
    have even : word % 4 = 0 := by omega
    -- What the word is made of does not matter here, and would send `omega` astray.
    have whole : word / 1024 * 1024 + word / 4 % 256 * 4 = word := by
      clear same
      omega
    have first : word / 4096 = x := by omega
    have second : word / 64 % 64 = y := by omega
    have third : word % 64 = z := by omega
    rw [encodeChars, toNat_toUInt8 high, toNat_toUInt8 low, whole, first, second, third]
  | case4 a b c d rest _ _ ih =>
    simp only [Option.bind_eq_bind, Option.bind_eq_some_iff] at read
    obtain ⟨x, hx, y, hy, z, hz, w, hw, more, others, made⟩ := read
    obtain ⟨hx, rfl⟩ := eq_letter_of_letterValue? hx
    obtain ⟨hy, rfl⟩ := eq_letter_of_letterValue? hy
    obtain ⟨hz, rfl⟩ := eq_letter_of_letterValue? hz
    obtain ⟨hw, rfl⟩ := eq_letter_of_letterValue? hw
    obtain rfl := Option.some.inj made
    generalize same : x * 262144 + y * 4096 + z * 64 + w = word
    have high : word / 65536 < 256 := by omega
    have middle : word / 256 % 256 < 256 := Nat.mod_lt _ (by decide)
    have low : word % 256 < 256 := Nat.mod_lt _ (by decide)
    have whole : word / 65536 * 65536 + word / 256 % 256 * 256 + word % 256 = word := by
      clear same
      omega
    have first : word / 262144 = x := by omega
    have second : word / 4096 % 64 = y := by omega
    have third : word / 64 % 64 = z := by omega
    have fourth : word % 64 = w := by omega
    rw [encodeChars, toNat_toUInt8 high, toNat_toUInt8 middle, toNat_toUInt8 low, whole, first,
      second, third, fourth, ih others]
  | case5 => exact absurd read nofun

/-! ## Spelling -/

/-- The binary digits for which letters stand. -/
def letterBits (letters : List Char) : List Bool :=
  letters.flatMap fun c => bits 6 (alphabet.idxOf c)

/-- The binary digits of octets. -/
def octetBits (octets : Bytes) : List Bool := octets.flatMap fun octet => bits 8 octet.toNat

/-- A text spells octets: it consists of letters that stand for the digits of the octets, and of no
more than two equals signs, which make it a multiple of four characters and stand for two zeros each
at the end of the digits. -/
def Spells (text : List Char) (octets : Bytes) : Prop :=
  ∃ letters padding, text = letters ++ List.replicate padding '=' ∧ padding ≤ 2 ∧
    4 ∣ text.length ∧ (∀ c ∈ letters, c ∈ alphabet) ∧
    letterBits letters = octetBits octets ++ List.replicate (2 * padding) false

theorem length_letterBits (letters : List Char) :
    (letterBits letters).length = 6 * letters.length := by
  simp [letterBits, List.length_flatMap, Nat.mul_comm]

theorem length_octetBits (octets : Bytes) : (octetBits octets).length = 8 * octets.length := by
  simp [octetBits, List.length_flatMap, Nat.mul_comm]

/-- Letters are told apart by what they stand for. -/
theorem eq_of_letterBits_eq {letters others : List Char} (known : ∀ c ∈ letters, c ∈ alphabet)
    (known' : ∀ c ∈ others, c ∈ alphabet) (same : letterBits letters = letterBits others) :
    letters = others := by
  induction letters generalizing others with
  | nil =>
    have lengths := congrArg List.length same
    rw [length_letterBits, length_letterBits] at lengths
    exact (List.eq_nil_of_length_eq_zero (by simpa using lengths.symm)).symm
  | cons c rest ih =>
    cases others with
    | nil => simpa [length_letterBits] using congrArg List.length same
    | cons d more =>
      rw [List.forall_mem_cons] at known known'
      simp only [letterBits, List.flatMap_cons] at same
      obtain ⟨first, later⟩ := List.append_inj same (by simp)
      have small {c : Char} (member : c ∈ alphabet) : alphabet.idxOf c < 2 ^ 6 :=
        List.idxOf_lt_length_iff.mpr member
      rw [bits_inj (small known.1) (small known'.1), List.idxOf_inj known.1] at first
      rw [first, ih known.2 known'.2 later]

/-- There is one text that spells octets. -/
theorem Spells.unique {text other : List Char} {octets : Bytes} (first : Spells text octets)
    (second : Spells other octets) : text = other := by
  obtain ⟨letters, padding, rfl, few, -, known, digits⟩ := first
  obtain ⟨letters', padding', rfl, few', -, known', digits'⟩ := second
  have count := congrArg List.length digits
  have count' := congrArg List.length digits'
  simp only [length_letterBits, length_octetBits, List.length_append, List.length_replicate]
    at count count'
  -- Of three paddings that follow one another only one makes the digits a multiple of six.
  obtain rfl : padding = padding' := by omega
  rw [eq_of_letterBits_eq known known' (digits.trans digits'.symm)]

theorem letterBits_cons {value : Nat} (small : value < 64) (letters : List Char) :
    letterBits (letter value :: letters) = bits 6 value ++ letterBits letters := by
  rw [letterBits, List.flatMap_cons, idxOf_letter small]
  rfl

theorem spells_nil : Spells [] [] := ⟨[], 0, rfl, Nat.zero_le _, Nat.dvd_zero _, nofun, rfl⟩

theorem Spells.cons_three {text : List Char} {octets : Bytes} (spells : Spells text octets)
    (a b c : UInt8) :
    let word := a.toNat * 65536 + b.toNat * 256 + c.toNat
    Spells (letter (word / 262144) :: letter (word / 4096 % 64) :: letter (word / 64 % 64) ::
      letter (word % 64) :: text) (a :: b :: c :: octets) := by
  intro word
  obtain ⟨letters, padding, rfl, few, even, known, digits⟩ := spells
  have ha := a.toNat_lt
  have hb := b.toNat_lt
  have hc := c.toNat_lt
  have hx : word / 262144 < 64 := by omega
  have hy : word / 4096 % 64 < 64 := by omega
  have hz : word / 64 % 64 < 64 := by omega
  have hw : word % 64 < 64 := by omega
  have group : bits 6 (word / 262144) ++ bits 6 (word / 4096 % 64) ++ bits 6 (word / 64 % 64) ++
      bits 6 (word % 64) = bits 8 a.toNat ++ bits 8 b.toNat ++ bits 8 c.toNat := by
    rw [bits_append hy, bits_append hz, bits_append hw, bits_append hb, bits_append hc]
    congr 1
    omega
  refine ⟨_ :: _ :: _ :: _ :: letters, padding, rfl, few, ?_, ?_, ?_⟩
  · simp only [List.length_append, List.length_cons] at even ⊢
    omega
  · simp only [List.forall_mem_cons]
    exact ⟨letter_mem_alphabet hx, letter_mem_alphabet hy, letter_mem_alphabet hz,
      letter_mem_alphabet hw, known⟩
  · rw [letterBits_cons hx, letterBits_cons hy, letterBits_cons hz, letterBits_cons hw, digits]
    simpa [octetBits] using congrArg (· ++ (octetBits octets ++ _)) group

theorem spells_two (a b : UInt8) :
    let word := a.toNat * 1024 + b.toNat * 4
    Spells [letter (word / 4096), letter (word / 64 % 64), letter (word % 64), '='] [a, b] := by
  intro word
  have ha := a.toNat_lt
  have hb := b.toNat_lt
  have hx : word / 4096 < 64 := by omega
  have hy : word / 64 % 64 < 64 := by omega
  have hz : word % 64 < 64 := by omega
  have group : bits 6 (word / 4096) ++ bits 6 (word / 64 % 64) ++ bits 6 (word % 64) =
      bits 8 a.toNat ++ bits 8 b.toNat ++ bits 2 0 := by
    rw [bits_append hy, bits_append hz, bits_append hb, bits_append (by decide)]
    congr 1
    omega
  refine ⟨[_, _, _], 1, rfl, by decide, Nat.dvd_refl 4, ?_, ?_⟩
  · simp only [List.forall_mem_cons]
    exact ⟨letter_mem_alphabet hx, letter_mem_alphabet hy, letter_mem_alphabet hz, nofun⟩
  · rw [letterBits_cons hx, letterBits_cons hy, letterBits_cons hz]
    simpa [letterBits, octetBits] using group

theorem spells_one (a : UInt8) :
    Spells [letter (a.toNat / 4), letter (a.toNat % 4 * 16), '=', '='] [a] := by
  have ha := a.toNat_lt
  have hx : a.toNat / 4 < 64 := by omega
  have hy : a.toNat % 4 * 16 < 64 := by omega
  have group : bits 6 (a.toNat / 4) ++ bits 6 (a.toNat % 4 * 16) = bits 8 a.toNat ++ bits 4 0 := by
    rw [bits_append hy, bits_append (by decide)]
    congr 1
    omega
  refine ⟨[_, _], 2, rfl, by decide, Nat.dvd_refl 4, ?_, ?_⟩
  · simp only [List.forall_mem_cons]
    exact ⟨letter_mem_alphabet hx, letter_mem_alphabet hy, nofun⟩
  · rw [letterBits_cons hx, letterBits_cons hy]
    simpa [letterBits, octetBits] using group

/-- What is written for octets spells them. -/
theorem spells_encodeChars (octets : Bytes) : Spells (encodeChars octets) octets := by
  induction octets using encodeChars.induct with
  | case1 a b c rest ih => exact ih.cons_three a b c
  | case2 a b => exact spells_two a b
  | case3 a => exact spells_one a
  | case4 => exact spells_nil

theorem spells_encode (octets : Bytes) : Spells (encode octets).toList octets := by
  rw [encode, String.toList_ofList]
  exact spells_encodeChars octets

/-- A text is read as the octets that it spells, and as nothing else. -/
theorem decode?_eq_some_iff {text : String} {octets : Bytes} :
    decode? text = some octets ↔ Spells text.toList octets := by
  constructor
  · intro read
    rw [eq_encodeChars_of_decodeChars? read]
    exact spells_encodeChars octets
  · intro spells
    rw [decode?, spells.unique (spells_encodeChars octets), decodeChars?_encodeChars]

/-- The second letter of a text for one octet leaves over four digits, which are zeros. -/
example : decode? "Zg==" = some [0x66] ∧ decode? "Zh==" = none := by decide

end Courier.Base64
