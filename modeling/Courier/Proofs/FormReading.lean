import Courier.Http.Request
import Courier.Proofs.QueryPairs

/-! # What is read from a form

Reading a form undoes writing it. Every octet of a name or a value is written as itself, as a plus
sign or as an escape, and each of the three is read back as this octet, whatever follows it. None of
them is an ampersand or an equals sign, so a form is cut exactly where its pairs meet; an empty piece
between two ampersands holds no pair. Main statement: a request whose query goes on with pairs has
the pairs that it had and then these, and nothing else of it has changed.
-/

namespace Courier

/-! ## The octets of texts -/

namespace Utf8

theorem encode_append (first second : String) :
    encode (first ++ second) = encode first ++ encode second := by
  simp [encode]

/-- The octets of characters that are one octet each. -/
def ascii (chars : List Char) : Bytes := chars.map fun c => UInt8.ofNat c.toNat

theorem encode_ofList_of_ascii {chars : List Char} (small : ∀ c ∈ chars, c.toNat < 0x80) :
    encode (String.ofList chars) = ascii chars := by
  induction chars with
  | nil => rfl
  | cons c rest ih =>
    obtain ⟨one, others⟩ := List.forall_mem_cons.mp small
    have single : c.utf8Size = 1 := by
      rw [Char.utf8Size_eq_one_iff, UInt32.le_iff_toNat_le]
      exact Nat.le_of_lt_succ one
    have octet : encode (String.ofList [c]) = ascii [c] := by
      simp [encode, ascii, List.utf8Encode_singleton, String.utf8EncodeChar_eq_singleton single]
      rfl
    rw [← List.singleton_append, String.ofList_append, encode_append, octet, ih others]
    rfl

/-- A character that is not among others is not among them as an octet either. -/
theorem notMem_ascii {chars : List Char} (small : ∀ c ∈ chars, c.toNat < 0x80) (mark : Char)
    (ordinary : mark.toNat < 0x80) (absent : mark ∉ chars) :
    UInt8.ofNat mark.toNat ∉ ascii chars := by
  intro member
  obtain ⟨c, inside, same⟩ := List.mem_map.mp member
  have bound := small c inside
  have values : c.toNat = mark.toNat := by
    have equal := congrArg UInt8.toNat same
    rw [UInt8.toNat_ofNat_of_lt' (by change c.toNat < 256; omega),
      UInt8.toNat_ofNat_of_lt' (by change mark.toNat < 256; omega)] at equal
    exact equal
  exact absent (Char.toNat_inj.mp values ▸ inside)

end Utf8

/-! ## Escapes -/

namespace Percent

theorem decode_cons_of_ne {octet : UInt8} (plain : octet ≠ 0x25) (rest : Bytes) :
    decode (octet :: rest) = octet :: decode rest :=
  decode.eq_2 octet rest fun _ _ _ escape _ => plain escape

theorem digitValue?_digit {value : Nat} (small : value < 16) :
    digitValue? (UInt8.ofNat (digit value).toNat) = some value := by
  have all : ∀ value < 16, digitValue? (UInt8.ofNat (digit value).toNat) = some value := by decide
  exact all value small

theorem high_lt (octet : UInt8) : octet.toNat / 16 < 16 := Nat.div_lt_of_lt_mul octet.toNat_lt

theorem low_lt (octet : UInt8) : octet.toNat % 16 < 16 := Nat.mod_lt _ (by decide)

/-- An escape is read as the octet for which it stands. -/
theorem decode_escape (octet : UInt8) (rest : Bytes) :
    decode (Utf8.ascii (escape octet) ++ rest) = octet :: decode rest := by
  have whole : octet.toNat / 16 * 16 + octet.toNat % 16 = octet.toNat := Nat.div_add_mod' ..
  change decode (0x25 :: UInt8.ofNat (digit (octet.toNat / 16)).toNat ::
    UInt8.ofNat (digit (octet.toNat % 16)).toNat :: rest) = _
  rw [decode, digitValue?_digit (high_lt octet), digitValue?_digit (low_lt octet)]
  dsimp only
  rw [whole]
  exact congrArg (· :: decode rest) UInt8.ofNat_toNat

end Percent

namespace Form

/-! ## Names and values -/

/-- A character that stands for itself is an ASCII character, and none of those that mean something
else in a form. -/
theorem isPlain_marks {octet : UInt8} (plain : isPlain octet = true) :
    octet.toNat < 0x80 ∧ octet.toNat ≠ 0x25 ∧ octet.toNat ≠ 0x26 ∧ octet.toNat ≠ 0x2B ∧
      octet.toNat ≠ 0x3D := by
  simp only [isPlain, Bool.or_eq_true, Bool.and_eq_true, decide_eq_true_eq, beq_iff_eq] at plain
  omega

theorem toNat_of_isPlain {octet : UInt8} (plain : isPlain octet = true) :
    (Char.ofNat octet.toNat).toNat = octet.toNat := by
  have valid : octet.toNat.isValidChar := .inl (by have := (isPlain_marks plain).1; omega)
  rw [Char.ofNat, dif_pos valid]
  rfl

/-- An escape is written with ASCII characters that separate nothing, and without a plus sign. -/
theorem escape_marks (octet : UInt8) :
    ∀ c ∈ Percent.escape octet, c.toNat < 0x80 ∧ c ≠ '&' ∧ c ≠ '=' ∧ UInt8.ofNat c.toNat ≠ 0x2B := by
  have digits : ∀ value < 16, (Percent.digit value).toNat < 0x80 ∧ Percent.digit value ≠ '&' ∧
      Percent.digit value ≠ '=' ∧ UInt8.ofNat (Percent.digit value).toNat ≠ 0x2B := by
    decide
  rw [Percent.escape, List.forall_mem_cons, List.forall_mem_cons, List.forall_mem_singleton]
  exact ⟨by decide, digits _ (Percent.high_lt octet), digits _ (Percent.low_lt octet)⟩

/-- An octet of a name or a value is written with ASCII characters that separate nothing. -/
theorem encodeOctet_marks (octet : UInt8) :
    ∀ c ∈ encodeOctet octet, c.toNat < 0x80 ∧ c ≠ '&' ∧ c ≠ '=' := by
  unfold encodeOctet
  split
  · exact List.forall_mem_singleton.mpr (by decide)
  split
  · rename_i plain
    obtain ⟨small, -, noAmpersand, -, noEquals⟩ := isPlain_marks plain
    have itself := toNat_of_isPlain plain
    rw [List.forall_mem_singleton]
    refine ⟨by rwa [itself], fun same => noAmpersand ?_, fun same => noEquals ?_⟩
    · rw [← itself, same]
      rfl
    · rw [← itself, same]
      rfl
  · intro c member
    obtain ⟨small, noAmpersand, noEquals, -⟩ := escape_marks octet c member
    exact ⟨small, noAmpersand, noEquals⟩

theorem encodePart_marks (text : String) :
    ∀ c ∈ encodePart text, c.toNat < 0x80 ∧ c ≠ '&' ∧ c ≠ '=' := by
  intro c member
  obtain ⟨octet, -, written⟩ := List.mem_flatMap.mp member
  exact encodeOctet_marks octet c written

/-- Octets with a space in place of each plus sign. -/
def spaced (bytes : Bytes) : Bytes := bytes.map fun octet => if octet = 0x2B then 0x20 else octet

theorem spaced_escape (octet : UInt8) :
    spaced (Utf8.ascii (Percent.escape octet)) = Utf8.ascii (Percent.escape octet) := by
  rw [spaced, Utf8.ascii, List.map_map]
  exact List.map_congr_left fun c member => if_neg (escape_marks octet c member).2.2.2

/-- What is written for an octet is read as this octet. -/
theorem decode_encodeOctet (octet : UInt8) (rest : Bytes) :
    Percent.decode (spaced (Utf8.ascii (encodeOctet octet)) ++ rest) =
      octet :: Percent.decode rest := by
  unfold encodeOctet
  split
  · rename_i space
    subst space
    exact Percent.decode_cons_of_ne (by decide) rest
  split
  · rename_i plain
    obtain ⟨-, noPercent, -, noPlus, -⟩ := isPlain_marks plain
    have plus : octet ≠ 0x2B := fun same => noPlus (congrArg UInt8.toNat same)
    have percent : octet ≠ 0x25 := fun same => noPercent (congrArg UInt8.toNat same)
    simp only [Utf8.ascii, spaced, List.map_cons, List.map_nil, toNat_of_isPlain plain,
      UInt8.ofNat_toNat, if_neg plus, List.singleton_append]
    exact Percent.decode_cons_of_ne percent rest
  · rw [spaced_escape, Percent.decode_escape]

theorem decode_flatMap_encodeOctet (octets : Bytes) :
    Percent.decode (spaced (Utf8.ascii (octets.flatMap encodeOctet))) = octets := by
  induction octets with
  | nil => rfl
  | cons octet rest ih =>
    have apart : spaced (Utf8.ascii ((octet :: rest).flatMap encodeOctet)) =
        spaced (Utf8.ascii (encodeOctet octet)) ++
          spaced (Utf8.ascii (rest.flatMap encodeOctet)) := by
      simp only [List.flatMap_cons, spaced, Utf8.ascii, List.map_append]
    rw [apart, decode_encodeOctet, ih]

/-- A name or a value is read as it was before it was written. -/
theorem decodePart_encodePart (text : String) : decodePart (Utf8.ascii (encodePart text)) = text := by
  change Utf8.decodeLossy (Percent.decode (spaced _)) = text
  rw [encodePart, decode_flatMap_encodeOctet, Utf8.decodeLossy_encode]

/-! ## Pieces -/

theorem pieces_ne_nil (separator : UInt8) (bytes : Bytes) : pieces separator bytes ≠ [] := by
  cases bytes with
  | nil => exact List.cons_ne_nil _ _
  | cons octet rest =>
    unfold pieces
    split
    · exact List.cons_ne_nil _ _
    · split
      · exact List.cons_ne_nil _ _
      · exact List.cons_ne_nil _ _

/-- Octets without a separator are one piece. -/
theorem pieces_of_notMem {separator : UInt8} {bytes : Bytes} (whole : separator ∉ bytes) :
    pieces separator bytes = [bytes] := by
  induction bytes with
  | nil => rfl
  | cons octet rest ih =>
    rw [List.mem_cons, not_or] at whole
    rw [pieces, ih whole.2]
    exact if_neg (Ne.symm whole.1)

/-- A separator ends a piece and begins another. -/
theorem pieces_append_cons (separator : UInt8) (first second : Bytes) :
    pieces separator (first ++ separator :: second) =
      pieces separator first ++ pieces separator second := by
  induction first with
  | nil =>
    obtain ⟨piece, more, cut⟩ := List.exists_cons_of_ne_nil (pieces_ne_nil separator second)
    have begun : pieces separator (separator :: second) = [] :: piece :: more := by
      rw [pieces, cut]
      exact if_pos rfl
    rw [List.nil_append, begun, cut]
    rfl
  | cons octet rest ih =>
    obtain ⟨piece, more, cut⟩ := List.exists_cons_of_ne_nil (pieces_ne_nil separator rest)
    rw [List.cons_append, pieces, ih, pieces, cut, List.cons_append]
    dsimp only
    split
    · rfl
    · rfl

/-- What stands before the first separator is the name, and all after it the value. -/
theorem cut_append_cons {separator : UInt8} {name : Bytes} (absent : separator ∉ name)
    (value : Bytes) : cut separator (name ++ separator :: value) = (name, some value) := by
  have apart : ∀ octet ∈ name, (decide (octet ≠ separator)) = true :=
    fun octet member => decide_eq_true (ne_of_mem_of_not_mem member absent)
  unfold cut
  rw [List.dropWhile_append_of_pos apart, List.dropWhile_cons_of_neg (by simp),
    List.takeWhile_append_of_pos apart, List.takeWhile_cons_of_neg (by simp), List.append_nil]

/-! ## Pairs -/

/-- Forms on both sides of an ampersand are read one after the other. -/
theorem decodeBytes_append_cons (first second : Bytes) :
    decodeBytes (first ++ 0x26 :: second) = decodeBytes first ++ decodeBytes second := by
  unfold decodeBytes
  rw [pieces_append_cons, List.filter_append, List.map_append]

theorem decode_empty : decode "" = [] := rfl

/-- Joined forms are read one after the other. -/
theorem decode_join (first second : String) :
    decode (join first second) = decode first ++ decode second := by
  by_cases begun : first = ""
  · rw [begun, empty_join, decode_empty, List.nil_append]
  by_cases more : second = ""
  · rw [more, join_empty, decode_empty, List.append_nil]
  have octets : Utf8.encode (first ++ "&" ++ second) =
      Utf8.encode first ++ 0x26 :: Utf8.encode second := by
    rw [Utf8.encode_append, Utf8.encode_append, List.append_assoc]
    rfl
  rw [join_of_ne begun more, decode, octets, decodeBytes_append_cons]
  rfl

theorem encodePair_ascii (pair : String × String) :
    (∀ c ∈ encodePair pair, c.toNat < 0x80) ∧ '&' ∉ encodePair pair := by
  have marks : ∀ c ∈ encodePair pair, c.toNat < 0x80 ∧ c ≠ '&' := by
    intro c member
    rcases List.mem_append.mp member with inName | later
    · exact ⟨(encodePart_marks _ c inName).1, (encodePart_marks _ c inName).2.1⟩
    · rcases List.mem_cons.mp later with rfl | inValue
      · decide
      · exact ⟨(encodePart_marks _ c inValue).1, (encodePart_marks _ c inValue).2.1⟩
  exact ⟨fun c member => (marks c member).1, fun member => (marks '&' member).2 rfl⟩

/-- A pair that is written alone is read alone. -/
theorem decode_encode_singleton (pair : String × String) : decode (encode [pair]) = [pair] := by
  obtain ⟨small, unseparated⟩ := encodePair_ascii pair
  have named : 0x3D ∉ Utf8.ascii (encodePart pair.1) :=
    Utf8.notMem_ascii (fun c member => (encodePart_marks _ c member).1) '=' (by decide)
      fun member => (encodePart_marks _ '=' member).2.2 rfl
  have octets : Utf8.ascii (encodePair pair) =
      Utf8.ascii (encodePart pair.1) ++ 0x3D :: Utf8.ascii (encodePart pair.2) := by
    rw [encodePair, Utf8.ascii, List.map_append]
    rfl
  have piece : pieces 0x26 (Utf8.ascii (encodePair pair)) = [Utf8.ascii (encodePair pair)] :=
    pieces_of_notMem (Utf8.notMem_ascii small '&' (by decide) unseparated)
  have filled : Utf8.ascii (encodePair pair) ≠ [] := by
    rw [octets]
    exact List.append_ne_nil_of_right_ne_nil _ (List.cons_ne_nil _ _)
  have read : decodePair (Utf8.ascii (encodePair pair)) = pair := by
    rw [octets, decodePair, cut_append_cons named]
    exact Prod.ext (decodePart_encodePart _) (decodePart_encodePart _)
  have written : Utf8.encode (encode [pair]) = Utf8.ascii (encodePair pair) :=
    Utf8.encode_ofList_of_ascii small
  rw [decode, written, decodeBytes, piece, List.filter_cons_of_pos (by simpa using filled)]
  simp only [List.filter_nil, List.map_cons, List.map_nil, read]

/-- Pairs that are written are read, in order. -/
theorem decode_encode (pairs : List (String × String)) : decode (encode pairs) = pairs := by
  induction pairs with
  | nil => rfl
  | cons pair rest ih =>
    rw [encode_cons, decode_join, decode_encode_singleton, ih, List.singleton_append]

end Form

/-! ## Queries -/

/-- A query that goes on holds the pairs that it held and then those that were appended. -/
theorem Url.queryPairs_appendPairs (url : Url) (pairs : List (String × String)) :
    (url.appendPairs pairs).queryPairs = url.queryPairs ++ pairs := by
  unfold queryPairs appendPairs
  rw [Option.getD_some, extendQuery_eq_join, Form.decode_join, Form.decode_encode]

/-- Appending pairs to the query of a request twice is appending them all at once. The pairs that are
read from it are those that it had before and then the new ones, in order. Nothing but the query of
the URL is another. -/
theorem Request.query_goes_on (request : Request) (pairs more : List (String × String)) :
    (request.query pairs).query more = request.query (pairs ++ more) ∧
      (request.query pairs).url.queryPairs = request.url.queryPairs ++ pairs ∧
      ∃ query, request.query pairs =
        { request with url := { request.url with query := some query } } := by
  refine ⟨?_, request.url.queryPairs_appendPairs pairs, _, rfl⟩
  exact congrArg (fun url => { request with url }) (request.url.appendPairs_appendPairs pairs more)

end Courier
