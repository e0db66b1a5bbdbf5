import Courier.Url.Query

/-! # Pairs appended to a query

Forms are joined by an ampersand, which an empty one does not need. Joined forms of pairs are the
form of all of them, and to go on with a query is to join it with what comes after. Joining is
associative, so it does not matter for a query whether pairs are appended at once or in parts.
-/

namespace Courier

namespace Form

/-- Two forms, with an ampersand between them unless one is empty. -/
def join (first second : String) : String :=
  if first = "" then second else if second = "" then first else first ++ "&" ++ second

@[simp] theorem empty_join (form : String) : join "" form = form := rfl

@[simp] theorem join_empty (form : String) : join form "" = form := by
  unfold join
  split
  · exact Eq.symm ‹_›
  · rfl

theorem join_of_ne {first second : String} (begun : first ≠ "") (more : second ≠ "") :
    join first second = first ++ "&" ++ second := by
  unfold join
  rw [if_neg begun, if_neg more]

theorem append_ne_empty {first second : String} (more : second ≠ "") :
    first ++ "&" ++ second ≠ "" := by
  rw [ne_eq, String.append_eq_empty_iff]
  exact fun empty => more empty.2

theorem join_assoc (first second third : String) :
    join (join first second) third = join first (join second third) := by
  by_cases begun : first = ""
  · rw [begun, empty_join, empty_join]
  by_cases goesOn : second = ""
  · rw [goesOn, join_empty, empty_join]
  by_cases ends : third = ""
  · rw [ends, join_empty, join_empty]
  rw [join_of_ne begun goesOn, join_of_ne goesOn ends, join_of_ne (append_ne_empty goesOn) ends,
    join_of_ne begun (append_ne_empty ends)]
  simp only [String.append_assoc]

/-! ## Forms of pairs -/

theorem encodePair_ne_nil (pair : String × String) : encodePair pair ≠ [] :=
  List.append_ne_nil_of_right_ne_nil _ (List.cons_ne_nil _ _)

theorem encodePairs_ne_nil {pairs : List (String × String)} (some : pairs ≠ []) :
    encodePairs pairs ≠ [] := by
  unfold encodePairs
  split
  · exact absurd rfl some
  · exact encodePair_ne_nil _
  · exact List.append_ne_nil_of_right_ne_nil _ (List.cons_ne_nil _ _)

/-- Only no pairs have an empty form: even an empty name with an empty value has an equals sign. -/
theorem encode_ne_empty {pairs : List (String × String)} (some : pairs ≠ []) :
    encode pairs ≠ "" :=
  mt String.ofList_eq_empty_iff.mp (encodePairs_ne_nil some)

/-- The form of pairs begins with that of the first, which is joined with that of the rest. -/
theorem encode_cons (pair : String × String) (rest : List (String × String)) :
    encode (pair :: rest) = join (encode [pair]) (encode rest) := by
  by_cases more : rest = []
  · rw [more]
    exact (join_empty _).symm
  · rw [join_of_ne (encode_ne_empty (List.cons_ne_nil _ _)) (encode_ne_empty more)]
    unfold encode
    rw [encodePairs.eq_3 _ _ more, String.ofList_append, String.ofList_cons, ← String.append_assoc]
    rfl

theorem encode_append (pairs more : List (String × String)) :
    encode (pairs ++ more) = join (encode pairs) (encode more) := by
  induction pairs with
  | nil => rfl
  | cons pair rest ih =>
    calc encode (pair :: (rest ++ more))
        = join (encode [pair]) (encode (rest ++ more)) := encode_cons ..
      _ = join (encode [pair]) (join (encode rest) (encode more)) := by rw [ih]
      _ = join (join (encode [pair]) (encode rest)) (encode more) := (join_assoc ..).symm
      _ = join (encode (pair :: rest)) (encode more) := by rw [← encode_cons]

end Form

namespace Url

/-- An absent query goes on as an empty one does. -/
theorem extendQuery_eq_join (before : Option String) (more : String) :
    extendQuery before more = Form.join (before.getD "") more := by
  unfold extendQuery Form.join
  split
  · rfl
  · rfl
  · rename_i query nonempty
    rw [Option.getD_some, if_neg nonempty]

/-- Pairs that are appended in parts are appended at once. -/
theorem appendPairs_appendPairs (url : Url) (pairs more : List (String × String)) :
    (url.appendPairs pairs).appendPairs more = url.appendPairs (pairs ++ more) := by
  unfold appendPairs
  simp only [extendQuery_eq_join, Option.getD_some, Form.encode_append, Form.join_assoc]

end Url

end Courier
