import Courier.Text.Form
import Courier.Url.Basic

/-! # Pairs in the query of a URL

A query may hold names and values in form encoding. Pairs are appended to a query behind an
ampersand, which an empty query does not need.
-/

namespace Courier.Url

/-- A query that goes on after another. -/
def extendQuery (before : Option String) (more : String) : String :=
  match before with
  | none | some "" => more
  | some before => if more = "" then before else before ++ "&" ++ more

/-- The URL with pairs appended to its query; it has a query afterwards even when there are none. -/
def appendPairs (url : Url) (pairs : List (String × String)) : Url :=
  { url with query := some (extendQuery url.query (Form.encode pairs)) }

/-- The pairs that the query of a URL holds. -/
def queryPairs (url : Url) : List (String × String) := Form.decode (url.query.getD "")

end Courier.Url
