/-! # Content types

The content types that a builder knows by name. A text that names none of them stands for JSON.
-/

namespace Courier

/-- A content type with a name of its own. -/
inductive ContentType
  | json
  | form
  | octetStream
  | plainText
  | html
  deriving DecidableEq, Repr

namespace ContentType

/-- The text of a content type. -/
def text : ContentType → String
  | .json => "application/json"
  | .form => "application/x-www-form-urlencoded"
  | .octetStream => "application/octet-stream"
  | .plainText => "text/plain"
  | .html => "text/html"

/-- The content type that a text names, spelled exactly so. -/
def ofText (text : String) : ContentType :=
  if text = ContentType.form.text then .form
  else if text = ContentType.octetStream.text then .octetStream
  else if text = ContentType.plainText.text then .plainText
  else if text = ContentType.html.text then .html
  else .json

theorem ofText_text (type : ContentType) : ofText type.text = type := by
  cases type <;> decide

/-- The name in diagnostics. -/
def label : ContentType → String
  | .json => "ApplicationJson"
  | .form => "ApplicationFormUrlEncoded"
  | .octetStream => "ApplicationOctetStream"
  | .plainText => "TextPlain"
  | .html => "TextHtml"

end ContentType

/-- What a client accepts: a text or a content type. -/
inductive AcceptValue
  | literal (value : String)
  | known (type : ContentType)
  deriving DecidableEq, Repr

/-- The text of what a client accepts. -/
def AcceptValue.text : AcceptValue → String
  | .literal value => value
  | .known type => type.text

end Courier
