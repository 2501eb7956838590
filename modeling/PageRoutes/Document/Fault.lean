/-! Why a text is no document, or a document has no value. -/

set_option autoImplicit false

namespace PageRoutes.Document

inductive Fault where
  /-- The text does not follow the grammar, or a node cannot have the type it asks for. -/
  | malformed (reason : String)
  /-- A scalar follows the grammar and denotes no value. -/
  | outOfRange (message : String)
  /-- A scalar tagged as a timestamp does not look like one. -/
  | notTimestamp
  /-- A mapping tagged as a timestamp has a text that is not looked at. -/
  | timestampOfMapping
  /-- A scalar tagged as a truth value is none. -/
  | notBoolean
  /-- A scalar tagged as a number has no character. -/
  | noDigits
  /-- A character number beyond every machine word, or a factor beyond every real number. -/
  | tooLarge
  /-- The document is nested too deeply, or the text of a mapping is looked for inside itself. -/
  | endless
  deriving DecidableEq

end PageRoutes.Document
