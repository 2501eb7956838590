import PageRoutes.Document.Toml.Read
import PageRoutes.Document.Yaml.Value

/-! What reads the documents of a project.

A reader answers with a value or says why there is none. What a project's configuration comes to is
told for any two readers; the two of this library are the ones that a run uses.
-/

set_option autoImplicit false

namespace PageRoutes.Document

structure Readers where
  yaml : String → Except Fault Value
  /-- A document of this kind is always a mapping. -/
  toml : String → Except Fault Entries

/-- These readers bound neither the depth nor the size of a document, and they have no characters
without bytes: an escape that stands for one becomes the replacement character. -/
def Readers.own : Readers := ⟨Yaml.read, Toml.read⟩

end PageRoutes.Document
