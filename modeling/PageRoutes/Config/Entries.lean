import PageRoutes.Config
import PageRoutes.Document.Value

/-! From the entries of a document to a configuration.

The section of the tool comes first, then the known keys at the top level, then what was
given by hand; a later source replaces the value and keeps the place. The first entry
that is not a known key with a text value is refused.
-/

set_option autoImplicit false

namespace PageRoutes

inductive ConfigError where
  | emptyImportSource
  | unknownKey (key : Document.Value)
  | notText (key : Document.Value) (kind : String)
  | unreadable (path : String) (reason : String)
  | notMapping (path : String)

namespace ConfigError

def message : ConfigError → String
  | .emptyImportSource => "import_source must be a non-empty package name"
  | .unknownKey key => "Unknown config key " ++ key.shown
  | .notText key kind => "Config key " ++ key.shown ++ " must be a str, got " ++ kind
  | .unreadable path reason => "Failed to read " ++ path ++ ": " ++ reason
  | .notMapping path => path ++ " must contain a mapping at the top level"

end ConfigError

namespace Config

open Document

def pagesDirectoryKey : String := "pages_dir"

def outputFileKey : String := "output_file"

def importSourceKey : String := "import_source"

def knownKeys : List String := [pagesDirectoryKey, outputFileKey, importSourceKey]

def sectionKey : String := "burrow"

def isKnownKey (key : Value) : Bool :=
  match key.text? with
  | some text => knownKeys.contains text
  | none => false

/-- The entries of the tool's section, or none where there is no such mapping. -/
def sectionEntries (document : Entries) : Entries :=
  ((document.get? (.text sectionKey)).bind Value.entries?).getD []

/-- The section with the known keys of the top level put over it. -/
def flatten (document : Entries) : Entries :=
  Keyed.merge (Keyed.merge [] (sectionEntries document))
    (document.filter fun entry => isKnownKey entry.1)

/-- Entries given by hand; a null stands for one that was not given. -/
def given (overrides : Entries) : Entries :=
  overrides.filter fun entry =>
    match entry.2 with
    | .null => false
    | _ => true

def firstFault? : Entries → Option ConfigError
  | [] => none
  | (key, value) :: rest =>
    if isKnownKey key then
      match value.text? with
      | some _ => firstFault? rest
      | none => some (.notText key value.kindName)
    else some (.unknownKey key)

def field (entries : Entries) (key standard : String) : String :=
  ((entries.get? (.text key)).bind Value.text?).getD standard

def ofEntries (root : AbsolutePath) (file overrides : Entries) : Except ConfigError Config :=
  let entries := Keyed.merge file (given overrides)
  match firstFault? entries with
  | some fault => .error fault
  | none =>
    match ofRoot? root (field entries pagesDirectoryKey defaultPagesDirectory)
        (field entries outputFileKey defaultOutputFile)
        (field entries importSourceKey defaultImportSource) with
    | some config => .ok config
    | none => .error .emptyImportSource

end Config

end PageRoutes
