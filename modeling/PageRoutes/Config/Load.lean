import PageRoutes.Config.Entries
import PageRoutes.Document.Readers
import PageRoutes.FileTree.Resolve

/-! The configuration of a project directory.

The first configuration file that exists decides, and the others do not matter; without one
there are only the overrides and the defaults. A text that cannot be decoded or a document
that has no value is a failure of another kind than a wrong configuration.
-/

set_option autoImplicit false

namespace PageRoutes

inductive LoadFailure where
  | config (error : ConfigError)
  /-- The file is not a UTF-8 text. -/
  | undecodable
  /-- The document follows the grammar and has no value. -/
  | fault (fault : Document.Fault)
  /-- The root cannot be looked at, or not be made absolute. -/
  | refused (error : FileError)
  /-- The root was given once more among the overrides. -/
  | rootOverridden

namespace Config

open Document

inductive FileFormat where
  | yaml
  | toml
  deriving DecidableEq

def fileNames : List (String × FileFormat) :=
  [("burrow.yaml", .yaml), ("burrow.yml", .yaml), ("burrow.toml", .toml)]

/-- The name under which no override may be given. -/
def rootKey : String := "root"

/-- Line ends of all three kinds count as line feeds. -/
def unifyBreaks : List Char → List Char
  | '\r' :: '\n' :: rest => '\n' :: unifyBreaks rest
  | '\r' :: rest => '\n' :: unifyBreaks rest
  | c :: rest => c :: unifyBreaks rest
  | [] => []

def decode (content : ByteArray) : Except LoadFailure String :=
  match String.fromUTF8? content with
  | some text => .ok (String.ofList (unifyBreaks text.toList))
  | none => .error .undecodable

/-- A text that breaks the grammar is a wrong configuration. -/
def ofFault (path : Path) : Fault → LoadFailure
  | .malformed reason => .config (.unreadable path.toString reason)
  | fault => .fault fault

/-- A wrong entry, unless its key cannot even be written. -/
def ofEntryError : ConfigError → LoadFailure
  | .unknownKey key =>
    match Numeral.unwritable? key with
    | some fault => .fault fault
    | none => .config (.unknownKey key)
  | error => .config error

/-- The entries of a document; one that counts as nothing has none. -/
def documentEntries (readers : Readers) (path : Path) :
    FileFormat → String → Except LoadFailure Entries
  | .toml, text => (readers.toml text).mapError (ofFault path)
  | .yaml, text =>
    match readers.yaml text with
    | .error fault => .error (ofFault path fault)
    | .ok value =>
      if value.isVoid then .ok []
      else
        match value with
        | .mapping entries => .ok entries
        | _ => .error (.config (.notMapping path.toString))

def firstFile? (tree : FileTree) (start : Location) (root : Path) :
    List (String × FileFormat) → Except FileError (Option (Path × FileFormat))
  | [] => .ok none
  | (name, format) :: rest =>
    let path := root.join (Path.ofString name)
    match tree.isFile start path with
    | .error error => .error error
    | .ok true => .ok (some (path, format))
    | .ok false => firstFile? tree start root rest

def fileEntries (readers : Readers) (tree : FileTree) (start : Location) (root : Path) :
    Except LoadFailure Entries :=
  match firstFile? tree start root fileNames with
  | .error error => .error (.refused error)
  | .ok none => .ok []
  | .ok (some (path, format)) =>
    match tree.content start path with
    | .error error =>
      .error (.config (.unreadable path.toString (error.text path.toString)))
    | .ok content => do
      let text ← decode content
      return flatten (← documentEntries readers path format text)

/-- A relative root may lead through links, so the files decide what it comes to. -/
def absoluteRoot (tree : FileTree) (start : Location) (root : Path) :
    Except FileError AbsolutePath :=
  if absolute : root.IsAbsolute then .ok ⟨root, absolute⟩ else tree.resolve start root

def load (tree : FileTree) (start : Location) (root : Path) (overrides : Entries)
    (readers : Readers := .own) : Except LoadFailure Config :=
  if (overrides.get? (.text rootKey)).isSome then .error .rootOverridden
  else
    match fileEntries readers tree start root with
    | .error failure => .error failure
    | .ok entries =>
      -- A wrong entry is reported before a root that cannot be used.
      match firstFault? (Keyed.merge entries (given overrides)) with
      | some error => .error (ofEntryError error)
      | none =>
        match absoluteRoot tree start root with
        | .error error => .error (.refused error)
        | .ok whole => (ofEntries whole entries overrides).mapError LoadFailure.config

end Config

end PageRoutes
