import PageRoutes.Document.Value

/-! Tables of a TOML document, and what may still be added to them.

A table opened by a header or by a dotted key is not opened again, and what is written in
line is never added to. Marks remember both by the keys on the way to a table.
-/

set_option autoImplicit false

namespace PageRoutes.Document.Toml

abbrev KeyPath := List String

inductive Mark where
  /-- Written in line: nothing at or below it changes any more. -/
  | frozen
  /-- Opened once, and not to be opened again. -/
  | opened
  deriving DecidableEq

structure Marks where
  /-- Marks with whether they hold for everything below as well. -/
  placed : List (KeyPath × Mark × Bool)
  /-- Marks that count from the next header on. -/
  pending : List (KeyPath × Mark)

namespace Marks

def none : Marks := ⟨[], []⟩

def place (marks : Marks) (path : KeyPath) (mark : Mark) (below : Bool) : Marks :=
  { marks with placed := (path, mark, below) :: marks.placed }

def await (marks : Marks) (path : KeyPath) (mark : Mark) : Marks :=
  { marks with pending := (path, mark) :: marks.pending }

def settle (marks : Marks) : Marks :=
  ⟨marks.pending.map (fun (path, mark) => (path, mark, false)) ++ marks.placed, []⟩

def release (marks : Marks) (path : KeyPath) : Marks :=
  { marks with placed := marks.placed.filter fun entry => !path.isPrefixOf entry.1 }

/-- Whether a path has a mark, of its own or from above. -/
def has (marks : Marks) (path : KeyPath) (mark : Mark) : Bool :=
  path ≠ [] && marks.placed.any fun (other, placed, below) =>
    placed = mark && (other = path || (below && other.isPrefixOf path))

end Marks

/-- Changes the table at the end of a path, making tables that are missing. Where `lists` is
set, a list of tables stands for its last one. Fails where a value is no table. -/
def changeTable (lists : Bool) (change : Entries → Option Entries) :
    KeyPath → Entries → Option Entries
  | [], entries => change entries
  | key :: rest, entries =>
    match entries.get? (.text key) with
    | none =>
      (changeTable lists change rest []).map fun inner => entries.put (.text key) (.mapping inner)
    | some (.mapping inner) =>
      (changeTable lists change rest inner).map fun changed =>
        entries.put (.text key) (.mapping changed)
    | some (.list items) =>
      if lists then
        match items.getLast? with
        | some (.mapping inner) =>
          (changeTable lists change rest inner).map fun changed =>
            entries.put (.text key) (.list (items.dropLast ++ [.mapping changed]))
        | _ => none
      else none
    | some _ => none

def addKey (key : String) (value : Value) (entries : Entries) : Option Entries :=
  match entries.get? (.text key) with
  | some _ => none
  | none => some (entries.put (.text key) value)

/-- Adds an empty table to a list of tables, which is made if it is missing. -/
def addTable (key : String) (entries : Entries) : Option Entries :=
  match entries.get? (.text key) with
  | none => some (entries.put (.text key) (.list [.mapping []]))
  | some (.list items) => some (entries.put (.text key) (.list (items ++ [.mapping []])))
  | some _ => none

end PageRoutes.Document.Toml
