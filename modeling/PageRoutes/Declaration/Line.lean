/-! The lines of written route declarations.

A page takes one line of its own, and a group a line that opens it and one that closes it. The
path stands in double quotes and the component in an element, so that a path without a double
quote and a component without a space can be read back.
-/

set_option autoImplicit false

namespace PageRoutes.Declaration

inductive Line where
  | index (component : String)
  | page (path component : String)
  | opening (path : String) (layout : Option String)
  | closing
  deriving DecidableEq

def element (component : String) : String := "element=\x7b<" ++ component ++ " />\x7d"

def pathAttribute (path : String) : String := "path=\"" ++ path ++ "\""

def Line.write : Line → String
  | .index component => "<Route index " ++ element component ++ " />"
  | .page path component => "<Route " ++ pathAttribute path ++ " " ++ element component ++ " />"
  | .opening path (some layout) => "<Route " ++ pathAttribute path ++ " " ++ element layout ++ ">"
  | .opening path none => "<Route " ++ pathAttribute path ++ ">"
  | .closing => "</Route>"

def behind? (opening text : List Char) : Option (List Char) :=
  if opening.isPrefixOf text then some (text.drop opening.length) else none

def elementOf? (text : List Char) : Option (String × List Char) :=
  (behind? "element=\x7b<".toList text).map fun named =>
    (String.ofList (named.takeWhile (· ≠ ' ')), named.dropWhile (· ≠ ' '))

def pathOf? (text : List Char) : Option (String × List Char) :=
  match behind? "path=\"".toList text with
  | none => none
  | some quoted =>
    match quoted.dropWhile (· ≠ '"') with
    | [] => none
    | _ :: rest => some (String.ofList (quoted.takeWhile (· ≠ '"')), rest)

/-- The line that an element and its ending make, where only a page may end in itself. -/
def endingOf? (page : String → Line) (group : String → Option Line) :
    Option (String × List Char) → Option Line
  | some (component, ending) =>
    if ending = " />\x7d />".toList then some (page component)
    else if ending = " />\x7d>".toList then group component
    else none
  | none => none

def lineOfPath? (path : String) (rest : List Char) : Option Line :=
  if rest = ['>'] then some (.opening path none)
  else
    endingOf? (.page path) (fun component => some (.opening path (some component)))
      ((behind? [' '] rest).bind elementOf?)

def lineOf? (attributes : List Char) : Option Line :=
  match behind? "index ".toList attributes with
  | some rest => endingOf? .index (fun _ => none) (elementOf? rest)
  | none => (pathOf? attributes).bind fun (path, rest) => lineOfPath? path rest

def Line.read? (text : List Char) : Option Line :=
  if text = "</Route>".toList then some .closing
  else (behind? "<Route ".toList text).bind lineOf?

/-- Whether a line can be read back: no double quote in its path, no space in its component. -/
def Line.IsReadable : Line → Prop
  | .index component => ' ' ∉ component.toList
  | .page path component => '"' ∉ path.toList ∧ ' ' ∉ component.toList
  | .opening path layout => '"' ∉ path.toList ∧ ∀ component ∈ layout, ' ' ∉ component.toList
  | .closing => True

theorem behind?_append (opening rest : List Char) :
    behind? opening (opening ++ rest) = some rest := by
  simp [behind?]

theorem cut_before {c : Char} {text : List Char} (rest : List Char) (free : c ∉ text) :
    (text ++ c :: rest).takeWhile (· ≠ c) = text ∧
      (text ++ c :: rest).dropWhile (· ≠ c) = c :: rest := by
  have keeps : ∀ d ∈ text, decide (d ≠ c) = true := fun d member => by
    simpa using fun same : d = c => free (same ▸ member)
  constructor
  · rw [List.takeWhile_append_of_pos keeps, List.takeWhile_cons_of_neg (by simp), List.append_nil]
  · rw [List.dropWhile_append_of_pos keeps, List.dropWhile_cons_of_neg (by simp)]

theorem elementOf?_append {component : String} (free : ' ' ∉ component.toList)
    (rest : List Char) :
    elementOf? ((element component).toList ++ rest) =
      some (component, " />\x7d".toList ++ rest) := by
  have cut := cut_before ("/>\x7d".toList ++ rest) free
  have shape : (element component).toList ++ rest =
      "element=\x7b<".toList ++ (component.toList ++ ' ' :: ("/>\x7d".toList ++ rest)) := by
    simp [element]
  rw [shape, elementOf?, behind?_append]
  simp only [Option.map_some, cut.1, cut.2, String.ofList_toList]
  rfl

theorem pathOf?_append {path : String} (free : '"' ∉ path.toList) (rest : List Char) :
    pathOf? ((pathAttribute path).toList ++ rest) = some (path, rest) := by
  have cut := cut_before rest free
  have shape : (pathAttribute path).toList ++ rest =
      "path=\"".toList ++ (path.toList ++ '"' :: rest) := by
    simp [pathAttribute]
  rw [shape, pathOf?, behind?_append]
  simp only [cut.1, cut.2, String.ofList_toList]

theorem Line.read?_attributes (attributes : List Char) :
    Line.read? ("<Route ".toList ++ attributes) = lineOf? attributes := by
  have opens : "<Route ".toList ++ attributes ≠ "</Route>".toList := by
    intro same
    have second := congrArg (fun text => text[1]?) same
    simp at second
  rw [Line.read?, if_neg opens, behind?_append, Option.bind_some]

theorem lineOf?_path {path : String} (free : '"' ∉ path.toList) (rest : List Char) :
    lineOf? ((pathAttribute path).toList ++ rest) = lineOfPath? path rest := by
  have other : behind? "index ".toList ((pathAttribute path).toList ++ rest) = none := by
    simp [behind?, pathAttribute]
  rw [lineOf?, other]
  simp only [pathOf?_append free, Option.bind_some]

theorem lineOfPath?_element (path : String) {component : String}
    (free : ' ' ∉ component.toList) (rest : List Char) :
    lineOfPath? path ([' '] ++ ((element component).toList ++ rest)) =
      endingOf? (.page path) (fun component => some (.opening path (some component)))
        (some (component, " />\x7d".toList ++ rest)) := by
  have more : [' '] ++ ((element component).toList ++ rest) ≠ ['>'] := by simp
  rw [lineOfPath?, if_neg more, behind?_append, Option.bind_some, elementOf?_append free]

theorem Line.read?_write {line : Line} (readable : line.IsReadable) :
    Line.read? line.write.toList = some line := by
  cases line with
  | closing => decide
  | index component =>
    have shape : (Line.index component).write.toList = "<Route ".toList ++
        ("index ".toList ++ ((element component).toList ++ " />".toList)) := by
      simp [Line.write]
    rw [shape, read?_attributes, lineOf?, behind?_append]
    simp only [elementOf?_append readable]
    rfl
  | page path component =>
    have shape : (Line.page path component).write.toList = "<Route ".toList ++
        ((pathAttribute path).toList ++
          ([' '] ++ ((element component).toList ++ " />".toList))) := by
      simp [Line.write]
    rw [shape, read?_attributes, lineOf?_path readable.1, lineOfPath?_element path readable.2]
    rfl
  | opening path layout =>
    cases layout with
    | none =>
      have shape : (Line.opening path none).write.toList = "<Route ".toList ++
          ((pathAttribute path).toList ++ ['>']) := by
        simp [Line.write]
      rw [shape, read?_attributes, lineOf?_path readable.1]
      exact if_pos rfl
    | some component =>
      have shape : (Line.opening path (some component)).write.toList = "<Route ".toList ++
          ((pathAttribute path).toList ++ ([' '] ++ ((element component).toList ++ ['>']))) := by
        simp [Line.write]
      rw [shape, read?_attributes, lineOf?_path readable.1,
        lineOfPath?_element path (readable.2 component rfl)]
      rfl

end PageRoutes.Declaration
