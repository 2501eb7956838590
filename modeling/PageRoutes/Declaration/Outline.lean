import PageRoutes.Declaration.Basic

/-! Outlines: the lines of declarations, each with the number of groups around it.

An outline is read back with a stack of the groups that are still open. Every line has to stand
at the depth of the stack, and every group has to be closed. Main statement: the outline of a
list of declarations reads back as that list.
-/

set_option autoImplicit false

namespace PageRoutes.Declaration

mutual

/-- The lines of a declaration that stands inside so many groups. -/
def outline (depth : Nat) : Declaration → List (Nat × Line)
  | .index component => [(depth, .index component)]
  | .page path component => [(depth, .page path component)]
  | .group path layout inner =>
    (depth, .opening path layout) :: outlineAll (depth + 1) inner ++ [(depth, .closing)]

def outlineAll (depth : Nat) : List Declaration → List (Nat × Line)
  | [] => []
  | first :: rest => first.outline depth ++ outlineAll depth rest

end

/-- A group that is still open, with the declarations before it. -/
structure OpenGroup where
  path : String
  layout : Option String
  before : List Declaration

/-- Reads the lines that follow `done`, inside the groups that are still open. -/
def readOutline : List (Nat × Line) → List Declaration → List OpenGroup →
    Option (List Declaration)
  | [], done, opened => if opened.isEmpty then some done else none
  | (depth, .closing) :: rest, done, opened =>
    match opened with
    | [] => none
    | innermost :: outer =>
      if depth = outer.length then
        readOutline rest
          (innermost.before ++ [.group innermost.path innermost.layout done]) outer
      else none
  | (depth, .opening path layout) :: rest, done, opened =>
    if depth = opened.length then readOutline rest [] (⟨path, layout, done⟩ :: opened) else none
  | (depth, .index component) :: rest, done, opened =>
    if depth = opened.length then readOutline rest (done ++ [.index component]) opened else none
  | (depth, .page path component) :: rest, done, opened =>
    if depth = opened.length then readOutline rest (done ++ [.page path component]) opened else none

def ofOutline? (lines : List (Nat × Line)) : Option (List Declaration) := readOutline lines [] []

/-- Reads a written line: its margin counts the groups around it. -/
def readMargin? (text : List Char) : Option (Nat × Line) :=
  let margin := (text.takeWhile (· = ' ')).length
  if margin % indentWidth = 0 then
    (Line.read? (text.dropWhile (· = ' '))).map fun line => (margin / indentWidth, line)
  else none

def ofLines? (lines : List (List Char)) : Option (List Declaration) :=
  (lines.mapM readMargin?).bind ofOutline?

mutual

theorem readOutline_outline (declaration : Declaration) (rest : List (Nat × Line))
    (done : List Declaration) (opened : List OpenGroup) :
    readOutline (declaration.outline opened.length ++ rest) done opened =
      readOutline rest (done ++ [declaration]) opened := by
  match declaration with
  | .index component => simp [outline, readOutline]
  | .page path component => simp [outline, readOutline]
  | .group path layout inner =>
    have inside := readOutline_outlineAll inner ((opened.length, .closing) :: rest) []
      (⟨path, layout, done⟩ :: opened)
    simp only [List.length_cons, List.nil_append] at inside
    simp [outline, readOutline, inside]

theorem readOutline_outlineAll (declarations : List Declaration) (rest : List (Nat × Line))
    (done : List Declaration) (opened : List OpenGroup) :
    readOutline (outlineAll opened.length declarations ++ rest) done opened =
      readOutline rest (done ++ declarations) opened := by
  match declarations with
  | [] => simp [outlineAll]
  | first :: others =>
    rw [outlineAll, List.append_assoc, readOutline_outline first, readOutline_outlineAll others,
      List.append_assoc, List.singleton_append]

end

theorem ofOutline?_outlineAll (declarations : List Declaration) :
    ofOutline? (outlineAll 0 declarations) = some declarations := by
  have read := readOutline_outlineAll declarations [] [] []
  simp only [List.append_nil, List.nil_append, List.length_nil] at read
  rw [ofOutline?, read]
  rfl

end PageRoutes.Declaration
