import PageRoutes.Text.DecimalDigit
import PageRoutes.Text.Quoted

/-! The commands, their switches, and how one argument reads.

A switch may be cut short as long as only one begins so. A value stands behind an equals sign
or in the next argument; whatever stands behind a one-letter switch, with an equals sign or
without one, is a tail of letters. All arguments behind a double hyphen are operands.
-/

set_option autoImplicit false

namespace PageRoutes.CommandLine

inductive Command where
  | generate
  | watch
  deriving DecidableEq

def Command.all : List Command := [.generate, .watch]

def Command.name : Command → String
  | .generate => "generate"
  | .watch => "watch"

def Command.ofName? (name : String) : Option Command :=
  all.find? fun command => command.name = name

inductive Setting where
  | pagesDirectory
  | outputFile
  | importSource
  deriving DecidableEq

def Setting.spelling : Setting → String
  | .pagesDirectory => "--pages-dir"
  | .outputFile => "--output"
  | .importSource => "--import-source"

inductive ProgramSwitch where
  | help
  | version
  deriving DecidableEq

inductive CommandSwitch where
  | help
  | set (setting : Setting)
  deriving DecidableEq

/-- Spellings and what they stand for, in the order in which messages list them. -/
abbrev Vocabulary (σ : Type) := List (String × σ)

def helpLetter : Char := 'h'

def helpShort : String := "-h"

def helpLong : String := "--help"

def helpLabel : String := helpShort ++ "/" ++ helpLong

def versionSpelling : String := "--version"

def programVocabulary : Vocabulary ProgramSwitch :=
  [(helpShort, .help), (helpLong, .help), (versionSpelling, .version)]

def commandVocabulary : Vocabulary CommandSwitch :=
  [(helpShort, .help), (helpLong, .help)] ++
    [Setting.pagesDirectory, .outputFile, .importSource].map fun setting =>
      (setting.spelling, .set setting)

def ProgramSwitch.label : ProgramSwitch → String
  | .help => helpLabel
  | .version => versionSpelling

inductive Attachment where
  | none
  | value (text : String)
  | letters (text : String)
  deriving DecidableEq

inductive Reading (σ : Type) where
  | operand
  | separator
  | switch (meaning : σ) (attachment : Attachment)
  | unknown
  deriving DecidableEq

inductive Fault where
  | ambiguous (argument : String) (spellings : List String)
  | valueMissing (label : String)
  | valueIgnored (label : String) (text : String)
  | unknownCommand (name : String)
  | unrecognized (arguments : List String)
  deriving DecidableEq

def Fault.message : Fault → String
  | .ambiguous argument spellings =>
    "ambiguous option: " ++ argument ++ " could match " ++ ", ".intercalate spellings
  | .valueMissing label => "argument " ++ label ++ ": expected one argument"
  | .valueIgnored label text =>
    "argument " ++ label ++ ": ignored explicit argument " ++ Text.quoted text
  | .unknownCommand name =>
    "argument command: invalid choice: " ++ Text.quoted name ++ " (choose from " ++
      ", ".intercalate (Command.all.map fun command => Text.quoted command.name) ++ ")"
  | .unrecognized arguments => "unrecognized arguments: " ++ " ".intercalate arguments

def doubleHyphen : String := "--"

/-- An argument up to its first equals sign, and what follows the sign: a value, or behind a
one-letter switch just more letters. -/
def splitValue (argument : String) : String × Attachment :=
  match argument.toList.dropWhile (· ≠ '=') with
  | [] => (argument, .none)
  | _ :: behind =>
    let head := argument.toList.takeWhile (· ≠ '=')
    let text := String.ofList behind
    (String.ofList head,
      if doubleHyphen.toList.isPrefixOf head then .value text else .letters text)

/-- A negative number is an operand although it starts with a hyphen. One final line feed does
not matter. -/
def isNegativeNumber : List Char → Bool
  | '-' :: rest =>
    let body := if rest.getLast? = some '\n' then rest.dropLast else rest
    match body.dropWhile Text.isDecimalDigit with
    | [] => !body.isEmpty
    | '.' :: places => !places.isEmpty && places.all Text.isDecimalDigit
    | _ => false
  | _ => false

section

variable {σ : Type}

def candidates (vocabulary : Vocabulary σ) (argument : String) :
    List (String × σ × Attachment) :=
  let (head, attachment) := splitValue argument
  if doubleHyphen.toList.isPrefixOf argument.toList then
    vocabulary.filterMap fun (spelling, meaning) =>
      if head.toList.isPrefixOf spelling.toList then some (spelling, meaning, attachment) else none
  else
    vocabulary.filterMap fun (spelling, meaning) =>
      if spelling.toList = argument.toList.take 2 then
        some (spelling, meaning, .letters (String.ofList (argument.toList.drop 2)))
      else none

def Reading.ofArgument (vocabulary : Vocabulary σ) (argument : String) :
    Except Fault (Reading σ) :=
  match argument.toList with
  | '-' :: _ :: _ =>
    let (head, attachment) := splitValue argument
    -- A spelling in full is never ambiguous.
    match vocabulary.lookup head with
    | some meaning => .ok (.switch meaning attachment)
    | none =>
      match candidates vocabulary argument with
      | [(_, meaning, attached)] => .ok (.switch meaning attached)
      | [] =>
        if isNegativeNumber argument.toList || argument.toList.contains ' ' then .ok .operand
        else .ok .unknown
      | several => .error (.ambiguous argument (several.map Prod.fst))
  | _ => .ok .operand

end

structure Word (σ : Type) where
  text : String
  reading : Reading σ
  deriving DecidableEq

def Word.ofArguments {σ : Type} (vocabulary : Vocabulary σ) :
    List String → Except Fault (List (Word σ))
  | [] => .ok []
  | argument :: rest =>
    if argument = doubleHyphen then
      .ok (⟨argument, .separator⟩ :: rest.map fun text => ⟨text, .operand⟩)
    else do
      let reading ← Reading.ofArgument vocabulary argument
      return ⟨argument, reading⟩ :: (← ofArguments vocabulary rest)

theorem Word.map_text_ofArguments {σ : Type} {vocabulary : Vocabulary σ}
    {arguments : List String} {words : List (Word σ)}
    (read : ofArguments vocabulary arguments = .ok words) : words.map Word.text = arguments := by
  induction arguments generalizing words with
  | nil => cases read; rfl
  | cons argument rest ih =>
    by_cases separates : argument = doubleHyphen
    · rw [ofArguments, if_pos separates] at read
      cases read
      simp [Function.comp_def]
    · rw [ofArguments, if_neg separates] at read
      cases first : Reading.ofArgument vocabulary argument with
      | error fault => rw [first] at read; cases read
      | ok reading =>
        cases others : ofArguments vocabulary rest with
        | error fault => rw [first, others] at read; cases read
        | ok more =>
          rw [first, others] at read
          cases read
          simp [ih others]

end PageRoutes.CommandLine
