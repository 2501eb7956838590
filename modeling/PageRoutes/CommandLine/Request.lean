import PageRoutes.CommandLine.Usage
import PageRoutes.Config

/-! From the arguments to a request.

Switches before the command belong to the program, those behind it to the command, which may
also have one operand, the root directory. What neither understands is collected and refused
at the end, so that a request for help wins over it. An ambiguous switch is refused first.
-/

set_option autoImplicit false

namespace PageRoutes.CommandLine

inductive Given where
  | text (value : String)
  /-- A double hyphen is taken for a separator, so that it gives nothing. -/
  | nothing
  deriving DecidableEq

def Given.ofText (text : String) : Given := if text = doubleHyphen then .nothing else .text text

structure Settings where
  root : Option String
  pagesDirectory : Option Given
  outputFile : Option Given
  importSource : Option Given
  deriving DecidableEq

structure Request where
  command : Command
  settings : Settings
  deriving DecidableEq

inductive Notice where
  | help (scope : Scope)
  | version
  | refused (scope : Scope) (fault : Fault)
  deriving DecidableEq

/-- What is left of the letters behind the help switch when those that ask for help again are
gone; letters behind another switch, or no letters at all, are a value. -/
def strayLetters? (text : List Char) : Option (List Char) :=
  match text.dropWhile (· = helpLetter) with
  | [] => if text.isEmpty then some [] else none
  | rest => some rest

def Attachment.stray? : Attachment → Option String
  | .none => Option.none
  | .value text => some text
  | .letters text => (strayLetters? text.toList).map String.ofList

def settle (scope : Scope) (label : String) (attachment : Attachment) (meant : Notice) : Notice :=
  match attachment.stray? with
  | some text => .refused scope (.valueIgnored label text)
  | none => meant

def ProgramSwitch.notice (switch : ProgramSwitch) (attachment : Attachment) : Notice :=
  settle .program switch.label attachment
    (match switch with
      | .help => .help .program
      | .version => .version)

namespace Settings

def none : Settings := ⟨Option.none, Option.none, Option.none, Option.none⟩

/-- The last value counts. -/
def set (settings : Settings) (setting : Setting) (value : String) : Settings :=
  let given := some (Given.ofText value)
  match setting with
  | .pagesDirectory => { settings with pagesDirectory := given }
  | .outputFile => { settings with outputFile := given }
  | .importSource => { settings with importSource := given }

end Settings

structure Draft where
  settings : Settings
  unrecognized : List String
  deriving DecidableEq

namespace Draft

def empty : Draft := ⟨Settings.none, []⟩

def set (draft : Draft) (setting : Setting) (value : String) : Draft :=
  { draft with settings := draft.settings.set setting value }

def passOver (draft : Draft) (argument : String) : Draft :=
  { draft with unrecognized := draft.unrecognized ++ [argument] }

/-- The first operand is the root, and there is no other one. -/
def take (draft : Draft) (operand : String) : Draft :=
  match draft.settings.root with
  | none => { draft with settings := { draft.settings with root := some operand } }
  | some _ => draft.passOver operand

/-- The separator goes unnoticed next to the root. -/
def separate (draft : Draft) (mark : String) (nextToRoot : Bool) : Draft :=
  if nextToRoot then draft else draft.passOver mark

def read (command : Command) : List (Word CommandSwitch) → Draft → Except Notice Draft
  | [], draft => .ok draft
  | ⟨text, .unknown⟩ :: rest, draft => read command rest (draft.passOver text)
  | ⟨_, .switch .help attachment⟩ :: _, _ =>
    .error (settle (.command command) helpLabel attachment (.help (.command command)))
  | ⟨_, .switch (.set setting) (.value value)⟩ :: rest, draft =>
    read command rest (draft.set setting value)
  | ⟨_, .switch (.set setting) (.letters value)⟩ :: rest, draft =>
    read command rest (draft.set setting value)
  | ⟨_, .switch (.set setting) .none⟩ :: ⟨value, .operand⟩ :: rest, draft =>
    read command rest (draft.set setting value)
  | ⟨_, .switch (.set setting) .none⟩ :: _, _ =>
    .error (.refused (.command command) (.valueMissing setting.spelling))
  -- A separator is taken together with the root beside it, and is left over elsewhere.
  | ⟨text, .operand⟩ :: ⟨mark, .separator⟩ :: rest, draft =>
    read command rest ((draft.take text).separate mark draft.settings.root.isNone)
  | ⟨text, .operand⟩ :: rest, draft => read command rest (draft.take text)
  | ⟨mark, .separator⟩ :: rest, draft =>
    read command rest (draft.separate mark draft.settings.root.isNone)

end Draft

namespace Request

def ofCommand (command : Command) (passedOver arguments : List String) :
    Except Notice Request := do
  let words ← (Word.ofArguments commandVocabulary arguments).mapError
    (Notice.refused (.command command))
  let draft ← Draft.read command words Draft.empty
  match passedOver ++ draft.unrecognized with
  | [] => return ⟨command, draft.settings⟩
  | unrecognized => .error (.refused .program (.unrecognized unrecognized))

/-- Reads up to the command. Without a command and without a fault there is help. -/
def ofWords (passedOver : List String) : List (Word ProgramSwitch) → Except Notice Request
  | [] =>
    match passedOver with
    | [] => .error (.help .program)
    | unrecognized => .error (.refused .program (.unrecognized unrecognized))
  | ⟨text, .unknown⟩ :: rest => ofWords (passedOver ++ [text]) rest
  | ⟨_, .switch switch attachment⟩ :: _ => .error (switch.notice attachment)
  | ⟨text, .operand⟩ :: rest =>
    match Command.ofName? text with
    | some command => ofCommand command passedOver (rest.map Word.text)
    | none => .error (.refused .program (.unknownCommand text))
  | ⟨text, .separator⟩ :: rest =>
    if rest = [] then .error (.refused .program (.unrecognized (passedOver ++ [text])))
    else .error (.refused .program (.unknownCommand text))

def ofArguments (arguments : List String) : Except Notice Request := do
  let words ← (Word.ofArguments programVocabulary arguments).mapError (Notice.refused .program)
  ofWords [] words

end Request

end PageRoutes.CommandLine
