import PageRoutes.Config
import PageRoutes.EventLog.Summary

/-! The lines printed when a command starts, in colour where the terminal allows it. -/

set_option autoImplicit false

namespace PageRoutes

def version : String := "0.1.0.dev0"

namespace Banner

inductive Mode where
  | generate
  | watch
  | named (label : String)
  deriving DecidableEq

def Mode.label : Mode → String
  | .generate => "generate"
  | .watch => "watch"
  | .named label => label

def Mode.ofLabel (label : String) : Mode :=
  if label = "generate" then .generate else if label = "watch" then .watch else .named label

structure Terminal where
  noColor : Option String
  term : Option String
  interactive : Bool
  deriving DecidableEq

/-- Colour needs a terminal that is not dumb, and nobody who declines it by a non-empty text. -/
def Terminal.hasColor (terminal : Terminal) : Bool :=
  terminal.interactive && terminal.term ≠ some "dumb" && terminal.noColor.getD "" = ""

def Terminal.plain : Terminal := ⟨none, none, false⟩

inductive Style where
  | reset
  | bold
  | dim
  | green
  | yellow
  | brown
  deriving DecidableEq

def Style.code : Style → String
  | .reset => "\x1b[0m"
  | .bold => "\x1b[1m"
  | .dim => "\x1b[2m"
  | .green => "\x1b[32m"
  | .yellow => "\x1b[33m"
  | .brown => "\x1b[38;5;136m"

def Mode.style : Mode → Style
  | .generate => .yellow
  | .watch => .green
  | .named _ => .dim

def ruleWidth : Nat := 43

/-- The lines of the banner, where `paint` writes a style or nothing. -/
def lines (config : Config) (mode : Mode) (paint : Style → String) : List String :=
  let dimmed (text : String) := paint .dim ++ text ++ paint .reset
  ["",
    "  " ++ paint .brown ++ paint .bold ++ "Burrow" ++ paint .reset ++ " " ++
      dimmed ("v" ++ version) ++ "  " ++ paint mode.style ++ "[" ++ mode.label ++ "]" ++
      paint .reset,
    "  " ++ dimmed (EventLog.rule ruleWidth),
    "  " ++ dimmed "├─" ++ " pages: " ++ dimmed config.pagesPath.toString,
    "  " ++ dimmed "├─" ++ " routing: " ++ config.importSource,
    "  " ++ dimmed "└─" ++ " output: " ++ dimmed config.outputPath.toString] ++
  (if mode = .watch then ["", "  " ++ dimmed "Watching for added or removed pages..."] else []) ++
  [""]

def text (config : Config) (mode : Mode) (terminal : Terminal) : String :=
  let paint (style : Style) := if terminal.hasColor then style.code else ""
  "\n".intercalate (lines config mode paint) ++ "\n"

end Banner

end PageRoutes
