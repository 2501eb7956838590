import PageRoutes.Banner
import PageRoutes.CommandLine.Switch

/-! The texts that explain the command line. -/

set_option autoImplicit false

namespace PageRoutes.CommandLine

def programName : String := "burrow"

inductive Scope where
  | program
  | command (command : Command)
  deriving DecidableEq

def Scope.title : Scope → String
  | .program => programName
  | .command chosen => programName ++ " " ++ chosen.name

def text (lines : List String) : String :=
  String.join (lines.map fun line => line ++ "\n")

def Scope.usageLines : Scope → List String
  | .program => ["usage: burrow [-h] [--version] \x7bgenerate,watch\x7d ..."]
  | .command chosen =>
    let head := "usage: " ++ (Scope.command chosen).title ++ " "
    let margin := String.ofList (List.replicate head.length ' ')
    [head ++ "[-h] [--pages-dir PAGES_DIR] [--output OUTPUT]",
      margin ++ "[--import-source IMPORT_SOURCE]",
      margin ++ "[root]"]

def Scope.helpLines : Scope → List String
  | .program => [
    "",
    "Compile a directory of page files into a routes module.",
    "",
    "positional arguments:",
    "  \x7bgenerate,watch\x7d  Available commands",
    "    generate        Generate the routes module once",
    "    watch           Generate, then regenerate when pages are added or removed",
    "",
    "options:",
    "  -h, --help        show this help message and exit",
    "  --version         show program's version number and exit"]
  | .command _ => [
    "",
    "positional arguments:",
    "  root                  Project root directory",
    "",
    "options:",
    "  -h, --help            show this help message and exit",
    "  --pages-dir PAGES_DIR",
    "                        Pages directory (default: src/pages)",
    "  --output OUTPUT       Generated module (default: src/router.tsx)",
    "  --import-source IMPORT_SOURCE",
    "                        Package to import Routes/Route/Outlet from (default:",
    "                        react-router-dom)"]

def Scope.usage (scope : Scope) : String := text scope.usageLines

def Scope.help (scope : Scope) : String := text (scope.usageLines ++ scope.helpLines)

def versionText : String := programName ++ " " ++ version ++ "\n"

def Scope.refusal (scope : Scope) (fault : Fault) : String :=
  scope.usage ++ scope.title ++ ": error: " ++ fault.message ++ "\n"

end PageRoutes.CommandLine
