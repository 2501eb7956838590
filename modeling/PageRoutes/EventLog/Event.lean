import PageRoutes.Duration

/-! What is recorded about generation passes and about the changes that caused them. -/

set_option autoImplicit false

namespace PageRoutes

inductive Stage where
  | discover
  | write
  | named (label : String)
  deriving DecidableEq

def Stage.label : Stage → String
  | .discover => "discover"
  | .write => "write"
  | .named label => label

/-- A log keeps what it is told: the numbers of an event need not be counts. -/
inductive Event where
  | routesGenerated (pagesDirectory outputFile : String) (fileCount bytesWritten : Int)
      (duration : Duration) (timestamp : Int)
  | generationFailed (pagesDirectory : String) (stage : Stage) (error : String) (timestamp : Int)
  | pagesChanged (path : String) (created deleted timestamp : Int)
  deriving DecidableEq

inductive EventKind where
  | routesGenerated
  | generationFailed
  | pagesChanged
  deriving DecidableEq

def EventKind.label : EventKind → String
  | .routesGenerated => "RoutesGenerated"
  | .generationFailed => "GenerationFailed"
  | .pagesChanged => "PagesChanged"

def Event.kind : Event → EventKind
  | .routesGenerated .. => .routesGenerated
  | .generationFailed .. => .generationFailed
  | .pagesChanged .. => .pagesChanged

end PageRoutes
