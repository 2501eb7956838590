import PageRoutes.EventLog.Basic

/-! The closing lines of a watch session: how many batches came, how many passes were
written, and the latest failures, newest first. -/

set_option autoImplicit false

namespace PageRoutes.EventLog

def counted (count : Nat) (noun ending : String) : String :=
  ToString.toString count ++ " " ++ noun ++ (if count = 1 then "" else ending)

def ruleWidth : Nat := 41

def rule (width : Nat) : String := String.ofList (List.replicate width '─')

/-- Only the latest failures are named. -/
def namedFailures : Int := 3

def failureLine : Event → Option String
  | .generationFailed _ stage error _ => some ("    [" ++ stage.label ++ "] " ++ error)
  | _ => none

def failureLines (log : EventLog) : List String :=
  let failed := log.count .generationFailed
  if failed = 0 then []
  else
    ("  " ++ counted failed "failed pass" "es" ++ ", latest:") ::
      (log.query (some .generationFailed) namedFailures).filterMap failureLine

def summaryLines (log : EventLog) : List String :=
  ["", rule ruleWidth,
    "  " ++ counted (log.count .pagesChanged) "change batch" "es" ++ ", " ++
      counted (log.count .routesGenerated) "pass" "es" ++ " written"] ++ log.failureLines

def summary (log : EventLog) : String := "\n".intercalate log.summaryLines ++ "\n"

end PageRoutes.EventLog
