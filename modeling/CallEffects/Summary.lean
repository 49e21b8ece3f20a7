import CallEffects.Analysis

/-!
# Summaries

The parts of an analysis in one line each, by what can be counted in them.

## Main definitions

* `Resolver.summary`, `Registry.summary`, `EventLog.summary`, `Settings.summary`,
  `Analysis.summary`
-/

namespace CallEffects

/-- A name with the fields that follow it in braces. -/
def summaryOf (name : String) (fields : List String) : String :=
  name ++ " \x7b " ++ ", ".intercalate fields ++ " \x7d"

/-- A field under its label. -/
def summaryField (label : String) (text : String) : String := label ++ ": " ++ text

/-- The classes that a resolver knows and the verdicts that it has kept. -/
def Resolver.summary (r : Resolver) : String :=
  summaryOf "MutabilityOracle"
    [summaryField "classes" (toString r.catalog.size),
     summaryField "cached" (toString r.keptCount)]

/-- The handlers of a registry. -/
def Registry.summary (r : Registry) : String :=
  summaryOf "EmulationRegistry" [summaryField "handlers" (toString r.size)]

/-- The events of a log. -/
def EventLog.summary (l : EventLog) : String :=
  summaryOf "EventLog" [summaryField "events" (toString l.size)]

/-- All settings. -/
def Settings.summary (s : Settings) : String :=
  summaryOf "ExecutionConfig"
    [summaryField "max_call_depth" (toString s.callDepth),
     summaryField "cache_mutability" (toString s.keepVerdicts),
     summaryField "verbose_parameters" (toString s.logParameters)]

/-- The classes, the settings and the events of an analysis; what else it has is not shown. -/
def Analysis.summary (a : Analysis) : String :=
  summaryOf "InvokeDispatcher"
    [summaryField "classes" (toString a.catalog.size),
     summaryField "config" a.settings.summary,
     summaryField "events" (toString a.log.size),
     ".."]

end CallEffects
