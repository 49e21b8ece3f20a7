import CallEffects.Effect

/-!
# Activations

Several methods looked at by one analysis. The call sites of a method are dispatched in turn on
its own frame, up to the first that is refused; the methods share the verdicts and the log.

## Main definitions

* `CallSite`, `Activation` — a call at a point, and a method with its calls
* `Analysis.runSites` — the calls of one method
* `Analysis.runAll` — the calls of several methods
-/

namespace CallEffects

/-- A call at a point of the program. -/
structure CallSite where
  /-- The call. -/
  call : Invocation
  /-- The point. -/
  point : Nat
deriving DecidableEq

/-- A method under analysis. -/
structure Activation where
  /-- A name to tell it by. -/
  name : String
  /-- Its frame. -/
  frame : Frame
  /-- Its calls, in order. -/
  sites : List CallSite
deriving DecidableEq

namespace Analysis

/-- Dispatch calls in turn on one frame, up to the first that is refused. -/
def runSites (a : Analysis) (frame : Frame) :
    List CallSite → Except Error (List Outcome) × Frame × Analysis
  | [] => (.ok [], frame, a)
  | site :: sites =>
    let step := a.dispatch frame site.call site.point
    match step.outcome with
    | .error e => (.error e, step.caller, step.analysis)
    | .ok outcome =>
      let (rest, frame, a) := step.analysis.runSites step.caller sites
      (rest.map (outcome :: ·), frame, a)

/-- Dispatch the calls of several methods, each on its own frame. The activations come back with
their frames as the calls left them. -/
def runAll (a : Analysis) :
    List Activation → List (Except Error (List Outcome) × Activation) × Analysis
  | [] => ([], a)
  | activation :: activations =>
    let (result, frame, a) := a.runSites activation.frame activation.sites
    let (rest, a) := a.runAll activations
    ((result, { activation with frame := frame }) :: rest, a)

end Analysis

end CallEffects
