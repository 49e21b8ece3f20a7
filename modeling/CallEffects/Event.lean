/-!
# Events

The log of an analysis: what it did at each call, in order.

## Main definitions

* `Level`, `EventKind`, `Event` — an entry of the log
* `EventLog` — the log
* `EventLog.countKind`, `EventLog.atLeast`, `EventLog.forRegister` — asking it
-/

namespace CallEffects

/-- How much an event matters. -/
inductive Level where
  /-- Detail. -/
  | fine
  /-- The normal course. -/
  | info
  /-- A loss of precision. -/
  | warn
deriving DecidableEq, Repr

/-- What an event is about. -/
inductive EventKind where
  /-- An invoke was reached. -/
  | invokeProcessed
  /-- The target is declared by the program, but was not followed. -/
  | deferredKnown
  /-- An argument register keeps its value. -/
  | parameterRetained
  /-- An argument register loses its value. -/
  | parameterInvalidated
  /-- No further calls may be nested. -/
  | depthExhausted
  /-- The handler of the target failed. -/
  | emulationFailed
deriving DecidableEq, Repr

/-- An entry of the log. -/
structure Event where
  /-- How much it matters. -/
  level : Level
  /-- What it is about. -/
  kind : EventKind
  /-- The descriptor of the method that it concerns. -/
  method : Option String
  /-- The register that it concerns. -/
  register : Option UInt16
  /-- What happened, in words. -/
  message : String
deriving DecidableEq, Repr

namespace Level

/-- The place of a level, ascending with how much it matters. -/
def rank : Level → Nat
  | fine => 0
  | info => 1
  | warn => 2

/-- The name of a level. -/
def name : Level → String
  | fine => "Fine"
  | info => "Info"
  | warn => "Warn"

end Level

/-- An event in one line. -/
def Event.display (e : Event) : String := s!"[{e.level.name}] {e.message}"

/-- The events of an analysis, in the order in which they were recorded. -/
structure EventLog where
  /-- The events. -/
  events : Array Event
deriving DecidableEq, Repr

namespace EventLog

/-- The log without events. -/
def empty : EventLog := ⟨#[]⟩

instance : Inhabited EventLog := ⟨empty⟩

/-- The log with one more event at its end. -/
def record (l : EventLog) (e : Event) : EventLog := ⟨l.events.push e⟩

/-- The number of events. -/
def size (l : EventLog) : Nat := l.events.size

/-- Nothing was recorded. -/
def isEmpty (l : EventLog) : Bool := l.events.isEmpty

/-- The events, in order. -/
def toList (l : EventLog) : List Event := l.events.toList

/-- The number of events of a kind. -/
def countKind (l : EventLog) (kind : EventKind) : Nat := (l.toList.filter (·.kind == kind)).length

/-- The events that matter at least as much as the given level. -/
def atLeast (l : EventLog) (level : Level) : List Event :=
  l.toList.filter (level.rank ≤ ·.level.rank)

/-- The events that concern a register. -/
def forRegister (l : EventLog) (register : UInt16) : List Event :=
  l.toList.filter (·.register == some register)

@[simp] theorem toList_record (l : EventLog) (e : Event) :
    (l.record e).toList = l.toList ++ [e] := by
  simp [toList, record]

end EventLog

end CallEffects
