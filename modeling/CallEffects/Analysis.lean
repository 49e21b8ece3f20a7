import CallEffects.Emulation.Registry
import CallEffects.Event
import CallEffects.Immutability

/-!
# Analyses

What an analysis has at hand when it meets a call: the methods that it can emulate, what it knows
of types, its settings, and the log of what it did. This is enough to tell how a call will be dealt
with.

Methods are emulated by the handlers of a registry and in no other way. An emulator of another kind
would need no table, and might answer with a type that the method does not declare.

## Main definitions

* `Disposition`, `Outcome` — how a call is dealt with, and what came of it
* `Analysis` — what an analysis knows and has done so far
* `Analysis.verdict` — the verdict on a type
* `Analysis.disposition` — how a call will be dealt with
-/

namespace CallEffects

/-! ### Outcomes -/

/-- How a call is dealt with. -/
inductive Disposition where
  /-- Its handler computes the result. -/
  | emulated
  /-- The program declares the target, but it is only approximated. -/
  | deferredKnown
  /-- It is only approximated, and nothing is known of the target. -/
  | blackBox
deriving DecidableEq, Repr

/-- What came of a call. -/
structure Outcome where
  /-- How it was dealt with. -/
  disposition : Disposition
  /-- What it returned. -/
  result : Option Store := none
  /-- The argument registers that keep their values, in order of first use. -/
  retained : List UInt16 := []
  /-- The argument registers that lose their values, in order of first use. -/
  invalidated : List UInt16 := []
deriving DecidableEq, Repr

/-! ### Analyses -/

/-- What an analysis knows and has done so far. -/
structure Analysis where
  /-- The methods that can be emulated, which are those with a handler in a table. Emulators of any
  other kind are not considered. -/
  registry : Registry
  /-- The classes of the program, what is known of others, and the verdicts found so far. -/
  resolver : Resolver
  /-- What the analysis was told. -/
  settings : Settings
  /-- What it did. -/
  log : EventLog

namespace Analysis

/-- An analysis that has not done anything yet. -/
def new (catalog : Catalog) (registry : Registry) (metadata : Metadata) (settings : Settings) :
    Analysis :=
  ⟨registry, Resolver.new catalog metadata settings.keepVerdicts, settings, .empty⟩

/-- The classes of the program. -/
def catalog (a : Analysis) : Catalog := a.resolver.catalog

/-- Other metadata. The verdicts found so far are dropped. -/
def withMetadata (a : Analysis) (metadata : Metadata) : Analysis :=
  { a with resolver := Resolver.new a.catalog metadata a.settings.keepVerdicts }

/-- Other settings. The verdicts found so far are dropped. -/
def withSettings (a : Analysis) (settings : Settings) : Analysis :=
  { a with settings := settings, resolver := a.resolver.restart settings.keepVerdicts }

/-- Another log. -/
def withLog (a : Analysis) (log : EventLog) : Analysis := { a with log := log }

/-- The analysis with one more event in its log. -/
def record (a : Analysis) (e : Event) : Analysis := { a with log := a.log.record e }

/-- The verdict on a type, and the analysis that has kept it. -/
def verdict (a : Analysis) (type : TypeDescriptor) : Verdict × Analysis :=
  let (v, resolver) := a.resolver.verdict type
  (v, { a with resolver := resolver })

/-- How a call from the given frame to the method of the given descriptor is dealt with. -/
def disposition (a : Analysis) (caller : Frame) (descriptor : String) : Disposition :=
  if caller.depth = 0 then .blackBox
  else if a.registry.canEmulate descriptor then .emulated
  else if a.catalog.containsMethod descriptor then .deferredKnown
  else .blackBox

end Analysis

end CallEffects
