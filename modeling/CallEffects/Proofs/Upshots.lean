import CallEffects.Proofs.Approximation
import Mathlib.Data.List.Basic

/-!
# What comes of a ruling

The equations for dispatch speak of the judgements that a resolver passes. On a faithful analysis
these have a closed form, so everything that a call leaves behind is a function of the ruling on it
and of the types that are immutable: its outcome, the frame, what there is to log, and which types
are looked up. This is the form in which two analyses are compared.

What there is to log is one list whatever the settings are. The settings say which of its events get
into the log, and whether the descriptors that were looked up are kept; they have no part in
anything else.

## Main definitions

* `Settings.logs`, `Settings.keeps` — what the settings let into the log, and into what is kept
* `Ruling.outcome`, `Ruling.frame`, `Ruling.trace`, `Ruling.asked` — what comes of a ruling
* `Ruling.Describes` — an effect is what comes of a ruling

## Main results

* `Analysis.approximated_cases` — why a call is approximated
* `Analysis.describes_ruling` — the effect of a call is what comes of the ruling on it
-/

namespace CallEffects

/-! ### What the settings say -/

namespace Settings

/-- The events that get into the log: all of them, or all but the detail. -/
def logs (s : Settings) (e : Event) : Bool := s.logParameters || decide (e.level ≠ .fine)

/-- The descriptors that are kept after some types were looked up. -/
def keeps (s : Settings) (types : List TypeDescriptor) : Set String :=
  {text | s.keepVerdicts = true ∧ ∃ type ∈ types, type.isPrimitive = false ∧ text = type.text}

@[simp] theorem keeps_nil (s : Settings) : s.keeps [] = ∅ := by simp [keeps]

theorem filter_logs_of_forall_ne_fine (s : Settings) {events : List Event}
    (h : ∀ e ∈ events, e.level ≠ .fine) : events.filter s.logs = events := by
  refine List.filter_eq_self.mpr fun e he => ?_
  rw [logs, decide_eq_true (h e he), Bool.or_true]

end Settings

/-! ### What comes of a ruling -/

namespace Ruling

variable (ρ : Ruling) (immutable : TypeDescriptor → Bool) (caller : Frame) (call : Invocation)
  (point : Nat)

/-- The outcome of the call. -/
def outcome : Except Error Outcome :=
  match ρ with
  | refused e => .error e
  | returns store => .ok { disposition := .emulated, result := call.delivers store }
  | approximated _ d =>
    let js := judgementsOn immutable (caller.slots call point)
    .ok { disposition := d, result := call.delivers .callResult
          retained := (js.filter (·.immutable)).map (·.register)
          invalidated := (js.filter (!·.immutable)).map (·.register) }

/-- The frame of the caller after the call. -/
def frame : Frame :=
  match ρ with
  | refused _ => caller
  | returns store => caller.receive (call.delivers store)
  | approximated _ _ =>
    (caller.receive (call.delivers .callResult)).invalidate point
      (judgementsOn immutable (caller.slots call point))

/-- What there is to log about the call. -/
def trace : List Event :=
  match ρ with
  | refused _ => [.processed call]
  | returns _ => Analysis.reachedEvents caller call
  | approximated events _ =>
    Analysis.reachedEvents caller call ++ events ++
      (judgementsOn immutable (caller.slots call point)).map (.judged call.method.descriptor)

/-- The types that are looked up. -/
def asked : List TypeDescriptor :=
  match ρ with
  | refused _ => []
  | returns _ => []
  | approximated _ _ => caller.passedTypes call point

/-- The effect of a call on an analysis is what comes of a ruling. -/
structure Describes (a : Analysis) (effect : Effect) : Prop where
  /-- The call has the outcome of the ruling. -/
  outcome : effect.outcome = ρ.outcome a.immutable caller call point
  /-- It leaves the frame of the ruling. -/
  frame : effect.caller = ρ.frame a.immutable caller call point
  /-- What there is to log got into the log as the settings say. -/
  log : effect.analysis.log.toList =
    a.log.toList ++ (ρ.trace a.immutable caller call point).filter a.settings.logs
  /-- What was looked up is kept as the settings say. -/
  cached : effect.analysis.resolver.cached =
    a.resolver.cached ∪ a.settings.keeps (ρ.asked caller call point)

end Ruling

/-! ### Why a call is approximated -/

theorem Frame.map_snd_slots (caller : Frame) (call : Invocation) (point : Nat) :
    (caller.slots call point).map (·.2) = caller.passedTypes call point :=
  List.map_snd_zip (Nat.le_of_eq (caller.length_passedTypes call point))

theorem Level.info_ne_fine : info ≠ fine := by decide

theorem Level.warn_ne_fine : warn ≠ fine := by decide

theorem Event.level_judged (descriptor : String) (j : Judgement) :
    (Event.judged descriptor j).level = .fine := by
  rw [judged]
  split <;> rfl

theorem Event.kind_judged (descriptor : String) (j : Judgement) :
    (Event.judged descriptor j).kind = .parameterRetained ∨
      (Event.judged descriptor j).kind = .parameterInvalidated := by
  rw [judged]
  split
  · exact .inl rfl
  · exact .inr rfl

namespace Analysis

variable {a : Analysis} {caller : Frame} {call : Invocation} {point : Nat}

/-- Why a call is approximated: its handler failed, or the program declares its method, or nothing
is known of it. -/
theorem approximated_cases {events : List Event} {d : Disposition}
    (h : a.ruling caller call point = .approximated events d) :
    (a.disposition caller call.method.descriptor = .emulated ∧ d = .blackBox ∧
        ∃ e, events = [.failed call.method.descriptor e]) ∨
      (a.disposition caller call.method.descriptor = .deferredKnown ∧ d = .deferredKnown ∧
        events = [.deferred call.method.descriptor]) ∨
      (a.disposition caller call.method.descriptor = .blackBox ∧ d = .blackBox ∧ events = []) := by
  obtain ⟨-, callee, -, -, hruling⟩ := exists_callee h nofun
  rw [rulingOn] at hruling
  cases hd : a.disposition caller call.method.descriptor with
  | emulated =>
    rw [hd] at hruling
    cases hrun : a.registry.emulate callee call.method.descriptor with
    | ok store =>
      rw [hrun] at hruling
      cases hruling
    | error e =>
      rw [hrun] at hruling
      obtain ⟨rfl, rfl⟩ := Ruling.approximated.inj hruling
      exact .inl ⟨rfl, rfl, e, rfl⟩
  | deferredKnown =>
    rw [hd] at hruling
    obtain ⟨rfl, rfl⟩ := Ruling.approximated.inj hruling
    exact .inr (.inl ⟨rfl, rfl, rfl⟩)
  | blackBox =>
    rw [hd] at hruling
    obtain ⟨rfl, rfl⟩ := Ruling.approximated.inj hruling
    exact .inr (.inr ⟨rfl, rfl, rfl⟩)

/-- A call that is approximated was not emulated. -/
theorem ne_emulated_of_approximated {events : List Event} {d : Disposition}
    (h : a.ruling caller call point = .approximated events d) : d ≠ .emulated := by
  obtain ⟨-, rfl, -⟩ | ⟨-, rfl, -⟩ | ⟨-, rfl, -⟩ := approximated_cases h
  · exact nofun
  · exact nofun
  · exact nofun

theorem level_ne_fine_of_mem_reachedEvents {e : Event} (he : e ∈ reachedEvents caller call) :
    e.level ≠ .fine := by
  rw [reachedEvents] at he
  rcases List.mem_cons.mp he with rfl | he
  · exact Level.info_ne_fine
  · split at he
    · rw [List.mem_singleton.mp he]
      exact Level.warn_ne_fine
    · exact absurd he List.not_mem_nil

theorem level_ne_fine_of_approximated {events : List Event} {d : Disposition}
    (h : a.ruling caller call point = .approximated events d) {e : Event} (he : e ∈ events) :
    e.level ≠ .fine := by
  obtain ⟨-, -, e', rfl⟩ | ⟨-, -, rfl⟩ | ⟨-, -, rfl⟩ := approximated_cases h
  · rw [List.mem_singleton.mp he]
    exact Level.warn_ne_fine
  · rw [List.mem_singleton.mp he]
    exact Level.warn_ne_fine
  · exact absurd he List.not_mem_nil

theorem kind_of_approximated {events : List Event} {d : Disposition}
    (h : a.ruling caller call point = .approximated events d) {e : Event} (he : e ∈ events) :
    e.kind = .emulationFailed ∨ e.kind = .deferredKnown := by
  obtain ⟨-, -, e', rfl⟩ | ⟨-, -, rfl⟩ | ⟨-, -, rfl⟩ := approximated_cases h
  · rw [List.mem_singleton.mp he]
    exact .inl rfl
  · rw [List.mem_singleton.mp he]
    exact .inr rfl
  · exact absurd he List.not_mem_nil

theorem kind_of_mem_judgedEvents {descriptor : String} {js : List Judgement} {e : Event}
    (he : e ∈ a.judgedEvents descriptor js) :
    e.kind = .parameterRetained ∨ e.kind = .parameterInvalidated := by
  rw [judgedEvents] at he
  split at he
  · obtain ⟨j, -, rfl⟩ := List.mem_map.mp he
    exact Event.kind_judged descriptor j
  · exact absurd he List.not_mem_nil

/-! ### The effect of a call -/

/-- Of the events about argument registers, those are logged that get into the log. -/
theorem judgedEvents_eq_filter (a : Analysis) (descriptor : String) (js : List Judgement) :
    a.judgedEvents descriptor js = (js.map (.judged descriptor)).filter a.settings.logs := by
  have hlogs : ∀ e ∈ js.map (Event.judged descriptor),
      a.settings.logs e = a.settings.logParameters := by
    intro e he
    obtain ⟨j, -, rfl⟩ := List.mem_map.mp he
    simp [Settings.logs, Event.level_judged]
  rw [judgedEvents, List.filter_congr hlogs]
  cases a.settings.logParameters with
  | true => rw [if_pos rfl, List.filter_true]
  | false => rw [if_neg Bool.false_ne_true, List.filter_false]

/-- Asking a resolver keeps the descriptors that the settings say. -/
theorem cached_judge (ha : a.Faithful) (caller : Frame) (call : Invocation) (point : Nat) :
    (a.judge caller call point).2.cached =
      a.resolver.cached ∪ a.settings.keeps (caller.passedTypes call point) := by
  rw [judge, (answered_judgeSlots ha.resolver [] _).cached, Frame.map_snd_slots]
  congr 1
  ext text
  constructor
  · rintro ⟨type, htype, rfl, hprim, hkept⟩
    exact ⟨ha.isSome_kept.symm.trans hkept, type, htype, hprim, rfl⟩
  · rintro ⟨hkeep, type, htype, hprim, rfl⟩
    exact ⟨type, htype, rfl, hprim, ha.isSome_kept.trans hkeep⟩

/-- **The effect of a call** on a faithful analysis is what comes of the ruling on it. -/
theorem describes_ruling (ha : a.Faithful) (caller : Frame) (call : Invocation) (point : Nat) :
    (a.ruling caller call point).Describes caller call point a (a.dispatch caller call point) := by
  have hreached : (reachedEvents caller call).filter a.settings.logs = reachedEvents caller call :=
    a.settings.filter_logs_of_forall_ne_fine fun _ he => level_ne_fine_of_mem_reachedEvents he
  cases hruling : a.ruling caller call point with
  | refused e =>
    have hprocessed : [Event.processed call].filter a.settings.logs = [.processed call] :=
      a.settings.filter_logs_of_forall_ne_fine fun _ he => by
        rw [List.mem_singleton.mp he]
        exact Level.info_ne_fine
    rw [dispatch_of_refused hruling]
    refine ⟨rfl, rfl, ?_, ?_⟩
    · rw [Ruling.trace, hprocessed]
      exact EventLog.toList_record a.log (.processed call)
    · rw [Ruling.asked, Settings.keeps_nil, Set.union_empty]
      rfl
  | returns store =>
    rw [dispatch_of_returns hruling]
    refine ⟨rfl, rfl, ?_, ?_⟩
    · rw [toList_log_recordAll, Ruling.trace, hreached]
    · rw [Ruling.asked, Settings.keeps_nil, Set.union_empty, resolver_recordAll]
  | approximated events d =>
    have hevents : events.filter a.settings.logs = events :=
      a.settings.filter_logs_of_forall_ne_fine fun _ he => level_ne_fine_of_approximated hruling he
    rw [dispatch_of_approximated hruling]
    refine ⟨?_, ?_, ?_, ?_⟩
    · rw [fst_judge_eq ha]
      rfl
    · rw [fst_judge_eq ha]
      rfl
    · rw [toList_log_recordAll, Ruling.trace, fst_judge_eq ha, judgedEvents_eq_filter,
        List.filter_append, List.filter_append, hreached, hevents]
      rfl
    · rw [resolver_recordAll]
      exact cached_judge ha caller call point

end Analysis

end CallEffects
