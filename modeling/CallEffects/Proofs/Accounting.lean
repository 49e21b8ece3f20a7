import CallEffects.Proofs.Dispositions
import CallEffects.Proofs.Upshots
import Mathlib.Data.List.Nodup

/-!
# The log accounts for the outcome

What a call adds to the log depends on everything that a call depends on. Apart from the words, it
can be read off the outcome: one event that the call was reached, at most one warning why it is not
emulated, and, if the analysis was told to, one event for each argument register that says which of
the two lists of the outcome the register is in. So the lists can be read back from the log.

A register that is passed several times is reported once, and its judgement may be revised between
its first use and the last. It is reported as it is judged in the end, at the place of its first
use. Nothing is assumed of what the resolver answers, so the account is exact even for an analysis
that has kept wrong verdicts.

## Main definitions

* `Event.gist` — an event without its words
* `Analysis.handlerFails` — the handler of a call is asked and fails
* `Analysis.account` — what is to be logged about a call with a given outcome
* `Analysis.Accounts` — some events are an exact account of an outcome

## Main results

* `map_register_judgeSlots` — registers are judged in the order of their first use
* `Analysis.gist_warnings` — why a call is not emulated
* `Analysis.dispatch_accounts` — what a call adds to the log
-/

namespace CallEffects

/-- An event without its words. -/
structure Gist where
  /-- How much it matters. -/
  level : Level
  /-- What it is about. -/
  kind : EventKind
  /-- The descriptor of the method that it concerns. -/
  method : Option String
  /-- The register that it concerns. -/
  register : Option UInt16
deriving DecidableEq

/-- The event without its words. -/
def Event.gist (e : Event) : Gist := ⟨e.level, e.kind, e.method, e.register⟩

/-! ### The order of judgements -/

theorem map_register_noteUse (j : Judgement) (js : List Judgement) :
    (noteUse j js).map (·.register) =
      if j.register ∈ js.map (·.register) then js.map (·.register)
      else js.map (·.register) ++ [j.register] := by
  induction js with
  | nil => rfl
  | cons k ks ih =>
    rw [noteUse]
    by_cases hk : k.register = j.register
    · rw [if_pos hk]
      split <;> simp [hk]
    · rw [if_neg hk, List.map_cons, ih, List.map_cons]
      by_cases hmem : j.register ∈ ks.map (·.register)
      · rw [if_pos hmem, if_pos (List.mem_cons_of_mem _ hmem)]
      · rw [if_neg hmem, if_neg (by simpa [Ne.symm hk] using hmem), List.cons_append]

/-- **Registers are judged in the order of their first use**, each once, whatever the resolver
answers. The slots that are still to come are judged on top of those that are done. -/
theorem map_register_judgeSlots (resolver : Resolver) {judged : List Judgement}
    (done : List UInt16) (h : judged.map (·.register) = done.eraseDups)
    (slots : List (UInt16 × TypeDescriptor)) :
    (judgeSlots resolver judged slots).1.map (·.register) =
      (done ++ slots.map (·.1)).eraseDups := by
  induction slots generalizing resolver judged done with
  | nil => rw [List.map_nil, List.append_nil]; exact h
  | cons slot slots ih =>
    obtain ⟨register, type⟩ := slot
    rw [judgeSlots_cons, List.map_cons, List.append_cons]
    refine ih _ _ ?_
    rw [map_register_noteUse, h, eraseDups_concat]
    simp only [List.mem_eraseDups]

/-- Where every register is judged once, its own judgement decides whether it is among some. -/
theorem register_mem_filter_iff {js : List Judgement} (hnodup : (js.map (·.register)).Nodup)
    (p : Judgement → Bool) {j : Judgement} (hj : j ∈ js) :
    j.register ∈ (js.filter p).map (·.register) ↔ p j = true := by
  constructor
  · intro hmem
    obtain ⟨k, hk, hreg⟩ := List.mem_map.mp hmem
    obtain ⟨hk, hp⟩ := List.mem_filter.mp hk
    rwa [← List.inj_on_of_nodup_map hnodup hk hj hreg]
  · exact fun hp => List.mem_map_of_mem (List.mem_filter.mpr ⟨hj, hp⟩)

namespace Event

theorem gist_judged (descriptor : String) (j : Judgement) :
    (judged descriptor j).gist =
      ⟨.fine, if j.immutable then .parameterRetained else .parameterInvalidated, some descriptor,
        some j.register⟩ := by
  rw [judged]
  cases j.immutable <;> rfl

/-- The registers that are reported as lost, or as kept, are those that are judged so. -/
theorem filterMap_register_judged (descriptor : String) (js : List Judgement) :
    ((js.map (judged descriptor)).filter fun e =>
        e.level = .fine ∧ e.kind = .parameterInvalidated).filterMap (·.register) =
        (js.filter (!·.immutable)).map (·.register) ∧
      ((js.map (judged descriptor)).filter fun e =>
        e.level = .fine ∧ e.kind = .parameterRetained).filterMap (·.register) =
        (js.filter (·.immutable)).map (·.register) := by
  induction js with
  | nil => exact ⟨rfl, rfl⟩
  | cons j js ih =>
    cases himm : j.immutable with
    | true => simpa [judged, himm] using ih
    | false => simpa [judged, himm] using ih

end Event

namespace Analysis

/-! ### The account -/

/-- The handler of a call is asked and fails. -/
def handlerFails (a : Analysis) (caller : Frame) (call : Invocation) (point : Nat) : Bool :=
  caller.depth ≠ 0 &&
    match a.answer? caller call point with
    | some (.error _) => true
    | _ => false

/-- The warnings about a call that is dealt with in the given way. -/
def warningsOn (a : Analysis) (caller : Frame) (call : Invocation) (point : Nat) (d : Disposition) :
    List Gist :=
  (if caller.depth = 0 then
      [⟨.warn, .depthExhausted, some call.method.descriptor, none⟩] else []) ++
    (if a.handlerFails caller call point then
      [⟨.warn, .emulationFailed, some call.method.descriptor, none⟩] else []) ++
    (if d = .deferredKnown then
      [⟨.warn, .deferredKnown, some call.method.descriptor, none⟩] else [])

/-- The detail about a call with the given outcome: for each argument register in the order of first
use which of the two lists it is in, if the call is not emulated and the analysis was told to. -/
def detailsOn (a : Analysis) (call : Invocation) (o : Outcome) : List Gist :=
  if o.disposition ≠ .emulated ∧ a.settings.logParameters = true then
    call.registers.eraseDups.map fun r =>
      ⟨.fine, if r ∈ o.invalidated then .parameterInvalidated else .parameterRetained,
        some call.method.descriptor, some r⟩
  else []

/-- What is to be logged about a call with the given outcome. -/
def account (a : Analysis) (caller : Frame) (call : Invocation) (point : Nat) :
    Except Error Outcome → List Gist
  | .error _ => [⟨.info, .invokeProcessed, some call.method.descriptor, none⟩]
  | .ok o =>
    ⟨.info, .invokeProcessed, some call.method.descriptor, none⟩ ::
      (a.warningsOn caller call point o.disposition ++ a.detailsOn call o)

/-- Some events are an exact account of the outcome of a call. -/
structure Accounts (a : Analysis) (caller : Frame) (call : Invocation) (point : Nat)
    (outcome : Except Error Outcome) (events : List Event) : Prop where
  /-- They are what is to be logged, in this order. -/
  gists : events.map (·.gist) = a.account caller call point outcome
  /-- There is one warning at most. -/
  warnings : (events.filter (·.level = .warn)).length ≤ 1
  /-- Every event carries the descriptor of the method. -/
  method : ∀ e ∈ events, e.method = some call.method.descriptor
  /-- The events that carry a register are the detail. -/
  register : ∀ e ∈ events, e.register.isSome = true ↔ e.level = .fine
  /-- An argument register of a call that is not emulated is in one of the two lists of the outcome
  and not in the other. -/
  either : ∀ o, outcome = .ok o → o.disposition ≠ .emulated → ∀ r ∈ call.registers,
    (r ∈ o.invalidated ↔ r ∉ o.retained)
  /-- The two lists can be read back from the detail, if there is any. -/
  readBack : ∀ o, outcome = .ok o → a.settings.logParameters = true →
    (events.filter fun e => e.level = .fine ∧ e.kind = .parameterInvalidated).filterMap
        (·.register) = o.invalidated ∧
      (events.filter fun e => e.level = .fine ∧ e.kind = .parameterRetained).filterMap
        (·.register) = o.retained

variable {a : Analysis} {caller : Frame} {call : Invocation} {point : Nat}

/-- Every event on the account carries the method, and the detail alone a register. -/
theorem of_mem_account {outcome : Except Error Outcome} {g : Gist}
    (hg : g ∈ a.account caller call point outcome) :
    g.method = some call.method.descriptor ∧ (g.register.isSome = true ↔ g.level = .fine) := by
  cases outcome with
  | error e =>
    obtain rfl := List.mem_singleton.mp hg
    simp
  | ok o =>
    simp only [account, warningsOn, detailsOn, List.mem_cons, List.mem_append,
      List.mem_ite_nil_right, List.not_mem_nil, or_false, List.mem_map] at hg
    obtain rfl | ((⟨-, rfl⟩ | ⟨-, rfl⟩) | ⟨-, rfl⟩) | ⟨-, r, -, rfl⟩ := hg <;> simp

/-- Registers of a call are judged in the order of their first use. -/
theorem map_register_judge (a : Analysis) (caller : Frame) (call : Invocation) (point : Nat) :
    (a.judge caller call point).1.map (·.register) = call.registers.eraseDups := by
  rw [judge, map_register_judgeSlots a.resolver [] rfl, List.nil_append, Frame.map_fst_slots]

/-- **Why a call is not emulated.** The events about the call as a whole are the warnings on the
account, and there is one at most. -/
theorem gist_warnings {events : List Event} {d : Disposition}
    (h : a.ruling caller call point = .approximated events d) :
    ∃ warnings : List Event,
      reachedEvents caller call ++ events = .processed call :: warnings ∧ warnings.length ≤ 1 ∧
        warnings.map (·.gist) = a.warningsOn caller call point d := by
  obtain ⟨hin, -⟩ := exists_callee h nofun
  rw [ruling_eq a point hin] at h
  by_cases hdepth : caller.depth = 0
  · rw [if_pos hdepth] at h
    obtain ⟨rfl, rfl⟩ := Ruling.approximated.inj h
    refine ⟨[.exhausted call.method.descriptor], ?_, Nat.le_refl 1, ?_⟩
    · simp [reachedEvents, hdepth]
    · simp [warningsOn, handlerFails, hdepth, Event.gist, Event.exhausted]
  · have hreached : reachedEvents caller call ++ events = .processed call :: events := by
      rw [reachedEvents, if_neg hdepth, List.singleton_append]
    rw [if_neg hdepth] at h
    refine ⟨events, hreached, ?_⟩
    cases hanswer : a.answer? caller call point with
    | some answer =>
      rw [hanswer] at h
      cases answer with
      | ok store => cases h
      | error e =>
        obtain ⟨rfl, rfl⟩ := Ruling.approximated.inj h
        refine ⟨Nat.le_refl 1, ?_⟩
        simp [warningsOn, handlerFails, hdepth, hanswer, Event.gist, Event.failed]
    | none =>
      rw [hanswer] at h
      cases hdeclared : a.catalog.containsMethod call.method.descriptor with
      | true =>
        simp only [hdeclared, if_true] at h
        obtain ⟨rfl, rfl⟩ := Ruling.approximated.inj h
        refine ⟨Nat.le_refl 1, ?_⟩
        simp [warningsOn, handlerFails, hdepth, hanswer, Event.gist, Event.deferred]
      | false =>
        simp only [hdeclared, Bool.false_eq_true, if_false] at h
        obtain ⟨rfl, rfl⟩ := Ruling.approximated.inj h
        refine ⟨Nat.zero_le 1, ?_⟩
        simp [warningsOn, handlerFails, hdepth, hanswer]

/-- A call that returned is logged without a warning. -/
theorem reachedEvents_of_returns {store : Store} (h : a.ruling caller call point = .returns store) :
    reachedEvents caller call = [.processed call] ∧
      a.warningsOn caller call point .emulated = [] := by
  obtain ⟨hin, -⟩ := exists_callee h nofun
  rw [ruling_eq a point hin] at h
  by_cases hdepth : caller.depth = 0
  · rw [if_pos hdepth] at h
    cases h
  · rw [if_neg hdepth] at h
    refine ⟨by rw [reachedEvents, if_neg hdepth], ?_⟩
    cases hanswer : a.answer? caller call point with
    | none =>
      rw [hanswer] at h
      cases hdeclared : a.catalog.containsMethod call.method.descriptor <;> simp [hdeclared] at h
    | some answer =>
      rw [hanswer] at h
      cases answer with
      | ok store => simp [warningsOn, handlerFails, hdepth, hanswer]
      | error e => cases h

/-- The events about argument registers are the detail on the account. -/
theorem map_gist_judgedEvents (a : Analysis) (call : Invocation) {js : List Judgement} {o : Outcome}
    (hregs : js.map (·.register) = call.registers.eraseDups)
    (hlost : o.invalidated = (js.filter (!·.immutable)).map (·.register))
    (hd : o.disposition ≠ .emulated) :
    (a.judgedEvents call.method.descriptor js).map (·.gist) = a.detailsOn call o := by
  have hnodup : (js.map (·.register)).Nodup := hregs ▸ nodup_eraseDups _
  rw [judgedEvents, detailsOn, ← hregs]
  by_cases hlog : a.settings.logParameters = true
  · rw [if_pos hlog, if_pos ⟨hd, hlog⟩, List.map_map, List.map_map]
    refine List.map_congr_left fun j hj => ?_
    rw [Function.comp_apply, Function.comp_apply, Event.gist_judged, hlost]
    have hmem := register_mem_filter_iff hnodup (!·.immutable) hj
    cases himm : j.immutable <;> simp [hmem, himm]
  · rw [if_neg hlog, if_neg fun h => hlog h.2, List.map_nil]

/-- Events that are no detail say nothing about registers. -/
theorem filter_fine_of_forall_ne {events : List Event} (h : ∀ e ∈ events, e.level ≠ .fine)
    (kind : EventKind) : (events.filter fun e => e.level = .fine ∧ e.kind = kind) = [] := by
  refine List.filter_eq_nil_iff.mpr fun e he => ?_
  simp [h e he]

/-- The events about argument registers are no warnings. -/
theorem filter_warn_judgedEvents (a : Analysis) (descriptor : String) (js : List Judgement) :
    ((a.judgedEvents descriptor js).filter fun e => e.level = .warn) = [] := by
  rw [judgedEvents]
  split
  · refine List.filter_eq_nil_iff.mpr fun e he => ?_
    obtain ⟨j, -, rfl⟩ := List.mem_map.mp he
    simp [Event.level_judged]
  · rfl

/-- A call whose judgements make up its outcome is accounted for by the warnings and the events
about argument registers. -/
theorem accounts_of_judgements {o : Outcome} {js : List Judgement} {warnings : List Event}
    (hregs : js.map (·.register) = call.registers.eraseDups)
    (hlost : o.invalidated = (js.filter (!·.immutable)).map (·.register))
    (hkept : o.retained = (js.filter (·.immutable)).map (·.register))
    (hd : o.disposition ≠ .emulated) (hlength : warnings.length ≤ 1)
    (hcoarse : ∀ e ∈ Event.processed call :: warnings, e.level ≠ .fine)
    (hwarnings : warnings.map (·.gist) = a.warningsOn caller call point o.disposition) :
    a.Accounts caller call point (.ok o)
      (.processed call :: warnings ++ a.judgedEvents call.method.descriptor js) := by
  have hgists : (Event.processed call :: warnings ++
      a.judgedEvents call.method.descriptor js).map (·.gist) =
        a.account caller call point (.ok o) := by
    rw [List.map_append, List.map_cons, hwarnings, map_gist_judgedEvents a call hregs hlost hd]
    rfl
  have hmem : ∀ e ∈ Event.processed call :: warnings ++
      a.judgedEvents call.method.descriptor js, e.gist ∈ a.account caller call point (.ok o) := by
    intro e he
    rw [← hgists]
    exact List.mem_map_of_mem he
  constructor
  case gists => exact hgists
  case warnings =>
    rw [List.filter_append, filter_warn_judgedEvents, List.append_nil,
      List.filter_cons_of_neg (by simp [Event.processed])]
    exact Nat.le_trans (List.length_filter_le _ _) hlength
  case method => exact fun e he => (of_mem_account (hmem e he)).1
  case register => exact fun e he => (of_mem_account (hmem e he)).2
  case either =>
    rintro o' ho - r hr
    obtain rfl := Except.ok.inj ho
    have hnodup : (js.map (·.register)).Nodup := hregs ▸ nodup_eraseDups _
    rw [← List.mem_eraseDups, ← hregs] at hr
    obtain ⟨j, hj, rfl⟩ := List.mem_map.mp hr
    rw [hlost, hkept, register_mem_filter_iff hnodup _ hj, register_mem_filter_iff hnodup _ hj]
    cases j.immutable <;> simp
  case readBack =>
    intro o' ho hlog
    obtain rfl := Except.ok.inj ho
    obtain ⟨hlost', hkept'⟩ := Event.filterMap_register_judged call.method.descriptor js
    rw [List.filter_append, filter_fine_of_forall_ne hcoarse, List.nil_append, List.filter_append,
      filter_fine_of_forall_ne hcoarse, List.nil_append, judgedEvents, if_pos hlog, hlost, hkept]
    exact ⟨hlost', hkept'⟩

/-- **The log accounts for the outcome.** A call keeps what the log has and adds an exact account of
its outcome. -/
theorem dispatch_accounts (a : Analysis) (caller : Frame) (call : Invocation) (point : Nat) :
    ∃ events,
      (a.dispatch caller call point).analysis.log.toList = a.log.toList ++ events ∧
        a.Accounts caller call point (a.dispatch caller call point).outcome events := by
  refine ⟨_, a.toList_log_dispatch caller call point, ?_⟩
  rw [loggedEvents]
  cases hruling : a.ruling caller call point with
  | refused e =>
    rw [dispatch_of_refused hruling]
    constructor
    case gists => rfl
    case warnings => simp [Event.processed]
    case method | register => simp [Event.processed]
    case either | readBack =>
      intro o ho
      cases ho
  | returns store =>
    obtain ⟨hreached, hwarnings⟩ := reachedEvents_of_returns hruling
    rw [dispatch_of_returns hruling, hreached]
    constructor
    case gists =>
      rw [account, hwarnings]
      rfl
    case warnings => simp [Event.processed]
    case method | register => simp [Event.processed]
    case either =>
      rintro o ho hd
      obtain rfl := Except.ok.inj ho
      exact absurd rfl hd
    case readBack =>
      rintro o ho -
      obtain rfl := Except.ok.inj ho
      simp [Event.processed]
  | approximated events d =>
    obtain ⟨warnings, hreached, hlength, hwarnings⟩ := gist_warnings hruling
    have hcoarse : ∀ e ∈ Event.processed call :: warnings, e.level ≠ .fine := by
      intro e he
      rw [← hreached, List.mem_append] at he
      exact he.elim level_ne_fine_of_mem_reachedEvents (level_ne_fine_of_approximated hruling)
    rw [dispatch_of_approximated hruling]
    simp only [hreached]
    exact accounts_of_judgements (a.map_register_judge caller call point) rfl rfl
      (ne_emulated_of_approximated hruling) hlength hcoarse hwarnings

end Analysis

end CallEffects
