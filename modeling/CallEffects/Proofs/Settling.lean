import CallEffects.Effect
import CallEffects.Proofs.Judging

/-!
# Carrying out judgements

`Analysis.settle` does three things at once: it sorts the registers into the two lists of the
outcome, writes those that lose their values, and logs. It also may stop at a write that is
refused. When every register is one of the caller's no write is, and the three come apart: the
outcome is two filters, the log grows by one event for each register, and the frame is
`Frame.invalidate`, which knows nothing of the analysis.

## Main definitions

* `Analysis.recordAll` — several events, in order
* `Analysis.judgedEvents` — what is logged about argument registers
* `Frame.Outline` — two frames agree except in what their registers hold
* `lossIn` — what is left of a register that was judged
* `Frame.invalidate` — the frame after registers have lost their values

## Main results

* `Analysis.settle_eq` — carrying out judgements inside the frame always succeeds
* `Frame.at?_invalidate` — what is where afterwards
-/

namespace CallEffects

/-! ### Logging -/

namespace Analysis

/-- The analysis with several more events in its log. -/
def recordAll (a : Analysis) (events : List Event) : Analysis := events.foldl record a

@[simp] theorem recordAll_nil (a : Analysis) : a.recordAll [] = a := rfl

@[simp] theorem recordAll_cons (a : Analysis) (e : Event) (events : List Event) :
    a.recordAll (e :: events) = (a.record e).recordAll events := rfl

theorem recordAll_append (a : Analysis) (es fs : List Event) :
    a.recordAll (es ++ fs) = (a.recordAll es).recordAll fs :=
  List.foldl_append

@[simp] theorem registry_recordAll (a : Analysis) (events : List Event) :
    (a.recordAll events).registry = a.registry := by
  induction events generalizing a with
  | nil => rfl
  | cons e events ih => exact ih (a.record e)

@[simp] theorem resolver_recordAll (a : Analysis) (events : List Event) :
    (a.recordAll events).resolver = a.resolver := by
  induction events generalizing a with
  | nil => rfl
  | cons e events ih => exact ih (a.record e)

@[simp] theorem settings_recordAll (a : Analysis) (events : List Event) :
    (a.recordAll events).settings = a.settings := by
  induction events generalizing a with
  | nil => rfl
  | cons e events ih => exact ih (a.record e)

@[simp] theorem toList_log_recordAll (a : Analysis) (events : List Event) :
    (a.recordAll events).log.toList = a.log.toList ++ events := by
  induction events generalizing a with
  | nil => rw [List.append_nil]; rfl
  | cons e events ih =>
    rw [recordAll_cons, ih, record, EventLog.toList_record, List.append_assoc,
      List.singleton_append]

/-- What is logged about argument registers: one event for each, if the analysis was told to. -/
def judgedEvents (a : Analysis) (descriptor : String) (js : List Judgement) : List Event :=
  if a.settings.logParameters then js.map (.judged descriptor) else []

end Analysis

/-! ### What is lost -/

/-- The registers that lose their values are those with a judgement against them. -/
theorem Analysis.mem_invalidated_iff {js : List Judgement} {r : UInt16} :
    r ∈ (js.filter (!·.immutable)).map (·.register) ↔
      ∃ j ∈ js, j.immutable = false ∧ j.register = r := by
  simp [and_assoc]

/-- What is left of a register once the judgements are carried out, if it lost its value. Of several
judgements against it the last one counts. -/
def lossIn : List Judgement → UInt16 → Option Store
  | [], _ => none
  | j :: js, r =>
    (lossIn js r).or
      (if j.register = r ∧ j.immutable = false then some (.invalidated j.type) else none)

theorem isSome_lossIn_iff {js : List Judgement} {r : UInt16} :
    (lossIn js r).isSome = true ↔ r ∈ (js.filter (!·.immutable)).map (·.register) := by
  rw [Analysis.mem_invalidated_iff]
  induction js with
  | nil => simp [lossIn]
  | cons j js ih =>
    rw [lossIn, Option.isSome_or, Bool.or_eq_true, ih]
    simp only [List.mem_cons, or_and_right, exists_or, exists_eq_left]
    by_cases hj : j.register = r ∧ j.immutable = false
    · simp [hj]
    · rw [if_neg hj, and_comm, or_comm]
      simp [hj]

/-- What is left has the type of a judgement that costs the register its value. -/
theorem exists_of_lossIn {js : List Judgement} {r : UInt16} {store : Store}
    (h : lossIn js r = some store) :
    ∃ j ∈ js, j.immutable = false ∧ j.register = r ∧ store = .invalidated j.type := by
  induction js with
  | nil => cases h
  | cons j js ih =>
    obtain hlater | ⟨-, hfirst⟩ := Option.or_eq_some_iff.mp h
    · obtain ⟨k, hk, hrest⟩ := ih hlater
      exact ⟨k, List.mem_cons_of_mem _ hk, hrest⟩
    · obtain ⟨⟨hreg, himm⟩, hstore⟩ := Option.ite_none_right_eq_some.mp hfirst
      exact ⟨j, List.mem_cons_self, himm, hreg, (Option.some.inj hstore).symm⟩

/-! ### Frames -/

namespace Frame

/-- Two frames agree except in what their registers and the last call hold. -/
structure Outline (f g : Frame) : Prop where
  /-- They have the same registers. -/
  size : g.registers.size = f.registers.size
  /-- The same of them are parameters. -/
  parameterSize : g.parameterSize = f.parameterSize
  /-- As many calls may be nested. -/
  depth : g.depth = f.depth
  /-- The method returned the same. -/
  returned : g.returned = f.returned

theorem Outline.refl (f : Frame) : f.Outline f := ⟨rfl, rfl, rfl, rfl⟩

theorem Outline.trans {f g h : Frame} (hfg : f.Outline g) (hgh : g.Outline h) : f.Outline h :=
  ⟨hgh.size.trans hfg.size, hgh.parameterSize.trans hfg.parameterSize, hgh.depth.trans hfg.depth,
    hgh.returned.trans hfg.returned⟩

theorem Outline.symm {f g : Frame} (h : f.Outline g) : g.Outline f :=
  ⟨h.size.symm, h.parameterSize.symm, h.depth.symm, h.returned.symm⟩

theorem Outline.registerCount {f g : Frame} (h : f.Outline g) :
    g.registerCount = f.registerCount := by
  rw [Frame.registerCount, Frame.registerCount, h.size]

theorem Outline.setResult (f : Frame) (store : Store) : f.Outline (f.setResult store) :=
  ⟨rfl, rfl, rfl, rfl⟩

/-- The frame after the registers that are judged mutable have lost their values. -/
def invalidate (f : Frame) (point : Nat) : List Judgement → Frame
  | [] => f
  | j :: js =>
    if j.immutable then f.invalidate point js
    else
      match f.write j.register (.invalidated j.type) point with
      | .error _ => f
      | .ok g => g.invalidate point js

/-- All judgements are on registers of the frame. -/
def Covers (f : Frame) (js : List Judgement) : Prop :=
  ∀ j ∈ js, j.register.toNat < f.registers.size

theorem invalidate_cons_of_immutable (f : Frame) (point : Nat) {j : Judgement}
    (js : List Judgement) (h : j.immutable = true) :
    f.invalidate point (j :: js) = f.invalidate point js := by
  rw [invalidate, if_pos h]

theorem invalidate_cons_of_mutable {f g : Frame} {point : Nat} {j : Judgement}
    (js : List Judgement) (h : j.immutable = false)
    (hwrite : f.write j.register (.invalidated j.type) point = .ok g) :
    f.invalidate point (j :: js) = g.invalidate point js := by
  rw [invalidate, if_neg (by simp [h]), hwrite]

/-- Nothing but the registers and their histories is touched. -/
theorem outline_invalidate (f : Frame) (point : Nat) (js : List Judgement) :
    f.Outline (f.invalidate point js) ∧ (f.invalidate point js).result = f.result := by
  induction js generalizing f with
  | nil => exact ⟨.refl f, rfl⟩
  | cons j js ih =>
    cases himm : j.immutable with
    | true =>
      rw [invalidate_cons_of_immutable f point js himm]
      exact ih f
    | false =>
      cases hwrite : f.write j.register (.invalidated j.type) point with
      | error e =>
        rw [invalidate, if_neg (by simp [himm]), hwrite]
        exact ⟨.refl f, rfl⟩
      | ok g =>
        obtain ⟨hsize, hparams, hdepth, hresult, hreturned⟩ := outline_write hwrite
        rw [invalidate_cons_of_mutable js himm hwrite]
        exact ⟨Outline.trans ⟨hsize, hparams, hdepth, hreturned⟩ (ih g).1,
          (ih g).2.trans hresult⟩

theorem Covers.tail {f : Frame} {j : Judgement} {js : List Judgement} (h : f.Covers (j :: js)) :
    f.Covers js :=
  fun k hk => h k (List.mem_cons_of_mem _ hk)

theorem Covers.of_outline {f g : Frame} {js : List Judgement} (h : f.Covers js)
    (hfg : f.Outline g) : g.Covers js := by
  intro k hk
  rw [hfg.size]
  exact h k hk

theorem Covers.write {f g : Frame} {js : List Judgement} (h : f.Covers js) {register : UInt16}
    {store : Store} {point : Nat} (hwrite : f.write register store point = .ok g) :
    g.Covers js := by
  obtain ⟨hsize, hparams, hdepth, -, hreturned⟩ := outline_write hwrite
  exact h.of_outline ⟨hsize, hparams, hdepth, hreturned⟩

/-- **What is where afterwards.** Every register has at the point what is left of it, or what it had
there. -/
theorem at?_invalidate {f : Frame} {js : List Judgement} (hin : f.Covers js) (point p : Nat)
    (r : UInt16) :
    ((f.invalidate point js).history r).at? p =
      if p = point then (lossIn js r).or ((f.history r).at? p) else (f.history r).at? p := by
  induction js generalizing f with
  | nil => exact (ite_self _).symm
  | cons j js ih =>
    cases himm : j.immutable with
    | true =>
      have hkept : ¬ (j.register = r ∧ j.immutable = false) := by simp [himm]
      rw [invalidate_cons_of_immutable f point js himm, ih hin.tail, lossIn, if_neg hkept,
        Option.or_none]
    | false =>
      obtain ⟨g, hwrite⟩ := f.write_eq_ok (.invalidated j.type) point (hin j List.mem_cons_self)
      rw [invalidate_cons_of_mutable js himm hwrite, ih (hin.tail.write hwrite),
        history_write hwrite, lossIn, Option.or_assoc]
      by_cases hp : p = point
      · by_cases hr : r = j.register
        · simp [hp, hr, himm]
        · simp [hp, hr, Ne.symm hr]
      · by_cases hr : r = j.register
        · simp [hp, hr]
        · simp [hp, hr]

/-- What is lost is marked so at the point of the call, under the type of a judgement that costs
the register its value. -/
theorem at?_invalidate_of_lost {f : Frame} {js : List Judgement} (hin : f.Covers js) (point : Nat)
    {r : UInt16} (hlost : r ∈ (js.filter (!·.immutable)).map (·.register)) :
    ∃ j ∈ js, j.immutable = false ∧ j.register = r ∧
      ((f.invalidate point js).history r).at? point = some (.invalidated j.type) := by
  obtain ⟨store, hstore⟩ := Option.isSome_iff_exists.mp (isSome_lossIn_iff.mpr hlost)
  obtain ⟨j, hj, himm, hreg, rfl⟩ := exists_of_lossIn hstore
  refine ⟨j, hj, himm, hreg, ?_⟩
  rw [at?_invalidate hin, if_pos rfl, hstore, Option.some_or]

/-- What is not lost stays: every store at another point, and every store of a register that is not
reported as lost. -/
theorem at?_invalidate_of_kept {f : Frame} {js : List Judgement} (hin : f.Covers js) {point p : Nat}
    {r : UInt16} (h : p ≠ point ∨ r ∉ (js.filter (!·.immutable)).map (·.register)) :
    ((f.invalidate point js).history r).at? p = (f.history r).at? p := by
  rw [at?_invalidate hin]
  by_cases hp : p = point
  · have hnone : lossIn js r = none := by
      rw [← Option.not_isSome_iff_eq_none, isSome_lossIn_iff]
      exact h.resolve_left (not_not_intro hp)
    rw [if_pos hp, hnone, Option.none_or]
  · rw [if_neg hp]

end Frame

/-! ### Settling -/

namespace Analysis

theorem recordAll_judgedEvents_cons (a : Analysis) (descriptor : String) (j : Judgement)
    (js : List Judgement) :
    (a.recordJudged descriptor j).recordAll ((a.recordJudged descriptor j).judgedEvents descriptor js) =
      a.recordAll (a.judgedEvents descriptor (j :: js)) := by
  cases hlog : a.settings.logParameters <;> simp [recordJudged, judgedEvents, record, hlog]

/-- **Carrying out judgements** on registers of the caller. -/
theorem settle_eq {descriptor : String} {point : Nat} {js : List Judgement} (a : Analysis)
    {caller : Frame} (outcome : Outcome) (hin : caller.Covers js) :
    settle descriptor point a caller outcome js =
      ⟨.ok { outcome with
              retained := outcome.retained ++ (js.filter (·.immutable)).map (·.register)
              invalidated := outcome.invalidated ++ (js.filter (!·.immutable)).map (·.register) },
        caller.invalidate point js, a.recordAll (a.judgedEvents descriptor js)⟩ := by
  induction js generalizing a caller outcome with
  | nil => cases hlog : a.settings.logParameters <;> simp [settle, Frame.invalidate, judgedEvents]
  | cons j js ih =>
    cases himm : j.immutable with
    | true =>
      rw [settle, if_pos himm, ih _ _ hin.tail,
        caller.invalidate_cons_of_immutable point js himm, recordAll_judgedEvents_cons]
      simp [himm]
    | false =>
      obtain ⟨g, hwrite⟩ := caller.write_eq_ok (.invalidated j.type) point
        (hin j List.mem_cons_self)
      rw [settle, if_neg (by simp [himm]), hwrite, Frame.invalidate_cons_of_mutable js himm hwrite]
      simp only
      rw [ih _ _ (hin.tail.write hwrite), recordAll_judgedEvents_cons]
      simp [himm]

end Analysis

end CallEffects
