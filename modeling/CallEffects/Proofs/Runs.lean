import CallEffects.Activation
import CallEffects.Proofs.Dispatching

/-!
# Runs of calls on one frame

What any number of calls, at points in any order, can do to the frame that they are dispatched on.
Every entry of every history either is what it was or was lost, and it was lost exactly when some
call at its point reported so. Entries are never removed, so a value that can still be read is the
one that could be read before.

None of this depends on what the resolver answers: the statements hold of every analysis, and a run
goes on after a call that is refused.

## Main definitions

* `Effect.invalidated` — the registers that a call reports as lost
* `Run`, `Analysis.dispatchEach` — calls dispatched in turn, and what came of them

## Main results

* `Analysis.dispatch_changes` — what one call does to the entries of all histories
* `Analysis.dispatchEach_changes` — what a run does to them
* `History.read?_eq_or_lost` — what can be read is what could be read before, or was lost
* `History.read?_of_isKnown` — losing entries does not bring up other values
* `Analysis.dispatchEach_neither_invents_nor_loses` — the two together
-/

namespace CallEffects

/-! ### One call -/

/-- The registers that a call reports as lost: none if it was refused. -/
def Effect.invalidated (e : Effect) : List UInt16 :=
  match e.outcome with
  | .ok o => o.invalidated
  | .error _ => []

namespace Analysis

/-- One call. The entries at its point of the registers that it reports are lost, and every other
entry is as it was. -/
theorem dispatch_changes (a : Analysis) (caller : Frame) (call : Invocation) (point : Nat) :
    caller.Outline (a.dispatch caller call point).caller ∧
      (∀ r ∈ (a.dispatch caller call point).invalidated, ∃ type,
        ((a.dispatch caller call point).caller.history r).at? point = some (.invalidated type)) ∧
      ∀ r p, p ≠ point ∨ r ∉ (a.dispatch caller call point).invalidated →
        ((a.dispatch caller call point).caller.history r).at? p = (caller.history r).at? p := by
  cases hruling : a.ruling caller call point with
  | refused e =>
    rw [dispatch_of_refused hruling]
    exact ⟨.refl caller, fun r hr => absurd hr List.not_mem_nil, fun r p _ => rfl⟩
  | returns store =>
    rw [dispatch_of_returns hruling]
    refine ⟨caller.outline_receive _, fun r hr => absurd hr List.not_mem_nil, fun r p _ => ?_⟩
    rw [Frame.history_receive]
  | approximated events d =>
    obtain ⟨hin, -⟩ := exists_callee hruling nofun
    have hcovers := (a.covers_judge point hin).of_outline
      (caller.outline_receive (call.delivers .callResult))
    rw [dispatch_of_approximated hruling]
    refine ⟨(caller.outline_receive _).trans (Frame.outline_invalidate _ point _).1,
      fun r hr => ?_, fun r p h => ?_⟩
    · obtain ⟨j, -, -, -, hat⟩ :=
        Frame.at?_invalidate_of_lost hcovers point hr
      exact ⟨j.type, hat⟩
    · rw [Frame.at?_invalidate_of_kept hcovers h, Frame.history_receive]

end Analysis

/-! ### Runs -/

/-- Calls that were dispatched in turn on one frame, and what came of them. -/
structure Run where
  /-- The calls, each with its outcome. -/
  reports : List (CallSite × Except Error Outcome)
  /-- The frame after the last of them. -/
  frame : Frame
  /-- The analysis after the last of them. -/
  analysis : Analysis

/-- Some call at the point reported the register as lost. -/
def Run.Reports (run : Run) (r : UInt16) (p : Nat) : Prop :=
  ∃ site o, (site, Except.ok o) ∈ run.reports ∧ site.point = p ∧ r ∈ o.invalidated

namespace Analysis

/-- Dispatch calls in turn on one frame. The run goes on after a call that is refused. -/
def dispatchEach (a : Analysis) (frame : Frame) : List CallSite → Run
  | [] => ⟨[], frame, a⟩
  | site :: sites =>
    let step := a.dispatch frame site.call site.point
    let rest := step.analysis.dispatchEach step.caller sites
    { rest with reports := (site, step.outcome) :: rest.reports }

/-- Every call is in the reports. -/
theorem map_fst_reports (a : Analysis) (frame : Frame) (sites : List CallSite) :
    (a.dispatchEach frame sites).reports.map (·.1) = sites := by
  induction sites generalizing a frame with
  | nil => rfl
  | cons site sites ih => rw [dispatchEach, List.map_cons, ih]

/-- A run in two parts. -/
theorem dispatchEach_append (a : Analysis) (frame : Frame) (earlier later : List CallSite) :
    a.dispatchEach frame (earlier ++ later) =
      let first := a.dispatchEach frame earlier
      let rest := first.analysis.dispatchEach first.frame later
      { rest with reports := first.reports ++ rest.reports } := by
  induction earlier generalizing a frame with
  | nil => rfl
  | cons site earlier ih =>
    rw [List.cons_append, dispatchEach, ih]
    rfl

/-- What is reported of a call is what comes of it after the calls before it. -/
theorem getElem?_reports (a : Analysis) (frame : Frame) (earlier later : List CallSite)
    (site : CallSite) :
    (a.dispatchEach frame (earlier ++ site :: later)).reports[earlier.length]? =
      some (site, ((a.dispatchEach frame earlier).analysis.dispatch
        (a.dispatchEach frame earlier).frame site.call site.point).outcome) := by
  have hlen : (a.dispatchEach frame earlier).reports.length = earlier.length := by
    rw [← List.length_map, map_fst_reports]
  rw [dispatchEach_append, ← hlen]
  exact List.getElem?_append_right (Nat.le_refl _) |>.trans (by rw [Nat.sub_self]; rfl)

/-- No run changes the handlers. -/
theorem registry_dispatchEach (a : Analysis) (frame : Frame) (sites : List CallSite) :
    (a.dispatchEach frame sites).analysis.registry = a.registry := by
  induction sites generalizing a frame with
  | nil => rfl
  | cons site sites ih =>
    rw [dispatchEach]
    exact (ih _ _).trans (a.registry_dispatch frame site.call site.point)

/-- No run changes the catalog. -/
theorem catalog_dispatchEach (a : Analysis) (frame : Frame) (sites : List CallSite) :
    (a.dispatchEach frame sites).analysis.catalog = a.catalog := by
  induction sites generalizing a frame with
  | nil => rfl
  | cons site sites ih =>
    rw [dispatchEach]
    exact (ih _ _).trans (a.catalog_dispatch frame site.call site.point)

/-- A loss is reported by the first call of a run or by a later one. -/
theorem reports_cons_iff {a : Analysis} {frame : Frame} {site : CallSite} {sites : List CallSite}
    {r : UInt16} {p : Nat} :
    (a.dispatchEach frame (site :: sites)).Reports r p ↔
      (site.point = p ∧ r ∈ (a.dispatch frame site.call site.point).invalidated) ∨
      ((a.dispatch frame site.call site.point).analysis.dispatchEach
        (a.dispatch frame site.call site.point).caller sites).Reports r p := by
  constructor
  · rintro ⟨site', o, hmem, hp, hr⟩
    rcases List.mem_cons.mp hmem with heq | hmem
    · obtain ⟨rfl, ho⟩ := Prod.mk.inj heq
      exact Or.inl ⟨hp, by rw [Effect.invalidated, ← ho]; exact hr⟩
    · exact Or.inr ⟨site', o, hmem, hp, hr⟩
  · rintro (⟨hp, hr⟩ | ⟨site', o, hmem, hp, hr⟩)
    · rw [Effect.invalidated] at hr
      split at hr
      · rename_i o ho
        exact ⟨site, o, ho ▸ List.mem_cons_self, hp, hr⟩
      · exact absurd hr List.not_mem_nil
    · exact ⟨site', o, List.mem_cons_of_mem _ hmem, hp, hr⟩

/-- A run. The entries that some call reports are lost, and every other entry is as it was before
the first call. -/
theorem dispatchEach_changes (a : Analysis) (frame : Frame) (sites : List CallSite) :
    frame.Outline (a.dispatchEach frame sites).frame ∧
      (∀ r p, (a.dispatchEach frame sites).Reports r p → ∃ type,
        ((a.dispatchEach frame sites).frame.history r).at? p = some (.invalidated type)) ∧
      ∀ r p, ¬ (a.dispatchEach frame sites).Reports r p →
        ((a.dispatchEach frame sites).frame.history r).at? p = (frame.history r).at? p := by
  induction sites generalizing a frame with
  | nil =>
    refine ⟨.refl frame, fun r p h => ?_, fun r p _ => rfl⟩
    obtain ⟨site, o, hmem, -⟩ := h
    exact absurd hmem List.not_mem_nil
  | cons site sites ih =>
    obtain ⟨houtline, hlost, hkept⟩ := a.dispatch_changes frame site.call site.point
    obtain ⟨houtline', hlost', hkept'⟩ :=
      ih (a.dispatch frame site.call site.point).analysis
        (a.dispatch frame site.call site.point).caller
    refine ⟨houtline.trans houtline', fun r p h => ?_, fun r p h => ?_⟩
    · -- The last call that reports an entry decides what is there.
      by_cases hlater : ((a.dispatch frame site.call site.point).analysis.dispatchEach
          (a.dispatch frame site.call site.point).caller sites).Reports r p
      · exact hlost' r p hlater
      · obtain ⟨rfl, hr⟩ := (reports_cons_iff.mp h).resolve_right hlater
        obtain ⟨type, htype⟩ := hlost r hr
        exact ⟨type, (hkept' r _ hlater).trans htype⟩
    · rw [reports_cons_iff, not_or, not_and_or] at h
      exact (hkept' r p h.2).trans (hkept r p (h.1.imp_left Ne.symm))

end Analysis

/-! ### What can still be read -/

/-- Where every entry is what it was or was lost, so is everything that can be read. `Lost` may hold
more about the types that are left in the lost entries. -/
theorem History.read?_eq_or_lost {before after : History} {Lost : TypeDescriptor → Prop}
    (h : ∀ p, after.at? p = before.at? p ∨
      ∃ type, Lost type ∧ after.at? p = some (.invalidated type)) (q : Nat) :
    after.read? q = before.read? q ∨
      ∃ type, Lost type ∧ after.read? q = some (.invalidated type) := by
  -- Entries are never removed, so what is absent afterwards was absent before.
  have habsent : ∀ p, after.at? p = none → before.at? p = none := by
    intro p hp
    rcases h p with heq | ⟨type, -, htype⟩
    · exact heq.symm.trans hp
    · exact absurd (hp.symm.trans htype) (Option.some_ne_none _).symm
  cases hread : after.read? q with
  | none =>
    have hnone := read?_eq_none_iff.mp hread
    exact Or.inl (read?_eq_none_iff.mpr fun p hp => habsent p (hnone p hp)).symm
  | some s =>
    obtain ⟨p, hpq, hp, hlater⟩ := read?_eq_some_iff.mp hread
    rcases h p with heq | ⟨type, hlost, htype⟩
    · refine Or.inl (read?_eq_some_iff.mpr ⟨p, hpq, heq.symm.trans hp, ?_⟩).symm
      exact fun p' hlt hle => habsent p' (hlater p' hlt hle)
    · exact Or.inr ⟨type, hlost, hp.symm.trans htype⟩

/-- Losing entries does not bring up other values: what can be read and is known was there
before. -/
theorem History.read?_of_isKnown {before after : History}
    (h : ∀ p, after.at? p = before.at? p ∨ ∃ type, after.at? p = some (.invalidated type))
    {q : Nat} {s : Store} (hread : after.read? q = some s) (hs : s.value.isKnown = true) :
    before.read? q = some s := by
  have hentries : ∀ p, after.at? p = before.at? p ∨
      ∃ type, True ∧ after.at? p = some (.invalidated type) :=
    fun p => (h p).imp_right fun ⟨type, htype⟩ => ⟨type, trivial, htype⟩
  rcases read?_eq_or_lost hentries q with heq | ⟨type, -, htype⟩
  · exact heq.symm.trans hread
  · obtain rfl := Option.some.inj (hread.symm.trans htype)
    exact absurd hs Bool.false_ne_true

namespace Analysis

/-- **Dispatching neither invents values nor loses them silently.** Whatever calls are dispatched
on a frame, the frame keeps its outline; an entry of a history is lost exactly when a call at its
point reported it, and is otherwise what it was, present or absent; and a value that is known
afterwards is the one that was known before. -/
theorem dispatchEach_neither_invents_nor_loses (a : Analysis) (frame : Frame)
    (sites : List CallSite) :
    let run := a.dispatchEach frame sites
    run.frame.registerCount = frame.registerCount ∧
      run.frame.parameterSize = frame.parameterSize ∧
      run.frame.depth = frame.depth ∧
      run.frame.returned = frame.returned ∧
      run.reports.map (·.1) = sites ∧
      (∀ r p, run.Reports r p →
        ∃ type, (run.frame.history r).at? p = some ⟨type, .unknown .invalidated⟩) ∧
      (∀ r p, ¬ run.Reports r p → (run.frame.history r).at? p = (frame.history r).at? p) ∧
      ∀ r q, (run.frame.value r q).isKnown = true → run.frame.value r q = frame.value r q := by
  intro run
  obtain ⟨houtline, hlost, hkept⟩ := a.dispatchEach_changes frame sites
  refine ⟨houtline.registerCount, houtline.parameterSize, houtline.depth, houtline.returned,
    a.map_fst_reports frame sites, hlost, hkept, fun r q hknown => ?_⟩
  have hentries : ∀ p, (run.frame.history r).at? p = (frame.history r).at? p ∨
      ∃ type, (run.frame.history r).at? p = some (.invalidated type) := fun p =>
    (Classical.em (run.Reports r p)).symm.imp (hkept r p) (hlost r p)
  cases hread : run.frame.read? r q with
  | none =>
    rw [Frame.value, hread] at hknown
    exact absurd hknown (by decide)
  | some s =>
    rw [Frame.value, hread] at hknown
    have hbefore : frame.read? r q = some s := History.read?_of_isKnown hentries hread hknown
    rw [Frame.value, Frame.value, hread, hbefore]

end Analysis

end CallEffects
