import CallEffects.Proofs.Locality
import CallEffects.Proofs.Lockstep
import CallEffects.Proofs.Schedules

/-!
# Calls that have no register in common

A call reads and writes its own registers. So calls that have no register in common do not get in
each other's way, and it should not matter in which order they are dispatched.

The proof does not swap neighbours. It says what a run of such calls comes to in a form in which the
order has no part: every call comes to what it would come to alone, at the start of the run
(`Analysis.alone`), and the run puts these effects together (`Analysis.Assembles`). A call finds its
registers as they were at the start, since the calls before it had no business there. It finds other
verdicts kept and other events logged, which does not show, and possibly another result of the last
call, which it does not look at.

That result is the one thing in which the order counts.

## Main definitions

* `CallSite.Apart` — two calls have no register in common
* `Analysis.alone` — what a call comes to if nothing was done before
* `Analysis.Assembles` — a run comes to what its calls come to alone

## Main results

* `Analysis.dispatch_alone` — a call that finds its registers as they were
* `Analysis.assembles_dispatchEach` — a run of calls that have no register in common
* `Analysis.dispatchEach_perm` — such a run in another order
-/

namespace CallEffects

/-- Two calls have no register in common. -/
def CallSite.Apart (s t : CallSite) : Prop := s.call.registers.Disjoint t.call.registers

theorem CallSite.Apart.symm {s t : CallSite} (h : s.Apart t) : t.Apart s :=
  fun _ ht hs => h hs ht

instance : DecidableRel CallSite.Apart := fun s t =>
  decidable_of_iff (s.call.registers.all (!t.call.registers.contains ·) = true) <| by
    simp [CallSite.Apart, List.Disjoint]

namespace Analysis

/-- What a call comes to on a frame if nothing was done before. -/
def alone (a : Analysis) (frame : Frame) (site : CallSite) : Effect :=
  a.fresh.dispatch frame site.call site.point

variable {a a' : Analysis} {frame frame' : Frame} {site : CallSite} {sites sites' : List CallSite}

/-! ### One call -/

/-- **A call that finds its registers as they were** comes to what it would have come to alone,
whatever was done to other registers in between. -/
theorem dispatch_alone (ha : a.Becomes a') (houtline : frame.Outline frame')
    (hhistory : ∀ r ∈ site.call.registers, frame'.history r = frame.history r) :
    let step := a'.dispatch frame' site.call site.point
    step.outcome = (a.alone frame site).outcome ∧
      a'.Grows step.analysis (a.alone frame site).analysis ∧
      ∀ r ∈ site.call.registers, step.caller.history r = (a.alone frame site).caller.history r := by
  intro step
  have hagree : frame.AgreeOn frame' site.call site.point := by
    refine ⟨houtline.registerCount, houtline.depth, ?_⟩
    intro r hr
    exact Frame.read?_congr site.point (hhistory r hr)
  have hsame := a.fresh.sameEffect_of_agreeOn hagree
  -- Neither the log nor the verdicts that are kept show.
  obtain ⟨houtcome, hcaller⟩ := dispatch_fresh ha.faithful frame' site.call site.point
  have hgrows := grows_dispatch ha.faithful frame' site.call site.point
  rw [ha.fresh] at houtcome hcaller hgrows
  refine ⟨houtcome.symm.trans hsame.outcome, ?_, ?_⟩
  · rw [hsame.analysis] at hgrows
    exact hgrows
  · intro r hr
    obtain ⟨c, -, halone, hstep⟩ := hsame.change
    rw [hcaller] at hstep
    exact halone.history_congr hstep (hhistory r hr)

/-! ### Many calls -/

/-- A run from `a'` and `frame'` comes to what its calls come to alone, each of them at the start of
`a` and on `frame`. -/
structure Assembles (a a' : Analysis) (frame frame' : Frame) (sites : List CallSite) (run : Run) :
    Prop where
  /-- Every call has the outcome that it has alone. -/
  reports : run.reports = sites.map fun site => (site, (a.alone frame site).outcome)
  /-- The outline stays. -/
  outline : frame.Outline run.frame
  /-- A register is left as the call that passes it leaves it alone. -/
  passed : ∀ site ∈ sites, ∀ r ∈ site.call.registers,
    run.frame.history r = (a.alone frame site).caller.history r
  /-- A register that no call passes is as it was. -/
  untouched : ∀ r, (∀ site ∈ sites, r ∉ site.call.registers) →
    run.frame.history r = frame'.history r
  /-- What the calls log alone is added to the log. -/
  log : run.analysis.log.toList =
    a'.log.toList ++ sites.flatMap fun site => (a.alone frame site).analysis.log.toList
  /-- The verdicts that the calls keep alone are kept as well. -/
  cached : run.analysis.resolver.cached =
    a'.resolver.cached ∪ ⋃ site ∈ sites, (a.alone frame site).analysis.resolver.cached

/-- **A run of calls that have no register in common.** It may start late, as long as the registers
of its calls are as they were. -/
theorem assembles_dispatchEach (ha : a.Becomes a') (houtline : frame.Outline frame')
    (hapart : sites.Pairwise CallSite.Apart)
    (hhistory : ∀ site ∈ sites, ∀ r ∈ site.call.registers, frame'.history r = frame.history r) :
    a.Assembles a' frame frame' sites (a'.dispatchEach frame' sites) := by
  induction sites generalizing a' frame' with
  | nil =>
    refine ⟨rfl, houtline, ?_, fun _ _ => rfl, (List.append_nil _).symm, ?_⟩
    · intro site hsite
      exact absurd hsite List.not_mem_nil
    · simp [dispatchEach]
  | cons site sites ih =>
    obtain ⟨hfirst, hrest⟩ := List.pairwise_cons.mp hapart
    obtain ⟨houtcome, hgrows, hpassed⟩ :=
      dispatch_alone ha houtline (hhistory site List.mem_cons_self)
    have hkept : ∀ r, r ∉ site.call.registers →
        (a'.dispatch frame' site.call site.point).caller.history r = frame'.history r :=
      fun r hr => a'.history_dispatch_of_not_mem frame' site.point hr
    -- The first call leaves the registers of the others as they were.
    have hlater : ∀ t ∈ sites, ∀ r ∈ t.call.registers,
        (a'.dispatch frame' site.call site.point).caller.history r = frame.history r := by
      intro t ht r hr
      rw [hkept r fun hr' => hfirst t ht hr' hr]
      exact hhistory t (List.mem_cons_of_mem _ ht) r hr
    have hrun := ih (ha.dispatch frame' site.call site.point)
      (houtline.trans (a'.undergoes_dispatch frame' site.call site.point).outline) hrest hlater
    refine ⟨?_, hrun.outline, ?_, ?_, ?_, ?_⟩
    · simp only [dispatchEach, List.map_cons, houtcome, hrun.reports]
    · intro t ht r hr
      obtain rfl | ht := List.mem_cons.mp ht
      · -- The calls after the first leave its registers as it left them.
        rw [← hpassed r hr]
        exact hrun.untouched r fun t' ht' hr' => hfirst t' ht' hr hr'
      · exact hrun.passed t ht r hr
    · intro r hr
      rw [← hkept r (hr site List.mem_cons_self)]
      exact hrun.untouched r fun t ht => hr t (List.mem_cons_of_mem _ ht)
    · rw [List.flatMap_cons, ← List.append_assoc, ← hgrows.log]
      exact hrun.log
    · have hunion : (⋃ t ∈ site :: sites, (a.alone frame t).analysis.resolver.cached) =
          (a.alone frame site).analysis.resolver.cached ∪
            ⋃ t ∈ sites, (a.alone frame t).analysis.resolver.cached := by
        simp [Set.iUnion_or, Set.iUnion_union_distrib]
      rw [hunion, ← Set.union_assoc, ← hgrows.cached]
      exact hrun.cached

/-! ### Another order -/

/-- Two runs that assemble the same calls leave the same in every register. -/
theorem Assembles.history_eq {run run' : Run} (h : a.Assembles a' frame frame' sites run)
    (h' : a.Assembles a' frame frame' sites' run') (hmem : ∀ site, site ∈ sites' ↔ site ∈ sites)
    (r : UInt16) : run'.frame.history r = run.frame.history r := by
  by_cases hr : ∃ site ∈ sites, r ∈ site.call.registers
  · obtain ⟨site, hsite, hr⟩ := hr
    rw [h.passed site hsite r hr, h'.passed site ((hmem site).mpr hsite) r hr]
  · have hnone : ∀ site ∈ sites, r ∉ site.call.registers := fun site hsite hmem =>
      hr ⟨site, hsite, hmem⟩
    rw [h.untouched r hnone, h'.untouched r fun site hsite => hnone site ((hmem site).mp hsite)]

/-- **Calls that have no register in common can be dispatched in any order.** Every call has the
same outcome, or is refused for the same reason, and it is the one that it would have as the first.
Every register has the same history, the same verdicts are kept, and the same events are logged, in
another order. The frames differ at most in the result of the last call. In either order this is
the result of the last call that completed and whose method returns something, or the one that was
there at the start. -/
theorem dispatchEach_perm (ha : a.Reachable) (frame : Frame) (hperm : sites'.Perm sites)
    (hapart : sites.Pairwise CallSite.Apart) :
    let run := a.dispatchEach frame sites
    let run' := a.dispatchEach frame sites'
    let outcome := fun site : CallSite => (a.dispatch frame site.call site.point).outcome
    (run.reports = sites.map (fun site => (site, outcome site)) ∧
        run'.reports = sites'.map (fun site => (site, outcome site))) ∧
      (∀ r, run'.frame.history r = run.frame.history r) ∧
      run'.analysis.resolver.cached = run.analysis.resolver.cached ∧
      (∃ events events', run.analysis.log.toList = a.log.toList ++ events ∧
        run'.analysis.log.toList = a.log.toList ++ events' ∧ events'.Perm events) ∧
      { run'.frame with result := run.frame.result } = run.frame ∧
      run.frame.result = run.results.getLast?.getD frame.result ∧
      run'.frame.result = run'.results.getLast?.getD frame.result := by
  intro run run' outcome
  have hfaithful := ha.faithful
  have hrun : a.Assembles a frame frame sites run :=
    assembles_dispatchEach (.refl hfaithful) (.refl frame) hapart fun _ _ _ _ => rfl
  have hrun' : a.Assembles a frame frame sites' run' :=
    assembles_dispatchEach (.refl hfaithful) (.refl frame)
      ((hperm.pairwise_iff CallSite.Apart.symm).mpr hapart) fun _ _ _ _ => rfl
  have houtcome : ∀ site, (a.alone frame site).outcome = outcome site :=
    fun site => (dispatch_fresh hfaithful frame site.call site.point).1
  have hreports := hrun.reports
  have hreports' := hrun'.reports
  simp only [houtcome] at hreports hreports'
  have hhistory := hrun.history_eq hrun' fun _ => hperm.mem_iff
  refine ⟨⟨hreports, hreports'⟩, hhistory, ?_,
    ⟨_, _, hrun.log, hrun'.log, hperm.flatMap_right _⟩, ?_,
    a.result_dispatchEach frame sites, a.result_dispatchEach frame sites'⟩
  · rw [hrun.cached, hrun'.cached]
    simp only [hperm.mem_iff]
  · have houtline := hrun.outline.symm.trans hrun'.outline
    exact Frame.ext_history
      ⟨houtline.size, houtline.parameterSize, houtline.depth, houtline.returned⟩ rfl hhistory

end Analysis

/-! ### Two calls that return something, and one that is refused

The run and its reverse end with different results. -/

/-- A frame with an object in its first register and a number in its second. -/
def objectAndNumber : Frame where
  registers := #[⟨[(0, ⟨⟨"La;"⟩, .null⟩)], by simp⟩, ⟨[(0, ⟨Library.intType, .int (-8)⟩)], by simp⟩]
  parameterSize := 0
  depth := 4
  result := none
  returned := none
  size_lt := by decide
  parameterSize_le := by decide

/-- A call that passes the object to a method of which nothing is known. -/
def exposingCall : Invocation where
  opcode := ⟨.static, .range⟩
  operands := .range ⟨0, 1, by decide⟩
  method := ⟨⟨"La;"⟩, "n", [⟨"La;"⟩], ⟨"I"⟩⟩
  addressing_eq := rfl
  count_eq := by decide

theorem dispatchEach_perm_reverse :
    let sites := [⟨absoluteCall 1, 1⟩, ⟨strayCall, 2⟩, ⟨exposingCall, 1⟩]
    let run := libraryOnly.dispatchEach objectAndNumber sites
    let run' := libraryOnly.dispatchEach objectAndNumber sites.reverse
    sites.Pairwise CallSite.Apart ∧
      run.reports.map (·.2) = [.ok ⟨.emulated, some ⟨Library.intType, .int 8⟩, [], []⟩,
        .error (.registerOutOfRange 9 2), .ok ⟨.blackBox, some .callResult, [], [0]⟩] ∧
      run'.reports = run.reports.reverse ∧
      run'.frame.history 0 = run.frame.history 0 ∧
      { run'.frame with result := run.frame.result } = run.frame ∧
      run.frame.result = some .callResult ∧
      run'.frame.result = some ⟨Library.intType, .int 8⟩ := by
  intro sites run run'
  have hapart : sites.Pairwise CallSite.Apart := by decide
  obtain ⟨⟨hreports, hreports'⟩, hhistory, -, -, hframe, hresult, hresult'⟩ :=
    Analysis.dispatchEach_perm (a := libraryOnly) (.new _ _ _ _) objectAndNumber
      sites.reverse_perm hapart
  have hlast : run.results.getLast? = some (some .callResult) := by decide
  have hlast' : run'.results.getLast? = some (some ⟨Library.intType, .int 8⟩) := by decide
  refine ⟨hapart, by decide, ?_, hhistory 0, hframe, ?_, ?_⟩
  · rw [hreports, hreports', List.map_reverse]
  · rw [hresult, hlast, Option.getD_some]
  · rw [hresult', hlast', Option.getD_some]

end CallEffects
