import CallEffects.Activation
import CallEffects.Proofs.Approximation
import Mathlib.Data.List.Flatten
import Mathlib.Data.Set.Lattice
import Mathlib.Logic.Relation

/-!
# Batches under any schedule

Several activations share one analysis. A schedule picks, call by call, which activation goes on
next, and the activations meet in two places only: the verdicts that one of them has the resolver
keep are there for the others, and all of them write into one log.

What an activation comes to is fixed before the first call is dispatched. A step moves a part of
what is to come into the past without changing the sum, so the forecast of a batch is invariant
under steps (`Batch.ComesTo.head`), and at the end of a schedule nothing but the past is left.

## Main definitions

* `Analysis.solo` — the calls of one activation alone, on a fresh analysis
* `Task`, `Batch`, `Batch.Step` — activations on their way, and one more call of any of them
* `Batch.ComesTo` — what was to come of a batch has come
* `Shuffle` — several lists laid into one, each in its order

## Main results

* `Analysis.runSites_fresh` — calls in turn come out on a fresh analysis as on any other
* `Batch.comesTo_of_steps` — what a finished schedule has come to
* `Batch.steps_runAll` — one activation after the other is a schedule
* `Batch.schedule_independence` — results, frames, events and kept descriptors under any schedule
-/

namespace CallEffects

/-! ### Shuffles -/

/-- `ys` is made of the lists `xss`, each of which stands in it in its order. -/
inductive Shuffle {α : Type} : List (List α) → List α → Prop
  /-- Nothing is left. -/
  | nil {xss : List (List α)} (h : ∀ xs ∈ xss, xs = []) : Shuffle xss []
  /-- The next element is the first that is left of some list. -/
  | cons {xss : List (List α)} {i : Nat} {x : α} {xs ys : List α} (h : xss[i]? = some (x :: xs))
    (hs : Shuffle (xss.set i xs) ys) : Shuffle xss (x :: ys)

namespace Shuffle

variable {α : Type} {xss : List (List α)} {i : Nat} {xs ys : List α}

theorem set_of_getElem?_eq_some {β : Type} {l : List β} {x : β} (h : l[i]? = some x) :
    l.set i x = l := by
  obtain ⟨hi, rfl⟩ := List.getElem?_eq_some_iff.mp h
  exact List.set_getElem_self hi

/-- Several elements of one list may come next. -/
theorem block {zs : List α} (h : xss[i]? = some (zs ++ xs)) (hs : Shuffle (xss.set i xs) ys) :
    Shuffle xss (zs ++ ys) := by
  induction zs generalizing xss with
  | nil =>
    rw [List.nil_append] at h
    rw [set_of_getElem?_eq_some h] at hs
    exact hs
  | cons z zs ih =>
    obtain ⟨hi, -⟩ := List.getElem?_eq_some_iff.mp h
    refine .cons h (ih ?_ ?_)
    · rw [List.getElem?_set_self hi]
      rfl
    · rw [List.set_set]
      exact hs

theorem perm_flatten_set {x : α} (h : xss[i]? = some (x :: xs)) :
    (x :: (xss.set i xs).flatten).Perm xss.flatten := by
  induction xss generalizing i with
  | nil => simp at h
  | cons zs xss ih =>
    cases i with
    | zero =>
      obtain rfl : zs = x :: xs := by simpa using h
      exact .refl _
    | succ i =>
      rw [List.set_cons_succ, List.flatten_cons, List.flatten_cons]
      refine List.perm_middle.symm.trans ?_
      exact (ih (by simpa using h)).append_left zs

/-- A shuffle has the elements of its lists, as often as they have them. -/
theorem perm (h : Shuffle xss ys) : ys.Perm xss.flatten := by
  induction h with
  | nil h => rw [List.flatten_eq_nil_iff.mpr h]
  | cons h _ ih => exact (ih.cons _).trans (perm_flatten_set h)

end Shuffle

/-! ### Solo runs -/

namespace Analysis

/-- The calls of an activation alone, on a fresh analysis of the same parts. -/
def solo (a : Analysis) (x : Activation) : Except Error (List Outcome) × Frame × Analysis :=
  a.fresh.runSites x.frame x.sites

theorem runSites_cons_of_error {a : Analysis} {frame : Frame} {site : CallSite} {e : Error}
    (h : (a.dispatch frame site.call site.point).outcome = .error e) (sites : List CallSite) :
    a.runSites frame (site :: sites) =
      (.error e, (a.dispatch frame site.call site.point).caller,
        (a.dispatch frame site.call site.point).analysis) := by
  simp only [runSites, h]

theorem runSites_cons_of_ok {a : Analysis} {frame : Frame} {site : CallSite} {o : Outcome}
    (h : (a.dispatch frame site.call site.point).outcome = .ok o) (sites : List CallSite) :
    a.runSites frame (site :: sites) =
      (((a.dispatch frame site.call site.point).analysis.runSites
          (a.dispatch frame site.call site.point).caller sites).1.map (o :: ·),
        ((a.dispatch frame site.call site.point).analysis.runSites
          (a.dispatch frame site.call site.point).caller sites).2) := by
  simp only [runSites, h]

/-- Calls in turn come out on a fresh analysis as on any other, leave the same frame, and log and
keep the same. -/
theorem runSites_fresh {a : Analysis} (h : a.Faithful) (frame : Frame) (sites : List CallSite) :
    (a.fresh.runSites frame sites).1 = (a.runSites frame sites).1 ∧
      (a.fresh.runSites frame sites).2.1 = (a.runSites frame sites).2.1 ∧
      a.Grows (a.runSites frame sites).2.2 (a.fresh.runSites frame sites).2.2 := by
  induction sites generalizing a frame with
  | nil => exact ⟨rfl, rfl, .refl h⟩
  | cons site sites ih =>
    obtain ⟨houtcome, hcaller⟩ := dispatch_fresh h frame site.call site.point
    have hgrows := grows_dispatch h frame site.call site.point
    cases ho : (a.dispatch frame site.call site.point).outcome with
    | error e =>
      rw [runSites_cons_of_error ho, runSites_cons_of_error (houtcome.trans ho)]
      exact ⟨rfl, hcaller, hgrows⟩
    | ok o =>
      rw [runSites_cons_of_ok ho, runSites_cons_of_ok (houtcome.trans ho), hcaller]
      -- Both analyses went on from the first call; each compares with a fresh one.
      have hgrows' := grows_dispatch a.faithful_fresh frame site.call site.point
      obtain ⟨hres, hframe, hrest⟩ :=
        ih hgrows.faithful (a.dispatch frame site.call site.point).caller
      obtain ⟨hres', hframe', hrest'⟩ :=
        ih hgrows'.faithful (a.dispatch frame site.call site.point).caller
      rw [hgrows.fresh] at hres hframe hrest
      rw [hgrows'.fresh, fresh_fresh] at hres' hframe' hrest'
      exact ⟨by rw [← hres, ← hres'], hframe'.symm.trans hframe, hgrows.trans hrest hrest'⟩

end Analysis

/-! ### Batches -/

/-- An activation on its way. -/
structure Task where
  /-- Its frame, as the calls so far have left it. -/
  frame : Frame
  /-- The calls that were not dispatched yet. -/
  pending : List CallSite
  /-- What came of the calls so far: their outcomes, or the error that stopped the activation. -/
  progress : Except Error (List Outcome)

/-- Activations on their way, and the analysis that they share. -/
structure Batch where
  /-- The analysis. -/
  analysis : Analysis
  /-- The activations. -/
  tasks : List Task

namespace Task

/-- An activation before its first call. -/
def start (activation : Activation) : Task := ⟨activation.frame, activation.sites, .ok []⟩

/-- The calls that are still going to be dispatched: none after an error. -/
def remaining (t : Task) : List CallSite :=
  match t.progress with
  | .ok _ => t.pending
  | .error _ => []

/-- What came of an activation. -/
def upshot (t : Task) : Except Error (List Outcome) × Frame := (t.progress, t.frame)

end Task

namespace Batch

/-- A batch before the first call. -/
def start (a : Analysis) (activations : List Activation) : Batch := ⟨a, activations.map .start⟩

/-- No activation has calls left, or is stopped by an error. -/
def Finished (b : Batch) : Prop := ∀ t ∈ b.tasks, t.remaining = []

/-- Any activation that has calls left, and was not stopped, has its next one dispatched: on its own
frame, by the shared analysis. -/
inductive Step : Batch → Batch → Prop
  /-- The activation at place `i` goes on. -/
  | dispatch {b : Batch} (i : Nat) {frame : Frame} {site : CallSite} {sites : List CallSite}
    {done : List Outcome} (h : b.tasks[i]? = some ⟨frame, site :: sites, .ok done⟩) :
    Step b
      { analysis := (b.analysis.dispatch frame site.call site.point).analysis
        tasks := b.tasks.set i
          ⟨(b.analysis.dispatch frame site.call site.point).caller, sites,
            (b.analysis.dispatch frame site.call site.point).outcome.map (done ++ [·])⟩ }

/-- Any number of steps. -/
abbrev Steps : Batch → Batch → Prop := Relation.ReflTransGen Step

end Batch

/-! ### What is to come -/

namespace Task

/-- The rest of an activation alone, on an analysis of its own. -/
def rest (t : Task) (a : Analysis) : Except Error (List Outcome) × Frame × Analysis :=
  a.runSites t.frame t.remaining

/-- What an activation is going to come to: what came of the calls so far, and of the rest. -/
def forecast (t : Task) (a : Analysis) : Except Error (List Outcome) × Frame :=
  (t.progress.bind fun done => (t.rest a).1.map (done ++ ·), (t.rest a).2.1)

/-- The events that an activation is still going to log. -/
def events (t : Task) (a : Analysis) : List Event := (t.rest a).2.2.log.toList

/-- The descriptors that an activation is still going to have kept. -/
def keeps (t : Task) (a : Analysis) : Set String := (t.rest a).2.2.resolver.cached

/-- When no calls are left, nothing is to come. -/
theorem forecast_of_remaining_eq_nil {t : Task} (h : t.remaining = []) (a : Analysis) :
    t.forecast a.fresh = t.upshot ∧ t.events a.fresh = [] ∧ t.keeps a.fresh = ∅ := by
  have hrest : t.rest a.fresh = (.ok [], t.frame, a.fresh) := by
    rw [rest, h]
    rfl
  refine ⟨?_, ?_, ?_⟩
  · rw [forecast, hrest, upshot]
    cases t.progress with
    | error e => rfl
    | ok done => simp [Except.bind, Except.map]
  · rw [events, hrest, Analysis.toList_log_fresh]
  · rw [keeps, hrest, Analysis.cached_fresh]

/-- One call of an activation. The forecast stays, and what the call logs and has kept comes off
what is to come. -/
theorem forecast_of_dispatch {a : Analysis} (ha : a.Faithful) (frame : Frame) (site : CallSite)
    (sites : List CallSite) (done : List Outcome) :
    let t : Task := ⟨frame, site :: sites, .ok done⟩
    let t' : Task := ⟨(a.dispatch frame site.call site.point).caller, sites,
      (a.dispatch frame site.call site.point).outcome.map (done ++ [·])⟩
    let step := (a.fresh.dispatch frame site.call site.point).analysis
    t'.forecast a.fresh = t.forecast a.fresh ∧
      t.events a.fresh = step.log.toList ++ t'.events a.fresh ∧
      t.keeps a.fresh = step.resolver.cached ∪ t'.keeps a.fresh := by
  intro t t' step
  obtain ⟨houtcome, hcaller⟩ := Analysis.dispatch_fresh ha frame site.call site.point
  cases ho : (a.dispatch frame site.call site.point).outcome with
  | error e =>
    have hprogress : t'.progress = .error e := by simp [t', ho, Except.map]
    have hremaining : t'.remaining = [] := by rw [remaining, hprogress]
    obtain ⟨hforecast, hevents, hkeeps⟩ := forecast_of_remaining_eq_nil hremaining a
    have hrest : t.rest a.fresh = (.error e, t'.frame, step) := by
      rw [rest, remaining, Analysis.runSites_cons_of_error (houtcome.trans ho), hcaller]
    refine ⟨?_, ?_, ?_⟩
    · rw [hforecast, forecast, hrest, upshot, hprogress]
      rfl
    · rw [events, hrest, hevents, List.append_nil]
    · rw [keeps, hrest, hkeeps, Set.union_empty]
  | ok o =>
    have hprogress : t'.progress = .ok (done ++ [o]) := by simp [t', ho, Except.map]
    have hremaining : t'.remaining = sites := by rw [remaining, hprogress]
    have hrest' : t'.rest a.fresh = a.fresh.runSites t'.frame sites := by rw [rest, hremaining]
    have hrest : t.rest a.fresh =
        ((step.runSites t'.frame sites).1.map (o :: ·), (step.runSites t'.frame sites).2) := by
      rw [rest, remaining, Analysis.runSites_cons_of_ok (houtcome.trans ho), hcaller]
    -- The rest went on from the first call; it compares with the rest on a fresh analysis.
    have hgrows : a.fresh.Grows step _ :=
      Analysis.grows_dispatch a.faithful_fresh frame site.call site.point
    obtain ⟨hres, hframe, hgrows'⟩ := Analysis.runSites_fresh hgrows.faithful t'.frame sites
    rw [hgrows.fresh, Analysis.fresh_fresh] at hres hframe hgrows'
    refine ⟨?_, ?_, ?_⟩
    · rw [forecast, forecast, hrest, hrest', hprogress, hres, hframe]
      cases (step.runSites t'.frame sites).1 <;> simp [t, Except.bind, Except.map]
    · rw [events, events, hrest, hrest', hgrows'.log]
    · rw [keeps, keeps, hrest, hrest', hgrows'.cached]

end Task

/-! ### Schedules -/

namespace Batch

/-- Taking something off one of several sets. -/
theorem iUnion_set {tasks : List Task} {keeps : Task → Set String} {i : Nat} {t t' : Task}
    {s : Set String} (h : tasks[i]? = some t) (ht : keeps t = s ∪ keeps t') :
    ⋃ u ∈ tasks, keeps u = s ∪ ⋃ u ∈ tasks.set i t', keeps u := by
  induction tasks generalizing i with
  | nil => simp at h
  | cons u tasks ih =>
    cases i with
    | zero =>
      obtain rfl : u = t := by simpa using h
      simp only [List.set_cons_zero, List.mem_cons, Set.iUnion_iUnion_eq_or_left, ht,
        Set.union_assoc]
    | succ i =>
      have htail := ih (i := i) (by simpa using h)
      simp only [List.set_cons_succ, List.mem_cons, Set.iUnion_iUnion_eq_or_left, htail]
      rw [Set.union_left_comm]

/-- `b'` is what `b` comes to: the forecasts have come true, and the log and the kept descriptors
have grown by what was to come. -/
structure ComesTo (b b' : Batch) : Prop where
  /-- Every activation has come to its forecast. -/
  upshots : b'.tasks.map (·.upshot) = b.tasks.map (·.forecast b.analysis.fresh)
  /-- The events that were to come have been laid into one log. -/
  log : ∃ es, b'.analysis.log.toList = b.analysis.log.toList ++ es ∧
    Shuffle (b.tasks.map (·.events b.analysis.fresh)) es
  /-- The descriptors that were to come are kept. -/
  cached : b'.analysis.resolver.cached =
    b.analysis.resolver.cached ∪ ⋃ t ∈ b.tasks, t.keeps b.analysis.fresh

/-- A finished batch has come to itself. -/
theorem ComesTo.refl {b : Batch} (h : b.Finished) : b.ComesTo b where
  upshots := List.map_congr_left fun t ht =>
    (Task.forecast_of_remaining_eq_nil (h t ht) b.analysis).1.symm
  log := by
    refine ⟨[], (List.append_nil _).symm, .nil ?_⟩
    intro es hes
    obtain ⟨t, ht, rfl⟩ := List.mem_map.mp hes
    exact (Task.forecast_of_remaining_eq_nil (h t ht) b.analysis).2.1
  cached := by
    have hnone : ⋃ t ∈ b.tasks, t.keeps b.analysis.fresh = ∅ :=
      Set.iUnion_eq_empty.mpr fun t => Set.iUnion_eq_empty.mpr fun ht =>
        (Task.forecast_of_remaining_eq_nil (h t ht) b.analysis).2.2
    rw [hnone, Set.union_empty]

/-- **One step.** What a batch comes to after a step is what it came to before. -/
theorem ComesTo.head {b c b' : Batch} (hb : b.analysis.Faithful) (hstep : Step b c)
    (h : c.ComesTo b') : b.ComesTo b' := by
  cases hstep with
  | @dispatch i frame site sites done hi =>
    have hgrows := Analysis.grows_dispatch hb frame site.call site.point
    obtain ⟨hforecast, hevents, hkeeps⟩ := Task.forecast_of_dispatch hb frame site sites done
    obtain ⟨hupshots, ⟨es, hlog, hes⟩, hcached⟩ := h
    rw [hgrows.fresh] at hupshots hes hcached
    have hshuffle : Shuffle (b.tasks.map (·.events b.analysis.fresh))
        ((b.analysis.fresh.dispatch frame site.call site.point).analysis.log.toList ++ es) := by
      apply Shuffle.block (i := i)
      · rw [List.getElem?_map, hi, Option.map_some, hevents]
      · rw [← List.map_set]
        exact hes
    refine ⟨?_, ⟨_, ?_, hshuffle⟩, ?_⟩
    · rw [hupshots, List.map_set, hforecast, ← List.map_set,
        Shuffle.set_of_getElem?_eq_some hi]
    · rw [hlog, hgrows.log, List.append_assoc]
    · rw [hcached, hgrows.cached, iUnion_set hi hkeeps, Set.union_assoc]

theorem Step.faithful {b c : Batch} (hb : b.analysis.Faithful) (hstep : Step b c) :
    c.analysis.Faithful := by
  obtain ⟨i, -⟩ := hstep
  exact (Analysis.grows_dispatch hb _ _ _).faithful

/-- **Any schedule.** A batch comes to the same whatever the order of its calls. -/
theorem comesTo_of_steps {b b' : Batch} (hb : b.analysis.Faithful) (hsteps : Steps b b')
    (hfin : b'.Finished) : b.ComesTo b' := by
  induction hsteps using Relation.ReflTransGen.head_induction_on with
  | refl => exact .refl hfin
  | head hstep _ ih => exact .head hb hstep (ih (hstep.faithful hb))

/-! ### One activation after the other -/

/-- The calls of one activation in a row. -/
theorem steps_runSites (a : Analysis) (before after : List Task) (frame : Frame)
    (sites : List CallSite) (done : List Outcome) :
    ∃ t : Task, t.remaining = [] ∧
      t.upshot =
        ((a.runSites frame sites).1.map (done ++ ·), (a.runSites frame sites).2.1) ∧
      Steps ⟨a, before ++ ⟨frame, sites, .ok done⟩ :: after⟩
        ⟨(a.runSites frame sites).2.2, before ++ t :: after⟩ := by
  induction sites generalizing a frame done with
  | nil =>
    refine ⟨⟨frame, [], .ok done⟩, rfl, ?_, .refl⟩
    simp [Task.upshot, Analysis.runSites, Except.map]
  | cons site sites ih =>
    have hstep : Step ⟨a, before ++ ⟨frame, site :: sites, .ok done⟩ :: after⟩
        ⟨(a.dispatch frame site.call site.point).analysis,
          before ++ ⟨(a.dispatch frame site.call site.point).caller, sites,
            (a.dispatch frame site.call site.point).outcome.map (done ++ [·])⟩ :: after⟩ := by
      simpa using Step.dispatch (b := ⟨a, before ++ ⟨frame, site :: sites, .ok done⟩ :: after⟩)
        before.length (by simp)
    cases ho : (a.dispatch frame site.call site.point).outcome with
    | error e =>
      rw [ho] at hstep
      rw [Analysis.runSites_cons_of_error ho]
      exact ⟨_, rfl, rfl, .single hstep⟩
    | ok o =>
      rw [ho] at hstep
      rw [Analysis.runSites_cons_of_ok ho]
      obtain ⟨t, hremaining, hupshot, hsteps⟩ :=
        ih (a.dispatch frame site.call site.point).analysis
          (a.dispatch frame site.call site.point).caller (done ++ [o])
      refine ⟨t, hremaining, ?_, .head hstep hsteps⟩
      rw [hupshot]
      cases ((a.dispatch frame site.call site.point).analysis.runSites
        (a.dispatch frame site.call site.point).caller sites).1 <;> simp [Except.map]

/-- One activation after the other is a schedule. -/
theorem steps_runAll (a : Analysis) (before : List Task) (activations : List Activation) :
    ∃ tasks : List Task, (∀ t ∈ tasks, t.remaining = []) ∧
      tasks.map (·.upshot) = (a.runAll activations).1.map (fun r => (r.1, r.2.frame)) ∧
      Steps ⟨a, before ++ activations.map .start⟩
        ⟨(a.runAll activations).2, before ++ tasks⟩ := by
  induction activations generalizing a before with
  | nil => exact ⟨[], by simp, rfl, .refl⟩
  | cons x activations ih =>
    obtain ⟨t, hremaining, hupshot, hsteps⟩ :=
      steps_runSites a before (activations.map .start) x.frame x.sites []
    obtain ⟨tasks, hremaining', hupshots, hsteps'⟩ :=
      ih (a.runSites x.frame x.sites).2.2 (before ++ [t])
    refine ⟨t :: tasks, ?_, ?_, ?_⟩
    · exact List.forall_mem_cons.mpr ⟨hremaining, hremaining'⟩
    · rw [List.map_cons, hupshots, hupshot]
      cases h : (a.runSites x.frame x.sites).1 <;> simp [Analysis.runAll, h, Except.map]
    · refine hsteps.trans ?_
      rw [List.append_assoc, List.append_assoc, List.singleton_append] at hsteps'
      exact hsteps'

/-! ### Independence of the schedule -/

theorem forecast_start (a : Analysis) (x : Activation) :
    (Task.start x).forecast a.fresh = ((a.solo x).1, (a.solo x).2.1) := by
  have hrest : (Task.start x).rest a.fresh = a.solo x := rfl
  rw [Task.forecast, hrest]
  cases (a.solo x).1 <;> simp [Task.start, Except.bind, Except.map]

/-- What a batch comes to, by what its activations come to alone. -/
theorem ComesTo.of_start {a : Analysis} {activations : List Activation} {b : Batch}
    (h : (start a activations).ComesTo b) :
    b.tasks.map (·.upshot) = activations.map (fun x => ((a.solo x).1, (a.solo x).2.1)) ∧
      (∃ es, b.analysis.log.toList = a.log.toList ++ es ∧
        Shuffle (activations.map fun x => (a.solo x).2.2.log.toList) es) ∧
      b.analysis.resolver.cached =
        a.resolver.cached ∪ ⋃ x ∈ activations, (a.solo x).2.2.resolver.cached := by
  obtain ⟨hupshots, ⟨es, hlog, hes⟩, hcached⟩ := h
  refine ⟨?_, ⟨es, hlog, ?_⟩, ?_⟩
  · rw [hupshots, start, List.map_map]
    exact List.map_congr_left fun x _ => forecast_start a x
  · rw [start, List.map_map] at hes
    exact hes
  · rw [hcached, start]
    simp only [List.mem_map, Set.iUnion_exists, Set.biUnion_and', Set.iUnion_iUnion_eq_right]
    rfl

/-- **Independence of the schedule.** However the calls of several activations are interleaved,
every activation comes to what it comes to alone on a fresh analysis, the events of the activations
are laid into one log, and the same descriptors are kept. One activation after the other is one of
the schedules. -/
theorem schedule_independence {a : Analysis} (ha : a.Reachable) (activations : List Activation) :
    (∃ b, Steps (start a activations) b ∧ b.Finished ∧ b.analysis = (a.runAll activations).2 ∧
      b.tasks.map (·.upshot) = (a.runAll activations).1.map (fun r => (r.1, r.2.frame))) ∧
    ∀ b, Steps (start a activations) b → b.Finished →
      b.tasks.map (·.upshot) = activations.map (fun x => ((a.solo x).1, (a.solo x).2.1)) ∧
      (∃ es, b.analysis.log.toList = a.log.toList ++ es ∧
        Shuffle (activations.map fun x => (a.solo x).2.2.log.toList) es) ∧
      b.analysis.resolver.cached =
        a.resolver.cached ∪ ⋃ x ∈ activations, (a.solo x).2.2.resolver.cached ∧
      ∀ b', Steps (start a activations) b' → b'.Finished →
        b'.analysis.log.toList.Perm b.analysis.log.toList ∧
          b'.analysis.resolver.cached = b.analysis.resolver.cached := by
  refine ⟨?_, fun b hsteps hfin => ?_⟩
  · obtain ⟨tasks, hremaining, hupshots, hsteps⟩ := steps_runAll a [] activations
    exact ⟨_, hsteps, hremaining, rfl, hupshots⟩
  · have hcomes := (comesTo_of_steps ha.faithful hsteps hfin).of_start
    obtain ⟨hupshots, ⟨es, hlog, hes⟩, hcached⟩ := hcomes
    refine ⟨hupshots, ⟨es, hlog, hes⟩, hcached, fun b' hsteps' hfin' => ?_⟩
    obtain ⟨-, ⟨es', hlog', hes'⟩, hcached'⟩ :=
      (comesTo_of_steps ha.faithful hsteps' hfin').of_start
    refine ⟨?_, hcached'.trans hcached.symm⟩
    -- Both logs are shuffles of the same lists.
    rw [hlog, hlog']
    exact (hes'.perm.trans hes.perm.symm).append_left _

end Batch

/-- A call whose argument lies outside the frame of `sharedReceiver`. -/
def strayCall : Invocation where
  opcode := ⟨.static, .compact⟩
  operands := .compact ⟨1, #v[9, 0, 0, 0, 0], by decide, by simp⟩
  method := ⟨⟨"La;"⟩, "n", [⟨"I"⟩], ⟨"V"⟩⟩
  addressing_eq := rfl
  count_eq := by decide

/-- Two activations, the second of which is stopped at its second call. -/
def stoppedPair : List Activation :=
  [⟨"going", sharedReceiver, [⟨sharingCall, 4⟩]⟩,
    ⟨"stopped", sharedReceiver, [⟨sharingCall, 4⟩, ⟨strayCall, 5⟩, ⟨sharingCall, 6⟩]⟩]

theorem schedule_independence_stoppedPair :
    stringsSealed.Reachable ∧
      ∀ b, Batch.Steps (.start stringsSealed stoppedPair) b → b.Finished →
        b.tasks.map (·.progress) =
            [.ok [⟨.blackBox, some .callResult, [1, 2], [0]⟩], .error (.registerOutOfRange 9 3)] ∧
          b.analysis.log.toList.length = 9 := by
  refine ⟨.new _ _ _ _, fun b hsteps hfin => ?_⟩
  obtain ⟨hupshots, ⟨es, hlog, hes⟩, -⟩ :=
    (Batch.schedule_independence (a := stringsSealed) (.new _ _ _ _) stoppedPair).2 b hsteps hfin
  constructor
  · calc b.tasks.map (·.progress) = (b.tasks.map (·.upshot)).map (·.1) := by
          rw [List.map_map]
          rfl
      _ = _ := by
          rw [hupshots]
          decide
  · rw [hlog, List.length_append, hes.perm.length_eq]
    decide

end CallEffects
