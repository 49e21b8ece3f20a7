import CallEffects.Proofs.Runs
import CallEffects.Proofs.Upshots
import Mathlib.Data.List.Forall2

/-!
# Two runs of the same calls

The same calls are dispatched by two analyses, each on a frame of its own. While the calls go on,
neither analysis changes in its parts (`Analysis.Becomes`), so all that has to be said of one call
is that it keeps the two sides related. The induction over the calls is done here once
(`Analysis.dispatchEach_lockstep`), for any relation between the sides.

Its first use are two analyses of the same parts whose settings, logs and kept verdicts have nothing
to do with each other. There is one list of events to log, and each of the logs gets the part of it
that its settings let through; neither the frames nor the outcomes ever differ.

## Main definitions

* `Analysis.Becomes` — an analysis has become another by use
* `Alike` — two calls were refused for the same reason, or have related outcomes

## Main results

* `Analysis.dispatchEach_lockstep` — what one call keeps, a run keeps
* `Analysis.dispatchEach_transparent` — settings, logs and kept verdicts do not show
-/

namespace CallEffects

/-- Two calls were refused for the same reason, or have related outcomes. -/
inductive Alike (Related : Outcome → Outcome → Prop) :
    Except Error Outcome → Except Error Outcome → Prop
  /-- Both were refused. -/
  | refused (e : Error) : Alike Related (.error e) (.error e)
  /-- Both have outcomes. -/
  | completed {o o' : Outcome} (h : Related o o') : Alike Related (.ok o) (.ok o')

namespace Analysis

/-! ### An analysis in use -/

/-- `a` has become `a'` by use: the parts are the same, and the resolver is still faithful. -/
structure Becomes (a a' : Analysis) : Prop where
  /-- What is kept would be found anew. -/
  faithful : a'.Faithful
  /-- The parts are the same. -/
  fresh : a'.fresh = a.fresh

theorem immutable_congr {a b : Analysis} (hcatalog : b.catalog = a.catalog)
    (hmetadata : b.resolver.metadata = a.resolver.metadata) : b.immutable = a.immutable := by
  funext type
  rw [immutable, immutable, Resolver.resolve_congr hcatalog hmetadata]

namespace Becomes

variable {a a' : Analysis}

theorem refl (h : a.Faithful) : a.Becomes a := ⟨h, rfl⟩

theorem dispatch (h : a.Becomes a') (caller : Frame) (call : Invocation) (point : Nat) :
    a.Becomes (a'.dispatch caller call point).analysis :=
  have hgrows := grows_dispatch h.faithful caller call point
  ⟨hgrows.faithful, hgrows.fresh.trans h.fresh⟩

theorem registry (h : a.Becomes a') : a'.registry = a.registry := by
  change a'.fresh.registry = a.fresh.registry
  rw [h.fresh]

theorem catalog (h : a.Becomes a') : a'.catalog = a.catalog := by
  change a'.fresh.catalog = a.fresh.catalog
  rw [h.fresh]

theorem metadata (h : a.Becomes a') : a'.resolver.metadata = a.resolver.metadata := by
  change a'.fresh.resolver.metadata = a.fresh.resolver.metadata
  rw [h.fresh]

theorem settings (h : a.Becomes a') : a'.settings = a.settings := by
  change a'.fresh.settings = a.fresh.settings
  rw [h.fresh]

theorem immutable (h : a.Becomes a') : a'.immutable = a.immutable :=
  immutable_congr h.catalog h.metadata

/-- An analysis in use does what comes of the ruling that it would have given at the start. -/
theorem describes (h : a.Becomes a') (caller : Frame) (call : Invocation) (point : Nat) :
    (a.ruling caller call point).Describes caller call point a'
      (a'.dispatch caller call point) := by
  rw [← ruling_congr h.registry h.catalog]
  exact describes_ruling h.faithful caller call point

end Becomes

/-! ### In step -/

/-- **What one call keeps, a run keeps.** `Rel` relates two analyses with their frames, and `Agree`
what came of the calls on the two sides. -/
theorem dispatchEach_lockstep {a b : Analysis} (ha : a.Faithful) (hb : b.Faithful)
    (Rel : Analysis → Frame → Analysis → Frame → Prop)
    (Agree : CallSite → Except Error Outcome → Except Error Outcome → Prop)
    (hstep : ∀ {a' f b' g}, a.Becomes a' → b.Becomes b' → Rel a' f b' g → ∀ site : CallSite,
      Agree site (a'.dispatch f site.call site.point).outcome
          (b'.dispatch g site.call site.point).outcome ∧
        Rel (a'.dispatch f site.call site.point).analysis
          (a'.dispatch f site.call site.point).caller
          (b'.dispatch g site.call site.point).analysis
          (b'.dispatch g site.call site.point).caller)
    {f g : Frame} (h : Rel a f b g) (sites : List CallSite) :
    List.Forall₂ (fun x y => x.1 = y.1 ∧ Agree x.1 x.2 y.2)
        (a.dispatchEach f sites).reports (b.dispatchEach g sites).reports ∧
      Rel (a.dispatchEach f sites).analysis (a.dispatchEach f sites).frame
        (b.dispatchEach g sites).analysis (b.dispatchEach g sites).frame := by
  -- The run may go on from anything that the two analyses have become.
  suffices hrun : ∀ a' f b' g, a.Becomes a' → b.Becomes b' → Rel a' f b' g →
      List.Forall₂ (fun x y => x.1 = y.1 ∧ Agree x.1 x.2 y.2)
          (a'.dispatchEach f sites).reports (b'.dispatchEach g sites).reports ∧
        Rel (a'.dispatchEach f sites).analysis (a'.dispatchEach f sites).frame
          (b'.dispatchEach g sites).analysis (b'.dispatchEach g sites).frame from
    hrun a f b g (.refl ha) (.refl hb) h
  induction sites with
  | nil => exact fun a' f b' g _ _ h => ⟨.nil, h⟩
  | cons site sites ih =>
    intro a' f b' g ha' hb' h
    obtain ⟨hagree, hnext⟩ := hstep ha' hb' h site
    obtain ⟨hreports, hend⟩ := ih _ _ _ _ (ha'.dispatch f site.call site.point)
      (hb'.dispatch g site.call site.point) hnext
    exact ⟨.cons ⟨rfl, hagree⟩ hreports, hend⟩

end Analysis

/-! ### Transparency -/

namespace Settings

/-- What gets into the log is all there is but for the detail. -/
theorem filter_ne_fine_filter_logs (s : Settings) (events : List Event) :
    (events.filter s.logs).filter (fun e => e.level ≠ .fine) =
      events.filter (fun e => e.level ≠ .fine) := by
  rw [List.filter_filter]
  refine List.filter_congr fun e _ => ?_
  rw [logs, Bool.and_or_distrib_left, Bool.and_self]
  cases s.logParameters <;> simp

theorem ne_fine_of_mem_filter_logs {s : Settings} (hs : s.logParameters = false)
    {events : List Event} {e : Event} (he : e ∈ events.filter s.logs) : e.level ≠ .fine := by
  have hlogs := (List.mem_filter.mp he).2
  rw [logs, hs, Bool.false_or] at hlogs
  exact of_decide_eq_true hlogs

theorem filter_logs_of_logParameters {s : Settings} (hs : s.logParameters = true)
    (events : List Event) : events.filter s.logs = events := by
  refine List.filter_eq_self.mpr fun e _ => ?_
  rw [logs, hs, Bool.true_or]

end Settings

namespace Analysis

/-- Two analyses in use, `a` and `b` at the start of it: they have come to the same frame, and both
logs have grown by the same events, each by those that its settings let through. -/
structure SameProgress (a b a' : Analysis) (f : Frame) (b' : Analysis) (g : Frame) : Prop where
  /-- The frames are the same. -/
  frame : f = g
  /-- The logs have grown by the same events. -/
  log : ∃ events : List Event,
    a'.log.toList = a.log.toList ++ events.filter a.settings.logs ∧
    b'.log.toList = b.log.toList ++ events.filter b.settings.logs

theorem SameProgress.refl (a b : Analysis) (frame : Frame) :
    SameProgress a b a frame b frame where
  frame := rfl
  log := ⟨[], (List.append_nil _).symm, (List.append_nil _).symm⟩

/-- One call on both sides. -/
theorem SameProgress.dispatch {a b a' b' : Analysis} {f g : Frame}
    (hregistry : b.registry = a.registry) (hcatalog : b.catalog = a.catalog)
    (himmutable : b.immutable = a.immutable) (ha : a.Becomes a') (hb : b.Becomes b')
    (h : SameProgress a b a' f b' g) (call : Invocation) (point : Nat) :
    (a'.dispatch f call point).outcome = (b'.dispatch g call point).outcome ∧
      SameProgress a b (a'.dispatch f call point).analysis (a'.dispatch f call point).caller
        (b'.dispatch g call point).analysis (b'.dispatch g call point).caller := by
  obtain ⟨rfl, events, hlog, hlog'⟩ := h
  have hdescribes := ha.describes f call point
  have hdescribes' := hb.describes f call point
  rw [ruling_congr hregistry hcatalog] at hdescribes'
  have himmutable' : b'.immutable = a'.immutable :=
    hb.immutable.trans (himmutable.trans ha.immutable.symm)
  refine ⟨?_, ?_, events ++ (a.ruling f call point).trace a'.immutable f call point, ?_, ?_⟩
  · rw [hdescribes.outcome, hdescribes'.outcome, himmutable']
  · rw [hdescribes.frame, hdescribes'.frame, himmutable']
  · rw [hdescribes.log, hlog, ha.settings, List.filter_append, List.append_assoc]
  · rw [hdescribes'.log, hlog', himmutable', hb.settings, List.filter_append, List.append_assoc]

/-- **Settings, logs and kept verdicts do not show.** Two analyses of the same handlers, classes and
metadata deal with the same calls alike, call by call, and leave the same frame. They log the same
but for the detail, which the settings may leave out, and log the same altogether if neither leaves
it out. -/
theorem dispatchEach_transparent {a b : Analysis} (ha : a.Reachable) (hb : b.Reachable)
    (hregistry : b.registry = a.registry) (hcatalog : b.catalog = a.catalog)
    (hmetadata : b.resolver.metadata = a.resolver.metadata) (frame : Frame)
    (sites : List CallSite) :
    let run := a.dispatchEach frame sites
    let run' := b.dispatchEach frame sites
    run.reports = run'.reports ∧ run.frame = run'.frame ∧
      ∃ es fs, run.analysis.log.toList = a.log.toList ++ es ∧
        run'.analysis.log.toList = b.log.toList ++ fs ∧
        es.filter (fun e => e.level ≠ .fine) = fs.filter (fun e => e.level ≠ .fine) ∧
        (a.settings.logParameters = false → ∀ e ∈ es, e.level ≠ .fine) ∧
        (b.settings.logParameters = false → ∀ e ∈ fs, e.level ≠ .fine) ∧
        (a.settings.logParameters = true → b.settings.logParameters = true → es = fs) := by
  intro run run'
  have himmutable : b.immutable = a.immutable := immutable_congr hcatalog hmetadata
  obtain ⟨hreports, hframe, events, hlog, hlog'⟩ :=
    dispatchEach_lockstep ha.faithful hb.faithful (SameProgress a b) (fun _ x y => x = y)
      (fun ha' hb' h site =>
        h.dispatch hregistry hcatalog himmutable ha' hb' site.call site.point)
      (SameProgress.refl a b frame) sites
  refine ⟨?_, hframe, _, _, hlog, hlog', ?_, ?_, ?_, ?_⟩
  · have hequal : List.Forall₂ (· = ·) run.reports run'.reports :=
      hreports.imp fun x y hxy => Prod.ext hxy.1 hxy.2
    rwa [List.forall₂_eq_eq_eq] at hequal
  · rw [Settings.filter_ne_fine_filter_logs, Settings.filter_ne_fine_filter_logs]
  · exact fun hquiet e he => Settings.ne_fine_of_mem_filter_logs hquiet he
  · exact fun hquiet e he => Settings.ne_fine_of_mem_filter_logs hquiet he
  · intro hloud hloud'
    rw [Settings.filter_logs_of_logParameters hloud, Settings.filter_logs_of_logParameters hloud']

end Analysis

/-- An analysis of the same parts as `stringsSealed` that keeps no verdicts and logs no detail. -/
def stringsSealedQuietly : Analysis :=
  stringsSealed.withSettings { callDepth := 1, keepVerdicts := false, logParameters := false }

/-- `stringsSealed` after a call, with events in its log and verdicts that it has kept. -/
def stringsSealedInUse : Analysis := (stringsSealed.dispatch sharedReceiver sharingCall 2).analysis

theorem dispatchEach_transparent_inUse :
    let run := stringsSealedInUse.dispatchEach sharedReceiver [⟨sharingCall, 4⟩, ⟨sharingCall, 3⟩]
    let run' :=
      stringsSealedQuietly.dispatchEach sharedReceiver [⟨sharingCall, 4⟩, ⟨sharingCall, 3⟩]
    stringsSealedInUse.Reachable ∧ stringsSealedQuietly.Reachable ∧
      run.reports.map (·.2) = run'.reports.map (·.2) ∧
      run'.reports.map (·.2) = [.ok ⟨.blackBox, some .callResult, [1, 2], [0]⟩,
        .ok ⟨.blackBox, some .callResult, [1, 2], [0]⟩] ∧
      run.frame = run'.frame ∧
      run.analysis.log.size = 12 ∧ run'.analysis.log.size = 2 := by
  intro run run'
  have hinUse : stringsSealedInUse.Reachable := .dispatch (.new _ _ _ _) _ _ _
  have hquiet : stringsSealedQuietly.Reachable := .withSettings (.new _ _ _ _) _
  obtain ⟨hreports, hframe, -⟩ :=
    Analysis.dispatchEach_transparent hinUse hquiet rfl rfl rfl sharedReceiver
      [⟨sharingCall, 4⟩, ⟨sharingCall, 3⟩]
  exact ⟨hinUse, hquiet, congrArg _ hreports, by decide, hframe, by decide, by decide⟩

end CallEffects
