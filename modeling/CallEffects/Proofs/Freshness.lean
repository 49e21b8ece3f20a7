import CallEffects.Proofs.Dispatching

/-!
# What an analysis did before does not show

An analysis in use carries two things along: the verdicts that its resolver has kept, and its log.
Neither changes what it does at the next call. This is said by comparison with a fresh analysis of
the same parts (`Analysis.fresh`): a call has the same outcome and leaves the same frame on both,
and what it adds to the log and to the kept descriptors is what the fresh one has in the end.

The comparison needs the resolver to be faithful. `Analysis.Reachable` lists what can be done with
an analysis, and all of it keeps the resolver faithful.

## Main definitions

* `Analysis.Faithful` — the resolver is faithful and keeps verdicts as the settings say
* `Analysis.Reachable` — the analyses that arise from a new one by use
* `Analysis.fresh` — the same parts, with nothing done yet
* `Analysis.Grows` — one analysis has become another, as a fresh one would have

## Main results

* `Analysis.Reachable.faithful` — the analyses that arise are faithful
* `Analysis.dispatch_fresh`, `Analysis.grows_dispatch` — a call on a faithful analysis and on a
  fresh one
-/

namespace CallEffects

namespace Analysis

/-! ### Faithful and fresh -/

/-- The resolver is faithful, and keeps verdicts as the settings say. -/
structure Faithful (a : Analysis) : Prop where
  /-- What is kept would be found anew. -/
  resolver : a.resolver.Faithful
  /-- Verdicts are kept if the settings say so. -/
  isSome_kept : a.resolver.kept.isSome = a.settings.keepVerdicts

/-- The same parts, with nothing done yet. -/
def fresh (a : Analysis) : Analysis := new a.catalog a.registry a.resolver.metadata a.settings

theorem faithful_new (catalog : Catalog) (registry : Registry) (metadata : Metadata)
    (settings : Settings) : (new catalog registry metadata settings).Faithful where
  resolver := Resolver.faithful_new catalog metadata settings.keepVerdicts
  isSome_kept := Resolver.isSome_kept_new catalog metadata settings.keepVerdicts

theorem faithful_fresh (a : Analysis) : a.fresh.Faithful := faithful_new _ _ _ _

@[simp] theorem fresh_fresh (a : Analysis) : a.fresh.fresh = a.fresh := rfl

@[simp] theorem toList_log_fresh (a : Analysis) : a.fresh.log.toList = [] := rfl

@[simp] theorem cached_fresh (a : Analysis) : a.fresh.resolver.cached = ∅ :=
  Resolver.cached_new _ _ _

/-- Two analyses of the same parts have the same fresh one. -/
theorem fresh_congr {a b : Analysis} (hregistry : b.registry = a.registry)
    (hsettings : b.settings = a.settings) (hcatalog : b.resolver.catalog = a.resolver.catalog)
    (hmetadata : b.resolver.metadata = a.resolver.metadata) : b.fresh = a.fresh := by
  rw [fresh, fresh, catalog, catalog, hregistry, hsettings, hcatalog, hmetadata]

/-! ### Growing -/

/-- `a` has become `a'`, as a fresh analysis would have become `b`: the parts are the same, and
what `b` logged and kept was added. -/
structure Grows (a a' b : Analysis) : Prop where
  /-- The resolver is still faithful. -/
  faithful : a'.Faithful
  /-- The parts are the same. -/
  fresh : a'.fresh = a.fresh
  /-- The events of the fresh analysis were added. -/
  log : a'.log.toList = a.log.toList ++ b.log.toList
  /-- The verdicts of the fresh analysis are kept as well. -/
  cached : a'.resolver.cached = a.resolver.cached ∪ b.resolver.cached

theorem Grows.refl {a : Analysis} (h : a.Faithful) : a.Grows a a.fresh where
  faithful := h
  fresh := rfl
  log := by rw [toList_log_fresh, List.append_nil]
  cached := by rw [cached_fresh, Set.union_empty]

/-- Growing twice. The second fresh analysis may have started where the first one ended. -/
theorem Grows.trans {a a' a'' b b' c : Analysis} (h : a.Grows a' b) (h' : a'.Grows a'' c)
    (hb : b.Grows b' c) : a.Grows a'' b' where
  faithful := h'.faithful
  fresh := h'.fresh.trans h.fresh
  log := by rw [h'.log, h.log, hb.log, List.append_assoc]
  cached := by rw [h'.cached, h.cached, hb.cached, Set.union_assoc]

/-- Logging the same events. -/
theorem Grows.recordAll {a a' b : Analysis} (h : a.Grows a' b) (events : List Event) :
    a.Grows (a'.recordAll events) (b.recordAll events) where
  faithful := ⟨by rw [resolver_recordAll]; exact h.faithful.resolver,
    by rw [resolver_recordAll, settings_recordAll]; exact h.faithful.isSome_kept⟩
  fresh := (fresh_congr (by simp) (by simp) (by simp) (by simp)).trans h.fresh
  log := by rw [toList_log_recordAll, toList_log_recordAll, h.log, List.append_assoc]
  cached := by rw [resolver_recordAll, resolver_recordAll, h.cached]

/-- Asking for the same types. -/
theorem Grows.withResolver {a : Analysis} (h : a.Faithful) {types : List TypeDescriptor}
    {r s : Resolver} (hr : a.resolver.Answered types r) (hs : a.fresh.resolver.Answered types s) :
    a.Grows (a.withResolver r) (a.fresh.withResolver s) where
  faithful := ⟨hr.faithful, hr.isSome_kept.trans h.isSome_kept⟩
  fresh := fresh_congr rfl rfl hr.catalog hr.metadata
  log := (List.append_nil _).symm
  cached := by
    have hkeeping : ∀ type, a.fresh.resolver.keeping type = a.resolver.keeping type := by
      intro type
      rw [Resolver.keeping, Resolver.keeping, h.isSome_kept, a.faithful_fresh.isSome_kept]
      rfl
    change r.cached = a.resolver.cached ∪ s.cached
    rw [hr.cached, hs.cached, cached_fresh, Set.empty_union]
    simp only [hkeeping]

/-! ### Dispatch -/

variable {a : Analysis}

theorem ruling_fresh (a : Analysis) (caller : Frame) (call : Invocation) (point : Nat) :
    a.fresh.ruling caller call point = a.ruling caller call point :=
  ruling_congr rfl rfl caller call point

/-- A faithful analysis judges as a fresh one does. -/
theorem fst_judge_fresh (h : a.Faithful) (caller : Frame) (call : Invocation) (point : Nat) :
    (a.fresh.judge caller call point).1 = (a.judge caller call point).1 := by
  rw [judge, judge, fst_judgeSlots h.resolver, fst_judgeSlots a.faithful_fresh.resolver]
  rfl

/-- A call comes out on a fresh analysis as on any other, and leaves the same frame. -/
theorem dispatch_fresh (h : a.Faithful) (caller : Frame) (call : Invocation) (point : Nat) :
    (a.fresh.dispatch caller call point).outcome = (a.dispatch caller call point).outcome ∧
      (a.fresh.dispatch caller call point).caller = (a.dispatch caller call point).caller := by
  have hfresh := a.ruling_fresh caller call point
  cases hruling : a.ruling caller call point with
  | refused e =>
    rw [dispatch_of_refused hruling, dispatch_of_refused (hfresh.trans hruling)]
    exact ⟨rfl, rfl⟩
  | returns store =>
    rw [dispatch_of_returns hruling, dispatch_of_returns (hfresh.trans hruling)]
    exact ⟨rfl, rfl⟩
  | approximated events d =>
    rw [dispatch_of_approximated hruling, dispatch_of_approximated (hfresh.trans hruling),
      fst_judge_fresh h]
    exact ⟨rfl, rfl⟩

/-- **A call on an analysis in use.** It logs and keeps what it would on a fresh one. -/
theorem grows_dispatch (h : a.Faithful) (caller : Frame) (call : Invocation) (point : Nat) :
    a.Grows (a.dispatch caller call point).analysis
      (a.fresh.dispatch caller call point).analysis := by
  have hfresh := a.ruling_fresh caller call point
  cases hruling : a.ruling caller call point with
  | refused e =>
    rw [dispatch_of_refused hruling, dispatch_of_refused (hfresh.trans hruling)]
    exact (Grows.refl h).recordAll [.processed call]
  | returns store =>
    rw [dispatch_of_returns hruling, dispatch_of_returns (hfresh.trans hruling)]
    exact (Grows.refl h).recordAll _
  | approximated events d =>
    rw [dispatch_of_approximated hruling, dispatch_of_approximated (hfresh.trans hruling),
      fst_judge_fresh h]
    exact (Grows.withResolver h (answered_judgeSlots h.resolver [] _)
      (answered_judgeSlots a.faithful_fresh.resolver [] _)).recordAll _

/-! ### The analyses that arise -/

/-- The analyses that arise from a new one by use: calls on any frames, questions about types,
other metadata or settings, another log. -/
inductive Reachable : Analysis → Prop
  /-- A new analysis. -/
  | new (catalog : Catalog) (registry : Registry) (metadata : Metadata) (settings : Settings) :
    Reachable (new catalog registry metadata settings)
  /-- After a call. -/
  | dispatch {a : Analysis} (h : Reachable a) (caller : Frame) (call : Invocation) (point : Nat) :
    Reachable (a.dispatch caller call point).analysis
  /-- After a question about a type. -/
  | verdict {a : Analysis} (h : Reachable a) (type : TypeDescriptor) :
    Reachable (a.verdict type).2
  /-- With other metadata. -/
  | withMetadata {a : Analysis} (h : Reachable a) (metadata : Metadata) :
    Reachable (a.withMetadata metadata)
  /-- With other settings. -/
  | withSettings {a : Analysis} (h : Reachable a) (settings : Settings) :
    Reachable (a.withSettings settings)
  /-- With another log. -/
  | withLog {a : Analysis} (h : Reachable a) (log : EventLog) : Reachable (a.withLog log)

/-- The analyses that arise are faithful. -/
theorem Reachable.faithful {a : Analysis} (h : a.Reachable) : a.Faithful := by
  induction h with
  | new catalog registry metadata settings => exact faithful_new catalog registry metadata settings
  | dispatch _ caller call point ih => exact (grows_dispatch ih caller call point).faithful
  | verdict _ type ih =>
    exact ⟨Resolver.faithful_verdict ih.resolver type,
      (Resolver.isSome_kept_verdict _ type).trans ih.isSome_kept⟩
  | withMetadata _ metadata _ =>
    exact ⟨Resolver.faithful_new _ _ _, Resolver.isSome_kept_new _ _ _⟩
  | withSettings _ settings _ =>
    exact ⟨Resolver.faithful_new _ _ _, Resolver.isSome_kept_new _ _ _⟩
  | withLog _ log ih => exact ⟨ih.resolver, ih.isSome_kept⟩

end Analysis

end CallEffects
