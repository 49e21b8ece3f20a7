import CallEffects.Proofs.CatalogScan
import CallEffects.Proofs.Lockstep

/-!
# Methods that the program declares

A call of a method that the program declares is deferred, which is logged, and then has the effect
of a call of which nothing is known. So it makes no difference to a run which methods the classes
declare. Of the classes themselves it matters which there are and which of them are final, because
types are judged by that: two catalogs that agree in this may declare entirely different methods.

The declared methods come in at one place only, in the disposition of a call, and from there they
are followed through the ruling on the call to everything that comes of it.

## Main definitions

* `Catalog.SameFinality` — two catalogs have the same classes, as far as types are judged by them
* `Disposition.SameButDeferral`, `Ruling.SameButDeferral`, `Outcome.SameButDeferral` — the same,
  except that a call may be deferred on one side where nothing is known of it on the other

## Main results

* `Catalog.sameFinality_ofList` — finality is a matter of the classes that a catalog is given
* `Analysis.ruling_sameButDeferral` — what the declared methods do to the ruling on a call
* `Analysis.dispatchEach_sameButDeferral` — they do not show in a run
-/

namespace CallEffects

/-! ### Catalogs that judge alike -/

/-- Two catalogs have the same classes, as far as types are judged by them. -/
def Catalog.SameFinality (c c' : Catalog) : Prop :=
  ∀ descriptor, (c'.class? descriptor).map (·.isFinal) = (c.class? descriptor).map (·.isFinal)

/-- Catalogs judge alike if they were given classes of the same types in the same order, each final
in both or in neither. -/
theorem Catalog.sameFinality_ofList {ds ds' : List ClassDef}
    (h : ds'.map (fun d => (d.type, d.isFinal)) = ds.map (fun d => (d.type, d.isFinal))) :
    (ofList ds).SameFinality (ofList ds') := by
  intro descriptor
  -- Finality is read off the pairs in `h`.
  have hpairs : ∀ cs : List ClassDef, ((ofList cs).class? descriptor).map (·.isFinal) =
      ((cs.map fun d => (d.type, d.isFinal)).find? (·.1.text == descriptor)).map (·.2) := by
    intro cs
    rw [class?_ofList, List.find?_map, Option.map_map]
    rfl
  rw [hpairs, hpairs, h]

namespace Analysis

theorem immutable_eq_of_sameFinality {a b : Analysis} (hclasses : a.catalog.SameFinality b.catalog)
    (hmetadata : b.resolver.metadata = a.resolver.metadata) : b.immutable = a.immutable := by
  funext type
  rw [Bool.eq_iff_iff, immutable_iff, immutable_iff, hclasses, hmetadata]

end Analysis

/-! ### The same but for deferral

`mayDefer` is the condition under which the two sides may differ. -/

/-- The same disposition, or a call that is deferred on one side only. -/
inductive Disposition.SameButDeferral (mayDefer : Prop) : Disposition → Disposition → Prop
  /-- The same disposition. -/
  | same (d : Disposition) : SameButDeferral mayDefer d d
  /-- Deferred on the first side. -/
  | first (h : mayDefer) : SameButDeferral mayDefer .deferredKnown .blackBox
  /-- Deferred on the second side. -/
  | second (h : mayDefer) : SameButDeferral mayDefer .blackBox .deferredKnown

/-- The same outcome, except that the call may be deferred on one side only. -/
structure Outcome.SameButDeferral (mayDefer : Prop) (o o' : Outcome) : Prop where
  /-- The same result. -/
  result : o.result = o'.result
  /-- The same registers keep their values. -/
  retained : o.retained = o'.retained
  /-- The same registers lose their values. -/
  invalidated : o.invalidated = o'.invalidated
  /-- The call was dealt with alike, or deferred on one side only. -/
  disposition : o.disposition.SameButDeferral mayDefer o'.disposition

/-- The same ruling, or a call that is deferred on one side only. -/
inductive Ruling.SameButDeferral (mayDefer : Prop) : Ruling → Ruling → Prop
  /-- The same ruling. -/
  | same (ρ : Ruling) : SameButDeferral mayDefer ρ ρ
  /-- Deferred on the first side. -/
  | first (h : mayDefer) (descriptor : String) : SameButDeferral mayDefer
      (.approximated [.deferred descriptor] .deferredKnown) (.approximated [] .blackBox)
  /-- Deferred on the second side. -/
  | second (h : mayDefer) (descriptor : String) : SameButDeferral mayDefer
      (.approximated [] .blackBox) (.approximated [.deferred descriptor] .deferredKnown)

namespace Ruling

variable {mayDefer : Prop} {ρ ρ' : Ruling} (immutable : TypeDescriptor → Bool) (caller : Frame)
  (call : Invocation) (point : Nat)

theorem SameButDeferral.outcome (h : ρ.SameButDeferral mayDefer ρ') :
    Alike (Outcome.SameButDeferral mayDefer) (ρ.outcome immutable caller call point)
      (ρ'.outcome immutable caller call point) := by
  cases h with
  | same =>
    cases ρ with
    | refused e => exact .refused e
    | returns store => exact .completed ⟨rfl, rfl, rfl, .same _⟩
    | approximated events d => exact .completed ⟨rfl, rfl, rfl, .same _⟩
  | first h => exact .completed ⟨rfl, rfl, rfl, .first h⟩
  | second h => exact .completed ⟨rfl, rfl, rfl, .second h⟩

theorem SameButDeferral.frame (h : ρ.SameButDeferral mayDefer ρ') :
    ρ.frame immutable caller call point = ρ'.frame immutable caller call point := by
  cases h <;> rfl

theorem SameButDeferral.asked (h : ρ.SameButDeferral mayDefer ρ') :
    ρ.asked caller call point = ρ'.asked caller call point := by
  cases h <;> rfl

/-- There is the same to log, except for the deferral. -/
theorem SameButDeferral.filter_trace (h : ρ.SameButDeferral mayDefer ρ') :
    (ρ.trace immutable caller call point).filter (fun e => e.kind ≠ .deferredKnown) =
      (ρ'.trace immutable caller call point).filter (fun e => e.kind ≠ .deferredKnown) := by
  have hdeferred : ∀ descriptor,
      [Event.deferred descriptor].filter (fun e => e.kind ≠ .deferredKnown) = [] := fun _ => rfl
  cases h with
  | same => rfl
  | first =>
    simp only [trace, List.filter_append]
    rw [hdeferred, List.filter_nil]
  | second =>
    simp only [trace, List.filter_append]
    rw [hdeferred, List.filter_nil]

end Ruling

namespace Analysis

/-! ### One call -/

/-- What the declared methods do to the disposition of a call. -/
theorem disposition_sameButDeferral {a b : Analysis} (hregistry : b.registry = a.registry)
    (caller : Frame) (descriptor : String) :
    (a.disposition caller descriptor).SameButDeferral
      (caller.depth ≠ 0 ∧ a.registry.canEmulate descriptor = false)
      (b.disposition caller descriptor) := by
  rw [disposition, disposition, hregistry]
  by_cases hdepth : caller.depth = 0
  · rw [if_pos hdepth, if_pos hdepth]
    exact .same _
  · rw [if_neg hdepth, if_neg hdepth]
    cases hcan : a.registry.canEmulate descriptor with
    | true => exact .same _
    | false =>
      cases a.catalog.containsMethod descriptor <;> cases b.catalog.containsMethod descriptor
      · exact .same _
      · exact .second ⟨hdepth, rfl⟩
      · exact .first ⟨hdepth, rfl⟩
      · exact .same _

/-- **What the declared methods do to the ruling on a call.** -/
theorem ruling_sameButDeferral {a b : Analysis} (hregistry : b.registry = a.registry)
    (caller : Frame) (call : Invocation) (point : Nat) :
    (a.ruling caller call point).SameButDeferral
      (caller.depth ≠ 0 ∧ a.registry.canEmulate call.method.descriptor = false)
      (b.ruling caller call point) := by
  obtain ⟨callee, hcallee, -⟩ := caller.callee_ok call point
  rw [ruling, ruling, hcallee]
  cases firstOutside? caller call.registers with
  | some r => exact .same _
  | none =>
    have hdisposition := disposition_sameButDeferral hregistry caller call.method.descriptor
    simp only [rulingOn, hregistry]
    generalize a.disposition caller call.method.descriptor = d at hdisposition
    generalize b.disposition caller call.method.descriptor = d' at hdisposition
    cases hdisposition with
    | same => exact .same _
    | first h => exact .first h _
    | second h => exact .second h _

/-- Two analyses in use, `a` and `b` at the start of it, which began with the frame `start`: they
have come to the same frame, have logged the same but for deferrals, and have kept the same. -/
structure SameButDeferrals (a b : Analysis) (start : Frame) (a' : Analysis) (f : Frame)
    (b' : Analysis) (g : Frame) : Prop where
  /-- The frames are the same. -/
  frame : f = g
  /-- As many calls may be nested as at the start. -/
  depth : f.depth = start.depth
  /-- The same was logged but for deferrals. -/
  log : ∃ es fs : List Event,
    a'.log.toList = a.log.toList ++ es ∧ b'.log.toList = b.log.toList ++ fs ∧
      es.filter (fun e => e.kind ≠ .deferredKnown) = fs.filter (fun e => e.kind ≠ .deferredKnown)
  /-- The same was kept. -/
  cached : ∃ kept : Set String, a'.resolver.cached = a.resolver.cached ∪ kept ∧
    b'.resolver.cached = b.resolver.cached ∪ kept

theorem SameButDeferrals.refl (a b : Analysis) (frame : Frame) :
    SameButDeferrals a b frame a frame b frame where
  frame := rfl
  depth := rfl
  log := ⟨[], [], (List.append_nil _).symm, (List.append_nil _).symm, rfl⟩
  cached := ⟨∅, (Set.union_empty _).symm, (Set.union_empty _).symm⟩

/-- One call on both sides. -/
theorem SameButDeferrals.dispatch {a b a' b' : Analysis} {start f g : Frame}
    (hregistry : b.registry = a.registry) (himmutable : b.immutable = a.immutable)
    (hsettings : b.settings = a.settings) (ha : a.Becomes a') (hb : b.Becomes b')
    (h : SameButDeferrals a b start a' f b' g) (call : Invocation) (point : Nat) :
    Alike (Outcome.SameButDeferral
        (start.depth ≠ 0 ∧ a.registry.canEmulate call.method.descriptor = false))
        (a'.dispatch f call point).outcome (b'.dispatch g call point).outcome ∧
      SameButDeferrals a b start (a'.dispatch f call point).analysis
        (a'.dispatch f call point).caller (b'.dispatch g call point).analysis
        (b'.dispatch g call point).caller := by
  obtain ⟨rfl, hdepth, ⟨es, fs, hes, hfs, hlog⟩, kept, hkept, hkept'⟩ := h
  have hruling := ruling_sameButDeferral hregistry f call point
  have hdescribes := ha.describes f call point
  have hdescribes' := hb.describes f call point
  have himmutable' : b'.immutable = a'.immutable :=
    hb.immutable.trans (himmutable.trans ha.immutable.symm)
  have hsettings' : b'.settings = a'.settings :=
    hb.settings.trans (hsettings.trans ha.settings.symm)
  refine ⟨?_, ?_, ?_, ?_, ?_⟩
  · rw [hdescribes.outcome, hdescribes'.outcome, himmutable', ← hdepth]
    exact hruling.outcome a'.immutable f call point
  · rw [hdescribes.frame, hdescribes'.frame, himmutable']
    exact hruling.frame a'.immutable f call point
  · exact (a'.dispatch_changes f call point).1.depth.trans hdepth
  · refine ⟨es ++ ((a.ruling f call point).trace a'.immutable f call point).filter a'.settings.logs,
      fs ++ ((b.ruling f call point).trace a'.immutable f call point).filter a'.settings.logs,
      ?_, ?_, ?_⟩
    · rw [hdescribes.log, hes, List.append_assoc]
    · rw [hdescribes'.log, hfs, List.append_assoc, himmutable', hsettings']
    · rw [List.filter_append, List.filter_append, hlog, List.filter_comm, hruling.filter_trace,
        List.filter_comm]
  · refine ⟨kept ∪ a'.settings.keeps ((a.ruling f call point).asked f call point), ?_, ?_⟩
    · rw [hdescribes.cached, hkept, Set.union_assoc]
    · rw [hdescribes'.cached, hkept', Set.union_assoc, hsettings', hruling.asked]

/-! ### Runs -/

/-- **The methods that the program declares do not show in a run.** Two analyses of the same
handlers, metadata and settings, whose catalogs have the same classes as far as types are judged by
them, deal with the same calls alike, call by call, except that one of them may defer a call that is
unknown to the other; this takes a call that might have been followed and that is not emulated. The
frame that is left is the same, so is what is kept, and what is logged differs in the deferrals
only. -/
theorem dispatchEach_sameButDeferral {a b : Analysis} (ha : a.Reachable) (hb : b.Reachable)
    (hregistry : b.registry = a.registry) (hmetadata : b.resolver.metadata = a.resolver.metadata)
    (hsettings : b.settings = a.settings) (hclasses : a.catalog.SameFinality b.catalog)
    (frame : Frame) (sites : List CallSite) :
    let run := a.dispatchEach frame sites
    let run' := b.dispatchEach frame sites
    List.Forall₂ (fun x y => x.1 = y.1 ∧ Alike (Outcome.SameButDeferral (frame.depth ≠ 0 ∧
        a.registry.canEmulate x.1.call.method.descriptor = false)) x.2 y.2)
        run.reports run'.reports ∧
      run.frame = run'.frame ∧
      (a.resolver.cached = b.resolver.cached →
        run.analysis.resolver.cached = run'.analysis.resolver.cached) ∧
      ∃ es fs, run.analysis.log.toList = a.log.toList ++ es ∧
        run'.analysis.log.toList = b.log.toList ++ fs ∧
        es.filter (fun e => e.kind ≠ .deferredKnown) =
          fs.filter (fun e => e.kind ≠ .deferredKnown) := by
  intro run run'
  have himmutable : b.immutable = a.immutable := immutable_eq_of_sameFinality hclasses hmetadata
  obtain ⟨hreports, hframe, -, hlog, kept, hkept, hkept'⟩ :=
    dispatchEach_lockstep ha.faithful hb.faithful (SameButDeferrals a b frame)
      (fun site => Alike (Outcome.SameButDeferral (frame.depth ≠ 0 ∧
        a.registry.canEmulate site.call.method.descriptor = false)))
      (fun ha' hb' h site =>
        h.dispatch hregistry himmutable hsettings ha' hb' site.call site.point)
      (SameButDeferrals.refl a b frame) sites
  refine ⟨hreports, hframe, fun hcached => ?_, hlog⟩
  rw [hkept, hkept', hcached]

end Analysis

/-! ### A method that is declared or not -/

/-- An analysis of a program with one class, in which strings are immutable. -/
def declaring (methods : Array MethodDef) : Analysis :=
  .new (.ofList [⟨⟨"La;"⟩, ⟨0⟩, methods⟩]) .empty stringsSealed.resolver.metadata {}

theorem dispatchEach_sameButDeferral_declaring :
    let run := (declaring #[⟨sharingCall.method, ⟨0⟩⟩]).dispatchEach sharedReceiver
      [⟨sharingCall, 4⟩, ⟨sharingCall, 3⟩]
    let run' := (declaring #[]).dispatchEach sharedReceiver [⟨sharingCall, 4⟩, ⟨sharingCall, 3⟩]
    run.reports.map (·.2) = [.ok ⟨.deferredKnown, some .callResult, [1, 2], [0]⟩,
        .ok ⟨.deferredKnown, some .callResult, [1, 2], [0]⟩] ∧
      run'.reports.map (·.2) = [.ok ⟨.blackBox, some .callResult, [1, 2], [0]⟩,
        .ok ⟨.blackBox, some .callResult, [1, 2], [0]⟩] ∧
      run.analysis.log.size = 10 ∧ run'.analysis.log.size = 8 ∧
      run.frame = run'.frame ∧
      run.analysis.resolver.cached = run'.analysis.resolver.cached := by
  intro run run'
  have hdeclaring : ∀ methods, (declaring methods).Reachable := fun _ => .new _ _ _ _
  obtain ⟨-, hframe, hcached, -⟩ := Analysis.dispatchEach_sameButDeferral
    (hdeclaring #[⟨sharingCall.method, ⟨0⟩⟩]) (hdeclaring #[]) rfl rfl rfl
    (Catalog.sameFinality_ofList rfl) sharedReceiver [⟨sharingCall, 4⟩, ⟨sharingCall, 3⟩]
  exact ⟨by decide, by decide, by decide, by decide, hframe, hcached rfl⟩

end CallEffects
