import CallEffects.Proofs.Lockstep

/-!
# More cautious metadata

Metadata are more cautious than others if every class that they call final is called final by the
others. With more cautious metadata more registers lose their values at a call. That this is all
that happens in a whole run is not clear from a single call: once the frames differ, a call may find
its instance under another type than the call on the other side does, because the entry that it
reads was lost on one side only and holds the type of some other argument.

What saves the comparison is that the type in a lost entry is never immutable: it is the type that
cost the register its value. So where the cautious side reads another type, it exposes the instance
in any case. The relation between the two frames keeps this along (`Frame.Poorer`).

## Main definitions

* `Metadata.MoreCautious`, `Registry.NeverFails` — what is asked of the metadata and of the handlers
* `Analysis.MoreCautious` — two analyses, the first of which has the more cautious metadata
* `Outcome.MoreCautious` — the outcomes of a call on the two
* `Frame.Poorer` — a frame with more entries lost, all of them under types that are not immutable

## Main results

* `Analysis.MoreCautious.exposes` — one call on the more cautious side exposes more
* `Analysis.MoreCautious.dispatch` — one call on both sides
* `Analysis.dispatchEach_moreCautious` — more cautious metadata never lead to more being known
-/

namespace CallEffects

/-- Every class that is called final is called final by the other metadata. -/
def Metadata.MoreCautious (m m' : Metadata) : Prop :=
  ∀ name, m.isFinal? name = some true → m'.isFinal? name = some true

/-- A class that turns out to be final makes the metadata less cautious. -/
theorem TypeTable.moreCautious_insert (t : TypeTable) (name : String) :
    t.metadata.MoreCautious (t.insert name true).metadata := by
  intro name' h
  change t.entries[name']? = some true at h
  change (t.entries.insert name true)[name']? = some true
  rw [Std.TreeMap.getElem?_insert, h, ite_self]

/-! ### Handlers that never fail -/

/-- Every handler returns a value, whatever it is called with. -/
def Registry.NeverFails (r : Registry) : Prop :=
  ∀ (descriptor : String) (entry : Registration), r.entries[descriptor]? = some entry →
    ∀ call, ∃ v, entry.handler call = .ok v

namespace Registry

theorem neverFails_empty : empty.NeverFails := by
  intro descriptor entry hentry
  simp [empty] at hentry

theorem NeverFails.insert {r : Registry} (h : r.NeverFails) (method : MethodRef) {handler : Handler}
    (hhandler : ∀ call, ∃ v, handler call = .ok v) : (r.insert method handler).NeverFails := by
  intro descriptor entry hentry call
  rw [Registry.insert, Std.TreeMap.getElem?_insert] at hentry
  split at hentry
  · obtain rfl := Option.some.inj hentry
    exact hhandler call
  · exact h descriptor entry hentry call

theorem NeverFails.emulate {r : Registry} (h : r.NeverFails) {descriptor : String}
    (hcan : r.canEmulate descriptor = true) (frame : Frame) :
    ∃ store, r.emulate frame descriptor = .ok store := by
  rw [canEmulate, Std.TreeMap.contains_eq_isSome_getElem?, Option.isSome_iff_exists] at hcan
  obtain ⟨entry, hentry⟩ := hcan
  obtain ⟨v, hv⟩ := h descriptor entry hentry ⟨frame, entry.method⟩
  exact ⟨⟨entry.method.returns, v⟩, by simp only [Registry.emulate, hentry, hv]⟩

end Registry

/-! ### What is compared -/

/-- The first outcome of a call is that of the more cautious side: the call was dealt with alike,
and no register is lost on the other side alone. -/
structure Outcome.MoreCautious (o o' : Outcome) : Prop where
  /-- The call was dealt with alike. -/
  disposition : o.disposition = o'.disposition
  /-- What is lost on the other side is lost on this. -/
  invalidated : ∀ r ∈ o'.invalidated, r ∈ o.invalidated

/-- `f` is `g` with more entries lost, all of them under types that are not immutable. -/
structure Frame.Poorer (immutable : TypeDescriptor → Bool) (f g : Frame) : Prop where
  /-- The frames have the same outline. -/
  outline : g.Outline f
  /-- Every entry is that of the other frame, or was lost. -/
  entries : ∀ r p, (f.history r).at? p = (g.history r).at? p ∨
    ∃ type, immutable type = false ∧ (f.history r).at? p = some (.invalidated type)

/-- Two analyses of the same classes and the same handlers, which never fail. The metadata of the
first are more cautious. -/
structure Analysis.MoreCautious (a b : Analysis) : Prop where
  /-- The handlers are the same. -/
  registry : b.registry = a.registry
  /-- The classes are the same. -/
  catalog : b.catalog = a.catalog
  /-- The handlers never fail. -/
  neverFails : a.registry.NeverFails
  /-- The metadata of the first are more cautious. -/
  metadata : a.resolver.metadata.MoreCautious b.resolver.metadata

namespace Frame

/-- The slots of a call are the same in all frames, except for the type of the instance. -/
theorem mem_slots_or_instance (f : Frame) {g : Frame} {call : Invocation} {point : Nat}
    {slot : UInt16 × TypeDescriptor} (h : slot ∈ g.slots call point) :
    slot ∈ f.slots call point ∨
      slot.2 = g.instanceType call point ∧
        (slot.1, f.instanceType call point) ∈ f.slots call point := by
  rw [slots, passedTypes] at h ⊢
  cases hstatic : call.isStatic with
  | true =>
    rw [hstatic, if_pos rfl] at h
    exact Or.inl h
  | false =>
    rw [hstatic, if_neg Bool.false_ne_true] at h
    rw [if_neg Bool.false_ne_true]
    cases hregisters : call.registers with
    | nil =>
      rw [hregisters] at h
      exact absurd h List.not_mem_nil
    | cons register registers =>
      rw [hregisters, List.zip_cons_cons] at h
      rw [List.zip_cons_cons]
      rcases List.mem_cons.mp h with rfl | h
      · exact Or.inr ⟨rfl, List.mem_cons_self⟩
      · exact Or.inl (List.mem_cons_of_mem _ h)

variable {immutable : TypeDescriptor → Bool} {f g : Frame}

theorem Poorer.refl (immutable : TypeDescriptor → Bool) (f : Frame) : f.Poorer immutable f where
  outline := .refl f
  entries := fun _ _ => Or.inl rfl

/-- What is read is what is read in the other frame, or was lost. -/
theorem Poorer.read? (h : f.Poorer immutable g) (r : UInt16) (q : Nat) :
    f.read? r q = g.read? r q ∨
      ∃ type, immutable type = false ∧ f.read? r q = some (.invalidated type) :=
  History.read?_eq_or_lost (h.entries r) q

/-- The instance is known under the same type, or under one that is not immutable. -/
theorem Poorer.instanceType (h : f.Poorer immutable g) (call : Invocation) (point : Nat) :
    f.instanceType call point = g.instanceType call point ∨
      immutable (f.instanceType call point) = false := by
  rw [Frame.instanceType, Frame.instanceType]
  cases call.registers.head? with
  | none => exact Or.inl rfl
  | some r =>
    rw [Option.bind_some, Option.bind_some]
    rcases h.read? r point with heq | ⟨type, htype, hread⟩
    · exact Or.inl (by rw [heq])
    · exact Or.inr (by rw [hread]; exact htype)

end Frame

namespace Analysis

/-! ### One call -/

/-- A register that is lost at a call is left with a type that is not immutable. -/
theorem lost_dispatch {a : Analysis} (ha : a.Faithful) {caller : Frame} {call : Invocation}
    {point : Nat} {r : UInt16} (hr : r ∈ (a.dispatch caller call point).invalidated) :
    ∃ type, a.immutable type = false ∧
      ((a.dispatch caller call point).caller.history r).at? point = some (.invalidated type) := by
  cases hruling : a.ruling caller call point with
  | refused e =>
    rw [dispatch_of_refused hruling] at hr
    exact absurd hr List.not_mem_nil
  | returns store =>
    rw [dispatch_of_returns hruling] at hr
    exact absurd hr List.not_mem_nil
  | approximated events d =>
    obtain ⟨o, ho, -, happrox⟩ := approximates_of_ruling ha hruling
    rw [Effect.invalidated, ho] at hr
    obtain ⟨type, hfind, hat⟩ := happrox.lost r hr
    have huse := List.find?_some hfind
    rw [Bool.and_eq_true_iff, Bool.not_eq_true'] at huse
    exact ⟨type, huse.2, hat⟩

namespace MoreCautious

variable {a b : Analysis} {f g : Frame}

/-- What is immutable on the more cautious side is immutable on the other. -/
theorem immutable (h : a.MoreCautious b) {type : TypeDescriptor}
    (htype : a.immutable type = true) : b.immutable type = true := by
  rw [immutable_iff] at htype ⊢
  rw [h.catalog]
  rcases htype with hprimitive | hclass | ⟨hnone, name, hname, hfinal⟩
  · exact Or.inl hprimitive
  · exact Or.inr (Or.inl hclass)
  · exact Or.inr (Or.inr ⟨hnone, name, hname, h.metadata name hfinal⟩)

/-- The two sides stay comparable while they are in use. -/
theorem becomes {a' b' : Analysis} (h : a.MoreCautious b) (ha : a.Becomes a')
    (hb : b.Becomes b') : a'.MoreCautious b' where
  registry := hb.registry.trans (h.registry.trans ha.registry.symm)
  catalog := hb.catalog.trans (h.catalog.trans ha.catalog.symm)
  neverFails := ha.registry ▸ h.neverFails
  metadata := by
    rw [ha.metadata, hb.metadata]
    exact h.metadata

/-- Both sides rule alike, up to what the handlers return. -/
theorem ruling (h : a.MoreCautious b) (houtline : g.Outline f) (call : Invocation) (point : Nat) :
    (∃ e, a.ruling f call point = .refused e ∧ b.ruling g call point = .refused e) ∨
      (∃ s t, a.ruling f call point = .returns s ∧ b.ruling g call point = .returns t) ∨
      ∃ events d, a.ruling f call point = .approximated events d ∧
        b.ruling g call point = .approximated events d := by
  obtain ⟨callee, hcallee, -⟩ := f.callee_ok call point
  obtain ⟨callee', hcallee', -⟩ := g.callee_ok call point
  have houtside : firstOutside? g call.registers = firstOutside? f call.registers := by
    rw [firstOutside?, firstOutside?, houtline.registerCount]
  have hdisposition : b.disposition g call.method.descriptor =
      a.disposition f call.method.descriptor := by
    simp only [disposition, h.registry, h.catalog, houtline.depth]
  rw [Analysis.ruling, Analysis.ruling, houtside, hcallee, hcallee']
  cases firstOutside? f call.registers with
  | some r =>
    refine Or.inl ⟨_, rfl, ?_⟩
    simp only [houtline.registerCount]
  | none =>
    simp only [rulingOn, hdisposition, h.registry]
    cases hd : a.disposition f call.method.descriptor with
    | emulated =>
      have hcan := (disposition_eq_emulated_iff.mp hd).2
      obtain ⟨s, hs⟩ := h.neverFails.emulate hcan callee
      obtain ⟨t, ht⟩ := h.neverFails.emulate hcan callee'
      exact Or.inr (Or.inl ⟨s, t, by rw [hs], by rw [ht]⟩)
    | deferredKnown => exact Or.inr (Or.inr ⟨_, _, rfl, rfl⟩)
    | blackBox => exact Or.inr (Or.inr ⟨_, _, rfl, rfl⟩)

/-- **What a call exposes.** A slot that exposes its register on the other side does so on the more
cautious side, also the slot of the instance. -/
theorem exposes (h : a.MoreCautious b) (hpoorer : f.Poorer a.immutable g) {call : Invocation}
    {point : Nat} {r : UInt16} (hr : b.exposes g call point r = true) :
    a.exposes f call point r = true := by
  have hmutable : ∀ type, b.immutable type = false → a.immutable type = false := by
    intro type htype
    by_contra hne
    rw [h.immutable (Bool.eq_true_of_not_eq_false hne)] at htype
    exact Bool.false_ne_true htype.symm
  have hinstance : b.immutable (g.instanceType call point) = false →
      a.immutable (f.instanceType call point) = false := by
    intro htype
    rcases hpoorer.instanceType call point with heq | hlost
    · rw [heq]
      exact hmutable _ htype
    · exact hlost
  rw [Analysis.exposes, List.any_eq_true] at hr ⊢
  obtain ⟨slot, hslot, huse⟩ := hr
  rw [Bool.and_eq_true_iff, Bool.not_eq_true'] at huse
  rcases f.mem_slots_or_instance hslot with hsame | ⟨htype, hinst⟩
  · exact ⟨slot, hsame, by simp [huse.1, hmutable _ huse.2]⟩
  · rw [htype] at huse
    exact ⟨_, hinst, by simp [huse.1, hinstance huse.2]⟩

/-- What came of a call on both sides. -/
theorem alike (h : a.MoreCautious b) (ha : a.Faithful) (hb : b.Faithful)
    (hpoorer : f.Poorer a.immutable g) (call : Invocation) (point : Nat) :
    Alike Outcome.MoreCautious (a.dispatch f call point).outcome
      (b.dispatch g call point).outcome := by
  obtain ⟨e, hf, hg⟩ | ⟨s, t, hf, hg⟩ | ⟨events, d, hf, hg⟩ := h.ruling hpoorer.outline call point
  · rw [dispatch_of_refused hf, dispatch_of_refused hg]
    exact .refused e
  · rw [dispatch_of_returns hf, dispatch_of_returns hg]
    exact .completed ⟨rfl, fun r hr => hr⟩
  · obtain ⟨o, ho, rfl, happrox⟩ := approximates_of_ruling ha hf
    obtain ⟨o', ho', hd, happrox'⟩ := approximates_of_ruling hb hg
    rw [ho, ho']
    refine .completed ⟨hd.symm, fun r hr => ?_⟩
    rw [happrox'.invalidated, List.mem_filter] at hr
    rw [happrox.invalidated, List.mem_filter]
    exact ⟨hr.1, h.exposes hpoorer hr.2⟩

end MoreCautious

theorem invalidated_of_alike {e e' : Effect}
    (h : Alike Outcome.MoreCautious e.outcome e'.outcome) :
    ∀ r ∈ e'.invalidated, r ∈ e.invalidated := by
  intro r hr
  rw [Effect.invalidated] at hr ⊢
  generalize e.outcome = x at h ⊢
  generalize e'.outcome = y at h hr
  cases h with
  | refused err => exact hr
  | completed hcautious => exact hcautious.invalidated r hr

/-- **One call on both sides.** The frame of the more cautious side stays the poorer one. -/
theorem MoreCautious.dispatch {a b : Analysis} {f g : Frame} (h : a.MoreCautious b)
    (ha : a.Faithful) (hb : b.Faithful) (hpoorer : f.Poorer a.immutable g) (call : Invocation)
    (point : Nat) :
    (a.dispatch f call point).caller.Poorer a.immutable (b.dispatch g call point).caller := by
  have hsubset := invalidated_of_alike (h.alike ha hb hpoorer call point)
  obtain ⟨houtline, -, hkept⟩ := a.dispatch_changes f call point
  obtain ⟨houtline', -, hkept'⟩ := b.dispatch_changes g call point
  refine ⟨?_, fun r p => ?_⟩
  · exact houtline'.symm.trans (hpoorer.outline.trans houtline)
  · by_cases hlost : p = point ∧ r ∈ (a.dispatch f call point).invalidated
    · obtain ⟨rfl, hr⟩ := hlost
      exact Or.inr (lost_dispatch ha hr)
    · -- What is not lost here is not lost on the other side either.
      rw [not_and_or] at hlost
      rw [hkept r p hlost, hkept' r p (hlost.imp_right fun hr hr' => hr (hsubset r hr'))]
      exact hpoorer.entries r p

/-! ### Runs -/

/-- **More cautious metadata never lead to more being known.** On both sides the same calls are
refused, for the same reasons, and the others are dealt with alike; at each of them the more
cautious side loses what the other loses. In the end, what it reads anywhere is what the other
reads, or was lost. -/
theorem dispatchEach_moreCautious {a b : Analysis} (ha : a.Reachable) (hb : b.Reachable)
    (h : a.MoreCautious b) (frame : Frame) (sites : List CallSite) :
    let run := a.dispatchEach frame sites
    let run' := b.dispatchEach frame sites
    List.Forall₂ (fun x y => x.1 = y.1 ∧ Alike Outcome.MoreCautious x.2 y.2)
        run.reports run'.reports ∧
      ∀ r q, (∃ store, run.frame.read? r q = some store ∧ store.value = .unknown .invalidated) ∨
        run.frame.read? r q = run'.frame.read? r q := by
  intro run run'
  obtain ⟨hreports, hpoorer⟩ := dispatchEach_lockstep ha.faithful hb.faithful
    (fun _ f _ g => f.Poorer a.immutable g) (fun _ => Alike Outcome.MoreCautious)
    (fun ha' hb' hpoorer site => by
      rw [← ha'.immutable] at hpoorer ⊢
      have h' := h.becomes ha' hb'
      exact ⟨h'.alike ha'.faithful hb'.faithful hpoorer site.call site.point,
        h'.dispatch ha'.faithful hb'.faithful hpoorer site.call site.point⟩)
    (Frame.Poorer.refl a.immutable frame) sites
  refine ⟨hreports, fun r q => ?_⟩
  rcases hpoorer.read? r q with heq | ⟨type, -, hread⟩
  · exact Or.inr heq
  · exact Or.inl ⟨.invalidated type, hread, rfl⟩

end Analysis

/-! ### A class that may not be final

Strings are immutable on both sides, but only on one of them are the objects that `sharingCall`
takes. After the first call the other side knows the instance of the second as such an object, and
no longer as a string. The last call is emulated. -/

/-- A call without arguments that is emulated by `answering`. -/
def answeredCall : Invocation where
  opcode := ⟨.static, .compact⟩
  operands := .compact ⟨0, #v[0, 0, 0, 0, 0], by decide, by simp⟩
  method := ⟨⟨"La;"⟩, "answer", [], ⟨"I"⟩⟩
  addressing_eq := rfl
  count_eq := by decide

/-- An analysis that emulates one method. -/
def answering (table : TypeTable) : Analysis :=
  .new .empty (Registry.empty.insert answeredCall.method (.const (.int 42))) table.metadata {}

/-- The table in which strings are immutable. -/
def sealedStrings : TypeTable := TypeTable.empty.insert "java.lang.String" true

theorem dispatchEach_moreCautious_sharing :
    let sites : List CallSite := [⟨sharingCall, 4⟩, ⟨sharingCall, 5⟩, ⟨answeredCall, 6⟩]
    let run := (answering sealedStrings).dispatchEach sharedReceiver sites
    let run' := (answering (sealedStrings.insert "a" true)).dispatchEach sharedReceiver sites
    run.reports.map (·.2) = [.ok ⟨.blackBox, some .callResult, [1, 2], [0]⟩,
        .ok ⟨.blackBox, some .callResult, [1, 2], [0]⟩,
        .ok ⟨.emulated, some ⟨⟨"I"⟩, .int 42⟩, [], []⟩] ∧
      run'.reports.map (·.2) = [.ok ⟨.blackBox, some .callResult, [0, 1, 2], []⟩,
        .ok ⟨.blackBox, some .callResult, [0, 1, 2], []⟩,
        .ok ⟨.emulated, some ⟨⟨"I"⟩, .int 42⟩, [], []⟩] ∧
      run.frame.read? 0 4 = some (.invalidated ⟨"La;"⟩) ∧
      run'.frame.read? 0 4 = some ⟨⟨"Ljava/lang/String;"⟩, .string "s"⟩ ∧
      ∀ r q, (∃ store, run.frame.read? r q = some store ∧ store.value = .unknown .invalidated) ∨
        run.frame.read? r q = run'.frame.read? r q := by
  intro sites run run'
  have hcautious : (answering sealedStrings).MoreCautious
      (answering (sealedStrings.insert "a" true)) :=
    { registry := rfl
      catalog := rfl
      neverFails := Registry.neverFails_empty.insert _ fun _ => ⟨_, rfl⟩
      metadata := sealedStrings.moreCautious_insert "a" }
  have hanswering : ∀ table, (answering table).Reachable := fun _ => .new _ _ _ _
  obtain ⟨-, hread⟩ := Analysis.dispatchEach_moreCautious (hanswering _) (hanswering _) hcautious
    sharedReceiver sites
  exact ⟨by decide, by decide, by decide, by decide, hread⟩

end CallEffects
