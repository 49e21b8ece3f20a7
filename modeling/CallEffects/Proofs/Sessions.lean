import CallEffects.Proofs.CatalogScan
import CallEffects.Proofs.Lockstep
import CallEffects.Proofs.Refusals
import Mathlib.Data.List.Dedup
import Mathlib.Data.Nat.Bitwise

/-!
# Sessions

An analysis is used for a while: calls are dispatched on all kinds of frames, types are asked for, and
settings, metadata and log are exchanged. The verdicts that were kept survive all of this except new
settings and new metadata, which drop them, and at every moment a verdict that is given out is the one
that the classes of the program and the metadata of that moment lead to.

A session is followed on paper by a ledger: the metadata and the settings that are in force, and the
types that were looked up since the verdicts were last dropped. Which types an operation looks up is
read off its effect, so the ledger knows nothing of what is kept, and the number of verdicts that are
kept can be compared with it.

## Main definitions

* `TypeDescriptor.dottedName?` — the name under which the metadata know a class
* `Verdict.on` — the verdict on a type, from the classes and the metadata
* `Operation`, `Analysis.after` — what can be done with an analysis, and a session
* `Operation.resolves` — the types that an operation looks up
* `Ledger`, `Analysis.ledger` — what a session amounts to on paper
* `Resolver.consult`, `noteAll` — the verdicts that a call is given, and what they lead to
* `Analysis.UpToDate` — all verdicts are those of the given classes and metadata

## Main results

* `judgeSlots_eq` — judging is asking for all verdicts and noting them
* `Ledger.Tallies.enter` — what an operation does, the ledger does on paper
* `Ledger.Tallies.keptCount` — the number of verdicts that are kept
* `Analysis.after_upToDate` — verdicts and their number, at every moment of a session
-/

namespace CallEffects

/-- The name under which the metadata know a class: what stands between `L` and `;` in its text, if
anything does, with a dot for every slash. -/
def TypeDescriptor.dottedName? (type : TypeDescriptor) : Option String :=
  let name := type.text.toList.tail.dropLast
  if name ≠ [] ∧ type.text.toList = 'L' :: (name ++ [';']) then
    some (String.ofList (name.map fun c => if c = '/' then '.' else c))
  else none

/-- The verdict on a type in a program of the given classes. A primitive type is immutable whatever
else is known; of the classes of a type the first one counts, and of its flags the bit `0x10`; the
metadata are asked for classes that the program does not have. -/
def Verdict.on (classes : List ClassDef) (metadata : Metadata) (type : TypeDescriptor) : Verdict :=
  if type.text ∈ ["Z", "B", "S", "C", "I", "J", "F", "D"] then ⟨true, .primitive⟩
  else
    match classes.find? (·.type = type) with
    | some c => ⟨c.flags.bits &&& 0x10 ≠ 0, .catalog⟩
    | none =>
      match type.dottedName?.bind metadata.isFinal? with
      | some isFinal => ⟨isFinal, .platform⟩
      | none => ⟨false, .unresolved⟩

/-- The primitive types are eight. -/
theorem TypeDescriptor.isPrimitive_iff (type : TypeDescriptor) :
    type.isPrimitive = true ↔ type.text ∈ ["Z", "B", "S", "C", "I", "J", "F", "D"] := by
  have htexts : ["Z", "B", "S", "C", "I", "J", "F", "D"] =
      primitiveCodes.map fun c => String.ofList [c] := rfl
  rw [htexts, List.mem_map, isPrimitive]
  constructor
  · intro h
    split at h
    case h_1 c hc => exact ⟨c, List.contains_iff_mem.mp h, by rw [← hc, String.ofList_toList]⟩
    case h_2 => exact nomatch h
  · rintro ⟨c, hc, htext⟩
    rw [← htext, String.toList_ofList]
    exact List.contains_iff_mem.mpr hc

theorem TypeDescriptor.qualifiedName?_eq_dottedName? (type : TypeDescriptor) :
    type.qualifiedName? = type.dottedName? := by
  have hclass : type.isClass = true ↔ type.text.toList.tail.dropLast ≠ [] ∧
      type.text.toList = 'L' :: (type.text.toList.tail.dropLast ++ [';']) := by
    rw [isClass_iff]
    constructor
    · rintro ⟨name, hname, htext⟩
      simp only [htext, List.tail_cons, List.dropLast_concat]
      exact ⟨hname, trivial⟩
    · rintro ⟨hname, htext⟩
      exact ⟨_, hname, htext⟩
  rw [qualifiedName?, dottedName?, List.drop_one]
  exact if_congr hclass rfl rfl

theorem ClassDef.isFinal_eq (c : ClassDef) : c.isFinal = decide (c.flags.bits &&& 0x10 ≠ 0) := by
  have hbit : (c.flags.bits &&& 0x10).toNat = (c.flags.bits.toNat.testBit 4).toNat * 2 ^ 4 :=
    Nat.and_two_pow c.flags.bits.toNat 4
  rw [isFinal, AccessFlags.isFinal, AccessFlags.has, Bool.beq_eq_decide_eq, decide_eq_decide, ne_eq,
    ← UInt32.toNat_inj, ← UInt32.toNat_inj, hbit]
  cases c.flags.bits.toNat.testBit 4 <;> decide

/-! ### Verdicts in turn -/

namespace Resolver

/-- The verdicts on several types, asked for in turn, and the resolver that has kept them. -/
def consult (r : Resolver) : List TypeDescriptor → List Verdict × Resolver
  | [] => ([], r)
  | type :: types =>
    let (v, r) := r.verdict type
    let (vs, r) := r.consult types
    (v :: vs, r)

/-- A faithful resolver gives the verdicts that would be found anew. -/
theorem fst_consult {r : Resolver} (h : r.Faithful) (types : List TypeDescriptor) :
    (r.consult types).1 = types.map r.resolve := by
  induction types generalizing r with
  | nil => rfl
  | cons type types ih =>
    have hresolve := resolve_congr (r.catalog_verdict type) (r.metadata_verdict type)
    have hrest := ih (faithful_verdict h type)
    rw [hresolve] at hrest
    rw [consult, List.map_cons, ← fst_verdict h, ← hrest]

/-- From first principles, a verdict is a matter of the classes and the metadata. -/
theorem resolve_eq_on {r : Resolver} {classes : List ClassDef} (h : r.catalog = .ofList classes)
    (type : TypeDescriptor) : r.resolve type = .on classes r.metadata type := by
  have hclass : r.catalog.class? type.text = classes.find? (·.type = type) := by
    rw [h, Catalog.class?_ofList]
    refine congrArg (classes.find? ·) (funext fun d => ?_)
    obtain ⟨⟨text⟩, flags, methods⟩ := d
    obtain ⟨text'⟩ := type
    simp [Catalog.definedAs, Bool.beq_eq_decide_eq]
  simp only [resolve, lookUp, Verdict.on, hclass, ClassDef.isFinal_eq,
    TypeDescriptor.qualifiedName?_eq_dottedName?]
  exact if_congr type.isPrimitive_iff rfl rfl

end Resolver

/-- The judgements on slots for which the verdicts are given. -/
def noteAll (judged : List Judgement) (slots : List (UInt16 × TypeDescriptor))
    (verdicts : List Verdict) : List Judgement :=
  (slots.zip verdicts).foldl
    (fun judged (slot, v) => noteUse ⟨slot.1, slot.2, v.immutable⟩ judged) judged

/-- **Judging** is asking for the verdicts on the types of all slots, in turn, and noting them. -/
theorem judgeSlots_eq (r : Resolver) (judged : List Judgement)
    (slots : List (UInt16 × TypeDescriptor)) :
    judgeSlots r judged slots =
      (noteAll judged slots (r.consult (slots.map (·.2))).1, (r.consult (slots.map (·.2))).2) := by
  induction slots generalizing r judged with
  | nil => rfl
  | cons slot slots ih =>
    obtain ⟨register, type⟩ := slot
    rw [judgeSlots_cons, ih]
    rfl

/-! ### Operations -/

/-- What can be done with an analysis. -/
inductive Operation where
  /-- Dispatch a call, on any frame. -/
  | dispatch (caller : Frame) (call : Invocation) (point : Nat)
  /-- Ask for the verdict on a type. -/
  | ask (type : TypeDescriptor)
  /-- Go on with other settings. -/
  | useSettings (settings : Settings)
  /-- Go on with other metadata. -/
  | useMetadata (metadata : Metadata)
  /-- Go on with another log. -/
  | useLog (log : EventLog)

/-- The call completed, and was emulated. -/
def Effect.isEmulated (e : Effect) : Bool :=
  match e.outcome with
  | .ok o => o.disposition = .emulated
  | .error _ => false

namespace Operation

/-- The analysis after an operation. -/
def apply (a : Analysis) : Operation → Analysis
  | dispatch caller call point => (a.dispatch caller call point).analysis
  | ask type => (a.verdict type).2
  | useSettings settings => a.withSettings settings
  | useMetadata metadata => a.withMetadata metadata
  | useLog log => a.withLog log

/-- The types that an operation looks up. A call looks up the types of all its slots, unless it passes
a register outside the frame or is emulated. -/
def resolves (a : Analysis) : Operation → List TypeDescriptor
  | dispatch caller call point =>
    if call.registers.all (· < caller.registerCount) &&
        !(a.dispatch caller call point).isEmulated then
      (caller.slots call point).map (·.2)
    else []
  | ask type => [type]
  | useSettings _ | useMetadata _ | useLog _ => []

/-- What a call looks up is what its ruling asks for. -/
theorem resolves_dispatch (a : Analysis) (caller : Frame) (call : Invocation) (point : Nat) :
    (dispatch caller call point).resolves a =
      (a.ruling caller call point).asked caller call point := by
  have hall : call.registers.all (· < caller.registerCount) =
      (Analysis.firstOutside? caller call.registers).isNone := by
    rw [Bool.eq_iff_iff, Option.isNone_iff_eq_none, Analysis.firstOutside?_eq_none_iff,
      List.all_eq_true]
    simp only [decide_eq_true_eq]
  rw [resolves, hall]
  cases hruling : a.ruling caller call point with
  | refused e =>
    obtain ⟨r, hr, -⟩ := Analysis.ruling_eq_refused_iff.mp hruling
    rw [hr]
    rfl
  | returns store =>
    rw [Analysis.dispatch_of_returns hruling]
    simp only [Effect.isEmulated, decide_true, Bool.not_true, Bool.and_false]
    rfl
  | approximated events d =>
    obtain ⟨hin, -⟩ := Analysis.exists_callee hruling nofun
    have hd := Analysis.ne_emulated_of_approximated hruling
    rw [Analysis.dispatch_of_approximated hruling, Ruling.asked, ← Frame.map_snd_slots, hin]
    simp only [Effect.isEmulated, hd, Option.isNone_none, decide_false, Bool.not_false,
      Bool.and_self, if_true]

end Operation

/-- The analysis after a session. -/
def Analysis.after (a : Analysis) (session : List Operation) : Analysis :=
  session.foldl Operation.apply a

/-! ### The ledger -/

/-- What a session amounts to on paper. -/
structure Ledger where
  /-- The metadata in force. -/
  metadata : Metadata
  /-- The settings in force. -/
  settings : Settings
  /-- The types that were looked up since the verdicts were last dropped. -/
  resolved : List TypeDescriptor

/-- Enter an operation on an analysis. New settings and new metadata start anew. -/
def Ledger.enter (l : Ledger) (a : Analysis) (op : Operation) : Ledger :=
  match op with
  | .useSettings settings => { l with settings := settings, resolved := [] }
  | .useMetadata metadata => { l with metadata := metadata, resolved := [] }
  | .dispatch _ _ _ | .ask _ | .useLog _ => { l with resolved := l.resolved ++ op.resolves a }

/-- The ledger after a session. -/
def Analysis.ledger (a : Analysis) (l : Ledger) : List Operation → Ledger
  | [] => l
  | op :: session => (op.apply a).ledger (l.enter a op) session

theorem Settings.keeps_append (s : Settings) (types types' : List TypeDescriptor) :
    s.keeps (types ++ types') = s.keeps types ∪ s.keeps types' := by
  ext text
  simp only [keeps, Set.mem_union, Set.mem_ofPred_eq, List.mem_append, or_and_right, exists_or,
    and_or_left]

namespace Ledger

/-- An analysis of a program agrees with the ledger. -/
structure Tallies (l : Ledger) (classes : List ClassDef) (a : Analysis) : Prop where
  /-- What is kept would be found anew. -/
  faithful : a.Faithful
  /-- The classes are those of the program. -/
  catalog : a.catalog = .ofList classes
  /-- The metadata are those in force. -/
  metadata : a.resolver.metadata = l.metadata
  /-- The settings are those in force. -/
  settings : a.settings = l.settings
  /-- What is kept was looked up since verdicts were last dropped. -/
  cached : a.resolver.cached = l.settings.keeps l.resolved

namespace Tallies

variable {l : Ledger} {classes : List ClassDef} {a : Analysis}

theorem new (classes : List ClassDef) (registry : Registry) (metadata : Metadata)
    (settings : Settings) :
    Tallies ⟨metadata, settings, []⟩ classes (.new (.ofList classes) registry metadata settings) where
  faithful := Analysis.faithful_new _ _ _ _
  catalog := rfl
  metadata := rfl
  settings := rfl
  cached := by
    rw [Settings.keeps_nil]
    exact Resolver.cached_new _ _ _

/-- A call keeps the types that its ruling asks for. -/
theorem dispatch (h : l.Tallies classes a) (caller : Frame) (call : Invocation) (point : Nat) :
    (l.enter a (.dispatch caller call point)).Tallies classes
      (a.dispatch caller call point).analysis := by
  have hbecomes := (Analysis.Becomes.refl h.faithful).dispatch caller call point
  refine ⟨hbecomes.faithful, hbecomes.catalog.trans h.catalog, hbecomes.metadata.trans h.metadata,
    hbecomes.settings.trans h.settings, ?_⟩
  rw [(Analysis.describes_ruling h.faithful caller call point).cached, h.cached, h.settings, enter,
    Operation.resolves_dispatch, Settings.keeps_append]

/-- A question keeps the type that was asked for. -/
theorem ask (h : l.Tallies classes a) (type : TypeDescriptor) :
    (l.enter a (.ask type)).Tallies classes (a.verdict type).2 := by
  have hkeeping : a.resolver.keeping type = l.settings.keeps [type] := by
    ext text
    simp only [Resolver.keeping, Settings.keeps, Set.mem_ofPred_eq, List.mem_singleton,
      exists_eq_left, h.faithful.isSome_kept, h.settings]
    constructor
    · rintro ⟨htext, hprim, hkeep⟩
      exact ⟨hkeep, hprim, htext⟩
    · rintro ⟨hkeep, hprim, htext⟩
      exact ⟨htext, hprim, hkeep⟩
  constructor
  case faithful =>
    exact ⟨Resolver.faithful_verdict h.faithful.resolver type,
      (a.resolver.isSome_kept_verdict type).trans h.faithful.isSome_kept⟩
  case catalog => exact (a.resolver.catalog_verdict type).trans h.catalog
  case metadata => exact (a.resolver.metadata_verdict type).trans h.metadata
  case settings => exact h.settings
  case cached =>
    show (a.resolver.verdict type).2.cached = _
    rw [Resolver.cached_verdict h.faithful.resolver, h.cached, hkeeping, enter, Operation.resolves,
      Settings.keeps_append]

/-- Dropping the verdicts starts anew. -/
theorem restarted (h : l.Tallies classes a) (metadata : Metadata) (settings : Settings) :
    Tallies ⟨metadata, settings, []⟩ classes
      { a with settings, resolver := .new a.catalog metadata settings.keepVerdicts } where
  faithful := ⟨Resolver.faithful_new _ _ _, Resolver.isSome_kept_new _ _ _⟩
  catalog := h.catalog
  metadata := rfl
  settings := rfl
  cached := by
    rw [Settings.keeps_nil]
    exact Resolver.cached_new _ _ _

/-- A verdict that is found anew is the one of the program and the metadata in force. -/
theorem resolve (h : l.Tallies classes a) : a.resolver.resolve = Verdict.on classes l.metadata := by
  funext type
  rw [Resolver.resolve_eq_on h.catalog, h.metadata]

/-- **What an operation does, the ledger does on paper.** -/
theorem enter (h : l.Tallies classes a) (op : Operation) :
    (l.enter a op).Tallies classes (op.apply a) := by
  cases op with
  | dispatch caller call point => exact h.dispatch caller call point
  | ask type => exact h.ask type
  | useSettings settings =>
    have hledger : l.enter a (.useSettings settings) = ⟨a.resolver.metadata, settings, []⟩ := by
      rw [h.metadata]
      rfl
    rw [hledger]
    exact h.restarted a.resolver.metadata settings
  | useMetadata metadata =>
    have hledger : l.enter a (.useMetadata metadata) = ⟨metadata, a.settings, []⟩ := by
      rw [h.settings]
      rfl
    rw [hledger]
    exact h.restarted metadata a.settings
  | useLog log =>
    refine ⟨⟨h.faithful.resolver, h.faithful.isSome_kept⟩, h.catalog, h.metadata, h.settings, ?_⟩
    rw [Ledger.enter, Operation.resolves, List.append_nil]
    exact h.cached

/-- A session does what its ledger says. -/
theorem after (h : l.Tallies classes a) (session : List Operation) :
    (a.ledger l session).Tallies classes (a.after session) := by
  induction session generalizing a l with
  | nil => exact h
  | cons op session ih => exact ih (h.enter op)

/-- The verdicts that are kept are as many as different types were looked up, primitive ones
apart. -/
theorem keptCount (h : l.Tallies classes a) :
    a.resolver.keptCount =
      if l.settings.keepVerdicts then (l.resolved.filter (!·.isPrimitive)).dedup.length else 0 := by
  have hsome : a.resolver.kept.isSome = l.settings.keepVerdicts := by
    rw [h.faithful.isSome_kept, h.settings]
  rw [Resolver.keptCount, ← hsome]
  cases hkept : a.resolver.kept with
  | none => rfl
  | some kept =>
    rw [hkept] at hsome
    -- The keys, as types, are the types that were looked up, each once.
    have hkeys : (kept.keys.map TypeDescriptor.mk).Perm
        (l.resolved.filter (!·.isPrimitive)).dedup := by
      have hinj : Function.Injective TypeDescriptor.mk := fun _ _ htext =>
        congrArg TypeDescriptor.text htext
      rw [List.perm_ext_iff_of_nodup (Std.TreeMap.nodup_keys.map hinj) (List.nodup_dedup _)]
      intro type
      have hcached : type.text ∈ a.resolver.cached ↔ type.text ∈ kept :=
        Resolver.mem_cached_of_kept hkept
      rw [h.cached, Settings.keeps, Set.mem_ofPred_eq] at hcached
      rw [List.mem_dedup, List.mem_filter, Bool.not_eq_true', List.mem_map]
      constructor
      · rintro ⟨text, htext, rfl⟩
        obtain ⟨-, ⟨text'⟩, hmem, hprim, rfl⟩ := hcached.mpr (Std.TreeMap.mem_keys.mp htext)
        exact ⟨hmem, hprim⟩
      · rintro ⟨hmem, hprim⟩
        exact ⟨type.text, Std.TreeMap.mem_keys.mpr (hcached.mp ⟨hsome.symm, type, hmem, hprim, rfl⟩),
          rfl⟩
    rw [if_pos Option.isSome_some]
    calc kept.size = kept.keys.length := Std.TreeMap.length_keys.symm
      _ = (kept.keys.map TypeDescriptor.mk).length := (List.length_map _).symm
      _ = (l.resolved.filter (!·.isPrimitive)).dedup.length := hkeys.length_eq

end Tallies

end Ledger

/-! ### Verdicts that are given out -/

namespace Analysis

/-- All verdicts that an analysis gives out are those of the given classes and metadata. -/
structure UpToDate (a : Analysis) (classes : List ClassDef) (metadata : Metadata) : Prop where
  /-- The verdict on a type that is asked for. -/
  asked : ∀ type, (a.verdict type).1 = .on classes metadata type
  /-- The verdicts on the types of the slots of a call that completes and is not emulated. They decide
  which registers keep their values and which lose them, and nothing else is looked up. -/
  used : ∀ caller call point o, (a.dispatch caller call point).outcome = .ok o →
    o.disposition ≠ .emulated →
      let slots := caller.slots call point
      let verdicts := (a.resolver.consult (slots.map (·.2))).1
      let judgements := noteAll [] slots verdicts
      verdicts = slots.map (fun slot => .on classes metadata slot.2) ∧
        o.retained = (judgements.filter (·.immutable)).map (·.register) ∧
        o.invalidated = (judgements.filter (!·.immutable)).map (·.register) ∧
        (a.dispatch caller call point).analysis.resolver =
          (a.resolver.consult (slots.map (·.2))).2
  /-- A call that is refused or emulated looks nothing up. -/
  spared : ∀ caller call point,
    (∀ o, (a.dispatch caller call point).outcome = .ok o → o.disposition = .emulated) →
      (a.dispatch caller call point).analysis.resolver = a.resolver

theorem upToDate_of_tallies {l : Ledger} {classes : List ClassDef} {a : Analysis}
    (h : l.Tallies classes a) : a.UpToDate classes l.metadata where
  asked type := by
    rw [← h.resolve]
    exact Resolver.fst_verdict h.faithful.resolver type
  used caller call point o ho hd := by
    intro slots verdicts judgements
    have hjudge : a.judge caller call point =
        (judgements, (a.resolver.consult (slots.map (·.2))).2) := judgeSlots_eq a.resolver [] slots
    have hverdicts : verdicts = slots.map (fun slot => .on classes l.metadata slot.2) := by
      have hconsult := Resolver.fst_consult h.faithful.resolver (slots.map (·.2))
      rw [h.resolve, List.map_map] at hconsult
      exact hconsult
    cases hruling : a.ruling caller call point with
    | refused e =>
      rw [dispatch_of_refused hruling] at ho
      exact nomatch ho
    | returns store =>
      rw [dispatch_of_returns hruling] at ho
      obtain rfl := Except.ok.inj ho
      exact absurd rfl hd
    | approximated events d =>
      rw [dispatch_of_approximated hruling] at ho ⊢
      obtain rfl := Except.ok.inj ho
      rw [hjudge, resolver_recordAll]
      exact ⟨hverdicts, rfl, rfl, rfl⟩
  spared caller call point hspared := by
    cases hruling : a.ruling caller call point with
    | refused e =>
      rw [dispatch_of_refused hruling]
      rfl
    | returns store =>
      rw [dispatch_of_returns hruling]
      exact a.resolver_recordAll _
    | approximated events d =>
      rw [dispatch_of_approximated hruling] at hspared
      exact absurd (hspared _ rfl) (ne_emulated_of_approximated hruling)

/-- **Verdicts are never stale.** At every moment of a session, whatever calls were dispatched, types
asked for and parts exchanged before it, every verdict that is given out is the one that the classes of
the program and the metadata in force lead to. The number of verdicts that are kept is then the number
of different types, primitive ones apart, that were looked up since the settings or the metadata were
last exchanged, and none if none are to be kept. -/
theorem after_upToDate (classes : List ClassDef) (registry : Registry) (metadata : Metadata)
    (settings : Settings) (session : List Operation) :
    let a := new (.ofList classes) registry metadata settings
    let ledger := a.ledger ⟨metadata, settings, []⟩ session
    (a.after session).UpToDate classes ledger.metadata ∧
      (a.after session).resolver.keptCount =
        if ledger.settings.keepVerdicts then
          (ledger.resolved.filter (!·.isPrimitive)).dedup.length
        else 0 := by
  intro a ledger
  have htallies : ledger.Tallies classes (a.after session) :=
    (Ledger.Tallies.new classes registry metadata settings).after session
  exact ⟨upToDate_of_tallies htallies, htallies.keptCount⟩

/-- A class that is final, declared a second time as one that is not. -/
def twiceDeclared : List ClassDef := [⟨⟨"La/B;"⟩, ⟨0x11⟩, #[]⟩, ⟨⟨"La/B;"⟩, ⟨0x1⟩, #[]⟩]

-- The string class is asked for before the metadata know it, and not again until they do.
theorem after_upToDate_exchanged :
    let metadata := (TypeTable.empty.insert "java.lang.String" true).metadata
    let session : List Operation := [.ask ⟨"Ljava/lang/String;"⟩, .useMetadata metadata,
      .ask ⟨"La/B;"⟩, .ask ⟨"I"⟩, .ask ⟨"La/B;"⟩]
    let a := (new (.ofList twiceDeclared) .empty .none {}).after session
    (a.verdict ⟨"La/B;"⟩).1 = ⟨true, .catalog⟩ ∧
      (a.verdict ⟨"Ljava/lang/String;"⟩).1 = ⟨true, .platform⟩ ∧
      (a.verdict ⟨"[Ljava/lang/String;"⟩).1 = ⟨false, .unresolved⟩ ∧
      a.resolver.keptCount = 1 := by
  intro metadata session a
  obtain ⟨h, hcount⟩ := after_upToDate twiceDeclared .empty .none {} session
  exact ⟨(h.asked _).trans (by decide), (h.asked _).trans (by decide),
    (h.asked _).trans (by decide), hcount.trans (by decide)⟩

end Analysis

end CallEffects
