import CallEffects.Immutability
import Mathlib.Data.Set.Basic

/-!
# Verdicts that were kept

A resolver answers from what it has kept. It is faithful when that never shows: every verdict that
is kept is the one that would be found anew. Resolvers start out faithful and answering keeps them
so, and then an answer is a function of the catalog and the metadata alone (`Resolver.resolve`),
whatever was asked before.

What was asked before does show in which descriptors are kept, so those are followed as a set.

## Main definitions

* `Resolver.Faithful` — what is kept would be found anew
* `Resolver.cached` — the descriptors whose verdicts are kept
* `Resolver.Answered` — a resolver after it was asked for some types

## Main results

* `Resolver.verdict_cases` — what answering can do to a faithful resolver
* `Resolver.fst_verdict` — the answer does not depend on what was kept
* `Resolver.cached_verdict` — an answer adds at most the descriptor that was asked for
-/

namespace CallEffects

namespace Resolver

/-- Every verdict that is kept is the one that would be found anew. -/
def Faithful (r : Resolver) : Prop :=
  ∀ kept, r.kept = some kept → ∀ text v, kept[text]? = some v → v = r.lookUp ⟨text⟩

/-- The descriptors whose verdicts are kept. -/
def cached (r : Resolver) : Set String := {text | ∃ kept, r.kept = some kept ∧ text ∈ kept}

/-- The descriptors that a resolver keeps when it is asked for a type: the descriptor itself, if
it is not primitive and anything is kept at all. -/
def keeping (r : Resolver) (type : TypeDescriptor) : Set String :=
  {text | text = type.text ∧ type.isPrimitive = false ∧ r.kept.isSome = true}

theorem mem_cached_of_kept {r : Resolver} {kept : Std.TreeMap String Verdict}
    (h : r.kept = some kept) {text : String} : text ∈ r.cached ↔ text ∈ kept := by
  constructor
  · rintro ⟨kept', hkept', hmem⟩
    obtain rfl : kept = kept' := Option.some.inj (h.symm.trans hkept')
    exact hmem
  · exact fun hmem => ⟨kept, h, hmem⟩

theorem cached_of_kept_none {r : Resolver} (h : r.kept = none) : r.cached = ∅ := by
  refine Set.eq_empty_of_forall_notMem ?_
  rintro text ⟨kept, hkept, -⟩
  rw [h] at hkept
  exact Option.some_ne_none kept hkept.symm

/-! ### A new resolver -/

theorem faithful_new (catalog : Catalog) (metadata : Metadata) (keep : Bool) :
    (new catalog metadata keep).Faithful := by
  intro kept hkept text v hv
  cases keep with
  | false => exact absurd hkept.symm (Option.some_ne_none kept)
  | true =>
    obtain rfl : ∅ = kept := Option.some.inj hkept
    simp at hv

theorem cached_new (catalog : Catalog) (metadata : Metadata) (keep : Bool) :
    (new catalog metadata keep).cached = ∅ := by
  cases keep with
  | false => exact cached_of_kept_none rfl
  | true =>
    refine Set.eq_empty_of_forall_notMem fun text htext => ?_
    have hmem : text ∈ (∅ : Std.TreeMap String Verdict) := (mem_cached_of_kept rfl).mp htext
    simp at hmem

theorem isSome_kept_new (catalog : Catalog) (metadata : Metadata) (keep : Bool) :
    (new catalog metadata keep).kept.isSome = keep := by
  cases keep <;> rfl

/-! ### Answering -/

/-- What answering can do to a faithful resolver: give the verdict that would be found anew, and
either change nothing or keep that verdict. -/
theorem verdict_cases {r : Resolver} (h : r.Faithful) (type : TypeDescriptor) :
    (r.verdict type = (r.resolve type, r) ∧ r.keeping type ⊆ r.cached) ∨
      ∃ kept, r.kept = some kept ∧ type.isPrimitive = false ∧
        r.verdict type =
          (r.resolve type, { r with kept := some (kept.insert type.text (r.lookUp type)) }) := by
  rw [verdict, resolve]
  cases hprim : type.isPrimitive with
  | true =>
    refine Or.inl ⟨rfl, ?_⟩
    rintro text ⟨-, hfalse, -⟩
    exact absurd (hprim.symm.trans hfalse) (by decide)
  | false =>
    cases hkept : r.kept with
    | none =>
      refine Or.inl ⟨rfl, ?_⟩
      rintro text ⟨-, -, hsome⟩
      rw [hkept] at hsome
      exact absurd hsome (by decide)
    | some kept =>
      cases hv : kept[type.text]? with
      | none => exact Or.inr ⟨kept, rfl, rfl, by simp [hv]⟩
      | some v =>
        refine Or.inl ⟨by simp [hv, h kept hkept type.text v hv], ?_⟩
        rintro text ⟨rfl, -, -⟩
        refine (mem_cached_of_kept hkept).mpr ?_
        rw [Std.TreeMap.mem_iff_isSome_getElem?, hv]
        rfl

/-- The answer does not depend on what was kept. -/
theorem fst_verdict {r : Resolver} (h : r.Faithful) (type : TypeDescriptor) :
    (r.verdict type).1 = r.resolve type := by
  obtain ⟨heq, -⟩ | ⟨kept, -, -, heq⟩ := verdict_cases h type <;> rw [heq]

/-- Verdicts from first principles depend on the catalog and the metadata alone. -/
theorem resolve_congr {r r' : Resolver} (hcatalog : r'.catalog = r.catalog)
    (hmetadata : r'.metadata = r.metadata) : r'.resolve = r.resolve := by
  funext type
  rw [resolve, resolve, lookUp, lookUp, hcatalog, hmetadata]

theorem faithful_verdict {r : Resolver} (h : r.Faithful) (type : TypeDescriptor) :
    (r.verdict type).2.Faithful := by
  obtain ⟨heq, -⟩ | ⟨kept, hkept, -, heq⟩ := verdict_cases h type
  · rw [heq]
    exact h
  · rw [heq]
    intro kept' hkept' text v hv
    obtain rfl := Option.some.inj hkept'
    rw [Std.TreeMap.getElem?_insert] at hv
    split at hv
    · rename_i hcmp
      obtain rfl : type.text = text := Std.LawfulEqCmp.compare_eq_iff_eq.mp hcmp
      exact (Option.some.inj hv).symm
    · exact h kept hkept text v hv

theorem isSome_kept_verdict (r : Resolver) (type : TypeDescriptor) :
    (r.verdict type).2.kept.isSome = r.kept.isSome := by
  rw [verdict]
  split
  · rfl
  · split
    · rfl
    · rename_i kept hkept
      split
      · rfl
      · simp [hkept]

/-- An answer adds at most the descriptor that was asked for. -/
theorem cached_verdict {r : Resolver} (h : r.Faithful) (type : TypeDescriptor) :
    (r.verdict type).2.cached = r.cached ∪ r.keeping type := by
  obtain ⟨heq, hsub⟩ | ⟨kept, hkept, hprim, heq⟩ := verdict_cases h type
  · rw [heq, Set.union_eq_self_of_subset_right hsub]
  · rw [heq]
    ext text
    rw [mem_cached_of_kept rfl, Std.TreeMap.mem_insert, Std.LawfulEqCmp.compare_eq_iff_eq,
      Set.mem_union, mem_cached_of_kept hkept]
    constructor
    · rintro (rfl | hmem)
      · exact Or.inr ⟨rfl, hprim, by rw [hkept]; rfl⟩
      · exact Or.inl hmem
    · rintro (hmem | ⟨rfl, -, -⟩)
      · exact Or.inr hmem
      · exact Or.inl rfl

/-! ### Answering again and again -/

/-- `r'` is `r` after it was asked for `types`: still faithful, on the same catalog and metadata,
and with the descriptors of these types kept beside the others. -/
structure Answered (r : Resolver) (types : List TypeDescriptor) (r' : Resolver) : Prop where
  /-- What is kept would be found anew. -/
  faithful : r'.Faithful
  /-- The catalog is the same. -/
  catalog : r'.catalog = r.catalog
  /-- The metadata are the same. -/
  metadata : r'.metadata = r.metadata
  /-- Verdicts are kept if they were before. -/
  isSome_kept : r'.kept.isSome = r.kept.isSome
  /-- The types that were asked for are kept beside the others. -/
  cached : r'.cached = r.cached ∪ {text | ∃ type ∈ types, text ∈ r.keeping type}

theorem Answered.nil {r : Resolver} (h : r.Faithful) : r.Answered [] r where
  faithful := h
  catalog := rfl
  metadata := rfl
  isSome_kept := rfl
  cached := by simp

theorem Answered.cons {r r' : Resolver} (h : r.Faithful) {type : TypeDescriptor}
    {types : List TypeDescriptor} (ha : (r.verdict type).2.Answered types r') :
    r.Answered (type :: types) r' where
  faithful := ha.faithful
  catalog := ha.catalog.trans (r.catalog_verdict type)
  metadata := ha.metadata.trans (r.metadata_verdict type)
  isSome_kept := ha.isSome_kept.trans (r.isSome_kept_verdict type)
  cached := by
    have hkeeping : ∀ t, (r.verdict type).2.keeping t = r.keeping t := by
      intro t
      rw [keeping, keeping, isSome_kept_verdict]
    rw [ha.cached, cached_verdict h, Set.union_assoc]
    simp only [hkeeping]
    congr 1
    ext text
    simp

end Resolver

end CallEffects
