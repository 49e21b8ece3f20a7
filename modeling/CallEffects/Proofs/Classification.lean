import CallEffects.Proofs.RoundTrip
import CallEffects.Proofs.Splitting

/-!
# Descriptors and their classifiers

There are two notions of what a type is. A list of descriptors is split by a grammar, and the
classifiers look at the outline of a text only: its length, how it begins and how it ends. They agree
on what the grammar lets through, up to one text. The grammar does not ask for a class name to have a
character, and `L;` is split off like any other class; the classifiers do ask, and for them it is
nothing at all. A type of that text has no dotted name, and no metadata are found for it.

## Main definitions

* `TypeDescriptor.Classified` — a type that is of exactly one kind
* `TypeDescriptor.nameless` — the class without a name

## Main results

* `TypeDescriptor.nameless_not_classified` — the class without a name is a parameter, but of no kind
* `TypeDescriptor.Wellformed.classified` — any other descriptor is of one kind
* `TypeDescriptor.splitList_insert_nameless`, `TypeDescriptor.parse_insert_nameless` — where the class
  without a name may stand
* `TypeDescriptor.splitList_classified` — the types in lists and among the parameters of methods
-/

namespace CallEffects

namespace TypeDescriptor

/-- A type is of exactly one kind, and has a dotted name if this is neither of the other two. -/
structure Classified (t : TypeDescriptor) : Prop where
  /-- It is either primitive or an array or a class. -/
  one : [t.isPrimitive, t.isArray, t.isClass].count true = 1
  /-- It has a dotted name unless it is primitive or an array. -/
  named : t.qualifiedName?.isSome = true ↔ t.isPrimitive = false ∧ t.isArray = false

/-- The class without a name. -/
def nameless : TypeDescriptor := ⟨"L;"⟩

/-- The class without a name is a list of one descriptor and a parameter of a method that can be read,
but of no kind, and without a dotted name. -/
theorem nameless_not_classified :
    splitList "L;" = .ok [nameless] ∧
      MethodRef.parse "La;->m(L;)V" = .ok ⟨⟨"La;"⟩, "m", [nameless], ⟨"V"⟩⟩ ∧
      [nameless.isPrimitive, nameless.isArray, nameless.isClass].count true = 0 ∧
      nameless.qualifiedName? = none ∧ ¬ nameless.Classified :=
  ⟨by decide +kernel, by decide +kernel, by decide, by decide, fun h => absurd h.one (by decide)⟩

/-! ### The outline of a descriptor -/

theorem isSome_qualifiedName? (t : TypeDescriptor) : t.qualifiedName?.isSome = t.isClass := by
  rw [qualifiedName?]
  cases t.isClass <;> rfl

section Outline

variable {t : TypeDescriptor}

theorem classified_of_letter {c : Char} (hc : c ∈ primitiveCodes) (h : t.text.toList = [c]) :
    t.Classified := by
  have hbracket : c ≠ '[' := by
    rintro rfl
    exact absurd hc (by decide)
  have hprimitive : t.isPrimitive = true := by simp [isPrimitive, h, hc]
  have harray : t.isArray = false := by simp [isArray, h, hbracket]
  have hclass : t.isClass = false := by
    rw [isClass, h]
    split
    · rename_i heq
      obtain ⟨-, rfl⟩ := List.cons.inj heq
      rfl
    · rfl
  exact ⟨by simp [hprimitive, harray, hclass],
    by simp [isSome_qualifiedName?, hprimitive, hclass]⟩

theorem classified_of_bracket {cs : List Char} (hcs : cs ≠ []) (h : t.text.toList = '[' :: cs) :
    t.Classified := by
  obtain ⟨c, cs, rfl⟩ := List.exists_cons_of_ne_nil hcs
  have hprimitive : t.isPrimitive = false := by simp [isPrimitive, h]
  have harray : t.isArray = true := by simp [isArray, h]
  have hclass : t.isClass = false := by simp [isClass, h]
  exact ⟨by simp [hprimitive, harray, hclass], by simp [isSome_qualifiedName?, harray, hclass]⟩

theorem classified_of_name {name : List Char} (hname : name ≠ [])
    (h : t.text.toList = 'L' :: (name ++ [';'])) : t.Classified := by
  have hprimitive : t.isPrimitive = false := by
    obtain ⟨c, cs, rfl⟩ := List.exists_cons_of_ne_nil hname
    simp [isPrimitive, h]
  have harray : t.isArray = false := by simp [isArray, h]
  have hclass : t.isClass = true := isClass_iff.mpr ⟨name, hname, h⟩
  exact ⟨by simp [hprimitive, harray, hclass],
    by simp [isSome_qualifiedName?, hprimitive, harray, hclass]⟩

/-- **A descriptor is of one kind**, unless it is the class without a name. -/
theorem Wellformed.classified (h : Wellformed t.text.toList) (hne : t ≠ nameless) :
    t.Classified := by
  generalize htext : t.text.toList = cs at h
  cases h with
  | primitive hc => exact classified_of_letter hc htext
  | @ofName name _ =>
    refine classified_of_name (fun hname => hne ?_) htext
    subst hname
    obtain ⟨text⟩ := t
    rw [nameless, mk.injEq, ← String.toList_inj]
    exact htext
  | array hcs => exact classified_of_bracket hcs.ne_nil htext

end Outline

/-! ### Descriptors that are read -/

theorem wellformed_of_mem_splitList {s : String} {types : List TypeDescriptor}
    (h : splitList s = .ok types) {t : TypeDescriptor} (ht : t ∈ types) :
    Wellformed t.text.toList :=
  spelled_iff.mp ((splitList_eq_ok_iff.mp h).spelled t ht)

theorem wellformed_of_mem_params {text : String} {m : MethodRef} (h : MethodRef.parse text = .ok m)
    {t : TypeDescriptor} (ht : t ∈ m.params) : Wellformed t.text.toList :=
  isValid_iff.mp ((MethodRef.parse_eq_ok_iff.mp h).1.params t ht).1

/-- The class without a name may stand anywhere in a list. -/
theorem splitList_insert_nameless {s s' : String} {types types' : List TypeDescriptor}
    (h : splitList s = .ok types) (h' : splitList s' = .ok types') :
    splitList (s ++ (nameless.text ++ s')) = .ok (types ++ nameless :: types') := by
  have hnameless : splitList nameless.text = .ok [nameless] := by decide +kernel
  rw [splitList_append h, splitList_append hnameless, h']
  rfl

/-- The class without a name may stand anywhere among the parameters of a method. -/
theorem parse_insert_nameless {text : String} {m : MethodRef} (h : MethodRef.parse text = .ok m)
    {params params' : List TypeDescriptor} (hparams : m.params = params ++ params') :
    let m' := { m with params := params ++ nameless :: params' }
    MethodRef.parse m'.descriptor = .ok m' := by
  intro m'
  obtain ⟨hreadable, -⟩ := MethodRef.parse_eq_ok_iff.mp h
  refine MethodRef.parse_eq_ok_iff.mpr ⟨{ hreadable with params := ?_ }, rfl⟩
  intro t ht
  rcases List.mem_append.mp ht with ht | ht
  · exact hreadable.params t (hparams ▸ List.mem_append_left params' ht)
  rcases List.mem_cons.mp ht with rfl | ht
  · exact ⟨by decide +kernel, by decide, by decide⟩
  · exact hreadable.params t (hparams ▸ List.mem_append_right params ht)

/-- **The types in a list that can be split, and the parameters of a method that can be read, are of
exactly one kind each**, and have a dotted name exactly if they are neither primitive nor arrays. The
class without a name is the one exception: it may stand anywhere in such a list and among such
parameters, but is of no kind, and has no dotted name. -/
theorem splitList_classified :
    (∀ (s : String) (types : List TypeDescriptor), splitList s = .ok types →
      ∀ t ∈ types, t ≠ nameless → t.Classified) ∧
    (∀ (text : String) (m : MethodRef), MethodRef.parse text = .ok m →
      ∀ t ∈ m.params, t ≠ nameless → t.Classified) ∧
    (∀ (s s' : String) (types types' : List TypeDescriptor),
      splitList s = .ok types → splitList s' = .ok types' →
        splitList (s ++ (nameless.text ++ s')) = .ok (types ++ nameless :: types')) ∧
    (∀ (text : String) (m : MethodRef) (params params' : List TypeDescriptor),
      MethodRef.parse text = .ok m → m.params = params ++ params' →
        let m' := { m with params := params ++ nameless :: params' }
        MethodRef.parse m'.descriptor = .ok m') ∧
    [nameless.isPrimitive, nameless.isArray, nameless.isClass].count true = 0 ∧
      nameless.qualifiedName? = none := by
  refine ⟨?_, ?_, ?_, ?_, by decide, by decide⟩
  · exact fun s types h t ht => (wellformed_of_mem_splitList h ht).classified
  · exact fun text m h t ht => (wellformed_of_mem_params h ht).classified
  · exact fun s s' types types' h h' => splitList_insert_nameless h h'
  · exact fun text m params params' h hparams => parse_insert_nameless h hparams

theorem splitList_classified_mixed :
    splitList "[L;Lé;ZL;" = .ok [⟨"[L;"⟩, ⟨"Lé;"⟩, ⟨"Z"⟩, nameless] ∧
      Classified ⟨"[L;"⟩ ∧ Classified ⟨"Lé;"⟩ ∧ Classified ⟨"Z"⟩ ∧
      MethodRef.parse "[I->m(LL;L;[J)V" = .ok ⟨⟨"[I"⟩, "m", [⟨"LL;"⟩, nameless, ⟨"[J"⟩], ⟨"V"⟩⟩ ∧
      Classified ⟨"LL;"⟩ ∧ Classified ⟨"[J"⟩ := by
  obtain ⟨htypes, hparams, hlist, hmethod, -⟩ := splitList_classified
  have hfront : splitList "[L;Lé;Z" = .ok [⟨"[L;"⟩, ⟨"Lé;"⟩, ⟨"Z"⟩] := by decide +kernel
  have hsplit : splitList "[L;Lé;ZL;" = .ok [⟨"[L;"⟩, ⟨"Lé;"⟩, ⟨"Z"⟩, nameless] := by
    have htext : "[L;Lé;ZL;" = "[L;Lé;Z" ++ (nameless.text ++ "") := by decide +kernel
    rw [htext, hlist _ _ _ _ hfront (by decide +kernel : splitList "" = .ok [])]
    rfl
  have hother : MethodRef.parse "[I->m(LL;[J)V" = .ok ⟨⟨"[I"⟩, "m", [⟨"LL;"⟩, ⟨"[J"⟩], ⟨"V"⟩⟩ := by
    decide +kernel
  have hparse : MethodRef.parse "[I->m(LL;L;[J)V" =
      .ok ⟨⟨"[I"⟩, "m", [⟨"LL;"⟩, nameless, ⟨"[J"⟩], ⟨"V"⟩⟩ := by
    have htext : "[I->m(LL;L;[J)V" =
        MethodRef.descriptor ⟨⟨"[I"⟩, "m", [⟨"LL;"⟩, nameless, ⟨"[J"⟩], ⟨"V"⟩⟩ := by decide +kernel
    have hinserted := hmethod _ _ [⟨"LL;"⟩] [⟨"[J"⟩] hother rfl
    rw [htext]
    exact hinserted
  have htype := htypes _ _ hsplit
  have hparam := hparams _ _ hparse
  exact ⟨hsplit, htype _ (by simp) (by decide), htype _ (by simp) (by decide),
    htype _ (by simp) (by decide), hparse, hparam _ (by simp) (by decide),
    hparam _ (by simp) (by decide)⟩

end TypeDescriptor

end CallEffects
