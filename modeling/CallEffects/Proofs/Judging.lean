import CallEffects.Judgement
import CallEffects.Proofs.Verdicts
import Mathlib.Data.List.Induction

/-!
# Judgements in closed form

`judgeSlots` goes through the slots of a call and revises its judgements as it meets the same
register again. The outcome can be said without the loop: the registers stand in the order of
their first use, each is judged by the first slot in which its type is mutable, and a register
without such a slot keeps its value.

## Main definitions

* `mutableUse?` — the first mutable type under which a register is passed
* `judgementOn`, `judgementsOn` — what becomes of one register, and of all

## Main results

* `noteUse_judgementsOn` — one more slot, noted in the closed form
* `fst_judgeSlots` — the judgements of a faithful resolver are the closed form
* `register_mem_of_mem_judgeSlots` — only registers that are passed are judged
* `answered_judgeSlots` — and the resolver was asked for the types of all slots
-/

namespace CallEffects

/-! ### The closed form -/

/-- The first mutable type under which a register is passed. -/
def mutableUse? (immutable : TypeDescriptor → Bool) (slots : List (UInt16 × TypeDescriptor))
    (register : UInt16) : Option TypeDescriptor :=
  (slots.find? fun slot => slot.1 == register && !immutable slot.2).map (·.2)

/-- What becomes of a register that is passed in the given slots. A register that keeps its value
is named with the type of its first slot. -/
def judgementOn (immutable : TypeDescriptor → Bool) (slots : List (UInt16 × TypeDescriptor))
    (register : UInt16) : Judgement :=
  match mutableUse? immutable slots register with
  | some type => ⟨register, type, false⟩
  | none => ⟨register, (slots.lookup register).getD .unresolved, true⟩

/-- What becomes of all registers that are passed, in the order of their first use. -/
def judgementsOn (immutable : TypeDescriptor → Bool) (slots : List (UInt16 × TypeDescriptor)) :
    List Judgement :=
  (slots.map (·.1)).eraseDups.map (judgementOn immutable slots)

variable {immutable : TypeDescriptor → Bool} {slots : List (UInt16 × TypeDescriptor)}

@[simp] theorem register_judgementOn (register : UInt16) :
    (judgementOn immutable slots register).register = register := by
  rw [judgementOn]
  split <;> rfl

theorem immutable_judgementOn (register : UInt16) :
    (judgementOn immutable slots register).immutable =
      (mutableUse? immutable slots register).isNone := by
  rw [judgementOn]
  split <;> simp [*]

/-! ### Registers in the order of first use -/

theorem eraseDups_concat (registers : List UInt16) (register : UInt16) :
    (registers ++ [register]).eraseDups =
      if register ∈ registers then registers.eraseDups else registers.eraseDups ++ [register] := by
  rw [List.eraseDups_append]
  by_cases hmem : register ∈ registers <;> simp [List.removeAll, List.eraseDups_cons, hmem]

theorem nodup_eraseDups (registers : List UInt16) : registers.eraseDups.Nodup := by
  induction registers using List.reverseRecOn with
  | nil => exact List.nodup_nil
  | append_singleton registers register ih =>
    rw [eraseDups_concat]
    split
    · exact ih
    · rename_i hmem
      rw [List.nodup_append]
      refine ⟨ih, List.pairwise_singleton _ register, fun r hr r' hr' => ?_⟩
      rintro rfl
      rw [List.mem_singleton.mp hr'] at hr
      exact hmem (List.mem_eraseDups.mp hr)

/-! ### One more slot -/

theorem mutableUse?_concat (register r : UInt16) (type : TypeDescriptor) :
    mutableUse? immutable (slots ++ [(register, type)]) r =
      (mutableUse? immutable slots r).or
        (if register = r ∧ immutable type = false then some type else none) := by
  rw [mutableUse?, List.find?_append, Option.map_or, mutableUse?, List.find?_cons, List.find?_nil]
  by_cases hr : register = r
  · cases himm : immutable type <;> simp [hr]
  · have hbeq : (register == r) = false := by simpa using hr
    simp [hr, hbeq]

theorem mutableUse?_of_not_mem {register : UInt16} (h : register ∉ slots.map (·.1)) :
    mutableUse? immutable slots register = none := by
  rw [mutableUse?, Option.map_eq_none_iff, List.find?_eq_none]
  intro slot hslot huse
  have hreg : slot.1 = register := by simpa using (Bool.and_eq_true_iff.mp huse).1
  exact h (hreg ▸ List.mem_map_of_mem hslot)

theorem isSome_lookup_iff {register : UInt16} :
    (slots.lookup register).isSome = true ↔ register ∈ slots.map (·.1) := by
  rw [List.lookup_isSome_iff, List.mem_map]
  constructor
  · rintro ⟨slot, hslot, hbeq⟩
    exact ⟨slot, hslot, (beq_iff_eq.mp hbeq).symm⟩
  · rintro ⟨slot, hslot, rfl⟩
    exact ⟨slot, hslot, beq_self_eq_true _⟩

theorem lookup_concat (register r : UInt16) (type : TypeDescriptor) :
    (slots ++ [(register, type)]).lookup r =
      (slots.lookup r).or (if r = register then some type else none) := by
  rw [List.lookup_append, List.lookup_cons, List.lookup_nil]
  by_cases hr : r = register
  · simp [hr]
  · have hbeq : (r == register) = false := by simpa using hr
    simp [hr, hbeq]

/-- A slot says nothing about the other registers. -/
theorem judgementOn_concat_of_ne {register r : UInt16} (type : TypeDescriptor)
    (hne : r ≠ register) :
    judgementOn immutable (slots ++ [(register, type)]) r = judgementOn immutable slots r := by
  rw [judgementOn, judgementOn, mutableUse?_concat, lookup_concat, if_neg fun h => hne h.1.symm,
    if_neg hne, Option.or_none, Option.or_none]

/-- The first slot of a register decides alone. -/
theorem judgementOn_concat_of_not_mem {register : UInt16} (type : TypeDescriptor)
    (h : register ∉ slots.map (·.1)) :
    judgementOn immutable (slots ++ [(register, type)]) register =
      ⟨register, type, immutable type⟩ := by
  have hlookup : slots.lookup register = none := by
    rw [← Option.not_isSome_iff_eq_none, isSome_lookup_iff]
    exact h
  rw [judgementOn, mutableUse?_concat, mutableUse?_of_not_mem h, lookup_concat, hlookup]
  cases himm : immutable type <;> simp

/-- A further slot of a register counts when its type is mutable and no earlier one was. -/
theorem judgementOn_concat_of_mem {register : UInt16} (type : TypeDescriptor)
    (h : register ∈ slots.map (·.1)) :
    judgementOn immutable (slots ++ [(register, type)]) register =
      if (judgementOn immutable slots register).immutable && !immutable type then
        ⟨register, type, immutable type⟩
      else judgementOn immutable slots register := by
  obtain ⟨first, hfirst⟩ := Option.isSome_iff_exists.mp (isSome_lookup_iff.mpr h)
  rw [judgementOn, mutableUse?_concat, lookup_concat, hfirst, judgementOn, hfirst]
  cases hmut : mutableUse? immutable slots register with
  | some earlier => simp
  | none => cases himm : immutable type <;> simp

/-- Noting a use of a register that was not used before. -/
theorem noteUse_of_not_mem {j : Judgement} {js : List Judgement}
    (h : j.register ∉ js.map (·.register)) : noteUse j js = js ++ [j] := by
  induction js with
  | nil => rfl
  | cons k ks ih =>
    rw [List.map_cons, List.mem_cons, not_or] at h
    rw [noteUse, if_neg (Ne.symm h.1), ih h.2, List.cons_append]

/-- Noting one more use of a register revises its judgement in its place. -/
theorem noteUse_of_mem {j : Judgement} {js : List Judgement}
    (hnodup : (js.map (·.register)).Nodup) (h : j.register ∈ js.map (·.register)) :
    noteUse j js =
      js.map fun k => if k.register = j.register ∧ (k.immutable && !j.immutable) then j else k := by
  induction js with
  | nil => exact absurd h List.not_mem_nil
  | cons k ks ih =>
    rw [List.map_cons, List.nodup_cons] at hnodup
    rw [noteUse, List.map_cons]
    by_cases hk : k.register = j.register
    · have hrest : ks.map (fun k => if k.register = j.register ∧ (k.immutable && !j.immutable)
          then j else k) = ks := by
        refine (List.map_congr_left fun l hl => if_neg fun hc => ?_).trans (List.map_id ks)
        exact hnodup.1 (hk ▸ hc.1 ▸ List.mem_map_of_mem hl)
      rw [if_pos hk, hrest]
      cases (k.immutable && !j.immutable) <;> simp [hk]
    · have hmem : j.register ∈ ks.map (·.register) := by
        rw [List.map_cons, List.mem_cons] at h
        exact h.resolve_left (Ne.symm hk)
      rw [if_neg hk, ih hnodup.2 hmem, if_neg fun hc => hk hc.1]

theorem map_register_judgementsOn :
    (judgementsOn immutable slots).map (·.register) = (slots.map (·.1)).eraseDups := by
  rw [judgementsOn, List.map_map]
  exact (List.map_congr_left fun r _ => register_judgementOn r).trans (List.map_id _)

/-- The registers that are judged one way or the other, in the order of their first use. -/
theorem map_register_filter_judgementsOn (p : Bool → Bool) :
    ((judgementsOn immutable slots).filter fun j => p j.immutable).map (·.register) =
      (slots.map (·.1)).eraseDups.filter fun r => p (mutableUse? immutable slots r).isNone := by
  rw [judgementsOn, List.filter_map, List.map_map]
  refine (List.map_congr_left fun r _ => register_judgementOn r).trans ?_
  rw [List.map_id']
  refine List.filter_congr fun r _ => ?_
  rw [Function.comp_apply, immutable_judgementOn]

/-- A register that loses its value is judged by its first mutable use. -/
theorem mutableUse?_of_mem_judgementsOn {j : Judgement} (hj : j ∈ judgementsOn immutable slots)
    (himm : j.immutable = false) : mutableUse? immutable slots j.register = some j.type := by
  obtain ⟨r, -, rfl⟩ := List.mem_map.mp hj
  rw [register_judgementOn]
  rw [immutable_judgementOn] at himm
  obtain ⟨type, htype⟩ := Option.isSome_iff_exists.mp (Option.isNone_eq_false_iff.mp himm)
  rw [judgementOn, htype]

/-- **One more slot.** Noting a use keeps the judgements in closed form. -/
theorem noteUse_judgementsOn (register : UInt16) (type : TypeDescriptor) :
    noteUse ⟨register, type, immutable type⟩ (judgementsOn immutable slots) =
      judgementsOn immutable (slots ++ [(register, type)]) := by
  have hregs : (judgementsOn immutable slots).map (·.register) = (slots.map (·.1)).eraseDups :=
    map_register_judgementsOn
  rw [judgementsOn.eq_def immutable (slots ++ _), List.map_append, List.map_singleton,
    eraseDups_concat]
  by_cases hmem : register ∈ slots.map (·.1)
  · rw [if_pos hmem, noteUse_of_mem (hregs ▸ nodup_eraseDups _)
      (hregs ▸ List.mem_eraseDups.mpr hmem), judgementsOn, List.map_map]
    refine List.map_congr_left fun r hr => ?_
    rw [Function.comp_apply, register_judgementOn]
    by_cases hr : r = register
    · subst hr
      rw [judgementOn_concat_of_mem type hmem]
      simp
    · rw [if_neg fun hc => hr hc.1, judgementOn_concat_of_ne type hr]
  · rw [if_neg hmem, noteUse_of_not_mem (hregs ▸ fun hc => hmem (List.mem_eraseDups.mp hc)),
      List.map_append, List.map_singleton, judgementOn_concat_of_not_mem type hmem, judgementsOn]
    congr 1
    refine List.map_congr_left fun r hr => (judgementOn_concat_of_ne type ?_).symm
    rintro rfl
    exact hmem (List.mem_eraseDups.mp hr)

/-! ### All slots -/

theorem judgeSlots_cons (resolver : Resolver) (judged : List Judgement) (register : UInt16)
    (type : TypeDescriptor) (slots : List (UInt16 × TypeDescriptor)) :
    judgeSlots resolver judged ((register, type) :: slots) =
      judgeSlots (resolver.verdict type).2
        (noteUse ⟨register, type, (resolver.verdict type).1.immutable⟩ judged) slots := rfl

/-- The judgements of a faithful resolver. The slots that are still to come are judged on top of
those that are done. -/
theorem fst_judgeSlots_append {resolver : Resolver} (h : resolver.Faithful)
    (himm : ∀ type, (resolver.resolve type).immutable = immutable type)
    (done slots : List (UInt16 × TypeDescriptor)) :
    (judgeSlots resolver (judgementsOn immutable done) slots).1 =
      judgementsOn immutable (done ++ slots) := by
  induction slots generalizing resolver done with
  | nil => rw [List.append_nil]; rfl
  | cons slot slots ih =>
    obtain ⟨register, type⟩ := slot
    have hresolve := Resolver.resolve_congr (resolver.catalog_verdict type)
      (resolver.metadata_verdict type)
    rw [judgeSlots_cons, Resolver.fst_verdict h, himm, noteUse_judgementsOn,
      ih (Resolver.faithful_verdict h type) (by rw [hresolve]; exact himm), List.append_assoc,
      List.singleton_append]

/-- **The judgements of a faithful resolver**, in closed form. -/
theorem fst_judgeSlots {resolver : Resolver} (h : resolver.Faithful)
    (slots : List (UInt16 × TypeDescriptor)) :
    (judgeSlots resolver [] slots).1 =
      judgementsOn (fun type => (resolver.resolve type).immutable) slots :=
  fst_judgeSlots_append h (fun _ => rfl) [] slots

theorem mem_noteUse {j k : Judgement} {js : List Judgement} (h : k ∈ noteUse j js) :
    k = j ∨ k ∈ js := by
  induction js with
  | nil => exact Or.inl (List.mem_singleton.mp h)
  | cons l ls ih =>
    rw [noteUse] at h
    split at h
    · split at h
      · exact (List.mem_cons.mp h).imp_right (List.mem_cons_of_mem _)
      · exact Or.inr h
    · rcases List.mem_cons.mp h with rfl | h
      · exact Or.inr List.mem_cons_self
      · exact (ih h).imp_right (List.mem_cons_of_mem _)

/-- Only registers that are passed are judged, whatever the resolver answers. -/
theorem register_mem_of_mem_judgeSlots {resolver : Resolver} {judged : List Judgement}
    {slots : List (UInt16 × TypeDescriptor)} {j : Judgement}
    (h : j ∈ (judgeSlots resolver judged slots).1) : j ∈ judged ∨ j.register ∈ slots.map (·.1) := by
  induction slots generalizing resolver judged with
  | nil => exact Or.inl h
  | cons slot slots ih =>
    obtain ⟨register, type⟩ := slot
    rw [judgeSlots_cons] at h
    rw [List.map_cons, List.mem_cons]
    rcases ih h with hj | hj
    · rcases mem_noteUse hj with rfl | hj
      · exact Or.inr (Or.inl rfl)
      · exact Or.inl hj
    · exact Or.inr (Or.inr hj)

/-- Judging asks the resolver for the types of all slots. -/
theorem answered_judgeSlots {resolver : Resolver} (h : resolver.Faithful)
    (judged : List Judgement) (slots : List (UInt16 × TypeDescriptor)) :
    resolver.Answered (slots.map (·.2)) (judgeSlots resolver judged slots).2 := by
  induction slots generalizing resolver judged with
  | nil => exact .nil h
  | cons slot slots ih => exact .cons h (ih (Resolver.faithful_verdict h slot.2) _)

/-- Judging leaves the catalog alone. -/
theorem catalog_judgeSlots (resolver : Resolver) (judged : List Judgement)
    (slots : List (UInt16 × TypeDescriptor)) :
    (judgeSlots resolver judged slots).2.catalog = resolver.catalog := by
  induction slots generalizing resolver judged with
  | nil => rfl
  | cons slot slots ih =>
    obtain ⟨register, type⟩ := slot
    rw [judgeSlots_cons, ih, Resolver.catalog_verdict]

end CallEffects
