import CallEffects.Descriptor.Parser
import Mathlib.Data.List.Infix

/-!
# The grammar of descriptors

A cut finds the first place where its separator stands, and splitting a list takes descriptors off
the front as far as they reach. Both are said here without the order in which they go over the
text: a cut by the part before it, in which the separator does not occur, and a split by a grammar.
No descriptor is the beginning of another, so the text of a list determines its elements, and what
the reader takes off the front is what the writer had put there.

## Main definitions

* `Text.Solid` — a separator that cannot overlap itself
* `TypeDescriptor.Wellformed` — brackets, then a letter or a class name in `L…;`

## Main results

* `Text.cut?_eq_some_iff` — where a text is cut
* `TypeDescriptor.takeFirst?_eq_some_iff` — what is taken off the front
* `TypeDescriptor.splitChars?_eq_some_iff` — what a list is split into
* `TypeDescriptor.isValid_iff` — the texts that are one descriptor
-/

namespace CallEffects

/-! ### Cutting -/

namespace Text

/-- An occurrence of `sep` that begins before another one ends before it. -/
structure Solid (sep : List Char) : Prop where
  /-- There is something to look for. -/
  ne_nil : sep ≠ []
  /-- What begins in front of a `sep` does not reach into it. -/
  prefix_of_append : ∀ {before after : List Char}, before ≠ [] →
    sep <+: before ++ sep ++ after → sep <+: before

theorem solid_singleton (c : Char) : Solid [c] where
  ne_nil := List.cons_ne_nil c []
  prefix_of_append := by
    intro before after hne h
    obtain ⟨d, before, rfl⟩ := List.exists_cons_of_ne_nil hne
    obtain ⟨rfl, -⟩ := List.cons_prefix_cons.mp h
    exact List.cons_prefix_cons.mpr ⟨rfl, List.nil_prefix⟩

theorem solid_arrow : Solid ['-', '>'] where
  ne_nil := List.cons_ne_nil _ _
  prefix_of_append := by
    intro before after hne h
    match before with
    | [c] =>
      obtain ⟨-, htail⟩ := List.cons_prefix_cons.mp h
      obtain ⟨heq, -⟩ := List.cons_prefix_cons.mp htail
      exact absurd heq (by decide)
    | c :: d :: before =>
      obtain ⟨rfl, htail⟩ := List.cons_prefix_cons.mp h
      obtain ⟨rfl, -⟩ := List.cons_prefix_cons.mp htail
      exact List.prefix_append ['-', '>'] before

/-- The separator does not occur in front of the cut. -/
theorem not_infix_of_cut? {sep cs before after : List Char} (hne : sep ≠ [])
    (h : cut? sep cs = some (before, after)) : ¬ sep <:+: before := by
  induction cs generalizing before with
  | nil =>
    rw [cut?, if_neg (by simpa using hne)] at h
    exact absurd h.symm (Option.some_ne_none _)
  | cons c cs ih =>
    rw [cut?] at h
    split at h
    · obtain ⟨rfl, -⟩ := Prod.mk.inj (Option.some.inj h)
      rwa [List.infix_nil]
    · rename_i hprefix
      obtain ⟨⟨b, a⟩, hcut, hpair⟩ := Option.map_eq_some_iff.mp h
      obtain ⟨rfl, rfl⟩ := Prod.mk.inj hpair
      rw [List.infix_cons_iff, not_or]
      refine ⟨fun hp => hprefix ?_, ih hcut⟩
      rw [List.isPrefixOf_iff_prefix, cut?_eq_some_append hcut, List.append_assoc,
        ← List.cons_append]
      exact hp.trans (List.prefix_append _ _)

/-- A text in which the separator does not occur is cut off whole. -/
theorem cut?_append {sep before : List Char} (hsep : Solid sep) (h : ¬ sep <:+: before)
    (after : List Char) : cut? sep (before ++ sep ++ after) = some (before, after) := by
  induction before with
  | nil =>
    obtain ⟨c, cs, rfl⟩ := List.exists_cons_of_ne_nil hsep.ne_nil
    have hprefix : (c :: cs).isPrefixOf (c :: (cs ++ after)) = true :=
      List.isPrefixOf_iff_prefix.mpr (List.prefix_append (c :: cs) after)
    rw [List.nil_append, List.cons_append, cut?, if_pos hprefix, ← List.cons_append,
      List.drop_left]
  | cons c before ih =>
    rw [List.infix_cons_iff, not_or] at h
    have hprefix : ¬ sep.isPrefixOf (c :: (before ++ sep ++ after)) = true := fun hp =>
      h.1 (hsep.prefix_of_append (List.cons_ne_nil _ _) (List.isPrefixOf_iff_prefix.mp hp))
    rw [List.cons_append, List.cons_append, cut?, if_neg hprefix, ih h.2]
    rfl

/-- **Where a text is cut.** At the separator in front of which it does not occur. -/
theorem cut?_eq_some_iff {sep cs before after : List Char} (hsep : Solid sep) :
    cut? sep cs = some (before, after) ↔ cs = before ++ sep ++ after ∧ ¬ sep <:+: before := by
  constructor
  · exact fun h => ⟨cut?_eq_some_append h, not_infix_of_cut? hsep.ne_nil h⟩
  · rintro ⟨rfl, h⟩
    exact cut?_append hsep h after

theorem cut?_singleton_eq_some_iff {c : Char} {cs before after : List Char} :
    cut? [c] cs = some (before, after) ↔ cs = before ++ [c] ++ after ∧ c ∉ before := by
  rw [cut?_eq_some_iff (solid_singleton c), List.singleton_infix_iff]

end Text

/-! ### One descriptor -/

namespace TypeDescriptor

/-- The characters of a descriptor. A class name may hold any character but the `;` that ends
it. -/
inductive Wellformed : List Char → Prop
  /-- The letter of a primitive type. -/
  | primitive {c : Char} (h : c ∈ primitiveCodes) : Wellformed [c]
  /-- A class name. -/
  | ofName {name : List Char} (h : ';' ∉ name) : Wellformed ('L' :: (name ++ [';']))
  /-- An array of another type. -/
  | array {cs : List Char} (h : Wellformed cs) : Wellformed ('[' :: cs)

theorem wellformed_of_takeFirst? {cs first rest : List Char}
    (h : takeFirst? cs = some (first, rest)) : Wellformed first := by
  induction cs generalizing first with
  | nil => exact absurd h.symm (Option.some_ne_none _)
  | cons c cs ih =>
    rw [takeFirst?] at h
    split at h
    · obtain ⟨⟨f, r⟩, hf, hpair⟩ := Option.map_eq_some_iff.mp h
      obtain ⟨rfl, rfl⟩ := Prod.mk.inj hpair
      exact .array (ih hf)
    · split at h
      · obtain ⟨⟨name, r⟩, hcut, hpair⟩ := Option.map_eq_some_iff.mp h
        obtain ⟨rfl, rfl⟩ := Prod.mk.inj hpair
        exact .ofName (Text.cut?_singleton_eq_some_iff.mp hcut).2
      · split at h
        · rename_i hcode
          obtain ⟨rfl, rfl⟩ := Prod.mk.inj (Option.some.inj h)
          exact .primitive (List.contains_iff_mem.mp hcode)
        · exact absurd h.symm (Option.some_ne_none _)

/-- A descriptor is taken off the front whole, whatever follows it. -/
theorem Wellformed.takeFirst?_append {first : List Char} (h : Wellformed first)
    (rest : List Char) : takeFirst? (first ++ rest) = some (first, rest) := by
  induction h with
  | @primitive c hc =>
    have hbracket : c ≠ '[' := by
      rintro rfl
      exact absurd hc (by decide)
    have hname : c ≠ 'L' := by
      rintro rfl
      exact absurd hc (by decide)
    rw [List.singleton_append, takeFirst?, if_neg hbracket, if_neg hname,
      if_pos (List.contains_iff_mem.mpr hc)]
  | @ofName name hname =>
    have hcut : Text.cut? [';'] (name ++ [';'] ++ rest) = some (name, rest) :=
      Text.cut?_singleton_eq_some_iff.mpr ⟨rfl, hname⟩
    rw [List.cons_append, takeFirst?, if_neg (by decide), if_pos rfl, hcut]
    rfl
  | array _ ih =>
    rw [List.cons_append, takeFirst?, if_pos rfl, ih]
    rfl

/-- **What is taken off the front.** The descriptor with which the text begins. -/
theorem takeFirst?_eq_some_iff {cs first rest : List Char} :
    takeFirst? cs = some (first, rest) ↔ cs = first ++ rest ∧ Wellformed first := by
  constructor
  · exact fun h => ⟨takeFirst?_eq_some_append h, wellformed_of_takeFirst? h⟩
  · rintro ⟨rfl, h⟩
    exact h.takeFirst?_append rest

theorem Wellformed.ne_nil {cs : List Char} (h : Wellformed cs) : cs ≠ [] := by
  cases h <;> exact List.cons_ne_nil _ _

/-! ### Lists of descriptors -/

theorem splitChars?_nil : splitChars? [] = some [] := by
  rw [splitChars?]
  rfl

theorem splitChars?_append {first : List Char} (h : Wellformed first) (rest : List Char) :
    splitChars? (first ++ rest) = (splitChars? rest).map (first :: ·) := by
  have hne : first ++ rest ≠ [] := List.append_ne_nil_of_left_ne_nil h.ne_nil rest
  rw [splitChars?, if_neg (by simpa using hne)]
  split
  · rename_i heq
    rw [h.takeFirst?_append] at heq
    exact absurd heq (Option.some_ne_none _)
  · rename_i heq
    rw [h.takeFirst?_append] at heq
    obtain ⟨rfl, rfl⟩ := Prod.mk.inj (Option.some.inj heq)
    rfl

/-- The text of a list is split into its elements. -/
theorem splitChars?_flatten {parts : List (List Char)} (h : ∀ part ∈ parts, Wellformed part) :
    splitChars? parts.flatten = some parts := by
  induction parts with
  | nil => exact splitChars?_nil
  | cons part parts ih =>
    rw [List.forall_mem_cons] at h
    rw [List.flatten_cons, splitChars?_append h.1, ih h.2]
    rfl

/-- Splitting loses nothing, and splits into descriptors. -/
theorem flatten_of_splitChars? {cs : List Char} {parts : List (List Char)}
    (h : splitChars? cs = some parts) :
    parts.flatten = cs ∧ ∀ part ∈ parts, Wellformed part := by
  fun_induction splitChars? cs generalizing parts with
  | case1 cs hempty =>
    obtain rfl := Option.some.inj h
    exact ⟨(List.isEmpty_iff.mp hempty).symm, nofun⟩
  | case2 cs _ _ => exact absurd h.symm (Option.some_ne_none _)
  | case3 cs _ first rest htake ih =>
    obtain ⟨parts, hsplit, rfl⟩ := Option.map_eq_some_iff.mp h
    obtain ⟨rfl, hfirst⟩ := takeFirst?_eq_some_iff.mp htake
    obtain ⟨hflat, hparts⟩ := ih hsplit
    exact ⟨by rw [List.flatten_cons, hflat], List.forall_mem_cons.mpr ⟨hfirst, hparts⟩⟩

/-- **What a list is split into.** The descriptors of which the text is the concatenation. -/
theorem splitChars?_eq_some_iff {cs : List Char} {parts : List (List Char)} :
    splitChars? cs = some parts ↔ parts.flatten = cs ∧ ∀ part ∈ parts, Wellformed part := by
  refine ⟨flatten_of_splitChars?, ?_⟩
  rintro ⟨rfl, h⟩
  exact splitChars?_flatten h

/-- A text is valid when it is the text of one descriptor. -/
theorem isValid_iff {d : TypeDescriptor} : d.isValid = true ↔ Wellformed d.text.toList := by
  constructor
  · intro h
    rw [isValid] at h
    split at h
    · rename_i part hsplit
      obtain ⟨hflat, hpart⟩ := flatten_of_splitChars? hsplit
      rw [List.flatten_singleton] at hflat
      exact hflat ▸ hpart part List.mem_cons_self
    · exact absurd h Bool.false_ne_true
  · intro h
    have hsplit : splitChars? d.text.toList = some [d.text.toList] := by
      refine splitChars?_eq_some_iff.mpr ⟨List.flatten_singleton, ?_⟩
      exact List.forall_mem_singleton.mpr h
    rw [isValid, hsplit]

end TypeDescriptor

end CallEffects
