import CallEffects.Emulation.Registry
import CallEffects.Proofs.CatalogScan
import CallEffects.Proofs.Grammar
import Mathlib.Data.List.Find

/-!
# Descriptors read back

The text of a reference is cut at the first `->`, the first `(` and the first `)`. The parts of a
reference may hold these characters, and a reference that was put together from parts need not come
back from its text. `MethodRef.Readable` says which ones do, and every reference that is read from a
text is one of them. Among readable references a descriptor stands for the reference itself, and
the tables that are keyed by descriptors are as good as keyed by references.

## Main definitions

* `MethodRef.Readable` — a reference that comes back from its text

## Main results

* `MethodRef.ofChars?_eq_some_iff` — reading accepts the texts of the readable references
* `MethodRef.Readable.eq_of_descriptor_eq` — their descriptors tell them apart
* `Registry.canEmulate_insert`, `Registry.emulate_insert` — a handler is found for its own method
* `Catalog.method?_descriptor` — a declaration is found for its own method
* `MethodRef.descriptor_roundTrip` — all of this together
-/

namespace CallEffects

namespace MethodRef

/-! ### Readable references -/

/-- The reference comes back from its text: its parts are types and a name, and none of them holds
the separator at which it is cut off. -/
structure Readable (m : MethodRef) : Prop where
  /-- The owner is one descriptor. -/
  owner_isValid : m.owner.isValid = true
  /-- The owner is a class with a name, or an array. -/
  owner_isClass : m.owner.isClass = true ∨ m.owner.isArray = true
  /-- The owner does not hold the separator that follows it. -/
  owner_text : ¬ ['-', '>'] <:+: m.owner.text.toList
  /-- There is a name. -/
  name_ne : m.name ≠ ""
  /-- The name does not hold the separator that follows it. -/
  name_text : '(' ∉ m.name.toList
  /-- A parameter is one descriptor and not void, and does not hold the separator that follows the
  parameters. -/
  params : ∀ t ∈ m.params, t.isValid = true ∧ t.isVoid = false ∧ ')' ∉ t.text.toList
  /-- The return type is void or one descriptor. -/
  returns : m.returns.isVoid = true ∨ m.returns.isValid = true

theorem isPlausible_iff {owner : TypeDescriptor} {name : String} {returns : TypeDescriptor} :
    isPlausible owner name returns = true ↔
      name ≠ "" ∧ (owner.isClass = true ∨ owner.isArray = true) ∧ owner.isValid = true ∧
        (returns.isVoid = true ∨ returns.isValid = true) := by
  simp only [isPlausible, Bool.and_eq_true, Bool.or_eq_true, bne_iff_ne, and_assoc]

/-- Void is not one of the descriptors. -/
theorem isVoid_of_isValid {t : TypeDescriptor} (h : t.isValid = true) : t.isVoid = false := by
  rw [Bool.eq_false_iff]
  intro hvoid
  rw [TypeDescriptor.isVoid, beq_iff_eq] at hvoid
  rw [TypeDescriptor.isValid_iff, hvoid] at h
  exact absurd (h.takeFirst?_append []).symm (Option.some_ne_none _)

theorem flatMap_text_map_ofList (types : List (List Char)) :
    (types.map fun t => (⟨String.ofList t⟩ : TypeDescriptor)).flatMap (·.text.toList) =
      types.flatten := by
  rw [List.flatMap_map]
  simp only [String.toList_ofList]
  exact List.flatMap_id'

/-! ### Reading -/

/-- What is read from a text is readable, and has that text. -/
theorem readable_of_ofChars? {cs : List Char} {m : MethodRef} (h : ofChars? cs = some m) :
    m.Readable ∧ m.descriptorChars = cs := by
  simp only [ofChars?, Option.bind_eq_bind, Option.bind_eq_some_iff, Prod.exists] at h
  obtain ⟨owner, afterOwner, howner, name, afterName, hname, params, returns, hparams, types,
    htypes, hm⟩ := h
  obtain ⟨hparts, hm⟩ := Option.ite_none_right_eq_some.mp hm
  obtain ⟨rfl, hownerText⟩ := (Text.cut?_eq_some_iff Text.solid_arrow).mp howner
  obtain ⟨rfl, hnameText⟩ := Text.cut?_singleton_eq_some_iff.mp hname
  obtain ⟨rfl, hparamsText⟩ := Text.cut?_singleton_eq_some_iff.mp hparams
  obtain ⟨rfl, hwell⟩ := TypeDescriptor.splitChars?_eq_some_iff.mp htypes
  obtain ⟨hne, hclass, hvalid, hreturns⟩ := isPlausible_iff.mp hparts
  obtain rfl := Option.some.inj hm
  refine ⟨⟨hvalid, hclass, ?_, hne, ?_, ?_, hreturns⟩, ?_⟩
  · rw [String.toList_ofList]
    exact hownerText
  · rw [String.toList_ofList]
    exact hnameText
  · intro t ht
    obtain ⟨part, hpart, rfl⟩ := List.mem_map.mp ht
    have hpartValid : TypeDescriptor.isValid ⟨String.ofList part⟩ = true := by
      rw [TypeDescriptor.isValid_iff, String.toList_ofList]
      exact hwell part hpart
    refine ⟨hpartValid, isVoid_of_isValid hpartValid, ?_⟩
    rw [String.toList_ofList]
    exact fun hmem => hparamsText (List.mem_flatten.mpr ⟨part, hpart, hmem⟩)
  · simp only [descriptorChars, flatMap_text_map_ofList, String.toList_ofList, List.append_assoc]

/-- The text of a readable reference is cut where its parts were joined. -/
theorem Readable.ofChars?_descriptorChars {m : MethodRef} (h : m.Readable) :
    ofChars? m.descriptorChars = some m := by
  have howner : Text.cut? ['-', '>'] m.descriptorChars = some (m.owner.text.toList,
      m.name.toList ++ ['('] ++ (m.params.flatMap (·.text.toList) ++ [')'] ++
        m.returns.text.toList)) := by
    refine (Text.cut?_eq_some_iff Text.solid_arrow).mpr ⟨?_, h.owner_text⟩
    simp only [descriptorChars, List.append_assoc]
  have hname : Text.cut? ['('] (m.name.toList ++ ['('] ++ (m.params.flatMap (·.text.toList) ++
      [')'] ++ m.returns.text.toList)) = some (m.name.toList,
        m.params.flatMap (·.text.toList) ++ [')'] ++ m.returns.text.toList) :=
    Text.cut?_singleton_eq_some_iff.mpr ⟨rfl, h.name_text⟩
  have hparams : Text.cut? [')'] (m.params.flatMap (·.text.toList) ++ [')'] ++
      m.returns.text.toList) =
        some (m.params.flatMap (·.text.toList), m.returns.text.toList) := by
    refine Text.cut?_singleton_eq_some_iff.mpr ⟨rfl, fun hmem => ?_⟩
    obtain ⟨t, ht, htext⟩ := List.mem_flatMap.mp hmem
    exact (h.params t ht).2.2 htext
  have htypes : TypeDescriptor.splitChars? (m.params.flatMap (·.text.toList)) =
      some (m.params.map (·.text.toList)) := by
    refine TypeDescriptor.splitChars?_eq_some_iff.mpr ⟨List.flatMap_def.symm, ?_⟩
    intro part hpart
    obtain ⟨t, ht, rfl⟩ := List.mem_map.mp hpart
    exact TypeDescriptor.isValid_iff.mp (h.params t ht).1
  have hparts : isPlausible m.owner m.name m.returns = true :=
    isPlausible_iff.mpr ⟨h.name_ne, h.owner_isClass, h.owner_isValid, h.returns⟩
  have hrebuilt : (m.params.map (·.text.toList)).map
      (fun t => (⟨String.ofList t⟩ : TypeDescriptor)) = m.params := by
    simp only [List.map_map, Function.comp_def, String.ofList_toList]
    exact List.map_id' m.params
  simp only [ofChars?, howner, hname, hparams, htypes, Option.bind_eq_bind, Option.bind_some,
    String.ofList_toList, hrebuilt, if_pos hparts]

/-- **Reading.** The texts that are accepted are those of the readable references. -/
theorem ofChars?_eq_some_iff {cs : List Char} {m : MethodRef} :
    ofChars? cs = some m ↔ m.Readable ∧ m.descriptorChars = cs := by
  refine ⟨readable_of_ofChars?, ?_⟩
  rintro ⟨h, rfl⟩
  exact h.ofChars?_descriptorChars

theorem parse_eq_ok_iff {s : String} {m : MethodRef} :
    parse s = .ok m ↔ m.Readable ∧ m.descriptor = s := by
  have htext : m.descriptor = s ↔ m.descriptorChars = s.toList := by
    rw [descriptor, ← String.toList_inj, String.toList_ofList]
  rw [htext, ← ofChars?_eq_some_iff, parse]
  cases ofChars? s.toList <;> simp

/-- The descriptors of readable references tell them apart. -/
theorem Readable.eq_of_descriptor_eq {m m' : MethodRef} (h : m.Readable) (h' : m'.Readable)
    (heq : m.descriptor = m'.descriptor) : m = m' := by
  have hparse : parse m'.descriptor = .ok m := parse_eq_ok_iff.mpr ⟨h, heq⟩
  have hparse' : parse m'.descriptor = .ok m' := parse_eq_ok_iff.mpr ⟨h', rfl⟩
  exact Except.ok.inj (hparse.symm.trans hparse')

theorem Readable.descriptor_eq_iff {m m' : MethodRef} (h : m.Readable) (h' : m'.Readable) :
    m.descriptor = m'.descriptor ↔ m = m' :=
  ⟨h.eq_of_descriptor_eq h', fun heq => heq ▸ rfl⟩

end MethodRef

/-! ### Tables keyed by descriptors -/

namespace Registry

theorem getElem?_entries_insert (r : Registry) (handler : Handler) {m m' : MethodRef}
    (h : m.Readable) (h' : m'.Readable) :
    (r.insert m handler).entries[m'.descriptor]? =
      if m = m' then some ⟨m, handler⟩ else r.entries[m'.descriptor]? := by
  rw [insert, Std.TreeMap.getElem?_insert]
  simp only [Std.LawfulEqCmp.compare_eq_iff_eq, h.descriptor_eq_iff h']

/-- A handler makes its own method emulable, and no other. -/
theorem canEmulate_insert (r : Registry) (handler : Handler) {m m' : MethodRef}
    (h : m.Readable) (h' : m'.Readable) :
    (r.insert m handler).canEmulate m'.descriptor =
      (decide (m = m') || r.canEmulate m'.descriptor) := by
  rw [canEmulate, canEmulate, Std.TreeMap.contains_eq_isSome_getElem?,
    Std.TreeMap.contains_eq_isSome_getElem?, getElem?_entries_insert r handler h h']
  by_cases heq : m = m' <;> simp [heq]

/-- A handler is run for its own method, and for no other. -/
theorem emulate_insert (r : Registry) (handler : Handler) {m m' : MethodRef}
    (h : m.Readable) (h' : m'.Readable) (frame : Frame) :
    (r.insert m handler).emulate frame m'.descriptor =
      if m = m' then (handler ⟨frame, m⟩).map (⟨m.returns, ·⟩)
      else r.emulate frame m'.descriptor := by
  rw [emulate, getElem?_entries_insert r handler h h']
  by_cases heq : m = m'
  · rw [if_pos heq, if_pos heq]
    cases hrun : handler ⟨frame, m⟩ <;> simp only [hrun, Except.map]
  · rw [if_neg heq, if_neg heq, emulate]

end Registry

namespace Catalog

/-- A declaration is found for its own method, and for no other. -/
theorem method?_descriptor {ds : List ClassDef} {m : MethodRef} (h : m.Readable)
    (hds : ∀ d ∈ ds, ∀ x ∈ d.methods.toList, x.method.Readable) :
    (ofList ds).method? m.descriptor =
      (ds.flatMap (·.methods.toList)).find? (fun x => decide (x.method = m)) := by
  rw [method?_ofList]
  refine List.find?_congr fun x hx => ?_
  obtain ⟨d, hd, hx⟩ := List.mem_flatMap.mp hx
  rw [declaredAs, Bool.eq_iff_iff, beq_iff_eq, decide_eq_true_iff]
  exact (hds d hd x hx).descriptor_eq_iff h

/-- The declared methods are told apart by their references. -/
theorem containsMethod_descriptor {ds : List ClassDef} {m : MethodRef} (h : m.Readable)
    (hds : ∀ d ∈ ds, ∀ x ∈ d.methods.toList, x.method.Readable) :
    (ofList ds).containsMethod m.descriptor =
      (ds.flatMap (·.methods.toList)).any (fun x => decide (x.method = m)) := by
  rw [containsMethod_ofList, method?_descriptor h hds, Bool.eq_iff_iff, List.find?_isSome,
    List.any_eq_true]

end Catalog

/-! ### The round trip -/

/-- **Descriptors round-trip.** What is read from a text has that text; a reference comes back from
its text exactly when it is readable; and readable references have different descriptors, so that
neither the handlers nor the declarations that are kept under them get mixed up. -/
theorem MethodRef.descriptor_roundTrip :
    (∀ (s : String) (m : MethodRef), parse s = .ok m → m.descriptor = s) ∧
    (∀ m : MethodRef, parse m.descriptor = .ok m ↔ m.Readable) ∧
    (∀ m m' : MethodRef, m.Readable → m'.Readable → m.descriptor = m'.descriptor → m = m') ∧
    (∀ (r : Registry) (handler : Handler) (m m' : MethodRef), m.Readable → m'.Readable →
      (r.insert m handler).canEmulate m'.descriptor =
          (decide (m = m') || r.canEmulate m'.descriptor) ∧
        ∀ frame, (r.insert m handler).emulate frame m'.descriptor =
          if m = m' then (handler ⟨frame, m⟩).map (⟨m.returns, ·⟩)
          else r.emulate frame m'.descriptor) ∧
    ∀ (ds : List ClassDef) (m : MethodRef), m.Readable →
      (∀ d ∈ ds, ∀ x ∈ d.methods.toList, x.method.Readable) →
        (Catalog.ofList ds).method? m.descriptor =
            (ds.flatMap (·.methods.toList)).find? (fun x => decide (x.method = m)) ∧
          (Catalog.ofList ds).containsMethod m.descriptor =
            (ds.flatMap (·.methods.toList)).any (fun x => decide (x.method = m)) := by
  refine ⟨?_, ?_, ?_, ?_, ?_⟩
  · exact fun s m h => (parse_eq_ok_iff.mp h).2
  · exact fun m => ⟨fun h => (parse_eq_ok_iff.mp h).1, fun h => parse_eq_ok_iff.mpr ⟨h, rfl⟩⟩
  · exact fun m m' h h' => h.eq_of_descriptor_eq h'
  · exact fun r handler m m' h h' =>
      ⟨r.canEmulate_insert handler h h', r.emulate_insert handler h h'⟩
  · exact fun ds m h hds =>
      ⟨Catalog.method?_descriptor h hds, Catalog.containsMethod_descriptor h hds⟩

/-- A reference each part of which holds the separators at which other parts are cut off. -/
def crowded : MethodRef := ⟨⟨"La(b)>;"⟩, "n->)", [⟨"[L(;"⟩, ⟨"J"⟩], ⟨"L->);"⟩⟩

theorem readable_crowded : crowded.Readable where
  owner_isValid :=
    TypeDescriptor.isValid_iff.mpr (@TypeDescriptor.Wellformed.ofName "a(b)>".toList (by decide))
  owner_isClass := .inl (by decide)
  owner_text := by decide
  name_ne := by decide
  name_text := by decide
  params := by
    have hname : TypeDescriptor.Wellformed ['[', 'L', '(', ';'] :=
      .array (@TypeDescriptor.Wellformed.ofName ['('] (by decide))
    have hlong : TypeDescriptor.Wellformed ['J'] := .primitive (by decide)
    rw [crowded, List.forall_mem_cons, List.forall_mem_singleton]
    exact ⟨⟨TypeDescriptor.isValid_iff.mpr hname, by decide⟩,
      ⟨TypeDescriptor.isValid_iff.mpr hlong, by decide⟩⟩
  returns := .inr
    (TypeDescriptor.isValid_iff.mpr (@TypeDescriptor.Wellformed.ofName "->)".toList (by decide)))

theorem descriptor_roundTrip_crowded :
    crowded.Readable ∧ MethodRef.parse "La(b)>;->n->)([L(;J)L->);" = .ok crowded :=
  ⟨readable_crowded, (MethodRef.descriptor_roundTrip.2.1 crowded).mpr readable_crowded⟩

end CallEffects
