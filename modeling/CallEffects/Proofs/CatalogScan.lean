import CallEffects.Catalog
import Mathlib.Data.List.Induction

/-!
# The indexes of a catalog and a scan

A catalog enters a method into its index when the class of the method is added, unless a method of
the same descriptor is there. Looking a descriptor up is therefore the same as going through the
classes in their order and through the methods of each, and stopping at the first that has it. The
classes themselves have an index that is kept in the same way.

One fact about each index is kept as classes are added: it leads to the place where a scan of the
classes so far stops. Everything else about look-ups is read off that.

## Main definitions

* `Catalog.firstPlace?` — the place where a scan of the methods stops
* `Catalog.FirstAt` — the first method of a descriptor is at a place
* `Catalog.ClassesIndexed`, `Catalog.MethodsIndexed` — the indexes lead to the places where a scan
  stops
* `Catalog.Indexed` — the index leads to the methods that a scan finds
* `Catalog.Scans` — everything that a catalog answers is what a scan would find

## Main results

* `Catalog.getElem?_indexMethods` — the index after the methods of a class were entered
* `Catalog.firstAt_of_firstPlace?` — a scan stops at the first method of the descriptor
* `Catalog.MethodsIndexed.add`, `Catalog.ClassesIndexed.add` — adding a class keeps the indexes
  right
* `Catalog.method?_ofList`, `Catalog.containsMethod_ofList` — looking up is scanning
* `Catalog.class?_ofList` — so it is for classes
* `Catalog.ofList_scans` — a catalog answers as a scan would
-/

namespace CallEffects

namespace Catalog

/-- The method is declared under the given descriptor. -/
def declaredAs (descriptor : String) (m : MethodDef) : Bool := m.method.descriptor == descriptor

/-- All declared methods, class by class. -/
def methods (c : Catalog) : List MethodDef := c.classes.toList.flatMap (·.methods.toList)

/-! ### Entering a class -/

/-- A descriptor that is in an index already leads where it led. -/
theorem getElem?_insertIfNew_eq_or {α : Type} (index : Std.TreeMap String α) (key : String) (v : α)
    (descriptor : String) :
    (index.insertIfNew key v)[descriptor]? =
      index[descriptor]?.or (if key = descriptor then some v else none) := by
  rw [Std.TreeMap.getElem?_insertIfNew]
  by_cases hkey : key = descriptor
  · subst hkey
    have hmem : key ∈ index ↔ index[key]?.isSome := Std.TreeMap.mem_iff_isSome_getElem?
    cases hold : index[key]? with
    | none =>
      rw [hold] at hmem
      rw [if_pos ⟨Std.compare_self, fun hc => Bool.false_ne_true (hmem.mp hc)⟩, if_pos rfl]
      rfl
    | some place =>
      rw [hold] at hmem
      rw [if_neg fun hc => hc.2 (hmem.mpr rfl)]
      rfl
  · have hne : ¬ compare key descriptor = .eq := fun hc => hkey (Std.LawfulEqCmp.eq_of_compare hc)
    rw [if_neg fun hc => hne hc.1, if_neg hkey, Option.or_none]

theorem getElem?_foldl_insertIfNew (index : Std.TreeMap String (Nat × Nat)) (i k : Nat)
    (methods : List MethodDef) (descriptor : String) :
    ((methods.zipIdx k).foldl
        (fun index (m, j) => index.insertIfNew m.method.descriptor (i, j)) index)[descriptor]? =
      index[descriptor]?.or
        ((methods.findIdx? (declaredAs descriptor)).map fun j => (i, k + j)) := by
  induction methods generalizing index k with
  | nil => simp
  | cons m methods ih =>
    rw [List.zipIdx_cons, List.foldl_cons, ih, getElem?_insertIfNew_eq_or, List.findIdx?_cons,
      Option.or_assoc]
    congr 1
    by_cases hm : m.method.descriptor = descriptor
    · have hdeclared : declaredAs descriptor m = true := beq_iff_eq.mpr hm
      rw [if_pos hm, if_pos hdeclared]
      rfl
    · have hdeclared : ¬ declaredAs descriptor m = true := fun hc => hm (beq_iff_eq.mp hc)
      rw [if_neg hm, if_neg hdeclared, Option.none_or, Option.map_map]
      congr 1
      funext j
      rw [Function.comp_apply, Nat.add_assoc, Nat.add_comm 1]

/-- **Entering a class.** A descriptor that was in the index leads where it led, and another to the
first method of the class that has it. -/
theorem getElem?_indexMethods (index : Std.TreeMap String (Nat × Nat)) (i : Nat)
    (methods : List MethodDef) (descriptor : String) :
    (indexMethods index i methods)[descriptor]? =
      index[descriptor]?.or ((methods.findIdx? (declaredAs descriptor)).map fun j => (i, j)) := by
  have h := getElem?_foldl_insertIfNew index i 0 methods descriptor
  simp only [Nat.zero_add] at h
  exact h

/-! ### Places of methods -/

/-- The class declares a method of the given descriptor. -/
def declares (descriptor : String) (d : ClassDef) : Bool :=
  d.methods.toList.any (declaredAs descriptor)

/-- The place where a scan of the methods stops: that of the first class that declares the
descriptor, and within the class that of the first method that has it. -/
def firstPlace? (descriptor : String) (ds : List ClassDef) : Option (Nat × Nat) :=
  (ds.findIdx? (declares descriptor)).bind fun i =>
    ds[i]?.bind fun d => (d.methods.toList.findIdx? (declaredAs descriptor)).map fun j => (i, j)

/-- One more class is scanned if no class before it declares the descriptor. -/
theorem firstPlace?_concat (descriptor : String) (ds : List ClassDef) (d : ClassDef) :
    firstPlace? descriptor (ds ++ [d]) =
      (firstPlace? descriptor ds).or
        ((d.methods.toList.findIdx? (declaredAs descriptor)).map fun j => (ds.length, j)) := by
  rw [firstPlace?, List.findIdx?_append, firstPlace?]
  cases hfirst : ds.findIdx? (declares descriptor) with
  | some i =>
    obtain ⟨hi, hdeclares, -⟩ := List.findIdx?_eq_some_iff_getElem.mp hfirst
    obtain ⟨j, hj⟩ : ∃ j, ds[i].methods.toList.findIdx? (declaredAs descriptor) = some j := by
      rw [← Option.isSome_iff_exists, List.findIdx?_isSome]
      exact hdeclares
    simp [List.getElem?_append_left hi, hi, hj]
  | none =>
    cases hdeclares : declares descriptor d with
    | true => simp [List.findIdx?_singleton, hdeclares]
    | false =>
      have hnone : d.methods.toList.findIdx? (declaredAs descriptor) = none := by
        rw [← Option.not_isSome_iff_eq_none, List.findIdx?_isSome, ← declares, hdeclares]
        exact Bool.false_ne_true
      simp [List.findIdx?_singleton, hdeclares, hnone]

/-- There is a method at the given place, it has the descriptor, and none before it does. -/
def FirstAt (descriptor : String) (ds : List ClassDef) (i j : Nat) : Prop :=
  ∃ (d : ClassDef) (m : MethodDef), ds[i]? = some d ∧ d.methods[j]? = some m ∧
    m.method.descriptor = descriptor ∧
    ∀ (i' j' : Nat) (d' : ClassDef) (m' : MethodDef), i' < i ∨ i' = i ∧ j' < j →
      ds[i']? = some d' → d'.methods[j']? = some m' → m'.method.descriptor ≠ descriptor

/-- A scan stops at the first method of the descriptor. -/
theorem firstAt_of_firstPlace? {descriptor : String} {ds : List ClassDef} {i j : Nat}
    (h : firstPlace? descriptor ds = some (i, j)) : FirstAt descriptor ds i j := by
  obtain ⟨i, hi, hrest⟩ := Option.bind_eq_some_iff.mp h
  obtain ⟨d, hd, hrest⟩ := Option.bind_eq_some_iff.mp hrest
  obtain ⟨j, hj, hplace⟩ := Option.map_eq_some_iff.mp hrest
  obtain ⟨rfl, rfl⟩ := Prod.mk.inj hplace
  obtain ⟨hilt, -, hclasses⟩ := List.findIdx?_eq_some_iff_getElem.mp hi
  obtain ⟨hlt, hdeclared, hmethods⟩ := List.findIdx?_eq_some_iff_getElem.mp hj
  refine ⟨d, d.methods.toList[j], hd, ?_, beq_iff_eq.mp hdeclared, ?_⟩
  · rw [← Array.getElem?_toList, List.getElem?_eq_getElem hlt]
  · rintro i' j' d' m' hbefore hd' hm' rfl
    rw [← Array.getElem?_toList] at hm'
    obtain ⟨hlt', rfl⟩ := List.getElem?_eq_some_iff.mp hm'
    obtain hlt'' | ⟨rfl, hlt''⟩ := hbefore
    · -- An earlier class would have been the first to declare the descriptor.
      obtain ⟨hi', rfl⟩ := List.getElem?_eq_some_iff.mp hd'
      refine hclasses i' hlt'' (List.any_eq_true.mpr ⟨_, List.getElem_mem hlt', ?_⟩)
      exact beq_self_eq_true _
    · obtain rfl := Option.some.inj (hd'.symm.trans hd)
      exact hmethods j' hlt'' (beq_self_eq_true _)

/-- The method at the given place. -/
def methodAt? (ds : List ClassDef) (place : Nat × Nat) : Option MethodDef :=
  ds[place.1]?.bind fun d => d.methods[place.2]?

/-- Going through all methods in order is going to the place where a scan stops. -/
theorem find?_methods (descriptor : String) (ds : List ClassDef) :
    (ds.flatMap (·.methods.toList)).find? (declaredAs descriptor) =
      (firstPlace? descriptor ds).bind (methodAt? ds) := by
  induction ds using List.reverseRecOn with
  | nil => rfl
  | append_singleton ds d ih =>
    rw [List.flatMap_append, List.find?_append, ih, firstPlace?_concat]
    cases hplace : firstPlace? descriptor ds with
    | some place =>
      obtain ⟨d', m, hd', hm, -⟩ := firstAt_of_firstPlace? hplace
      obtain ⟨hlt, -⟩ := List.getElem?_eq_some_iff.mp hd'
      simp [methodAt?, List.getElem?_append_left hlt, hd', hm]
    | none =>
      rw [List.flatMap_singleton, List.find?_eq_bind_findIdx?_getElem?]
      cases d.methods.toList.findIdx? (declaredAs descriptor) with
      | none => rfl
      | some j => simp [methodAt?]

/-! ### The index of a catalog -/

/-- What holds of the catalog without classes and is kept by every class holds of every catalog. -/
theorem ofList_induction {P : Catalog → Prop} (hempty : P empty)
    (hadd : ∀ {c : Catalog}, P c → ∀ d, P (c.add d)) (ds : List ClassDef) : P (ofList ds) := by
  suffices h : ∀ c, P c → P (ds.foldl Catalog.add c) from h empty hempty
  induction ds with
  | nil => exact fun c hc => hc
  | cons d ds ih => exact fun c hc => ih (c.add d) (hadd hc d)

/-- The index of methods leads to the places where a scan stops. -/
def MethodsIndexed (c : Catalog) : Prop :=
  ∀ descriptor : String, c.methodIndex[descriptor]? = firstPlace? descriptor c.classes.toList

theorem MethodsIndexed.add {c : Catalog} (h : c.MethodsIndexed) (d : ClassDef) :
    (c.add d).MethodsIndexed := by
  intro descriptor
  rw [Catalog.add, Array.toList_push, firstPlace?_concat, ← h descriptor, getElem?_indexMethods,
    Array.length_toList]

theorem methodsIndexed_ofList (ds : List ClassDef) : (ofList ds).MethodsIndexed :=
  ofList_induction (fun descriptor => by simp [empty, firstPlace?]) MethodsIndexed.add ds

/-- The index leads to the methods that a scan finds. -/
structure Indexed (c : Catalog) : Prop where
  /-- It leads nowhere else than into the catalog. -/
  inRange : ∀ {descriptor : String} {i j : Nat}, c.methodIndex[descriptor]? = some (i, j) →
    ∃ d, c.classes[i]? = some d ∧ j < d.methods.size
  /-- What it leads to is what a scan finds. -/
  method? : ∀ descriptor, c.method? descriptor = c.methods.find? (declaredAs descriptor)

theorem MethodsIndexed.indexed {c : Catalog} (h : c.MethodsIndexed) : c.Indexed where
  inRange := by
    intro descriptor i j hij
    rw [h descriptor] at hij
    obtain ⟨d, m, hd, hm, -⟩ := firstAt_of_firstPlace? hij
    rw [Array.getElem?_toList] at hd
    exact ⟨d, hd, (Array.getElem?_eq_some_iff.mp hm).1⟩
  method? := by
    intro descriptor
    rw [methods, find?_methods, ← h descriptor, Catalog.method?]
    cases c.methodIndex[descriptor]? with
    | none => rfl
    | some place => simp [methodAt?]

theorem indexed_ofList (ds : List ClassDef) : (ofList ds).Indexed :=
  (methodsIndexed_ofList ds).indexed

/-! ### Looking up -/

/-- **Looking up is scanning.** The first method in order that has the descriptor is found. -/
theorem method?_ofList (ds : List ClassDef) (descriptor : String) :
    (ofList ds).method? descriptor =
      (ds.flatMap (·.methods.toList)).find? (declaredAs descriptor) := by
  rw [(indexed_ofList ds).method?, methods, toList_classes_ofList]

theorem Indexed.containsMethod {c : Catalog} (h : c.Indexed) (descriptor : String) :
    c.containsMethod descriptor = (c.method? descriptor).isSome := by
  rw [Catalog.containsMethod, Std.TreeMap.contains_eq_isSome_getElem?]
  cases hold : c.methodIndex[descriptor]? with
  | none => simp [Catalog.method?, hold]
  | some place =>
    obtain ⟨d, hd, hj⟩ := h.inRange hold
    simp [Catalog.method?, hold, hd, hj]

theorem containsMethod_ofList (ds : List ClassDef) (descriptor : String) :
    (ofList ds).containsMethod descriptor = ((ofList ds).method? descriptor).isSome :=
  (indexed_ofList ds).containsMethod descriptor

/-! ### Classes -/

/-- The class is defined under the given descriptor. -/
def definedAs (descriptor : String) (d : ClassDef) : Bool := d.type.text == descriptor

/-- The index of classes leads to the places where a scan stops. -/
def ClassesIndexed (c : Catalog) : Prop :=
  ∀ descriptor : String,
    c.classIndex[descriptor]? = c.classes.toList.findIdx? (definedAs descriptor)

theorem ClassesIndexed.add {c : Catalog} (h : c.ClassesIndexed) (d : ClassDef) :
    (c.add d).ClassesIndexed := by
  intro descriptor
  rw [Catalog.add, Array.toList_push, List.findIdx?_append, ← h descriptor,
    getElem?_insertIfNew_eq_or]
  by_cases hd : d.type.text = descriptor
  · simp [hd, definedAs]
  · simp [hd, definedAs]

theorem classesIndexed_ofList (ds : List ClassDef) : (ofList ds).ClassesIndexed :=
  ofList_induction (fun descriptor => by simp [empty]) ClassesIndexed.add ds

/-- **Looking a class up is scanning.** The first class that has the descriptor is found. -/
theorem class?_ofList (ds : List ClassDef) (descriptor : String) :
    (ofList ds).class? descriptor = ds.find? (definedAs descriptor) := by
  have hindexed := classesIndexed_ofList ds descriptor
  rw [class?, hindexed, List.find?_eq_bind_findIdx?_getElem?, toList_classes_ofList]
  cases ds.findIdx? (definedAs descriptor) with
  | none => rfl
  | some i =>
    change (ofList ds).classes[i]? = ds[i]?
    rw [← Array.getElem?_toList, toList_classes_ofList]

/-! ### The whole catalog -/

/-- Everything that a catalog answers is what going through the listed classes would find. -/
structure Scans (c : Catalog) (ds : List ClassDef) : Prop where
  /-- The classes are the listed ones, in their order. -/
  classes : c.classes.toList = ds
  /-- None is left out. -/
  size : c.size = ds.length
  /-- A class is the first of its descriptor. -/
  class? : ∀ descriptor, c.class? descriptor = ds.find? (·.type.text == descriptor)
  /-- A method is the first of its descriptor, class by class, whichever class it names as its
  owner. -/
  method? : ∀ descriptor, c.method? descriptor =
    (ds.flatMap (·.methods.toList)).find? (·.method.descriptor == descriptor)
  /-- A method is there if it can be looked up. -/
  containsMethod : ∀ descriptor,
    c.containsMethod descriptor = true ↔ ∃ m, c.method? descriptor = some m
  /-- The index of classes leads to a listed class of the descriptor, and there is none before. -/
  classIndex : ∀ descriptor i, c.classIndex[descriptor]? = some i →
    ∃ d : ClassDef, ds[i]? = some d ∧ d.type.text = descriptor ∧
      ∀ (i' : Nat) (d' : ClassDef), i' < i → ds[i']? = some d' → d'.type.text ≠ descriptor
  /-- The index of methods leads to a method of the descriptor in a listed class, and there is none
  before. -/
  methodIndex : ∀ descriptor i j, c.methodIndex[descriptor]? = some (i, j) →
    FirstAt descriptor ds i j

/-- **A catalog answers as a scan would**, for every list of classes: with several of one
descriptor, with the same method in several of them, and with methods of other classes. -/
theorem ofList_scans (ds : List ClassDef) : (ofList ds).Scans ds := by
  have hclasses := toList_classes_ofList ds
  constructor
  case classes => exact hclasses
  case size => rw [size, ← Array.length_toList, hclasses]
  case class? => exact class?_ofList ds
  case method? => exact method?_ofList ds
  case containsMethod =>
    intro descriptor
    rw [containsMethod_ofList, Option.isSome_iff_exists]
  case classIndex =>
    intro descriptor i hi
    rw [classesIndexed_ofList ds descriptor, hclasses] at hi
    obtain ⟨hlt, hdefined, hbefore⟩ := List.findIdx?_eq_some_iff_getElem.mp hi
    refine ⟨ds[i], List.getElem?_eq_getElem hlt, beq_iff_eq.mp hdefined, ?_⟩
    rintro i' d' hlt' hd' rfl
    obtain ⟨hi', rfl⟩ := List.getElem?_eq_some_iff.mp hd'
    exact hbefore i' hlt' (beq_self_eq_true _)
  case methodIndex =>
    intro descriptor i j hij
    rw [methodsIndexed_ofList ds descriptor, hclasses] at hij
    exact firstAt_of_firstPlace? hij

end Catalog

end CallEffects
