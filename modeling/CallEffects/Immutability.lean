import CallEffects.Catalog

/-!
# Immutability

Whether an object of a given type may be changed by a method that receives it. A primitive value
cannot; of a class of the program the catalog says whether it is final, of a class outside it the
metadata may; everything else may change.

Metadata are what is known of classes that are not part of the program under analysis: whether a
class of a given dotted name is final.

A resolver keeps the verdicts that it has found, unless it is told not to. Primitive types are
answered without a look at what is kept.

## Main definitions

* `Metadata` — answers by name
* `TypeTable` — a finite table of answers
* `TypeTable.platform` — the classes of the platform's library that are asked for most
* `Verdict`, `Verdict.Source` — an answer, and where it came from
* `Resolver` — catalog, metadata and the verdicts that were kept
* `Resolver.resolve` — the answer from first principles
* `Resolver.verdict` — the answer, kept for the next time

## Main results

* `Resolver.catalog_verdict`, `Resolver.metadata_verdict` — an answer changes only what is kept
-/

namespace CallEffects

/-! ### Metadata -/

/-- What is known of classes outside the program, by their dotted names. -/
structure Metadata where
  /-- Whether the class is final, if it is known. -/
  isFinal? : String → Option Bool

namespace Metadata

/-- Nothing is known. -/
def none : Metadata := ⟨fun _ => Option.none⟩

/-- Every class whose name starts with the given text is known to be final. -/
def sealedUnder (start : String) : Metadata :=
  ⟨fun name => if name.startsWith start then some true else Option.none⟩

end Metadata

/-- A finite table of answers. -/
structure TypeTable where
  /-- Whether each class is final. -/
  entries : Std.TreeMap String Bool

namespace TypeTable

/-- The table without answers. -/
def empty : TypeTable := ⟨∅⟩

/-- The table with the answer for one class, which replaces an earlier one. -/
def insert (t : TypeTable) (name : String) (isFinal : Bool) : TypeTable :=
  ⟨t.entries.insert name isFinal⟩

/-- The number of classes in the table. -/
def size (t : TypeTable) : Nat := t.entries.size

/-- The table has no answers. -/
def isEmpty (t : TypeTable) : Bool := t.entries.isEmpty

/-- The answers of a table. -/
def metadata (t : TypeTable) : Metadata := ⟨fun name => t.entries[name]?⟩

/-- Platform classes that are final. -/
def finalClasses : List String :=
  ["java.lang.Boolean", "java.lang.Byte", "java.lang.Character", "java.lang.Class",
   "java.lang.Double", "java.lang.Float", "java.lang.Integer", "java.lang.Long",
   "java.lang.Math", "java.lang.Short", "java.lang.StrictMath", "java.lang.String",
   "java.lang.StringBuffer", "java.lang.StringBuilder", "java.lang.System", "java.lang.Void",
   "java.util.Arrays", "java.util.Objects", "java.util.Optional", "java.util.UUID"]

/-- Platform classes that are open for extension. -/
def openClasses : List String :=
  ["java.io.InputStream", "java.io.OutputStream", "java.lang.ClassLoader", "java.lang.Enum",
   "java.lang.Exception", "java.lang.Number", "java.lang.Object", "java.lang.RuntimeException",
   "java.lang.Thread", "java.lang.Throwable", "java.math.BigDecimal", "java.math.BigInteger",
   "java.util.AbstractList", "java.util.ArrayList", "java.util.Collections", "java.util.HashMap",
   "java.util.HashSet", "java.util.LinkedList", "java.util.Random"]

/-- The classes of the platform's library that are asked for most. -/
def platform : TypeTable :=
  let withFinal := finalClasses.foldl (fun t name => t.insert name true) empty
  openClasses.foldl (fun t name => t.insert name false) withFinal

end TypeTable

/-! ### Verdicts -/

/-- Where a verdict came from. -/
inductive Verdict.Source where
  /-- The type is primitive. -/
  | primitive
  /-- The program declares the class. -/
  | catalog
  /-- The metadata know the class. -/
  | platform
  /-- Nothing is known of the type. -/
  | unresolved
deriving DecidableEq, Repr

/-- Whether a type is immutable, and where that came from. -/
structure Verdict where
  /-- A method that receives such an object cannot change it. -/
  immutable : Bool
  /-- Where that came from. -/
  source : Verdict.Source
deriving DecidableEq, Repr

/-- Finds verdicts, and keeps those that it has found. -/
structure Resolver where
  /-- The classes of the program. -/
  catalog : Catalog
  /-- What is known of other classes. -/
  metadata : Metadata
  /-- The verdicts that were kept, if any are to be kept. -/
  kept : Option (Std.TreeMap String Verdict)

namespace Resolver

/-- A resolver that has not found anything yet. -/
def new (catalog : Catalog) (metadata : Metadata) (keep : Bool) : Resolver :=
  ⟨catalog, metadata, if keep then some ∅ else none⟩

/-- The same resolver with nothing kept, told anew whether to keep verdicts. -/
def restart (r : Resolver) (keep : Bool) : Resolver := new r.catalog r.metadata keep

/-- The verdict on a type that is not primitive: the catalog is asked first, then the metadata. -/
def lookUp (r : Resolver) (type : TypeDescriptor) : Verdict :=
  match r.catalog.class? type.text with
  | some c => ⟨c.isFinal, .catalog⟩
  | none =>
    match type.qualifiedName?.bind r.metadata.isFinal? with
    | some isFinal => ⟨isFinal, .platform⟩
    | none => ⟨false, .unresolved⟩

/-- The verdict on a type, without a look at what was kept. -/
def resolve (r : Resolver) (type : TypeDescriptor) : Verdict :=
  if type.isPrimitive then ⟨true, .primitive⟩ else r.lookUp type

/-- The verdict on a type, and the resolver that has kept it. -/
def verdict (r : Resolver) (type : TypeDescriptor) : Verdict × Resolver :=
  if type.isPrimitive then (⟨true, .primitive⟩, r)
  else
    match r.kept with
    | none => (r.lookUp type, r)
    | some kept =>
      match kept[type.text]? with
      | some v => (v, r)
      | none =>
        let v := r.lookUp type
        (v, { r with kept := some (kept.insert type.text v) })

/-- The number of verdicts that are kept. -/
def keptCount (r : Resolver) : Nat :=
  match r.kept with
  | some kept => kept.size
  | none => 0

/-! ### What an answer leaves alone -/

@[simp] theorem catalog_verdict (r : Resolver) (type : TypeDescriptor) :
    (r.verdict type).2.catalog = r.catalog := by
  rw [verdict]
  split
  · rfl
  · split
    · rfl
    · split <;> rfl

@[simp] theorem metadata_verdict (r : Resolver) (type : TypeDescriptor) :
    (r.verdict type).2.metadata = r.metadata := by
  rw [verdict]
  split
  · rfl
  · split
    · rfl
    · split <;> rfl

end Resolver

end CallEffects
