import Std.Data.TreeMap
import CallEffects.Descriptor.Basic

/-!
# The class catalog

The classes of the program under analysis, in the order in which they were added, with indexes by
descriptor. Where two classes or two methods have the same descriptor, the first one is found.
The modifiers of a class or a method are the bits of one word, of which those without a meaning are
kept.

## Main definitions

* `AccessFlags` — modifiers
* `AccessFlags.isFinal`, `AccessFlags.isStatic` — the two that the analysis asks for
* `MethodDef`, `ClassDef` — declarations
* `Catalog` — the declarations with their indexes
* `Catalog.add`, `Catalog.ofList` — building one
* `Catalog.class?`, `Catalog.method?` — looking up

## Main results

* `Catalog.toList_classes_ofList` — a catalog has the classes that it was given, in their order
-/

namespace CallEffects

/-! ### Access flags -/

/-- The modifiers of a class or a method. -/
structure AccessFlags where
  /-- The bits. -/
  bits : UInt32
deriving DecidableEq, Repr

namespace AccessFlags

/-- The bits with a meaning, under their names, in ascending order. -/
def known : List (String × UInt32) :=
  [("PUBLIC", 0x1), ("PRIVATE", 0x2), ("PROTECTED", 0x4), ("STATIC", 0x8), ("FINAL", 0x10),
   ("SYNCHRONIZED", 0x20), ("BRIDGE", 0x40), ("VARARGS", 0x80), ("NATIVE", 0x100),
   ("INTERFACE", 0x200), ("ABSTRACT", 0x400), ("STRICT", 0x800), ("SYNTHETIC", 0x1000),
   ("ANNOTATION", 0x2000), ("ENUM", 0x4000), ("CONSTRUCTOR", 0x10000),
   ("DECLARED_SYNCHRONIZED", 0x20000)]

/-- All bits with a meaning. -/
def knownMask : UInt32 := known.foldl (fun mask (_, bit) => mask ||| bit) 0

/-- A bit is set. -/
def has (f : AccessFlags) (bit : UInt32) : Bool := f.bits &&& bit == bit

/-- The class or method may not be extended. -/
def isFinal (f : AccessFlags) : Bool := f.has 0x10

/-- The method has no instance. -/
def isStatic (f : AccessFlags) : Bool := f.has 0x8

/-- The flags without the bits that have no meaning. -/
def truncate (f : AccessFlags) : AccessFlags := ⟨f.bits &&& knownMask⟩

/-- Flags without a bit that has no meaning. -/
def strict? (bits : UInt32) : Option AccessFlags :=
  if bits &&& knownMask == bits then some ⟨bits⟩ else none

/-- The names of the bits that are set, in ascending order. -/
def names (f : AccessFlags) : List String := (known.filter fun (_, bit) => f.has bit).map (·.1)

end AccessFlags

/-! ### Classes and methods -/

/-- The declaration of a method. -/
structure MethodDef where
  /-- The method. -/
  method : MethodRef
  /-- Its modifiers. -/
  flags : AccessFlags
deriving DecidableEq, Repr

/-- The declaration of a class. -/
structure ClassDef where
  /-- The class. -/
  type : TypeDescriptor
  /-- Its modifiers. -/
  flags : AccessFlags
  /-- The methods that it declares, in order. -/
  methods : Array MethodDef
deriving DecidableEq, Repr

/-- The class may not be extended. -/
def ClassDef.isFinal (c : ClassDef) : Bool := c.flags.isFinal

/-- The method has no instance. -/
def MethodDef.isStatic (m : MethodDef) : Bool := m.flags.isStatic

/-- Class declarations with their indexes. -/
structure Catalog where
  /-- The classes, in the order in which they were added. -/
  classes : Array ClassDef
  /-- The place of the first class of each descriptor. -/
  classIndex : Std.TreeMap String Nat
  /-- The place of the first method of each descriptor: that of its class, and its own within
  the class. -/
  methodIndex : Std.TreeMap String (Nat × Nat)

namespace Catalog

/-- The catalog without classes. -/
def empty : Catalog := ⟨#[], ∅, ∅⟩

instance : Inhabited Catalog := ⟨empty⟩

/-- Enter the methods of the class at place `i` into an index, unless their descriptors are
there already. -/
def indexMethods (index : Std.TreeMap String (Nat × Nat)) (i : Nat) (methods : List MethodDef) :
    Std.TreeMap String (Nat × Nat) :=
  methods.zipIdx.foldl (fun index (m, j) => index.insertIfNew m.method.descriptor (i, j)) index

/-- The catalog with one more class at its end. -/
def add (c : Catalog) (d : ClassDef) : Catalog where
  classes := c.classes.push d
  classIndex := c.classIndex.insertIfNew d.type.text c.classes.size
  methodIndex := indexMethods c.methodIndex c.classes.size d.methods.toList

/-- The catalog of the given classes. -/
def ofList (ds : List ClassDef) : Catalog := ds.foldl add empty

/-- The number of classes. -/
def size (c : Catalog) : Nat := c.classes.size

/-- There are no classes. -/
def isEmpty (c : Catalog) : Bool := c.classes.isEmpty

/-- The first class of the given descriptor. -/
def class? (c : Catalog) (descriptor : String) : Option ClassDef := do
  let i ← c.classIndex[descriptor]?
  c.classes[i]?

/-- The first method of the given descriptor. -/
def method? (c : Catalog) (descriptor : String) : Option MethodDef := do
  let (i, j) ← c.methodIndex[descriptor]?
  let d ← c.classes[i]?
  d.methods[j]?

/-- Some class declares a method of the given descriptor. -/
def containsMethod (c : Catalog) (descriptor : String) : Bool :=
  c.methodIndex.contains descriptor

theorem toList_classes_foldl_add (ds : List ClassDef) (c : Catalog) :
    (ds.foldl add c).classes.toList = c.classes.toList ++ ds := by
  induction ds generalizing c with
  | nil => simp
  | cons d ds ih =>
    rw [List.foldl_cons, ih]
    simp [add]

/-- A catalog has the classes that it was given, in their order. -/
@[simp] theorem toList_classes_ofList (ds : List ClassDef) :
    (ofList ds).classes.toList = ds := by
  rw [ofList, toList_classes_foldl_add]
  simp [empty]

end Catalog

end CallEffects
