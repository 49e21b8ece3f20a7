/-!
# Descriptors

A type descriptor is the text by which Dalvik bytecode names a type: one letter for a primitive
type, `[` in front of the element type of an array, and `L…;` around the slash-separated name of
a class. The classifiers below look only at the outline of the text, so they are defined for every
text, also for one that no compiler emits.

A call names its target by the class that is said to declare it, its name, the types of its
parameters and its return type. The four together are written as one text, the descriptor of the
method, and the tables of the library are keyed by that text.

## Main definitions

* `TypeDescriptor` — the text of a type
* `TypeDescriptor.isPrimitive`, `isWide`, `isArray`, `isClass`, `isVoid` — its outline
* `TypeDescriptor.width` — how many registers a value of the type takes
* `TypeDescriptor.qualifiedName?` — the dotted name of a class
* `MethodRef` — a reference to a method, validated or not
* `MethodRef.descriptor` — its text
* `MethodRef.parameterRegisters` — how many registers its declared parameters take

## Main results

* `TypeDescriptor.isClass_iff` — the outline of a class
-/

namespace CallEffects

/-! ### Types -/

/-- A type, by the text that names it in bytecode. The text is not validated: a register may
carry a type that was never resolved. -/
structure TypeDescriptor where
  /-- The text itself. -/
  text : String
deriving DecidableEq, Repr, Inhabited

namespace TypeDescriptor

/-- The letters that name the primitive types: boolean, byte, short, char, int, long, float and
double. -/
def primitiveCodes : List Char := ['Z', 'B', 'S', 'C', 'I', 'J', 'F', 'D']

/-- The descriptor is the letter of a primitive type. -/
def isPrimitive (d : TypeDescriptor) : Bool :=
  match d.text.toList with
  | [c] => primitiveCodes.contains c
  | _ => false

/-- A long or a double, whose value takes two registers. -/
def isWide (d : TypeDescriptor) : Bool := d.text == "J" || d.text == "D"

/-- The descriptor opens as an array does. -/
def isArray (d : TypeDescriptor) : Bool := d.text.toList.head? == some '['

/-- The descriptor is `L`, a name that is not empty, and `;`. -/
def isClass (d : TypeDescriptor) : Bool :=
  match d.text.toList with
  | 'L' :: rest => 1 < rest.length && rest.getLast? == some ';'
  | _ => false

/-- The return type of a method that returns nothing. -/
def isVoid (d : TypeDescriptor) : Bool := d.text == "V"

/-- The number of registers that a value of the type takes. -/
def width (d : TypeDescriptor) : Nat := if d.isWide then 2 else 1

/-- The dotted name of a class, `java.lang.String` for `Ljava/lang/String;`. Only class
descriptors have one. -/
def qualifiedName? (d : TypeDescriptor) : Option String :=
  if d.isClass then
    some (String.ofList ((d.text.toList.drop 1).dropLast.map fun c => if c = '/' then '.' else c))
  else
    none

/-- The type of a value about which nothing is known. -/
def unresolved : TypeDescriptor := ⟨"?"⟩

/-- A class is known by a name between `L` and `;`. -/
theorem isClass_iff {d : TypeDescriptor} :
    d.isClass = true ↔ ∃ name, name ≠ [] ∧ d.text.toList = 'L' :: (name ++ [';']) := by
  constructor
  · intro h
    rw [isClass] at h
    split at h
    · rename_i rest heq
      simp only [Bool.and_eq_true, decide_eq_true_eq, beq_iff_eq] at h
      obtain ⟨hlength, hlast⟩ := h
      obtain ⟨name, rfl⟩ := List.getLast?_eq_some_iff.mp hlast
      refine ⟨name, ?_, heq⟩
      rintro rfl
      exact absurd hlength (by decide)
    · exact absurd h Bool.false_ne_true
  · rintro ⟨name, hname, htext⟩
    have hlength : 0 < name.length := List.length_pos_iff.mpr hname
    simp [isClass, htext, hlength]

@[simp] theorem width_of_isWide {d : TypeDescriptor} (h : d.isWide = true) : d.width = 2 := by
  simp [width, h]

@[simp] theorem width_of_not_isWide {d : TypeDescriptor} (h : d.isWide = false) : d.width = 1 := by
  simp [width, h]

end TypeDescriptor

/-! ### Methods -/

/-- A reference to a method. A reference that was put together from parts need not be one that
can be read back from its text. -/
structure MethodRef where
  /-- The class or array type whose method is called. -/
  owner : TypeDescriptor
  /-- The simple name. -/
  name : String
  /-- The declared parameters, without the instance. -/
  params : List TypeDescriptor
  /-- What the method returns, `V` for nothing. -/
  returns : TypeDescriptor
deriving DecidableEq, Repr

namespace MethodRef

/-- The characters of a reference: owner, `->`, name, the parameters run together in parentheses,
and the return type. -/
def descriptorChars (m : MethodRef) : List Char :=
  m.owner.text.toList ++ ['-', '>'] ++ m.name.toList ++ ['('] ++
    m.params.flatMap (·.text.toList) ++ [')'] ++ m.returns.text.toList

/-- The text of a reference, `Lcom/example/Buffer;->size()I`. -/
def descriptor (m : MethodRef) : String := String.ofList m.descriptorChars

/-- The number of registers that the declared parameters take, two for each wide one. -/
def parameterRegisters (m : MethodRef) : Nat := m.params.foldr (·.width + ·) 0

/-- The method returns nothing. -/
def isVoid (m : MethodRef) : Bool := m.returns.isVoid

end MethodRef

end CallEffects
