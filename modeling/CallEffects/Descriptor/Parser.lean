import CallEffects.Error

/-!
# Reading descriptors

The parameters of a method are written as their descriptors run together, without separators.
Reading such a list takes one descriptor after the other off the front.

The text of a method reference is cut at the first `->`, then at the first `(`, then at the first
`)`. The four parts are accepted when the owner is a class or an array, the name is not empty, and
the types are descriptors.

## Main definitions

* `Text.cut?` — the parts before and after the first occurrence of a separator
* `TypeDescriptor.takeFirst?` — the descriptor at the front, and the rest
* `TypeDescriptor.splitChars?`, `TypeDescriptor.splitList` — all of them
* `TypeDescriptor.isValid` — a text that is exactly one descriptor
* `MethodRef.ofChars?`, `MethodRef.parse` — a reference from its text

## Main results

* `Text.cut?_eq_some_append` — a successful cut loses nothing
* `TypeDescriptor.takeFirst?_eq_some_append` — taking one off loses nothing
* `TypeDescriptor.takeFirst?_length_lt` — and leaves less, so that splitting ends
-/

namespace CallEffects

/-! ### Cutting at a separator -/

namespace Text

/-- The parts of `cs` before and after the first occurrence of `sep`, if there is one. -/
def cut? (sep : List Char) : List Char → Option (List Char × List Char)
  | [] => if sep.isEmpty then some ([], []) else none
  | c :: cs =>
    if sep.isPrefixOf (c :: cs) then some ([], (c :: cs).drop sep.length)
    else (cut? sep cs).map fun (before, after) => (c :: before, after)

/-- A successful cut loses nothing: the parts and the separator make up the text again. -/
theorem cut?_eq_some_append {sep cs before after : List Char}
    (h : cut? sep cs = some (before, after)) : cs = before ++ sep ++ after := by
  induction cs generalizing before with
  | nil =>
    simp only [cut?] at h
    split at h
    · simp_all
    · simp at h
  | cons c cs ih =>
    simp only [cut?] at h
    split at h
    · rename_i hp
      simp only [Option.some.injEq, Prod.mk.injEq] at h
      obtain ⟨rfl, rfl⟩ := h
      obtain ⟨rest, hrest⟩ := List.isPrefixOf_iff_prefix.mp hp
      simp [← hrest]
    · simp only [Option.map_eq_some_iff, Prod.mk.injEq, Prod.exists] at h
      obtain ⟨b, a, hcut, rfl, rfl⟩ := h
      simp [ih hcut]

end Text

namespace TypeDescriptor

/-! ### The descriptor at the front -/

/-- The descriptor at the front of `cs` and what follows it: brackets, then either the letter of
a primitive type or everything from `L` through the next `;`. -/
def takeFirst? : List Char → Option (List Char × List Char)
  | [] => none
  | c :: cs =>
    if c = '[' then
      (takeFirst? cs).map fun (first, rest) => ('[' :: first, rest)
    else if c = 'L' then
      (Text.cut? [';'] cs).map fun (name, rest) => ('L' :: (name ++ [';']), rest)
    else if primitiveCodes.contains c then
      some ([c], cs)
    else
      none

/-- Taking a descriptor off the front loses nothing. -/
theorem takeFirst?_eq_some_append {cs first rest : List Char}
    (h : takeFirst? cs = some (first, rest)) : cs = first ++ rest := by
  induction cs generalizing first with
  | nil => simp [takeFirst?] at h
  | cons c cs ih =>
    simp only [takeFirst?] at h
    split at h
    · rename_i hc
      simp only [Option.map_eq_some_iff, Prod.mk.injEq, Prod.exists] at h
      obtain ⟨f, r, hf, rfl, rfl⟩ := h
      simp [hc, ih hf]
    · split at h
      · rename_i hc
        simp only [Option.map_eq_some_iff, Prod.mk.injEq, Prod.exists] at h
        obtain ⟨n, r, hn, rfl, rfl⟩ := h
        simp [hc, Text.cut?_eq_some_append hn]
      · split at h
        · simp only [Option.some.injEq, Prod.mk.injEq] at h
          obtain ⟨rfl, rfl⟩ := h
          rfl
        · simp at h

/-- A descriptor has at least one character. -/
theorem takeFirst?_ne_nil {cs first rest : List Char}
    (h : takeFirst? cs = some (first, rest)) : first ≠ [] := by
  rintro rfl
  cases cs with
  | nil => simp [takeFirst?] at h
  | cons c cs =>
    simp only [takeFirst?] at h
    split at h
    · simp at h
    · split at h
      · simp at h
      · split at h <;> simp at h

/-- What follows the descriptor at the front is shorter than the whole. -/
theorem takeFirst?_length_lt {cs first rest : List Char}
    (h : takeFirst? cs = some (first, rest)) : rest.length < cs.length := by
  have hne := List.length_pos_iff.mpr (takeFirst?_ne_nil h)
  rw [takeFirst?_eq_some_append h, List.length_append]
  omega

/-! ### The whole list -/

/-- The descriptors of which `cs` is the concatenation. -/
def splitChars? (cs : List Char) : Option (List (List Char)) :=
  if cs.isEmpty then some []
  else
    match _h : takeFirst? cs with
    | none => none
    | some (first, rest) => (splitChars? rest).map (first :: ·)
  termination_by cs.length
  decreasing_by exact takeFirst?_length_lt _h

/-- The descriptors of which a text is the concatenation. A text that is not such a list is
refused as a whole. -/
def splitList (text : String) : Except Error (List TypeDescriptor) :=
  match splitChars? text.toList with
  | some parts => .ok (parts.map fun part => ⟨String.ofList part⟩)
  | none => .error (.invalidDescriptor text)

/-- The text is exactly one descriptor. -/
def isValid (d : TypeDescriptor) : Bool :=
  match splitChars? d.text.toList with
  | some [_] => true
  | _ => false

end TypeDescriptor

/-! ### Method references -/

namespace MethodRef

/-- The parts are those of a reference that a compiler can emit: a class or an array has the
method, the method has a name, and what it returns is a type or nothing. -/
def isPlausible (owner : TypeDescriptor) (name : String) (returns : TypeDescriptor) : Bool :=
  name != "" && (owner.isClass || owner.isArray) && owner.isValid &&
    (returns.isVoid || returns.isValid)

/-- The reference of which `cs` is the text. -/
def ofChars? (cs : List Char) : Option MethodRef := do
  let (owner, afterOwner) ← Text.cut? ['-', '>'] cs
  let (name, afterName) ← Text.cut? ['('] afterOwner
  let (params, returns) ← Text.cut? [')'] afterName
  let types ← TypeDescriptor.splitChars? params
  let m : MethodRef :=
    { owner := ⟨String.ofList owner⟩
      name := String.ofList name
      params := types.map fun t => ⟨String.ofList t⟩
      returns := ⟨String.ofList returns⟩ }
  if isPlausible m.owner m.name m.returns then some m else none

/-- The reference of which `text` is the descriptor. Any other text is refused as a whole. -/
def parse (text : String) : Except Error MethodRef :=
  match ofChars? text.toList with
  | some m => .ok m
  | none => .error (.invalidDescriptor text)

end MethodRef

end CallEffects
