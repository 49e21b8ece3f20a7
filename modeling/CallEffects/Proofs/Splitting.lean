import CallEffects.Proofs.Grammar

/-!
# Splitting by byte offsets

A list of descriptors can be read without looking at its characters: a cursor goes over the bytes
of the text, compares single bytes with the letters of the grammar, and cuts the text at the
offsets at which it stopped. A cut is only possible between two characters, and a class name may
hold characters of several bytes. `TypeDescriptor.splitBytes?` is this reader, with the cuts that
may go wrong. It always finds its cuts possible, and it reads what `TypeDescriptor.splitList` does:
a byte of the grammar is never the beginning of a longer character.

The lists themselves are those of the grammar. Since no descriptor is the beginning of another, a
list is read off the front of a longer text whatever follows it.

## Main definitions

* `Text.slice?` — the part of a text between two offsets, if they are between characters
* `TypeDescriptor.splitBytes?` — splitting by a cursor
* `TypeDescriptor.Spelled`, `TypeDescriptor.Lists` — descriptors and lists of them, as texts

## Main results

* `Text.head?_utf8EncodeChar_eq_some_iff` — a character of one byte is known by its first byte
* `TypeDescriptor.stop?_ofList` — where the cursor stops
* `TypeDescriptor.splitBytes?_eq` — the cursor reads what is read character by character
* `TypeDescriptor.splitList_append` — a list in front of another text
* `TypeDescriptor.splitList_readsGrammar` — all of this together
-/

namespace CallEffects

/-! ### Offsets -/

namespace Text

/-- The offset behind the given characters. -/
def offset (cs : List Char) : Nat := (String.ofList cs).utf8ByteSize

/-- The part of a text between two offsets, if both are between characters. -/
def slice? (s : String) (start stop : Nat) : Option String :=
  if h : (⟨start⟩ : String.Pos.Raw).IsValid s ∧ (⟨stop⟩ : String.Pos.Raw).IsValid s ∧
      start ≤ stop then
    some (s.extract (s.pos ⟨start⟩ h.1) (s.pos ⟨stop⟩ h.2.1))
  else none

/-- The offset of the first occurrence of a character. -/
def find? (c : Char) (s : String) : Option Nat :=
  (cut? [c] s.toList).map fun (before, _) => offset before

/-- The first offset from `pos` on at which another byte stands than the given one. -/
def skip (b : UInt8) (s : String) (pos : Nat) : Nat :=
  if h : s.toByteArray[pos]? = some b then skip b s (pos + 1) else pos
  termination_by s.utf8ByteSize - pos
  decreasing_by
    obtain ⟨hlt, -⟩ := getElem?_eq_some_iff.mp h
    rw [String.size_toByteArray] at hlt
    omega

@[simp] theorem offset_append (as bs : List Char) : offset (as ++ bs) = offset as + offset bs := by
  rw [offset, String.ofList_append, String.utf8ByteSize_append]
  rfl

theorem offset_singleton (c : Char) : offset [c] = c.utf8Size := by
  rw [offset, ← String.singleton_eq_ofList, String.utf8ByteSize_singleton]

theorem offset_lt {as cs : List Char} (h : cs ≠ []) :
    offset as < (String.ofList (as ++ cs)).utf8ByteSize := by
  obtain ⟨c, cs, rfl⟩ := List.exists_cons_of_ne_nil h
  have hpos := c.utf8Size_pos
  show offset as < offset (as ++ ([c] ++ cs))
  rw [offset_append, offset_append, offset_singleton]
  omega

theorem size_toByteArray_ofList (cs : List Char) :
    (String.ofList cs).toByteArray.size = offset cs :=
  String.size_toByteArray

/-- What stands between two parts of a text is cut out of it. -/
theorem slice?_ofList (as bs cs : List Char) :
    slice? (String.ofList (as ++ bs ++ cs)) (offset as) (offset (as ++ bs)) =
      some (String.ofList bs) := by
  have hstart : (⟨offset as⟩ : String.Pos.Raw).IsValid (String.ofList (as ++ bs ++ cs)) := by
    refine String.Pos.Raw.isValid_iff_exists_append.mpr
      ⟨String.ofList as, String.ofList (bs ++ cs), ?_, rfl⟩
    rw [← String.ofList_append, List.append_assoc]
  have hstop : (⟨offset (as ++ bs)⟩ : String.Pos.Raw).IsValid (String.ofList (as ++ bs ++ cs)) :=
    String.Pos.Raw.isValid_iff_exists_append.mpr
      ⟨String.ofList (as ++ bs), String.ofList cs, String.ofList_append, rfl⟩
  have hle : offset as ≤ offset (as ++ bs) := by
    rw [offset_append]
    omega
  rw [slice?, dif_pos ⟨hstart, hstop, hle⟩, Option.some.injEq, ← String.toByteArray_inj,
    String.toByteArray_extract]
  show (String.ofList (as ++ bs ++ cs)).toByteArray.extract (offset as) (offset (as ++ bs)) = _
  rw [offset_append, List.append_assoc, String.ofList_append, String.ofList_append,
    String.toByteArray_append, String.toByteArray_append, ← Nat.add_zero (offset as),
    Nat.add_assoc, Nat.zero_add,
    ByteArray.extract_append_size_add' (size_toByteArray_ofList as).symm,
    ByteArray.extract_append_eq_left (size_toByteArray_ofList bs).symm]

example : slice? "é;" 1 2 = none := by decide

/-! ### Bytes -/

/-- **A character of one byte is known by its first byte.** No longer character begins with it. -/
theorem head?_utf8EncodeChar_eq_some_iff {c d : Char} (hd : d.utf8Size = 1) :
    (String.utf8EncodeChar c).head? = some d.toUInt8 ↔ c = d := by
  have hencode : String.utf8EncodeChar d = [d.toUInt8] := String.utf8EncodeChar_eq_singleton hd
  constructor
  · intro h
    -- The bytes of `c` are the byte of `d` and more: decoding them gives both.
    obtain ⟨tail, htail⟩ := List.head?_eq_some_iff.mp h
    have hbytes : (String.utf8EncodeChar c).toByteArray ++ ByteArray.empty =
        (String.utf8EncodeChar d).toByteArray ++ tail.toByteArray := by
      rw [hencode, htail, ByteArray.append_empty, ← List.toByteArray_append]
      rfl
    have hdecode := congrArg (fun b : ByteArray => b.utf8DecodeChar? 0) hbytes
    simp only [ByteArray.utf8DecodeChar?_utf8EncodeChar_append] at hdecode
    exact Option.some.inj hdecode
  · rintro rfl
    rw [hencode]
    rfl

/-- Behind the last character there is no byte. -/
theorem getElem?_toByteArray_offset (cs : List Char) :
    (String.ofList cs).toByteArray[offset cs]? = none :=
  getElem?_neg _ _ (size_toByteArray_ofList cs).not_gt

/-- The byte behind the characters `as` tells a character of one byte that stands there. -/
theorem exists_byte (as : List Char) (c : Char) (cs : List Char) :
    ∃ b, (String.ofList (as ++ c :: cs)).toByteArray[offset as]? = some b ∧
      ∀ d : Char, d.utf8Size = 1 → (b = d.toUInt8 ↔ c = d) := by
  have hpos : 0 < (String.utf8EncodeChar c).length := by
    rw [String.length_utf8EncodeChar]
    exact c.utf8Size_pos
  have hbytes : (String.ofList (as ++ c :: cs)).toByteArray =
      (String.ofList as).toByteArray ++
        ((String.utf8EncodeChar c).toByteArray ++ cs.utf8Encode) := by
    rw [String.ofList_append, String.toByteArray_append, String.toByteArray_ofList (l := c :: cs),
      List.utf8Encode_cons, List.utf8Encode_singleton]
  have hlt : offset as < ((String.ofList as).toByteArray ++
      ((String.utf8EncodeChar c).toByteArray ++ cs.utf8Encode)).size := by
    rw [ByteArray.size_append, size_toByteArray_ofList, ByteArray.size_append,
      List.size_toByteArray]
    omega
  refine ⟨(String.utf8EncodeChar c)[0], ?_, ?_⟩
  · rw [hbytes, getElem?_pos (_ ++ _ : ByteArray) _ hlt,
      ByteArray.getElem_append_right (size_toByteArray_ofList as).le]
    simp only [size_toByteArray_ofList, Nat.sub_self]
    rw [ByteArray.getElem_append_left (by simpa using hpos), List.getElem_toByteArray]
  · intro d hd
    rw [← head?_utf8EncodeChar_eq_some_iff hd, List.head?_eq_getElem?,
      List.getElem?_eq_getElem hpos, Option.some.injEq]

/-- A byte that stands at the cursor is skipped. -/
theorem skip_ofList_cons {d : Char} (hd : d.utf8Size = 1) (as cs : List Char) :
    skip d.toUInt8 (String.ofList (as ++ d :: cs)) (offset as) =
      skip d.toUInt8 (String.ofList (as ++ d :: cs)) (offset (as ++ [d])) := by
  obtain ⟨b, hb, hknown⟩ := exists_byte as d cs
  obtain rfl := (hknown d hd).mpr rfl
  rw [skip, dif_pos hb, offset_append, offset_singleton, hd]

/-- Another one is not. -/
theorem skip_ofList_of_ne {c d : Char} (hd : d.utf8Size = 1) (hne : c ≠ d) (as cs : List Char) :
    skip d.toUInt8 (String.ofList (as ++ c :: cs)) (offset as) = offset as := by
  obtain ⟨b, hb, hknown⟩ := exists_byte as c cs
  have hother : b ≠ d.toUInt8 := fun heq => hne ((hknown d hd).mp heq)
  rw [skip, dif_neg]
  rw [hb, Option.some.injEq]
  exact hother

theorem skip_offset (b : UInt8) (cs : List Char) :
    skip b (String.ofList cs) (offset cs) = offset cs := by
  rw [skip, dif_neg]
  rw [getElem?_toByteArray_offset]
  exact (Option.some_ne_none b).symm

theorem le_skip (b : UInt8) (s : String) (pos : Nat) : pos ≤ skip b s pos := by
  fun_induction skip b s pos with
  | case1 pos _ ih => omega
  | case2 pos _ => exact Nat.le_refl pos

end Text

/-! ### The cursor -/

namespace TypeDescriptor

/-- Where the cursor stops behind the letter or the class name at `pos`. Outside is the cut that
may go wrong. -/
def stopBody? (s : String) (pos : Nat) : Option (Except Error Nat) :=
  match s.toByteArray[pos]? with
  | none => some (.error (.invalidDescriptor s))
  | some code =>
    if code = 'L'.toUInt8 then
      (Text.slice? s pos s.utf8ByteSize).map fun tail =>
        match Text.find? ';' tail with
        | none => .error (.invalidDescriptor s)
        | some stop => .ok (pos + stop + 1)
    else if (primitiveCodes.map Char.toUInt8).contains code then
      some (.ok (pos + 1))
    else
      some (.error (.invalidDescriptor s))

/-- Where the cursor stops behind the descriptor at `start`. -/
def stop? (s : String) (start : Nat) : Option (Except Error Nat) :=
  stopBody? s (Text.skip '['.toUInt8 s start)

theorem lt_of_stopBody? {s : String} {pos stop : Nat} (h : stopBody? s pos = some (.ok stop)) :
    pos < stop := by
  rw [stopBody?] at h
  split at h
  · cases h
  · split at h
    · obtain ⟨tail, -, htail⟩ := Option.map_eq_some_iff.mp h
      split at htail
      · cases htail
      · cases htail
        omega
    · split at h
      · cases h
        omega
      · cases h

/-- The cursor moves forward. -/
theorem lt_of_stop? {s : String} {start stop : Nat} (h : stop? s start = some (.ok stop)) :
    start < stop :=
  (Text.le_skip _ s start).trans_lt (lt_of_stopBody? h)

/-- The descriptors from `start` to the end of the text. -/
def splitFrom? (s : String) (start : Nat) : Option (Except Error (List TypeDescriptor)) :=
  if _hlt : start < s.utf8ByteSize then
    match _h : stop? s start with
    | none => none
    | some (.error e) => some (.error e)
    | some (.ok stop) =>
      (Text.slice? s start stop).bind fun text =>
        (splitFrom? s stop).map fun types => types.map (⟨text⟩ :: ·)
  else
    some (.ok [])
  termination_by s.utf8ByteSize - start
  decreasing_by
    have hstop := lt_of_stop? _h
    omega

/-- The descriptors of which a text is the concatenation, found by a cursor that goes over its
bytes. There is no answer if the text would have to be cut inside a character. -/
def splitBytes? (s : String) : Option (Except Error (List TypeDescriptor)) := splitFrom? s 0

/-! ### The cursor reads the characters -/

theorem utf8Size_of_mem_primitiveCodes {d : Char} (h : d ∈ primitiveCodes) : d.utf8Size = 1 := by
  have hall : primitiveCodes.all (·.utf8Size == 1) = true := by decide
  exact beq_iff_eq.mp (List.all_eq_true.mp hall d h)

/-- The end of what begins behind the characters `as` of a text, if anything does. -/
def stopBehind (s : String) (as : List Char) (taken : Option (List Char × List Char)) :
    Except Error Nat :=
  match taken with
  | none => .error (.invalidDescriptor s)
  | some (first, _) => .ok (Text.offset (as ++ first))

theorem find?_ofList_name (cs : List Char) :
    Text.find? ';' (String.ofList ('L' :: cs)) =
      (Text.cut? [';'] cs).map fun (name, _) => Text.offset ('L' :: name) := by
  rw [Text.find?, String.toList_ofList, Text.cut?, if_neg (by simp), Option.map_map]
  rfl

/-- The tail of a text can be cut off where the cursor stands. -/
theorem slice?_tail (as cs : List Char) :
    Text.slice? (String.ofList (as ++ cs)) (Text.offset as)
      (String.ofList (as ++ cs)).utf8ByteSize = some (String.ofList cs) := by
  have hslice := Text.slice?_ofList as cs []
  rwa [List.append_nil] at hslice

/-- Behind the brackets the cursor stops where the descriptor ends. -/
theorem stopBody?_ofList {c : Char} (hc : c ≠ '[') (as cs : List Char) :
    stopBody? (String.ofList (as ++ c :: cs)) (Text.offset as) =
      some (stopBehind (String.ofList (as ++ c :: cs)) as (takeFirst? (c :: cs))) := by
  obtain ⟨b, hb, hknown⟩ := Text.exists_byte as c cs
  rw [stopBody?, hb, takeFirst?, if_neg hc]
  simp only [hknown 'L' (by decide)]
  by_cases hname : c = 'L'
  · subst hname
    rw [if_pos rfl, if_pos rfl, slice?_tail, Option.map_some, find?_ofList_name]
    cases Text.cut? [';'] cs with
    | none => rfl
    | some parts =>
      obtain ⟨name, rest⟩ := parts
      have hstop : Text.offset as + Text.offset ('L' :: name) + 1 =
          Text.offset (as ++ 'L' :: (name ++ [';'])) := by
        rw [← List.cons_append, Text.offset_append, Text.offset_append, Text.offset_singleton,
          Nat.add_assoc]
        rfl
      show some (Except.ok (Text.offset as + Text.offset ('L' :: name) + 1)) = _
      rw [hstop]
      rfl
  · have hcodes : (primitiveCodes.map Char.toUInt8).contains b = true ↔
        primitiveCodes.contains c = true := by
      rw [List.contains_iff_mem, List.contains_iff_mem, List.mem_map]
      constructor
      · rintro ⟨d, hd, rfl⟩
        rwa [(hknown d (utf8Size_of_mem_primitiveCodes hd)).mp rfl]
      · intro hmem
        exact ⟨c, hmem, ((hknown c (utf8Size_of_mem_primitiveCodes hmem)).mpr rfl).symm⟩
    rw [if_neg hname, if_neg hname]
    simp only [hcodes]
    by_cases hcode : primitiveCodes.contains c = true
    · have hsize := utf8Size_of_mem_primitiveCodes (List.contains_iff_mem.mp hcode)
      rw [if_pos hcode, if_pos hcode, stopBehind, Text.offset_append, Text.offset_singleton, hsize]
    · rw [if_neg hcode, if_neg hcode]
      rfl

/-- **Where the cursor stops.** At the end of the descriptor that is taken off the front. -/
theorem stop?_ofList (as cs : List Char) :
    stop? (String.ofList (as ++ cs)) (Text.offset as) =
      some (stopBehind (String.ofList (as ++ cs)) as (takeFirst? cs)) := by
  -- The induction goes over the brackets: behind one of them the cursor looks at a shorter rest.
  induction cs generalizing as with
  | nil =>
    rw [List.append_nil, stop?, Text.skip_offset, stopBody?, Text.getElem?_toByteArray_offset]
    rfl
  | cons c cs ih =>
    by_cases hc : c = '['
    · subst hc
      have hmoved := ih (as ++ ['['])
      rw [List.append_assoc, List.singleton_append] at hmoved
      rw [stop?, Text.skip_ofList_cons (by decide), ← stop?, hmoved, takeFirst?, if_pos rfl]
      cases takeFirst? cs with
      | none => rfl
      | some parts =>
        rw [stopBehind, List.append_assoc, List.singleton_append]
        rfl
    · rw [stop?, Text.skip_ofList_of_ne (by decide) hc, stopBody?_ofList hc]

/-- What is read, if the characters could be split. -/
def readParts (s : String) (parts : Option (List (List Char))) :
    Except Error (List TypeDescriptor) :=
  match parts with
  | some parts => .ok (parts.map fun part => ⟨String.ofList part⟩)
  | none => .error (.invalidDescriptor s)

/-- One turn of the cursor. -/
theorem splitFrom?_of_lt {s : String} {start : Nat} (hlt : start < s.utf8ByteSize) :
    splitFrom? s start =
      match stop? s start with
      | none => none
      | some (.error e) => some (.error e)
      | some (.ok stop) =>
        (Text.slice? s start stop).bind fun text =>
          (splitFrom? s stop).map fun types => types.map (⟨text⟩ :: ·) := by
  rw [splitFrom?, dif_pos hlt]
  split
  all_goals
    rename_i hstop
    rw [hstop]

/-- From behind the characters `as` the cursor reads the characters that follow. -/
theorem splitFrom?_ofList (as cs : List Char) :
    splitFrom? (String.ofList (as ++ cs)) (Text.offset as) =
      some (readParts (String.ofList (as ++ cs)) (splitChars? cs)) := by
  fun_induction splitChars? cs generalizing as with
  | case1 cs hempty =>
    obtain rfl := List.isEmpty_iff.mp hempty
    have hend : ¬ Text.offset as < (String.ofList as).utf8ByteSize := Nat.lt_irrefl _
    rw [List.append_nil, splitFrom?, dif_neg hend]
    rfl
  | case2 cs hempty htake =>
    have hne : cs ≠ [] := by simpa using hempty
    rw [splitFrom?_of_lt (Text.offset_lt hne), stop?_ofList, htake]
    rfl
  | case3 cs hempty first rest htake ih =>
    have hne : cs ≠ [] := by simpa using hempty
    rw [splitFrom?_of_lt (Text.offset_lt hne), stop?_ofList, htake, stopBehind]
    obtain rfl := takeFirst?_eq_some_append htake
    have hslice := Text.slice?_ofList as first rest
    have hrest := ih (as ++ first)
    rw [List.append_assoc] at hslice hrest
    simp only [hslice, hrest, Option.bind_some]
    cases splitChars? rest <;> rfl

/-- **The cursor reads what is read character by character.** -/
theorem splitBytes?_eq (s : String) : splitBytes? s = some (splitList s) := by
  have h := splitFrom?_ofList [] s.toList
  rw [List.nil_append, String.ofList_toList] at h
  exact h

/-! ### Lists as texts -/

/-- The text of a descriptor: any number of brackets, then the letter of a primitive type or a
class name between `L` and the first `;`. -/
def Spelled (text : String) : Prop :=
  ∃ (depth : Nat) (body : List Char), text.toList = List.replicate depth '[' ++ body ∧
    ((∃ c ∈ ['Z', 'B', 'S', 'C', 'I', 'J', 'F', 'D'], body = [c]) ∨
      ∃ name : List Char, ';' ∉ name ∧ body = 'L' :: (name ++ [';']))

/-- The text is the concatenation of descriptors. -/
structure Lists (text : String) (types : List TypeDescriptor) : Prop where
  /-- Nothing stands between or around them. -/
  join : String.join (types.map (·.text)) = text
  /-- Each is a descriptor. -/
  spelled : ∀ type ∈ types, Spelled type.text

theorem wellformed_replicate_append (depth : Nat) {body : List Char} (h : Wellformed body) :
    Wellformed (List.replicate depth '[' ++ body) := by
  induction depth with
  | zero => exact h
  | succ depth ih => exact .array ih

theorem spelled_iff {text : String} : Spelled text ↔ Wellformed text.toList := by
  constructor
  · rintro ⟨depth, body, htext, hbody⟩
    rw [htext]
    refine wellformed_replicate_append depth ?_
    obtain ⟨c, hc, rfl⟩ | ⟨name, hname, rfl⟩ := hbody
    · exact .primitive hc
    · exact .ofName hname
  · intro h
    rw [Spelled]
    generalize text.toList = cs at h
    induction h with
    | @primitive c hc => exact ⟨0, [c], rfl, .inl ⟨c, hc, rfl⟩⟩
    | @ofName name hname => exact ⟨0, _, rfl, .inr ⟨name, hname, rfl⟩⟩
    | array _ ih =>
      obtain ⟨depth, body, rfl, hbody⟩ := ih
      exact ⟨depth + 1, body, rfl, hbody⟩

theorem splitList_eq_ok_iff_splitChars? {s : String} {types : List TypeDescriptor} :
    splitList s = .ok types ↔ splitChars? s.toList = some (types.map (·.text.toList)) := by
  have hback : ∀ parts : List (List Char),
      (parts.map fun part => (⟨String.ofList part⟩ : TypeDescriptor)) = types ↔
        parts = types.map (·.text.toList) := by
    intro parts
    constructor
    · rintro rfl
      simp [Function.comp_def]
    · rintro rfl
      simp [Function.comp_def]
  rw [splitList]
  cases splitChars? s.toList with
  | none => simp
  | some parts => simp [hback]

/-- A text is split into the list that it is. -/
theorem splitList_eq_ok_iff {s : String} {types : List TypeDescriptor} :
    splitList s = .ok types ↔ Lists s types := by
  have hjoin : (types.map (·.text.toList)).flatten = s.toList ↔
      String.join (types.map (·.text)) = s := by
    rw [← String.toList_inj, String.toList_join, List.flatMap_map, List.flatMap_def]
  rw [splitList_eq_ok_iff_splitChars?, splitChars?_eq_some_iff, hjoin, List.forall_mem_map]
  simp only [← spelled_iff]
  exact ⟨fun h => ⟨h.1, h.2⟩, fun h => ⟨h.join, h.spelled⟩⟩

/-- What is refused is refused as a whole. -/
theorem splitList_eq_error_iff {s : String} {e : Error} :
    splitList s = .error e ↔ e = .invalidDescriptor s ∧ ∀ types, ¬ Lists s types := by
  simp only [← splitList_eq_ok_iff]
  rw [splitList]
  cases splitChars? s.toList with
  | none => simp [eq_comm]
  | some parts => simp

/-! ### A list in front of another text -/

theorem splitChars?_flatten_append {parts : List (List Char)}
    (h : ∀ part ∈ parts, Wellformed part) (rest : List Char) :
    splitChars? (parts.flatten ++ rest) = (splitChars? rest).map (parts ++ ·) := by
  induction parts with
  | nil => simp
  | cons part parts ih =>
    rw [List.forall_mem_cons] at h
    rw [List.flatten_cons, List.append_assoc, splitChars?_append h.1, ih h.2, Option.map_map]
    rfl

/-- **A list in front of another text.** It is read whole, and then the other text. -/
theorem splitList_append {s : String} {types : List TypeDescriptor} (h : splitList s = .ok types)
    (t : String) :
    splitList (s ++ t) =
      match splitList t with
      | .ok others => .ok (types ++ others)
      | .error _ => .error (.invalidDescriptor (s ++ t)) := by
  obtain ⟨hflat, hparts⟩ := splitChars?_eq_some_iff.mp (splitList_eq_ok_iff_splitChars?.mp h)
  rw [splitList, String.toList_append, ← hflat, splitChars?_flatten_append hparts, splitList]
  cases splitChars? t.toList with
  | none => rfl
  | some others => simp [Function.comp_def]

/-! ### The grammar of lists -/

/-- A text is read as the grammar of lists has it. -/
structure ReadsGrammar (s : String) : Prop where
  /-- A cursor that goes over the bytes never cuts the text inside a character, and reads the
  same. -/
  bytes : splitBytes? s = some (splitList s)
  /-- Exactly the lists are accepted, and each is split into its elements. -/
  accepted : ∀ types, splitList s = .ok types ↔ Lists s types
  /-- A text is a list in one way only. -/
  unique : ∀ types others, Lists s types → Lists s others → types = others
  /-- Any other text is refused as a whole. -/
  refused : ∀ e, splitList s = .error e ↔
    e = .invalidDescriptor s ∧ ∀ types, ¬ Lists s types
  /-- Behind a list another one may follow. -/
  append : ∀ types, splitList s = .ok types → ∀ t others,
    splitList (s ++ t) = .ok (types ++ others) ↔ splitList t = .ok others
  /-- Behind a list nothing else may follow. -/
  append_refused : ∀ types, splitList s = .ok types → ∀ t,
    (∃ e, splitList (s ++ t) = .error e) ↔ ∃ e, splitList t = .error e

/-- **Splitting reads the grammar of lists.** -/
theorem splitList_readsGrammar (s : String) : ReadsGrammar s where
  bytes := splitBytes?_eq s
  accepted _ := splitList_eq_ok_iff
  unique types others htypes hothers := by
    rw [← splitList_eq_ok_iff] at htypes hothers
    exact Except.ok.inj (htypes.symm.trans hothers)
  refused _ := splitList_eq_error_iff
  append types h t others := by
    rw [splitList_append h]
    cases splitList t with
    | error e => simp
    | ok found => simp
  append_refused types h t := by
    rw [splitList_append h]
    cases splitList t with
    | error e => simp
    | ok found => simp

end TypeDescriptor

end CallEffects
