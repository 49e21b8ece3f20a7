import CallEffects.Proofs.Reading
import CallEffects.Proofs.Registrations
import Mathlib.Data.Nat.Digits.Defs

/-!
# Integers as texts

The library can write an integer as a string and read an integer from a string. What it reads is said
here by a grammar: an optional sign and at least one digit, the digits with the values of their
places, so that zeros in front count for nothing. The grammar knows no bounds; a numeral whose value
has no thirty-two bits is refused like a text that is no numeral at all, and the least integer, which
has no counterpart with the other sign, is not.

What the library writes is a numeral of the integer, so it is read back.

## Main definitions

* `Decimal.Digits`, `Decimal.value` — a run of digits, and its value
* `Decimal.Numeral` — the texts that stand for an integer
* `Value.integer?` — the integer that a value is

## Main results

* `Decimal.toInt?_eq_some_iff`, `Decimal.toInt32?_eq_some_iff` — what is read
* `Decimal.numeral_ofInt` — what is written
* `Value.asInt?_eq_some_iff` — widening keeps the integer
* `Library.integers_exact` — reading is exact, and reads back what was written
-/

namespace CallEffects

/-! ### Numerals -/

namespace Decimal

/-- A run of decimal digits. -/
structure Digits (cs : List Char) : Prop where
  /-- There is a digit. -/
  ne_nil : cs ≠ []
  /-- There is nothing else. -/
  ascii : ∀ c ∈ cs, '0' ≤ c ∧ c ≤ '9'

/-- The value of a run of digits, of which the last one counts once and each one before it ten times as
much as the next. -/
def value (cs : List Char) : Nat := Nat.ofDigits 10 (cs.reverse.map fun c => c.toNat - '0'.toNat)

/-- The text stands for the integer. -/
inductive Numeral : List Char → Int → Prop
  /-- A run of digits. -/
  | unsigned {cs : List Char} (h : Digits cs) : Numeral cs (value cs)
  /-- A plus sign in front of one. -/
  | plus {cs : List Char} (h : Digits cs) : Numeral ('+' :: cs) (value cs)
  /-- A minus sign in front of one. -/
  | minus {cs : List Char} (h : Digits cs) : Numeral ('-' :: cs) (-value cs)

theorem ofDigitChars_eq_value (cs : List Char) : Nat.ofDigitChars 10 cs 0 = value cs := by
  rw [value, Nat.ofDigits_eq_foldr, List.map_reverse, List.foldr_reverse, List.foldl_map,
    Nat.ofDigitChars]
  simp only [Nat.cast_id, Nat.add_comm]

/-! ### What is read -/

theorem isDigit_iff {c : Char} : c.isDigit = true ↔ '0' ≤ c ∧ c ≤ '9' := by
  rw [Char.isDigit, Bool.and_eq_true, decide_eq_true_iff, decide_eq_true_iff]
  rfl

theorem toNat?_eq_some_iff {cs : List Char} {n : Nat} :
    toNat? cs = some n ↔ Digits cs ∧ value cs = n := by
  have hdigits : (!cs.isEmpty && cs.all Char.isDigit) = true ↔ Digits cs := by
    rw [Bool.and_eq_true, Bool.not_eq_true', List.isEmpty_eq_false_iff, List.all_eq_true]
    simp only [isDigit_iff]
    exact ⟨fun h => ⟨h.1, h.2⟩, fun h => ⟨h.ne_nil, h.ascii⟩⟩
  rw [toNat?, ofDigitChars_eq_value, Option.ite_none_right_eq_some, hdigits, Option.some.injEq]

/-- **What is read.** Exactly the numerals, with their values. -/
theorem toInt?_eq_some_iff {cs : List Char} {n : Int} : toInt? cs = some n ↔ Numeral cs n := by
  constructor
  · intro h
    rw [toInt?.eq_def] at h
    split at h
    · obtain ⟨k, hk, rfl⟩ := Option.map_eq_some_iff.mp h
      obtain ⟨hdigits, rfl⟩ := toNat?_eq_some_iff.mp hk
      exact .plus hdigits
    · obtain ⟨k, hk, rfl⟩ := Option.map_eq_some_iff.mp h
      obtain ⟨hdigits, rfl⟩ := toNat?_eq_some_iff.mp hk
      exact .minus hdigits
    · obtain ⟨k, hk, rfl⟩ := Option.map_eq_some_iff.mp h
      obtain ⟨hdigits, rfl⟩ := toNat?_eq_some_iff.mp hk
      exact .unsigned hdigits
  · intro h
    cases h with
    | unsigned h =>
      -- The first character is a digit, so neither sign is taken off.
      have hplus : ∀ rest, cs ≠ '+' :: rest := by
        rintro rest rfl
        exact absurd (h.ascii '+' List.mem_cons_self) (by decide)
      have hminus : ∀ rest, cs ≠ '-' :: rest := by
        rintro rest rfl
        exact absurd (h.ascii '-' List.mem_cons_self) (by decide)
      rw [toInt?.eq_3 cs hplus hminus, toNat?_eq_some_iff.mpr ⟨h, rfl⟩]
      rfl
    | plus h =>
      rw [toInt?, toNat?_eq_some_iff.mpr ⟨h, rfl⟩]
      rfl
    | minus h =>
      rw [toInt?, toNat?_eq_some_iff.mpr ⟨h, rfl⟩]
      rfl

theorem toInt32?_eq_some_iff {cs : List Char} {v : Int32} :
    toInt32? cs = some v ↔ Numeral cs v.toInt := by
  rw [← toInt?_eq_some_iff, toInt32?]
  cases toInt? cs with
  | none => simp
  | some n =>
    simp only [Option.ite_none_right_eq_some, Option.some.injEq]
    constructor
    · rintro ⟨⟨hlow, hhigh⟩, rfl⟩
      exact (Int32.toInt_ofInt_of_le (by omega) (by omega)).symm
    · rintro rfl
      have hlow := v.le_toInt
      have hhigh := v.toInt_lt
      exact ⟨⟨by omega, by omega⟩, Int32.ofInt_toInt v⟩

/-! ### What is written -/

theorem digits_toDigits (n : Nat) : Digits (Nat.toDigits 10 n) where
  ne_nil := Nat.toDigits_ne_nil
  ascii _ hc := isDigit_iff.mp (Nat.isDigit_of_mem_toDigits (by decide) (by decide) hc)

theorem value_toDigits (n : Nat) : value (Nat.toDigits 10 n) = n := by
  rw [← ofDigitChars_eq_value, Nat.ofDigitChars_ten_toDigits]

/-- **What is written.** A numeral of the integer. -/
theorem numeral_ofInt (n : Int) : Numeral (ofInt n) n := by
  cases n with
  | ofNat n =>
    have h := Numeral.unsigned (digits_toDigits n)
    rwa [value_toDigits] at h
  | negSucc n =>
    have h := Numeral.minus (digits_toDigits (n + 1))
    rwa [value_toDigits] at h

end Decimal

/-! ### Values that are integers -/

namespace Value

/-- The integer that a value is. A truth value is one of the first two. -/
def integer? : Value → Option Int
  | int v => some v.toInt
  | short v => some v.toInt
  | byte v => some v.toInt
  | char u => some u.toNat
  | boolean b => some (if b then 1 else 0)
  | _ => none

/-- **Widening keeps the integer.** -/
theorem asInt?_eq_some_iff {value : Value} {v : Int32} :
    value.asInt? = some v ↔ value.integer? = some v.toInt := by
  cases value with
  | int w => simp [asInt?, integer?, Int32.toInt_inj]
  | short w => simp [asInt?, integer?, ← Int32.toInt_inj]
  | byte w => simp [asInt?, integer?, ← Int32.toInt_inj]
  | char u =>
    have hlt := u.toNat_lt
    have hu : u.toUInt32.toInt32.toInt = u.toNat := by
      rw [← Int32.toInt_toBitVec, UInt32.toBitVec_toInt32, BitVec.toInt_eq_toNat_of_lt]
      · rfl
      · show 2 * u.toUInt32.toNat < 2 ^ 32
        rw [UInt16.toNat_toUInt32]
        omega
    simp [asInt?, integer?, ← Int32.toInt_inj, hu]
  | boolean b =>
    cases b <;> simp [asInt?, integer?, ← Int32.toInt_inj]
  | _ => simp [asInt?, integer?]

end Value

/-! ### The methods of the library -/

namespace Library

/-- The text of the method that reads an integer. -/
def parseIntText : String := "Ljava/lang/Integer;->parseInt(Ljava/lang/String;)I"

/-- The text of the method that writes an integer. -/
def valueOfText : String := "Ljava/lang/String;->valueOf(I)Ljava/lang/String;"

variable {f g : Frame} {type : TypeDescriptor}

theorem argument_of_bindParameter {value : Value} (h : f.bindParameter 0 ⟨type, value⟩ = .ok g)
    (m : MethodRef) : (⟨g, m⟩ : Call).argument 0 = value :=
  Frame.value_of_bindParameter h

/-- What comes of a string that is to be read as an integer. -/
theorem emulate_parseIntText {s : String} (h : f.bindParameter 0 ⟨type, .string s⟩ = .ok g) :
    Registry.library.emulate g parseIntText =
      match Decimal.toInt32? s.toList with
      | some v => .ok ⟨⟨"I"⟩, .int v⟩
      | none => .error (.emulationFailed parseIntText ("For input string: \"" ++ s ++ "\"")) := by
  let m : MethodRef := ⟨integerClass, "parseInt", [stringClass], intType⟩
  have htext : m.descriptor = parseIntText := by decide
  have hmem : (m, parseInteger) ∈ methods := by simp [m, methods]
  rw [← htext, Registry.emulate_library hmem, parseInteger, argument_of_bindParameter h]
  dsimp only
  cases Decimal.toInt32? s.toList with
  | none => rfl
  | some v => rfl

/-- What comes of an integer that is to be written as a string. -/
theorem emulate_valueOfText {value : Value} {v : Int32} (hv : value.asInt? = some v)
    (h : f.bindParameter 0 ⟨type, value⟩ = .ok g) :
    Registry.library.emulate g valueOfText =
      .ok ⟨⟨"Ljava/lang/String;"⟩, .string (String.ofList (Decimal.ofInt v.toInt))⟩ := by
  let m : MethodRef := ⟨stringClass, "valueOf", [intType], stringClass⟩
  have htext : m.descriptor = valueOfText := by decide
  have hmem : (m, integerText) ∈ methods := by simp [m, methods]
  rw [← htext, Registry.emulate_library hmem, integerText, argument_of_bindParameter h, hv]
  rfl

/-- An integer of thirty-two bits is read from its numerals. -/
theorem emulate_parseIntText_eq_ok_iff {s : String} {v : Int32}
    (h : f.bindParameter 0 ⟨type, .string s⟩ = .ok g) :
    Registry.library.emulate g parseIntText = .ok ⟨⟨"I"⟩, .int v⟩ ↔
      Decimal.Numeral s.toList v.toInt := by
  rw [emulate_parseIntText h, ← Decimal.toInt32?_eq_some_iff]
  cases Decimal.toInt32? s.toList with
  | none => simp
  | some w => simp

/-- Any other text is refused by its name. -/
theorem emulate_parseIntText_of_forall_not {s : String}
    (hs : ∀ v : Int32, ¬ Decimal.Numeral s.toList v.toInt)
    (h : f.bindParameter 0 ⟨type, .string s⟩ = .ok g) :
    Registry.library.emulate g parseIntText =
      .error (.emulationFailed parseIntText ("For input string: \"" ++ s ++ "\"")) := by
  have hnone : Decimal.toInt32? s.toList = none :=
    Option.eq_none_iff_forall_ne_some.mpr fun v hv => hs v (Decimal.toInt32?_eq_some_iff.mp hv)
  rw [emulate_parseIntText h, hnone]

/-- **Integers are read exactly, and written so that they are read back.** A string is read as an
integer exactly when it is a numeral of it, and any other string is named in the error. An integer of
whatever width, a code unit or a truth value is written as a string that is read as the same integer
again. -/
theorem integers_exact :
    (∀ (f g : Frame) (type : TypeDescriptor) (s : String),
      f.bindParameter 0 ⟨type, .string s⟩ = .ok g →
        (∀ n : Int, (∃ v : Int32, v.toInt = n ∧
            Registry.library.emulate g parseIntText = .ok ⟨⟨"I"⟩, .int v⟩) ↔
          Decimal.Numeral s.toList n ∧ -2 ^ 31 ≤ n ∧ n ≤ 2 ^ 31 - 1) ∧
        ((¬ ∃ n : Int, Decimal.Numeral s.toList n ∧ -2 ^ 31 ≤ n ∧ n ≤ 2 ^ 31 - 1) →
          Registry.library.emulate g parseIntText =
            .error (.emulationFailed parseIntText ("For input string: \"" ++ s ++ "\"")))) ∧
    ∀ (value : Value) (v : Int32), value.asInt? = some v →
      value.integer? = some v.toInt ∧
        ∀ (f g : Frame) (type : TypeDescriptor), f.bindParameter 0 ⟨type, value⟩ = .ok g →
          ∃ text, Registry.library.emulate g valueOfText =
              .ok ⟨⟨"Ljava/lang/String;"⟩, .string text⟩ ∧
            ∀ (f' g' : Frame) (type' : TypeDescriptor),
              f'.bindParameter 0 ⟨type', .string text⟩ = .ok g' →
                Registry.library.emulate g' parseIntText = .ok ⟨⟨"I"⟩, .int v⟩ := by
  refine ⟨fun f g type s hbind => ⟨fun n => ?_, fun hnone => ?_⟩, fun value v hv => ?_⟩
  · constructor
    · rintro ⟨v, rfl, hv⟩
      have hhigh := v.toInt_lt
      exact ⟨(emulate_parseIntText_eq_ok_iff hbind).mp hv, v.le_toInt, by omega⟩
    · rintro ⟨hs, hlow, hhigh⟩
      have hn : (Int32.ofInt n).toInt = n := Int32.toInt_ofInt_of_le hlow (by omega)
      exact ⟨.ofInt n, hn, (emulate_parseIntText_eq_ok_iff hbind).mpr (by rwa [hn])⟩
  · refine emulate_parseIntText_of_forall_not (fun v hv => hnone ?_) hbind
    have hhigh := v.toInt_lt
    exact ⟨v.toInt, hv, v.le_toInt, by omega⟩
  · refine ⟨Value.asInt?_eq_some_iff.mp hv, fun f g type hbind => ?_⟩
    refine ⟨_, emulate_valueOfText hv hbind, fun f' g' type' hbind' => ?_⟩
    rw [emulate_parseIntText_eq_ok_iff hbind', String.toList_ofList]
    exact Decimal.numeral_ofInt v.toInt

/-- The least integer, with zeros in front; its counterpart with the other sign, which is no integer of
thirty-two bits; and the last code unit, there and back. -/
theorem integers_exact_extremes :
    ∃ (least beyond unit back : Frame) (text : String),
      (Frame.new 2 1 0).bindParameter 0 ⟨stringClass, .string "-0002147483648"⟩ = .ok least ∧
      (∃ v : Int32, v.toInt = -2147483648 ∧
        Registry.library.emulate least parseIntText = .ok ⟨⟨"I"⟩, .int v⟩) ∧
      (Frame.new 2 1 0).bindParameter 0 ⟨stringClass, .string "+2147483648"⟩ = .ok beyond ∧
      Registry.library.emulate beyond parseIntText =
        .error (.emulationFailed parseIntText "For input string: \"+2147483648\"") ∧
      (Frame.new 2 1 0).bindParameter 0 ⟨⟨"C"⟩, .char 65535⟩ = .ok unit ∧
      Registry.library.emulate unit valueOfText = .ok ⟨⟨"Ljava/lang/String;"⟩, .string text⟩ ∧
      (Frame.new 2 1 0).bindParameter 0 ⟨stringClass, .string text⟩ = .ok back ∧
      Registry.library.emulate back parseIntText = .ok ⟨⟨"I"⟩, .int 65535⟩ := by
  obtain ⟨hread, hwritten⟩ := integers_exact
  have hleast : Decimal.Numeral "-0002147483648".toList (-2147483648) :=
    Decimal.toInt?_eq_some_iff.mp (by decide)
  have hbeyond : Decimal.toInt? "+2147483648".toList = some 2147483648 := by decide
  have hnone : ¬ ∃ n : Int,
      Decimal.Numeral "+2147483648".toList n ∧ -2 ^ 31 ≤ n ∧ n ≤ 2 ^ 31 - 1 := by
    rintro ⟨n, hn, -, hhigh⟩
    obtain rfl := Option.some.inj (hbeyond.symm.trans (Decimal.toInt?_eq_some_iff.mpr hn))
    exact absurd hhigh (by decide)
  have hbound : ∀ store, ∃ g, (Frame.new 2 1 0).bindParameter 0 store = .ok g :=
    fun store => ⟨_, rfl⟩
  obtain ⟨least, hbind₁⟩ := hbound ⟨stringClass, .string "-0002147483648"⟩
  obtain ⟨beyond, hbind₂⟩ := hbound ⟨stringClass, .string "+2147483648"⟩
  obtain ⟨unit, hbind₃⟩ := hbound ⟨⟨"C"⟩, .char 65535⟩
  obtain ⟨-, hunit⟩ := hwritten (.char 65535) 65535 (by decide)
  obtain ⟨text, htext, hback⟩ := hunit _ unit _ hbind₃
  obtain ⟨back, hbind₄⟩ := hbound ⟨stringClass, .string text⟩
  exact ⟨least, beyond, unit, back, text, hbind₁,
    ((hread _ least _ _ hbind₁).1 _).mpr ⟨hleast, by decide, by decide⟩, hbind₂,
    (hread _ beyond _ _ hbind₂).2 hnone, hbind₃, htext, hbind₄, hback _ back _ hbind₄⟩

end Library

end CallEffects
