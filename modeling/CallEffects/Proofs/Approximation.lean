import CallEffects.Proofs.Freshness

/-!
# The exact effect of a call that is not run

A call that is not emulated may have changed every object that it was passed. What it costs the
caller is stated here without the machinery that computes it: a register is exposed when some slot
passes it under a type that is not immutable, and exactly the exposed registers lose their values.

The two index spaces meet in `Frame.slots`. A register may stand in several slots, with types that
disagree, and it is the first mutable one that the caller is left with.

## Main definitions

* `Analysis.exposes` — some slot passes the register under a type that is not immutable
* `Analysis.Approximates` — the outcome and the frame of a call that is not run

## Main results

* `Analysis.immutable_iff` — what it takes for a type to be immutable
* `Analysis.approximates_of_dispatch` — a call that is not emulated has exactly this effect
-/

namespace CallEffects

namespace Analysis

/-- The types that the catalog and the metadata declare immutable, whatever was asked before. -/
def immutable (a : Analysis) (type : TypeDescriptor) : Bool := (a.resolver.resolve type).immutable

/-- What it takes for a type to be immutable: the catalog is asked first, and the metadata only of
classes that the catalog does not have. -/
theorem immutable_iff {a : Analysis} {type : TypeDescriptor} :
    a.immutable type = true ↔ type.isPrimitive = true ∨
      (a.catalog.class? type.text).map (·.isFinal) = some true ∨
      (a.catalog.class? type.text).map (·.isFinal) = none ∧
        ∃ name, type.qualifiedName? = some name ∧
          a.resolver.metadata.isFinal? name = some true := by
  rw [immutable, Resolver.resolve, catalog]
  cases type.isPrimitive with
  | true => simp
  | false =>
    rw [Resolver.lookUp]
    cases a.resolver.catalog.class? type.text with
    | some c => simp
    | none =>
      cases type.qualifiedName? with
      | none => simp
      | some name => cases hfinal : a.resolver.metadata.isFinal? name <;> simp [hfinal]

/-- Some slot passes the register under a type that is not immutable. -/
def exposes (a : Analysis) (caller : Frame) (call : Invocation) (point : Nat) (r : UInt16) : Bool :=
  (caller.slots call point).any fun slot => slot.1 == r && !a.immutable slot.2

/-- What a call that is not run comes to: the outcome `o`, and the frame `after` that it leaves of
`caller`. -/
structure Approximates (a : Analysis) (caller : Frame) (call : Invocation) (point : Nat)
    (o : Outcome) (after : Frame) : Prop where
  /-- Every argument register stands in its own slot. -/
  passed : (caller.slots call point).map (·.1) = call.registers
  /-- The exposed registers lose their values, each once and in the order of first use. -/
  invalidated : o.invalidated = call.registers.eraseDups.filter (a.exposes caller call point)
  /-- The other argument registers keep theirs. -/
  retained : o.retained = call.registers.eraseDups.filter (!a.exposes caller call point ·)
  /-- A register that lost its value is marked so at the point of the call, under the type of the
  first slot that exposes it. -/
  lost : ∀ r ∈ o.invalidated, ∃ type,
    (caller.slots call point).find? (fun slot => slot.1 == r && !a.immutable slot.2) =
      some (r, type) ∧
    (after.history r).at? point = some (.invalidated type)
  /-- No other store is touched. -/
  kept : ∀ r p, p ≠ point ∨ r ∉ o.invalidated →
    (after.history r).at? p = (caller.history r).at? p
  /-- A method that returns something leaves a result that is not known. -/
  result : call.method.isVoid = false →
    o.result = some .callResult ∧ after.result = some .callResult
  /-- A void method leaves the result of an earlier call alone. -/
  result_of_isVoid : call.method.isVoid = true → o.result = none ∧ after.result = caller.result
  /-- Nothing else of the frame changes. -/
  outline : caller.Outline after

/-- A register is exposed when it has a first mutable use. -/
theorem exposes_eq_isSome_mutableUse? (a : Analysis) (caller : Frame) (call : Invocation)
    (point : Nat) (r : UInt16) :
    a.exposes caller call point r =
      (mutableUse? a.immutable (caller.slots call point) r).isSome := by
  rw [exposes, mutableUse?, Option.isSome_map, List.isSome_find?]

/-- The judgements that a reachable analysis passes on the argument registers of a call. -/
theorem fst_judge_eq {a : Analysis} (ha : a.Faithful) (caller : Frame) (call : Invocation)
    (point : Nat) :
    (a.judge caller call point).1 = judgementsOn a.immutable (caller.slots call point) :=
  fst_judgeSlots ha.resolver _

/-- Carrying out the judgements has the effect of a call that is not run. -/
theorem approximates_invalidate {a : Analysis} (ha : a.Faithful) {caller : Frame}
    {call : Invocation} {point : Nat} (hin : firstOutside? caller call.registers = none)
    (d : Disposition) :
    a.Approximates caller call point
      { disposition := d, result := call.delivers .callResult
        retained := ((a.judge caller call point).1.filter (·.immutable)).map (·.register)
        invalidated := ((a.judge caller call point).1.filter (!·.immutable)).map (·.register) }
      ((caller.receive (call.delivers .callResult)).invalidate point
        (a.judge caller call point).1) := by
  have hcovers : (caller.receive (call.delivers .callResult)).Covers
      (a.judge caller call point).1 := (a.covers_judge point hin).of_outline (caller.outline_receive _)
  obtain ⟨houtline, hresult⟩ := (caller.receive (call.delivers .callResult)).outline_invalidate point
    (a.judge caller call point).1
  rw [Frame.result_receive] at hresult
  rw [fst_judge_eq ha] at *
  constructor
  case passed => exact caller.map_fst_slots call point
  case invalidated =>
    rw [map_register_filter_judgementsOn (!·), Frame.map_fst_slots]
    refine List.filter_congr fun r _ => ?_
    rw [exposes_eq_isSome_mutableUse?, Option.not_isNone]
  case retained =>
    rw [map_register_filter_judgementsOn (·), Frame.map_fst_slots]
    refine List.filter_congr fun r _ => ?_
    rw [exposes_eq_isSome_mutableUse?, Option.not_isSome]
  case lost =>
    intro r hr
    obtain ⟨j, hj, himm, rfl, hat⟩ :=
      Frame.at?_invalidate_of_lost hcovers point hr
    refine ⟨j.type, ?_, hat⟩
    obtain ⟨⟨r, type⟩, hfind, htype⟩ :=
      Option.map_eq_some_iff.mp (mutableUse?_of_mem_judgementsOn hj himm)
    have hslot := List.find?_some hfind
    have hreg : r = j.register := beq_iff_eq.mp (Bool.and_eq_true_iff.mp hslot).1
    obtain rfl : type = j.type := htype
    rw [hfind, hreg]
  case kept =>
    intro r p h
    rw [Frame.at?_invalidate_of_kept hcovers h, Frame.history_receive]
  case result =>
    intro hvoid
    rw [Invocation.delivers, hvoid] at hresult ⊢
    exact ⟨rfl, hresult⟩
  case result_of_isVoid =>
    intro hvoid
    rw [Invocation.delivers, hvoid] at hresult ⊢
    exact ⟨rfl, hresult⟩
  case outline => exact (caller.outline_receive _).trans houtline

/-- A call that is ruled to be approximated has the effect of a call that is not run. -/
theorem approximates_of_ruling {a : Analysis} (ha : a.Faithful) {caller : Frame} {call : Invocation}
    {point : Nat} {events : List Event} {d : Disposition}
    (h : a.ruling caller call point = .approximated events d) :
    ∃ o, (a.dispatch caller call point).outcome = .ok o ∧ o.disposition = d ∧
      a.Approximates caller call point o (a.dispatch caller call point).caller := by
  obtain ⟨hin, -⟩ := exists_callee h nofun
  rw [dispatch_of_approximated h]
  exact ⟨_, rfl, rfl, approximates_invalidate ha hin d⟩

/-- **The effect of a call that is not emulated.** -/
theorem approximates_of_dispatch {a : Analysis} (ha : a.Reachable) {caller : Frame}
    {call : Invocation} {point : Nat} {o : Outcome}
    (ho : (a.dispatch caller call point).outcome = .ok o)
    (hd : o.disposition = .blackBox ∨ o.disposition = .deferredKnown) :
    a.Approximates caller call point o (a.dispatch caller call point).caller := by
  cases hruling : a.ruling caller call point with
  | refused e =>
    rw [dispatch_of_refused hruling] at ho
    exact nomatch ho
  | returns store =>
    rw [dispatch_of_returns hruling] at ho
    obtain rfl := Except.ok.inj ho
    exact hd.elim nofun nofun
  | approximated events d =>
    obtain ⟨hin, -⟩ := exists_callee hruling nofun
    rw [dispatch_of_approximated hruling] at ho ⊢
    obtain rfl := Except.ok.inj ho
    exact approximates_invalidate ha.faithful hin d

end Analysis

/-! ### An object that is passed twice

The caller knows it as a string, which is immutable, so it is not as the instance but in its second
slot that it is exposed. The two halves of the wide argument keep their values, although the
first of them is passed again as well. -/

/-- A frame with a string in its first register. -/
def sharedReceiver : Frame where
  registers := #[⟨[(1, ⟨⟨"Ljava/lang/String;"⟩, .string "s"⟩)], by simp⟩, .empty, .empty]
  parameterSize := 0
  depth := 4
  result := none
  returned := none
  size_lt := by decide
  parameterSize_le := by decide

/-- A call that passes the first two registers twice. -/
def sharingCall : Invocation where
  opcode := ⟨.virtual, .compact⟩
  operands := .compact ⟨5, #v[0, 1, 2, 0, 1], by decide, by simp⟩
  method := ⟨⟨"La;"⟩, "m", [⟨"J"⟩, ⟨"La;"⟩, ⟨"I"⟩], ⟨"I"⟩⟩
  addressing_eq := rfl
  count_eq := by decide

/-- An analysis that knows nothing but that strings are immutable. -/
def stringsSealed : Analysis :=
  .new .empty .empty (TypeTable.empty.insert "java.lang.String" true).metadata {}

theorem approximates_sharingCall :
    (stringsSealed.dispatch sharedReceiver sharingCall 4).outcome =
        .ok ⟨.blackBox, some .callResult, [1, 2], [0]⟩ ∧
      stringsSealed.Approximates sharedReceiver sharingCall 4
        ⟨.blackBox, some .callResult, [1, 2], [0]⟩
        (stringsSealed.dispatch sharedReceiver sharingCall 4).caller :=
  ⟨by decide, Analysis.approximates_of_dispatch (.new _ _ _ _) (by decide) (Or.inl rfl)⟩

end CallEffects
