import CallEffects.Proofs.Locality
import CallEffects.Proofs.Lockstep

/-!
# The same call again

A call that is dispatched once more, on the frame that it has left, comes to the same and leaves the
frame as it is.

This is not clear from the change that it makes, because the second call reads what the first one
has written. The instance is typed by the caller. Say the caller knows it under an immutable type,
and it is passed in another slot under a mutable one. Then the first call costs the register its
value, and leaves it under the type of that other slot; the second call finds the instance under a
type that it did not have before. What saves the second call is that the type was left by the first
mutable slot of the register. Put into the slot of the instance, it makes this slot the first
mutable one, with the same type (`judgementsOn_retyped`), and nothing is judged otherwise.

One kind of call has to be excepted. If a handler fails, the call is approximated in its place, and
a handler that failed on the values of the arguments may well succeed once they are lost.

## Main definitions

* `Analysis.Downgrades` — the handler of a call fails, and the call is approximated in its place

## Main results

* `Analysis.judgementsOn_again` — a second call judges its registers as the first did
* `Analysis.dispatch_again` — a second call comes to what the first came to, and changes nothing
* `Analysis.dispatch_repeated` — so does any number of further calls
-/

namespace CallEffects

/-! ### The instance under another type -/

theorem mutableUse?_cons_of_ne {immutable : TypeDescriptor → Bool} {r s : UInt16}
    (type : TypeDescriptor) (slots : List (UInt16 × TypeDescriptor)) (hne : r ≠ s) :
    mutableUse? immutable ((r, type) :: slots) s = mutableUse? immutable slots s := by
  have hbeq : (r == s) = false := by simpa using hne
  rw [mutableUse?, mutableUse?, List.find?_cons]
  simp [hbeq]

/-- A first slot may be given the type of the first mutable slot of its register. -/
theorem judgementsOn_retyped {immutable : TypeDescriptor → Bool} {r : UInt16}
    {type type' : TypeDescriptor} {slots : List (UInt16 × TypeDescriptor)}
    (h : mutableUse? immutable ((r, type) :: slots) r = some type') :
    judgementsOn immutable ((r, type') :: slots) = judgementsOn immutable ((r, type) :: slots) := by
  rw [judgementsOn, judgementsOn, List.map_cons, List.map_cons]
  refine List.map_congr_left fun s _ => ?_
  by_cases hs : s = r
  · subst hs
    have hmutable : immutable type' = false := by
      obtain ⟨slot, hfind, rfl⟩ := Option.map_eq_some_iff.mp h
      have hexposes : slot.1 = s ∧ immutable slot.2 = false := by
        simpa using List.find?_some hfind
      exact hexposes.2
    have hfirst : mutableUse? immutable ((s, type') :: slots) s = some type' := by
      simp [mutableUse?, hmutable]
    rw [judgementOn, judgementOn, h, hfirst]
  · have hbeq : (s == r) = false := by simpa using hs
    rw [judgementOn, judgementOn, mutableUse?_cons_of_ne _ _ (Ne.symm hs),
      mutableUse?_cons_of_ne _ _ (Ne.symm hs), List.lookup_cons, List.lookup_cons, hbeq]

namespace Frame

/-- The slots of a call with an instance: the slot of the instance stands in front. -/
theorem slots_eq_cons (f : Frame) {call : Invocation} (point : Nat) {r : UInt16}
    {registers : List UInt16} (hstatic : call.isStatic = false)
    (hregisters : call.registers = r :: registers) :
    f.slots call point =
      (r, f.instanceType call point) :: registers.zip call.method.registerTypes := by
  rw [slots, passedTypes, hstatic, if_neg Bool.false_ne_true, hregisters, List.zip_cons_cons]

/-- What is in effect in the register of the instance gives it its type. -/
theorem instanceType_of_read? {f : Frame} {call : Invocation} {point : Nat} {r : UInt16}
    {registers : List UInt16} {store : Store} (hregisters : call.registers = r :: registers)
    (hread : f.read? r point = some store) : f.instanceType call point = store.type := by
  rw [instanceType, hregisters, List.head?_cons, Option.bind_some, hread]

end Frame

namespace Analysis

variable {a a' : Analysis} {caller : Frame} {call : Invocation} {point : Nat}

/-- **A second call judges its registers as the first did**, although it may find the instance under
another type. -/
theorem judgementsOn_again {o : Outcome} {after : Frame}
    (h : a.Approximates caller call point o after) :
    judgementsOn a.immutable (after.slots call point) =
      judgementsOn a.immutable (caller.slots call point) := by
  -- Only the type of the instance is read from the frame.
  have hsame : (∀ r, call.isStatic = false → call.registers[0]? = some r → r ∉ o.invalidated) →
      after.slots call point = caller.slots call point := by
    intro hkept
    refine Frame.slots_congr ⟨h.outline.registerCount, by rw [h.outline.depth], ?_⟩
    intro hstatic r hr
    have hhistory : after.history r = caller.history r :=
      History.ext_at fun p => h.kept r p (Or.inr (hkept r hstatic hr))
    rw [Frame.read?_congr point hhistory]
  by_cases hlost : ∃ r, call.isStatic = false ∧ call.registers[0]? = some r ∧ r ∈ o.invalidated
  · obtain ⟨r, hstatic, hr, hlost⟩ := hlost
    obtain ⟨registers, hregisters⟩ : ∃ registers, call.registers = r :: registers := by
      rw [← List.head?_eq_getElem?] at hr
      exact List.head?_eq_some_iff.mp hr
    -- The register was left under the type of the first slot that exposes it.
    obtain ⟨type, hfind, hat⟩ := h.lost r hlost
    have htype : after.instanceType call point = type :=
      Frame.instanceType_of_read? hregisters (History.read?_of_at? hat)
    rw [caller.slots_eq_cons point hstatic hregisters] at hfind ⊢
    rw [after.slots_eq_cons point hstatic hregisters, htype]
    refine judgementsOn_retyped ?_
    rw [mutableUse?, hfind, Option.map_some]
  · rw [hsame]
    intro r hstatic hr hmem
    exact hlost ⟨r, hstatic, hr, hmem⟩

/-! ### Handlers that fail -/

/-- The handler of a call is asked and fails, and the call is approximated in its place. -/
def Downgrades (a : Analysis) (caller : Frame) (call : Invocation) (point : Nat) : Prop :=
  a.disposition caller call.method.descriptor = .emulated ∧
    ∃ e, a.answer? caller call point = some (.error e)

/-- A call for which there is a handler is approximated only if the handler fails. -/
theorem downgrades_of_approximated {events : List Event} {d : Disposition}
    (h : a.ruling caller call point = .approximated events d)
    (hd : a.disposition caller call.method.descriptor = .emulated) :
    a.Downgrades caller call point := by
  obtain ⟨-, callee, hcallee, -, hruling⟩ := exists_callee h nofun
  have hcan := (disposition_eq_emulated_iff.mp hd).2
  rw [rulingOn, hd] at hruling
  cases hrun : a.registry.emulate callee call.method.descriptor with
  | ok store =>
    rw [hrun] at hruling
    cases hruling
  | error e =>
    refine ⟨hd, e, ?_⟩
    rw [answer?_eq hcallee, if_pos hcan, hrun]

/-! ### Once more -/

/-- A second call is ruled as the first was. -/
theorem ruling_again (h : ¬ a.Downgrades caller call point) :
    a.ruling (a.dispatch caller call point).caller call point = a.ruling caller call point := by
  have hchange := a.undergoes_dispatch caller call point
  refine ruling_congr_caller hchange.outline.registerCount (by rw [hchange.outline.depth]) ?_
  intro hd
  -- An emulated call writes nothing, so the handler finds the same arguments.
  have hwritten : ∀ r, (a.change caller call point).written r = none := by
    intro r
    rw [change]
    cases hruling : a.ruling caller call point with
    | refused e => rfl
    | returns store => rfl
    | approximated events d => exact absurd (downgrades_of_approximated hruling hd) h
  refine Frame.callee_congr hchange.outline.depth ?_
  intro r _
  exact Frame.read?_congr point (hchange.history_of_not_written (hwritten r))

/-- **A second call** comes to what the first came to, and leaves the frame as it is, whatever the
analysis did in between. -/
theorem dispatch_again (ha : a.Faithful) (ha' : a.Becomes a')
    (h : ¬ a.Downgrades caller call point) :
    let first := a.dispatch caller call point
    (a'.dispatch first.caller call point).outcome = first.outcome ∧
      (a'.dispatch first.caller call point).caller = first.caller := by
  intro first
  have hchange := a.undergoes_dispatch caller call point
  have hruling : a'.ruling first.caller call point = a.ruling caller call point :=
    (ruling_congr ha'.registry ha'.catalog _ _ _).trans (ruling_again h)
  have hjudge : ∀ events d, a.ruling caller call point = .approximated events d →
      (a'.judge first.caller call point).1 = (a.judge caller call point).1 := by
    intro events d happroximated
    obtain ⟨o, -, -, happrox⟩ := approximates_of_ruling ha happroximated
    rw [fst_judge_eq ha'.faithful, fst_judge_eq ha, ha'.immutable]
    exact judgementsOn_again happrox
  have hboth : (a'.dispatch first.caller call point).outcome = first.outcome ∧
      a'.change first.caller call point = a.change caller call point :=
    dispatch_congr rfl hruling hjudge
  refine ⟨hboth.1, hchange.again.unique ?_⟩
  rw [← hboth.2]
  exact a'.undergoes_dispatch first.caller call point

/-- A call that leaves a frame as it is can be dispatched on it any number of times. -/
theorem dispatchEach_replicate {frame : Frame} {x : Except Error Outcome}
    (h : ∀ a', a.Becomes a' →
      (a'.dispatch frame call point).outcome = x ∧ (a'.dispatch frame call point).caller = frame)
    (ha' : a.Becomes a') (n : Nat) :
    let run := a'.dispatchEach frame (List.replicate n ⟨call, point⟩)
    run.reports = List.replicate n (⟨call, point⟩, x) ∧ run.frame = frame := by
  induction n generalizing a' with
  | zero => exact ⟨rfl, rfl⟩
  | succ n ih =>
    obtain ⟨houtcome, hcaller⟩ := h a' ha'
    obtain ⟨hreports, hframe⟩ := ih (ha'.dispatch frame call point)
    rw [List.replicate_succ, List.replicate_succ, dispatchEach, hcaller, houtcome, hreports]
    exact ⟨rfl, hframe⟩

/-- **The same call again.** A call that was dispatched, and was not approximated in the place of a
handler that failed, may be dispatched any number of times on the frame that it has left. Every
time it has the outcome of the first, and the frame stays exactly as it is. -/
theorem dispatch_repeated (ha : a.Reachable) (h : ¬ a.Downgrades caller call point) (n : Nat) :
    let first := a.dispatch caller call point
    let further := first.analysis.dispatchEach first.caller (List.replicate n ⟨call, point⟩)
    further.reports = List.replicate n (⟨call, point⟩, first.outcome) ∧
      further.frame = first.caller := by
  intro first further
  have hfurther : a.Becomes first.analysis :=
    (Becomes.refl ha.faithful).dispatch caller call point
  exact dispatchEach_replicate (fun a' ha' => dispatch_again ha.faithful ha' h) hfurther n

end Analysis

/-- The second call finds the instance as an object of another class, and no longer as a string. -/
theorem dispatch_repeated_sharing :
    let first := stringsSealed.dispatch sharedReceiver sharingCall 4
    let further := first.analysis.dispatchEach first.caller
      (List.replicate 3 ⟨sharingCall, 4⟩)
    ¬ stringsSealed.Downgrades sharedReceiver sharingCall 4 ∧
      first.outcome = .ok ⟨.blackBox, some .callResult, [1, 2], [0]⟩ ∧
      sharedReceiver.instanceType sharingCall 4 = ⟨"Ljava/lang/String;"⟩ ∧
      first.caller.instanceType sharingCall 4 = ⟨"La;"⟩ ∧
      further.reports.map (·.2) = List.replicate 3 first.outcome ∧
      further.frame = first.caller := by
  intro first further
  have hfirm : ¬ stringsSealed.Downgrades sharedReceiver sharingCall 4 := by
    rintro ⟨hd, -⟩
    exact absurd hd (by decide)
  obtain ⟨hreports, hframe⟩ :=
    Analysis.dispatch_repeated (a := stringsSealed) (.new _ _ _ _) hfirm 3
  refine ⟨hfirm, by decide, by decide, by decide, ?_, hframe⟩
  rw [hreports, List.map_replicate]

end CallEffects
