import CallEffects.Proofs.Runs

/-!
# The change that a call makes

A call does two things to the frame of its caller: it writes stores to some registers, all of them
at the point of the call, and it may deliver a result. Taken out of the frame, this is the `Change`
that the call makes. A frame that undergoes a change is determined by it
(`Frame.Undergoes.unique`), so frames after calls are compared through the changes and never entry
by entry.

Which change a call makes is a matter of the ruling on it and of the judgements on its registers.
Nothing else of the caller takes part, and nothing is assumed of what the resolver answers.

## Main definitions

* `Change`, `Frame.Undergoes` — the change that a call makes, and a frame that undergoes it
* `Analysis.change`, `Analysis.consulted` — what a call changes of the frame, and of the resolver

## Main results

* `Frame.Undergoes.unique`, `Frame.Undergoes.again` — a change has one result, and making it again
  changes nothing
* `Analysis.undergoes_dispatch`, `Analysis.analysis_dispatch` — what a call leaves of the frame, and
  of the analysis
* `Analysis.dispatch_congr` — calls with the same ruling and the same judgements
-/

namespace CallEffects

/-! ### Changes -/

namespace Frame

/-- A frame is determined by its outline, its result and its histories. -/
theorem ext_history {f g : Frame} (houtline : f.Outline g) (hresult : g.result = f.result)
    (hhistory : ∀ r, g.history r = f.history r) : g = f := by
  refine Frame.ext ?_ houtline.parameterSize houtline.depth hresult houtline.returned
  refine Array.ext houtline.size fun i hi hi' => ?_
  have hlt : i < 65536 := Nat.lt_trans hi g.size_lt
  have hi'' := hhistory (.ofNat i)
  rw [history, history, UInt16.toNat_ofNat_of_lt' hlt] at hi''
  simpa [Array.getD_eq_getD_getElem?, hi, hi'] using hi''

end Frame

/-- What a call does to the frame of its caller. -/
structure Change where
  /-- The stores that it writes, by register. -/
  written : UInt16 → Option Store
  /-- The result that it delivers. -/
  result : Option Store

/-- The change that leaves the registers alone. -/
def Change.delivering (result : Option Store) : Change := ⟨fun _ => none, result⟩

namespace Frame

/-- `f` becomes `g` by a change at a point. -/
structure Undergoes (f : Frame) (point : Nat) (c : Change) (g : Frame) : Prop where
  /-- The outline stays. -/
  outline : f.Outline g
  /-- A result that is delivered takes the place of the one that was there. -/
  result : g.result = c.result.or f.result
  /-- What is written stands at the point, and everything else is as it was. -/
  entries : ∀ r p, (g.history r).at? p =
    if p = point then (c.written r).or ((f.history r).at? p) else (f.history r).at? p

theorem undergoes_receive (f : Frame) (point : Nat) (result : Option Store) :
    f.Undergoes point (.delivering result) (f.receive result) where
  outline := f.outline_receive result
  result := f.result_receive result
  entries r p := by
    rw [history_receive, Change.delivering, Option.none_or, ite_self]

namespace Undergoes

variable {f f' g g' : Frame} {point : Nat} {c : Change} {r : UInt16}

/-- What is written to a register depends on what is there, and not on the rest of the frame. -/
theorem history_congr (h : f.Undergoes point c g) (h' : f'.Undergoes point c g')
    (hr : f'.history r = f.history r) : g'.history r = g.history r := by
  refine History.ext_at fun p => ?_
  rw [h.entries, h'.entries, hr]

/-- A register that nothing is written to is as it was. -/
theorem history_of_not_written (h : f.Undergoes point c g) (hr : c.written r = none) :
    g.history r = f.history r := by
  refine History.ext_at fun p => ?_
  rw [h.entries, hr, Option.none_or, ite_self]

/-- A change has one result. -/
theorem unique (h : f.Undergoes point c g) (h' : f.Undergoes point c g') : g' = g := by
  refine ext_history (h.outline.symm.trans h'.outline) ?_ fun r => h.history_congr h' rfl
  rw [h.result, h'.result]

/-- Making a change again changes nothing. -/
theorem again (h : f.Undergoes point c g) : g.Undergoes point c g where
  outline := .refl g
  result := by rw [h.result, ← Option.or_assoc, Option.or_self]
  entries r p := by
    rw [h.entries]
    split
    · rw [← Option.or_assoc, Option.or_self]
    · rfl

end Undergoes

end Frame

/-! ### The change that a call makes -/

namespace Analysis

/-- The change that a call makes to the frame of its caller. -/
def change (a : Analysis) (caller : Frame) (call : Invocation) (point : Nat) : Change :=
  match a.ruling caller call point with
  | .refused _ => .delivering none
  | .returns store => .delivering (call.delivers store)
  | .approximated _ _ => ⟨lossIn (a.judge caller call point).1, call.delivers .callResult⟩

/-- The resolver after a call: it is asked if the call is approximated, and only then. -/
def consulted (a : Analysis) (caller : Frame) (call : Invocation) (point : Nat) : Resolver :=
  match a.ruling caller call point with
  | .refused _ | .returns _ => a.resolver
  | .approximated _ _ => (a.judge caller call point).2

/-- **What a call leaves of the frame** of its caller. -/
theorem undergoes_dispatch (a : Analysis) (caller : Frame) (call : Invocation) (point : Nat) :
    caller.Undergoes point (a.change caller call point) (a.dispatch caller call point).caller := by
  rw [change]
  cases hruling : a.ruling caller call point with
  | refused e =>
    rw [dispatch_of_refused hruling]
    exact caller.undergoes_receive point none
  | returns store =>
    rw [dispatch_of_returns hruling]
    exact caller.undergoes_receive point _
  | approximated events d =>
    obtain ⟨hin, -⟩ := exists_callee hruling nofun
    have hcovers := (a.covers_judge point hin).of_outline
      (caller.outline_receive (call.delivers .callResult))
    obtain ⟨houtline, hresult⟩ := (caller.receive (call.delivers .callResult)).outline_invalidate
      point (a.judge caller call point).1
    rw [dispatch_of_approximated hruling]
    refine ⟨(caller.outline_receive _).trans houtline, hresult.trans (caller.result_receive _), ?_⟩
    intro r p
    rw [Frame.at?_invalidate hcovers, Frame.history_receive]

/-- What a call writes is what it reports as lost. -/
theorem isSome_written_iff (a : Analysis) (caller : Frame) (call : Invocation) (point : Nat)
    (r : UInt16) :
    ((a.change caller call point).written r).isSome = true ↔
      r ∈ (a.dispatch caller call point).invalidated := by
  rw [change]
  cases hruling : a.ruling caller call point with
  | refused e =>
    rw [dispatch_of_refused hruling]
    exact iff_of_false Bool.false_ne_true List.not_mem_nil
  | returns store =>
    rw [dispatch_of_returns hruling]
    exact iff_of_false Bool.false_ne_true List.not_mem_nil
  | approximated events d =>
    rw [dispatch_of_approximated hruling]
    exact isSome_lossIn_iff

/-- Nothing is written to a register that is not passed. -/
theorem written_of_not_mem (a : Analysis) (caller : Frame) {call : Invocation} (point : Nat)
    {r : UInt16} (hr : r ∉ call.registers) : (a.change caller call point).written r = none := by
  rw [change]
  cases a.ruling caller call point with
  | refused e => rfl
  | returns store => rfl
  | approximated events d =>
    rw [← Option.not_isSome_iff_eq_none, isSome_lossIn_iff, mem_invalidated_iff]
    rintro ⟨j, hj, -, rfl⟩
    have hpassed := (register_mem_of_mem_judgeSlots hj).resolve_left List.not_mem_nil
    rw [Frame.map_fst_slots] at hpassed
    exact hr hpassed

/-- A register that is not passed is as it was. -/
theorem history_dispatch_of_not_mem (a : Analysis) (caller : Frame) {call : Invocation}
    (point : Nat) {r : UInt16} (hr : r ∉ call.registers) :
    (a.dispatch caller call point).caller.history r = caller.history r :=
  (a.undergoes_dispatch caller call point).history_of_not_written
    (a.written_of_not_mem caller point hr)

/-- **What a call leaves of the analysis.** -/
theorem analysis_dispatch (a : Analysis) (caller : Frame) (call : Invocation) (point : Nat) :
    (a.dispatch caller call point).analysis =
      (a.withResolver (a.consulted caller call point)).recordAll
        (a.loggedEvents caller call point) := by
  rw [consulted, loggedEvents]
  cases hruling : a.ruling caller call point with
  | refused e =>
    rw [dispatch_of_refused hruling]
    rfl
  | returns store =>
    rw [dispatch_of_returns hruling]
    rfl
  | approximated events d => rw [dispatch_of_approximated hruling]

/-- The first thing that is logged about a call is that it was reached. -/
theorem loggedEvents_eq_cons (a : Analysis) (caller : Frame) (call : Invocation) (point : Nat) :
    a.loggedEvents caller call point =
      .processed call :: (a.loggedEvents caller call point).tail := by
  rw [loggedEvents, reachedEvents]
  cases a.ruling caller call point <;> rfl

/-! ### Calls that are ruled and judged alike -/

variable {a b : Analysis} {f g : Frame} {i j : Invocation} {point : Nat}

theorem delivers_congr (hmethod : j.method = i.method) : j.delivers = i.delivers := by
  funext store
  rw [Invocation.delivers, Invocation.delivers, hmethod]

/-- Registers that are passed under the same types are judged alike. -/
theorem judge_congr (hslots : g.slots j point = f.slots i point) :
    a.judge g j point = a.judge f i point := by
  rw [judge, judge, hslots]

/-- **Calls with the same ruling and the same judgements** have the same outcome, and make the same
change. The judgements count only if the calls are approximated. -/
theorem dispatch_congr (hmethod : j.method = i.method)
    (hruling : b.ruling g j point = a.ruling f i point)
    (hjudge : ∀ events d, a.ruling f i point = .approximated events d →
      (b.judge g j point).1 = (a.judge f i point).1) :
    (b.dispatch g j point).outcome = (a.dispatch f i point).outcome ∧
      b.change g j point = a.change f i point := by
  have hdelivers := delivers_congr hmethod
  rw [change, change, hruling, hdelivers]
  cases h : a.ruling f i point with
  | refused e =>
    rw [dispatch_of_refused h, dispatch_of_refused (hruling.trans h)]
    exact ⟨rfl, rfl⟩
  | returns store =>
    rw [dispatch_of_returns h, dispatch_of_returns (hruling.trans h), hdelivers]
    exact ⟨rfl, rfl⟩
  | approximated events d =>
    rw [dispatch_of_approximated h, dispatch_of_approximated (hruling.trans h), hjudge events d h,
      hdelivers]
    exact ⟨rfl, rfl⟩

/-- Calls with the same ruling that pass the same registers under the same types ask the resolver
for the same, and log the same once they are reached. -/
theorem consulted_congr (hmethod : j.method = i.method) (hdepth : g.depth = 0 ↔ f.depth = 0)
    (hruling : a.ruling g j point = a.ruling f i point)
    (hslots : g.slots j point = f.slots i point) :
    a.consulted g j point = a.consulted f i point ∧
      (a.loggedEvents g j point).tail = (a.loggedEvents f i point).tail := by
  rw [consulted, consulted, loggedEvents, loggedEvents, hruling, judge_congr hslots, reachedEvents,
    reachedEvents, hmethod, if_congr hdepth rfl rfl]
  cases a.ruling f i point <;> simp only [List.cons_append, List.tail_cons, and_self]

end Analysis

end CallEffects
