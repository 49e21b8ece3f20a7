import CallEffects.Proofs.Refusals
import CallEffects.Proofs.Registrations
import CallEffects.Proofs.Runs

/-!
# How calls come to be dealt with

Four things are looked at when a call is dispatched: whether a call may be nested, whether its method
has a handler, what the handler answers, and whether the program declares the method. The order in
which they are looked at is not the order in which they come up in the code: the disposition is
settled before the handler runs, and a handler that fails takes it back. Here the order is laid down
once (`Analysis.prescribed`), with the answer of the handler in it (`Analysis.answer?`), and the
ruling on a call has a closed form in the same terms.

The result of the last call is kept in the frame until another call delivers one. So what a run
leaves there is what the last call delivered that completed and whose method returns something.

## Main definitions

* `Analysis.answer?` — what the handler of a call answers
* `Analysis.prescribed` — how a call is to be dealt with
* `Analysis.DealtWith` — a call was dealt with as prescribed
* `Run.results` — what the calls of a run delivered

## Main results

* `Analysis.ruling_eq` — the ruling on a call in closed form
* `Analysis.dealtWith_dispatch` — every call that completes is dealt with as prescribed
* `Analysis.result_dispatchEach` — what a run leaves as the result of the last call
* `Analysis.dispatchEach_dealtWith` — both, for every call of a run
-/

namespace CallEffects

namespace Analysis

/-! ### What is prescribed -/

/-- What the handler of a call answers in the frame of the callee, typed as the method declares under
which the handler was registered. A call whose method has no handler has no answer. -/
def answer? (a : Analysis) (caller : Frame) (call : Invocation) (point : Nat) :
    Option (Except Error Store) :=
  a.registry.entries[call.method.descriptor]?.map fun entry =>
    (caller.callee call point).bind fun callee =>
      (entry.handler ⟨callee, entry.method⟩).map (⟨entry.method.returns, ·⟩)

/-- How a call is to be dealt with, in a program of the given classes. -/
def prescribed (a : Analysis) (classes : List ClassDef) (caller : Frame) (call : Invocation)
    (point : Nat) : Disposition :=
  if caller.depth = 0 then .blackBox
  else
    match a.answer? caller call point with
    | some (.ok _) => .emulated
    | some (.error _) => .blackBox
    | none =>
      if (classes.flatMap (·.methods.toList)).any
          (·.method.descriptor == call.method.descriptor) then .deferredKnown
      else .blackBox

/-- A call that turned `before` into `after` was dealt with as prescribed. -/
structure DealtWith (a : Analysis) (classes : List ClassDef) (before : Frame) (site : CallSite)
    (o : Outcome) (after : Frame) : Prop where
  /-- The disposition is the one that is prescribed. -/
  disposition : o.disposition = a.prescribed classes before site.call site.point
  /-- An emulated call keeps and loses no registers. All that changes is the result, unless the
  method is void: it becomes the answer of the handler. If the method can be read from a text, the
  type of the answer is the one that the call declares. -/
  emulated : o.disposition = .emulated → o.retained = [] ∧ o.invalidated = [] ∧
    ∃ store, a.answer? before site.call site.point = some (.ok store) ∧
      (site.call.method.isVoid = true → o.result = none ∧ after = before) ∧
      (site.call.method.isVoid = false →
        o.result = some store ∧ after = { before with result := some store }) ∧
      ((∃ text, MethodRef.parse text = .ok site.call.method) →
        store.type = site.call.method.returns)
  /-- The disposition could be asked for beforehand, except that a handler may fail. -/
  foreseen : a.disposition before site.call.method.descriptor = o.disposition ∨
    (a.disposition before site.call.method.descriptor = .emulated ∧ o.disposition = .blackBox ∧
      ∃ e, a.answer? before site.call site.point = some (.error e))
  /-- There is a result exactly if the method returns something. -/
  delivers : o.result.isSome = !site.call.method.isVoid

/-! ### The ruling in closed form -/

variable {a : Analysis} {caller : Frame} {call : Invocation} {point : Nat}

/-- The answer is what emulation comes to, where there is something to emulate. -/
theorem answer?_eq {callee : Frame} (hcallee : caller.callee call point = .ok callee) :
    a.answer? caller call point =
      if a.registry.canEmulate call.method.descriptor then
        some (a.registry.emulate callee call.method.descriptor)
      else none := by
  rw [answer?, hcallee, Registry.canEmulate, Registry.emulate,
    Std.TreeMap.contains_eq_isSome_getElem?]
  cases a.registry.entries[call.method.descriptor]? with
  | none => rfl
  | some entry =>
    simp only [Option.map_some, Option.isSome_some, if_true, Except.bind]
    cases entry.handler ⟨callee, entry.method⟩ <;> rfl

theorem isSome_answer? (a : Analysis) (caller : Frame) (call : Invocation) (point : Nat) :
    (a.answer? caller call point).isSome = a.registry.canEmulate call.method.descriptor := by
  rw [answer?, Option.isSome_map, Registry.canEmulate, Std.TreeMap.contains_eq_isSome_getElem?]

/-- **The ruling in closed form**, on a call whose arguments lie inside the frame. -/
theorem ruling_eq (a : Analysis) (point : Nat)
    (hin : firstOutside? caller call.registers = none) :
    a.ruling caller call point =
      if caller.depth = 0 then .approximated [] .blackBox
      else
        match a.answer? caller call point with
        | some (.ok store) => .returns store
        | some (.error e) => .approximated [.failed call.method.descriptor e] .blackBox
        | none =>
          if a.catalog.containsMethod call.method.descriptor then
            .approximated [.deferred call.method.descriptor] .deferredKnown
          else .approximated [] .blackBox := by
  obtain ⟨callee, hcallee, -⟩ := caller.callee_ok call point
  rw [answer?_eq hcallee]
  simp only [ruling, hin, hcallee, rulingOn, disposition]
  by_cases hdepth : caller.depth = 0
  · rw [if_pos hdepth, if_pos hdepth]
  · rw [if_neg hdepth, if_neg hdepth]
    cases a.registry.canEmulate call.method.descriptor with
    | true => cases a.registry.emulate callee call.method.descriptor <;> rfl
    | false => cases a.catalog.containsMethod call.method.descriptor <;> rfl

/-- Looking a method up in the index of a catalog is going through the declared methods. -/
theorem containsMethod_eq_any {classes : List ClassDef} (hcatalog : a.catalog = .ofList classes)
    (descriptor : String) :
    a.catalog.containsMethod descriptor =
      (classes.flatMap (·.methods.toList)).any (·.method.descriptor == descriptor) := by
  rw [hcatalog, Catalog.containsMethod_ofList, Catalog.method?_ofList, List.isSome_find?]
  rfl

/-- The type of an answer is what the call declares, if its method can be read from a text. -/
theorem type_of_answer? (hregistry : a.registry.WellKeyed) (hread : call.method.Readable)
    {store : Store} (h : a.answer? caller call point = some (.ok store)) :
    store.type = call.method.returns := by
  obtain ⟨callee, hcallee, -⟩ := caller.callee_ok call point
  obtain ⟨entry, hentry, hrun⟩ := Option.map_eq_some_iff.mp h
  have hmethod : entry.method = call.method := hregistry.method_eq hread hentry
  simp only [hcallee, Except.bind] at hrun
  cases hv : entry.handler ⟨callee, entry.method⟩ with
  | error e =>
    rw [hv] at hrun
    exact nomatch hrun
  | ok v =>
    rw [hv] at hrun
    obtain rfl := Except.ok.inj hrun
    exact congrArg MethodRef.returns hmethod

/-! ### One call -/

theorem firstOutside?_of_outcome {o : Outcome}
    (ho : (a.dispatch caller call point).outcome = .ok o) :
    firstOutside? caller call.registers = none := by
  cases hout : firstOutside? caller call.registers with
  | none => rfl
  | some r => exact nomatch (refuses_of_firstOutside? hout).outcome.symm.trans ho

theorem isSome_delivers (call : Invocation) (store : Store) :
    (call.delivers store).isSome = !call.method.isVoid := by
  rw [Invocation.delivers]
  cases call.method.isVoid <;> rfl

/-- A call that is approximated is dealt with as prescribed if its disposition is the one that is. -/
theorem dealtWith_of_approximated {classes : List ClassDef} {site : CallSite} {o : Outcome}
    {events : List Event} {d : Disposition}
    (hruling : a.ruling caller site.call site.point = .approximated events d)
    (hprescribed : a.prescribed classes caller site.call site.point = d) (hd : d ≠ .emulated)
    (hforeseen : a.disposition caller site.call.method.descriptor = d ∨
      (a.disposition caller site.call.method.descriptor = .emulated ∧ d = .blackBox ∧
        ∃ e, a.answer? caller site.call site.point = some (.error e)))
    (ho : (a.dispatch caller site.call site.point).outcome = .ok o) :
    a.DealtWith classes caller site o (a.dispatch caller site.call site.point).caller := by
  rw [dispatch_of_approximated hruling] at ho ⊢
  obtain rfl := Except.ok.inj ho
  exact ⟨hprescribed.symm, fun hemulated => absurd hemulated hd, hforeseen, isSome_delivers _ _⟩

/-- **Every call that completes is dealt with as prescribed.** -/
theorem dealtWith_dispatch {classes : List ClassDef} (hcatalog : a.catalog = .ofList classes)
    (hregistry : a.registry.WellKeyed) {site : CallSite} {o : Outcome}
    (ho : (a.dispatch caller site.call site.point).outcome = .ok o) :
    a.DealtWith classes caller site o (a.dispatch caller site.call site.point).caller := by
  have hruling := a.ruling_eq site.point (firstOutside?_of_outcome ho)
  have hcan := a.isSome_answer? caller site.call site.point
  have hdeclared := containsMethod_eq_any hcatalog site.call.method.descriptor
  by_cases hdepth : caller.depth = 0
  · rw [if_pos hdepth] at hruling
    exact dealtWith_of_approximated hruling (if_pos hdepth) nofun (.inl (if_pos hdepth)) ho
  · rw [if_neg hdepth] at hruling
    cases hanswer : a.answer? caller site.call site.point with
    | none =>
      -- No handler: whether the program declares the method decides.
      rw [hanswer] at hruling hcan
      cases hany : a.catalog.containsMethod site.call.method.descriptor with
      | true =>
        rw [hany] at hruling
        refine dealtWith_of_approximated hruling ?_ nofun (.inl ?_) ho
        · simp only [prescribed, hdepth, hanswer, ← hdeclared, hany, if_true, if_false]
        · simp only [disposition, hdepth, ← hcan, hany, Option.isSome_none, if_true, if_false,
            Bool.false_eq_true]
      | false =>
        rw [hany] at hruling
        refine dealtWith_of_approximated hruling ?_ nofun (.inl ?_) ho
        · simp only [prescribed, hdepth, hanswer, ← hdeclared, hany, if_false, Bool.false_eq_true]
        · simp only [disposition, hdepth, ← hcan, hany, Option.isSome_none, if_false,
            Bool.false_eq_true]
    | some answer =>
      rw [hanswer] at hruling hcan
      have hemulated : a.disposition caller site.call.method.descriptor = .emulated := by
        simp only [disposition, hdepth, ← hcan, Option.isSome_some, if_true, if_false]
      cases answer with
      | error e =>
        -- The disposition was settled before the handler failed.
        refine dealtWith_of_approximated hruling ?_ nofun (.inr ⟨hemulated, rfl, e, hanswer⟩) ho
        simp only [prescribed, hdepth, hanswer, if_false]
      | ok store =>
        rw [dispatch_of_returns hruling] at ho ⊢
        obtain rfl := Except.ok.inj ho
        have hprescribed : a.prescribed classes caller site.call site.point = .emulated := by
          simp only [prescribed, hdepth, hanswer, if_false]
        refine ⟨hprescribed.symm, fun _ => ⟨rfl, rfl, store, hanswer, fun hvoid => ?_,
          fun hvoid => ?_, ?_⟩, .inl hemulated, isSome_delivers _ _⟩
        · rw [Invocation.delivers, hvoid]
          exact ⟨rfl, rfl⟩
        · rw [Invocation.delivers, hvoid]
          exact ⟨rfl, rfl⟩
        · rintro ⟨text, htext⟩
          exact type_of_answer? hregistry (MethodRef.parse_eq_ok_iff.mp htext).1 hanswer

end Analysis

/-! ### Results over a run -/

/-- What a call delivered, if it completed and its method returns something. -/
def Run.delivered (report : CallSite × Except Error Outcome) : Option (Option Store) :=
  match report.2 with
  | .ok o => if report.1.call.method.isVoid then none else some o.result
  | .error _ => none

/-- What the calls of a run delivered, in order. -/
def Run.results (run : Run) : List (Option Store) := run.reports.filterMap delivered

namespace Analysis

/-- A call leaves what it delivered, or else what was there. -/
theorem result_dispatch (a : Analysis) (caller : Frame) (site : CallSite) :
    (a.dispatch caller site.call site.point).caller.result =
      (Run.delivered (site, (a.dispatch caller site.call site.point).outcome)).getD
        caller.result := by
  cases hruling : a.ruling caller site.call site.point with
  | refused e =>
    rw [dispatch_of_refused hruling]
    rfl
  | returns store =>
    rw [dispatch_of_returns hruling, Frame.result_receive]
    cases hvoid : site.call.method.isVoid <;> simp [Run.delivered, Invocation.delivers, hvoid]
  | approximated events d =>
    rw [dispatch_of_approximated hruling, (Frame.outline_invalidate _ _ _).2, Frame.result_receive]
    cases hvoid : site.call.method.isVoid <;> simp [Run.delivered, Invocation.delivers, hvoid]

/-- **What a run leaves as the result of the last call**: what was delivered last, or else what was
there at the start. -/
theorem result_dispatchEach (a : Analysis) (frame : Frame) (sites : List CallSite) :
    (a.dispatchEach frame sites).frame.result =
      (a.dispatchEach frame sites).results.getLast?.getD frame.result := by
  induction sites generalizing a frame with
  | nil => rfl
  | cons site sites ih =>
    have hstep := a.result_dispatch frame site
    have hrest := ih (a.dispatch frame site.call site.point).analysis
      (a.dispatch frame site.call site.point).caller
    rw [Run.results] at hrest
    simp only [dispatchEach, Run.results, List.filterMap_cons]
    rw [hrest, hstep]
    cases Run.delivered (site, (a.dispatch frame site.call site.point).outcome) with
    | none => rfl
    | some result =>
      rw [List.getLast?_cons]
      rfl

/-- **Dispositions and results over a run.** Whatever calls are dispatched on a frame, each of them
that completes is dealt with as prescribed, in the frame that the calls before it have left and by
handlers that do not change. In the end the result is the one of the last call that completed and
whose method returns something, or the one that was there at the start. -/
theorem dispatchEach_dealtWith {a : Analysis} {classes : List ClassDef}
    (hcatalog : a.catalog = .ofList classes) (hregistry : a.registry.Built) (frame : Frame)
    (sites : List CallSite) :
    let run := a.dispatchEach frame sites
    (∀ earlier site later o, sites = earlier ++ site :: later →
      run.reports[earlier.length]? = some (site, .ok o) →
        let before := a.dispatchEach frame earlier
        let after := a.dispatchEach frame (earlier ++ [site])
        before.analysis.registry = a.registry ∧
          before.analysis.DealtWith classes before.frame site o after.frame) ∧
      run.frame.result = run.results.getLast?.getD frame.result := by
  intro run
  refine ⟨?_, a.result_dispatchEach frame sites⟩
  rintro earlier site later o rfl hreport before after
  have hsame : before.analysis.registry = a.registry := a.registry_dispatchEach frame earlier
  have ho : (before.analysis.dispatch before.frame site.call site.point).outcome = .ok o := by
    rw [a.getElem?_reports frame earlier later site] at hreport
    exact (Prod.mk.inj (Option.some.inj hreport)).2
  have hafter : after.frame =
      (before.analysis.dispatch before.frame site.call site.point).caller := by
    simp only [after, dispatchEach_append]
    rfl
  rw [hafter]
  refine ⟨hsame, dealtWith_dispatch ?_ ?_ ho⟩
  · rw [a.catalog_dispatchEach frame earlier, hcatalog]
  · rw [hsame]
    exact hregistry.wellKeyed

end Analysis

/-! ### A result that outlives two calls

The second call passes a register outside the frame, and the third one is void. -/

/-- A frame with a negative number in its only register. -/
def negativeFrame : Frame where
  registers := #[⟨[(0, ⟨Library.intType, .int (-5)⟩)], by simp⟩]
  parameterSize := 0
  depth := 4
  result := none
  returned := none
  size_lt := by decide
  parameterSize_le := by decide

/-- The magnitude of what is in a register. -/
def absoluteCall (register : UInt8) : Invocation where
  opcode := ⟨.static, .range⟩
  operands := .range
    { start := register.toUInt16, count := 1
      end_le := by
        have hlt := register.toNat_lt
        rw [UInt8.toNat_toUInt16, UInt8.toNat_one]
        omega }
  method := ⟨Library.mathClass, "abs", [Library.intType], Library.intType⟩
  addressing_eq := rfl
  count_eq := rfl

/-- A void method of which nothing is known. -/
def voidCall : Invocation where
  opcode := ⟨.static, .range⟩
  operands := .range ⟨0, 0, by decide⟩
  method := ⟨⟨"La;"⟩, "n", [], ⟨"V"⟩⟩
  addressing_eq := rfl
  count_eq := rfl

/-- An analysis of an empty program that emulates the library. -/
def libraryOnly : Analysis := .new (.ofList []) .library .none {}

theorem dispatchEach_dealtWith_libraryOnly :
    let sites := [⟨absoluteCall 0, 1⟩, ⟨absoluteCall 7, 2⟩, ⟨voidCall, 3⟩]
    let run := libraryOnly.dispatchEach negativeFrame sites
    libraryOnly.registry.Built ∧
      run.reports.map (·.2) = [.ok ⟨.emulated, some ⟨Library.intType, .int 5⟩, [], []⟩,
        .error (.registerOutOfRange 7 1), .ok ⟨.blackBox, none, [], []⟩] ∧
      libraryOnly.DealtWith [] negativeFrame ⟨absoluteCall 0, 1⟩
        ⟨.emulated, some ⟨Library.intType, .int 5⟩, [], []⟩
        (libraryOnly.dispatchEach negativeFrame [⟨absoluteCall 0, 1⟩]).frame ∧
      run.frame.result = some ⟨Library.intType, .int 5⟩ := by
  intro sites run
  have hbuilt : libraryOnly.registry.Built := .library
  have hreports : run.reports.map (·.2) =
      [.ok ⟨.emulated, some ⟨Library.intType, .int 5⟩, [], []⟩, .error (.registerOutOfRange 7 1),
        .ok ⟨.blackBox, none, [], []⟩] := by decide
  have hfirst : run.reports[0]? = some (⟨absoluteCall 0, 1⟩,
      .ok ⟨.emulated, some ⟨Library.intType, .int 5⟩, [], []⟩) := by decide
  have hresults : run.results.getLast? = some (some ⟨Library.intType, .int 5⟩) := by decide
  obtain ⟨hsites, hresult⟩ :=
    Analysis.dispatchEach_dealtWith (a := libraryOnly) rfl hbuilt negativeFrame sites
  refine ⟨hbuilt, hreports, (hsites [] _ _ _ rfl hfirst).2, ?_⟩
  rw [hresult, hresults]
  rfl

end CallEffects
