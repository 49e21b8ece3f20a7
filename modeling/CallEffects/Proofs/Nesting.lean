import CallEffects.Proofs.CalleeLayout
import CallEffects.Proofs.Dispositions
import CallEffects.Proofs.Upshots

/-!
# How deep calls may nest

A method that is analysed from its start may nest so many calls, and every callee one call less than
its caller. Between one callee and the next a frame may be written to and calls may be dispatched on
it; none of this touches what is left. So a frame that is `n` calls below the start has `n` calls
less, and no less than none, however many `n` is.

A frame on which no call may be nested any more is the only place where a call is approximated that
could have been emulated, and the only place where that is logged.

Frames are values, so a copy of a frame is the frame itself, and both go on from there.

## Main definitions

* `Frame.Touched` — what can be done on a frame without leaving it
* `Frame.Nested` — a frame some calls below a method that is analysed from its start

## Main results

* `Frame.Touched.depth` — staying on a frame keeps the number of calls that may be nested
* `Analysis.filter_loggedEvents_of_exhausted`, `Analysis.kind_ne_of_mem_loggedEvents` — what is
  logged there, and elsewhere
* `Frame.Nested.callBudget` — the calls that are left, and what comes of them
-/

namespace CallEffects

namespace Frame

/-! ### Staying on a frame -/

/-- `f` becomes another frame of the same method: a call is dispatched, a register or a parameter is
written, a result is received or returned. -/
inductive Touched (f : Frame) : Frame → Prop
  /-- By a call, of whatever analysis. -/
  | dispatch (a : Analysis) (call : Invocation) (point : Nat) :
    Touched f (a.dispatch f call point).caller
  /-- By a write to a register. -/
  | write {g : Frame} {register : UInt16} {store : Store} {point : Nat}
    (h : f.write register store point = .ok g) : Touched f g
  /-- By a write to a parameter. -/
  | bindParameter {g : Frame} {index : UInt16} {store : Store}
    (h : f.bindParameter index store = .ok g) : Touched f g
  /-- By a result. -/
  | setResult (store : Store) : Touched f (f.setResult store)
  /-- By what the method returns. -/
  | setReturned (store : Store) : Touched f (f.setReturned store)

/-- Staying on a frame keeps the number of calls that may be nested. -/
theorem Touched.depth {f g : Frame} (h : f.Touched g) : g.depth = f.depth := by
  cases h with
  | dispatch a call point => exact (a.dispatch_changes f call point).1.depth
  | write h => exact (outline_write h).2.2.1
  | bindParameter h => exact (outline_write (write_of_bindParameter h)).2.2.1
  | setResult store => rfl
  | setReturned store => rfl

/-! ### Going down -/

/-- The frames that are `n` calls below a method that is analysed from its start. -/
inductive Nested (settings : Settings) : Nat → Frame → Prop
  /-- The method itself. -/
  | start (count parameters : UInt16) : Nested settings 0 (forMethod count parameters settings)
  /-- The same frame, after something was done on it. -/
  | touched {n : Nat} {f g : Frame} (h : Nested settings n f) (hg : f.Touched g) :
    Nested settings n g
  /-- The frame of a callee. -/
  | callee {n : Nat} {f g : Frame} (h : Nested settings n f) {call : Invocation} {point : Nat}
    (hg : f.callee call point = .ok g) : Nested settings (n + 1) g

/-- The frame of a callee has what its caller leaves it. -/
theorem depth_callee {f g : Frame} {call : Invocation} {point : Nat}
    (h : f.callee call point = .ok g) : g.depth = f.calleeDepth := by
  obtain ⟨stores, callee, -, -, hcallee, hentry⟩ := f.callee_atEntry call point
  obtain rfl : callee = g := Except.ok.inj (hcallee.symm.trans h)
  exact hentry.depth

/-- Each call on the way down takes one off, as long as there is one. -/
theorem Nested.toNat_depth {settings : Settings} {n : Nat} {f : Frame} (h : Nested settings n f) :
    f.depth.toNat = settings.callDepth.toNat - n := by
  induction h with
  | start count parameters => rfl
  | touched _ hg ih => rw [hg.depth, ih]
  | callee _ hg ih => rw [depth_callee hg, toNat_calleeDepth, ih, Nat.sub_sub]

theorem Nested.depth_eq_zero_iff {settings : Settings} {n : Nat} {f : Frame}
    (h : Nested settings n f) : f.depth = 0 ↔ settings.callDepth.toNat ≤ n := by
  rw [← UInt32.toNat_inj, h.toNat_depth, UInt32.toNat_zero]
  omega

end Frame

/-! ### Where no call may be nested -/

namespace Analysis

variable {a : Analysis} {caller : Frame} {call : Invocation} {point : Nat}

/-- Why a call was approximated is never that no call may be nested: this is logged before. -/
theorem kind_ne_of_approximated {events : List Event} {d : Disposition}
    (h : a.ruling caller call point = .approximated events d) {e : Event} (he : e ∈ events) :
    e.kind ≠ .depthExhausted := by
  obtain hkind | hkind := kind_of_approximated h he <;> simp [hkind]

theorem kind_ne_of_mem_judgedEvents {descriptor : String} {js : List Judgement} {e : Event}
    (he : e ∈ a.judgedEvents descriptor js) : e.kind ≠ .depthExhausted := by
  obtain hkind | hkind := kind_of_mem_judgedEvents he <;> simp [hkind]

/-- As long as a call may be nested, nothing is logged about that. -/
theorem kind_ne_of_mem_loggedEvents (h : caller.depth ≠ 0) {e : Event}
    (he : e ∈ a.loggedEvents caller call point) : e.kind ≠ .depthExhausted := by
  have hprocessed : ∀ e' ∈ [Event.processed call], e'.kind ≠ .depthExhausted := by
    intro e' he'
    rw [List.mem_singleton.mp he']
    exact nofun
  have hreached : reachedEvents caller call = [.processed call] := by
    rw [reachedEvents, if_neg h]
  rw [loggedEvents] at he
  cases hruling : a.ruling caller call point with
  | refused error =>
    rw [hruling] at he
    exact hprocessed e he
  | returns store =>
    rw [hruling, hreached] at he
    exact hprocessed e he
  | approximated events d =>
    simp only [hruling, hreached, List.mem_append] at he
    obtain (he | he) | he := he
    · exact hprocessed e he
    · exact kind_ne_of_approximated hruling he
    · exact kind_ne_of_mem_judgedEvents he

/-- Where no call may be nested, a call that completes is approximated, and that is logged once. -/
theorem filter_loggedEvents_of_exhausted (h : caller.depth = 0) {o : Outcome}
    (ho : (a.dispatch caller call point).outcome = .ok o) :
    o.disposition = .blackBox ∧
      (a.loggedEvents caller call point).filter (fun e => e.kind = .depthExhausted) =
        [.exhausted call.method.descriptor] := by
  -- Neither the handlers nor the declared methods are looked at.
  have hruling : a.ruling caller call point = .approximated [] .blackBox := by
    rw [a.ruling_eq point (firstOutside?_of_outcome ho), if_pos h]
  rw [dispatch_of_approximated hruling] at ho
  obtain rfl := Except.ok.inj ho
  have hjudged : (a.judgedEvents call.method.descriptor (a.judge caller call point).1).filter
      (fun e => e.kind = .depthExhausted) = [] := by
    refine List.filter_eq_nil_iff.mpr fun e he => ?_
    simpa using kind_ne_of_mem_judgedEvents he
  refine ⟨rfl, ?_⟩
  rw [loggedEvents, hruling]
  simp only [reachedEvents, if_pos h, List.append_nil, List.filter_append, hjudged]
  rfl

end Analysis

/-! ### The calls that are left -/

/-- **The calls that are left** on a frame `n` calls below the start, whatever was done on the frames
in between: the number that the analysis was told to nest less `n`, but no less than none. Every call
has a callee with one call less. From where none is left on, every call that completes is a black
box, be its method emulated or declared, and is logged as such once; before that, none is. -/
theorem Frame.Nested.callBudget {settings : Settings} {n : Nat} {f : Frame}
    (h : Nested settings n f) :
    (f.depth.toNat : Int) = max 0 ((settings.callDepth.toNat : Int) - n) ∧
      (∀ call point, ∃ g, f.callee call point = .ok g ∧ Nested settings (n + 1) g ∧
        g.depth ≤ f.depth ∧ g.depth.toNat = f.depth.toNat - 1) ∧
      (settings.callDepth.toNat ≤ n → ∀ (a : Analysis) (call : Invocation) (point : Nat) (o : Outcome),
        (a.dispatch f call point).outcome = .ok o →
          o.disposition = .blackBox ∧
            ∃ es, (a.dispatch f call point).analysis.log.toList = a.log.toList ++ es ∧
              es.filter (fun e => e.kind = .depthExhausted) =
                [.exhausted call.method.descriptor]) ∧
      (n < settings.callDepth.toNat → ∀ (a : Analysis) (call : Invocation) (point : Nat),
        ∃ es, (a.dispatch f call point).analysis.log.toList = a.log.toList ++ es ∧
          ∀ e ∈ es, e.kind ≠ .depthExhausted) := by
  refine ⟨?_, fun call point => ?_, fun hle a call point o ho => ?_, fun hlt a call point => ?_⟩
  · rw [h.toNat_depth]
    omega
  · obtain ⟨g, hg, -⟩ := f.callee_ok call point
    have hdepth : g.depth.toNat = f.depth.toNat - 1 := by
      rw [depth_callee hg, toNat_calleeDepth]
    refine ⟨g, hg, h.callee hg, ?_, hdepth⟩
    rw [UInt32.le_iff_toNat_le, hdepth]
    exact Nat.sub_le _ _
  · obtain ⟨hbox, hlogged⟩ :=
      Analysis.filter_loggedEvents_of_exhausted (h.depth_eq_zero_iff.mpr hle) ho
    exact ⟨hbox, _, a.toList_log_dispatch f call point, hlogged⟩
  · have hdepth : f.depth ≠ 0 := fun hzero =>
      Nat.not_le_of_lt hlt (h.depth_eq_zero_iff.mp hzero)
    exact ⟨_, a.toList_log_dispatch f call point,
      fun e he => Analysis.kind_ne_of_mem_loggedEvents hdepth he⟩

/-! ### A call that is emulated one level up -/

/-- An analysis in which the method of `sharingCall` is emulated and declared at once. -/
def sharingEmulated : Analysis :=
  .new (.ofList [⟨⟨"La;"⟩, ⟨0⟩, #[⟨sharingCall.method, ⟨0⟩⟩]⟩])
    (.insert .empty sharingCall.method (.const (.int 7))) .none {}

/-- The frame of a method that may nest one call, after a call was dispatched on it. -/
def shallowFrame : Frame :=
  (sharingEmulated.dispatch (.forMethod 3 0 .shallow) sharingCall 2).caller

/-- The frame of its callee. -/
def shallowCallee : Frame :=
  match shallowFrame.callee sharingCall 3 with
  | .ok callee => callee
  | .error _ => shallowFrame

theorem callBudget_shallow :
    Frame.Nested .shallow 0 shallowFrame ∧ Frame.Nested .shallow 1 shallowCallee ∧
      (sharingEmulated.dispatch shallowFrame sharingCall 3).outcome =
        .ok ⟨.emulated, some ⟨⟨"I"⟩, .int 7⟩, [], []⟩ ∧
      (∃ es, (sharingEmulated.dispatch shallowFrame sharingCall 3).analysis.log.toList = es ∧
        ∀ e ∈ es, e.kind ≠ .depthExhausted) ∧
      (sharingEmulated.dispatch shallowCallee sharingCall 4).outcome =
        .ok ⟨.blackBox, some .callResult, [1, 2], [0]⟩ ∧
      ∃ es, (sharingEmulated.dispatch shallowCallee sharingCall 4).analysis.log.toList = es ∧
        es.filter (fun e => e.kind = .depthExhausted) =
          [.exhausted sharingCall.method.descriptor] := by
  have hcallee : shallowFrame.callee sharingCall 3 = .ok shallowCallee := by rfl
  have hframe : Frame.Nested .shallow 0 shallowFrame := .touched (.start 3 0) (.dispatch _ _ _)
  have hnested : Frame.Nested .shallow 1 shallowCallee := .callee hframe hcallee
  have houtcome : (sharingEmulated.dispatch shallowCallee sharingCall 4).outcome =
      .ok ⟨.blackBox, some .callResult, [1, 2], [0]⟩ := by decide
  obtain ⟨-, -, -, hleft⟩ := Frame.Nested.callBudget hframe
  obtain ⟨-, -, hnone, -⟩ := Frame.Nested.callBudget hnested
  exact ⟨hframe, hnested, by decide, hleft (by decide) sharingEmulated sharingCall 3, houtcome,
    (hnone (by decide) sharingEmulated sharingCall 4 _ houtcome).2⟩

end CallEffects
