import CallEffects.Emulation.Library
import CallEffects.Proofs.RoundTrip

/-!
# Where the handlers of a registry stand

A registry is keyed by texts, and hands the method that a handler was registered for to the handler
and takes the type of the result from it. That the method of a call and the method of its handler
are the same is a matter of the texts alone: a handler is registered under the text that its method
was read from, and the methods of the library come back from their texts although they were put
together from parts.

## Main definitions

* `Registry.Built` — the registries that can be put together
* `Registry.WellKeyed` — every handler stands under the text of its method

## Main results

* `Registry.register_eq_ok_iff` — registering is reading and inserting
* `Registry.Built.wellKeyed` — in a registry that was put together, handlers stand where they should
* `Registry.WellKeyed.method_eq` — a call finds the handler of its own method
* `Registry.emulate_library` — a method of the library runs its handler
-/

namespace CallEffects

namespace Registry

/-- The registries that can be put together: handlers are registered under texts, on top of nothing
or of the library. -/
inductive Built : Registry → Prop
  /-- No handlers. -/
  | empty : Built empty
  /-- The handlers of the library. -/
  | library : Built library
  /-- One more handler. -/
  | register {r r' : Registry} (h : Built r) {text : String} {handler : Handler}
    (hr : r.register text handler = .ok r') : Built r'

/-- Every handler stands under the text of its method, and the method comes back from it. -/
def WellKeyed (r : Registry) : Prop :=
  ∀ (text : String) (entry : Registration), r.entries[text]? = some entry →
    entry.method.Readable ∧ entry.method.descriptor = text

/-- Registering is reading the text and inserting what was read. -/
theorem register_eq_ok_iff {r r' : Registry} {text : String} {handler : Handler} :
    r.register text handler = .ok r' ↔
      ∃ m, MethodRef.parse text = .ok m ∧ r' = r.insert m handler := by
  rw [register]
  cases hparse : MethodRef.parse text with
  | error e => exact ⟨nofun, nofun⟩
  | ok m =>
    constructor
    · intro h
      exact ⟨m, rfl, (Except.ok.inj h).symm⟩
    · rintro ⟨m', hm, rfl⟩
      obtain rfl := Except.ok.inj hm
      rfl

theorem wellKeyed_empty : empty.WellKeyed := by
  intro text entry h
  rw [empty, Std.TreeMap.getElem?_emptyc] at h
  exact absurd h.symm (Option.some_ne_none entry)

/-- One more handler, for a method that comes back from its text. -/
theorem WellKeyed.insert {r : Registry} (h : r.WellKeyed) {m : MethodRef} (hm : m.Readable)
    (handler : Handler) : (r.insert m handler).WellKeyed := by
  intro text entry hentry
  rw [Registry.insert, Std.TreeMap.getElem?_insert] at hentry
  split at hentry
  · rename_i htext
    obtain rfl := Option.some.inj hentry
    exact ⟨hm, Std.LawfulEqCmp.compare_eq_iff_eq.mp htext⟩
  · exact h text entry hentry

/-- The methods of the library come back from their texts. -/
theorem readable_of_mem_library {m : MethodRef} {handler : Handler}
    (h : (m, handler) ∈ Library.methods) : m.Readable := by
  have hparse : ∀ entry ∈ Library.methods,
      MethodRef.parse entry.1.descriptor = .ok entry.1 := by decide +kernel
  exact (MethodRef.parse_eq_ok_iff.mp (hparse _ h)).1

theorem wellKeyed_foldl_insert {r : Registry} (h : r.WellKeyed) {methods : List (MethodRef × Handler)}
    (hmethods : ∀ m handler, (m, handler) ∈ methods → m.Readable) :
    (methods.foldl (fun r (method, handler) => r.insert method handler) r).WellKeyed := by
  induction methods generalizing r with
  | nil => exact h
  | cons entry methods ih =>
    obtain ⟨m, handler⟩ := entry
    have hm : m.Readable := hmethods m handler List.mem_cons_self
    exact ih (h.insert hm handler) fun m' handler' hmem =>
      hmethods m' handler' (List.mem_cons_of_mem _ hmem)

/-- In a registry that was put together, handlers stand where they should. -/
theorem Built.wellKeyed {r : Registry} (h : r.Built) : r.WellKeyed := by
  induction h with
  | empty => exact wellKeyed_empty
  | library => exact wellKeyed_foldl_insert wellKeyed_empty fun _ _ => readable_of_mem_library
  | register _ hr ih =>
    obtain ⟨m, hparse, rfl⟩ := register_eq_ok_iff.mp hr
    exact ih.insert (MethodRef.parse_eq_ok_iff.mp hparse).1 _

/-- A call of a method that comes back from its text finds the handler of that method. -/
theorem WellKeyed.method_eq {r : Registry} (h : r.WellKeyed) {m : MethodRef} (hm : m.Readable)
    {entry : Registration} (hentry : r.entries[m.descriptor]? = some entry) : entry.method = m := by
  obtain ⟨hreadable, htext⟩ := h m.descriptor entry hentry
  exact hreadable.eq_of_descriptor_eq hm htext

/-! ### The handlers of the library -/

/-- Each of several different methods runs its own handler, in whatever order they were put in. -/
theorem emulate_foldl_insert {methods : List (MethodRef × Handler)} {m : MethodRef}
    {handler : Handler} (hread : ∀ entry ∈ methods, entry.1.Readable)
    (hnodup : (methods.map (·.1)).Nodup) (h : (m, handler) ∈ methods) (r : Registry) (frame : Frame) :
    (methods.foldl (fun r (method, handler) => r.insert method handler) r).emulate frame
      m.descriptor = (handler ⟨frame, m⟩).map (⟨m.returns, ·⟩) := by
  induction methods using List.reverseRecOn with
  | nil => exact absurd h List.not_mem_nil
  | append_singleton methods last ih =>
    obtain ⟨m', handler'⟩ := last
    have hm : m.Readable := hread _ h
    have hm' : m'.Readable := hread (m', handler') (List.mem_append_right _ List.mem_cons_self)
    rw [List.map_append, List.nodup_append] at hnodup
    obtain ⟨hnodup, -, hdisjoint⟩ := hnodup
    rw [List.foldl_append]
    refine (emulate_insert _ handler' hm' hm frame).trans ?_
    rcases List.mem_append.mp h with hearlier | hlast
    · have hne : m' ≠ m := fun heq =>
        hdisjoint m (List.mem_map_of_mem hearlier) m' (List.mem_cons_self) heq.symm
      rw [if_neg hne]
      exact ih (fun entry hentry => hread entry (List.mem_append_left _ hentry)) hnodup hearlier
    · obtain ⟨rfl, rfl⟩ := Prod.mk.inj (List.mem_singleton.mp hlast)
      rw [if_pos rfl]

/-- A method of the library runs its handler. -/
theorem emulate_library {m : MethodRef} {handler : Handler} (h : (m, handler) ∈ Library.methods)
    (frame : Frame) :
    library.emulate frame m.descriptor = (handler ⟨frame, m⟩).map (⟨m.returns, ·⟩) :=
  emulate_foldl_insert (fun _ => readable_of_mem_library) (by decide) h empty frame

end Registry

end CallEffects
