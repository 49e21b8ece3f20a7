import CallEffects.Frame
import Mathlib.Tactic.ByContra

/-!
# What a read sees

`History.read?` walks along the entries of a history. Everything that is proved about reads goes
through the stores at single points instead (`History.at?`), since those are what a write is
specified by. This file is the only place where the two meet.

## Main results

* `History.mem_entries_iff` — the entries are the stores at single points
* `History.read?_eq_some_iff` — a read sees a store with no later one up to the point
* `History.read?_eq_none_iff` — or there is no store up to the point
* `History.read?_of_at?` — what was written at the point itself is seen
* `History.read?_entry` — at the entry of a method there is nothing earlier to see
* `Frame.value_of_bindParameter` — a parameter that was bound is read back
-/

namespace CallEffects

namespace History

/-! ### Entries and points -/

theorem lookup_eq_some_of_mem {entries : List (Nat × Store)} {p : Nat} {s : Store}
    (h : entries.Pairwise (·.1 < ·.1)) (hmem : (p, s) ∈ entries) :
    entries.lookup p = some s := by
  induction entries with
  | nil => exact absurd hmem List.not_mem_nil
  | cons entry entries ih =>
    obtain ⟨hhead, htail⟩ := List.pairwise_cons.mp h
    rw [lookup_cons_eq]
    rcases List.mem_cons.mp hmem with rfl | hmem
    · rw [if_pos rfl]
    · have hlt : entry.1 < p := hhead (p, s) hmem
      rw [if_neg (by omega), ih htail hmem]

theorem mem_of_lookup_eq_some {entries : List (Nat × Store)} {p : Nat} {s : Store}
    (h : entries.lookup p = some s) : (p, s) ∈ entries := by
  induction entries with
  | nil => simp at h
  | cons entry entries ih =>
    rw [lookup_cons_eq] at h
    split at h
    · rename_i hp
      obtain ⟨p', s'⟩ := entry
      obtain rfl : p = p' := hp
      obtain rfl : s' = s := Option.some.inj h
      exact List.mem_cons_self
    · exact List.mem_cons_of_mem _ (ih h)

/-- The entries of a history are the stores at its points. -/
theorem mem_entries_iff {h : History} {p : Nat} {s : Store} :
    (p, s) ∈ h.entries ↔ h.at? p = some s :=
  ⟨lookup_eq_some_of_mem h.ascending, mem_of_lookup_eq_some⟩

/-! ### The latest entry -/

/-- Along ascending points, the entries up to a point are the ones at the front. -/
theorem takeWhile_eq_filter {entries : List (Nat × Store)} (h : entries.Pairwise (·.1 < ·.1))
    (q : Nat) : entries.takeWhile (·.1 ≤ q) = entries.filter (·.1 ≤ q) := by
  induction entries with
  | nil => rfl
  | cons entry entries ih =>
    obtain ⟨hhead, htail⟩ := List.pairwise_cons.mp h
    by_cases hq : entry.1 ≤ q
    · rw [List.takeWhile_cons_of_pos (by simpa using hq), List.filter_cons_of_pos (by simpa using hq),
        ih htail]
    · rw [List.takeWhile_cons_of_neg (by simpa using hq), List.filter_cons_of_neg (by simpa using hq)]
      refine (List.filter_eq_nil_iff.mpr fun e he => ?_).symm
      have hlt : entry.1 < e.1 := hhead e he
      simp only [decide_eq_true_eq]
      omega

/-- What a read sees was written at some point, and nothing was written after it up to the point
of the read. -/
theorem exists_of_read?_eq_some {h : History} {q : Nat} {s : Store} (hr : h.read? q = some s) :
    ∃ p, p ≤ q ∧ h.at? p = some s ∧ ∀ p', p < p' → p' ≤ q → h.at? p' = none := by
  rw [read?, takeWhile_eq_filter h.ascending, Option.map_eq_some_iff] at hr
  obtain ⟨⟨p, s'⟩, hlast, rfl⟩ := hr
  obtain ⟨front, hfront⟩ := List.getLast?_eq_some_iff.mp hlast
  have hmem : (p, s') ∈ h.entries.filter (·.1 ≤ q) := by
    rw [hfront]
    simp
  obtain ⟨hentry, hpq⟩ := List.mem_filter.mp hmem
  refine ⟨p, by simpa using hpq, mem_entries_iff.mp hentry, fun p' hlt hle => ?_⟩
  by_contra hne
  obtain ⟨t, ht⟩ := Option.ne_none_iff_exists'.mp hne
  -- A later entry would stand before the last one, where points are smaller.
  have hmem' : (p', t) ∈ h.entries.filter (·.1 ≤ q) :=
    List.mem_filter.mpr ⟨mem_entries_iff.mpr ht, by simpa using hle⟩
  have hasc := h.ascending.filter (·.1 ≤ q)
  rw [hfront] at hmem' hasc
  rcases List.mem_append.mp hmem' with hm | hm
  · have := (List.pairwise_append.mp hasc).2.2 _ hm _ (List.mem_singleton_self _)
    simp only at this
    omega
  · obtain ⟨rfl, -⟩ := Prod.mk.inj (List.mem_singleton.mp hm)
    omega

/-- A read sees nothing exactly when nothing was written up to its point. -/
theorem read?_eq_none_iff {h : History} {q : Nat} :
    h.read? q = none ↔ ∀ p, p ≤ q → h.at? p = none := by
  rw [read?, takeWhile_eq_filter h.ascending, Option.map_eq_none_iff, List.getLast?_eq_none_iff,
    List.filter_eq_nil_iff]
  constructor
  · intro hnone p hp
    by_contra hne
    obtain ⟨s, hs⟩ := Option.ne_none_iff_exists'.mp hne
    exact hnone (p, s) (mem_entries_iff.mpr hs) (by simpa using hp)
  · rintro hnone ⟨p, s⟩ he hp
    have := hnone p (by simpa using hp)
    rw [mem_entries_iff.mp he] at this
    exact Option.some_ne_none s this

/-- **What a read sees.** The store at the latest point that has one, up to the point of the
read. -/
theorem read?_eq_some_iff {h : History} {q : Nat} {s : Store} :
    h.read? q = some s ↔
      ∃ p, p ≤ q ∧ h.at? p = some s ∧ ∀ p', p < p' → p' ≤ q → h.at? p' = none := by
  refine ⟨exists_of_read?_eq_some, fun ⟨p, hpq, hp, hlater⟩ => ?_⟩
  cases hr : h.read? q with
  | none => rw [read?_eq_none_iff.mp hr p hpq] at hp; exact hp
  | some t =>
    obtain ⟨p', hpq', hp', hlater'⟩ := exists_of_read?_eq_some hr
    -- Both points are the latest one.
    obtain hlt | rfl | hgt := Nat.lt_trichotomy p p'
    · rw [hlater p' hlt hpq'] at hp'
      exact absurd hp' (Option.some_ne_none t).symm
    · exact hp'.symm.trans hp
    · rw [hlater' p hgt hpq] at hp
      exact absurd hp (Option.some_ne_none s).symm

/-- What was written at the very point of a read is what it sees. -/
theorem read?_of_at? {h : History} {q : Nat} {s : Store} (hat : h.at? q = some s) :
    h.read? q = some s :=
  read?_eq_some_iff.mpr ⟨q, Nat.le_refl q, hat, fun p hlt hle => by omega⟩

/-- At the entry of a method there is nothing earlier to see. -/
theorem read?_entry (h : History) : h.read? entryPoint = h.at? entryPoint := by
  have hzero : ∀ p, p ≤ entryPoint → p = entryPoint := fun p hp => Nat.le_zero.mp hp
  cases hat : h.at? entryPoint with
  | none => exact read?_eq_none_iff.mpr fun p hp => hzero p hp ▸ hat
  | some s => exact read?_of_at? hat

end History

/-! ### Parameters -/

namespace Frame

theorem write_of_bindParameter {f g : Frame} {index : UInt16} {store : Store}
    (h : f.bindParameter index store = .ok g) :
    f.write (f.parameterStart + index) store entryPoint = .ok g := by
  rw [bindParameter] at h
  split at h
  · exact h
  · cases h

/-- **A parameter that was bound is read back.** -/
theorem value_of_bindParameter {f g : Frame} {index : UInt16} {store : Store}
    (h : f.bindParameter index store = .ok g) :
    g.value (g.parameterStart + index) entryPoint = store.value := by
  have hwrite := write_of_bindParameter h
  obtain ⟨hsize, hparams, -⟩ := outline_write hwrite
  have hstart : g.parameterStart = f.parameterStart := by
    rw [parameterStart, parameterStart, registerCount, registerCount, hsize, hparams]
  have hat : (g.history (f.parameterStart + index)).at? entryPoint = some store := by
    rw [history_write hwrite, if_pos rfl, History.at?_write, if_pos rfl]
  rw [value, read?, hstart, History.read?_of_at? hat]

end Frame

end CallEffects
