import CallEffects.Descriptor.Basic
import CallEffects.Value.Basic

/-!
# Register histories

A store is what is written to a register: a value together with the type under which it was
written. A history has the stores written to one register, each at a point of the program. Points
may be written in any order; a second write at a point replaces the first. A read at a point sees
the latest store at or before it.

The points of a history ascend strictly. This is a field of the type, so that a history is
determined by the stores at its points (`History.ext_at`).

## Main definitions

* `Store` — a typed value
* `Store.sameConstant` — equality of types and of the numbers that the values stand for
* `History` — the stores of one register
* `History.write` — the history after one more write
* `History.at?` — the store written at exactly one point
* `History.read?` — the store in effect at a point

## Main results

* `History.at?_write` — a write changes the store at its own point and at no other
* `History.ext_at` — two histories with the same stores at all points are equal
-/

namespace CallEffects

/-! ### Stores -/

/-- A value and the type under which it was written. -/
structure Store where
  /-- The type. -/
  type : TypeDescriptor
  /-- The value. -/
  value : Value
deriving DecidableEq, Repr

namespace Store

/-- The types agree and the values stand for the same constant. -/
def sameConstant (a b : Store) : Bool := a.type == b.type && a.value.sameConstant b.value

/-- What is assumed of a register of the given type that was never written. -/
def unanalyzed (type : TypeDescriptor) : Store := ⟨type, .unknown .unanalyzed⟩

/-- What a call returns that was not run: neither its type nor its value is known. -/
def callResult : Store := ⟨.unresolved, .unknown .callResult⟩

/-- What is left of a register whose object a call may have changed. -/
def invalidated (type : TypeDescriptor) : Store := ⟨type, .unknown .invalidated⟩

end Store

/-! ### Histories -/

/-- The stores written to one register, by ascending points. -/
@[ext] structure History where
  /-- The points with their stores. -/
  entries : List (Nat × Store)
  /-- The points ascend strictly. -/
  ascending : entries.Pairwise (·.1 < ·.1)
deriving DecidableEq

namespace History

/-- The history of a register that was never written. -/
def empty : History := ⟨[], .nil⟩

instance : Inhabited History := ⟨empty⟩

/-! ### Writing -/

/-- Put a store at its place among ascending entries, over one that stands at the same point. -/
def insertEntry (point : Nat) (store : Store) : List (Nat × Store) → List (Nat × Store)
  | [] => [(point, store)]
  | entry :: entries =>
    if point < entry.1 then (point, store) :: entry :: entries
    else if point = entry.1 then (point, store) :: entries
    else entry :: insertEntry point store entries

theorem mem_insertEntry {point : Nat} {store : Store} {entries : List (Nat × Store)}
    {e : Nat × Store} (h : e ∈ insertEntry point store entries) :
    e = (point, store) ∨ e ∈ entries := by
  induction entries with
  | nil => simpa [insertEntry] using h
  | cons entry entries ih =>
    simp only [insertEntry] at h
    split at h
    · simpa using h
    · split at h
      · rcases List.mem_cons.mp h with h | h
        · exact Or.inl h
        · exact Or.inr (List.mem_cons_of_mem _ h)
      · rcases List.mem_cons.mp h with h | h
        · exact Or.inr (by simp [h])
        · exact (ih h).imp_right (List.mem_cons_of_mem _)

theorem pairwise_insertEntry (point : Nat) (store : Store) {entries : List (Nat × Store)}
    (h : entries.Pairwise (·.1 < ·.1)) :
    (insertEntry point store entries).Pairwise (·.1 < ·.1) := by
  induction entries with
  | nil => simp [insertEntry]
  | cons entry entries ih =>
    obtain ⟨hhead, htail⟩ := List.pairwise_cons.mp h
    simp only [insertEntry]
    split
    · rename_i hlt
      refine List.pairwise_cons.mpr ⟨fun e he => ?_, h⟩
      rcases List.mem_cons.mp he with rfl | he
      · exact hlt
      · exact Nat.lt_trans hlt (hhead e he)
    · split
      · rename_i heq
        exact List.pairwise_cons.mpr ⟨fun e he => by simpa [heq] using hhead e he, htail⟩
      · refine List.pairwise_cons.mpr ⟨fun e he => ?_, ih htail⟩
        rcases mem_insertEntry he with rfl | he
        · simp only
          omega
        · exact hhead e he

/-- The history after a write at a point. -/
def write (h : History) (point : Nat) (store : Store) : History :=
  ⟨insertEntry point store h.entries, pairwise_insertEntry point store h.ascending⟩

/-! ### Reading -/

/-- The store written at exactly `point`. -/
def at? (h : History) (point : Nat) : Option Store := h.entries.lookup point

/-- The store in effect at `point`: the latest one written at or before it. -/
def read? (h : History) (point : Nat) : Option Store :=
  (h.entries.takeWhile (·.1 ≤ point)).getLast?.map (·.2)

theorem lookup_cons_eq (entry : Nat × Store) (entries : List (Nat × Store)) (q : Nat) :
    (entry :: entries).lookup q = if q = entry.1 then some entry.2 else entries.lookup q := by
  obtain ⟨p, s⟩ := entry
  by_cases hq : q = p
  · simp [hq]
  · have hne : (q == p) = false := by simpa using hq
    simp [List.lookup_cons, hne, hq]

theorem lookup_insertEntry (point : Nat) (store : Store) (entries : List (Nat × Store))
    (q : Nat) :
    (insertEntry point store entries).lookup q =
      if q = point then some store else entries.lookup q := by
  induction entries with
  | nil => simp [insertEntry, lookup_cons_eq]
  | cons entry entries ih =>
    simp only [insertEntry]
    split
    · rw [lookup_cons_eq]
    · split
      · rename_i heq
        simp only [lookup_cons_eq, ← heq]
        split <;> rfl
      · rename_i hne
        rw [lookup_cons_eq, ih, lookup_cons_eq]
        by_cases hq : q = entry.1
        · have hqp : ¬ q = point := fun hc => hne (hc.symm.trans hq)
          rw [if_pos hq, if_neg hqp, if_pos hq]
        · rw [if_neg hq, if_neg hq]

/-- A write changes the store at its own point and at no other. -/
@[simp] theorem at?_write (h : History) (point q : Nat) (store : Store) :
    (h.write point store).at? q = if q = point then some store else h.at? q :=
  lookup_insertEntry point store h.entries q

@[simp] theorem at?_empty (point : Nat) : empty.at? point = none := rfl

@[simp] theorem read?_empty (point : Nat) : empty.read? point = none := rfl

/-! ### Extensionality -/

theorem lookup_eq_none_of_lt {entries : List (Nat × Store)} {q : Nat}
    (h : ∀ e ∈ entries, q < e.1) : entries.lookup q = none := by
  rw [List.lookup_eq_none_iff]
  intro e he
  have := h e he
  simp
  omega

theorem entries_eq_of_lookup_eq {xs ys : List (Nat × Store)} (hx : xs.Pairwise (·.1 < ·.1))
    (hy : ys.Pairwise (·.1 < ·.1)) (h : ∀ q, xs.lookup q = ys.lookup q) : xs = ys := by
  induction xs generalizing ys with
  | nil =>
    cases ys with
    | nil => rfl
    | cons y ys => simpa [lookup_cons_eq] using h y.1
  | cons x xs ih =>
    obtain ⟨hxs, hxp⟩ := List.pairwise_cons.mp hx
    cases ys with
    | nil => simpa [lookup_cons_eq] using h x.1
    | cons y ys =>
      obtain ⟨hys, hyp⟩ := List.pairwise_cons.mp hy
      obtain ⟨p, s⟩ := x
      obtain ⟨q, t⟩ := y
      have hpq : p = q := by
        rcases Nat.lt_trichotomy p q with hlt | heq | hgt
        · have hnone : ((q, t) :: ys).lookup p = none := by
            refine lookup_eq_none_of_lt fun e he => ?_
            rcases List.mem_cons.mp he with rfl | he
            · exact hlt
            · exact Nat.lt_trans hlt (hys e he)
          have := h p
          simp [hnone] at this
        · exact heq
        · have hnone : ((p, s) :: xs).lookup q = none := by
            refine lookup_eq_none_of_lt fun e he => ?_
            rcases List.mem_cons.mp he with rfl | he
            · exact hgt
            · exact Nat.lt_trans hgt (hxs e he)
          have := h q
          simp [hnone] at this
      subst hpq
      have hst : s = t := by simpa [lookup_cons_eq] using h p
      subst hst
      have htail : xs = ys := by
        refine ih hxp hyp fun r => ?_
        by_cases hr : r = p
        · subst hr
          rw [lookup_eq_none_of_lt hxs, lookup_eq_none_of_lt hys]
        · simpa [lookup_cons_eq, hr] using h r
      rw [htail]

/-- A history is determined by the stores at its points. -/
theorem ext_at {a b : History} (h : ∀ point, a.at? point = b.at? point) : a = b :=
  History.ext (entries_eq_of_lookup_eq a.ascending b.ascending h)

end History

end CallEffects
