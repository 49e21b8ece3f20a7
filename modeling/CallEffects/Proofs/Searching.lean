import CallEffects.Proofs.Reading
import Mathlib.Order.Bounds.Defs

/-!
# Searching a history

The entries of a history ascend, and so they can be searched for a point. Nothing is assumed here of
how a search goes about it, only that its answer is right (`History.Located`): the place of the
entry, or the place where an entry of that point would have to stand. From such an answer it follows
what a write changes and what a read sees. Without places, a read sees the entry of the greatest
point that is not later.

## Main definitions

* `History.Located` — what a search for a point may answer
* `History.splice`, `History.inEffect?` — what is done with the answer

## Main results

* `History.exists_located` — there is an answer to every search
* `History.entries_write_of_located`, `History.read?_of_located` — writing and reading by search
* `History.read?_eq_some_iff_isGreatest` — reading by points
-/

namespace CallEffects

namespace History

/-! ### Writing and reading by search -/

/-- What a search for `point` among the entries of a history may answer: the place of the entry of
that point or, as an error, the place at which such an entry would have to be put in. -/
inductive Located (h : History) (point : Nat) : Except Nat Nat → Prop
  /-- There is an entry. -/
  | found {before after : List (Nat × Store)} {store : Store}
    (hentries : h.entries = before ++ (point, store) :: after) : Located h point (.ok before.length)
  /-- There is none, and all entries before the place are earlier and the others later. -/
  | missing {before after : List (Nat × Store)} (hentries : h.entries = before ++ after)
    (hbefore : ∀ e ∈ before, e.1 < point) (hafter : ∀ e ∈ after, point < e.1) :
    Located h point (.error before.length)

/-- Put an entry where a search answered: over the one that was found, or in between. -/
def splice (entries : List (Nat × Store)) (entry : Nat × Store) :
    Except Nat Nat → List (Nat × Store)
  | .ok i => entries.set i entry
  | .error i => entries.insertIdx i entry

/-- The entry that is in effect where a search answered: the one that was found, or the one in front
of the place. -/
def inEffect? (entries : List (Nat × Store)) : Except Nat Nat → Option (Nat × Store)
  | .ok i => entries[i]?
  | .error 0 => none
  | .error (i + 1) => entries[i]?

/-- Every search has a right answer. -/
theorem exists_located (h : History) (point : Nat) : ∃ answer, h.Located point answer := by
  have hsplit : h.entries =
      h.entries.takeWhile (·.1 < point) ++ h.entries.dropWhile (·.1 < point) :=
    List.takeWhile_append_dropWhile.symm
  have hbefore : ∀ e ∈ h.entries.takeWhile (·.1 < point), e.1 < point := by
    intro e he
    simpa using List.all_eq_true.mp List.all_takeWhile e he
  have hascending := h.ascending
  rw [hsplit, List.pairwise_append] at hascending
  cases hrest : h.entries.dropWhile (·.1 < point) with
  | nil =>
    rw [hrest] at hsplit
    exact ⟨_, .missing hsplit hbefore (by simp)⟩
  | cons e after =>
    have hle : point ≤ e.1 := by
      have hhead := List.head?_dropWhile_not (fun e : Nat × Store => decide (e.1 < point)) h.entries
      rw [hrest] at hhead
      simpa using hhead
    rw [hrest] at hsplit hascending
    obtain heq | hlt := Nat.eq_or_lt_of_le hle
    · obtain ⟨p, store⟩ := e
      obtain rfl : point = p := heq
      exact ⟨_, .found hsplit⟩
    · refine ⟨_, .missing hsplit hbefore fun d hd => ?_⟩
      obtain rfl | hd := List.mem_cons.mp hd
      · exact hlt
      · exact Nat.lt_trans hlt ((List.pairwise_cons.mp hascending.2.1).1 d hd)

theorem insertEntry_append {point : Nat} {before : List (Nat × Store)}
    (h : ∀ e ∈ before, e.1 < point) (store : Store) (after : List (Nat × Store)) :
    insertEntry point store (before ++ after) = before ++ insertEntry point store after := by
  induction before with
  | nil => rfl
  | cons e before ih =>
    rw [List.forall_mem_cons] at h
    have hlt := h.1
    rw [List.cons_append, insertEntry, if_neg (by omega), if_neg (by omega), ih h.2,
      List.cons_append]

theorem insertEntry_of_lt {point : Nat} {after : List (Nat × Store)}
    (h : ∀ e ∈ after, point < e.1) (store : Store) :
    insertEntry point store after = (point, store) :: after := by
  cases after with
  | nil => rfl
  | cons e after => rw [insertEntry, if_pos (h e List.mem_cons_self)]

/-- The entries before one that was found are earlier. -/
theorem lt_of_entries_eq {h : History} {before after : List (Nat × Store)} {e : Nat × Store}
    (hentries : h.entries = before ++ e :: after) : ∀ d ∈ before, d.1 < e.1 := by
  have hascending := h.ascending
  rw [hentries] at hascending
  intro d hd
  exact (List.pairwise_append.mp hascending).2.2 d hd e List.mem_cons_self

/-- The entries after one that was found are later. -/
theorem gt_of_entries_eq {h : History} {before after : List (Nat × Store)} {e : Nat × Store}
    (hentries : h.entries = before ++ e :: after) : ∀ d ∈ after, e.1 < d.1 := by
  have hascending := h.ascending
  rw [hentries] at hascending
  exact (List.pairwise_cons.mp (List.pairwise_append.mp hascending).2.1).1

/-- **Writing by search.** An entry that was found is replaced, and one that is missing is put in at
its place. -/
theorem entries_write_of_located {h : History} {point : Nat} {answer : Except Nat Nat}
    (hanswer : h.Located point answer) (store : Store) :
    (h.write point store).entries = splice h.entries (point, store) answer := by
  rw [write]
  cases hanswer with
  | @found before after old hentries =>
    have hbefore := lt_of_entries_eq hentries
    simp only [hentries, splice]
    rw [insertEntry_append hbefore, insertEntry, if_neg (Nat.lt_irrefl _), if_pos rfl,
      List.set_append_right _ _ (Nat.le_refl _), Nat.sub_self, List.set_cons_zero]
  | @missing before after hentries hbefore hafter =>
    simp only [hentries, splice]
    rw [insertEntry_append hbefore, insertEntry_of_lt hafter]
    exact (List.modifyTailIdx_add (List.cons (point, store)) 0 before after).symm

/-- No later entry is in effect at a point. -/
theorem takeWhile_of_lt {point : Nat} {after : List (Nat × Store)} (h : ∀ e ∈ after, point < e.1) :
    after.takeWhile (·.1 ≤ point) = [] := by
  cases after with
  | nil => rfl
  | cons e after =>
    have hlt := h e List.mem_cons_self
    rw [List.takeWhile_cons_of_neg]
    simpa using hlt

/-- **Reading by search.** The entry that was found is read, or else the one in front of the place
where it is missing. -/
theorem read?_of_located {h : History} {point : Nat} {answer : Except Nat Nat}
    (hanswer : h.Located point answer) :
    h.read? point = (inEffect? h.entries answer).map (·.2) := by
  rw [read?]
  cases hanswer with
  | @found before after store hentries =>
    have hbefore : ∀ e ∈ before, decide (e.1 ≤ point) = true := by
      intro e he
      exact decide_eq_true (Nat.le_of_lt (lt_of_entries_eq hentries e he))
    have hfront : h.entries.takeWhile (·.1 ≤ point) = before ++ [(point, store)] := by
      rw [hentries, List.takeWhile_append_of_pos hbefore, List.takeWhile_cons_of_pos (by simp),
        takeWhile_of_lt (gt_of_entries_eq hentries)]
    rw [hfront, hentries, inEffect?]
    simp
  | @missing before after hentries hbefore hafter =>
    have hbefore' : ∀ e ∈ before, decide (e.1 ≤ point) = true := by
      intro e he
      exact decide_eq_true (Nat.le_of_lt (hbefore e he))
    have hfront : h.entries.takeWhile (·.1 ≤ point) = before := by
      rw [hentries, List.takeWhile_append_of_pos hbefore', takeWhile_of_lt hafter, List.append_nil]
    rw [hfront, hentries]
    -- What is read is the last entry in front of the place, if there is any.
    obtain rfl | ⟨front, last, rfl⟩ := List.eq_nil_or_concat before
    · rfl
    · rw [List.length_concat, inEffect?]
      simp

/-! ### Reading by points -/

theorem mem_points_iff {h : History} {p : Nat} :
    p ∈ h.entries.map (·.1) ↔ (h.at? p).isSome = true := by
  rw [List.mem_map, Option.isSome_iff_exists]
  constructor
  · rintro ⟨⟨p, store⟩, hmem, rfl⟩
    exact ⟨store, mem_entries_iff.mp hmem⟩
  · rintro ⟨store, hat⟩
    exact ⟨(p, store), mem_entries_iff.mpr hat, rfl⟩

/-- A read sees the entry of the greatest point up to its own. -/
theorem read?_eq_some_iff_isGreatest {h : History} {q : Nat} {store : Store} :
    h.read? q = some store ↔
      ∃ p, IsGreatest {p | p ≤ q ∧ p ∈ h.entries.map (·.1)} p ∧ (p, store) ∈ h.entries := by
  rw [read?_eq_some_iff]
  refine exists_congr fun p => ?_
  rw [mem_entries_iff]
  constructor
  · rintro ⟨hle, hat, hlater⟩
    refine ⟨⟨⟨hle, mem_points_iff.mpr (by rw [hat]; rfl)⟩, ?_⟩, hat⟩
    rintro p' ⟨hle', hmem⟩
    by_contra hlt
    rw [mem_points_iff, hlater p' (by omega) hle'] at hmem
    exact Bool.false_ne_true hmem
  · rintro ⟨⟨⟨hle, -⟩, hgreatest⟩, hat⟩
    refine ⟨hle, hat, fun p' hlt hle' => ?_⟩
    rw [← Option.not_isSome_iff_eq_none, ← mem_points_iff]
    intro hmem
    have hle'' : p' ≤ p := hgreatest ⟨hle', hmem⟩
    omega

/-- A read sees nothing if all points are later. -/
theorem read?_eq_none_iff_forall_points {h : History} {q : Nat} :
    h.read? q = none ↔ ∀ p ∈ h.entries.map (·.1), q < p := by
  rw [read?_eq_none_iff]
  refine forall_congr' fun p => ?_
  rw [mem_points_iff, ← Option.not_isSome_iff_eq_none, ← Nat.not_le]
  exact not_imp_not.symm.trans (by rw [not_not])

end History

end CallEffects
