import CallEffects.Proofs.Changes
import CallEffects.Proofs.Searching

/-!
# A frame keeps the last write to each place

A write names a register and a point, or a parameter, which stands for a register and the entry of
the method. Writes come in any order of their points. What a frame has after some of them is said
here without the order of its entries: every place, a register at a point, has the store of the last
write that went there, and a write that goes nowhere is refused and leaves no trace.

Places are pairs of numbers. The arithmetic of register numbers has sixteen bits, and that it never
wraps around is part of what is proved.

## Main definitions

* `Write`, `Write.place?` — a write, and where it goes
* `lastAt` — the store of the last write to a place
* `Frame.apply`, `Frame.afterWrites` — one write, and several of which some may be refused
* `Frame.KeepsLastWrites` — a frame after some writes

## Main results

* `Frame.at?_afterWrites` — the stores of a frame are those of the last writes
* `Frame.afterWrites_swap` — writes to different places commute
* `Frame.afterWrites_keepsLastWrites` — everything about a frame after some writes
-/

namespace CallEffects

/-! ### Writes and their places -/

/-- A write to a frame. A value is always written under a type, and the two are a store. -/
inductive Write where
  /-- To a register, at a point. -/
  | register (register : UInt16) (store : Store) (point : Nat)
  /-- To a parameter, by its index. -/
  | parameter (index : UInt16) (store : Store)
deriving DecidableEq

namespace Write

/-- What is written. -/
def store : Write → Store
  | register _ store _ => store
  | parameter _ store => store

/-- Where a write goes in a frame of `count` registers of which the last `parameters` are
parameters, or all if that is more: the register and the point. -/
def place? (count parameters : Nat) : Write → Option (Nat × Nat)
  | register r _ point => if r.toNat < count then some (r.toNat, point) else none
  | parameter index _ =>
    if index.toNat < min parameters count then
      some (count - min parameters count + index.toNat, 0)
    else none

end Write

/-- The store of the last of some writes to a place. -/
def lastAt (count parameters : Nat) (ws : List Write) (place : Nat × Nat) : Option Store :=
  (ws.filter (·.place? count parameters = some place)).getLast?.map (·.store)

theorem lastAt_concat (count parameters : Nat) (ws : List Write) (w : Write) (place : Nat × Nat) :
    lastAt count parameters (ws ++ [w]) place =
      if w.place? count parameters = some place then some w.store
      else lastAt count parameters ws place := by
  rw [lastAt, List.filter_append, lastAt]
  by_cases hw : w.place? count parameters = some place <;> simp [hw]

/-- A place has a last write if it has any. -/
theorem isSome_lastAt_iff {count parameters : Nat} {ws : List Write} {place : Nat × Nat} :
    (lastAt count parameters ws place).isSome = true ↔
      ∃ w ∈ ws, w.place? count parameters = some place := by
  rw [lastAt, Option.isSome_map, List.getLast?_isSome, Ne, List.filter_eq_nil_iff]
  simp

namespace Frame

/-- The frame after a write that may be refused. -/
def apply (f : Frame) : Write → Except Error Frame
  | .register r store point => f.write r store point
  | .parameter index store => f.bindParameter index store

/-- The frame after a write. One that is refused leaves it as it is. -/
def afterWrite (f : Frame) (w : Write) : Frame :=
  match f.apply w with
  | .ok g => g
  | .error _ => f

/-- The frame after several writes. -/
def afterWrites (f : Frame) (ws : List Write) : Frame := ws.foldl afterWrite f

theorem afterWrites_append (f : Frame) (ws ws' : List Write) :
    f.afterWrites (ws ++ ws') = (f.afterWrites ws).afterWrites ws' :=
  List.foldl_append

/-! ### What is refused

A frame that was made with some number of registers and parameters keeps both whatever is written to
it, so `new count parameters depth` stands for its outline. -/

section Outline

variable {count parameters : UInt16} {depth : UInt32} {f : Frame}

theorem Outline.size_of_new (hf : (new count parameters depth).Outline f) :
    f.registers.size = count.toNat := by
  rw [hf.size, new, Array.size_replicate]

theorem Outline.registerCount_of_new (hf : (new count parameters depth).Outline f) :
    f.registerCount = count := by
  rw [← UInt16.toNat_inj, toNat_registerCount, hf.size_of_new]

/-- More parameters than registers are taken to be all registers. -/
theorem Outline.toNat_parameterSize_of_new (hf : (new count parameters depth).Outline f) :
    f.parameterSize.toNat = min parameters.toNat count.toNat := by
  have hmin : f.parameterSize = if parameters ≤ count then parameters else count :=
    hf.parameterSize
  rw [hmin]
  split
  · rename_i h
    rw [UInt16.le_iff_toNat_le] at h
    omega
  · rename_i h
    rw [UInt16.le_iff_toNat_le] at h
    omega

theorem Outline.toNat_parameterStart_of_new (hf : (new count parameters depth).Outline f) :
    f.parameterStart.toNat = count.toNat - min parameters.toNat count.toNat := by
  rw [toNat_parameterStart, hf.size_of_new, hf.toNat_parameterSize_of_new]

/-- The number of a parameter's register does not wrap around. -/
theorem Outline.toNat_parameterStart_add (hf : (new count parameters depth).Outline f)
    {index : UInt16} (h : index.toNat < min parameters.toNat count.toNat) :
    (f.parameterStart + index).toNat =
      count.toNat - min parameters.toNat count.toNat + index.toNat := by
  have hlt := count.toNat_lt
  rw [UInt16.toNat_add, hf.toNat_parameterStart_of_new, Nat.mod_eq_of_lt (by omega)]

/-- **Writes to registers that are refused**: those outside the frame. -/
theorem write_eq_error_iff (hf : (new count parameters depth).Outline f) {r : UInt16}
    {store : Store} {point : Nat} {e : Error} :
    f.write r store point = .error e ↔
      count.toNat ≤ r.toNat ∧ e = .registerOutOfRange r count := by
  by_cases hr : count.toNat ≤ r.toNat
  · rw [write_eq_error store point (hf.size_of_new ▸ hr), hf.registerCount_of_new]
    simp [hr, eq_comm]
  · have hlt : r.toNat < f.registers.size := by
      rw [hf.size_of_new]
      omega
    obtain ⟨g, hg⟩ := f.write_eq_ok store point hlt
    simp [hg, hr]

/-- A write to a parameter is a write to its register. -/
theorem bindParameter_eq_write (hf : (new count parameters depth).Outline f) {index : UInt16}
    (h : index.toNat < min parameters.toNat count.toNat) (store : Store) :
    f.bindParameter index store = f.write (f.parameterStart + index) store 0 := by
  have hlt : index < f.parameterSize := by
    rw [UInt16.lt_iff_toNat_lt, hf.toNat_parameterSize_of_new]
    exact h
  rw [bindParameter, if_pos hlt, entryPoint]

/-- **Writes to parameters that are refused**: those with an index beyond the parameters. The error
names the register where such a parameter would be, or the last register there can be. -/
theorem bindParameter_eq_error_iff (hf : (new count parameters depth).Outline f) {index : UInt16}
    {store : Store} {e : Error} :
    f.bindParameter index store = .error e ↔
      min parameters.toNat count.toNat ≤ index.toNat ∧
        e = .registerOutOfRange
          (.ofNat (min (count.toNat - min parameters.toNat count.toNat + index.toNat) 65535))
          count := by
  by_cases hindex : min parameters.toNat count.toNat ≤ index.toNat
  · have hge : ¬ index < f.parameterSize := by
      rw [UInt16.lt_iff_toNat_lt, hf.toNat_parameterSize_of_new]
      omega
    rw [bindParameter, if_neg hge, addSaturating, hf.toNat_parameterStart_of_new,
      hf.registerCount_of_new]
    simp [hindex, eq_comm]
  · have hlt : index.toNat < min parameters.toNat count.toNat := by omega
    rw [bindParameter_eq_write hf hlt, write_eq_error_iff hf, hf.toNat_parameterStart_add hlt]
    constructor
    · rintro ⟨hle, -⟩
      omega
    · rintro ⟨hle, -⟩
      exact absurd hle hindex

/-! ### One write -/

/-- A write that goes nowhere is refused. -/
theorem apply_of_place?_eq_none (hf : (new count parameters depth).Outline f) {w : Write}
    (h : w.place? count.toNat parameters.toNat = none) : ∃ e, f.apply w = .error e := by
  cases w with
  | register r store point =>
    rw [Write.place?, ite_eq_right_iff] at h
    exact ⟨_, (write_eq_error_iff hf).mpr ⟨Nat.le_of_not_lt fun hr => by simpa using h hr, rfl⟩⟩
  | parameter index store =>
    rw [Write.place?, ite_eq_right_iff] at h
    exact ⟨_, (bindParameter_eq_error_iff hf).mpr
      ⟨Nat.le_of_not_lt fun hi => by simpa using h hi, rfl⟩⟩

/-- A write that goes to a place is a write to its register at its point. -/
theorem apply_of_place?_eq_some (hf : (new count parameters depth).Outline f) {w : Write}
    {r point : Nat} (h : w.place? count.toNat parameters.toNat = some (r, point)) :
    ∃ register g, register.toNat = r ∧ f.apply w = .ok g ∧
      f.write register w.store point = .ok g := by
  cases w with
  | register register store p =>
    obtain ⟨hlt, hplace⟩ := Option.ite_none_right_eq_some.mp h
    obtain ⟨rfl, rfl⟩ := Prod.mk.inj (Option.some.inj hplace)
    obtain ⟨g, hg⟩ := f.write_eq_ok store p (hf.size_of_new ▸ hlt)
    exact ⟨register, g, rfl, hg, hg⟩
  | parameter index store =>
    obtain ⟨hlt, hplace⟩ := Option.ite_none_right_eq_some.mp h
    obtain ⟨rfl, rfl⟩ := Prod.mk.inj (Option.some.inj hplace)
    have hstart := hf.toNat_parameterStart_add hlt
    have hinside : (f.parameterStart + index).toNat < f.registers.size := by
      rw [hstart, hf.size_of_new]
      omega
    obtain ⟨g, hg⟩ := f.write_eq_ok store 0 hinside
    exact ⟨_, g, hstart, (bindParameter_eq_write hf hlt store).trans hg, hg⟩

theorem afterWrite_of_ok {g : Frame} {w : Write} (h : f.apply w = .ok g) : f.afterWrite w = g := by
  rw [afterWrite, h]

theorem afterWrite_of_error {w : Write} {e : Error} (h : f.apply w = .error e) :
    f.afterWrite w = f := by
  rw [afterWrite, h]

/-- **One write.** The place where it goes has its store, and every other place what it had. -/
theorem at?_afterWrite (hf : (new count parameters depth).Outline f) (w : Write) (r : UInt16)
    (q : Nat) :
    ((f.afterWrite w).history r).at? q =
      if w.place? count.toNat parameters.toNat = some (r.toNat, q) then some w.store
      else (f.history r).at? q := by
  cases hplace : w.place? count.toNat parameters.toNat with
  | none =>
    obtain ⟨e, he⟩ := apply_of_place?_eq_none hf hplace
    rw [afterWrite_of_error he, if_neg (Option.some_ne_none _).symm]
  | some place =>
    obtain ⟨r', point⟩ := place
    obtain ⟨register, g, rfl, happly, hwrite⟩ := apply_of_place?_eq_some hf hplace
    rw [afterWrite_of_ok happly, history_write hwrite]
    by_cases hr : r = register
    · subst hr
      rw [if_pos rfl, History.at?_write]
      simp [eq_comm]
    · have hne : register.toNat ≠ r.toNat := fun hc => hr (UInt16.toNat_inj.mp hc.symm)
      rw [if_neg hr]
      simp [hne]

/-- A write changes nothing but the registers. -/
theorem outline_afterWrite (hf : (new count parameters depth).Outline f) (w : Write) :
    f.Outline (f.afterWrite w) ∧ (f.afterWrite w).result = f.result := by
  cases hplace : w.place? count.toNat parameters.toNat with
  | none =>
    obtain ⟨e, he⟩ := apply_of_place?_eq_none hf hplace
    rw [afterWrite_of_error he]
    exact ⟨.refl f, rfl⟩
  | some place =>
    obtain ⟨register, g, -, happly, hwrite⟩ := apply_of_place?_eq_some hf hplace
    obtain ⟨hsize, hparams, hdepth, hresult, hreturned⟩ := outline_write hwrite
    rw [afterWrite_of_ok happly]
    exact ⟨⟨hsize, hparams, hdepth, hreturned⟩, hresult⟩

/-! ### Several writes -/

theorem outline_afterWrites (hf : (new count parameters depth).Outline f) (ws : List Write) :
    f.Outline (f.afterWrites ws) ∧ (f.afterWrites ws).result = f.result := by
  induction ws generalizing f with
  | nil => exact ⟨.refl f, rfl⟩
  | cons w ws ih =>
    obtain ⟨houtline, hresult⟩ := outline_afterWrite hf w
    obtain ⟨houtline', hresult'⟩ := ih (hf.trans houtline)
    exact ⟨houtline.trans houtline', hresult'.trans hresult⟩

/-- **Several writes.** Every place has the store of the last write that went there, and what it had
before if there was none. -/
theorem at?_afterWrites (hf : (new count parameters depth).Outline f) (ws : List Write) (r : UInt16)
    (q : Nat) :
    ((f.afterWrites ws).history r).at? q =
      (lastAt count.toNat parameters.toNat ws (r.toNat, q)).or ((f.history r).at? q) := by
  induction ws using List.reverseRecOn with
  | nil => rfl
  | append_singleton ws w ih =>
    have houtline := hf.trans (outline_afterWrites hf ws).1
    rw [afterWrites_append, lastAt_concat]
    refine (at?_afterWrite houtline w r q).trans ?_
    split
    · rfl
    · exact ih

/-- Frames are equal if they had the same last writes at all places. -/
theorem afterWrites_congr (hf : (new count parameters depth).Outline f) {ws ws' : List Write}
    (h : ∀ place, lastAt count.toNat parameters.toNat ws place =
      lastAt count.toNat parameters.toNat ws' place) :
    f.afterWrites ws = f.afterWrites ws' := by
  obtain ⟨houtline, hresult⟩ := outline_afterWrites hf ws
  obtain ⟨houtline', hresult'⟩ := outline_afterWrites hf ws'
  refine ext_history (houtline'.symm.trans houtline) (hresult.trans hresult'.symm) fun r => ?_
  refine History.ext_at fun q => ?_
  rw [at?_afterWrites hf, at?_afterWrites hf, h]

/-- **Writes to different places commute.** -/
theorem afterWrites_swap (hf : (new count parameters depth).Outline f) {w w' : Write}
    (h : w.place? count.toNat parameters.toNat ≠ w'.place? count.toNat parameters.toNat) :
    f.afterWrites [w, w'] = f.afterWrites [w', w] := by
  refine afterWrites_congr hf fun place => ?_
  rw [show [w, w'] = [w] ++ [w'] from rfl, show [w', w] = [w'] ++ [w] from rfl, lastAt_concat,
    lastAt_concat, ← List.nil_append [w], ← List.nil_append [w'], lastAt_concat, lastAt_concat]
  by_cases hw : w.place? count.toNat parameters.toNat = some place
  · have hw' : w'.place? count.toNat parameters.toNat ≠ some place := fun hc => h (hw.trans hc.symm)
    rw [if_neg hw', if_pos hw, if_pos hw]
  · rw [if_neg hw, if_neg hw]

end Outline

/-! ### The whole register file -/

/-- What a frame of `count` registers and `parameters` parameters is after the writes `ws`, and what
comes of one more write. -/
structure KeepsLastWrites (count parameters : UInt16) (ws : List Write) (f : Frame) : Prop where
  /-- The points of a register ascend strictly. -/
  ascending : ∀ r, ((f.history r).entries.map (·.1)).Pairwise (· < ·)
  /-- They are the points at which a write to the register was accepted. -/
  points : ∀ r p, p ∈ (f.history r).entries.map (·.1) ↔
    ∃ w ∈ ws, w.place? count.toNat parameters.toNat = some (r.toNat, p)
  /-- Each of them has the store of the last such write. -/
  entries : ∀ r p store, (p, store) ∈ (f.history r).entries ↔
    lastAt count.toNat parameters.toNat ws (r.toNat, p) = some store
  /-- A read sees the entry of the greatest point up to its own. -/
  read : ∀ r q store, f.read? r q = some store ↔
    ∃ p, IsGreatest {p | p ≤ q ∧ p ∈ (f.history r).entries.map (·.1)} p ∧
      (p, store) ∈ (f.history r).entries
  /-- It sees nothing if there is no such point. -/
  read_none : ∀ r q, f.read? r q = none ↔ ∀ p ∈ (f.history r).entries.map (·.1), q < p
  /-- Outside the frame there is nothing to see. -/
  outside : ∀ r, count.toNat ≤ r.toNat → f.history r = .empty ∧ ∀ q, f.read? r q = none
  /-- A write to a register is refused exactly outside the frame. -/
  refused : ∀ r store point e, f.write r store point = .error e ↔
    count.toNat ≤ r.toNat ∧ e = .registerOutOfRange r count
  /-- A write to a parameter is refused exactly beyond the parameters. -/
  parameter_refused : ∀ index store e, f.bindParameter index store = .error e ↔
    min parameters.toNat count.toNat ≤ index.toNat ∧
      e = .registerOutOfRange
        (.ofNat (min (count.toNat - min parameters.toNat count.toNat + index.toNat) 65535)) count
  /-- What is refused changes nothing. -/
  unchanged : ∀ w e, f.apply w = .error e → f.afterWrite w = f
  /-- There are no more parameters than registers, so the first parameter register is found without
  an underflow. -/
  start : f.parameterSize ≤ f.registerCount ∧
    f.parameterStart.toNat = count.toNat - min parameters.toNat count.toNat
  /-- A write to a parameter goes to a register of the frame at the entry, whose number is found
  without an overflow. -/
  parameter : ∀ index store, index.toNat < min parameters.toNat count.toNat →
    (f.parameterStart + index).toNat = f.parameterStart.toNat + index.toNat ∧
      f.parameterStart.toNat + index.toNat < count.toNat ∧
      f.bindParameter index store = f.write (f.parameterStart + index) store 0
  /-- Writes to different places commute. -/
  commute : ∀ w w', w.place? count.toNat parameters.toNat ≠
    w'.place? count.toNat parameters.toNat → f.afterWrites [w, w'] = f.afterWrites [w', w]
  /-- However a history is searched, the answer says where to write and what to read. -/
  search : ∀ r q, (∃ answer, (f.history r).Located q answer) ∧
    ∀ answer, (f.history r).Located q answer →
      (∀ store, ((f.history r).write q store).entries =
        History.splice (f.history r).entries (q, store) answer) ∧
      f.read? r q = (History.inEffect? (f.history r).entries answer).map (·.2)

/-- **A frame keeps the last write to each place.** -/
theorem afterWrites_keepsLastWrites (count parameters : UInt16) (depth : UInt32) (ws : List Write) :
    KeepsLastWrites count parameters ws ((new count parameters depth).afterWrites ws) := by
  have hf := (outline_afterWrites (.refl (new count parameters depth)) ws).1
  have hat : ∀ r q, (((new count parameters depth).afterWrites ws).history r).at? q =
      lastAt count.toNat parameters.toNat ws (r.toNat, q) := by
    intro r q
    rw [at?_afterWrites (.refl _), history_new, History.at?_empty, Option.or_none]
  generalize (new count parameters depth).afterWrites ws = f at hf hat
  constructor
  case ascending => exact fun r => List.pairwise_map.mpr (f.history r).ascending
  case points =>
    intro r p
    rw [History.mem_points_iff, hat, isSome_lastAt_iff]
  case entries =>
    intro r p store
    rw [History.mem_entries_iff, hat]
  case read => exact fun r q store => History.read?_eq_some_iff_isGreatest
  case read_none => exact fun r q => History.read?_eq_none_iff_forall_points
  case outside =>
    intro r hr
    have hempty : f.history r = .empty := history_eq_empty (hf.size_of_new ▸ hr)
    exact ⟨hempty, fun q => by rw [read?, hempty, History.read?_empty]⟩
  case refused => exact fun r store point e => write_eq_error_iff hf
  case parameter_refused => exact fun index store e => bindParameter_eq_error_iff hf
  case unchanged => exact fun w e h => afterWrite_of_error h
  case start =>
    refine ⟨?_, hf.toNat_parameterStart_of_new⟩
    rw [UInt16.le_iff_toNat_le, toNat_registerCount]
    exact f.parameterSize_le
  case parameter =>
    intro index store h
    rw [hf.toNat_parameterStart_of_new]
    exact ⟨hf.toNat_parameterStart_add h, by omega, bindParameter_eq_write hf h store⟩
  case commute => exact fun w w' h => afterWrites_swap hf h
  case search =>
    intro r q
    refine ⟨(f.history r).exists_located q, fun answer h => ?_⟩
    exact ⟨fun store => History.entries_write_of_located h store, History.read?_of_located h⟩

end Frame

end CallEffects
