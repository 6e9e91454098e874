import Mathlib.Data.List.Nodup
import SrsLte.Data.Numerals

/-!
This module contains buffers that are written position by position, and tables that number the positions of a
list which are not skipped.
-/

namespace Scatter

open List

variable {α : Type}

def writeAll (buf : Nat → α) (writes : List (Nat × α)) : Nat → α :=
  writes.foldl (fun buf w => Function.update buf w.1 w.2) buf

@[simp]
theorem writeAll_cons (buf : Nat → α) (w : Nat × α) (writes : List (Nat × α))
    : writeAll buf (w :: writes) = writeAll (Function.update buf w.1 w.2) writes := rfl

theorem writeAll_append (buf : Nat → α) (before after : List (Nat × α))
    : writeAll buf (before ++ after) = writeAll (writeAll buf before) after :=
  foldl_append

variable {p : Nat}

theorem writeAll_of_not_mem {buf : Nat → α} {writes : List (Nat × α)} (h : p ∉ writes.map Prod.fst)
    : writeAll buf writes p = buf p := by
  induction writes generalizing buf with
  | nil => rfl
  | cons w writes ih =>
    rw [map_cons, mem_cons, not_or] at h
    rw [writeAll_cons, ih h.2, Function.update_of_ne h.1]

theorem writeAll_of_last (buf : Nat → α) (before : List (Nat × α)) {after : List (Nat × α)} (v : α)
    (h : p ∉ after.map Prod.fst)
    : writeAll buf (before ++ (p, v) :: after) p = v := by
  rw [writeAll_append, writeAll_cons, writeAll_of_not_mem h, Function.update_self]

theorem writeAll_of_mem (buf : Nat → α) {writes : List (Nat × α)} {w : Nat × α} (hnodup : (writes.map Prod.fst).Nodup)
    (h : w ∈ writes)
    : writeAll buf writes w.1 = w.2 := by
  obtain ⟨before, after, rfl⟩ := append_of_mem h
  rw [map_append, map_cons, nodup_append, nodup_cons] at hnodup
  exact writeAll_of_last buf before w.2 hnodup.2.1.1

theorem foldl_update_of_last (table : Nat → Nat) (x buf : Nat → α) {len : Nat} (hp : p < len)
    (hlast : ∀ i, p < i → i < len → table i ≠ table p)
    : ((List.range len).foldl (fun buf i => Function.update buf (table i) (x i)) buf) (table p) = x p := by
  induction len with
  | zero => cases hp
  | succ len ih =>
    rw [range_succ, foldl_append, foldl_cons, foldl_nil]
    by_cases heq : p = len
    . rw [heq, Function.update_self]
    . rw [Function.update_of_ne (hlast len (by omega) (by omega)).symm]
      exact ih (by omega) fun i hi hlen => hlast i hi (by omega)

theorem foldl_block {step : (Nat → α) → Nat → Nat → α} {value : Nat → Nat → α} {n width : Nat}
    (hstep : ∀ i < n, ∀ buf j,
      step buf i j = if width * i ≤ j ∧ j < width * i + width then value i (j - width * i) else buf j)
    (buf : Nat → α) {i k : Nat} (hi : i < n) (hk : k < width)
    : ((List.range n).foldl step buf) (width * i + k) = value i k := by
  induction n with
  | zero => cases hi
  | succ n ih =>
    rw [range_succ, foldl_append, foldl_cons, foldl_nil, hstep n (by omega)]
    by_cases heq : i = n
    . subst heq
      rw [if_pos (by omega), Nat.add_sub_cancel_left]
    . have hlt : width * i + k < width * n := calc
        width * i + k < width * i + width := by omega
        _ = width * (i + 1) := by rw [Nat.mul_succ]
        _ ≤ width * n := Nat.mul_le_mul_left _ (by omega)
      rw [if_neg (by omega)]
      exact ih (fun i hi => hstep i (by omega)) (by omega)

theorem exists_last (table : Nat → Nat) {len : Nat} (hp : p < len)
    : ∃ last, p ≤ last ∧ last < len ∧ table last = table p ∧
        ∀ i, last < i → i < len → table i ≠ table p := by
  induction len with
  | zero => cases hp
  | succ len ih =>
    by_cases heq : table len = table p
    . exact ⟨len, by omega, by omega, heq, fun i hi hlen => by omega⟩
    . have hlt : p < len := by
        refine Nat.lt_of_le_of_ne (by omega) fun hlen => heq ?_
        rw [hlen]
      have ⟨last, hle, hlast, htable, hafter⟩ := ih hlt
      refine ⟨last, hle, by omega, htable, fun i hi hlen => ?_⟩
      by_cases hi' : i = len
      . rw [hi']
        exact heq
      . exact hafter i hi (by omega)

/-! ### Numbering -/

section Number

variable (skip : Nat → Bool)

/--
One entry of a table: the positions that are not skipped are numbered, the others get 0.
-/
def numberStep (table : (Nat → Nat) × Nat) (p : Nat) : (Nat → Nat) × Nat :=
  if skip p then
    (Function.update table.1 p 0, table.2)
  else
    (Function.update table.1 p table.2, table.2 + 1)

def number (positions : List Nat) (table : (Nat → Nat) × Nat) : (Nat → Nat) × Nat :=
  positions.foldl (numberStep skip) table

variable {skip}
variable {positions : List Nat} {table : (Nat → Nat) × Nat}

theorem number_of_not_mem {p : Nat} (h : p ∉ positions)
    : (number skip positions table).1 p = table.1 p := by
  induction positions generalizing table with
  | nil => rfl
  | cons q positions ih =>
    rw [mem_cons, not_or] at h
    unfold number at *
    rw [foldl_cons, ih h.2]
    unfold numberStep
    split
    . exact Function.update_of_ne h.1 ..
    . exact Function.update_of_ne h.1 ..

theorem number_of_skip {p : Nat} (hnodup : positions.Nodup) (hmem : p ∈ positions) (hskip : skip p = true)
    : (number skip positions table).1 p = 0 := by
  induction positions generalizing table with
  | nil => cases hmem
  | cons q positions ih =>
    have ⟨hq, hnodup⟩ := nodup_cons.mp hnodup
    cases mem_cons.mp hmem with
    | inl hp =>
      subst hp
      rw [show number skip (p :: positions) table = number skip positions (numberStep skip table p) from rfl,
        number_of_not_mem hq]
      simp [numberStep, hskip]
    | inr hp => exact ih hnodup hp

theorem map_number_filter {positions : List Nat} {table : (Nat → Nat) × Nat} (hnodup : positions.Nodup)
    : (positions.filter fun p => !skip p).map (number skip positions table).1
        =
      List.range' table.2 (positions.filter fun p => !skip p).length := by
  induction positions generalizing table with
  | nil => rfl
  | cons q positions ih =>
    have ⟨hq, hnodup⟩ := nodup_cons.mp hnodup
    have hih := @ih (numberStep skip table q) hnodup
    rw [show number skip (q :: positions) table = number skip positions (numberStep skip table q) from rfl,
      filter_cons]
    cases hskip : skip q with
    | true =>
      simp only [Bool.not_true, Bool.false_eq_true, ↓reduceIte]
      rw [hih]
      simp [numberStep, hskip]
    | false =>
      simp only [Bool.not_false, ↓reduceIte, map_cons, length_cons, range'_succ]
      rw [hih, number_of_not_mem hq]
      simp [numberStep, hskip]

end Number

end Scatter
