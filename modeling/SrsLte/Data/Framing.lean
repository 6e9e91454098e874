import Mathlib.Data.List.Basic
import Mathlib.Data.List.Infix
import SrsLte.Data.Numerals

/-!
This module contains the splitting of messages into pieces and their reassembly. A piece carries a
flag that says whether it is the last one of its message.
-/

namespace Framing

open List

variable {α : Type}

def feed (st : List (List α) × List α) (piece : List α × Bool) : List (List α) × List α :=
  if piece.2 then
    (st.1 ++ [st.2 ++ piece.1], [])
  else
    (st.1, st.2 ++ piece.1)

@[simp]
theorem feed_true (st : List (List α) × List α) (bytes : List α)
    : feed st (bytes, true) = (st.1 ++ [st.2 ++ bytes], []) := rfl

@[simp]
theorem feed_false (st : List (List α) × List α) (bytes : List α)
    : feed st (bytes, false) = (st.1, st.2 ++ bytes) := rfl

/--
The pieces of a frame with the given lengths, followed by one with the rest of the bytes. Only the
last one may lack the end of its message.
-/
def cut (lengths : List Nat) (bytes : List α) (ends : Bool) : List (List α × Bool) :=
  match lengths with
  | [] => [(bytes, ends)]
  | l :: lengths => (bytes.take l, true) :: cut lengths (bytes.drop l) ends

def full (lengths : List Nat) (bytes : List α) : List (List α × Bool) :=
  match lengths with
  | [] => []
  | l :: lengths => (bytes.take l, true) :: full lengths (bytes.drop l)

variable (lengths : List Nat)

theorem cut_append (bytes more : List α) (ends : Bool) (h : lengths.sum = bytes.length)
    : cut lengths (bytes ++ more) ends = full lengths bytes ++ [(more, ends)] := by
  induction lengths generalizing bytes with
  | nil =>
    have hnil : bytes = [] := eq_nil_of_length_eq_zero h.symm
    simp [cut, full, hnil]
  | cons l lengths ih =>
    rw [sum_cons] at h
    have hl : l ≤ bytes.length := by omega
    have hdrop : lengths.sum = (bytes.drop l).length := by
      rw [length_drop]
      omega
    simp only [cut, full, cons_append]
    rw [take_append_of_le_length hl, drop_append_of_le_length hl, ih _ hdrop]

theorem full_append (l : Nat) (bytes : List α) (h : lengths.sum + l = bytes.length)
    : full (lengths ++ [l]) bytes = cut lengths bytes true := by
  induction lengths generalizing bytes with
  | nil =>
    have hl : l = bytes.length := by simpa using h
    simp [cut, full, hl]
  | cons k lengths ih =>
    rw [sum_cons] at h
    have hdrop : lengths.sum + l = (bytes.drop k).length := by
      rw [length_drop]
      omega
    simp only [cons_append, cut, full]
    rw [ih _ hdrop]

theorem flatten_cut (bytes : List α) (ends : Bool)
    : ((cut lengths bytes ends).map Prod.fst).flatten = bytes := by
  induction lengths generalizing bytes with
  | nil => simp [cut]
  | cons l lengths ih =>
    simp only [cut, map_cons, flatten_cons, ih]
    exact take_append_drop l bytes

theorem isPrefix_feed (st : List (List α) × List α) (piece : List α × Bool) : st.1 <+: (feed st piece).1 := by
  unfold feed
  split
  . apply prefix_append
  . exact prefix_rfl

theorem isPrefix_foldl_feed (pieces : List (List α × Bool)) (st : List (List α) × List α)
    : st.1 <+: (pieces.foldl feed st).1 := by
  induction pieces generalizing st with
  | nil => exact prefix_rfl
  | cons piece pieces ih => exact (isPrefix_feed st piece).trans (ih _)

theorem flatten_foldl_feed (pieces : List (List α × Bool)) (st : List (List α) × List α)
    : (pieces.foldl feed st).1.flatten ++ (pieces.foldl feed st).2
        =
      st.1.flatten ++ st.2 ++ (pieces.map Prod.fst).flatten := by
  induction pieces generalizing st with
  | nil => simp
  | cons piece pieces ih =>
    rw [foldl_cons, ih]
    unfold feed
    split <;> simp

/--
The complete messages are the first ones of `messages`. Of the next one a proper begin has been seen.
-/
def Splits (messages : List (List α)) (st : List (List α) × List α) : Prop :=
  ∃ rest, messages = st.1 ++ rest
    ∧ (st.2 = [] ∨ ∃ tail later, tail ≠ [] ∧ rest = (st.2 ++ tail) :: later)

namespace Splits

variable {messages : List (List α)} {st : List (List α) × List α}

theorem isPrefix (h : Splits messages st) : st.1 <+: messages := by
  have ⟨rest, heq, _⟩ := h
  exact ⟨rest, heq.symm⟩

theorem append (h : Splits messages st) (more : List (List α)) : Splits (messages ++ more) st := by
  have ⟨rest, heq, hrest⟩ := h
  refine ⟨rest ++ more, by rw [heq, append_assoc], ?_⟩
  cases hrest with
  | inl hnil => exact Or.inl hnil
  | inr hopen =>
    have ⟨tail, later, htail, hrest⟩ := hopen
    exact Or.inr ⟨tail, later ++ more, htail, by rw [hrest, cons_append]⟩

theorem length_le (h : Splits messages st) {n : Nat} (hn : ∀ message ∈ messages, message.length ≤ n)
    : st.2.length ≤ n := by
  have ⟨rest, heq, hrest⟩ := h
  cases hrest with
  | inl hnil =>
    rw [hnil]
    exact Nat.zero_le _
  | inr hopen =>
    have ⟨tail, later, _, hrest⟩ := hopen
    have := hn (st.2 ++ tail) (by rw [heq, hrest]; simp)
    rw [length_append] at this
    omega

theorem lt_length (h : Splits messages st) (hne : ∀ message ∈ messages, message ≠ []) {i : Nat}
    (hi : i < messages.length)
    (hbytes : (messages.take (i + 1)).flatten.length ≤ (st.1.flatten ++ st.2).length)
    : i < st.1.length := by
  have ⟨rest, heq, hrest⟩ := h
  by_contra hge
  cases rest with
  | nil =>
    rw [heq, append_nil] at hi
    omega
  | cons next later =>
    have hnext : st.2.length < next.length := by
      have hpos := length_pos_iff.mpr (hne next (by rw [heq]; simp))
      cases hrest with
      | inl hnil =>
        rw [hnil]
        exact hpos
      | inr hopen =>
        have ⟨tail, later, htail, hrest⟩ := hopen
        cases hrest
        have := length_pos_iff.mpr htail
        rw [length_append]
        omega
    have htake : messages.take (i + 1) = st.1 ++ next :: later.take (i - st.1.length) := by
      have hsucc : i + 1 - st.1.length = i - st.1.length + 1 := by omega
      rw [heq, take_append, take_of_length_le (by omega), hsucc, take_succ_cons]
    rw [htake] at hbytes
    simp only [flatten_append, flatten_cons, length_append] at hbytes
    omega

end Splits

end Framing
