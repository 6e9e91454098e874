import Mathlib.Data.List.Forall2
import Mathlib.Data.List.Nodup
import SrsLte.Data.Numerals

/-!
This module contains facts about changing the last element of a list, about positions in a list and
about what the selected elements of a list are mapped to.
-/

namespace Lists

open List

variable {α β γ : Type}

theorem modify_concat (l : List α) (a : α) (f : α → α)
    : (l ++ [a]).modify l.length f = l ++ [f a] := by
  induction l with
  | nil => rfl
  | cons b l ih =>
    rw [cons_append, length_cons, modify_succ_cons, ih]
    rfl

theorem drop_add_length {l a rest : List α} {n : Nat} (h : l.drop n = a ++ rest)
    : l.drop (n + a.length) = rest := by
  rw [← drop_drop, h, drop_left]

theorem flatMap_filter_zipIdx (p : α → Bool) {f : α → Nat → List β} {g : α → List β} {l : List α}
    {n : Nat} (h : ∀ a ∈ l, ∀ i, n ≤ i → i < n + l.length → f a i = g a)
    : ((l.zipIdx n).filter fun x => p x.1).flatMap (fun x => f x.1 x.2)
        =
      (l.filter p).flatMap g := by
  induction l generalizing n with
  | nil => rfl
  | cons a l ih =>
    have hhead : f a n = g a := by
      apply h a mem_cons_self n
      . omega
      . rw [length_cons]
        omega
    have htail := @ih (n + 1) fun b hb i hle hlt =>
      h b (mem_cons_of_mem a hb) i (by omega) (by rw [length_cons]; omega)
    rw [zipIdx_cons, filter_cons, filter_cons]
    cases hp : p a with
    | false => simpa using htail
    | true => simp [htail, hhead]

theorem flatMap_filter_zipIdx_beq (p : α → Bool) (f : α → Bool → List β) {a b : List α} {x : α}
    (hx : p x = true) (hb : ∀ y ∈ b, p y = false)
    : (((a ++ x :: b).zipIdx 0).filter fun y => p y.1).flatMap (fun y => f y.1 (y.2 == a.length))
        =
      (a.filter p).flatMap (fun y => f y false) ++ f x true := by
  have hbefore : ((a.zipIdx 0).filter fun y => p y.1).flatMap (fun y => f y.1 (y.2 == a.length))
      = (a.filter p).flatMap (fun y => f y false) := by
    apply @flatMap_filter_zipIdx _ _ p (fun y i => f y (i == a.length))
    intro y _ i _ hi
    have hne : (i == a.length) = false := beq_false_of_ne (by omega)
    simp only [hne]
  have hafter : ((b.zipIdx (0 + a.length + 1)).filter fun y => p y.1).flatMap
      (fun y => f y.1 (y.2 == a.length)) = [] := by
    rw [@flatMap_filter_zipIdx _ _ p (fun y i => f y (i == a.length)) (fun y => f y false)]
    . rw [filter_eq_nil_iff.mpr (by simpa using hb)]
      rfl
    . intro y _ i hi _
      have hne : (i == a.length) = false := beq_false_of_ne (by omega)
      simp only [hne]
  rw [zipIdx_append, filter_append, flatMap_append, hbefore, zipIdx_cons,
    filter_cons]
  simp only [hx, ↓reduceIte, flatMap_cons, hafter]
  simp

theorem map_filter_congr {R : α → β → Prop} {p : α → Bool} {q : β → Bool} {f : α → γ} {g : β → γ}
    (hpq : ∀ a b, R a b → p a = q b) (hfg : ∀ a b, R a b → q b = true → f a = g b) {l : List α}
    {m : List β} (h : List.Forall₂ R l m)
    : (l.filter p).map f = (m.filter q).map g := by
  induction h with
  | nil => rfl
  | @cons a b l m hab _ ih =>
    rw [filter_cons, filter_cons, hpq a b hab]
    cases hq : q b with
    | false => simpa using ih
    | true => simp [ih, hfg a b hab hq]

theorem flatMap_filter_congr {R : α → β → Prop} {p : α → Bool} {q : β → Bool} {f : α → List γ}
    {g : β → List γ} (hpq : ∀ a b, R a b → p a = q b) (hfg : ∀ a b, R a b → q b = true → f a = g b)
    {l : List α} {m : List β} (h : List.Forall₂ R l m)
    : (l.filter p).flatMap f = (m.filter q).flatMap g := by
  rw [flatMap_def, flatMap_def, map_filter_congr hpq hfg h]

theorem sum_filter_add_sum_filter_not (p : α → Bool) (f : α → Nat) (l : List α)
    : ((l.filter fun a => !p a).map f).sum + ((l.filter p).map f).sum = (l.map f).sum := by
  induction l with
  | nil => rfl
  | cons a l ih =>
    cases hp : p a with
    | false =>
      simp only [filter_cons, hp, Bool.not_false, ↓reduceIte, map_cons, sum_cons,
        Bool.false_eq_true]
      omega
    | true =>
      simp only [filter_cons, hp, Bool.not_true, ↓reduceIte, map_cons, sum_cons,
        Bool.false_eq_true]
      omega

theorem sum_map_zipIdx_beq (f : α → Bool → Nat) {l : List α} {i : Nat} {x : α} (h : l[i]? = some x) (n : Nat)
    : ((l.zipIdx n).map fun y => f y.1 (y.2 == n + i)).sum + f x false
        =
      (l.map fun y => f y false).sum + f x true := by
  induction l generalizing i n with
  | nil => cases h
  | cons y l ih =>
    cases i with
    | zero =>
      have htail : ((l.zipIdx (n + 1)).map fun y => f y.1 (y.2 == n))
          = (l.zipIdx (n + 1)).map ((fun y => f y false) ∘ Prod.fst) := by
        apply map_congr_left
        intro z hz
        simp only [beq_false_of_ne (Nat.ne_of_gt (mem_zipIdx hz).1), Function.comp_apply]
      rw [← map_map, zipIdx_map_fst] at htail
      simp_all
      omega
    | succ i =>
      have hrest := ih h (n + 1)
      have hne : (n == n + (i + 1)) = false := beq_false_of_ne (by omega)
      rw [Nat.add_right_comm, Nat.add_assoc] at hrest
      simp only [zipIdx_cons, map_cons, sum_cons, hne]
      omega

theorem exists_of_forall₂ {R : α → β → Prop} {l : List α} {m : List β} (h : List.Forall₂ R l m) {a : α}
    (ha : a ∈ l)
    : ∃ b ∈ m, R a b := by
  induction h with
  | nil => contradiction
  | @cons a' b l m hab _ ih =>
    cases mem_cons.mp ha with
    | inl heq => exact ⟨b, mem_cons_self, heq ▸ hab⟩
    | inr hmem =>
      have ⟨b', hb', hR⟩ := ih hmem
      exact ⟨b', mem_cons_of_mem b hb', hR⟩

theorem forall₂_append_cons {R : α → β → Prop} {l : List α} {a b : List β} {x : β}
    (h : List.Forall₂ R l (a ++ x :: b))
    : ∃ a' x' b', l = a' ++ x' :: b' ∧ List.Forall₂ R a' a ∧ R x' x ∧ List.Forall₂ R b' b := by
  induction a generalizing l with
  | nil =>
    rw [nil_append, forall₂_cons_right_iff] at h
    have ⟨x', b', hx, hb, hl⟩ := h
    exact ⟨[], x', b', hl, .nil, hx, hb⟩
  | cons y a ih =>
    rw [cons_append, forall₂_cons_right_iff] at h
    have ⟨y', l', hy, hl', hl⟩ := h
    have ⟨a', x', b', heq, ha, hx, hb⟩ := ih hl'
    exact ⟨y' :: a', x', b', by rw [hl, heq, cons_append], .cons hy ha, hx, hb⟩

theorem take_drop_flatMap_range (f : Nat → List α) {i n m : Nat} (hi : i < n) (hm : m ≤ (f i).length)
    : (((List.range n).flatMap f).drop ((List.range i).map fun j => (f j).length).sum).take m = (f i).take m := by
  obtain ⟨k, rfl⟩ := Nat.exists_eq_add_of_lt hi
  have hrange : List.range (i + k + 1) = List.range i ++ i :: (List.range k).map (i + 1 + ·) := by
    rw [Nat.add_right_comm, range_add, range_succ, append_assoc]
    rfl
  rw [hrange, flatMap_append, ← length_flatMap, drop_left, flatMap_cons,
    take_append_of_le_length hm]

theorem length_filter_update {l : List Nat} (hl : l.Nodup) {a : Nat} (ha : a ∈ l) {f : Nat → Bool} (hf : f a = false)
    : (l.filter fun i => ¬ Function.update f a true i).length + 1 = (l.filter fun i => ¬ f i).length := by
  have herase : (l.filter fun i => ¬ Function.update f a true i) = (l.filter fun i => ¬ f i).erase a := by
    rw [List.Nodup.erase_eq_filter (hl.filter _), filter_filter]
    apply filter_congr
    intro i _
    cases Decidable.em (i = a) with
    | inl heq => simp [heq]
    | inr hne => simp [hne]
  have hmem : a ∈ l.filter fun i => ¬ f i := by
    rw [mem_filter]
    simp [ha, hf]
  rw [herase, length_erase_of_mem hmem]
  exact Nat.sub_add_cancel (length_pos_of_mem hmem)

theorem infix_or_infix {u v w : List α} {a : α} (hw : w <:+: u ++ a :: v) (ha : a ∉ w) : w <:+: u ∨ w <:+: v := by
  have ⟨x, y, h⟩ := hw
  rw [append_assoc] at h
  rcases append_eq_append_iff.mp h with ⟨c, rfl, hc⟩ | ⟨c, rfl, hc⟩
  . rcases append_eq_append_iff.mp hc with ⟨d, rfl, -⟩ | ⟨d, rfl, hd⟩
    . exact .inl ⟨x, d, append_assoc x w d⟩
    . cases d with
      | nil =>
        rw [append_nil]
        exact .inl (suffix_append x c).isInfix
      | cons b d =>
        rw [cons_append, cons_eq_cons] at hd
        rw [hd.1] at ha
        simp at ha
  . cases c with
    | nil =>
      cases w with
      | nil => exact .inl ( nil_infix)
      | cons b w =>
        rw [nil_append, cons_append, cons_eq_cons] at hc
        rw [hc.1] at ha
        simp at ha
    | cons b c =>
      rw [cons_append, cons_eq_cons] at hc
      right
      exact ⟨c, y, by rw [hc.2, append_assoc]⟩

-- a scan that keeps the first greatest value finds the only one
theorem foldl_max_eq {f : Nat → Int} {lo : Int} {w n : Nat} (hlo : lo < f w)
    (hlt : ∀ v < n, v ≠ w → f v < f w) (hw : w < n)
    : (List.range n).foldl (fun (max : Nat × Int) v => if f v > max.2 then (v, f v) else max) (0, lo) = (w, f w) := by
  have hscan : ∀ m ≤ n, ∃ max, (List.range m).foldl
      (fun (max : Nat × Int) v => if f v > max.2 then (v, f v) else max) (0, lo) = max
        ∧ if w < m then max = (w, f w) else max.2 < f w := by
    intro m
    induction m with
    | zero => exact fun _ => ⟨_, rfl, hlo⟩
    | succ m ih =>
      intro hm
      have ⟨max, heq, hmax⟩ := ih (Nat.le_of_succ_le hm)
      refine ⟨_, rfl, ?_⟩
      rw [range_succ, foldl_concat, heq]
      have hv := hlt m hm
      grind
  have ⟨max, heq, hmax⟩ := hscan n (Nat.le_refl n)
  rw [if_pos hw] at hmax
  rw [heq, hmax]

end Lists
