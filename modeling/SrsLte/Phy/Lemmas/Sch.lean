import SrsLte.Phy.Impl.Sch

/-!
This module contains the theory of the coding of transport blocks: which coded bits belong to a code block.
-/

namespace SrsLte.Sch

open List

def Tiles (start stop : Nat) (intervals : List (Nat × Nat)) : Prop :=
  match intervals with
  | [] => start = stop
  | interval :: intervals => interval.1 = start ∧ Tiles (start + interval.2) stop intervals

def writeIntervals (q : Sch) (C Qm Gp : Nat) : List (Nat × Nat) :=
  (List.range C).map fun i => (((List.range i).map (q.nE C Qm Gp)).sum, q.nE C Qm Gp i)

def Agrees (q : Sch) (C Qm Gp : Nat) : Prop :=
  Tiles 0 (Gp * Qm) (q.writeIntervals C Qm Gp) ∧
    ∀ i < C, (q.writeIntervals C Qm Gp)[i]? = some (readInterval C Qm Gp i)

theorem tiles_concat (intervals : List (Nat × Nat)) (interval : Nat × Nat) (start stop : Nat)
    : Tiles start stop (intervals ++ [interval]) ↔ Tiles start interval.1 intervals ∧ interval.1 + interval.2 = stop := by
  induction intervals generalizing start with
  | nil =>
    change interval.1 = start ∧ start + interval.2 = stop ↔ start = interval.1 ∧ interval.1 + interval.2 = stop
    omega
  | cons first intervals ih =>
    change first.1 = start ∧ Tiles _ stop (intervals ++ [interval]) ↔ (first.1 = start ∧ Tiles _ _ intervals) ∧ _
    rw [ih, and_assoc]

theorem tiles_iff_sum (f : Nat → Nat) (n stop : Nat)
    : Tiles 0 stop ((List.range n).map fun i => (((List.range i).map f).sum, f i)) ↔
        ((List.range n).map f).sum = stop := by
  induction n generalizing stop with
  | zero => rfl
  | succ n ih =>
    rw [range_succ, map_append, map_append, sum_append]
    change Tiles 0 stop (_ ++ [_]) ↔ _
    rw [tiles_concat, ih]
    simp

theorem sum_map_of_eq {f : Nat → Nat} {n k : Nat} (h : ∀ i < n, f i = k) : ((List.range n).map f).sum = n * k := by
  have hconst : (List.range n).map f = List.replicate n k := by
    apply eq_replicate_iff.mpr
    refine ⟨by simp, ?_⟩
    intro b hb
    obtain ⟨i, hi, rfl⟩ := mem_map.mp hb
    exact h i (mem_range.mp hi)
  rw [hconst, sum_replicate_nat]

variable {C i Gp : Nat}

theorem getElem_writeIntervals (q : Sch) (hi : i < C) (Qm Gp : Nat)
    : (q.writeIntervals C Qm Gp)[i]? = some (((List.range i).map (q.nE C Qm Gp)).sum, q.nE C Qm Gp i) := by
  unfold writeIntervals
  rw [getElem?_map, getElem?_range hi]
  rfl

theorem foldl_encodeCb (q : Sch) (s : Cbsegm) (Qm rv Gp : Nat) (data : List UInt8) (par n : Nat)
    : let st := (List.range n).foldl (q.encodeCb s Qm rv Gp data par) {}
      st.wp = ((List.range n).map (q.nE s.C Qm Gp)).sum ∧
        st.writes.map (fun write => (write.1, write.2.length)) =
          (List.range n).map fun i => (((List.range i).map (q.nE s.C Qm Gp)).sum, q.nE s.C Qm Gp i) := by
  induction n with
  | zero => exact ⟨rfl, rfl⟩
  | succ n ih =>
    dsimp only at ih ⊢
    simp only [range_succ, foldl_append, foldl_cons, foldl_nil, map_append, sum_append, encodeCb, ih]
    simp

/-- The intervals that the writes of `encode_tb` fill. -/
theorem writeIntervals_eq {q : Sch} {s : Cbsegm} {Qm rv nofEBits : Nat} {data : List UInt8}
    {writes : List (Nat × List Bool)} (h : q.encodeTb s Qm rv nofEBits data = some writes)
    : q.writeIntervals s.C Qm (nofEBits / Qm) = writes.map fun write => (write.1, write.2.length) := by
  unfold encodeTb at h
  split at h
  . cases h
  . split at h
    . cases h
    . cases h
      exact (foldl_encodeCb ..).2.symm

theorem nE_of_le (q : Sch) (hC : 1 ≤ C) (hi : i ≤ C - Gp % C - 1) (Qm : Nat)
    : q.nE C Qm Gp i = Qm * (Gp / C) := by
  unfold nE
  dsimp only
  rw [if_pos (show C > 0 from hC), if_pos hi]

theorem nE_of_gt (q : Sch) (hC : 1 ≤ C) (hi : ¬ i ≤ C - Gp % C - 1) (Qm : Nat)
    : q.nE C Qm Gp i = Qm * q.ceilf Gp C := by
  unfold nE
  dsimp only
  rw [if_pos (show C > 0 from hC), if_neg hi]

theorem readInterval_of_le (hC : 1 ≤ C) (hi : i ≤ C - Gp % C) (Qm : Nat)
    : readInterval C Qm Gp i = (i * (Qm * (Gp / C)), Qm * (Gp / C)) := by
  unfold readInterval
  dsimp only
  rw [if_pos (show C > 0 from hC), if_neg (Nat.not_lt_of_le hi)]

theorem readInterval_spec (q : Sch) (hC : 1 ≤ C) (hceil : q.ceilf Gp C = (Gp + C - 1) / C) (Qm : Nat) (hi : i < C)
    : (readInterval C Qm Gp i).1 = ((List.range i).map (q.nE C Qm Gp)).sum ∧
      (readInterval C Qm Gp i).2 ≤ q.nE C Qm Gp i ∧ Qm * (Gp / C) ≤ (readInterval C Qm Gp i).2 := by
  have hmod := Nat.mod_lt Gp hC
  cases Nat.lt_or_ge (C - Gp % C) i with
  | inr hle =>
    have hshort : ∀ j < i, q.nE C Qm Gp j = Qm * (Gp / C) := fun j hj => nE_of_le q hC (by omega) Qm
    rw [readInterval_of_le hC hle, sum_map_of_eq hshort]
    refine ⟨rfl, ?_, le_refl _⟩
    cases Nat.lt_or_ge (C - Gp % C - 1) i with
    | inr hle => exact le_of_eq (nE_of_le q hC hle Qm).symm
    | inl hgt =>
      rw [nE_of_gt q hC (Nat.not_le_of_lt hgt), hceil]
      apply Nat.mul_le_mul_left
      apply Nat.div_le_div_right
      omega
  | inl hgt =>
    have hnE2 : ∀ j, C - Gp % C ≤ j → q.nE C Qm Gp j = Qm * (Gp / C) + Qm := by
      intro j hj
      have hup : (Gp + C - 1) / C = Gp / C + 1 := by
        have hdiv := Nat.div_add_mod Gp C
        apply Nat.div_eq_of_lt_le
        . rw [Nat.mul_comm, Nat.mul_add]
          omega
        . rw [Nat.mul_comm, Nat.mul_add, Nat.mul_add]
          omega
      rw [nE_of_gt q hC (by omega), hceil, hup, Nat.mul_add, Nat.mul_one]
    have hread : readInterval C Qm Gp i
        = ((C - Gp % C) * (Qm * (Gp / C)) + (i - (C - Gp % C)) * (Qm * (Gp / C) + Qm), Qm * (Gp / C) + Qm) := by
      unfold readInterval
      dsimp only
      rw [if_pos (show C > 0 from hC), if_pos hgt]
    have hrange : List.range i = List.range (C - Gp % C) ++ (List.range (i - (C - Gp % C))).map (C - Gp % C + ·) := by
      rw [← range_add]
      congr 1
      omega
    have hlong : ∀ j < i - (C - Gp % C), (q.nE C Qm Gp ∘ (C - Gp % C + ·)) j = Qm * (Gp / C) + Qm :=
      fun j _ => hnE2 _ (Nat.le_add_right _ j)
    rw [hread, hnE2 i (Nat.le_of_lt hgt), hrange, map_append, sum_append, map_map,
      sum_map_of_eq (fun j hj => nE_of_le q hC (by omega) Qm), sum_map_of_eq hlong]
    exact ⟨rfl, le_refl _, Nat.le_add_right _ _⟩

theorem agrees_iff (q : Sch) {C Qm Gp : Nat} (hC : 1 ≤ C) (hQm : 1 ≤ Qm)
    : q.Agrees C Qm Gp ↔ Gp % C = 0 := by
  have hmod := Nat.mod_lt Gp hC
  have hdiv := Nat.div_add_mod Gp C
  have htiles : Tiles 0 (Gp * Qm) (q.writeIntervals C Qm Gp) ↔ ((List.range C).map (q.nE C Qm Gp)).sum = Gp * Qm :=
    tiles_iff_sum (q.nE C Qm Gp) C (Gp * Qm)
  unfold Agrees
  rw [htiles]
  constructor
  . rintro ⟨hsum, hread⟩
    cases Nat.eq_zero_or_pos (Gp % C) with
    | inl heven => exact heven
    | inr hgamma =>
      -- The first of the longer code blocks is read as if it were one of the shorter ones
      have hfirst := hread (C - Gp % C) (by omega)
      rw [getElem_writeIntervals q (by omega), readInterval_of_le hC (le_refl _)] at hfirst
      have hlen : q.nE C Qm Gp (C - Gp % C) = Qm * (Gp / C) := congrArg Prod.snd (Option.some.inj hfirst)
      rw [nE_of_gt q hC (by omega)] at hlen
      have hall : ∀ i < C, q.nE C Qm Gp i = Qm * (Gp / C) := by
        intro i _
        cases Nat.lt_or_ge (C - Gp % C - 1) i with
        | inl hgt => rw [nE_of_gt q hC (Nat.not_le_of_lt hgt), hlen]
        | inr hle => exact nE_of_le q hC hle Qm
      rw [sum_map_of_eq hall] at hsum
      have heven : C * (Gp / C) = Gp := by
        apply Nat.eq_of_mul_eq_mul_right hQm
        rw [← hsum]
        ring
      omega
  . intro hgamma
    have hall : ∀ i < C, q.nE C Qm Gp i = Qm * (Gp / C) := by
      intro i hi
      apply nE_of_le q hC
      omega
    constructor
    . rw [sum_map_of_eq hall]
      nth_rewrite 2 [← hdiv]
      rw [hgamma, Nat.add_zero]
      ring
    . intro i hi
      rw [getElem_writeIntervals q hi, hall i hi, readInterval_of_le hC (by omega),
        sum_map_of_eq (fun j hj => hall j (Nat.lt_trans hj hi))]

def taggedCodec : TurboCodec where
  coded cbLenIdx _ cb k := (Bits.ofNat cbLenIdx 8 ++ srslteBitUnpackVector cb)[k]?.getD false
  decision cbLenIdx _ bits _ :=
    if bits.take 8 = Bits.ofNat cbLenIdx 8 then
      srslteBitPackVector ((bits.drop 8).take (tcCbSizes[cbLenIdx]?.getD 0))
    else
      [1]

def taggedSch (maxCb : Nat) : Sch where
  codec := taggedCodec
  crcTb := (Crc.init lteCrc24A 24).get rfl
  crcCb := (Crc.init lteCrc24B 24).get rfl
  crcTb_eq := rfl
  crcCb_eq := rfl
  maxIterations := 1
  ceilf a b := (a + b - 1) / b
  maxCb
  nofParallel := 1
  nofParallel_pos := Nat.one_pos
  stack _ := false

theorem agrees_iff_evenSplit : (taggedSch 13).Agrees 2 1 4 :=
  ((taggedSch 13).agrees_iff (by decide) (by decide)).mpr rfl

theorem not_agrees_threeSymbols : ¬ (taggedSch 13).Agrees 2 1 3 :=
  fun h => absurd (h.2 1 (by decide)) (by decide)

end SrsLte.Sch
