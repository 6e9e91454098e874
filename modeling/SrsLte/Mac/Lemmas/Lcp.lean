import SrsLte.Data.Trace
import SrsLte.Mac.Lemmas.Mux

/-!
This module contains the logical channel prioritisation of `pdu_get`.
-/

namespace SrsLte.Mux

open List

def amount (ch : Lchid) (space limit : Int) : Int :=
  if ch.id = 0 then 0 else min (if limit < 0 then ch.bufferLen else min ch.bufferLen limit) (max space 0)

def take (ch : Lchid) (n : Int) : Lchid :=
  { ch with bufferLen := ch.bufferLen - n, schedLen := ch.schedLen + n }

def limit (ch : Lchid) : Int :=
  if ch.pbr < 0 then -1 else ch.bj

theorem take_zero (ch : Lchid) : take ch 0 = ch := by
  simp [take]

variable {ch : Lchid} {space : Int}

theorem amount_bounds (hbuf : 0 ≤ ch.bufferLen) (space limit : Int)
    : 0 ≤ amount ch space limit ∧ amount ch space limit ≤ ch.bufferLen ∧ amount ch space limit ≤ max space 0
        ∧ (0 ≤ limit → amount ch space limit ≤ limit) := by
  unfold amount
  split
  . omega
  . split <;> omega

theorem schedSdu_eq (hid : ch.id ≠ 0) (space limit : Int)
    : schedSdu ch space limit
        =
      if space > 0 ∧ ch.bufferLen > 0 then
        some (take ch (amount ch space limit), space - amount ch space limit)
      else
        none := by
  have hn : space > 0 → ch.bufferLen > 0 →
      (if (if ch.bufferLen > limit ∧ limit ≥ 0 then limit else ch.bufferLen) > space then space
        else if ch.bufferLen > limit ∧ limit ≥ 0 then limit else ch.bufferLen) = amount ch space limit := by
    intro hspace hpos
    unfold amount
    rw [if_neg hid]
    split <;> split <;> omega
  unfold schedSdu
  dsimp only
  by_cases hspace : space > 0
  . by_cases hpos : ch.bufferLen > 0
    . simp only [hspace, hpos, and_self, ↓reduceIte]
      rw [hn hspace hpos]
      rfl
    . simp [hpos]
  . simp [hspace]

theorem amount_eq_zero (hbuf : 0 ≤ ch.bufferLen) {limit : Int} (h : ¬ (space > 0 ∧ ch.bufferLen > 0))
    : amount ch space limit = 0 := by
  have := amount_bounds hbuf space limit
  omega

theorem schedBj_eq (hbuf : 0 ≤ ch.bufferLen) (hsched : ch.schedLen = 0) (space : Int)
    : schedBj ch space
        =
      (
        {
          take ch (amount ch space (limit ch)) with
          bj := if ch.pbr ≥ 0 then ch.bj - amount ch space (limit ch) else ch.bj
        },
        space - amount ch space (limit ch)
      ) := by
  unfold schedBj
  by_cases hid : ch.id = 0
  . have hzero : amount ch space (limit ch) = 0 := if_pos hid
    rw [if_neg (not_not.mpr hid), hzero, take_zero, sub_zero, sub_zero, ite_self]
  . rw [if_pos hid, schedSdu_eq hid]
    by_cases hgo : space > 0 ∧ ch.bufferLen > 0
    . rw [if_pos hgo]
      dsimp only [limit, take]
      rw [hsched, Int.zero_add]
      split <;> rfl
    . rw [if_neg hgo, amount_eq_zero hbuf hgo, take_zero, sub_zero, sub_zero, ite_self]

theorem schedRest_eq (hbuf : 0 ≤ ch.bufferLen) (space : Int)
    : schedRest ch space = (take ch (amount ch space (-1)), space - amount ch space (-1)) := by
  unfold schedRest
  by_cases hid : ch.id = 0
  . have hzero : amount ch space (-1) = 0 := if_pos hid
    rw [if_neg (not_not.mpr hid), hzero, take_zero, sub_zero]
  . rw [if_pos hid, schedSdu_eq hid]
    by_cases hgo : space > 0 ∧ ch.bufferLen > 0
    . rw [if_pos hgo]
      rfl
    . rw [if_neg hgo, amount_eq_zero hbuf hgo, take_zero, sub_zero]
      rfl

def startSched (bufferState : Nat → Nat) (ch : Lchid) : Lchid :=
  { ch with bufferLen := bufferState ch.id, schedLen := 0 }

def firstPass (lch : List Lchid) (bufferState : Nat → Nat) (space : Int) : List Lchid × Int :=
  schedLoop schedBj (lch.map (startSched bufferState)) space

def secondPass (lch : List Lchid) (bufferState : Nat → Nat) (space : Int) : List Lchid × Int :=
  schedLoop schedRest (firstPass lch bufferState space).1 (firstPass lch bufferState space).2

theorem schedule_eq (lch : List Lchid) (bufferState : Nat → Nat) (space : Int)
    : schedule lch bufferState space = maximize (secondPass lch bufferState space).1 := rfl

def scheduled (lch : List Lchid) : Int :=
  (lch.map Lchid.schedLen).sum

structure Prioritises (lch : List Lchid) (bufferState : Nat → Nat) (space : Int) : Prop where
  total : scheduled (secondPass lch bufferState space).1 ≤ max space 0
  buffer : ∀ ch ∈ (secondPass lch bufferState space).1, ch.schedLen ≤ bufferState ch.id
  pbr : List.Forall₂ (fun ch ch' => 0 ≤ ch.pbr → ch'.schedLen ≤ max ch.bj 0) lch
    (firstPass lch bufferState space).1
  priority : ∀ x ∈ (firstPass lch bufferState space).1.zip (secondPass lch bufferState space).1,
    ∀ y ∈ (firstPass lch bufferState space).1.zip (secondPass lch bufferState space).1,
      x.1.priority < y.1.priority → y.1.schedLen < y.2.schedLen → x.1.id ≠ 0 → x.2.bufferLen = 0

def Counted (bufferState : Nat → Nat) (ch : Lchid) : Prop :=
  0 ≤ ch.bufferLen ∧ ch.bufferLen + ch.schedLen = bufferState ch.id

def Pass (bufferState : Nat → Nat) (ok : Lchid → Prop) (sched : Lchid → Int → Lchid × Int) : Prop :=
  ∀ ch space, ok ch → Counted bufferState (sched ch space).1
    ∧ (sched ch space).1.schedLen = ch.schedLen + (space - (sched ch space).2) ∧ min space 0 ≤ (sched ch space).2

variable {bufferState : Nat → Nat} {ok : Lchid → Prop} {sched : Lchid → Int → Lchid × Int} {lch : List Lchid}

theorem pass_schedBj : Pass bufferState (fun ch => Counted bufferState ch ∧ ch.schedLen = 0) schedBj := by
  intro ch space hok
  have ⟨⟨hbuf, hsum⟩, hsched⟩ := hok
  have hn := amount_bounds hbuf space (limit ch)
  rw [schedBj_eq hbuf hsched]
  refine ⟨⟨?_, ?_⟩, ?_, ?_⟩ <;> dsimp only [take] <;> omega

theorem pass_schedRest : Pass bufferState (Counted bufferState) schedRest := by
  intro ch space hok
  have hn := amount_bounds hok.1 space (-1)
  have hsum := hok.2
  rw [schedRest_eq hok.1]
  refine ⟨⟨?_, ?_⟩, ?_, ?_⟩ <;> dsimp only [take] <;> omega

theorem Pass.schedLoop (h : Pass bufferState ok sched) (hlch : ∀ ch ∈ lch, ok ch) (space : Int)
    : (∀ ch ∈ (schedLoop sched lch space).1, Counted bufferState ch)
        ∧ scheduled (schedLoop sched lch space).1 = scheduled lch + (space - (schedLoop sched lch space).2)
        ∧ min space 0 ≤ (schedLoop sched lch space).2 := by
  induction lch generalizing space with
  | nil => simp [Mux.schedLoop, scheduled]
  | cons ch lch ih =>
    obtain ⟨hcounted, hsched, hspace⟩ := h ch space (hlch ch mem_cons_self)
    obtain ⟨hrest, hsum, hspace'⟩ := ih (fun ch hch => hlch ch (mem_cons_of_mem _ hch)) (sched ch space).2
    unfold Mux.schedLoop
    dsimp only
    refine ⟨?_, ?_, by omega⟩
    . intro ch' hch'
      cases mem_cons.mp hch' with
      | inl heq =>
        rw [heq]
        exact hcounted
      | inr hmem => exact hrest ch' hmem
    . unfold scheduled at *
      rw [map_cons, sum_cons, map_cons, sum_cons]
      omega

theorem counted_startSched (ch : Lchid)
    : Counted bufferState (startSched bufferState ch) ∧ (startSched bufferState ch).schedLen = 0 := by
  simp [Counted, startSched]

theorem firstPass_spec (lch : List Lchid) (bufferState : Nat → Nat) (space : Int)
    : (∀ ch ∈ (firstPass lch bufferState space).1, Counted bufferState ch)
        ∧ scheduled (firstPass lch bufferState space).1 = space - (firstPass lch bufferState space).2
        ∧ min space 0 ≤ (firstPass lch bufferState space).2 := by
  have hzero : scheduled (lch.map (startSched bufferState)) = 0 := by
    unfold scheduled
    rw [map_map]
    exact sum_eq_zero (by simp [startSched])
  have hpass := @Pass.schedLoop bufferState _ _ (lch.map (startSched bufferState)) pass_schedBj
    (by simp [counted_startSched]) space
  rw [hzero, zero_add] at hpass
  exact hpass

theorem schedRest_of_full (hch : Counted bufferState ch) (hspace : space ≤ 0)
    : schedRest ch space = (ch, space) := by
  rw [schedRest_eq hch.1, amount_eq_zero hch.1 (by omega), take_zero, sub_zero]

theorem schedLoop_schedRest_of_full (hlch : ∀ ch ∈ lch, Counted bufferState ch) (hspace : space ≤ 0)
    : schedLoop schedRest lch space = (lch, space) := by
  induction lch with
  | nil => rfl
  | cons ch lch ih =>
    unfold schedLoop
    rw [schedRest_of_full (hlch ch mem_cons_self) hspace]
    dsimp only
    rw [ih (fun ch hch => hlch ch (mem_cons_of_mem _ hch))]

theorem pairwise_schedRest (hlch : ∀ ch ∈ lch, Counted bufferState ch) (space : Int)
    : (lch.zip (schedLoop schedRest lch space).1).Pairwise
        fun x y => y.1.schedLen < y.2.schedLen → x.1.id ≠ 0 → x.2.bufferLen = 0 := by
  induction lch generalizing space with
  | nil => exact List.Pairwise.nil
  | cons ch lch ih =>
    have hch := hlch ch mem_cons_self
    have hrest : ∀ ch ∈ lch, Counted bufferState ch := fun ch hch => hlch ch (mem_cons_of_mem _ hch)
    unfold schedLoop
    dsimp only
    rw [zip_cons_cons, pairwise_cons]
    refine ⟨?_, ih hrest _⟩
    intro y hy hgot hid
    have hbuf := hch.1
    rw [schedRest_eq hbuf] at hy ⊢
    by_contra hkept
    have hfull : space - amount ch space (-1) ≤ 0 := by
      have := amount_bounds hbuf space (-1)
      unfold take amount at *
      rw [if_neg hid] at *
      simp only [Int.reduceNeg, Int.reduceLT, ↓reduceIte] at *
      omega
    rw [schedLoop_schedRest_of_full hrest hfull] at hy
    have heq : y.1 = y.2 := by
      rw [zip_eq_zipWith, zipWith_self, mem_map] at hy
      obtain ⟨_, _, hpair⟩ := hy
      rw [← hpair]
    rw [heq] at hgot
    omega

def wants (bufferState : Nat → Nat) (ch : Lchid) : Int :=
  if ch.id = 0 then 0 else if limit ch < 0 then bufferState ch.id else min (bufferState ch.id : Int) (limit ch)

def Starved (bufferState : Nat → Nat) (lch : List Lchid) (space : Int) : Prop :=
  match lch with
  | [] => True
  | ch :: lch =>
    (ch.id ≠ 0 → 0 ≤ ch.pbr → ch.bj < 0 → 0 < bufferState ch.id → space ≤ 0)
      ∧ Starved bufferState lch (space - wants bufferState ch)

theorem wants_nonneg (bufferState : Nat → Nat) (ch : Lchid) : 0 ≤ wants bufferState ch := by
  unfold wants
  split
  . exact Int.le_refl 0
  . split <;> omega

theorem starved_of_full (h : space ≤ 0) : Starved bufferState lch space := by
  induction lch generalizing space with
  | nil => trivial
  | cons ch lch ih =>
    have := wants_nonneg bufferState ch
    exact ⟨fun _ _ _ _ => h, ih (by omega)⟩

theorem amount_startSched (bufferState : Nat → Nat) (ch : Lchid) (space : Int)
    : amount (startSched bufferState ch) space (limit ch) = min (wants bufferState ch) (max space 0) := by
  unfold amount wants startSched
  dsimp only
  split
  . omega
  . rfl

theorem forall₂_firstPass_iff (lch : List Lchid) (bufferState : Nat → Nat) (space : Int)
    : List.Forall₂ (fun ch ch' => 0 ≤ ch.pbr → ch'.schedLen ≤ max ch.bj 0) lch (firstPass lch bufferState space).1
        ↔
      Starved bufferState lch space := by
  induction lch generalizing space with
  | nil => simp [firstPass, schedLoop, Starved]
  | cons ch lch ih =>
    have hstart := @counted_startSched bufferState ch
    have hamount := amount_startSched bufferState ch space
    unfold firstPass at *
    rw [map_cons, schedLoop]
    dsimp only
    rw [schedBj_eq hstart.1.1 hstart.2, forall₂_cons, ih, Starved]
    change _ ∧ Starved bufferState lch (space - amount (startSched bufferState ch) space (limit ch)) ↔ _
    change (0 ≤ ch.pbr → 0 + amount (startSched bufferState ch) space (limit ch) ≤ max ch.bj 0) ∧ _ ↔ _
    rw [hamount]
    apply and_congr
    . unfold wants limit
      by_cases hid : ch.id = 0
      . simp [hid]
      . by_cases hpbr : 0 ≤ ch.pbr
        . simp only [hid, hpbr, ne_eq, not_false_eq_true, forall_const, ↓reduceIte, not_lt.mpr hpbr]
          split <;> omega
        . simp [hpbr]
    . by_cases hfull : space ≤ wants bufferState ch
      . constructor
        . exact fun _ => starved_of_full (by omega)
        . exact fun _ => starved_of_full (by omega)
      . rw [min_eq_left (by omega)]

theorem priority_schedBj (ch : Lchid) (space : Int) : (schedBj ch space).1.priority = ch.priority := by
  have ⟨_, _, _, heq⟩ := schedBj_frame ch space
  rw [heq]

theorem rel_of_sorted {R : Lchid × Lchid → Lchid × Lchid → Prop} {l : List (Lchid × Lchid)}
    (hsorted : l.Pairwise fun x y => x.1.priority ≤ y.1.priority) (h : l.Pairwise R) {x y : Lchid × Lchid}
    (hx : x ∈ l) (hy : y ∈ l) (hlt : x.1.priority < y.1.priority) : R x y := by
  induction l with
  | nil => cases hx
  | cons z l ih =>
    have ⟨hz, hsorted⟩ := pairwise_cons.mp hsorted
    have ⟨hR, h⟩ := pairwise_cons.mp h
    cases mem_cons.mp hx with
    | inl hxz =>
      cases mem_cons.mp hy with
      | inl hyz =>
        rw [hxz, hyz] at hlt
        exact absurd hlt (Nat.lt_irrefl _)
      | inr hy =>
        rw [hxz]
        exact hR y hy
    | inr hx =>
      cases mem_cons.mp hy with
      | inl hyz =>
        rw [hyz] at hlt
        exact absurd (hz x hx) (Nat.not_le.mpr hlt)
      | inr hy => exact ih hsorted h hx hy

theorem prioritises_iff {lch : List Lchid} (hsorted : lch.Pairwise fun ch ch' => ch.priority ≤ ch'.priority)
    (bufferState : Nat → Nat) (space : Int)
    : Prioritises lch bufferState space ↔ Starved bufferState lch space := by
  have ⟨hfirst, hsum, hspace⟩ := firstPass_spec lch bufferState space
  have ⟨hsecond, hsum', hspace'⟩ := pass_schedRest.schedLoop hfirst (firstPass lch bufferState space).2
  have hpairs := pairwise_schedRest hfirst (firstPass lch bufferState space).2
  rw [← forall₂_firstPass_iff]
  constructor
  . exact fun h => h.pbr
  . intro hpbr
    refine { total := ?_, buffer := ?_, pbr := hpbr, priority := ?_ }
    . unfold secondPass
      omega
    . intro ch hch
      have ⟨hbuf, hcount⟩ := hsecond ch hch
      omega
    . intro x hx y hy hlt
      apply rel_of_sorted _ hpairs hx hy hlt
      have hlen : (firstPass lch bufferState space).1.length ≤ (secondPass lch bufferState space).1.length := by
        have := congrArg List.length (map_schedLoop id_schedRest (firstPass lch bufferState space).1
          (firstPass lch bufferState space).2)
        rw [length_map, length_map] at this
        exact Nat.le_of_eq this.symm
      have hmap := map_schedLoop priority_schedBj (lch.map (startSched bufferState)) space
      have hsorted' : (firstPass lch bufferState space).1.Pairwise fun ch ch' => ch.priority ≤ ch'.priority := by
        apply pairwise_map.mp
        unfold firstPass
        rw [hmap, map_map, pairwise_map]
        exact hsorted
      rw [← map_fst_zip hlen, pairwise_map] at hsorted'
      exact hsorted'

theorem prioritises_twoChannels
    : let lch : List Lchid := [{ id := 3, priority := 1, pbr := 8, bsd := 100, bj := 8 },
        { id := 4, priority := 2, pbr := -1, bsd := 100 }]
      Starved (fun _ => 50) lch 60 ∧ Prioritises lch (fun _ => 50) 60 := by
  have hstarved : Starved (fun _ => 50) [{ id := 3, priority := 1, pbr := 8, bsd := 100, bj := 8 },
      { id := 4, priority := 2, pbr := -1, bsd := 100 }] 60 := by
    simp [Starved]
  exact ⟨hstarved, (prioritises_iff (by simp) _ _).mpr hstarved⟩

theorem not_prioritises_negativeBj
    : ¬ Prioritises [{ id := 3, priority := 1, pbr := 8, bsd := 100, bj := -92 }] (fun _ => 50) 60 := by
  intro h
  have hpbr := (forall₂_firstPass_iff _ _ _).mp h.pbr
  simp [Starved] at hpbr

theorem forall₂_bj_firstPass (lch : List Lchid) (bufferState : Nat → Nat) (space : Int)
    : List.Forall₂ (fun ch ch' => 0 ≤ ch.pbr → ch'.bj = ch.bj - ch'.schedLen) lch
        (firstPass lch bufferState space).1 := by
  induction lch generalizing space with
  | nil => exact List.Forall₂.nil
  | cons ch lch ih =>
    have hstart := @counted_startSched bufferState ch
    unfold firstPass at *
    rw [map_cons, schedLoop]
    dsimp only
    apply List.Forall₂.cons
    . intro hpbr
      rw [schedBj_eq hstart.1.1 hstart.2]
      apply (if_pos hpbr).trans
      dsimp only [take, startSched]
      rw [Int.zero_add]
    . apply ih

theorem bj_schedRest (ch : Lchid) (space : Int) : (schedRest ch space).1.bj = ch.bj := by
  have ⟨_, _, heq⟩ := schedRest_frame ch space
  rw [heq]

theorem map_bj_schedule (lch : List Lchid) (bufferState : Nat → Nat) (space : Int)
    : (schedule lch bufferState space).map Lchid.bj = (firstPass lch bufferState space).1.map Lchid.bj := by
  rw [schedule_eq, map_maximize fun _ _ => rfl]
  exact map_schedLoop bj_schedRest _ _

section

variable {σ : Type} (itf : RlcInterfaceMac σ)

def servedFirst (m : Mux) (rlc : σ) (pduSz : Nat) : List Int :=
  let f := insertFirst itf (start rlc pduSz) m.pendingCrntiCe
  let a := withPhr itf m f
  if ¬ f.2 then
    (firstPass (m.lch.map updateBj) (itf.getBufferState a.rlc) a.pdu.getSduSpace).1.map Lchid.schedLen
  else
    m.lch.map fun _ => 0

theorem forall₂_pduGet (m : Mux) (rlc : σ) (pduSz txTti pid : Nat)
    : List.Forall₂ (fun ch p => 0 ≤ ch.pbr → p.2 = (updateBj ch).bj - p.1) m.lch
        ((servedFirst itf m rlc pduSz).zip ((pduGet itf m rlc pduSz txTti pid).mux.lch.map Lchid.bj)) := by
  let f := insertFirst itf (start rlc pduSz) m.pendingCrntiCe
  change List.Forall₂ _ _ (List.zip _ ((insertSdus itf (withPhr itf m f) (m.lch.map updateBj) f.2).2.map Lchid.bj))
  unfold servedFirst insertSdus
  by_cases hrar : ¬ f.2
  . rw [if_pos hrar, if_pos hrar, map_bj_schedule, zip_map', forall₂_map_right_iff]
    exact forall₂_map_left_iff.mp (forall₂_bj_firstPass (m.lch.map updateBj) _ _)
  . rw [if_neg hrar, if_neg hrar, map_map, zip_map', forall₂_map_right_iff, forall₂_same]
    intro ch _ _
    simp

def accumulated (ch : Lchid) : Int :=
  min (ch.bj + ch.pbr) (ch.pbr * ch.bsd)

structure KeepsBuckets (m : Mux) (rlc : σ) (pduSz txTti pid : Nat) : Prop where
  bounds : ∀ ch ∈ m.lch, 0 ≤ ch.pbr → 0 ≤ (updateBj ch).bj ∧ (updateBj ch).bj ≤ ch.pbr * ch.bsd
  spends : List.Forall₂ (fun ch p => 0 ≤ ch.pbr → p.2 = accumulated ch - p.1) m.lch
    ((servedFirst itf m rlc pduSz).zip ((pduGet itf m rlc pduSz txTti pid).mux.lch.map Lchid.bj))

def Capped (ch : Lchid) : Prop :=
  (ch.bj + ch.pbr < toInt32 ch.bsd ∧ 0 ≤ ch.bj + ch.pbr ∧ ch.bj + ch.pbr ≤ ch.pbr * ch.bsd)
    ∨ (toInt32 ch.bsd ≤ ch.bj + ch.pbr ∧ ch.pbr * ch.bsd < 2 ^ 31 ∧ ch.pbr * ch.bsd ≤ ch.bj + ch.pbr)
    -- The product does not fit into an `int`
    ∨ (toInt32 ch.bsd ≤ ch.bj + ch.pbr ∧ 2 ^ 31 ≤ ch.pbr * ch.bsd ∧ 0 ≤ ch.bj + ch.pbr
      ∧ ch.bj + ch.pbr = toInt32 (ch.pbr * ch.bsd))

theorem capped_iff (hpbr : 0 ≤ ch.pbr)
    : Capped ch
        ↔
      (0 ≤ (updateBj ch).bj ∧ (updateBj ch).bj ≤ ch.pbr * ch.bsd)
        ∧ (updateBj ch).bj = accumulated ch := by
  have hmul : 0 ≤ ch.pbr * ch.bsd := Int.mul_nonneg hpbr (Int.natCast_nonneg _)
  unfold Capped updateBj accumulated
  dsimp only
  rw [if_pos hpbr, Int.mul_comm (ch.bsd : Int)]
  generalize ch.pbr * ch.bsd = cap at *
  have hlt := toInt32_lt cap
  split
  next hbj =>
    by_cases hcap : cap < 2 ^ 31
    . rw [toInt32_of_lt (x := cap) (by omega) (by omega)]
      omega
    . omega
  . omega

theorem forall₂_iff_of_forall₂ {α β : Type} {K R : α → β → Prop} {Q : α → Prop} {l : List α} {l' : List β}
    (h : List.Forall₂ K l l') (hiff : ∀ a b, K a b → (R a b ↔ Q a))
    : List.Forall₂ R l l' ↔ ∀ a ∈ l, Q a := by
  induction h with
  | nil => simp
  | cons hab _ ih => simp [hiff _ _ hab, ih]

theorem keepsBuckets_iff (m : Mux) (rlc : σ) (pduSz txTti pid : Nat)
    : KeepsBuckets itf m rlc pduSz txTti pid ↔ ∀ ch ∈ m.lch, 0 ≤ ch.pbr → Capped ch := by
  have hspends := forall₂_iff_of_forall₂
    (R := fun ch p => 0 ≤ ch.pbr → p.2 = accumulated ch - p.1)
    (Q := fun ch => 0 ≤ ch.pbr → (updateBj ch).bj = accumulated ch)
    (forall₂_pduGet itf m rlc pduSz txTti pid) (by
      intro ch p hp
      constructor
      . intro h hpbr
        have := h hpbr
        have := hp hpbr
        omega
      . intro h hpbr
        rw [hp hpbr, h hpbr])
  constructor
  . intro h ch hch hpbr
    exact (capped_iff hpbr).mpr ⟨h.bounds ch hch hpbr, hspends.mp h.spends ch hch hpbr⟩
  . intro h
    exact {
      bounds := fun ch hch hpbr => ((capped_iff hpbr).mp (h ch hch hpbr)).1
      spends := hspends.mpr fun ch hch hpbr => ((capped_iff hpbr).mp (h ch hch hpbr)).2
    }

inductive LcpEvent (σ : Type)
  | pduGet (rlc : σ) (pduSz txTti pid : Nat)
  | setPriority (lchId newPriority : Nat) (setPbr : Int) (setBsd : Nat)

def lcpStep (m : Mux) (e : LcpEvent σ) : Mux :=
  match e with
  | .pduGet rlc pduSz txTti pid => (pduGet itf m rlc pduSz txTti pid).mux
  | .setPriority lchId newPriority setPbr setBsd => setPriority m lchId newPriority setPbr setBsd

def BucketsKept (m : Mux) (e : LcpEvent σ) : Prop :=
  match e with
  | .pduGet rlc pduSz txTti pid => KeepsBuckets itf m rlc pduSz txTti pid
  | .setPriority .. => True

def BucketsCapped (m : Mux) (e : LcpEvent σ) : Prop :=
  match e with
  | .pduGet .. => ∀ ch ∈ m.lch, 0 ≤ ch.pbr → Capped ch
  | .setPriority .. => True

theorem bucketsKept_iff (m : Mux) (e : LcpEvent σ) : BucketsKept itf m e ↔ BucketsCapped m e := by
  cases e with
  | pduGet rlc pduSz txTti pid => exact keepsBuckets_iff itf m rlc pduSz txTti pid
  | setPriority => rfl

theorem along_bucketsKept_iff (m : Mux) (es : List (LcpEvent σ))
    : Trace.Along (lcpStep itf) (BucketsKept itf) m es ↔ Trace.Along (lcpStep itf) BucketsCapped m es := by
  constructor
  . exact Trace.Along.mono fun m e => (bucketsKept_iff itf m e).mp
  . exact Trace.Along.mono fun m e => (bucketsKept_iff itf m e).mpr

end

theorem not_along_bucketsKept
    : ¬ Trace.Along (lcpStep byteQueues) (BucketsKept byteQueues) (twoChannels .none 0)
        [.setPriority 3 1 64 50, .pduGet (fun _ => []) 20 0 0] := by
  intro h
  have hcapped := (bucketsKept_iff _ _ _).mp h.2.1
  have := hcapped { id := 3, pbr := 64, bsd := 50, priority := 1 }
    (mem_mergeSort.mpr (by simp [setChannel, twoChannels])) (by decide)
  simp [Capped, toInt32] at this

end SrsLte.Mux
