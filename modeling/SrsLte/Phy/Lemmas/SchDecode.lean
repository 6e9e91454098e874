import SrsLte.Data.Lists
import SrsLte.Phy.Lemmas.Cbsegm
import SrsLte.Phy.Lemmas.Crc
import SrsLte.Phy.Lemmas.Sch

/-!
This module contains the theory of the decoder of transport blocks.
-/

namespace SrsLte.Sch

open List

section Loop

variable {q : Sch} {s : Cbsegm} {Qm rv Gp : Nat} {eBits : List Bool} {g : Group} {piece : Nat → List UInt8}

def slotOf (eBits : List Bool) (C Qm Gp cbIdx : Nat) : Slot :=
  { cbIdx, input := (eBits.drop (readInterval C Qm Gp cbIdx).1).take (readInterval C Qm Gp cbIdx).2 }

structure Working (g : Group) (piece : Nat → List UInt8) (pending : List Nat) (st : Decoding) : Prop where
  cbMap : ∀ i < g.nofCb, st.cbMap i = (st.cbCrc i || decide (i ∈ pending))
  nodup : pending.Nodup
  pending : ∀ i ∈ pending, i < g.nofCb ∧ st.cbCrc i = false
  data : ∀ i, st.cbCrc i = true → st.data i = piece i
  remaining : st.remainingCb = ((List.range g.nofCb).filter fun i => ¬ st.cbCrc i).length

def decoded (piece : Nat → List UInt8) (st : Decoding) (cbIdx : Nat) : Decoding :=
  {
    st with
    data := Function.update st.data cbIdx (piece cbIdx),
    cbCrc := Function.update st.cbCrc cbIdx true,
    remainingCb := st.remainingCb - 1
  }

variable {st : Decoding} {pending : List Nat} {L : Nat} {cbMap : Nat → Bool}

theorem Working.decoded {cbIdx : Nat} (h : Working g piece (cbIdx :: pending) st)
    : Working g piece pending (decoded piece st cbIdx) := by
  have ⟨hlt, hcrc⟩ := h.pending cbIdx mem_cons_self
  have hnodup := nodup_cons.mp h.nodup
  constructor
  . intro i hi
    change st.cbMap i = (Function.update st.cbCrc cbIdx true i || _)
    rw [h.cbMap i hi]
    cases Decidable.em (i = cbIdx) with
    | inl heq => simp [heq]
    | inr hne => simp [hne]
  . exact hnodup.2
  . intro i hi
    have hne : i ≠ cbIdx := fun heq => hnodup.1 (heq ▸ hi)
    have hold := h.pending i (mem_cons_of_mem cbIdx hi)
    exact ⟨hold.1, by rw [← hold.2]; exact Function.update_of_ne hne _ _⟩
  . intro i hi
    change Function.update st.data cbIdx (piece cbIdx) i = piece i
    cases Decidable.em (i = cbIdx) with
    | inl heq =>
      rw [heq]
      exact Function.update_self _ _ _
    | inr hne =>
      have hcrc : Function.update st.cbCrc cbIdx true i = true := hi
      rw [Function.update_of_ne hne] at hcrc ⊢
      exact h.data i hcrc
  . change st.remainingCb - 1 = ((List.range g.nofCb).filter fun i => ¬ Function.update st.cbCrc cbIdx true i).length
    have hcount := Lists.length_filter_update nodup_range (mem_range.mpr hlt) hcrc
    rw [h.remaining]
    omega

def InUse (eBits : List Bool) (C Qm Gp : Nat) (slots : List (Option Slot)) (pending : List Nat) : Prop :=
  slots.filterMap id = pending.map (slotOf eBits C Qm Gp)

theorem Working.decideSlots {slots : List (Option Slot)}
    (hslots : InUse eBits s.C Qm Gp slots pending) (h : Working g piece pending st)
    (hdecide : ∀ cbIdx < g.nofCb, ∀ st,
      decideSlot q s rv g (slotOf eBits s.C Qm Gp cbIdx) st = (none, Sch.decoded piece st cbIdx))
    : Working g piece [] (decideSlots q s rv g slots st).2 ∧
      (decideSlots q s rv g slots st).1 = List.replicate slots.length none ∧
      (decideSlots q s rv g slots st).2.remainingCb = st.remainingCb - pending.length := by
  induction slots generalizing pending st with
  | nil =>
    cases pending with
    | nil => exact ⟨h, rfl, rfl⟩
    | cons => cases hslots
  | cons slot slots ih =>
    cases slot with
    | none =>
      have ⟨hworking, hnone, hremaining⟩ := ih hslots h
      exact ⟨hworking, congrArg (none :: ·) hnone, hremaining⟩
    | some slot =>
      cases pending with
      | nil => cases hslots
      | cons cbIdx pending =>
        have ⟨hslot, hrest⟩ := List.cons.inj hslots
        have hslot : slot = slotOf eBits s.C Qm Gp cbIdx := hslot
        subst hslot
        have ⟨hworking, hnone, hremaining⟩ := ih hrest h.decoded
        unfold Sch.decideSlots
        rw [hdecide cbIdx (h.pending cbIdx mem_cons_self).1 st]
        refine ⟨hworking, congrArg (none :: ·) hnone, ?_⟩
        rw [hremaining, length_cons]
        change st.remainingCb - 1 - _ = _
        omega

theorem findCb_lt (hfirst : g.firstCb = 0) (hpos : 0 < g.nofCb) : findCb cbMap g < g.nofCb := by
  unfold findCb
  rw [hfirst, Nat.zero_add]
  cases hfind : (List.range g.nofCb).find? fun j => ¬ cbMap (0 + j) with
  | none => exact Nat.sub_one_lt_of_lt hpos
  | some j => exact mem_range.mp (mem_of_find?_eq_some hfind)

theorem cbMap_findCb (hfirst : g.firstCb = 0) {i : Nat} (hi : i < g.nofCb) (hmap : cbMap i = false)
    : cbMap (findCb cbMap g) = false := by
  unfold findCb
  rw [hfirst, Nat.zero_add]
  cases hfind : (List.range g.nofCb).find? fun j => ¬ cbMap (0 + j) with
  | none =>
    have hall := find?_eq_none.mp hfind i (mem_range.mpr hi)
    rw [Nat.zero_add, hmap] at hall
    cases hall rfl
  | some j =>
    have hj := find?_some hfind
    rw [Nat.zero_add] at hj
    simpa using hj

theorem Working.start {cbIdx : Nat} (h : Working g piece pending st)
    (hlt : cbIdx < g.nofCb) (hmap : st.cbMap cbIdx = false)
    : Working g piece (pending ++ [cbIdx]) { st with cbMap := Function.update st.cbMap cbIdx true } := by
  have hfree := h.cbMap cbIdx hlt
  rw [hmap, Bool.false_eq, Bool.or_eq_false_iff, decide_eq_false_iff_not] at hfree
  constructor
  . intro i hi
    cases Decidable.em (i = cbIdx) with
    | inl heq => simp [heq]
    | inr hne => simp [hne, h.cbMap i hi]
  . rw [nodup_append]
    refine ⟨h.nodup, nodup_singleton cbIdx, ?_⟩
    intro a ha b hb heq
    rw [mem_singleton.mp hb] at heq
    exact hfree.2 (heq ▸ ha)
  . exact forall_mem_append.mpr ⟨h.pending, forall_mem_singleton.mpr ⟨hlt, hfree.1⟩⟩
  . exact h.data
  . exact h.remaining

theorem Working.fillSlots {C : Nat} (hfirst : g.firstCb = 0) (n : Nat) (h : Working g piece pending st)
    : ∃ started,
        InUse eBits C Qm Gp (fillSlots eBits C Qm Gp g (List.replicate n none) st).1 started ∧
        (fillSlots eBits C Qm Gp g (List.replicate n none) st).1.length = n ∧
        Working g piece (pending ++ started) (fillSlots eBits C Qm Gp g (List.replicate n none) st).2 ∧
        (fillSlots eBits C Qm Gp g (List.replicate n none) st).2.remainingCb = st.remainingCb ∧
        (0 < n → pending = [] → st.remainingCb > 0 → started ≠ []) := by
  induction n generalizing pending st with
  | zero =>
    refine ⟨[], rfl, rfl, ?_, rfl, fun hn => absurd hn (Nat.lt_irrefl 0)⟩
    rw [append_nil]
    exact h
  | succ n ih =>
    rw [replicate_succ]
    unfold Sch.fillSlots
    dsimp only
    split
    next hfree =>
      have ⟨hremaining, hmap⟩ := hfree
      have hpos : 0 < g.nofCb := by
        have hle := length_filter_le (fun i => decide (¬ st.cbCrc i = true)) (List.range g.nofCb)
        rw [length_range, ← h.remaining] at hle
        omega
      have ⟨started, hinUse, hlen, hworking, hremaining', _⟩ := ih (h.start (findCb_lt hfirst hpos) hmap)
      refine ⟨findCb st.cbMap g :: started, ?_, ?_, ?_, hremaining', fun _ _ _ => cons_ne_nil _ _⟩
      . exact congrArg (slotOf eBits C Qm Gp (findCb st.cbMap g) :: ·) hinUse
      . exact congrArg (· + 1) hlen
      . rw [append_assoc] at hworking
        exact hworking
    next hbusy =>
      have ⟨started, hinUse, hlen, hworking, hremaining', _⟩ := ih h
      refine ⟨started, hinUse, congrArg (· + 1) hlen, hworking, hremaining', ?_⟩
      intro _ hpending hremaining
      exfalso
      apply hbusy
      refine ⟨hremaining, ?_⟩
      have hnonempty : ((List.range g.nofCb).filter fun i => ¬ st.cbCrc i) ≠ [] := by
        apply ne_nil_of_length_pos
        rw [← h.remaining]
        exact hremaining
      have ⟨i, hi⟩ := exists_mem_of_ne_nil _ hnonempty
      have ⟨hlt, hcrc⟩ := mem_filter.mp hi
      apply cbMap_findCb hfirst (mem_range.mp hlt)
      rw [h.cbMap i (mem_range.mp hlt), hpending]
      simpa using hcrc

theorem Working.decodeLoop (hfirst : g.firstCb = 0) {npar : Nat} (hnpar : 0 < npar)
    (hdecide : ∀ cbIdx < g.nofCb, ∀ st,
      decideSlot q s rv g (slotOf eBits s.C Qm Gp cbIdx) st = (none, Sch.decoded piece st cbIdx))
    (fuel : Nat) (h : Working g piece [] st) (hfuel : st.remainingCb ≤ fuel)
    : ∀ i < g.nofCb,
        (decodeLoop q s Qm rv Gp eBits g fuel (List.replicate npar none) st).cbCrc i = true ∧
        (decodeLoop q s Qm rv Gp eBits g fuel (List.replicate npar none) st).data i = piece i := by
  have hdone : ∀ st : Decoding, Working g piece [] st → st.remainingCb = 0 →
      ∀ i < g.nofCb, st.cbCrc i = true ∧ st.data i = piece i := by
    intro st h hzero i hi
    have hcrc : st.cbCrc i = true := by
      have hnil := length_eq_zero_iff.mp (h.remaining.symm.trans hzero)
      have hset := filter_eq_nil_iff.mp hnil i (mem_range.mpr hi)
      simpa using hset
    exact ⟨hcrc, h.data i hcrc⟩
  induction fuel generalizing st with
  | zero => exact hdone st h (Nat.le_zero.mp hfuel)
  | succ fuel ih =>
    unfold Sch.decodeLoop
    split
    next hpos =>
      obtain ⟨started, hinUse, hlen, hworking, hremaining, hsome⟩ := h.fillSlots hfirst npar
      have hstarted := length_pos_iff.mpr (hsome hnpar rfl hpos)
      obtain ⟨hworking', hnone, hremaining'⟩ := hworking.decideSlots hinUse hdecide
      dsimp only
      rw [hnone, hlen]
      apply ih hworking'
      omega
    next hzero => exact hdone st h (Nat.eq_zero_of_not_pos hzero)

theorem length_flatMap_of_eq {f : Nat → List UInt8} {n : Nat} (h : ∀ i < n, (f i).length = L)
    : ((List.range n).flatMap f).length = n * L := by
  rw [length_flatMap]
  exact sum_map_of_eq h

theorem copyTo_apply (data : Nat → UInt8) (pos : Nat) (bytes : List UInt8) (k : Nat)
    : copyTo data pos bytes k = if pos ≤ k ∧ k < pos + bytes.length then bytes[k - pos]?.getD 0 else data k := rfl

theorem foldl_copyTo {n : Nat} (hpiece : ∀ i < n, (piece i).length = L) (data : Nat → UInt8) (k : Nat)
    : (List.range n).foldl (fun data i => copyTo data (i * L) (piece i)) data k
        =
      if k < n * L then ((List.range n).flatMap piece)[k]?.getD 0 else data k := by
  induction n generalizing k with
  | zero =>
    rw [Nat.zero_mul, if_neg (Nat.not_lt_zero k)]
    rfl
  | succ n ih =>
    have hprev : ∀ i < n, (piece i).length = L := fun i hi => hpiece i (Nat.lt_succ_of_lt hi)
    have hlen := length_flatMap_of_eq hprev
    have hmul : (n + 1) * L = n * L + L := Nat.succ_mul n L
    rw [range_succ, foldl_append, flatMap_append, foldl_cons, foldl_nil, flatMap_singleton]
    rw [copyTo_apply, hpiece n (Nat.lt_succ_self n)]
    split
    next hin =>
      rw [if_pos (by omega), getElem?_append_right (by omega), hlen]
    next hout =>
      rw [ih hprev]
      split
      next hlt => rw [if_pos (by omega), getElem?_append_left (by omega)]
      next hge => rw [if_neg (by omega)]

theorem decodeTbCb_spec {nofEBits : Nat} (hgroup : group s 0 = g) (hfirst : g.firstCb = 0)
    (hmax : g.nofCb ≤ maxCodeblocks) (hnpar : 0 < q.nofParallel)
    (hlen : (if s.C = 1 then g.cbLen else g.cbLen - 24) = 8 * L) (hpiece : ∀ i < g.nofCb, (piece i).length = L)
    (hdecide : ∀ cbIdx < g.nofCb, ∀ st,
      decideSlot q s rv g (slotOf eBits s.C Qm (nofEBits / Qm) cbIdx) st = (none, Sch.decoded piece st cbIdx))
    (data : Nat → UInt8)
    : (q.decodeTbCb s Qm rv nofEBits eBits 0 (fun _ => false, fun _ => []) data).1 = true ∧
      ∀ k, (q.decodeTbCb s Qm rv nofEBits eBits 0 (fun _ => false, fun _ => []) data).2.2 k
        = if k < g.nofCb * L then ((List.range g.nofCb).flatMap piece)[k]?.getD 0 else data k := by
  unfold decodeTbCb
  dsimp only
  rw [hgroup, if_neg (Nat.not_lt_of_le hmax), hlen]
  dsimp only
  have hworking : Working g piece [] {
      cbMap := fun i => if i < g.nofCb then false else q.stack i,
      cbCrc := fun _ => false,
      data := fun _ => [],
      remainingCb := ((List.range g.nofCb).filter fun i => ¬ false = true).length
    } := by
    constructor
    . intro i hi
      simp [hi]
    . exact nodup_nil
    . intro i hi
      cases hi
    . intro i hi
      cases hi
    . rfl
  have hfuel : ((List.range g.nofCb).filter fun i => ¬ false = true).length ≤ g.nofCb * (q.maxIterations + 1) := by
    have hle := length_filter_le (fun i => decide (¬ false = true)) (List.range g.nofCb)
    rw [length_range] at hle
    exact Nat.le_trans hle (Nat.le_mul_of_pos_right _ (Nat.succ_pos _))
  have hloop := hworking.decodeLoop hfirst hnpar hdecide _ hfuel
  generalize decodeLoop q s Qm rv (nofEBits / Qm) eBits g _ _ _ = st at hloop
  have hall : (List.range g.nofCb).all st.cbCrc = true := by
    rw [all_eq_true]
    intro i hi
    exact (hloop i (mem_range.mp hi)).1
  refine ⟨hall, ?_⟩
  intro k
  rw [hall, if_pos rfl, Nat.mul_div_cancel_left L (by decide), ← foldl_copyTo hpiece data k]
  apply congrFun
  apply foldl_ext
  intro data i hi
  have hi := mem_range.mp hi
  rw [(hloop i hi).2, ← hpiece i hi, take_length, hpiece i hi, Nat.mul_left_comm,
    Nat.mul_div_cancel_left _ (by decide)]

end Loop

structure OneSize (s : Cbsegm) (N L : Nat) : Prop where
  c_pos : 1 ≤ s.C
  c1_eq : s.C1 = s.C
  c2_eq : s.C2 = 0
  f_eq : s.F = 0
  tbs_eq : s.tbs = 8 * N
  n_pos : 1 ≤ N
  k1_get : tcCbSizes[s.K1Idx]? = some s.K1
  k1_eq : s.K1 = 8 * (if s.C > 1 then L + 3 else L)
  total : N + 3 = s.C * L
  three_le : 3 ≤ L

theorem oneSize_of_segments {tbs N : Nat} {s : Cbsegm} (h : Cbsegm.Segments tbs s) (htbs : tbs = 8 * N) (hN : 1 ≤ N)
    (hF : s.F = 0) (hC2 : s.C2 = 0)
    : ∃ L, OneSize s N L := by
  have hC1 : s.C1 = s.C := by
    have := h.c1_add_c2
    omega
  have ⟨k, hk⟩ := (Cbsegm.ge_of_mem_tcCbSizes s.K1 (mem_of_getElem? h.k1_get)).2
  have hsizes := h.sizes
  rw [hC1, hC2, hF, Nat.zero_mul, Nat.add_zero, Nat.add_zero, hk, htbs, Nat.mul_left_comm] at hsizes
  cases Nat.lt_or_eq_of_le h.c_pos with
  | inl hmany =>
    have hlast := h.payload (s.C - 1) (by omega)
    unfold Cbsegm.payloadBits Cbsegm.blockSize at hlast
    rw [if_neg (by omega), if_pos hmany, if_pos (show s.C - 1 + 1 = s.C by omega)] at hlast
    have hk3 : 6 < k := by
      split at hlast
      all_goals omega
    obtain ⟨L, rfl⟩ := Nat.exists_eq_add_of_le (show 3 ≤ k by omega)
    rw [if_pos hmany, Nat.mul_add] at hsizes
    refine ⟨L, h.c_pos, hC1, hC2, hF, by rw [h.tbs_eq, htbs], hN, h.k1_get, ?_, by omega, by omega⟩
    rw [if_pos hmany, hk, Nat.add_comm]
  | inr hone =>
    have hnot : ¬ s.C > 1 := by omega
    rw [if_neg hnot, ← hone, Nat.one_mul] at hsizes
    refine ⟨k, h.c_pos, hC1, hC2, hF, by rw [h.tbs_eq, htbs], hN, h.k1_get, ?_, ?_, by omega⟩
    . rw [if_neg hnot, hk]
    . rw [← hone, Nat.one_mul]
      omega

namespace OneSize

variable {q : Sch} {s : Cbsegm} {N L : Nat}

theorem readLength_eq (h : OneSize s N L) : readLength s s.K1 = 8 * L := by
  unfold readLength
  rw [h.k1_eq]
  split
  all_goals omega

theorem rlen_eq (h : OneSize s N L) : (if s.C = 1 then s.K1 else s.K1 - 24) = 8 * L := by
  have hpos := h.c_pos
  rw [h.k1_eq]
  split
  next hone => rw [if_neg (by omega)]
  next hmany =>
    rw [if_pos (by omega)]
    omega

end OneSize

def message (q : Sch) (payload : List UInt8) : List UInt8 :=
  payload ++ parity (q.crcTb.checksumByte payload)

theorem configured_crcTb (q : Sch) : q.crcTb.Configured lteCrc24A 24 := by
  apply Crc.configured_init q.crcTb_eq _ (by decide) (by decide)
  constructor
  all_goals decide

theorem configured_crcCb (q : Sch) : q.crcCb.Configured lteCrc24B 24 := by
  apply Crc.configured_init q.crcCb_eq _ (by decide) (by decide)
  constructor
  all_goals decide

theorem message_eq (q : Sch) (payload : List UInt8) : message q payload = q.crcTb.attachByte payload := by
  unfold message Crc.attachByte
  dsimp only
  rw [(configured_crcTb q).order]
  rfl

theorem parity_toNat {par : Nat} (h : par < 2 ^ 24) {b0 b1 b2 : UInt8} (hb : parity par = [b0, b1, b2])
    : b0.toNat <<< 16 ||| b1.toNat <<< 8 ||| b2.toNat = par := by
  have hbyte : ∀ k, (par &&& 0xff <<< k) >>> k = par / 2 ^ k % 2 ^ 8 := by
    intro k
    apply Bits.and_mask_shiftRight
    exact Nat.shiftLeft_shiftRight 0xff k
  have hlow : par &&& 0xff = par % 2 ^ 8 := Bits.and_mask par 8 rfl
  unfold parity at hb
  rw [hbyte, hbyte, hlow] at hb
  have ⟨h0, hb⟩ := List.cons.inj hb
  have ⟨h1, hb⟩ := List.cons.inj hb
  have ⟨h2, _⟩ := List.cons.inj hb
  rw [← h0, ← h1, ← h2, UInt8.toNat_ofNat', UInt8.toNat_ofNat', UInt8.toNat_ofNat']
  have hshift : ∀ a b : Nat, a <<< 16 ||| b <<< 8 = (a <<< 8 ||| b) <<< 8 := by
    intro a b
    rw [Nat.shiftLeft_or_distrib, ← Nat.shiftLeft_add]
  rw [hshift, Bits.shiftLeft_or _ 8 (by omega), Bits.shiftLeft_or _ 8 (by omega)]
  omega

def pieceOf (q : Sch) (payload : List UInt8) (L i : Nat) : List UInt8 :=
  ((message q payload).drop (i * L)).take L

def blockOf (q : Sch) (s : Cbsegm) (payload : List UInt8) (L i : Nat) : List UInt8 :=
  if s.C > 1 then q.crcCb.attachByte (pieceOf q payload L i) else pieceOf q payload L i

namespace OneSize

variable {q : Sch} {s : Cbsegm} {N L : Nat} {payload : List UInt8}

theorem length_message (h : OneSize s N L) (hlen : payload.length = N) : (message q payload).length = s.C * L := by
  unfold message
  rw [length_append, hlen, ← h.total]
  rfl

variable {i : Nat}

section

variable (h : OneSize s N L)

include h

theorem length_pieceOf (hlen : payload.length = N) (hi : i < s.C)
    : (pieceOf q payload L i).length = L := by
  have hmul : (i + 1) * L ≤ s.C * L := Nat.mul_le_mul_right L hi
  rw [Nat.succ_mul] at hmul
  unfold pieceOf
  rw [length_take, length_drop, h.length_message hlen]
  omega

theorem flatMap_pieceOf (hlen : payload.length = N)
    : (List.range s.C).flatMap (pieceOf q payload L) = message q payload := by
  have hrun : ∀ n ≤ s.C, (List.range n).flatMap (pieceOf q payload L) = (message q payload).take (n * L) := by
    intro n
    induction n with
    | zero =>
      intro _
      rw [Nat.zero_mul, take_zero]
      rfl
    | succ n ih =>
      intro hn
      rw [range_succ, flatMap_append, ih (Nat.le_of_lt hn), flatMap_singleton, Nat.succ_mul, take_add]
      rfl
  rw [hrun s.C (le_refl _), ← h.length_message hlen, take_length]

theorem cbIn_eq (hlen : payload.length = N) (hi : i < s.C)
    : q.cbIn s payload (q.crcTb.checksumByte payload) i (8 * L) (i * (8 * L)) = blockOf q s payload L i := by
  have hpos : i * (8 * L) / 8 = i * L := by
    rw [Nat.mul_left_comm, Nat.mul_div_cancel_left _ (by decide)]
  have hL : 8 * L / 8 = L := Nat.mul_div_cancel_left L (by decide)
  have hL' : (8 * L - 24) / 8 = L - 3 := by omega
  have htotal := h.total
  have hthree := h.three_le
  have hpiece : (if i < s.C - 1 then
      (payload.drop (i * L)).take L
    else
      (payload.drop (i * L)).take (L - 3) ++ parity (q.crcTb.checksumByte payload)) = pieceOf q payload L i := by
    unfold pieceOf message
    split
    next hlt =>
      have hmul : (i + 2) * L ≤ s.C * L := Nat.mul_le_mul_right L (by omega)
      rw [Nat.add_mul] at hmul
      rw [drop_append_of_le_length (by omega), take_append_of_le_length]
      rw [length_drop]
      omega
    next hge =>
      have hC : s.C = i + 1 := by omega
      rw [hC, Nat.succ_mul] at htotal
      have hrest : (payload.drop (i * L)).length = L - 3 := by
        rw [length_drop]
        omega
      rw [drop_append_of_le_length (by omega), take_of_length_le (le_of_eq hrest), take_of_length_le]
      rw [length_append, hrest]
      change L - 3 + 3 ≤ L
      omega
  unfold cbIn
  dsimp only
  rw [hpos, hL, hL', hpiece]
  rfl

theorem length_blockOf (hlen : payload.length = N) (hi : i < s.C)
    : 8 * (blockOf q s payload L i).length = s.K1 := by
  have hcrc : q.crcCb.order = 24 := (configured_crcCb q).order
  have hpiece : (pieceOf q payload L i).length = L := h.length_pieceOf hlen hi
  unfold blockOf
  rw [h.k1_eq]
  split
  next =>
    unfold Crc.attachByte
    dsimp only
    rw [length_append, hpiece, length_reverse, length_map, length_range, hcrc]
  next => rw [hpiece]

theorem take_blockOf (hlen : payload.length = N) (hi : i < s.C)
    : (blockOf q s payload L i).take L = pieceOf q payload L i := by
  have hpiece : (pieceOf q payload L i).length = L := h.length_pieceOf hlen hi
  unfold blockOf
  split
  next =>
    unfold Crc.attachByte
    exact take_left' hpiece
  next => exact take_of_length_le (le_of_eq hpiece)

theorem crc_blockOf (hlen : payload.length = N) (hi : i < s.C)
    : (if s.C > 1 then
        q.crcCb.checksumByte ((blockOf q s payload L i).take (s.K1 / 8))
      else
        q.crcTb.checksumByte ((blockOf q s payload L i).take ((s.tbs + 24) / 8))) = 0 := by
  have hblock := h.length_blockOf (q := q) hlen hi
  split
  next hmany =>
    rw [take_of_length_le (by omega)]
    unfold blockOf
    rw [if_pos hmany]
    exact (configured_crcCb q).checksumByte_attachByte _
  next hone =>
    have hC : s.C = 1 := by
      have := h.c_pos
      omega
    have hi : i = 0 := by omega
    have htotal := h.total
    rw [hC, Nat.one_mul] at htotal
    have htbs := h.tbs_eq
    have hmessage : blockOf q s payload L i = q.crcTb.attachByte payload := by
      unfold blockOf pieceOf
      rw [if_neg hone, hi, Nat.zero_mul, drop_zero, take_of_length_le, message_eq]
      rw [h.length_message hlen, hC, Nat.one_mul]
    rw [take_of_length_le, hmessage]
    . exact (configured_crcTb q).checksumByte_attachByte _
    . have hK1 := h.k1_eq
      rw [if_neg hone] at hK1
      omega

end

def chunkOf (q : Sch) (s : Cbsegm) (Qm rv Gp : Nat) (payload : List UInt8) (L i : Nat) : List Bool :=
  (List.range (q.nE s.C Qm Gp i)).map (q.codec.coded s.K1Idx rv (blockOf q s payload L i))

theorem foldl_encodeCb (h : OneSize s N L) (hlen : payload.length = N) (Qm rv Gp n : Nat) (hn : n ≤ s.C)
    : let st := (List.range n).foldl (q.encodeCb s Qm rv Gp payload (q.crcTb.checksumByte payload)) {}
      st.rp = n * (8 * L) ∧ received st.writes = (List.range n).flatMap (chunkOf q s Qm rv Gp payload L) := by
  induction n with
  | zero => exact ⟨(Nat.zero_mul _).symm, rfl⟩
  | succ n ih =>
    have ⟨hrp, hwrites⟩ := ih (Nat.le_of_lt hn)
    rw [range_succ, foldl_append, flatMap_append, foldl_cons, foldl_nil, flatMap_singleton]
    generalize (List.range n).foldl (q.encodeCb s Qm rv Gp payload (q.crcTb.checksumByte payload)) {} = st at *
    have hC2 : ¬ n < s.C2 := by
      rw [h.c2_eq]
      exact Nat.not_lt_zero n
    unfold encodeCb
    rw [if_neg hC2]
    dsimp only
    rw [h.readLength_eq, hrp, h.cbIn_eq hlen hn]
    refine ⟨(Nat.succ_mul n (8 * L)).symm, ?_⟩
    unfold received at hwrites ⊢
    rw [flatMap_append, hwrites, flatMap_singleton]
    rfl

theorem encodeTb_eq (h : OneSize s N L) (hlen : payload.length = N) (hmax : s.C ≤ q.maxCb) (Qm rv nofEBits : Nat)
    : ∃ writes, q.encodeTb s Qm rv nofEBits payload = some writes ∧
        received writes = (List.range s.C).flatMap (chunkOf q s Qm rv (nofEBits / Qm) payload L) := by
  have htake : payload.take (s.tbs / 8) = payload := by
    apply take_of_length_le
    rw [h.tbs_eq, Nat.mul_div_cancel_left N (by decide), hlen]
  unfold encodeTb
  rw [if_neg (fun hF => hF h.f_eq), if_neg (Nat.not_lt_of_le hmax), htake]
  exact ⟨_, rfl, (h.foldl_encodeCb hlen Qm rv (nofEBits / Qm) s.C (le_refl _)).2⟩

end OneSize

/--
Turbo decoder and rate matching of a code block return exactly the bits that were encoded, from any number of
coded bits that is large enough for the size of the code block.
-/
def Recovers (codec : TurboCodec) (enough : Nat → Nat) : Prop :=
  ∀ (cbLenIdx cbLen rv n iterations : Nat) (cb : List UInt8), tcCbSizes[cbLenIdx]? = some cbLen →
    8 * cb.length = cbLen → enough cbLen ≤ n → 1 ≤ iterations →
    codec.decision cbLenIdx rv ((List.range n).map (codec.coded cbLenIdx rv cb)) iterations = cb

namespace OneSize

variable {q : Sch} {s : Cbsegm} {N L : Nat} {payload : List UInt8} {enough : Nat → Nat}

theorem group_zero (s : Cbsegm)
    : group s 0 = { nofCb := s.C1, firstCb := 0, cbLen := s.K1, cbLenIdx := s.K1Idx } := rfl

variable {Qm nofEBits : Nat}

theorem decideSlot_eq (h : OneSize s N L) (hlen : payload.length = N) (hcodec : Recovers q.codec enough)
    {Gp : Nat} (hceil : q.ceilf Gp s.C = (Gp + s.C - 1) / s.C) (hG : enough s.K1 ≤ Qm * (Gp / s.C)) (rv : Nat)
    {i : Nat} (hi : i < s.C) (st : Decoding)
    : decideSlot q s rv (group s 0)
        (slotOf ((List.range s.C).flatMap (chunkOf q s Qm rv Gp payload L)) s.C Qm Gp i) st
        =
      (none, decoded (pieceOf q payload L) st i) := by
  have ⟨hstart, hle, hge⟩ := readInterval_spec q h.c_pos hceil Qm hi
  have hchunk : ∀ j, (chunkOf q s Qm rv Gp payload L j).length = q.nE s.C Qm Gp j := by
    intro j
    unfold chunkOf
    rw [length_map, length_range]
  have hinput : (((List.range s.C).flatMap (chunkOf q s Qm rv Gp payload L)).drop (readInterval s.C Qm Gp i).1).take
        (readInterval s.C Qm Gp i).2
      = (List.range (readInterval s.C Qm Gp i).2).map (q.codec.coded s.K1Idx rv (blockOf q s payload L i)) := by
    have hsum : ((List.range i).map fun j => (chunkOf q s Qm rv Gp payload L j).length).sum
        = (readInterval s.C Qm Gp i).1 := by
      simp only [hchunk, hstart]
    rw [← hsum, Lists.take_drop_flatMap_range _ hi (by rw [hchunk]; exact hle)]
    unfold chunkOf
    rw [← map_take, take_range, Nat.min_eq_left hle]
  have hdecision : q.codec.decision s.K1Idx rv
      (slotOf ((List.range s.C).flatMap (chunkOf q s Qm rv Gp payload L)) s.C Qm Gp i).input 1
      = blockOf q s payload L i := by
    unfold slotOf
    dsimp only
    rw [hinput]
    exact hcodec s.K1Idx s.K1 rv _ 1 _ h.k1_get (h.length_blockOf hlen hi) (Nat.le_trans hG hge) (le_refl 1)
  have hrlen : (if s.C = 1 then s.K1 else s.K1 - 24) / 8 = L := by
    rw [h.rlen_eq, Nat.mul_div_cancel_left L (by decide)]
  have hcrc := h.crc_blockOf (q := q) hlen hi
  have htake := h.take_blockOf (q := q) hlen hi
  rw [group_zero]
  unfold decideSlot
  dsimp only
  rw [show (slotOf ((List.range s.C).flatMap (chunkOf q s Qm rv Gp payload L)) s.C Qm Gp i).iterations + 1 = 1 from rfl,
    hdecision, hcrc, if_pos rfl, hrlen, htake]
  rfl

def checkParity (q : Sch) (s : Cbsegm) (data : Nat → UInt8) : DecodeResult :=
  let parRx := q.crcTb.checksumByte ((List.range (s.tbs / 8)).map data)
  let parTx := (data (s.tbs / 8)).toNat <<< 16 ||| (data (s.tbs / 8 + 1)).toNat <<< 8 ||| (data (s.tbs / 8 + 2)).toNat
  if parRx = parTx ∧ parRx ≠ 0 then .success else .error

theorem decodeTb_of_decodeTbCb (h : OneSize s N L) (hmax : s.C ≤ q.maxCb) {rv : Nat} {eBits : List Bool}
    {rx : Bool × ((Nat → Bool) × (Nat → List UInt8)) × (Nat → UInt8)}
    (hrx : q.decodeTbCb s Qm rv nofEBits eBits 0 (fun _ => false, fun _ => []) (fun _ => 0) = rx) (hok : rx.1 = true)
    : q.decodeTb s Qm rv nofEBits eBits = (checkParity q s rx.2.2, rx.2.2) := by
  have htbs : ¬ (s.tbs = 0 ∨ s.C = 0) := by
    have hN := h.n_pos
    have hC := h.c_pos
    rw [h.tbs_eq]
    omega
  have hC2 : ¬ (s.C2 > 0 ∧ rx.1 = true) := by
    rw [h.c2_eq]
    exact fun hpos => Nat.lt_irrefl 0 hpos.1
  unfold decodeTb
  dsimp only
  rw [if_neg htbs, if_neg (fun hF => hF h.f_eq), if_neg (Nat.not_lt_of_le hmax), hrx, if_neg hC2]
  dsimp only
  rw [if_pos hok]
  unfold checkParity
  dsimp only
  split
  next => rfl
  next => rfl

theorem checkParity_eq (h : OneSize s N L) (hlen : payload.length = N) {data : Nat → UInt8}
    (hdata : ∀ k, data k = (message q payload)[k]?.getD 0)
    : checkParity q s data = if q.crcTb.checksumByte payload ≠ 0 then .success else .error := by
  have hN : s.tbs / 8 = N := by
    rw [h.tbs_eq, Nat.mul_div_cancel_left N (by decide)]
  have hpayload : (List.range N).map data = payload := by
    apply ext_getElem
    . rw [length_map, length_range, hlen]
    . intro k hk _
      rw [getElem_map, getElem_range, hdata]
      unfold message
      rw [getElem?_append_left (by omega), getElem?_eq_getElem (by omega), Option.getD_some]
  have hlt : q.crcTb.checksumByte payload < 2 ^ 24 := by
    rw [Crc.checksumByte_eq]
    refine ((configured_crcTb q).val_checksum (Or.inr ?_)).1
    rw [Crc.length_unpackVector]
    exact Nat.dvd_mul_left 8 payload.length
  have hparity : parity (q.crcTb.checksumByte payload) = [data N, data (N + 1), data (N + 2)] := by
    rw [hdata, hdata, hdata]
    unfold message
    rw [getElem?_append_right (by omega), getElem?_append_right (by omega),
      getElem?_append_right (by omega), hlen, Nat.sub_self, Nat.add_sub_cancel_left, Nat.add_sub_cancel_left]
    rfl
  unfold checkParity
  dsimp only
  rw [hN, hpayload, parity_toNat hlt hparity]
  simp only [true_and]

theorem decodeTb_eq (h : OneSize s N L) (hlen : payload.length = N) (hcodec : Recovers q.codec enough)
    (hmax : s.C ≤ q.maxCb) (hmax' : s.C ≤ maxCodeblocks)
    (hceil : q.ceilf (nofEBits / Qm) s.C = (nofEBits / Qm + s.C - 1) / s.C)
    (hG : enough s.K1 ≤ Qm * (nofEBits / Qm / s.C)) (rv : Nat)
    : let result := q.decodeTb s Qm rv nofEBits ((List.range s.C).flatMap (chunkOf q s Qm rv (nofEBits / Qm) payload L))
      (∀ k, result.2 k = (message q payload)[k]?.getD 0) ∧
      result.1 = if q.crcTb.checksumByte payload ≠ 0 then .success else .error := by
  have ⟨hok, hdata⟩ := decodeTbCb_spec (q := q) (s := s) (group_zero s) rfl (by rw [h.c1_eq]; exact hmax')
    q.nofParallel_pos h.rlen_eq (fun i hi => h.length_pieceOf (q := q) hlen (by rw [← h.c1_eq]; exact hi))
    (fun i hi st => h.decideSlot_eq hlen hcodec hceil hG rv (by rw [← h.c1_eq]; exact hi) st) (fun _ => 0)
  have hmessage : (List.range s.C1).flatMap (pieceOf q payload L) = message q payload := by
    rw [h.c1_eq]
    exact h.flatMap_pieceOf hlen
  have hlength := h.length_message (q := q) hlen
  dsimp only at hdata
  rw [hmessage, h.c1_eq] at hdata
  generalize hrx : q.decodeTbCb s Qm rv nofEBits _ 0 _ _ = rx at hok hdata
  have hdata : ∀ k, rx.2.2 k = (message q payload)[k]?.getD 0 := by
    intro k
    rw [hdata]
    split
    next => rfl
    next hge => rw [getElem?_eq_none (by omega), Option.getD_none]
  rw [h.decodeTb_of_decodeTbCb hmax hrx hok]
  exact ⟨hdata, h.checkParity_eq hlen hdata⟩

end OneSize

def RoundTrips (q : Sch) (s : Cbsegm) (Qm rv nofEBits : Nat) (payload : List UInt8) : Prop :=
  ∃ writes, q.encodeTb s Qm rv nofEBits payload = some writes ∧
    (q.decodeTb s Qm rv nofEBits (received writes)).1 = .success ∧
    ∀ k < s.tbs / 8, payload[k]? = some ((q.decodeTb s Qm rv nofEBits (received writes)).2 k)

theorem decodeTb_encodeTb (q : Sch) (enough : Nat → Nat) (tbs : Nat) (s : Cbsegm) (Qm rv nofEBits : Nat)
    (payload : List UInt8) (hcodec : Recovers q.codec enough)
    (hs : srslteCbsegm tbs = some s) (hpos : 1 ≤ tbs) (hlt : tbs < 2 ^ 32) (hdvd : 8 ∣ tbs) (hF : s.F = 0)
    (hC2 : s.C2 = 0) (hmax : s.C ≤ q.maxCb) (hmax' : s.C ≤ maxCodeblocks)
    (hceil : q.ceilf (nofEBits / Qm) s.C = (nofEBits / Qm + s.C - 1) / s.C)
    (hG : enough s.K1 ≤ Qm * (nofEBits / Qm / s.C)) (hlen : payload.length = tbs / 8)
    (hcrc : q.crcTb.checksumByte payload ≠ 0)
    : q.RoundTrips s Qm rv nofEBits payload := by
  have hsegments := Cbsegm.segments_of_eq hpos hlt hs hF hmax'
  have ⟨L, h⟩ := oneSize_of_segments hsegments (Nat.mul_div_cancel' hdvd).symm (by omega) hF hC2
  have ⟨writes, hencode, hreceived⟩ := h.encodeTb_eq hlen hmax Qm rv nofEBits
  have ⟨hdata, hresult⟩ := h.decodeTb_eq hlen hcodec hmax hmax' hceil hG rv
  refine ⟨writes, hencode, ?_, ?_⟩
  . rw [hreceived, hresult, if_pos hcrc]
  . intro k hk
    rw [hsegments.tbs_eq, ← hlen] at hk
    rw [hreceived, hdata]
    unfold message
    rw [getElem?_append_left hk, getElem?_eq_getElem hk, Option.getD_some]

theorem take_map_getD (l : List Bool) {n m : Nat} (hm : m ≤ l.length) (hn : m ≤ n)
    : ((List.range n).map fun k => l[k]?.getD false).take m = l.take m := by
  apply ext_getElem
  . simp only [length_take, length_map, length_range]
    omega
  . intro k hk _
    have hk : k < m := by
      rw [length_take] at hk
      omega
    rw [getElem_take, getElem_take, getElem_map, getElem_range,
      getElem?_eq_getElem (by omega), Option.getD_some]

theorem recovers_taggedCodec : Recovers taggedCodec (· + 8) := by
  intro cbLenIdx cbLen rv n iterations cb hget hlen henough _
  replace henough : cbLen + 8 ≤ n := henough
  have htag := Bits.length_ofNat cbLenIdx 8
  have hbits := Crc.length_unpackVector cb
  have hcoded : ((List.range n).map (taggedCodec.coded cbLenIdx rv cb)).take (8 + cbLen)
      = Bits.ofNat cbLenIdx 8 ++ srslteBitUnpackVector cb := by
    change ((List.range n).map fun k => (Bits.ofNat cbLenIdx 8 ++ srslteBitUnpackVector cb)[k]?.getD false).take _ = _
    rw [take_map_getD, take_of_length_le]
    all_goals
      try rw [length_append, htag, hbits]
      omega
  generalize (List.range n).map (taggedCodec.coded cbLenIdx rv cb) = bits at hcoded
  have hfirst : bits.take 8 = Bits.ofNat cbLenIdx 8 := by
    rw [← take_left' htag, ← hcoded, take_take, Nat.min_eq_left (Nat.le_add_right 8 cbLen)]
  have hrest : (bits.drop 8).take cbLen = srslteBitUnpackVector cb := by
    have hdrop := congrArg (List.drop 8) hcoded
    rwa [drop_left' htag, drop_take, Nat.add_sub_cancel_left] at hdrop
  change (if bits.take 8 = Bits.ofNat cbLenIdx 8 then
    srslteBitPackVector ((bits.drop 8).take (tcCbSizes[cbLenIdx]?.getD 0)) else [1]) = cb
  rw [if_pos hfirst, hget, Option.getD_some, hrest, srslteBitPackVector_unpackVector]

def twoBlocks : Cbsegm :=
  { C := 2, K1 := 3136, K2 := 3072, K1Idx := 140, K2Idx := 139, C1 := 2, tbs := 6200 }

theorem decodeTb_encodeTb_twoBlocks
    : srslteCbsegm 6200 = some twoBlocks ∧ (taggedSch 13).RoundTrips twoBlocks 2 0 6400 (List.replicate 775 1) := by
  have hs : srslteCbsegm 6200 = some twoBlocks := by decide +kernel
  refine ⟨hs, ?_⟩
  exact decodeTb_encodeTb (taggedSch 13) (· + 8) 6200 twoBlocks 2 0 6400 (List.replicate 775 1) recovers_taggedCodec hs
    (by decide) (by decide) (by decide) rfl rfl (by decide) (by decide) rfl (by decide) length_replicate (by decide +kernel)

theorem not_roundTrips_of_error {q : Sch} {s : Cbsegm} {Qm rv nofEBits : Nat} {payload : List UInt8}
    (h : ∀ writes ∈ q.encodeTb s Qm rv nofEBits payload,
      (q.decodeTb s Qm rv nofEBits (received writes)).1 = .error)
    : ¬ q.RoundTrips s Qm rv nofEBits payload := by
  intro ⟨writes, hencode, hsuccess, _⟩
  rw [h writes hencode] at hsuccess
  cases hsuccess

theorem not_decodeTb_encodeTb
    : Recovers taggedCodec (· + 8) ∧
      (∃ s, srslteCbsegm 16 = some s ∧ s.F = 0 ∧ ¬ (taggedSch 13).RoundTrips s 2 0 96 [0, 0]) ∧
      (∃ s, srslteCbsegm 6136 = some s ∧ s.F = 0 ∧
        ¬ (taggedSch 13).RoundTrips s 2 0 8000 (List.replicate 766 0 ++ [1])) ∧
      (∃ s, srslteCbsegm 201936 = some s ∧ s.F = 0 ∧
        ∀ payload nofEBits, ¬ (taggedSch 40).RoundTrips s 2 0 nofEBits payload) ∧
      ∃ s, srslteCbsegm 16 = some s ∧ s.F = 0 ∧
        ∀ payload nofEBits, ¬ (taggedSch 0).RoundTrips s 2 0 nofEBits payload := by
  refine ⟨recovers_taggedCodec, ⟨{ tbs := 16, C := 1, K1 := 40, C1 := 1 }, by decide +kernel, rfl, ?_⟩,
    ⟨{ tbs := 6136, C := 2, K1 := 3136, K1Idx := 140, K2 := 3072, K2Idx := 139, C1 := 1, C2 := 1 },
      by decide +kernel, rfl, ?_⟩,
    ⟨{ tbs := 201936, C := 33, K1 := 6144, K1Idx := 187, K2 := 6080, K2Idx := 186, C1 := 33 },
      by decide +kernel, rfl, ?_⟩,
    ⟨{ tbs := 16, C := 1, K1 := 40, C1 := 1 }, by decide +kernel, rfl, ?_⟩⟩
  . apply not_roundTrips_of_error
    decide +kernel
  . apply not_roundTrips_of_error
    decide +kernel
  . intro payload nofEBits
    apply not_roundTrips_of_error
    intro writes _
    rfl
  . intro payload nofEBits ⟨_, hencode, _⟩
    cases hencode

end SrsLte.Sch
