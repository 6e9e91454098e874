import SrsLte.Phy.Impl.Uci

/-!
This module contains the proof of which channel interleavers of the UL-SCH can be undone.
-/

namespace SrsLte

open Scatter List

def readingOrder (rows cols Qm : Nat) : List Nat :=
  (List.range rows).flatMap fun j => (List.range cols).flatMap fun i => (List.range Qm).map fun k =>
    j * Qm + i * rows * Qm + k

theorem ulschInterleaveGen_eq (HPrimeTotal NPuschSymbs Qm : Nat) (riPresent : Nat → Bool) (lut : Nat → Nat)
    : ulschInterleaveGen HPrimeTotal NPuschSymbs Qm riPresent lut
        =
      (number riPresent (readingOrder (HPrimeTotal / NPuschSymbs) NPuschSymbs Qm) (lut, 0)).1 := by
  unfold ulschInterleaveGen number readingOrder
  simp only [foldl_flatMap, foldl_map]
  rfl

namespace readingOrder

variable {rows cols Qm : Nat}

theorem row_col {j i k : Nat} (hj : j < rows) (hk : k < Qm)
    : (j * Qm + i * rows * Qm + k) / (rows * Qm) = i ∧ (j * Qm + i * rows * Qm + k) % (rows * Qm) = j * Qm + k := by
  have hlt : j * Qm + k < rows * Qm := calc
    j * Qm + k < j * Qm + Qm := by omega
    _ = (j + 1) * Qm := by rw [Nat.succ_mul]
    _ ≤ rows * Qm := Nat.mul_le_mul_right _ hj
  have heq : j * Qm + i * rows * Qm + k = j * Qm + k + rows * Qm * i := by
    rw [Nat.mul_assoc i, Nat.mul_comm i]
    omega
  rw [heq]
  constructor
  . rw [Nat.add_mul_div_left _ _ (by omega), Nat.div_eq_of_lt hlt, Nat.zero_add]
  . rw [Nat.add_mul_mod_self_left, Nat.mod_eq_of_lt hlt]

theorem mem_iff {p : Nat} : p ∈ readingOrder rows cols Qm ↔ p < rows * cols * Qm := by
  unfold readingOrder
  simp only [mem_flatMap, mem_map, mem_range]
  constructor
  . rintro ⟨j, hj, i, hi, k, hk, rfl⟩
    have ⟨hdiv, hmod⟩ := @row_col rows Qm j i k hj hk
    have hpos : 0 < rows * Qm := Nat.mul_pos (by omega) (by omega)
    have hlt : (j * Qm + i * rows * Qm + k) / (rows * Qm) < cols := by omega
    rw [Nat.div_lt_iff_lt_mul hpos] at hlt
    calc
      _ < cols * (rows * Qm) := hlt
      _ = rows * cols * Qm := by rw [← Nat.mul_assoc, Nat.mul_comm cols]
  . intro hp
    have hQm : 0 < Qm := Nat.pos_of_ne_zero fun h => by simp [h] at hp
    have hrows : 0 < rows := Nat.pos_of_ne_zero fun h => by simp [h] at hp
    have hpos : 0 < rows * Qm := Nat.mul_pos hrows hQm
    refine ⟨p % (rows * Qm) / Qm, ?_, p / (rows * Qm), ?_, p % (rows * Qm) % Qm, Nat.mod_lt _ hQm, ?_⟩
    . exact (Nat.div_lt_iff_lt_mul hQm).mpr (Nat.mod_lt _ hpos)
    . rw [Nat.div_lt_iff_lt_mul hpos, ← Nat.mul_assoc, Nat.mul_comm cols]
      exact hp
    . have h1 := Nat.div_add_mod (p % (rows * Qm)) Qm
      have h2 := Nat.div_add_mod p (rows * Qm)
      rw [Nat.mul_comm Qm] at h1
      rw [Nat.mul_comm (rows * Qm), ← Nat.mul_assoc] at h2
      omega

theorem nodup : (readingOrder rows cols Qm).Nodup := by
  unfold readingOrder
  refine nodup_flatMap.mpr ⟨fun j hj => nodup_flatMap.mpr ⟨fun i _ => ?_, ?_⟩, ?_⟩
  . exact nodup_range.map fun a b hab => by simpa using hab
  . refine nodup_range.imp_of_mem fun {i i'} _ _ hne => ?_
    intro p hp hp'
    obtain ⟨k, hk, rfl⟩ := mem_map.mp hp
    have ⟨k', hk', heq⟩ := mem_map.mp hp'
    have h := (@row_col rows Qm j i k (mem_range.mp hj) (mem_range.mp hk)).1
    have h' := (@row_col rows Qm j i' k' (mem_range.mp hj) (mem_range.mp hk')).1
    rw [heq] at h'
    exact hne (h.symm.trans h')
  . refine nodup_range.imp_of_mem fun {j j'} hj hj' hne => ?_
    intro p hp hp'
    simp only [mem_flatMap, mem_map, mem_range] at hp hp' hj hj'
    obtain ⟨i, _, k, hk, rfl⟩ := hp
    have ⟨i', _, k', hk', heq⟩ := hp'
    have h := (@row_col rows Qm j i k hj hk).2
    have h' := (@row_col rows Qm j' i' k' hj' hk').2
    rw [heq, h] at h'
    apply hne
    calc
      j = (j * Qm + k) / Qm := (Nat.div_eq_of_lt_le (by omega) (by rw [Nat.succ_mul]; omega)).symm
      _ = (j' * Qm + k') / Qm := by rw [h']
      _ = j' := Nat.div_eq_of_lt_le (by omega) (by rw [Nat.succ_mul]; omega)

end readingOrder

namespace UlInterleaver

def Clear (q : UlInterleaver) : Prop :=
  ∀ p, q.riPresent p = false

def isRi (riBits : List UciBit) (p : Nat) : Bool :=
  riBits.any fun bit => bit.position == p

theorem setRi_eq (riBits : List UciBit) (present : Bool) (riPresent : Nat → Bool) (p : Nat)
    : setRi riBits present riPresent p = if isRi riBits p then present else riPresent p := by
  induction riBits generalizing riPresent with
  | nil => rfl
  | cons bit riBits ih =>
    unfold setRi isRi at *
    rw [foldl_cons, ih, any_cons, Function.update_apply]
    by_cases hp : bit.position = p
    . simp [hp]
    . simp [hp, Ne.symm hp]

def nofDataBits (HPrimeTotal Qm : Nat) (riBits : List UciBit) : Nat :=
  (List.range (HPrimeTotal * Qm)).countP fun p => !isRi riBits p

def dataPositions (HPrimeTotal NPuschSymbs Qm : Nat) (riBits : List UciBit) : List Nat :=
  (readingOrder (HPrimeTotal / NPuschSymbs) NPuschSymbs Qm).filter fun p => !isRi riBits p

def RoundTrips (HPrimeTotal NPuschSymbs Qm : Nat) (riBits : List UciBit) : Prop :=
  ∀ (tx rx : UlInterleaver) (gBits qBits : Nat → Bool) (soft : Bool → Int) (received gSoft : Nat → Int),
    tx.Clear → rx.Clear →
    (∀ p < HPrimeTotal * Qm, isRi riBits p = false →
      received p = soft ((tx.ulschInterleave gBits Qm HPrimeTotal NPuschSymbs qBits riBits).1 p)) →
    ∀ idx < nofDataBits HPrimeTotal Qm riBits,
      (rx.ulschDeinterleave received Qm HPrimeTotal NPuschSymbs gSoft riBits).1 idx = soft (gBits idx)

section

variable {HPrimeTotal NPuschSymbs Qm : Nat} {riBits : List UciBit}
variable {p : Nat} {q : UlInterleaver}

section

variable (hdvd : NPuschSymbs ∣ HPrimeTotal)

include hdvd

theorem mem_readingOrder
    : p ∈ readingOrder (HPrimeTotal / NPuschSymbs) NPuschSymbs Qm ↔ p < HPrimeTotal * Qm := by
  rw [readingOrder.mem_iff, Nat.div_mul_cancel hdvd]

theorem length_dataPositions
    : (dataPositions HPrimeTotal NPuschSymbs Qm riBits).length = nofDataBits HPrimeTotal Qm riBits := by
  unfold dataPositions nofDataBits
  rw [← countP_eq_length_filter]
  apply List.Perm.countP_eq
  refine (perm_ext_iff_of_nodup readingOrder.nodup nodup_range).mpr fun p => ?_
  rw [mem_readingOrder hdvd, mem_range]

theorem mem_dataPositions
    : p ∈ dataPositions HPrimeTotal NPuschSymbs Qm riBits ↔ p < HPrimeTotal * Qm ∧ isRi riBits p = false := by
  unfold dataPositions
  rw [mem_filter, mem_readingOrder hdvd, Bool.not_eq_true']

end

theorem Clear.interleaverLut (h : q.Clear)
    : (q.generate HPrimeTotal NPuschSymbs Qm riBits).interleaverLut
        =
      (number (isRi riBits) (readingOrder (HPrimeTotal / NPuschSymbs) NPuschSymbs Qm) (q.interleaverLut, 0)).1 := by
  have hmarks : setRi riBits true q.riPresent = isRi riBits := by
    funext p
    rw [setRi_eq, h p]
    cases isRi riBits p <;> rfl
  unfold UlInterleaver.generate
  dsimp only
  rw [ulschInterleaveGen_eq, hmarks]

theorem Clear.lut_of_isRi (h : q.Clear) (hdvd : NPuschSymbs ∣ HPrimeTotal)
    (hp : p < HPrimeTotal * Qm) (hri : isRi riBits p = true)
    : (q.generate HPrimeTotal NPuschSymbs Qm riBits).interleaverLut p = 0 := by
  rw [h.interleaverLut]
  exact number_of_skip readingOrder.nodup ((mem_readingOrder hdvd).mpr hp) hri

theorem Clear.lut_dataPositions (h : q.Clear) {idx : Nat}
    (hidx : idx < (dataPositions HPrimeTotal NPuschSymbs Qm riBits).length)
    : (q.generate HPrimeTotal NPuschSymbs Qm riBits).interleaverLut
        ((dataPositions HPrimeTotal NPuschSymbs Qm riBits).get ⟨idx, hidx⟩)
        =
      idx := by
  have hmap := @map_number_filter (isRi riBits) (readingOrder (HPrimeTotal / NPuschSymbs) NPuschSymbs Qm)
    (q.interleaverLut, 0) readingOrder.nodup
  have hget := congrArg (fun l : List Nat => l[idx]?) hmap
  rw [h.interleaverLut]
  unfold dataPositions at hidx ⊢
  simp only [getElem?_map, getElem?_eq_getElem hidx, Option.map_some, getElem?_range' hidx] at hget
  simpa using hget

theorem Clear.lut_injOn (h : q.Clear) {p' : Nat} (hp : p ∈ dataPositions HPrimeTotal NPuschSymbs Qm riBits)
    (hp' : p' ∈ dataPositions HPrimeTotal NPuschSymbs Qm riBits)
    (heq : (q.generate HPrimeTotal NPuschSymbs Qm riBits).interleaverLut p
      = (q.generate HPrimeTotal NPuschSymbs Qm riBits).interleaverLut p')
    : p = p' := by
  obtain ⟨⟨i, hi⟩, rfl⟩ := mem_iff_get.mp hp
  obtain ⟨⟨i', hi'⟩, rfl⟩ := mem_iff_get.mp hp'
  rw [h.lut_dataPositions hi, h.lut_dataPositions hi'] at heq
  subst heq
  rfl

theorem ulschInterleave_apply (q : UlInterleaver) (gBits qBits : Nat → Bool) (hp : p < HPrimeTotal * Qm)
    : (q.ulschInterleave gBits Qm HPrimeTotal NPuschSymbs qBits riBits).1 p
        =
      gBits ((q.generate HPrimeTotal NPuschSymbs Qm riBits).interleaverLut p) := by
  apply foldl_update_of_last id (fun p => gBits ((q.generate HPrimeTotal NPuschSymbs Qm riBits).interleaverLut p)) _ hp
  intro i hi _
  exact Nat.ne_of_gt hi

theorem Clear.exists_overwrites (h : q.Clear) (hdvd : NPuschSymbs ∣ HPrimeTotal) {first : Nat}
    {bit : UciBit} (hposition : bit.position < HPrimeTotal * Qm) (hbit : bit ∈ riBits)
    (hfirst : first ∈ (dataPositions HPrimeTotal NPuschSymbs Qm riBits).head?) (hle : first ≤ bit.position)
    : ∃ last, isRi riBits last = true ∧ ∀ received gSoft : Nat → Int,
        (q.ulschDeinterleave received Qm HPrimeTotal NPuschSymbs gSoft riBits).1 0 = received last := by
  have hmem := mem_of_head? hfirst
  have hbitRi : isRi riBits bit.position = true := any_eq_true.mpr ⟨bit, hbit, beq_self_eq_true _⟩
  have hbit0 := h.lut_of_isRi hdvd hposition hbitRi
  have hfirst0 : (q.generate HPrimeTotal NPuschSymbs Qm riBits).interleaverLut first = 0 := by
    have hlength := length_pos_of_mem hmem
    have hget := h.lut_dataPositions hlength
    rw [head?_eq_getElem?, getElem?_eq_getElem hlength] at hfirst
    rw [← Option.some_inj.mp hfirst]
    exact hget
  have hlt : first < bit.position := by
    refine Nat.lt_of_le_of_ne hle fun heq => ?_
    rw [heq, mem_dataPositions hdvd, hbitRi] at hmem
    cases hmem.2
  have ⟨last, hge, hlen, hlast0, hafter⟩ :=
    exists_last (q.generate HPrimeTotal NPuschSymbs Qm riBits).interleaverLut hposition
  rw [hbit0] at hlast0 hafter
  refine ⟨last, ?_, fun received gSoft => ?_⟩
  . by_contra hnot
    have hdata := (mem_dataPositions hdvd).mpr ⟨hlen, Bool.eq_false_of_not_eq_true hnot⟩
    have hsame := h.lut_injOn hdata hmem (hlast0.trans hfirst0.symm)
    omega
  . have hwrite := foldl_update_of_last (q.generate HPrimeTotal NPuschSymbs Qm riBits).interleaverLut received gSoft
      hlen fun i hi hlen => hlast0.symm ▸ hafter i hi hlen
    rw [hlast0] at hwrite
    exact hwrite

end

theorem deinterleaves_iff {HPrimeTotal NPuschSymbs Qm : Nat} {riBits : List UciBit} (hdvd : NPuschSymbs ∣ HPrimeTotal)
    (hri : ∀ bit ∈ riBits, bit.position < HPrimeTotal * Qm)
    : RoundTrips HPrimeTotal NPuschSymbs Qm riBits
        ↔
      ∀ first ∈ (dataPositions HPrimeTotal NPuschSymbs Qm riBits).head?, ∀ bit ∈ riBits, bit.position < first := by
  constructor
  . intro h first hfirst bit hbit
    by_contra hnot
    have hclear : ({ riPresent := fun _ => false, interleaverLut := fun _ => 0 } : UlInterleaver).Clear := fun _ => rfl
    have hlength : 0 < nofDataBits HPrimeTotal Qm riBits := by
      rw [← length_dataPositions hdvd, length_pos_iff]
      exact ne_nil_of_mem (mem_of_head? hfirst)
    have ⟨last, hlastRi, hlast⟩ := hclear.exists_overwrites hdvd (hri bit hbit) hbit hfirst (Nat.le_of_not_lt hnot)
    have hvalue := h _ _ (fun _ => false) (fun _ => false) (fun _ => 0) (fun p => if isRi riBits p then 1 else 0)
      (fun _ => 0) hclear hclear (fun p _ hp => by simp [hp]) 0 hlength
    rw [hlast] at hvalue
    simp [hlastRi] at hvalue
  . intro hbefore tx rx gBits qBits soft received gSoft htx hrx hreceived idx hidx
    rw [← length_dataPositions hdvd] at hidx
    have hlut := hrx.lut_dataPositions hidx
    have hmem := get_mem (dataPositions HPrimeTotal NPuschSymbs Qm riBits) ⟨idx, hidx⟩
    have hp := (mem_dataPositions hdvd).mp hmem
    have hvalue := hreceived _ hp.1 hp.2
    rw [ulschInterleave_apply _ _ _ hp.1, htx.lut_dataPositions hidx] at hvalue
    rw [← hvalue]
    have hlast := foldl_update_of_last (rx.generate HPrimeTotal NPuschSymbs Qm riBits).interleaverLut received gSoft hp.1
    rw [hlut] at hlast
    apply hlast
    intro i hi hlen heq
    cases hisRi : isRi riBits i with
    | true =>
      rw [hrx.lut_of_isRi hdvd hlen hisRi] at heq
      subst heq
      have ⟨bit, hbit, hposition⟩ := any_eq_true.mp hisRi
      have hlt := hbefore _ (head?_eq_getElem? ▸ getElem?_eq_getElem hidx) bit hbit
      have hpos : bit.position = i := by simpa using hposition
      rw [hpos] at hlt
      exact Nat.lt_asymm hlt hi
    | false =>
      have hsame := hrx.lut_injOn ((mem_dataPositions hdvd).mpr ⟨hlen, hisRi⟩) hmem (heq.trans hlut.symm)
      exact Nat.ne_of_gt hi hsame

theorem roundTrips_riFirst : RoundTrips 4 2 2 [⟨0, .bit1⟩, ⟨1, .repetition⟩] := by
  apply (deinterleaves_iff (by decide) (by decide)).mpr
  decide

theorem not_roundTrips_ri : ¬ RoundTrips 4 2 2 [⟨6, .bit1⟩, ⟨7, .repetition⟩] := by
  intro h
  have hfirst := h ⟨fun _ => false, fun _ => 0⟩ ⟨fun _ => false, fun _ => 0⟩ (fun _ => false) (fun _ => false)
    (fun _ => -100) (fun p => if 6 ≤ p then 100 else -100) (fun _ => 0) (fun _ => rfl) (fun _ => rfl) ?_ 0 (by decide)
  . revert hfirst
    decide
  . intro p hp hri
    have hlt : p < 6 := by
      by_contra hge
      have hcases : p = 6 ∨ p = 7 := by omega
      obtain rfl | rfl := hcases
      . cases hri
      . cases hri
    exact if_neg (by omega)

end UlInterleaver

end SrsLte
