import SrsLte.Rlc.Am.Lemmas.RxWindow

/-!
This module contains what the reassembly of SDUs does to the receive window.
-/

namespace SrsLte.RlcAm

open List Finmap

structure Consumed (s : RlcAm) (k : Nat) (s' : RlcAm) : Prop where
  le : k ≤ rlcAmWindowSize
  vrR : s'.vrR = (s.vrR + k) % mod
  length : s'.consumed.length = s.consumed.length + k
  history : ∀ n, s'.consumed[n]? =
    if n < s.consumed.length then s.consumed[n]?
    else if n < s.consumed.length + k then s.rxWindow.lookup (n % mod)
    else none
  lookup : ∀ sn, s'.rxWindow.lookup sn = if s.rxDist sn < k then none else s.rxWindow.lookup sn
  mem : ∀ sn < mod, s.rxDist sn < k → sn ∈ s.rxWindow

variable {s s' : RlcAm} {k : Nat}

namespace Consumed

variable {sn : Nat}

section

variable (h : Consumed s k s')

include h

theorem rxDist (hr : s.vrR < mod) (hsn : sn < mod)
    : s'.rxDist sn + k = if s.rxDist sn < k then s.rxDist sn + mod else s.rxDist sn := by
  have hle := h.le
  unfold RlcAm.rxDist
  rw [h.vrR]
  apply Cyclic.dist_shift hr hsn
  simp only [mod, rlcAmWindowSize] at *
  omega

theorem mem_iff (sn : Nat)
    : sn ∈ s'.rxWindow ↔ k ≤ s.rxDist sn ∧ sn ∈ s.rxWindow := by
  rw [← lookup_isSome, ← lookup_isSome, h.lookup]
  split <;> simp <;> omega

theorem unwrapped (hr : s.vrR < mod) (hsn : sn < mod) (hge : k ≤ s.rxDist sn)
    : s'.consumed.length + s'.rxDist sn = s.consumed.length + s.rxDist sn := by
  have hdist := h.rxDist hr hsn
  rw [if_neg (by omega)] at hdist
  rw [h.length]
  omega

theorem outside (hr : s.vrR < mod) (hsn : sn < mod) (hlt : s.rxDist sn < k)
    : rlcAmWindowSize ≤ s'.rxDist sn := by
  have hdist := h.rxDist hr hsn
  have hle := h.le
  rw [if_pos hlt] at hdist
  simp only [mod, rlcAmWindowSize] at *
  omega

theorem consume (hs : RxPending s) {pdu : RlcAmdRxPdu}
    (hpdu : s'.rxWindow.lookup s'.vrR = some pdu)
    : Consumed s (k + 1) (reassembleRxSdus.consume s' pdu) := by
  have hmem : s'.vrR ∈ s'.rxWindow := lookup_isSome.mp (by rw [hpdu]; rfl)
  have hle := h.le
  have hkmod : k < mod := by
    simp only [mod, rlcAmWindowSize] at *
    omega
  have hvrR : s.rxDist s'.vrR = k := by
    unfold RlcAm.rxDist
    rw [h.vrR]
    exact Cyclic.dist_add_mod hs.vrR hkmod
  have hold : s.rxWindow.lookup s'.vrR = some pdu := by
    rw [h.lookup, if_neg (by omega)] at hpdu
    exact hpdu
  have hlt : s'.vrR < mod := (hs.keys _ ((h.mem_iff _).mp hmem).2).1
  have heq : ∀ sn < mod, s.rxDist sn = k → sn = s'.vrR := by
    intro sn hsn hdist
    rw [← hvrR] at hdist
    exact advanceVrMs.eq_of_rxDist_eq hs.vrR hsn hlt hdist
  exact {
    le := by
      have := (hs.keys _ ((h.mem_iff _).mp hmem).2).2
      have := hs.vrH_le
      omega
    vrR := by
      show (s'.vrR + 1) % mod = _
      rw [h.vrR, Nat.mod_add_mod]
      rfl
    length := by
      show (s'.consumed ++ [pdu]).length = _
      rw [length_append, h.length]
      rfl
    history := by
      intro n
      have hn := h.history n
      have hlength := h.length
      show (s'.consumed ++ [pdu])[n]? = _
      by_cases hlast : n = s.consumed.length + k
      . have hmod : n % mod = s'.vrR := by
          rw [h.vrR, hlast, ← hs.consumed, Nat.mod_add_mod]
        rw [if_neg (by omega), if_pos (by omega), hmod, hold]
        rw [getElem?_append_right (by omega)]
        have hzero : n - s'.consumed.length = 0 := by omega
        rw [hzero]
        rfl
      . by_cases hlt' : n < s'.consumed.length
        . rw [getElem?_append_left hlt', hn]
          split
          . rfl
          . rw [if_pos (by omega), if_pos (by omega)]
        . rw [if_neg (by omega), if_neg (by omega)]
          apply getElem?_eq_none
          simp only [length_append, length_singleton]
          omega
    lookup := by
      intro sn
      show Finmap.lookup sn (s'.rxWindow.erase s'.vrR) = _
      rw [Map.lookup_erase_ite, h.lookup]
      by_cases hsn : sn = s'.vrR
      . rw [if_pos hsn, if_pos (by rw [hsn]; omega)]
      . rw [if_neg hsn]
        by_cases hmod : sn < mod
        . have hne : s.rxDist sn ≠ k := fun hdist => hsn (heq sn hmod hdist)
          by_cases hdist : s.rxDist sn < k
          . rw [if_pos hdist, if_pos (by omega)]
          . rw [if_neg hdist, if_neg (by omega)]
        . have hnone : s.rxWindow.lookup sn = none := by
            rw [lookup_eq_none]
            exact fun hkey => hmod (hs.keys sn hkey).1
          rw [hnone]
          simp
    mem := by
      intro sn hsn hdist
      by_cases hdist' : s.rxDist sn < k
      . exact h.mem sn hsn hdist'
      . rw [heq sn hsn (by omega)]
        exact ((h.mem_iff _).mp hmem).2
  }

end

end Consumed

theorem consumed_reassembleRxSdus (hs : RxPending s) : ∃ k, Consumed s k s.reassembleRxSdus := by
  unfold reassembleRxSdus
  dsimp only
  apply Loop.whileDo_invariant (I := fun s' : RlcAm => ∃ k, Consumed s k s')
  . rintro s' ⟨k, hk⟩ hmem
    have ⟨pdu, hpdu, heq⟩ := reassembleRxSdus.body_eq hmem
    rw [heq]
    exact ⟨k + 1, hk.consume hs hpdu⟩
  . exact ⟨0, {
      le := Nat.zero_le _
      vrR := (Nat.mod_eq_of_lt hs.vrR).symm
      length := rfl
      history := by
        intro n
        split
        . rfl
        . rw [if_neg (by omega)]
          apply getElem?_eq_none
          show s.consumed.length ≤ n
          omega
      lookup := by simp
      mem := by
        intro sn _ hlt
        omega
    }⟩

theorem Consumed.congr {r r' : RlcAm} (h : Consumed s k s')
    (hs : r.rxWindow = s.rxWindow ∧ r.vrR = s.vrR ∧ r.consumed = s.consumed)
    (hs' : r'.rxWindow = s'.rxWindow ∧ r'.vrR = s'.vrR ∧ r'.consumed = s'.consumed)
    : Consumed r k r' := by
  have hdist : r.rxDist = s.rxDist := by
    unfold RlcAm.rxDist
    rw [hs.2.1]
  exact {
    le := h.le
    vrR := by rw [hs.2.1, hs'.2.1, h.vrR]
    length := by rw [hs.2.2, hs'.2.2, h.length]
    history := by rw [hs.1, hs.2.2, hs'.2.2]; exact h.history
    lookup := by rw [hdist, hs.1, hs'.1]; exact h.lookup
    mem := by rw [hdist, hs.1]; exact h.mem
  }

def Accepts (s : RlcAm) (payload : List UInt8) (header : RlcAmdPduHeader) : Prop :=
  s.insideRxWindow header.sn ∧ header.sn ∉ s.rxWindow ∧ payload.length ≤ ByteBuffer.getTailroom []

instance (s : RlcAm) (payload : List UInt8) (header : RlcAmdPduHeader)
    : Decidable (s.Accepts payload header) := by
  unfold Accepts
  infer_instance

variable {payload : List UInt8} {header : RlcAmdPduHeader}

theorem handleDataPdu_of_not_accepts (h : ¬ s.Accepts payload header)
    : ∃ doStatus, s.handleDataPdu payload header = { s with doStatus } := by
  unfold handleDataPdu
  split
  . exact ⟨_, rfl⟩
  . next hin =>
    split
    . exact ⟨_, rfl⟩
    . next hmem =>
      split
      . exact ⟨s.doStatus, rfl⟩
      . next hlen => exact absurd ⟨not_not.mp hin, hmem, Nat.le_of_not_lt hlen⟩ h

theorem handleDataPdu_of_accepts (h : s.Accepts payload header)
    : s.handleDataPdu payload header = (s.storePdu payload header).reassembleRxSdus.updateReordering := by
  have ⟨hin, hmem, hlen⟩ := h
  unfold handleDataPdu
  rw [if_neg (not_not.mpr hin), if_neg hmem, if_neg (Nat.not_lt.mpr hlen)]

theorem consumed_handleDataPdu (h : RxInv s) (hsn : header.sn < mod) (hacc : s.Accepts payload header)
    : ∃ k, Consumed { s with rxWindow := s.rxWindow.insert header.sn (s.rxPdu payload header) } k
        (s.handleDataPdu payload header) := by
  have hin := (h.insideRxWindow_iff hsn).mp hacc.1
  have ⟨k, hk⟩ := consumed_reassembleRxSdus (pending_storePdu h hsn hin payload).1
  rw [handleDataPdu_of_accepts hacc]
  refine ⟨k, hk.congr ?_ ?_⟩
  . have ⟨_, _, _, _, hstore⟩ := s.storePdu_frame payload header
    rw [hstore]
    exact ⟨rfl, rfl, rfl⟩
  . have ⟨_, _, hframe⟩ := (s.storePdu payload header).reassembleRxSdus.updateReordering_frame
    rw [hframe]
    exact ⟨rfl, rfl, rfl⟩

end SrsLte.RlcAm
