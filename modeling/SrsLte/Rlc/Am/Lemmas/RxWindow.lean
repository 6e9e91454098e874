import SrsLte.Rlc.Am.Lemmas.Basic
import SrsLte.Rlc.Am.Lemmas.Header

/-!
This module contains the receive window invariant. Distances are measured from `vr_r`, `consumed`
counts how often `vr_r` has been moved.
-/

namespace SrsLte.RlcAm

open Finmap

def rxDist (s : RlcAm) (sn : Nat) : Nat :=
  Cyclic.dist mod s.vrR sn

/--
The receive window between the handling of a PDU and the reassembly. The PDU with sequence number
`vr_r` may have arrived.

While the reordering timer runs, all PDUs from `vr_x` on and before `vr_ms` have been received. `vr_x`
is measured from `vr_h` because `vr_r` may already have passed it.
-/
structure RxPending (s : RlcAm) : Prop where
  vrR : s.vrR < mod
  vrMs : s.vrMs < mod
  vrH : s.vrH < mod
  vrX : s.vrX < mod
  vrMr : s.vrMr = (s.vrR + rlcAmWindowSize) % mod
  consumed : s.consumed.length % mod = s.vrR
  keys : ∀ sn ∈ s.rxWindow, sn < mod ∧ s.rxDist sn < s.rxDist s.vrH
  vrMs_le : s.rxDist s.vrMs ≤ s.rxDist s.vrH
  vrH_le : s.rxDist s.vrH ≤ rlcAmWindowSize
  vrMs_not_mem : s.vrMs ∉ s.rxWindow
  vrX_near : s.reorderingTimeout.isRunning → Cyclic.dist mod s.vrX s.vrH < rlcAmWindowSize
  received : s.reorderingTimeout.isRunning → ∀ sn < mod,
    s.rxDist s.vrH ≤ s.rxDist sn + Cyclic.dist mod s.vrX s.vrH → s.rxDist sn < s.rxDist s.vrMs →
      sn ∈ s.rxWindow

structure RxInv (s : RlcAm) : Prop extends RxPending s where
  vrR_not_mem : s.vrR ∉ s.rxWindow
  vrX_pos : s.reorderingTimeout.isRunning → 0 < s.rxDist s.vrX
  vrX_le : s.reorderingTimeout.isRunning → s.rxDist s.vrX ≤ s.rxDist s.vrH

structure WindowPart where
  rxWindow : Map RlcAmdRxPdu
  vrR : Nat
  vrMr : Nat
  vrX : Nat
  vrMs : Nat
  vrH : Nat
  reordering : Bool
  consumed : List RlcAmdRxPdu

def RxPart.window (part : RxPart) : WindowPart :=
  { part with }

def unwrappedVrMs (s : RlcAm) : Nat :=
  s.consumed.length + s.rxDist s.vrMs

variable {s : RlcAm}

theorem rxModBase_vrR (s : RlcAm) : s.rxModBase s.vrR = 0 := by
  unfold rxModBase u32Sub
  omega

variable {s' : RlcAm} {header : RlcAmdPduHeader} {segments : List RlcAmdRxPdu} {segment : RlcAmdRxPdu}

section

variable (hw : s'.rxPart.window = s.rxPart.window)

include hw

theorem rxDist_congr (sn : Nat)
    : s'.rxDist sn = s.rxDist sn := by
  have hvrR : s'.vrR = s.vrR := congrArg WindowPart.vrR hw
  unfold rxDist
  rw [hvrR]

theorem unwrappedVrMs_congr
    : s'.unwrappedVrMs = s.unwrappedVrMs := by
  have hvrMs : s'.vrMs = s.vrMs := congrArg WindowPart.vrMs hw
  have hconsumed : s'.consumed = s.consumed := congrArg WindowPart.consumed hw
  unfold unwrappedVrMs
  rw [rxDist_congr hw, hvrMs, hconsumed]

theorem RxPending.congr (h : RxPending s)
    : RxPending s' := by
  have hwindow : s'.rxWindow = s.rxWindow := congrArg WindowPart.rxWindow hw
  have hvrR : s'.vrR = s.vrR := congrArg WindowPart.vrR hw
  have hvrMr : s'.vrMr = s.vrMr := congrArg WindowPart.vrMr hw
  have hvrX : s'.vrX = s.vrX := congrArg WindowPart.vrX hw
  have hvrMs : s'.vrMs = s.vrMs := congrArg WindowPart.vrMs hw
  have hvrH : s'.vrH = s.vrH := congrArg WindowPart.vrH hw
  have hrunning : s'.reorderingTimeout.isRunning = s.reorderingTimeout.isRunning :=
    congrArg WindowPart.reordering hw
  have hconsumed : s'.consumed = s.consumed := congrArg WindowPart.consumed hw
  exact {
    vrR := by rw [hvrR]; exact h.vrR
    vrMs := by rw [hvrMs]; exact h.vrMs
    vrH := by rw [hvrH]; exact h.vrH
    vrX := by rw [hvrX]; exact h.vrX
    vrMr := by rw [hvrMr, hvrR]; exact h.vrMr
    consumed := by rw [hconsumed, hvrR]; exact h.consumed
    keys := by simp only [hwindow, rxDist_congr hw, hvrH]; exact h.keys
    vrMs_le := by simp only [rxDist_congr hw, hvrMs, hvrH]; exact h.vrMs_le
    vrH_le := by simp only [rxDist_congr hw, hvrH]; exact h.vrH_le
    vrMs_not_mem := by rw [hvrMs, hwindow]; exact h.vrMs_not_mem
    vrX_near := by rw [hrunning, hvrX, hvrH]; exact h.vrX_near
    received := by simp only [hrunning, rxDist_congr hw, hvrX, hvrH, hvrMs, hwindow]; exact h.received
  }

theorem RxInv.congr (h : RxInv s) : RxInv s' := by
  have hwindow : s'.rxWindow = s.rxWindow := congrArg WindowPart.rxWindow hw
  have hvrR : s'.vrR = s.vrR := congrArg WindowPart.vrR hw
  have hvrX : s'.vrX = s.vrX := congrArg WindowPart.vrX hw
  have hvrH : s'.vrH = s.vrH := congrArg WindowPart.vrH hw
  have hrunning : s'.reorderingTimeout.isRunning = s.reorderingTimeout.isRunning :=
    congrArg WindowPart.reordering hw
  exact {
    h.toRxPending.congr hw with
    vrR_not_mem := by rw [hvrR, hwindow]; exact h.vrR_not_mem
    vrX_pos := by rw [hrunning, rxDist_congr hw, hvrX]; exact h.vrX_pos
    vrX_le := by rw [hrunning, rxDist_congr hw, rxDist_congr hw, hvrX, hvrH]; exact h.vrX_le
  }

end

namespace RxPending

theorem rxModBase_eq (h : RxPending s) {x : Nat} (hx : x < mod) : s.rxModBase x = s.rxDist x :=
  RlcAm.rxModBase_eq h.vrR hx

theorem rxDist_vrMr (h : RxPending s) : s.rxDist s.vrMr = rlcAmWindowSize := by
  rw [h.vrMr]
  exact Cyclic.dist_add_mod h.vrR (by decide)

theorem vrMr_lt (h : RxPending s) : s.vrMr < mod := by
  rw [h.vrMr]
  exact Nat.mod_lt _ (by decide)

theorem insideRxWindow_iff (h : RxPending s) {sn : Nat} (hsn : sn < mod)
    : s.insideRxWindow sn ↔ s.rxDist sn < rlcAmWindowSize := by
  have hmod : sn % 2 ^ 16 = sn := by
    apply Nat.mod_eq_of_lt
    simp only [mod] at hsn
    omega
  unfold insideRxWindow
  rw [hmod, rxModBase_vrR, h.rxModBase_eq hsn, h.rxModBase_eq h.vrMr_lt, h.rxDist_vrMr]
  simp

theorem rxDist_vrR (s : RlcAm) : s.rxDist s.vrR = 0 :=
  Cyclic.dist_self mod s.vrR

end RxPending

namespace advanceVrMs

structure Moved (s : RlcAm) (vrMs : Nat) : Prop where
  lt : vrMs < mod
  ge : s.rxDist s.vrMs ≤ s.rxDist vrMs
  le : s.rxDist vrMs ≤ s.rxDist s.vrH
  received : ∀ sn < mod, s.rxDist s.vrMs ≤ s.rxDist sn → s.rxDist sn < s.rxDist vrMs → sn ∈ s.rxWindow

def ahead (s : RlcAm) (vrMs : Nat) : Finset Nat :=
  s.rxWindow.keys.filter (fun sn => s.rxDist vrMs ≤ s.rxDist sn)

variable {vrMs : Nat} (hr : s.vrR < mod)

include hr

theorem rxDist_succ (hlt : vrMs < mod) (hh : s.vrH < mod) (hdist : s.rxDist vrMs < s.rxDist s.vrH)
    : s.rxDist ((vrMs + 1) % mod) = s.rxDist vrMs + 1 := by
  have := Cyclic.dist_spec hr hh
  apply Cyclic.dist_succ_right hr hlt
  unfold rxDist at hdist
  omega

theorem eq_of_rxDist_eq {a b : Nat} (ha : a < mod) (hb : b < mod) (h : s.rxDist a = s.rxDist b) : a = b := by
  unfold rxDist at h
  rw [← Cyclic.add_dist_mod hr ha, h, Cyclic.add_dist_mod hr hb]

theorem Moved.step (hh : s.vrH < mod) (h : Moved s vrMs) (hmem : vrMs ∈ s.rxWindow)
    (hdist : s.rxDist vrMs < s.rxDist s.vrH)
    : Moved s ((vrMs + 1) % mod) := by
  have hsucc := rxDist_succ hr h.lt hh hdist
  have hge := h.ge
  refine { lt := Cyclic.succ_lt h.lt, ge := by omega, le := by omega, received := ?_ }
  intro sn hsn hge' hlt'
  by_cases heq : s.rxDist sn = s.rxDist vrMs
  . rw [eq_of_rxDist_eq hr hsn h.lt heq]
    exact hmem
  . exact h.received sn hsn hge' (by omega)

theorem card_ahead_lt (hh : s.vrH < mod) (hlt : vrMs < mod) (hmem : vrMs ∈ s.rxWindow)
    (hdist : s.rxDist vrMs < s.rxDist s.vrH)
    : (ahead s ((vrMs + 1) % mod)).card < (ahead s vrMs).card := by
  have hsucc := rxDist_succ hr hlt hh hdist
  apply Finset.card_lt_card
  rw [Finset.ssubset_iff_of_subset]
  . refine ⟨vrMs, ?_, ?_⟩
    . simp only [ahead, Finset.mem_filter, mem_keys]
      exact ⟨hmem, Nat.le_refl _⟩
    . simp only [ahead, Finset.mem_filter, hsucc]
      omega
  . intro sn hsn
    simp only [ahead, Finset.mem_filter, hsucc] at hsn ⊢
    exact ⟨hsn.1, by omega⟩

end advanceVrMs

open advanceVrMs in
theorem advanceVrMs_spec (hr : s.vrR < mod) (hms : s.vrMs < mod) (hh : s.vrH < mod)
    (hkeys : ∀ sn ∈ s.rxWindow, sn < mod ∧ s.rxDist sn < s.rxDist s.vrH)
    (hle : s.rxDist s.vrMs ≤ s.rxDist s.vrH)
    : ∃ vrMs, s.advanceVrMs = { s with vrMs } ∧ Moved s vrMs ∧ vrMs ∉ s.rxWindow := by
  have hstart : Moved s s.vrMs :=
    { lt := hms, ge := Nat.le_refl _, le := hle, received := by intro sn _ hge hlt; omega }
  have hbody : ∀ s' : RlcAm, (∃ vrMs, s' = { s with vrMs } ∧ Moved s vrMs) → s'.vrMs ∈ s'.rxWindow →
      (∃ vrMs, { s' with vrMs := (s'.vrMs + 1) % mod } = { s with vrMs } ∧ Moved s vrMs)
        ∧ (ahead s ((s'.vrMs + 1) % mod)).card < (ahead s s'.vrMs).card := by
    rintro s' ⟨vrMs, rfl, hmoved⟩ hmem
    have hdist := (hkeys vrMs hmem).2
    exact ⟨⟨_, rfl, hmoved.step hr hh hmem hdist⟩, card_ahead_lt hr hh hmoved.lt hmem hdist⟩
  have ⟨⟨vrMs, heq, hmoved⟩, hnot⟩ := Loop.whileDo_spec
    (I := fun s' : RlcAm => ∃ vrMs, s' = { s with vrMs } ∧ Moved s vrMs)
    (fun s' : RlcAm => (ahead s s'.vrMs).card) hbody s.rxWindow.size ⟨s.vrMs, rfl, hstart⟩
    (Finset.card_filter_le _ _)
  rw [heq] at hnot
  exact ⟨vrMs, heq, hmoved, hnot⟩

namespace reassembleRxSdus

theorem body_eq (hmem : s.vrR ∈ s.rxWindow)
    : ∃ pdu, s.rxWindow.lookup s.vrR = some pdu ∧ body s = consume s pdu := by
  have ⟨pdu, hpdu⟩ := Option.isSome_iff_exists.mp (lookup_isSome.mpr hmem)
  refine ⟨pdu, hpdu, ?_⟩
  unfold body
  rw [hpdu]

theorem rxDist_consume (pdu : RlcAmdRxPdu) {sn : Nat} (hr : s.vrR < mod) (hsn : sn < mod) (hne : sn ≠ s.vrR)
    : (consume s pdu).rxDist sn + 1 = s.rxDist sn :=
  Cyclic.dist_succ_left hr hsn (Ne.symm hne)

theorem rxDist_consume_vrR (pdu : RlcAmdRxPdu) (hr : s.vrR < mod) : (consume s pdu).rxDist s.vrR + 1 = mod := by
  have := Cyclic.dist_spec (Cyclic.succ_lt hr) hr
  have := Cyclic.succ_spec hr
  unfold rxDist
  have : (consume s pdu).vrR = (s.vrR + 1) % mod := rfl
  rw [this]
  simp only [mod] at *
  omega

theorem pending_consume (h : RxPending s) (hmem : s.vrR ∈ s.rxWindow) (pdu : RlcAmdRxPdu)
    : RxPending (consume s pdu) := by
  have hH : s.vrH ≠ s.vrR := by
    intro heq
    have := (h.keys _ hmem).2
    rw [heq] at this
    omega
  have hMs : s.vrMs ≠ s.vrR := by
    intro heq
    rw [← heq] at hmem
    exact h.vrMs_not_mem hmem
  have hdH := rxDist_consume pdu h.vrR h.vrH hH
  have hdMs := rxDist_consume pdu h.vrR h.vrMs hMs
  have hle := h.vrMs_le
  have hleH := h.vrH_le
  have hvrR : (consume s pdu).vrR = (s.vrR + 1) % mod := rfl
  exact {
    h with
    vrR := Cyclic.succ_lt h.vrR
    vrMr := by
      have : (consume s pdu).vrMr = (s.vrMr + 1) % mod := rfl
      rw [this, hvrR, h.vrMr]
      simp only [mod]
      omega
    consumed := by
      have : (consume s pdu).consumed = s.consumed ++ [pdu] := rfl
      rw [this, hvrR, List.length_append, ← h.consumed]
      simp only [mod, List.length_singleton]
      omega
    keys := by
      intro sn hsn
      have hsn := mem_erase.mp hsn
      have hkey := h.keys sn hsn.2
      have hdist := rxDist_consume pdu h.vrR hkey.1 hsn.1
      refine ⟨hkey.1, ?_⟩
      show (consume s pdu).rxDist sn < (consume s pdu).rxDist s.vrH
      omega
    vrMs_le := by
      show (consume s pdu).rxDist s.vrMs ≤ (consume s pdu).rxDist s.vrH
      omega
    vrH_le := by
      show (consume s pdu).rxDist s.vrH ≤ _
      omega
    vrMs_not_mem := by
      intro hmem'
      exact h.vrMs_not_mem (mem_erase.mp hmem').2
    received := by
      intro hrunning sn hsn hge hlt
      change (consume s pdu).rxDist s.vrH ≤ (consume s pdu).rxDist sn + Cyclic.dist mod s.vrX s.vrH at hge
      change (consume s pdu).rxDist sn < (consume s pdu).rxDist s.vrMs at hlt
      have hne : sn ≠ s.vrR := by
        intro heq
        have hlast := rxDist_consume_vrR pdu h.vrR
        rw [heq] at hlt
        simp only [mod, rlcAmWindowSize] at *
        omega
      have hdist := rxDist_consume pdu h.vrR hsn hne
      have hsn' := h.received hrunning sn hsn (by omega) (by omega)
      exact mem_erase.mpr ⟨hne, hsn'⟩
  }

theorem unwrappedVrMs_consume (h : RxPending s) (hmem : s.vrR ∈ s.rxWindow) (pdu : RlcAmdRxPdu)
    : (consume s pdu).unwrappedVrMs = s.unwrappedVrMs := by
  have hMs : s.vrMs ≠ s.vrR := by
    intro heq
    rw [← heq] at hmem
    exact h.vrMs_not_mem hmem
  have hdist := rxDist_consume pdu h.vrR h.vrMs hMs
  have hconsumed : (consume s pdu).consumed.length = s.consumed.length + 1 := by
    simp [consume]
  show (consume s pdu).consumed.length + (consume s pdu).rxDist s.vrMs = _
  unfold unwrappedVrMs
  omega

end reassembleRxSdus

open reassembleRxSdus in
theorem pending_reassembleRxSdus (h : RxPending s)
    : RxPending s.reassembleRxSdus
        ∧ s.reassembleRxSdus.unwrappedVrMs = s.unwrappedVrMs
        ∧ s.reassembleRxSdus.vrR ∉ s.reassembleRxSdus.rxWindow := by
  have hbody : ∀ s' : RlcAm, (RxPending s' ∧ s'.unwrappedVrMs = s.unwrappedVrMs) → s'.vrR ∈ s'.rxWindow →
      (RxPending (body s') ∧ (body s').unwrappedVrMs = s.unwrappedVrMs)
        ∧ (body s').rxWindow.size < s'.rxWindow.size := by
    intro s' hs' hmem
    have ⟨pdu, _, heq⟩ := body_eq hmem
    rw [heq]
    refine ⟨⟨pending_consume hs'.1 hmem pdu, ?_⟩, Map.size_erase_lt hmem⟩
    rw [unwrappedVrMs_consume hs'.1 hmem, hs'.2]
  have hstart : RxPending { s with rxSdu := some (s.rxSdu.getD []) } := .congr (s := s) rfl h
  have ⟨⟨hpending, hMs⟩, hnot⟩ := Loop.whileDo_spec
    (I := fun s' : RlcAm => RxPending s' ∧ s'.unwrappedVrMs = s.unwrappedVrMs)
    (fun s' : RlcAm => s'.rxWindow.size) hbody s.rxWindow.size ⟨hstart, rfl⟩ (Nat.le_refl _)
  exact ⟨hpending, hMs, hnot⟩

section

variable (h : RxPending s)

include h

theorem rxInv_start (hnot : s.vrR ∉ s.rxWindow) (hpos : 0 < s.rxDist s.vrH) (t : Timeout)
    : RxInv { s with reorderingTimeout := t, vrX := s.vrH } := {
  h with
  vrX := h.vrH
  vrX_near := by
    intro _
    rw [Cyclic.dist_self]
    decide
  received := by
    intro _ sn _ hge hlt
    rw [Cyclic.dist_self] at hge
    have hle := h.vrMs_le
    change s.rxDist s.vrH ≤ s.rxDist sn + 0 at hge
    change s.rxDist sn < s.rxDist s.vrMs at hlt
    omega
  vrR_not_mem := hnot
  vrX_pos := fun _ => hpos
  vrX_le := fun _ => Nat.le_refl _
}

theorem rxInv_stopped (hnot : s.vrR ∉ s.rxWindow) {t : Timeout} (ht : ¬ t.isRunning)
    : RxInv { s with reorderingTimeout := t } := {
  h with
  vrX_near := fun hrunning => absurd hrunning ht
  received := fun hrunning => absurd hrunning ht
  vrR_not_mem := hnot
  vrX_pos := fun hrunning => absurd hrunning ht
  vrX_le := fun hrunning => absurd hrunning ht
}

theorem RxPending.vrR_lt_vrH_iff : s.rxModBase s.vrH > s.rxModBase s.vrR ↔ 0 < s.rxDist s.vrH := by
  rw [rxModBase_vrR, h.rxModBase_eq h.vrH]

theorem rxInv_running (hnot : s.vrR ∉ s.rxWindow)
    (hkeep : ¬ (s.vrX = s.vrR ∨ (¬ s.insideRxWindow s.vrX ∧ s.vrX ≠ s.vrMr)))
    : RxInv s := by
  have hX := Cyclic.dist_spec h.vrR h.vrX
  have hpos : 0 < s.rxDist s.vrX := by
    rw [Nat.pos_iff_ne_zero]
    intro hzero
    exact hkeep (Or.inl ((Cyclic.dist_eq_zero h.vrR h.vrX).mp hzero).symm)
  have hin : s.rxDist s.vrX ≤ rlcAmWindowSize := by
    by_contra hgt
    apply hkeep
    right
    rw [h.insideRxWindow_iff h.vrX]
    refine ⟨by omega, ?_⟩
    intro heq
    rw [heq, h.rxDist_vrMr] at hgt
    omega
  refine { h with vrR_not_mem := hnot, vrX_pos := fun _ => hpos, vrX_le := ?_ }
  intro hrunning
  have hnear := h.vrX_near hrunning
  have hH := h.vrH_le
  have hXH := Cyclic.dist_spec h.vrX h.vrH
  have hRH := Cyclic.dist_spec h.vrR h.vrH
  unfold rxDist at *
  simp only [mod, rlcAmWindowSize] at *
  omega

theorem rxInv_startReordering (hnot : s.vrR ∉ s.rxWindow)
    (hrunning : s.reorderingTimeout.isRunning → RxInv s)
    : RxInv s.startReordering := by
  unfold startReordering
  split
  . next hstart => exact rxInv_start h hnot (h.vrR_lt_vrH_iff.mp hstart.2) _
  . by_cases hrun : s.reorderingTimeout.isRunning
    . exact hrunning hrun
    . exact rxInv_stopped h hnot hrun

theorem rxInv_updateReordering (hnot : s.vrR ∉ s.rxWindow) : RxInv s.updateReordering := by
  unfold updateReordering stopReordering
  split
  . have hstopped : RxInv { s with reorderingTimeout := s.reorderingTimeout.reset } :=
      rxInv_stopped h hnot (by simp [Timeout.isRunning, Timeout.reset])
    exact rxInv_startReordering hstopped.toRxPending hnot (fun _ => hstopped)
  . next hkeep =>
    apply rxInv_startReordering h hnot
    intro hrun
    exact rxInv_running h hnot (fun hpassed => hkeep ⟨hrun, hpassed⟩)

end

@[simp]
theorem unwrappedVrMs_updateReordering (s : RlcAm) : s.updateReordering.unwrappedVrMs = s.unwrappedVrMs := by
  unfold updateReordering stopReordering startReordering
  split <;> split <;> rfl

theorem updateVrH_spec (hr : s.vrR < mod) (hh : s.vrH < mod)
    (hsn : header.sn < mod) (hin : s.rxDist header.sn < rlcAmWindowSize)
    : ∃ vrH, s.updateVrH header = { s with vrH }
        ∧ vrH < mod
        ∧ s.rxDist vrH = max (s.rxDist s.vrH) (s.rxDist header.sn + 1) := by
  have hbase : ∀ x < mod, s.rxModBase x = s.rxDist x := fun x hx => RlcAm.rxModBase_eq hr hx
  have hsucc : s.rxDist ((header.sn + 1) % mod) = s.rxDist header.sn + 1 :=
    Cyclic.dist_succ_right hr hsn (by
      unfold rxDist at hin
      simp only [mod, rlcAmWindowSize] at *
      omega)
  unfold updateVrH
  rw [hbase _ hsn, hbase _ hh]
  split
  . exact ⟨_, rfl, Cyclic.succ_lt hsn, by rw [hsucc]; omega⟩
  . exact ⟨_, rfl, hh, by omega⟩

theorem RxInv.rxDist_vrX (h : RxInv s) (hrunning : s.reorderingTimeout.isRunning) {vrH : Nat} (hvrH : vrH < mod)
    (hge : s.rxDist s.vrH ≤ s.rxDist vrH)
    : s.rxDist s.vrX + Cyclic.dist mod s.vrX vrH = s.rxDist vrH :=
  Cyclic.dist_add h.vrR h.vrX hvrH (Nat.le_trans (h.vrX_le hrunning) hge)

theorem RxInv.raise (h : RxInv s) {vrH : Nat} (hvrH : vrH < mod) (hge : s.rxDist s.vrH ≤ s.rxDist vrH)
    (hle : s.rxDist vrH ≤ rlcAmWindowSize)
    : RxInv { s with vrH } := by
  have hMs := h.vrMs_le
  exact {
    h with
    vrH := hvrH
    keys := by
      intro sn hsn
      have hkey := h.keys sn hsn
      exact ⟨hkey.1, Nat.lt_of_lt_of_le hkey.2 hge⟩
    vrMs_le := Nat.le_trans hMs hge
    vrH_le := hle
    vrX_near := by
      intro hrunning
      have hX := h.rxDist_vrX hrunning hvrH hge
      have hpos := h.vrX_pos hrunning
      show Cyclic.dist mod s.vrX vrH < _
      omega
    received := by
      intro hrunning sn hsn hfrom hlt
      have hX := h.rxDist_vrX hrunning hvrH hge
      have hX' := h.rxDist_vrX hrunning h.vrH (Nat.le_refl _)
      apply h.received hrunning sn hsn
      . change s.rxDist vrH ≤ s.rxDist sn + Cyclic.dist mod s.vrX vrH at hfrom
        omega
      . exact hlt
    vrX_le := fun hrunning => Nat.le_trans (h.vrX_le hrunning) hge
  }

theorem RxInv.insert (h : RxInv s) {sn : Nat} (hsn : sn < mod) (hlt : s.rxDist sn < s.rxDist s.vrH) (pdu : RlcAmdRxPdu)
    : RxPending { s with rxWindow := s.rxWindow.insert sn pdu }.advanceVrMs
        ∧ s.unwrappedVrMs ≤ { s with rxWindow := s.rxWindow.insert sn pdu }.advanceVrMs.unwrappedVrMs := by
  have hkeys : ∀ sn' ∈ s.rxWindow.insert sn pdu, sn' < mod ∧ s.rxDist sn' < s.rxDist s.vrH := by
    intro sn' hsn'
    rw [mem_insert] at hsn'
    cases hsn' with
    | inl heq =>
      rw [heq]
      exact ⟨hsn, hlt⟩
    | inr hmem => exact h.keys sn' hmem
  have ⟨vrMs, heq, hmoved, hnot⟩ := advanceVrMs_spec
    (s := { s with rxWindow := s.rxWindow.insert sn pdu }) h.vrR h.vrMs h.vrH hkeys h.vrMs_le
  rw [heq]
  constructor
  . exact {
      h with
      vrMs := hmoved.lt
      keys := hkeys
      vrMs_le := hmoved.le
      vrMs_not_mem := hnot
      received := by
        intro hrunning sn' hsn' hfrom hlt'
        by_cases hold : s.rxDist sn' < s.rxDist s.vrMs
        . exact mem_insert.mpr (Or.inr (h.received hrunning sn' hsn' hfrom hold))
        . exact hmoved.received sn' hsn' (Nat.le_of_not_lt hold) hlt'
    }
  . exact Nat.add_le_add_left hmoved.ge _

@[simp]
theorem checkPollBit_window (s : RlcAm) (header : RlcAmdPduHeader)
    : (s.checkPollBit header).rxPart.window = s.rxPart.window := by
  unfold checkPollBit
  split
  . dsimp only
    split <;> rfl
  . rfl

theorem pending_storePdu (h : RxInv s) (hsn : header.sn < mod)
    (hin : s.rxDist header.sn < rlcAmWindowSize) (payload : List UInt8)
    : RxPending (s.storePdu payload header)
        ∧ s.unwrappedVrMs ≤ (s.storePdu payload header).unwrappedVrMs := by
  unfold storePdu
  dsimp only
  generalize s.rxPdu payload header = pdu
  have ⟨vrH, hupdate, hvrH, hmax⟩ := updateVrH_spec
    (s := { s with rxWindow := s.rxWindow.insert header.sn pdu }) h.vrR h.vrH hsn hin
  have hmax : s.rxDist vrH = max (s.rxDist s.vrH) (s.rxDist header.sn + 1) := hmax
  have hle := h.vrH_le
  have hraise := h.raise hvrH (by omega) (by omega)
  have ⟨hpending, hMs⟩ := hraise.insert hsn (by show s.rxDist header.sn < s.rxDist vrH; omega) pdu
  rw [hupdate]
  have hpoll := checkPollBit_window { s with rxWindow := s.rxWindow.insert header.sn pdu, vrH }.advanceVrMs header
  rw [unwrappedVrMs_congr hpoll]
  exact ⟨hpending.congr hpoll, hMs⟩

theorem rxInv_handleDataPdu (h : RxInv s) (payload : List UInt8) (hsn : header.sn < mod)
    : RxInv (s.handleDataPdu payload header)
        ∧ s.unwrappedVrMs ≤ (s.handleDataPdu payload header).unwrappedVrMs := by
  have hunstored : RxInv (s.pollUnstored header)
      ∧ s.unwrappedVrMs ≤ (s.pollUnstored header).unwrappedVrMs :=
    ⟨.congr (s := s) rfl h, Nat.le_refl _⟩
  unfold handleDataPdu
  split
  . exact hunstored
  . next hin =>
    rw [not_not, h.insideRxWindow_iff hsn] at hin
    split
    . exact hunstored
    . split
      . exact ⟨h, Nat.le_refl _⟩
      . have ⟨hpending, hMs⟩ := pending_storePdu h hsn hin payload
        have ⟨hpending', hMs', hnot⟩ := pending_reassembleRxSdus hpending
        rw [unwrappedVrMs_updateReordering, hMs']
        exact ⟨rxInv_updateReordering hpending' hnot, hMs⟩

def Segmented (s : RlcAm) : Prop :=
  ∀ sn segments, s.rxSegments.lookup sn = some segments → ∀ segment ∈ segments, segment.header.sn = sn

theorem Segmented.congr (hsegments : s'.rxSegments = s.rxSegments) (h : Segmented s)
    : Segmented s' := by
  unfold Segmented
  rw [hsegments]
  exact h

theorem Segmented.insert (h : Segmented s) {sn : Nat} {segments : List RlcAmdRxPdu}
    (hsegments : ∀ segment ∈ segments, segment.header.sn = sn)
    : Segmented { s with rxSegments := s.rxSegments.insert sn segments } := by
  intro sn' segments' hlookup
  by_cases heq : sn' = sn
  . subst heq
    rw [lookup_insert] at hlookup
    cases hlookup
    exact hsegments
  . rw [lookup_insert_of_ne _ heq] at hlookup
    exact h sn' segments' hlookup

theorem Segmented.erase (h : Segmented s) (sn : Nat)
    : Segmented { s with rxSegments := s.rxSegments.erase sn } := by
  intro sn' segments' hlookup
  by_cases heq : sn' = sn
  . subst heq
    rw [lookup_erase] at hlookup
    cases hlookup
  . rw [lookup_erase_ne heq] at hlookup
    exact h sn' segments' hlookup

theorem handleDataPdu_rxSegments (s : RlcAm) (payload : List UInt8) (header : RlcAmdPduHeader)
    : (s.handleDataPdu payload header).rxSegments = s.rxSegments := by
  have ⟨_, _, _, _, _, _, _, _, _, _, _, _, hframe⟩ := s.handleDataPdu_frame payload header
  rw [hframe]

theorem checkReorderingTimeout_rxSegments (s : RlcAm)
    : s.checkReorderingTimeout.rxSegments = s.rxSegments := by
  have ⟨_, _, _, _, hframe, _⟩ := s.checkReorderingTimeout_frame
  rw [hframe]

theorem rxInv_checkReorderingTimeout (h : RxInv s)
    : RxInv s.checkReorderingTimeout ∧ s.unwrappedVrMs ≤ s.checkReorderingTimeout.unwrappedVrMs := by
  unfold checkReorderingTimeout
  split
  . next hexpired =>
    have hrunning : s.reorderingTimeout.isRunning := (Bool.and_eq_true_iff.mp hexpired).1
    have hstopped : RxInv { s with reorderingTimeout := s.reorderingTimeout.reset } :=
      rxInv_stopped h.toRxPending h.vrR_not_mem (by simp [Timeout.isRunning, Timeout.reset])
    have ⟨vrMs, heq, hmoved, hnot⟩ := advanceVrMs_spec
      (s := { s with reorderingTimeout := s.reorderingTimeout.reset, vrMs := s.vrX })
      h.vrR h.vrX h.vrH h.keys (h.vrX_le hrunning)
    -- everything from `vr_x` up to the old `vr_ms` is in `rx_window`, so the loop passes it
    have hge : s.rxDist s.vrMs ≤ s.rxDist vrMs := by
      have hX := h.rxDist_vrX hrunning h.vrH (Nat.le_refl _)
      have hmoved' : s.rxDist s.vrX ≤ s.rxDist vrMs := hmoved.ge
      by_contra hlt
      exact hnot (h.received hrunning vrMs hmoved.lt (by omega) (by omega))
    have hadvanced : RxInv { s with reorderingTimeout := s.reorderingTimeout.reset, vrMs } :=
      { hstopped with
        vrMs := hmoved.lt
        vrMs_le := hmoved.le
        vrMs_not_mem := hnot
        vrX_near := fun hrun => absurd hrun (by simp [Timeout.isRunning, Timeout.reset])
        received := fun hrun => absurd hrun (by simp [Timeout.isRunning, Timeout.reset])
      }
    dsimp only
    rw [heq]
    dsimp only
    split
    . next hstart =>
      have hpos : 0 < s.rxDist s.vrH := by
        change s.rxModBase vrMs < s.rxModBase s.vrH at hstart
        rw [← h.rxModBase_eq h.vrH]
        omega
      have hstarted := rxInv_start hadvanced.toRxPending h.vrR_not_mem hpos
        (s.reorderingTimeout.reset.start s.cfg.tReordering)
      exact ⟨hstarted.congr (by rfl), Nat.add_le_add_left hge _⟩
    . exact ⟨hadvanced.congr (by rfl), Nat.add_le_add_left hge _⟩
  . exact ⟨h, Nat.le_refl _⟩

theorem addSegmentAndCheck.addSegment_sn {sn : Nat}
    (hsegments : ∀ x ∈ segments, x.header.sn = sn) (hsegment : segment.header.sn = sn)
    : (∀ x ∈ (addSegment segments segment).1, x.header.sn = sn)
        ∧ ∀ pdu, (addSegment segments segment).2 = some pdu → pdu.2.sn = sn := by
  have happend : ∀ x ∈ segments ++ [segment], x.header.sn = sn := by
    intro x hx
    rw [List.mem_append, List.mem_singleton] at hx
    cases hx with
    | inl hmem => exact hsegments x hmem
    | inr heq => rw [heq, hsegment]
  have hfirst : (segments.headD segment).header.sn = sn := by
    cases segments with
    | nil => exact hsegment
    | cons first rest => exact hsegments first List.mem_cons_self
  unfold addSegment
  split
  . simp [hsegment]
  . dsimp only
    split
    . exact ⟨hsegments, by simp⟩
    . split
      . refine ⟨happend, ?_⟩
        intro pdu hpdu
        cases hpdu
        exact hfirst
      . exact ⟨happend, by simp⟩

structure RxStored (s : RlcAm) : Prop extends RxInv s where
  segmented : Segmented s

theorem RxStored.congr (hw : s'.rxPart.window = s.rxPart.window)
    (hsegments : s'.rxSegments = s.rxSegments) (h : RxStored s)
    : RxStored s' :=
  { h.toRxInv.congr hw with segmented := h.segmented.congr hsegments }

section

variable (h : RxStored s)

include h

theorem rxStored_handleDataPdu (payload : List UInt8) (hsn : header.sn < mod)
    : RxStored (s.handleDataPdu payload header)
        ∧ s.unwrappedVrMs ≤ (s.handleDataPdu payload header).unwrappedVrMs := by
  have ⟨hinv, hMs⟩ := rxInv_handleDataPdu h.toRxInv payload hsn
  exact ⟨{ hinv with segmented := h.segmented.congr (handleDataPdu_rxSegments _ _ _) }, hMs⟩

theorem rxStored_addSegmentAndCheck {sn : Nat} (hsn : sn < mod)
    (hsegments : ∀ x ∈ segments, x.header.sn = sn) (hsegment : segment.header.sn = sn)
    : RxStored (s.addSegmentAndCheck sn segments segment)
        ∧ s.unwrappedVrMs ≤ (s.addSegmentAndCheck sn segments segment).unwrappedVrMs := by
  have ⟨hkept, hcomplete⟩ := addSegmentAndCheck.addSegment_sn hsegments hsegment
  unfold addSegmentAndCheck
  split
  . next segments' heq =>
    rw [heq] at hkept
    have hinv : RxInv { s with rxSegments := s.rxSegments.insert sn segments' } := .congr (s := s) rfl h.toRxInv
    exact ⟨{ hinv with segmented := h.segmented.insert hkept }, Nat.le_refl _⟩
  . next payload header heq =>
    have hheader : header.sn = sn := hcomplete _ (by rw [heq])
    have hlt : header.sn < mod := by
      rw [hheader]
      exact hsn
    have ⟨hstored, hMs⟩ := rxStored_handleDataPdu h payload hlt
    dsimp only
    generalize s.handleDataPdu payload header = s' at *
    have hinv : RxInv { s' with rxSegments := s'.rxSegments.erase sn } := .congr (s := s') rfl hstored.toRxInv
    exact ⟨{ hinv with segmented := hstored.segmented.erase sn }, hMs⟩

theorem rxStored_handleDataPduSegment (payload : List UInt8) (hsn : header.sn < mod)
    : RxStored (s.handleDataPduSegment payload header)
        ∧ s.unwrappedVrMs ≤ (s.handleDataPduSegment payload header).unwrappedVrMs := by
  have hpolled : RxStored (s.pollUnstored header) := .congr (s := s) rfl rfl h
  unfold handleDataPduSegment
  split
  . exact ⟨hpolled, Nat.le_refl _⟩
  . next hin =>
    rw [not_not, h.insideRxWindow_iff hsn] at hin
    dsimp only
    split
    . next segments hlookup =>
      exact rxStored_addSegmentAndCheck hpolled hsn (h.segmented _ _ hlookup) rfl
    . generalize hseg : s.rxSegments.insert header.sn [s.rxPdu payload header] = rxSegments
      have hsegmented : Segmented { s with rxSegments } := by
        rw [← hseg]
        exact h.segmented.insert (by simp [rxPdu])
      have ⟨vrH, hupdate, hvrH, hmax⟩ := updateVrH_spec (s := { s with rxSegments }) h.vrR h.vrH hsn hin
      have hmax : s.rxDist vrH = max (s.rxDist s.vrH) (s.rxDist header.sn + 1) := hmax
      have hle := h.vrH_le
      have hraised : RxInv { s with rxSegments, vrH } :=
        .congr (by rfl) (h.toRxInv.raise hvrH (by omega) (by omega))
      rw [hupdate]
      have ⟨_, _, hpoll⟩ := checkPollBit_frame { s with rxSegments, vrH } header
      rw [hpoll]
      constructor
      . exact { hraised.congr rfl with segmented := hsegmented.congr rfl }
      . exact Nat.le_refl _

theorem rxStored_writePdu (payload : List UInt8)
    : RxStored (s.writePdu payload) ∧ s.unwrappedVrMs ≤ (s.writePdu payload).unwrappedVrMs := by
  unfold writePdu
  split
  . exact ⟨h, Nat.le_refl _⟩
  . split
    . have hrx := s.handleControlPdu_rxPart payload
      have hw := congrArg RxPart.window hrx
      exact ⟨h.congr hw (congrArg RxPart.rxSegments hrx), Nat.le_of_eq (unwrappedVrMs_congr hw).symm⟩
    . split
      . next header rest hread =>
        have hsn := rlcAmReadDataPduHeader_sn_lt hread
        split
        . exact rxStored_handleDataPduSegment h rest hsn
        . exact rxStored_handleDataPdu h rest hsn
      . exact ⟨h, Nat.le_refl _⟩

theorem rxStored_getBufferState
    : RxStored s.getBufferState.1 ∧ s.unwrappedVrMs ≤ s.getBufferState.1.unwrappedVrMs := by
  have ⟨hinv, hMs⟩ := rxInv_checkReorderingTimeout h.toRxInv
  have ⟨status, hrx, _⟩ := s.getBufferState_rxPart
  have hw : s.getBufferState.1.rxPart.window = s.checkReorderingTimeout.rxPart.window := by
    rw [hrx]
    rfl
  have hsegments : s.getBufferState.1.rxSegments = s.rxSegments := by
    rw [← checkReorderingTimeout_rxSegments s]
    exact congrArg RxPart.rxSegments hrx
  rw [unwrappedVrMs_congr hw]
  exact ⟨{ hinv.congr hw with segmented := h.segmented.congr hsegments }, hMs⟩

end

theorem rxStored_of_rxPart (hw : s'.rxPart.window = s.rxPart.window)
    (hsegments : s'.rxPart.rxSegments = s.rxPart.rxSegments) (h : RxStored s)
    : RxStored s' ∧ s.unwrappedVrMs ≤ s'.unwrappedVrMs :=
  ⟨h.congr hw hsegments, Nat.le_of_eq (unwrappedVrMs_congr hw).symm⟩

theorem rxStored_step (h : RxStored s) (e : Event)
    : RxStored (s.step e) ∧ s.unwrappedVrMs ≤ (s.step e).unwrappedVrMs := by
  cases e with
  | writeSdu sdu =>
    have hrx := s.writeSdu_rxPart sdu
    exact rxStored_of_rxPart (congrArg RxPart.window hrx) (congrArg RxPart.rxSegments hrx) h
  | elapse pollRetx reordering statusProhibit => exact rxStored_of_rxPart (by rfl) (by rfl) h
  | getBufferState => exact rxStored_getBufferState h
  | readPdu nofBytes =>
    have ⟨_, _, hrx⟩ := s.readPdu_rxPart nofBytes
    have hw := congrArg RxPart.window hrx
    have hsegments := congrArg RxPart.rxSegments hrx
    exact rxStored_of_rxPart hw hsegments h
  | writePdu payload => exact rxStored_writePdu h payload

theorem rxStored_init (cfg : SrslteRlcAmConfig) : RxStored (init cfg) where
  vrR := by simp [init, mod]
  vrMs := by simp [init, mod]
  vrH := by simp [init, mod]
  vrX := by simp [init, mod]
  vrMr := by simp [init, mod, rlcAmWindowSize]
  consumed := by simp [init]
  keys := by
    intro sn hsn
    exact absurd hsn notMem_empty
  vrMs_le := Nat.le_refl _
  vrH_le := by simp [rxDist, init, Cyclic.dist_self]
  vrMs_not_mem := notMem_empty
  vrX_near := by
    intro hrunning
    cases hrunning
  received := by
    intro hrunning
    cases hrunning
  vrR_not_mem := notMem_empty
  vrX_pos := by
    intro hrunning
    cases hrunning
  vrX_le := by
    intro hrunning
    cases hrunning
  segmented := by
    intro sn segments hlookup
    cases hlookup

theorem rxStored_exec (cfg : SrslteRlcAmConfig) (es : List Event) : RxStored (Trace.exec step (init cfg) es) :=
  Trace.exec_invariant (P := RxStored) (fun _ e h => (rxStored_step h e).1) es (rxStored_init cfg)

/--
The order of the state variables of the receiving side (Section 7.1 in TS 36.322), measured from `vr_r`.
-/
structure RxWindowInv (s : RlcAm) : Prop where
  vrMr : s.vrMr = (s.vrR + rlcAmWindowSize) % mod
  vrMs_le : s.rxDist s.vrMs ≤ s.rxDist s.vrH
  vrH_le : s.rxDist s.vrH ≤ rlcAmWindowSize
  keys : ∀ sn ∈ s.rxWindow, sn < mod ∧ 0 < s.rxDist sn ∧ s.rxDist sn < s.rxDist s.vrH
  vrMs_not_mem : s.vrMs ∉ s.rxWindow
  vrX : s.reorderingTimeout.isRunning → 0 < s.rxDist s.vrX ∧ s.rxDist s.vrX ≤ rlcAmWindowSize

theorem RxStored.rxWindowInv (h : RxStored s) : RxWindowInv s where
  vrMr := h.vrMr
  vrMs_le := h.vrMs_le
  vrH_le := h.vrH_le
  keys := by
    intro sn hsn
    have ⟨hlt, hdist⟩ := h.keys sn hsn
    refine ⟨hlt, ?_, hdist⟩
    rw [Nat.pos_iff_ne_zero]
    intro hzero
    apply h.vrR_not_mem
    rw [(Cyclic.dist_eq_zero h.vrR hlt).mp hzero]
    exact hsn
  vrMs_not_mem := h.vrMs_not_mem
  vrX := by
    intro hrunning
    exact ⟨h.vrX_pos hrunning, Nat.le_trans (h.vrX_le hrunning) h.vrH_le⟩

theorem RxPending.unwrappedVrMs_mod (h : RxPending s) : s.unwrappedVrMs % mod = s.vrMs := by
  unfold unwrappedVrMs
  rw [Nat.add_mod, h.consumed, ← Nat.mod_eq_of_lt h.vrR, ← Nat.add_mod]
  exact Cyclic.add_dist_mod h.vrR h.vrMs

theorem rxWindowInv_exec (cfg : SrslteRlcAmConfig) (es : List Event) (e : Event)
    : RxWindowInv (Trace.exec step (init cfg) es)
        ∧ (Trace.exec step (init cfg) es).unwrappedVrMs % mod = (Trace.exec step (init cfg) es).vrMs
        ∧ (Trace.exec step (init cfg) es).unwrappedVrMs ≤ ((Trace.exec step (init cfg) es).step e).unwrappedVrMs := by
  have h := rxStored_exec cfg es
  exact ⟨h.rxWindowInv, h.unwrappedVrMs_mod, (rxStored_step h e).2⟩

end SrsLte.RlcAm
