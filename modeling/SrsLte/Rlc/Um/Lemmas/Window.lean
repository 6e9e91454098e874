import SrsLte.Data.Cyclic
import SrsLte.Rlc.Um.Lemmas.Header

/-!
This module contains the reordering window and the receive state invariant of `rlc_um`. The sequence numbers are
followed without wrapping around, `ur` and `uh` stand for `vr_ur` and `vr_uh`.
-/

namespace SrsLte

open Finmap

def SrslteRlcUmConfig.Reordering (cfg : SrslteRlcUmConfig) : Prop :=
  (cfg.rxMod = 32 ∧ cfg.rxWindowSize = 16 ∧ cfg.rxSnFieldLength = .size5Bits)
    ∨ (cfg.rxMod = 1024 ∧ cfg.rxWindowSize = 512 ∧ cfg.rxSnFieldLength = .size10Bits)

theorem SrslteRlcUmConfig.Reordering.rxMod_eq {cfg : SrslteRlcUmConfig} (h : cfg.Reordering)
    : cfg.rxMod = 2 * cfg.rxWindowSize ∧ 0 < cfg.rxWindowSize := by
  cases h with
  | inl h => omega
  | inr h => omega

namespace RlcUm

open reassembleRxSdus

variable {s : RlcUm} {ur uh : Nat}
variable {s' : RlcUm} {n : Nat}

section

variable (hcfg : s.cfg.Reordering)

include hcfg

theorem rxModBase_mod (hvrUh : s.vrUh = uh % s.cfg.rxMod)
    (hge : uh ≤ n + s.cfg.rxWindowSize) (hlt : n < uh + s.cfg.rxWindowSize)
    : s.rxModBase (n % s.cfg.rxMod) = n + s.cfg.rxWindowSize - uh := by
  unfold rxModBase u32Sub
  rw [hvrUh]
  cases hcfg with
  | inl h =>
    rw [h.2.1] at hge hlt
    rw [h.1, h.2.1]
    omega
  | inr h =>
    rw [h.2.1] at hge hlt
    rw [h.1, h.2.1]
    omega

theorem rxModBase_vrUh (hvrUh : s.vrUh = uh % s.cfg.rxMod)
    : s.rxModBase s.vrUh = s.cfg.rxWindowSize := by
  have hmod := hcfg.rxMod_eq
  rw [hvrUh, rxModBase_mod hcfg hvrUh (by omega) (by omega)]
  omega

theorem rxModBase_lower (hvrUh : s.vrUh = uh % s.cfg.rxMod)
    : s.rxModBase (u32Sub s.vrUh s.cfg.rxWindowSize) = 0 := by
  unfold rxModBase u32Sub
  rw [hvrUh]
  cases hcfg with
  | inl h =>
    rw [h.1, h.2.1]
    omega
  | inr h =>
    rw [h.1, h.2.1]
    omega

theorem insideReorderingWindow_iff (hvrUh : s.vrUh = uh % s.cfg.rxMod)
    (hge : uh ≤ n + s.cfg.rxMod) (hlt : n < uh + s.cfg.rxWindowSize)
    : s.insideReorderingWindow (n % s.cfg.rxMod) ↔ uh ≤ n + s.cfg.rxWindowSize ∧ n < uh := by
  have hmod := hcfg.rxMod_eq
  have hne : ¬ s.cfg.rxWindowSize = 0 := by omega
  have hsn : n % s.cfg.rxMod % 2 ^ 16 = n % s.cfg.rxMod := by
    apply Nat.mod_eq_of_lt
    have := Nat.mod_lt n (show s.cfg.rxMod > 0 by omega)
    cases hcfg with
    | inl h => omega
    | inr h => omega
  unfold insideReorderingWindow
  rw [if_neg hne, hsn, rxModBase_vrUh hcfg hvrUh, rxModBase_lower hcfg hvrUh]
  simp only [ge_iff_le, Nat.zero_le, decide_true, Bool.true_and, decide_eq_true_eq]
  by_cases hnear : uh ≤ n + s.cfg.rxWindowSize
  . rw [rxModBase_mod hcfg hvrUh hnear hlt]
    omega
  . have hwrap : n % s.cfg.rxMod = (n + s.cfg.rxMod) % s.cfg.rxMod := by
      rw [Nat.add_mod_right]
    rw [hwrap, rxModBase_mod hcfg hvrUh (by omega) (by omega)]
    omega

end

def RxFrame (s s' : RlcUm) : Prop :=
  ∃ rxSdu vrUrInRxSdu pduLost pdcp rxWindow vrUr,
    s' = { s with rxSdu, vrUrInRxSdu, pduLost, pdcp, rxWindow, vrUr }

theorem RxFrame.refl (s : RlcUm) : RxFrame s s :=
  ⟨_, _, _, _, _, _, rfl⟩

section

variable (h : RxFrame s s')

include h

theorem RxFrame.trans {s'' : RlcUm} (h' : RxFrame s' s'') : RxFrame s s'' := by
  have ⟨_, _, _, _, _, _, heq⟩ := h
  have ⟨_, _, _, _, _, _, heq'⟩ := h'
  rw [heq', heq]
  exact ⟨_, _, _, _, _, _, rfl⟩

theorem RxFrame.cfg : s'.cfg = s.cfg := by
  have ⟨_, _, _, _, _, _, heq⟩ := h
  rw [heq]

theorem RxFrame.vrUh : s'.vrUh = s.vrUh := by
  have ⟨_, _, _, _, _, _, heq⟩ := h
  rw [heq]

theorem RxFrame.vrUx : s'.vrUx = s.vrUx := by
  have ⟨_, _, _, _, _, _, heq⟩ := h
  rw [heq]

theorem RxFrame.reorderingTimer
    : s'.reorderingTimer = s.reorderingTimer := by
  have ⟨_, _, _, _, _, _, heq⟩ := h
  rw [heq]

end

/--
The receiving side during the reassembly. `vr_ur` may be below the lower edge of the reordering window
and its PDU may have been received.
-/
structure Pending (ur uh : Nat) (s : RlcUm) : Prop where
  cfg : s.cfg.Reordering
  vrUr : s.vrUr = ur % s.cfg.rxMod
  vrUh : s.vrUh = uh % s.cfg.rxMod
  base : s.cfg.rxMod ≤ ur
  le : ur ≤ uh
  near : uh ≤ ur + s.cfg.rxMod
  keys : ∀ sn ∈ s.rxWindow, ∃ n, ur ≤ n ∧ n < uh ∧ sn = n % s.cfg.rxMod
  newest : ur < uh → (uh - 1) % s.cfg.rxMod ∈ s.rxWindow

theorem mod_ne_mod {m k : Nat} (hlt : n < k) (hnear : k < n + m) : k % m ≠ n % m := by
  intro heq
  have hdvd : m ∣ k - n := Nat.dvd_of_mod_eq_zero (Nat.sub_mod_eq_zero_of_mod_eq heq)
  have hle := Nat.le_of_dvd (by omega) hdvd
  omega

namespace Pending

section

variable (h : Pending ur uh s)

include h

theorem lt_of_mem (hmem : s.vrUr ∈ s.rxWindow) : ur < uh := by
  have ⟨n, hn, hn', _⟩ := h.keys _ hmem
  omega

theorem advance {s' : RlcUm} (hlt : ur < uh) (hframe : RxFrame s s')
    (hvrUr : s'.vrUr = (s.vrUr + 1) % s.cfg.rxMod)
    (hmem : ∀ sn, sn ∈ s'.rxWindow ↔ sn ≠ s.vrUr ∧ sn ∈ s.rxWindow)
    : Pending (ur + 1) uh s' := by
  have hnear := h.near
  have hbase := h.base
  have hcfg := hframe.cfg
  exact {
    cfg := by
      rw [hcfg]
      exact h.cfg
    vrUr := by
      rw [hvrUr, hcfg, h.vrUr, Nat.mod_add_mod]
    vrUh := by
      rw [hframe.vrUh, hcfg]
      exact h.vrUh
    base := by
      rw [hcfg]
      omega
    le := hlt
    near := by
      rw [hcfg]
      omega
    keys := by
      intro sn hsn
      have ⟨hold, hsn⟩ := (hmem sn).mp hsn
      have ⟨n, hn, hn', heq⟩ := h.keys sn hsn
      rw [hcfg]
      refine ⟨n, ?_, hn', heq⟩
      rw [heq, h.vrUr] at hold
      have hur : n ≠ ur := by
        intro hur
        rw [hur] at hold
        exact hold rfl
      omega
    newest := by
      intro hlt'
      rw [hcfg, hmem, h.vrUr]
      exact ⟨mod_ne_mod (by omega) (by omega), h.newest hlt⟩
  }

theorem pass (hlt : ur < uh) (hmissing : s.vrUr ∉ s.rxWindow) {s' : RlcUm} (hframe : RxFrame s s')
    (hvrUr : s'.vrUr = (s.vrUr + 1) % s.cfg.rxMod) (hwindow : s'.rxWindow = s.rxWindow)
    : Pending (ur + 1) uh s' := by
  apply h.advance hlt hframe hvrUr
  intro sn
  rw [hwindow]
  refine ⟨fun hsn => ⟨?_, hsn⟩, And.right⟩
  intro heq
  rw [heq] at hsn
  exact hmissing hsn

theorem consume (hlt : ur < uh) (st : Assembly) : Pending (ur + 1) uh (consume s st) := by
  apply h.advance hlt ⟨_, _, _, _, _, _, rfl⟩ rfl
  intro sn
  exact mem_erase

theorem lowerEdge_cond_iff (hlt : ur < uh)
    : lowerEdge.cond s ↔ ur + s.cfg.rxWindowSize < uh := by
  have hinside := insideReorderingWindow_iff h.cfg h.vrUh h.near (by omega)
  unfold lowerEdge.cond
  rw [h.vrUr, hinside]
  omega

theorem lowerEdge_body (hlt : ur < uh)
    : Pending (ur + 1) uh (lowerEdge.body s) ∧ RxFrame s (lowerEdge.body s) := by
  unfold lowerEdge.body
  split
  next hnone =>
    have hframe : RxFrame s { s with rxSdu := some [], vrUr := (s.vrUr + 1) % s.cfg.rxMod } :=
      ⟨_, _, _, _, _, _, rfl⟩
    exact ⟨h.pass hlt (lookup_eq_none.mp hnone) hframe rfl rfl, hframe⟩
  next pdu _ => exact ⟨h.consume hlt _, ⟨_, _, _, _, _, _, rfl⟩⟩

theorem update_body (hcond : update.cond s)
    : Pending (ur + 1) uh (update.body s) ∧ RxFrame s (update.body s) := by
  unfold update.body
  split
  next hnone => exact absurd hcond (lookup_eq_none.mp hnone)
  next pdu _ => exact ⟨h.consume (h.lt_of_mem hcond) _, ⟨_, _, _, _, _, _, rfl⟩⟩

end

theorem lowerEdge_loop (h : Pending ur uh s) (hlt : ur < uh) (fuel : Nat)
    (hfuel : uh ≤ ur + s.cfg.rxWindowSize + fuel)
    : ∃ ur', ur ≤ ur' ∧ ur' < uh ∧ uh ≤ ur' + s.cfg.rxWindowSize
        ∧ Pending ur' uh (Loop.whileDo lowerEdge.cond lowerEdge.body fuel s)
        ∧ RxFrame s (Loop.whileDo lowerEdge.cond lowerEdge.body fuel s) := by
  induction fuel generalizing s ur with
  | zero => exact ⟨ur, Nat.le_refl ur, hlt, hfuel, h, .refl s⟩
  | succ fuel ih =>
    have hcond := h.lowerEdge_cond_iff hlt
    by_cases hbelow : lowerEdge.cond s
    . have ⟨hbody, hframe⟩ := h.lowerEdge_body hlt
      have hcfg := hframe.cfg
      have hmod := h.cfg.rxMod_eq
      rw [Loop.whileDo_succ_of_cond _ _ fuel hbelow]
      rw [hcond] at hbelow
      have ⟨ur', hge, hlt', hinside, hpending, hframe'⟩ := ih hbody (by omega) (by rw [hcfg]; omega)
      rw [hcfg] at hinside
      exact ⟨ur', by omega, hlt', hinside, hpending, hframe.trans hframe'⟩
    . rw [Loop.whileDo_of_not_cond _ _ _ hbelow]
      rw [hcond] at hbelow
      exact ⟨ur, Nat.le_refl ur, hlt, by omega, h, .refl s⟩

theorem update_loop (h : Pending ur uh s) (fuel : Nat)
    : ∃ ur', ur ≤ ur' ∧ Pending ur' uh (Loop.whileDo update.cond update.body fuel s)
        ∧ RxFrame s (Loop.whileDo update.cond update.body fuel s) := by
  apply Loop.whileDo_invariant (I := fun s' => ∃ ur', ur ≤ ur' ∧ Pending ur' uh s' ∧ RxFrame s s')
  . rintro s' ⟨ur', hge, hpending, hframe⟩ hcond
    have ⟨hbody, hframe'⟩ := hpending.update_body hcond
    exact ⟨ur' + 1, by omega, hbody, hframe.trans hframe'⟩
  . exact ⟨ur, Nat.le_refl ur, h, .refl s⟩

end Pending

theorem not_update_cond_whileDo (s : RlcUm)
    : ¬ update.cond (Loop.whileDo update.cond update.body s.rxWindow.size s) := by
  apply Loop.not_cond_whileDo (I := fun _ => True) (fun s => s.rxWindow.size)
  . intro s _ hcond
    refine ⟨trivial, ?_⟩
    unfold update.body
    split
    next hnone => exact absurd hcond (lookup_eq_none.mp hnone)
    . exact Map.size_erase_lt hcond
  . trivial
  . exact Nat.le_refl _

structure Settled (ur uh : Nat) (s : RlcUm) : Prop extends Pending ur uh s where
  inside : uh ≤ ur + s.cfg.rxWindowSize
  missing : s.vrUr ∉ s.rxWindow

def reassembleRxSdus.caughtUp (s : RlcUm) : RlcUm :=
  Loop.whileDo lowerEdge.cond lowerEdge.body s.cfg.rxMod { s with rxSdu := some (s.rxSdu.getD []) }

theorem reassembleRxSdus_eq (s : RlcUm)
    : s.reassembleRxSdus = Loop.whileDo update.cond update.body (caughtUp s).rxWindow.size (caughtUp s) := rfl

theorem Settled.succ_lt (h : Settled ur uh s) (hlt : ur < uh) : ur + 1 < uh := by
  by_contra hlast
  have huh : uh - 1 = ur := by omega
  have hnewest := h.newest hlt
  rw [huh, ← h.vrUr] at hnewest
  exact h.missing hnewest

def reassembleRxSdus.Ends (s : RlcUm) : Prop :=
  ¬ lowerEdge.cond (caughtUp s) ∧ ¬ update.cond s.reassembleRxSdus

theorem Pending.caughtUp (h : Pending ur uh s) (hlt : ur < uh)
    : ∃ ur', ur ≤ ur' ∧ ur' < uh ∧ uh ≤ ur' + s.cfg.rxWindowSize ∧ Pending ur' uh (caughtUp s)
        ∧ RxFrame s (caughtUp s) := by
  have hstart : Pending ur uh { s with rxSdu := some (s.rxSdu.getD []) } := { h with }
  have hframe : RxFrame s { s with rxSdu := some (s.rxSdu.getD []) } := ⟨_, _, _, _, _, _, rfl⟩
  have hfuel : uh ≤ ur + s.cfg.rxWindowSize + s.cfg.rxMod := by
    have := h.near
    omega
  have ⟨ur', hge, hlt', hinside, hpending, hframe'⟩ := hstart.lowerEdge_loop hlt s.cfg.rxMod hfuel
  exact ⟨ur', hge, hlt', hinside, hpending, hframe.trans hframe'⟩

theorem Pending.reassembleRxSdus (h : Pending ur uh s) (hlt : ur < uh)
    : reassembleRxSdus.Ends s ∧ RxFrame s s.reassembleRxSdus
        ∧ ∃ ur', ur ≤ ur' ∧ Settled ur' uh s.reassembleRxSdus := by
  have ⟨ur₁, hge₁, hlt₁, hinside₁, hpending₁, hframe₁⟩ := h.caughtUp hlt
  have hlower := hpending₁.lowerEdge_cond_iff hlt₁
  have hupdate := not_update_cond_whileDo (reassembleRxSdus.caughtUp s)
  unfold reassembleRxSdus.Ends
  rw [reassembleRxSdus_eq]
  rw [hframe₁.cfg] at hlower
  generalize reassembleRxSdus.caughtUp s = s₁ at *
  have ⟨ur₂, hge₂, hpending₂, hframe₂⟩ := hpending₁.update_loop s₁.rxWindow.size
  have hframe := hframe₁.trans hframe₂
  refine ⟨⟨?_, hupdate⟩, hframe, ur₂, by omega, { hpending₂ with inside := ?_, missing := hupdate }⟩
  . rw [hlower]
    omega
  . rw [hframe.cfg]
    omega

theorem isSome_rxSdu_reassembleRxSdus (s : RlcUm) : s.reassembleRxSdus.rxSdu.isSome := by
  have hcaughtUp : (caughtUp s).rxSdu.isSome := by
    unfold reassembleRxSdus.caughtUp
    apply Loop.whileDo_invariant (I := fun s : RlcUm => s.rxSdu.isSome)
    . intro s hs _
      unfold lowerEdge.body
      split
      . rfl
      . rfl
    . rfl
  rw [reassembleRxSdus_eq]
  apply Loop.whileDo_invariant (I := fun s : RlcUm => s.rxSdu.isSome)
  . intro s hs _
    unfold update.body
    split
    . exact hs
    . rfl
  . exact hcaughtUp

structure RxInv (ur uh : Nat) (s : RlcUm) : Prop extends Settled ur uh s where
  tReordering : 0 < s.cfg.tReordering ∧ s.cfg.tReordering < 2 ^ 31
  running_iff : s.reorderingTimer.isRunning ↔ ur < uh
  timer : s.reorderingTimer.Sound
  vrUx : s.reorderingTimer.isRunning → ∃ x, s.vrUx = x % s.cfg.rxMod ∧ ur < x ∧ x ≤ uh
  rxSdu : s.reorderingTimer.isRunning → s.rxSdu.isSome

theorem Pending.rxModBase_vrUr (h : Pending ur uh s) (hinside : uh ≤ ur + s.cfg.rxWindowSize)
    : s.rxModBase s.vrUr = ur + s.cfg.rxWindowSize - uh := by
  have hmod := h.cfg.rxMod_eq
  have hle := h.le
  rw [h.vrUr]
  exact rxModBase_mod h.cfg h.vrUh hinside (by omega)

theorem rxInv_startReordering (h : Settled ur uh s) (hstopped : s.reorderingTimer.running = false)
    (ht : 0 < s.cfg.tReordering ∧ s.cfg.tReordering < 2 ^ 31) (hrxSdu : s.rxSdu.isSome)
    : RxInv ur uh s.startReordering := by
  have hcond : s.rxModBase s.vrUh > s.rxModBase s.vrUr ↔ ur < uh := by
    have hinside := h.inside
    rw [rxModBase_vrUh h.cfg h.vrUh, h.rxModBase_vrUr hinside]
    omega
  unfold startReordering
  split
  next hlt =>
    rw [hcond] at hlt
    have hrunning := s.reorderingTimer.isRunning_run_set ht.1 (by omega)
    exact {
      h with
      tReordering := ht
      running_iff := by simp only [hrunning, hlt]
      timer := s.reorderingTimer.sound_run_set ht.1 (by omega)
      vrUx := fun _ => ⟨uh, h.vrUh, hlt, Nat.le_refl uh⟩
      rxSdu := fun _ => hrxSdu
    }
  next hge =>
    rw [hcond] at hge
    have hrunning : ¬ s.reorderingTimer.isRunning := by
      simp [Timer.isRunning, hstopped]
    exact {
      h with
      tReordering := ht
      running_iff := ⟨fun hrun => absurd hrun hrunning, fun hlt => absurd hlt hge⟩
      timer := Timer.sound_of_stopped hstopped
      vrUx := fun hrun => absurd hrun hrunning
      rxSdu := fun hrun => absurd hrun hrunning
    }

theorem rxInv_updateReordering (h : Settled ur uh s)
    (ht : 0 < s.cfg.tReordering ∧ s.cfg.tReordering < 2 ^ 31) (hrxSdu : s.rxSdu.isSome)
    (htimer : s.reorderingTimer.Sound)
    (hvrUx : s.reorderingTimer.isRunning → ∃ x, s.vrUx = x % s.cfg.rxMod ∧ x ≤ uh ∧ uh < x + s.cfg.rxMod)
    : RxInv ur uh s.updateReordering := by
  unfold updateReordering
  split
  . simp only [Timer.isRunning_stop, Bool.false_eq_true, ↓reduceIte]
    apply rxInv_startReordering (s := { s with reorderingTimer := s.reorderingTimer.stop }) { h with }
    . rfl
    . exact ht
    . exact hrxSdu
  next hgo =>
    dsimp only
    split
    next hrunning =>
      have ⟨x, hx, hle, hnear⟩ := hvrUx hrunning
      have hmod := h.cfg.rxMod_eq
      have hinside := h.inside
      rw [not_and, not_or] at hgo
      have ⟨hafter, hin⟩ := hgo hrunning
      have hxinside : uh ≤ x + s.cfg.rxWindowSize := by
        by_contra hfar
        apply hin
        constructor
        . rw [hx, insideReorderingWindow_iff h.cfg h.vrUh (by omega) (by omega)]
          omega
        . rw [hx, h.vrUh]
          exact (mod_ne_mod (by omega) hnear).symm
      rw [h.rxModBase_vrUr hinside, hx, rxModBase_mod h.cfg h.vrUh hxinside (by omega)] at hafter
      exact {
        h with
        tReordering := ht
        running_iff := by
          simp only [hrunning, true_iff]
          omega
        timer := htimer
        vrUx := fun _ => ⟨x, hx, by omega, hle⟩
        rxSdu := fun _ => hrxSdu
      }
    next hstopped =>
      apply rxInv_startReordering h
      . rw [← htimer.isRunning_eq]
        exact Bool.not_eq_true _ ▸ hstopped
      . exact ht
      . exact hrxSdu

theorem exists_unwrapped (hcfg : s.cfg.Reordering) {sn : Nat} (hsn : sn < s.cfg.rxMod) (uh : Nat)
    (hbase : s.cfg.rxMod ≤ uh)
    : ∃ n, sn = n % s.cfg.rxMod ∧ uh ≤ n + s.cfg.rxWindowSize ∧ n < uh + s.cfg.rxWindowSize := by
  have hmod := hcfg.rxMod_eq
  have hlower : (uh - s.cfg.rxWindowSize) % s.cfg.rxMod < s.cfg.rxMod := Nat.mod_lt _ (by omega)
  have hdist := Cyclic.dist_spec hlower hsn
  have hsum := Cyclic.add_dist_mod hlower hsn
  rw [Nat.mod_add_mod] at hsum
  exact ⟨_, hsum.symm, by omega, by omega⟩

section Arrival

variable {header : RlcUmdPduHeader} {n : Nat}
variable (h : Settled ur uh s) (hsn : header.sn = n % s.cfg.rxMod) (hge : uh ≤ n + s.cfg.rxWindowSize)
variable (hlt : n < uh + s.cfg.rxWindowSize)

include h hsn hge hlt

theorem Settled.discarded_iff
    : (s.rxModBase header.sn ≥ s.rxModBase (u32Sub s.vrUh s.cfg.rxWindowSize)
        ∧ s.rxModBase header.sn < s.rxModBase s.vrUr) ↔ n < ur := by
  have hinside := h.inside
  rw [rxModBase_lower h.cfg h.vrUh, h.rxModBase_vrUr hinside, hsn, rxModBase_mod h.cfg h.vrUh hge hlt]
  omega

theorem Settled.storePdu_eq (payload : List UInt8)
    : s.storePdu payload header
        =
      {
        s with
        rxWindow := s.rxWindow.insert header.sn { header, buf := payload }
        vrUh := max uh (n + 1) % s.cfg.rxMod
      } := by
  have hmod := h.cfg.rxMod_eq
  have hcond := insideReorderingWindow_iff h.cfg h.vrUh (n := n) (by omega) hlt
  have hcond' : ({ s with
      rxWindow := s.rxWindow.insert header.sn { header, buf := payload } } : RlcUm).insideReorderingWindow
        header.sn = s.insideReorderingWindow header.sn := rfl
  unfold RlcUm.storePdu
  dsimp only
  rw [hcond', hsn]
  split
  next hin =>
    rw [hcond] at hin
    have huh : max uh (n + 1) = uh := by omega
    rw [huh, ← h.vrUh]
  next hout =>
    rw [hcond] at hout
    have huh : max uh (n + 1) = n + 1 := by omega
    rw [huh, Nat.mod_add_mod]

theorem Settled.storePdu (payload : List UInt8) (hur : ur ≤ n)
    : Pending ur (max uh (n + 1)) (s.storePdu payload header) := by
  have hmod := h.cfg.rxMod_eq
  have hinside := h.inside
  have hle := h.le
  rw [h.storePdu_eq hsn hge hlt]
  exact {
    h with
    vrUh := rfl
    le := by omega
    near := by
      dsimp only
      omega
    keys := by
      intro sn hmem
      rw [mem_insert] at hmem
      cases hmem with
      | inl heq => exact ⟨n, hur, by omega, by rw [heq, hsn]⟩
      | inr hold =>
        have ⟨k, hk, hk', heq⟩ := h.keys sn hold
        exact ⟨k, hk, by omega, heq⟩
    newest := by
      intro _
      rw [mem_insert, hsn]
      by_cases hnew : uh ≤ n
      . left
        have huh : max uh (n + 1) - 1 = n := by omega
        rw [huh]
      . right
        have huh : max uh (n + 1) - 1 = uh - 1 := by omega
        rw [huh]
        exact h.newest (by omega)
  }

end Arrival

theorem RxInv.handleDataPdu {header : RlcUmdPduHeader} (h : RxInv ur uh s)
    (hsn : header.sn = n % s.cfg.rxMod) (hge : uh ≤ n + s.cfg.rxWindowSize) (hlt : n < uh + s.cfg.rxWindowSize)
    (hur : ur ≤ n) (payload : List UInt8)
    : reassembleRxSdus.Ends (s.storePdu payload header)
        ∧ ∃ ur', RxInv ur' (max uh (n + 1)) (s.storePdu payload header).reassembleRxSdus.updateReordering := by
  have hstored := h.storePdu hsn hge hlt payload hur
  have hmod := h.cfg.rxMod_eq
  have hinside := h.inside
  have ⟨hends, hframe, ur', _, hsettled⟩ := hstored.reassembleRxSdus (by omega)
  have hrxSdu := isSome_rxSdu_reassembleRxSdus (s.storePdu payload header)
  generalize (s.storePdu payload header).reassembleRxSdus = s' at *
  rw [h.storePdu_eq hsn hge hlt] at hframe
  refine ⟨hends, ur', rxInv_updateReordering hsettled ?_ hrxSdu ?_ ?_⟩
  . rw [hframe.cfg]
    exact h.tReordering
  . rw [hframe.reorderingTimer]
    exact h.timer
  . rw [hframe.reorderingTimer, hframe.vrUx, hframe.cfg]
    intro hrunning
    have ⟨x, hx, hgt, hle⟩ := h.vrUx hrunning
    exact ⟨x, hx, by omega, by dsimp only; omega⟩

namespace timerExpired

variable {x : Nat}

theorem cond_iff (h : Settled ur uh s) (hx : s.vrUx = x % s.cfg.rxMod) (hle : x ≤ uh)
    (hnear : uh ≤ x + s.cfg.rxWindowSize)
    : cond s ↔ ur < x := by
  have hmod := h.cfg.rxMod_eq
  have hinside := h.inside
  unfold cond
  rw [h.rxModBase_vrUr hinside, hx, rxModBase_mod h.cfg h.vrUh hnear (by omega)]
  omega

theorem settled_loop (h : Settled ur uh s) (hx : s.vrUx = x % s.cfg.rxMod) (hle : x ≤ uh)
    (hnear : uh ≤ x + s.cfg.rxWindowSize) (fuel : Nat) (hfuel : x ≤ ur + fuel)
    : ∃ ur', x ≤ ur' ∧ ur ≤ ur' ∧ Settled ur' uh (Loop.whileDo cond body fuel s)
        ∧ RxFrame s (Loop.whileDo cond body fuel s)
        ∧ Loop.Always cond body (fun s => Ends { s with vrUr := (s.vrUr + 1) % s.cfg.rxMod }) fuel s := by
  induction fuel generalizing s ur with
  | zero => exact ⟨ur, hfuel, Nat.le_refl ur, h, .refl s, trivial⟩
  | succ fuel ih =>
    have hcond := cond_iff h hx hle hnear
    by_cases hgo : cond s
    . have hlt : ur < x := hcond.mp hgo
      have hframe₀ : RxFrame s { s with vrUr := (s.vrUr + 1) % s.cfg.rxMod } := ⟨_, _, _, _, _, _, rfl⟩
      have hadvance := h.pass (by omega) h.missing hframe₀ rfl rfl
      have ⟨hends, hframe₁, ur₁, hge₁, hsettled⟩ := hadvance.reassembleRxSdus (h.succ_lt (by omega))
      have hframe : RxFrame s (body s) := hframe₀.trans hframe₁
      have hcfg := hframe.cfg
      have ⟨ur', hx', hge', hloop, hframe', halways⟩ := ih (s := body s) hsettled
        (by rw [hframe.vrUx, hcfg]; exact hx) (by rw [hcfg]; exact hnear) (by omega)
      rw [Loop.whileDo_succ_of_cond _ _ fuel hgo]
      exact ⟨ur', hx', by omega, hloop, hframe.trans hframe', fun _ => ⟨hends, halways⟩⟩
    . rw [Loop.whileDo_of_not_cond _ _ _ hgo]
      refine ⟨ur, ?_, Nat.le_refl ur, h, .refl s, fun hgo' => absurd hgo' hgo⟩
      rw [hcond] at hgo
      omega

def lost (s : RlcUm) : RlcUm :=
  { s with pduLost := true, rxSdu := s.rxSdu.map (fun _ => []) }

def Ends (s : RlcUm) : Prop :=
  ¬ cond (Loop.whileDo cond body s.cfg.rxMod (lost s))
    ∧ Loop.Always cond body (fun s => reassembleRxSdus.Ends { s with vrUr := (s.vrUr + 1) % s.cfg.rxMod })
      s.cfg.rxMod (lost s)

end timerExpired

theorem rxInv_timerExpired {x : Nat} (h : Settled ur uh s) (ht : 0 < s.cfg.tReordering ∧ s.cfg.tReordering < 2 ^ 31)
    (hrxSdu : s.rxSdu.isSome) (hx : s.vrUx = x % s.cfg.rxMod) (hlt : ur < x) (hle : x ≤ uh)
    : timerExpired.Ends s ∧ ∃ ur', RxInv ur' uh s.timerExpired := by
  have hmod := h.cfg.rxMod_eq
  have hinside := h.inside
  have hlost : Settled ur uh (timerExpired.lost s) := { h with }
  have hnear : uh ≤ x + s.cfg.rxWindowSize := by omega
  have ⟨ur', hx', _, hsettled, hframe, halways⟩ := timerExpired.settled_loop hlost hx hle hnear s.cfg.rxMod (by omega)
  have hframe : RxFrame s (Loop.whileDo timerExpired.cond timerExpired.body s.cfg.rxMod (timerExpired.lost s)) :=
    RxFrame.trans ⟨_, _, _, _, _, _, rfl⟩ hframe
  have hstop := timerExpired.cond_iff hsettled (by rw [hframe.vrUx, hframe.cfg]; exact hx) hle
    (by rw [hframe.cfg]; omega)
  have hrxSdu' : (Loop.whileDo timerExpired.cond timerExpired.body s.cfg.rxMod
      (timerExpired.lost s)).rxSdu.isSome := by
    apply Loop.whileDo_invariant (I := fun s : RlcUm => s.rxSdu.isSome)
    . intro s _ _
      apply isSome_rxSdu_reassembleRxSdus
    . unfold timerExpired.lost
      rw [Option.isSome_map]
      exact hrxSdu
  refine ⟨⟨?_, halways⟩, ur', ?_⟩
  . rw [hstop]
    omega
  . apply rxInv_startReordering
    . exact { hsettled with }
    . rfl
    . rw [← hframe.cfg] at ht
      exact ht
    . exact hrxSdu'

theorem RxInv.stepTimer (h : RxInv ur uh s)
    : (s.reorderingTimer.step.2 → timerExpired.Ends { s with reorderingTimer := s.reorderingTimer.step.1 })
        ∧ ∃ ur', RxInv ur' uh s.stepTimer := by
  have ⟨hsound, hsame, hrunning⟩ := h.timer.step
  unfold RlcUm.stepTimer
  generalize s.reorderingTimer.step = step at *
  have ⟨timer, expired⟩ := step
  dsimp only at hsound hsame hrunning ⊢
  cases expired with
  | true =>
    have hrunning := hrunning rfl
    have ⟨x, hx, hxlt, hxle⟩ := h.vrUx hrunning
    have hsettled : Settled ur uh { s with reorderingTimer := timer } := { h with }
    have ⟨hends, hinv⟩ := rxInv_timerExpired hsettled h.tReordering (h.rxSdu hrunning) hx hxlt hxle
    exact ⟨fun _ => hends, hinv⟩
  | false =>
    have hsame := hsame rfl
    refine ⟨nofun, ur, ?_⟩
    rw [if_neg Bool.false_ne_true]
    exact {
      h with
      running_iff := by
        rw [hsame]
        exact h.running_iff
      timer := hsound
      vrUx := by
        rw [hsame]
        exact h.vrUx
      rxSdu := by
        rw [hsame]
        exact h.rxSdu
    }

structure ReceiveInv (s : RlcUm) : Prop where
  vrUr_lt : s.vrUr < s.cfg.rxMod
  vrUh_lt : s.vrUh < s.cfg.rxMod
  vrUr : Cyclic.dist s.cfg.rxMod s.vrUr s.vrUh ≤ s.cfg.rxWindowSize
  keys : ∀ sn ∈ s.rxWindow,
    sn < s.cfg.rxMod
      ∧ 0 < Cyclic.dist s.cfg.rxMod s.vrUr sn
      ∧ Cyclic.dist s.cfg.rxMod s.vrUr sn < Cyclic.dist s.cfg.rxMod s.vrUr s.vrUh
  running_iff : s.reorderingTimer.isRunning ↔ s.vrUr ≠ s.vrUh
  vrUx : s.reorderingTimer.isRunning →
    s.vrUx < s.cfg.rxMod
      ∧ 0 < Cyclic.dist s.cfg.rxMod s.vrUr s.vrUx
      ∧ Cyclic.dist s.cfg.rxMod s.vrUr s.vrUx ≤ Cyclic.dist s.cfg.rxMod s.vrUr s.vrUh
  -- what `timer_expired` resets
  rxSdu : s.reorderingTimer.isRunning → s.rxSdu.isSome

theorem RxInv.dist_eq (h : RxInv ur uh s) {n : Nat} (hge : ur ≤ n) (hle : n ≤ uh)
    : Cyclic.dist s.cfg.rxMod s.vrUr (n % s.cfg.rxMod) = n - ur := by
  have hmod := h.cfg.rxMod_eq
  have hinside := h.inside
  have hn : n % s.cfg.rxMod = (s.vrUr + (n - ur)) % s.cfg.rxMod := by
    rw [h.vrUr, Nat.mod_add_mod, Nat.add_sub_cancel' hge]
  rw [hn]
  apply Cyclic.dist_add_mod
  . rw [h.vrUr]
    exact Nat.mod_lt _ (by omega)
  . omega

theorem RxInv.receiveInv (h : RxInv ur uh s) : s.ReceiveInv := by
  have hmod := h.cfg.rxMod_eq
  have hlt : ∀ n, n % s.cfg.rxMod < s.cfg.rxMod := fun n => Nat.mod_lt n (by omega)
  have hle := h.le
  have huh : Cyclic.dist s.cfg.rxMod s.vrUr s.vrUh = uh - ur := by
    rw [h.vrUh]
    exact h.dist_eq hle (Nat.le_refl uh)
  have hinside := h.inside
  have hvrUr : s.vrUr < s.cfg.rxMod := by
    rw [h.vrUr]
    exact hlt ur
  have hvrUh : s.vrUh < s.cfg.rxMod := by
    rw [h.vrUh]
    exact hlt uh
  exact {
    vrUr_lt := hvrUr
    vrUh_lt := hvrUh
    vrUr := by
      rw [huh]
      omega
    keys := by
      intro sn hmem
      have ⟨n, hn, hn', heq⟩ := h.keys sn hmem
      have hne : n ≠ ur := by
        intro hur
        rw [heq, hur, ← h.vrUr] at hmem
        exact h.missing hmem
      rw [huh, heq, h.dist_eq hn (by omega)]
      exact ⟨hlt n, by omega, by omega⟩
    running_iff := by
      rw [h.running_iff]
      have hzero := Cyclic.dist_eq_zero hvrUr hvrUh
      rw [huh] at hzero
      omega
    vrUx := by
      intro hrunning
      have ⟨x, hx, hgt, hxle⟩ := h.vrUx hrunning
      rw [huh, hx, h.dist_eq (by omega) hxle]
      exact ⟨hlt x, by omega, by omega⟩
    rxSdu := h.rxSdu
  }

variable {cfg : SrslteRlcUmConfig}

theorem mod_rxSnFieldLength (h : cfg.Reordering) : cfg.rxSnFieldLength.mod = cfg.rxMod := by
  cases h with
  | inl h =>
    rw [h.1, h.2.2]
    rfl
  | inr h =>
    rw [h.1, h.2.2]
    rfl

def Stores (s : RlcUm) (header : RlcUmdPduHeader) : Prop :=
  ¬ (s.rxModBase header.sn ≥ s.rxModBase (u32Sub s.vrUh s.cfg.rxWindowSize)
      ∧ s.rxModBase header.sn < s.rxModBase s.vrUr)
    ∧ header.sn ∉ s.rxWindow

structure Terminates (s : RlcUm) : Prop where
  handleDataPdu : ∀ payload header rest, rlcUmReadDataPduHeader payload s.cfg.rxSnFieldLength = some (header, rest) →
    s.Stores header → reassembleRxSdus.Ends (s.storePdu rest header)
  timerExpired : s.reorderingTimer.step.2 →
    timerExpired.Ends { s with reorderingTimer := s.reorderingTimer.step.1 }

theorem RxInv.arrival (h : RxInv ur uh s) {header : RlcUmdPduHeader} (rest : List UInt8)
    (hsn : header.sn < s.cfg.rxMod)
    : (s.Stores header → reassembleRxSdus.Ends (s.storePdu rest header))
        ∧ ∃ ur' uh', RxInv ur' uh' (s.handleDataPdu rest header) := by
  have hbase := h.base
  have hle := h.le
  have ⟨n, hn, hge, hlt⟩ := exists_unwrapped h.cfg hsn uh (by omega)
  have hold := h.discarded_iff hn hge hlt
  unfold Stores RlcUm.handleDataPdu
  simp only [hold]
  by_cases hstores : n < ur ∨ header.sn ∈ s.rxWindow
  . refine ⟨fun hgo => absurd hstores (not_or.mpr hgo), ur, uh, ?_⟩
    split
    . exact h
    next hnew =>
      rw [if_pos (hstores.resolve_left hnew)]
      exact h
  . rw [not_or] at hstores
    have ⟨hends, ur', hinv⟩ := h.handleDataPdu hn hge hlt (by omega) rest
    rw [if_neg hstores.1, if_neg hstores.2]
    exact ⟨fun _ => hends, ur', _, hinv⟩

theorem terminates_of_rxInv (h : RxInv ur uh s) : s.Terminates where
  handleDataPdu := by
    intro payload header rest hread
    have hsn := sn_rlcUmReadDataPduHeader_lt hread
    rw [mod_rxSnFieldLength h.cfg] at hsn
    exact (h.arrival rest hsn).1
  timerExpired := h.stepTimer.1

theorem exists_rxInv_step (e : Event) (h : ∃ ur uh, RxInv ur uh s)
    : ∃ ur uh, RxInv ur uh (s.step e) := by
  have ⟨ur, uh, h⟩ := h
  cases e with
  | writeSdu sdu =>
    unfold step writeSdu
    dsimp only
    split
    . exact ⟨ur, uh, { h with }⟩
    . exact ⟨ur, uh, h⟩
  | readPdu nofBytes =>
    unfold step readPdu buildDataPdu
    dsimp only
    split
    . exact ⟨ur, uh, h⟩
    . split
      . exact ⟨ur, uh, h⟩
      . exact ⟨ur, uh, { h with }⟩
  | writePdu payload =>
    unfold step writePdu
    dsimp only
    split
    next header rest hread =>
      have hsn := sn_rlcUmReadDataPduHeader_lt hread
      rw [mod_rxSnFieldLength h.cfg] at hsn
      exact (h.arrival rest hsn).2
    . exact ⟨ur, uh, h⟩
  | stepTimer =>
    have ⟨_, ur', hinv⟩ := h.stepTimer
    exact ⟨ur', uh, hinv⟩

theorem rxInv_init (hcfg : cfg.Reordering) (ht : 0 < cfg.tReordering ∧ cfg.tReordering < 2 ^ 31)
    : RxInv cfg.rxMod cfg.rxMod (init cfg) where
  cfg := hcfg
  vrUr := (Nat.mod_self _).symm
  vrUh := (Nat.mod_self _).symm
  base := Nat.le_refl _
  le := Nat.le_refl _
  near := Nat.le_add_right _ _
  keys := by
    intro sn hmem
    cases Finmap.notMem_empty hmem
  newest := by omega
  inside := Nat.le_add_right _ _
  missing := Finmap.notMem_empty
  tReordering := ht
  running_iff := by simp [init, Timer.isRunning]
  timer := Timer.sound_of_stopped rfl
  vrUx := by simp [init, Timer.isRunning]
  rxSdu := by simp [init, Timer.isRunning]

theorem receiveInv_exec (cfg : SrslteRlcUmConfig) (hcfg : cfg.Reordering) (ht : 0 < cfg.tReordering)
    (ht' : cfg.tReordering < 2 ^ 31) (es : List Event)
    : (Trace.exec step (init cfg) es).ReceiveInv ∧ (Trace.exec step (init cfg) es).Terminates := by
  have ⟨ur, uh, h⟩ : ∃ ur uh, RxInv ur uh (Trace.exec step (init cfg) es) := by
    apply Trace.exec_invariant (P := fun s => ∃ ur uh, RxInv ur uh s)
    . exact fun _ e h => exists_rxInv_step e h
    . exact ⟨_, _, rxInv_init hcfg ⟨ht, ht'⟩⟩
  exact ⟨h.receiveInv, terminates_of_rxInv h⟩

theorem receiveInv_gap
    : (Trace.exec step (init (umBiConfig .size5Bits 5)) [.writePdu [1, 7]]).vrUr = 0
      ∧ (Trace.exec step (init (umBiConfig .size5Bits 5)) [.writePdu [1, 7]]).vrUh = 2
      ∧ (Trace.exec step (init (umBiConfig .size5Bits 5)) [.writePdu [1, 7]]).ReceiveInv
      ∧ (Trace.exec step (init (umBiConfig .size5Bits 5)) [.writePdu [1, 7]]).Terminates :=
  ⟨by decide, by decide, receiveInv_exec _ (.inl ⟨rfl, rfl, rfl⟩) (by decide) (by decide) _⟩

end RlcUm

end SrsLte
