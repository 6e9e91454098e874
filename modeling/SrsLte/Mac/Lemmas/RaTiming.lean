import SrsLte.Data.Trace
import SrsLte.Mac.Impl.RaProc

/-!
This module contains the timing of a random access response. All of them are compared with counting modulo
10240.
-/

namespace SrsLte

open Trace List

namespace PhchCommon

def msg3Delay (grant : RarGrant) : Nat :=
  if (dciRarGrantUnpack grant).ulDelay then msg3DelayMs + 1 else msg3DelayMs

def HandsOut (phy : PhchCommon) (r : Nat) (grant : RarGrant) (first : Nat) : Prop :=
  (∀ k, first ≤ k → k < msg3Delay grant
    → (phy.setRarGrant r grant).getPendingRar ((r + k) % 10240) = (phy.setRarGrant r grant, none))
    ∧ ((phy.setRarGrant r grant).getPendingRar ((r + msg3Delay grant) % 10240)).2 = some (dciRarGrantUnpack grant)

variable (phy : PhchCommon)

theorem rarGrantTti_setRarGrant (r : Nat) (grant : RarGrant)
    : (phy.setRarGrant r grant).rarGrantTti = (r + msg3Delay grant) % 10240 := by
  unfold setRarGrant msg3Delay
  dsimp only
  split
  . rfl
  . rfl

theorem msg3Delay_le (grant : RarGrant) : msg3Delay grant ≤ 3 := by
  unfold msg3Delay
  split
  . decide
  . decide

theorem getPendingRar_setRarGrant (r : Nat) (grant : RarGrant) (tti : Nat)
    : (phy.setRarGrant r grant).getPendingRar tti
        = if (r + msg3Delay grant) % 10240 ≤ tti then
            ({ phy.setRarGrant r grant with rarGrantPending := false }, some (dciRarGrantUnpack grant))
          else
            (phy.setRarGrant r grant, none) := by
  rw [getPendingRar, ← rarGrantTti_setRarGrant phy]
  have hpending : (phy.setRarGrant r grant).rarGrantPending = true := rfl
  by_cases hle : (phy.setRarGrant r grant).rarGrantTti ≤ tti
  . rw [if_pos ⟨hpending, hle⟩, if_pos hle]
    rfl
  . rw [if_neg (fun h => hle h.2), if_neg hle]

theorem handsOut_iff {r : Nat} (hr : r < 10240) (grant : RarGrant) {first : Nat} (hfirst : first ≤ msg3Delay grant)
    : phy.HandsOut r grant first ↔ r + msg3Delay grant < 10240 ∨ 10240 ≤ r + first := by
  have hle := msg3Delay_le grant
  simp only [HandsOut, getPendingRar_setRarGrant]
  generalize msg3Delay grant = delay at hfirst hle ⊢
  constructor
  . rintro ⟨hbefore, _⟩
    by_contra hwrap
    have hnone := hbefore first (Nat.le_refl first) (by omega)
    rw [if_pos (by omega)] at hnone
    cases hnone
  . intro hwrap
    constructor
    . intro k hk hlt
      rw [if_neg (by omega)]
    . rw [if_pos (Nat.le_refl _)]

theorem getDlRnti_setDlRnti (rnti start stop tti : Nat)
    : (phy.setDlRnti .rar rnti start stop).getDlRnti tti = if start ≤ tti ∧ tti < stop then rnti else 0 := by
  unfold getDlRnti dlRntiActive setDlRnti
  dsimp only
  have hiff : (((tti : Int) ≥ start ∧ (start : Int) ≥ 0) ∨ (start : Int) < 0)
      ∧ (((tti : Int) < stop ∧ (stop : Int) ≥ 0) ∨ (stop : Int) < 0) ↔ start ≤ tti ∧ tti < stop := by
    omega
  by_cases hwindow : start ≤ tti ∧ tti < stop
  . rw [if_pos (hiff.mpr hwindow), if_pos hwindow]
    simp
  . rw [if_neg (mt hiff.mp hwindow), if_neg hwindow]
    simp

end PhchCommon

namespace RaProc

def stepsAfter (t d : Nat) (rand : Nat → Nat) (n : Nat) : List RaEvent :=
  (List.range n).map fun k =>
    .step { currentTti := (t + 10236 + (d + k)) % 10240, prachTxTti := t, rand := rand k }

structure Timely (ra : RaProc) (phy : PhchCommon) (t d : Nat) (rand : Nat → Nat) : Prop where
  leaves : (exec next ra (stepsAfter t d rand 1)).state ≠ .pdcchSetup
  listens : ∀ tti < 10240,
    ((ra.step { currentTti := (t + 10236 + d) % 10240, prachTxTti := t, rand := rand 0 }).2.foldl
        PhchCommon.serve phy).getDlRnti tti
      = if ∃ k < ra.responseWindowSize, tti = (t + 3 + k) % 10240 then 1 + t % 10 else 0
  waits : ∀ n, d + n ≤ 7 + ra.responseWindowSize → (exec next ra (stepsAfter t d rand n)).state ≠ .responseError
  fails : ∃ n ≤ 20, (exec next ra (stepsAfter t d rand n)).state = .responseError

theorem stepsAfter_succ (t d : Nat) (rand : Nat → Nat) (n : Nat)
    : stepsAfter t d rand (n + 1)
        = stepsAfter t d rand n
          ++ [.step { currentTti := (t + 10236 + (d + n)) % 10240, prachTxTti := t, rand := rand n }] := by
  simp only [stepsAfter, range_succ, map_append, map_cons, map_nil]

theorem window_le (i : Fin 8) : raResponseWindowSizeNum[i] ≤ 10 := by
  revert i
  decide

theorem window_pos (i : Fin 8) : 0 < raResponseWindowSizeNum[i] := by
  revert i
  decide

variable {t d : Nat} {ra : RaProc}

theorem interval_window {o w : Nat} (ht : t < 10240) (hw : w ≤ 10) (ho : o ≤ 9 + w)
    : (1 < srslteTtiInterval ((t + 10236 + o) % 10240) (t + 3 + w)
        ∧ srslteTtiInterval ((t + 10236 + o) % 10240) (t + 3 + w) < 100)
      ↔ o = 9 + w := by
  have htti : (t + 10236 + o) % 10240 = t + 10236 + o ∧ t + o < 4
      ∨ (t + 10236 + o) % 10240 = t + o - 4 ∧ 4 ≤ t + o ∧ t + o < 10244
      ∨ (t + 10236 + o) % 10240 = t + o - 10244 ∧ 10244 ≤ t + o := by
    omega
  unfold srslteTtiInterval
  generalize (t + 10236 + o) % 10240 = tti at htti ⊢
  split
  . omega
  . omega

theorem stepPdcchSetup_of_pos (ht : 0 < t)
    : ra.stepPdcchSetup t
        = ({ ra with state := .responseReception },
          [.pdcchDlSearch .rar (1 + t % 10) (t + 3 : Nat) (t + 3 + ra.responseWindowSize : Nat)]) := by
  unfold stepPdcchSetup
  rw [if_pos (by omega)]
  have hrnti : (1 + (t : Int) % 10).toNat = 1 + t % 10 := by
    omega
  rw [hrnti]
  rfl

structure Waiting (ra : RaProc) (w : Nat) : Prop where
  state : ra.state = .responseReception
  rarReceived : ra.rarReceived = false
  window : ra.responseWindowSize = w

theorem Waiting.next_eq {w : Nat} (h : ra.Waiting w) (tti t rand : Nat)
    : ra.next (.step { currentTti := tti, prachTxTti := t, rand })
        = if 1 < srslteTtiInterval tti (t + 3 + w) ∧ srslteTtiInterval tti (t + 3 + w) < 100 then
            { ra with state := .responseError }
          else
            ra := by
  simp only [RaProc.next, handle, step, h.state, stepResponseReception, h.rarReceived, h.window, Int.toNat_natCast]
  rw [if_pos ⟨Int.natCast_nonneg t, rfl⟩]

section

variable (hstate : ra.state = .pdcchSetup) (hrar : ra.rarReceived = false) (ht : t < 10240) (hpos : 0 < t)
  (rand : Nat → Nat) (hw : ra.responseWindowSize ≤ 10) {n : Nat}

include hstate hrar ht hpos hw

theorem waiting_exec_stepsAfter (hn : d + n ≤ 8 + ra.responseWindowSize)
    : (exec next ra (stepsAfter t d rand (n + 1))).Waiting ra.responseWindowSize := by
  induction n with
  | zero =>
    show (ra.next _).Waiting _
    simp only [next, handle, step, hstate, stepPdcchSetup_of_pos hpos]
    exact ⟨rfl, hrar, rfl⟩
  | succ n ih =>
    have hwaiting := ih (by omega)
    rw [stepsAfter_succ, exec_append]
    generalize exec next ra (stepsAfter t d rand (n + 1)) = ra' at hwaiting ⊢
    show (ra'.next _).Waiting _
    rw [hwaiting.next_eq, if_neg]
    . exact hwaiting
    . rw [interval_window ht hw (by omega)]
      omega

theorem state_exec_stepsAfter (hn : d + n = 8 + ra.responseWindowSize)
    : (exec next ra (stepsAfter t d rand (n + 2))).state = .responseError := by
  have hwaiting := waiting_exec_stepsAfter hstate hrar ht hpos rand hw (Nat.le_of_eq hn)
  rw [stepsAfter_succ, exec_append]
  generalize exec next ra (stepsAfter t d rand (n + 1)) = ra' at hwaiting ⊢
  show (ra'.next _).state = _
  rw [hwaiting.next_eq, if_pos]
  rw [interval_window ht hw (by omega)]
  omega

end

theorem listens_iff (hw : 0 < ra.responseWindowSize) (hle : ra.responseWindowSize ≤ 10)
    (phy : PhchCommon) (ht : t < 10240) (hpos : 0 < t)
    : (∀ tti < 10240, ((ra.stepPdcchSetup t).2.foldl PhchCommon.serve phy).getDlRnti tti
        = if ∃ k < ra.responseWindowSize, tti = (t + 3 + k) % 10240 then 1 + t % 10 else 0)
      ↔ t + 3 + ra.responseWindowSize ≤ 10240 := by
  rw [stepPdcchSetup_of_pos hpos]
  simp only [foldl_cons, foldl_nil, PhchCommon.serve, PhchCommon.getDlRnti_setDlRnti]
  constructor
  . intro h
    by_contra hwrap
    -- The last TTI of the window is past the wrap
    have hlast := h ((t + 3 + (ra.responseWindowSize - 1)) % 10240) (Nat.mod_lt _ (by decide))
    rw [if_neg (by omega), if_pos ⟨ra.responseWindowSize - 1, by omega, rfl⟩] at hlast
    omega
  . intro hfits tti htti
    congr 1
    apply propext
    constructor
    . rintro ⟨hstart, hend⟩
      exact ⟨tti - (t + 3), by omega, by omega⟩
    . rintro ⟨k, hk, heq⟩
      omega

theorem timely_iff (hstate : ra.state = .pdcchSetup) (hrar : ra.rarReceived = false)
    (hw : 0 < ra.responseWindowSize) (hle : ra.responseWindowSize ≤ 10) (phy : PhchCommon)
    (ht : t < 10240) (hd : d ≤ 6 + ra.responseWindowSize) (rand : Nat → Nat)
    : ra.Timely phy t d rand ↔ 0 < t ∧ t + 3 + ra.responseWindowSize ≤ 10240 := by
  have hstep : ∀ phyStep : RaStep, ra.step phyStep = ra.stepPdcchSetup phyStep.prachTxTti := by
    intro phyStep
    simp only [step, hstate]
  constructor
  . intro h
    have hpos : 0 < t := by
      apply Nat.pos_of_ne_zero
      rintro rfl
      apply h.leaves
      show (ra.next _).state = _
      simp only [next, handle, hstep]
      exact hstate
    refine ⟨hpos, (listens_iff hw hle phy ht hpos).mp ?_⟩
    have hlistens := h.listens
    rw [hstep] at hlistens
    exact hlistens
  . rintro ⟨hpos, hfits⟩
    constructor
    . rw [(waiting_exec_stepsAfter hstate hrar ht hpos rand hle (by omega)).state]
      exact RaState.noConfusion
    . rw [hstep]
      exact (listens_iff hw hle phy ht hpos).mpr hfits
    . intro n hn
      cases n with
      | zero =>
        show ra.state ≠ _
        rw [hstate]
        exact RaState.noConfusion
      | succ n =>
        rw [(waiting_exec_stepsAfter hstate hrar ht hpos rand hle (by omega)).state]
        exact RaState.noConfusion
    . refine ⟨8 + ra.responseWindowSize - d + 2, by omega, ?_⟩
      exact state_exec_stepsAfter hstate hrar ht hpos rand hle (by omega)

theorem timely_and_handsOut_iff {ra : RaProc} (hstate : ra.state = .pdcchSetup) (hrar : ra.rarReceived = false)
    {i : Fin 8} (hw : ra.responseWindowSize = raResponseWindowSizeNum[i]) (phy : PhchCommon) {t : Nat}
    (ht : t < 10240) {d : Nat} (hd : d ≤ 6 + ra.responseWindowSize) (rand : Nat → Nat) {r : Nat} (hr : r < 10240)
    (grant : RarGrant) {first : Nat} (hfirst : first ≤ PhchCommon.msg3Delay grant)
    : ra.Timely phy t d rand ∧ phy.HandsOut r grant first
        ↔ (0 < t ∧ t + 3 + ra.responseWindowSize ≤ 10240)
          ∧ (r + PhchCommon.msg3Delay grant < 10240 ∨ 10240 ≤ r + first) := by
  have hpos := window_pos i
  have hle := window_le i
  rw [← hw] at hpos hle
  rw [timely_iff hstate hrar hpos hle phy ht hd rand, phy.handsOut_iff hr grant hfirst]

def firstPreamble : RaProc :=
  exec next zeroed [.startMacOrder 56 false, .step {}, .step {}, .step {}]

def plainGrant : RarGrant :=
  .zero

theorem timely_and_handsOut_beforeWrap
    : firstPreamble.Timely {} 10235 0 (fun _ => 0) ∧ PhchCommon.HandsOut {} 10237 plainGrant 1 := by
  rw [timely_and_handsOut_iff (i := 0) rfl rfl rfl {} (by decide) (by decide) _ (by decide) plainGrant (by decide)]
  decide

theorem not_timely_wrap
    : ¬ firstPreamble.Timely {} 0 0 (fun _ => 0)
        ∧ ¬ firstPreamble.Timely {} 10236 0 (fun _ => 0)
        ∧ ¬ PhchCommon.HandsOut {} 10238 plainGrant 1 := by
  refine ⟨?_, ?_, ?_⟩
  . intro h
    exact h.leaves (by decide)
  . intro h
    have hlast := h.listens 0 (by decide)
    rw [if_pos ⟨1, by decide, by decide⟩] at hlast
    exact absurd hlast (by decide)
  . intro h
    have hnone := h.1 1 (by decide) (by decide)
    exact absurd hnone (by decide)

end RaProc

end SrsLte
