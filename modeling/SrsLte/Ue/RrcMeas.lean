import SrsLte.Phy.Common
import SrsLte.Data.Trace

/-!
This module contains the measurement events of `rrc.cc` in the UE and their verification against Section 5.5.4.1 of
36.331.
-/

namespace SrsLte

structure EventEutra where
  timeToTrigger : Fin 16
  isA3 : Bool
  reportOnLeave : Bool

def liblteRrcTimeToTriggerNum (timeToTrigger : Fin 16) : Nat :=
  [0, 40, 64, 80, 100, 128, 160, 256, 320, 480, 512, 640, 1024, 1280, 2560, 5120].get timeToTrigger

structure MeasValue where
  triggered : Bool := false
  timerEnterTriggered : Bool := false
  timerExitTriggered : Bool := false
  enterTti : Nat := 0
  exitTti : Nat := 0

structure Meas where
  nofReportsSent : Nat := 0
  triggered : Bool := false
  periodicTimerRunning : Bool := false

namespace RrcMeas

def trigger (event : EventEutra) (tti : Nat) (enterCondition exitCondition : Bool) (m : Meas) (cell : MeasValue)
    : Bool × Meas × MeasValue :=
  if enterCondition ∧ (¬ m.triggered ∨ ¬ cell.triggered) then
    if ¬ cell.timerEnterTriggered then
      (false, m, { cell with timerEnterTriggered := true, enterTti := tti })
    else if srslteTtiInterval tti cell.enterTti ≥ event.timeToTrigger then
      (true, { m with triggered := true, nofReportsSent := 0 }, { cell with triggered := true })
    else
      (false, m, cell)
  else if exitCondition then
    if ¬ cell.timerExitTriggered then
      (false, m, { cell with timerExitTriggered := true, exitTti := tti })
    else if srslteTtiInterval tti cell.exitTti ≥ event.timeToTrigger then
      (event.isA3 && event.reportOnLeave, { m with triggered := false, periodicTimerRunning := false },
        { cell with triggered := false })
    else
      (false, m, cell)
  else
    (false, m, cell)

def processEvent (event : EventEutra) (tti : Nat) (enterCondition exitCondition : Bool) (m : Meas) (cell : MeasValue)
    : Bool × Meas × MeasValue :=
  let (generateReport, m, cell) := trigger event tti enterCondition exitCondition m cell
  let cell := if ¬ enterCondition then { cell with timerEnterTriggered := false } else cell
  -- the condition is the same one again
  let cell := if ¬ enterCondition then { cell with timerExitTriggered := false } else cell
  (generateReport, m, cell)

end RrcMeas


open Trace

/--
What 36.331 asks for: the cell is triggered once the entering condition has held for the time to trigger, until the
leaving condition has held for this time. `entered` and `left` count the TTIs in a row in which they held.
-/
structure EventSpec where
  triggered : Bool := false
  entered : Nat := 0
  left : Nat := 0

structure MeasRun where
  tti : Nat
  m : Meas := {}
  cell : MeasValue := {}
  spec : EventSpec := {}

structure Conditions where
  enter : Bool
  exit : Bool
  exclusive : ¬ (enter ∧ exit)

def EventSpec.step (timeToTrigger : Nat) (s : EventSpec) (e : Conditions) : EventSpec :=
  let entered := if e.enter then s.entered + 1 else 0
  let left := if e.exit then s.left + 1 else 0
  -- the first of `n` TTIs in a row is `n - 1` milliseconds ago
  { triggered := if s.triggered then left ≤ timeToTrigger else timeToTrigger < entered, entered, left }

namespace MeasRun

variable {event : EventEutra} {s : MeasRun} {e : Conditions}

def result (event : EventEutra) (s : MeasRun) (e : Conditions) : Bool × Meas × MeasValue :=
  RrcMeas.processEvent event s.tti e.enter e.exit s.m s.cell

def step (event : EventEutra) (s : MeasRun) (e : Conditions) : MeasRun where
  tti := (s.tti + 1) % 10240
  m := (s.result event e).2.1
  cell := (s.result event e).2.2
  spec := s.spec.step (liblteRrcTimeToTriggerNum event.timeToTrigger) e

def Follows (event : EventEutra) (s : MeasRun) (e : Conditions) : Prop :=
  (s.step event e).cell.triggered = (s.step event e).spec.triggered ∧
    ((s.result event e).1 ↔ ¬ s.spec.triggered ∧ (s.step event e).spec.triggered)

def NotDue (event : EventEutra) (s : MeasRun) (e : Conditions) : Prop :=
  e.enter → s.spec.entered < event.timeToTrigger

structure Waiting (event : EventEutra) (s : MeasRun) : Prop where
  tti : s.tti < 10240
  m : s.m.triggered = false
  cell : s.cell.triggered = false
  spec : s.spec.triggered = false
  exit : s.cell.timerExitTriggered = false
  enter : s.cell.timerEnterTriggered = decide (0 < s.spec.entered)
  le : s.spec.entered ≤ event.timeToTrigger
  since : 0 < s.spec.entered → srslteTtiInterval s.tti s.cell.enterTti = s.spec.entered ∧ s.cell.enterTti < 10240

theorem timeToTriggerNum_spec (i : Fin 16)
    : ((i : Nat) = 0 ∧ liblteRrcTimeToTriggerNum i = 0) ∨ (0 < (i : Nat) ∧ (i : Nat) < liblteRrcTimeToTriggerNum i) := by
  have : ∀ i : Fin 16, ((i : Nat) = 0 ∧ liblteRrcTimeToTriggerNum i = 0) ∨
      (0 < (i : Nat) ∧ (i : Nat) < liblteRrcTimeToTriggerNum i) := by decide
  exact this i

namespace Waiting

theorem result_enter (h : s.Waiting event) (he : e.enter = true)
    : s.result event e
        =
      if s.spec.entered = 0 then
        (false, s.m, { s.cell with timerEnterTriggered := true, enterTti := s.tti })
      else if event.timeToTrigger ≤ s.spec.entered then
        (true, { s.m with triggered := true, nofReportsSent := 0 }, { s.cell with triggered := true })
      else
        (false, s.m, s.cell) := by
  have henter := h.enter
  unfold result RrcMeas.processEvent RrcMeas.trigger
  cases Nat.eq_zero_or_pos s.spec.entered with
  | inl hzero =>
    rw [hzero] at henter
    simp [he, h.m, henter, hzero]
  | inr hpos =>
    rw [decide_eq_true hpos] at henter
    simp [he, h.m, henter, Nat.ne_of_gt hpos, (h.since hpos).1]

theorem result_exit (h : s.Waiting event) (he : e.enter = false)
    : ∃ exitTti, s.result event e
        = (false, s.m, { s.cell with timerEnterTriggered := false, timerExitTriggered := false, exitTti }) := by
  unfold result RrcMeas.processEvent RrcMeas.trigger
  cases e.exit with
  | false => exact ⟨s.cell.exitTti, by simp [he]⟩
  | true => exact ⟨s.tti, by simp [he, h.exit]⟩

theorem follows_iff (h : s.Waiting event) : s.Follows event e ↔ NotDue event s e := by
  have hle := h.le
  have hnum := timeToTriggerNum_spec event.timeToTrigger
  unfold Follows NotDue step EventSpec.step
  cases he : e.enter with
  | false =>
    have ⟨exitTti, hresult⟩ := h.result_exit he
    simp [hresult, h.spec, h.cell]
  | true =>
    rw [h.result_enter he]
    split
    next hzero =>
      simp [hzero, h.spec, h.cell]
      omega
    next hpos =>
      split
      next hdue =>
        simp [h.spec]
        omega
      next hdue =>
        simp [h.spec, h.cell]
        omega

theorem interval_succ {tti enterTti n : Nat} (htti : tti < 10240) (henter : enterTti < 10240) (hn : n < 16)
    (h : srslteTtiInterval tti enterTti = n)
    : srslteTtiInterval ((tti + 1) % 10240) enterTti = n + 1 := by
  unfold srslteTtiInterval at h ⊢
  split at h <;> split <;> omega

theorem step (h : s.Waiting event) (hok : NotDue event s e) : (s.step event e).Waiting event := by
  have hnum := timeToTriggerNum_spec event.timeToTrigger
  have hlt := event.timeToTrigger.isLt
  have htti := h.tti
  unfold NotDue at hok
  unfold MeasRun.step EventSpec.step
  cases he : e.enter with
  | false =>
    have ⟨exitTti, hresult⟩ := h.result_exit he
    rw [hresult]
    constructor <;> simp [h.m, h.cell, h.spec, Nat.mod_lt]
  | true =>
    have hok := hok he
    rw [h.result_enter he, if_neg (show ¬ (event.timeToTrigger : Nat) ≤ s.spec.entered by omega)]
    split
    next hzero =>
      constructor <;> simp [h.m, h.cell, h.spec, h.exit, hzero, Nat.mod_lt]
      . omega
      . omega
      . exact ⟨interval_succ htti htti (by decide) (by simp [srslteTtiInterval]), htti⟩
    next hpos =>
      have ⟨hsince, henter⟩ := h.since (Nat.pos_of_ne_zero hpos)
      have htimer := h.enter
      rw [decide_eq_true (Nat.pos_of_ne_zero hpos)] at htimer
      constructor <;> simp [h.m, h.cell, h.spec, h.exit, htimer, Nat.mod_lt]
      . omega
      . omega
      . exact ⟨interval_succ htti henter (by omega) hsince, henter⟩

end Waiting

theorem along_follows_iff (event : EventEutra) {tti : Nat} (htti : tti < 10240) (es : List Conditions)
    : Along (step event) (Follows event) { tti } es ↔ Along (step event) (NotDue event) { tti } es := by
  have hinit : Waiting event { tti } := ⟨htti, rfl, rfl, rfl, rfl, rfl, Nat.zero_le _, nofun⟩
  constructor
  . apply along_of_along (I := Waiting event) _ _ hinit
    . intro s e h hfollows
      exact h.follows_iff.mp hfollows
    . intro s e h hfollows
      exact h.step (h.follows_iff.mp hfollows)
  . apply along_of_along (I := Waiting event) _ _ hinit
    . intro s e h hok
      exact h.follows_iff.mpr hok
    . intro s e h hok
      exact h.step hok

theorem along_follows_64ms
    : Along (step ⟨2, false, false⟩) (Follows ⟨2, false, false⟩) { tti := 10239 }
        [⟨true, false, nofun⟩, ⟨true, false, nofun⟩, ⟨false, true, nofun⟩] :=
  (along_follows_iff _ (by decide) _).mpr ⟨fun _ => by decide, fun _ => by decide, nofun, trivial⟩

theorem not_along_follows_40ms
    : ¬ Along (step ⟨1, false, false⟩) (Follows ⟨1, false, false⟩) { tti := 0 }
        [⟨true, false, nofun⟩, ⟨true, false, nofun⟩] := by
  rintro ⟨_, ⟨htriggered, _⟩, _⟩
  exact absurd htriggered (by decide)

end MeasRun

end SrsLte
