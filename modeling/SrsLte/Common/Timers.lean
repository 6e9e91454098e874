import SrsLte.Data.Numerals

/-!
This module contains the `timer` of `timers.h`. A timer is stepped once per millisecond.
-/

namespace SrsLte

structure Timer where
  timeout : Nat := 0
  counter : Nat := 0
  running : Bool := false
  deriving DecidableEq, Repr

namespace Timer

def set (t : Timer) (timeout : Int) : Timer :=
  { t with timeout := (timeout % 2 ^ 32).toNat, counter := 0 }

def reset (t : Timer) : Timer :=
  { t with counter := 0 }

def run (t : Timer) : Timer :=
  { t with running := true }

def stop (t : Timer) : Timer :=
  { t with running := false }

def isRunning (t : Timer) : Bool :=
  t.counter < t.timeout && t.running

def isExpired (t : Timer) : Bool :=
  t.timeout > 0 && t.counter ≥ t.timeout

def step (t : Timer) : Timer × Bool :=
  if t.running then
    let t := { t with counter := (t.counter + 1) % 2 ^ 32 }
    if t.isExpired then ({ t with running := false }, true) else (t, false)
  else
    (t, false)

@[simp]
theorem isRunning_stop (t : Timer) : t.stop.isRunning = false := by
  simp [stop, isRunning]

variable {t : Timer} {timeout : Int}

theorem isRunning_run_set (t : Timer) (hpos : 0 < timeout) (hlt : timeout < 2 ^ 32)
    : (t.set timeout).run.isRunning = true := by
  have htimeout : 0 < (timeout % 2 ^ 32).toNat := by
    omega
  simp only [set, run, isRunning, Bool.and_true]
  exact decide_eq_true htimeout

theorem isRunning_iff (t : Timer) : t.isRunning ↔ t.counter < t.timeout ∧ t.running := by
  simp [isRunning]

def Sound (t : Timer) : Prop :=
  t.running → t.counter < t.timeout ∧ t.timeout < 2 ^ 32

theorem sound_of_stopped (h : t.running = false) : t.Sound := by
  intro hrunning
  rw [h] at hrunning
  cases hrunning

theorem sound_run_set (t : Timer) (hpos : 0 < timeout) (hlt : timeout < 2 ^ 32)
    : (t.set timeout).run.Sound := by
  intro _
  refine ⟨((isRunning_iff _).mp (t.isRunning_run_set hpos hlt)).1, ?_⟩
  simp only [run, set]
  omega

theorem Sound.isRunning_eq (h : t.Sound) : t.isRunning = t.running := by
  by_cases hrunning : t.running
  . simp [isRunning, hrunning, (h hrunning).1]
  . simp [isRunning, hrunning]

theorem Sound.step (h : t.Sound)
    : t.step.1.Sound
        ∧ (t.step.2 = false → t.step.1.isRunning = t.isRunning)
        ∧ (t.step.2 = true → t.isRunning) := by
  unfold Timer.step
  by_cases hrunning : t.running
  . have hlt := h hrunning
    rw [if_pos hrunning]
    dsimp only
    split
    . refine ⟨sound_of_stopped rfl, ?_, ?_⟩
      . intro hfalse
        cases hfalse
      . intro _
        rw [isRunning_iff]
        exact ⟨hlt.1, hrunning⟩
    next hexpired =>
      have hcounter : (t.counter + 1) % 2 ^ 32 < t.timeout := by
        simp only [isExpired, Bool.and_eq_true, decide_eq_true_eq, not_and] at hexpired
        omega
      refine ⟨fun _ => ⟨hcounter, hlt.2⟩, ?_, ?_⟩
      . intro _
        unfold isRunning
        rw [decide_eq_true hcounter, decide_eq_true hlt.1]
      . intro hfalse
        cases hfalse
  . rw [if_neg hrunning]
    refine ⟨h, fun _ => rfl, ?_⟩
    intro hfalse
    cases hfalse

end Timer

end SrsLte
