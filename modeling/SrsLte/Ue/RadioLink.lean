import SrsLte.Common.Timers
import SrsLte.Data.Trace
import Mathlib.Data.Fin.VecNotation

/-!
This module contains the detection of radio link failures by the UE in `rrc.cc` and its verification.
-/

namespace SrsLte

structure RlfConfig where
  t310 : Fin 7
  t311 : Fin 7
  n310 : Fin 8
  n311 : Fin 8

def t310Num : Fin 7 → Int :=
  ![0, 50, 100, 200, 500, 1000, 2000]

def t311Num : Fin 7 → Int :=
  ![1000, 3000, 5000, 10000, 15000, 20000, 30000]

def n310Num : Fin 8 → Nat :=
  ![1, 2, 3, 4, 6, 8, 10, 20]

def n311Num : Fin 8 → Nat :=
  ![1, 2, 3, 4, 5, 6, 8, 10]

structure RadioLink where
  connected : Bool := true
  t310 : Timer := {}
  t311 : Timer := {}
  n310Cnt : Nat := 0
  n310 : Nat := 1
  n311Cnt : Nat := 0
  n311 : Nat := 1

namespace RadioLink

def watches (s : RadioLink) : Bool :=
  s.connected && !s.t311.isRunning && !s.t310.isRunning

def outOfSync (s : RadioLink) : RadioLink :=
  if s.watches then
    let n310Cnt := (s.n310Cnt + 1) % 2 ^ 32
    if n310Cnt = s.n310 then { s with t310 := s.t310.reset.run, n310Cnt := 0 } else { s with n310Cnt }
  else
    s

def inSync (s : RadioLink) : RadioLink :=
  if s.t310.isRunning then
    let n311Cnt := (s.n311Cnt + 1) % 2 ^ 32
    if n311Cnt = s.n311 then { s with t310 := s.t310.stop, n311Cnt := 0 } else { s with n311Cnt }
  else
    s

def applyRlfTimersAndConstants (s : RadioLink) (cfg : RlfConfig) : RadioLink :=
  {
    s with
    t310 := s.t310.set (t310Num cfg.t310)
    t311 := s.t311.set (t311Num cfg.t311)
    n310 := n310Num cfg.n310
    n311 := n311Num cfg.n311
  }

end RadioLink

inductive RlfEvent where
  | outOfSync
  | inSync
  | timerStep
  | rlfTimersAndConstants (cfg : RlfConfig)

/--
`outs` counts the consecutive out-of-sync indications since T310 was last started that came while neither timer was
running and `ins` the consecutive in-sync indications since T310 was started.
-/
structure RlfRun extends RadioLink where
  outs : Nat := 0
  ins : Nat := 0

namespace RlfRun

open Trace

def StartsT310 (s : RlfRun) : Prop :=
  s.watches = true ∧ s.n310 ≤ s.outs + 1

def StopsT310 (s : RlfRun) : Prop :=
  s.t310.isRunning = true ∧ s.n311 ≤ s.ins + 1

instance instDecidableStartsT310 (s : RlfRun) : Decidable s.StartsT310 :=
  inferInstanceAs (Decidable (_ ∧ _))

instance instDecidableStopsT310 (s : RlfRun) : Decidable s.StopsT310 :=
  inferInstanceAs (Decidable (_ ∧ _))

def step (s : RlfRun) : RlfEvent → RlfRun
  | .outOfSync =>
    { s.outOfSync with outs := if s.StartsT310 then 0 else if s.watches then s.outs + 1 else s.outs, ins := 0 }
  | .inSync =>
    { s.inSync with outs := 0, ins := if s.StopsT310 then 0 else if s.t310.isRunning then s.ins + 1 else s.ins }
  | .timerStep => { s with t310 := s.t310.step.1, t311 := s.t311.step.1 }
  | .rlfTimersAndConstants cfg => { s with toRadioLink := s.applyRlfTimersAndConstants cfg }

def Detects (s : RlfRun) (e : RlfEvent) : Prop :=
  match e with
  | .outOfSync => (s.step e).t310 = if s.StartsT310 then s.t310.reset.run else s.t310
  | .inSync => (s.step e).t310 = if s.StopsT310 then s.t310.stop else s.t310
  | _ => (s.step e).t310.running = true → s.t310.running = true

/--
No indication interrupts a count of the other one, and a count is below the new limits when they change.
-/
def Uninterrupted (s : RlfRun) (e : RlfEvent) : Prop :=
  match e with
  | .outOfSync => s.t310.running = true ∨ s.n310Cnt + 1 = s.n310 → s.n311Cnt = 0
  | .inSync => s.n310Cnt = 0
  | .timerStep => True
  | .rlfTimersAndConstants cfg => s.n310Cnt < n310Num cfg.n310 ∧ s.n311Cnt < n311Num cfg.n311

structure Counted (s : RlfRun) : Prop where
  outs : s.n310Cnt = s.outs
  ins : s.t310.running = true → s.n311Cnt = s.ins
  n310Cnt : s.n310Cnt < s.n310
  n310 : s.n310 < 2 ^ 32
  n311Cnt : s.n311Cnt < s.n311
  n311 : s.n311 < 2 ^ 32

variable {s : RlfRun}

section

variable (h : s.Counted)

include h

theorem Counted.startsT310_iff : s.StartsT310 ↔ s.watches = true ∧ (s.n310Cnt + 1) % 2 ^ 32 = s.n310 := by
  have hlt := h.n310Cnt
  have hn310 := h.n310
  unfold StartsT310
  rw [← h.outs, Nat.mod_eq_of_lt (by omega)]
  apply and_congr_right
  omega

theorem Counted.stopsT310_iff : s.StopsT310 ↔ s.t310.isRunning = true ∧ (s.n311Cnt + 1) % 2 ^ 32 = s.n311 := by
  have hlt := h.n311Cnt
  have hn311 := h.n311
  unfold StopsT310
  apply and_congr_right
  intro hrunning
  have hins := h.ins ((Timer.isRunning_iff _).mp hrunning).2
  omega

theorem Counted.outOfSync (he : s.Uninterrupted .outOfSync) : (s.step .outOfSync).Counted := by
  have hlt := h.n310Cnt
  have hn310 := h.n310
  have houts := h.outs
  have hpos := Nat.zero_lt_of_lt h.n311Cnt
  simp only [Uninterrupted] at he
  simp only [RlfRun.step, h.startsT310_iff, RadioLink.outOfSync]
  rw [Nat.mod_eq_of_lt (by omega)]
  split_ifs
  all_goals
    constructor <;> grind [h.n311Cnt, h.n311]

theorem Counted.inSync (he : s.n310Cnt = 0) : (s.step .inSync).Counted := by
  have hlt := h.n311Cnt
  have hn311 := h.n311
  have hpos := Nat.zero_lt_of_lt h.n310Cnt
  have hins := h.ins
  simp only [RlfRun.step, h.stopsT310_iff, RadioLink.inSync]
  rw [Nat.mod_eq_of_lt (by omega)]
  split_ifs
  all_goals
    constructor <;> grind [h.n310Cnt, h.n310]

end

theorem running_step (t : Timer) (h : t.step.1.running = true) : t.running = true := by
  unfold Timer.step at h
  by_contra hrunning
  rw [if_neg hrunning] at h
  exact hrunning h

theorem Counted.detects (h : s.Counted) (e : RlfEvent) : s.Detects e := by
  cases e with
  | outOfSync =>
    simp only [Detects, step, h.startsT310_iff, RadioLink.outOfSync]
    split_ifs <;> simp_all
  | inSync =>
    simp only [Detects, step, h.stopsT310_iff, RadioLink.inSync]
    split_ifs <;> simp_all
  | timerStep => exact running_step s.t310
  | rlfTimersAndConstants cfg => exact id

theorem num_bounds : ∀ i, 0 < n310Num i ∧ n310Num i < 2 ^ 32 ∧ 0 < n311Num i ∧ n311Num i < 2 ^ 32 := by
  decide

theorem Counted.step (h : s.Counted) {e : RlfEvent} (he : s.Uninterrupted e) : (s.step e).Counted := by
  cases e with
  | outOfSync => exact h.outOfSync he
  | inSync => exact h.inSync he
  | timerStep => exact { h with ins := fun hrunning => h.ins (running_step s.t310 hrunning) }
  | rlfTimersAndConstants cfg =>
    exact { h with
      n310Cnt := he.1
      n310 := (num_bounds cfg.n310).2.1
      n311Cnt := he.2
      n311 := (num_bounds cfg.n311).2.2.2
    }

def start (t311 : Timer) (cfg : RlfConfig) : RlfRun :=
  { toRadioLink := RadioLink.applyRlfTimersAndConstants { t311 } cfg }

theorem counted_start (t311 : Timer) (cfg : RlfConfig) : (start t311 cfg).Counted where
  outs := rfl
  ins := fun _ => rfl
  n310Cnt := (num_bounds cfg.n310).1
  n310 := (num_bounds cfg.n310).2.1
  n311Cnt := (num_bounds cfg.n311).2.2.1
  n311 := (num_bounds cfg.n311).2.2.2

theorem detects_of_uninterrupted (t311 : Timer) (cfg : RlfConfig) (es : List RlfEvent)
    (hes : Along step Uninterrupted (start t311 cfg) es)
    : Along step Detects (start t311 cfg) es := by
  apply along_of_along _ _ (counted_start t311 cfg) hes
  . intro s e h _
    exact h.detects e
  . intro s e h he
    exact h.step he

theorem detects_twoOfEach
    : Along step Detects (start {} ⟨1, 0, 1, 1⟩) [.outOfSync, .outOfSync, .timerStep, .inSync, .inSync] := by
  apply detects_of_uninterrupted
  simp only [Along, Uninterrupted]
  decide

theorem not_detects_interrupted
    : ¬ Along step Detects (start {} ⟨1, 0, 1, 1⟩) [.outOfSync, .inSync, .outOfSync] := by
  simp only [Along, Detects]
  decide

end RlfRun

end SrsLte
