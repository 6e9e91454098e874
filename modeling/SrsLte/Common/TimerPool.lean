import SrsLte.Common.Timers
import SrsLte.Data.Trace

/-!
This module contains the `timers` of `timers.h` and the verification of who owns the ids it hands out.
-/

namespace SrsLte

structure PoolTimer extends Timer where
  callback : Option Nat := none

inductive TimerCall where
  | set (callback : Option Nat) (timeout : Nat)
  | reset
  | run
  | stop

def PoolTimer.call (t : PoolTimer) (c : TimerCall) : PoolTimer :=
  match c with
  | .set callback timeout => { t.toTimer.set timeout with callback }
  | .reset => { t with toTimer := t.toTimer.reset }
  | .run => { t with toTimer := t.toTimer.run }
  | .stop => { t with toTimer := t.toTimer.stop }

structure Timers where
  nofTimers : Nat
  timerList : Nat → PoolTimer := fun _ => {}
  usedTimers : Nat → Bool := fun _ => false
  nofUsedTimers : Nat := 0

namespace Timers

def call (s : Timers) (i : Nat) (c : TimerCall) : Timers :=
  { s with timerList := Function.update s.timerList i ((s.timerList i).call c) }

def stepAll (s : Timers) : Timers :=
  { s with timerList := fun i => { s.timerList i with toTimer := (s.timerList i).toTimer.step.1 } }

def releaseId (s : Timers) (i : Nat) : Timers :=
  if s.nofUsedTimers > 0 ∧ i < s.nofTimers then
    { s with usedTimers := Function.update s.usedTimers i false, nofUsedTimers := s.nofUsedTimers - 1 }
  else
    s

def firstUnused (s : Timers) : Option Nat :=
  (List.range s.nofTimers).find? fun i => !s.usedTimers i

def getUniqueId (s : Timers) : Timers × Nat :=
  if s.nofUsedTimers ≥ s.nofTimers then
    (s, 0)
  else
    match s.firstUnused with
    | some i =>
      ({ s with usedTimers := Function.update s.usedTimers i true, nofUsedTimers := s.nofUsedTimers + 1 }, i)
    | none => (s, 0)

end Timers

inductive TimerEvent where
  | getUniqueId
  | releaseId (i : Nat)
  | call (i : Nat) (c : TimerCall)
  | stepAll

/--
The timers with a history: the ids that were handed out and not released since.
-/
structure TimerPool where
  timers : Timers
  held : List Nat := []

namespace TimerPool

def step (s : TimerPool) (e : TimerEvent) : TimerPool :=
  match e with
  | .getUniqueId => { timers := s.timers.getUniqueId.1, held := s.timers.getUniqueId.2 :: s.held }
  | .releaseId i => { timers := s.timers.releaseId i, held := s.held.erase i }
  | .call i c => { s with timers := s.timers.call i c }
  | .stepAll => { s with timers := s.timers.stepAll }

def Rightful (s : TimerPool) (e : TimerEvent) : Prop :=
  match e with
  | .releaseId i | .call i _ => i ∈ s.held
  | _ => True

def Fresh (t : PoolTimer) : Prop :=
  t.running = false ∧ t.callback = none

/--
The id is held by nobody else and its timer has nothing of a previous owner, and the ids are counted.
-/
def Exclusive (s : TimerPool) (e : TimerEvent) : Prop :=
  (e = .getUniqueId →
      s.timers.getUniqueId.2 ∉ s.held ∧ Fresh ((s.step e).timers.timerList s.timers.getUniqueId.2))
    ∧ (s.step e).timers.nofUsedTimers = (s.step e).held.length

/--
There is an unused timer, and the first one was left stopped and without a callback.
-/
def Available (s : TimerPool) (e : TimerEvent) : Prop :=
  e = .getUniqueId →
    s.held.length < s.timers.nofTimers ∧ ∀ i ∈ s.timers.firstUnused, Fresh (s.timers.timerList i)

structure Owned (s : TimerPool) : Prop where
  nodup : s.held.Nodup
  mem_held : ∀ i, i ∈ s.held ↔ i < s.timers.nofTimers ∧ s.timers.usedTimers i
  nofUsedTimers : s.timers.nofUsedTimers = s.held.length

namespace Owned

variable {s : TimerPool}

theorem exists_firstUnused (h : s.Owned) (hlt : s.held.length < s.timers.nofTimers)
    : ∃ i, s.timers.firstUnused = some i ∧ i < s.timers.nofTimers ∧ i ∉ s.held := by
  have hsome : s.timers.firstUnused.isSome := by
    by_contra hnone
    have hall : List.range s.timers.nofTimers ⊆ s.held := by
      intro i hi
      have hused := List.find?_eq_none.mp (Option.not_isSome_iff_eq_none.mp hnone) i hi
      simp only [Bool.not_eq_true', Bool.not_eq_false] at hused
      exact (h.mem_held i).mpr ⟨List.mem_range.mp hi, hused⟩
    have hle := (List.nodup_range.subperm hall).length_le
    rw [List.length_range] at hle
    omega
  obtain ⟨i, hi⟩ := Option.isSome_iff_exists.mp hsome
  have hfree := List.find?_some hi
  refine ⟨i, hi, List.mem_range.mp (List.mem_of_find?_eq_some hi), ?_⟩
  intro hmem
  rw [((h.mem_held i).mp hmem).2] at hfree
  cases hfree

theorem getUniqueId_eq (h : s.Owned) (hlt : s.held.length < s.timers.nofTimers) {i : Nat}
    (hi : s.timers.firstUnused = some i)
    : s.timers.getUniqueId
        =
      ({
        s.timers with
        usedTimers := Function.update s.timers.usedTimers i true
        nofUsedTimers := s.timers.nofUsedTimers + 1
      }, i) := by
  unfold Timers.getUniqueId
  rw [h.nofUsedTimers, if_neg (Nat.not_le_of_lt hlt), hi]

theorem getUniqueId (h : s.Owned) (hlt : s.held.length < s.timers.nofTimers) : (s.step .getUniqueId).Owned := by
  obtain ⟨i, hi, hrange, hnew⟩ := h.exists_firstUnused hlt
  unfold TimerPool.step
  dsimp only
  rw [h.getUniqueId_eq hlt hi]
  refine ⟨List.nodup_cons.mpr ⟨hnew, h.nodup⟩, ?_, by rw [h.nofUsedTimers]; rfl⟩
  intro j
  dsimp only
  rw [List.mem_cons, h.mem_held, Function.update_apply]
  by_cases heq : j = i
  . simp [heq, hrange]
  . simp [heq]

theorem releaseId (h : s.Owned) {i : Nat} (hi : i ∈ s.held) : (s.step (.releaseId i)).Owned := by
  have hpos := List.length_pos_of_mem hi
  have hlt := ((h.mem_held i).mp hi).1
  unfold TimerPool.step Timers.releaseId
  dsimp only
  rw [h.nofUsedTimers, if_pos ⟨hpos, hlt⟩]
  refine ⟨h.nodup.erase i, ?_, (List.length_erase_of_mem hi).symm⟩
  intro j
  dsimp only
  rw [h.nodup.mem_erase_iff, h.mem_held, Function.update_apply]
  by_cases heq : j = i
  . simp [heq]
  . simp [heq]

theorem step (h : s.Owned) {e : TimerEvent} (hrightful : s.Rightful e) (hok : s.Available e) : (s.step e).Owned := by
  cases e with
  | getUniqueId => exact h.getUniqueId (hok rfl).1
  | releaseId i => exact h.releaseId hrightful
  | call i c => exact ⟨h.nodup, h.mem_held, h.nofUsedTimers⟩
  | stepAll => exact ⟨h.nodup, h.mem_held, h.nofUsedTimers⟩

theorem exclusive_iff (h : s.Owned) {e : TimerEvent} (hrightful : s.Rightful e) : s.Exclusive e ↔ s.Available e := by
  by_cases he : e = .getUniqueId
  . subst he
    by_cases hlt : s.held.length < s.timers.nofTimers
    . obtain ⟨i, hi, _, hnew⟩ := h.exists_firstUnused hlt
      simp [Exclusive, Available, TimerPool.step, h.getUniqueId_eq hlt hi, hi, hnew, hlt, h.nofUsedTimers]
    . have hsame : s.timers.getUniqueId = (s.timers, 0) := by
        unfold Timers.getUniqueId
        rw [h.nofUsedTimers, if_pos (Nat.le_of_not_lt hlt)]
      refine iff_of_false ?_ fun hok => hlt (hok rfl).1
      rintro ⟨-, hcount⟩
      unfold TimerPool.step at hcount
      rw [hsame, h.nofUsedTimers] at hcount
      exact absurd hcount (Nat.ne_of_lt (Nat.lt_succ_self _))
  . have hok : s.Available e := fun heq => absurd heq he
    exact iff_of_true ⟨fun heq => absurd heq he, (h.step hrightful hok).nofUsedTimers⟩ hok

end Owned

theorem exclusive_iff_available (nofTimers : Nat) {es : List TimerEvent}
    (hrightful : Trace.Along step Rightful { timers := { nofTimers } } es)
    : Trace.Along step Exclusive { timers := { nofTimers } } es
        ↔
      Trace.Along step Available { timers := { nofTimers } } es := by
  apply Trace.along_iff_along (I := Owned) _ _ _ hrightful
  . intro s e h he
    exact h.exclusive_iff he
  . intro s e h he hok
    exact h.step he hok
  . exact { nodup := List.nodup_nil, mem_held := by simp, nofUsedTimers := rfl }

theorem exclusive_reused
    : Trace.Along step Exclusive { timers := { nofTimers := 2 } } [.getUniqueId, .getUniqueId, .releaseId 0, .getUniqueId] := by
  have hrightful : Trace.Along step Rightful { timers := { nofTimers := 2 } }
      [.getUniqueId, .getUniqueId, .releaseId 0, .getUniqueId] :=
    ⟨trivial, trivial, .tail _ (.head _), trivial, trivial⟩
  refine (exclusive_iff_available 2 hrightful).mpr
    ⟨fun _ => ⟨by decide, ?_⟩, fun _ => ⟨by decide, ?_⟩, nofun, fun _ => ⟨by decide, ?_⟩, trivial⟩
  all_goals
    rintro i ⟨⟩
    exact ⟨rfl, rfl⟩

theorem not_exclusive
    : ¬ Trace.Along step Exclusive { timers := { nofTimers := 1 } } [.getUniqueId, .getUniqueId]
        ∧ ¬ Trace.Along step Exclusive { timers := { nofTimers := 1 } }
          [.getUniqueId, .call 0 (.set (some 7) 10), .call 0 .run, .releaseId 0, .getUniqueId] := by
  constructor
  . intro h
    exact absurd (h.2.1.1 rfl).1 (by decide)
  . intro h
    exact absurd (h.2.2.2.2.1.1 rfl).2.1 (by decide)

end TimerPool

end SrsLte
