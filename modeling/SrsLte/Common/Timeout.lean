import SrsLte.Data.Numerals

/-!
This module contains the timeouts of `timeout.h` that have no callback, and when they expire. The clock counts
the microseconds since the epoch.
-/

namespace SrsLte.Clock

structure Timeval where
  tvSec : Int
  tvUsec : Int

def gettimeofday (t : Nat) : Timeval where
  tvSec := t / 1000000
  tvUsec := t % 1000000

def getTimeInterval (tdata1 tdata2 : Timeval) : Timeval :=
  let tvSec := tdata2.tvSec - tdata1.tvSec
  let tvUsec := tdata2.tvUsec - tdata1.tvUsec
  if tvUsec < 0 then ⟨tvSec - 1, tvUsec + 1000000⟩ else ⟨tvSec, tvUsec⟩

structure Timeout where
  startTime : Timeval
  running : Bool := false
  durationMsec : Int

namespace Timeout

def reset (s : Timeout) : Timeout :=
  { s with running := false }

def start (s : Timeout) (durationMsec : Int) (t : Nat) : Timeout :=
  if durationMsec < 0 then
    s
  else
    { s.reset with startTime := gettimeofday t, running := true, durationMsec }

def expired (s : Timeout) (t : Nat) : Bool :=
  if s.running then
    (getTimeInterval s.startTime (gettimeofday t)).tvUsec > (s.durationMsec * 1000).bmod (2 ^ 32)
  else
    false

/--
After `start` in `t₀` without a callback, `expired` is true in `t` and in the later `t'` exactly if more than
`durationMsec` milliseconds have elapsed, and it stays true.
-/
structure ExpiresWhenDue (s : Timeout) (durationMsec : Int) (t₀ t t' : Nat) : Prop where
  due : (s.start durationMsec t₀).expired t ↔ durationMsec * 1000 < t - t₀
  due' : (s.start durationMsec t₀).expired t' ↔ durationMsec * 1000 < t' - t₀
  stays : (s.start durationMsec t₀).expired t → (s.start durationMsec t₀).expired t'

/--
The seconds that have elapsed are not looked at: the microseconds alone have to tell that the time is over. A
negative duration starts nothing, the timeout is then the one that was running before. The product of a long one
wraps: the microseconds have to be above it exactly from the time on at which the duration is over.
-/
def SeesDue (s : Timeout) (durationMsec : Int) (t₀ t : Nat) : Prop :=
  if durationMsec < 0 then
    s.expired t = true
  else if durationMsec * 1000 < 2 ^ 31 then
    t - t₀ ≤ durationMsec * 1000 ∨ durationMsec * 1000 < (t - t₀ : Nat) % 1000000
  else
    (t - t₀ ≤ durationMsec * 1000 ∧ (t - t₀ : Nat) % 1000000 ≤ (durationMsec * 1000).bmod (2 ^ 32))
      ∨ (durationMsec * 1000 < t - t₀ ∧ (durationMsec * 1000).bmod (2 ^ 32) < (t - t₀ : Nat) % 1000000)

variable {t₀ t t' : Nat}

theorem tvUsec_getTimeInterval (h : t₀ ≤ t)
    : (getTimeInterval (gettimeofday t₀) (gettimeofday t)).tvUsec = (t - t₀ : Nat) % 1000000 := by
  dsimp only [getTimeInterval, gettimeofday]
  split <;> dsimp only <;> omega

theorem expired_start_iff (s : Timeout) {durationMsec : Int} (hd : 0 ≤ durationMsec) (h : t₀ ≤ t)
    : (s.start durationMsec t₀).expired t
        ↔
      (durationMsec * 1000).bmod (2 ^ 32) < (t - t₀ : Nat) % 1000000 := by
  unfold start
  rw [if_neg (show ¬ durationMsec < 0 by omega)]
  unfold expired
  rw [if_pos rfl, tvUsec_getTimeInterval h, decide_eq_true_iff]

theorem due_iff (s : Timeout) (durationMsec : Int) (h : t₀ ≤ t)
    : ((s.start durationMsec t₀).expired t ↔ durationMsec * 1000 < t - t₀)
        ↔
      s.SeesDue durationMsec t₀ t := by
  unfold SeesDue
  split
  next hneg =>
    have hdue : durationMsec * 1000 < t - t₀ := by omega
    unfold start
    rw [if_pos hneg, iff_true_right hdue]
  next hneg =>
    rw [expired_start_iff s (by omega) h]
    split
    next hlt =>
      have hbmod : (durationMsec * 1000).bmod (2 ^ 32) = durationMsec * 1000 :=
        Int.bmod_eq_of_le (by omega) (by omega)
      rw [hbmod]
      omega
    next =>
      generalize (durationMsec * 1000).bmod (2 ^ 32) = wrapped
      omega

theorem expiresWhenDue_iff (s : Timeout) (durationMsec : Int) (h₀ : t₀ ≤ t) (h : t ≤ t')
    : s.ExpiresWhenDue durationMsec t₀ t t'
        ↔
      s.SeesDue durationMsec t₀ t ∧ s.SeesDue durationMsec t₀ t' := by
  rw [← due_iff s durationMsec h₀, ← due_iff s durationMsec (Nat.le_trans h₀ h)]
  constructor
  . intro h
    exact ⟨h.due, h.due'⟩
  . rintro ⟨hdue, hdue'⟩
    refine ⟨hdue, hdue', ?_⟩
    intro hexpired
    have := hdue.mp hexpired
    exact hdue'.mpr (by omega)

theorem expiresWhenDue_100ms
    : ExpiresWhenDue ⟨⟨0, 0⟩, false, 0⟩ 100 999950 1099950 1099951 :=
  (expiresWhenDue_iff _ 100 (by decide) (by decide)).mpr ⟨Or.inl (by decide), Or.inr (by decide)⟩

theorem not_expiresWhenDue_2s : ¬ ExpiresWhenDue ⟨⟨0, 0⟩, false, 0⟩ 1000 0 2000000 2000000 := by
  intro h
  exact absurd (h.due.mpr (by decide)) (by decide)

end Timeout

end SrsLte.Clock
