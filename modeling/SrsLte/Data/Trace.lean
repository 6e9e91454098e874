import SrsLte.Data.Numerals

/-!
This module contains bounded `while` loops and runs of deterministic transition systems. `outputs` is what is seen of a
run from outside and `Accepts` says that a monitor, which sees nothing else, allows all of it.
-/

namespace Loop

variable {σ : Type} (cond : σ → Prop) [DecidablePred cond] (body : σ → σ)

/--
Run `while (cond s) { s = body s; }` from `s`, giving up after `fuel` iterations.
-/
def whileDo (fuel : Nat) (s : σ) : σ :=
  match fuel with
  | 0 => s
  | fuel + 1 => if cond s then whileDo fuel (body s) else s

/--
Every state in which `whileDo cond body fuel s` enters the loop body satisfies `P`.
-/
def Always (P : σ → Prop) (fuel : Nat) (s : σ) : Prop :=
  match fuel with
  | 0 => True
  | fuel + 1 => cond s → P s ∧ Always P fuel (body s)

theorem whileDo_succ_of_cond {s : σ} (fuel : Nat) (h : cond s)
    : whileDo cond body (fuel + 1) s = whileDo cond body fuel (body s) := by
  rw [whileDo]
  simp only [h, ↓reduceIte]

theorem whileDo_of_not_cond {s : σ} (fuel : Nat) (h : ¬ cond s)
    : whileDo cond body fuel s = s := by
  cases fuel with
  | zero => rfl
  | succ fuel =>
    rw [whileDo]
    simp only [h, ↓reduceIte]

variable {cond body}

theorem whileDo_invariant {I : σ → Prop} (hbody : ∀ s, I s → cond s → I (body s))
    (fuel : Nat) {s : σ} (hs : I s)
    : I (whileDo cond body fuel s) := by
  induction fuel generalizing s with
  | zero => exact hs
  | succ fuel ih =>
    rw [whileDo]
    split
    . next h => exact ih (hbody s hs h)
    . exact hs

theorem not_cond_whileDo {I : σ → Prop} (μ : σ → Nat)
    (hbody : ∀ s, I s → cond s → I (body s) ∧ μ (body s) < μ s)
    (fuel : Nat) {s : σ} (hs : I s) (hfuel : μ s ≤ fuel)
    : ¬ cond (whileDo cond body fuel s) := by
  induction fuel generalizing s with
  | zero =>
    intro h
    have := (hbody s hs h).2
    omega
  | succ fuel ih =>
    rw [whileDo]
    split
    . next h =>
      have hnext := hbody s hs h
      apply ih hnext.1
      omega
    . next h => exact h

theorem whileDo_spec {I : σ → Prop} (μ : σ → Nat)
    (hbody : ∀ s, I s → cond s → I (body s) ∧ μ (body s) < μ s)
    (fuel : Nat) {s : σ} (hs : I s) (hfuel : μ s ≤ fuel)
    : I (whileDo cond body fuel s) ∧ ¬ cond (whileDo cond body fuel s) := by
  constructor
  . exact whileDo_invariant (fun s hs h => (hbody s hs h).1) fuel hs
  . exact not_cond_whileDo μ hbody fuel hs hfuel

end Loop

namespace Trace

variable {σ ε : Type} (step : σ → ε → σ)

def exec (s : σ) (es : List ε) : σ :=
  es.foldl step s

/--
Every event of `es` is taken in a state in which `ok` allows it.
-/
def Along (ok : σ → ε → Prop) (s : σ) (es : List ε) : Prop :=
  match es with
  | [] => True
  | e :: es => ok s e ∧ Along ok (step s e) es

/--
Every state that the run of `es` from `s` goes through satisfies `P`.
-/
def Throughout (P : σ → Prop) (s : σ) (es : List ε) : Prop :=
  match es with
  | [] => P s
  | e :: es => P s ∧ Throughout P (step s e) es

@[simp]
theorem exec_nil (s : σ) : exec step s [] = s := rfl

@[simp]
theorem exec_cons (s : σ) (e : ε) (es : List ε)
    : exec step s (e :: es) = exec step (step s e) es := rfl

theorem exec_append (s : σ) (es fs : List ε)
    : exec step s (es ++ fs) = exec step (exec step s es) fs := by
  unfold exec
  rw [List.foldl_append]

variable {step}

theorem exec_invariant {P : σ → Prop} (hstep : ∀ s e, P s → P (step s e)) (es : List ε) {s : σ} (h : P s)
    : P (exec step s es) := by
  induction es generalizing s with
  | nil => exact h
  | cons e es ih => exact ih (hstep s e h)

theorem exec_of_mem {P : σ → Prop} {es : List ε} (hstep : ∀ s, ∀ e ∈ es, P s → P (step s e)) {s : σ} (h : P s)
    : P (exec step s es) := by
  induction es generalizing s with
  | nil => exact h
  | cons e es ih =>
    apply ih
    . intro s e' he'
      exact hstep s e' (List.mem_cons_of_mem e he')
    . exact hstep s e List.mem_cons_self h

theorem Throughout.head {P : σ → Prop} {s : σ} {es : List ε} (h : Throughout step P s es) : P s := by
  cases es with
  | nil => exact h
  | cons e es => exact h.1

theorem Throughout.exec {P : σ → Prop} {s : σ} {es : List ε} (h : Throughout step P s es)
    : P (exec step s es) := by
  induction es generalizing s with
  | nil => exact h
  | cons e es ih => exact ih h.2

theorem Throughout.mono {P Q : σ → Prop} (hPQ : ∀ s, P s → Q s) {s : σ} {es : List ε}
    (h : Throughout step P s es) : Throughout step Q s es := by
  induction es generalizing s with
  | nil => exact hPQ s h
  | cons e es ih => exact ⟨hPQ s h.1, ih h.2⟩

theorem Along.mono {ok ok' : σ → ε → Prop} (himp : ∀ s e, ok s e → ok' s e) {s : σ} {es : List ε}
    (h : Along step ok s es)
    : Along step ok' s es := by
  induction es generalizing s with
  | nil => trivial
  | cons e es ih => exact ⟨himp s e h.1, ih h.2⟩

theorem along_append {ok : σ → ε → Prop} {s : σ} {es fs : List ε}
    : Along step ok s (es ++ fs) ↔ Along step ok s es ∧ Along step ok (exec step s es) fs := by
  induction es generalizing s with
  | nil => simp [Along]
  | cons e es ih => simp only [List.cons_append, Along, exec_cons, ih, and_assoc]

theorem Along.exists_of_mem {ok : σ → ε → Prop} {s : σ} {es : List ε} (h : Along step ok s es) {e : ε}
    (he : e ∈ es)
    : ∃ s, ok s e := by
  induction es generalizing s with
  | nil => cases he
  | cons e' es ih =>
    cases List.mem_cons.mp he with
    | inl heq =>
      rw [heq]
      exact ⟨s, h.1⟩
    | inr hmem => exact ih h.2 hmem

theorem along_map {τ : Type} {step' : τ → ε → τ} {P : τ → ε → Prop} (part : σ → τ)
    (hstep : ∀ s e, part (step s e) = step' (part s) e) {s : σ} {es : List ε}
    : Along step (fun s e => P (part s) e) s es ↔ Along step' P (part s) es := by
  induction es generalizing s with
  | nil => exact Iff.rfl
  | cons e es ih =>
    simp only [Along]
    rw [ih, hstep]

theorem throughout_of_along {ok : σ → ε → Prop} {I : σ → Prop}
    (hstep : ∀ s e, I s → ok s e → I (step s e))
    {s : σ} {es : List ε} (hs : I s) (hok : Along step ok s es)
    : Throughout step I s es := by
  induction es generalizing s with
  | nil => exact hs
  | cons e es ih =>
    constructor
    . exact hs
    . exact ih (hstep s e hs hok.1) hok.2

theorem along_of_along {ok P : σ → ε → Prop} {I : σ → Prop} (hP : ∀ s e, I s → ok s e → P s e)
    (hstep : ∀ s e, I s → ok s e → I (step s e)) {s : σ} {es : List ε} (hs : I s) (hok : Along step ok s es)
    : Along step P s es := by
  induction es generalizing s with
  | nil => trivial
  | cons e es ih => exact ⟨hP s e hs hok.1, ih (hstep s e hs hok.1) hok.2⟩

theorem along_iff_along {valid ok P : σ → ε → Prop} {I : σ → Prop}
    (hP : ∀ s e, I s → valid s e → (P s e ↔ ok s e)) (hstep : ∀ s e, I s → valid s e → ok s e → I (step s e))
    {s : σ} {es : List ε} (hs : I s) (hvalid : Along step valid s es)
    : Along step P s es ↔ Along step ok s es := by
  induction es generalizing s with
  | nil => exact Iff.rfl
  | cons e es ih =>
    simp only [Along]
    rw [hP s e hs hvalid.1]
    exact and_congr_right fun hok => ih (hstep s e hs hvalid.1 hok) hvalid.2

/--
When the allowed steps are exactly the ones that keep `P`, a run keeps `P` throughout if and only
if all of its steps are allowed. `I` is what every step keeps, allowed or not.
-/
theorem throughout_iff_along {ok : σ → ε → Prop} {P I : σ → Prop}
    (hinv : ∀ s e, I s → P s → I (step s e))
    (hstep : ∀ s e, I s → P s → (P (step s e) ↔ ok s e))
    {s : σ} {es : List ε} (hs : I s) (hP : P s)
    : Throughout step P s es ↔ Along step ok s es := by
  induction es generalizing s with
  | nil => simp only [Throughout, Along, hP]
  | cons e es ih =>
    simp only [Throughout, Along, hP, true_and]
    constructor
    . intro h
      have hnext := h.head
      exact ⟨(hstep s e hs hP).mp hnext, (ih (hinv s e hs hP) hnext).mp h⟩
    . rintro ⟨hok, hes⟩
      have hnext := (hstep s e hs hP).mpr hok
      exact (ih (hinv s e hs hP) hnext).mpr hes

section Monitor

variable {ω μ : Type}

def outputs (step : σ → ε → σ) (out : σ → ε → ω) (s : σ) (es : List ε) : List ω :=
  match es with
  | [] => []
  | e :: es => out s e :: outputs step out (step s e) es

/--
A monitor that is in the state `m` and moves by `next` allows every one of the outputs `os`.
-/
def Accepts (next : μ → ω → μ) (ok : μ → ω → Prop) (m : μ) (os : List ω) : Prop :=
  match os with
  | [] => True
  | o :: os => ok m o ∧ Accepts next ok (next m o) os

variable {out : σ → ε → ω} {next : μ → ω → μ} {ok : μ → ω → Prop} {R : σ → μ → Prop}

theorem accepts_of_simulation (hok : ∀ s m e, R s m → ok m (out s e))
    (hnext : ∀ s m e, R s m → R (step s e) (next m (out s e))) (es : List ε) {s : σ} {m : μ} (h : R s m)
    : Accepts next ok m (outputs step out s es) := by
  induction es generalizing s m with
  | nil => trivial
  | cons e es ih => exact ⟨hok s m e h, ih (hnext s m e h)⟩

theorem exec_simulation (hnext : ∀ s m e, R s m → R (step s e) (next m (out s e))) (es : List ε) {s : σ}
    {m : μ} (h : R s m)
    : R (exec step s es) (exec next m (outputs step out s es)) := by
  induction es generalizing s m with
  | nil => exact h
  | cons e es ih => exact ih (hnext s m e h)

end Monitor

end Trace
