import SrsLte.Mac.Lemmas.UlHarq

/-!
This module contains the order of the redundancy versions that an uplink HARQ process transmits.
-/

namespace SrsLte

open Trace

def followingRv (rv : Int) : Option Int :=
  match rv with
  | 0 => some 2
  | 2 => some 3
  | 3 => some 1
  | 1 => some 0
  | _ => none

namespace UlHarqProcess

variable {π : Type} {params : UlHarqParams} {s : UlHarqProcess π} {call : UlHarqCall π} {grant : UlGrant}

def nextRv (last : Option Int) (r : UlHarqEvent π × UlHarqOut π) : Option Int :=
  if UlBlock.Transmits r then some r.2.action.rv else last

def rvAfter (params : UlHarqParams) (pid : Nat) (payloadBuffer : π) (es : List (UlHarqEvent π)) : Option Int :=
  exec nextRv none (outputs (step params) (record params) (init pid payloadBuffer) es)

/--
A transmission for a grant has the redundancy version of the grant, and one without a grant has the one that
follows the last one.
-/
def RvRule (params : UlHarqParams) (s : UlHarqProcess π) (last : Option Int) (call : UlHarqCall π) : Prop :=
  let r := record params s (.runTti call)
  UlBlock.Transmits r →
    match call.grant with
    | some grant => r.2.action.rv = grant.rv 0
    | none => last.bind followingRv = some r.2.action.rv

def received (s : UlHarqProcess π) (call : UlHarqCall π) : UlHarqProcess π :=
  { s with harqFeedback := s.feedback call.grant call.ack }.resetIfChanged call.grant

/--
A call that transmits signals another redundancy version than 0, or it signals 0 for a new transmission or when it
is the turn of 0 anyway. After a grant for another one than 0 nothing is transmitted without a grant.
-/
def RvKept (params : UlHarqParams) (s : UlHarqProcess π) (call : UlHarqCall π) : Prop :=
  UlBlock.Transmits (record params s (.runTti call)) →
    match call.grant with
    | some grant =>
      0 < grant.rv 0 ∨ (grant.rv 0 = 0 ∧ ((s.received call).isNewTransmission grant ∨ s.currentIrv % 4 = 0))
    | none => s.curGrant.rv 0 ≤ 0

def rvOf (grant : UlGrant) (irv : Nat) : Int :=
  if grant.rv 0 > 0 then grant.rv 0 else rvOfIrv (irv % 4)

def HasSent (s : UlHarqProcess π) (rv : Int) : Prop :=
  rv = rvOf s.curGrant (s.currentIrv + 3)

theorem hasSent_generateTx (call : UlHarqCall π) (s : UlHarqProcess π) (out : UlHarqOut π)
    : (generateTx call s out).2.action.rv = rvOf s.curGrant s.currentIrv ∧
      (generateTx call s out).1.HasSent (rvOf s.curGrant s.currentIrv) := by
  refine ⟨rfl, ?_⟩
  have hirv : ((s.currentIrv + 1) % 4 + 3) % 4 = s.currentIrv % 4 := by omega
  unfold HasSent generateTx rvOf
  dsimp only
  rw [hirv]

theorem sent_newTransmission (htx : (newTransmission call grant s).2.action.txEnabled)
    : (newTransmission call grant s).2.action.rv = rvOf grant 0 ∧
      (newTransmission call grant s).1.HasSent (rvOf grant 0) := by
  unfold newTransmission at htx ⊢
  dsimp only at htx ⊢
  split
  next hmsg3 =>
    rw [if_pos hmsg3] at htx
    split
    next => exact hasSent_generateTx call _ _
    next hnone =>
      rw [if_neg hnone] at htx
      cases htx
  next hmsg3 =>
    rw [if_neg hmsg3] at htx
    split
    next =>
      have hrv : rvOf (if grant.isFromRar then { grant with rnti := call.crnti } else grant) 0 = rvOf grant 0 := by
        split <;> rfl
      rw [← hrv]
      exact hasSent_generateTx call _ _
    next hnone =>
      rw [if_neg hnone] at htx
      cases htx

def adaptiveIrv (s : UlHarqProcess π) (call : UlHarqCall π) (grant : UlGrant) : Nat :=
  if grant.rv 0 ≠ 0 then irvOfRv call.memory ((grant.rv 0).tmod 4) else s.currentIrv

theorem sent_generateRetx (grant? : Option UlGrant) (htx : (generateRetx params call grant? s).2.action.txEnabled)
    : (generateRetx params call grant? s).2.action.rv
        = rvOf (grant?.getD s.curGrant) (grant?.elim s.currentIrv (s.adaptiveIrv call)) ∧
      (generateRetx params call grant? s).1.HasSent (generateRetx params call grant? s).2.action.rv := by
  unfold generateRetx at htx ⊢
  split
  next hmax =>
    rw [if_pos hmax] at htx
    cases htx
  next hmax =>
    rw [if_neg hmax] at htx
    cases grant? with
    | some grant =>
      exact hasSent_generateTx call { s with currentIrv := s.adaptiveIrv call grant, curGrant := grant, harqFeedback := false } {}
    | none =>
      unfold retransmit at htx ⊢
      dsimp only at htx ⊢
      split
      next => exact hasSent_generateTx call s {}
      next hack =>
        rw [if_neg hack] at htx
        cases htx

theorem received_eq (h : (s.received call).hasGrant)
    : s.received call = { s with harqFeedback := s.feedback call.grant call.ack } :=
  eq_of_hasGrant_resetIfChanged _ _ h

theorem sent_runTti (htx : UlBlock.Transmits (record params s (.runTti call)))
    : (step params s (.runTti call)).HasSent (record params s (.runTti call)).2.action.rv ∧
      match call.grant with
      | some grant =>
        (record params s (.runTti call)).2.action.rv
          = rvOf grant (if (s.received call).isNewTransmission grant then 0 else s.adaptiveIrv call grant)
      | none => s.hasGrant ∧ (record params s (.runTti call)).2.action.rv = rvOf s.curGrant s.currentIrv := by
  have hcqi := htx.2
  have htx : (route params call (s.received call)).2.action.txEnabled := htx.1
  change (route params call (s.received call)).1.HasSent (route params call (s.received call)).2.action.rv ∧ _
  unfold record handle
  dsimp only
  change _ ∧ match call.grant with
    | some grant => (route params call (s.received call)).2.action.rv = _
    | none => _ ∧ (route params call (s.received call)).2.action.rv = _
  unfold route at htx ⊢
  cases hgrant : call.grant with
  | some grant =>
    rw [hgrant] at htx
    dsimp only at htx ⊢
    rw [if_neg (hcqi grant hgrant)] at htx ⊢
    split
    next hnew =>
      rw [if_pos hnew] at htx
      have ⟨hrv, hsent⟩ := sent_newTransmission htx
      rw [hrv]
      exact ⟨hsent, rfl⟩
    next hnew =>
      rw [if_neg hnew] at htx
      split
      next hs =>
        rw [if_pos hs, received_eq hs] at htx
        rw [received_eq hs]
        have ⟨hrv, hsent⟩ := sent_generateRetx (some grant) htx
        exact ⟨hsent, hrv⟩
      next hs =>
        rw [if_neg hs] at htx
        cases htx
  | none =>
    rw [hgrant] at htx
    dsimp only at htx ⊢
    split
    next hs =>
      have heq := received_eq hs
      rw [if_pos hs, heq] at htx
      rw [heq] at hs ⊢
      have ⟨hrv, hsent⟩ := sent_generateRetx none htx
      exact ⟨hsent, hs, hrv⟩
    next hs =>
      rw [if_neg hs] at htx
      cases htx

def TracksRv (s : UlHarqProcess π) (last : Option Int) : Prop :=
  s.hasGrant → ∃ rv, last = some rv ∧ s.HasSent rv

theorem tracksRv_step (s : UlHarqProcess π) (last : Option Int) (e : UlHarqEvent π) (h : s.TracksRv last)
    : (step params s e).TracksRv (nextRv last (record params s e)) := by
  cases e with
  | reset => exact fun hs => Bool.noConfusion hs
  | resetNdi => exact h
  | runTti call =>
    intro hs'
    unfold nextRv
    split
    next htx => exact ⟨_, rfl, (sent_runTti htx).1⟩
    next htx =>
      have hrun : Runs params call s _ _ := runs_runTti call s
      cases hrun with
      | quiet heq _ _ =>
        have heq := heq hs'
        have hgrant : s.hasGrant := by
          rw [step, handle, heq] at hs'
          exact hs'
        have ⟨rv, hlast, hsent⟩ := h hgrant
        refine ⟨rv, hlast, ?_⟩
        unfold step handle
        rw [heq]
        exact hsent
      | failed hs _ _ _ _ => exact absurd hs' (by rw [step, handle, hs]; decide)
      | new _ _ _ hsent _ _ _ _ => exact absurd hsent htx
      | retx _ _ hsent _ _ _ _ _ => exact absurd hsent htx

theorem rvOfIrv_followingRv (irv : Nat) : followingRv (rvOfIrv ((irv + 3) % 4)) = some (rvOfIrv (irv % 4) : Int) := by
  have : ∀ k < 4, followingRv (rvOfIrv ((k + 3) % 4)) = some (rvOfIrv k : Int) := by decide
  rw [← this (irv % 4) (Nat.mod_lt irv (by decide))]
  congr 3
  omega

theorem followingRv_ne {rv : Int} (h : 0 < rv) : followingRv rv ≠ some rv := by
  unfold followingRv
  split <;> simp_all

theorem rvOf_eq_iff (grant : UlGrant) (irv : Nat)
    : rvOf grant irv = grant.rv 0 ↔ 0 < grant.rv 0 ∨ (grant.rv 0 = 0 ∧ irv % 4 = 0) := by
  have hzero : ∀ k < 4, rvOfIrv k = 0 ↔ k = 0 := by decide
  have hzero := hzero (irv % 4) (Nat.mod_lt irv (by decide))
  unfold rvOf
  split
  next hpos => simp only [hpos, true_or]
  next hpos => omega

theorem rvRule_iff (params : UlHarqParams) (pid : Nat) (payloadBuffer : π) (es : List (UlHarqEvent π))
    (call : UlHarqCall π)
    : let s := exec (step params) (init pid payloadBuffer) es
      s.RvRule params (rvAfter params pid payloadBuffer es) call ↔ s.RvKept params call := by
  intro s
  have htracks : s.TracksRv (rvAfter params pid payloadBuffer es) :=
    exec_simulation tracksRv_step es (fun hs => Bool.noConfusion hs)
  unfold RvRule RvKept
  apply imp_congr_right
  intro htx
  have ⟨_, hrv⟩ := sent_runTti htx
  cases hgrant : call.grant with
  | some grant =>
    rw [hgrant] at hrv
    dsimp only at hrv ⊢
    rw [hrv, rvOf_eq_iff]
    split
    next hnew => simp only [hnew, Nat.zero_mod, true_or]
    next hnew =>
      simp only [hnew, false_or]
      apply or_congr_right
      apply and_congr_right
      intro hzero
      rw [adaptiveIrv, if_neg (not_not_intro hzero)]
  | none =>
    rw [hgrant] at hrv
    have ⟨hs, hrv⟩ := hrv
    have ⟨rv, hlast, hsent⟩ := htracks hs
    dsimp only
    rw [hrv, hlast, Option.bind_some, hsent]
    unfold rvOf
    split
    next hpos => simp only [followingRv_ne hpos, Int.not_le.mpr hpos]
    next hpos => simp only [rvOfIrv_followingRv, Int.not_lt.mp hpos]

def rvTwo : List (UlHarqEvent Nat) := [
  .runTti (crntiCall (some (crntiGrant false 10)) none),
  .runTti (crntiCall (some { crntiGrant false 10 with rv := fun _ => 2 }) (some false))
]

theorem not_rvRule_nonAdaptive
    : ¬ RvRule ⟨4, 4⟩ (exec (step ⟨4, 4⟩) (init 0 0) rvTwo) (rvAfter ⟨4, 4⟩ 0 0 rvTwo) (crntiCall none (some false)) := by
  intro h
  have hrv : (rvAfter ⟨4, 4⟩ 0 0 rvTwo).bind followingRv
      = some (record ⟨4, 4⟩ (exec (step ⟨4, 4⟩) (init 0 0) rvTwo) (.runTti (crntiCall none (some false)))).2.action.rv :=
    h ⟨rfl, nofun⟩
  exact absurd hrv (by decide)

end UlHarqProcess

end SrsLte
