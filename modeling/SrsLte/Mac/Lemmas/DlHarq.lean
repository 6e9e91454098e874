import SrsLte.Mac.Impl.Harq

/-!
This module contains the theory of the downlink HARQ processes.
-/

namespace SrsLte

open Trace

namespace SoftbufferRx

def Within (q : SoftbufferRx) (n : Nat) : Prop :=
  ∀ i, q.bufferF i ≠ [] → i < n ∧ i < q.maxCb

structure Only (q : SoftbufferRx) (tb : Nat) : Prop where
  bufferF : ∀ i, ∀ c ∈ q.bufferF i, c = tb
  data : ∀ i, q.cbCrc i → q.data i = tb

structure Clear (q : SoftbufferRx) : Prop where
  bufferF : ∀ i, q.bufferF i = []
  cbCrc : ∀ i, q.cbCrc i = false

variable {q : SoftbufferRx}

theorem Clear.only (h : Clear q) (tb : Nat) : q.Only tb := by
  constructor
  . intro i c hc
    rw [h.bufferF] at hc
    cases hc
  . intro i hcrc
    rw [h.cbCrc] at hcrc
    cases hcrc

theorem Clear.within (h : Clear q) (n : Nat) : q.Within n :=
  fun i hi => absurd (h.bufferF i) hi

theorem clear_resetCb {n nofCb : Nat} (h : q.Within n) (hle : n ≤ nofCb ∨ q.maxCb ≤ nofCb)
    : (q.resetCb nofCb).Clear := by
  constructor
  . intro i
    unfold resetCb
    dsimp only
    cases Classical.em (q.bufferF i = []) with
    | inl hnil => rw [hnil, ite_self]
    | inr hne =>
      have hi := h i hne
      apply if_pos
      split
      next => exact hi.2
      next => omega
  . intro i
    rfl

theorem nofCb_le (tbs : Nat) : max 1 (nofCb tbs) ≤ (tbs + 24) / (tcodMaxLenCb - 24) + 1 := by
  have hC : nofCodeBlocks (tbs + 24) = if tbs + 24 ≤ 6144 then 1 else (tbs + 24 + 6119) / 6120 := rfl
  have hlen : tcodMaxLenCb - 24 = 6120 := rfl
  unfold nofCb
  rw [hC, hlen]
  split
  next => omega
  next =>
    split
    next => omega
    next => omega

theorem clear_resetTbs {tbs : Nat} (h : q.Within (max 1 (nofCb tbs))) : (q.resetTbs tbs).Clear :=
  clear_resetCb h (Or.inl (nofCb_le tbs))

theorem Within.clear_reset {n : Nat} (h : q.Within n) : q.reset.Clear :=
  clear_resetCb h (Or.inr (le_refl q.maxCb))

theorem Only.decodeTb {tb : Nat} (h : q.Only tb) (tbs : Nat) (rx : Reception)
    : (q.decodeTb tb tbs rx).Only tb := by
  unfold SoftbufferRx.decodeTb
  split
  next => exact h
  next =>
    constructor
    . intro i c hc
      dsimp only at hc
      split at hc
      next =>
        cases List.mem_append.mp hc with
        | inl hc => exact h.bufferF i c hc
        | inr hc => exact List.mem_singleton.mp hc
      next => exact h.bufferF i c hc
    . intro i hcrc
      dsimp only at hcrc ⊢
      split
      next => rfl
      next hnot =>
        rw [decide_eq_false hnot, Bool.or_false] at hcrc
        exact h.data i hcrc

theorem Within.decodeTb {tbs : Nat} (h : q.Within (max 1 (nofCb tbs))) (tb : Nat) (rx : Reception)
    : (q.decodeTb tb tbs rx).Within (max 1 (nofCb tbs)) := by
  unfold SoftbufferRx.decodeTb
  split
  next => exact h
  next hle =>
    intro i hi
    dsimp only at hi ⊢
    split at hi
    next hlt => omega
    next => exact h i hi

end SoftbufferRx

namespace DlTbProcess

structure Inv (s : DlTbProcess) : Prop where
  within : s.softbuffer.Within (max 1 (SoftbufferRx.nofCb s.tbs))
  only : s.softbuffer.Only s.tb

def LateDuplicate (s : DlTbProcess) (grant : DlGrant) : Prop :=
  s.ack ∧ ¬ s.isOtherTb grant ∧ srslteTtiInterval grant.tti s.curGrant.tti > resetDuplicateTimeout

def Ok (s : DlTbProcess) (e : DlHarqEvent) : Prop :=
  match e with
  | .newGrantDl call _ => s.LateDuplicate (s.withRv call) → SoftbufferRx.nofCb s.tbs ≤ 1
  | _ => True

/--
A soft buffer that is handed to the decoder is empty for a new transmission, as far as the transport block
reaches, and for a retransmission it has only what belongs to the transport block.
-/
def CombinesOneTb (s : DlTbProcess) (e : DlHarqEvent) : Prop :=
  match e with
  | .newGrantDl call _ =>
    let (s', action) := s.newGrantDl call
    action.decodeEnabled →
      (s'.isNewTransmission → ∀ i < SoftbufferRx.nofCb s'.tbs,
        s'.softbuffer.bufferF i = [] ∧ s'.softbuffer.cbCrc i = false) ∧
      (¬ s'.isNewTransmission → s'.softbuffer.Only s'.tb)
  | _ => True

inductive Receives (s : DlTbProcess) (grant : DlGrant) (r : DlTbProcess) : Prop
  | other (hclear : r.softbuffer.Clear) (hack : r.ack = false)
  | same (hack : r.ack = s.ack) (hold : ¬ s.isOtherTb grant) (hsoftbuffer : r.softbuffer = s.softbuffer)
      (htb : r.tb = s.tb) (hnew : r.isNewTransmission = false) (hsize : s.curGrant.nBytes s.tid = grant.nBytes s.tid)

variable {s s' : DlTbProcess} {call : DlHarqCall} {action : DlAction}

theorem receives_receive (h : s.Inv) (grant : DlGrant) : Receives s grant (s.receive grant) := by
  unfold receive
  dsimp only
  cases Classical.em (s.isOtherTb grant) with
  | inl hother =>
    rw [if_pos hother]
    exact Receives.other (SoftbufferRx.clear_resetTbs h.within) rfl
  | inr hsame =>
    rw [if_neg hsame]
    refine Receives.same rfl hsame rfl rfl ?_ ?_
    . exact decide_eq_false (fun hnew => hsame (Or.inl hnew))
    . exact Decidable.not_not.mp (fun hne => hsame (Or.inr hne))

@[simp]
theorem tid_receive (s : DlTbProcess) (grant : DlGrant) : (s.receive grant).tid = s.tid := by
  unfold receive
  dsimp only
  split
  next => rfl
  next => rfl

@[simp]
theorem curGrant_receive (s : DlTbProcess) (grant : DlGrant) : (s.receive grant).curGrant = s.curGrant := by
  unfold receive
  dsimp only
  split
  next => rfl
  next => rfl

@[simp]
theorem decodeEnabled_withGenerateAck (s : DlTbProcess) (call : DlHarqCall) (action : DlAction)
    : (s.withGenerateAck call action).decodeEnabled = action.decodeEnabled := by
  unfold withGenerateAck
  split
  next => rfl
  next =>
    split
    next => rfl
    next => rfl

theorem newGrantDl_cases {r : DlTbProcess} (h : s.newGrantDl call = (s', action)) (hr : s.receive (s.withRv call) = r)
    : (r.ack = false ∧ s'.tbs = (s.withRv call).nBytes s.tid * 8 ∧ s'.softbuffer = r.softbuffer ∧ s'.tb = r.tb ∧
        s'.isNewTransmission = r.isNewTransmission) ∨
      (r.ack = true ∧ action.decodeEnabled = false ∧ s'.softbuffer = r.softbuffer ∧ s'.tb = r.tb ∧
        (s'.tbs = s.tbs ∨
          s'.tbs = 0 ∧ srslteTtiInterval (s.withRv call).tti s.curGrant.tti > resetDuplicateTimeout)) := by
  have htid : r.tid = s.tid := by rw [← hr, tid_receive]
  have hcur : r.curGrant = s.curGrant := by rw [← hr, curGrant_receive]
  unfold newGrantDl at h
  dsimp only at h
  rw [hr] at h
  generalize s.withRv call = grant at h ⊢
  cases hack : r.ack with
  | false =>
    left
    rw [if_pos (by simp [hack])] at h
    split at h
    all_goals
      cases h
      refine ⟨rfl, ?_, rfl, rfl, rfl⟩
      exact congrArg (fun tid => grant.nBytes tid * 8) htid
  | true =>
    right
    rw [if_neg (by simp [hack]), hcur] at h
    split at h
    next hlate =>
      cases h
      refine ⟨rfl, ?_, rfl, rfl, Or.inr ⟨Nat.zero_mul 8, hlate⟩⟩
      rw [decodeEnabled_withGenerateAck]
    next =>
      cases h
      refine ⟨rfl, ?_, rfl, rfl, Or.inl ?_⟩
      . rw [decodeEnabled_withGenerateAck]
      . unfold tbs
        rw [hcur, htid]

theorem Inv.newGrantDl (h : s.Inv) (hok : s.LateDuplicate (s.withRv call) → SoftbufferRx.nofCb s.tbs ≤ 1)
    (heq : s.newGrantDl call = (s', action))
    : s'.Inv := by
  have hreceives := receives_receive h (s.withRv call)
  generalize hr : s.receive (s.withRv call) = r at hreceives
  have hcases := newGrantDl_cases heq hr
  cases hreceives with
  | other hclear hack =>
    have hsoftbuffer : s'.softbuffer = r.softbuffer := by
      cases hcases with
      | inl hsaved => exact hsaved.2.2.1
      | inr hduplicate => exact hduplicate.2.2.1
    constructor
    . rw [hsoftbuffer]
      exact hclear.within _
    . rw [hsoftbuffer]
      exact hclear.only _
  | same hack hold hsoftbuffer htb hnew hsize =>
    cases hcases with
    | inl hsaved =>
      have ⟨_, htbs, hsoftbuffer', htb', _⟩ := hsaved
      have htbs : s'.tbs = s.tbs := by
        rw [htbs, ← hsize]
        rfl
      constructor
      . rw [htbs, hsoftbuffer', hsoftbuffer]
        exact h.within
      . rw [hsoftbuffer', hsoftbuffer, htb', htb]
        exact h.only
    | inr hduplicate =>
      have ⟨hack', _, hsoftbuffer', htb', htbs⟩ := hduplicate
      constructor
      . rw [hsoftbuffer', hsoftbuffer]
        cases htbs with
        | inl htbs =>
          rw [htbs]
          exact h.within
        | inr hlate =>
          -- The process is reset but the soft buffer is not
          have hone : SoftbufferRx.nofCb s.tbs ≤ 1 := by
            apply hok
            rw [hack] at hack'
            exact ⟨hack', hold, hlate.2⟩
          intro i hi
          have hlt := h.within i hi
          omega
      . rw [hsoftbuffer', hsoftbuffer, htb', htb]
        exact h.only

theorem Inv.step (h : s.Inv) (e : DlHarqEvent) (hok : s.Ok e) : (s.step e).Inv := by
  cases e with
  | newGrantDl call rx =>
    unfold DlTbProcess.step
    dsimp only
    generalize heq : s.newGrantDl call = result
    have ⟨s', action⟩ := result
    have hs' := h.newGrantDl hok heq
    dsimp only
    split
    next => exact ⟨hs'.within.decodeTb s'.tb rx, hs'.only.decodeTb s'.tbs rx⟩
    next => exact hs'
  | tbDecoded ack =>
    unfold DlTbProcess.step tbDecoded
    dsimp only
    split
    next =>
      have hclear := h.within.clear_reset
      exact ⟨hclear.within _, hclear.only _⟩
    next => exact ⟨h.within, h.only⟩
  | reset =>
    have hclear := h.within.clear_reset
    exact ⟨hclear.within _, hclear.only _⟩

theorem Inv.combinesOneTb (h : s.Inv) (e : DlHarqEvent) (hok : s.Ok e) : s.CombinesOneTb e := by
  cases e with
  | newGrantDl call rx =>
    unfold CombinesOneTb
    dsimp only
    generalize heq : s.newGrantDl call = result
    have ⟨s', action⟩ := result
    have hs' := h.newGrantDl hok heq
    intro hdecode
    refine ⟨?_, fun _ => hs'.only⟩
    intro hnew i _
    have hreceives := receives_receive h (s.withRv call)
    generalize hr : s.receive (s.withRv call) = r at hreceives
    cases newGrantDl_cases heq hr with
    | inl hsaved =>
      have ⟨_, _, hsoftbuffer, _, hnew'⟩ := hsaved
      cases hreceives with
      | other hclear _ =>
        rw [hsoftbuffer]
        exact ⟨hclear.bufferF i, hclear.cbCrc i⟩
      | same _ _ _ _ hold _ =>
        rw [hnew', hold] at hnew
        cases hnew
    | inr hduplicate =>
      rw [hduplicate.2.1] at hdecode
      cases hdecode
  | tbDecoded ack => trivial
  | reset => trivial

theorem inv_init (isBcch : Bool) (tid : Fin 2) (maxCb : Nat) : (init isBcch tid maxCb).Inv := by
  have hclear : (init isBcch tid maxCb).softbuffer.Clear := ⟨fun _ => rfl, fun _ => rfl⟩
  exact ⟨hclear.within _, hclear.only _⟩

theorem combinesOneTb_of_ok (isBcch : Bool) (tid : Fin 2) (maxCb : Nat) (es : List DlHarqEvent)
    (h : Along step Ok (init isBcch tid maxCb) es)
    : Along step CombinesOneTb (init isBcch tid maxCb) es :=
  along_of_along (fun _ e hs hok => hs.combinesOneTb e hok) (fun _ e hs hok => hs.step e hok)
    (inv_init isBcch tid maxCb) h

def crntiEvent (tti nBytes : Nat) : DlHarqEvent :=
  .newGrantDl
    {
      grant := { DlGrant.zero with ndi := fun _ => true, tti, nBytes := fun _ => nBytes },
      buffer := true,
      timeAlignmentExpired := false,
      siWindowStart := 0
    }
    { combined := fun _ => true, decoded := fun _ => true }

theorem combinesOneTb_of_ok_oneCb
    : Along step Ok (init false 0 13) [crntiEvent 0 100, .tbDecoded true, crntiEvent 49 100, crntiEvent 57 2000] ∧
      Along step CombinesOneTb (init false 0 13)
        [crntiEvent 0 100, .tbDecoded true, crntiEvent 49 100, crntiEvent 57 2000] := by
  have hok : Along step Ok (init false 0 13)
      [crntiEvent 0 100, .tbDecoded true, crntiEvent 49 100, crntiEvent 57 2000] := by
    refine ⟨fun _ => ?_, trivial, fun _ => ?_, fun _ => ?_, trivial⟩
    all_goals decide
  exact ⟨hok, combinesOneTb_of_ok false 0 13 _ hok⟩

theorem not_combinesOneTb
    : ¬ Along step CombinesOneTb (init false 0 13)
        [crntiEvent 0 2000, .tbDecoded true, crntiEvent 49 2000, crntiEvent 57 2000] := by
  rintro ⟨_, _, _, hnew, _⟩
  have hclear := ((hnew rfl).1 rfl 1 (by decide)).1
  revert hclear
  decide

end DlTbProcess

end SrsLte
