import SrsLte.Data.Trace
import SrsLte.Mac.Lemmas.RaFrame

/-!
This module contains the proof that the UE takes over the temporary C-RNTI only if its own contention identity comes
back.
-/

namespace SrsLte.RaProc

open Trace

def InProgress (ra : RaProc) : Prop :=
  ra.startable = false ∧ ra.state ≠ .initialization

instance (ra : RaProc) : Decidable ra.InProgress :=
  inferInstanceAs (Decidable (_ ∧ _))

def CcchInitiated (ra : RaProc) : Prop :=
  ra.preambleIndex ≤ 0 ∧ ra.transmittedCrnti = 0

/--
A contention resolution identity that is not the one of the CCCH SDU in Msg3 clears the temporary C-RNTI and does
nothing else to the identities, and no other event takes over a C-RNTI or completes a procedure for a CCCH SDU.
-/
def Resolves (ra : RaProc) (e : RaEvent) : Prop :=
  match e with
  | .contentionResolutionIdReceived id =>
    ((ra.next e).state = .completion → ra.sent = some id)
      ∧ (ra.sent ≠ some id → (ra.next e).rntis.tempRnti = 0 ∧ (ra.next e).rntis.crnti = ra.rntis.crnti)
  | e =>
    (ra.next e).rntis.crnti = ra.rntis.crnti
      ∧ (ra.CcchInitiated → ra.state ≠ .completion → (ra.next e).state ≠ .completion)

/--
The callbacks come during a procedure, the identity 0 only if the one of this UE is known, Msg3 has the CCCH SDU whose
identity RRC has set, and RRC does not set another one between Msg3 and the step that saves it.
-/
def KeepsIdentity (ra : RaProc) (e : RaEvent) : Prop :=
  match e with
  | .newGrantDl nBytes _ => nBytes < maxRarPduLen ∨ ra.InProgress
  | .tbDecodedOk rarPduBuffer =>
    (∀ rar ∈ (ra.parseRar rarPduBuffer).used, rar.preamble ≠ ra.selPreamble) ∨ ra.InProgress
  | .timersStep => ra.contentionResolutionTimer.step.2 = false ∨ ra.InProgress
  | .contentionResolutionIdReceived id => ra.InProgress ∧ (id ≠ 0 ∨ ra.transmittedContentionId ≠ 0)
  | .msg3Get _ pdu =>
    ra.InProgress → ra.msg3.startPdu = none → ra.rntis.contentionId ≠ 0
      → pdu = none ∨ pdu = some (some ra.rntis.contentionId)
  | .setContentionId _ => ra.InProgress → ra.msg3.hasBeenTransmitted → ra.transmittedContentionId ≠ 0
  | _ => True

instance (ra : RaProc) : Decidable ra.CcchInitiated :=
  inferInstanceAs (Decidable (_ ∧ _))

instance (ra : RaProc) (e : RaEvent) : Decidable (ra.Resolves e) :=
  match e with
  | .contentionResolutionIdReceived _ | .startMacOrder .. | .startNoncont .. | .startPdcchOrder | .step _
  | .newGrantDl .. | .tbDecodedOk _ | .pdcchToCrnti _ | .harqRetx | .timersStep | .msg3Get .. | .setContentionId _
  | .setConfig _ | .reset => inferInstanceAs (Decidable (_ ∧ _))

instance (ra : RaProc) (e : RaEvent) : Decidable (ra.KeepsIdentity e) :=
  match e with
  | .newGrantDl .. | .tbDecodedOk _ | .timersStep => inferInstanceAs (Decidable (_ ∨ _))
  | .contentionResolutionIdReceived _ => inferInstanceAs (Decidable (_ ∧ _))
  | .msg3Get .. | .setContentionId _ => inferInstanceAs (Decidable (_ → _))
  | .startMacOrder .. | .startNoncont .. | .startPdcchOrder | .step _ | .pdcchToCrnti _ | .harqRetx
  | .setConfig _ | .reset => .isTrue trivial

structure Matches (ra : RaProc) : Prop where
  buffered : ∀ ccch, ra.msg3.startPdu = some ccch → ra.sent = ccch
  transmitted : ra.msg3.hasBeenTransmitted ↔ ra.msg3.startPdu ≠ none
  saved : ra.transmittedContentionId ≠ 0
    → ra.msg3.hasBeenTransmitted ∧ ra.sent = some ra.transmittedContentionId
  unsaved : ra.msg3.hasBeenTransmitted → ra.transmittedContentionId = 0 → ra.rntis.contentionId ≠ 0
    → ra.sent = some ra.rntis.contentionId

variable (ra : RaProc) {ra' : RaProc} {e : RaEvent} {rxId : UInt64}

theorem Matches.congr {ra : RaProc} (h : ra.Matches) (hidentity : ra'.identity = ra.identity) : ra'.Matches := by
  simp only [identity, Prod.mk.injEq] at hidentity
  obtain ⟨hstart, htransmitted, hsent, hsaved, hid⟩ := hidentity
  constructor
  . rw [hstart, hsent]
    exact h.buffered
  . rw [hstart, htransmitted]
    exact h.transmitted
  . rw [hsaved, htransmitted, hsent]
    exact h.saved
  . rw [htransmitted, hsaved, hid, hsent]
    exact h.unsaved

theorem keeps_stepResourceSelection (rand : Nat) : Keeps ra (ra.stepResourceSelection rand) := by
  unfold stepResourceSelection
  split
  . exact ⟨rfl, rfl, rfl, fun _ _ => RaState.noConfusion⟩
  . dsimp only
    split
    . exact ⟨rfl, rfl, rfl, fun _ _ => RaState.noConfusion⟩
    . exact ⟨rfl, rfl, rfl, fun _ _ => RaState.noConfusion⟩

theorem keeps_stepResponseError (currentTti rand : Nat)
    : Keeps ra (ra.stepResponseError currentTti rand).1 := by
  unfold stepResponseError
  dsimp only
  split
  . exact ⟨rfl, rfl, rfl, fun _ _ => RaState.noConfusion⟩
  . refine ⟨rfl, rfl, rfl, ?_⟩
    intro _ _
    dsimp only
    generalize (if ra.backoffParamMs ≠ 0 then rand % ra.backoffParamMs else 0) = inteval
    split
    . exact RaState.noConfusion
    . exact RaState.noConfusion

theorem keeps_step {ra : RaProc} (hinitial : ra.state ≠ .initialization) (hres : ra.state ≠ .contentionResolution)
    (hcompletion : ra.state ≠ .completion) (phy : RaStep)
    : Keeps ra (ra.step phy).1 := by
  unfold step
  cases hstate : ra.state with
  | initialization => exact absurd hstate hinitial
  | contentionResolution => exact absurd hstate hres
  | completion => exact absurd hstate hcompletion
  | idle | completionDone | raProblem => exact Keeps.refl ra
  | resourceSelection => exact keeps_stepResourceSelection ra phy.rand
  | preambleTransmission => exact ⟨rfl, rfl, rfl, fun _ _ => RaState.noConfusion⟩
  | pdcchSetup => exact (ra.frames_stepPdcchSetup _).toKeeps
  | responseReception => exact (ra.frames_stepResponseReception _ _).toKeeps
  | responseError => exact keeps_stepResponseError ra phy.currentTti phy.rand
  | backoffWait =>
    simp only [stepBackoffWait]
    split
    . exact ⟨rfl, rfl, rfl, fun _ _ => RaState.noConfusion⟩
    . exact Keeps.refl ra

theorem matches_stepInitialization : ra.stepInitialization.1.Matches := by
  constructor
  . intro ccch hccch
    cases hccch
  . exact iff_of_false Bool.false_ne_true (not_not_intro rfl)
  . intro hne
    exact absurd rfl hne
  . intro htransmitted
    cases htransmitted

theorem Matches.stepContentionResolution {ra : RaProc} (h : ra.Matches) : ra.stepContentionResolution.Matches := by
  unfold RaProc.stepContentionResolution
  dsimp only
  split
  next htransmitted =>
    split
    . split
      . exact h.congr rfl
      . exact h.congr rfl
    . split
      next hunsaved =>
        refine ⟨h.buffered, h.transmitted, ?_, ?_⟩
        . intro hne
          exact ⟨htransmitted, h.unsaved htransmitted hunsaved hne⟩
        . intro _ _ hne
          exact absurd rfl hne
      . exact h.congr rfl
  . exact h

theorem crnti_stepContentionResolution : ra.stepContentionResolution.rntis.crnti = ra.rntis.crnti := by
  unfold stepContentionResolution
  dsimp only
  split
  . split
    . split
      . rfl
      . rfl
    . split
      . rfl
      . rfl
  . rfl

theorem state_stepContentionResolution {ra : RaProc} (hcrnti : ra.transmittedCrnti = 0)
    : ra.stepContentionResolution.state = ra.state := by
  unfold stepContentionResolution
  dsimp only
  split
  . rw [if_neg (not_not_intro hcrnti)]
    split
    . rfl
    . rfl
  . rfl

theorem Matches.msg3Get {ra : RaProc} (h : ra.Matches) (pduSz : Nat) {pdu : Option Msg3Pdu}
    (hpdu : ra.msg3.startPdu = none → ra.rntis.contentionId ≠ 0
      → pdu = none ∨ pdu = some (some ra.rntis.contentionId))
    : (ra.msg3Get pduSz pdu).Matches := by
  unfold RaProc.msg3Get
  split
  . cases hstart : ra.msg3.startPdu with
    | none =>
      have hfalse : ¬ ra.msg3.hasBeenTransmitted := by
        intro htransmitted
        exact h.transmitted.mp htransmitted hstart
      cases hccch : pdu with
      | none => exact h
      | some ccch =>
        constructor
        . intro ccch' heq
          exact Option.some.inj heq
        . exact iff_of_true rfl (Option.some_ne_none ccch)
        . intro hne
          exact absurd (h.saved hne).1 hfalse
        . intro _ _ hne
          cases hpdu hstart hne with
          | inl hnone =>
            rw [hccch] at hnone
            cases hnone
          | inr heq => exact Option.some.inj (hccch.symm.trans heq)
    | some ccch =>
      have hsent := h.buffered ccch hstart
      have hne : ra.msg3.startPdu ≠ none := by
        rw [hstart]
        exact Option.some_ne_none ccch
      constructor
      . intro ccch' heq
        exact Option.some.inj (hstart.symm.trans heq)
      . exact iff_of_true rfl hne
      . intro hsaved
        rw [← hsent]
        exact ⟨rfl, (h.saved hsaved).2⟩
      . intro _
        rw [← hsent]
        exact h.unsaved (h.transmitted.mpr hne)
  . exact h

theorem inProgress_congr {ra : RaProc} (h : ra'.state = ra.state) : ra'.InProgress ↔ ra.InProgress := by
  unfold InProgress startable
  rw [h]

theorem not_inProgress_of_initialization {ra : RaProc} (h : ra.state = .initialization) : ¬ ra.InProgress := by
  intro hprogress
  exact hprogress.2 h

theorem state_processRars_of_forall {ra : RaProc} {rars : List RarSubh}
    (h : ∀ rar ∈ rars, rar.preamble ≠ ra.selPreamble)
    : (ra.processRars rars).1.state = ra.state := by
  induction rars with
  | nil => rfl
  | cons rar rars ih =>
    unfold processRars
    rw [if_neg (h rar List.mem_cons_self)]
    apply ih
    intro rar' hrar'
    exact h rar' (List.mem_cons_of_mem rar hrar')

theorem state_tbDecodedOk_of_forall {ra : RaProc} {rarPduBuffer : List UInt8}
    (h : ∀ rar ∈ (ra.parseRar rarPduBuffer).used, rar.preamble ≠ ra.selPreamble)
    : (ra.tbDecodedOk rarPduBuffer).1.state = ra.state := by
  unfold tbDecodedOk
  dsimp only
  rw [state_processRars_of_forall]
  exact h

theorem state_msg3Get (pduSz : Nat) (pdu : Option Msg3Pdu) : (ra.msg3Get pduSz pdu).state = ra.state := by
  unfold msg3Get
  split
  . split
    . split
      . rfl
      . rfl
    . rfl
  . rfl

def Sound (ra : RaProc) : Prop :=
  ra.InProgress → ra.Matches

theorem Sound.of_keeps {ra : RaProc} (h : ra.Sound) (hkeeps : Keeps ra ra') (hstate : ra'.InProgress → ra.InProgress)
    : ra'.Sound := by
  intro hprogress
  exact (h (hstate hprogress)).congr hkeeps.identity

theorem Sound.step {ra : RaProc} (h : ra.Sound) (phy : RaStep) : (ra.step phy).1.Sound := by
  cases hstate : ra.state with
  | initialization =>
    have hstep : ra.step phy = ra.stepInitialization := by
      simp only [RaProc.step, hstate]
    rw [hstep]
    intro _
    exact ra.matches_stepInitialization
  | contentionResolution =>
    have hstep : ra.step phy = (ra.stepContentionResolution, []) := by
      simp only [RaProc.step, hstate]
    rw [hstep]
    intro _
    apply Matches.stepContentionResolution
    apply h
    unfold InProgress startable
    rw [hstate]
    decide
  | completion =>
    have hstep : ra.step phy = ra.stepCompletition := by
      simp only [RaProc.step, hstate]
    rw [hstep]
    intro hprogress
    have hstartable : ra.stepCompletition.1.startable = true := rfl
    rw [hprogress.1] at hstartable
    cases hstartable
  | idle | completionDone | raProblem =>
    have hstep : ra.step phy = (ra, []) := by
      simp only [RaProc.step, hstate]
    rw [hstep]
    exact h
  | resourceSelection | preambleTransmission | pdcchSetup | responseReception | responseError | backoffWait =>
    apply h.of_keeps
    . apply keeps_step
      all_goals
        rw [hstate]
        exact RaState.noConfusion
    . intro _
      unfold InProgress startable
      rw [hstate]
      decide

theorem Sound.contentionResolutionIdReceived {ra : RaProc} (h : ra.Sound) (hprogress : ra.InProgress) (id : UInt64)
    : (ra.contentionResolutionIdReceived id).1.Sound := by
  have hmatches := h hprogress
  intro _
  unfold RaProc.contentionResolutionIdReceived
  dsimp only
  split
  . exact hmatches.congr rfl
  . exact hmatches.congr rfl

theorem Sound.next_of_isStart {ra : RaProc} (h : ra.Sound) (he : e.isStart = true) : (ra.next e).Sound := by
  cases hra : ra.startable with
  | true =>
    intro hprogress
    exact absurd hprogress (not_inProgress_of_initialization (next_of_startable he hra).1)
  | false =>
    have hframes := frames_of_not_startable he hra
    exact h.of_keeps hframes.1.toKeeps (inProgress_congr hframes.2).mp

theorem Sound.next {ra : RaProc} (h : ra.Sound) (he : ra.KeepsIdentity e) : (ra.next e).Sound := by
  cases e with
  | startMacOrder | startNoncont | startPdcchOrder => exact h.next_of_isStart rfl
  | step phy => exact h.step phy
  | newGrantDl nBytes tti =>
    apply h.of_keeps (ra.frames_newGrantDl nBytes tti).toKeeps
    intro hprogress
    cases he with
    | inl hlt =>
      apply (inProgress_congr _).mp hprogress
      simp only [newGrantDl, if_pos hlt]
    | inr hprogress' => exact hprogress'
  | tbDecodedOk rarPduBuffer =>
    apply h.of_keeps (ra.frames_tbDecodedOk rarPduBuffer).toKeeps
    intro hprogress
    cases he with
    | inl hother => exact (inProgress_congr (state_tbDecodedOk_of_forall hother)).mp hprogress
    | inr hprogress' => exact hprogress'
  | contentionResolutionIdReceived id => exact h.contentionResolutionIdReceived he.1 id
  | pdcchToCrnti containsUplinkGrant =>
    apply h.of_keeps (ra.frames_pdcchToCrnti containsUplinkGrant).toKeeps
    apply (inProgress_congr _).mp
    simp only [pdcchToCrnti]
    split
    . rfl
    . split
      . rfl
      . rfl
  | harqRetx =>
    intro hprogress
    have hmatches := h hprogress
    exact hmatches.congr rfl
  | timersStep =>
    apply h.of_keeps ra.frames_timersStep.toKeeps
    intro hprogress
    cases he with
    | inl hexpired =>
      apply (inProgress_congr _).mp hprogress
      simp only [timersStep, hexpired]
      rfl
    | inr hprogress' => exact hprogress'
  | msg3Get pduSz pdu =>
    intro hprogress
    have hprogress' := (inProgress_congr (ra.state_msg3Get pduSz pdu)).mp hprogress
    exact (h hprogress').msg3Get pduSz (he hprogress')
  | setContentionId uecri =>
    intro hprogress
    have hmatches := h hprogress
    refine ⟨hmatches.buffered, hmatches.transmitted, hmatches.saved, ?_⟩
    intro htransmitted hunsaved
    exact absurd hunsaved (he hprogress htransmitted)
  | setConfig cfg =>
    intro hprogress
    have hmatches := h hprogress
    exact hmatches.congr rfl
  | reset =>
    intro hprogress
    cases hprogress.1

theorem Matches.sent_eq {ra : RaProc} (h : ra.Matches)
    (hid : rxId ≠ 0 ∨ ra.transmittedContentionId ≠ 0) (heq : ra.transmittedContentionId = rxId)
    : ra.sent = some rxId := by
  have hne : ra.transmittedContentionId ≠ 0 := by
    rw [← heq, or_self] at hid
    exact hid
  rw [← heq]
  exact (h.saved hne).2

theorem Matches.resolves {ra : RaProc} (h : ra.Matches) (hid : rxId ≠ 0 ∨ ra.transmittedContentionId ≠ 0)
    : ra.Resolves (.contentionResolutionIdReceived rxId) := by
  simp only [Resolves, RaProc.next, handle, contentionResolutionIdReceived]
  split
  next heq =>
    have hsent := h.sent_eq hid heq
    constructor
    . intro _
      exact hsent
    . intro hne
      exact absurd hsent hne
  . constructor
    . exact RaState.noConfusion
    . intro _
      exact ⟨rfl, rfl⟩

theorem Keeps.resolves {ra : RaProc} (h : Keeps ra (ra.next e))
    : (ra.next e).rntis.crnti = ra.rntis.crnti
        ∧ (ra.CcchInitiated → ra.state ≠ .completion → (ra.next e).state ≠ .completion) := by
  refine ⟨h.crnti, ?_⟩
  intro hccch
  exact h.completion hccch.1

theorem resolves_of_isStart {ra : RaProc} (he : e.isStart = true)
    : (ra.next e).rntis.crnti = ra.rntis.crnti
        ∧ (ra.CcchInitiated → ra.state ≠ .completion → (ra.next e).state ≠ .completion) := by
  cases hra : ra.startable with
  | true =>
    have hstart := next_of_startable he hra
    refine ⟨hstart.2, ?_⟩
    intro _ _
    rw [hstart.1]
    exact RaState.noConfusion
  | false => exact Keeps.resolves (frames_of_not_startable he hra).1.toKeeps

theorem resolves_step (phy : RaStep) : ra.Resolves (.step phy) := by
  by_cases hinitial : ra.state = .initialization
  . have hstep : ra.step phy = ra.stepInitialization := by
      simp only [RaProc.step, hinitial]
    simp only [Resolves, RaProc.next, handle, hstep]
    exact ⟨rfl, fun _ _ => RaState.noConfusion⟩
  by_cases hres : ra.state = .contentionResolution
  . have hstep : ra.step phy = (ra.stepContentionResolution, []) := by
      simp only [RaProc.step, hres]
    simp only [Resolves, RaProc.next, handle, hstep]
    refine ⟨ra.crnti_stepContentionResolution, ?_⟩
    intro hccch hne
    rw [state_stepContentionResolution hccch.2]
    exact hne
  by_cases hcompletion : ra.state = .completion
  . have hstep : ra.step phy = ra.stepCompletition := by
      simp only [RaProc.step, hcompletion]
    simp only [Resolves, RaProc.next, handle, hstep]
    exact ⟨rfl, fun _ _ => RaState.noConfusion⟩
  exact Keeps.resolves (keeps_step hinitial hres hcompletion phy)

theorem Sound.resolves {ra : RaProc} (h : ra.Sound) (he : ra.KeepsIdentity e) : ra.Resolves e := by
  cases e with
  | startMacOrder | startNoncont | startPdcchOrder => exact resolves_of_isStart rfl
  | step phy => exact ra.resolves_step phy
  | newGrantDl nBytes tti => exact Keeps.resolves (ra.frames_newGrantDl nBytes tti).toKeeps
  | tbDecodedOk rarPduBuffer => exact Keeps.resolves (ra.frames_tbDecodedOk rarPduBuffer).toKeeps
  | contentionResolutionIdReceived rxId => exact (h he.1).resolves he.2
  | pdcchToCrnti containsUplinkGrant => exact Keeps.resolves (ra.frames_pdcchToCrnti containsUplinkGrant).toKeeps
  | harqRetx => exact ⟨rfl, fun _ hne => hne⟩
  | timersStep => exact Keeps.resolves ra.frames_timersStep.toKeeps
  | msg3Get pduSz pdu =>
    simp only [Resolves, RaProc.next, handle, state_msg3Get]
    refine ⟨?_, fun _ hne => hne⟩
    unfold msg3Get
    split
    . split
      . split
        . rfl
        . rfl
      . rfl
    . rfl
  | setContentionId uecri => exact ⟨rfl, fun _ hne => hne⟩
  | setConfig cfg => exact ⟨rfl, fun _ hne => hne⟩
  | reset => exact ⟨rfl, fun _ _ => RaState.noConfusion⟩

theorem resolves_of_along {ra : RaProc} (hra : ra.startable = true) {es : List RaEvent}
    (hes : Along next KeepsIdentity ra es)
    : Along next Resolves ra es := by
  have hsound : ra.Sound := by
    intro hprogress
    rw [hprogress.1] at hra
    cases hra
  apply along_of_along _ _ hsound hes
  . intro s e h he
    exact h.resolves he
  . intro s e h he
    exact h.next he

theorem pushPduTempCrnti_eq_exec (ids : List UInt64)
    : ∃ k, ra.pushPduTempCrnti ids = exec next ra ((ids.take k).map .contentionResolutionIdReceived) := by
  induction ids generalizing ra with
  | nil => exact ⟨0, rfl⟩
  | cons id ids ih =>
    unfold pushPduTempCrnti
    dsimp only
    split
    . exact ⟨1, rfl⟩
    . have ⟨k, hk⟩ := ih (ra.contentionResolutionIdReceived id).1
      exact ⟨k + 1, hk⟩

theorem resolves_seven
    : Along next Resolves zeroed
        [.setContentionId 7, .startMacOrder 56 false, .step {}, .step {}, .step {}, .step { prachTxTti := 1 },
          .tbDecodedOk [0x40, 0, 0, 0, 0, 0, 70], .msg3Get 7 (some (some 7)), .step {},
          .contentionResolutionIdReceived 7] := by
  apply resolves_of_along
  . rfl
  . simp only [Along]
    decide

theorem not_resolves_zero
    : ¬ Along next Resolves zeroed
        [.setContentionId 7, .startMacOrder 56 false, .step {}, .step {}, .step {}, .step { prachTxTti := 1 },
          .tbDecodedOk [0x40, 0, 0, 0, 0, 0, 70], .contentionResolutionIdReceived 0] := by
  simp only [Along]
  decide

end SrsLte.RaProc
