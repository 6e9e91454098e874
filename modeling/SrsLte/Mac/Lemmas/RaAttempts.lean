import SrsLte.Data.Trace
import SrsLte.Mac.Lemmas.RaFrame

/-!
This module contains the proof that a random access procedure sends no more preambles than it is configured to, and
that it reports to RRC when it has failed.
-/

namespace SrsLte

open Trace List

def RaEvent.asks56 (e : RaEvent) : Bool :=
  match e with
  | .startMacOrder msgLenBits _ => msgLenBits ≤ 56
  | _ => true

namespace RaState

def permit (state : RaState) : Nat :=
  match state with
  | .resourceSelection | .preambleTransmission | .backoffWait => 1
  | _ => 0

end RaState

namespace RaProc

variable (ra : RaProc)

theorem Quiet.refl : Quiet ra (ra, []) :=
  (Frames.refl ra).toQuiet

theorem quiet_msg3Get (pduSz : Nat) (pdu : Option Msg3Pdu) : Quiet ra (ra.msg3Get pduSz pdu, []) := by
  unfold msg3Get
  split
  . split
    . split
      . exact Quiet.refl ra
      . exact ⟨rfl, rfl, rfl, rfl, Or.inl rfl⟩
    . exact ⟨rfl, rfl, rfl, rfl, Or.inl rfl⟩
  . exact Quiet.refl ra

theorem quiet_contentionResolutionIdReceived (rxContentionId : UInt64)
    : Quiet ra ((ra.contentionResolutionIdReceived rxContentionId).1, []) := by
  unfold contentionResolutionIdReceived
  dsimp only
  split
  . exact ⟨rfl, rfl, rfl, rfl, Or.inr rfl⟩
  . exact ⟨rfl, rfl, rfl, rfl, Or.inr rfl⟩

theorem quiet_handle {ra : RaProc} {e : RaEvent} (hra : e.isStart = true → ra.startable = false)
    (he : ∀ phy, e ≠ .step phy)
    : Quiet ra (ra.handle e) := by
  cases e with
  | startMacOrder | startNoncont | startPdcchOrder => exact (frames_of_not_startable rfl (hra rfl)).1.toQuiet
  | step phy => exact absurd rfl (he phy)
  | newGrantDl nBytes tti => exact (ra.frames_newGrantDl nBytes tti).toQuiet
  | tbDecodedOk rarPduBuffer => exact (ra.frames_tbDecodedOk rarPduBuffer).toQuiet
  | contentionResolutionIdReceived rxContentionId => exact quiet_contentionResolutionIdReceived ra rxContentionId
  | pdcchToCrnti containsUplinkGrant => exact (ra.frames_pdcchToCrnti containsUplinkGrant).toQuiet
  | harqRetx => exact ⟨rfl, rfl, rfl, rfl, Or.inl rfl⟩
  | timersStep => exact ra.frames_timersStep.toQuiet
  | msg3Get pduSz pdu => exact quiet_msg3Get ra pduSz pdu
  | setContentionId uecri => exact ⟨rfl, rfl, rfl, rfl, Or.inl rfl⟩
  | setConfig cfg => exact ⟨rfl, rfl, rfl, rfl, Or.inl rfl⟩
  | reset => exact ⟨rfl, rfl, rfl, rfl, Or.inr rfl⟩

theorem quiet_stepContentionResolution : Quiet ra (ra.stepContentionResolution, []) := by
  unfold stepContentionResolution
  dsimp only
  split
  . split
    . split
      . exact ⟨rfl, rfl, rfl, rfl, Or.inr rfl⟩
      . exact ⟨rfl, rfl, rfl, rfl, Or.inl rfl⟩
    . split
      . exact ⟨rfl, rfl, rfl, rfl, Or.inl rfl⟩
      . exact ⟨rfl, rfl, rfl, rfl, Or.inl rfl⟩
  . exact Quiet.refl ra

theorem quiet_stepCompletition : Quiet ra ra.stepCompletition := by
  unfold stepCompletition
  refine ⟨rfl, rfl, ?_, ?_, Or.inr rfl⟩
  . dsimp only
    split
    . rfl
    . rfl
  . dsimp only
    split
    . rfl
    . rfl

theorem preambleTransMaxNum_pos : ∀ i : Fin 11, 0 < preambleTransMaxNum[i] := by
  decide

structure Failure (ra : RaProc) (res : RaProc × List RaCall) : Prop where
  counter : res.1.preambleTransmissionCounter = ra.preambleTransmissionCounter + 1
  transMax : res.1.preambleTransMax = ra.preambleTransMax
  sends : res.2.countP RaCall.isPrachSend = 0
  state : (res.1.state = .raProblem ∧ res.2.count .raProblem = 1)
    ∨ (res.1.state.permit = 1 ∧ res.2.count .raProblem = 0
      ∧ ra.preambleTransmissionCounter + 1 ≤ ra.preambleTransMax)

theorem failure_stepResponseError (hlt : ra.preambleTransmissionCounter + 1 < 2 ^ 32) (currentTti rand : Nat)
    : Failure ra (ra.stepResponseError currentTti rand) := by
  unfold stepResponseError
  dsimp only
  rw [Nat.mod_eq_of_lt hlt]
  split
  . refine ⟨rfl, rfl, ?_, Or.inl ⟨rfl, ?_⟩⟩
    all_goals
      dsimp only
      split
      . rfl
      . rfl
  . have hle : ra.preambleTransmissionCounter + 1 ≤ ra.preambleTransMax := by
      omega
    refine ⟨rfl, rfl, rfl, Or.inr ⟨?_, rfl, hle⟩⟩
    dsimp only
    generalize (if ra.backoffParamMs ≠ 0 then rand % ra.backoffParamMs else 0) = inteval
    split
    . rfl
    . rfl

/--
The largest Msg3 that was asked for fits into group A, and no more than `n` events have been counted as failed
attempts.
-/
structure Within (ra : RaProc) (n : Nat) : Prop where
  msgLen : ra.newRaMsgLen ≤ 56
  group : ra.lastMsg3Group = .a
  size : 0 < ra.nofGroupBPreambles → 56 ≤ ra.messageSizeGroupA
  preambles : 0 < ra.preambleTransMax → 0 < ra.nofGroupAPreambles
  counter : ra.preambleTransmissionCounter ≤ n

variable {ra} {n : Nat}

theorem Within.congr (h : ra.Within n) {ra' : RaProc} (hlimits : ra'.limits = ra.limits)
    (hcounter : ra'.preambleTransmissionCounter ≤ ra.preambleTransmissionCounter + 1)
    : ra'.Within (n + 1) := by
  simp only [limits, Prod.mk.injEq] at hlimits
  have ⟨hmax, ha, hb, hsize, hlen, hgroup⟩ := hlimits
  constructor
  . rw [hlen]
    exact h.msgLen
  . rw [hgroup]
    exact h.group
  . rw [hb, hsize]
    exact h.size
  . rw [hmax, ha]
    exact h.preambles
  . exact Nat.le_trans hcounter (Nat.succ_le_succ h.counter)

theorem Quiet.within {res : RaProc × List RaCall} (hquiet : Quiet ra res) (h : ra.Within n) : res.1.Within (n + 1) := by
  apply h.congr hquiet.limits
  rw [hquiet.counter]
  exact Nat.le_succ _

theorem Within.selGroup_eq (h : ra.Within n) : ra.selGroup = .a := by
  unfold selGroup
  split
  . exact h.group
  . rw [if_neg]
    rintro ⟨hb, hlt⟩
    have hsize := h.size hb
    have hlen := h.msgLen
    omega

theorem numberOfRaPreamblesNum_pos : ∀ i : Fin 16, 0 < numberOfRaPreamblesNum[i] := by
  decide

theorem sizeOfRaPreamblesGroupANum_pos : ∀ n ∈ sizeOfRaPreamblesGroupANum, 0 < n := by
  decide

theorem le_messageSizeGroupANum : ∀ n ∈ messageSizeGroupANum, 56 ≤ n := by
  decide

theorem nofGroupA_pos (cfg : RachConfig) : 0 < nofGroupA cfg := by
  have hnof := numberOfRaPreamblesNum_pos cfg.numRaPreambles
  unfold nofGroupA
  dsimp only
  split
  . split
    . exact hnof
    . exact sizeOfRaPreamblesGroupANum_pos _ (Vector.getElem_mem _)
  . rw [ite_self]
    exact hnof

theorem Within.stepInitialization (h : ra.Within n) : ra.stepInitialization.1.Within (n + 1) := by
  refine ⟨h.msgLen, h.group, ?_, fun _ => nofGroupA_pos ra.macCfg, Nat.le_add_left 1 n⟩
  intro hb
  change 0 < nofGroupB ra.macCfg at hb
  simp only [RaProc.stepInitialization, readParams]
  split
  . rw [if_pos (Nat.ne_of_gt hb)]
    exact le_messageSizeGroupANum _ (Vector.getElem_mem _)
  next hnone => simp [nofGroupB, nofGroupA, hnone] at hb

theorem Within.stepResourceSelection (h : ra.Within n) (rand : Nat)
    : (ra.stepResourceSelection rand).Within (n + 1) := by
  have hcounter := Nat.le_succ_of_le h.counter
  unfold RaProc.stepResourceSelection
  rw [h.selGroup_eq]
  split
  . exact ⟨h.msgLen, h.group, h.size, h.preambles, hcounter⟩
  . dsimp only
    split
    . exact ⟨h.msgLen, rfl, h.size, h.preambles, hcounter⟩
    . exact ⟨h.msgLen, rfl, h.size, h.preambles, hcounter⟩

theorem Within.step (h : ra.Within n) (phy : RaStep) : (ra.step phy).1.Within (n + 1) := by
  unfold RaProc.step
  cases hstate : ra.state with
  | initialization => exact h.stepInitialization
  | resourceSelection => exact h.stepResourceSelection phy.rand
  | preambleTransmission => exact h.congr rfl (Nat.le_succ _)
  | responseError =>
    simp only [stepResponseError]
    split
    . exact h.congr rfl (Nat.mod_le _ _)
    . exact h.congr rfl (Nat.mod_le _ _)
  | backoffWait =>
    simp only [stepBackoffWait]
    split
    . exact h.congr rfl (Nat.le_succ _)
    . exact h.congr rfl (Nat.le_succ _)
  | pdcchSetup => exact (ra.frames_stepPdcchSetup _).toQuiet.within h
  | responseReception => exact (ra.frames_stepResponseReception _ _).toQuiet.within h
  | contentionResolution => exact ra.quiet_stepContentionResolution.within h
  | completion => exact ra.quiet_stepCompletition.within h
  | idle | completionDone | raProblem => exact (Quiet.refl ra).within h

theorem Within.next (h : ra.Within n) {e : RaEvent} (he : e.asks56 = true) : (ra.next e).Within (n + 1) := by
  cases hstart : e.isStart with
  | true =>
    have hcounter := Nat.le_succ_of_le h.counter
    cases e with
    | startMacOrder msgLenBits isHo =>
      simp only [RaProc.next, handle, startMacOrder]
      split
      . exact ⟨of_decide_eq_true he, h.group, h.size, h.preambles, hcounter⟩
      . exact h.congr rfl (Nat.le_succ _)
    | startNoncont preambleIndex prachMask =>
      simp only [RaProc.next, handle, startNoncont, startMacOrder]
      split
      . exact ⟨Nat.le_refl 56, h.group, h.size, h.preambles, hcounter⟩
      . exact h.congr rfl (Nat.le_succ _)
    | startPdcchOrder =>
      simp only [RaProc.next, handle, startPdcchOrder]
      split
      . exact h.congr rfl (Nat.le_succ _)
      . exact h.congr rfl (Nat.le_succ _)
    | _ => cases hstart
  | false =>
    by_cases hstep : ∃ phy, e = .step phy
    . obtain ⟨phy, rfl⟩ := hstep
      exact h.step phy
    . refine (quiet_handle ?_ ?_).within h
      . rw [hstart]
        exact Bool.noConfusion
      . intro phy heq
        exact hstep ⟨phy, heq⟩

theorem within_zeroed : zeroed.Within 0 :=
  ⟨by decide, rfl, by decide, by decide, by decide⟩

theorem Within.exec (h : ra.Within n) {es : List RaEvent} (hes : ∀ e ∈ es, e.asks56 = true)
    : (exec RaProc.next ra es).Within (n + es.length) := by
  induction es generalizing ra n with
  | nil => exact h
  | cons e es ih =>
    have hnext := ih (h.next (hes e mem_cons_self)) fun e' he' => hes e' (mem_cons_of_mem e he')
    rw [length_cons, Nat.add_comm es.length, ← Nat.add_assoc]
    exact hnext

structure Spends (ra : RaProc) (res : RaProc × List RaCall) : Prop where
  counter : res.1.preambleTransmissionCounter = ra.preambleTransmissionCounter
  transMax : res.1.preambleTransMax = ra.preambleTransMax
  sends : res.2.countP RaCall.isPrachSend + res.1.state.permit ≤ ra.state.permit
  problems : res.2.count .raProblem = 0
  initial : res.1.state = .initialization → ra.state = .initialization
  state : res.1.state ≠ .raProblem

section

variable (hra : ra.startable = false)

include hra

theorem Quiet.spends {res : RaProc × List RaCall} (h : Quiet ra res) : Spends ra res := by
  have hmax := congrArg Prod.fst h.limits
  cases h.state with
  | inl heq =>
    refine ⟨h.counter, hmax, ?_, h.problems, ?_, ?_⟩
    . rw [h.sends, heq, Nat.zero_add]
    . rw [heq]
      exact id
    . rw [heq]
      intro hproblem
      simp [startable, hproblem] at hra
  | inr hsettled =>
    have hnext : res.1.state.permit = 0 ∧ res.1.state ≠ .initialization ∧ res.1.state ≠ .raProblem := by
      revert hsettled
      cases res.1.state <;> simp [RaState.permit, RaState.settled]
    refine ⟨h.counter, hmax, ?_, h.problems, fun hinitial => absurd hinitial hnext.2.1, hnext.2.2⟩
    rw [h.sends, hnext.1]
    exact Nat.zero_le _

theorem Within.spends (h : ra.Within n) (hpermit : ra.state.permit ≤ ra.preambleTransMax)
    (hinitial : ra.state ≠ .initialization) (herror : ra.state ≠ .responseError) (phy : RaStep)
    : Spends ra (ra.step phy) := by
  unfold RaProc.step
  cases hstate : ra.state with
  | initialization => exact absurd hstate hinitial
  | responseError => exact absurd hstate herror
  | resourceSelection =>
    have hle : 1 ≤ ra.state.permit := by
      rw [hstate]
      exact Nat.le_refl 1
    have hne : ra.nofPreamblesOf .a ≠ 0 := Nat.ne_of_gt (h.preambles (Nat.le_trans hle hpermit))
    unfold RaProc.stepResourceSelection
    rw [h.selGroup_eq]
    dsimp only
    rw [if_pos hne]
    split
    . exact ⟨rfl, rfl, hle, rfl, nofun, nofun⟩
    . exact ⟨rfl, rfl, hle, rfl, nofun, nofun⟩
  | preambleTransmission => exact ⟨rfl, rfl, by rw [hstate]; exact Nat.le_refl 1, rfl, nofun, nofun⟩
  | backoffWait =>
    simp only [stepBackoffWait]
    split
    . exact ⟨rfl, rfl, by rw [hstate]; exact Nat.le_refl 1, rfl, nofun, nofun⟩
    . exact ⟨rfl, rfl, Nat.le_of_eq (Nat.zero_add _), rfl, id, by rw [hstate]; exact nofun⟩
  | pdcchSetup => exact (ra.frames_stepPdcchSetup _).toQuiet.spends hra
  | responseReception => exact (ra.frames_stepResponseReception _ _).toQuiet.spends hra
  | contentionResolution => exact ra.quiet_stepContentionResolution.spends hra
  | completion => exact ra.quiet_stepCompletition.spends hra
  | idle | completionDone | raProblem => simp [startable, hstate] at hra

end

end RaProc

namespace RaRun

def sends (run : RaRun) : Nat :=
  run.calls.countP RaCall.isPrachSend

def problems (run : RaRun) : Nat :=
  run.calls.count .raProblem

def Bounded (run : RaRun) : Prop :=
  run.sends ≤ run.ra.preambleTransMax ∧ run.problems = if run.ra.state = .raProblem then 1 else 0

structure Account (run : RaRun) : Prop where
  initial : run.ra.state = .initialization → run.sends = 0
  counter : run.sends + run.ra.state.permit ≤ run.ra.preambleTransmissionCounter
  bound : run.sends + run.ra.state.permit ≤ run.ra.preambleTransMax
  problems : run.problems = if run.ra.state = .raProblem then 1 else 0

theorem sends_step (run : RaRun) (e : RaEvent)
    : (run.step e).sends = run.sends + (run.ra.handle e).2.countP RaCall.isPrachSend := by
  simp only [sends, step, countP_append]

theorem problems_step (run : RaRun) (e : RaEvent)
    : (run.step e).problems = run.problems + (run.ra.handle e).2.count .raProblem := by
  simp only [problems, step, count_append]

variable {run : RaRun} {request : RaEvent}

section

variable (h : run.Account) (hra : run.ra.startable = false)

include h hra

theorem Account.problems_eq_zero : run.problems = 0 := by
  rw [h.problems, if_neg]
  intro hproblem
  simp [RaProc.startable, hproblem] at hra

theorem Account.spends {e : RaEvent} (hspends : run.ra.Spends (run.ra.handle e)) : (run.step e).Account := by
  have hcounter : (run.step e).ra.preambleTransmissionCounter = run.ra.preambleTransmissionCounter := hspends.counter
  have hmax : (run.step e).ra.preambleTransMax = run.ra.preambleTransMax := hspends.transMax
  have hsends : (run.step e).sends + (run.step e).ra.state.permit ≤ run.sends + run.ra.state.permit := by
    rw [sends_step, Nat.add_assoc]
    exact Nat.add_le_add_left hspends.sends _
  constructor
  . intro hinitial
    have hstate := hspends.initial hinitial
    have hzero := h.initial hstate
    rw [hstate, hzero] at hsends
    exact Nat.eq_zero_of_add_eq_zero_right (Nat.le_zero.mp hsends)
  . rw [hcounter]
    exact Nat.le_trans hsends h.counter
  . rw [hmax]
    exact Nat.le_trans hsends h.bound
  . rw [problems_step, hspends.problems, h.problems_eq_zero hra]
    exact (if_neg hspends.state).symm

theorem Account.stepInitialization (hstate : run.ra.state = .initialization) (phy : RaStep)
    : (run.step (.step phy)).Account := by
  have hstep : run.ra.handle (.step phy) = run.ra.stepInitialization := by
    simp only [RaProc.handle, RaProc.step, hstate]
  have hsends := sends_step run (.step phy)
  have hproblems := problems_step run (.step phy)
  have hpos := RaProc.preambleTransMaxNum_pos run.ra.macCfg.preambleTransMax
  rw [h.initial hstate, hstep] at hsends
  rw [h.problems_eq_zero hra, hstep] at hproblems
  have hnext : (run.step (.step phy)).ra = run.ra.stepInitialization.1 := congrArg Prod.fst hstep
  refine ⟨fun _ => hsends, ?_, ?_, ?_⟩
  . rw [hsends, hnext]
    exact Nat.le_refl 1
  . rw [hsends, hnext]
    exact hpos
  . rw [hproblems, hnext]
    rfl

theorem Account.stepResponseError (hstate : run.ra.state = .responseError)
    (hlt : run.ra.preambleTransmissionCounter + 1 < 2 ^ 32) (phy : RaStep)
    : (run.step (.step phy)).Account := by
  have hstep : run.ra.handle (.step phy) = run.ra.stepResponseError phy.currentTti phy.rand := by
    simp only [RaProc.handle, RaProc.step, hstate]
  have hfailure := run.ra.failure_stepResponseError hlt phy.currentTti phy.rand
  rw [← hstep] at hfailure
  have hsends := sends_step run (.step phy)
  have hproblems := problems_step run (.step phy)
  rw [hfailure.sends] at hsends
  rw [h.problems_eq_zero hra, Nat.zero_add] at hproblems
  have hcounter : (run.step (.step phy)).ra.preambleTransmissionCounter = _ := hfailure.counter
  have hmax : (run.step (.step phy)).ra.preambleTransMax = _ := hfailure.transMax
  have hle := h.counter
  have hbound := h.bound
  cases hfailure.state with
  | inl hlast =>
    have hnext : (run.step (.step phy)).ra.state = .raProblem := hlast.1
    constructor
    all_goals rw [hnext]
    . exact RaState.noConfusion
    . change _ + 0 ≤ _
      omega
    . change _ + 0 ≤ _
      omega
    . rw [hproblems, hlast.2, if_pos rfl]
  | inr hretry =>
    have hpermit : (run.step (.step phy)).ra.state.permit = 1 := hretry.1
    have hne : ∀ {state : RaState}, state.permit = 0 → (run.step (.step phy)).ra.state ≠ state := by
      intro state hzero heq
      rw [heq, hzero] at hpermit
      cases hpermit
    refine ⟨fun heq => absurd heq (hne rfl), ?_, ?_, ?_⟩
    . omega
    . omega
    . rw [hproblems, hretry.2.1, if_neg (hne rfl)]

theorem Account.step {n : Nat} (hwithin : run.ra.Within n) (hn : n + 1 < 2 ^ 32) (e : RaEvent)
    : (run.step e).Account := by
  by_cases hstep : ∃ phy, e = .step phy
  . obtain ⟨phy, rfl⟩ := hstep
    by_cases hinitial : run.ra.state = .initialization
    . exact h.stepInitialization hra hinitial phy
    by_cases herror : run.ra.state = .responseError
    . exact h.stepResponseError hra herror (Nat.lt_of_le_of_lt (Nat.succ_le_succ hwithin.counter) hn) phy
    exact h.spends hra (hwithin.spends hra (Nat.le_of_add_left_le h.bound) hinitial herror phy)
  . apply h.spends hra
    apply RaProc.Quiet.spends hra
    apply RaProc.quiet_handle fun _ => hra
    intro phy heq
    exact hstep ⟨phy, heq⟩

end

def start (ra : RaProc) (request : RaEvent) : RaRun :=
  { ra := ra.next request }

theorem account_start {ra : RaProc} (hra : ra.startable = true) (hrequest : request.isStart = true)
    : (start ra request).Account := by
  have hstate : (start ra request).ra.state = .initialization := (RaProc.next_of_startable hrequest hra).1
  refine ⟨fun _ => rfl, ?_, ?_, ?_⟩
  all_goals rw [hstate]
  . exact Nat.zero_le _
  . exact Nat.zero_le _
  . rfl

theorem Account.exec {n : Nat} (h : run.Account) (hwithin : run.ra.Within n) {es : List RaEvent}
    (hn : n + es.length < 2 ^ 32) (hasks : ∀ e ∈ es, e.asks56 = true)
    (hes : Along RaRun.step (fun run _ => run.ra.startable = false) run es)
    : (Trace.exec RaRun.step run es).Account := by
  induction es generalizing run n with
  | nil => exact h
  | cons e es ih =>
    rw [length_cons] at hn
    apply ih (h.step hes.1 hwithin (by omega) e) (hwithin.next (hasks e mem_cons_self)) (by omega) _ hes.2
    intro e' he'
    exact hasks e' (mem_cons_of_mem e he')

theorem bounded_of_along {history es : List RaEvent} {request : RaEvent}
    (hasks : ∀ e ∈ history ++ request :: es, e.asks56 = true) (hlength : (history ++ request :: es).length < 2 ^ 32)
    (hra : (exec RaProc.next RaProc.zeroed history).startable = true) (hrequest : request.isStart = true)
    (hes : Along step (fun run _ => run.ra.startable = false)
      (start (exec RaProc.next RaProc.zeroed history) request) es)
    : (exec step (start (exec RaProc.next RaProc.zeroed history) request) es).Bounded := by
  simp only [mem_append, mem_cons] at hasks
  simp only [length_append, length_cons] at hlength
  have hhistory := RaProc.within_zeroed.exec fun e he => hasks e (.inl he)
  have hstart := hhistory.next (hasks request (.inr (.inl rfl)))
  have haccount := (account_start hra hrequest).exec hstart (by omega) (fun e he => hasks e (.inr (.inr he))) hes
  exact ⟨Nat.le_of_add_right_le haccount.bound, haccount.problems⟩

def unanswered : List RaEvent :=
  [.step {}, .step {}, .step { prachTxTti := 1 }, .step { currentTti := 8, prachTxTti := 1 }, .step {}]

def failing : List RaEvent :=
  .step {} :: (unanswered ++ unanswered ++ unanswered)

theorem bounded_failing
    : (exec step (start (exec RaProc.next RaProc.zeroed (.startMacOrder 56 false :: failing)) (.startNoncont 0 0))
        failing).Bounded := by
  apply bounded_of_along
  . decide
  . decide
  . decide
  . rfl
  . simp only [Along, failing, unanswered, cons_append, nil_append]
    decide

end RaRun

end SrsLte
