import SrsLte.Common.Timers
import SrsLte.Data.Trace
import SrsLte.Pdcp.Entity
import Mathlib.Data.Fin.VecNotation

/-!
This module contains the handover of the UE in `rrc.cc` and the verification of what supervises it and of whom the
re-establishment request after a failed handover names. What PHY, USIM and the neighbour list answer is part of the
event.
-/

namespace SrsLte

structure UeCell where
  earfcn : Nat
  pci : Nat
  cellId : Nat
deriving DecidableEq, Repr

/--
The fields of `sec_cnfg_ho` are `false` and `none` when it is absent.
-/
structure MobReconf where
  targetPci : Nat
  newUeId : Nat
  t304 : Fin 8 := 0
  carrierFreq : Option Nat := none
  keyChangeInd : Bool := false
  intAlg : Option IntegrityAlgorithmId := none
deriving DecidableEq, Repr

def MobReconf.interFreq (mob : MobReconf) (earfcn : Nat) : Bool :=
  mob.carrierFreq.any (· ≠ earfcn)

inductive ReestCause where
  | reconfigFailure
  | handoverFailure
deriving DecidableEq, Repr

structure ShortMac where
  cellId : Nat
  pci : Nat
  cRnti : Nat
  key : List UInt8
  algo : IntegrityAlgorithmId
deriving DecidableEq, Repr

/--
`shortMacI` is what goes into the shortMAC-I, `none` when the bytes of `mac_key` are never written.
-/
structure ReestReq where
  cRnti : Nat
  physCellId : Nat
  shortMacI : Option ShortMac
  cause : ReestCause
deriving DecidableEq, Repr

structure HoEnv where
  targetCellId : Option Nat
  cellSelect : Bool
  kRrcInt : List UInt8

structure ReestEnv where
  suitable : Bool
  cellSelect : Bool
  t311Running : Bool

def ReestEnv.sends (env : ReestEnv) : Bool :=
  env.suitable && env.cellSelect && env.t311Running

structure UeRrc where
  connected : Bool
  servingCell : UeCell
  cRnti : Nat
  kRrcInt : List UInt8
  integAlgo : IntegrityAlgorithmId
  securityIsActivated : Bool
  hoStart : Bool := false
  goIdle : Bool := false
  pendingMobReconf : Option MobReconf := none
  hoSrcCell : UeCell := servingCell
  hoSrcRnti : Nat := 0
  t304 : Timer := {}

def t304Num : Fin 8 → Int :=
  ![50, 100, 150, 200, 500, 1000, 2000, -1]

namespace UeRrc

def hoPrepare (rrc : UeRrc) (env : HoEnv) : Bool × UeRrc :=
  match rrc.pendingMobReconf, env.targetCellId with
  | none, _ => (true, rrc)
  | some _, none => (false, rrc)
  | some mob, some cellId =>
    let rrc := { rrc with t304 := rrc.t304.set (t304Num mob.t304) }
    if mob.interFreq rrc.servingCell.earfcn then
      (false, rrc)
    else
      -- set_ho_rnti() after the reset of MAC
      let rrc := { rrc with hoSrcCell := rrc.servingCell, hoSrcRnti := rrc.cRnti, cRnti := mob.newUeId }
      if !env.cellSelect then
        (false, rrc)
      else
        let rrc := { rrc with servingCell := ⟨rrc.servingCell.earfcn, mob.targetPci, cellId⟩ }
        if mob.keyChangeInd then
          (false, rrc)
        else
          (true, { rrc with integAlgo := mob.intAlg.getD rrc.integAlgo, kRrcInt := env.kRrcInt })

def conRestablishRequest (rrc : UeRrc) (cause : ReestCause) : ReestReq :=
  let cRnti := if cause = .handoverFailure then rrc.hoSrcRnti else rrc.cRnti
  let cell := if cause = .handoverFailure then rrc.hoSrcCell else rrc.servingCell
  let shortMacI :=
    if rrc.integAlgo = .eia0 then
      none
    else
      some ⟨cell.cellId, cell.pci, cRnti, rrc.kRrcInt.drop 16, rrc.integAlgo⟩
  ⟨cRnti, cell.pci, shortMacI, cause⟩

def sendConRestablishRequest (rrc : UeRrc) (cause : ReestCause) (env : ReestEnv) : UeRrc × Option ReestReq :=
  let req := rrc.conRestablishRequest cause
  let rrc := { rrc with cRnti := 0 }
  if env.sends then (rrc, some req) else ({ rrc with goIdle := true }, none)

def hoFailed (rrc : UeRrc) (env : ReestEnv) : UeRrc × Option ReestReq :=
  rrc.sendConRestablishRequest .handoverFailure env

def conReconfigFailed (rrc : UeRrc) (env : ReestEnv) : UeRrc × Option ReestReq :=
  if rrc.securityIsActivated then
    rrc.sendConRestablishRequest .reconfigFailure env
  else
    ({ rrc with goIdle := true }, none)

def conReconfigHo (rrc : UeRrc) (mob : MobReconf) (currentPci : Nat) (env : ReestEnv) : UeRrc :=
  if mob.targetPci = currentPci then
    (rrc.conReconfigFailed env).1
  else
    { rrc with pendingMobReconf := some mob, hoStart := true }

def hoRaCompleted (rrc : UeRrc) (raSuccessful : Bool) : UeRrc :=
  if rrc.pendingMobReconf.isSome then
    { rrc with t304 := if raSuccessful then rrc.t304.stop else rrc.t304, pendingMobReconf := none }
  else
    rrc

def leaveConnected (rrc : UeRrc) : UeRrc :=
  { rrc with connected := false, securityIsActivated := false, cRnti := 0, t304 := rrc.t304.stop }

/-! ### Supervision -/

def Feasible (rrc : UeRrc) (mob : MobReconf) (env : HoEnv) : Prop :=
  env.targetCellId ≠ none ∧ mob.interFreq rrc.servingCell.earfcn = false ∧ env.cellSelect = true ∧ mob.keyChangeInd = false

theorem hoPrepare_iff (rrc : UeRrc) (env : HoEnv)
    : (rrc.hoPrepare env).1 = true ↔ ∀ mob ∈ rrc.pendingMobReconf, rrc.Feasible mob env := by
  unfold hoPrepare Feasible
  cases rrc.pendingMobReconf with
  | none => simp
  | some mob =>
    cases env.targetCellId with
    | none => simp
    | some cellId =>
      dsimp only
      split_ifs with hfreq hselect hkey <;> simp_all

variable {rrc : UeRrc} (h : rrc.t304.running = false)
include h

theorem running_hoPrepare (env : HoEnv) : (rrc.hoPrepare env).2.t304.running = false := by
  unfold hoPrepare
  split
  . exact h
  . exact h
  . dsimp only
    split_ifs <;> exact h

theorem running_conReconfigFailed (env : ReestEnv) : (rrc.conReconfigFailed env).1.t304.running = false := by
  unfold conReconfigFailed sendConRestablishRequest
  dsimp only
  split_ifs <;> exact h

theorem running_conReconfigHo (mob : MobReconf) (currentPci : Nat) (env : ReestEnv)
    : (rrc.conReconfigHo mob currentPci env).t304.running = false := by
  unfold conReconfigHo
  split
  . exact running_conReconfigFailed h env
  . exact h

theorem running_hoRaCompleted (raSuccessful : Bool) : (rrc.hoRaCompleted raSuccessful).t304.running = false := by
  unfold hoRaCompleted
  split_ifs
  . rfl
  . exact h
  . exact h

end UeRrc

/--
`runTti` is `run_tti` up to the handover and `runTtiIdle` the part after it.
-/
inductive HoEvent where
  | conSetup
  | conReconfigHo (mob : MobReconf) (currentPci : Nat) (env : ReestEnv)
  | runTti (env : HoEnv) (reest : ReestEnv)
  | runTtiIdle
  | hoRaCompleted (raSuccessful : Bool)
  | rrcConnectionRelease
  | timerStep (env : ReestEnv)

/--
`inHandover` holds from `ho_prepare` to whatever ends the supervision by T304.
-/
structure HoRun where
  rrc : UeRrc
  inHandover : Bool := false

namespace HoRun

open Trace

def step (s : HoRun) : HoEvent → HoRun
  | .conSetup => { s with rrc := { s.rrc with connected := true } }
  | .conReconfigHo mob currentPci env => { s with rrc := s.rrc.conReconfigHo mob currentPci env }
  | .runTti env reest =>
    if s.rrc.connected && s.rrc.hoStart then
      let rrc := { s.rrc with hoStart := false }
      let (prepared, rrc') := rrc.hoPrepare env
      if prepared then
        { rrc := rrc', inHandover := s.inHandover || rrc.pendingMobReconf.isSome }
      else
        { s with rrc := (rrc'.conReconfigFailed reest).1 }
    else
      s
  | .runTtiIdle =>
    if s.rrc.connected && s.rrc.goIdle then
      { rrc := { s.rrc with goIdle := false }.leaveConnected }
    else
      s
  | .hoRaCompleted raSuccessful =>
    { rrc := s.rrc.hoRaCompleted raSuccessful, inHandover := s.inHandover && !raSuccessful }
  | .rrcConnectionRelease => { s with rrc := { s.rrc with goIdle := true } }
  | .timerStep env =>
    let (t304, expired) := s.rrc.t304.step
    let rrc := { s.rrc with t304 }
    if expired then { rrc := (rrc.hoFailed env).1 } else { s with rrc }

def Prepares (s : HoRun) : HoEvent → Prop
  | .runTti env _ =>
    s.rrc.connected = true ∧ s.rrc.hoStart = true ∧ ∃ mob ∈ s.rrc.pendingMobReconf, s.rrc.Feasible mob env
  | _ => False

variable {s : HoRun}

theorem step_timerStep (h : s.rrc.t304.running = false) (env : ReestEnv) : s.step (.timerStep env) = s := by
  simp [step, Timer.step, h]

theorem running_step (h : s.rrc.t304.running = false) (e : HoEvent) : (s.step e).rrc.t304.running = false := by
  cases e with
  | conSetup => exact h
  | conReconfigHo mob currentPci env => exact UeRrc.running_conReconfigHo h mob currentPci env
  | runTti env reest =>
    have hprepare := @UeRrc.running_hoPrepare { s.rrc with hoStart := false } h env
    simp only [step]
    split_ifs
    . exact hprepare
    . exact UeRrc.running_conReconfigFailed hprepare reest
    . exact h
  | runTtiIdle =>
    simp only [step]
    split_ifs
    . rfl
    . exact h
  | hoRaCompleted raSuccessful => exact UeRrc.running_hoRaCompleted h raSuccessful
  | rrcConnectionRelease => exact h
  | timerStep env =>
    rw [step_timerStep h]
    exact h

theorem inHandover_step (h : s.rrc.t304.running = false) (hs : s.inHandover = false) (e : HoEvent)
    : (s.step e).inHandover = true ↔ s.Prepares e := by
  cases e with
  | runTti env reest =>
    have hprepare := UeRrc.hoPrepare_iff { s.rrc with hoStart := false } env
    cases hpending : s.rrc.pendingMobReconf with
    | none => simp [step, Prepares, hpending, hs, apply_ite HoRun.inHandover]
    | some mob =>
      simp only [hpending, Option.mem_some_iff, forall_eq'] at hprepare
      simp only [step, Prepares, hpending, hs, apply_ite HoRun.inHandover, Option.mem_some_iff, exists_eq_left']
      simp [hprepare, and_assoc, UeRrc.Feasible]
  | timerStep env =>
    rw [step_timerStep h]
    simp [Prepares, hs]
  | _ => simp [step, Prepares, hs, apply_ite HoRun.inHandover]

theorem supervised_iff (rrc : UeRrc) (h : rrc.t304.running = false) (es : List HoEvent)
    : (Throughout step (fun s => s.inHandover = true → s.rrc.t304.isRunning = true) { rrc } es
        ↔
      Along step (fun s e => ¬ s.Prepares e) { rrc } es) ∧
        (exec step { rrc } es).rrc.t304.step.2 = false := by
  constructor
  . apply throughout_iff_along (I := fun s => s.rrc.t304.running = false)
    . exact fun s e hs _ => running_step hs e
    . intro s e hs hP
      have hstopped {s : HoRun} (hs : s.rrc.t304.running = false) : s.rrc.t304.isRunning = false := by
        simp [Timer.isRunning, hs]
      simp only [hstopped hs, Bool.false_eq_true, imp_false, Bool.not_eq_true] at hP
      simp only [hstopped (running_step hs e), Bool.false_eq_true, imp_false, inHandover_step hs hP]
    . exact h
    . intro hnot
      cases hnot
  . have hstopped : (exec step { rrc } es).rrc.t304.running = false :=
      exec_invariant (P := fun s : HoRun => s.rrc.t304.running = false) (fun s e hs => running_step hs e) es h
    simp [Timer.step, hstopped]

def hoSource : UeRrc where
  connected := true
  servingCell := ⟨3400, 1, 0x19B⟩
  cRnti := 0x46
  kRrcInt := List.replicate 32 0
  integAlgo := .eia1
  securityIsActivated := true
  pendingMobReconf := some { targetPci := 2, newUeId := 0x47 }
  hoStart := true

theorem supervised_iff_release
    : Throughout step (fun s => s.inHandover = true → s.rrc.t304.isRunning = true) { rrc := hoSource }
        [.rrcConnectionRelease, .runTtiIdle] :=
  (supervised_iff hoSource rfl _).1.mpr ⟨id, id, trivial⟩

theorem not_supervised
    : let s := exec step { rrc := hoSource } [.runTti ⟨some 0x19C, true, []⟩ ⟨true, true, true⟩]
      s.inHandover = true ∧ s.rrc.t304.isRunning = false := by
  decide

end HoRun

/-! ### Re-establishment -/

namespace UeRrc

/--
A prepared handover fails when T304 expires.
-/
def failedHoRequest (rrc : UeRrc) (env : HoEnv) (reest : ReestEnv) : Option ReestReq :=
  match rrc.hoPrepare env with
  | (true, rrc) => (rrc.hoFailed reest).2
  | (false, rrc) => (rrc.conReconfigFailed reest).2

def Identifies (rrc : UeRrc) (req : ReestReq) : Prop :=
  req.cRnti = rrc.cRnti ∧ req.physCellId = rrc.servingCell.pci ∧
    req.shortMacI = some ⟨rrc.servingCell.cellId, rrc.servingCell.pci, rrc.cRnti, rrc.kRrcInt.drop 16, rrc.integAlgo⟩

/--
What must agree before the handover, by the way in which it fails.
-/
def SourceKept (rrc : UeRrc) (mob : MobReconf) (env : HoEnv) : Prop :=
  match env.targetCellId with
  | none => rrc.securityIsActivated = true → rrc.integAlgo ≠ .eia0
  | some cellId =>
    if mob.interFreq rrc.servingCell.earfcn then
      rrc.securityIsActivated = true → rrc.integAlgo ≠ .eia0
    else if !env.cellSelect then
      rrc.securityIsActivated = true → rrc.integAlgo ≠ .eia0 ∧ mob.newUeId = rrc.cRnti
    else if mob.keyChangeInd then
      rrc.securityIsActivated = true → rrc.integAlgo ≠ .eia0 ∧ mob.newUeId = rrc.cRnti ∧
        mob.targetPci = rrc.servingCell.pci ∧ cellId = rrc.servingCell.cellId
    else
      rrc.integAlgo ≠ .eia0 ∧ mob.intAlg.getD rrc.integAlgo = rrc.integAlgo ∧
        env.kRrcInt.drop 16 = rrc.kRrcInt.drop 16

theorem sendConRestablishRequest_iff {P : ReestReq → Prop} (rrc : UeRrc) (cause : ReestCause) (env : ReestEnv)
    : (∀ req ∈ (rrc.sendConRestablishRequest cause env).2, P req)
        ↔
      (env.sends = true → P (rrc.conRestablishRequest cause)) := by
  unfold sendConRestablishRequest
  split_ifs with hsends <;> simp [hsends]

theorem conReconfigFailed_iff {P : ReestReq → Prop} (rrc : UeRrc) (env : ReestEnv)
    : (∀ req ∈ (rrc.conReconfigFailed env).2, P req)
        ↔
      (env.sends = true → rrc.securityIsActivated = true → P (rrc.conRestablishRequest .reconfigFailure)) := by
  unfold conReconfigFailed
  split_ifs with hactive
  . rw [sendConRestablishRequest_iff]
    simp [hactive]
  . simp [hactive]

theorem failedHoRequest_identifies_iff (rrc : UeRrc) (mob : MobReconf) (env : HoEnv) (reest : ReestEnv)
    : (∀ req ∈ { rrc with pendingMobReconf := some mob }.failedHoRequest env reest, rrc.Identifies req)
        ↔
      (reest.sends = true → rrc.SourceKept mob env) := by
  unfold failedHoRequest hoPrepare SourceKept
  cases env.targetCellId with
  | none =>
    dsimp only
    rw [conReconfigFailed_iff]
    simp [Identifies, conRestablishRequest]
  | some cellId =>
    dsimp only
    split_ifs
    . dsimp only
      rw [conReconfigFailed_iff]
      simp [Identifies, conRestablishRequest]
    . dsimp only
      rw [conReconfigFailed_iff]
      grind [Identifies, conRestablishRequest]
    . dsimp only
      rw [conReconfigFailed_iff]
      grind [Identifies, conRestablishRequest]
    . dsimp only [hoFailed]
      rw [sendConRestablishRequest_iff]
      grind [Identifies, conRestablishRequest]

theorem not_failedHoRequest_identifies
    : ∃ req, HoRun.hoSource.failedHoRequest ⟨some 0x19C, false, []⟩ ⟨true, true, true⟩ = some req ∧
        req.cRnti = 0x47 ∧ ¬ HoRun.hoSource.Identifies req :=
  ⟨_, rfl, rfl, by simp [Identifies, conRestablishRequest, HoRun.hoSource]⟩

end UeRrc

end SrsLte
