import SrsLte.Ue.Lemmas.NasIntegrity

/-!
This module contains the address of the UE's interface, `gw::setup_if_addr`, and the verification of when it is
the one of the Attach Accept. What the operating system answers is part of the event.
-/

namespace SrsLte

structure GwEnv where
  initIf : Bool
  setAddr : Bool
  setNetmask : Bool

structure Gw where
  ifUp : Bool := false
  currentIpAddr : UInt32 := 0

namespace Gw

def setupIfAddr (gw : Gw) (ipAddr : UInt32) (env : GwEnv) : Gw :=
  if ipAddr ≠ gw.currentIpAddr then
    if gw.ifUp ∨ env.initIf then
      let gw := { gw with ifUp := true }
      if env.setAddr ∧ env.setNetmask then { gw with currentIpAddr := ipAddr } else gw
    else
      gw
  else
    gw

def Ready (gw : Gw) (env : GwEnv) : Prop :=
  (gw.ifUp ∨ env.initIf) ∧ env.setAddr ∧ env.setNetmask

theorem currentIpAddr_setupIfAddr (gw : Gw) (ipAddr : UInt32) (env : GwEnv)
    : (gw.setupIfAddr ipAddr env).currentIpAddr = ipAddr ↔ ipAddr = gw.currentIpAddr ∨ gw.Ready env := by
  unfold setupIfAddr Ready
  by_cases hsame : ipAddr = gw.currentIpAddr
  . simp [hsame]
  . rw [if_pos hsame]
    by_cases hup : gw.ifUp ∨ env.initIf
    . by_cases hset : env.setAddr ∧ env.setNetmask
      . simp [hup, hset]
      . simp [hup, hset, hsame, Ne.symm hsame]
    . simp [hup, hsame, Ne.symm hsame]

end Gw

namespace UeNas

variable {alg : NasAlgorithms} {nas : UeNas} {event : UeNasEvent}

def acceptedAddr (alg : NasAlgorithms) (nas : UeNas) (event : UeNasEvent) : Option UInt32 :=
  match event with
  | .writePdu pdu =>
    match pdu.msg with
    | .attachAccept attachAccept =>
      if pdu.secHdrType = .unknown ∨ nas.decrypted alg pdu = [] ∨ attachAccept.epsAttachResult ≠ 1 then
        none
      else
        attachAccept.ipv4
    | _ => none
  | _ => none

theorem ipAddr_handle {addr : UInt32} (h : nas.acceptedAddr alg event = some addr) (env : UeNasEnv)
    : (nas.handle alg event env).ipAddr = nas.ipAddr ||| addr := by
  unfold acceptedAddr at h
  split at h
  . next pdu =>
    split at h
    . next attachAccept hmsg =>
      split at h
      . cases h
      . next hok =>
        rw [not_or, not_or, not_not] at hok
        have hwrite : nas.writePdu alg pdu env = _ := writePdu_of_hdr hok.1
        simp only [hmsg] at hwrite
        unfold handle
        dsimp only
        rw [hwrite]
        unfold parseAttachAccept
        rw [if_neg hok.2.1, if_pos hok.2.2]
        simp only [h]
        cases attachAccept.guti with
        | none => rfl
        | some guti => rfl
    . cases h
  . cases h

end UeNas

structure UeStack where
  nas : UeNas
  gw : Gw := {}

structure UeStackEvent where
  event : UeNasEvent
  nasEnv : UeNasEnv
  gwEnv : GwEnv

namespace UeStack

def step (alg : NasAlgorithms) (ue : UeStack) (e : UeStackEvent) : UeStack :=
  let nas := ue.nas.handle alg e.event e.nasEnv
  let gw :=
    match e.event with
    | .restart _ _ => {}
    | _ => if (ue.nas.acceptedAddr alg e.event).isSome then ue.gw.setupIfAddr nas.ipAddr e.gwEnv else ue.gw
  { nas, gw }

/--
The address that an Attach Accept assigns is handed to the interface, which then has it.
-/
def Follows (alg : NasAlgorithms) (ue : UeStack) (e : UeStackEvent) : Prop :=
  ∀ addr ∈ ue.nas.acceptedAddr alg e.event,
    (ue.step alg e).nas.ipAddr = addr ∧ (ue.step alg e).gw.currentIpAddr = addr

/--
The address has every bit of the addresses of the earlier Attach Accepts, and the interface can be set up.
-/
def Covers (alg : NasAlgorithms) (ue : UeStack) (e : UeStackEvent) : Prop :=
  ∀ addr ∈ ue.nas.acceptedAddr alg e.event,
    ue.nas.ipAddr ||| addr = addr ∧ (addr = ue.gw.currentIpAddr ∨ ue.gw.Ready e.gwEnv)

variable {alg : NasAlgorithms}

theorem gw_step {ue : UeStack} {e : UeStackEvent} {addr : UInt32}
    (h : ue.nas.acceptedAddr alg e.event = some addr)
    : (ue.step alg e).gw = ue.gw.setupIfAddr (ue.step alg e).nas.ipAddr e.gwEnv := by
  unfold step
  dsimp only
  split
  . next hrestart =>
    rw [hrestart] at h
    cases h
  . rw [h]
    rfl

theorem follows_iff (ue : UeStack) (e : UeStackEvent) : ue.Follows alg e ↔ ue.Covers alg e := by
  unfold Follows Covers
  apply forall₂_congr
  intro addr haddr
  have hnas : (ue.step alg e).nas.ipAddr = ue.nas.ipAddr ||| addr := UeNas.ipAddr_handle haddr e.nasEnv
  rw [gw_step haddr, hnas]
  apply and_congr_right
  intro hcovers
  rw [hcovers, Gw.currentIpAddr_setupIfAddr]

theorem follows_attachAccepts_iff (alg : NasAlgorithms) (ue : UeStack) (es : List UeStackEvent)
    : Trace.Along (step alg) (Follows alg) ue es ↔ Trace.Along (step alg) (Covers alg) ue es :=
  ⟨.mono fun ue e => (follows_iff ue e).mp, .mono fun ue e => (follows_iff ue e).mpr⟩

def attachAcceptOne (addr : UInt32) : UeStackEvent where
  event := .writePdu (.plain [0] (.attachAccept ⟨1, none, some addr, 5⟩))
  nasEnv := .null
  gwEnv := ⟨true, true, true⟩

theorem not_follows_attachAccepts
    : ¬ Trace.Along (step .null) (Follows .null) { nas := UeNas.startOne }
      [attachAcceptOne 0xac100002, attachAcceptOne 0xac100005] := by
  intro h
  have haddr : (0xac100007 : UInt32) = 0xac100005 := (h.2.1 0xac100005 rfl).1
  exact absurd haddr (by decide)

end UeStack

end SrsLte
