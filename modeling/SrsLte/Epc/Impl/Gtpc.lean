import SrsLte.Data.Map

/-!
This module contains the control plane of `spgw.cc` and the sessions that `mme_gtpc.cc` keeps with it. A tunnel context
is reachable through `m_teid_to_tunnel_ctx` only, so the map holds the contexts themselves. Messages are not sent over
the wire, the MME calls the handlers of the SPGW and gets the responses back.
-/

namespace SrsLte

structure GtpFteid where
  teid : Nat
  ipv4 : Nat
  deriving DecidableEq, Repr

structure SpgwTunnelCtx where
  imsi : Nat
  ueIpv4 : Nat
  ebi : Nat
  upCtrlFteid : GtpFteid
  upUserFteid : GtpFteid
  dwCtrlFteid : GtpFteid
  dwUserFteid : GtpFteid
  deriving DecidableEq, Repr

structure Spgw where
  nextCtrlTeid : Nat
  nextUserTeid : Nat
  s1uAddr : Nat
  imsiToCtrTeid : Map Nat
  teidToTunnelCtx : Map SpgwTunnelCtx
  ipToTeid : Map GtpFteid
  hNextUeIp : Nat

structure CreateSessionResponse where
  teid : Nat
  s1uSgwFTeid : GtpFteid
  paaIpv4 : Nat
  deriving DecidableEq, Repr

structure ModifyBearerResponse where
  teid : Nat
  ebi : Nat
  deriving DecidableEq, Repr

inductive GtpcRequest where
  | createSession (imsi : Nat) (senderFTeid : GtpFteid)
  | modifyBearer (teid : Nat) (s1uEnbFTeid : GtpFteid)
  | releaseAccessBearers (teid : Nat)
  | deleteSession (teid : Nat)
  deriving DecidableEq

def ntohl (n : Nat) : Nat :=
  n % 256 * 2 ^ 24 + n / 2 ^ 8 % 256 * 2 ^ 16 + n / 2 ^ 16 % 256 * 2 ^ 8 + n / 2 ^ 24 % 256

namespace Spgw

def init (s1uAddr sgiIfAddr : Nat) : Spgw where
  nextCtrlTeid := 1
  nextUserTeid := 1
  s1uAddr
  imsiToCtrTeid := ∅
  teidToTunnelCtx := ∅
  ipToTeid := ∅
  hNextUeIp := ntohl sgiIfAddr

def createGtpCtx (spgw : Spgw) (imsi : Nat) (senderFTeid : GtpFteid) : Spgw × SpgwTunnelCtx :=
  let spgwUplinkCtrlTeid := spgw.nextCtrlTeid % 2 ^ 32
  let spgwUplinkUserTeid := spgw.nextUserTeid % 2 ^ 32
  let hNextUeIp := (spgw.hNextUeIp + 1) % 2 ^ 32
  let tunnelCtx := {
    imsi
    ueIpv4 := ntohl hNextUeIp
    ebi := 5
    upCtrlFteid := ⟨spgwUplinkCtrlTeid, 0⟩
    upUserFteid := ⟨spgwUplinkUserTeid, spgw.s1uAddr⟩
    dwCtrlFteid := senderFTeid
    dwUserFteid := ⟨0, 0⟩
  }
  let spgw := { spgw with
    nextCtrlTeid := (spgw.nextCtrlTeid + 1) % 2 ^ 64
    nextUserTeid := (spgw.nextUserTeid + 1) % 2 ^ 64
    hNextUeIp
    teidToTunnelCtx := Map.insertNew spgwUplinkCtrlTeid tunnelCtx spgw.teidToTunnelCtx
    imsiToCtrTeid := Map.insertNew imsi spgwUplinkCtrlTeid spgw.imsiToCtrTeid
  }
  (spgw, tunnelCtx)

def deleteGtpCtx (spgw : Spgw) (ctrlTeid : Nat) : Spgw :=
  match spgw.teidToTunnelCtx.lookup ctrlTeid with
  | none => spgw
  | some tunnelCtx =>
    { spgw with
      ipToTeid := spgw.ipToTeid.erase tunnelCtx.ueIpv4
      imsiToCtrTeid := spgw.imsiToCtrTeid.erase tunnelCtx.imsi
      teidToTunnelCtx := spgw.teidToTunnelCtx.erase ctrlTeid
    }

def deletePrevious (spgw : Spgw) (imsi : Nat) : Spgw :=
  match spgw.imsiToCtrTeid.lookup imsi with
  | none => spgw
  | some ctrlTeid => spgw.deleteGtpCtx ctrlTeid

def handleCreateSessionRequest (spgw : Spgw) (imsi : Nat) (senderFTeid : GtpFteid) : Spgw × CreateSessionResponse :=
  let (spgw, tunnelCtx) := (spgw.deletePrevious imsi).createGtpCtx imsi senderFTeid
  let response := {
    teid := tunnelCtx.dwCtrlFteid.teid
    s1uSgwFTeid := tunnelCtx.upUserFteid
    paaIpv4 := tunnelCtx.ueIpv4
  }
  (spgw, response)

def handleModifyBearerRequest (spgw : Spgw) (ctrlTeid : Nat) (s1uEnbFTeid : GtpFteid)
    : Spgw × Option ModifyBearerResponse :=
  match spgw.teidToTunnelCtx.lookup ctrlTeid with
  | none => (spgw, none)
  | some tunnelCtx =>
    let tunnelCtx := { tunnelCtx with dwUserFteid := s1uEnbFTeid }
    let spgw := { spgw with
      teidToTunnelCtx := spgw.teidToTunnelCtx.insert ctrlTeid tunnelCtx
      ipToTeid := spgw.ipToTeid.insert tunnelCtx.ueIpv4 tunnelCtx.dwUserFteid
    }
    (spgw, some { teid := tunnelCtx.dwCtrlFteid.teid, ebi := tunnelCtx.ebi })

def handleDeleteSessionRequest (spgw : Spgw) (ctrlTeid : Nat) : Spgw :=
  match spgw.teidToTunnelCtx.lookup ctrlTeid with
  | none => spgw
  | some tunnelCtx =>
    { spgw with
      ipToTeid := spgw.ipToTeid.erase tunnelCtx.ueIpv4
      teidToTunnelCtx := spgw.teidToTunnelCtx.erase ctrlTeid
    }

def handleReleaseAccessBearersRequest (spgw : Spgw) (ctrlTeid : Nat) : Spgw :=
  match spgw.teidToTunnelCtx.lookup ctrlTeid with
  | none => spgw
  | some tunnelCtx => { spgw with ipToTeid := spgw.ipToTeid.erase tunnelCtx.ueIpv4 }

def handle (spgw : Spgw) (request : GtpcRequest) : Spgw :=
  match request with
  | .createSession imsi senderFTeid => (spgw.handleCreateSessionRequest imsi senderFTeid).1
  | .modifyBearer teid s1uEnbFTeid => (spgw.handleModifyBearerRequest teid s1uEnbFTeid).1
  | .releaseAccessBearers teid => spgw.handleReleaseAccessBearersRequest teid
  | .deleteSession teid => spgw.handleDeleteSessionRequest teid

end Spgw


structure GtpcCtx where
  mmeCtrFteid : GtpFteid
  sgwCtrFteid : GtpFteid
  deriving DecidableEq, Repr

structure MmeGtpc where
  nextCtrlTeid : Nat
  mmeCtrTeidToImsi : Map Nat
  imsiToGtpcCtx : Map GtpcCtx

namespace MmeGtpc

def mmeGtpcIp : Nat := 0x0100007F

def init : MmeGtpc where
  nextCtrlTeid := 1
  mmeCtrTeidToImsi := ∅
  imsiToGtpcCtx := ∅

def erasePrevious (gtpc : MmeGtpc) (imsi : Nat) : MmeGtpc :=
  match gtpc.imsiToGtpcCtx.lookup imsi with
  | none => gtpc
  | some gtpcCtx =>
    { gtpc with
      mmeCtrTeidToImsi := gtpc.mmeCtrTeidToImsi.erase gtpcCtx.mmeCtrFteid.teid
      imsiToGtpcCtx := gtpc.imsiToGtpcCtx.erase imsi
    }

def sendCreateSessionRequest (gtpc : MmeGtpc) (imsi : Nat) : MmeGtpc × GtpFteid :=
  let senderFTeid := ⟨gtpc.nextCtrlTeid, mmeGtpcIp⟩
  let gtpc := { gtpc with nextCtrlTeid := (gtpc.nextCtrlTeid + 1) % 2 ^ 32 }
  let gtpc := gtpc.erasePrevious imsi
  let gtpc := { gtpc with
    mmeCtrTeidToImsi := Map.insertNew senderFTeid.teid imsi gtpc.mmeCtrTeidToImsi
    imsiToGtpcCtx := Map.insertNew imsi ⟨senderFTeid, ⟨0, 0⟩⟩ gtpc.imsiToGtpcCtx
  }
  (gtpc, senderFTeid)

def handleCreateSessionResponse (findUeCtx : Nat → Bool) (gtpc : MmeGtpc) (response : CreateSessionResponse)
    : MmeGtpc × Option Nat :=
  match gtpc.mmeCtrTeidToImsi.lookup response.teid with
  | none => (gtpc, none)
  | some imsi =>
    if findUeCtx imsi then
      match gtpc.imsiToGtpcCtx.lookup imsi with
      | none => (gtpc, none)
      | some gtpcCtx =>
        let gtpcCtx := { gtpcCtx with sgwCtrFteid := ⟨response.teid, 0⟩ }
        ({ gtpc with imsiToGtpcCtx := gtpc.imsiToGtpcCtx.insert imsi gtpcCtx }, some imsi)
    else
      (gtpc, none)

def sendModifyBearerRequest (gtpc : MmeGtpc) (imsi : Nat) (enbFteid : GtpFteid) : Option GtpcRequest :=
  (gtpc.imsiToGtpcCtx.lookup imsi).map fun gtpcCtx => .modifyBearer gtpcCtx.sgwCtrFteid.teid enbFteid

def sendReleaseAccessBearersRequest (gtpc : MmeGtpc) (imsi : Nat) : Option GtpcRequest :=
  (gtpc.imsiToGtpcCtx.lookup imsi).map fun gtpcCtx => .releaseAccessBearers gtpcCtx.sgwCtrFteid.teid

def sendDeleteSessionRequest (gtpc : MmeGtpc) (imsi : Nat) : MmeGtpc × Option GtpcRequest :=
  (gtpc.erasePrevious imsi,
    (gtpc.imsiToGtpcCtx.lookup imsi).map fun gtpcCtx => .deleteSession gtpcCtx.sgwCtrFteid.teid)

end MmeGtpc

structure Gtpc where
  mme : MmeGtpc
  spgw : Spgw

inductive GtpcCall where
  | createSession (imsi : Nat)
  | modifyBearer (imsi : Nat) (enbFteid : GtpFteid)
  | releaseAccessBearers (imsi : Nat)
  | deleteSession (imsi : Nat)
  deriving DecidableEq

def GtpcCall.imsi (call : GtpcCall) : Nat :=
  match call with
  | .createSession imsi => imsi
  | .modifyBearer imsi _ => imsi
  | .releaseAccessBearers imsi => imsi
  | .deleteSession imsi => imsi

namespace Gtpc

def init (s1uAddr sgiIfAddr : Nat) : Gtpc where
  mme := .init
  spgw := .init s1uAddr sgiIfAddr

def deliver (gtpc : Gtpc) (request : Option GtpcRequest) : Gtpc :=
  match request with
  | none => gtpc
  | some request => { gtpc with spgw := gtpc.spgw.handle request }

def createSession (findUeCtx : Nat → Bool) (gtpc : Gtpc) (imsi : Nat)
    : Gtpc × CreateSessionResponse × Option Nat :=
  let (mme, senderFTeid) := gtpc.mme.sendCreateSessionRequest imsi
  let (spgw, response) := gtpc.spgw.handleCreateSessionRequest imsi senderFTeid
  let (mme, accepted) := mme.handleCreateSessionResponse findUeCtx response
  ({ mme, spgw }, response, accepted)

def request (gtpc : Gtpc) (call : GtpcCall) : Option GtpcRequest :=
  match call with
  | .createSession _ => none
  | .modifyBearer imsi enbFteid => gtpc.mme.sendModifyBearerRequest imsi enbFteid
  | .releaseAccessBearers imsi => gtpc.mme.sendReleaseAccessBearersRequest imsi
  | .deleteSession imsi => (gtpc.mme.sendDeleteSessionRequest imsi).2

def step (findUeCtx : Nat → Bool) (gtpc : Gtpc) (call : GtpcCall) : Gtpc :=
  match call with
  | .createSession imsi => (gtpc.createSession findUeCtx imsi).1
  | .modifyBearer .. | .releaseAccessBearers _ => gtpc.deliver (gtpc.request call)
  | .deleteSession imsi =>
    let gtpc' := gtpc.deliver (gtpc.request call)
    { gtpc' with mme := (gtpc.mme.sendDeleteSessionRequest imsi).1 }

end Gtpc

end SrsLte
