import SrsLte.Common.Security
import SrsLte.Pdcp.Entity

/-!
This module contains the NAS messages of `liblte_mme.h`, with the fields that the UE and the MME use.
The unpacking functions accept every message, so a message is given by what they read from it. The
bytes that the packing functions write are a parameter.
-/

namespace SrsLte

inductive SecHdrType where
  | plainNas
  | integrity
  | integrityAndCiphered
  | integrityWithNewEpsSecurityContext
  | integrityAndCipheredWithNewEpsSecurityContext
  | serviceRequest
  | unknown
  deriving DecidableEq, Repr

def SecHdrType.IsProtected (secHdrType : SecHdrType) : Prop :=
  secHdrType = .integrity ∨ secHdrType = .integrityAndCiphered
    ∨ secHdrType = .integrityWithNewEpsSecurityContext ∨ secHdrType = .integrityAndCipheredWithNewEpsSecurityContext

structure UeNetworkCap where
  eea : Fin 8 → Bool
  eia : Fin 8 → Bool
  deriving DecidableEq

/--
The identity of an attach request. The fifteen digits of an IMSI are one number and a GUTI is its M-TMSI.
-/
inductive EpsMobileId where
  | imsi (imsi : Nat)
  | guti (mTmsi : Nat)
  | other
  deriving DecidableEq, Repr

structure AttachRequest where
  epsAttachType : Nat
  epsMobileId : EpsMobileId
  ueNetworkCap : UeNetworkCap
  esmInfoTransferFlagPresent : Bool
  deriving DecidableEq

inductive UlNasMsg where
  | attachRequest (attachReq : AttachRequest)
  | serviceRequest (shortMac : List UInt8)
  | detachRequest
  | trackingAreaUpdateRequest
  | identityResponse (imsi : Nat)
  | authenticationResponse (res : Bytes 8)
  | authenticationFailure (emmCause : Nat) (authFailParam : Option (Bytes 14))
  | securityModeComplete
  | securityModeReject (emmCause : Nat)
  | esmInformationResponse
  | attachComplete (epsBearerId : Nat)
  | other

structure SecurityModeCommand where
  /-- whether the flag says that the security context is a native one -/
  native : Bool
  nasKsi : Nat
  typeOfEea : Fin 8
  typeOfEia : Fin 8
  ueSecurityCap : UeNetworkCap
  deriving DecidableEq

structure AttachAccept where
  epsAttachResult : Nat
  guti : Option Nat
  ipv4 : Option UInt32
  epsBearerId : Nat
  deriving DecidableEq

inductive DlNasMsg where
  | attachAccept (attachAccept : AttachAccept)
  | attachReject
  | authenticationRequest (native : Bool) (nasKsi : Nat) (autn rand : Bytes 16)
  | authenticationReject
  | identityRequest
  | securityModeCommand (secModeCmd : SecurityModeCommand)
  | serviceReject
  | esmInformationRequest
  | emmInformation
  | other

structure NasPdu (α : Type) where
  secHdrType : SecHdrType
  mac : MacI
  bytes : List UInt8
  msg : α

structure NasAlgorithms where
  crypto : Crypto
  security : Security
  encodeUl : UInt32 → UlNasMsg → List UInt8
  encodeDl : UInt32 → DlNasMsg → List UInt8

def NasAlgorithms.null : NasAlgorithms where
  crypto := .null
  security := {
    eea1 := fun _ _ _ _ _ => 0
    eea2 := fun _ _ _ _ _ => 0
    eia1 := fun _ _ _ _ _ => .zero
    eia2 := fun _ _ _ _ _ => .zero
  }
  encodeUl := fun _ _ => []
  encodeDl := fun _ _ => []

def NasAlgorithms.eia1 (alg : NasAlgorithms) (key : Bytes 32) (count : UInt32) (direction : SecurityDirection)
    (msg : List UInt8)
    : MacI :=
  alg.security.eia1 (List.ofFn (key.slice 16 16 keyBytes_le)) count 0 direction msg

def NasPdu.plain {α : Type} (bytes : List UInt8) (msg : α) : NasPdu α where
  secHdrType := .plainNas
  mac := .zero
  bytes
  msg

end SrsLte
