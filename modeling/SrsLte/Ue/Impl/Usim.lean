import SrsLte.Common.Security
import SrsLte.Data.Trace

/-!
This module contains the authentication functions of `usim.cc`, and those that derive the keys of the access stratum on
the security mode command and on a handover.
-/

namespace SrsLte

inductive AuthAlgo where
  | milenage
  | xor
  deriving DecidableEq, Repr

inductive AuthResult where
  | authOk
  | authFailed
  deriving DecidableEq, Repr

structure Usim where
  authAlgo : AuthAlgo
  k : Bytes 16
  opc : Bytes 16
  amf : Bytes 2
  ck : Bytes 16
  ik : Bytes 16
  ak : Bytes 6
  mac : Bytes 8
  autn : Bytes 16

structure AuthResponse where
  result : AuthResult
  res : List UInt8
  resLen : Nat
  kAsme : Bytes 32

namespace Usim

variable (crypto : Crypto)

def genAuthResMilenage (usim : Usim) (rand autnEnb : Bytes 16) (mcc mnc : UInt16) : Usim × AuthResponse :=
  let (res, ck, ik, ak) := crypto.f2345 usim.k usim.opc rand
  let sqn := Bytes.xor (autnEnb.slice 0 6 sqnBytes_le) ak
  let amf := autnEnb.slice 6 2 amfBytes_le
  let mac := crypto.f1 usim.k usim.opc rand sqn amf
  let autn := constructAutn (Bytes.xor sqn ak) amf mac
  let result := if autn = autnEnb then .authOk else .authFailed
  let kAsme := generateKAsme crypto ck ik ak sqn mcc mnc
  ({ usim with amf, ck, ik, ak, mac, autn }, { result, res := List.ofFn res, resLen := 8, kAsme })

def genAuthResXor (usim : Usim) (rand autnEnb : Bytes 16) (mcc mnc : UInt16) : Usim × AuthResponse :=
  let xdout := Bytes.xor usim.k rand
  let res := xdout
  let ck : Bytes 16 := fun i => xdout (i + 1)
  let ik : Bytes 16 := fun i => xdout (i + 2)
  let ak : Bytes 6 := xdout.slice 3 6 akBytes_le
  let sqn := Bytes.xor (autnEnb.slice 0 6 sqnBytes_le) ak
  let amf := autnEnb.slice 6 2 amfBytes_le
  let cdout : Bytes 8 := Fin.append sqn amf
  let mac := Bytes.xor (xdout.slice 0 8 macBytes_le) cdout
  let autn := constructAutn (Bytes.xor sqn ak) amf mac
  let result := if autn = autnEnb then .authOk else .authFailed
  let kAsme := generateKAsme crypto ck ik ak sqn mcc mnc
  ({ usim with amf, ck, ik, ak, mac, autn }, { result, res := List.ofFn res, resLen := 8, kAsme })

def generateAuthenticationResponse (usim : Usim) (rand autnEnb : Bytes 16) (mcc mnc : UInt16)
    : Usim × AuthResponse :=
  match usim.authAlgo with
  | .xor => usim.genAuthResXor crypto rand autnEnb mcc mnc
  | .milenage => usim.genAuthResMilenage crypto rand autnEnb mcc mnc

end Usim


structure UsimKeys where
  kAsme : Bytes 32
  kEnb : Bytes 32
  kEnbInitial : Bytes 32
  kEnbStar : Bytes 32
  nh : Bytes 32
  currentNcc : Nat
  nhs : List (Bytes 32) := []

structure AsKeys where
  kRrcEnc : Bytes 32
  kRrcInt : Bytes 32
  kUpEnc : Bytes 32
  kUpInt : Bytes 32

structure Handover where
  pci : UInt32
  earfcn : UInt32
  ncc : Int
  cipherAlgo : UInt8 := 0
  integAlgo : UInt8 := 0

namespace UsimKeys

variable (crypto : Crypto)

def asKeys (kEnb : Bytes 32) (cipherAlgo integAlgo : UInt8) : AsKeys :=
  let (kRrcEnc, kRrcInt) := generateKRrc crypto kEnb cipherAlgo integAlgo
  let (kUpEnc, kUpInt) := generateKUp crypto kEnb cipherAlgo integAlgo
  { kRrcEnc, kRrcInt, kUpEnc, kUpInt }

def generateAsKeys (keys : UsimKeys) (kAsme : Bytes 32) (countUl : UInt32) (cipherAlgo integAlgo : UInt8)
    : UsimKeys × AsKeys :=
  let kEnb := generateKEnb crypto kAsme countUl
  ({ keys with kAsme, kEnb, kEnbInitial := kEnb, currentNcc := 0, nhs := [] },
    asKeys crypto kEnb cipherAlgo integAlgo)

namespace generateAsKeysHo

structure LoopState where
  keys : UsimKeys
  enbStarKey : Bytes 32

def loopCond (ncc : Nat) (st : LoopState) : Prop :=
  st.keys.currentNcc ≠ ncc

instance (ncc : Nat) : DecidablePred (loopCond ncc) :=
  fun _ => inferInstanceAs (Decidable (_ ≠ _))

def loopBody (st : LoopState) : LoopState :=
  let keys := st.keys
  let sync := if keys.currentNcc ≠ 0 then keys.nh else keys.kEnbInitial
  let nh := generateNh crypto keys.kAsme sync
  let currentNcc := keys.currentNcc + 1
  let currentNcc := if currentNcc = 8 then 0 else currentNcc
  { keys := { keys with nh, currentNcc, nhs := keys.nhs ++ [nh] }, enbStarKey := nh }

end generateAsKeysHo

def targetNcc (keys : UsimKeys) (ncc : Int) : Nat :=
  if ncc < 0 then keys.currentNcc else ncc.toNat

open generateAsKeysHo in
/--
Generate successive NH. With an NCC above 7 the loop does not end, here it is given up after eight iterations.
-/
def successiveNh (keys : UsimKeys) (ncc : Int) : LoopState :=
  Loop.whileDo (loopCond (keys.targetNcc ncc)) (loopBody crypto) 8 { keys, enbStarKey := keys.kEnb }

def generateAsKeysHo (keys : UsimKeys) (ho : Handover) : UsimKeys × AsKeys :=
  let st := keys.successiveNh crypto ho.ncc
  let kEnbStar := generateKEnbStar crypto st.enbStarKey ho.pci ho.earfcn
  -- K_enb becomes K_enb*
  ({ st.keys with kEnbStar, kEnb := kEnbStar }, asKeys crypto kEnbStar ho.cipherAlgo ho.integAlgo)

end UsimKeys

end SrsLte
