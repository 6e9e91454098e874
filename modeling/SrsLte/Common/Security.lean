import Mathlib.Data.Fintype.Basic
import Mathlib.Tactic.FinCases
import SrsLte.Data.Bytes

/-!
This module contains the key derivation of `liblte_security.cc`. The keyed hash and the functions of
MILENAGE are parameters.
-/

namespace SrsLte

-- Where the parts of a 16 byte AUTN, a 16 byte XOR output and a 32 byte key lie.
theorem sqnBytes_le : 0 + 6 ≤ 16 := by decide

theorem amfBytes_le : 6 + 2 ≤ 16 := by decide

theorem macBytes_le : 0 + 8 ≤ 16 := by decide

theorem akBytes_le : 3 + 6 ≤ 16 := by decide

theorem keyBytes_le : 16 + 16 ≤ 32 := by decide

structure Crypto where
  /-- `security_milenage_f1` of the key, OPc, RAND, SQN and AMF -/
  f1 : Bytes 16 → Bytes 16 → Bytes 16 → Bytes 6 → Bytes 2 → Bytes 8
  /-- `security_milenage_f1_star` -/
  f1Star : Bytes 16 → Bytes 16 → Bytes 16 → Bytes 6 → Bytes 2 → Bytes 8
  /-- `security_milenage_f2345`: RES, CK, IK and AK of the key, OPc and RAND -/
  f2345 : Bytes 16 → Bytes 16 → Bytes 16 → Bytes 8 × Bytes 16 × Bytes 16 × Bytes 6
  /-- `security_milenage_f5_star` -/
  f5Star : Bytes 16 → Bytes 16 → Bytes 16 → Bytes 6
  /-- `sha256`, the keyed hash of a message -/
  sha256 : List UInt8 → List UInt8 → Bytes 32

def Crypto.null : Crypto where
  f1 _ _ _ _ _ := 0
  f1Star _ _ _ _ _ := 0
  f2345 _ _ _ := (0, 0, 0, 0)
  f5Star _ _ _ := 0
  sha256 _ _ := 0

def kAsmeInput (ak sqn : Bytes 6) (mcc mnc : UInt16) : List UInt8 :=
  let mcc := mcc.toNat
  let mnc := mnc.toNat
  let plmn :=
    if mnc &&& 0xFF00 = 0xFF00 then
      -- a two digit MNC
      [0xF0 ||| (mcc &&& 0x000F), ((mnc &&& 0x000F) <<< 4) ||| ((mnc &&& 0x00F0) >>> 4)]
    else
      [((mnc &&& 0x000F) <<< 4) ||| (mcc &&& 0x000F), (mnc &&& 0x00F0) ||| ((mnc &&& 0x0F00) >>> 8)]
  [0x10, UInt8.ofNat ((mcc &&& 0x00F0) ||| ((mcc &&& 0x0F00) >>> 8))] ++ plmn.map UInt8.ofNat
    ++ [0x00, 0x03] ++ List.ofFn (Bytes.xor sqn ak) ++ [0x00, 0x06]

def generateKAsme (crypto : Crypto) (ck ik : Bytes 16) (ak sqn : Bytes 6) (mcc mnc : UInt16) : Bytes 32 :=
  crypto.sha256 (List.ofFn ck ++ List.ofFn ik) (kAsmeInput ak sqn mcc mnc)

def generateKEnb (crypto : Crypto) (kAsme : Bytes 32) (nasCount : UInt32) : Bytes 32 :=
  crypto.sha256 (List.ofFn kAsme)
    ([0x11] ++ List.ofFn (Bytes.ofNat 4 nasCount.toNat) ++ [0x00, 0x04])

def generateKNas (crypto : Crypto) (kAsme : Bytes 32) (encAlgId intAlgId : UInt8) : Bytes 32 × Bytes 32 :=
  (crypto.sha256 (List.ofFn kAsme) [0x15, 0x01, 0x00, 0x01, encAlgId, 0x00, 0x01],
    crypto.sha256 (List.ofFn kAsme) [0x15, 0x02, 0x00, 0x01, intAlgId, 0x00, 0x01])

def generateKEnbStar (crypto : Crypto) (kEnb : Bytes 32) (pci earfcn : UInt32) : Bytes 32 :=
  crypto.sha256 (List.ofFn kEnb)
    ([0x13] ++ List.ofFn (Bytes.ofNat 2 pci.toNat) ++ [0x00, 0x02]
      ++ List.ofFn (Bytes.ofNat 2 earfcn.toNat) ++ [0x00, 0x02])

def generateNh (crypto : Crypto) (kAsme sync : Bytes 32) : Bytes 32 :=
  crypto.sha256 (List.ofFn kAsme) ([0x12] ++ List.ofFn sync ++ [0x00, 0x20])

def generateKRrc (crypto : Crypto) (kEnb : Bytes 32) (encAlgId intAlgId : UInt8) : Bytes 32 × Bytes 32 :=
  (crypto.sha256 (List.ofFn kEnb) [0x15, 0x03, 0x00, 0x01, encAlgId, 0x00, 0x01],
    crypto.sha256 (List.ofFn kEnb) [0x15, 0x04, 0x00, 0x01, intAlgId, 0x00, 0x01])

def generateKUp (crypto : Crypto) (kEnb : Bytes 32) (encAlgId intAlgId : UInt8) : Bytes 32 × Bytes 32 :=
  (crypto.sha256 (List.ofFn kEnb) [0x15, 0x05, 0x00, 0x01, encAlgId, 0x00, 0x01],
    crypto.sha256 (List.ofFn kEnb) [0x15, 0x06, 0x00, 0x01, intAlgId, 0x00, 0x01])

def constructAutn (sqnXorAk : Bytes 6) (amf : Bytes 2) (mac : Bytes 8) : Bytes 16 :=
  Fin.append (Fin.append sqnXorAk amf) mac

section ConstructAutn

variable (sqnXorAk : Bytes 6) (amf : Bytes 2) (mac : Bytes 8)

@[simp]
theorem constructAutn_slice_sqn : (constructAutn sqnXorAk amf mac).slice 0 6 (by decide) = sqnXorAk := by
  funext i
  fin_cases i <;> rfl

@[simp]
theorem constructAutn_slice_amf : (constructAutn sqnXorAk amf mac).slice 6 2 (by decide) = amf := by
  funext i
  fin_cases i <;> rfl

end ConstructAutn

end SrsLte
