import SrsLte.Data.Numerals

/-!
This module contains the cells of `phy_common.h`, the distance of two TTIs and the grants that the PHY layer hands to
the HARQ entities of the MAC layer (`mac_grant_t` in `ue_interfaces.h`).
-/

namespace SrsLte

inductive Cp where
  | norm
  | ext
deriving DecidableEq, Repr

def Cp.nsymb : Cp → Nat
  | .norm => 7
  | .ext => 6

inductive PhichLength where
  | norm
  | ext
deriving DecidableEq, Repr

inductive PhichResources where
  | r1_6
  | r1_2
  | r1
  | r2
deriving DecidableEq, Repr

def nre : Nat := 12

def maxPrb : Nat := 110

def maxPorts : Nat := 4

structure Cell where
  nofPrb : Nat
  nofPorts : Nat
  id : Nat
  cp : Cp
  phichLength : PhichLength := .norm
  phichResources : PhichResources := .r1
deriving DecidableEq, Repr

def cellidIsvalid (cellId : Nat) : Bool :=
  cellId < 504

def portidIsvalid (portId : Nat) : Bool :=
  portId ≤ maxPorts

def nofprbIsvalid (nofPrb : Nat) : Bool :=
  nofPrb ≥ 6 && nofPrb ≤ maxPrb

namespace Cell

def isvalid (cell : Cell) : Bool :=
  cellidIsvalid cell.id && portidIsvalid cell.nofPorts && nofprbIsvalid cell.nofPrb

theorem nofPrb_of_isvalid {cell : Cell} (h : cell.isvalid = true) : 6 ≤ cell.nofPrb ∧ cell.nofPrb ≤ 110 := by
  unfold isvalid nofprbIsvalid maxPrb at h
  simp only [Bool.and_eq_true, decide_eq_true_eq] at h
  exact h.2

theorem nofPorts_of_isvalid {cell : Cell} (h : cell.isvalid = true) : cell.nofPorts ≤ 4 := by
  unfold isvalid portidIsvalid maxPorts at h
  simp only [Bool.and_eq_true, decide_eq_true_eq] at h
  exact h.1.2

end Cell

def srslteTtiInterval (tti1 tti2 : Nat) : Nat :=
  if tti1 ≥ tti2 then tti1 - tti2 else (10240 + 2 ^ 32 - tti2 + tti1) % 2 ^ 32

def symbolHasRef (l : Nat) (cp : Cp) (nofPorts : Nat) : Bool :=
  (l == 1 && nofPorts == 4) || l == 0 || l == cp.nsymb - 3


inductive RntiType where
  | user
  | si
  | rar
  | temp
  | sps
  | pch
  | mbsfn
  deriving DecidableEq

structure MacGrant (φ : Type) where
  pid : Nat
  tti : Nat
  ndi : Fin 2 → Bool
  nBytes : Fin 2 → Nat
  rv : Fin 2 → Int
  tbEn : Fin 2 → Bool
  rnti : Nat
  isFromRar : Bool
  isSpsRelease : Bool
  hasCqiRequest : Bool
  rntiType : RntiType
  phyGrant : φ

def MacGrant.zero {φ : Type} (phyGrant : φ) : MacGrant φ :=
  {
    pid := 0,
    tti := 0,
    ndi := fun _ => false,
    nBytes := fun _ => 0,
    rv := fun _ => 0,
    tbEn := fun _ => false,
    rnti := 0,
    isFromRar := false,
    isSpsRelease := false,
    hasCqiRequest := false,
    rntiType := .user,
    phyGrant
  }

end SrsLte
