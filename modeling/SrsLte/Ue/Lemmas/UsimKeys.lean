import Mathlib.Dynamics.PeriodicPts.Lemmas
import SrsLte.Ue.Impl.Usim

/-!
This module contains the chain of NH values that the handovers after a security mode command go through. The
counter of the chain has three bits, and the program takes its value zero as a sign that no NH has been derived.
-/

namespace SrsLte.UsimKeys

open List

variable (crypto : Crypto)

def nhChain (kAsme kEnb : Bytes 32) (n : Nat) : Bytes 32 :=
  (generateNh crypto kAsme)^[n] kEnb

def handover (keys : UsimKeys) (ho : Handover) : UsimKeys :=
  (keys.generateAsKeysHo crypto ho).1

structure Derives (keys : UsimKeys) (ho : Handover) : Prop where
  ends : (keys.handover crypto ho).currentNcc = keys.targetNcc ho.ncc
  same : keys.targetNcc ho.ncc = keys.currentNcc →
    (keys.handover crypto ho).nhs = keys.nhs
      ∧ (keys.handover crypto ho).kEnb = generateKEnbStar crypto keys.kEnb ho.pci ho.earfcn
  advances : keys.targetNcc ho.ncc ≠ keys.currentNcc →
    ∃ nh, (keys.handover crypto ho).nhs.getLast? = some nh
      ∧ (keys.handover crypto ho).kEnb = generateKEnbStar crypto nh ho.pci ho.earfcn

structure FollowsChain (keys : UsimKeys) (hos : List Handover) : Prop where
  nhs : ∀ n nh, (Trace.exec (handover crypto) keys hos).nhs[n]? = some nh →
    nh = nhChain crypto keys.kAsme keys.kEnb (n + 1)
  derives : Trace.Along (handover crypto) (Derives crypto) keys hos

def steps (ncc : Nat) (hos : List Handover) : Nat :=
  match hos with
  | [] => 0
  | ho :: hos =>
    if ho.ncc < 0 then
      steps ncc hos
    else
      (ho.ncc.toNat + 8 - ncc) % 8 + steps ho.ncc.toNat hos

structure NhInv (kAsme kEnb : Bytes 32) (keys : UsimKeys) : Prop where
  asme : keys.kAsme = kAsme
  initial : keys.kEnbInitial = kEnb
  ncc : keys.currentNcc = keys.nhs.length % 8
  nh : keys.nhs.length % 8 ≠ 0 → keys.nh = nhChain crypto kAsme kEnb (keys.nhs.length % 8)
  nhs : ∀ n nh, keys.nhs[n]? = some nh → nh = nhChain crypto kAsme kEnb (n % 8 + 1)

variable {crypto} {kAsme kEnb : Bytes 32} {keys : UsimKeys}

theorem nhChain_succ (n : Nat)
    : nhChain crypto kAsme kEnb (n + 1) = generateNh crypto kAsme (nhChain crypto kAsme kEnb n) := by
  unfold nhChain
  rw [Function.iterate_succ_apply']

namespace generateAsKeysHo

theorem nhInv_loopBody {st : LoopState} (h : NhInv crypto kAsme kEnb st.keys) : NhInv crypto kAsme kEnb (loopBody crypto st).keys := by
  have hncc := h.ncc
  have hnh : (loopBody crypto st).keys.nh = nhChain crypto kAsme kEnb (st.keys.nhs.length % 8 + 1) := by
    rw [nhChain_succ]
    unfold loopBody
    dsimp only
    rw [h.asme, hncc]
    split
    . next hpos => rw [h.nh hpos]
    . next hzero =>
      rw [not_not] at hzero
      rw [hzero, h.initial]
      rfl
  have hnhs : (loopBody crypto st).keys.nhs = st.keys.nhs ++ [(loopBody crypto st).keys.nh] := rfl
  have hlen : (loopBody crypto st).keys.nhs.length = st.keys.nhs.length + 1 := by
    rw [hnhs, length_append, length_singleton]
  exact {
    asme := h.asme
    initial := h.initial
    ncc := by
      rw [hlen]
      unfold loopBody
      dsimp only
      split <;> omega
    nh := by
      rw [hlen, hnh]
      intro hpos
      have hmod : (st.keys.nhs.length + 1) % 8 = st.keys.nhs.length % 8 + 1 := by omega
      rw [hmod]
    nhs := by
      intro n nh hn
      rw [hnhs, getElem?_append] at hn
      split at hn
      . exact h.nhs n nh hn
      . next hge =>
        have heq : n = st.keys.nhs.length := by
          have hlt := (List.getElem?_eq_some_iff.mp hn).1
          rw [length_singleton] at hlt
          omega
        rw [heq, Nat.sub_self, getElem?_cons_zero, Option.some_inj] at hn
        rw [← hn, hnh, heq]
  }

theorem whileDo_loopBody {target fuel d : Nat} {st st' : LoopState}
    (hst' : st' = Loop.whileDo (loopCond target) (loopBody crypto) fuel st) (h : NhInv crypto kAsme kEnb st.keys)
    (htarget : target < 8) (hd : (target + 8 - st.keys.currentNcc) % 8 = d) (hfuel : d ≤ fuel)
    : NhInv crypto kAsme kEnb st'.keys ∧ st'.keys.currentNcc = target ∧ st'.keys.kEnb = st.keys.kEnb
        ∧ st'.keys.nhs.length = st.keys.nhs.length + d ∧ (d = 0 → st' = st)
        ∧ (d ≠ 0 → st'.keys.nhs.getLast? = some st'.enbStarKey) := by
  have hncc := h.ncc
  induction d generalizing st fuel with
  | zero =>
    have hstop : st.keys.currentNcc = target := by omega
    have hcond : ¬ loopCond target st := not_not.mpr hstop
    rw [Loop.whileDo_of_not_cond _ _ _ hcond] at hst'
    rw [hst']
    exact ⟨h, hstop, rfl, rfl, fun _ => rfl, fun hne => absurd rfl hne⟩
  | succ d ih =>
    obtain ⟨fuel, rfl⟩ : ∃ k, fuel = k + 1 := ⟨fuel - 1, by omega⟩
    have hcond : loopCond target st := by
      unfold loopCond
      omega
    have hbody := nhInv_loopBody h
    have hlen : (loopBody crypto st).keys.nhs.length = st.keys.nhs.length + 1 := by
      unfold loopBody
      dsimp only
      rw [length_append, length_singleton]
    have hnext := hbody.ncc
    rw [Loop.whileDo_succ_of_cond _ _ _ hcond] at hst'
    have ⟨hinv, hend, hkEnb, hmore, hsame, hlast⟩ := ih hst' hbody (by omega) (by omega) hnext
    refine ⟨hinv, hend, hkEnb, by omega, nofun, fun _ => ?_⟩
    by_cases hzero : d = 0
    . rw [hsame hzero]
      exact getLast?_concat
    . exact hlast hzero

end generateAsKeysHo

section

variable (h : NhInv crypto kAsme kEnb keys)

include h

theorem targetNcc_lt {ncc : Int} (hncc : ncc < 8) : keys.targetNcc ncc < 8 := by
  have hlen := h.ncc
  unfold targetNcc
  split <;> omega

theorem handover_spec {ho : Handover} (hncc : ho.ncc < 8)
    : NhInv crypto kAsme kEnb (keys.handover crypto ho) ∧ Derives crypto keys ho
        ∧ (keys.handover crypto ho).nhs.length
          = keys.nhs.length + (keys.targetNcc ho.ncc + 8 - keys.currentNcc) % 8 := by
  have htarget := targetNcc_lt h hncc
  have hcur := h.ncc
  have hloop : keys.successiveNh crypto ho.ncc = Loop.whileDo (generateAsKeysHo.loopCond (keys.targetNcc ho.ncc))
      (generateAsKeysHo.loopBody crypto) 8 { keys, enbStarKey := keys.kEnb } := rfl
  have ⟨hinv, hend, _, hlen, hsame, hlast⟩ := generateAsKeysHo.whileDo_loopBody hloop h htarget rfl (by omega)
  dsimp only at hlen hsame hlast
  refine ⟨⟨hinv.asme, hinv.initial, hinv.ncc, hinv.nh, hinv.nhs⟩, ⟨hend, ?_, ?_⟩, hlen⟩
  . intro heq
    have hst := hsame (by rw [heq]; omega)
    unfold handover generateAsKeysHo
    dsimp only
    rw [hst]
    exact ⟨rfl, rfl⟩
  . intro hne
    exact ⟨_, hlast (by omega), rfl⟩

omit h in
theorem steps_cons {ho : Handover} (hos : List Handover)
    : steps keys.currentNcc (ho :: hos)
        = (keys.targetNcc ho.ncc + 8 - keys.currentNcc) % 8 + steps (keys.targetNcc ho.ncc) hos := by
  unfold targetNcc
  rw [steps]
  split
  . have hzero : (keys.currentNcc + 8 - keys.currentNcc) % 8 = 0 := by omega
    rw [hzero, Nat.zero_add]
  . rfl

theorem exec_spec {hos : List Handover} (hhos : ∀ ho ∈ hos, ho.ncc < 8)
    : NhInv crypto kAsme kEnb (Trace.exec (handover crypto) keys hos)
        ∧ Trace.Along (handover crypto) (Derives crypto) keys hos
        ∧ (Trace.exec (handover crypto) keys hos).nhs.length
          = keys.nhs.length + steps keys.currentNcc hos := by
  induction hos generalizing keys with
  | nil => exact ⟨h, trivial, rfl⟩
  | cons ho hos ih =>
    have ⟨hinv, hderives, hlen⟩ := handover_spec h (hhos ho mem_cons_self)
    have ⟨hinv', halong, hlen'⟩ := ih hinv (fun ho' hmem => hhos ho' (mem_cons_of_mem ho hmem))
    refine ⟨hinv', ⟨hderives, halong⟩, hlen'.trans ?_⟩
    rw [steps_cons, hderives.ends, hlen, Nat.add_assoc]

end

theorem nhChain_mod (hperiod : nhChain crypto kAsme kEnb 9 = nhChain crypto kAsme kEnb 1) (n : Nat)
    : nhChain crypto kAsme kEnb (n % 8 + 1) = nhChain crypto kAsme kEnb (n + 1) := by
  have hpt : Function.IsPeriodicPt (generateNh crypto kAsme) 8 (generateNh crypto kAsme kEnb) := hperiod
  unfold nhChain
  rw [Function.iterate_succ_apply, Function.iterate_succ_apply, hpt.iterate_mod_apply]

theorem nhInv_generateAsKeys (crypto : Crypto) (keys : UsimKeys) (kAsme : Bytes 32) (countUl : UInt32) (cipherAlgo integAlgo : UInt8)
    : NhInv crypto kAsme (generateKEnb crypto kAsme countUl)
        (keys.generateAsKeys crypto kAsme countUl cipherAlgo integAlgo).1 where
  asme := rfl
  initial := rfl
  ncc := rfl
  nh := fun h => absurd rfl h
  nhs := nofun

theorem followsChain_iff (crypto : Crypto) (keys : UsimKeys) (kAsme : Bytes 32) (countUl : UInt32)
    (cipherAlgo integAlgo : UInt8) (hos : List Handover) (hhos : ∀ ho ∈ hos, ho.ncc < 8)
    : FollowsChain crypto (keys.generateAsKeys crypto kAsme countUl cipherAlgo integAlgo).1 hos
        ↔
      steps 0 hos ≤ 8
        ∨ nhChain crypto kAsme (generateKEnb crypto kAsme countUl) 9
          = nhChain crypto kAsme (generateKEnb crypto kAsme countUl) 1 := by
  have ⟨hinv, halong, hlen⟩ := exec_spec
    (nhInv_generateAsKeys crypto keys kAsme countUl cipherAlgo integAlgo) hhos
  have hlen := hlen.trans (Nat.zero_add _)
  have hzero : (keys.generateAsKeys crypto kAsme countUl cipherAlgo integAlgo).1.currentNcc = 0 := rfl
  rw [hzero] at hlen
  constructor
  . intro hfollows
    by_cases hfew : steps 0 hos ≤ 8
    . exact .inl hfew
    . right
      have hninth := getElem?_eq_getElem (Nat.lt_of_lt_of_eq (Nat.lt_of_not_le hfew) hlen.symm)
      exact (hfollows.nhs 8 _ hninth).symm.trans (hinv.nhs 8 _ hninth)
  . intro hcond
    refine ⟨?_, halong⟩
    intro n nh hnh
    rw [hinv.nhs n nh hnh]
    cases hcond with
    | inl hfew =>
      have hlt := (List.getElem?_eq_some_iff.mp hnh).1
      rw [Nat.mod_eq_of_lt (by omega)]
      rfl
    | inr hperiod => exact nhChain_mod hperiod n

def countingCrypto : Crypto :=
  { Crypto.null with sha256 := fun _ message _ => message.getD 1 0 + 1 }

def zeroKeys : UsimKeys :=
  { kAsme := 0, kEnb := 0, kEnbInitial := 0, kEnbStar := 0, nh := 0, currentNcc := 0 }

theorem followsChain_six
    : steps 0 [⟨1, 100, 5, 0, 0⟩, ⟨2, 100, -1, 0, 0⟩, ⟨3, 100, 6, 0, 0⟩] = 6
        ∧ FollowsChain countingCrypto (zeroKeys.generateAsKeys countingCrypto 0 0 0 0).1
          [⟨1, 100, 5, 0, 0⟩, ⟨2, 100, -1, 0, 0⟩, ⟨3, 100, 6, 0, 0⟩] := by
  refine ⟨by decide, (followsChain_iff countingCrypto zeroKeys 0 0 0 0 _ ?_).mpr (.inl (by decide))⟩
  simp

theorem not_followsChain_nine
    : ¬ FollowsChain countingCrypto (zeroKeys.generateAsKeys countingCrypto 0 0 0 0).1
        [⟨1, 100, 7, 0, 0⟩, ⟨2, 100, 0, 0, 0⟩, ⟨3, 100, 1, 0, 0⟩] := by
  intro h
  have hninth := h.nhs 8 (fun _ => 2) (by rfl)
  have hbyte := congrFun hninth 0
  revert hbyte
  decide

end SrsLte.UsimKeys
