import SrsLte.Data.Trace
import SrsLte.Epc.Impl.Hss

/-!
This module contains the theory of the sequence numbers in `hss.cc`. The SQN of a vector is what the
subscriber recovers from its AUTN with the anonymity key.
-/

namespace SrsLte

open Finmap

inductive HssCall where
  | genAuthInfoAnswer (imsi : Nat) (rand : Bytes 16)
  | resyncSqn (imsi : Nat) (auts : Bytes 14)

namespace HssCall

def imsi (call : HssCall) : Nat :=
  match call with
  | .genAuthInfoAnswer imsi _ => imsi
  | .resyncSqn imsi _ => imsi

def apply (crypto : Crypto) (call : HssCall) (ueCtx : HssUeCtx) : HssUeCtx :=
  match call with
  | .genAuthInfoAnswer _ rand =>
    { ueCtx with lastRand := rand, sqn := Hss.incrementSqn ueCtx.sqn }
  | .resyncSqn _ auts =>
    { ueCtx with sqn := Hss.incrementSqn (Hss.sqnMs crypto ueCtx auts) }

end HssCall

namespace AuthVector

def sqn (crypto : Crypto) (ueCtx : HssUeCtx) (vector : AuthVector) : Bytes 6 :=
  let (_, _, _, ak) := crypto.f2345 ueCtx.key ueCtx.opc vector.rand
  Bytes.xor (vector.autn.slice 0 6 sqnBytes_le) ak

end AuthVector

namespace Hss

variable (crypto : Crypto)

def call (hss : Hss) (call : HssCall) : Hss :=
  match call with
  | .genAuthInfoAnswer imsi rand => (hss.genAuthInfoAnswer crypto imsi rand).1
  | .resyncSqn imsi auts => (hss.resyncSqn crypto imsi auts).1

def storedSqn (hss : Hss) (imsi : Nat) : Option Nat :=
  (hss.imsiToUeCtx.lookup imsi).map fun ueCtx => ueCtx.sqn.toNat

def vectorSqn (hss : Hss) (imsi : Nat) (rand : Bytes 16) : Option Nat := do
  let ueCtx ← hss.imsiToUeCtx.lookup imsi
  let vector ← (hss.genAuthInfoAnswer crypto imsi rand).2
  return (vector.sqn crypto ueCtx).toNat

def recoveredSqn (hss : Hss) (imsi : Nat) (auts : Bytes 14) : Option Nat :=
  (hss.imsiToUeCtx.lookup imsi).map fun ueCtx => (sqnMs crypto ueCtx auts).toNat

def nextSqn (sqn : Nat) : Nat :=
  (sqn + 1) % 2 ^ 48

theorem toNat_incrementSqn (sqn : Bytes 6) : (incrementSqn sqn).toNat = nextSqn sqn.toNat := by
  unfold incrementSqn nextSqn
  rw [Bytes.toNat_ofNat]
  omega

section UpdateUeCtx

variable (hss : Hss) (imsi : Nat) (f : HssUeCtx → HssUeCtx)

@[simp]
theorem updateUeCtx_authAlgo : (hss.updateUeCtx imsi f).authAlgo = hss.authAlgo := by
  unfold updateUeCtx
  split <;> rfl

theorem updateUeCtx_lookup (imsi' : Nat)
    : (hss.updateUeCtx imsi f).imsiToUeCtx.lookup imsi'
        =
      if imsi' = imsi then (hss.imsiToUeCtx.lookup imsi).map f else hss.imsiToUeCtx.lookup imsi' := by
  unfold updateUeCtx
  split
  . next hnone =>
    split
    . next heq => rw [heq, hnone, Option.map_none]
    . rfl
  . next ueCtx hsome =>
    rw [Map.lookup_insert_ite, hsome, Option.map_some]

theorem updateUeCtx_updateUeCtx (g : HssUeCtx → HssUeCtx)
    : (hss.updateUeCtx imsi f).updateUeCtx imsi g = hss.updateUeCtx imsi (g ∘ f) := by
  cases hctx : hss.imsiToUeCtx.lookup imsi with
  | none => simp [updateUeCtx, hctx]
  | some ueCtx => simp [updateUeCtx, hctx]

theorem mem_updateUeCtx {imsi' : Nat}
    : imsi' ∈ (hss.updateUeCtx imsi f).imsiToUeCtx ↔ imsi' ∈ hss.imsiToUeCtx := by
  rw [← lookup_isSome, ← lookup_isSome, updateUeCtx_lookup]
  split
  . next heq => rw [heq, Option.isSome_map]
  . rfl

end UpdateUeCtx

section Subscribers

variable (hss : Hss) (imsi : Nat)

theorem mem_genAuthInfoAnswer {imsi' : Nat} (rand : Bytes 16)
    : imsi' ∈ (hss.genAuthInfoAnswer crypto imsi rand).1.imsiToUeCtx ↔ imsi' ∈ hss.imsiToUeCtx := by
  unfold genAuthInfoAnswer genAuthInfoAnswerXor genAuthInfoAnswerMilenage incrementUeSqn setLastRand
  cases hss.authAlgo <;> cases hss.imsiToUeCtx.lookup imsi <;> simp only [mem_updateUeCtx]

theorem mem_resyncSqn {imsi' : Nat} (auts : Bytes 14)
    : imsi' ∈ (hss.resyncSqn crypto imsi auts).1.imsiToUeCtx ↔ imsi' ∈ hss.imsiToUeCtx := by
  unfold resyncSqn resyncSqnXor resyncSqnMilenage incrementUeSqn setSqn
  cases hss.authAlgo <;> cases hss.imsiToUeCtx.lookup imsi <;> simp only [mem_updateUeCtx]

theorem genAuthInfoAnswer_isSome (rand : Bytes 16)
    : (hss.genAuthInfoAnswer crypto imsi rand).2.isSome = true ↔ imsi ∈ hss.imsiToUeCtx := by
  rw [← lookup_isSome]
  unfold genAuthInfoAnswer genAuthInfoAnswerXor genAuthInfoAnswerMilenage
  cases hss.authAlgo <;> cases hss.imsiToUeCtx.lookup imsi <;> simp

end Subscribers

section Milenage

variable {crypto} {hss : Hss} (halgo : hss.authAlgo = .milenage)

include halgo

theorem call_eq (call : HssCall) : hss.call crypto call = hss.updateUeCtx call.imsi (call.apply crypto) := by
  cases call with
  | genAuthInfoAnswer imsi rand =>
    have hfst : (hss.genAuthInfoAnswer crypto imsi rand).1 = (hss.setLastRand imsi rand).incrementUeSqn imsi := by
      simp only [genAuthInfoAnswer, halgo, genAuthInfoAnswerMilenage]
      split
      . next hnone => simp [setLastRand, updateUeCtx, hnone]
      . rfl
    rw [Hss.call, hfst, incrementUeSqn, setLastRand, updateUeCtx_updateUeCtx]
    rfl
  | resyncSqn imsi auts =>
    cases hctx : hss.imsiToUeCtx.lookup imsi with
    | none => simp [Hss.call, resyncSqn, halgo, resyncSqnMilenage, incrementUeSqn, HssCall.imsi, updateUeCtx, hctx]
    | some ueCtx =>
      simp only [Hss.call, resyncSqn, halgo, resyncSqnMilenage, hctx, incrementUeSqn, setSqn,
        updateUeCtx_updateUeCtx]
      simp [updateUeCtx, hctx, HssCall.imsi, HssCall.apply]

theorem vectorSqn_eq_storedSqn (imsi : Nat) (rand : Bytes 16)
    : hss.vectorSqn crypto imsi rand = hss.storedSqn imsi := by
  unfold vectorSqn storedSqn
  cases hctx : hss.imsiToUeCtx.lookup imsi with
  | none => rfl
  | some ueCtx =>
    simp [genAuthInfoAnswer, halgo, genAuthInfoAnswerMilenage, hctx, AuthVector.sqn]

theorem call_authAlgo (call : HssCall) : (hss.call crypto call).authAlgo = .milenage := by
  rw [call_eq halgo, updateUeCtx_authAlgo, halgo]

theorem exec_authAlgo (calls : List HssCall) : (Trace.exec (Hss.call crypto) hss calls).authAlgo = .milenage := by
  apply Trace.exec_invariant (P := fun hss : Hss => hss.authAlgo = .milenage)
  . intro hss call h
    exact call_authAlgo h call
  . exact halgo

theorem call_storedSqn_of_ne {call : HssCall} {imsi : Nat} (hne : call.imsi ≠ imsi)
    : (hss.call crypto call).storedSqn imsi = hss.storedSqn imsi := by
  unfold storedSqn
  rw [call_eq halgo, updateUeCtx_lookup, if_neg (Ne.symm hne)]

theorem exec_storedSqn_of_forall_ne {calls : List HssCall} {imsi : Nat} (hne : ∀ call ∈ calls, call.imsi ≠ imsi)
    : (Trace.exec (Hss.call crypto) hss calls).storedSqn imsi = hss.storedSqn imsi := by
  induction calls generalizing hss with
  | nil => rfl
  | cons call calls ih =>
    have hhead := hne call List.mem_cons_self
    have htail : ∀ call' ∈ calls, call'.imsi ≠ imsi := fun call' h => hne call' (List.mem_cons_of_mem call h)
    rw [Trace.exec_cons, ih (call_authAlgo halgo call) htail, call_storedSqn_of_ne halgo hhead]

theorem call_storedSqn (call : HssCall)
    : (hss.call crypto call).storedSqn call.imsi
        =
      (hss.imsiToUeCtx.lookup call.imsi).map fun ueCtx => (call.apply crypto ueCtx).sqn.toNat := by
  unfold storedSqn
  rw [call_eq halgo, updateUeCtx_lookup, if_pos rfl, Option.map_map]
  rfl

theorem call_genAuthInfoAnswer_storedSqn (imsi : Nat) (rand : Bytes 16)
    : (hss.call crypto (.genAuthInfoAnswer imsi rand)).storedSqn imsi = (hss.storedSqn imsi).map nextSqn := by
  have hcall := @call_storedSqn crypto hss halgo (.genAuthInfoAnswer imsi rand)
  simpa [HssCall.imsi, HssCall.apply, storedSqn, toNat_incrementSqn, Function.comp_def] using hcall

theorem call_resyncSqn_storedSqn (imsi : Nat) (auts : Bytes 14)
    : (hss.call crypto (.resyncSqn imsi auts)).storedSqn imsi = (hss.recoveredSqn crypto imsi auts).map nextSqn := by
  have hcall := @call_storedSqn crypto hss halgo (.resyncSqn imsi auts)
  simpa [HssCall.imsi, HssCall.apply, storedSqn, recoveredSqn, toNat_incrementSqn, Function.comp_def] using hcall

theorem vectorSqn_exec (before : List HssCall) (call : HssCall) {after : List HssCall}
    (hafter : ∀ call' ∈ after, call'.imsi ≠ call.imsi) (rand : Bytes 16)
    : (Trace.exec (Hss.call crypto) hss (before ++ call :: after)).vectorSqn crypto call.imsi rand
        =
      ((Trace.exec (Hss.call crypto) hss before).call crypto call).storedSqn call.imsi := by
  have hbefore := @exec_authAlgo crypto hss halgo before
  have hcall := @call_authAlgo crypto _ hbefore call
  rw [Trace.exec_append, Trace.exec_cons, vectorSqn_eq_storedSqn (exec_authAlgo hcall after),
    exec_storedSqn_of_forall_ne hcall hafter]

end Milenage

theorem sqn_freshness (hss : Hss) (halgo : hss.authAlgo = .milenage) (imsi : Nat)
    : (∀ before rand after rand', (∀ call ∈ after, HssCall.imsi call ≠ imsi) →
        (Trace.exec (Hss.call crypto) hss (before ++ .genAuthInfoAnswer imsi rand :: after)).vectorSqn crypto imsi rand'
          =
        ((Trace.exec (Hss.call crypto) hss before).storedSqn imsi).map nextSqn)
        ∧
      (∀ before auts after rand, (∀ call ∈ after, HssCall.imsi call ≠ imsi) →
        (Trace.exec (Hss.call crypto) hss (before ++ .resyncSqn imsi auts :: after)).vectorSqn crypto imsi rand
          =
        ((Trace.exec (Hss.call crypto) hss before).recoveredSqn crypto imsi auts).map nextSqn)
        ∧
      (∀ before call, HssCall.imsi call ≠ imsi →
        (Trace.exec (Hss.call crypto) hss (before ++ [call])).storedSqn imsi
          =
        (Trace.exec (Hss.call crypto) hss before).storedSqn imsi) := by
  have hexec := @exec_authAlgo crypto hss halgo
  refine ⟨?_, ?_, ?_⟩
  . intro before rand after rand' hafter
    apply (vectorSqn_exec halgo before (.genAuthInfoAnswer imsi rand) hafter rand').trans
    exact call_genAuthInfoAnswer_storedSqn (hexec before) imsi rand
  . intro before auts after rand hafter
    apply (vectorSqn_exec halgo before (.resyncSqn imsi auts) hafter rand).trans
    exact call_resyncSqn_storedSqn (hexec before) imsi auts
  . intro before call hne
    rw [Trace.exec_append]
    exact call_storedSqn_of_ne (hexec before) hne

def lastSqn : Hss where
  imsiToUeCtx :=
    Finmap.singleton 1 { key := 0, opc := 0, amf := 0, sqn := fun _ => 0xFF, lastRand := 0 }
  authAlgo := .milenage
  mcc := 0xF001
  mnc := 0xFF01

theorem sqn_freshness_lastSqn
    : (Trace.exec (Hss.call Crypto.null) lastSqn [.genAuthInfoAnswer 1 0, .genAuthInfoAnswer 2 0]).vectorSqn
        Crypto.null 1 0 = some 0 := by
  have hstored : lastSqn.storedSqn 1 = some (2 ^ 48 - 1) := by
    unfold storedSqn lastSqn
    rw [lookup_singleton_eq]
    rfl
  have hvector := (sqn_freshness Crypto.null lastSqn rfl 1).1 [] 0 [.genAuthInfoAnswer 2 0] 0 (by decide)
  rw [Trace.exec_nil, hstored] at hvector
  exact hvector

end Hss

end SrsLte
