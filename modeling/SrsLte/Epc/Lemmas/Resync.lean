import SrsLte.Epc.Lemmas.Mme

/-!
This module contains the verification of the resynchronisation of an SQN, by the HSS itself and by the
handler of the MME for an authentication failure.
-/

namespace SrsLte

open Finmap

namespace Hss

variable (crypto : Crypto)

def MacSValid (ueCtx : HssUeCtx) (auts : Bytes 14) : Prop :=
  auts.slice 6 8 (by decide)
    =
  crypto.f1Star ueCtx.key ueCtx.opc ueCtx.lastRand (sqnMs crypto ueCtx auts) ueCtx.amf

def RefusesResync (hss : Hss) (imsi : Nat) (auts : Bytes 14) : Prop :=
  (hss.resyncSqn crypto imsi auts).2 = false
    ∧ (hss.resyncSqn crypto imsi auts).1.storedSqn imsi = (hss.storedSqn imsi).map nextSqn

variable {crypto}

theorem resyncSqn_snd {hss : Hss} {imsi : Nat} {ueCtx : HssUeCtx} (halgo : hss.authAlgo = .milenage)
    (hctx : hss.imsiToUeCtx.lookup imsi = some ueCtx) (auts : Bytes 14)
    : (hss.resyncSqn crypto imsi auts).2 = true := by
  simp only [resyncSqn, halgo, resyncSqnMilenage, hctx]

end Hss

namespace Mme

def RefusesResync (alg : NasAlgorithms) (mme : Mme) (ptr enbSri imsi : Nat) (auts : Bytes 14) (env : MmeEnv)
    : Prop :=
  ∃ mme', mme.handleAuthenticationFailure alg ptr enbSri 21 (some auts) env = some mme'
    ∧ mme'.hss.storedSqn imsi = (mme.hss.storedSqn imsi).map Hss.nextSqn
    ∧ mme'.sent = mme.sent

theorem handleAuthenticationFailure_sent {alg : NasAlgorithms} {mme : Mme} {ptr : Nat} {ueCtx : UeCtx}
    {hssUeCtx : HssUeCtx} (halgo : mme.hss.authAlgo = .milenage) (hctx : mme.ueCtxs.lookup ptr = some ueCtx)
    (hhss : mme.hss.imsiToUeCtx.lookup ueCtx.emmCtx.imsi = some hssUeCtx) (enbSri : Nat) (auts : Bytes 14)
    (env : MmeEnv)
    : ∃ mme' msg, mme.handleAuthenticationFailure alg ptr enbSri 21 (some auts) env = some mme'
        ∧ mme'.sent = mme.sent ++ [msg] := by
  have hret := @Hss.resyncSqn_snd alg.crypto _ _ _ halgo hhss auts
  have hmem : ueCtx.emmCtx.imsi ∈ (mme.hss.resyncSqn alg.crypto ueCtx.emmCtx.imsi auts).1.imsiToUeCtx :=
    (Hss.mem_resyncSqn alg.crypto mme.hss ueCtx.emmCtx.imsi auts).mpr (mem_of_lookup_eq_some hhss)
  have ⟨vector, hvector⟩ := Option.isSome_iff_exists.mp
    ((Hss.genAuthInfoAnswer_isSome alg.crypto _ ueCtx.emmCtx.imsi env.rand).mpr hmem)
  simp only [handleAuthenticationFailure, hctx, hret, genAuthInfoAnswer, hvector, updateUeCtx,
    packAuthenticationRequest, lookup_insert, Option.bind_eq_bind, Option.bind_some, Option.pure_def, if_true]
  exact ⟨_, _, rfl, rfl⟩

theorem resync_refused_iff (alg : NasAlgorithms) (mme : Mme) (ptr enbSri : Nat) (auts : Bytes 14) (env : MmeEnv)
    {ueCtx : UeCtx} {hssUeCtx : HssUeCtx} (halgo : mme.hss.authAlgo = .milenage)
    (hctx : mme.ueCtxs.lookup ptr = some ueCtx)
    (hhss : mme.hss.imsiToUeCtx.lookup ueCtx.emmCtx.imsi = some hssUeCtx)
    : ((¬Hss.MacSValid alg.crypto hssUeCtx auts → mme.hss.RefusesResync alg.crypto ueCtx.emmCtx.imsi auts)
        ↔
      Hss.MacSValid alg.crypto hssUeCtx auts)
        ∧
      ((¬Hss.MacSValid alg.crypto hssUeCtx auts → mme.RefusesResync alg ptr enbSri ueCtx.emmCtx.imsi auts env)
        ↔
      Hss.MacSValid alg.crypto hssUeCtx auts) := by
  constructor <;> constructor
  . intro h
    by_contra hmac
    have hfalse := (h hmac).1
    rw [Hss.resyncSqn_snd halgo hhss auts] at hfalse
    cases hfalse
  . intro hmac hnot
    exact absurd hmac hnot
  . intro h
    by_contra hmac
    obtain ⟨mme', hmme', -, hsent⟩ := h hmac
    obtain ⟨mme'', msg, hmme'', hsent'⟩ := handleAuthenticationFailure_sent halgo hctx hhss enbSri auts env
    cases hmme'.symm.trans hmme''
    simp [hsent'] at hsent
  . intro hmac hnot
    exact absurd hmac hnot

def lastSqn : Mme :=
  { Mme.init 0 0 Hss.lastSqn (Gtpc.init 0 0) with
    ueCtxs := Finmap.singleton 0 { UeCtx.null with emmCtx.imsi := 1 }
  }

theorem resync_refused_iff_lastSqn
    : Hss.MacSValid Crypto.null ⟨0, 0, 0, fun _ => 0xFF, 0⟩ 0
        ∧
      (¬Hss.MacSValid Crypto.null ⟨0, 0, 0, fun _ => 0xFF, 0⟩ 0 → Hss.lastSqn.RefusesResync Crypto.null 1 0) := by
  have hmac : Hss.MacSValid Crypto.null ⟨0, 0, 0, fun _ => 0xFF, 0⟩ 0 := rfl
  have hctx : lastSqn.ueCtxs.lookup 0 = some { UeCtx.null with emmCtx.imsi := 1 } := lookup_singleton_eq
  have hhss : lastSqn.hss.imsiToUeCtx.lookup 1 = some ⟨0, 0, 0, fun _ => 0xFF, 0⟩ := lookup_singleton_eq
  exact ⟨hmac, (resync_refused_iff NasAlgorithms.null lastSqn 0 0 0 MmeEnv.null rfl hctx hhss).1.mpr hmac⟩

theorem not_refused_ones
    : ¬Hss.MacSValid Crypto.null ⟨0, 0, 0, fun _ => 0xFF, 0⟩ 1
        ∧ ¬Hss.lastSqn.RefusesResync Crypto.null 1 1
        ∧ ¬lastSqn.RefusesResync NasAlgorithms.null 0 0 1 1 MmeEnv.null := by
  have hctx : lastSqn.ueCtxs.lookup 0 = some { UeCtx.null with emmCtx.imsi := 1 } := lookup_singleton_eq
  have hhss : lastSqn.hss.imsiToUeCtx.lookup 1 = some ⟨0, 0, 0, fun _ => 0xFF, 0⟩ := lookup_singleton_eq
  refine ⟨?_, ?_, ?_⟩
  . intro hmac
    have hbyte := congrFun hmac 0
    exact absurd hbyte (by decide)
  . intro hrefuses
    exact absurd (hrefuses.1.symm.trans (Hss.resyncSqn_snd rfl hhss 1)) (by decide)
  . rintro ⟨mme', hmme', -, hsent⟩
    have ⟨mme'', msg, hmme'', hsent'⟩ := @handleAuthenticationFailure_sent NasAlgorithms.null lastSqn 0 _ _ rfl
      hctx hhss 0 1 MmeEnv.null
    cases hmme'.symm.trans hmme''
    simp [hsent'] at hsent

end Mme

end SrsLte
