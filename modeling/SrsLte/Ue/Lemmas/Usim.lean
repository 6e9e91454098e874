import SrsLte.Epc.Lemmas.Hss
import SrsLte.Ue.Impl.Usim

/-!
This module contains the verification that `hss.cc` and `usim.cc` carry out the same authentication and
key agreement. What the two share is an `Aka`, the functions that a key fixes.
-/

namespace SrsLte

structure Aka where
  mac (rand : Bytes 16) (sqn : Bytes 6) (amf : Bytes 2) : Bytes 8
  res (rand : Bytes 16) : List UInt8
  ck (rand : Bytes 16) : Bytes 16
  ik (rand : Bytes 16) : Bytes 16
  ak (rand : Bytes 16) : Bytes 6

namespace Aka

def milenage (crypto : Crypto) (k opc : Bytes 16) : Aka where
  mac rand sqn amf := crypto.f1 k opc rand sqn amf
  res rand := List.ofFn (crypto.f2345 k opc rand).1
  ck rand := (crypto.f2345 k opc rand).2.1
  ik rand := (crypto.f2345 k opc rand).2.2.1
  ak rand := (crypto.f2345 k opc rand).2.2.2

def xor (k : Bytes 16) : Aka where
  mac rand sqn amf := Bytes.xor ((Bytes.xor k rand).slice 0 8 macBytes_le) (Fin.append sqn amf)
  res rand := List.ofFn (Bytes.xor k rand)
  ck rand := fun i => Bytes.xor k rand (i + 1)
  ik rand := fun i => Bytes.xor k rand (i + 2)
  ak rand := (Bytes.xor k rand).slice 3 6 akBytes_le

variable (aka : Aka)

def autn (rand : Bytes 16) (sqn : Bytes 6) (amf : Bytes 2) : Bytes 16 :=
  constructAutn (Bytes.xor sqn (aka.ak rand)) amf (aka.mac rand sqn amf)

def kAsme (crypto : Crypto) (rand : Bytes 16) (sqn : Bytes 6) (mcc mnc : UInt16) : Bytes 32 :=
  generateKAsme crypto (aka.ck rand) (aka.ik rand) (aka.ak rand) sqn mcc mnc

def sqnOf (rand autn : Bytes 16) : Bytes 6 :=
  Bytes.xor (autn.slice 0 6 sqnBytes_le) (aka.ak rand)

@[simp]
theorem sqnOf_autn (rand : Bytes 16) (sqn : Bytes 6) (amf : Bytes 2)
    : aka.sqnOf rand (aka.autn rand sqn amf) = sqn := by
  simp [sqnOf, autn]

@[simp]
theorem slice_amf_autn (rand : Bytes 16) (sqn : Bytes 6) (amf : Bytes 2)
    : (aka.autn rand sqn amf).slice 6 2 amfBytes_le = amf := by
  simp [autn]

end Aka

def HssUeCtx.aka (crypto : Crypto) (algo : HssAuthAlgo) (ueCtx : HssUeCtx) : Aka :=
  match algo with
  | .xor => Aka.xor ueCtx.key
  | .milenage => Aka.milenage crypto ueCtx.key ueCtx.opc

theorem Hss.genAuthInfoAnswer_snd {crypto : Crypto} {hss : Hss} {imsi : Nat} {ueCtx : HssUeCtx}
    (hctx : hss.imsiToUeCtx.lookup imsi = some ueCtx) (rand : Bytes 16)
    : (hss.genAuthInfoAnswer crypto imsi rand).2
        =
      let aka := ueCtx.aka crypto hss.authAlgo
      some {
        kAsme := aka.kAsme crypto rand ueCtx.sqn hss.mcc hss.mnc
        autn := aka.autn rand ueCtx.sqn ueCtx.amf
        rand
        xres := aka.res rand
      } := by
  unfold genAuthInfoAnswer
  cases hss.authAlgo with
  | xor =>
    simp only [genAuthInfoAnswerXor, hctx]
    rfl
  | milenage =>
    simp only [genAuthInfoAnswerMilenage, hctx]
    rfl

namespace Usim

def aka (crypto : Crypto) (usim : Usim) : Aka :=
  match usim.authAlgo with
  | .xor => Aka.xor usim.k
  | .milenage => Aka.milenage crypto usim.k usim.opc

theorem generateAuthenticationResponse_snd (crypto : Crypto) (usim : Usim) (rand autnEnb : Bytes 16)
    (mcc mnc : UInt16)
    : (usim.generateAuthenticationResponse crypto rand autnEnb mcc mnc).2
        =
      let aka := usim.aka crypto
      let sqn := aka.sqnOf rand autnEnb
      {
        result := if aka.autn rand sqn (autnEnb.slice 6 2 amfBytes_le) = autnEnb then .authOk else .authFailed
        res := aka.res rand
        resLen := 8
        kAsme := aka.kAsme crypto rand sqn mcc mnc
      } := by
  unfold generateAuthenticationResponse aka
  cases usim.authAlgo <;> rfl

theorem result_eq_authOk_iff (crypto : Crypto) (usim : Usim) (rand autnEnb : Bytes 16) (mcc mnc : UInt16)
    : (usim.generateAuthenticationResponse crypto rand autnEnb mcc mnc).2.result = .authOk
        ↔
      ∃ sqn amf, autnEnb = (usim.aka crypto).autn rand sqn amf := by
  rw [generateAuthenticationResponse_snd]
  dsimp only
  constructor
  . intro h
    split at h
    . next heq => exact ⟨_, _, heq.symm⟩
    . cases h
  . rintro ⟨sqn, amf, rfl⟩
    rw [Aka.sqnOf_autn, Aka.slice_amf_autn, if_pos rfl]

structure IsFor (usim : Usim) (algo : HssAuthAlgo) (ueCtx : HssUeCtx) : Prop where
  k : usim.k = ueCtx.key
  opc : usim.opc = ueCtx.opc
  authAlgo : usim.authAlgo = .xor ↔ algo = .xor

theorem IsFor.aka_eq {usim : Usim} {algo : HssAuthAlgo} {ueCtx : HssUeCtx} (h : usim.IsFor algo ueCtx)
    (crypto : Crypto)
    : usim.aka crypto = ueCtx.aka crypto algo := by
  have hauthAlgo := h.authAlgo
  unfold Usim.aka HssUeCtx.aka
  rw [h.k, h.opc]
  cases hcard : usim.authAlgo <;> cases algo <;> simp_all

theorem aka_agreement (crypto : Crypto) {hss : Hss} {imsi : Nat} {ueCtx : HssUeCtx}
    (hctx : hss.imsiToUeCtx.lookup imsi = some ueCtx) {usim : Usim} (husim : usim.IsFor hss.authAlgo ueCtx)
    : (∀ rand, ∃ vector, (hss.genAuthInfoAnswer crypto imsi rand).2 = some vector
        ∧ vector.rand = rand
        ∧ (let response := (usim.generateAuthenticationResponse crypto rand vector.autn hss.mcc hss.mnc).2
          response.result = .authOk
            ∧ response.resLen = 8
            ∧ response.res.take 8 = vector.xres.take 8
            ∧ response.kAsme = vector.kAsme))
        ∧
      (∀ rand autnEnb mcc mnc,
        (usim.generateAuthenticationResponse crypto rand autnEnb mcc mnc).2.result = .authOk
          ↔
        ∃ sqn amf, autnEnb
          =
        constructAutn (Bytes.xor sqn ((usim.aka crypto).ak rand)) amf ((usim.aka crypto).mac rand sqn amf)) := by
  constructor
  . intro rand
    refine ⟨_, Hss.genAuthInfoAnswer_snd hctx rand, rfl, ?_⟩
    dsimp only
    rw [← husim.aka_eq crypto]
    constructor
    . rw [result_eq_authOk_iff]
      exact ⟨_, _, rfl⟩
    . rw [generateAuthenticationResponse_snd]
      simp
  . exact result_eq_authOk_iff crypto usim

def lastSqnCard : Usim where
  authAlgo := .milenage
  k := 0
  opc := 0
  amf := 0
  ck := 0
  ik := 0
  ak := 0
  mac := 0
  autn := 0

theorem aka_agreement_lastSqnCard
    : ∃ vector, (Hss.lastSqn.genAuthInfoAnswer Crypto.null 1 0).2 = some vector
        ∧ (lastSqnCard.generateAuthenticationResponse Crypto.null 0 vector.autn 0xF001 0xFF01).2.result = .authOk := by
  have hctx : Hss.lastSqn.imsiToUeCtx.lookup 1
      = some { key := 0, opc := 0, amf := 0, sqn := fun _ => 0xFF, lastRand := 0 } :=
    Finmap.lookup_singleton_eq
  have husim : lastSqnCard.IsFor Hss.lastSqn.authAlgo
      { key := 0, opc := 0, amf := 0, sqn := fun _ => 0xFF, lastRand := 0 } :=
    ⟨rfl, rfl, by decide⟩
  have hagree := (aka_agreement Crypto.null hctx husim).1 0
  have ⟨vector, hvector, _, hok, _⟩ := hagree
  exact ⟨vector, hvector, hok⟩

end Usim

end SrsLte
