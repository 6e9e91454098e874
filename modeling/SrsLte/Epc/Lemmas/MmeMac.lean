import SrsLte.Epc.Lemmas.Mme

/-!
This module contains what a message whose MAC is wrong does to the security context of a UE in the MME.
-/

namespace SrsLte

open Option Finmap

structure UeSecurityState where
  ulNasCount : UInt32
  dlNasCount : UInt32
  kAsme : Bytes 32
  kNasEnc : Bytes 32
  kNasInt : Bytes 32
  kEnb : Bytes 32
  state : EmmState

namespace UeCtx

def securityState (ueCtx : UeCtx) : UeSecurityState where
  ulNasCount := ueCtx.emmCtx.securityCtxt.ulNasCount
  dlNasCount := ueCtx.emmCtx.securityCtxt.dlNasCount
  kAsme := ueCtx.emmCtx.securityCtxt.kAsme
  kNasEnc := ueCtx.emmCtx.securityCtxt.kNasEnc
  kNasInt := ueCtx.emmCtx.securityCtxt.kNasInt
  kEnb := ueCtx.emmCtx.securityCtxt.kEnb
  state := ueCtx.emmCtx.state

end UeCtx

def SecHdrType.IsNewContext (secHdrType : SecHdrType) : Prop :=
  secHdrType = .integrityWithNewEpsSecurityContext ∨ secHdrType = .integrityAndCipheredWithNewEpsSecurityContext

instance (secHdrType : SecHdrType) : Decidable secHdrType.IsNewContext := by
  unfold SecHdrType.IsNewContext
  infer_instance

namespace UeCtx

def expecting (ueCtx : UeCtx) (secHdrType : SecHdrType) : UeCtx :=
  if secHdrType.IsNewContext then ueCtx.resetNasCounts else ueCtx.incrementUlNasCount

def Rederived (alg : NasAlgorithms) (ueCtx : UeCtx) : Prop :=
  let sec := ueCtx.emmCtx.securityCtxt
  sec.ulNasCount = 1 ∧ (sec.kNasEnc, sec.kNasInt) = generateKNas alg.crypto sec.kAsme 0 1
    ∧ sec.kEnb = SrsLte.generateKEnb alg.crypto sec.kAsme 0

end UeCtx

namespace MmeEvent

variable (alg : NasAlgorithms)

def InvalidMac (mme : Mme) (event : MmeEvent) (ptr : Nat) (ueCtx : UeCtx) : Prop :=
  match event with
  | .uplinkNasTransport mmeUeS1apId _ nasMsg =>
    mme.findUeCtxFromMmeUeS1apId mmeUeS1apId = some ptr ∧ nasMsg.secHdrType.IsProtected
      ∧ (ueCtx.expecting nasMsg.secHdrType).emmCtx.securityCtxt.integrityCheck alg nasMsg = false
  | .initialUeMessage _ _ sTmsi nasMsg =>
    match nasMsg.msg with
    | .serviceRequest shortMac =>
      (sTmsi.bind mme.tmsiToImsi.lookup).bind mme.findUeCtxFromImsi = some ptr
        ∧ ueCtx.incrementUlNasCount.emmCtx.securityCtxt.shortIntegrityCheck alg nasMsg shortMac = false
    | .attachRequest attachReq =>
      ∃ mTmsi, attachReq.epsMobileId = .guti mTmsi ∧ nasMsg.secHdrType = .integrity
        ∧ (mme.tmsiToImsi.lookup mTmsi).bind mme.findUeCtxFromImsi = some ptr
        ∧ ueCtx.emmCtx.state = .registered
        ∧ ueCtx.incrementUlNasCount.emmCtx.securityCtxt.integrityCheck alg nasMsg = false
    | _ => False
  | _ => False

def Harmless (event : MmeEvent) (ueCtx : UeCtx) : Prop :=
  match event with
  | .uplinkNasTransport _ _ nasMsg =>
    match nasMsg.msg with
    | .identityResponse _ => nasMsg.secHdrType ≠ .integrity ∧ (ueCtx.emmCtx.imsi = 0 ∨ nasMsg.secHdrType.IsNewContext)
    | .authenticationResponse res =>
      ueCtx.emmCtx.imsi = 0 ∨ nasMsg.secHdrType.IsNewContext
        ∨ (nasMsg.secHdrType = .integrity ∧ ueCtx.emmCtx.securityCtxt.resValid res ∧ ueCtx.Rederived alg)
    | .securityModeComplete =>
      ueCtx.emmCtx.imsi = 0
        ∨ (nasMsg.secHdrType.IsNewContext ∧ ueCtx.emmCtx.securityCtxt.ulNasCount = 0
          ∧ ueCtx.emmCtx.securityCtxt.dlNasCount = 0)
    | _ => ueCtx.emmCtx.imsi = 0 ∨ nasMsg.secHdrType.IsNewContext
  | .initialUeMessage _ _ _ nasMsg =>
    match nasMsg.msg with
    | .serviceRequest _ => ueCtx.emmCtx.state ≠ .registered
    | _ => False
  | _ => False

end MmeEvent

namespace UeCtx

theorem securityState_ne {ueCtx ueCtx' : UeCtx}
    (h : ueCtx'.emmCtx.securityCtxt.ulNasCount = ueCtx.emmCtx.securityCtxt.ulNasCount + 1)
    : ueCtx'.securityState ≠ ueCtx.securityState := by
  intro heq
  have hcount : ueCtx'.emmCtx.securityCtxt.ulNasCount = ueCtx.emmCtx.securityCtxt.ulNasCount :=
    congrArg UeSecurityState.ulNasCount heq
  rw [h] at hcount
  simp at hcount

theorem securityState_resetNasCounts (ueCtx : UeCtx)
    : ueCtx.resetNasCounts.securityState = ueCtx.securityState
        ↔
      ueCtx.emmCtx.securityCtxt.ulNasCount = 0 ∧ ueCtx.emmCtx.securityCtxt.dlNasCount = 0 := by
  simp [securityState, resetNasCounts, eq_comm]

theorem securityState_acceptAuthentication (alg : NasAlgorithms) (ueCtx : UeCtx)
    : (ueCtx.acceptAuthentication alg).incrementUlNasCount.securityState = ueCtx.securityState
        ↔
      ueCtx.Rederived alg := by
  simp [securityState, acceptAuthentication, generateKeys, generateKEnb, incrementUlNasCount, Rederived, eq_comm,
    Prod.ext_iff, and_assoc]

end UeCtx

namespace Mme

variable {alg : NasAlgorithms} {mme mme' : Mme} {ptr enbSri : Nat} {env : MmeEnv} {ueCtx : UeCtx}

def HasUlNasCount (mme : Mme) (ptr : Nat) (ulNasCount : UInt32) : Prop :=
  ∃ ueCtx, mme.ueCtxs.lookup ptr = some ueCtx ∧ ueCtx.emmCtx.securityCtxt.ulNasCount = ulNasCount

variable {ulNasCount : UInt32}

section

variable (hcount : mme.HasUlNasCount ptr ulNasCount)

include hcount

theorem HasUlNasCount.genAuthInfoAnswer {imsi : Nat} {eksi : Nat → Nat} {vector : Option AuthVector}
    (h : mme.genAuthInfoAnswer alg ptr imsi eksi env = some (mme', vector))
    : mme'.HasUlNasCount ptr ulNasCount := by
  have ⟨ueCtx, hctx, hcount⟩ := hcount
  refine ⟨_, lookup_genAuthInfoAnswer h hctx, ?_⟩
  cases vector <;> exact hcount

theorem HasUlNasCount.quiet (h : mme.Quiet mme')
    : mme'.HasUlNasCount ptr ulNasCount := by
  have ⟨ueCtx, hctx, hcount⟩ := hcount
  have ⟨ueCtx', hctx', hquiet⟩ := h.lookup hctx
  refine ⟨ueCtx', hctx', ?_⟩
  rw [hquiet.securityCtxt]
  exact hcount

theorem HasUlNasCount.handleIdentityResponse {imsi : Nat}
    (h : mme.handleIdentityResponse alg ptr enbSri imsi env = some mme')
    : mme'.HasUlNasCount ptr ulNasCount := by
  have ⟨ueCtx, hctx, hcount⟩ := hcount
  unfold Mme.handleIdentityResponse at h
  have ⟨mme₁, hupdate, h⟩ := bind_eq_some_iff.mp h
  have ⟨⟨mme₂, vector⟩, hgen, h⟩ := bind_eq_some_iff.mp h
  have hcount₁ : mme₁.HasUlNasCount ptr ulNasCount := ⟨_, lookup_updateUeCtx hupdate hctx, hcount⟩
  have hcount₂ := hcount₁.genAuthInfoAnswer hgen
  cases vector with
  | none =>
    cases h
    exact hcount₂
  | some vector =>
    have ⟨mme₃, hadd, h⟩ := bind_eq_some_iff.mp h
    have hcount₃ : mme₃.HasUlNasCount ptr ulNasCount := by
      unfold HasUlNasCount
      rw [ueCtxs_addUeCtxToImsiMap hadd]
      exact hcount₂
    exact hcount₃.quiet (serves_packAuthenticationRequest.quiet h)

theorem HasUlNasCount.handleAuthenticationFailure {emmCause : Nat} {authFailParam : Option (Bytes 14)}
    (h : mme.handleAuthenticationFailure alg ptr enbSri emmCause authFailParam env = some mme')
    : mme'.HasUlNasCount ptr ulNasCount := by
  unfold Mme.handleAuthenticationFailure at h
  have ⟨ueCtx, _, h⟩ := bind_eq_some_iff.mp h
  split at h
  . dsimp only at h
    split at h
    . have ⟨⟨mme₁, vector⟩, hgen, h⟩ := bind_eq_some_iff.mp h
      have hcount₁ : mme₁.HasUlNasCount ptr ulNasCount := by
        apply HasUlNasCount.genAuthInfoAnswer _ hgen
        exact hcount
      cases vector with
      | none =>
        cases h
        exact hcount₁
      | some vector => exact hcount₁.quiet (serves_packAuthenticationRequest.quiet h)
    . cases h
      exact hcount
  . cases h
    exact hcount

end

def Leaves (result : Option Mme) (ptr : Nat) (ueCtx : UeCtx) : Prop :=
  ∃ mme' ueCtx', result = some mme' ∧ mme'.ueCtxs.lookup ptr = some ueCtx'
    ∧ ueCtx'.securityState = ueCtx.securityState

theorem leaves_self (hctx : mme.ueCtxs.lookup ptr = some ueCtx) : Leaves (some mme) ptr ueCtx :=
  ⟨mme, ueCtx, rfl, hctx, rfl⟩

theorem not_leaves_of_hasUlNasCount {result : Option Mme}
    (h : ∀ mme', result = some mme' → mme'.HasUlNasCount ptr ueCtx.emmCtx.securityCtxt.ulNasCount)
    : ¬Leaves (result.bind fun mme => mme.updateUeCtx ptr UeCtx.incrementUlNasCount) ptr ueCtx := by
  rintro ⟨mme', ueCtx', hresult, hctx', hstate⟩
  have ⟨mme₁, hmme₁, hupdate⟩ := bind_eq_some_iff.mp hresult
  have ⟨ueCtx₁, hctx₁, hcount⟩ := h mme₁ hmme₁
  cases hctx'.symm.trans (lookup_updateUeCtx hupdate hctx₁)
  apply UeCtx.securityState_ne _ hstate
  simp [UeCtx.incrementUlNasCount, hcount]

section InvalidMac

variable {nasMsg : NasPdu UlNasMsg} (hctx : mme.ueCtxs.lookup ptr = some ueCtx)

include hctx

theorem handleNasAuthenticationResponse_eq (res : Bytes 8)
    : ∃ mme', mme.handleNasAuthenticationResponse alg ptr enbSri res = some mme'
        ∧ mme'.ueCtxs.lookup ptr
          = some (if ueCtx.emmCtx.securityCtxt.resValid res then ueCtx.acceptAuthentication alg else ueCtx) := by
  unfold handleNasAuthenticationResponse
  simp only [hctx, bind_eq_bind, bind_some]
  split
  . simp only [updateUeCtx, hctx, bind_eq_bind, bind_some, pure_def]
    exact ⟨_, rfl, lookup_insert _⟩
  . exact ⟨_, rfl, hctx⟩

theorem leaves_handleUncheckedNas (hhdr : nasMsg.secHdrType = .integrity) (hunchecked : nasMsg.uncheckedUl = true)
    : Leaves (mme.handleUncheckedNas alg ptr enbSri nasMsg env) ptr ueCtx
        ↔
      ∃ res, nasMsg.msg = .authenticationResponse res ∧ ueCtx.emmCtx.securityCtxt.resValid res = true
        ∧ ueCtx.Rederived alg := by
  have hcount : mme.HasUlNasCount ptr ueCtx.emmCtx.securityCtxt.ulNasCount := ⟨ueCtx, hctx, rfl⟩
  unfold handleUncheckedNas
  cases hmsg : nasMsg.msg with
  | identityResponse imsi =>
    simp only [reduceCtorEq, false_and, exists_const, iff_false]
    apply not_leaves_of_hasUlNasCount
    intro mme' h
    exact hcount.handleIdentityResponse h
  | authenticationFailure emmCause authFailParam =>
    simp only [reduceCtorEq, false_and, exists_const, iff_false]
    apply not_leaves_of_hasUlNasCount
    intro mme' h
    exact hcount.handleAuthenticationFailure h
  | authenticationResponse res =>
    have ⟨mme₁, hmme₁, hctx₁⟩ := @handleNasAuthenticationResponse_eq alg mme ptr enbSri ueCtx hctx res
    simp only [hmme₁, bind_eq_bind, bind_some, UlNasMsg.authenticationResponse.injEq,
      exists_eq_left']
    unfold Leaves updateUeCtx
    simp only [hctx₁, bind_eq_bind, bind_some, pure_def, Option.some.injEq,
      exists_and_left, exists_eq_left', lookup_insert]
    split
    . next hres => simp [hres, UeCtx.securityState_acceptAuthentication]
    . next hres =>
      simp only [hres, Bool.false_eq_true, false_and, iff_false]
      exact UeCtx.securityState_ne rfl
  | _ => simp [NasPdu.uncheckedUl, hhdr, hmsg] at hunchecked

theorem leaves_handleNewContextNas (hmac : ueCtx.resetNasCounts.emmCtx.securityCtxt.integrityCheck alg nasMsg = false)
    : Leaves (mme.handleNewContextNas alg ptr enbSri nasMsg env) ptr ueCtx
        ↔
      (nasMsg.msg = .securityModeComplete →
        ueCtx.emmCtx.securityCtxt.ulNasCount = 0 ∧ ueCtx.emmCtx.securityCtxt.dlNasCount = 0) := by
  unfold handleNewContextNas
  cases hmsg : nasMsg.msg with
  | securityModeComplete =>
    simp only [updateUeCtx, hctx, bind_eq_bind, bind_some, pure_def, lookup_insert, hmac,
      Bool.false_eq_true, if_false, forall_const, Leaves, Option.some.injEq, exists_and_left, exists_eq_left',
      UeCtx.securityState_resetNasCounts]
  | _ =>
    simp only [reduceCtorEq, false_imp_iff, iff_true]
    exact leaves_self hctx

theorem not_leaves_handleProtectedNas
    (hmac : ueCtx.incrementUlNasCount.emmCtx.securityCtxt.integrityCheck alg nasMsg = false)
    : ¬Leaves (mme.handleProtectedNas alg ptr enbSri nasMsg env) ptr ueCtx := by
  unfold handleProtectedNas
  simp only [updateUeCtx, hctx, bind_eq_bind, bind_some, pure_def, lookup_insert, hmac,
    Bool.false_eq_true, if_false, Leaves, Option.some.injEq, exists_and_left, exists_eq_left']
  exact UeCtx.securityState_ne rfl

theorem leaves_handleUplinkNasTransport {mmeUeS1apId : Nat}
    (hfind : mme.findUeCtxFromMmeUeS1apId mmeUeS1apId = some ptr) (hprotected : nasMsg.secHdrType.IsProtected)
    (hmac : (ueCtx.expecting nasMsg.secHdrType).emmCtx.securityCtxt.integrityCheck alg nasMsg = false)
    : Leaves (mme.handleUplinkNasTransport alg mmeUeS1apId enbSri nasMsg env) ptr ueCtx
        ↔
      MmeEvent.Harmless alg (.uplinkNasTransport mmeUeS1apId enbSri nasMsg) ueCtx := by
  unfold handleUplinkNasTransport
  simp only [hfind, hctx, bind_eq_bind, bind_some]
  split
  . next hguard =>
    -- a context without an IMSI has no keys yet, the message is dropped
    refine iff_of_true (leaves_self hctx) ?_
    unfold MmeEvent.Harmless
    rcases hprotected with hhdr | hhdr | hhdr | hhdr <;> cases hmsg : nasMsg.msg <;>
      simp_all [NasPdu.needsImsi]
  . next hguard =>
    split
    . next hunchecked =>
      have hhdr : nasMsg.secHdrType = .integrity := by
        rcases hprotected with hhdr | hhdr | hhdr | hhdr
        . exact hhdr
        all_goals simp [NasPdu.uncheckedUl, hhdr] at hunchecked
      rw [leaves_handleUncheckedNas hctx hhdr hunchecked]
      unfold MmeEvent.Harmless
      cases hmsg : nasMsg.msg <;>
        simp_all [NasPdu.uncheckedUl, NasPdu.needsImsi, SecHdrType.IsNewContext]
    . next hunchecked =>
      have himsi : ueCtx.emmCtx.imsi ≠ 0 := by
        intro himsi
        apply hguard
        refine ⟨?_, himsi⟩
        rcases hprotected with hhdr | hhdr | hhdr | hhdr <;> cases hmsg : nasMsg.msg <;>
          simp_all [NasPdu.needsImsi, NasPdu.uncheckedUl]
      by_cases hnew : nasMsg.secHdrType.IsNewContext
      . rw [UeCtx.expecting, if_pos hnew] at hmac
        have hbranch := @leaves_handleNewContextNas alg mme ptr enbSri env ueCtx nasMsg hctx hmac
        unfold MmeEvent.Harmless
        rcases hnew with hhdr | hhdr <;> simp only [hhdr, hbranch] <;> cases hmsg : nasMsg.msg <;>
          simp [himsi, SecHdrType.IsNewContext]
      . rw [UeCtx.expecting, if_neg hnew] at hmac
        have hbranch := @not_leaves_handleProtectedNas alg mme ptr enbSri env ueCtx nasMsg hctx hmac
        have hhdr : nasMsg.secHdrType = .integrity ∨ nasMsg.secHdrType = .integrityAndCiphered := by
          rcases hprotected with hhdr | hhdr | hhdr
          . exact .inl hhdr
          . exact .inr hhdr
          . exact absurd hhdr hnew
        unfold MmeEvent.Harmless
        rcases hhdr with hhdr | hhdr <;> simp only [hhdr, hbranch, false_iff] <;> cases hmsg : nasMsg.msg <;>
          simp_all [SecHdrType.IsNewContext, NasPdu.uncheckedUl]

variable {enbUeS1apId : Nat} {attachReq : AttachRequest}

theorem leaves_handleNasServiceRequest {mTmsi : Nat} {shortMac : List UInt8}
    (hfind : (mme.tmsiToImsi.lookup mTmsi).bind mme.findUeCtxFromImsi = some ptr)
    (hmac : ueCtx.incrementUlNasCount.emmCtx.securityCtxt.shortIntegrityCheck alg nasMsg shortMac = false)
    : Leaves (mme.handleNasServiceRequest alg mTmsi enbUeS1apId enbSri shortMac nasMsg env) ptr ueCtx
        ↔
      ueCtx.emmCtx.state ≠ .registered := by
  unfold handleNasServiceRequest
  simp only [hfind, hctx, bind_eq_bind, bind_some]
  split
  . next hstate =>
    refine iff_of_false ?_ (not_not_intro hstate)
    simp only [updateUeCtx, hctx, bind_eq_bind, bind_some, pure_def, hmac, Bool.false_eq_true,
      if_false, Leaves, Option.some.injEq, exists_and_left, exists_eq_left', lookup_insert]
    exact UeCtx.securityState_ne rfl
  . next hstate => exact iff_of_true ⟨_, ueCtx, rfl, hctx, rfl⟩ hstate

omit hctx in
theorem state_restartAttach (h : mme.restartAttach alg ptr enbUeS1apId enbSri attachReq env = some mme')
    : ∃ ueCtx', mme'.ueCtxs.lookup ptr = some ueCtx' ∧ ueCtx'.emmCtx.state = .deregistered := by
  unfold restartAttach at h
  have ⟨ueCtx, _, h⟩ := bind_eq_some_iff.mp h
  have ⟨mme₁, _, h⟩ := bind_eq_some_iff.mp h
  have ⟨mme₂, _, h⟩ := bind_eq_some_iff.mp h
  have ⟨mme₃, hupdate, h⟩ := bind_eq_some_iff.mp h
  have ⟨mme₄, hadd, h⟩ := bind_eq_some_iff.mp h
  have ⟨⟨mme₅, vector⟩, hgen, h⟩ := bind_eq_some_iff.mp h
  have ⟨ueCtx₂, hctx₂, _⟩ := updateUeCtx_eq_some.mp hupdate
  have hctx₃ := lookup_updateUeCtx hupdate hctx₂
  rw [← ueCtxs_addUeCtxToMmeUeS1apIdMap hadd] at hctx₃
  have hctx₅ := lookup_genAuthInfoAnswer hgen ((ueCtxs_addUeToEnbSet ..).symm ▸ hctx₃)
  cases vector with
  | none =>
    cases h
    exact ⟨_, hctx₅, rfl⟩
  | some vector =>
    have ⟨ueCtx', hctx', hquiet⟩ := (serves_packAuthenticationRequest.quiet h).lookup hctx₅
    exact ⟨ueCtx', hctx', hquiet.state⟩

theorem not_leaves_handleNasGutiAttachRequest {mTmsi : Nat}
    (hfind : (mme.tmsiToImsi.lookup mTmsi).bind mme.findUeCtxFromImsi = some ptr)
    (hstate : ueCtx.emmCtx.state = .registered)
    : ¬Leaves (mme.handleNasGutiAttachRequest alg enbUeS1apId enbSri mTmsi attachReq nasMsg env) ptr ueCtx := by
  have ⟨imsi, himsi, hptr⟩ := bind_eq_some_iff.mp hfind
  rintro ⟨mme', ueCtx', h, hctx', heq⟩
  unfold handleNasGutiAttachRequest at h
  simp only [himsi, hptr, updateUeCtx, hctx, bind_eq_bind, bind_some, pure_def,
    lookup_insert] at h
  rw [if_neg] at h
  . have ⟨ueCtx'', hctx'', hstate''⟩ := state_restartAttach h
    cases hctx'.symm.trans hctx''
    have hsame : ueCtx'.emmCtx.state = ueCtx.emmCtx.state := congrArg UeSecurityState.state heq
    rw [hstate'', hstate] at hsame
    cases hsame
  . rintro ⟨-, hderegistered⟩
    have hstate' : ueCtx.emmCtx.state = .deregistered := hderegistered
    rw [hstate] at hstate'
    cases hstate'

end InvalidMac

theorem security_state_unchanged_iff (alg : NasAlgorithms) (mme : Mme) (event : MmeEvent) (env : MmeEnv) {ptr : Nat}
    {ueCtx : UeCtx} (hctx : mme.ueCtxs.lookup ptr = some ueCtx) (hmac : event.InvalidMac alg mme ptr ueCtx)
    : Leaves (mme.handle alg event env) ptr ueCtx ↔ event.Harmless alg ueCtx := by
  cases event with
  | uplinkNasTransport mmeUeS1apId enbSri nasMsg =>
    have ⟨hfind, hprotected, hinvalid⟩ := hmac
    exact leaves_handleUplinkNasTransport hctx hfind hprotected hinvalid
  | initialUeMessage enbUeS1apId enbSri sTmsi nasMsg =>
    unfold handle handleInitialUeMessage MmeEvent.Harmless
    unfold MmeEvent.InvalidMac at hmac
    dsimp only at hmac ⊢
    cases hmsg : nasMsg.msg with
    | serviceRequest shortMac =>
      rw [hmsg] at hmac
      have ⟨hfind, hinvalid⟩ := hmac
      cases sTmsi with
      | none => cases hfind
      | some mTmsi => exact leaves_handleNasServiceRequest hctx hfind hinvalid
    | attachRequest attachReq =>
      rw [hmsg] at hmac
      have ⟨mTmsi, hid, _, hfind, hstate, _⟩ := hmac
      simp only [handleNasAttachRequest, hid, iff_false]
      exact not_leaves_handleNasGutiAttachRequest hctx hfind hstate
    | _ =>
      rw [hmsg] at hmac
      exact absurd hmac id
  | _ => exact absurd hmac id

def invalidMacFor (secHdrType : SecHdrType) : MmeEvent :=
  .uplinkNasTransport 1 1 { secHdrType, mac := ⟨[1, 1, 1, 1], rfl⟩, bytes := [], msg := .trackingAreaUpdateRequest }

theorem exec_attachOne
    : ∃ mme ueCtx,
        execOne [(attachOne, .null)] = some mme
          ∧ mme.ueCtxs.lookup 0 = some ueCtx
          ∧ mme.findUeCtxFromMmeUeS1apId 1 = some 0
          ∧ ueCtx.emmCtx.imsi = 1 :=
  ⟨_, _, rfl, rfl, rfl, rfl⟩

theorem not_security_state_unchanged_attachOne
    : ∃ mme ueCtx,
        execOne [(attachOne, .null)] = some mme
          ∧ mme.ueCtxs.lookup 0 = some ueCtx
          ∧ (invalidMacFor .integrity).InvalidMac NasAlgorithms.null mme 0 ueCtx
          ∧ ¬Leaves (mme.handle NasAlgorithms.null (invalidMacFor .integrity) .null) 0 ueCtx := by
  have ⟨mme, ueCtx, hexec, hctx, hfind, himsi⟩ := exec_attachOne
  refine ⟨mme, ueCtx, hexec, hctx, ⟨hfind, .inl rfl, rfl⟩, ?_⟩
  apply (leaves_handleUplinkNasTransport hctx hfind (.inl rfl) rfl).not.mpr
  rintro (hzero | hhdr | hhdr)
  . rw [himsi] at hzero
    cases hzero
  . cases hhdr
  . cases hhdr

theorem security_state_unchanged_iff_attachOne
    : ∃ mme ueCtx,
        execOne [(attachOne, .null)] = some mme
          ∧ mme.ueCtxs.lookup 0 = some ueCtx
          ∧ Leaves (mme.handle NasAlgorithms.null (invalidMacFor .integrityWithNewEpsSecurityContext) .null) 0 ueCtx := by
  have ⟨mme, ueCtx, hexec, hctx, hfind, _⟩ := exec_attachOne
  refine ⟨mme, ueCtx, hexec, hctx, ?_⟩
  apply (security_state_unchanged_iff NasAlgorithms.null mme _ .null hctx ?_).mpr
  . exact .inr (.inl rfl)
  . exact ⟨hfind, .inr (.inr (.inl rfl)), rfl⟩

end Mme

end SrsLte
