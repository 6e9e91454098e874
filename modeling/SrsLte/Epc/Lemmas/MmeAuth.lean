import SrsLte.Epc.Lemmas.Mme

/-!
This module contains the verification that a registered UE has been authenticated. The contexts remember
which vector they hold, which RES was accepted and under which key a MAC was right since then.
-/

namespace SrsLte

open Option (bind_eq_some_iff)

/--
What holds of a context as long as its IMSI is assigned only once. `known` are the subscribers of the HSS.
-/
structure UeCtx.Authentic (known : Set Nat) (ueCtx : UeCtx) : Prop where
  accepted : ueCtx.history.accepted
    = if ueCtx.history.keysSet then some (ueCtx.emmCtx.imsi, ueCtx.emmCtx.securityCtxt.kNasInt) else none
  verified : ueCtx.emmCtx.state = .registered →
    ∃ kNasInt, ueCtx.history.verified = some (ueCtx.emmCtx.imsi, kNasInt)
  vectorOf : ueCtx.emmCtx.imsi ≠ 0 → ueCtx.emmCtx.imsi ∈ known → ueCtx.history.vectorOf = some ueCtx.emmCtx.imsi
  unknown : ueCtx.emmCtx.imsi = 0 ∨ ueCtx.emmCtx.imsi ∉ known →
    ueCtx.history.keysSet = false ∧ ueCtx.emmCtx.state ≠ .registered

structure UeCtx.Tame (ueCtx ueCtx' : UeCtx) : Prop where
  imsi : ueCtx'.emmCtx.imsi = ueCtx.emmCtx.imsi
  kNasInt : ueCtx'.emmCtx.securityCtxt.kNasInt = ueCtx.emmCtx.securityCtxt.kNasInt
  state : ueCtx'.emmCtx.state = ueCtx.emmCtx.state ∨ ueCtx'.emmCtx.state = .deregistered
  vectorOf : ueCtx'.history.vectorOf = ueCtx.history.vectorOf
    ∨ ueCtx'.history.vectorOf = some ueCtx.emmCtx.imsi
  accepted : ueCtx'.history.accepted = ueCtx.history.accepted
  verified : ueCtx'.history.verified = ueCtx.history.verified
  keysSet : ueCtx'.history.keysSet = ueCtx.history.keysSet

namespace UeCtx

theorem Quiet.tame {ueCtx ueCtx' : UeCtx} (h : ueCtx.Quiet ueCtx') : ueCtx.Tame ueCtx' where
  imsi := h.imsi
  kNasInt := by rw [h.securityCtxt]
  state := .inl h.state
  vectorOf := .inl (by rw [h.history])
  accepted := by rw [h.history]
  verified := by rw [h.history]
  keysSet := by rw [h.history]

theorem Tame.refl (ueCtx : UeCtx) : ueCtx.Tame ueCtx :=
  ⟨rfl, rfl, .inl rfl, .inl rfl, rfl, rfl, rfl⟩

theorem Tame.trans {ueCtx₁ ueCtx₂ ueCtx₃ : UeCtx} (h₁ : ueCtx₁.Tame ueCtx₂) (h₂ : ueCtx₂.Tame ueCtx₃)
    : ueCtx₁.Tame ueCtx₃ where
  imsi := h₂.imsi.trans h₁.imsi
  kNasInt := h₂.kNasInt.trans h₁.kNasInt
  state := by
    cases h₂.state with
    | inl hsame => exact h₁.state.imp hsame.trans hsame.trans
    | inr hderegistered => exact .inr hderegistered
  vectorOf := by
    cases h₂.vectorOf with
    | inl hsame => exact h₁.vectorOf.imp hsame.trans hsame.trans
    | inr hvector =>
      rw [h₁.imsi] at hvector
      exact .inr hvector
  accepted := h₂.accepted.trans h₁.accepted
  verified := h₂.verified.trans h₁.verified
  keysSet := h₂.keysSet.trans h₁.keysSet

theorem Tame.setVector (vector : AuthVector) (eksi : Nat → Nat) (ueCtx : UeCtx)
    : ueCtx.Tame (ueCtx.setVector ueCtx.emmCtx.imsi vector eksi) :=
  ⟨rfl, rfl, .inl rfl, .inr rfl, rfl, rfl, rfl⟩

@[simp]
theorem emmCtx_verify (ueCtx : UeCtx) : ueCtx.verify.emmCtx = ueCtx.emmCtx := by
  unfold verify
  split
  . rfl
  . split <;> rfl

@[simp]
theorem keysSet_verify (ueCtx : UeCtx) : ueCtx.verify.history.keysSet = ueCtx.history.keysSet := by
  unfold verify
  split
  . rfl
  . split <;> rfl

namespace Authentic

variable {known : Set Nat} {ueCtx ueCtx' : UeCtx}

theorem tame (h : ueCtx.Authentic known) (htame : ueCtx.Tame ueCtx') : ueCtx'.Authentic known where
  accepted := by rw [htame.accepted, htame.keysSet, htame.imsi, htame.kNasInt, h.accepted]
  verified := by
    intro hstate
    rw [htame.verified, htame.imsi]
    cases htame.state with
    | inl hsame => exact h.verified (hsame.symm.trans hstate)
    | inr hderegistered => cases hderegistered.symm.trans hstate
  vectorOf := by
    rw [htame.imsi]
    intro hzero hknown
    cases htame.vectorOf with
    | inl hsame => exact hsame.trans (h.vectorOf hzero hknown)
    | inr hvector => exact hvector
  unknown := by
    rw [htame.imsi, htame.keysSet]
    intro hunknown
    refine ⟨(h.unknown hunknown).1, ?_⟩
    cases htame.state with
    | inl hsame => exact hsame ▸ (h.unknown hunknown).2
    | inr hderegistered =>
      rw [hderegistered]
      nofun

theorem attach_zero (stack : UeCtx) (mmeUeS1apId enbUeS1apId enbSri : Nat) (attachReq : AttachRequest)
    : (stack.attach 0 mmeUeS1apId enbUeS1apId enbSri attachReq).Authentic known where
  accepted := rfl
  verified := nofun
  vectorOf := fun hzero => absurd rfl hzero
  unknown := fun _ => ⟨rfl, nofun⟩

theorem attach_setVector (stack : UeCtx) (imsi mmeUeS1apId enbUeS1apId enbSri : Nat) (attachReq : AttachRequest)
    (vector : AuthVector) (eksi : Nat → Nat)
    : ((stack.attach imsi mmeUeS1apId enbUeS1apId enbSri attachReq).setVector imsi vector eksi).Authentic known where
  accepted := rfl
  verified := nofun
  vectorOf := fun _ _ => rfl
  unknown := fun _ => ⟨rfl, nofun⟩

theorem renamed (h : ueCtx.Authentic known) (hzero : ueCtx.emmCtx.imsi = 0) (ueCtx' : UeCtx)
    (hkeys : ueCtx'.history.keysSet = ueCtx.history.keysSet)
    (haccepted : ueCtx'.history.accepted = none)
    (hstate : ueCtx'.emmCtx.state = ueCtx.emmCtx.state)
    (hvector : ueCtx'.emmCtx.imsi ∈ known → ueCtx'.history.vectorOf = some ueCtx'.emmCtx.imsi)
    : ueCtx'.Authentic known := by
  have hunknown := h.unknown (.inl hzero)
  refine ⟨?_, fun hregistered => absurd (hstate ▸ hregistered) hunknown.2, fun _ => hvector, fun _ => ?_⟩
  . rw [haccepted, hkeys, hunknown.1]
    rfl
  . rw [hkeys, hstate]
    exact hunknown

theorem acceptAuthentication (alg : NasAlgorithms) (h : ueCtx.Authentic known) (hzero : ueCtx.emmCtx.imsi ≠ 0)
    (hknown : ueCtx.emmCtx.imsi ∈ known)
    : (ueCtx.acceptAuthentication alg).Authentic known where
  accepted := by
    simp [UeCtx.acceptAuthentication, UeCtx.generateKeys, UeCtx.generateKEnb, h.vectorOf hzero hknown]
  verified := h.verified
  vectorOf := h.vectorOf
  unknown := by
    rintro (himsi | himsi)
    . exact absurd himsi hzero
    . exact absurd hknown himsi

theorem register (h : ueCtx.Authentic known) (hkeys : ueCtx.history.keysSet = true)
    (hverified : ∃ kNasInt, ueCtx.history.verified = some (ueCtx.emmCtx.imsi, kNasInt))
    : (ueCtx.setEmmState .registered).Authentic known where
  accepted := h.accepted
  verified := fun _ => hverified
  vectorOf := h.vectorOf
  unknown := by
    intro hunknown
    cases hkeys.symm.trans (h.unknown hunknown).1

theorem history_verify (h : ueCtx.Authentic known)
    : ueCtx.verify.history.verified
        =
      if ueCtx.history.keysSet then
        some (ueCtx.emmCtx.imsi, ueCtx.emmCtx.securityCtxt.kNasInt)
      else
        ueCtx.history.verified := by
  unfold UeCtx.verify
  rw [h.accepted]
  cases ueCtx.history.keysSet <;> simp

theorem verify (h : ueCtx.Authentic known) : ueCtx.verify.Authentic known := by
  unfold UeCtx.verify
  rw [h.accepted]
  cases hkeys : ueCtx.history.keysSet with
  | false => simpa [hkeys] using h
  | true =>
    simp only [if_true]
    exact ⟨h.accepted, fun _ => ⟨_, rfl⟩, h.vectorOf, h.unknown⟩

end Authentic

end UeCtx

namespace Mme

def subscribers (mme : Mme) : Set Nat :=
  { imsi | imsi ∈ mme.hss.imsiToUeCtx }

structure Tame (mme mme' : Mme) : Prop where
  ueCtxs : ∀ ptr ueCtx', mme'.ueCtxs.lookup ptr = some ueCtx' →
    ∃ ueCtx, mme.ueCtxs.lookup ptr = some ueCtx ∧ ueCtx.Tame ueCtx'
  subscribers : mme'.subscribers = mme.subscribers

namespace Tame

variable {mme mme' mme₁ mme₂ mme₃ : Mme}

theorem of_eq (hctxs : mme'.ueCtxs = mme.ueCtxs) (hhss : mme'.hss = mme.hss) : mme.Tame mme' where
  ueCtxs := by
    intro ptr ueCtx' hctx'
    rw [hctxs] at hctx'
    exact ⟨ueCtx', hctx', .refl ueCtx'⟩
  subscribers := by rw [Mme.subscribers, hhss, Mme.subscribers]

theorem refl (mme : Mme) : mme.Tame mme :=
  of_eq rfl rfl

theorem trans (h₁ : mme₁.Tame mme₂) (h₂ : mme₂.Tame mme₃) : mme₁.Tame mme₃ where
  ueCtxs := by
    intro ptr ueCtx₃ hctx₃
    have ⟨ueCtx₂, hctx₂, htame₂⟩ := h₂.ueCtxs ptr ueCtx₃ hctx₃
    have ⟨ueCtx₁, hctx₁, htame₁⟩ := h₁.ueCtxs ptr ueCtx₂ hctx₂
    exact ⟨ueCtx₁, hctx₁, htame₁.trans htame₂⟩
  subscribers := h₂.subscribers.trans h₁.subscribers

theorem of_quiet (h : mme.Quiet mme') : mme.Tame mme' where
  ueCtxs := by
    intro ptr ueCtx' hctx'
    have ⟨ueCtx, hctx, hquiet⟩ := h.lookup' hctx'
    exact ⟨ueCtx, hctx, hquiet.tame⟩
  subscribers := by rw [Mme.subscribers, h.hss, Mme.subscribers]

variable {result : Option Mme}

def All (mme : Mme) (result : Option Mme) : Prop :=
  ∀ ⦃mme'⦄, result = some mme' → mme.Tame mme'

namespace All

theorem done (h : mme.Tame mme') : All mme (some mme') := by
  rintro _ ⟨⟩
  exact h

theorem self : All mme (some mme) :=
  done (refl mme)

theorem after (h : mme.Tame mme₁) (h₁ : All mme₁ result) : All mme result :=
  fun _ hresult => h.trans (h₁ hresult)

theorem fetch {α : Type} {x : Option α} {f : α → Option Mme} (h : ∀ a, x = some a → All mme (f a))
    : All mme (x >>= f) := by
  intro mme' hresult
  have ⟨a, ha, hresult⟩ := bind_eq_some_iff.mp hresult
  exact h a ha hresult

theorem andThen {f : Mme → Option Mme} (h : All mme result) (hf : ∀ mme₁, All mme₁ (f mme₁))
    : All mme (result >>= f) :=
  fetch fun mme₁ hmme₁ => after (h hmme₁) (hf mme₁)

end All

open All

variable {mmeUeS1apId imsi mTmsi : Nat} {attachReq : AttachRequest} {f : UeCtx → UeCtx} {nasMsg : NasPdu UlNasMsg}

theorem of_updateUeCtx (hf : ∀ ueCtx, mme.ueCtxs.lookup ptr = some ueCtx → ueCtx.Tame (f ueCtx))
    : All mme (mme.updateUeCtx ptr f) := by
  intro mme' h
  obtain ⟨ueCtx, hctx, rfl⟩ := updateUeCtx_eq_some.mp h
  refine ⟨?_, rfl⟩
  intro ptr' ueCtx' hctx'
  rw [Map.lookup_insert_ite] at hctx'
  split at hctx'
  . next heq =>
    cases hctx'
    rw [heq]
    exact ⟨ueCtx, hctx, hf ueCtx hctx⟩
  . exact ⟨ueCtx', hctx', .refl ueCtx'⟩

theorem of_update (hf : ∀ ueCtx : UeCtx, ueCtx.Tame (f ueCtx)) : All mme (mme.updateUeCtx ptr f) :=
  of_updateUeCtx fun ueCtx _ => hf ueCtx

theorem of_releaseUeEcmCtx : All mme (mme.releaseUeEcmCtx mmeUeS1apId) := by
  unfold releaseUeEcmCtx
  split
  . exact self
  . apply fetch
    intro ueCtx _
    split
    . split
      . exact self
      . refine after ?_ (of_update fun _ => ⟨rfl, rfl, .inl rfl, .inl rfl, rfl, rfl, rfl⟩)
        exact of_eq rfl rfl
    . exact self

theorem of_deleteUeCtx : All mme (mme.deleteUeCtx imsi) := by
  unfold deleteUeCtx
  split
  . exact self
  . apply fetch
    intro ueCtx _
    apply andThen
    . split
      . exact of_releaseUeEcmCtx
      . exact self
    . intro mme₁
      refine done ⟨?_, rfl⟩
      intro ptr' ueCtx' hctx'
      rw [Map.lookup_erase_ite] at hctx'
      split at hctx'
      . cases hctx'
      . exact ⟨ueCtx', hctx', .refl ueCtx'⟩

theorem of_releaseUeInEnb : All mme (releaseUeInEnb enbSri mme mmeUeS1apId) := by
  unfold releaseUeInEnb
  apply fetch
  intro ptr _
  apply fetch
  intro ueCtx _
  apply andThen
  . split
    . exact after (of_quiet (.gtpc mme _)) (of_update fun _ => ⟨rfl, rfl, .inr rfl, .inl rfl, rfl, rfl, rfl⟩)
    . exact self
  . intro mme₁
    refine andThen (of_update fun _ => ⟨rfl, rfl, .inl rfl, .inl rfl, rfl, rfl, rfl⟩) ?_
    intro mme₂
    exact fetch fun ueIds _ => done (of_eq rfl rfl)

theorem of_foldlM_releaseUeInEnb {ueIds : List Nat} : All mme (ueIds.foldlM (releaseUeInEnb enbSri) mme) := by
  induction ueIds generalizing mme with
  | nil => exact self
  | cons ueId ueIds ih => exact andThen of_releaseUeInEnb fun mme₁ => ih

theorem of_deleteEnbCtx : All mme (mme.deleteEnbCtx enbSri) := by
  unfold deleteEnbCtx
  apply fetch
  intro enbId _
  split
  . apply andThen
    . exact fetch fun ueIds _ => of_foldlM_releaseUeInEnb
    . exact fun mme₁ => done (of_eq rfl rfl)
  . exact self

variable {alg : NasAlgorithms} {env : MmeEnv} {ptr enbSri enbUeS1apId : Nat}

theorem of_hss_genAuthInfoAnswer (mme : Mme) (crypto : Crypto) (imsi : Nat) (rand : Bytes 16)
    : mme.Tame { mme with hss := (mme.hss.genAuthInfoAnswer crypto imsi rand).1 } where
  ueCtxs := (refl mme).ueCtxs
  subscribers := Set.ext fun _ => Hss.mem_genAuthInfoAnswer ..

theorem of_hss_resyncSqn (mme : Mme) (crypto : Crypto) (imsi : Nat) (auts : Bytes 14)
    : mme.Tame { mme with hss := (mme.hss.resyncSqn crypto imsi auts).1 } where
  ueCtxs := (refl mme).ueCtxs
  subscribers := Set.ext fun _ => Hss.mem_resyncSqn ..

theorem of_genAuthInfoAnswer {eksi : Nat → Nat} {vector : Option AuthVector}
    (himsi : ∀ ueCtx, mme.ueCtxs.lookup ptr = some ueCtx → ueCtx.emmCtx.imsi = imsi)
    (h : mme.genAuthInfoAnswer alg ptr imsi eksi env = some (mme', vector))
    : mme.Tame mme' := by
  have hhss := of_hss_genAuthInfoAnswer mme alg.crypto imsi env.rand
  unfold genAuthInfoAnswer at h
  dsimp only at h
  split at h
  . cases h
    exact hhss
  . next vector' _ =>
    have ⟨mme₁, hupdate, h⟩ := bind_eq_some_iff.mp h
    cases h
    refine hhss.trans (of_updateUeCtx ?_ hupdate)
    intro ueCtx hctx
    rw [← himsi ueCtx hctx]
    exact .setVector vector' eksi ueCtx

theorem of_packAuthenticationRequest {vector : AuthVector}
    : All mme (mme.packAuthenticationRequest alg ptr enbSri vector) :=
  fun _ h => of_quiet (serves_packAuthenticationRequest.quiet h)

theorem of_handleAuthenticationFailure {emmCause : Nat} {authFailParam : Option (Bytes 14)}
    : All mme (mme.handleAuthenticationFailure alg ptr enbSri emmCause authFailParam env) := by
  unfold handleAuthenticationFailure
  apply fetch
  intro ueCtx hctx
  split
  . next auts =>
    refine after (of_hss_resyncSqn mme alg.crypto ueCtx.emmCtx.imsi auts) ?_
    dsimp only
    split
    . apply fetch
      rintro ⟨mme₁, vector⟩ hgen
      refine after (of_genAuthInfoAnswer (fun ueCtx' hctx' => by cases hctx.symm.trans hctx'; rfl) hgen) ?_
      cases vector with
      | none => exact self
      | some vector => exact of_packAuthenticationRequest
    . exact self
  . exact self

theorem of_handleNasDetachRequest : All mme (mme.handleNasDetachRequest ptr) := by
  unfold handleNasDetachRequest
  apply fetch
  intro ueCtx _
  apply andThen
  . exact after (of_quiet (.gtpc mme _)) (of_update fun _ => ⟨rfl, rfl, .inr rfl, .inl rfl, rfl, rfl, rfl⟩)
  . intro mme₁
    split
    . exact done (of_quiet (.send _ _ _))
    . exact self

theorem of_detachPrevious : All mme (mme.detachPrevious imsi) := by
  unfold detachPrevious
  split
  . exact self
  . apply fetch
    intro oldCtx _
    refine after ?_ of_deleteUeCtx
    split <;> exact of_eq rfl rfl

theorem of_addUeCtxToMmeUeS1apIdMap : All mme (mme.addUeCtxToMmeUeS1apIdMap ptr) := by
  unfold addUeCtxToMmeUeS1apIdMap
  apply fetch
  intro ueCtx _
  split <;> exact done (of_eq rfl rfl)

theorem of_addUeCtxToImsiMap : All mme (mme.addUeCtxToImsiMap ptr) := by
  unfold addUeCtxToImsiMap
  apply fetch
  intro ueCtx _
  split
  . exact self
  . split <;> exact done (of_eq rfl rfl)

theorem of_addUeToEnbSet (mme : Mme) (enbSri mmeUeS1apId : Nat)
    : mme.Tame (mme.addUeToEnbSet enbSri mmeUeS1apId) := by
  unfold addUeToEnbSet
  split
  . exact refl mme
  . split <;> exact of_eq rfl rfl

theorem of_resumeAttach : All mme (mme.resumeAttach alg ptr enbUeS1apId enbSri attachReq env) := by
  unfold resumeAttach
  refine after ?_ (andThen (of_update fun _ => ⟨rfl, rfl, .inl rfl, .inl rfl, rfl, rfl, rfl⟩) ?_)
  . exact of_eq rfl rfl
  intro mme₁
  apply andThen of_addUeCtxToMmeUeS1apIdMap
  intro mme₂
  refine after ?_ (andThen (of_update fun _ => ⟨rfl, rfl, .inl rfl, .inl rfl, rfl, rfl, rfl⟩) ?_)
  . exact of_addUeToEnbSet ..
  exact fun mme₃ _ h => of_quiet (serves_establishSession.quiet h)

theorem of_restartAttach (h : mme.restartAttach alg ptr enbUeS1apId enbSri attachReq env = some mme')
    : mme.Tame mme' := by
  unfold restartAttach at h
  have ⟨ueCtx, hctx, h⟩ := bind_eq_some_iff.mp h
  have ⟨mme₁, hreset, h⟩ := bind_eq_some_iff.mp h
  have ⟨mme₂, hrelease, h⟩ := bind_eq_some_iff.mp h
  have ⟨mme₃, hattach, h⟩ := bind_eq_some_iff.mp h
  have ⟨mme₄, hadd, h⟩ := bind_eq_some_iff.mp h
  have ⟨⟨mme₅, vector⟩, hgen, h⟩ := bind_eq_some_iff.mp h
  have hreset : mme.Tame mme₁ := by
    refine trans ?_ (of_update (f := UeCtx.resetNasCounts)
      (fun _ => ⟨rfl, rfl, .inl rfl, .inl rfl, rfl, rfl, rfl⟩) hreset)
    split <;> split <;> exact of_eq rfl rfl
  have hrelease : mme₁.Tame mme₂ := by
    split at hrelease
    . refine trans ?_ (of_releaseUeEcmCtx hrelease)
      exact of_eq rfl rfl
    . cases hrelease
      exact of_eq rfl rfl
  have hattach : mme₂.Tame mme₃ := by
    refine trans ?_ (of_update (f := fun ueCtx =>
        (ueCtx.reattach mme₂.nextMmeUeS1apId enbUeS1apId enbSri attachReq).setEmmState .deregistered)
      (fun _ => ⟨rfl, rfl, .inr rfl, .inl rfl, rfl, rfl, rfl⟩) hattach)
    exact of_eq rfl rfl
  have htame := hreset.trans (hrelease.trans (hattach.trans ((of_addUeCtxToMmeUeS1apIdMap hadd).trans
    (of_addUeToEnbSet mme₄ enbSri mme₂.nextMmeUeS1apId))))
  have hvector := of_genAuthInfoAnswer (fun ueCtx' hctx' => ?_) hgen
  . cases vector with
    | none =>
      cases h
      exact htame.trans hvector
    | some vector => exact htame.trans (hvector.trans (of_quiet (serves_packAuthenticationRequest.quiet h)))
  . have ⟨ueCtx'', hctx'', htame'⟩ := htame.ueCtxs ptr ueCtx' hctx'
    cases hctx.symm.trans hctx''
    exact htame'.imsi

theorem of_handleNasGutiAttachRequest (himsi : mme.tmsiToImsi.lookup mTmsi = some imsi)
    : All mme (mme.handleNasGutiAttachRequest alg enbUeS1apId enbSri mTmsi attachReq nasMsg env) := by
  unfold handleNasGutiAttachRequest
  simp only [himsi]
  split
  . exact self
  . refine andThen (of_update fun _ => ⟨rfl, rfl, .inl rfl, .inl rfl, rfl, rfl, rfl⟩) ?_
    intro mme₁
    apply fetch
    intro ueCtx _
    split
    . exact of_resumeAttach
    . exact fun _ h => of_restartAttach h

theorem of_reconnectUe : All mme (mme.reconnectUe alg ptr enbUeS1apId enbSri env) := by
  unfold reconnectUe
  apply fetch
  intro ueCtx _
  apply andThen
  . split
    . refine after ?_ of_releaseUeEcmCtx
      exact of_eq rfl rfl
    . exact self
  . intro mme₁
    refine after ?_ (andThen (of_update fun _ => ⟨rfl, rfl, .inl rfl, .inl rfl, rfl, rfl, rfl⟩) ?_)
    . exact of_eq rfl rfl
    intro mme₂
    apply andThen of_addUeCtxToMmeUeS1apIdMap
    exact fun mme₃ _ h => of_quiet (serves_sendInitialContextSetupRequest.quiet h)

theorem of_handleNasServiceRequest {shortMac : List UInt8}
    : All mme (mme.handleNasServiceRequest alg mTmsi enbUeS1apId enbSri shortMac nasMsg env) := by
  unfold handleNasServiceRequest
  split
  . exact done (of_eq rfl rfl)
  . apply fetch
    intro ueCtx _
    split
    . refine andThen (of_update fun _ => ⟨rfl, rfl, .inl rfl, .inl rfl, rfl, rfl, rfl⟩) ?_
      intro mme₁
      split
      . exact of_reconnectUe
      . exact self
    . exact done (of_eq rfl rfl)

theorem of_handleInitialDetachRequest : All mme (mme.handleInitialDetachRequest mTmsi enbUeS1apId) := by
  unfold handleInitialDetachRequest
  split
  . exact self
  . apply fetch
    intro ptr _
    apply fetch
    intro ueCtx _
    refine after ?_ (andThen (of_update fun _ => ⟨rfl, rfl, .inr rfl, .inl rfl, rfl, rfl, rfl⟩) ?_)
    . exact of_eq rfl rfl
    exact fun mme₁ => fetch fun ueCtx₁ _ => done (of_quiet (.send _ _ _))

theorem of_handleInitialTrackingAreaUpdateRequest : All mme (mme.handleInitialTrackingAreaUpdateRequest mTmsi) := by
  unfold handleInitialTrackingAreaUpdateRequest
  split
  . exact self
  . exact fetch fun ptr _ => of_update fun _ => ⟨rfl, rfl, .inl rfl, .inl rfl, rfl, rfl, rfl⟩

theorem of_handleUeContextReleaseRequest : All mme (mme.handleUeContextReleaseRequest mmeUeS1apId) := by
  unfold handleUeContextReleaseRequest
  split
  . exact self
  . apply fetch
    intro ueCtx _
    apply andThen
    . exact fun _ h => of_quiet (serves_releaseErabs.quiet h)
    . intro mme₁
      refine after ?_ (of_update fun _ => ⟨rfl, rfl, .inl rfl, .inl rfl, rfl, rfl, rfl⟩)
      split <;> exact of_eq rfl rfl

theorem of_handleUeContextReleaseComplete : All mme (mme.handleUeContextReleaseComplete mmeUeS1apId) := by
  unfold handleUeContextReleaseComplete
  split
  . exact self
  . apply fetch
    intro ueCtx _
    apply andThen
    . exact fun _ h => of_quiet (serves_releaseErabs.quiet h)
    . exact fun mme₁ => of_releaseUeEcmCtx

theorem of_handleS1SetupRequest (mme : Mme) (enbSri enbId plmn : Nat)
    : mme.Tame (mme.handleS1SetupRequest enbSri enbId plmn) := by
  unfold handleS1SetupRequest
  split <;> exact of_eq rfl rfl

end Tame

def Authentic (mme : Mme) : Prop :=
  ∀ ptr ueCtx, mme.ueCtxs.lookup ptr = some ueCtx → ueCtx.Authentic mme.subscribers

namespace Authentic

variable {alg : NasAlgorithms} {env : MmeEnv} {mme mme' : Mme} {ptr enbSri enbUeS1apId : Nat}

theorem init (plmn nextMTmsi : Nat) (hss : Hss) (gtpc : Gtpc) : (Mme.init plmn nextMTmsi hss gtpc).Authentic :=
  nofun

theorem tame (h : mme.Authentic) (htame : mme.Tame mme') : mme'.Authentic := by
  intro ptr ueCtx' hctx'
  have ⟨ueCtx, hctx, hctxTame⟩ := htame.ueCtxs ptr ueCtx' hctx'
  rw [htame.subscribers]
  exact (h ptr ueCtx hctx).tame hctxTame

theorem insert (h : mme.Authentic) {ueCtx : UeCtx} (hctx : ueCtx.Authentic mme.subscribers)
    (hctxs : mme'.ueCtxs = mme.ueCtxs.insert ptr ueCtx) (hhss : mme'.subscribers = mme.subscribers)
    : mme'.Authentic := by
  intro ptr' ueCtx' hctx'
  rw [hctxs, Map.lookup_insert_ite] at hctx'
  rw [hhss]
  split at hctx'
  . cases hctx'
    exact hctx
  . exact h ptr' ueCtx' hctx'

theorem updateUeCtx (h : mme.Authentic) {f : UeCtx → UeCtx} (hupdate : mme.updateUeCtx ptr f = some mme')
    (hf : ∀ ueCtx, mme.ueCtxs.lookup ptr = some ueCtx → ueCtx.Authentic mme.subscribers →
      (f ueCtx).Authentic mme.subscribers)
    : mme'.Authentic := by
  obtain ⟨ueCtx, hctx, rfl⟩ := updateUeCtx_eq_some.mp hupdate
  exact h.insert (hf ueCtx hctx (h ptr ueCtx hctx)) rfl rfl

variable {imsi : Nat} {attachReq : AttachRequest} {nasMsg : NasPdu UlNasMsg}

section

variable (h : mme.Authentic)

include h

theorem handleNasImsiAttachRequest
    (hattach : mme.handleNasImsiAttachRequest alg enbUeS1apId enbSri imsi attachReq env = some mme')
    : mme'.Authentic := by
  unfold Mme.handleNasImsiAttachRequest at hattach
  have ⟨mme₁, hdetach, hattach⟩ := bind_eq_some_iff.mp hattach
  have h₁ := h.tame (.of_detachPrevious hdetach)
  have hhss := Tame.of_hss_genAuthInfoAnswer mme₁ alg.crypto imsi env.rand
  dsimp only [getNextMmeUeS1apId] at hattach
  split at hattach
  . cases hattach
    exact h₁.tame (hhss.trans (.of_eq rfl rfl))
  . have ⟨mme₂, himsi, hattach⟩ := bind_eq_some_iff.mp hattach
    have ⟨mme₃, hid, hattach⟩ := bind_eq_some_iff.mp hattach
    have h₂ : mme₂.Authentic := by
      refine tame (insert h₁ (.attach_setVector ..) rfl ?_) (.of_addUeCtxToImsiMap himsi)
      exact hhss.subscribers
    exact h₂.tame ((Tame.of_addUeCtxToMmeUeS1apIdMap hid).trans
      ((Tame.of_addUeToEnbSet ..).trans (.of_quiet (serves_packAuthenticationRequest.quiet hattach))))

theorem requestIdentity
    (hattach : mme.requestIdentity alg enbUeS1apId enbSri attachReq env = some mme')
    : mme'.Authentic := by
  unfold Mme.requestIdentity at hattach
  have ⟨mme₁, hid, hattach⟩ := bind_eq_some_iff.mp hattach
  cases hattach
  have h₁ : mme₁.Authentic := by
    refine tame ?_ (.of_addUeCtxToMmeUeS1apIdMap hid)
    exact insert h (.attach_zero ..) rfl rfl
  exact h₁.tame ((Tame.of_addUeToEnbSet ..).trans (.of_quiet (.send _ _ _)))

theorem handleNasAttachRequest
    (hattach : mme.handleNasAttachRequest alg enbUeS1apId enbSri attachReq nasMsg env = some mme')
    : mme'.Authentic := by
  unfold Mme.handleNasAttachRequest at hattach
  split at hattach
  . exact h.handleNasImsiAttachRequest hattach
  . next mTmsi _ =>
    cases himsi : mme.tmsiToImsi.lookup mTmsi with
    | none =>
      rw [handleNasGutiAttachRequest, himsi] at hattach
      exact h.requestIdentity hattach
    | some imsi => exact h.tame (.of_handleNasGutiAttachRequest himsi hattach)
  . cases hattach
    exact h

theorem handleInitialUeMessage {sTmsi : Option Nat}
    (hmsg : mme.handleInitialUeMessage alg enbUeS1apId enbSri sTmsi nasMsg env = some mme')
    : mme'.Authentic := by
  unfold Mme.handleInitialUeMessage at hmsg
  split at hmsg
  . exact h.handleNasAttachRequest hmsg
  . exact h.tame (.of_handleNasServiceRequest hmsg)
  . exact h.tame (.of_handleInitialDetachRequest hmsg)
  . exact h.tame (.of_handleInitialTrackingAreaUpdateRequest hmsg)
  . cases hmsg
    exact h

theorem setImsi {eksi : Nat → Nat} {vector : Option AuthVector} {mme₁ : Mme}
    (hzero : ∀ ueCtx, mme.ueCtxs.lookup ptr = some ueCtx → ueCtx.emmCtx.imsi = 0)
    (hupdate : mme.updateUeCtx ptr (UeCtx.setImsi imsi) = some mme₁)
    (hgen : mme₁.genAuthInfoAnswer alg ptr imsi eksi env = some (mme', vector))
    : mme'.Authentic := by
  obtain ⟨ueCtx, hctx, rfl⟩ := updateUeCtx_eq_some.mp hupdate
  have hauth := h ptr ueCtx hctx
  have hhss := (Tame.of_hss_genAuthInfoAnswer mme alg.crypto imsi env.rand).subscribers
  unfold genAuthInfoAnswer at hgen
  dsimp only at hgen
  split at hgen
  . next hnone =>
    cases hgen
    have hunknown : imsi ∉ mme.subscribers := by
      intro hknown
      have hsome := (Hss.genAuthInfoAnswer_isSome alg.crypto mme.hss imsi env.rand).mpr hknown
      rw [hnone] at hsome
      cases hsome
    exact h.insert (hauth.renamed (hzero ueCtx hctx) (ueCtx.setImsi imsi) rfl rfl rfl (absurd · hunknown)) rfl hhss
  . next vector' _ =>
    have ⟨mme₃, hvector, hgen⟩ := bind_eq_some_iff.mp hgen
    cases hgen
    obtain ⟨ueCtx', hctx', rfl⟩ := updateUeCtx_eq_some.mp hvector
    cases (Finmap.lookup_insert _).symm.trans hctx'
    refine @insert _ _ ptr h _ (hauth.renamed (hzero ueCtx hctx)
      ((ueCtx.setImsi imsi).setVector imsi vector' eksi) rfl rfl rfl fun _ => rfl) ?_ ?_
    . exact Finmap.insert_insert _
    . exact hhss

theorem handleIdentityResponse
    (hzero : ∀ ueCtx, mme.ueCtxs.lookup ptr = some ueCtx → ueCtx.emmCtx.imsi = 0)
    (hidentity : mme.handleIdentityResponse alg ptr enbSri imsi env = some mme')
    : mme'.Authentic := by
  unfold Mme.handleIdentityResponse at hidentity
  have ⟨mme₁, hupdate, hidentity⟩ := bind_eq_some_iff.mp hidentity
  have ⟨⟨mme₂, vector⟩, hgen, hidentity⟩ := bind_eq_some_iff.mp hidentity
  have h₂ := h.setImsi hzero hupdate hgen
  cases vector with
  | none =>
    cases hidentity
    exact h₂
  | some vector =>
    have ⟨mme₃, himsi, hidentity⟩ := bind_eq_some_iff.mp hidentity
    exact h₂.tame ((Tame.of_addUeCtxToImsiMap himsi).trans
      (.of_quiet (serves_packAuthenticationRequest.quiet hidentity)))

theorem handleNasAuthenticationResponse {res : Bytes 8}
    (hknown : ∀ ueCtx, mme.ueCtxs.lookup ptr = some ueCtx → ueCtx.emmCtx.securityCtxt.resValid res = true →
      ueCtx.emmCtx.imsi ≠ 0 ∧ ueCtx.emmCtx.imsi ∈ mme.subscribers)
    (hresponse : mme.handleNasAuthenticationResponse alg ptr enbSri res = some mme')
    : mme'.Authentic := by
  unfold Mme.handleNasAuthenticationResponse at hresponse
  have ⟨ueCtx, hctx, hresponse⟩ := bind_eq_some_iff.mp hresponse
  split at hresponse
  . next hres =>
    have ⟨mme₁, hupdate, hresponse⟩ := bind_eq_some_iff.mp hresponse
    cases hresponse
    have ⟨hzero, hsubscriber⟩ := hknown ueCtx hctx hres
    have h₁ : mme₁.Authentic := by
      apply h.updateUeCtx hupdate
      intro ueCtx' hctx' hauth
      cases hctx.symm.trans hctx'
      exact hauth.acceptAuthentication alg hzero hsubscriber
    exact h₁.tame (.of_quiet (.send _ _ _))
  . cases hresponse
    exact h.tame (.of_quiet (.send _ _ _))

theorem incrementUlNasCount (hupdate : mme.updateUeCtx ptr UeCtx.incrementUlNasCount = some mme')
    : mme'.Authentic :=
  h.tame (.of_update (f := UeCtx.incrementUlNasCount)
    (fun _ => ⟨rfl, rfl, .inl rfl, .inl rfl, rfl, rfl, rfl⟩) hupdate)

theorem verify (hupdate : mme.updateUeCtx ptr UeCtx.verify = some mme') : mme'.Authentic :=
  h.updateUeCtx hupdate fun _ _ hauth => hauth.verify

theorem handleNewContextNas (hmsg : mme.handleNewContextNas alg ptr enbSri nasMsg env = some mme')
    : mme'.Authentic := by
  unfold Mme.handleNewContextNas at hmsg
  split at hmsg
  . have ⟨mme₁, hreset, hmsg⟩ := bind_eq_some_iff.mp hmsg
    have ⟨ueCtx, _, hmsg⟩ := bind_eq_some_iff.mp hmsg
    have h₁ := h.tame (.of_update (f := UeCtx.resetNasCounts)
      (fun _ => ⟨rfl, rfl, .inl rfl, .inl rfl, rfl, rfl, rfl⟩) hreset)
    split at hmsg
    . have ⟨mme₂, hverify, hmsg⟩ := bind_eq_some_iff.mp hmsg
      exact (h₁.verify hverify).tame (.of_quiet (serves_establishSession.quiet hmsg))
    . cases hmsg
      exact h₁
  . cases hmsg
    exact h

theorem handleNasAttachComplete {ueCtx : UeCtx} (hctx : mme.ueCtxs.lookup ptr = some ueCtx)
    (hkeys : ueCtx.history.keysSet = true)
    (hverified : ∃ kNasInt, ueCtx.history.verified = some (ueCtx.emmCtx.imsi, kNasInt)) {epsBearerId : Nat}
    (hcomplete : mme.handleNasAttachComplete alg ptr enbSri epsBearerId env = some mme')
    : mme'.Authentic := by
  unfold Mme.handleNasAttachComplete at hcomplete
  have ⟨ueCtx', _, hcomplete⟩ := bind_eq_some_iff.mp hcomplete
  split at hcomplete
  . cases hcomplete
    exact h
  . have ⟨mme₁, hbearer, hcomplete⟩ := bind_eq_some_iff.mp hcomplete
    have hquiet : mme.Quiet mme₁ := by
      split at hbearer
      . have ⟨mme₂, hmodify, hinformation⟩ := bind_eq_some_iff.mp hbearer
        exact (serves_sendModifyBearerRequest.quiet hmodify).trans (serves_packEmmInformation.quiet hinformation)
      . cases hbearer
        exact .refl mme
    apply (h.tame (.of_quiet hquiet)).updateUeCtx hcomplete
    intro ueCtx₁ hctx₁ hauth
    have ⟨ueCtx₂, hctx₂, hctxQuiet⟩ := hquiet.lookup hctx
    cases hctx₁.symm.trans hctx₂
    apply hauth.register
    . rw [hctxQuiet.history]
      exact hkeys
    . rw [hctxQuiet.history, hctxQuiet.imsi]
      exact hverified

end

end Authentic

end Mme

/--
What a step may not be for a registered UE to have been authenticated: an identity response for a context
that has an IMSI, a RES that is compared with an XRES that was never written, and a MAC that is right
under a key that was never written.
-/
def MmeEvent.Genuine (alg : NasAlgorithms) (mme : Mme) (event : MmeEvent) : Prop :=
  match event with
  | .uplinkNasTransport mmeUeS1apId _ nasMsg =>
    ∀ ptr ueCtx, mme.findUeCtxFromMmeUeS1apId mmeUeS1apId = some ptr → mme.ueCtxs.lookup ptr = some ueCtx →
      match nasMsg.msg with
      | .identityResponse _ => nasMsg.uncheckedUl = true → ueCtx.emmCtx.imsi = 0
      | .authenticationResponse res =>
        nasMsg.uncheckedUl = true → ueCtx.emmCtx.securityCtxt.resValid res = true →
          ueCtx.emmCtx.imsi ≠ 0 ∧ ueCtx.emmCtx.imsi ∈ mme.hss.imsiToUeCtx
      | .attachComplete _ =>
        ueCtx.incrementUlNasCount.emmCtx.securityCtxt.integrityCheck alg nasMsg = true →
          ueCtx.history.keysSet = true
      | _ => True
  | _ => True

namespace Mme

namespace Authentic

variable {alg : NasAlgorithms} {env : MmeEnv} {mme mme' : Mme} {ptr enbSri : Nat} {nasMsg : NasPdu UlNasMsg}
variable {mmeUeS1apId : Nat}

section

variable (h : mme.Authentic)

include h

theorem handleUncheckedNas
    (hgenuine : MmeEvent.Genuine alg mme (.uplinkNasTransport mmeUeS1apId enbSri nasMsg))
    (hfind : mme.findUeCtxFromMmeUeS1apId mmeUeS1apId = some ptr) (hunchecked : nasMsg.uncheckedUl = true)
    (hmsg : mme.handleUncheckedNas alg ptr enbSri nasMsg env = some mme')
    : mme'.Authentic := by
  unfold MmeEvent.Genuine at hgenuine
  unfold Mme.handleUncheckedNas at hmsg
  split at hmsg
  . next imsi heq =>
    have ⟨mme₁, hidentity, hmsg⟩ := bind_eq_some_iff.mp hmsg
    have hzero : ∀ ueCtx, mme.ueCtxs.lookup ptr = some ueCtx → ueCtx.emmCtx.imsi = 0 := by
      intro ueCtx hctx
      have hgenuine := hgenuine ptr ueCtx hfind hctx
      rw [heq] at hgenuine
      exact hgenuine hunchecked
    exact (h.handleIdentityResponse hzero hidentity).incrementUlNasCount hmsg
  . next res heq =>
    have ⟨mme₁, hresponse, hmsg⟩ := bind_eq_some_iff.mp hmsg
    refine (h.handleNasAuthenticationResponse ?_ hresponse).incrementUlNasCount hmsg
    intro ueCtx hctx
    have hgenuine := hgenuine ptr ueCtx hfind hctx
    rw [heq] at hgenuine
    exact hgenuine hunchecked
  . have ⟨mme₁, hfailure, hmsg⟩ := bind_eq_some_iff.mp hmsg
    exact (h.tame (.of_handleAuthenticationFailure hfailure)).incrementUlNasCount hmsg
  . have ⟨mme₁, hdetach, hmsg⟩ := bind_eq_some_iff.mp hmsg
    exact (h.tame (.of_handleNasDetachRequest hdetach)).incrementUlNasCount hmsg
  . cases hmsg
    exact h

theorem handleProtectedNas
    (hgenuine : MmeEvent.Genuine alg mme (.uplinkNasTransport mmeUeS1apId enbSri nasMsg))
    (hfind : mme.findUeCtxFromMmeUeS1apId mmeUeS1apId = some ptr)
    (hmsg : mme.handleProtectedNas alg ptr enbSri nasMsg env = some mme')
    : mme'.Authentic := by
  unfold Mme.handleProtectedNas at hmsg
  have ⟨mme₁, hcount, hmsg⟩ := bind_eq_some_iff.mp hmsg
  have ⟨ueCtx₁, hctx₁, hmsg⟩ := bind_eq_some_iff.mp hmsg
  have ⟨ueCtx, hctx, _⟩ := updateUeCtx_eq_some.mp hcount
  cases hctx₁.symm.trans (lookup_updateUeCtx hcount hctx)
  have h₁ := h.incrementUlNasCount hcount
  split at hmsg
  . next hmac =>
    have ⟨mme₂, hverify, hmsg⟩ := bind_eq_some_iff.mp hmsg
    have h₂ := h₁.verify hverify
    split at hmsg
    . next epsBearerId heq =>
      have hgenuine := hgenuine ptr ueCtx hfind hctx
      rw [heq] at hgenuine
      have hkeys : ueCtx.history.keysSet = true := hgenuine hmac
      have hauth := h₁ ptr _ hctx₁
      refine handleNasAttachComplete h₂ (lookup_updateUeCtx hverify hctx₁) ?_ ?_ hmsg
      . rw [UeCtx.keysSet_verify]
        exact hkeys
      . rw [hauth.history_verify, UeCtx.emmCtx_verify]
        exact ⟨_, if_pos hkeys⟩
    . exact h₂.tame (.of_quiet (serves_sendCreateSessionRequest.quiet hmsg))
    . exact h₂.tame (.of_handleAuthenticationFailure hmsg)
    . exact h₂.tame (.of_handleNasDetachRequest hmsg)
    . cases hmsg
      exact h₂
  . cases hmsg
    exact h₁

theorem handleUplinkNasTransport
    (hgenuine : MmeEvent.Genuine alg mme (.uplinkNasTransport mmeUeS1apId enbSri nasMsg))
    (hmsg : mme.handleUplinkNasTransport alg mmeUeS1apId enbSri nasMsg env = some mme')
    : mme'.Authentic := by
  unfold Mme.handleUplinkNasTransport at hmsg
  split at hmsg
  . cases hmsg
    exact h
  . next ptr hfind =>
    have ⟨ueCtx, _, hmsg⟩ := bind_eq_some_iff.mp hmsg
    split at hmsg
    . cases hmsg
      exact h
    . split at hmsg
      . next hunchecked => exact h.handleUncheckedNas hgenuine hfind hunchecked hmsg
      . split at hmsg
        . exact h.handleNewContextNas hmsg
        . exact h.handleNewContextNas hmsg
        . exact h.handleProtectedNas hgenuine hfind hmsg
        . exact h.handleProtectedNas hgenuine hfind hmsg
        . cases hmsg
          exact h

theorem handle {event : MmeEvent} (hgenuine : event.Genuine alg mme)
    (hevent : mme.handle alg event env = some mme')
    : mme'.Authentic := by
  cases event with
  | s1SetupRequest enbSri enbId plmn =>
    cases hevent
    exact h.tame (.of_handleS1SetupRequest mme enbSri enbId plmn)
  | initialUeMessage enbUeS1apId enbSri sTmsi nasMsg => exact h.handleInitialUeMessage hevent
  | uplinkNasTransport mmeUeS1apId enbSri nasMsg => exact h.handleUplinkNasTransport hgenuine hevent
  | initialContextSetupResponse mmeUeS1apId erabs =>
    exact h.tame (.of_quiet (serves_handleInitialContextSetupResponse.quiet hevent))
  | ueContextReleaseRequest mmeUeS1apId => exact h.tame (.of_handleUeContextReleaseRequest hevent)
  | ueContextReleaseComplete mmeUeS1apId => exact h.tame (.of_handleUeContextReleaseComplete hevent)
  | sctpShutdown enbSri => exact h.tame (.of_deleteEnbCtx hevent)

end

end Authentic

/--
Every registered UE has been authenticated under the IMSI that it has: its RES was the XRES of that
subscriber, and a MAC was right afterwards under the key derived from this.
-/
def RegisteredAuthenticated (mme : Mme) : Prop :=
  ∀ ptr ueCtx, mme.ueCtxs.lookup ptr = some ueCtx → ueCtx.emmCtx.state = .registered →
    ∃ kNasInt, ueCtx.history.verified = some (ueCtx.emmCtx.imsi, kNasInt)

theorem registered_authenticated (alg : NasAlgorithms) (plmn nextMTmsi : Nat) (hss : Hss) (gtpc : Gtpc)
    (events : List (MmeEvent × MmeEnv))
    (hgenuine : Trace.Along (step alg) (fun mme event => ∀ mme' ∈ mme, event.1.Genuine alg mme')
      (some (Mme.init plmn nextMTmsi hss gtpc)) events)
    : Trace.Throughout (step alg) (fun mme => ∀ mme' ∈ mme, mme'.RegisteredAuthenticated)
        (some (Mme.init plmn nextMTmsi hss gtpc)) events := by
  have hinv : Trace.Throughout (step alg) (fun mme => ∀ mme' ∈ mme, mme'.Authentic)
      (some (Mme.init plmn nextMTmsi hss gtpc)) events := by
    apply Trace.throughout_of_along _ _ hgenuine
    . intro mme event h hgenuine mme' hmme'
      have ⟨mme₁, hmme₁, hevent⟩ := bind_eq_some_iff.mp hmme'
      exact (h mme₁ hmme₁).handle (hgenuine mme₁ hmme₁) hevent
    . intro mme hmme
      cases hmme
      exact .init plmn nextMTmsi hss gtpc
  apply hinv.mono
  intro mme h mme' hmme' ptr ueCtx hctx hstate
  exact (h mme' hmme' ptr ueCtx hctx).verified hstate

def registerOne : List (MmeEvent × MmeEnv) := [
  (attachOne, .null),
  (.uplinkNasTransport 1 1 (.plain [] (.authenticationResponse 0)), .null),
  (.uplinkNasTransport 1 1
    ⟨.integrityAndCipheredWithNewEpsSecurityContext, .zero, [], .securityModeComplete⟩, .null),
  (.uplinkNasTransport 1 1 ⟨.integrityAndCiphered, .zero, [], .attachComplete 5⟩, .null)
]

theorem exec_registerOne_challenged
    : ∃ mme ueCtx,
        execOne (registerOne.take 1) = some mme
          ∧ mme.ueCtxs.lookup 0 = some ueCtx
          ∧ mme.findUeCtxFromMmeUeS1apId 1 = some 0
          ∧ ueCtx.emmCtx.imsi = 1
          ∧ (mme.hss.imsiToUeCtx.lookup 1).isSome = true :=
  ⟨_, _, rfl, rfl, rfl, rfl, rfl⟩

theorem exec_registerOne_secured
    : ∃ mme ueCtx,
        execOne (registerOne.take 3) = some mme
          ∧ mme.ueCtxs.lookup 0 = some ueCtx
          ∧ mme.findUeCtxFromMmeUeS1apId 1 = some 0
          ∧ ueCtx.history.keysSet = true :=
  ⟨_, _, rfl, rfl, rfl, rfl⟩

theorem exec_registerOne
    : ∃ mme ueCtx,
        execOne registerOne = some mme
          ∧ mme.ueCtxs.lookup 0 = some ueCtx
          ∧ ueCtx.emmCtx.imsi = 1
          ∧ ueCtx.emmCtx.state = .registered :=
  ⟨_, _, rfl, rfl, rfl, rfl⟩

theorem registered_authenticated_registerOne
    : ∃ mme ueCtx kNasInt,
        execOne registerOne = some mme
          ∧ mme.ueCtxs.lookup 0 = some ueCtx
          ∧ ueCtx.emmCtx.state = .registered
          ∧ ueCtx.history.verified = some (1, kNasInt) := by
  have hgenuine : Trace.Along (step NasAlgorithms.null)
      (fun mme event => ∀ mme' ∈ mme, event.1.Genuine NasAlgorithms.null mme')
      (some (Mme.init 0 0 Hss.lastSqn (Gtpc.init 0 0))) registerOne := by
    refine ⟨fun _ _ => trivial, ?_, fun _ _ _ _ _ _ => trivial, ?_, trivial⟩
    . intro mme hmme ptr ueCtx hfind hctx
      have ⟨mme', ueCtx', hmme', hctx', hfind', himsi, hhss⟩ := exec_registerOne_challenged
      cases hmme'.symm.trans hmme
      cases hfind'.symm.trans hfind
      cases hctx'.symm.trans hctx
      intro _ _
      rw [himsi]
      exact ⟨by decide, Finmap.lookup_isSome.mp hhss⟩
    . intro mme hmme ptr ueCtx hfind hctx
      have ⟨mme', ueCtx', hmme', hctx', hfind', hkeys⟩ := exec_registerOne_secured
      cases hmme'.symm.trans hmme
      cases hfind'.symm.trans hfind
      cases hctx'.symm.trans hctx
      exact fun _ => hkeys
  have ⟨mme, ueCtx, hexec, hctx, himsi, hstate⟩ := exec_registerOne
  have hregistered := (registered_authenticated NasAlgorithms.null 0 0 Hss.lastSqn (Gtpc.init 0 0) registerOne
    hgenuine).exec
  have ⟨kNasInt, hverified⟩ := hregistered mme hexec 0 ueCtx hctx hstate
  rw [himsi] at hverified
  exact ⟨mme, ueCtx, kNasInt, hexec, hctx, hstate, hverified⟩

theorem not_registered_authenticated_registerOne
    : ∃ mme ueCtx,
        execOne (registerOne ++ [(.uplinkNasTransport 1 1 (.plain [] (.identityResponse 2)), .null)]) = some mme
          ∧ mme.ueCtxs.lookup 0 = some ueCtx
          ∧ ueCtx.emmCtx.imsi = 2
          ∧ ueCtx.emmCtx.state = .registered
          ∧ ueCtx.history.accepted = none
          ∧ ¬mme.RegisteredAuthenticated := by
  have hrun : ∃ mme ueCtx,
      execOne (registerOne ++ [(.uplinkNasTransport 1 1 (.plain [] (.identityResponse 2)), .null)]) = some mme
        ∧ mme.ueCtxs.lookup 0 = some ueCtx
        ∧ ueCtx.emmCtx.imsi = 2
        ∧ ueCtx.emmCtx.state = .registered
        ∧ ueCtx.history.accepted = none
        ∧ ueCtx.history.verified = none :=
    ⟨_, _, rfl, rfl, rfl, rfl, rfl, rfl⟩
  have ⟨mme, ueCtx, hexec, hctx, himsi, hstate, haccepted, hverified⟩ := hrun
  refine ⟨mme, ueCtx, hexec, hctx, himsi, hstate, haccepted, ?_⟩
  intro hregistered
  have ⟨kNasInt, hverified'⟩ := hregistered 0 ueCtx hctx hstate
  cases hverified.symm.trans hverified'

end Mme

end SrsLte
