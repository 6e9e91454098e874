import SrsLte.Epc.Lemmas.CtxMaps
import SrsLte.Epc.Lemmas.Mme

/-!
This module contains the verification that the maps of the MME lead to the contexts that they are for. The
handlers are related to the operations on `CtxMaps`.
-/

namespace SrsLte

open Option Finmap

def UeCtx.ids (ueCtx : UeCtx) : UeIds where
  imsi := ueCtx.emmCtx.imsi
  mmeUeS1apId := ueCtx.ecmCtx.mmeUeS1apId
  enbSri := ueCtx.ecmCtx.enbSri

theorem UeCtx.Quiet.ids {ueCtx ueCtx' : UeCtx} (h : ueCtx.Quiet ueCtx') : ueCtx'.ids = ueCtx.ids := by
  unfold UeCtx.ids
  rw [h.imsi, h.mmeUeS1apId, h.enbSri]

namespace Mme

def ctxMaps (mme : Mme) : CtxMaps :=
  { mme with ids := fun ptr => (mme.ueCtxs.lookup ptr).map UeCtx.ids }

def Stays (mme : Mme) (result : Option Mme) : Prop :=
  ∃ mme', result = some mme' ∧ mme'.ctxMaps = mme.ctxMaps

def Coheres (result : Option Mme) : Prop :=
  ∃ mme', result = some mme' ∧ mme'.ctxMaps.Coherent

variable {alg : NasAlgorithms} {env : MmeEnv} {mme mme' : Mme} {ptr enbSri enbUeS1apId : Nat} {ueCtx : UeCtx}

theorem ids_ctxMaps (hctx : mme.ueCtxs.lookup ptr = some ueCtx) : mme.ctxMaps.ids ptr = some ueCtx.ids := by
  dsimp only [ctxMaps]
  rw [hctx]
  rfl

theorem live_iff_ctxMaps : mme.Live ptr ↔ ∃ ids, mme.ctxMaps.ids ptr = some ids := by
  unfold Live ctxMaps
  dsimp only
  constructor
  . rintro ⟨ueCtx, hctx⟩
    exact ⟨ueCtx.ids, by rw [hctx]; rfl⟩
  . rintro ⟨ids, hids⟩
    have ⟨ueCtx, hctx, _⟩ := map_eq_some_iff.mp hids
    exact ⟨ueCtx, hctx⟩

theorem Live.of_ctxMaps (h : mme'.ctxMaps = mme.ctxMaps) (hlive : mme.Live ptr) : mme'.Live ptr := by
  rw [live_iff_ctxMaps] at hlive ⊢
  rw [h]
  exact hlive

theorem Live.addUeToEnbSet (h : mme.Live ptr) (enbSri mmeUeS1apId : Nat)
    : (mme.addUeToEnbSet enbSri mmeUeS1apId).Live ptr := by
  unfold Live
  rw [ueCtxs_addUeToEnbSet]
  exact h

theorem imsiLive_of_coherent (h : mme.ctxMaps.Coherent) : mme.ImsiLive := by
  intro imsi ptr hptr
  have ⟨ids, hids, _⟩ := h.imsi hptr
  exact live_iff_ctxMaps.mpr ⟨ids, hids⟩

variable {attachReq : AttachRequest} {mTmsi mmeUeS1apId : Nat} {nasMsg : NasPdu UlNasMsg} {f : UeCtx → UeCtx}

theorem live_of_coherent (h : mme.ctxMaps.Coherent) (hptr : mme.findUeCtxFromMmeUeS1apId mmeUeS1apId = some ptr)
    : mme.Live ptr := by
  have ⟨ids, hids, _⟩ := h.mmeUeS1apId hptr
  exact live_iff_ctxMaps.mpr ⟨ids, hids⟩

/-! What the operations do to the maps. -/

theorem ctxMaps_updateUeCtx (h : mme.updateUeCtx ptr f = some mme') (hctx : mme.ueCtxs.lookup ptr = some ueCtx)
    : mme'.ctxMaps = mme.ctxMaps.assign ptr (f ueCtx).ids := by
  obtain ⟨ueCtx', hctx', rfl⟩ := updateUeCtx_eq_some.mp h
  cases hctx.symm.trans hctx'
  unfold ctxMaps CtxMaps.assign
  congr 1
  funext ptr'
  dsimp only
  rw [Map.lookup_insert_ite, Function.update_apply]
  split <;> rfl

theorem ctxMaps_assign_self (hctx : mme.ueCtxs.lookup ptr = some ueCtx)
    : mme.ctxMaps.assign ptr ueCtx.ids = mme.ctxMaps := by
  unfold CtxMaps.assign
  rw [← ids_ctxMaps hctx, Function.update_eq_self]

theorem ctxMaps_updateUeCtx_of_ids (h : mme.updateUeCtx ptr f = some mme')
    (hf : ∀ ueCtx : UeCtx, (f ueCtx).ids = ueCtx.ids)
    : mme'.ctxMaps = mme.ctxMaps := by
  have ⟨ueCtx, hctx, _⟩ := updateUeCtx_eq_some.mp h
  rw [ctxMaps_updateUeCtx h hctx, hf, ctxMaps_assign_self hctx]

theorem ctxMaps_newUeCtx (mme : Mme) (ueCtx : UeCtx)
    : (mme.newUeCtx ueCtx).1.ctxMaps = mme.ctxMaps.create ueCtx.ids := by
  unfold newUeCtx ctxMaps CtxMaps.create CtxMaps.assign
  congr 1
  funext ptr'
  dsimp only
  rw [Map.lookup_insert_ite, Function.update_apply]
  split <;> rfl

theorem Quiet.ctxMaps (h : mme.Quiet mme') : mme'.ctxMaps = mme.ctxMaps := by
  unfold Mme.ctxMaps
  rw [h.nextUeCtx, h.imsiToUeCtx, h.mmeUeS1apIdToUeCtx, h.enbAssocToUeIds, h.sctpToEnbId, h.nextMmeUeS1apId]
  congr 1
  funext ptr'
  have hrel := h.ueCtxs ptr'
  generalize mme.ueCtxs.lookup ptr' = ueCtx, mme'.ueCtxs.lookup ptr' = ueCtx' at hrel
  cases hrel with
  | none => rfl
  | some hquiet => simp only [map_some, hquiet.ids]

namespace Stays

variable {result : Option Mme}

theorem self (mme : Mme) : mme.Stays (some mme) :=
  ⟨mme, rfl, rfl⟩

theorem of_serves {live : Prop} (h : mme.Serves live id result) (hlive : live) : mme.Stays result := by
  have ⟨mme', hresult⟩ := h.returns hlive
  exact ⟨mme', hresult, (h.quiet hresult).ctxMaps⟩

theorem bind {f : Mme → Option Mme} (h : mme.Stays result)
    (hf : ∀ mme', result = some mme' → mme'.ctxMaps = mme.ctxMaps → mme'.Stays (f mme'))
    : mme.Stays (result.bind f) := by
  have ⟨mme₁, hresult, hmaps⟩ := h
  have ⟨mme₂, hresult₂, hmaps₂⟩ := hf mme₁ hresult hmaps
  exact ⟨mme₂, by rw [hresult]; exact hresult₂, hmaps₂.trans hmaps⟩

theorem of_ctxMaps (h : mme.Stays result) (hmaps : mme.ctxMaps = mme'.ctxMaps) : mme'.Stays result := by
  have ⟨mme₁, hresult, hmaps₁⟩ := h
  exact ⟨mme₁, hresult, hmaps₁.trans hmaps⟩

theorem coheres (h : mme.Stays result) (hmaps : mme.ctxMaps.Coherent) : Coheres result := by
  have ⟨mme', hresult, hmaps'⟩ := h
  exact ⟨mme', hresult, hmaps' ▸ hmaps⟩

theorem updateUeCtx (hlive : mme.Live ptr) {f : UeCtx → UeCtx} (hf : ∀ ueCtx : UeCtx, (f ueCtx).ids = ueCtx.ids)
    : mme.Stays (mme.updateUeCtx ptr f) := by
  have ⟨mme', hupdate⟩ := exists_updateUeCtx hlive f
  exact ⟨mme', hupdate, ctxMaps_updateUeCtx_of_ids hupdate hf⟩

theorem genAuthInfoAnswer (hlive : mme.Live ptr) (alg : NasAlgorithms) (imsi : Nat) (eksi : Nat → Nat) (env : MmeEnv)
    : ∃ mme' vector, mme.genAuthInfoAnswer alg ptr imsi eksi env = some (mme', vector)
        ∧ mme'.ctxMaps = mme.ctxMaps := by
  unfold Mme.genAuthInfoAnswer
  dsimp only
  split
  . exact ⟨_, _, rfl, rfl⟩
  . next vector _ =>
    have ⟨ueCtx, hctx⟩ := hlive
    have hupdate : mme.updateUeCtx ptr (UeCtx.setVector imsi vector eksi)
      = some { mme with ueCtxs := mme.ueCtxs.insert ptr (ueCtx.setVector imsi vector eksi) } :=
      updateUeCtx_eq_some.mpr ⟨ueCtx, hctx, rfl⟩
    have hmaps := ctxMaps_updateUeCtx_of_ids hupdate fun _ => rfl
    simp only [Mme.updateUeCtx, hctx, bind_eq_bind, bind_some, pure_def]
    exact ⟨_, _, rfl, hmaps⟩

theorem packAuthenticationRequest (hlive : mme.Live ptr) (vector : AuthVector)
    : mme.Stays (mme.packAuthenticationRequest alg ptr enbSri vector) :=
  of_serves serves_packAuthenticationRequest hlive

section

variable (hlive : mme.Live ptr)

include hlive

theorem handleAuthenticationFailure (emmCause : Nat) (authFailParam : Option (Bytes 14))
    : mme.Stays (mme.handleAuthenticationFailure alg ptr enbSri emmCause authFailParam env) := by
  unfold Mme.handleAuthenticationFailure
  have ⟨ueCtx, hctx⟩ := hlive
  simp only [hctx, bind_eq_bind, bind_some]
  split
  . next auts =>
    split
    . -- the state after the HSS has taken over the SQN
      have hlive : Live { mme with hss := (mme.hss.resyncSqn alg.crypto ueCtx.emmCtx.imsi auts).1 } ptr := ⟨ueCtx, hctx⟩
      have ⟨mme₁, vector, hgen, hmaps⟩ := genAuthInfoAnswer hlive alg ueCtx.emmCtx.imsi
        (fun eksi => (eksi + 1) % 6) env
      rw [hgen]
      cases vector with
      | none => exact ⟨mme₁, rfl, hmaps⟩
      | some vector => exact of_ctxMaps (packAuthenticationRequest (hlive.of_ctxMaps hmaps) vector) hmaps
    . exact ⟨_, rfl, rfl⟩
  . exact self mme

theorem handleNasDetachRequest : mme.Stays (mme.handleNasDetachRequest ptr) := by
  unfold Mme.handleNasDetachRequest
  have ⟨ueCtx, hctx⟩ := hlive
  simp only [hctx, bind_eq_bind, bind_some]
  apply bind
  . refine @of_ctxMaps (mme.sendDeleteSessionRequest _) mme _ (updateUeCtx ?_ fun _ => rfl) rfl
    exact ⟨ueCtx, hctx⟩
  . intro mme' _ _
    split <;> exact ⟨_, rfl, rfl⟩

theorem handleNasAuthenticationResponse (res : Bytes 8)
    : mme.Stays (mme.handleNasAuthenticationResponse alg ptr enbSri res) := by
  unfold Mme.handleNasAuthenticationResponse
  have ⟨ueCtx, hctx⟩ := hlive
  simp only [hctx, bind_eq_bind, bind_some]
  split
  . apply bind
    . exact updateUeCtx ⟨ueCtx, hctx⟩ fun _ => rfl
    . intro mme' _ _
      exact ⟨_, rfl, rfl⟩
  . exact ⟨_, rfl, rfl⟩

theorem verify : mme.Stays (mme.updateUeCtx ptr UeCtx.verify) := by
  apply updateUeCtx hlive
  intro ueCtx
  unfold UeCtx.verify
  split
  . rfl
  . split <;> rfl

end

section

variable (h : mme.ctxMaps.Coherent)

include h

theorem establishSession (hlive : mme.Live ptr)
    : mme.Stays (mme.establishSession alg ptr enbSri env) :=
  of_serves serves_establishSession ⟨imsiLive_of_coherent h, hlive⟩

theorem handleNewContextNas (hlive : mme.Live ptr) (nasMsg : NasPdu UlNasMsg)
    : mme.Stays (mme.handleNewContextNas alg ptr enbSri nasMsg env) := by
  unfold Mme.handleNewContextNas
  split
  . apply bind
    . exact updateUeCtx hlive fun _ => rfl
    . intro mme₁ _ hmaps₁
      have hlive₁ := hlive.of_ctxMaps hmaps₁
      have ⟨ueCtx, hctx⟩ := hlive.of_ctxMaps hmaps₁
      simp only [hctx, bind_eq_bind, bind_some]
      split
      . apply bind (verify hlive₁)
        intro mme₂ _ hmaps₂
        apply establishSession
        . rw [hmaps₂, hmaps₁]
          exact h
        . exact hlive₁.of_ctxMaps hmaps₂
      . exact self mme₁
  . exact self mme

theorem handleNasAttachComplete (hlive : mme.Live ptr) (epsBearerId : Nat)
    : mme.Stays (mme.handleNasAttachComplete alg ptr enbSri epsBearerId env) := by
  unfold Mme.handleNasAttachComplete
  have ⟨ueCtx, hctx⟩ := id hlive
  simp only [hctx, bind_eq_bind, bind_some]
  split
  . exact self mme
  . apply bind
    . split
      . apply bind
        . exact of_serves serves_sendModifyBearerRequest (imsiLive_of_coherent h)
        . intro mme₁ _ hmaps₁
          exact of_serves serves_packEmmInformation (hlive.of_ctxMaps hmaps₁)
      . exact self mme
    . intro mme₂ _ hmaps₂
      exact updateUeCtx (hlive.of_ctxMaps hmaps₂) fun _ => rfl

theorem handleProtectedNas (hlive : mme.Live ptr) (nasMsg : NasPdu UlNasMsg)
    : mme.Stays (mme.handleProtectedNas alg ptr enbSri nasMsg env) := by
  unfold Mme.handleProtectedNas
  apply bind
  . exact updateUeCtx hlive fun _ => rfl
  intro mme₁ _ hmaps₁
  have hlive₁ := hlive.of_ctxMaps hmaps₁
  have ⟨ueCtx, hctx⟩ := hlive.of_ctxMaps hmaps₁
  simp only [hctx, bind_eq_bind, bind_some]
  split
  . apply bind (verify hlive₁)
    intro mme₂ _ hmaps₂
    have hlive₂ := hlive₁.of_ctxMaps hmaps₂
    have h₂ : mme₂.ctxMaps.Coherent := by
      rw [hmaps₂, hmaps₁]
      exact h
    split
    . exact handleNasAttachComplete h₂ hlive₂ _
    . exact of_serves serves_sendCreateSessionRequest (imsiLive_of_coherent h₂)
    . exact handleAuthenticationFailure hlive₂ _ _
    . exact handleNasDetachRequest hlive₂
    . exact self mme₂
  . exact self mme₁

end

end Stays

/-! What the operations that assign ids do to the maps. -/

theorem ctxMaps_releaseEcm (hctx : mme.ueCtxs.lookup ptr = some ueCtx) {ueIds : List Nat}
    (h : updateUeCtx { mme with
        enbAssocToUeIds := mme.enbAssocToUeIds.insert ueCtx.ecmCtx.enbSri (ueIds.erase ueCtx.ecmCtx.mmeUeS1apId)
        mmeUeS1apIdToUeCtx := mme.mmeUeS1apIdToUeCtx.erase ueCtx.ecmCtx.mmeUeS1apId
      } ptr UeCtx.releaseEcm = some mme')
    : mme'.ctxMaps = mme.ctxMaps.release ptr ueCtx.ids ueIds :=
  ctxMaps_updateUeCtx h hctx

theorem released_releaseUeEcmCtx (h : mme.ctxMaps.Coherent) (mmeUeS1apId : Nat)
    : ∃ mme', mme.releaseUeEcmCtx mmeUeS1apId = some mme' ∧ mme.ctxMaps.Released mme'.ctxMaps
        ∧ ∀ ptr ids, mme.ctxMaps.ids ptr = some ids → ids.mmeUeS1apId = mmeUeS1apId →
          (mmeUeS1apId ∈ mme.mmeUeS1apIdToUeCtx → ids.enbSri ∈ mme.sctpToEnbId) → mme'.ctxMaps.Idle ptr := by
  unfold releaseUeEcmCtx
  split
  . next hnone =>
    refine ⟨mme, rfl, h.released_self, ?_⟩
    rintro ptr ids hids rfl -
    exact h.idle hids (lookup_eq_none.mp hnone)
  . next ptr hptr =>
    obtain ⟨ids, hids, rfl⟩ := h.mmeUeS1apId hptr
    obtain ⟨ueCtx, hctx, rfl⟩ := map_eq_some_iff.mp hids
    have hmem := mem_of_lookup_eq_some hptr
    simp only [hctx, bind_eq_bind, bind_some]
    split
    . next henb =>
      have ⟨ueIds, hueIds⟩ := mem_iff.mp (h.assoc henb)
      have hueIds' : mme.enbAssocToUeIds.lookup ueCtx.ecmCtx.enbSri = some ueIds := hueIds
      rw [hueIds']
      have ⟨mme', hupdate⟩ := @exists_updateUeCtx { mme with
          enbAssocToUeIds := mme.enbAssocToUeIds.insert ueCtx.ecmCtx.enbSri (ueIds.erase ueCtx.ecmCtx.mmeUeS1apId)
          mmeUeS1apIdToUeCtx := mme.mmeUeS1apIdToUeCtx.erase ueCtx.ecmCtx.mmeUeS1apId
        } ptr ⟨ueCtx, hctx⟩ UeCtx.releaseEcm
      refine ⟨mme', hupdate, ?_, ?_⟩
      . rw [ctxMaps_releaseEcm hctx hupdate]
        exact h.released hptr hids hueIds
      . intro ptr' ids' hids' hid _
        rw [ctxMaps_releaseEcm hctx hupdate]
        by_cases heq : ptr' = ptr
        . rw [heq]
          exact (h.release hptr hids hueIds).2
        . rw [← hid] at hptr
          exact (h.idle_of_ne hids' hptr heq).release _ _
    . next henb =>
      refine ⟨mme, rfl, h.released_self, ?_⟩
      intro ptr' ids' hids' hid hknown
      by_cases heq : ptr' = ptr
      . subst heq
        cases hids.symm.trans hids'
        exact absurd (hknown hmem) henb
      . rw [← hid] at hptr
        exact h.idle_of_ne hids' hptr heq

theorem coherent_addUeCtxToImsiMap (h : mme.ctxMaps.Coherent) (hctx : mme.ueCtxs.lookup ptr = some ueCtx)
    : ∃ mme', mme.addUeCtxToImsiMap ptr = some mme' ∧ mme'.ctxMaps.Coherent ∧ mme'.ueCtxs = mme.ueCtxs
        ∧ mme'.mmeUeS1apIdToUeCtx = mme.mmeUeS1apIdToUeCtx ∧ mme'.nextMmeUeS1apId = mme.nextMmeUeS1apId := by
  unfold addUeCtxToImsiMap
  simp only [hctx, bind_eq_bind, bind_some]
  split
  . exact ⟨mme, rfl, h, rfl, rfl, rfl⟩
  . split
    . exact ⟨mme, rfl, h, rfl, rfl, rfl⟩
    . exact ⟨_, rfl, h.addImsi (ids_ctxMaps hctx), rfl, rfl, rfl⟩

theorem coherent_addUeToEnbSet (h : mme.ctxMaps.Coherent) (hctx : mme.ueCtxs.lookup ptr = some ueCtx)
    (hptr : mme.mmeUeS1apIdToUeCtx.lookup ueCtx.ecmCtx.mmeUeS1apId = some ptr)
    : (mme.addUeToEnbSet ueCtx.ecmCtx.enbSri ueCtx.ecmCtx.mmeUeS1apId).ctxMaps.Coherent := by
  unfold addUeToEnbSet
  split
  . exact h
  . next ueIds hueIds =>
    split
    . exact h
    . next hnew => exact @CtxMaps.Coherent.addUe mme.ctxMaps ptr ueCtx.ids h _ _ hueIds hnew hptr (ids_ctxMaps hctx)

theorem coherent_addUeCtxToMmeUeS1apIdMap (h : mme.ctxMaps.Coherent) (hctx : mme.ueCtxs.lookup ptr = some ueCtx)
    (hpos : ueCtx.ecmCtx.mmeUeS1apId ≠ 0) (hlt : ueCtx.ecmCtx.mmeUeS1apId < mme.nextMmeUeS1apId)
    (hnew : ueCtx.ecmCtx.mmeUeS1apId ∉ mme.mmeUeS1apIdToUeCtx)
    : ∃ mme', mme.addUeCtxToMmeUeS1apIdMap ptr = some mme' ∧ mme'.ctxMaps.Coherent
        ∧ (mme'.addUeToEnbSet ueCtx.ecmCtx.enbSri ueCtx.ecmCtx.mmeUeS1apId).ctxMaps.Coherent
        ∧ mme'.ueCtxs = mme.ueCtxs := by
  unfold addUeCtxToMmeUeS1apIdMap
  simp only [hctx, bind_eq_bind, bind_some]
  rw [if_neg (by simp [hpos, hnew])]
  have hcoherent := h.addId (ids_ctxMaps hctx) hpos hlt hnew
  refine ⟨_, rfl, hcoherent, ?_, rfl⟩
  refine @coherent_addUeToEnbSet _ ptr ueCtx ?_ ?_ ?_
  . exact hcoherent
  . exact hctx
  . exact lookup_insert _

theorem not_mem_nextMmeUeS1apId (h : mme.ctxMaps.Coherent) : mme.nextMmeUeS1apId ∉ mme.mmeUeS1apIdToUeCtx := by
  intro hmem
  have ⟨ptr, hptr⟩ := mem_iff.mp hmem
  exact lt_irrefl _ (h.lt hptr)

theorem nextMmeUeS1apId_getNextMmeUeS1apId (hnext : mme.nextMmeUeS1apId + 1 < 2 ^ 32)
    : mme.getNextMmeUeS1apId.1.nextMmeUeS1apId = mme.nextMmeUeS1apId + 1 :=
  Nat.mod_eq_of_lt hnext

theorem coherent_reassign (h : mme.ctxMaps.Coherent) (hnext : mme.nextMmeUeS1apId + 1 < 2 ^ 32)
    (hctx : mme.ueCtxs.lookup ptr = some ueCtx) (hidle : mme.ctxMaps.Idle ptr) (f : UeCtx → UeCtx) (enbSri : Nat)
    (hf : (f ueCtx).ids = ⟨ueCtx.emmCtx.imsi, mme.nextMmeUeS1apId, enbSri⟩)
    : ∃ mme₁ mme₂, mme.getNextMmeUeS1apId.1.updateUeCtx ptr f = some mme₁ ∧ mme₁.addUeCtxToMmeUeS1apIdMap ptr = some mme₂
        ∧ mme₁.ctxMaps.Coherent ∧ mme₂.ctxMaps.Coherent
        ∧ (mme₂.addUeToEnbSet enbSri mme.nextMmeUeS1apId).ctxMaps.Coherent
        ∧ mme₂.Live ptr := by
  have ⟨mme₁, hupdate⟩ := @exists_updateUeCtx mme.getNextMmeUeS1apId.1 ptr ⟨ueCtx, hctx⟩ f
  have hctx₁ := lookup_updateUeCtx hupdate hctx
  have hmaps₁ := ctxMaps_updateUeCtx hupdate hctx
  have himsi : ∀ imsi, mme.ctxMaps.imsiToUeCtx.lookup imsi = some ptr → (f ueCtx).ids.imsi = imsi := by
    intro imsi hptr
    obtain ⟨ids, hids, rfl⟩ := h.imsi hptr
    cases hids.symm.trans (ids_ctxMaps hctx)
    rw [hf]
    rfl
  have hcoherent₁ : mme₁.ctxMaps.Coherent := by
    rw [hmaps₁]
    exact (h.allocate hnext).assign hidle (h.heap (ids_ctxMaps hctx)) himsi
  have hid : (f ueCtx).ecmCtx.mmeUeS1apId = mme.nextMmeUeS1apId := congrArg UeIds.mmeUeS1apId hf
  have henb : (f ueCtx).ecmCtx.enbSri = enbSri := congrArg UeIds.enbSri hf
  have hnext₁ : mme₁.nextMmeUeS1apId = mme.nextMmeUeS1apId + 1 :=
    (congrArg CtxMaps.nextMmeUeS1apId hmaps₁).trans (nextMmeUeS1apId_getNextMmeUeS1apId hnext)
  have hids₁ : mme₁.mmeUeS1apIdToUeCtx = mme.mmeUeS1apIdToUeCtx := congrArg CtxMaps.mmeUeS1apIdToUeCtx hmaps₁
  have ⟨mme₂, hadd, hcoherent₂, hset, hctxs₂⟩ := coherent_addUeCtxToMmeUeS1apIdMap hcoherent₁ hctx₁
    (by rw [hid]; exact h.next) (by rw [hid, hnext₁]; exact Nat.lt_succ_self _)
    (by rw [hid, hids₁]; exact not_mem_nextMmeUeS1apId h)
  rw [hid, henb] at hset
  refine ⟨mme₁, mme₂, hupdate, hadd, hcoherent₁, hcoherent₂, hset, f ueCtx, ?_⟩
  rw [hctxs₂]
  exact hctx₁

def Releasable (mme : Mme) (ueCtx : UeCtx) : Prop :=
  ueCtx.ecmCtx.mmeUeS1apId ∈ mme.mmeUeS1apIdToUeCtx → ueCtx.ecmCtx.enbSri ∈ mme.sctpToEnbId

theorem released_of_ne_zero (h : mme.ctxMaps.Coherent) {ids : UeIds} (hids : mme.ctxMaps.ids ptr = some ids)
    (hok : ids.mmeUeS1apId ∈ mme.mmeUeS1apIdToUeCtx → ids.enbSri ∈ mme.sctpToEnbId)
    : ∃ mme', (if ids.mmeUeS1apId ≠ 0 then mme.releaseUeEcmCtx ids.mmeUeS1apId else some mme) = some mme'
        ∧ mme.ctxMaps.Released mme'.ctxMaps ∧ mme'.ctxMaps.Idle ptr := by
  split
  . have ⟨mme', hmme', hreleased, hidle⟩ := released_releaseUeEcmCtx h ids.mmeUeS1apId
    exact ⟨mme', hmme', hreleased, hidle ptr ids hids rfl hok⟩
  . next hzero =>
    refine ⟨mme, rfl, h.released_self, h.idle hids ?_⟩
    intro hmem
    have ⟨ptr', hptr'⟩ := mem_iff.mp hmem
    exact hzero (h.pos hptr')

theorem ctxMaps_erase (mme : Mme) (ptr imsi : Nat)
    : ctxMaps { mme with imsiToUeCtx := mme.imsiToUeCtx.erase imsi, ueCtxs := mme.ueCtxs.erase ptr }
        =
      mme.ctxMaps.delete ptr imsi := by
  unfold ctxMaps CtxMaps.delete
  congr 1
  funext ptr'
  dsimp only
  rw [Map.lookup_erase_ite, Function.update_apply]
  split <;> rfl

theorem coherent_deleteUeCtx (h : mme.ctxMaps.Coherent) {imsi : Nat}
    (hok : ∀ ptr ueCtx, mme.findUeCtxFromImsi imsi = some ptr → mme.ueCtxs.lookup ptr = some ueCtx → mme.Releasable ueCtx)
    : ∃ mme', mme.deleteUeCtx imsi = some mme' ∧ mme'.ctxMaps.Coherent
        ∧ mme'.nextMmeUeS1apId = mme.nextMmeUeS1apId := by
  unfold deleteUeCtx
  split
  . exact ⟨mme, rfl, h, rfl⟩
  . next ptr hptr =>
    have ⟨ids, hids, himsi⟩ := h.imsi hptr
    obtain ⟨ueCtx, hctx, rfl⟩ := map_eq_some_iff.mp hids
    have ⟨mme₁, hmme₁, hreleased, hidle⟩ := released_of_ne_zero h hids (hok ptr ueCtx hptr hctx)
    have hptr₁ : mme₁.ctxMaps.imsiToUeCtx.lookup imsi = some ptr := by
      rw [hreleased.imsiToUeCtx]
      exact hptr
    refine ⟨{ mme₁ with imsiToUeCtx := mme₁.imsiToUeCtx.erase imsi, ueCtxs := mme₁.ueCtxs.erase ptr }, ?_, ?_, ?_⟩
    . exact bind_eq_some_iff.mpr ⟨ueCtx, hctx, bind_eq_some_iff.mpr ⟨mme₁, hmme₁, rfl⟩⟩
    . rw [ctxMaps_erase]
      exact hreleased.coherent.delete hidle hptr₁
    . exact hreleased.nextMmeUeS1apId

theorem coherent_detachPrevious (h : mme.ctxMaps.Coherent) {imsi : Nat}
    (hok : ∀ ptr ueCtx, mme.findUeCtxFromImsi imsi = some ptr → mme.ueCtxs.lookup ptr = some ueCtx → mme.Releasable ueCtx)
    : ∃ mme', mme.detachPrevious imsi = some mme' ∧ mme'.ctxMaps.Coherent
        ∧ mme'.nextMmeUeS1apId = mme.nextMmeUeS1apId := by
  unfold detachPrevious
  split
  . exact ⟨mme, rfl, h, rfl⟩
  . next ptr hptr =>
    have ⟨oldCtx, hctx⟩ := imsiLive_of_coherent h imsi ptr hptr
    simp only [hctx, bind_eq_bind, bind_some]
    split
    . exact @coherent_deleteUeCtx ((mme.sendDeleteSessionRequest imsi).sendUeContextReleaseCommand oldCtx.ecmCtx) h
        imsi hok
    . exact @coherent_deleteUeCtx (mme.sendDeleteSessionRequest imsi) h imsi hok

theorem Coheres.bind {α : Type} {x : Option α} {a : α} {f : α → Option Mme} (hx : x = some a) (hf : Coheres (f a))
    : Coheres (x.bind f) := by
  rw [hx]
  exact hf

section

variable (h : mme.ctxMaps.Coherent)

include h

theorem coherent_newUeCtx (hnext : mme.nextMmeUeS1apId + 1 < 2 ^ 32) {mme₁ mme₂ : Mme}
    (hmaps : mme₁.ctxMaps = mme.ctxMaps.allocate) (hid : ueCtx.ecmCtx.mmeUeS1apId = mme.nextMmeUeS1apId)
    (hnew : mme₁.newUeCtx ueCtx = (mme₂, ptr))
    : mme₂.ctxMaps.Coherent ∧ mme₂.ueCtxs.lookup ptr = some ueCtx ∧ ueCtx.ecmCtx.mmeUeS1apId ≠ 0
        ∧ ueCtx.ecmCtx.mmeUeS1apId < mme₂.nextMmeUeS1apId ∧ ueCtx.ecmCtx.mmeUeS1apId ∉ mme₂.mmeUeS1apIdToUeCtx := by
  have hmaps₂ : mme₂.ctxMaps = mme.ctxMaps.allocate.create ueCtx.ids := by
    rw [← hmaps, ← ctxMaps_newUeCtx, hnew]
  have hnext₂ : mme₂.nextMmeUeS1apId = mme.nextMmeUeS1apId + 1 :=
    (congrArg CtxMaps.nextMmeUeS1apId hmaps₂).trans (Nat.mod_eq_of_lt hnext)
  have hids₂ : mme₂.mmeUeS1apIdToUeCtx = mme.mmeUeS1apIdToUeCtx := congrArg CtxMaps.mmeUeS1apIdToUeCtx hmaps₂
  rw [hid, hnext₂, hids₂]
  refine ⟨?_, ?_, h.next, Nat.lt_succ_self _, not_mem_nextMmeUeS1apId h⟩
  . rw [hmaps₂]
    exact (h.allocate hnext).create _
  . cases hnew
    exact lookup_insert _

theorem coheres_handleNasImsiAttachRequest (hnext : mme.nextMmeUeS1apId + 1 < 2 ^ 32)
    {imsi : Nat}
    (hok : ∀ ptr ueCtx, mme.findUeCtxFromImsi imsi = some ptr → mme.ueCtxs.lookup ptr = some ueCtx → mme.Releasable ueCtx)
    : Coheres (mme.handleNasImsiAttachRequest alg enbUeS1apId enbSri imsi attachReq env) := by
  unfold handleNasImsiAttachRequest
  have ⟨mme₁, hdetach, h₁, hnext₁⟩ := coherent_detachPrevious h hok
  rw [← hnext₁] at hnext
  refine .bind hdetach ?_
  dsimp only
  split
  . exact ⟨_, rfl, h₁.allocate hnext⟩
  . next vector _ =>
    -- the context is on the heap, in the map of the IMSIs, in that of the ids and in the set of the eNB
    generalize hmme₂ : newUeCtx _ _ = mme₂
    have ⟨mme₂, ptr⟩ := mme₂
    have ⟨h₂, hctx₂, hpos, hlt, hnew⟩ := coherent_newUeCtx h₁ hnext rfl rfl hmme₂
    have ⟨mme₃, himsi, h₃, hctxs₃, hids₃, hnext₃⟩ := coherent_addUeCtxToImsiMap h₂ hctx₂
    rw [← hctxs₃] at hctx₂
    rw [← hids₃] at hnew
    rw [← hnext₃] at hlt
    have ⟨mme₄, hid, _, h₄, hctxs₄⟩ := coherent_addUeCtxToMmeUeS1apIdMap h₃ hctx₂ hpos hlt hnew
    have hlive₄ : mme₄.Live ptr := by
      unfold Live
      rw [hctxs₄]
      exact ⟨_, hctx₂⟩
    exact .bind himsi (.bind hid (Stays.coheres (.packAuthenticationRequest (hlive₄.addUeToEnbSet ..) vector) h₄))

theorem coheres_requestIdentity (hnext : mme.nextMmeUeS1apId + 1 < 2 ^ 32)
    : Coheres (mme.requestIdentity alg enbUeS1apId enbSri attachReq env) := by
  unfold requestIdentity
  dsimp only
  generalize hmme₁ : newUeCtx _ _ = mme₁
  have ⟨mme₁, ptr⟩ := mme₁
  have ⟨h₁, hctx₁, hpos, hlt, hnew⟩ := coherent_newUeCtx h hnext rfl rfl hmme₁
  have ⟨mme₂, hid, _, h₂, _⟩ := coherent_addUeCtxToMmeUeS1apIdMap h₁ hctx₁ hpos hlt hnew
  exact .bind hid ⟨_, rfl, h₂⟩

theorem coheres_resumeAttach (hnext : mme.nextMmeUeS1apId + 1 < 2 ^ 32)
    (hctx : mme.ueCtxs.lookup ptr = some ueCtx) (hidle : mme.ctxMaps.Idle ptr)
    : Coheres (mme.resumeAttach alg ptr enbUeS1apId enbSri attachReq env) := by
  unfold resumeAttach
  have ⟨mme₁, mme₂, hupdate, hadd, _, _, h₃, hlive⟩ := coherent_reassign h hnext hctx hidle
    (UeCtx.reattach mme.nextMmeUeS1apId enbUeS1apId enbSri attachReq) enbSri rfl
  refine .bind hupdate (.bind hadd ?_)
  have hlive₃ := hlive.addUeToEnbSet enbSri mme.nextMmeUeS1apId
  refine Stays.coheres (Stays.bind (Stays.updateUeCtx hlive₃ fun _ => rfl) ?_) h₃
  intro mme₄ _ hmaps₄
  exact Stays.establishSession (hmaps₄ ▸ h₃) (hlive₃.of_ctxMaps hmaps₄)

theorem coheres_restartAttach (hnext : mme.nextMmeUeS1apId + 2 < 2 ^ 32)
    (hctx : mme.ueCtxs.lookup ptr = some ueCtx) (hok : mme.Releasable ueCtx)
    : Coheres (mme.restartAttach alg ptr enbUeS1apId enbSri attachReq env) := by
  unfold restartAttach
  refine .bind hctx ?_
  extract_lets mme₁ mme₂
  have hctxs₂ : mme₂.ueCtxs = mme.ueCtxs := by
    unfold mme₂ mme₁
    split <;> split <;> rfl
  have hmaps₂ : mme₂.ctxMaps = mme.ctxMaps := by
    unfold mme₂ mme₁
    split <;> split <;> rfl
  have hlive₂ : mme₂.Live ptr := by
    unfold Live
    rw [hctxs₂]
    exact ⟨ueCtx, hctx⟩
  clear_value mme₂
  have ⟨mme₃, hreset, hmaps₃⟩ := Stays.updateUeCtx hlive₂ fun ueCtx : UeCtx => (rfl : ueCtx.resetNasCounts.ids = ueCtx.ids)
  refine .bind hreset ?_
  have hmaps₃ : mme₃.ctxMaps = mme.ctxMaps := hmaps₃.trans hmaps₂
  have hnext₃ : mme₃.nextMmeUeS1apId = mme.nextMmeUeS1apId := congrArg CtxMaps.nextMmeUeS1apId hmaps₃
  have h₃ : mme₃.getNextMmeUeS1apId.1.ctxMaps.Coherent := (hmaps₃ ▸ h : mme₃.ctxMaps.Coherent).allocate (by
    change mme₃.nextMmeUeS1apId + 1 < 2 ^ 32
    omega)
  have hids₃ : mme₃.getNextMmeUeS1apId.1.ctxMaps.ids ptr = some ueCtx.ids := by
    change mme₃.ctxMaps.ids ptr = some ueCtx.ids
    rw [hmaps₃]
    exact ids_ctxMaps hctx
  have hok₃ : ueCtx.ids.mmeUeS1apId ∈ mme₃.mmeUeS1apIdToUeCtx → ueCtx.ids.enbSri ∈ mme₃.sctpToEnbId := by
    rw [show mme₃.mmeUeS1apIdToUeCtx = mme.mmeUeS1apIdToUeCtx from congrArg CtxMaps.mmeUeS1apIdToUeCtx hmaps₃,
      show mme₃.sctpToEnbId = mme.sctpToEnbId from congrArg CtxMaps.sctpToEnbId hmaps₃]
    exact hok
  have ⟨mme₅, hrelease, hreleased, hidle⟩ := released_of_ne_zero h₃ hids₃ hok₃
  refine .bind hrelease ?_
  have ⟨ids₅, hids₅, _⟩ := hreleased.ids hids₃
  have ⟨ueCtx₅, hctx₅, _⟩ := map_eq_some_iff.mp hids₅
  have hnext₅ : mme₅.nextMmeUeS1apId = (mme₃.nextMmeUeS1apId + 1) % 2 ^ 32 := hreleased.nextMmeUeS1apId
  have ⟨mme₆, mme₇, hupdate, hadd, _, _, h₇, hlive₇⟩ := coherent_reassign hreleased.coherent (by omega) hctx₅ hidle
    (fun ueCtx =>
      (ueCtx.reattach mme₅.nextMmeUeS1apId enbUeS1apId enbSri attachReq).setEmmState .deregistered) enbSri rfl
  have hlive₈ := hlive₇.addUeToEnbSet enbSri mme₅.nextMmeUeS1apId
  have ⟨mme₈, vector, hgen, hmaps₈⟩ := Stays.genAuthInfoAnswer hlive₈ alg ueCtx.emmCtx.imsi (fun _ => 0) env
  rw [← hmaps₈] at h₇
  refine .bind hupdate (.bind hadd (.bind hgen ?_))
  cases vector with
  | none => exact ⟨_, rfl, h₇⟩
  | some vector => exact Stays.coheres (.packAuthenticationRequest (hlive₈.of_ctxMaps hmaps₈) vector) h₇

end

def GutiAttachable (alg : NasAlgorithms) (mme : Mme) (mTmsi : Nat) (nasMsg : NasPdu UlNasMsg) : Prop :=
  ∀ imsi ptr ueCtx, mme.tmsiToImsi.lookup mTmsi = some imsi → mme.findUeCtxFromImsi imsi = some ptr →
    mme.ueCtxs.lookup ptr = some ueCtx →
      let resumes := ueCtx.incrementUlNasCount.emmCtx.securityCtxt.integrityCheck alg nasMsg = true
        ∧ ueCtx.emmCtx.state = .deregistered
      (resumes → ueCtx.ecmCtx.mmeUeS1apId ∉ mme.mmeUeS1apIdToUeCtx) ∧ (¬resumes → mme.Releasable ueCtx)

theorem coheres_handleNasGutiAttachRequest (h : mme.ctxMaps.Coherent) (hnext : mme.nextMmeUeS1apId + 2 < 2 ^ 32)
    (hok : mme.GutiAttachable alg mTmsi nasMsg)
    : Coheres (mme.handleNasGutiAttachRequest alg enbUeS1apId enbSri mTmsi attachReq nasMsg env) := by
  unfold handleNasGutiAttachRequest
  split
  . exact coheres_requestIdentity h (by omega)
  . next imsi himsi =>
    split
    . exact ⟨mme, rfl, h⟩
    . next ptr hptr =>
      have ⟨ueCtx, hctx⟩ := imsiLive_of_coherent h imsi ptr hptr
      have ⟨mme₁, hupdate, hmaps₁⟩ := Stays.updateUeCtx ⟨ueCtx, hctx⟩
        fun ueCtx : UeCtx => (rfl : ueCtx.incrementUlNasCount.ids = ueCtx.ids)
      have hctx₁ := lookup_updateUeCtx hupdate hctx
      have h₁ : mme₁.ctxMaps.Coherent := hmaps₁ ▸ h
      have hnext₁ : mme₁.nextMmeUeS1apId = mme.nextMmeUeS1apId := congrArg CtxMaps.nextMmeUeS1apId hmaps₁
      have hids₁ : mme₁.mmeUeS1apIdToUeCtx = mme.mmeUeS1apIdToUeCtx := congrArg CtxMaps.mmeUeS1apIdToUeCtx hmaps₁
      have hsctp₁ : mme₁.sctpToEnbId = mme.sctpToEnbId := congrArg CtxMaps.sctpToEnbId hmaps₁
      have hok := hok imsi ptr ueCtx himsi hptr hctx
      refine .bind hupdate (.bind hctx₁ ?_)
      split
      . next hmac =>
        have hid := hok.1 hmac
        rw [← hids₁] at hid
        exact coheres_resumeAttach h₁ (by omega) hctx₁ (h₁.idle (ids_ctxMaps hctx₁) hid)
      . next hmac =>
        have hreleasable := hok.2 hmac
        rw [Releasable, ← hids₁, ← hsctp₁] at hreleasable
        exact coheres_restartAttach h₁ (by omega) hctx₁ hreleasable

def Reconnectable (mme : Mme) (ueCtx : UeCtx) : Prop :=
  ueCtx.ecmCtx.mmeUeS1apId ∈ mme.mmeUeS1apIdToUeCtx →
    ueCtx.ecmCtx.state = .connected ∧ ueCtx.ecmCtx.enbSri ∈ mme.sctpToEnbId

theorem coheres_reconnectUe (h : mme.ctxMaps.Coherent) (hnext : mme.nextMmeUeS1apId + 1 < 2 ^ 32)
    (hctx : mme.ueCtxs.lookup ptr = some ueCtx) (hok : mme.Reconnectable ueCtx)
    : Coheres (mme.reconnectUe alg ptr enbUeS1apId enbSri env) := by
  unfold reconnectUe
  have hrelease : ∃ mme₁,
      (if ueCtx.ecmCtx.state = .connected then
        (mme.sendUeContextReleaseCommand ueCtx.ecmCtx).releaseUeEcmCtx ueCtx.ecmCtx.mmeUeS1apId
      else
        some mme) = some mme₁
        ∧ mme.ctxMaps.Released mme₁.ctxMaps ∧ mme₁.ctxMaps.Idle ptr := by
    split
    . have ⟨mme₁, hrelease, hreleased, hidle⟩ := @released_releaseUeEcmCtx
        (mme.sendUeContextReleaseCommand ueCtx.ecmCtx) h ueCtx.ecmCtx.mmeUeS1apId
      exact ⟨mme₁, hrelease, hreleased, hidle ptr ueCtx.ids (ids_ctxMaps hctx) rfl fun hmem => (hok hmem).2⟩
    . next hstate => exact ⟨mme, rfl, h.released_self, h.idle (ids_ctxMaps hctx) fun hmem => hstate (hok hmem).1⟩
  have ⟨mme₁, hrelease, hreleased, hidle⟩ := hrelease
  have ⟨ids₁, hids₁, _⟩ := hreleased.ids (ids_ctxMaps hctx)
  have ⟨ueCtx₁, hctx₁, _⟩ := map_eq_some_iff.mp hids₁
  have hnext₁ : mme₁.nextMmeUeS1apId = mme.nextMmeUeS1apId := hreleased.nextMmeUeS1apId
  have ⟨mme₂, mme₃, hupdate, hadd, _, h₃, _, hlive₃⟩ := coherent_reassign hreleased.coherent (by omega) hctx₁ hidle
    (fun ueCtx => (ueCtx.reconnect mme₁.nextMmeUeS1apId enbUeS1apId enbSri).generateKEnb alg) enbSri rfl
  refine .bind hctx (.bind hrelease (.bind hupdate (.bind hadd ?_)))
  exact Stays.coheres (.of_serves serves_sendInitialContextSetupRequest hlive₃) h₃

theorem coherent_packServiceReject (h : mme.ctxMaps.Coherent) (hnext : mme.nextMmeUeS1apId + 1 < 2 ^ 32)
    : (mme.packServiceReject alg enbUeS1apId enbSri).ctxMaps.Coherent :=
  h.allocate hnext

theorem coheres_handleNasServiceRequest (h : mme.ctxMaps.Coherent) (hnext : mme.nextMmeUeS1apId + 1 < 2 ^ 32)
    {shortMac : List UInt8}
    (hok : ∀ ptr ueCtx, (mme.tmsiToImsi.lookup mTmsi).bind mme.findUeCtxFromImsi = some ptr →
      mme.ueCtxs.lookup ptr = some ueCtx → ueCtx.emmCtx.state = .registered →
      ueCtx.incrementUlNasCount.emmCtx.securityCtxt.shortIntegrityCheck alg nasMsg shortMac = true →
      mme.Reconnectable ueCtx)
    : Coheres (mme.handleNasServiceRequest alg mTmsi enbUeS1apId enbSri shortMac nasMsg env) := by
  unfold handleNasServiceRequest
  split
  . exact ⟨_, rfl, coherent_packServiceReject h hnext⟩
  . next ptr hptr =>
    have ⟨imsi, _, himsi⟩ := bind_eq_some_iff.mp hptr
    have ⟨ueCtx, hctx⟩ := imsiLive_of_coherent h imsi ptr himsi
    refine .bind hctx ?_
    split
    . next hstate =>
      have ⟨mme₁, hupdate, hmaps₁⟩ := Stays.updateUeCtx ⟨ueCtx, hctx⟩
        fun ueCtx : UeCtx => (rfl : ueCtx.incrementUlNasCount.ids = ueCtx.ids)
      have h₁ : mme₁.ctxMaps.Coherent := hmaps₁ ▸ h
      refine .bind hupdate ?_
      split
      . next hmac =>
        have hnext₁ : mme₁.nextMmeUeS1apId = mme.nextMmeUeS1apId := congrArg CtxMaps.nextMmeUeS1apId hmaps₁
        have hok := hok ptr ueCtx hptr hctx hstate hmac
        rw [Reconnectable, ← show mme₁.mmeUeS1apIdToUeCtx = mme.mmeUeS1apIdToUeCtx from
            congrArg CtxMaps.mmeUeS1apIdToUeCtx hmaps₁,
          ← show mme₁.sctpToEnbId = mme.sctpToEnbId from congrArg CtxMaps.sctpToEnbId hmaps₁] at hok
        exact coheres_reconnectUe h₁ (by omega) (lookup_updateUeCtx hupdate hctx) hok
      . exact ⟨mme₁, rfl, h₁⟩
    . exact ⟨_, rfl, coherent_packServiceReject h hnext⟩

def InitiallyDetachable (mme : Mme) (mTmsi : Nat) : Prop :=
  ∀ imsi, mme.tmsiToImsi.lookup mTmsi = some imsi →
    ∃ ptr ueCtx, mme.findUeCtxFromImsi imsi = some ptr ∧ mme.ueCtxs.lookup ptr = some ueCtx
      ∧ ueCtx.ecmCtx.mmeUeS1apId ∉ mme.mmeUeS1apIdToUeCtx

theorem coheres_handleInitialDetachRequest (h : mme.ctxMaps.Coherent) (hnext : mme.nextMmeUeS1apId + 1 < 2 ^ 32)
    (hok : mme.InitiallyDetachable mTmsi)
    : Coheres (mme.handleInitialDetachRequest mTmsi enbUeS1apId) := by
  unfold handleInitialDetachRequest
  split
  . exact ⟨mme, rfl, h⟩
  . next imsi himsi =>
    have ⟨ptr, ueCtx, hptr, hctx, hid⟩ := hok imsi himsi
    have ⟨mme₁, mme₂, hupdate, _, h₁, _⟩ := @coherent_reassign (mme.sendDeleteSessionRequest ueCtx.emmCtx.imsi) ptr
      ueCtx h hnext hctx (h.idle (ids_ctxMaps hctx) hid)
      (fun ueCtx =>
        let ueCtx := (ueCtx.setEmmState .deregistered).incrementUlNasCount
        { ueCtx with ecmCtx := { ueCtx.ecmCtx with mmeUeS1apId := mme.nextMmeUeS1apId, enbUeS1apId } })
      ueCtx.ecmCtx.enbSri rfl
    have ⟨ueCtx₁, hctx₁, _⟩ := updateUeCtx_eq_some.mp hupdate
    exact .bind hptr (.bind hctx (.bind hupdate (.bind (lookup_updateUeCtx hupdate hctx₁) ⟨_, rfl, h₁⟩)))

theorem stays_handleInitialTrackingAreaUpdateRequest (h : mme.ctxMaps.Coherent)
    (hok : ∀ imsi, mme.tmsiToImsi.lookup mTmsi = some imsi → imsi ∈ mme.imsiToUeCtx)
    : mme.Stays (mme.handleInitialTrackingAreaUpdateRequest mTmsi) := by
  unfold handleInitialTrackingAreaUpdateRequest
  split
  . exact .self mme
  . next imsi himsi =>
    have ⟨ptr, hptr⟩ := mem_iff.mp (hok imsi himsi)
    have hptr' : mme.findUeCtxFromImsi imsi = some ptr := hptr
    simp only [hptr', bind_eq_bind, bind_some]
    exact .updateUeCtx (imsiLive_of_coherent h imsi ptr hptr) fun _ => rfl

theorem coheres_handleIdentityResponse (h : mme.ctxMaps.Coherent) (hctx : mme.ueCtxs.lookup ptr = some ueCtx) {imsi : Nat}
    (hok : imsi = ueCtx.emmCtx.imsi ∨ mme.imsiToUeCtx.lookup ueCtx.emmCtx.imsi ≠ some ptr)
    : ∃ mme', mme.handleIdentityResponse alg ptr enbSri imsi env = some mme' ∧ mme'.ctxMaps.Coherent ∧ mme'.Live ptr := by
  have ⟨mme₁, hupdate⟩ := exists_updateUeCtx ⟨ueCtx, hctx⟩ (UeCtx.setImsi imsi)
  have hlive₁ : mme₁.Live ptr := ⟨_, lookup_updateUeCtx hupdate hctx⟩
  have h₁ : mme₁.ctxMaps.Coherent := by
    rw [ctxMaps_updateUeCtx hupdate hctx]
    exact h.setImsi (ids_ctxMaps hctx) hok
  have ⟨mme₂, vector, hgen, hmaps₂⟩ := Stays.genAuthInfoAnswer hlive₁ alg imsi (fun _ => 0) env
  have hlive₂ := hlive₁.of_ctxMaps hmaps₂
  rw [← hmaps₂] at h₁
  unfold handleIdentityResponse
  simp only [hupdate, hgen, bind_eq_bind, bind_some]
  cases vector with
  | none => exact ⟨mme₂, rfl, h₁, hlive₂⟩
  | some vector =>
    have ⟨ueCtx₂, hctx₂⟩ := hlive₂
    have ⟨mme₃, hadd, h₃, hctxs₃, _⟩ := coherent_addUeCtxToImsiMap h₁ hctx₂
    have hlive₃ : mme₃.Live ptr := by
      unfold Live
      rw [hctxs₃]
      exact ⟨ueCtx₂, hctx₂⟩
    have ⟨mme₄, hpack, hmaps₄⟩ := @Stays.packAuthenticationRequest alg mme₃ ptr enbSri hlive₃ vector
    exact ⟨mme₄, bind_eq_some_iff.mpr ⟨mme₃, hadd, hpack⟩, hmaps₄ ▸ h₃, hlive₃.of_ctxMaps hmaps₄⟩

section

variable (h : mme.ctxMaps.Coherent)

include h

theorem coheres_handleUncheckedNas (hctx : mme.ueCtxs.lookup ptr = some ueCtx)
    (hok : ∀ imsi, nasMsg.msg = .identityResponse imsi →
      imsi = ueCtx.emmCtx.imsi ∨ mme.imsiToUeCtx.lookup ueCtx.emmCtx.imsi ≠ some ptr)
    : Coheres (mme.handleUncheckedNas alg ptr enbSri nasMsg env) := by
  have hcount : ∀ {mme₁ : Mme}, mme₁.ctxMaps.Coherent → mme₁.Live ptr →
      Coheres (mme₁.updateUeCtx ptr UeCtx.incrementUlNasCount) :=
    fun h₁ hlive₁ => Stays.coheres (.updateUeCtx hlive₁ fun _ => rfl) h₁
  have hstays : ∀ {result : Option Mme}, mme.Stays result →
      Coheres (result.bind fun mme => mme.updateUeCtx ptr UeCtx.incrementUlNasCount) := by
    rintro result ⟨mme₁, hresult, hmaps₁⟩
    exact .bind hresult (hcount (hmaps₁ ▸ h) (Live.of_ctxMaps hmaps₁ ⟨ueCtx, hctx⟩))
  unfold handleUncheckedNas
  split
  . next imsi hmsg =>
    have ⟨mme₁, hidentity, h₁, hlive₁⟩ := @coheres_handleIdentityResponse alg env mme ptr enbSri ueCtx h hctx imsi
      (hok imsi hmsg)
    exact .bind hidentity (hcount h₁ hlive₁)
  . exact hstays (.handleNasAuthenticationResponse ⟨ueCtx, hctx⟩ _)
  . exact hstays (.handleAuthenticationFailure ⟨ueCtx, hctx⟩ _ _)
  . exact hstays (.handleNasDetachRequest ⟨ueCtx, hctx⟩)
  . exact ⟨mme, rfl, h⟩

theorem coheres_handleUplinkNasTransport
    (hok : ∀ ptr ueCtx imsi, mme.findUeCtxFromMmeUeS1apId mmeUeS1apId = some ptr → mme.ueCtxs.lookup ptr = some ueCtx →
      nasMsg.msg = .identityResponse imsi → nasMsg.uncheckedUl = true →
        imsi = ueCtx.emmCtx.imsi ∨ mme.imsiToUeCtx.lookup ueCtx.emmCtx.imsi ≠ some ptr)
    : Coheres (mme.handleUplinkNasTransport alg mmeUeS1apId enbSri nasMsg env) := by
  unfold handleUplinkNasTransport
  split
  . exact ⟨mme, rfl, h⟩
  . next ptr hptr =>
    have hlive := live_of_coherent h hptr
    have ⟨ueCtx, hctx⟩ := live_of_coherent h hptr
    refine .bind hctx ?_
    split
    . exact ⟨mme, rfl, h⟩
    . split
      . next hunchecked =>
        exact coheres_handleUncheckedNas h hctx fun imsi hmsg => hok ptr ueCtx imsi hptr hctx hmsg hunchecked
      . split
        . exact (Stays.handleNewContextNas h hlive nasMsg).coheres h
        . exact (Stays.handleNewContextNas h hlive nasMsg).coheres h
        . exact (Stays.handleProtectedNas h hlive nasMsg).coheres h
        . exact (Stays.handleProtectedNas h hlive nasMsg).coheres h
        . exact ⟨mme, rfl, h⟩

theorem coheres_handleUeContextReleaseComplete (mmeUeS1apId : Nat)
    : Coheres (mme.handleUeContextReleaseComplete mmeUeS1apId) := by
  unfold handleUeContextReleaseComplete
  split
  . exact ⟨mme, rfl, h⟩
  . next ptr hptr =>
    have ⟨ueCtx, hctx⟩ := live_of_coherent h hptr
    have ⟨mme₁, herabs, hmaps₁⟩ := Stays.of_serves (@serves_releaseErabs mme ptr ueCtx) ⟨ueCtx, hctx⟩
    have h₁ : mme₁.ctxMaps.Coherent := hmaps₁ ▸ h
    have ⟨mme₂, hrelease, hreleased, _⟩ := released_releaseUeEcmCtx h₁ ueCtx.ecmCtx.mmeUeS1apId
    exact .bind hctx (.bind herabs ⟨mme₂, hrelease, hreleased.coherent⟩)

theorem coheres_deleteEnbCtx (henb : enbSri ∈ mme.sctpToEnbId)
    (hueIds : mme.enbAssocToUeIds.lookup enbSri = some [])
    : Coheres (mme.deleteEnbCtx enbSri) := by
  have ⟨enbId, henbId⟩ := mem_iff.mp henb
  unfold deleteEnbCtx releaseUesEcmCtxInEnb
  refine .bind henbId ?_
  split
  . rw [hueIds]
    exact ⟨_, rfl, h.removeEnb enbSri⟩
  . exact ⟨mme, rfl, h⟩

theorem coherent_handleS1SetupRequest (enbSri enbId plmn : Nat)
    : (mme.handleS1SetupRequest enbSri enbId plmn).ctxMaps.Coherent := by
  unfold handleS1SetupRequest
  split
  . exact h
  . exact h.addEnb enbSri (enbId % 2 ^ 16)

end

end Mme

/--
What keeps the maps consistent in one step. An id is only taken from a context, or given to it, where the
entry of the old id is removed: not while the eNB of the context is gone, not by a UE context release request,
not with the eNB, not by an initial detach request. A context keeps its IMSI while the map leads to it. The
counter of the ids does not wrap, and a known M-TMSI has a context where it is taken for granted.
-/
def MmeEvent.Orderly (alg : NasAlgorithms) (mme : Mme) (event : MmeEvent) : Prop :=
  match event with
  | .initialUeMessage _ _ sTmsi nasMsg =>
    mme.nextMmeUeS1apId + 2 < 2 ^ 32 ∧
      match nasMsg.msg, sTmsi with
      | .attachRequest attachReq, _ =>
        match attachReq.epsMobileId with
        | .imsi imsi =>
          ∀ ptr ueCtx, mme.findUeCtxFromImsi imsi = some ptr → mme.ueCtxs.lookup ptr = some ueCtx → mme.Releasable ueCtx
        | .guti mTmsi => mme.GutiAttachable alg mTmsi nasMsg
        | .other => True
      | .serviceRequest shortMac, some mTmsi =>
        ∀ ptr ueCtx, (mme.tmsiToImsi.lookup mTmsi).bind mme.findUeCtxFromImsi = some ptr →
          mme.ueCtxs.lookup ptr = some ueCtx → ueCtx.emmCtx.state = .registered →
          ueCtx.incrementUlNasCount.emmCtx.securityCtxt.shortIntegrityCheck alg nasMsg shortMac = true →
          mme.Reconnectable ueCtx
      | .detachRequest, some mTmsi => mme.InitiallyDetachable mTmsi
      | .trackingAreaUpdateRequest, some mTmsi =>
        ∀ imsi, mme.tmsiToImsi.lookup mTmsi = some imsi → imsi ∈ mme.imsiToUeCtx
      | _, _ => True
  | .uplinkNasTransport mmeUeS1apId _ nasMsg =>
    ∀ ptr ueCtx imsi, mme.findUeCtxFromMmeUeS1apId mmeUeS1apId = some ptr → mme.ueCtxs.lookup ptr = some ueCtx →
      nasMsg.msg = .identityResponse imsi → nasMsg.uncheckedUl = true →
        imsi = ueCtx.emmCtx.imsi ∨ mme.imsiToUeCtx.lookup ueCtx.emmCtx.imsi ≠ some ptr
  | .ueContextReleaseRequest mmeUeS1apId => mmeUeS1apId ∉ mme.mmeUeS1apIdToUeCtx
  | .sctpShutdown enbSri => enbSri ∈ mme.sctpToEnbId ∧ mme.enbAssocToUeIds.lookup enbSri = some []
  | _ => True

namespace Mme

variable {alg : NasAlgorithms} {env : MmeEnv} {mme : Mme}

theorem coheres_handleInitialUeMessage (h : mme.ctxMaps.Coherent) {enbUeS1apId enbSri : Nat} {sTmsi : Option Nat}
    {nasMsg : NasPdu UlNasMsg}
    (horderly : MmeEvent.Orderly alg mme (.initialUeMessage enbUeS1apId enbSri sTmsi nasMsg))
    : Coheres (mme.handleInitialUeMessage alg enbUeS1apId enbSri sTmsi nasMsg env) := by
  obtain ⟨hnext, horderly⟩ := horderly
  unfold handleInitialUeMessage
  split
  . next attachReq hmsg =>
    rw [hmsg] at horderly
    unfold handleNasAttachRequest
    dsimp only at horderly
    split
    . next imsi hid =>
      rw [hid] at horderly
      exact coheres_handleNasImsiAttachRequest h (by omega) horderly
    . next mTmsi hid =>
      rw [hid] at horderly
      exact coheres_handleNasGutiAttachRequest h hnext horderly
    . exact ⟨mme, rfl, h⟩
  . next hmsg =>
    rw [hmsg] at horderly
    exact coheres_handleNasServiceRequest h (by omega) horderly
  . next hmsg =>
    rw [hmsg] at horderly
    exact coheres_handleInitialDetachRequest h (by omega) horderly
  . next hmsg =>
    rw [hmsg] at horderly
    exact (stays_handleInitialTrackingAreaUpdateRequest h horderly).coheres h
  . exact ⟨mme, rfl, h⟩

theorem coheres_handle (h : mme.ctxMaps.Coherent) {event : MmeEvent} (horderly : event.Orderly alg mme)
    : Coheres (mme.handle alg event env) := by
  cases event with
  | s1SetupRequest enbSri enbId plmn => exact ⟨_, rfl, coherent_handleS1SetupRequest h enbSri enbId plmn⟩
  | initialUeMessage enbUeS1apId enbSri sTmsi nasMsg => exact coheres_handleInitialUeMessage h horderly
  | uplinkNasTransport mmeUeS1apId enbSri nasMsg => exact coheres_handleUplinkNasTransport h horderly
  | initialContextSetupResponse mmeUeS1apId erabs =>
    exact Stays.coheres (.of_serves serves_handleInitialContextSetupResponse
      ⟨imsiLive_of_coherent h, fun _ hptr => live_of_coherent h hptr⟩) h
  | ueContextReleaseRequest mmeUeS1apId =>
    have hnone : mme.findUeCtxFromMmeUeS1apId mmeUeS1apId = none := lookup_eq_none.mpr horderly
    unfold handle handleUeContextReleaseRequest
    simp only [hnone]
    exact ⟨mme, rfl, h⟩
  | ueContextReleaseComplete mmeUeS1apId => exact coheres_handleUeContextReleaseComplete h mmeUeS1apId
  | sctpShutdown enbSri => exact coheres_deleteEnbCtx h horderly.1 horderly.2

/--
The maps lead to contexts that have not been deleted and that have the id or the IMSI that they are found
by, and the sets of the eNBs hold ids that lead to a context.
-/
structure Consistent (mme : Mme) : Prop where
  mmeUeS1apIdToUeCtx : ∀ mmeUeS1apId ptr, mme.mmeUeS1apIdToUeCtx.lookup mmeUeS1apId = some ptr →
    ∃ ueCtx, mme.ueCtxs.lookup ptr = some ueCtx ∧ ueCtx.ecmCtx.mmeUeS1apId = mmeUeS1apId
  imsiToUeCtx : ∀ imsi ptr, mme.imsiToUeCtx.lookup imsi = some ptr →
    ∃ ueCtx, mme.ueCtxs.lookup ptr = some ueCtx ∧ ueCtx.emmCtx.imsi = imsi
  enbAssocToUeIds : ∀ enbSri ueIds, mme.enbAssocToUeIds.lookup enbSri = some ueIds →
    ∀ mmeUeS1apId ∈ ueIds, mmeUeS1apId ∈ mme.mmeUeS1apIdToUeCtx

theorem consistent_of_coherent (h : mme.ctxMaps.Coherent) : mme.Consistent where
  mmeUeS1apIdToUeCtx := by
    intro mmeUeS1apId ptr hptr
    have ⟨ids, hids, hid⟩ := h.mmeUeS1apId hptr
    obtain ⟨ueCtx, hctx, rfl⟩ := map_eq_some_iff.mp hids
    exact ⟨ueCtx, hctx, hid⟩
  imsiToUeCtx := by
    intro imsi ptr hptr
    have ⟨ids, hids, himsi⟩ := h.imsi hptr
    obtain ⟨ueCtx, hctx, rfl⟩ := map_eq_some_iff.mp hids
    exact ⟨ueCtx, hctx, himsi⟩
  enbAssocToUeIds := by
    intro enbSri ueIds hueIds mmeUeS1apId hmem
    have ⟨ptr, ids, hptr, _⟩ := h.ueIds hueIds hmem
    exact mem_of_lookup_eq_some hptr

theorem coherent_init (plmn nextMTmsi : Nat) (hss : Hss) (gtpc : Gtpc)
    : (Mme.init plmn nextMTmsi hss gtpc).ctxMaps.Coherent where
  mmeUeS1apId := nofun
  imsi := nofun
  ueIds := nofun
  nodup := nofun
  pos := nofun
  lt := nofun
  next := Nat.one_ne_zero
  heap := nofun
  assoc := fun hmem => absurd hmem notMem_empty

theorem maps_consistent (alg : NasAlgorithms) (plmn nextMTmsi : Nat) (hss : Hss) (gtpc : Gtpc)
    (events : List (MmeEvent × MmeEnv))
    (horderly : Trace.Along (step alg) (fun mme event => ∀ mme' ∈ mme, event.1.Orderly alg mme')
      (some (Mme.init plmn nextMTmsi hss gtpc)) events)
    : Trace.Throughout (step alg) (fun mme => ∃ mme' ∈ mme, mme'.Consistent)
        (some (Mme.init plmn nextMTmsi hss gtpc)) events := by
  have hinv : Trace.Throughout (step alg) Coheres (some (Mme.init plmn nextMTmsi hss gtpc)) events := by
    apply Trace.throughout_of_along _ _ horderly
    . rintro mme event ⟨mme₁, rfl, h₁⟩ horderly
      exact coheres_handle h₁ (horderly mme₁ rfl)
    . exact ⟨_, rfl, coherent_init plmn nextMTmsi hss gtpc⟩
  apply hinv.mono
  rintro mme ⟨mme₁, rfl, h₁⟩
  exact ⟨mme₁, rfl, consistent_of_coherent h₁⟩

def connectOne : List (MmeEvent × MmeEnv) := [
  (.s1SetupRequest 1 1 0, .null),
  (attachOne, .null)
]

theorem maps_consistent_connectOne
    : ∃ mme,
        execOne (connectOne ++ [(.ueContextReleaseComplete 1, .null)]) = some mme
          ∧ mme.imsiToUeCtx.lookup 1 = some 0
          ∧ mme.Consistent := by
  have hrun : ∃ mme,
      execOne (connectOne ++ [(.ueContextReleaseComplete 1, .null)]) = some mme
        ∧ mme.imsiToUeCtx.lookup 1 = some 0 :=
    ⟨_, rfl, rfl⟩
  have ⟨mme, hexec, himsi⟩ := hrun
  have horderly : Trace.Along (step NasAlgorithms.null)
      (fun mme event => ∀ mme' ∈ mme, event.1.Orderly NasAlgorithms.null mme')
      (some (Mme.init 0 0 Hss.lastSqn (Gtpc.init 0 0))) (connectOne ++ [(.ueContextReleaseComplete 1, .null)]) := by
    refine ⟨fun _ _ => trivial, ?_, fun _ _ => trivial, trivial⟩
    intro mme' hmme'
    cases hmme'
    exact ⟨by decide, nofun⟩
  have ⟨mme', hmme', hconsistent⟩ := (maps_consistent NasAlgorithms.null 0 0 Hss.lastSqn (Gtpc.init 0 0) _ horderly).exec
  cases hexec.symm.trans hmme'
  exact ⟨mme, hexec, himsi, hconsistent⟩

theorem not_consistent_connectOne
    : ∃ mme,
        execOne (connectOne ++ [(.ueContextReleaseRequest 1, .null)]) = some mme
          ∧ ¬mme.Consistent := by
  have hrun : ∃ mme ueCtx,
      execOne (connectOne ++ [(.ueContextReleaseRequest 1, .null)]) = some mme
        ∧ mme.mmeUeS1apIdToUeCtx.lookup 1 = some 0
        ∧ mme.ueCtxs.lookup 0 = some ueCtx
        ∧ ueCtx.ecmCtx.mmeUeS1apId = 0 :=
    ⟨_, _, rfl, rfl, rfl, rfl⟩
  have ⟨mme, ueCtx, hexec, hptr, hctx, hid⟩ := hrun
  refine ⟨mme, hexec, ?_⟩
  intro hconsistent
  have ⟨ueCtx', hctx', hid'⟩ := hconsistent.mmeUeS1apIdToUeCtx 1 0 hptr
  cases hctx.symm.trans hctx'
  rw [hid] at hid'
  cases hid'

end Mme

end SrsLte
