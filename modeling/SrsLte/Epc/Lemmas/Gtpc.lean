import SrsLte.Epc.Lemmas.Spgw

/-!
This module contains the verification that the requests of `mme_gtpc.cc` reach the right sessions of
`spgw.cc`. The TEID that the MME takes for the one of the SPGW is its own, which is the same number as
long as neither counter has wrapped around.
-/

namespace SrsLte

open Option Finmap

def GtpcRequest.teid (request : GtpcRequest) : Option Nat :=
  match request with
  | .createSession _ _ => none
  | .modifyBearer teid _ => some teid
  | .releaseAccessBearers teid => some teid
  | .deleteSession teid => some teid

namespace Spgw

theorem handle_frame (spgw : Spgw) {request : GtpcRequest} {teid : Nat} (h : request.teid = some teid)
    : (spgw.handle request).nextCtrlTeid = spgw.nextCtrlTeid
        ∧ (spgw.handle request).imsiToCtrTeid = spgw.imsiToCtrTeid := by
  cases request with
  | createSession _ _ => cases h
  | modifyBearer _ _ =>
    unfold handle handleModifyBearerRequest
    dsimp only
    split <;> exact ⟨rfl, rfl⟩
  | releaseAccessBearers _ =>
    unfold handle handleReleaseAccessBearersRequest
    dsimp only
    split <;> exact ⟨rfl, rfl⟩
  | deleteSession _ =>
    unfold handle handleDeleteSessionRequest
    dsimp only
    split <;> exact ⟨rfl, rfl⟩

def imsiAt (spgw : Spgw) (teid : Nat) : Option Nat :=
  (spgw.teidToTunnelCtx.lookup teid).map SpgwTunnelCtx.imsi

variable (spgw : Spgw)

theorem imsiAt_handleModifyBearerRequest (teid teid' : Nat) (s1uEnbFTeid : GtpFteid)
    : (spgw.handle (.modifyBearer teid s1uEnbFTeid)).imsiAt teid' = spgw.imsiAt teid' := by
  unfold handle handleModifyBearerRequest imsiAt
  dsimp only
  split
  . rfl
  . next tunnelCtx hlookup =>
    rw [Map.lookup_insert_ite]
    split
    . next heq => rw [heq, hlookup]; rfl
    . rfl

theorem imsiAt_handleReleaseAccessBearersRequest (teid teid' : Nat)
    : (spgw.handle (.releaseAccessBearers teid)).imsiAt teid' = spgw.imsiAt teid' := by
  unfold handle handleReleaseAccessBearersRequest
  dsimp only
  split <;> rfl

theorem imsiAt_handleDeleteSessionRequest (teid teid' : Nat)
    : (spgw.handle (.deleteSession teid)).imsiAt teid' = if teid' = teid then none else spgw.imsiAt teid' := by
  unfold handle handleDeleteSessionRequest imsiAt
  dsimp only
  split
  . next hnone =>
    split
    . next heq => rw [heq, hnone]; rfl
    . rfl
  . rw [Map.lookup_erase_ite]
    split <;> rfl

theorem imsiAt_handleCreateSessionRequest (imsi teid : Nat) (senderFTeid : GtpFteid)
    : (spgw.handleCreateSessionRequest imsi senderFTeid).1.imsiAt teid
        =
      if teid = spgw.nextCtrlTeid % 2 ^ 32 then
        some (((spgw.deletePrevious imsi).imsiAt teid).getD imsi)
      else if spgw.imsiToCtrTeid.lookup imsi = some teid then
        none
      else
        spgw.imsiAt teid := by
  simp only [handleCreateSessionRequest, createGtpCtx, imsiAt, Map.lookup_insertNew,
    nextCtrlTeid_deletePrevious]
  split
  . next heq =>
    rw [heq]
    cases (spgw.deletePrevious imsi).teidToTunnelCtx.lookup (spgw.nextCtrlTeid % 2 ^ 32) <;> rfl
  . rw [teidToTunnelCtx_deletePrevious]
    split <;> rfl

theorem imsiToCtrTeid_handleCreateSessionRequest {spgw : Spgw} {imsi imsi' teid : Nat} {senderFTeid : GtpFteid}
    (h : (spgw.handleCreateSessionRequest imsi senderFTeid).1.imsiToCtrTeid.lookup imsi' = some teid)
    : spgw.imsiToCtrTeid.lookup imsi' = some teid ∨ (imsi' = imsi ∧ teid = spgw.nextCtrlTeid % 2 ^ 32) := by
  have hdelete : (spgw.deletePrevious imsi).imsiToCtrTeid.lookup imsi' = some teid →
      spgw.imsiToCtrTeid.lookup imsi' = some teid := by
    unfold deletePrevious deleteGtpCtx
    split
    . exact id
    . split
      . exact id
      . dsimp only
        rw [Map.lookup_erase_ite]
        split
        . nofun
        . exact id
  simp only [handleCreateSessionRequest, createGtpCtx, Map.lookup_insertNew, nextCtrlTeid_deletePrevious] at h
  split at h
  . next heq =>
    subst heq
    cases hprevious : (spgw.deletePrevious imsi').imsiToCtrTeid.lookup imsi' with
    | none =>
      rw [hprevious] at h
      exact .inr ⟨rfl, (Option.some.inj h).symm⟩
    | some previous =>
      rw [hprevious] at h
      exact .inl (hdelete (hprevious.trans h))
  . exact .inl (hdelete h)

end Spgw

namespace MmeGtpc

theorem imsiToGtpcCtx_erasePrevious (gtpc : MmeGtpc) (imsi imsi' : Nat)
    : (gtpc.erasePrevious imsi).imsiToGtpcCtx.lookup imsi'
        =
      if imsi' = imsi then none else gtpc.imsiToGtpcCtx.lookup imsi' := by
  unfold erasePrevious
  split
  . next hnone =>
    split
    . next heq => rw [heq, hnone]
    . rfl
  . exact Map.lookup_erase_ite _ _ _

theorem mmeCtrTeidToImsi_erasePrevious (gtpc : MmeGtpc) (imsi teid : Nat)
    : (gtpc.erasePrevious imsi).mmeCtrTeidToImsi.lookup teid
        =
      if (gtpc.imsiToGtpcCtx.lookup imsi).map (fun gtpcCtx => gtpcCtx.mmeCtrFteid.teid) = some teid then
        none
      else
        gtpc.mmeCtrTeidToImsi.lookup teid := by
  unfold erasePrevious
  split
  . next hnone => simp [hnone]
  . next gtpcCtx hsome =>
    simp only [hsome, map_some, Option.some.injEq, eq_comm (b := teid)]
    exact Map.lookup_erase_ite _ _ _

theorem erasePrevious_nextCtrlTeid (gtpc : MmeGtpc) (imsi nextCtrlTeid : Nat)
    : { gtpc with nextCtrlTeid }.erasePrevious imsi = { gtpc.erasePrevious imsi with nextCtrlTeid } := by
  unfold erasePrevious
  dsimp only
  split <;> rfl

theorem handleCreateSessionResponse_of_ne {gtpc : MmeGtpc} {response : CreateSessionResponse} {imsi imsi' : Nat}
    (hteid : gtpc.mmeCtrTeidToImsi.lookup response.teid = some imsi) (hne : imsi' ≠ imsi) (findUeCtx : Nat → Bool)
    : (gtpc.handleCreateSessionResponse findUeCtx response).1.imsiToGtpcCtx.lookup imsi'
        =
      gtpc.imsiToGtpcCtx.lookup imsi' := by
  unfold handleCreateSessionResponse
  rw [hteid]
  dsimp only
  split
  . split
    . rfl
    . exact lookup_insert_of_ne _ hne
  . rfl

end MmeGtpc

namespace Gtpc

structure Agree (gtpc : Gtpc) : Prop where
  lockstep : gtpc.mme.nextCtrlTeid = gtpc.spgw.nextCtrlTeid % 2 ^ 32
  nextCtrlTeid_le : gtpc.spgw.nextCtrlTeid ≤ 2 ^ 32
  imsiAt_lt : ∀ teid imsi, gtpc.spgw.imsiAt teid = some imsi → teid < gtpc.spgw.nextCtrlTeid
  ctrTeid_lt : ∀ imsi teid, gtpc.spgw.imsiToCtrTeid.lookup imsi = some teid → teid < gtpc.spgw.nextCtrlTeid
  mmeCtrTeid_lt : ∀ teid imsi, gtpc.mme.mmeCtrTeidToImsi.lookup teid = some imsi → teid < gtpc.spgw.nextCtrlTeid
  -- the context may be gone while the entry of its IMSI is still there
  ctrTeid_own : ∀ imsi teid imsi', gtpc.spgw.imsiToCtrTeid.lookup imsi = some teid →
    gtpc.spgw.imsiAt teid = some imsi' → imsi' = imsi
  session : ∀ imsi gtpcCtx, gtpc.mme.imsiToGtpcCtx.lookup imsi = some gtpcCtx →
    gtpcCtx.sgwCtrFteid.teid = gtpcCtx.mmeCtrFteid.teid
      ∧ gtpc.mme.mmeCtrTeidToImsi.lookup gtpcCtx.mmeCtrFteid.teid = some imsi
      ∧ gtpc.spgw.imsiAt gtpcCtx.mmeCtrFteid.teid = some imsi

theorem agree_init (s1uAddr sgiIfAddr : Nat) : (init s1uAddr sgiIfAddr).Agree := by
  constructor <;> simp [init, MmeGtpc.init, Spgw.init, Spgw.imsiAt]

theorem createSession_mme {gtpc : Gtpc} {findUeCtx : Nat → Bool} {imsi : Nat} (hknown : findUeCtx imsi = true)
    (hfresh : gtpc.mme.mmeCtrTeidToImsi.lookup gtpc.mme.nextCtrlTeid = none)
    : (gtpc.createSession findUeCtx imsi).1.mme
        =
      let teid := gtpc.mme.nextCtrlTeid
      let previous := gtpc.mme.erasePrevious imsi
      {
        nextCtrlTeid := (teid + 1) % 2 ^ 32
        mmeCtrTeidToImsi := previous.mmeCtrTeidToImsi.insert teid imsi
        imsiToGtpcCtx := previous.imsiToGtpcCtx.insert imsi ⟨⟨teid, MmeGtpc.mmeGtpcIp⟩, ⟨teid, 0⟩⟩
      } := by
  have hctx : (gtpc.mme.erasePrevious imsi).imsiToGtpcCtx.lookup imsi = none := by
    rw [MmeGtpc.imsiToGtpcCtx_erasePrevious, if_pos rfl]
  have hteid : (gtpc.mme.erasePrevious imsi).mmeCtrTeidToImsi.lookup gtpc.mme.nextCtrlTeid = none := by
    rw [MmeGtpc.mmeCtrTeidToImsi_erasePrevious, hfresh, ite_self]
  simp only [createSession, MmeGtpc.sendCreateSessionRequest, MmeGtpc.erasePrevious_nextCtrlTeid,
    Map.insertNew_of_lookup_eq_none hctx, Map.insertNew_of_lookup_eq_none hteid,
    Spgw.handleCreateSessionRequest, Spgw.createGtpCtx, MmeGtpc.handleCreateSessionResponse,
    lookup_insert, hknown, if_true, insert_insert]

section Agree

variable {gtpc : Gtpc} (h : gtpc.Agree)

include h

variable (findUeCtx : Nat → Bool) {imsi imsi' : Nat} {gtpcCtx : GtpcCtx}

theorem Agree.teid_ne (hne : imsi' ≠ imsi) {gtpcCtx' : GtpcCtx}
    (hsome : gtpc.mme.imsiToGtpcCtx.lookup imsi = some gtpcCtx)
    (hsome' : gtpc.mme.imsiToGtpcCtx.lookup imsi' = some gtpcCtx')
    : gtpcCtx'.mmeCtrFteid.teid ≠ gtpcCtx.mmeCtrFteid.teid := by
  intro heq
  have himsi := (h.session imsi gtpcCtx hsome).2.1
  have himsi' := (h.session imsi' gtpcCtx' hsome').2.1
  rw [heq, himsi] at himsi'
  exact hne (Option.some.inj himsi').symm

theorem Agree.mmeCtrTeidToImsi_erasePrevious (hne : imsi' ≠ imsi)
    (hsome : gtpc.mme.imsiToGtpcCtx.lookup imsi' = some gtpcCtx)
    : (gtpc.mme.erasePrevious imsi).mmeCtrTeidToImsi.lookup gtpcCtx.mmeCtrFteid.teid = some imsi' := by
  rw [MmeGtpc.mmeCtrTeidToImsi_erasePrevious, if_neg]
  . exact (h.session imsi' gtpcCtx hsome).2.1
  . intro heq
    have ⟨previous, hprevious, hteid⟩ := map_eq_some_iff.mp heq
    exact h.teid_ne hne hprevious hsome hteid.symm

theorem Agree.mmeCtrTeid_lt_erasePrevious {teid : Nat}
    (hsome : (gtpc.mme.erasePrevious imsi).mmeCtrTeidToImsi.lookup teid = some imsi')
    : teid < gtpc.spgw.nextCtrlTeid := by
  rw [MmeGtpc.mmeCtrTeidToImsi_erasePrevious] at hsome
  split at hsome
  . cases hsome
  . exact h.mmeCtrTeid_lt teid imsi' hsome

theorem Agree.of_imsiAt {spgw : Spgw} (hnext : spgw.nextCtrlTeid = gtpc.spgw.nextCtrlTeid)
    (hteid : spgw.imsiToCtrTeid = gtpc.spgw.imsiToCtrTeid) (himsi : ∀ teid, spgw.imsiAt teid = gtpc.spgw.imsiAt teid)
    : Agree { gtpc with spgw } where
  lockstep := by
    rw [hnext]
    exact h.lockstep
  nextCtrlTeid_le := by
    rw [hnext]
    exact h.nextCtrlTeid_le
  imsiAt_lt := by
    simp only [hnext, himsi]
    exact h.imsiAt_lt
  ctrTeid_lt := by
    simp only [hnext, hteid]
    exact h.ctrTeid_lt
  mmeCtrTeid_lt := by
    simp only [hnext]
    exact h.mmeCtrTeid_lt
  ctrTeid_own := by
    simp only [himsi, hteid]
    exact h.ctrTeid_own
  session := by
    simp only [himsi]
    exact h.session

theorem Agree.delivered (ctx? : Option GtpcCtx) {request : GtpcCtx → GtpcRequest} {teid : GtpcCtx → Nat}
    (hteid : ∀ ctx, (request ctx).teid = some (teid ctx))
    (himsi : ∀ ctx teid, (gtpc.spgw.handle (request ctx)).imsiAt teid = gtpc.spgw.imsiAt teid)
    : (gtpc.deliver (ctx?.map request)).Agree := by
  cases ctx? with
  | none => exact h
  | some ctx =>
    have hframe := gtpc.spgw.handle_frame (hteid ctx)
    exact h.of_imsiAt hframe.1 hframe.2 (himsi ctx)

theorem Agree.modifyBearer (imsi : Nat) (enbFteid : GtpFteid)
    : (gtpc.step findUeCtx (.modifyBearer imsi enbFteid)).Agree :=
  h.delivered _ (fun _ => rfl) fun _ _ => Spgw.imsiAt_handleModifyBearerRequest ..

theorem Agree.releaseAccessBearers (imsi : Nat)
    : (gtpc.step findUeCtx (.releaseAccessBearers imsi)).Agree :=
  h.delivered _ (fun _ => rfl) fun _ _ => Spgw.imsiAt_handleReleaseAccessBearersRequest ..

theorem Agree.deleteSession (imsi : Nat)
    : (gtpc.step findUeCtx (.deleteSession imsi)).Agree := by
  cases hsome : gtpc.mme.imsiToGtpcCtx.lookup imsi with
  | none =>
    have hstep : gtpc.step findUeCtx (.deleteSession imsi) = gtpc := by
      simp [step, request, MmeGtpc.sendDeleteSessionRequest, MmeGtpc.erasePrevious, hsome, deliver]
    rw [hstep]
    exact h
  | some gtpcCtx =>
    have hframe := @Spgw.handle_frame gtpc.spgw (.deleteSession gtpcCtx.sgwCtrFteid.teid) _ rfl
    have himsiAt := gtpc.spgw.imsiAt_handleDeleteSessionRequest gtpcCtx.sgwCtrFteid.teid
    have hstep : gtpc.step findUeCtx (.deleteSession imsi) =
        { mme := gtpc.mme.erasePrevious imsi,
          spgw := gtpc.spgw.handle (.deleteSession gtpcCtx.sgwCtrFteid.teid) } := by
      simp [step, request, MmeGtpc.sendDeleteSessionRequest, hsome, deliver]
    have hnext : (gtpc.mme.erasePrevious imsi).nextCtrlTeid = gtpc.mme.nextCtrlTeid := by
      simp [MmeGtpc.erasePrevious, hsome]
    have hsome_of_imsiAt : ∀ {teid imsi'},
        (gtpc.spgw.handle (.deleteSession gtpcCtx.sgwCtrFteid.teid)).imsiAt teid = some imsi' →
        gtpc.spgw.imsiAt teid = some imsi' := by
      intro teid imsi' hat
      rw [himsiAt] at hat
      split at hat
      . cases hat
      . exact hat
    rw [hstep]
    constructor
    . dsimp only
      rw [hnext, hframe.1]
      exact h.lockstep
    . dsimp only
      rw [hframe.1]
      exact h.nextCtrlTeid_le
    . intro teid imsi' hat
      rw [hframe.1]
      exact h.imsiAt_lt teid imsi' (hsome_of_imsiAt hat)
    . dsimp only
      rw [hframe.1, hframe.2]
      exact h.ctrTeid_lt
    . intro teid imsi' hat
      rw [hframe.1]
      exact h.mmeCtrTeid_lt_erasePrevious hat
    . intro imsi' teid imsi'' hteid hat
      rw [hframe.2] at hteid
      exact h.ctrTeid_own imsi' teid imsi'' hteid (hsome_of_imsiAt hat)
    . intro imsi' gtpcCtx' hsome'
      rw [MmeGtpc.imsiToGtpcCtx_erasePrevious] at hsome'
      split at hsome'
      . cases hsome'
      . next hne =>
        have ⟨hsgw, _, hat⟩ := h.session imsi' gtpcCtx' hsome'
        refine ⟨hsgw, h.mmeCtrTeidToImsi_erasePrevious hne hsome', ?_⟩
        rw [himsiAt, if_neg]
        . exact hat
        . rw [(h.session imsi gtpcCtx hsome).1]
          exact h.teid_ne hne hsome hsome'

theorem Agree.lookup_nextCtrlTeid (hlt : gtpc.spgw.nextCtrlTeid < 2 ^ 32)
    : gtpc.mme.mmeCtrTeidToImsi.lookup gtpc.mme.nextCtrlTeid = none := by
  have hlockstep := h.lockstep
  cases hsome : gtpc.mme.mmeCtrTeidToImsi.lookup gtpc.mme.nextCtrlTeid with
  | none => rfl
  | some imsi =>
    have := h.mmeCtrTeid_lt _ imsi hsome
    omega

theorem Agree.imsiAt_createSession (hlt : gtpc.spgw.nextCtrlTeid < 2 ^ 32) (imsi teid : Nat) (senderFTeid : GtpFteid)
    : (gtpc.spgw.handleCreateSessionRequest imsi senderFTeid).1.imsiAt teid
        =
      if teid = gtpc.spgw.nextCtrlTeid then
        some imsi
      else if gtpc.spgw.imsiToCtrTeid.lookup imsi = some teid then
        none
      else
        gtpc.spgw.imsiAt teid := by
  rw [Spgw.imsiAt_handleCreateSessionRequest, Nat.mod_eq_of_lt hlt]
  split
  . next heq =>
    have hnone : gtpc.spgw.teidToTunnelCtx.lookup teid = none := by
      cases hsome : gtpc.spgw.teidToTunnelCtx.lookup teid with
      | none => rfl
      | some tunnelCtx =>
        have := h.imsiAt_lt teid tunnelCtx.imsi (by rw [Spgw.imsiAt, hsome]; rfl)
        omega
    rw [Spgw.imsiAt, Spgw.teidToTunnelCtx_deletePrevious, hnone, ite_self]
    rfl
  . rfl

theorem Agree.createSession {findUeCtx : Nat → Bool} {imsi : Nat} (hknown : findUeCtx imsi = true)
    (hlt : gtpc.spgw.nextCtrlTeid < 2 ^ 32)
    : (gtpc.step findUeCtx (.createSession imsi)).Agree := by
  have hlockstep := h.lockstep
  rw [Nat.mod_eq_of_lt hlt] at hlockstep
  have hmme := createSession_mme hknown (h.lookup_nextCtrlTeid hlt)
  have himsiAt := fun teid => h.imsiAt_createSession hlt imsi teid ⟨gtpc.mme.nextCtrlTeid, MmeGtpc.mmeGtpcIp⟩
  have hteid := fun imsi' teid => @Spgw.imsiToCtrTeid_handleCreateSessionRequest gtpc.spgw imsi imsi' teid
    ⟨gtpc.mme.nextCtrlTeid, MmeGtpc.mmeGtpcIp⟩
  have hstep : gtpc.step findUeCtx (.createSession imsi) =
      { mme := (gtpc.createSession findUeCtx imsi).1.mme,
        spgw := (gtpc.spgw.handleCreateSessionRequest imsi ⟨gtpc.mme.nextCtrlTeid, MmeGtpc.mmeGtpcIp⟩).1 } := rfl
  have hnext : (gtpc.spgw.handleCreateSessionRequest imsi ⟨gtpc.mme.nextCtrlTeid, MmeGtpc.mmeGtpcIp⟩).1.nextCtrlTeid
      = gtpc.spgw.nextCtrlTeid + 1 := by
    simp only [Spgw.handleCreateSessionRequest, Spgw.createGtpCtx, Spgw.nextCtrlTeid_deletePrevious]
    omega
  rw [hstep, hmme]
  simp only [Nat.mod_eq_of_lt hlt] at hteid
  constructor
  . dsimp only
    omega
  . dsimp only
    omega
  . intro teid imsi' hat
    dsimp only at hat ⊢
    rw [himsiAt] at hat
    split at hat
    . omega
    . split at hat
      . cases hat
      . have := h.imsiAt_lt teid imsi' hat
        omega
  . intro imsi' teid hsome
    dsimp only
    cases hteid imsi' teid hsome with
    | inl hold =>
      have := h.ctrTeid_lt imsi' teid hold
      omega
    | inr hnew => omega
  . intro teid imsi' hsome
    dsimp only at hsome ⊢
    rw [Map.lookup_insert_ite] at hsome
    split at hsome
    . omega
    . have := h.mmeCtrTeid_lt_erasePrevious hsome
      omega
  . intro imsi' teid imsi'' hsome hat
    rw [himsiAt] at hat
    cases hteid imsi' teid hsome with
    | inl hold =>
      have hlt' := h.ctrTeid_lt imsi' teid hold
      rw [if_neg (by omega)] at hat
      split at hat
      . cases hat
      . exact h.ctrTeid_own imsi' teid imsi'' hold hat
    | inr hnew =>
      rw [if_pos hnew.2] at hat
      exact (Option.some.inj hat).symm.trans hnew.1.symm
  . intro imsi' gtpcCtx hsome
    rw [Map.lookup_insert_ite] at hsome
    split at hsome
    . next heq =>
      cases hsome
      refine ⟨rfl, ?_, ?_⟩
      . rw [lookup_insert, heq]
      . rw [himsiAt, if_pos hlockstep, heq]
    . next hne =>
      rw [MmeGtpc.imsiToGtpcCtx_erasePrevious, if_neg hne] at hsome
      have ⟨hsgw, hback, hat⟩ := h.session imsi' gtpcCtx hsome
      have hlt' := h.mmeCtrTeid_lt _ imsi' hback
      refine ⟨hsgw, ?_, ?_⟩
      . rw [Map.lookup_insert_ite, if_neg (by omega)]
        exact h.mmeCtrTeidToImsi_erasePrevious hne hsome
      . rw [himsiAt, if_neg (by omega), if_neg]
        . exact hat
        . intro hprevious
          exact hne (h.ctrTeid_own imsi _ imsi' hprevious hat)

end Agree

def ActsOnOwn (gtpc : Gtpc) (call : GtpcCall) : Prop :=
  ∀ request, gtpc.request call = some request →
    ∃ teid, request.teid = some teid ∧ gtpc.spgw.imsiAt teid = some call.imsi

def CallOk (gtpc : Gtpc) (call : GtpcCall) : Prop :=
  match call with
  | .createSession _ => gtpc.spgw.nextCtrlTeid < 2 ^ 32
  | _ => True

instance (gtpc : Gtpc) (call : GtpcCall) : Decidable (gtpc.CallOk call) :=
  match call with
  | .createSession _ => inferInstanceAs (Decidable (gtpc.spgw.nextCtrlTeid < 2 ^ 32))
  | .modifyBearer .. | .releaseAccessBearers _ | .deleteSession _ => inferInstanceAs (Decidable True)

theorem Agree.actsOnOwn {gtpc : Gtpc} (h : gtpc.Agree) (call : GtpcCall) : gtpc.ActsOnOwn call := by
  intro request hrequest
  have hsession : ∀ imsi gtpcCtx, gtpc.mme.imsiToGtpcCtx.lookup imsi = some gtpcCtx →
      gtpc.spgw.imsiAt gtpcCtx.sgwCtrFteid.teid = some imsi := by
    intro imsi gtpcCtx hsome
    have ⟨hsgw, _, hat⟩ := h.session imsi gtpcCtx hsome
    rw [hsgw, hat]
  cases call with
  | createSession imsi => cases hrequest
  | modifyBearer imsi enbFteid =>
    obtain ⟨gtpcCtx, hsome, rfl⟩ := map_eq_some_iff.mp hrequest
    exact ⟨_, rfl, hsession imsi gtpcCtx hsome⟩
  | releaseAccessBearers imsi =>
    obtain ⟨gtpcCtx, hsome, rfl⟩ := map_eq_some_iff.mp hrequest
    exact ⟨_, rfl, hsession imsi gtpcCtx hsome⟩
  | deleteSession imsi =>
    obtain ⟨gtpcCtx, hsome, rfl⟩ := map_eq_some_iff.mp hrequest
    exact ⟨_, rfl, hsession imsi gtpcCtx hsome⟩

theorem Agree.step {gtpc : Gtpc} (h : gtpc.Agree) {findUeCtx : Nat → Bool} {call : GtpcCall}
    (hknown : findUeCtx call.imsi = true) (hok : gtpc.CallOk call)
    : (gtpc.step findUeCtx call).Agree := by
  cases call with
  | createSession imsi => exact h.createSession hknown hok
  | modifyBearer imsi enbFteid => exact h.modifyBearer findUeCtx imsi enbFteid
  | releaseAccessBearers imsi => exact h.releaseAccessBearers findUeCtx imsi
  | deleteSession imsi => exact h.deleteSession findUeCtx imsi

theorem actsOnOwn_of_callOk (s1uAddr sgiIfAddr : Nat) (findUeCtx : Nat → Bool) (calls : List GtpcCall)
    (hknown : ∀ call ∈ calls, findUeCtx call.imsi = true)
    (hok : Trace.Along (Gtpc.step findUeCtx) CallOk (init s1uAddr sgiIfAddr) calls)
    : Trace.Along (Gtpc.step findUeCtx) ActsOnOwn (init s1uAddr sgiIfAddr) calls := by
  have hagree := agree_init s1uAddr sgiIfAddr
  generalize init s1uAddr sgiIfAddr = gtpc at *
  induction calls generalizing gtpc with
  | nil => trivial
  | cons call calls ih =>
    have hhead := hknown call List.mem_cons_self
    constructor
    . exact hagree.actsOnOwn call
    . apply ih
      . intro call' hmem
        exact hknown call' (List.mem_cons_of_mem call hmem)
      . exact hok.2
      . exact hagree.step hhead hok.1

theorem actsOnOwn_deleted
    : Trace.Along (Gtpc.step fun _ => true) ActsOnOwn (init 0 0)
        [.createSession 1, .deleteSession 1, .createSession 1, .createSession 1, .modifyBearer 1 ⟨7, 0⟩] := by
  apply actsOnOwn_of_callOk
  . decide
  . exact ⟨by decide, trivial, by decide, by decide, trivial, trivial⟩

structure Filling (gtpc : Gtpc) : Prop where
  first : gtpc.mme.mmeCtrTeidToImsi.lookup 1 = some 1
  second : gtpc.mme.imsiToGtpcCtx.lookup 2 = none
  third : ∀ gtpcCtx, gtpc.mme.imsiToGtpcCtx.lookup 3 = some gtpcCtx → gtpcCtx.mmeCtrFteid.teid ≠ 1
  ctrTeid : gtpc.spgw.imsiToCtrTeid.lookup 2 = none
  zero : gtpc.mme.mmeCtrTeidToImsi.lookup 0 = none
  imsiAt_zero : gtpc.spgw.imsiAt 0 = none

section Filling

variable {gtpc : Gtpc} {findUeCtx : Nat → Bool} (hknown : findUeCtx 3 = true) (h : gtpc.Filling)

include h

theorem Filling.first_erasePrevious
    : (gtpc.mme.erasePrevious 3).mmeCtrTeidToImsi.lookup 1 = some 1 := by
  rw [MmeGtpc.mmeCtrTeidToImsi_erasePrevious, if_neg]
  . exact h.first
  . intro heq
    have ⟨gtpcCtx, hsome, hteid⟩ := map_eq_some_iff.mp heq
    exact h.third gtpcCtx hsome hteid

theorem Filling.ctrTeid_createSession (senderFTeid : GtpFteid)
    : (gtpc.spgw.handleCreateSessionRequest 3 senderFTeid).1.imsiToCtrTeid.lookup 2 = none := by
  cases hsome : (gtpc.spgw.handleCreateSessionRequest 3 senderFTeid).1.imsiToCtrTeid.lookup 2 with
  | none => rfl
  | some teid =>
    have hprevious := Spgw.imsiToCtrTeid_handleCreateSessionRequest hsome
    simp [h.ctrTeid] at hprevious

include hknown

theorem Filling.createSession (hagree : gtpc.Agree) (hlt : gtpc.spgw.nextCtrlTeid < 2 ^ 32)
    : (gtpc.step findUeCtx (.createSession 3)).Filling := by
  have hlockstep := hagree.lockstep
  have hone := hagree.mmeCtrTeid_lt 1 1 h.first
  have hmme := createSession_mme hknown (hagree.lookup_nextCtrlTeid hlt)
  constructor
  . rw [step, hmme, Map.lookup_insert_ite, if_neg (by omega)]
    exact h.first_erasePrevious
  . rw [step, hmme, Map.lookup_insert_ite, if_neg (by decide), MmeGtpc.imsiToGtpcCtx_erasePrevious,
      if_neg (by decide)]
    exact h.second
  . intro gtpcCtx hsome
    rw [step, hmme, lookup_insert] at hsome
    cases hsome
    dsimp only
    omega
  . exact h.ctrTeid_createSession _
  . rw [step, hmme, Map.lookup_insert_ite, if_neg (by omega), MmeGtpc.mmeCtrTeidToImsi_erasePrevious,
      h.zero, ite_self]
  . refine (hagree.imsiAt_createSession hlt 3 0 _).trans ?_
    rw [if_neg (by omega), h.imsiAt_zero, ite_self]

theorem Filling.createSession_zero (hnext : gtpc.spgw.nextCtrlTeid = 2 ^ 32) (hagree : gtpc.Agree)
    : let gtpc' := gtpc.step findUeCtx (.createSession 3)
      gtpc'.mme.nextCtrlTeid = 1
        ∧ gtpc'.mme.mmeCtrTeidToImsi.lookup 1 = some 1
        ∧ gtpc'.mme.imsiToGtpcCtx.lookup 2 = none
        ∧ gtpc'.spgw.nextCtrlTeid = 2 ^ 32 + 1
        ∧ gtpc'.spgw.imsiToCtrTeid.lookup 2 = none
        ∧ gtpc'.spgw.imsiAt 0 = some 3 := by
  have hzero : gtpc.mme.nextCtrlTeid = 0 := by
    rw [hagree.lockstep, hnext, Nat.mod_self]
  have hmme := createSession_mme hknown (hzero ▸ h.zero)
  refine ⟨?_, ?_, ?_, ?_, h.ctrTeid_createSession _, ?_⟩
  . rw [step, hmme, hzero]
    rfl
  . rw [step, hmme, hzero, Map.lookup_insert_ite, if_neg (by decide)]
    exact h.first_erasePrevious
  . rw [step, hmme, Map.lookup_insert_ite, if_neg (by decide), MmeGtpc.imsiToGtpcCtx_erasePrevious,
      if_neg (by decide)]
    exact h.second
  . simp only [step, Gtpc.createSession, Spgw.handleCreateSessionRequest, Spgw.createGtpCtx,
      Spgw.nextCtrlTeid_deletePrevious, hnext]
    rfl
  . have hprevious : (gtpc.spgw.deletePrevious 3).imsiAt 0 = none := by
      have hnone : gtpc.spgw.teidToTunnelCtx.lookup 0 = none := map_eq_none_iff.mp h.imsiAt_zero
      rw [Spgw.imsiAt, Spgw.teidToTunnelCtx_deletePrevious, hnone, ite_self]
      rfl
    refine (gtpc.spgw.imsiAt_handleCreateSessionRequest 3 0 _).trans ?_
    rw [hnext, if_pos (by decide), hprevious]
    rfl

theorem Filling.exec_replicate (n : Nat) (hagree : gtpc.Agree) (hle : gtpc.spgw.nextCtrlTeid + n ≤ 2 ^ 32)
    : let gtpc' := Trace.exec (Gtpc.step findUeCtx) gtpc (List.replicate n (.createSession 3))
      gtpc'.Agree ∧ gtpc'.Filling ∧ gtpc'.spgw.nextCtrlTeid = gtpc.spgw.nextCtrlTeid + n := by
  induction n generalizing gtpc with
  | zero => exact ⟨hagree, h, rfl⟩
  | succ n ih =>
    have hlt : gtpc.spgw.nextCtrlTeid < 2 ^ 32 := by omega
    have hnext : (gtpc.step findUeCtx (.createSession 3)).spgw.nextCtrlTeid = gtpc.spgw.nextCtrlTeid + 1 := by
      simp only [step, Gtpc.createSession, Spgw.handleCreateSessionRequest, Spgw.createGtpCtx,
        Spgw.nextCtrlTeid_deletePrevious]
      omega
    have hrest := ih (h.createSession hknown hagree hlt) (hagree.createSession hknown hlt) (by omega)
    refine ⟨hrest.1, hrest.2.1, ?_⟩
    exact hrest.2.2.trans (by omega)

end Filling

theorem filling_createSession : ((init 0 0).step (fun _ => true) (.createSession 1)).Filling := by
  have hmme := @createSession_mme (init 0 0) (fun _ => true) 1 rfl rfl
  constructor
  . rw [step, hmme]
    exact lookup_insert _
  . rw [step, hmme]
    rfl
  . rw [step, hmme]
    nofun
  . rfl
  . rfl
  . rfl

theorem request_createSession_two {gtpc : Gtpc} {findUeCtx : Nat → Bool} (hnext : gtpc.mme.nextCtrlTeid = 1)
    (hfirst : gtpc.mme.mmeCtrTeidToImsi.lookup 1 = some 1) (hsecond : gtpc.mme.imsiToGtpcCtx.lookup 2 = none)
    (enbFteid : GtpFteid)
    : (gtpc.step findUeCtx (.createSession 2)).request (.modifyBearer 2 enbFteid) = some (.modifyBearer 0 enbFteid) := by
  have hprevious : gtpc.mme.erasePrevious 2 = gtpc.mme := by
    rw [MmeGtpc.erasePrevious, hsecond]
  have hteid : (gtpc.mme.sendCreateSessionRequest 2).1.mmeCtrTeidToImsi.lookup 1 = some 1 := by
    simp [MmeGtpc.sendCreateSessionRequest, MmeGtpc.erasePrevious_nextCtrlTeid, hprevious, hnext,
      Map.lookup_insertNew, hfirst]
  have hctx : (gtpc.mme.sendCreateSessionRequest 2).1.imsiToGtpcCtx.lookup 2
      = some ⟨⟨1, MmeGtpc.mmeGtpcIp⟩, ⟨0, 0⟩⟩ := by
    simp [MmeGtpc.sendCreateSessionRequest, MmeGtpc.erasePrevious_nextCtrlTeid, hprevious, hnext,
      Map.lookup_insertNew, hsecond]
  have hresponse : (gtpc.spgw.handleCreateSessionRequest 2 (gtpc.mme.sendCreateSessionRequest 2).2).2.teid = 1 :=
    hnext
  rw [← hresponse] at hteid
  have hother := MmeGtpc.handleCreateSessionResponse_of_ne hteid (by rw [hresponse]; decide : 2 ≠ _) findUeCtx
  rw [hctx] at hother
  simp [step, Gtpc.createSession, request, MmeGtpc.sendModifyBearerRequest, hother]

theorem not_actsOnOwn_replicate {n : Nat} (hn : n = 2 ^ 32 - 2)
    : ¬Trace.Along (Gtpc.step fun _ => true) ActsOnOwn (init 0 0)
        ([.createSession 1] ++ List.replicate n (.createSession 3)
          ++ [.createSession 3, .createSession 2, .modifyBearer 2 ⟨7, 0⟩]) := by
  have hagree := @Agree.createSession _ (agree_init 0 0) (fun _ => true) 1 rfl (by decide)
  have hnext : ((init 0 0).step (fun _ => true) (.createSession 1)).spgw.nextCtrlTeid = 2 := rfl
  have ⟨hagree, hfill, hlast⟩ := @Filling.exec_replicate _ (fun _ => true) rfl filling_createSession n hagree
    (by omega)
  rw [Trace.along_append, Trace.exec_append, Trace.exec_cons, Trace.exec_nil]
  rintro ⟨-, -, -, hmodify, -⟩
  generalize Trace.exec _ _ (List.replicate n _) = gtpc at *
  have ⟨hmme, hfirst, hsecond, hspgw, hctrTeid, hzero⟩ :=
    @Filling.createSession_zero _ (fun _ => true) rfl hfill (by omega) hagree
  have hrequest := @request_createSession_two _ (fun _ => true) hmme hfirst hsecond ⟨7, 0⟩
  have ⟨teid, hteid, hat⟩ := hmodify _ hrequest
  cases hteid
  have himsiAt := Spgw.imsiAt_handleCreateSessionRequest (gtpc.step (fun _ => true) (.createSession 3)).spgw 2 0
    ⟨(gtpc.step (fun _ => true) (.createSession 3)).mme.nextCtrlTeid, MmeGtpc.mmeGtpcIp⟩
  rw [hspgw, if_neg (by decide), hctrTeid, if_neg nofun, hzero] at himsiAt
  have hthree := hat.symm.trans himsiAt
  cases hthree

theorem not_actsOnOwn_wrapped
    : ¬Trace.Along (Gtpc.step fun _ => true) ActsOnOwn (init 0 0)
        ([.createSession 1] ++ List.replicate (2 ^ 32 - 2) (.createSession 3)
          ++ [.createSession 3, .createSession 2, .modifyBearer 2 ⟨7, 0⟩]) :=
  not_actsOnOwn_replicate rfl

end Gtpc

end SrsLte
