import SrsLte.Data.Trace
import SrsLte.Epc.Impl.Gtpc

/-!
This module contains the verification of the session maps of `spgw.cc`.
-/

namespace SrsLte.Spgw

open Option Finmap

structure Consistent (spgw : Spgw) : Prop where
  ctrTeid_of_ctx : ∀ teid tunnelCtx, spgw.teidToTunnelCtx.lookup teid = some tunnelCtx →
    tunnelCtx.upCtrlFteid.teid = teid ∧ spgw.imsiToCtrTeid.lookup tunnelCtx.imsi = some teid
  ctx_of_ctrTeid : ∀ imsi teid, spgw.imsiToCtrTeid.lookup imsi = some teid →
    ∃ tunnelCtx, spgw.teidToTunnelCtx.lookup teid = some tunnelCtx ∧ tunnelCtx.imsi = imsi
  imsi_unique : ∀ teid teid' tunnelCtx tunnelCtx',
    spgw.teidToTunnelCtx.lookup teid = some tunnelCtx → spgw.teidToTunnelCtx.lookup teid' = some tunnelCtx' →
    tunnelCtx.imsi = tunnelCtx'.imsi → teid = teid'
  ctx_of_ip : ∀ ip fteid, spgw.ipToTeid.lookup ip = some fteid →
    ∃ teid tunnelCtx, spgw.teidToTunnelCtx.lookup teid = some tunnelCtx
      ∧ tunnelCtx.ueIpv4 = ip ∧ tunnelCtx.dwUserFteid = fteid

/--
The requests that keep the maps consistent: no delete session request for a live context, and no create
session request when the next TEID, cut to 32 bits, is still the one of another subscriber.
-/
def RequestOk (spgw : Spgw) (request : GtpcRequest) : Prop :=
  match request with
  | .createSession imsi _ =>
    ∀ tunnelCtx, spgw.teidToTunnelCtx.lookup (spgw.nextCtrlTeid % 2 ^ 32) = some tunnelCtx → tunnelCtx.imsi = imsi
  | .deleteSession teid => teid ∉ spgw.teidToTunnelCtx
  | _ => True

theorem consistent_init (s1uAddr sgiIfAddr : Nat) : (init s1uAddr sgiIfAddr).Consistent := by
  constructor <;> simp [init]

theorem Consistent.of_maps {spgw : Spgw}
    (hctx : ∀ teid tunnelCtx, spgw.teidToTunnelCtx.lookup teid = some tunnelCtx →
      tunnelCtx.upCtrlFteid.teid = teid ∧ spgw.imsiToCtrTeid.lookup tunnelCtx.imsi = some teid)
    (hteid : ∀ imsi teid, spgw.imsiToCtrTeid.lookup imsi = some teid →
      ∃ tunnelCtx, spgw.teidToTunnelCtx.lookup teid = some tunnelCtx ∧ tunnelCtx.imsi = imsi)
    (hip : ∀ ip fteid, spgw.ipToTeid.lookup ip = some fteid →
      ∃ teid tunnelCtx, spgw.teidToTunnelCtx.lookup teid = some tunnelCtx
        ∧ tunnelCtx.ueIpv4 = ip ∧ tunnelCtx.dwUserFteid = fteid)
    : spgw.Consistent where
  ctrTeid_of_ctx := hctx
  ctx_of_ctrTeid := hteid
  imsi_unique := by
    intro teid teid' tunnelCtx tunnelCtx' hlookup hlookup' himsi
    have hfst := (hctx teid tunnelCtx hlookup).2
    have hsnd := (hctx teid' tunnelCtx' hlookup').2
    rw [himsi, hsnd] at hfst
    exact (Option.some.inj hfst).symm
  ctx_of_ip := hip

theorem teidToTunnelCtx_deletePrevious (spgw : Spgw) (imsi teid : Nat)
    : (spgw.deletePrevious imsi).teidToTunnelCtx.lookup teid
        =
      if spgw.imsiToCtrTeid.lookup imsi = some teid then none else spgw.teidToTunnelCtx.lookup teid := by
  unfold deletePrevious
  split
  . next hnone => simp [hnone]
  . next ctrlTeid hsome =>
    simp only [hsome, Option.some.injEq, eq_comm (a := ctrlTeid)]
    unfold deleteGtpCtx
    split
    . next hnone =>
      split
      . next heq => rw [heq, hnone]
      . rfl
    . exact Map.lookup_erase_ite _ _ _

@[simp]
theorem nextCtrlTeid_deletePrevious (spgw : Spgw) (imsi : Nat)
    : (spgw.deletePrevious imsi).nextCtrlTeid = spgw.nextCtrlTeid := by
  unfold deletePrevious deleteGtpCtx
  split
  . rfl
  . split <;> rfl

section Consistent

variable {spgw : Spgw} (h : spgw.Consistent)

include h

variable (imsi teid : Nat)

theorem Consistent.handleModifyBearerRequest (s1uEnbFTeid : GtpFteid)
    : (spgw.handleModifyBearerRequest teid s1uEnbFTeid).1.Consistent := by
  unfold Spgw.handleModifyBearerRequest
  split
  . exact h
  . next tunnelCtx hlookup =>
    have ⟨hup, himsi⟩ := h.ctrTeid_of_ctx teid tunnelCtx hlookup
    apply Consistent.of_maps
    . intro teid' tunnelCtx' h'
      rw [Map.lookup_insert_ite] at h'
      split at h'
      . next heq =>
        cases h'
        exact ⟨hup.trans heq.symm, heq ▸ himsi⟩
      . exact h.ctrTeid_of_ctx teid' tunnelCtx' h'
    . intro imsi teid' h'
      have ⟨tunnelCtx', hlookup', himsi'⟩ := h.ctx_of_ctrTeid imsi teid' h'
      dsimp only
      rw [Map.lookup_insert_ite]
      split
      . next heq =>
        rw [heq, hlookup] at hlookup'
        cases hlookup'
        exact ⟨_, rfl, himsi'⟩
      . exact ⟨tunnelCtx', hlookup', himsi'⟩
    . intro ip fteid h'
      rw [Map.lookup_insert_ite] at h'
      split at h'
      . next heq =>
        cases h'
        exact ⟨teid, _, lookup_insert _, heq.symm, rfl⟩
      . next hne =>
        have ⟨teid', tunnelCtx', hlookup', hip', hfteid'⟩ := h.ctx_of_ip ip fteid h'
        have hteid : teid' ≠ teid := by
          rintro rfl
          rw [hlookup] at hlookup'
          cases hlookup'
          exact hne hip'.symm
        exact ⟨teid', tunnelCtx', (lookup_insert_of_ne _ hteid).trans hlookup', hip', hfteid'⟩

theorem Consistent.handleReleaseAccessBearersRequest
    : (spgw.handleReleaseAccessBearersRequest teid).Consistent := by
  unfold Spgw.handleReleaseAccessBearersRequest
  split
  . exact h
  . refine Consistent.of_maps h.ctrTeid_of_ctx h.ctx_of_ctrTeid ?_
    intro ip fteid h'
    rw [Map.lookup_erase_ite] at h'
    split at h'
    . cases h'
    . exact h.ctx_of_ip ip fteid h'

theorem Consistent.handleDeleteSessionRequest_iff
    : (spgw.handleDeleteSessionRequest teid).Consistent ↔ teid ∉ spgw.teidToTunnelCtx := by
  constructor
  . intro h' hmem
    have ⟨tunnelCtx, hlookup⟩ := mem_iff.mp hmem
    have himsi := (h.ctrTeid_of_ctx teid tunnelCtx hlookup).2
    simp only [handleDeleteSessionRequest, hlookup] at h'
    have ⟨_, hgone, _⟩ := h'.ctx_of_ctrTeid tunnelCtx.imsi teid himsi
    rw [lookup_erase] at hgone
    cases hgone
  . intro hmem
    simp only [handleDeleteSessionRequest, lookup_eq_none.mpr hmem]
    exact h

theorem Consistent.lookup_deletePrevious
    : (spgw.deletePrevious imsi).teidToTunnelCtx.lookup teid
        =
      (spgw.teidToTunnelCtx.lookup teid).filter fun tunnelCtx => tunnelCtx.imsi ≠ imsi := by
  rw [teidToTunnelCtx_deletePrevious]
  cases hlookup : spgw.teidToTunnelCtx.lookup teid with
  | none => simp
  | some tunnelCtx =>
    have hteid := (h.ctrTeid_of_ctx teid tunnelCtx hlookup).2
    by_cases himsi : tunnelCtx.imsi = imsi
    . rw [if_pos (himsi ▸ hteid)]
      simp [Option.filter, himsi]
    . have hne : spgw.imsiToCtrTeid.lookup imsi ≠ some teid := by
        intro heq
        have ⟨tunnelCtx', hlookup', himsi'⟩ := h.ctx_of_ctrTeid imsi teid heq
        rw [hlookup] at hlookup'
        cases hlookup'
        exact himsi himsi'
      rw [if_neg hne]
      simp [Option.filter, himsi]

theorem Consistent.imsiToCtrTeid_deletePrevious (imsi' : Nat)
    : (spgw.deletePrevious imsi).imsiToCtrTeid.lookup imsi'
        =
      if imsi' = imsi then none else spgw.imsiToCtrTeid.lookup imsi' := by
  unfold deletePrevious
  split
  . next hnone =>
    split
    . next heq => rw [heq, hnone]
    . rfl
  . next ctrlTeid hsome =>
    have ⟨previous, hprevious, himsi⟩ := h.ctx_of_ctrTeid imsi ctrlTeid hsome
    simp only [deleteGtpCtx, hprevious, Map.lookup_erase_ite, himsi]

theorem Consistent.ctx_of_ip_deletePrevious {imsi ip : Nat} {fteid : GtpFteid}
    (hip : (spgw.deletePrevious imsi).ipToTeid.lookup ip = some fteid)
    : ∃ teid tunnelCtx, spgw.teidToTunnelCtx.lookup teid = some tunnelCtx
        ∧ tunnelCtx.imsi ≠ imsi ∧ tunnelCtx.ueIpv4 = ip ∧ tunnelCtx.dwUserFteid = fteid := by
  unfold deletePrevious at hip
  split at hip
  . next hnone =>
    have ⟨teid, tunnelCtx, hlookup, hue, hfteid⟩ := h.ctx_of_ip ip fteid hip
    refine ⟨teid, tunnelCtx, hlookup, ?_, hue, hfteid⟩
    rintro rfl
    rw [(h.ctrTeid_of_ctx teid tunnelCtx hlookup).2] at hnone
    cases hnone
  . next ctrlTeid hsome =>
    have ⟨previous, hprevious, himsi⟩ := h.ctx_of_ctrTeid imsi ctrlTeid hsome
    simp only [deleteGtpCtx, hprevious, Map.lookup_erase_ite] at hip
    split at hip
    . cases hip
    . next hne =>
      have ⟨teid, tunnelCtx, hlookup, hue, hfteid⟩ := h.ctx_of_ip ip fteid hip
      refine ⟨teid, tunnelCtx, hlookup, ?_, hue, hfteid⟩
      intro heq
      have hteid := h.imsi_unique teid ctrlTeid tunnelCtx previous hlookup hprevious (heq.trans himsi.symm)
      rw [hteid, hprevious] at hlookup
      cases hlookup
      exact hne hue.symm

theorem Consistent.deletePrevious : (spgw.deletePrevious imsi).Consistent := by
  apply Consistent.of_maps
  . intro teid tunnelCtx hlookup
    rw [h.lookup_deletePrevious, filter_eq_some_iff] at hlookup
    have hne : tunnelCtx.imsi ≠ imsi := of_decide_eq_true hlookup.2
    rw [h.imsiToCtrTeid_deletePrevious, if_neg hne]
    exact h.ctrTeid_of_ctx teid tunnelCtx hlookup.1
  . intro imsi' teid hteid
    rw [h.imsiToCtrTeid_deletePrevious] at hteid
    split at hteid
    . cases hteid
    . next hne =>
      have ⟨tunnelCtx, hlookup, himsi⟩ := h.ctx_of_ctrTeid imsi' teid hteid
      refine ⟨tunnelCtx, ?_, himsi⟩
      rw [h.lookup_deletePrevious, filter_eq_some_iff]
      exact ⟨hlookup, decide_eq_true (himsi ▸ hne)⟩
  . intro ip fteid hip
    have ⟨teid, tunnelCtx, hlookup, hne, hue, hfteid⟩ := h.ctx_of_ip_deletePrevious hip
    refine ⟨teid, tunnelCtx, ?_, hue, hfteid⟩
    rw [h.lookup_deletePrevious, filter_eq_some_iff]
    exact ⟨hlookup, decide_eq_true hne⟩

theorem Consistent.createGtpCtx_iff {imsi : Nat} (hnone : spgw.imsiToCtrTeid.lookup imsi = none)
    (senderFTeid : GtpFteid)
    : (spgw.createGtpCtx imsi senderFTeid).1.Consistent
        ↔
      spgw.teidToTunnelCtx.lookup (spgw.nextCtrlTeid % 2 ^ 32) = none := by
  have hother : ∀ teid tunnelCtx, spgw.teidToTunnelCtx.lookup teid = some tunnelCtx → tunnelCtx.imsi ≠ imsi := by
    rintro teid tunnelCtx hlookup rfl
    rw [(h.ctrTeid_of_ctx teid tunnelCtx hlookup).2] at hnone
    cases hnone
  unfold Spgw.createGtpCtx
  dsimp only
  constructor
  . intro h'
    have hteid := h'.ctx_of_ctrTeid imsi (spgw.nextCtrlTeid % 2 ^ 32)
    simp only [Map.lookup_insertNew, hnone, if_true, getD_none, forall_const] at hteid
    have ⟨tunnelCtx, hlookup, himsi⟩ := hteid
    cases hprevious : spgw.teidToTunnelCtx.lookup (spgw.nextCtrlTeid % 2 ^ 32) with
    | none => rfl
    | some previous =>
      rw [hprevious] at hlookup
      cases hlookup
      exact absurd himsi (hother _ _ hprevious)
  . intro hfree
    apply Consistent.of_maps
    . intro teid tunnelCtx hlookup
      rw [Map.lookup_insertNew, hfree] at hlookup
      rw [Map.lookup_insertNew, hnone]
      split at hlookup
      . next heq =>
        cases hlookup
        exact ⟨heq.symm, (if_pos rfl).trans (congrArg some heq.symm)⟩
      . rw [if_neg (hother _ _ hlookup)]
        exact h.ctrTeid_of_ctx teid tunnelCtx hlookup
    . intro imsi' teid hteid
      rw [Map.lookup_insertNew, hnone] at hteid
      dsimp only
      rw [Map.lookup_insertNew, hfree]
      split at hteid
      . next heq =>
        cases hteid
        exact ⟨_, by rw [getD_none, if_pos rfl, getD_none], heq.symm⟩
      . have ⟨tunnelCtx, hlookup, himsi⟩ := h.ctx_of_ctrTeid imsi' teid hteid
        have hne : teid ≠ spgw.nextCtrlTeid % 2 ^ 32 := by
          rintro rfl
          rw [hfree] at hlookup
          cases hlookup
        exact ⟨tunnelCtx, by rw [if_neg hne, hlookup], himsi⟩
    . intro ip fteid hip
      have ⟨teid, tunnelCtx, hlookup, hue, hfteid⟩ := h.ctx_of_ip ip fteid hip
      have hne : teid ≠ spgw.nextCtrlTeid % 2 ^ 32 := by
        rintro rfl
        rw [hfree] at hlookup
        cases hlookup
      refine ⟨teid, tunnelCtx, ?_, hue, hfteid⟩
      rw [Map.lookup_insertNew, if_neg hne, hlookup]

theorem Consistent.handleCreateSessionRequest_iff (senderFTeid : GtpFteid)
    : (spgw.handleCreateSessionRequest imsi senderFTeid).1.Consistent
        ↔
      spgw.RequestOk (.createSession imsi senderFTeid) := by
  have hnone : (spgw.deletePrevious imsi).imsiToCtrTeid.lookup imsi = none := by
    rw [h.imsiToCtrTeid_deletePrevious, if_pos rfl]
  have hcreate := (h.deletePrevious imsi).createGtpCtx_iff hnone senderFTeid
  rw [nextCtrlTeid_deletePrevious, h.lookup_deletePrevious, filter_eq_none_iff] at hcreate
  simp only [ne_eq, decide_not, Bool.not_eq_true, Bool.not_eq_false', decide_eq_true_eq] at hcreate
  exact hcreate

theorem Consistent.handle_iff (request : GtpcRequest)
    : (spgw.handle request).Consistent ↔ spgw.RequestOk request := by
  cases request with
  | createSession imsi senderFTeid => exact h.handleCreateSessionRequest_iff imsi senderFTeid
  | modifyBearer teid s1uEnbFTeid => exact iff_of_true (h.handleModifyBearerRequest teid s1uEnbFTeid) trivial
  | releaseAccessBearers teid => exact iff_of_true (h.handleReleaseAccessBearersRequest teid) trivial
  | deleteSession teid => exact h.handleDeleteSessionRequest_iff teid

end Consistent

theorem consistent_iff (s1uAddr sgiIfAddr : Nat) (requests : List GtpcRequest)
    : Trace.Throughout handle Consistent (init s1uAddr sgiIfAddr) requests
        ↔
      Trace.Along handle RequestOk (init s1uAddr sgiIfAddr) requests := by
  apply @Trace.throughout_iff_along Spgw GtpcRequest handle RequestOk Consistent (fun _ => True)
  . intro _ _ _ _
    trivial
  . intro spgw request _ h
    exact h.handle_iff request
  . trivial
  . exact consistent_init s1uAddr sgiIfAddr

theorem not_consistent_deleteSession
    : ¬Trace.Throughout handle Consistent (init 0 0) [.createSession 1 ⟨1, 0⟩, .deleteSession 1] := by
  intro h
  have hcreated : ((init 0 0).handle (.createSession 1 ⟨1, 0⟩)).Consistent := h.2.1
  have hdeleted := hcreated.handleDeleteSessionRequest_iff 1
  apply hdeleted.mp h.2.2
  rw [← lookup_isSome]
  decide

def Owns (base teid : Nat) (ctx : SpgwTunnelCtx) : Prop :=
  teid < 2 ^ 32 ∧ ctx.ueIpv4 = ntohl ((base + teid) % 2 ^ 32)

/--
The addresses are given out along with the TEIDs, so that a context has the one of its TEID even after the counters have
wrapped around.
-/
structure Numbered (base : Nat) (spgw : Spgw) : Prop where
  next : (spgw.hNextUeIp + 1) % 2 ^ 32 = (base + spgw.nextCtrlTeid) % 2 ^ 32
  owns : ∀ teid ctx, spgw.teidToTunnelCtx.lookup teid = some ctx → Owns base teid ctx

section Numbered

variable {base : Nat} {spgw : Spgw} (h : spgw.Numbered base)

include h

theorem Numbered.deletePrevious (imsi : Nat) : (spgw.deletePrevious imsi).Numbered base := by
  constructor
  . have hnext := h.next
    unfold Spgw.deletePrevious deleteGtpCtx
    split
    . exact hnext
    . split <;> exact hnext
  . intro teid ctx hlookup
    rw [teidToTunnelCtx_deletePrevious] at hlookup
    split at hlookup
    . cases hlookup
    . exact h.owns teid ctx hlookup

theorem Numbered.createGtpCtx (imsi : Nat) (senderFTeid : GtpFteid)
    : (spgw.createGtpCtx imsi senderFTeid).1.Numbered base := by
  have hnext := h.next
  unfold Spgw.createGtpCtx
  constructor
  . dsimp only
    omega
  . intro teid ctx hlookup
    dsimp only at hlookup
    rw [Map.lookup_insertNew] at hlookup
    split at hlookup
    next heq =>
      rw [heq]
      cases hold : spgw.teidToTunnelCtx.lookup (spgw.nextCtrlTeid % 2 ^ 32) with
      | none =>
        rw [hold] at hlookup
        cases hlookup
        unfold Owns
        rw [hnext, Nat.add_mod_mod]
        exact ⟨Nat.mod_lt _ (by decide), rfl⟩
      | some ctx' =>
        rw [hold] at hlookup
        cases hlookup
        exact h.owns _ _ hold
    . exact h.owns teid ctx hlookup

theorem Numbered.handle (request : GtpcRequest) : (spgw.handle request).Numbered base := by
  unfold Spgw.handle
  cases request with
  | createSession imsi senderFTeid => exact (h.deletePrevious imsi).createGtpCtx imsi senderFTeid
  | modifyBearer teid s1uEnbFTeid =>
    unfold handleModifyBearerRequest
    dsimp only
    split
    . exact h
    next ctx hctx =>
      refine ⟨h.next, ?_⟩
      intro teid' ctx' hlookup
      rw [Map.lookup_insert_ite] at hlookup
      split at hlookup
      next heq =>
        cases hlookup
        rw [heq]
        exact h.owns teid ctx hctx
      . exact h.owns teid' ctx' hlookup
  | releaseAccessBearers teid =>
    unfold handleReleaseAccessBearersRequest
    dsimp only
    split
    . exact h
    . exact ⟨h.next, h.owns⟩
  | deleteSession teid =>
    unfold handleDeleteSessionRequest
    dsimp only
    split
    . exact h
    . refine ⟨h.next, ?_⟩
      intro teid' ctx' hlookup
      rw [Map.lookup_erase_ite] at hlookup
      split at hlookup
      . cases hlookup
      . exact h.owns teid' ctx' hlookup

end Numbered

def DistinctAddresses (spgw : Spgw) : Prop :=
  ∀ teid teid' ctx ctx', spgw.teidToTunnelCtx.lookup teid = some ctx →
    spgw.teidToTunnelCtx.lookup teid' = some ctx' → ctx.ueIpv4 = ctx'.ueIpv4 → teid = teid'

theorem ntohl_ntohl {n : Nat} (h : n < 2 ^ 32) : ntohl (ntohl n) = n := by
  have hbyte (m : Nat) : m % 256 < 256 := Nat.mod_lt m (by decide)
  have hbytes {a b c d : Nat} (ha : a < 256) (hb : b < 256) (hc : c < 256) (hd : d < 256)
      : ntohl (a * 2 ^ 24 + b * 2 ^ 16 + c * 2 ^ 8 + d) = d * 2 ^ 24 + c * 2 ^ 16 + b * 2 ^ 8 + a := by
    unfold ntohl
    omega
  apply (hbytes (hbyte _) (hbyte _) (hbyte _) (hbyte _)).trans
  omega

theorem distinctAddresses_exec (s1uAddr sgiIfAddr : Nat) (requests : List GtpcRequest)
    : (Trace.exec handle (init s1uAddr sgiIfAddr) requests).DistinctAddresses := by
  have hnumbered : (Trace.exec handle (init s1uAddr sgiIfAddr) requests).Numbered (ntohl sgiIfAddr) := by
    apply Trace.exec_invariant
    . intro spgw request h
      exact h.handle request
    . constructor <;> simp [init]
  intro teid teid' ctx ctx' hctx hctx' hip
  obtain ⟨hlt, heq⟩ := hnumbered.owns teid ctx hctx
  obtain ⟨hlt', heq'⟩ := hnumbered.owns teid' ctx' hctx'
  have hmod := congrArg ntohl hip
  rw [heq, heq', ntohl_ntohl (Nat.mod_lt _ (by decide)), ntohl_ntohl (Nat.mod_lt _ (by decide))] at hmod
  omega

end SrsLte.Spgw
