import SrsLte.Data.Trace
import SrsLte.Enb.Impl.S1ap

/-!
This module contains the verification of the two maps of `s1ap.cc` and of the UE context release.
-/

namespace SrsLte.EnbS1ap

open Finmap

def Consistent (s1ap : EnbS1ap) : Prop :=
  ∀ enbUeS1apId rnti, s1ap.enbidToRntiMap.lookup enbUeS1apId = some rnti
    ↔ ∃ ueCtxt, s1ap.ueCtxtMap.lookup rnti = some ueCtxt ∧ ueCtxt.enbUeS1apId = enbUeS1apId

def Names (ids : UeS1apIds) (ueCtxt : EnbUeCtxt) : Prop :=
  match ids with
  | .pair _ enbUeS1apId => ueCtxt.enbUeS1apId = enbUeS1apId
  | .mme mmeUeS1apId => ueCtxt.mmeUeS1apId = mmeUeS1apId

def ReleasesNamed (s1ap : EnbS1ap) (event : EnbS1apEvent) : Prop :=
  match event with
  | .ueContextRelease ids =>
    (∃ rnti ueCtxt, s1ap.ueCtxtMap.lookup rnti = some ueCtxt ∧ Names ids ueCtxt
      ∧ (s1ap.step event).ueCtxtMap = s1ap.ueCtxtMap.erase rnti
      ∧ (s1ap.step event).enbidToRntiMap = s1ap.enbidToRntiMap.erase ueCtxt.enbUeS1apId
      ∧ ∀ rnti', .releaseComplete rnti' ∈ (s1ap.handle event).2 ↔ rnti' = rnti)
    ∨ ((∀ rnti ueCtxt, s1ap.ueCtxtMap.lookup rnti = some ueCtxt → ¬Names ids ueCtxt)
      ∧ s1ap.handle event = (s1ap, []))
  | _ => True

def EventOk (s1ap : EnbS1ap) (event : EnbS1apEvent) : Prop :=
  match event with
  | .initialUe rnti =>
    (∀ ueCtxt, s1ap.ueCtxtMap.lookup rnti = some ueCtxt → ueCtxt.enbUeS1apId = s1ap.nextEnbUeS1apId)
      ∧ ∀ rnti', s1ap.enbidToRntiMap.lookup s1ap.nextEnbUeS1apId = some rnti' → rnti' = rnti
  | .userRelease rnti =>
    ∀ ueCtxt, s1ap.ueCtxtMap.lookup rnti = some ueCtxt → ueCtxt.releaseRequested = false
  | .ueContextRelease (.mme mmeUeS1apId) =>
    ∀ rnti ueCtxt, Map.find? s1ap.ueCtxtMap (fun ueCtxt => ueCtxt.mmeUeS1apId == mmeUeS1apId) = some (rnti, ueCtxt) →
      rnti = 0
  | _ => True

def RntiUnset (s1ap : EnbS1ap) : Prop :=
  ∀ rnti ueCtxt, s1ap.ueCtxtMap.lookup rnti = some ueCtxt → ueCtxt.rnti = 0

theorem consistent_init : init.Consistent := by
  intro enbUeS1apId rnti
  simp [init]

theorem rntiUnset_init : init.RntiUnset := by
  intro rnti ueCtxt hlookup
  simp [init] at hlookup

section RntiUnset

variable {s1ap : EnbS1ap} (h : s1ap.RntiUnset)

include h

theorem RntiUnset.ueCtxt (rnti : Nat) : (s1ap.ueCtxt rnti).rnti = 0 := by
  unfold EnbS1ap.ueCtxt
  cases hlookup : s1ap.ueCtxtMap.lookup rnti with
  | none => rfl
  | some ueCtxt => exact h rnti ueCtxt hlookup

theorem RntiUnset.insert {s1ap' : EnbS1ap} {rnti : Nat} {ueCtxt : EnbUeCtxt}
    (hmap : s1ap'.ueCtxtMap = s1ap.ueCtxtMap.insert rnti ueCtxt) (hrnti : ueCtxt.rnti = 0)
    : s1ap'.RntiUnset := by
  intro rnti' ueCtxt' hlookup
  rw [hmap, Map.lookup_insert_ite] at hlookup
  split at hlookup
  . cases hlookup
    exact hrnti
  . exact h rnti' ueCtxt' hlookup

theorem RntiUnset.erase {s1ap' : EnbS1ap} {rnti : Nat} (hmap : s1ap'.ueCtxtMap = s1ap.ueCtxtMap.erase rnti)
    : s1ap'.RntiUnset := by
  intro rnti' ueCtxt' hlookup
  rw [hmap, Map.lookup_erase_ite] at hlookup
  split at hlookup
  . cases hlookup
  . exact h rnti' ueCtxt' hlookup

theorem RntiUnset.handleByEnbId (mmeUeS1apId enbUeS1apId : Nat) (call : Nat → EnbS1apOutput)
    : (s1ap.handleByEnbId mmeUeS1apId enbUeS1apId call).1.RntiUnset := by
  unfold EnbS1ap.handleByEnbId
  split
  . exact h
  . next rnti _ => exact h.insert rfl (h.ueCtxt rnti)

theorem RntiUnset.releaseRnti (rnti : Nat) : (s1ap.releaseRnti rnti).1.RntiUnset := by
  unfold EnbS1ap.releaseRnti
  split
  . exact h
  . exact h.erase rfl

theorem RntiUnset.step (event : EnbS1apEvent) : (s1ap.step event).RntiUnset := by
  unfold EnbS1ap.step handle
  cases event with
  | connection connected => exact h
  | initialUe rnti => exact h.insert rfl (h.ueCtxt rnti)
  | writePdu rnti =>
    dsimp only [writePdu]
    split <;> exact h
  | userRelease rnti =>
    dsimp only [userRelease]
    split
    . exact h
    . next ueCtxt hlookup =>
      split
      . exact h.erase rfl
      . exact h.insert rfl (h rnti ueCtxt hlookup)
  | dlNasTransport mmeUeS1apId enbUeS1apId => exact h.handleByEnbId mmeUeS1apId enbUeS1apId _
  | initialContextSetup mmeUeS1apId enbUeS1apId => exact h.handleByEnbId mmeUeS1apId enbUeS1apId _
  | erabSetup mmeUeS1apId enbUeS1apId => exact h.handleByEnbId mmeUeS1apId enbUeS1apId _
  | ueContextRelease ids =>
    dsimp only [handleUectxtreleasecommand]
    split
    . split
      . exact h
      . apply RntiUnset.releaseRnti
        exact h
    . split
      . exact h
      . apply RntiUnset.releaseRnti
        exact h

theorem RntiUnset.findMmeUeId (mmeUeS1apId : Nat)
    : s1ap.findMmeUeId mmeUeS1apId
        =
      (Map.find? s1ap.ueCtxtMap fun ueCtxt => ueCtxt.mmeUeS1apId == mmeUeS1apId).map fun (_, ueCtxt) =>
        (0, ueCtxt.enbUeS1apId) := by
  unfold EnbS1ap.findMmeUeId
  cases hfind : Map.find? s1ap.ueCtxtMap fun ueCtxt => ueCtxt.mmeUeS1apId == mmeUeS1apId with
  | none => rfl
  | some entry =>
    have hrnti := h entry.1 entry.2 (Map.lookup_of_find? hfind).1
    simp [hrnti]

end RntiUnset

section Consistent

variable {s1ap : EnbS1ap} (h : s1ap.Consistent)

include h

theorem Consistent.ueCtxt_of_enbId {enbUeS1apId rnti : Nat} (henb : s1ap.enbidToRntiMap.lookup enbUeS1apId = some rnti)
    : s1ap.ueCtxtMap.lookup rnti = some (s1ap.ueCtxt rnti) ∧ (s1ap.ueCtxt rnti).enbUeS1apId = enbUeS1apId := by
  have ⟨ueCtxt, hlookup, hid⟩ := (h enbUeS1apId rnti).mp henb
  have hctxt : s1ap.ueCtxt rnti = ueCtxt := by
    rw [EnbS1ap.ueCtxt, hlookup, Option.getD_some]
  rw [hctxt]
  exact ⟨hlookup, hid⟩

theorem Consistent.insert {rnti : Nat} {ueCtxt ueCtxt' : EnbUeCtxt} (hlookup : s1ap.ueCtxtMap.lookup rnti = some ueCtxt)
    (hid : ueCtxt'.enbUeS1apId = ueCtxt.enbUeS1apId)
    : { s1ap with ueCtxtMap := s1ap.ueCtxtMap.insert rnti ueCtxt' }.Consistent := by
  intro enbUeS1apId rnti'
  dsimp only
  rw [h enbUeS1apId rnti', Map.lookup_insert_ite]
  split
  . next heq =>
    rw [heq, hlookup]
    simp [hid]
  . rfl

theorem Consistent.erase {rnti : Nat} {ueCtxt : EnbUeCtxt} (hlookup : s1ap.ueCtxtMap.lookup rnti = some ueCtxt)
    : { s1ap with
        ueCtxtMap := s1ap.ueCtxtMap.erase rnti
        enbidToRntiMap := s1ap.enbidToRntiMap.erase ueCtxt.enbUeS1apId
      }.Consistent := by
  have henb := (h ueCtxt.enbUeS1apId rnti).mpr ⟨ueCtxt, hlookup, rfl⟩
  intro enbUeS1apId rnti'
  dsimp only
  rw [Map.lookup_erase_ite, Map.lookup_erase_ite]
  by_cases hrnti : rnti' = rnti
  . rw [if_pos hrnti]
    constructor
    . intro hsome
      split at hsome
      . cases hsome
      . next hne =>
        have ⟨ueCtxt', hlookup', hid'⟩ := (h enbUeS1apId rnti').mp hsome
        rw [hrnti, hlookup] at hlookup'
        cases hlookup'
        exact absurd hid'.symm hne
    . rintro ⟨_, hnone, -⟩
      cases hnone
  . rw [if_neg hrnti, ← h enbUeS1apId rnti']
    split
    . next heq =>
      rw [heq, henb]
      constructor
      . nofun
      . intro hsome
        exact absurd (Option.some.inj hsome).symm hrnti
    . rfl

theorem Consistent.handleByEnbId (mmeUeS1apId enbUeS1apId : Nat) (call : Nat → EnbS1apOutput)
    : (s1ap.handleByEnbId mmeUeS1apId enbUeS1apId call).1.Consistent := by
  unfold EnbS1ap.handleByEnbId
  split
  . exact h
  . next rnti henb => exact h.insert (h.ueCtxt_of_enbId henb).1 rfl

theorem Consistent.initialUe_iff (rnti : Nat)
    : (s1ap.initialUe rnti).1.Consistent ↔ s1ap.EventOk (.initialUe rnti) := by
  unfold EnbS1ap.initialUe EventOk
  constructor
  . intro h'
    constructor
    . intro ueCtxt hlookup
      by_contra hne
      have henb := (h ueCtxt.enbUeS1apId rnti).mpr ⟨ueCtxt, hlookup, rfl⟩
      have hold := h' ueCtxt.enbUeS1apId rnti
      dsimp only at hold
      rw [Map.lookup_insert_ite, if_neg hne, henb, lookup_insert] at hold
      have ⟨ueCtxt', hnew, hid⟩ := hold.mp rfl
      cases hnew
      exact hne hid.symm
    . intro rnti' henb
      by_contra hne
      have ⟨ueCtxt, hlookup, hid⟩ := (h _ rnti').mp henb
      have hother := h' s1ap.nextEnbUeS1apId rnti'
      dsimp only at hother
      rw [lookup_insert, lookup_insert_of_ne _ hne] at hother
      have hsome := hother.mpr ⟨ueCtxt, hlookup, hid⟩
      exact hne (Option.some.inj hsome).symm
  . rintro ⟨hctxt, henb⟩ enbUeS1apId rnti'
    dsimp only
    rw [Map.lookup_insert_ite, Map.lookup_insert_ite]
    by_cases hid : enbUeS1apId = s1ap.nextEnbUeS1apId
    . rw [if_pos hid]
      by_cases hrnti : rnti' = rnti
      . simp [hrnti, hid]
      . rw [if_neg hrnti, ← h enbUeS1apId rnti', hid]
        constructor
        . intro hsome
          exact absurd (Option.some.inj hsome).symm hrnti
        . intro hsome
          exact absurd (henb rnti' hsome) hrnti
    . rw [if_neg hid]
      by_cases hrnti : rnti' = rnti
      . rw [if_pos hrnti]
        constructor
        . intro hsome
          have ⟨ueCtxt, hlookup, hid'⟩ := (h enbUeS1apId rnti').mp hsome
          rw [hrnti] at hlookup
          exact absurd (hid'.symm.trans (hctxt ueCtxt hlookup)) hid
        . rintro ⟨ueCtxt, hsome, hid'⟩
          cases hsome
          exact absurd hid'.symm hid
      . rw [if_neg hrnti, h enbUeS1apId rnti']

theorem Consistent.userRelease_iff (rnti : Nat)
    : (s1ap.userRelease rnti).1.Consistent ↔ s1ap.EventOk (.userRelease rnti) := by
  unfold EnbS1ap.userRelease EventOk
  cases hlookup : s1ap.ueCtxtMap.lookup rnti with
  | none => simp [h, hlookup]
  | some ueCtxt =>
    dsimp only
    split
    . next hzombie =>
      constructor
      . intro h'
        have henb := (h ueCtxt.enbUeS1apId rnti).mpr ⟨ueCtxt, hlookup, rfl⟩
        have ⟨_, hgone, _⟩ := (h' ueCtxt.enbUeS1apId rnti).mp henb
        rw [lookup_erase] at hgone
        cases hgone
      . intro hok
        rw [hok ueCtxt hlookup] at hzombie
        cases hzombie
    . next hzombie =>
      apply iff_of_true
      . exact h.insert hlookup rfl
      . intro ueCtxt' hlookup'
        rw [hlookup] at hlookup'
        cases hlookup'
        exact Bool.eq_false_iff.mpr hzombie

end Consistent

variable {s1ap : EnbS1ap}

theorem mem_releaseRnti {rnti : Nat} {ueCtxt : EnbUeCtxt}
    (hlookup : s1ap.ueCtxtMap.lookup rnti = some ueCtxt) (rnti' : Nat)
    : .releaseComplete rnti' ∈ (s1ap.releaseRnti rnti).2 ↔ rnti' = rnti := by
  simp only [releaseRnti, hlookup, sendToMme]
  split <;> simp

theorem RntiUnset.releaseMme (hunset : s1ap.RntiUnset) {mmeUeS1apId : Nat}
    (hok : s1ap.EventOk (.ueContextRelease (.mme mmeUeS1apId)))
    : s1ap.ReleasesNamed (.ueContextRelease (.mme mmeUeS1apId)) := by
  cases hfind : Map.find? s1ap.ueCtxtMap fun ueCtxt => ueCtxt.mmeUeS1apId == mmeUeS1apId with
  | none =>
    refine .inr ⟨?_, ?_⟩
    . intro rnti ueCtxt hlookup hid
      have hne := Map.find?_eq_none.mp hfind rnti ueCtxt hlookup
      simp only [beq_eq_false_iff_ne] at hne
      exact hne hid
    . simp only [handle, handleUectxtreleasecommand, hunset.findMmeUeId, hfind, Option.map_none]
  | some entry =>
    have ⟨rnti, ueCtxt⟩ := entry
    have hzero := hok rnti ueCtxt hfind
    have ⟨hlookup, hid⟩ := Map.lookup_of_find? hfind
    have hhandle : s1ap.handle (.ueContextRelease (.mme mmeUeS1apId))
        = { s1ap with enbidToRntiMap := s1ap.enbidToRntiMap.erase ueCtxt.enbUeS1apId }.releaseRnti 0 := by
      simp only [handle, handleUectxtreleasecommand, hunset.findMmeUeId, hfind, Option.map_some]
    rw [hzero] at hlookup
    refine .inl ⟨0, ueCtxt, hlookup, beq_iff_eq.mp hid, ?_, ?_, ?_⟩
    . rw [EnbS1ap.step, hhandle]
      simp only [EnbS1ap.releaseRnti, hlookup]
    . rw [EnbS1ap.step, hhandle]
      simp only [EnbS1ap.releaseRnti, hlookup]
    . rw [hhandle]
      exact mem_releaseRnti hlookup

section Release

variable {s1ap : EnbS1ap} (h : s1ap.Consistent)

include h

theorem Consistent.releaseRnti {rnti : Nat} {ueCtxt : EnbUeCtxt} (hlookup : s1ap.ueCtxtMap.lookup rnti = some ueCtxt)
    : ({ s1ap with enbidToRntiMap := s1ap.enbidToRntiMap.erase ueCtxt.enbUeS1apId }.releaseRnti rnti).1.Consistent := by
  have herase := h.erase hlookup
  simpa only [EnbS1ap.releaseRnti, hlookup] using herase

theorem Consistent.releasePair (mmeUeS1apId enbUeS1apId : Nat)
    : (s1ap.step (.ueContextRelease (.pair mmeUeS1apId enbUeS1apId))).Consistent
        ∧ s1ap.ReleasesNamed (.ueContextRelease (.pair mmeUeS1apId enbUeS1apId)) := by
  cases henb : s1ap.enbidToRntiMap.lookup enbUeS1apId with
  | none =>
    have hhandle : s1ap.handle (.ueContextRelease (.pair mmeUeS1apId enbUeS1apId)) = (s1ap, []) := by
      simp only [handle, handleUectxtreleasecommand, henb]
    refine ⟨?_, .inr ⟨?_, hhandle⟩⟩
    . rw [step, hhandle]
      exact h
    . intro rnti ueCtxt hlookup hid
      rw [(h enbUeS1apId rnti).mpr ⟨ueCtxt, hlookup, hid⟩] at henb
      cases henb
  | some rnti =>
    have ⟨hlookup, hid⟩ := h.ueCtxt_of_enbId henb
    have hhandle : s1ap.handle (.ueContextRelease (.pair mmeUeS1apId enbUeS1apId))
        = { s1ap with enbidToRntiMap := s1ap.enbidToRntiMap.erase (s1ap.ueCtxt rnti).enbUeS1apId }.releaseRnti rnti := by
      simp only [handle, handleUectxtreleasecommand, henb, hid]
    refine ⟨?_, .inl ⟨rnti, s1ap.ueCtxt rnti, hlookup, hid, ?_, ?_, ?_⟩⟩
    . rw [step, hhandle]
      exact h.releaseRnti hlookup
    . rw [step, hhandle]
      simp only [EnbS1ap.releaseRnti, hlookup]
    . rw [step, hhandle]
      simp only [EnbS1ap.releaseRnti, hlookup]
    . rw [hhandle]
      exact mem_releaseRnti hlookup

theorem Consistent.releaseMme_iff (hunset : s1ap.RntiUnset) (mmeUeS1apId : Nat)
    : (s1ap.step (.ueContextRelease (.mme mmeUeS1apId))).Consistent
        ↔
      s1ap.EventOk (.ueContextRelease (.mme mmeUeS1apId)) := by
  unfold step handle handleUectxtreleasecommand EventOk
  dsimp only
  rw [hunset.findMmeUeId]
  cases hfind : Map.find? s1ap.ueCtxtMap fun ueCtxt => ueCtxt.mmeUeS1apId == mmeUeS1apId with
  | none => simp [h]
  | some entry =>
    have ⟨rnti, ueCtxt⟩ := entry
    have hlookup := (Map.lookup_of_find? hfind).1
    simp only [Option.map_some, Option.some.injEq, Prod.mk.injEq]
    constructor
    . rintro h' rnti' ueCtxt' ⟨rfl, rfl⟩
      by_contra hne
      have hthere : ({ s1ap with enbidToRntiMap := s1ap.enbidToRntiMap.erase ueCtxt.enbUeS1apId }.releaseRnti 0).1.ueCtxtMap.lookup
          rnti = some ueCtxt := by
        unfold EnbS1ap.releaseRnti
        split
        . exact hlookup
        . exact (lookup_erase_ne hne).trans hlookup
      have hgone := (h' ueCtxt.enbUeS1apId rnti).mpr ⟨ueCtxt, hthere, rfl⟩
      have hmap : ({ s1ap with enbidToRntiMap := s1ap.enbidToRntiMap.erase ueCtxt.enbUeS1apId }.releaseRnti 0).1.enbidToRntiMap
          = s1ap.enbidToRntiMap.erase ueCtxt.enbUeS1apId := by
        unfold EnbS1ap.releaseRnti
        split <;> rfl
      rw [hmap, lookup_erase] at hgone
      cases hgone
    . intro hok
      have hzero := hok rnti ueCtxt ⟨rfl, rfl⟩
      rw [hzero] at hlookup
      exact h.releaseRnti hlookup

theorem Consistent.step_iff (hunset : s1ap.RntiUnset) (event : EnbS1apEvent)
    : (s1ap.step event).Consistent ↔ s1ap.EventOk event := by
  cases event with
  | connection connected => exact iff_of_true h trivial
  | initialUe rnti => exact h.initialUe_iff rnti
  | writePdu rnti =>
    apply iff_of_true _ trivial
    unfold step handle writePdu
    dsimp only
    split <;> exact h
  | userRelease rnti => exact h.userRelease_iff rnti
  | dlNasTransport mmeUeS1apId enbUeS1apId =>
    exact iff_of_true (h.handleByEnbId mmeUeS1apId enbUeS1apId .writeDlInfo) trivial
  | initialContextSetup mmeUeS1apId enbUeS1apId =>
    exact iff_of_true (h.handleByEnbId mmeUeS1apId enbUeS1apId .setupUeCtxt) trivial
  | erabSetup mmeUeS1apId enbUeS1apId =>
    exact iff_of_true (h.handleByEnbId mmeUeS1apId enbUeS1apId .setupUeErabs) trivial
  | ueContextRelease ids =>
    cases ids with
    | pair mmeUeS1apId enbUeS1apId => exact iff_of_true (h.releasePair mmeUeS1apId enbUeS1apId).1 trivial
    | mme mmeUeS1apId => exact h.releaseMme_iff hunset mmeUeS1apId

theorem Consistent.releasesNamed (hunset : s1ap.RntiUnset) {event : EnbS1apEvent} (hok : s1ap.EventOk event)
    : s1ap.ReleasesNamed event := by
  cases event with
  | ueContextRelease ids =>
    cases ids with
    | pair mmeUeS1apId enbUeS1apId => exact (h.releasePair mmeUeS1apId enbUeS1apId).2
    | mme mmeUeS1apId => exact hunset.releaseMme hok
  | _ => trivial

end Release

theorem maps_and_release_iff (events : List EnbS1apEvent)
    : (Trace.Throughout step Consistent init events ∧ Trace.Along step ReleasesNamed init events)
        ↔
      Trace.Along step EventOk init events := by
  have hiff : Trace.Throughout step Consistent init events ↔ Trace.Along step EventOk init events := by
    apply @Trace.throughout_iff_along EnbS1ap EnbS1apEvent step EventOk Consistent RntiUnset
    . intro s1ap event hunset _
      exact hunset.step event
    . intro s1ap event hunset h
      exact h.step_iff hunset event
    . exact rntiUnset_init
    . exact consistent_init
  rw [hiff, and_iff_left_iff_imp]
  intro hok
  apply @Trace.along_of_along EnbS1ap EnbS1apEvent step EventOk ReleasesNamed
    (fun s1ap => s1ap.Consistent ∧ s1ap.RntiUnset)
  . intro s1ap event h hok
    exact h.1.releasesNamed h.2 hok
  . intro s1ap event h hok
    exact ⟨(h.1.step_iff h.2 event).mpr hok, h.2.step event⟩
  . exact ⟨consistent_init, rntiUnset_init⟩
  . exact hok

theorem not_maps_and_release_mme
    : ¬(Trace.Throughout step Consistent init [.initialUe 70, .dlNasTransport 5 1, .ueContextRelease (.mme 5)]
        ∧ Trace.Along step ReleasesNamed init [.initialUe 70, .dlNasTransport 5 1, .ueContextRelease (.mme 5)]) := by
  rintro ⟨h, -⟩
  have hunset := (rntiUnset_init.step (.initialUe 70)).step (.dlNasTransport 5 1)
  have hok := (Consistent.releaseMme_iff h.2.2.1 hunset 5).mp h.2.2.2
  cases hfind : Map.find? ((init.step (.initialUe 70)).step (.dlNasTransport 5 1)).ueCtxtMap
      fun ueCtxt => ueCtxt.mmeUeS1apId == 5 with
  | none =>
    have hne := Map.find?_eq_none.mp hfind 70 { enbUeS1apId := 1, mmeUeS1apId := 5, streamId := 1 } (by decide)
    cases hne
  | some entry =>
    have hzero := hok entry.1 entry.2 hfind
    have hlookup := (Map.lookup_of_find? hfind).1
    rw [hzero] at hlookup
    cases hlookup

end SrsLte.EnbS1ap
