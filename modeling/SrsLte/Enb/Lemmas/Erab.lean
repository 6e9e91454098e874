import SrsLte.Enb.Lemmas.Gtpu

/-!
This module contains which bearers the setup of E-RABs installs and reports.
-/

namespace SrsLte

open List

def Erab.isDrb (erab : Erab) : Prop :=
  5 ≤ erab.id.toNat ∧ erab.id.toNat ≤ 12

instance (erab : Erab) : Decidable erab.isDrb :=
  inferInstanceAs (Decidable (_ ∧ _))

namespace Gtpu

variable {g : Gtpu} {rnti : UInt16} {erabs : List Erab}

def entry (g : Gtpu) (rnti : UInt16) (lcid : Fin srsenbNRadioBearers) : Nat × Nat × Nat :=
  ((g.bearers rnti).teidsIn lcid, (g.bearers rnti).teidsOut lcid, (g.bearers rnti).spgwAddrs lcid)

def requested (erabs : List Erab) (lcid : Nat) : Option Erab :=
  erabs.reverse.find? fun erab => erab.isDrb ∧ erab.id.toNat = lcid + 2

structure Installs (g : Gtpu) (rnti : UInt16) (erabs : List Erab) (g' : Gtpu) (res : ErabSetupRes) : Prop where
  entry : ∀ lcid, g'.entry rnti lcid
    = ((requested erabs lcid).map fun erab => (rntilcidToTeidin rnti lcid, erab.teid, erab.addr)).getD (g.entry rnti lcid)
  other : ∀ rnti', rnti' ≠ rnti → g'.rntiBearers.lookup rnti' = g.rntiBearers.lookup rnti'
  listed : res.map Prod.fst = (erabs.filter Erab.isDrb).map Erab.id
  teid : ∀ item ∈ res, teidinToRntilcid item.2 = (rnti, item.1.toNat - 2)

theorem entry_addBearer (g : Gtpu) (rnti : UInt16) (lcid lcid' : Fin srsenbNRadioBearers) (addr teidOut : Nat)
    : (g.addBearer rnti lcid addr teidOut).1.entry rnti lcid'
        =
      if lcid' = lcid then (rntilcidToTeidin rnti lcid, teidOut, addr) else g.entry rnti lcid' := by
  unfold entry addBearer
  rw [bearers_insert, if_pos rfl]
  dsimp only
  simp only [Function.update_apply]
  split <;> rfl

theorem toNat_lcid {erab : Erab} (h : 2 ≤ erab.id.toNat) : (erab.id - 2).toNat = erab.id.toNat - 2 :=
  UInt8.toNat_sub_of_le erab.id 2 h

variable {res : ErabSetupRes}

theorem Installs.snoc {g' : Gtpu} (h : Installs g rnti erabs g' res) {erab : Erab}
    (hdrb : erab.isDrb) {lcid : Fin srsenbNRadioBearers} (hlcid : lcid.val = erab.id.toNat - 2)
    : Installs g rnti (erabs ++ [erab]) (g'.addBearer rnti lcid erab.addr erab.teid).1
        (res ++ [(erab.id, rntilcidToTeidin rnti lcid)]) := by
  have ⟨hlo, hhi⟩ := id hdrb
  constructor
  . intro lcid'
    rw [entry_addBearer]
    unfold requested
    rw [reverse_append, reverse_singleton, singleton_append, find?_cons]
    by_cases heq : lcid' = lcid
    . have hid : erab.id.toNat = lcid + 2 := by omega
      simp [heq, hdrb, hid]
    . have hid : ¬ erab.id.toNat = lcid' + 2 := by
        intro hid
        exact heq (Fin.ext (by omega))
      simp only [heq, hid, and_false, decide_false, reduceIte]
      exact h.entry lcid'
  . intro rnti' hne
    exact (Finmap.lookup_insert_of_ne _ hne).trans (h.other rnti' hne)
  . simp [h.listed, hdrb]
  . intro item hitem
    cases mem_append.mp hitem with
    | inl hmem => exact h.teid item hmem
    | inr hmem =>
      rw [mem_singleton.mp hmem, teidinToRntilcid_rntilcidToTeidin rnti (lcid_lt lcid), hlcid]

theorem setupErabs_snoc (g : Gtpu) (rnti : UInt16) (erabs : List Erab) (erab : Erab)
    : g.setupErabs rnti (erabs ++ [erab]) = (g.setupErabs rnti erabs).bind fun st => setupErab rnti st erab := by
  unfold setupErabs
  rw [foldlM_append]
  simp only [foldlM_cons, foldlM_nil, bind_pure]
  rfl

theorem exists_installs (h : ∀ erab ∈ erabs, erab.isDrb) (hlen : erabs.length ≤ erabSetupResMax)
    : ∃ g' res, g.setupErabs rnti erabs = some (g', res) ∧ Installs g rnti erabs g' res := by
  induction erabs using List.reverseRecOn with
  | nil => exact ⟨g, [], rfl, fun _ => rfl, fun _ _ => rfl, rfl, nofun⟩
  | append_singleton erabs erab ih =>
    rw [length_append, length_singleton] at hlen
    have hdrb := h erab (by simp)
    have ⟨g', res, hsetup, hinstalls⟩ := ih (fun erab' hmem => h erab' (by simp [hmem])) (by omega)
    have hreslen : res.length < erabSetupResMax := by
      have hle := congrArg List.length hinstalls.listed
      rw [length_map, length_map] at hle
      have := length_filter_le (fun erab => decide (Erab.isDrb erab)) erabs
      omega
    have ⟨hlo, hhi⟩ := hdrb
    have hlcid : (erab.id - 2).toNat < srsenbNRadioBearers := by
      rw [toNat_lcid (by omega)]
      unfold srsenbNRadioBearers
      omega
    rw [setupErabs_snoc, hsetup, Option.bind_some]
    unfold setupErab
    dsimp only
    rw [dif_pos hlcid, if_pos hreslen]
    exact ⟨_, _, rfl, hinstalls.snoc hdrb (toNat_lcid (by omega))⟩

theorem listed_of_setupErabs {g' : Gtpu} (h : g.setupErabs rnti erabs = some (g', res))
    : res.map Prod.fst = erabs.map Erab.id ∧ erabs.length ≤ erabSetupResMax := by
  induction erabs using List.reverseRecOn generalizing g' res with
  | nil =>
    cases h
    exact ⟨rfl, Nat.zero_le _⟩
  | append_singleton erabs erab ih =>
    rw [setupErabs_snoc] at h
    have ⟨⟨g'', res''⟩, hsetup, herab⟩ := Option.bind_eq_some_iff.mp h
    have ⟨hlisted, _⟩ := ih hsetup
    unfold setupErab at herab
    dsimp only at herab
    split_ifs at herab with _ hlen
    cases herab
    have hlength := congrArg List.length hlisted
    rw [length_map, length_map] at hlength
    simp only [map_append, hlisted, map_cons, map_nil, length_append, length_singleton, true_and]
    omega

def SetsUp (g : Gtpu) (rnti : UInt16) (erabs : List Erab) (result : Option (Gtpu × ErabSetupRes)) : Prop :=
  ∃ g' res, result = some (g', res) ∧ Installs g rnti erabs g' res

theorem setsUp_setupErabs_iff
    : SetsUp g rnti erabs (g.setupErabs rnti erabs)
        ↔
      (∀ erab ∈ erabs, erab.isDrb) ∧ erabs.length ≤ erabSetupResMax := by
  constructor
  . rintro ⟨g', res, hsetup, hinstalls⟩
    have ⟨hlisted, hlen⟩ := listed_of_setupErabs hsetup
    refine ⟨?_, hlen⟩
    have hlength := congrArg List.length (hlisted.symm.trans hinstalls.listed)
    rw [length_map, length_map] at hlength
    have hall := length_filter_eq_length_iff.mp hlength.symm
    intro erab hmem
    exact of_decide_eq_true (hall erab hmem)
  . rintro ⟨hdrb, hlen⟩
    exact exists_installs hdrb hlen

theorem setsUp_iff (g : Gtpu) (rnti : UInt16) (erabs : List Erab)
    : SetsUp g rnti erabs (g.setupUeCtxt rnti erabs) ∧ SetsUp g rnti erabs (g.setupUeErabs rnti erabs)
        ↔
      (∀ erab ∈ erabs, erab.isDrb) ∧ erabs.length ≤ erabSetupResMax := by
  unfold setupUeCtxt setupUeErabs
  rw [and_self, setsUp_setupErabs_iff]

theorem not_setsUp_signalling : ¬ SetsUp {} 70 [⟨3, 1, 2⟩] (setupUeCtxt {} 70 [⟨3, 1, 2⟩]) := by
  rintro ⟨g', res, hsetup, hinstalls⟩
  have hlisted := hinstalls.listed
  cases hsetup
  exact absurd hlisted (by decide)

end Gtpu

end SrsLte
