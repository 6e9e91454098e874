import SrsLte.Data.Map

/-!
This module contains what the maps of the MME say about the contexts of the UEs. The operations are those of
the MME on its maps, `Coherent` is what they have to keep.
-/

namespace SrsLte

open Finmap

structure UeIds where
  imsi : Nat
  mmeUeS1apId : Nat
  enbSri : Nat

structure CtxMaps where
  ids : Nat → Option UeIds
  nextUeCtx : Nat
  imsiToUeCtx : Map Nat
  mmeUeS1apIdToUeCtx : Map Nat
  enbAssocToUeIds : Map (List Nat)
  sctpToEnbId : Map Nat
  nextMmeUeS1apId : Nat

namespace CtxMaps

def assign (maps : CtxMaps) (ptr : Nat) (ids : UeIds) : CtxMaps :=
  { maps with ids := Function.update maps.ids ptr (some ids) }

def create (maps : CtxMaps) (ids : UeIds) : CtxMaps :=
  { maps.assign maps.nextUeCtx ids with nextUeCtx := maps.nextUeCtx + 1 }

def allocate (maps : CtxMaps) : CtxMaps :=
  { maps with nextMmeUeS1apId := (maps.nextMmeUeS1apId + 1) % 2 ^ 32 }

def addImsi (maps : CtxMaps) (imsi ptr : Nat) : CtxMaps :=
  { maps with imsiToUeCtx := maps.imsiToUeCtx.insert imsi ptr }

def addId (maps : CtxMaps) (mmeUeS1apId ptr : Nat) : CtxMaps :=
  { maps with mmeUeS1apIdToUeCtx := maps.mmeUeS1apIdToUeCtx.insert mmeUeS1apId ptr }

def eraseId (maps : CtxMaps) (mmeUeS1apId : Nat) : CtxMaps :=
  { maps with mmeUeS1apIdToUeCtx := maps.mmeUeS1apIdToUeCtx.erase mmeUeS1apId }

def setUeIds (maps : CtxMaps) (enbSri : Nat) (ueIds : List Nat) : CtxMaps :=
  { maps with enbAssocToUeIds := maps.enbAssocToUeIds.insert enbSri ueIds }

def release (maps : CtxMaps) (ptr : Nat) (ids : UeIds) (ueIds : List Nat) : CtxMaps :=
  ((maps.setUeIds ids.enbSri (ueIds.erase ids.mmeUeS1apId)).eraseId ids.mmeUeS1apId).assign ptr
    { ids with mmeUeS1apId := 0 }

def delete (maps : CtxMaps) (ptr imsi : Nat) : CtxMaps :=
  { maps with
    ids := Function.update maps.ids ptr none
    imsiToUeCtx := maps.imsiToUeCtx.erase imsi
  }

def addEnb (maps : CtxMaps) (enbSri enbId : Nat) : CtxMaps :=
  { maps with
    sctpToEnbId := Map.insertNew enbSri enbId maps.sctpToEnbId
    enbAssocToUeIds := Map.insertNew enbSri [] maps.enbAssocToUeIds
  }

def removeEnb (maps : CtxMaps) (enbSri : Nat) : CtxMaps :=
  { maps with sctpToEnbId := maps.sctpToEnbId.erase enbSri }

structure Coherent (maps : CtxMaps) : Prop where
  mmeUeS1apId : ∀ {mmeUeS1apId ptr}, maps.mmeUeS1apIdToUeCtx.lookup mmeUeS1apId = some ptr →
    ∃ ids, maps.ids ptr = some ids ∧ ids.mmeUeS1apId = mmeUeS1apId
  imsi : ∀ {imsi ptr}, maps.imsiToUeCtx.lookup imsi = some ptr → ∃ ids, maps.ids ptr = some ids ∧ ids.imsi = imsi
  ueIds : ∀ {enbSri ueIds mmeUeS1apId}, maps.enbAssocToUeIds.lookup enbSri = some ueIds → mmeUeS1apId ∈ ueIds →
    ∃ ptr ids, maps.mmeUeS1apIdToUeCtx.lookup mmeUeS1apId = some ptr ∧ maps.ids ptr = some ids ∧ ids.enbSri = enbSri
  nodup : ∀ {enbSri ueIds}, maps.enbAssocToUeIds.lookup enbSri = some ueIds → ueIds.Nodup
  pos : ∀ {mmeUeS1apId ptr}, maps.mmeUeS1apIdToUeCtx.lookup mmeUeS1apId = some ptr → mmeUeS1apId ≠ 0
  lt : ∀ {mmeUeS1apId ptr}, maps.mmeUeS1apIdToUeCtx.lookup mmeUeS1apId = some ptr →
    mmeUeS1apId < maps.nextMmeUeS1apId
  next : maps.nextMmeUeS1apId ≠ 0
  heap : ∀ {ptr ids}, maps.ids ptr = some ids → ptr < maps.nextUeCtx
  assoc : ∀ {enbSri}, enbSri ∈ maps.sctpToEnbId → enbSri ∈ maps.enbAssocToUeIds

def Idle (maps : CtxMaps) (ptr : Nat) : Prop :=
  ∀ mmeUeS1apId, maps.mmeUeS1apIdToUeCtx.lookup mmeUeS1apId ≠ some ptr

theorem Idle.release {maps : CtxMaps} {ptr ptr' : Nat} (h : maps.Idle ptr') (ids : UeIds) (ueIds : List Nat)
    : (maps.release ptr ids ueIds).Idle ptr' := by
  intro mmeUeS1apId hptr
  dsimp only [CtxMaps.release, CtxMaps.assign, CtxMaps.eraseId] at hptr
  rw [Map.lookup_erase_ite] at hptr
  split at hptr
  . cases hptr
  . exact h mmeUeS1apId hptr

structure Released (maps maps' : CtxMaps) : Prop where
  coherent : maps'.Coherent
  ids : ∀ {ptr ids}, maps.ids ptr = some ids → ∃ ids', maps'.ids ptr = some ids' ∧ ids'.imsi = ids.imsi
  imsiToUeCtx : maps'.imsiToUeCtx = maps.imsiToUeCtx
  nextMmeUeS1apId : maps'.nextMmeUeS1apId = maps.nextMmeUeS1apId

namespace Coherent

variable {maps : CtxMaps} {ptr : Nat} {ids : UeIds}

section

variable (h : maps.Coherent)

include h

theorem idle (hids : maps.ids ptr = some ids) (hid : ids.mmeUeS1apId ∉ maps.mmeUeS1apIdToUeCtx)
    : maps.Idle ptr := by
  intro mmeUeS1apId hptr
  obtain ⟨ids', hids', rfl⟩ := h.mmeUeS1apId hptr
  cases hids.symm.trans hids'
  exact hid (mem_of_lookup_eq_some hptr)

theorem idle_nextUeCtx : maps.Idle maps.nextUeCtx := by
  intro mmeUeS1apId hptr
  have ⟨ids, hids, _⟩ := h.mmeUeS1apId hptr
  exact absurd (h.heap hids) (lt_irrefl _)

theorem assign (hidle : maps.Idle ptr) (hptr : ptr < maps.nextUeCtx)
    (himsi : ∀ imsi, maps.imsiToUeCtx.lookup imsi = some ptr → ids.imsi = imsi)
    : (maps.assign ptr ids).Coherent where
  mmeUeS1apId := by
    intro mmeUeS1apId ptr' hptr'
    have hne : ptr' ≠ ptr := by
      rintro rfl
      exact hidle mmeUeS1apId hptr'
    have ⟨ids', hids', hid⟩ := h.mmeUeS1apId hptr'
    exact ⟨ids', (Function.update_of_ne hne ..).trans hids', hid⟩
  imsi := by
    intro imsi ptr' hptr'
    by_cases heq : ptr' = ptr
    . subst heq
      exact ⟨ids, Function.update_self .., himsi imsi hptr'⟩
    . have ⟨ids', hids', himsi'⟩ := h.imsi hptr'
      exact ⟨ids', (Function.update_of_ne heq ..).trans hids', himsi'⟩
  ueIds := by
    intro enbSri ueIds mmeUeS1apId hueIds hmem
    have ⟨ptr', ids', hptr', hids', henb⟩ := h.ueIds hueIds hmem
    have hne : ptr' ≠ ptr := by
      rintro rfl
      exact hidle mmeUeS1apId hptr'
    exact ⟨ptr', ids', hptr', (Function.update_of_ne hne ..).trans hids', henb⟩
  nodup := h.nodup
  pos := h.pos
  lt := h.lt
  next := h.next
  heap := by
    intro ptr' ids' hids'
    by_cases heq : ptr' = ptr
    . rw [heq]
      exact hptr
    . exact h.heap ((Function.update_of_ne heq ..).symm.trans hids')
  assoc := h.assoc

theorem setImsi (hids : maps.ids ptr = some ids) {imsi : Nat}
    (himsi : imsi = ids.imsi ∨ maps.imsiToUeCtx.lookup ids.imsi ≠ some ptr)
    : (maps.assign ptr { ids with imsi }).Coherent := by
  have hget : ∀ {ptr' ids'}, maps.ids ptr' = some ids' → ∃ ids'', (maps.assign ptr { ids with imsi }).ids ptr' = some ids''
      ∧ ids''.mmeUeS1apId = ids'.mmeUeS1apId ∧ ids''.enbSri = ids'.enbSri := by
    intro ptr' ids' hids'
    by_cases heq : ptr' = ptr
    . subst heq
      cases hids.symm.trans hids'
      exact ⟨_, Function.update_self .., rfl, rfl⟩
    . exact ⟨ids', (Function.update_of_ne heq ..).trans hids', rfl, rfl⟩
  refine { h with mmeUeS1apId := ?_, imsi := ?_, ueIds := ?_, heap := ?_ }
  . intro mmeUeS1apId ptr' hptr'
    obtain ⟨ids', hids', rfl⟩ := h.mmeUeS1apId hptr'
    have ⟨ids'', hids'', hid, _⟩ := hget hids'
    exact ⟨ids'', hids'', hid⟩
  . intro imsi' ptr' hptr'
    obtain ⟨ids', hids', rfl⟩ := h.imsi hptr'
    by_cases heq : ptr' = ptr
    . subst heq
      cases hids.symm.trans hids'
      cases himsi with
      | inl hsame => exact ⟨_, Function.update_self .., hsame⟩
      | inr hother => exact absurd hptr' hother
    . exact ⟨ids', (Function.update_of_ne heq ..).trans hids', rfl⟩
  . intro enbSri ueIds mmeUeS1apId hueIds hmem
    have ⟨ptr', ids', hptr', hids', henb⟩ := h.ueIds hueIds hmem
    have ⟨ids'', hids'', _, henb'⟩ := hget hids'
    exact ⟨ptr', ids'', hptr', hids'', henb'.trans henb⟩
  . intro ptr' ids' hids'
    by_cases heq : ptr' = ptr
    . rw [heq]
      exact h.heap hids
    . exact h.heap ((Function.update_of_ne heq ..).symm.trans hids')

theorem nextUeCtx : { maps with nextUeCtx := maps.nextUeCtx + 1 }.Coherent :=
  { h with heap := fun hids => Nat.lt_succ_of_lt (h.heap hids) }

theorem create (ids : UeIds) : (maps.create ids).Coherent := by
  refine assign h.nextUeCtx h.idle_nextUeCtx (Nat.lt_succ_self _) ?_
  intro imsi hptr
  have ⟨ids, hids, _⟩ := h.imsi hptr
  exact absurd (h.heap hids) (lt_irrefl _)

theorem allocate (hnext : maps.nextMmeUeS1apId + 1 < 2 ^ 32) : maps.allocate.Coherent := by
  have hmod : (maps.nextMmeUeS1apId + 1) % 2 ^ 32 = maps.nextMmeUeS1apId + 1 := Nat.mod_eq_of_lt hnext
  refine { h with lt := ?_, next := ?_ }
  . intro mmeUeS1apId ptr hptr
    have hlt := h.lt hptr
    dsimp only [CtxMaps.allocate]
    omega
  . dsimp only [CtxMaps.allocate]
    omega

theorem addImsi (hids : maps.ids ptr = some ids) : (maps.addImsi ids.imsi ptr).Coherent := by
  refine { h with imsi := ?_ }
  intro imsi ptr' hptr'
  dsimp only [CtxMaps.addImsi] at hptr'
  rw [Map.lookup_insert_ite] at hptr'
  split at hptr'
  . next heq =>
    cases hptr'
    exact ⟨ids, hids, heq.symm⟩
  . exact h.imsi hptr'

theorem addId (hids : maps.ids ptr = some ids) (hpos : ids.mmeUeS1apId ≠ 0)
    (hlt : ids.mmeUeS1apId < maps.nextMmeUeS1apId) (hnew : ids.mmeUeS1apId ∉ maps.mmeUeS1apIdToUeCtx)
    : (maps.addId ids.mmeUeS1apId ptr).Coherent := by
  have hcases : ∀ {mmeUeS1apId ptr'}, (maps.addId ids.mmeUeS1apId ptr).mmeUeS1apIdToUeCtx.lookup mmeUeS1apId = some ptr' →
      (mmeUeS1apId = ids.mmeUeS1apId ∧ ptr' = ptr) ∨ maps.mmeUeS1apIdToUeCtx.lookup mmeUeS1apId = some ptr' := by
    intro mmeUeS1apId ptr' hptr'
    dsimp only [CtxMaps.addId] at hptr'
    rw [Map.lookup_insert_ite] at hptr'
    split at hptr'
    . next heq =>
      cases hptr'
      exact .inl ⟨heq, rfl⟩
    . exact .inr hptr'
  refine { h with mmeUeS1apId := ?_, ueIds := ?_, pos := ?_, lt := ?_ }
  . intro mmeUeS1apId ptr' hptr'
    rcases hcases hptr' with ⟨rfl, rfl⟩ | hold
    . exact ⟨ids, hids, rfl⟩
    . exact h.mmeUeS1apId hold
  . intro enbSri ueIds mmeUeS1apId hueIds hmem
    have ⟨ptr', ids', hptr', hids', henb⟩ := h.ueIds hueIds hmem
    refine ⟨ptr', ids', ?_, hids', henb⟩
    dsimp only [CtxMaps.addId]
    rw [Map.lookup_insert_ite, if_neg]
    . exact hptr'
    . rintro rfl
      exact hnew (mem_of_lookup_eq_some hptr')
  . intro mmeUeS1apId ptr' hptr'
    rcases hcases hptr' with ⟨rfl, rfl⟩ | hold
    . exact hpos
    . exact h.pos hold
  . intro mmeUeS1apId ptr' hptr'
    rcases hcases hptr' with ⟨rfl, rfl⟩ | hold
    . exact hlt
    . exact h.lt hold

end

variable {ueIds : List Nat}

theorem setUeIds (h : maps.Coherent) {enbSri : Nat} (hnodup : ueIds.Nodup)
    (hueIds : ∀ mmeUeS1apId ∈ ueIds, ∃ ptr ids, maps.mmeUeS1apIdToUeCtx.lookup mmeUeS1apId = some ptr
      ∧ maps.ids ptr = some ids ∧ ids.enbSri = enbSri)
    : (maps.setUeIds enbSri ueIds).Coherent := by
  refine { h with ueIds := ?_, nodup := ?_, assoc := ?_ }
  . intro enbSri' ueIds' mmeUeS1apId hueIds' hmem
    dsimp only [CtxMaps.setUeIds] at hueIds'
    rw [Map.lookup_insert_ite] at hueIds'
    split at hueIds'
    . next heq =>
      cases hueIds'
      rw [heq]
      exact hueIds mmeUeS1apId hmem
    . exact h.ueIds hueIds' hmem
  . intro enbSri' ueIds' hueIds'
    dsimp only [CtxMaps.setUeIds] at hueIds'
    rw [Map.lookup_insert_ite] at hueIds'
    split at hueIds'
    . cases hueIds'
      exact hnodup
    . exact h.nodup hueIds'
  . intro enbSri' hmem
    exact mem_insert.mpr (.inr (h.assoc hmem))

theorem addUe (h : maps.Coherent) {mmeUeS1apId : Nat} {ueIds : List Nat}
    (hueIds : maps.enbAssocToUeIds.lookup ids.enbSri = some ueIds) (hnew : mmeUeS1apId ∉ ueIds)
    (hptr : maps.mmeUeS1apIdToUeCtx.lookup mmeUeS1apId = some ptr) (hids : maps.ids ptr = some ids)
    : (maps.setUeIds ids.enbSri (ueIds.orderedInsert (· ≤ ·) mmeUeS1apId)).Coherent := by
  have hperm := List.perm_orderedInsert (· ≤ ·) mmeUeS1apId ueIds
  apply h.setUeIds
  . exact hperm.nodup_iff.mpr (List.nodup_cons.mpr ⟨hnew, h.nodup hueIds⟩)
  . intro mmeUeS1apId' hmem
    rcases List.mem_cons.mp (hperm.mem_iff.mp hmem) with rfl | hold
    . exact ⟨ptr, ids, hptr, hids, rfl⟩
    . exact h.ueIds hueIds hold

section

variable (h : maps.Coherent)

include h

theorem eraseId {mmeUeS1apId : Nat}
    (hset : ∀ enbSri ueIds, maps.enbAssocToUeIds.lookup enbSri = some ueIds → mmeUeS1apId ∉ ueIds)
    : (maps.eraseId mmeUeS1apId).Coherent := by
  have hlookup : ∀ {mmeUeS1apId' ptr'}, (maps.eraseId mmeUeS1apId).mmeUeS1apIdToUeCtx.lookup mmeUeS1apId' = some ptr' →
      maps.mmeUeS1apIdToUeCtx.lookup mmeUeS1apId' = some ptr' := by
    intro mmeUeS1apId' ptr' hptr'
    dsimp only [CtxMaps.eraseId] at hptr'
    rw [Map.lookup_erase_ite] at hptr'
    split at hptr'
    . cases hptr'
    . exact hptr'
  refine { h with mmeUeS1apId := ?_, ueIds := ?_, pos := ?_, lt := ?_ }
  . intro mmeUeS1apId' ptr' hptr'
    exact h.mmeUeS1apId (hlookup hptr')
  . intro enbSri ueIds mmeUeS1apId' hueIds hmem
    have ⟨ptr', ids', hptr', hids', henb⟩ := h.ueIds hueIds hmem
    refine ⟨ptr', ids', ?_, hids', henb⟩
    dsimp only [CtxMaps.eraseId]
    rw [Map.lookup_erase_ite, if_neg]
    . exact hptr'
    . rintro rfl
      exact hset enbSri ueIds hueIds hmem
  . intro mmeUeS1apId' ptr' hptr'
    exact h.pos (hlookup hptr')
  . intro mmeUeS1apId' ptr' hptr'
    exact h.lt (hlookup hptr')

theorem not_mem_setUeIds_erase
    (hptr : maps.mmeUeS1apIdToUeCtx.lookup ids.mmeUeS1apId = some ptr) (hids : maps.ids ptr = some ids)
    (hueIds : maps.enbAssocToUeIds.lookup ids.enbSri = some ueIds) (enbSri : Nat) (ueIds' : List Nat)
    (hueIds' : (maps.setUeIds ids.enbSri (ueIds.erase ids.mmeUeS1apId)).enbAssocToUeIds.lookup enbSri = some ueIds')
    : ids.mmeUeS1apId ∉ ueIds' := by
  dsimp only [CtxMaps.setUeIds] at hueIds'
  rw [Map.lookup_insert_ite] at hueIds'
  split at hueIds'
  . cases hueIds'
    exact (h.nodup hueIds).not_mem_erase
  . next hne =>
    -- the id is only in the set of the eNB that serves its context
    intro hmem
    have ⟨ptr', ids', hptr', hids', henb⟩ := h.ueIds hueIds' hmem
    cases hptr.symm.trans hptr'
    cases hids.symm.trans hids'
    exact hne henb.symm

theorem release
    (hptr : maps.mmeUeS1apIdToUeCtx.lookup ids.mmeUeS1apId = some ptr) (hids : maps.ids ptr = some ids)
    (hueIds : maps.enbAssocToUeIds.lookup ids.enbSri = some ueIds)
    : (maps.release ptr ids ueIds).Coherent ∧ (maps.release ptr ids ueIds).Idle ptr := by
  have hset : (maps.setUeIds ids.enbSri (ueIds.erase ids.mmeUeS1apId)).Coherent := by
    apply h.setUeIds ((h.nodup hueIds).erase _)
    intro mmeUeS1apId hmem
    exact h.ueIds hueIds (List.mem_of_mem_erase hmem)
  have hid := hset.eraseId (h.not_mem_setUeIds_erase hptr hids hueIds)
  have hidle := hid.idle hids notMem_erase_self
  refine ⟨hid.assign hidle (h.heap hids) ?_, hidle⟩
  intro imsi himsi
  obtain ⟨ids', hids', rfl⟩ := h.imsi himsi
  cases hids.symm.trans hids'
  rfl

theorem released_self : maps.Released maps :=
  ⟨h, fun hids => ⟨_, hids, rfl⟩, rfl, rfl⟩

theorem released
    (hptr : maps.mmeUeS1apIdToUeCtx.lookup ids.mmeUeS1apId = some ptr) (hids : maps.ids ptr = some ids)
    (hueIds : maps.enbAssocToUeIds.lookup ids.enbSri = some ueIds)
    : maps.Released (maps.release ptr ids ueIds) := by
  refine ⟨(h.release hptr hids hueIds).1, ?_, rfl, rfl⟩
  intro ptr' ids' hids'
  by_cases heq : ptr' = ptr
  . subst heq
    cases hids.symm.trans hids'
    exact ⟨_, Function.update_self .., rfl⟩
  . exact ⟨ids', (Function.update_of_ne heq ..).trans hids', rfl⟩

theorem idle_of_ne {ptr' : Nat} (hids : maps.ids ptr = some ids)
    (hptr' : maps.mmeUeS1apIdToUeCtx.lookup ids.mmeUeS1apId = some ptr') (hne : ptr ≠ ptr')
    : maps.Idle ptr := by
  intro mmeUeS1apId hptr
  obtain ⟨ids', hids', rfl⟩ := h.mmeUeS1apId hptr
  cases hids.symm.trans hids'
  cases hptr.symm.trans hptr'
  exact hne rfl

theorem delete {imsi : Nat} (hidle : maps.Idle ptr)
    (himsi : maps.imsiToUeCtx.lookup imsi = some ptr)
    : (maps.delete ptr imsi).Coherent := by
  refine { h with mmeUeS1apId := ?_, imsi := ?_, ueIds := ?_, heap := ?_ }
  . intro mmeUeS1apId ptr' hptr'
    have hne : ptr' ≠ ptr := by
      rintro rfl
      exact hidle mmeUeS1apId hptr'
    have ⟨ids', hids', hid⟩ := h.mmeUeS1apId hptr'
    exact ⟨ids', (Function.update_of_ne hne ..).trans hids', hid⟩
  . intro imsi' ptr' hptr'
    dsimp only [CtxMaps.delete] at hptr'
    rw [Map.lookup_erase_ite] at hptr'
    split at hptr'
    . cases hptr'
    . next hneImsi =>
      have ⟨ids', hids', himsi'⟩ := h.imsi hptr'
      have hne : ptr' ≠ ptr := by
        rintro rfl
        have ⟨ids'', hids'', himsi''⟩ := h.imsi himsi
        cases hids'.symm.trans hids''
        exact hneImsi (himsi'.symm.trans himsi'')
      exact ⟨ids', (Function.update_of_ne hne ..).trans hids', himsi'⟩
  . intro enbSri ueIds mmeUeS1apId hueIds hmem
    have ⟨ptr', ids', hptr', hids', henb⟩ := h.ueIds hueIds hmem
    have hne : ptr' ≠ ptr := by
      rintro rfl
      exact hidle mmeUeS1apId hptr'
    exact ⟨ptr', ids', hptr', (Function.update_of_ne hne ..).trans hids', henb⟩
  . intro ptr' ids' hids'
    by_cases heq : ptr' = ptr
    . subst heq
      cases (Function.update_self ..).symm.trans hids'
    . exact h.heap ((Function.update_of_ne heq ..).symm.trans hids')

theorem addEnb (enbSri enbId : Nat) : (maps.addEnb enbSri enbId).Coherent := by
  have hset : { maps with enbAssocToUeIds := Map.insertNew enbSri [] maps.enbAssocToUeIds }.Coherent := by
    unfold Map.insertNew
    split
    . exact h
    . exact h.setUeIds List.nodup_nil nofun
  refine { hset with assoc := ?_ }
  intro enbSri' hmem
  by_cases heq : enbSri' = enbSri
  . rw [← lookup_isSome]
    dsimp only [CtxMaps.addEnb]
    rw [Map.lookup_insertNew, if_pos heq]
    rfl
  . apply hset.assoc
    rw [← lookup_isSome] at hmem ⊢
    dsimp only [CtxMaps.addEnb] at hmem
    rw [Map.lookup_insertNew, if_neg heq] at hmem
    exact hmem

theorem removeEnb (enbSri : Nat) : (maps.removeEnb enbSri).Coherent :=
  { h with assoc := fun hmem => h.assoc (mem_erase.mp hmem).2 }

end

end Coherent

end CtxMaps

end SrsLte
