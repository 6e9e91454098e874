import SrsLte.Mac.Impl.Mux
import SrsLte.Mac.Lemmas.Compose

/-!
This module contains what an empty subheader does to an SCH PDU.
-/

namespace SrsLte.SchPdu

open List

def headersSize (p : SchPdu) : Nat :=
  (p.used.map fun s => s.getHeaderSize false).sum

def nofEmpty (p : SchPdu) : Nat :=
  p.used.countP fun s => s.nofBytes = 0

structure Fresh (s : SchSubh) : Prop where
  type : s.type = .sch
  lcid : s.lcid < nRadioBearers
  empty : s.nofBytes = 0

variable {s : SchSubh}

theorem Fresh.isSdu (h : Fresh s) : s.isSdu = true := by
  have hlt : s.lcid < SchSubh.phrReport := Nat.lt_trans h.lcid (by decide)
  rw [SchSubh.isSdu_of_sch h.type, decide_eq_true hlt]

theorem Fresh.getHeaderSize (h : Fresh s) : s.getHeaderSize false = 2 := by
  simp [SchSubh.getHeaderSize, h.isSdu, h.empty, SchSubh.sizeHeaderSdu]

structure Accounts (pduLen : Nat) (p : SchPdu) : Prop where
  pduLen_eq : p.pduLen = pduLen
  spare : ∀ s ∈ p.spare, Fresh s
  used : ∀ s ∈ p.used, s.nofBytes = 0 → Fresh s
  last : ∀ i, p.lastSduIdx = some i → ∃ s, p.used[i]? = some s ∧ s.isSdu = true ∧ s.nofBytes ≠ 0
  total : p.remLen + p.headersSize + p.cePayloadSize + p.totalSduLen
    = pduLen + p.lastSduExtra + 2 * p.nofEmpty

theorem accounts_init (max pduLen : Nat) (isUl : Bool) : Accounts pduLen (init max pduLen isUl) := by
  exact {
    pduLen_eq := rfl
    spare := by
      intro s hs
      rw [eq_of_mem_replicate hs]
      exact { type := rfl, lcid := by decide, empty := rfl }
    used := by
      intro s hs
      contradiction
    last := by
      intro i hi
      contradiction
    total := rfl
  }

theorem delSubh_eq {p : SchPdu} {before : List SchSubh} (h : p.used = before ++ [s])
    : p.delSubh = { p with used := before, spare := s :: p.spare } := by
  simp [delSubh, Subheaders.delSubh, h]

namespace Accounts

variable {pduLen : Nat} {p q : SchPdu}

variable {s : SchSubh} {spare before : List SchSubh} {lcid i : Nat}

theorem lastSduExtra_of_getElem? (hidx : p.lastSduIdx = some i) (hs : p.used[i]? = some s)
    : p.lastSduExtra = SchSubh.sizeHeaderSdu s.nofBytes - 1 := by
  have hlt := (List.getElem?_eq_some_iff.mp hs).1
  simp [lastSduExtra, hidx, getElem?_append_left hlt, hs, SchSubh.getPayloadSize]

theorem subheadersSize_add (h : Accounts pduLen p) (multibyte : Bool)
    : p.subheadersSize multibyte + (if multibyte then 0 else p.lastSduExtra) = p.headersSize := by
  have hnone : (p.used.zipIdx.map fun x => x.1.getHeaderSize false).sum = p.headersSize := by
    have hcomp : (p.used.zipIdx.map fun x => x.1.getHeaderSize false)
        = (p.used.zipIdx.map Prod.fst).map fun s => s.getHeaderSize false := by
      rw [map_map]
      rfl
    rw [hcomp, zipIdx_map_fst, headersSize]
  unfold subheadersSize
  cases multibyte with
  | true => simpa using hnone
  | false =>
    cases hidx : p.lastSduIdx with
    | none => simpa [lastSduExtra, hidx] using hnone
    | some i =>
      obtain ⟨s, hs, hsdu, _⟩ := h.last i hidx
      have hsum := Lists.sum_map_zipIdx_beq (fun s b => SchSubh.getHeaderSize s b) hs 0
      have hfull : s.getHeaderSize false = SchSubh.sizeHeaderSdu s.nofBytes := by
        simp [SchSubh.getHeaderSize, hsdu]
      have hpos : 0 < SchSubh.sizeHeaderSdu s.nofBytes := by
        unfold SchSubh.sizeHeaderSdu
        split
        . omega
        . omega
      simp only [hfull, Nat.zero_add] at hsum
      simp only [lastSduExtra_of_getElem? hidx hs, headersSize, Bool.not_false, Bool.true_and, Option.some_beq_some,
        Bool.false_eq_true, ↓reduceIte]
      have hshort : s.getHeaderSize true = 1 := rfl
      omega

theorem getPadding_eq (h : Accounts pduLen p)
    : p.getPadding
        =
      if p.remLen > 2 then
        { multibyte := true, onetwo := 0, remLen := p.remLen - 1 - p.lastSduExtra }
      else
        { multibyte := false, onetwo := p.remLen, remLen := 0 } := by
  unfold getPadding
  cases hidx : p.lastSduIdx with
  | none => simp [lastSduExtra, hidx]
  | some i =>
    obtain ⟨s, hs, hsdu, _⟩ := h.last i hidx
    have hlt := (List.getElem?_eq_some_iff.mp hs).1
    simp [lastSduExtra_of_getElem? hidx hs, getElem?_append_left hlt, hs, SchSubh.getHeaderSize, hsdu]

theorem writePacket_of_dropEmpty (h : Accounts pduLen p.dropEmpty) (hempty : 0 < p.dropEmpty.nofEmpty)
    : p.writePacket = none := by
  have htotal := h.total
  have hlen := h.pduLen_eq
  have hpadding := h.getPadding_eq
  have hne : p.dropEmpty.getPadding.remLen
        + (p.dropEmpty.subheadersSize p.dropEmpty.getPadding.multibyte
          + (if p.dropEmpty.getPadding.multibyte then 1 else p.dropEmpty.getPadding.onetwo))
        + p.dropEmpty.cePayloadSize + p.dropEmpty.totalSduLen
      ≠ p.dropEmpty.pduLen := by
    by_cases hrem : p.dropEmpty.remLen > 2
    . have hsize := h.subheadersSize_add true
      simp only [hpadding, hrem, ↓reduceIte] at hsize ⊢
      omega
    . have hsize := h.subheadersSize_add false
      simp only [hpadding, hrem, ↓reduceIte, Bool.false_eq_true] at hsize ⊢
      omega
  unfold writePacket
  split
  . rfl
  . simp only []
    rw [if_pos hne, ite_self]

section

variable (h : Accounts pduLen p)

include h

theorem lastSduExtra_eq (hidx : q.lastSduIdx = p.lastSduIdx)
    (hkeep : ∀ (i : Nat) s, p.used[i]? = some s → s.nofBytes ≠ 0 → q.used[i]? = some s)
    : q.lastSduExtra = p.lastSduExtra := by
  cases hlast : p.lastSduIdx with
  | none => simp [lastSduExtra, hidx, hlast]
  | some i =>
    obtain ⟨s, hs, _, hne⟩ := h.last i hlast
    rw [lastSduExtra_of_getElem? hlast hs, lastSduExtra_of_getElem? (hidx.trans hlast) (hkeep i s hs hne)]

theorem lastSduExtra_concat (s' : SchSubh) (hidx : q.lastSduIdx = p.lastSduIdx)
    (hused : q.used = p.used ++ [s'])
    : q.lastSduExtra = p.lastSduExtra := by
  apply h.lastSduExtra_eq hidx
  intro i s hs _
  rw [hused, getElem?_append_left (List.getElem?_eq_some_iff.mp hs).1, hs]

theorem concat {s' : SchSubh}
    (hspare : p.spare = s :: spare) (hused : q.used = p.used ++ [s']) (hspare' : q.spare = spare)
    (hlen : q.pduLen = p.pduLen) (hs' : s'.nofBytes = 0 → Fresh s')
    (hidx : q.lastSduIdx = p.lastSduIdx
      ∨ (q.lastSduIdx = some p.used.length ∧ s'.isSdu = true ∧ s'.nofBytes ≠ 0))
    (htotal : q.remLen + s'.getHeaderSize false + (if s'.isSdu then 0 else s'.nofBytes) + q.totalSduLen
        + p.lastSduExtra
      = p.remLen + p.totalSduLen + q.lastSduExtra + (if s'.nofBytes = 0 then 2 else 0))
    : Accounts pduLen q := by
  have hheaders : q.headersSize = p.headersSize + s'.getHeaderSize false := by
    simp [headersSize, hused]
  have hces : q.cePayloadSize = p.cePayloadSize + if s'.isSdu then 0 else s'.nofBytes := by
    cases hsdu : s'.isSdu with
    | true => simp [cePayloadSize, hused, hsdu]
    | false => simp [cePayloadSize, hused, hsdu, SchSubh.getPayloadSize]
  have hempty : 2 * q.nofEmpty = 2 * p.nofEmpty + if s'.nofBytes = 0 then 2 else 0 := by
    by_cases hzero : s'.nofBytes = 0
    . simp [nofEmpty, hused, hzero]
      omega
    . simp [nofEmpty, hused, hzero]
  have hp := h.total
  exact {
    pduLen_eq := by
      rw [hlen]
      exact h.pduLen_eq
    spare := by
      intro t ht
      rw [hspare'] at ht
      apply h.spare
      rw [hspare]
      exact mem_cons_of_mem s ht
    used := by
      intro t ht hzero
      rw [hused] at ht
      cases mem_append.mp ht with
      | inl ht => exact h.used t ht hzero
      | inr ht =>
        rw [mem_singleton.mp ht] at hzero ⊢
        exact hs' hzero
    last := by
      intro i hi
      rw [hused]
      cases hidx with
      | inl hsame =>
        obtain ⟨t, ht, hdata⟩ := h.last i (by rw [← hsame]; exact hi)
        exact ⟨t, by rw [getElem?_append_left (List.getElem?_eq_some_iff.mp ht).1, ht], hdata⟩
      | inr hnew =>
        have heq : p.used.length = i := by
          rw [hnew.1] at hi
          exact Option.some.inj hi
        exact ⟨s', by simp [← heq], hnew.2⟩
    total := by
      omega
  }

theorem fresh (hspare : p.spare = s :: spare) : Fresh s := by
  apply h.spare
  simp [hspare]

theorem newSubh (hnew : p.newSubh = some q) : Accounts pduLen q := by
  obtain ⟨s, spare, hspare, _, _, rfl⟩ := (newSubh_eq_some_iff p q).mp hnew
  have hfresh := h.fresh hspare
  have hextra := h.lastSduExtra_concat (q := { p with used := p.used ++ [s], spare }) s rfl rfl
  apply h.concat (q := { p with used := p.used ++ [s], spare }) hspare rfl rfl rfl
  . intro _
    exact hfresh
  . exact .inl rfl
  . rw [hfresh.getHeaderSize, hfresh.isSdu, hfresh.empty, hextra]
    simp only [↓reduceIte, totalSduLen]
    omega

theorem setCe (hnew : p.newSubh = some q) {payload : List UInt8}
    (hlcid : SchSubh.phrReport ≤ lcid) (hne : payload ≠ [])
    : Accounts pduLen (q.setCe lcid payload).1 := by
  by_cases hspace : payload.length + 1 ≤ q.remLen
  . have ⟨s, spare, hspare, _, _, hq⟩ := (newSubh_eq_some_iff p q).mp hnew
    have hfresh := h.fresh hspare
    have hset := congrArg Prod.fst (setCe_of_space (p := q) (s := s) (by rw [hq]) lcid hspace)
    generalize (q.setCe lcid payload).1 = r at hset ⊢
    have hused : r.used = p.used ++ [fillCe s lcid payload] := by
      rw [hset]
    have hidx : r.lastSduIdx = p.lastSduIdx := by
      rw [hset, hq]
    have hrem : r.remLen = p.remLen - (payload.length + 1) := by
      rw [hset, hq]
    have hsdus : r.totalSduLen = p.totalSduLen := by
      rw [hset, hq]
      rfl
    have hsize : (fillCe s lcid payload).nofBytes = payload.length := rfl
    have hpos : 0 < payload.length := length_pos_iff.mpr hne
    have hhas : (fillCe s lcid payload).hasLength = false := by
      rw [SchSubh.hasLength_of_sch (s := fillCe s lcid payload) hfresh.type]
      exact decide_eq_false (Nat.not_lt_of_le hlcid)
    have hce : (fillCe s lcid payload).isSdu = false := by
      rw [SchSubh.isSdu_of_sch (s := fillCe s lcid payload) hfresh.type]
      exact decide_eq_false (Nat.not_lt_of_le hlcid)
    have hextra := h.lastSduExtra_concat _ hidx hused
    have hspace' : payload.length + 1 ≤ p.remLen := by
      rw [hq] at hspace
      exact hspace
    apply h.concat hspare hused (by rw [hset, hq]) (by rw [hset, hq])
    . intro hzero
      rw [hsize] at hzero
      omega
    . exact .inl hidx
    . rw [SchSubh.getHeaderSize_false, hhas, hce, hsize, if_neg (Nat.ne_of_gt hpos)]
      simp only [Bool.false_eq_true, ↓reduceIte]
      omega
  . rw [setCe_of_not_space lcid hspace]
    exact h.newSubh hnew

theorem setSduItf (hnew : p.newSubh = some q) {requestedBytes : Nat}
    (hlcid : lcid < nRadioBearers) {sdu : List UInt8}
    (hset : (q.setSduItf lcid requestedBytes (some sdu)).2 > 0)
    : Accounts pduLen (q.setSduItf lcid requestedBytes (some sdu)).1 := by
  have ⟨s, spare, hspare, _, _, hq⟩ := (newSubh_eq_some_iff p q).mp hnew
  have hfresh := h.fresh hspare
  have ⟨hspace, sdu', hsdu', hne, hle⟩ := (setSduItf_pos_iff q lcid requestedBytes _).mp hset
  rw [Option.some.injEq] at hsdu'
  subst hsdu'
  have hextra : q.lastSduExtra = p.lastSduExtra := by
    apply h.lastSduExtra_concat s
    . rw [hq]
    . rw [hq]
  have hidx : ∀ i, q.lastSduIdx = some i → i < p.used.length := by
    intro i hi
    have ⟨t, ht, _⟩ := h.last i (by rw [← hi, hq])
    exact (List.getElem?_eq_some_iff.mp ht).1
  have hr := congrArg Prod.fst
    (setSduItf_of_space (p := q) (s := s) (by rw [hq]) hidx lcid hspace hne hle)
  generalize (q.setSduItf lcid requestedBytes (some sdu)).1 = r at hr ⊢
  have hused : r.used = p.used ++ [fillSdu s lcid sdu.length] := by
    rw [hr]
  have hlast : r.lastSduIdx = some p.used.length := by
    rw [hr]
  have hrem : r.remLen = p.remLen - (sdu.length + 1 + p.lastSduExtra) := by
    rw [hr, hextra, hq]
  have hsdus : r.totalSduLen = p.totalSduLen + sdu.length := by
    rw [hr, hq, totalSduLen, length_append]
    rfl
  have hspace' : requestedBytes + 1 + p.lastSduExtra ≤ p.remLen := by
    rw [hextra, hq] at hspace
    exact hspace
  have hpos : 0 < sdu.length := length_pos_iff.mpr hne
  have hsize : (fillSdu s lcid sdu.length).nofBytes = sdu.length := rfl
  have hsdu : (fillSdu s lcid sdu.length).isSdu = true := by
    rw [SchSubh.isSdu_of_sch (s := fillSdu s lcid sdu.length) hfresh.type]
    exact decide_eq_true (Nat.lt_trans hlcid (by decide))
  have hheader : (fillSdu s lcid sdu.length).getHeaderSize false = SchSubh.sizeHeaderSdu sdu.length := by
    simp [SchSubh.getHeaderSize, hsdu, hsize]
  have hget : r.used[p.used.length]? = some (fillSdu s lcid sdu.length) := by
    simp [hused]
  have hlastExtra : r.lastSduExtra = SchSubh.sizeHeaderSdu sdu.length - 1 := lastSduExtra_of_getElem? hlast hget
  have hheaderPos : 0 < SchSubh.sizeHeaderSdu sdu.length := by
    unfold SchSubh.sizeHeaderSdu
    split
    . omega
    . omega
  apply h.concat hspare hused (by rw [hr, hq]) (by rw [hr, hq])
  . intro hzero
    rw [hsize] at hzero
    omega
  . exact .inr ⟨hlast, hsdu, by rw [hsize]; omega⟩
  . rw [hsdu, hheader, hsize, if_neg (Nat.ne_of_gt hpos)]
    simp only [↓reduceIte]
    omega

theorem replaceSpare (hspare : ∀ s ∈ spare, Fresh s)
    : Accounts pduLen { p with spare } := by
  have hextra := h.lastSduExtra_eq (q := { p with spare }) rfl fun _ _ hs _ => hs
  exact {
    h with
    spare := hspare
    total := by
      rw [hextra]
      exact h.total
  }

theorem fresh_cons (hspare : p.spare = s :: spare) (hlcid : lcid < nRadioBearers)
    : ∀ t ∈ { s with lcid } :: spare, Fresh t := by
  intro t ht
  cases mem_cons.mp ht with
  | inl heq =>
    have hs := h.fresh hspare
    rw [heq]
    exact { type := hs.type, lcid := hlcid, empty := hs.empty }
  | inr ht => exact h.spare t (by simp [hspare, ht])

theorem delSubh (hused : p.used = before ++ [s]) (hs : s.nofBytes = 0)
    : Accounts pduLen p.delSubh := by
  have hdel := delSubh_eq hused
  generalize p.delSubh = q at hdel ⊢
  have hq : q.used = before := by
    rw [hdel]
  have hidx : q.lastSduIdx = p.lastSduIdx := by
    rw [hdel]
  have hrem : q.remLen = p.remLen := by
    rw [hdel]
  have hbytes : q.totalSduLen = p.totalSduLen := by
    rw [hdel]
    rfl
  have hfresh : Fresh s := h.used s (by simp [hused]) hs
  have hheaders : p.headersSize = q.headersSize + 2 := by
    simp [headersSize, hused, hq, hfresh.getHeaderSize]
  have hces : p.cePayloadSize = q.cePayloadSize := by
    simp [cePayloadSize, hused, hq, hfresh.isSdu]
  have hempty : p.nofEmpty = q.nofEmpty + 1 := by
    simp [nofEmpty, hused, hq, hs]
  have hkeep : ∀ (i : Nat) t, p.used[i]? = some t → t.nofBytes ≠ 0 → q.used[i]? = some t := by
    intro i t ht hne
    rw [hused, getElem?_append] at ht
    rw [hq]
    split at ht
    . exact ht
    . rw [← mem_singleton.mp (mem_of_getElem? ht)] at hs
      exact absurd hs hne
  have hextra := h.lastSduExtra_eq hidx hkeep
  have htotal := h.total
  exact {
    pduLen_eq := by
      rw [hdel]
      exact h.pduLen_eq
    spare := by
      intro t ht
      rw [hdel] at ht
      cases mem_cons.mp ht with
      | inl heq => exact heq ▸ hfresh
      | inr ht => exact h.spare t ht
    used := by
      intro t ht
      rw [hq] at ht
      apply h.used
      simp [hused, ht]
    last := by
      intro i hi
      obtain ⟨t, ht, hsdu, hne⟩ := h.last i (by rw [← hidx]; exact hi)
      exact ⟨t, hkeep i t ht hne, hsdu, hne⟩
    total := by
      omega
  }

theorem writePacket_eq_none (hs : s ∈ p.used.dropLast) (hempty : s.nofBytes = 0)
    : p.writePacket = none := by
  have hpos : ∀ used : List SchSubh, s ∈ used → 0 < used.countP fun s => s.nofBytes = 0 := by
    intro used hmem
    rw [countP_pos_iff]
    exact ⟨s, hmem, by simp [hempty]⟩
  have hne : p.used ≠ [] := by
    rintro hnil
    rw [hnil] at hs
    contradiction
  have hsplit := (dropLast_append_getLast hne).symm
  generalize p.used.getLast hne = t at hsplit
  have hget : p.used.getD (p.nofSubheaders - 1) {} = t := by
    rw [nofSubheaders, hsplit]
    simp
  by_cases hzero : t.getPayloadSize = 0
  . have hdrop : p.dropEmpty = p.delSubh := by
      rw [dropEmpty, hget, if_pos hzero]
    apply writePacket_of_dropEmpty
    . rw [hdrop]
      exact h.delSubh hsplit hzero
    . rw [hdrop, delSubh_eq hsplit]
      exact hpos _ hs
  . have hdrop : p.dropEmpty = p := by
      rw [dropEmpty, hget, if_neg hzero]
    apply writePacket_of_dropEmpty
    . rw [hdrop]
      exact h
    . rw [hdrop]
      exact hpos _ ((dropLast_sublist _).subset hs)

end

end Accounts

end SrsLte.SchPdu
