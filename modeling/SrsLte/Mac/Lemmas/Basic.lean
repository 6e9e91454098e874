import SrsLte.Data.Lists
import SrsLte.Mac.Impl.Pdu

/-!
This module contains what the functions that fill a subheader of an SCH PDU do to the PDU.
-/

namespace SrsLte

open List

theorem Subheaders.newSubh_eq_some_iff {α : Type} (v w : Subheaders α) (remLen : Nat)
    : v.newSubh remLen = some w
        ↔
      ∃ s spare, v.spare = s :: spare ∧ v.used.length + 1 < (v.used ++ v.spare).length ∧ remLen > 0
        ∧ w = { used := v.used ++ [s], spare } := by
  unfold newSubh
  cases hspare : v.spare with
  | nil => simp
  | cons s spare =>
    by_cases hguard : v.used.length + 1 < (v.used ++ s :: spare).length ∧ remLen > 0
    . simp only [hguard, and_self, ↓reduceIte, Option.some.injEq, List.cons.injEq, true_and]
      constructor
      . intro h
        exact ⟨s, spare, ⟨rfl, rfl⟩, h.symm⟩
      . rintro ⟨s', spare', ⟨rfl, rfl⟩, h⟩
        exact h.symm
    . simp only [hguard, ↓reduceIte, reduceCtorEq, false_iff]
      rintro ⟨s', spare', _, hlen, hrem, _⟩
      exact hguard ⟨hlen, hrem⟩

namespace SchPdu

variable {p : SchPdu} {s : SchSubh} {before : List SchSubh} {payload : List UInt8}

theorem get_eq (h : p.used = before ++ [s])
    : p.get = s := by
  simp [get, curIdx, nofSubheaders, h]

theorem modifyCur_eq (h : p.used = before ++ [s]) (f : SchSubh → SchSubh)
    : p.modifyCur f = { p with used := before ++ [f s] } := by
  have hcur : p.curIdx = before.length := by
    simp [curIdx, nofSubheaders, h]
  unfold modifyCur
  rw [hcur, h, Lists.modify_concat]

def fillCe (s : SchSubh) (lcid : Nat) (payload : List UInt8) : SchSubh :=
  {
    s with
    lcid
    nofBytes := payload.length
    wPayloadCe := payload ++ s.wPayloadCe.drop payload.length
  }

theorem writePayload_fillCe {lcid : Nat} {isUl : Bool} (hsdu : (fillCe s lcid payload).isSdu = false)
    (hsize : (fillCe s lcid payload).sizeofCe isUl = payload.length)
    : (fillCe s lcid payload).writePayload isUl = payload := by
  unfold SchSubh.writePayload
  rw [hsdu, hsize]
  simp [fillCe]

theorem setCe_of_space (h : p.used = before ++ [s]) (lcid : Nat) (hspace : payload.length + 1 ≤ p.remLen)
    : p.setCe lcid payload
        =
      (
        {
          p with
          used := before ++ [fillCe s lcid payload]
          remLen := p.remLen - (payload.length + 1)
        },
        true
      ) := by
  have hce : p.hasSpaceCe payload.length false = true := by
    simp [hasSpaceCe, headLen, hspace]
  unfold setCe
  simp only [hce, ↓reduceIte]
  rw [modifyCur_eq h, updateSpaceCe]
  have hce' : p.remLen ≥ payload.length + headLen payload.length false := hspace
  simp only [hasSpaceCe, hce', decide_true, ↓reduceIte]
  rw [modifyCur_eq rfl]
  rfl

theorem setCe_of_not_space (lcid : Nat) (hspace : ¬ payload.length + 1 ≤ p.remLen)
    : p.setCe lcid payload = (p, false) := by
  have hce : p.hasSpaceCe payload.length false = false := by
    simp [hasSpaceCe, headLen]
    omega
  simp [setCe, hce]

theorem setCe_eq_true_iff (p : SchPdu) (lcid : Nat) (payload : List UInt8)
    : (p.setCe lcid payload).2 = true ↔ payload.length + 1 ≤ p.remLen := by
  constructor
  . intro h
    apply Classical.byContradiction
    intro hspace
    rw [setCe_of_not_space lcid hspace] at h
    contradiction
  . intro hspace
    have hce : p.hasSpaceCe payload.length false = true := by
      simp [hasSpaceCe, headLen, hspace]
    simp [setCe, hce]

theorem lastSduExtra_congr {q : SchPdu} (hidx : p.lastSduIdx = q.lastSduIdx)
    (hsizes : (p.used ++ p.spare).map SchSubh.nofBytes = (q.used ++ q.spare).map SchSubh.nofBytes)
    : p.lastSduExtra = q.lastSduExtra := by
  unfold lastSduExtra
  rw [hidx]
  cases q.lastSduIdx with
  | none => rfl
  | some i =>
    have hsize : ∀ l : List SchSubh, (l.getD i {}).getPayloadSize = (l.map SchSubh.nofBytes).getD i 0 := by
      intro l
      rw [getD_eq_getElem?_getD, getD_eq_getElem?_getD, getElem?_map]
      cases l[i]? with
      | none => rfl
      | some s => rfl
    simp only [hsize, hsizes]

theorem hasSpaceSdu_iff (p : SchPdu) (nbytes : Nat)
    : p.hasSpaceSdu nbytes = true ↔ nbytes + 1 + p.lastSduExtra ≤ p.remLen := by
  unfold hasSpaceSdu getSduSpace
  split
  . simp
    omega
  . simp
    omega

theorem updateSpaceSdu_of_space {nbytes : Nat} (hspace : nbytes + 1 + p.lastSduExtra ≤ p.remLen)
    : p.updateSpaceSdu nbytes
        =
      { p with remLen := p.remLen - (nbytes + 1 + p.lastSduExtra), lastSduIdx := some p.curIdx } := by
  rw [updateSpaceSdu, if_pos ((hasSpaceSdu_iff p nbytes).mpr hspace)]

def fillSdu (s : SchSubh) (lcid nofBytes : Nat) : SchSubh :=
  { s with lcid, nofBytes }

theorem setSdu_of_space (h : p.used = before ++ [s]) (lcid : Nat)
    (hspace : payload.length + 1 + p.lastSduExtra ≤ p.remLen)
    : p.setSdu lcid payload
        =
      (
        {
          p with
          used := before ++ [fillSdu s lcid payload.length]
          sdus := p.sdus ++ payload
          remLen := p.remLen - (payload.length + 1 + p.lastSduExtra)
          lastSduIdx := some before.length
        },
        (payload.length : Int)
      ) := by
  have hcur : ∀ s' : SchSubh, (before ++ [s']).length - 1 = before.length := by
    simp
  have hextra : lastSduExtra
      { p with used := before ++ [{ s with lcid }], sdus := p.sdus ++ payload } = p.lastSduExtra := by
    apply lastSduExtra_congr
    . rfl
    . simp [h]
  unfold setSdu
  rw [if_pos ((hasSpaceSdu_iff p payload.length).mpr hspace)]
  simp only []
  rw [modifyCur_eq h, updateSpaceSdu_of_space (by rw [hextra]; exact hspace), modifyCur_eq rfl, hextra]
  simp only [curIdx, nofSubheaders, hcur]
  rfl

theorem setSdu_nonneg_iff (p : SchPdu) (lcid : Nat) (payload : List UInt8)
    : (p.setSdu lcid payload).2 ≥ 0 ↔ payload.length + 1 + p.lastSduExtra ≤ p.remLen := by
  rw [← hasSpaceSdu_iff]
  unfold setSdu
  split
  next h => simp [h]
  next h => simp [h]

theorem setSduItf_of_space
    (h : p.used = before ++ [s]) (hidx : ∀ i, p.lastSduIdx = some i → i < before.length) (lcid : Nat)
    {requestedBytes : Nat} (hspace : requestedBytes + 1 + p.lastSduExtra ≤ p.remLen) {sdu : List UInt8}
    (hne : sdu ≠ []) (hle : sdu.length ≤ requestedBytes)
    : p.setSduItf lcid requestedBytes (some sdu)
        =
      (
        {
          p with
          used := before ++ [fillSdu s lcid sdu.length]
          sdus := p.sdus ++ sdu
          remLen := p.remLen - (sdu.length + 1 + p.lastSduExtra)
          lastSduIdx := some before.length
        },
        (sdu.length : Int)
      ) := by
  have hcur : ∀ s' : SchSubh, (before ++ [s']).length - 1 = before.length := by
    simp
  have hextra : lastSduExtra
      { p with used := before ++ [fillSdu s lcid sdu.length], sdus := p.sdus ++ sdu } = p.lastSduExtra := by
    unfold lastSduExtra
    cases hlast : p.lastSduIdx with
    | none => rfl
    | some i =>
      have hi := hidx i hlast
      simp [h, hi, getElem?_append_left]
  unfold setSduItf
  rw [if_pos ((hasSpaceSdu_iff p requestedBytes).mpr hspace)]
  split
  next hnone => contradiction
  next hnil =>
    rw [Option.some.injEq] at hnil
    contradiction
  next sdu' hsdu =>
    rw [Option.some.injEq] at hsdu
    subst hsdu
    simp only []
    rw [modifyCur_eq h, modifyCur_eq rfl, if_neg (by omega), updateSpaceSdu_of_space]
    . change (SchPdu.mk _ _ _ (p.remLen - (sdu.length + 1 + lastSduExtra
        { p with used := before ++ [fillSdu s lcid sdu.length], sdus := p.sdus ++ sdu })) _ _ _, _) = _
      rw [hextra]
      simp only [curIdx, nofSubheaders, hcur]
      rfl
    . change _ + lastSduExtra
        { p with used := before ++ [fillSdu s lcid sdu.length], sdus := p.sdus ++ sdu } ≤ p.remLen
      rw [hextra]
      omega

theorem setSduItf_pos_iff (p : SchPdu) (lcid requestedBytes : Nat) (sduItf : Option (List UInt8))
    : (p.setSduItf lcid requestedBytes sduItf).2 > 0
        ↔
      requestedBytes + 1 + p.lastSduExtra ≤ p.remLen
        ∧ ∃ sdu, sduItf = some sdu ∧ sdu ≠ [] ∧ sdu.length ≤ requestedBytes := by
  rw [← hasSpaceSdu_iff]
  unfold setSduItf
  split
  next h =>
    split
    . simp
    . simp
    next sdu hne =>
      have hpos : 0 < sdu.length := length_pos_iff.mpr (by rintro rfl; exact hne rfl)
      split
      next hgt => simp [hgt]
      next hle => simp [h, hpos, Nat.le_of_not_lt hle, length_pos_iff.mp hpos]
  next h => simp [h]

theorem newSubh_eq_some_iff (p q : SchPdu)
    : p.newSubh = some q
        ↔
      ∃ s spare, p.spare = s :: spare ∧ p.used.length + 1 < p.maxSubheaders ∧ 0 < p.remLen
        ∧ q = { p with used := p.used ++ [s], spare } := by
  unfold newSubh
  rw [Option.map_eq_some_iff]
  constructor
  . rintro ⟨v, hv, rfl⟩
    have ⟨s, spare, hspare, hlen, hrem, hv⟩ := (Subheaders.newSubh_eq_some_iff _ _ _).mp hv
    exact ⟨s, spare, hspare, hlen, hrem, by rw [hv]⟩
  . rintro ⟨s, spare, hspare, hlen, hrem, rfl⟩
    exact ⟨_, (Subheaders.newSubh_eq_some_iff _ _ _).mpr ⟨s, spare, hspare, hlen, hrem, rfl⟩, rfl⟩

theorem exists_newSubh {p : SchPdu} (hcount : p.used.length + 1 < p.maxSubheaders) (hrem : 0 < p.remLen)
    : ∃ q, p.newSubh = some q := by
  cases hspare : p.spare with
  | nil =>
    rw [maxSubheaders, hspare, append_nil] at hcount
    omega
  | cons s spare => exact ⟨_, (newSubh_eq_some_iff _ _).mpr ⟨s, spare, hspare, hcount, hrem, rfl⟩⟩

end SchPdu

end SrsLte
