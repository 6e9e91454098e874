import SrsLte.Mac.Lemmas.Codec

/-!
This module contains what `write_packet` makes of an SCH PDU that items have been added to.
-/

namespace SrsLte

open List Option

namespace SchItem

def padding (n : Nat) : SchItem :=
  { lcid := SchSubh.padding, payload := List.replicate n 0 }

def body (items : List SchItem) : List SchItem :=
  (items.filter fun item => !item.isSdu) ++ items.filter isSdu

def headerSize (item : SchItem) : Nat :=
  item.subh.getHeaderSize false

def size (items : List SchItem) : Nat :=
  (items.map fun item => item.headerSize + item.payload.length).sum

def extra (items : List SchItem) : Nat :=
  match (items.filter isSdu).getLast? with
  | none => 0
  | some item => item.headerSize - 1

def room (pduLen : Nat) (items : List SchItem) : Nat :=
  pduLen + extra items - size items

def layout (rem : Nat) (items : List SchItem) : List SchItem :=
  if rem > 2 then
    body items ++ [padding (rem - 1 - extra items)]
  else
    List.replicate rem (padding 0) ++ body items

def headerBytes (entries : List SchItem) : Nat :=
  (entries.dropLast.map headerSize).sum + 1

def ceBytes (items : List SchItem) : Nat :=
  ((items.filter fun item => !item.isSdu).map fun item => item.payload.length).sum

variable (items : List SchItem) {item last : SchItem} {before : List SchItem}

theorem headerSize_of_ce (h : item.isSdu = false) : item.headerSize = 1 := by
  have hlength : item.subh.hasLength = false := by
    rw [SchSubh.hasLength_of_sch rfl]
    exact h
  unfold headerSize
  rw [SchSubh.getHeaderSize_false, hlength]
  rfl

theorem headerSize_of_sdu (h : item.isSdu = true)
    : item.headerSize = SchSubh.sizeHeaderSdu item.payload.length := by
  have hlength : item.subh.hasLength = true := by
    rw [SchSubh.hasLength_of_sch rfl]
    exact h
  unfold headerSize
  rw [SchSubh.getHeaderSize_false, hlength]
  rfl

def header (padding : SchPdu.Padding) (before : List SchItem) (last : SchItem) : List UInt8 :=
  (List.replicate padding.onetwo ((SchItem.padding 0).subh.writeSubheader false)).flatten
    ++ ((before.flatMap fun item => item.subh.writeSubheader false)
      ++ last.subh.writeSubheader (!padding.multibyte))
    ++ (if padding.multibyte then (SchItem.padding padding.remLen).subh.writeSubheader true else [])

theorem length_header (padding : SchPdu.Padding) (before : List SchItem) (last : SchItem)
    : (header padding before last).length
        =
      padding.onetwo
        + ((before.flatMap fun item => item.subh.writeSubheader false).length
          + (last.subh.writeSubheader (!padding.multibyte)).length)
        + (if padding.multibyte then 1 else 0) := by
  have hone : ((SchItem.padding 0).subh.writeSubheader false).length = 1 := by
    decide
  have hlast : ∀ n, ((SchItem.padding n).subh.writeSubheader true).length = 1 := by
    intro n
    rw [SchSubh.length_writeSubheader]
    rfl
  unfold header
  rw [length_append, length_append, length_append, length_flatten,
    map_replicate, sum_replicate, hone]
  cases padding.multibyte with
  | true => simp [hlast]
  | false => simp

theorem headerSize_pos (item : SchItem) : 0 < item.headerSize := by
  cases hsdu : item.isSdu with
  | false => rw [headerSize_of_ce hsdu]; decide
  | true =>
    rw [headerSize_of_sdu hsdu, SchSubh.sizeHeaderSdu]
    split
    . decide
    . decide

theorem extra_concat_sdu (h : item.isSdu = true)
    : extra (items ++ [item]) = item.headerSize - 1 := by
  simp [extra, filter_append, h]

theorem extra_concat_ce (h : item.isSdu = false)
    : extra (items ++ [item]) = extra items := by
  simp [extra, filter_append, h]

theorem extra_le : extra items ≤ 2 := by
  unfold extra
  split
  . omega
  next item hlast =>
    have hsdu : item.isSdu = true := (mem_filter.mp (mem_of_getLast? hlast)).2
    rw [headerSize_of_sdu hsdu, SchSubh.sizeHeaderSdu]
    split <;> omega

theorem extra_of_body {items : List SchItem} (h : body items = before ++ [last])
    : extra items = last.headerSize - 1 := by
  unfold extra
  cases hsdus : (items.filter isSdu).getLast? with
  | none =>
    rw [getLast?_eq_none_iff] at hsdus
    have hmem : last ∈ body items := by
      simp [h]
    rw [body, hsdus, append_nil, mem_filter] at hmem
    have hce : last.isSdu = false := by
      simpa using hmem.2
    simp [headerSize_of_ce hce]
  | some item =>
    have hlast : (body items).getLast? = some last := by
      rw [h, getLast?_concat]
    rw [body, getLast?_append, hsdus, some_or, Option.some.injEq] at hlast
    rw [hlast]

theorem size_concat (item : SchItem)
    : size (items ++ [item]) = size items + (item.headerSize + item.payload.length) := by
  simp [size]

theorem size_body : size (body items) = size items := by
  unfold size body
  rw [map_append, sum_append, Lists.sum_filter_add_sum_filter_not]

def paddingOf (rem : Nat) (items : List SchItem) : SchPdu.Padding :=
  if rem > 2 then
    { multibyte := true, onetwo := 0, remLen := rem - 1 - extra items }
  else
    { multibyte := false, onetwo := rem, remLen := 0 }

theorem length_writeSubheaders
    : (items.flatMap fun item => item.subh.writeSubheader false).length = (items.map headerSize).sum := by
  simp only [length_flatMap, SchSubh.length_writeSubheader]
  rfl

theorem exists_encode {items : List SchItem} (hbody : body items = before ++ [last]) (rem : Nat)
    : ∃ before' last', layout rem items = before' ++ [last']
        ∧ encode before' last'
            = header (paddingOf rem items) before last ++ (body items).flatMap SchItem.payload
              ++ List.replicate (paddingOf rem items).remLen 0
        ∧ headerBytes (layout rem items) = (header (paddingOf rem items) before last).length := by
  unfold layout paddingOf
  split
  . refine ⟨body items, _, rfl, ?_, ?_⟩
    . simp [encode, header, hbody, padding]
    . rw [headerBytes, dropLast_concat, ← length_writeSubheaders, length_header, hbody]
      simp
  . refine ⟨List.replicate rem (padding 0) ++ before, last, ?_, ?_, ?_⟩
    . rw [hbody, append_assoc]
    . simp [encode, header, hbody, padding, flatMap_def]
    . rw [headerBytes, hbody, ← append_assoc, dropLast_concat, length_header]
      have hpadding : (padding 0).headerSize = 1 := rfl
      have hlast : (last.subh.writeSubheader true).length = 1 := by
        rw [SchSubh.length_writeSubheader]
        rfl
      rw [map_append, sum_append, map_replicate, sum_replicate, hpadding,
        ← length_writeSubheaders]
      simp [hlast]
      omega

theorem length_flatMap_body
    : ((body items).flatMap SchItem.payload).length
        =
      ceBytes items + ((items.filter isSdu).flatMap SchItem.payload).length := by
  rw [body, flatMap_append, length_append, ceBytes, length_flatMap]

theorem size_eq {items : List SchItem} (hbody : body items = before ++ [last])
    : size items
        =
      (before.flatMap fun item => item.subh.writeSubheader false).length + last.headerSize
        + ceBytes items + ((items.filter isSdu).flatMap SchItem.payload).length := by
  have hheaders : ((body items).map headerSize).sum
      = (before.flatMap fun item => item.subh.writeSubheader false).length + last.headerSize := by
    rw [hbody, length_writeSubheaders]
    simp
  have hpayloads : ((body items).map fun item => item.payload.length).sum
      = ceBytes items + ((items.filter isSdu).flatMap SchItem.payload).length := by
    rw [← length_flatMap_body, length_flatMap]
  rw [← size_body, size, sum_map_add, hheaders, hpayloads]
  omega

structure Represents (isUl : Bool) (s : SchSubh) (item : SchItem) : Prop where
  type : s.type = .sch
  lcid : s.lcid = item.lcid
  size : s.nofBytes = item.payload.length
  ce : item.isSdu = false → s.writePayload isUl = item.payload

namespace Represents

variable {isUl : Bool} {s : SchSubh} {item : SchItem}

theorem isSdu_eq (h : Represents isUl s item) : s.isSdu = item.isSdu := by
  rw [SchSubh.isSdu_of_sch h.type, h.lcid]
  rfl

theorem writeSubheader_eq (h : Represents isUl s item) (isLast : Bool)
    : s.writeSubheader isLast = item.subh.writeSubheader isLast := by
  have hvar : s.isVarLenCe = item.subh.isVarLenCe := by
    rw [SchSubh.isVarLenCe_of_sch h.type, SchSubh.isVarLenCe_of_sch rfl]
  have hsdu : s.isSdu = item.subh.isSdu := by
    rw [h.isSdu_eq, SchSubh.isSdu_of_sch rfl]
    rfl
  unfold SchSubh.writeSubheader
  rw [hsdu, hvar, h.lcid, h.size]
  rfl

end Represents

def LastSdu (items : List SchItem) (idx : Option Nat) : Prop :=
  match idx with
  | none => ∀ item ∈ items, item.isSdu = false
  | some i => ∃ before item after,
      items = before ++ item :: after ∧ before.length = i ∧ item.isSdu = true
        ∧ ∀ x ∈ after, x.isSdu = false

theorem LastSdu.concat_sdu (h : item.isSdu = true)
    : LastSdu (items ++ [item]) (some items.length) := by
  exact ⟨items, item, [], rfl, rfl, h, by simp⟩

theorem LastSdu.concat_ce {items : List SchItem} {idx : Option Nat} (h : LastSdu items idx) (hce : item.isSdu = false)
    : LastSdu (items ++ [item]) idx := by
  cases idx with
  | none => exact forall_mem_append.mpr ⟨h, forall_mem_singleton.mpr hce⟩
  | some i =>
    have ⟨before, x, after, hitems, hi, hx, hafter⟩ := h
    refine ⟨before, x, after ++ [item], ?_, hi, hx, ?_⟩
    . rw [hitems, append_assoc, cons_append]
    . exact forall_mem_append.mpr ⟨hafter, forall_mem_singleton.mpr hce⟩

theorem filter_of_lastSdu {items after : List SchItem}
    (hitems : items = before ++ item :: after) (hsdu : item.isSdu = true)
    (hafter : ∀ x ∈ after, x.isSdu = false)
    : items.filter isSdu = before.filter isSdu ++ [item] := by
  have hnil : after.filter isSdu = [] := by
    rw [filter_eq_nil_iff]
    intro x hx
    simp [hafter x hx]
  rw [hitems, filter_append, filter_cons, hnil]
  simp [hsdu]

end SchItem

namespace SchPdu

open SchItem

structure Holds (max pduLen : Nat) (isUl : Bool) (p : SchPdu) (items : List SchItem) : Prop where
  max_eq : p.maxSubheaders = max
  pduLen_eq : p.pduLen = pduLen
  isUl_eq : p.pduIsUl = isUl
  used : List.Forall₂ (Represents isUl) p.used items
  spare : ∀ s ∈ p.spare, s.type = .sch
  sdus : p.sdus = (items.filter SchItem.isSdu).flatMap SchItem.payload
  last : LastSdu items p.lastSduIdx
  space : p.remLen + size items = pduLen + extra items

theorem holds_init (max pduLen : Nat) (isUl : Bool)
    : Holds max pduLen isUl (init max pduLen isUl) [] := by
  exact {
    max_eq := by simp [maxSubheaders, init]
    pduLen_eq := rfl
    isUl_eq := rfl
    used := .nil
    spare := fun s hs => by rw [eq_of_mem_replicate hs]
    sdus := rfl
    last := fun item hitem => absurd hitem not_mem_nil
    space := rfl
  }

namespace Holds

variable {max pduLen : Nat} {isUl : Bool} {p : SchPdu} {items : List SchItem}

theorem getD_lastSdu {i : Nat} (h : Holds max pduLen isUl p items) (hidx : p.lastSduIdx = some i)
    : ∃ item, (items.filter SchItem.isSdu).getLast? = some item ∧ item.isSdu = true
        ∧ Represents isUl ((p.used ++ p.spare).getD i {}) item := by
  have hlast := h.last
  rw [hidx] at hlast
  have ⟨before, item, after, hitems, hi, hsdu, hafter⟩ := hlast
  have hused := h.used
  rw [hitems] at hused
  have ⟨before', s, after', hused', hbefore, hs, _⟩ := Lists.forall₂_append_cons hused
  refine ⟨item, ?_, hsdu, ?_⟩
  . rw [filter_of_lastSdu hitems hsdu hafter, getLast?_concat]
  . rw [hused', ← hi, ← hbefore.length_eq]
    simpa using hs

theorem lastSduExtra_eq (h : Holds max pduLen isUl p items) : p.lastSduExtra = extra items := by
  unfold lastSduExtra
  cases hidx : p.lastSduIdx with
  | none =>
    have hlast := h.last
    rw [hidx] at hlast
    have hnil : items.filter SchItem.isSdu = [] := by
      rw [filter_eq_nil_iff]
      intro x hx
      simp [hlast x hx]
    simp [extra, hnil]
  | some i =>
    have ⟨item, hitem, hsdu, hs⟩ := h.getD_lastSdu hidx
    simp only [extra, hitem, headerSize_of_sdu hsdu, SchSubh.getPayloadSize, hs.size]

variable {before : List SchItem} {q : SchPdu} {last item : SchItem} {lcid : Nat} {payload : List UInt8} {s : SchSubh}
variable {spare : List SchSubh}

section

variable (h : Holds max pduLen isUl p items)

include h

theorem concat {sdus : List UInt8}
    {idx : Option Nat} {rem : Nat} (hspare : p.spare = s :: spare)
    {s' : SchSubh} (hs' : Represents isUl s' item)
    (hq : q = { p with used := p.used ++ [s'], spare, sdus, lastSduIdx := idx, remLen := rem })
    (hsdus : sdus = ((items ++ [item]).filter SchItem.isSdu).flatMap SchItem.payload)
    (hlast : LastSdu (items ++ [item]) idx)
    (hspace : rem + size (items ++ [item]) = pduLen + extra (items ++ [item]))
    : Holds max pduLen isUl q (items ++ [item]) := by
  subst hq
  exact {
    max_eq := by
      rw [← h.max_eq]
      simp [maxSubheaders, hspare]
    pduLen_eq := h.pduLen_eq
    isUl_eq := h.isUl_eq
    used := rel_append h.used (.cons hs' .nil)
    spare := fun t ht => h.spare t (by rw [hspare]; exact mem_cons_of_mem s ht)
    sdus := hsdus
    last := hlast
    space := hspace
  }

theorem addCe {r : SchPdu}
    (hnew : p.newSubh = some q) (hset : q.setCe lcid payload = (r, true))
    (hce : SchItem.isSdu ⟨lcid, payload⟩ = false)
    (hsize : (SchItem.subh ⟨lcid, payload⟩).sizeofCe isUl = payload.length)
    : Holds max pduLen isUl r (items ++ [⟨lcid, payload⟩]) := by
  have ⟨s, spare, hspare, _, _, hq⟩ := (newSubh_eq_some_iff p q).mp hnew
  have htype : s.type = .sch := by
    apply h.spare
    simp [hspare]
  have hroom : payload.length + 1 ≤ q.remLen := by
    rw [← setCe_eq_true_iff q lcid payload, hset]
  have hused : q.used = p.used ++ [s] := by
    rw [hq]
  have hrem : q.remLen = p.remLen := by
    rw [hq]
  rw [setCe_of_space hused lcid hroom, Prod.mk.injEq] at hset
  have hfillType : (fillCe s lcid payload).type = .sch := htype
  have hfill : Represents isUl (fillCe s lcid payload) ⟨lcid, payload⟩ := {
    type := htype
    lcid := rfl
    size := rfl
    ce := by
      intro _
      apply writePayload_fillCe
      . rw [SchSubh.isSdu_of_sch hfillType]
        exact hce
      . have hcongr : (fillCe s lcid payload).sizeofCe isUl = (SchItem.subh ⟨lcid, payload⟩).sizeofCe isUl := by
          apply SchSubh.sizeofCe_congr hfillType
          . rfl
          . rfl
        rw [hcongr, hsize]
  }
  apply h.concat hspare hfill
  . rw [← hset.1, hq]
  . simp [filter_append, hce, h.sdus]
  . exact h.last.concat_ce hce
  . have hspace := h.space
    rw [size_concat, headerSize_of_ce hce, extra_concat_ce items hce]
    change p.remLen - (payload.length + 1) + (size items + (1 + payload.length)) = pduLen + extra items
    omega

theorem concatSdu {r : SchPdu} (hspare : p.spare = s :: spare)
    (hroom : payload.length + 1 + extra items ≤ p.remLen)
    (hsdu : SchItem.isSdu ⟨lcid, payload⟩ = true)
    (hr : r =
      {
        p with
        used := p.used ++ [fillSdu s lcid payload.length]
        spare
        sdus := p.sdus ++ payload
        lastSduIdx := some p.used.length
        remLen := p.remLen - (payload.length + 1 + extra items)
      })
    : Holds max pduLen isUl r (items ++ [⟨lcid, payload⟩]) := by
  have htype : s.type = .sch := by
    apply h.spare
    simp [hspare]
  have hfill : Represents isUl (fillSdu s lcid payload.length) ⟨lcid, payload⟩ := {
    type := htype
    lcid := rfl
    size := rfl
    ce := fun hce => by rw [hsdu] at hce; contradiction
  }
  apply h.concat hspare hfill hr
  . simp [filter_append, hsdu, h.sdus]
  . have hlen : p.used.length = items.length := h.used.length_eq
    rw [hlen]
    exact LastSdu.concat_sdu items hsdu
  . have hspace := h.space
    have hpos := headerSize_pos ⟨lcid, payload⟩
    rw [size_concat, extra_concat_sdu items hsdu]
    simp only []
    omega

theorem lastSduExtra_newSubh (hnew : p.newSubh = some q)
    : q.lastSduExtra = extra items := by
  have ⟨s, spare, hspare, _, _, hq⟩ := (newSubh_eq_some_iff p q).mp hnew
  rw [← h.lastSduExtra_eq]
  apply lastSduExtra_congr
  . rw [hq]
  . simp [hq, hspare]

theorem addSdu (hnew : p.newSubh = some q) (hset : (q.setSdu lcid payload).2 ≥ 0)
    (hsdu : SchItem.isSdu ⟨lcid, payload⟩ = true)
    : Holds max pduLen isUl (q.setSdu lcid payload).1 (items ++ [⟨lcid, payload⟩]) := by
  have ⟨s, spare, hspare, _, _, hq⟩ := (newSubh_eq_some_iff p q).mp hnew
  have hroom := (setSdu_nonneg_iff q lcid payload).mp hset
  have hused : q.used = p.used ++ [s] := by
    rw [hq]
  have hrem : q.remLen = p.remLen := by
    rw [hq]
  have hextra := h.lastSduExtra_newSubh hnew
  apply h.concatSdu hspare _ hsdu
  . rw [setSdu_of_space hused lcid hroom, hextra, hq]
  . omega

theorem addSduItf {requestedBytes : Nat} (hnew : p.newSubh = some q)
    (hset : (q.setSduItf lcid requestedBytes (some payload)).2 > 0)
    (hsdu : SchItem.isSdu ⟨lcid, payload⟩ = true)
    : Holds max pduLen isUl (q.setSduItf lcid requestedBytes (some payload)).1
        (items ++ [⟨lcid, payload⟩]) := by
  have ⟨s, spare, hspare, _, _, hq⟩ := (newSubh_eq_some_iff p q).mp hnew
  have ⟨hroom, payload', hpayload, hne, hle⟩ := (setSduItf_pos_iff q lcid requestedBytes _).mp hset
  rw [Option.some.injEq] at hpayload
  subst hpayload
  have hused : q.used = p.used ++ [s] := by
    rw [hq]
  have hrem : q.remLen = p.remLen := by
    rw [hq]
  have hextra := h.lastSduExtra_newSubh hnew
  have hidx : ∀ i, q.lastSduIdx = some i → i < p.used.length := by
    intro i hi
    have hlast := h.last
    have hsame : p.lastSduIdx = some i := by
      rw [← hi, hq]
    rw [hsame] at hlast
    have ⟨before, item, after, hitems, hlen, _⟩ := hlast
    rw [h.used.length_eq, hitems, ← hlen]
    simp
  apply h.concatSdu hspare _ hsdu
  . rw [setSduItf_of_space hused hidx lcid hroom hne hle, hextra, hq]
  . omega

end

theorem flatMap_writeSubheader {used : List SchSubh} (h : List.Forall₂ (Represents isUl) used items)
    (select : Bool → Bool)
    : (used.filter fun s => select s.isSdu).flatMap (fun s => s.writeSubheader false)
        =
      (items.filter fun item => select item.isSdu).flatMap fun item => item.subh.writeSubheader false := by
  apply Lists.flatMap_filter_congr _ _ h
  . intro s item hs
    rw [hs.isSdu_eq]
  . intro s item hs _
    exact hs.writeSubheader_eq false

section

variable (h : Holds max pduLen isUl p items)

include h

theorem writeSubheaders_of_none (hbody : body items = before ++ [last])
    (hidx : p.lastSduIdx = none) (multibyte : Bool)
    : p.writeSubheaders multibyte
        =
      (before.flatMap fun item => item.subh.writeSubheader false)
        ++ last.subh.writeSubheader (!multibyte) := by
  have hlast := h.last
  rw [hidx] at hlast
  have hces : items.filter (fun item => !item.isSdu) = items := by
    rw [filter_eq_self]
    intro item hitem
    simp [hlast item hitem]
  have hsdus : items.filter SchItem.isSdu = [] := by
    rw [filter_eq_nil_iff]
    intro item hitem
    simp [hlast item hitem]
  have hitems : items = before ++ [last] := by
    rw [← hbody, body, hces, hsdus, append_nil]
  have hused := h.used
  rw [hitems] at hused
  have ⟨before', s, after', hused', hbefore', hs, hafter'⟩ := Lists.forall₂_append_cons hused
  rw [forall₂_nil_right_iff] at hafter'
  have hcur : p.nofSubheaders - 1 = before'.length := by
    simp [nofSubheaders, hused', hafter']
  have hce : (!s.isSdu) = true := by
    rw [hs.isSdu_eq, hlast last (by simp [hitems])]
    rfl
  have hbeforeCes : before.filter (fun item => !item.isSdu) = before := by
    rw [filter_eq_self]
    intro item hitem
    simp [hlast item (by simp [hitems, hitem])]
  unfold writeSubheaders
  simp only [hidx, hcur, isNone_none, Bool.true_and, ↓reduceIte, append_nil, hused', hafter']
  rw [Lists.flatMap_filter_zipIdx_beq (fun s : SchSubh => !s.isSdu)
    (fun s b => s.writeSubheader (!multibyte && b)) hce (by simp)]
  simp only [Bool.and_false, Bool.and_true]
  rw [flatMap_writeSubheader hbefore' not, hbeforeCes, hs.writeSubheader_eq]

theorem writeSubheaders_of_some {i : Nat} (hbody : body items = before ++ [last])
    (hidx : p.lastSduIdx = some i) (multibyte : Bool)
    : p.writeSubheaders multibyte
        =
      (before.flatMap fun item => item.subh.writeSubheader false)
        ++ last.subh.writeSubheader (!multibyte) := by
  have hlast := h.last
  rw [hidx] at hlast
  have ⟨left, item, right, hitems, hi, hsdu, hright⟩ := hlast
  have hused := h.used
  rw [hitems] at hused
  have ⟨left', s, right', hused', hleft', hs, hright'⟩ := Lists.forall₂_append_cons hused
  have hsplit : before = (items.filter fun item => !item.isSdu) ++ left.filter SchItem.isSdu ∧ last = item := by
    rw [body, filter_of_lastSdu hitems hsdu hright, ← append_assoc] at hbody
    have hinj := append_inj' hbody rfl
    exact ⟨hinj.1.symm, (singleton_inj.mp hinj.2).symm⟩
  have hpos : i = left'.length := by
    rw [← hi, hleft'.length_eq]
  have hces : (p.used.zipIdx.filter fun x => !x.1.isSdu).flatMap (fun x => x.1.writeSubheader false)
      = (items.filter fun item => !item.isSdu).flatMap fun item => item.subh.writeSubheader false := by
    rw [← flatMap_writeSubheader h.used not]
    apply @Lists.flatMap_filter_zipIdx _ _ (fun s : SchSubh => !s.isSdu)
      (fun s _ => s.writeSubheader false)
    intros
    rfl
  have hsdus : (p.used.zipIdx.filter fun x => x.1.isSdu).flatMap
        (fun x => x.1.writeSubheader (!multibyte && x.2 == left'.length))
      = ((left.filter SchItem.isSdu).flatMap fun item => item.subh.writeSubheader false)
        ++ item.subh.writeSubheader (!multibyte) := by
    have hs' : s.isSdu = true := by
      rw [hs.isSdu_eq, hsdu]
    have hnone : ∀ t ∈ right', t.isSdu = false := by
      intro t ht
      have ⟨x, hx, htx⟩ := Lists.exists_of_forall₂ hright' ht
      rw [htx.isSdu_eq, hright x hx]
    rw [hused', Lists.flatMap_filter_zipIdx_beq SchSubh.isSdu
      (fun s b => s.writeSubheader (!multibyte && b)) hs' hnone]
    simp only [Bool.and_false, Bool.and_true]
    rw [flatMap_writeSubheader hleft' fun b => b, hs.writeSubheader_eq]
  unfold writeSubheaders
  simp only [hidx, hpos, isNone_some, Bool.false_and, some_beq_some, Bool.false_eq_true,
    ↓reduceIte]
  rw [hces, hsdus, hsplit.1, hsplit.2, flatMap_append, append_assoc]

theorem writeSubheaders_eq
    (hbody : body items = before ++ [last]) (multibyte : Bool)
    : p.writeSubheaders multibyte
        =
      (before.flatMap fun item => item.subh.writeSubheader false)
        ++ last.subh.writeSubheader (!multibyte) := by
  cases hidx : p.lastSduIdx with
  | none => exact h.writeSubheaders_of_none hbody hidx multibyte
  | some i => exact h.writeSubheaders_of_some hbody hidx multibyte

theorem getHeaderSize_of_ce (hs : s ∈ p.used)
    (hce : s.isSdu = false) (isLast : Bool)
    : s.getHeaderSize isLast = 1 := by
  have ⟨item, _, hitem⟩ := Lists.exists_of_forall₂ h.used hs
  cases isLast with
  | true => rfl
  | false => simp [SchSubh.getHeaderSize, hce, hitem.type]

theorem subheadersSize_eq (multibyte : Bool)
    : p.subheadersSize multibyte = (p.writeSubheaders multibyte).length := by
  have hces : ((p.used.zipIdx.filter fun x => !x.1.isSdu).map fun x =>
        x.1.getHeaderSize (!multibyte && some x.2 == p.lastSduIdx)).sum
      = ((p.used.zipIdx.filter fun x => !x.1.isSdu).flatMap fun x =>
        x.1.writeSubheader (p.lastSduIdx.isNone && !multibyte && x.2 == p.nofSubheaders - 1)).length := by
    rw [length_flatMap]
    congr 1
    apply map_congr_left
    intro x hx
    rw [mem_filter, Bool.not_eq_true'] at hx
    have hmem : x.1 ∈ p.used := fst_mem_of_mem_zipIdx hx.1
    rw [SchSubh.length_writeSubheader, h.getHeaderSize_of_ce hmem hx.2, h.getHeaderSize_of_ce hmem hx.2]
  have hsdus : ((p.used.zipIdx.filter fun x => x.1.isSdu).map fun x =>
        x.1.getHeaderSize (!multibyte && some x.2 == p.lastSduIdx)).sum
      = (if p.lastSduIdx.isNone then [] else
        (p.used.zipIdx.filter fun x => x.1.isSdu).flatMap fun x =>
          x.1.writeSubheader (!multibyte && some x.2 == p.lastSduIdx)).length := by
    cases hidx : p.lastSduIdx with
    | none =>
      have hlast := h.last
      rw [hidx] at hlast
      have hnil : (p.used.zipIdx.filter fun x => x.1.isSdu) = [] := by
        rw [filter_eq_nil_iff]
        intro x hx
        have ⟨item, hitem, hs⟩ := Lists.exists_of_forall₂ h.used (fst_mem_of_mem_zipIdx hx)
        simp [hs.isSdu_eq, hlast item hitem]
      rw [hnil]
      rfl
    | some i =>
      simp only [isNone_some, Bool.false_eq_true, ↓reduceIte, length_flatMap,
        SchSubh.length_writeSubheader]
  have hsplit := Lists.sum_filter_add_sum_filter_not (fun x : SchSubh × Nat => x.1.isSdu)
    (fun x => x.1.getHeaderSize (!multibyte && some x.2 == p.lastSduIdx)) p.used.zipIdx
  unfold writeSubheaders subheadersSize
  rw [length_append, ← hsplit, hces, hsdus]

theorem flatMap_writePayload
    : (p.used.filter fun s => !s.isSdu).flatMap (fun s => s.writePayload isUl)
        =
      (items.filter fun item => !item.isSdu).flatMap SchItem.payload := by
  apply Lists.flatMap_filter_congr _ _ h.used
  . intro s item hs
    rw [hs.isSdu_eq]
  . intro s item hs hce
    exact hs.ce (by simpa using hce)

theorem cePayloadSize_eq : p.cePayloadSize = ceBytes items := by
  have hmap : (p.used.filter fun s => !s.isSdu).map SchSubh.getPayloadSize
      = (items.filter fun item => !item.isSdu).map fun item => item.payload.length := by
    apply Lists.map_filter_congr _ _ h.used
    . intro s item hs
      rw [hs.isSdu_eq]
    . intro s item hs _
      exact hs.size
  rw [cePayloadSize, ceBytes, hmap]

theorem getPadding_eq
    : p.getPadding = paddingOf p.remLen items := by
  have hextra : (match p.lastSduIdx with
      | none => 0
      | some i => ((p.used ++ p.spare).getD i {}).getHeaderSize false - 1) = extra items := by
    rw [← h.lastSduExtra_eq, lastSduExtra]
    cases hidx : p.lastSduIdx with
    | none => rfl
    | some i =>
      have ⟨item, _, hsdu, hs⟩ := h.getD_lastSdu hidx
      simp only [SchSubh.getPayloadSize]
      rw [← SchSubh.length_writeSubheader, hs.writeSubheader_eq, SchSubh.length_writeSubheader, hs.size,
        ← headerSize_of_sdu hsdu, headerSize]
  have hpadding : ∀ n, n = extra items →
      (if p.remLen > 2 then
        ({ multibyte := true, onetwo := 0, remLen := p.remLen - 1 - n } : Padding)
      else
        { multibyte := false, onetwo := p.remLen, remLen := 0 }) = paddingOf p.remLen items := by
    intro n hn
    rw [hn, paddingOf]
  exact hpadding _ hextra

end

theorem dropEmpty_eq (h : Holds max pduLen isUl p (before ++ [item])) (hitem : item.payload ≠ [])
    : p.dropEmpty = p := by
  have ⟨before', s, after', hused, _, hs, hafter⟩ := Lists.forall₂_append_cons h.used
  rw [forall₂_nil_right_iff] at hafter
  have hget : p.used.getD (p.nofSubheaders - 1) {} = s := by
    simp [nofSubheaders, hused, hafter]
  have hne : s.getPayloadSize ≠ 0 := by
    rw [SchSubh.getPayloadSize, hs.size]
    simpa using hitem
  rw [dropEmpty, hget, if_neg hne]

theorem writePacket_of_getPadding {padding : Padding}
    (h : Holds max pduLen isUl p items) (hdrop : p.dropEmpty = p) (hne : p.nofSubheaders ≠ 0)
    (hbody : body items = before ++ [last]) (hpadding : p.getPadding = padding)
    (hroom : (header padding before last).length + ceBytes items < max * 2 + 13)
    (htotal : padding.remLen + (header padding before last).length + ceBytes items
      + ((items.filter SchItem.isSdu).flatMap SchItem.payload).length = pduLen)
    : p.writePacket
        =
      some (header padding before last ++ (body items).flatMap SchItem.payload
        ++ List.replicate padding.remLen 0) := by
  have hheaders : p.subheadersSize padding.multibyte
        + (if padding.multibyte then 1 else padding.onetwo)
      = (header padding before last).length := by
    have hone : padding.multibyte = true → padding.onetwo = 0 := by
      rw [← hpadding, h.getPadding_eq, paddingOf]
      split
      . simp
      . simp
    rw [h.subheadersSize_eq, h.writeSubheaders_eq hbody, length_header, length_append]
    split
    next hmultibyte =>
      rw [hone hmultibyte]
      omega
    next => omega
  have hces : ((items.filter fun item => !item.isSdu).flatMap SchItem.payload).length = ceBytes items := by
    rw [length_flatMap, ceBytes]
  have hout : (List.replicate padding.onetwo ((SchSubh.setPadding {} 0).writeSubheader false)).flatten
        ++ p.writeSubheaders padding.multibyte
        ++ (if padding.multibyte then (SchSubh.setPadding {} padding.remLen).writeSubheader true else [])
        ++ (p.used.filter fun s => !s.isSdu).flatMap (fun s => s.writePayload p.pduIsUl)
      = header padding before last ++ (items.filter fun item => !item.isSdu).flatMap SchItem.payload := by
    rw [h.isUl_eq, h.flatMap_writePayload, h.writeSubheaders_eq hbody]
    rfl
  unfold writePacket
  rw [if_neg (fun hcond => hne hcond.1)]
  simp only [hdrop, hpadding, hheaders, hout, h.cePayloadSize_eq, sduOffsetStart, h.max_eq, h.pduLen_eq,
    totalSduLen, h.sdus]
  rw [if_neg (by omega), if_neg (by omega), if_neg (by rw [length_append, hces]; omega), body,
    flatMap_append]
  simp

theorem total_eq (h : Holds max pduLen isUl p items) (hbody : body items = before ++ [last])
    : (paddingOf p.remLen items).remLen + (header (paddingOf p.remLen items) before last).length
          + ceBytes items + ((items.filter SchItem.isSdu).flatMap SchItem.payload).length
        =
      pduLen := by
  have hspace := h.space
  have hsize := size_eq hbody
  have hextra := extra_of_body hbody
  have hextraLe := extra_le items
  have hpos := headerSize_pos last
  have hfull : (last.subh.writeSubheader false).length = last.headerSize := by
    rw [SchSubh.length_writeSubheader, headerSize]
  have hshort : (last.subh.writeSubheader true).length = 1 := by
    rw [SchSubh.length_writeSubheader]
    rfl
  rw [length_header]
  unfold paddingOf
  split
  . simp only [Bool.not_true, hfull, ↓reduceIte]
    omega
  . simp only [Bool.not_false, hshort, Bool.false_eq_true, ↓reduceIte]
    omega

theorem writePacket_eq (h : Holds max pduLen isUl p (before ++ [item])) (hitem : item.payload ≠ [])
    (hroom : headerBytes (layout p.remLen (before ++ [item])) + ceBytes (before ++ [item]) < max * 2 + 13)
    : ∃ before' last', layout p.remLen (before ++ [item]) = before' ++ [last']
        ∧ p.writePacket = some (encode before' last')
        ∧ (encode before' last').length = pduLen := by
  have hne : p.nofSubheaders ≠ 0 := by
    rw [nofSubheaders, h.used.length_eq]
    simp
  have hmem : item ∈ body (before ++ [item]) := by
    cases hsdu : item.isSdu with
    | false => simp [body, hsdu]
    | true => simp [body, hsdu]
  have hbody : ∃ bodyBefore last, body (before ++ [item]) = bodyBefore ++ [last] :=
    ⟨_, _, (dropLast_append_getLast (ne_nil_of_mem hmem)).symm⟩
  obtain ⟨bodyBefore, last, hbody⟩ := hbody
  obtain ⟨before', last', hlayout, hencode, hheader⟩ := exists_encode hbody p.remLen
  have htotal := h.total_eq hbody
  refine ⟨before', last', hlayout, ?_, ?_⟩
  . rw [hencode]
    apply h.writePacket_of_getPadding (h.dropEmpty_eq hitem) hne hbody h.getPadding_eq _ htotal
    rw [← hheader]
    exact hroom
  . rw [hencode, length_append, length_append, length_flatMap_body, length_replicate]
    omega

theorem parsePacket_eq (h : Holds max pduLen isUl p (before ++ [item])) (hitem : item.payload ≠ [])
    (hroom : headerBytes (layout p.remLen (before ++ [item])) + ceBytes (before ++ [item]) < max * 2 + 13)
    (hcount : (layout p.remLen (before ++ [item])).length < max)
    (hok : ∀ x ∈ (layout p.remLen (before ++ [item])).dropLast, x.Ok isUl)
    (hlcid : ∀ x ∈ layout p.remLen (before ++ [item]), x.lcid < 32)
    : ∃ pdu subheaders, p.writePacket = some pdu
        ∧ pdu.length = pduLen
        ∧ (init max pduLen isUl).parsePacket pdu = some subheaders
        ∧ List.Forall₂ (Decodes pdu) subheaders (layout p.remLen (before ++ [item])) := by
  have ⟨before', last', hlayout, hwrite, hlen⟩ := h.writePacket_eq hitem hroom
  rw [hlayout] at hcount hok hlcid ⊢
  rw [dropLast_concat] at hok
  rw [length_append] at hcount
  have ⟨subheaders, hparse, hdecodes⟩ := parsePacket_encode hok (hlcid last' (by simp)) hcount
  rw [hlen] at hparse
  exact ⟨_, subheaders, hwrite, hlen, hparse, hdecodes⟩

theorem remLen_eq (h : Holds max pduLen isUl p items) : p.remLen = room pduLen items := by
  have hspace := h.space
  unfold room
  omega

end Holds

end SchPdu

end SrsLte
