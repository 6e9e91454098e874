import SrsLte.Data.Trace
import SrsLte.Enb.Impl.Gtpu

/-!
This module contains which datagrams the eNB passes on to PDCP. The table of the bearers is compared with the set of
the bearers that have been added and not removed since.
-/

namespace SrsLte

open List Finmap

theorem lcid_lt (lcid : Fin srsenbNRadioBearers) : lcid.val < 2 ^ 16 :=
  Nat.lt_trans lcid.isLt (by decide)

theorem rntilcidToTeidin_eq (rnti : UInt16) {lcid : Nat} (h : lcid < 2 ^ 16)
    : rntilcidToTeidin rnti lcid = rnti.toNat * 2 ^ 16 + lcid := by
  unfold rntilcidToTeidin
  exact Bits.shiftLeft_or rnti.toNat 16 h

theorem teidinToRntilcid_rntilcidToTeidin (rnti : UInt16) {lcid : Nat} (h : lcid < 2 ^ 16)
    : teidinToRntilcid (rntilcidToTeidin rnti lcid) = (rnti, lcid) := by
  have hrnti := rnti.toNat_lt
  unfold teidinToRntilcid
  rw [rntilcidToTeidin_eq rnti h, Bits.and_mask _ 16 (by decide), Bits.and_mask _ 16 (by decide),
    Nat.shiftRight_eq_div_pow]
  have hhi : (rnti.toNat * 2 ^ 16 + lcid) / 2 ^ 16 % 2 ^ 16 = rnti.toNat := by omega
  have hlo : (rnti.toNat * 2 ^ 16 + lcid) % 2 ^ 16 = lcid := by omega
  rw [hhi, hlo, UInt16.ofNat_toNat]

theorem rntilcidToTeidin_teidinToRntilcid {teidin : Nat} (h : teidin < 2 ^ 32)
    : rntilcidToTeidin (teidinToRntilcid teidin).1 (teidinToRntilcid teidin).2 = teidin := by
  unfold teidinToRntilcid
  dsimp only
  rw [Bits.and_mask _ 16 (by decide), Bits.and_mask _ 16 (by decide), Nat.shiftRight_eq_div_pow,
    rntilcidToTeidin_eq _ (Nat.mod_lt _ (by decide)), UInt16.toNat_ofNat']
  omega

namespace Gtpu

abbrev Active := Finset (UInt16 × Fin srsenbNRadioBearers)

def activeStep (active : Active) (e : Event) : Active :=
  match e with
  | .addBearer rnti lcid _ _ => insert (rnti, lcid) active
  | .remBearer rnti lcid => active.erase (rnti, lcid)
  | .remUser rnti => active.filter (fun bearer => bearer.1 ≠ rnti)
  | .writePdu _ _ _ _ => active
  | .datagram _ _ => active

def datagramHeader (datagram : List UInt8) : GtpuHeader :=
  (gtpuReadHeader { msg := datagram, nBytes := datagram.length }).2.1

/--
A datagram of at least eight bytes with the flags and the type that are supported and with the TEID of an active
bearer.
-/
structure Addressed (active : Active) (datagram : List UInt8) (rnti : UInt16) (lcid : Fin srsenbNRadioBearers)
    : Prop where
  length : gtpuHeaderLen ≤ datagram.length
  flags : (datagramHeader datagram).flags = 0x30
  messageType : (datagramHeader datagram).messageType = 0xFF
  active : (rnti, lcid) ∈ active
  teid : (datagramHeader datagram).teid = rntilcidToTeidin rnti lcid

structure PassesOn (active : Active) (g : Gtpu) (datagram next : List UInt8) : Prop where
  bearer : ∀ rnti (lcid : Fin srsenbNRadioBearers),
    (∃ sdu, (g.receive datagram next).2 = some sdu ∧ sdu.rnti = rnti ∧ sdu.lcid = lcid)
      ↔ Addressed active datagram rnti lcid
  sdu : ∀ sdu, (g.receive datagram next).2 = some sdu →
    sdu.pdu.nBytes + gtpuHeaderLen = datagram.length ∧ sdu.pdu.bytes = datagram.drop gtpuHeaderLen

def Accepts (g : Gtpu) (datagram : List UInt8) : Prop :=
  let (rnti, lcid) := teidinToRntilcid (gtpuReadHeader (g.recv datagram)).2.1.teid
  rnti ∈ g.rntiBearers ∧ srsenbNSrb ≤ lcid ∧ lcid < srsenbNRadioBearers

/--
What is not checked holds for the datagrams that are accepted, and no signalling bearer is addressed.
-/
structure NeedsNoCheck (active : Active) (g : Gtpu) (datagram : List UInt8) : Prop where
  accepted : g.Accepts datagram →
    gtpuHeaderLen ≤ datagram.length ∧ datagram.length ≤ gtpuMaxRecv
      ∧ (datagramHeader datagram).flags = 0x30 ∧ (datagramHeader datagram).messageType = 0xFF
      ∧ ∃ lcid : Fin srsenbNRadioBearers,
        ((teidinToRntilcid (datagramHeader datagram).teid).1, lcid) ∈ active
          ∧ (teidinToRntilcid (datagramHeader datagram).teid).2 = lcid
  signalling : ∀ rnti lcid, Addressed active datagram rnti lcid → srsenbNSrb ≤ lcid

/--
The entries of the table for the active bearers. TEID 0 stands for no bearer, so that LCID 0 is left out.
-/
def Listed (active : Active) (g : Gtpu) : Prop :=
  ∀ rnti lcid, (rnti, lcid) ∈ active → lcid.val ≠ 0 → (g.bearers rnti).teidsIn lcid ≠ 0

section Bearers

variable {g : Gtpu} {active : Active}

theorem bearers_insert (g : Gtpu) (rnti : UInt16) (map : BearerMap) (rnti' : UInt16)
    : ({ g with rntiBearers := g.rntiBearers.insert rnti map } : Gtpu).bearers rnti'
        = if rnti' = rnti then map else g.bearers rnti' := by
  unfold bearers
  split
  . next heq =>
    dsimp only
    rw [heq, lookup_insert]
    rfl
  . next hne =>
    dsimp only
    rw [lookup_insert_of_ne _ hne]

theorem bearers_erase (g : Gtpu) (rnti rnti' : UInt16)
    : ({ g with rntiBearers := g.rntiBearers.erase rnti } : Gtpu).bearers rnti'
        = if rnti' = rnti then {} else g.bearers rnti' := by
  unfold bearers
  split
  . next heq =>
    dsimp only
    rw [heq, lookup_erase]
    rfl
  . next hne =>
    dsimp only
    rw [lookup_erase_ne hne]

theorem mem_rntiBearers_of_teidsIn {rnti : UInt16} {lcid : Fin srsenbNRadioBearers}
    (h : (g.bearers rnti).teidsIn lcid ≠ 0)
    : rnti ∈ g.rntiBearers := by
  by_contra hmem
  apply h
  unfold bearers
  rw [lookup_eq_none.mpr hmem]
  rfl

theorem listed_addBearer (h : Listed active g) (rnti : UInt16) (lcid : Fin srsenbNRadioBearers) (addr teidOut : Nat)
    : Listed (insert (rnti, lcid) active) (g.addBearer rnti lcid addr teidOut).1 := by
  intro rnti' lcid' hmem hne
  unfold addBearer
  dsimp only
  rw [bearers_insert]
  split
  . next heq =>
    dsimp only
    rw [Function.update_apply]
    split
    . next heq' =>
      rw [rntilcidToTeidin_eq rnti (lcid_lt lcid), ← heq']
      omega
    . next hne' =>
      rw [← heq]
      apply h rnti' lcid' _ hne
      apply Finset.mem_of_mem_insert_of_ne hmem
      intro hpair
      exact hne' (congrArg Prod.snd hpair)
  . next hne' =>
    apply h rnti' lcid' _ hne
    apply Finset.mem_of_mem_insert_of_ne hmem
    intro hpair
    exact hne' (congrArg Prod.fst hpair)

theorem listed_remBearer (h : Listed active g) (rnti : UInt16) (lcid : Fin srsenbNRadioBearers)
    : Listed (active.erase (rnti, lcid)) (g.remBearer rnti lcid) := by
  intro rnti' lcid' hmem hne
  rw [Finset.mem_erase] at hmem
  have hold := h rnti' lcid' hmem.2 hne
  have hother (heq : rnti' = rnti) : lcid' ≠ lcid := by
    intro heq'
    apply hmem.1
    rw [heq, heq']
  unfold remBearer
  dsimp only
  split
  . next hzero =>
    rw [bearers_erase]
    split
    . next heq =>
      have hlcid := hzero lcid'
      rw [Function.update_of_ne (hother heq), ← heq] at hlcid
      exact absurd hlcid hold
    . exact hold
  . rw [bearers_insert]
    split
    . next heq =>
      dsimp only
      rw [Function.update_of_ne (hother heq), ← heq]
      exact hold
    . exact hold

theorem listed_step (h : Listed active g) (e : Event) : Listed (activeStep active e) (g.step e) := by
  cases e with
  | addBearer rnti lcid addr teidOut => exact listed_addBearer h rnti lcid addr teidOut
  | remBearer rnti lcid => exact listed_remBearer h rnti lcid
  | remUser rnti =>
    intro rnti' lcid' hmem hne
    have hmem := Finset.mem_filter.mp hmem
    unfold step remUser
    dsimp only
    rw [bearers_erase, if_neg hmem.2]
    exact h rnti' lcid' hmem.1 hne
  | writePdu rnti lcid headroom pdu =>
    intro rnti' lcid' hmem hne
    unfold step writePdu
    dsimp only
    rw [bearers_insert]
    split
    . next heq =>
      rw [← heq]
      exact h rnti' lcid' hmem hne
    . exact h rnti' lcid' hmem hne
  | datagram datagram next =>
    unfold step receive
    dsimp only
    split
    . exact h
    . split <;> exact h

end Bearers

section Receive

variable {g : Gtpu} {active : Active} {datagram next : List UInt8}

theorem gtpuReadHeader_congr {pdu pdu' : GtpuPdu} (h : ∀ i < gtpuHeaderLen, pdu.msg.getD i 0 = pdu'.msg.getD i 0)
    : (gtpuReadHeader pdu).2.1 = (gtpuReadHeader pdu').2.1 := by
  unfold gtpuReadHeader
  dsimp only
  rw [h 0 (by decide), h 1 (by decide), h 2 (by decide), h 3 (by decide), h 4 (by decide), h 5 (by decide),
    h 6 (by decide), h 7 (by decide)]

theorem gtpuReadHeader_recv (g : Gtpu) (h : gtpuHeaderLen ≤ datagram.length)
    : (gtpuReadHeader (g.recv datagram)).2.1 = datagramHeader datagram := by
  apply gtpuReadHeader_congr
  intro i hi
  have hmax : gtpuHeaderLen ≤ gtpuMaxRecv := by decide
  have htake : i < (datagram.take gtpuMaxRecv).length := by
    rw [length_take]
    omega
  unfold recv
  dsimp only
  rw [getD_append _ _ _ _ htake, getD_eq_getElem?_getD, getD_eq_getElem?_getD,
    getElem?_take_of_lt (by omega)]

theorem receive_eq_some_iff {sdu : GtpuSdu}
    : (g.receive datagram next).2 = some sdu
        ↔
      g.Accepts datagram ∧ sdu = {
        rnti := (teidinToRntilcid (gtpuReadHeader (g.recv datagram)).2.1.teid).1
        lcid := (teidinToRntilcid (gtpuReadHeader (g.recv datagram)).2.1.teid).2
        pdu := (gtpuReadHeader (g.recv datagram)).2.2
      } := by
  unfold receive Accepts
  dsimp only
  split
  . next huser => exact iff_of_false nofun fun h => huser h.1.1
  . next huser =>
    rw [not_not] at huser
    split
    . next hlcid =>
      exact iff_of_false nofun fun h => hlcid.elim (Nat.not_lt.mpr h.1.2.1) (Nat.not_le.mpr h.1.2.2)
    . next hlcid =>
      rw [not_or] at hlcid
      rw [Option.some_inj, eq_comm]
      exact (and_iff_right ⟨huser, Nat.le_of_not_lt hlcid.1, Nat.lt_of_not_le hlcid.2⟩).symm

theorem bytes_recv (g : Gtpu) (h : gtpuHeaderLen ≤ datagram.length)
    : (gtpuReadHeader (g.recv datagram)).2.2.nBytes + gtpuHeaderLen = min datagram.length gtpuMaxRecv
        ∧ (gtpuReadHeader (g.recv datagram)).2.2.bytes = (datagram.take gtpuMaxRecv).drop gtpuHeaderLen := by
  have hmax : gtpuHeaderLen ≤ gtpuMaxRecv := by decide
  have hlen : (datagram.take gtpuMaxRecv).length = min datagram.length gtpuMaxRecv := by
    rw [length_take, Nat.min_comm]
  have hle : gtpuHeaderLen ≤ (datagram.take gtpuMaxRecv).length := by
    rw [hlen]
    omega
  have hlt : (datagram.take gtpuMaxRecv).length < 2 ^ 32 := by
    have : gtpuMaxRecv < 2 ^ 32 := by decide
    rw [hlen]
    omega
  have hbytes : (gtpuReadHeader (g.recv datagram)).2.2.nBytes = (datagram.take gtpuMaxRecv).length - gtpuHeaderLen :=
    u32Sub_of_le hle hlt
  constructor
  . rw [hbytes, ← hlen]
    omega
  . unfold GtpuPdu.bytes
    rw [hbytes]
    show (((datagram.take gtpuMaxRecv) ++ g.buffer.drop _).drop gtpuHeaderLen).take _ = _
    rw [drop_append_of_le_length hle, take_append_of_le_length (by rw [length_drop]),
      ← length_drop, take_length]

theorem Addressed.accepts {rnti : UInt16} {lcid : Fin srsenbNRadioBearers} (h : Addressed active datagram rnti lcid)
    (hlisted : Listed active g) (hlcid : srsenbNSrb ≤ lcid)
    : g.Accepts datagram ∧ teidinToRntilcid (gtpuReadHeader (g.recv datagram)).2.1.teid = (rnti, lcid.val) := by
  have hteid : teidinToRntilcid (gtpuReadHeader (g.recv datagram)).2.1.teid = (rnti, lcid.val) := by
    rw [gtpuReadHeader_recv g h.length, h.teid, teidinToRntilcid_rntilcidToTeidin rnti (lcid_lt lcid)]
  have hpos : lcid.val ≠ 0 := by
    unfold srsenbNSrb at hlcid
    omega
  refine ⟨?_, hteid⟩
  unfold Accepts
  rw [hteid]
  exact ⟨mem_rntiBearers_of_teidsIn (hlisted rnti lcid h.active hpos), hlcid, lcid.isLt⟩

theorem passesOn_iff (hlisted : Listed active g)
    : PassesOn active g datagram next ↔ NeedsNoCheck active g datagram := by
  constructor
  . intro h
    constructor
    . intro haccepts
      obtain ⟨sdu, hsdu⟩ : ∃ sdu, (g.receive datagram next).2 = some sdu := ⟨_, receive_eq_some_iff.mpr ⟨haccepts, rfl⟩⟩
      obtain ⟨-, rfl⟩ := receive_eq_some_iff.mp hsdu
      have ⟨hlen, _⟩ := h.sdu _ hsdu
      have haddressed := (h.bearer _ ⟨_, haccepts.2.2⟩).mp ⟨_, hsdu, rfl, rfl⟩
      have hheader := gtpuReadHeader_recv g haddressed.length
      rw [(bytes_recv g haddressed.length).1] at hlen
      rw [← hheader]
      refine ⟨haddressed.length, by omega, ?_, ?_, ⟨_, haccepts.2.2⟩, haddressed.active, rfl⟩
      . rw [hheader]
        exact haddressed.flags
      . rw [hheader]
        exact haddressed.messageType
    . intro rnti lcid haddressed
      have ⟨sdu, hsdu, _, hlcid⟩ := (h.bearer rnti lcid).mpr haddressed
      obtain ⟨haccepts, rfl⟩ := receive_eq_some_iff.mp hsdu
      rw [← hlcid]
      exact haccepts.2.1
  . intro h
    constructor
    . intro rnti lcid
      constructor
      . rintro ⟨sdu, hsdu, hrnti, hlcid⟩
        obtain ⟨haccepts, rfl⟩ := receive_eq_some_iff.mp hsdu
        have ⟨hlen, _, hflags, htype, lcid', hactive, hlcid'⟩ := h.accepted haccepts
        rw [gtpuReadHeader_recv g hlen] at hrnti hlcid
        dsimp only at hrnti hlcid
        have heq : lcid' = lcid := Fin.ext (hlcid'.symm.trans hlcid)
        rw [hrnti, heq] at hactive
        refine ⟨hlen, hflags, htype, hactive, ?_⟩
        rw [← hrnti, ← hlcid]
        exact (rntilcidToTeidin_teidinToRntilcid (uint8ToUint32_lt _ _ _ _)).symm
      . intro haddressed
        have ⟨haccepts, hteid⟩ := haddressed.accepts hlisted (h.signalling rnti lcid haddressed)
        refine ⟨_, receive_eq_some_iff.mpr ⟨haccepts, rfl⟩, ?_, ?_⟩
        . rw [hteid]
        . rw [hteid]
    . intro sdu hsdu
      obtain ⟨haccepts, rfl⟩ := receive_eq_some_iff.mp hsdu
      have ⟨hlen, hmax, _⟩ := h.accepted haccepts
      have ⟨hbytes, hdrop⟩ := bytes_recv g hlen
      rw [Nat.min_eq_left hmax] at hbytes
      rw [take_of_length_le hmax] at hdrop
      exact ⟨hbytes, hdrop⟩

end Receive

theorem listed_exec (es : List Event) : Listed (Trace.exec activeStep ∅ es) (Trace.exec step {} es) := by
  induction es using List.reverseRecOn with
  | nil =>
    intro rnti lcid hmem
    cases Finset.notMem_empty _ hmem
  | append_singleton es e ih =>
    rw [Trace.exec_append, Trace.exec_append]
    exact listed_step ih e

theorem passesOn_exec_iff (es : List Event) (datagram next : List UInt8)
    : PassesOn (Trace.exec activeStep ∅ es) (Trace.exec step {} es) datagram next
        ↔ NeedsNoCheck (Trace.exec activeStep ∅ es) (Trace.exec step {} es) datagram :=
  passesOn_iff (listed_exec es)

theorem not_passesOn_flags
    : ¬ PassesOn (Trace.exec activeStep ∅ [.addBearer 0x46 3 0 0]) (Trace.exec step {} [.addBearer 0x46 3 0 0])
        [0x00, 0xFF, 0x00, 0x01, 0x00, 0x46, 0x00, 0x03, 0x05] [] := by
  intro h
  have hsdu : ((Trace.exec step {} [.addBearer 0x46 3 0 0]).receive
      [0x00, 0xFF, 0x00, 0x01, 0x00, 0x46, 0x00, 0x03, 0x05] []).2
      = some { rnti := 0x46, lcid := 3, pdu := { msg := [0x05], nBytes := 1 } } := by
    decide
  have hflags := ((h.bearer 0x46 3).mp ⟨_, hsdu, rfl, rfl⟩).flags
  revert hflags
  decide

end Gtpu

end SrsLte
