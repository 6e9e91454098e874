import SrsLte.Enb.Impl.Gtpu
import SrsLte.Enb.Lemmas.Rrc

/-!
This module contains the verification of the way of an uplink datagram through `rrc.cc` to S1AP and GTP-U.
-/

namespace SrsLte.Rrc

def uplinkHeadroom : Nat := srslteBufferHeaderOffset + rrcReceiveLen

structure Tunnels (g : Gtpu) (rnti : UInt16) (lcid : Fin srsenbNRadioBearers) (payload : List UInt8) : Prop where
  active : (g.bearers rnti).teidsIn lcid ≠ 0
  addr : (g.writePdu rnti lcid uplinkHeadroom payload).2.addr = (g.bearers rnti).spgwAddrs lcid
  teid
    : ∃ header : GtpuHeader,
        header.teid = (g.bearers rnti).teidsOut lcid
          ∧ gtpuWriteHeader header uplinkHeadroom payload
              =
            some (g.writePdu rnti lcid uplinkHeadroom payload).2.bytes

def Routes (rrc : Rrc) (g : Gtpu) (id : UeId) (payload : List UInt8) : UplinkCall → Prop
  | .s1apWritePdu rnti => rrc.ueidMap.lookup id = some rnti
  | .s1apInitialUe _ _ => True
  | .gtpuWritePdu rnti lcid =>
    rrc.ueidMap.lookup id = some rnti
      ∧ ∃ i : Fin srsenbNRadioBearers, i.val = lcid ∧ Tunnels g (UInt16.ofNat rnti) i payload

/--
What is received is handled, nothing is done for less than a head, and what is passed on is the rest of the datagram.
-/
def Validates (rrc : Rrc) (g : Gtpu) (datagram : Option (List UInt8)) : Prop :=
  ∃ rrc' call payload,
    rrc.receiveDatagram datagram = some (rrc', call, payload)
      ∧ ∀ c ∈ call,
          ∃ bytes,
            datagram = some bytes
              ∧ rrcReceiveLen ≤ bytes.length
              ∧ payload = bytes.drop rrcReceiveLen
              ∧ rrc.Routes g (RrcReceiveHead.ofBytes bytes).id payload c

def OnBearer (rrc : Rrc) (g : Gtpu) (head : RrcReceiveHead) : Prop :=
  ∀ rnti,
    rrc.ueidMap.lookup head.id = some rnti
      → (head.type = srsenbRrcData ∨ (head.type = srsenbRrcNormal ∧ ¬head.lcid < 3))
      → ∃ i : Fin srsenbNRadioBearers, i.val = head.lcid.toNat ∧ (g.bearers (UInt16.ofNat rnti)).teidsIn i ≠ 0

variable {rrc : Rrc} {g : Gtpu}

theorem receiveDatagram_eq_some {bytes : List UInt8}
    (hhead : rrcReceiveLen ≤ bytes.length) (hroom : bytes.length ≤ receiveRoom)
    : rrc.receiveDatagram (some bytes)
        =
      some
        ((rrc.receiveUplink (.ofBytes bytes)).1,
          (rrc.receiveUplink (.ofBytes bytes)).2,
          bytes.drop rrcReceiveLen) := by
  have htake : bytes.take srslteMaxBufferSizeBytes = bytes := by
    apply List.take_of_length_le
    exact Nat.le_trans hroom (Nat.sub_le _ _)
  have hn : u32Sub bytes.length rrcReceiveLen = bytes.length - rrcReceiveLen := by
    apply u32Sub_of_le hhead
    exact Nat.lt_of_le_of_lt hroom (by decide)
  simp only [receiveDatagram, Option.getD_some, Option.isSome_some, if_true, htake, hn]
  rw [if_neg (by omega), List.take_of_length_le (by simp)]

variable {datagram : Option (List UInt8)}

theorem length_of_receiveDatagram_eq_some {res : Rrc × Option UplinkCall × List UInt8}
    (h : rrc.receiveDatagram datagram = some res)
    : ∃ bytes, datagram = some bytes ∧ rrcReceiveLen ≤ bytes.length ∧ bytes.length ≤ receiveRoom := by
  cases datagram with
  | none =>
    rw [receiveDatagram, if_pos (.inr (by decide))] at h
    cases h
  | some bytes =>
    simp only [receiveDatagram, Option.getD_some, Option.isSome_some, if_true, List.length_take] at h
    split at h
    . cases h
    . next hinside =>
      unfold receiveRoom rrcReceiveLen srslteMaxBufferSizeBytes srslteBufferHeaderOffset u32Sub at hinside
      refine ⟨bytes, rfl, ?_, ?_⟩
      . unfold rrcReceiveLen
        omega
      . unfold receiveRoom srslteMaxBufferSizeBytes srslteBufferHeaderOffset
        omega

theorem tunnels_iff (rnti : UInt16) (lcid : Fin srsenbNRadioBearers) (payload : List UInt8)
    : Tunnels g rnti lcid payload ↔ (g.bearers rnti).teidsIn lcid ≠ 0 :=
  ⟨(·.active), fun h => ⟨h, rfl, ⟨0x30, 0xFF, payload.length % 2 ^ 16, _⟩, rfl, rfl⟩⟩

theorem routes_iff {head : RrcReceiveHead} (payload : List UInt8)
    : (∀ c ∈ (rrc.receiveUplink head).2, rrc.Routes g head.id payload c) ↔ rrc.OnBearer g head := by
  constructor
  . intro h rnti hid htype
    have ⟨_, i, hi, htunnels⟩ := h _ (receiveUplink_eq_gtpu_iff.mpr ⟨hid, htype, rfl⟩)
    exact ⟨i, hi, htunnels.active⟩
  . intro h c hc
    cases c with
    | s1apWritePdu rnti => exact lookup_of_receiveUplink_eq_s1ap hc
    | s1apInitialUe rnti cause => trivial
    | gtpuWritePdu rnti lcid =>
      have ⟨hid, htype, hlcid⟩ := receiveUplink_eq_gtpu_iff.mp hc
      have ⟨i, hi, hactive⟩ := h rnti hid htype
      exact ⟨hid, i, hi.trans hlcid, (tunnels_iff _ _ _).mpr hactive⟩

theorem Validates.fits (h : rrc.Validates g datagram)
    : ∃ bytes,
        datagram = some bytes
          ∧ rrcReceiveLen ≤ bytes.length
          ∧ bytes.length ≤ receiveRoom
          ∧ rrc.OnBearer g (.ofBytes bytes) := by
  have ⟨rrc', call, payload, hreceive, hcalls⟩ := h
  have ⟨bytes, hbytes, hhead, hroom⟩ := length_of_receiveDatagram_eq_some hreceive
  refine ⟨bytes, hbytes, hhead, hroom, (routes_iff payload).mp ?_⟩
  rw [hbytes, receiveDatagram_eq_some hhead hroom] at hreceive
  cases hreceive
  intro c hc
  have ⟨bytes', hbytes', _, _, hroutes⟩ := hcalls c hc
  rw [hbytes] at hbytes'
  cases hbytes'
  exact hroutes

theorem validates_iff (rrc : Rrc) (g : Gtpu) (datagram : Option (List UInt8))
    : rrc.Validates g datagram
        ↔
      ∃ bytes,
        datagram = some bytes
          ∧ rrcReceiveLen ≤ bytes.length
          ∧ bytes.length ≤ receiveRoom
          ∧ rrc.OnBearer g (.ofBytes bytes) := by
  constructor
  . intro h
    exact h.fits
  . intro h
    have ⟨bytes, hbytes, hhead, hroom, hbearer⟩ := h
    refine ⟨_, _, _, hbytes ▸ receiveDatagram_eq_some hhead hroom, ?_⟩
    intro c hc
    exact ⟨bytes, hbytes, hhead, rfl, (routes_iff _).mpr hbearer c hc⟩

theorem not_validates_lcid11
    : ¬({ init with ueidMap := Finmap.singleton 0 70 } : Rrc).Validates {}
        (some (srsenbRrcData :: List.replicate 21 0 ++ [11, 0, 0, 0, 0, 0])) := by
  intro h
  have ⟨bytes, hbytes, _, _, hbearer⟩ := h.fits
  cases hbytes
  have hid : (RrcReceiveHead.ofBytes (srsenbRrcData :: List.replicate 21 0 ++ [11, 0, 0, 0, 0, 0])).id = 0 := by
    decide
  have ⟨i, hi, _⟩ := hbearer 70 (by rw [hid]; exact Finmap.lookup_singleton_eq) (.inl rfl)
  exact absurd hi (Nat.ne_of_lt i.isLt)

end SrsLte.Rrc
