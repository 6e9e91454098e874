import SrsLte.Pdcp.Lemmas
import SrsLte.Rlc.Am.Lemmas.Fidelity

/-!
This module contains a whole bearer, two PDCP entities over `rlc_am`.
-/

namespace SrsLte.PdcpEntity

open List

variable {sec : Security} {b : PdcpBearer} {tx rx : PdcpEntity} {sdus : List ByteBuffer}

open RlcAm in
theorem writePdus_overRlcAm (h : Peers b tx rx) (hcount : rx.rxCount = tx.txCount) (sdus : List ByteBuffer)
    (hsdus : b.isData = true → ∀ sdu ∈ sdus, sdu ≠ [])
    (hlen : ∀ pdu ∈ tx.writeSdus sec sdus, 1 ≤ pdu.length ∧ pdu.length ≤ 2047) (cfg cfg' : SrslteRlcAmConfig)
    (ops : List TxOp) (hops : written ops = tx.writeSdus sec sdus) (arrivals : List Nat)
    (harrivals : Trace.Along (receive (sender cfg ops).2) (Near (sender cfg ops).2 512 512) (RlcAm.init cfg')
      arrivals)
    : let peer := Trace.exec (receive (sender cfg ops).2) (RlcAm.init cfg') arrivals
      rx.writePdus sec peer.pdcp = (sdus.take peer.pdcp.length).map fun sdu => (b.upper, sdu) := by
  have hwritten : ∀ sdu ∈ written ops, sdu ≠ [] ∧ sdu.length ≤ 2047 := by
    intro sdu hsdu
    rw [hops] at hsdu
    exact ⟨length_pos_iff.mp (hlen sdu hsdu).1, (hlen sdu hsdu).2⟩
  have hgrants : ∀ op ∈ ops, op.grant ≤ (ops.map TxOp.grant).sum :=
    fun op hop => single_le_sum (fun _ _ => Nat.zero_le _) _ (mem_map_of_mem hop)
  obtain ⟨hframed, hsent⟩ := txFramed_sender cfg hwritten hgrants
  rw [hsent] at harrivals ⊢
  have hreceived := received_exec hframed.pdus (by decide) (received_init cfg' _) harrivals
  generalize Trace.exec _ (RlcAm.init cfg') arrivals = peer at *
  have hprefix : peer.pdcp <+: tx.writeSdus sec sdus := by
    rw [hreceived.pdcp_eq hframed.pdus (by decide) (fun sdu hsdu => (hwritten sdu hsdu).2) hframed.splits, ← hops]
    exact (hframed.splits _).isPrefix
  dsimp only
  rw [← writePdus_take sec h hcount hsdus, ← prefix_iff_eq_take.mp hprefix]

def bearerOps : List RlcAm.TxOp :=
  ((drb .uplink).writeSdus countSecurity [[1, 2], [3]]).flatMap fun pdu => [.writeSdu pdu, .buildDataPdu 10]

theorem writePdus_overRlcAm_two
    : (drb .downlink).writePdus countSecurity (Trace.exec
        (RlcAm.receive (RlcAm.sender RlcAm.basicTestConfig bearerOps).2) (RlcAm.init RlcAm.basicTestConfig)
        [1, 0]).pdcp
        =
      [(.gw, [1, 2]), (.gw, [3])] :=
  writePdus_overRlcAm peers_drb rfl [[1, 2], [3]] (by decide) (by decide) RlcAm.basicTestConfig RlcAm.basicTestConfig
    bearerOps rfl [1, 0] ⟨by decide, by decide, trivial⟩

end SrsLte.PdcpEntity
