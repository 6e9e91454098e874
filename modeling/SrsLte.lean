import SrsLte.Common.Timeout
import SrsLte.Common.TimerPool
import SrsLte.Enb.Lemmas.Buffers
import SrsLte.Enb.Lemmas.Erab
import SrsLte.Enb.Lemmas.S1ap
import SrsLte.Enb.Lemmas.Uplink
import SrsLte.Epc.Lemmas.Gtpc
import SrsLte.Epc.Lemmas.MmeAuth
import SrsLte.Epc.Lemmas.MmeMac
import SrsLte.Epc.Lemmas.MmeMaps
import SrsLte.Epc.Lemmas.Resync
import SrsLte.Mac.Lemmas.Bsr
import SrsLte.Mac.Lemmas.BsrGrant
import SrsLte.Mac.Lemmas.DlHarq
import SrsLte.Mac.Lemmas.Lcp
import SrsLte.Mac.Lemmas.RaAttempts
import SrsLte.Mac.Lemmas.RaContention
import SrsLte.Mac.Lemmas.RaTiming
import SrsLte.Mac.Lemmas.Rar
import SrsLte.Mac.Lemmas.UlHarqRv
import SrsLte.Pdcp.OverRlc
import SrsLte.Phy.Lemmas.Cqi
import SrsLte.Phy.Lemmas.CqiSend
import SrsLte.Phy.Lemmas.DciCodewords
import SrsLte.Phy.Lemmas.PdschCount
import SrsLte.Phy.Lemmas.SchDecode
import SrsLte.Phy.Lemmas.Uci
import SrsLte.Phy.Lemmas.UciCqi
import SrsLte.Phy.Lemmas.Ulsch
import SrsLte.Rlc.Am.Lemmas.PollBit
import SrsLte.Rlc.Am.Lemmas.StatusReport
import SrsLte.Rlc.Drain
import SrsLte.Rlc.HeaderBounds
import SrsLte.Rlc.LengthIndicators
import SrsLte.Rlc.Um.Lemmas.Window
import SrsLte.Ue.Gateway
import SrsLte.Ue.Handover
import SrsLte.Ue.Lemmas.NasKeystream
import SrsLte.Ue.RrcMeas
import SrsLte.Ue.Lemmas.Usim
import SrsLte.Ue.Lemmas.UsimKeys
import SrsLte.Ue.RadioLink
