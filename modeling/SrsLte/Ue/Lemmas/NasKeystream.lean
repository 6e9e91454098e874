import SrsLte.Ue.Lemmas.NasIntegrity

/-!
This module contains the proof that the NAS of the UE ciphers no two messages with the same COUNT.
-/

namespace SrsLte.UeNas

open List

variable (alg : NasAlgorithms)

def HasShortCount (nas : UeNas) : Prop :=
  nas.ctxt.cipherAlgo = 1 ∨ nas.ctxt.cipherAlgo = 2 → nas.ctxt.txCount.toNat < 256

/--
The COUNT of the uplink does not overflow, messages are ciphered while it fits into the sequence number, and it is
only reset when nothing has been ciphered or the key changes. A restart may also find the context that was in use.
-/
def KeepsKeystream (nas : UeNas) (event : UeNasEvent × UeNasEnv) : Prop :=
  nas.ctxt.txCount.toNat + 1 < 2 ^ 32 ∧
    match event.1 with
    | .writePdu pdu =>
      match pdu.msg with
      | .attachAccept _ | .esmInformationRequest => pdu.secHdrType ≠ .unknown → nas.HasShortCount
      | .securityModeCommand secModeCmd =>
        nas.TakesSecurityMode (nas.decrypted alg pdu) secModeCmd → nas.ciphered = [] ∨
          (Supports secModeCmd ∧ ((nas.selected secModeCmd).generateNasKeys alg).cipherKey ≠ nas.cipherKey)
      | _ => True
    | .restart cfg memory =>
      nas.ciphered = [] ∨ (nas.haveGuti ∧ nas.haveCtxt ∧ cfg.forceImsiAttach = false)
        ∨ ((new cfg nas.stop.ctxtFile memory).init alg).cipherKey ≠ nas.cipherKey
    | _ => True

structure Fresh (nas : UeNas) : Prop where
  nodup : nas.ciphered.Nodup
  below : ∀ count ∈ nas.ciphered, count.toNat < nas.ctxt.txCount.toNat

variable {alg} {nas : UeNas} {pdu : NasPdu DlNasMsg} {env : UeNasEnv}

theorem fresh_of_nil (h : nas.ciphered = []) : nas.Fresh := by
  constructor
  . rw [h]
    exact nodup_nil
  . rw [h]
    nofun

theorem Fresh.of_eq {nas' : UeNas} (h : nas.Fresh) (hciphered : nas'.ciphered = nas.ciphered)
    (htx : nas'.ctxt.txCount = nas.ctxt.txCount)
    : nas'.Fresh := by
  constructor
  . rw [hciphered]
    exact h.nodup
  . rw [hciphered, htx]
    exact h.below

variable {count : UInt32} {cfg : NasConfig}

theorem toNat_succ (h : count.toNat + 1 < 2 ^ 32) : (count + 1).toNat = count.toNat + 1 := by
  rw [UInt32.toNat_add]
  exact Nat.mod_eq_of_lt h

theorem Fresh.succ {nas' : UeNas} (h : nas.Fresh) (hlt : nas.ctxt.txCount.toNat + 1 < 2 ^ 32)
    (hciphered : nas'.ciphered = nas.ciphered) (htx : nas'.ctxt.txCount = nas.ctxt.txCount + 1)
    : nas'.Fresh := by
  constructor
  . rw [hciphered]
    exact h.nodup
  . intro count hcount
    rw [hciphered] at hcount
    rw [htx, toNat_succ hlt]
    exact Nat.lt_succ_of_lt (h.below count hcount)

theorem cipherAlgo_of_keystream {direction : SecurityDirection} (h : (nas.keystream alg count direction).isSome)
    : nas.ctxt.cipherAlgo = 1 ∨ nas.ctxt.cipherAlgo = 2 := by
  unfold keystream at h
  split at h
  . next heq => exact .inl heq
  . next heq => exact .inr heq
  . cases h

theorem Fresh.sendCiphered (h : nas.Fresh) (hlt : nas.ctxt.txCount.toNat + 1 < 2 ^ 32) (hshort : nas.HasShortCount)
    (secHdrType : SecHdrType) (msg : UlNasMsg)
    : (nas.sendCiphered alg secHdrType msg env).Fresh := by
  by_cases hstream : (nas.keystream alg nas.ctxt.txCount.toUInt8.toUInt32 .uplink).isSome
  . have hcount : nas.ctxt.txCount.toUInt8.toUInt32 = nas.ctxt.txCount := by
      apply UInt32.toNat_inj.mp
      rw [UInt8.toNat_toUInt32, UInt32.toNat_toUInt8]
      exact Nat.mod_eq_of_lt (hshort (cipherAlgo_of_keystream hstream))
    have hciphered : (nas.sendCiphered alg secHdrType msg env).ciphered = nas.ciphered ++ [nas.ctxt.txCount] := by
      rw [hcount] at hstream
      simp only [UeNas.sendCiphered, writeSdu, hcount]
      exact if_pos hstream
    have htx : (nas.sendCiphered alg secHdrType msg env).ctxt.txCount.toNat = nas.ctxt.txCount.toNat + 1 :=
      toNat_succ hlt
    constructor
    . rw [hciphered, nodup_append]
      refine ⟨h.nodup, nodup_singleton _, ?_⟩
      intro count hmem count' hmem' heq
      rw [mem_singleton] at hmem'
      have hbelow := h.below count hmem
      rw [heq, hmem'] at hbelow
      exact Nat.lt_irrefl _ hbelow
    . intro count hmem
      rw [hciphered, mem_append, mem_singleton] at hmem
      rw [htx]
      cases hmem with
      | inl hmem => exact Nat.lt_succ_of_lt (h.below count hmem)
      | inr heq =>
        rw [heq]
        exact Nat.lt_succ_self _
  . apply h.succ hlt
    . exact if_neg hstream
    . rfl

theorem Fresh.parseAttachAccept (h : nas.Fresh) (hlt : nas.ctxt.txCount.toNat + 1 < 2 ^ 32)
    (hshort : nas.HasShortCount) (bytes : List UInt8) (attachAccept : AttachAccept)
    : (nas.parseAttachAccept alg bytes attachAccept env).Fresh := by
  unfold UeNas.parseAttachAccept
  split
  . exact h
  . split
    . cases attachAccept.ipv4 with
      | some addr =>
        cases attachAccept.guti
        all_goals
          apply Fresh.sendCiphered
          . exact h.of_eq rfl rfl
          . exact hlt
          . exact hshort
      | none => cases attachAccept.guti <;> exact h.of_eq rfl rfl
    . exact h.of_eq rfl rfl

theorem fresh_takeSecurityMode {secModeCmd : SecurityModeCommand}
    (hreset : nas.ciphered = [] ∨
      (Supports secModeCmd ∧ ((nas.selected secModeCmd).generateNasKeys alg).cipherKey ≠ nas.cipherKey))
    (mac : MacI) (bytes : List UInt8)
    : (nas.takeSecurityMode alg mac bytes secModeCmd env).Fresh := by
  by_cases hcaps : Supports secModeCmd
  . have hnil : ((nas.selected secModeCmd).generateNasKeys alg).ciphered = [] := by
      show (if _ = _ then _ else _) = _
      cases hreset with
      | inl hnil =>
        rw [show (nas.selected secModeCmd).ciphered = [] from hnil]
        exact ite_self _
      | inr hkey => exact if_neg hkey.2
    cases hmac : ((nas.selected secModeCmd).generateNasKeys alg).integrityCheck alg mac bytes with
    | true =>
      rw [takeSecurityMode_of_supports hcaps hmac]
      apply Fresh.sendCiphered
      . exact fresh_of_nil hnil
      . show (0 : UInt32).toNat + 1 < 2 ^ 32
        decide
      . intro _
        show (0 : UInt32).toNat < 256
        decide
    | false =>
      rw [takeSecurityMode_of_supports hcaps hmac]
      exact fresh_of_nil hnil
  . rw [takeSecurityMode_of_not_supports hcaps]
    cases hreset with
    | inl hnil => exact fresh_of_nil hnil
    | inr hkey => exact absurd hkey.1 hcaps

theorem Fresh.genAttachRequest (h : nas.Fresh) (hlt : nas.ctxt.txCount.toNat + 1 < 2 ^ 32)
    : (nas.genAttachRequest alg env).Fresh := by
  unfold UeNas.genAttachRequest
  dsimp only
  split
  all_goals
    split
    . exact h.succ hlt rfl rfl
    . exact h.of_eq rfl rfl

theorem Fresh.rrcConnect (h : nas.Fresh) (hlt : nas.ctxt.txCount.toNat + 1 < 2 ^ 32) (isConnected : Bool)
    : (nas.rrcConnect alg isConnected env).Fresh := by
  unfold UeNas.rrcConnect
  split
  . exact h
  . split
    . exact h.succ hlt rfl rfl
    . exact h.genAttachRequest hlt

theorem Fresh.writePdu (h : nas.Fresh) (hok : nas.KeepsKeystream alg (.writePdu pdu, env))
    : (nas.writePdu alg pdu env).Fresh := by
  obtain ⟨hlt, hok⟩ := hok
  dsimp only at hok
  by_cases hhdr : pdu.secHdrType = .unknown
  . rw [writePdu_of_unknown hhdr]
    exact h
  . rw [writePdu_of_hdr hhdr]
    cases hmsg : pdu.msg with
    | attachAccept attachAccept =>
      rw [hmsg] at hok
      exact h.parseAttachAccept hlt (hok hhdr) _ attachAccept
    | esmInformationRequest =>
      rw [hmsg] at hok
      dsimp only [parseEsmInformationRequest]
      apply Fresh.sendCiphered
      . exact h.of_eq rfl rfl
      . exact hlt
      . exact hok hhdr
    | securityModeCommand secModeCmd =>
      rw [hmsg] at hok
      dsimp only
      by_cases htakes : nas.TakesSecurityMode (nas.decrypted alg pdu) secModeCmd
      . rw [parseSecurityModeCommand_of_takes htakes]
        exact fresh_takeSecurityMode (hok htakes) _ _
      . obtain ⟨sent, hsent⟩ := parseSecurityModeCommand_of_not_takes htakes
        rw [hsent]
        exact h.of_eq rfl rfl
    | authenticationRequest native nasKsi rand autn =>
      dsimp only [parseAuthenticationRequest]
      cases env.auth <;> exact h.of_eq rfl rfl
    | attachReject | authenticationReject | identityRequest | emmInformation => exact h.of_eq rfl rfl
    | serviceReject | other => exact h

theorem txCount_restart (hctxt : nas.haveGuti = true ∧ nas.haveCtxt = true)
    (hcfg : cfg.forceImsiAttach = false) (memory : UeNasMemory)
    : (nas.restart alg cfg memory).ctxt.txCount = nas.ctxt.txCount := by
  have hfile : nas.stop.ctxtFile = some nas.ctxt := by
    unfold stop
    rw [if_pos hctxt]
  simp only [restart, hfile, init, new, hcfg]
  rfl

theorem Fresh.restart (h : nas.Fresh) {memory : UeNasMemory} (hok : nas.KeepsKeystream alg (.restart cfg memory, env))
    : (nas.restart alg cfg memory).Fresh := by
  by_cases hkey : ((new cfg nas.stop.ctxtFile memory).init alg).cipherKey = nas.cipherKey
  . have hciphered : (nas.restart alg cfg memory).ciphered = nas.ciphered := if_pos hkey
    rcases hok.2 with hnil | hctxt | hne
    . exact fresh_of_nil (hciphered.trans hnil)
    . exact h.of_eq hciphered (txCount_restart ⟨hctxt.1, hctxt.2.1⟩ hctxt.2.2 memory)
    . exact absurd hkey hne
  . exact fresh_of_nil (if_neg hkey)

theorem Fresh.step (h : nas.Fresh) {event : UeNasEvent × UeNasEnv} (hok : nas.KeepsKeystream alg event)
    : (nas.step alg event).Fresh := by
  have ⟨event, env⟩ := event
  cases event with
  | writePdu pdu => exact h.writePdu hok
  | attachRequest isConnected =>
    simp only [UeNas.step, handle, attachRequest]
    split
    . exact h.rrcConnect hok.1 isConnected
    . exact h.rrcConnect hok.1 isConnected
    . exact h
  | paging isConnected =>
    simp only [UeNas.step, handle, paging]
    split
    . exact h.rrcConnect hok.1 isConnected
    . exact h
  | deattachRequest => exact h.of_eq rfl rfl
  | restart cfg memory => exact h.restart hok

theorem ciphered_init (cfg : NasConfig) (ctxtFile : Option NasSecCtxt) (memory : UeNasMemory)
    : ((new cfg ctxtFile memory).init alg).ciphered = [] := by
  cases ctxtFile with
  | none => rfl
  | some ctxt =>
    cases hforce : cfg.forceImsiAttach with
    | true =>
      simp only [init, new, hforce]
      rfl
    | false =>
      simp only [init, new, hforce]
      exact ite_self _

theorem nodup_ciphered_exec (alg : NasAlgorithms) (cfg : NasConfig) (ctxtFile : Option NasSecCtxt)
    (memory : UeNasMemory) {events : List (UeNasEvent × UeNasEnv)}
    (hevents : Trace.Along (step alg) (KeepsKeystream alg) ((new cfg ctxtFile memory).init alg) events)
    : (Trace.exec (step alg) ((new cfg ctxtFile memory).init alg) events).ciphered.Nodup := by
  have hstart : ((new cfg ctxtFile memory).init alg).Fresh := fresh_of_nil (ciphered_init cfg ctxtFile memory)
  have hfresh := Trace.throughout_of_along (I := Fresh) (fun _ _ h hok => h.step hok) hstart hevents
  exact hfresh.exec.nodup

def secured : List (UeNasEvent × UeNasEnv) := [
  (.writePdu (.plain [0] (.authenticationRequest true 0 0 0)), .null),
  (.writePdu (securityModeOne 1), .null)
]

def secureTwice : List (UeNasEvent × UeNasEnv) :=
  secured ++ [(.writePdu (securityModeOne 1), .null)]

def securedEsmInformation : List (UeNasEvent × UeNasEnv) :=
  secured ++ [(.writePdu ⟨.integrityAndCiphered, .zero, [0], .esmInformationRequest⟩, .null)]

theorem nodup_ciphered_securedEsmInformation
    : (Trace.exec (step .null) startOne securedEsmInformation).ciphered.length = 2
        ∧ (Trace.exec (step .null) startOne securedEsmInformation).ciphered.Nodup := by
  refine ⟨by decide, ?_⟩
  apply nodup_ciphered_exec
  exact ⟨⟨by decide, trivial⟩, ⟨by decide, fun _ => .inl rfl⟩, ⟨by decide, fun _ _ => by decide⟩, trivial⟩

theorem not_nodup_ciphered_secureTwice
    : ¬(Trace.exec (step .null) startOne secureTwice).ciphered.Nodup := by
  have hciphered : (Trace.exec (step .null) startOne secureTwice).ciphered = [0, 0] := by decide
  rw [hciphered]
  decide

end SrsLte.UeNas
