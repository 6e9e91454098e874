import SrsLte.Data.Trace
import SrsLte.Ue.Impl.Nas

/-!
This module contains which messages of the downlink change the NAS of the UE only if their MAC is right.
-/

namespace SrsLte

structure UeNasSecurity where
  txCount : UInt32
  rxCount : UInt32
  cipherAlgo : Fin 8
  integAlgo : Fin 8
  kNasEnc : Bytes 32
  kNasInt : Bytes 32

structure UeNasGuarded where
  state : UeEmmState
  haveGuti : Bool
  guti : Nat
  ipAddr : UInt32
  security : UeNasSecurity

def DlNasMsg.NeedsMac (msg : DlNasMsg) : Prop :=
  match msg with
  | .attachAccept _ | .esmInformationRequest | .emmInformation | .securityModeCommand _ => True
  | _ => False

def UeNasEnv.null : UeNasEnv where
  auth := .authOk 0
  kAsme := 0
  stackMac := .zero

namespace UeNas

variable (alg : NasAlgorithms)

def security (nas : UeNas) : UeNasSecurity where
  txCount := nas.ctxt.txCount
  rxCount := nas.ctxt.rxCount
  cipherAlgo := nas.ctxt.cipherAlgo
  integAlgo := nas.ctxt.integAlgo
  kNasEnc := nas.kNasEnc
  kNasInt := nas.kNasInt

def guarded (nas : UeNas) : UeNasGuarded where
  state := nas.state
  haveGuti := nas.haveGuti
  guti := nas.ctxt.guti
  ipAddr := nas.ipAddr
  security := nas.security

def selected (nas : UeNas) (secModeCmd : SecurityModeCommand) : UeNas :=
  { nas with
    ctxt.rxCount := 0
    ctxt.txCount := 0
    ctxt.cipherAlgo := secModeCmd.typeOfEea
    ctxt.integAlgo := secModeCmd.typeOfEia
  }

def MacVerifies (nas : UeNas) (pdu : NasPdu DlNasMsg) : Prop :=
  pdu.secHdrType.IsProtected ∧
    match pdu.msg with
    | .securityModeCommand secModeCmd =>
      ((nas.selected secModeCmd).generateNasKeys alg).integrityCheck alg pdu.mac (nas.decrypted alg pdu) = true
    | _ => nas.integrityCheck alg pdu.mac pdu.bytes = true

def Rejects (nas nas' : UeNas) : Prop :=
  ∃ pdu cause, nas'.sent = nas.sent ++ [pdu] ∧ pdu.msg = .securityModeReject cause

def IntegrityEnforced (nas : UeNas) (pdu : NasPdu DlNasMsg) (env : UeNasEnv) : Prop :=
  ((nas.writePdu alg pdu env).guarded ≠ nas.guarded → nas.MacVerifies alg pdu)
    ∧ (nas.Rejects (nas.writePdu alg pdu env) → (nas.writePdu alg pdu env).security = nas.security)

def TakesSecurityMode (nas : UeNas) (bytes : List UInt8) (secModeCmd : SecurityModeCommand) : Prop :=
  bytes ≠ [] ∧ secModeCmd.native = true ∧ (nas.haveCtxt = true → secModeCmd.nasKsi = nas.ctxt.ksi)
    ∧ checkCapReplay secModeCmd.ueSecurityCap = true

def Supports (secModeCmd : SecurityModeCommand) : Prop :=
  eeaCaps secModeCmd.typeOfEea = true ∧ eiaCaps secModeCmd.typeOfEia = true

instance (secModeCmd : SecurityModeCommand) : Decidable (Supports secModeCmd) :=
  inferInstanceAs (Decidable (_ ∧ _))

def Settled (nas : UeNas) (secModeCmd : SecurityModeCommand) (count : UInt32) (derived : Prop) : Prop :=
  nas.ctxt.txCount = count ∧ nas.ctxt.rxCount = count ∧ nas.ctxt.cipherAlgo = secModeCmd.typeOfEea
    ∧ nas.ctxt.integAlgo = secModeCmd.typeOfEia
    ∧ (derived → (nas.kNasEnc, nas.kNasInt) = generateKNas alg.crypto nas.ctxt.kAsme
        (UInt8.ofNat secModeCmd.typeOfEea) (UInt8.ofNat secModeCmd.typeOfEia))

/--
The messages that change something only if their MAC is right: those whose MAC is right, those that are dropped
and those that bring nothing new.
-/
def Unharmed (nas : UeNas) (pdu : NasPdu DlNasMsg) : Prop :=
  pdu.secHdrType = .unknown ∨
    match pdu.msg with
    | .attachAccept attachAccept =>
      nas.MacVerifies alg pdu ∨ nas.decrypted alg pdu = [] ∨
        if attachAccept.epsAttachResult = 1 then
          attachAccept.ipv4 = none ∧ ∀ guti ∈ attachAccept.guti, nas.haveGuti = true ∧ nas.ctxt.guti = guti
        else
          nas.state = .deregistered
    | .securityModeCommand secModeCmd =>
      ¬nas.TakesSecurityMode (nas.decrypted alg pdu) secModeCmd ∨
        if Supports secModeCmd
            ∧ ((nas.selected secModeCmd).generateNasKeys alg).integrityCheck alg pdu.mac (nas.decrypted alg pdu) = true then
          pdu.secHdrType.IsProtected ∨ nas.Settled alg secModeCmd 1 True
        else
          nas.Settled alg secModeCmd 0 (Supports secModeCmd)
    | _ => nas.MacVerifies alg pdu

variable {alg} {nas : UeNas} {pdu : NasPdu DlNasMsg} {env : UeNasEnv}

variable {nas' : UeNas} {secModeCmd : SecurityModeCommand}

theorem not_rejects_sendCiphered {secHdrType : SecHdrType} {msg : UlNasMsg}
    (hsent : nas'.sent = nas.sent) (hmsg : ∀ cause, msg ≠ .securityModeReject cause)
    : ¬nas.Rejects (nas'.sendCiphered alg secHdrType msg env) := by
  rintro ⟨pdu, cause, hpdu, hcause⟩
  simp only [sendCiphered, writeSdu, hsent] at hpdu
  cases List.append_cancel_left hpdu
  exact hmsg cause hcause

theorem not_rejects_of_sent (hsent : nas'.sent = nas.sent) : ¬nas.Rejects nas' := by
  rintro ⟨pdu, cause, hpdu, -⟩
  rw [hsent] at hpdu
  simp at hpdu

theorem guarded_ne_of_rxCount (h : nas'.ctxt.rxCount = nas.ctxt.rxCount + 1) : nas'.guarded ≠ nas.guarded := by
  intro heq
  have hcount : nas'.ctxt.rxCount = nas.ctxt.rxCount := congrArg (fun g => g.security.rxCount) heq
  rw [h] at hcount
  simp at hcount

theorem enforced_iff_of_rxCount (hcount : (nas.writePdu alg pdu env).ctxt.rxCount = nas.ctxt.rxCount + 1)
    (hrejects : ¬nas.Rejects (nas.writePdu alg pdu env))
    : nas.IntegrityEnforced alg pdu env ↔ nas.MacVerifies alg pdu := by
  unfold IntegrityEnforced
  constructor
  . intro h
    exact h.1 (guarded_ne_of_rxCount hcount)
  . intro hmac
    exact ⟨fun _ => hmac, fun h => absurd h hrejects⟩

theorem enforced_iff_of_not_rejects (hrejects : ¬nas.Rejects (nas.writePdu alg pdu env))
    : nas.IntegrityEnforced alg pdu env
        ↔
      nas.MacVerifies alg pdu ∨ (nas.writePdu alg pdu env).guarded = nas.guarded := by
  unfold IntegrityEnforced
  constructor
  . intro h
    by_cases heq : (nas.writePdu alg pdu env).guarded = nas.guarded
    . exact .inr heq
    . exact .inl (h.1 heq)
  . intro h
    refine ⟨fun hne => h.resolve_right hne, fun hreject => absurd hreject hrejects⟩

theorem enforced_self (h : nas.writePdu alg pdu env = nas) : nas.IntegrityEnforced alg pdu env := by
  unfold IntegrityEnforced
  rw [h]
  exact ⟨fun hne => absurd rfl hne, fun _ => rfl⟩

theorem guarded_parseAttachAccept (bytes : List UInt8) (attachAccept : AttachAccept)
    : (nas.parseAttachAccept alg bytes attachAccept env).guarded = nas.guarded
        ↔
      bytes = [] ∨
        if attachAccept.epsAttachResult = 1 then
          attachAccept.ipv4 = none ∧ ∀ guti ∈ attachAccept.guti, nas.haveGuti = true ∧ nas.ctxt.guti = guti
        else
          nas.state = .deregistered := by
  unfold parseAttachAccept
  split
  . next hbytes => simp [hbytes]
  . next hbytes =>
    simp only [hbytes, false_or]
    split
    . cases attachAccept.ipv4 with
      | some addr =>
        simp only [reduceCtorEq, false_and, iff_false]
        apply guarded_ne_of_rxCount
        cases attachAccept.guti <;> rfl
      | none =>
        cases attachAccept.guti with
        | none => simp
        | some guti =>
          simp only [guarded, security, UeNasGuarded.mk.injEq, true_and, and_true, Option.mem_def, Option.some.injEq,
            forall_eq']
          constructor
          . rintro ⟨hhave, hguti⟩
            exact ⟨hhave.symm, hguti.symm⟩
          . rintro ⟨hhave, hguti⟩
            exact ⟨hhave.symm, hguti.symm⟩
    . simp only [guarded, security, UeNasGuarded.mk.injEq, and_true]
      exact eq_comm

theorem not_rejects_parseAttachAccept (bytes : List UInt8) (attachAccept : AttachAccept)
    : ¬nas.Rejects (nas.parseAttachAccept alg bytes attachAccept env) := by
  unfold parseAttachAccept
  split
  . exact not_rejects_of_sent rfl
  . split
    . cases attachAccept.ipv4 with
      | some addr =>
        apply not_rejects_sendCiphered
        . cases attachAccept.guti <;> rfl
        . intro cause
          nofun
      | none => cases attachAccept.guti <;> exact not_rejects_of_sent rfl
    . exact not_rejects_of_sent rfl

theorem not_supports_iff
    : ¬Supports secModeCmd ↔ eeaCaps secModeCmd.typeOfEea = false ∨ eiaCaps secModeCmd.typeOfEia = false := by
  unfold Supports
  rw [not_and_or, Bool.not_eq_true, Bool.not_eq_true]

section TakeSecurityMode

variable {mac : MacI} {bytes : List UInt8} {secModeCmd : SecurityModeCommand}

theorem takeSecurityMode_of_not_supports (h : ¬Supports secModeCmd)
    : nas.takeSecurityMode alg mac bytes secModeCmd env
        =
      (nas.selected secModeCmd).writePlainSdu alg (.securityModeReject 23) :=
  if_pos (not_supports_iff.mp h)

theorem takeSecurityMode_of_supports {valid : Bool} (h : Supports secModeCmd)
    (hmac : ((nas.selected secModeCmd).generateNasKeys alg).integrityCheck alg mac bytes = valid)
    : nas.takeSecurityMode alg mac bytes secModeCmd env
        =
      let nas' := (nas.selected secModeCmd).generateNasKeys alg
      if valid then
        { nas' with ctxt.rxCount := 1, haveCtxt := true }.sendCiphered alg
          .integrityAndCipheredWithNewEpsSecurityContext .securityModeComplete env
      else
        nas'.writePlainSdu alg (.securityModeReject 20) := by
  rw [← hmac]
  exact if_neg fun hcaps => not_supports_iff.mpr hcaps h

theorem guarded_eq_iff_settled {nas' : UeNas} {count : UInt32} {derived : Prop} [Decidable derived]
    (hguarded : nas'.guarded = { nas.guarded with
      security := {
        txCount := count
        rxCount := count
        cipherAlgo := secModeCmd.typeOfEea
        integAlgo := secModeCmd.typeOfEia
        kNasEnc := if derived then ((nas.selected secModeCmd).generateNasKeys alg).kNasEnc else nas.kNasEnc
        kNasInt := if derived then ((nas.selected secModeCmd).generateNasKeys alg).kNasInt else nas.kNasInt
      } })
    : nas'.guarded = nas.guarded ↔ nas.Settled alg secModeCmd count derived := by
  rw [hguarded]
  constructor
  . intro h
    have hsecurity := congrArg UeNasGuarded.security h
    refine ⟨(congrArg UeNasSecurity.txCount hsecurity).symm, (congrArg UeNasSecurity.rxCount hsecurity).symm,
      (congrArg UeNasSecurity.cipherAlgo hsecurity).symm, (congrArg UeNasSecurity.integAlgo hsecurity).symm, ?_⟩
    intro hderived
    have henc := congrArg UeNasSecurity.kNasEnc hsecurity
    have hint := congrArg UeNasSecurity.kNasInt hsecurity
    simp only [if_pos hderived] at henc hint
    exact (Prod.ext henc hint).symm
  . rintro ⟨htx, hrx, hcipher, hinteg, hkeys⟩
    by_cases hderived : derived
    . have hkeys := hkeys hderived
      have henc : nas.kNasEnc = ((nas.selected secModeCmd).generateNasKeys alg).kNasEnc := congrArg Prod.fst hkeys
      have hint : nas.kNasInt = ((nas.selected secModeCmd).generateNasKeys alg).kNasInt := congrArg Prod.snd hkeys
      simp only [guarded, security, if_pos hderived, htx, hrx, hcipher, hinteg, ← henc, ← hint]
    . simp only [guarded, security, if_neg hderived, htx, hrx, hcipher, hinteg]

theorem guarded_takeSecurityMode
    : (nas.takeSecurityMode alg mac bytes secModeCmd env).guarded = nas.guarded
        ↔
      if Supports secModeCmd ∧ ((nas.selected secModeCmd).generateNasKeys alg).integrityCheck alg mac bytes = true then
        nas.Settled alg secModeCmd 1 True
      else
        nas.Settled alg secModeCmd 0 (Supports secModeCmd) := by
  by_cases hcaps : Supports secModeCmd
  . cases hmac : ((nas.selected secModeCmd).generateNasKeys alg).integrityCheck alg mac bytes with
    | true =>
      rw [if_pos ⟨hcaps, rfl⟩]
      apply guarded_eq_iff_settled
      rw [takeSecurityMode_of_supports hcaps hmac, if_pos trivial, if_pos trivial]
      rfl
    | false =>
      rw [if_neg nofun]
      apply guarded_eq_iff_settled
      rw [takeSecurityMode_of_supports hcaps hmac, if_pos hcaps, if_pos hcaps]
      rfl
  . rw [if_neg fun h => hcaps h.1]
    apply guarded_eq_iff_settled
    rw [takeSecurityMode_of_not_supports hcaps, if_neg hcaps, if_neg hcaps]
    rfl

theorem rejects_takeSecurityMode
    : nas.Rejects (nas.takeSecurityMode alg mac bytes secModeCmd env)
        ↔
      ¬(Supports secModeCmd ∧ ((nas.selected secModeCmd).generateNasKeys alg).integrityCheck alg mac bytes = true) := by
  by_cases hcaps : Supports secModeCmd
  . cases hmac : ((nas.selected secModeCmd).generateNasKeys alg).integrityCheck alg mac bytes with
    | true =>
      rw [takeSecurityMode_of_supports hcaps hmac]
      refine iff_of_false (not_rejects_sendCiphered rfl ?_) (not_not_intro ⟨hcaps, rfl⟩)
      intro cause
      nofun
    | false =>
      rw [takeSecurityMode_of_supports hcaps hmac]
      exact iff_of_true ⟨_, _, rfl, rfl⟩ nofun
  . rw [takeSecurityMode_of_not_supports hcaps]
    exact iff_of_true ⟨_, _, rfl, rfl⟩ fun h => hcaps h.1

theorem guarded_takeSecurityMode_of_security
    (h : (nas.takeSecurityMode alg mac bytes secModeCmd env).security = nas.security)
    : (nas.takeSecurityMode alg mac bytes secModeCmd env).guarded = nas.guarded := by
  by_cases hcaps : Supports secModeCmd
  . cases hmac : ((nas.selected secModeCmd).generateNasKeys alg).integrityCheck alg mac bytes with
    | true =>
      rw [takeSecurityMode_of_supports hcaps hmac] at h ⊢
      unfold guarded
      rw [h]
      rfl
    | false =>
      rw [takeSecurityMode_of_supports hcaps hmac] at h ⊢
      unfold guarded
      rw [h]
      rfl
  . rw [takeSecurityMode_of_not_supports hcaps] at h ⊢
    unfold guarded
    rw [h]
    rfl

theorem parseSecurityModeCommand_of_not_takes (h : ¬nas.TakesSecurityMode bytes secModeCmd)
    : ∃ sent, nas.parseSecurityModeCommand alg mac bytes secModeCmd env = { nas with sent } := by
  unfold parseSecurityModeCommand
  split
  . exact ⟨_, rfl⟩
  . next hbytes =>
    split
    . exact ⟨_, rfl⟩
    . next hnative =>
      split
      . exact ⟨_, rfl⟩
      . next hksi =>
        split
        . next hreplay =>
          refine absurd ⟨hbytes, ?_, ?_, hreplay⟩ h
          . simpa using hnative
          . intro hctxt
            by_contra hne
            exact hksi ⟨hctxt, hne⟩
        . exact ⟨_, rfl⟩

theorem parseSecurityModeCommand_of_takes (h : nas.TakesSecurityMode bytes secModeCmd)
    : nas.parseSecurityModeCommand alg mac bytes secModeCmd env = nas.takeSecurityMode alg mac bytes secModeCmd env := by
  have ⟨hbytes, hnative, hksi, hreplay⟩ := h
  unfold parseSecurityModeCommand
  rw [if_neg hbytes, if_neg (by simp [hnative]), if_neg (fun h => h.2 (hksi h.1)), if_pos hreplay]

end TakeSecurityMode

theorem writePdu_of_hdr (h : pdu.secHdrType ≠ .unknown)
    : nas.writePdu alg pdu env
        =
      match pdu.msg with
      | .attachAccept attachAccept => nas.parseAttachAccept alg (nas.decrypted alg pdu) attachAccept env
      | .attachReject => nas.parseReject
      | .authenticationRequest native nasKsi _ _ => nas.parseAuthenticationRequest alg native nasKsi env
      | .authenticationReject => nas.parseReject
      | .identityRequest => nas.parseIdentityRequest alg
      | .securityModeCommand secModeCmd =>
        nas.parseSecurityModeCommand alg pdu.mac (nas.decrypted alg pdu) secModeCmd env
      | .serviceReject => nas
      | .esmInformationRequest => nas.parseEsmInformationRequest alg env
      | .emmInformation => nas.parseEmmInformation
      | .other => nas := by
  unfold writePdu
  cases hhdr : pdu.secHdrType with
  | unknown => exact absurd hhdr h
  | _ => cases pdu.msg <;> rfl

theorem writePdu_of_unknown (h : pdu.secHdrType = .unknown) : nas.writePdu alg pdu env = nas := by
  unfold writePdu
  rw [h]

theorem enforced_securityModeCommand (hhdr : pdu.secHdrType ≠ .unknown)
    (hmsg : pdu.msg = .securityModeCommand secModeCmd)
    : nas.IntegrityEnforced alg pdu env
        ↔
      ¬nas.TakesSecurityMode (nas.decrypted alg pdu) secModeCmd ∨
        if Supports secModeCmd
            ∧ ((nas.selected secModeCmd).generateNasKeys alg).integrityCheck alg pdu.mac (nas.decrypted alg pdu) = true then
          pdu.secHdrType.IsProtected ∨ nas.Settled alg secModeCmd 1 True
        else
          nas.Settled alg secModeCmd 0 (Supports secModeCmd) := by
  have hwrite : nas.writePdu alg pdu env
      = nas.parseSecurityModeCommand alg pdu.mac (nas.decrypted alg pdu) secModeCmd env := by
    rw [writePdu_of_hdr hhdr, hmsg]
  by_cases htakes : nas.TakesSecurityMode (nas.decrypted alg pdu) secModeCmd
  . rw [parseSecurityModeCommand_of_takes htakes] at hwrite
    have hguarded : (nas.takeSecurityMode alg pdu.mac (nas.decrypted alg pdu) secModeCmd env).guarded = nas.guarded ↔ _ :=
      guarded_takeSecurityMode
    have hrejects : nas.Rejects (nas.takeSecurityMode alg pdu.mac (nas.decrypted alg pdu) secModeCmd env) ↔ _ :=
      rejects_takeSecurityMode
    simp only [htakes, not_true_eq_false, false_or]
    split
    . next hvalid =>
      rw [if_pos hvalid] at hguarded
      have hmac : nas.MacVerifies alg pdu ↔ pdu.secHdrType.IsProtected := by
        unfold MacVerifies
        rw [hmsg]
        exact and_iff_left hvalid.2
      rw [enforced_iff_of_not_rejects (hwrite ▸ fun h => hrejects.mp h hvalid), hmac, hwrite, hguarded]
    . next hinvalid =>
      rw [if_neg hinvalid] at hguarded
      rw [← hguarded]
      unfold IntegrityEnforced
      rw [hwrite]
      constructor
      . intro h
        exact guarded_takeSecurityMode_of_security (h.2 (hrejects.mpr hinvalid))
      . intro h
        exact ⟨fun hne => absurd h hne, fun _ => congrArg UeNasGuarded.security h⟩
  . have hsame : (nas.writePdu alg pdu env).guarded = nas.guarded := by
      obtain ⟨sent, hsent⟩ := parseSecurityModeCommand_of_not_takes htakes
      rw [hwrite, hsent]
      rfl
    exact iff_of_true ⟨fun hne => absurd hsame hne, fun _ => congrArg UeNasGuarded.security hsame⟩ (.inl htakes)

theorem integrityEnforced_iff (alg : NasAlgorithms) (nas : UeNas) (pdu : NasPdu DlNasMsg) (env : UeNasEnv)
    (hmsg : pdu.msg.NeedsMac)
    : nas.IntegrityEnforced alg pdu env ↔ nas.Unharmed alg pdu := by
  unfold Unharmed
  by_cases hhdr : pdu.secHdrType = .unknown
  . exact iff_of_true (enforced_self (writePdu_of_unknown hhdr)) (.inl hhdr)
  . simp only [hhdr, false_or]
    have hwrite : nas.writePdu alg pdu env = _ := writePdu_of_hdr hhdr
    cases hm : pdu.msg with
    | attachAccept attachAccept =>
      rw [hm] at hwrite
      rw [enforced_iff_of_not_rejects (hwrite ▸ not_rejects_parseAttachAccept _ _), hwrite, guarded_parseAttachAccept]
    | securityModeCommand secModeCmd => exact enforced_securityModeCommand hhdr hm
    | esmInformationRequest =>
      rw [hm] at hwrite
      apply enforced_iff_of_rxCount
      . rw [hwrite]
        rfl
      . rw [hwrite]
        refine not_rejects_sendCiphered rfl ?_
        intro cause
        nofun
    | emmInformation =>
      rw [hm] at hwrite
      apply enforced_iff_of_rxCount
      . rw [hwrite]
        rfl
      . rw [hwrite]
        exact not_rejects_of_sent rfl
    | _ =>
      rw [hm] at hmsg
      exact hmsg.elim

def startOne : UeNas :=
  (UeNas.new ⟨"", false, 1⟩ none ⟨⟨0, 0, 0, 0, 0, 0, 0⟩, 0, 0⟩).init .null

def securityModeOne (typeOfEea : Fin 8) : NasPdu DlNasMsg where
  secHdrType := .integrityWithNewEpsSecurityContext
  mac := .zero
  bytes := [0]
  msg := .securityModeCommand ⟨true, 0, typeOfEea, 1, ⟨eeaCaps, eiaCaps⟩⟩

def secureOne : List (UeNasEvent × UeNasEnv) := [
  (.writePdu (.plain [0] (.authenticationRequest true 0 0 0)), .null),
  (.writePdu (securityModeOne 0), .null)
]

def emmInformationOne (mac : MacI) : NasPdu DlNasMsg where
  secHdrType := .integrityAndCiphered
  mac
  bytes := [1]
  msg := .emmInformation

theorem integrityEnforced_secureOne
    : (Trace.exec (step .null) startOne secureOne).IntegrityEnforced .null
        (emmInformationOne .zero) .null := by
  refine (integrityEnforced_iff .null (Trace.exec (step .null) startOne secureOne)
    (emmInformationOne .zero) .null trivial).mpr (.inr ⟨.inr (.inl rfl), ?_⟩)
  show integrityCheck _ _ _ _ = true
  decide

theorem not_integrityEnforced_secureOne
    : (Trace.exec (step .null) startOne secureOne).haveCtxt = true
        ∧
      ¬(Trace.exec (step .null) startOne secureOne).IntegrityEnforced .null
        (emmInformationOne ⟨[1, 1, 1, 1], rfl⟩) .null := by
  refine ⟨rfl, fun h => ?_⟩
  have hmac : integrityCheck .null (Trace.exec (step .null) startOne secureOne) ⟨[1, 1, 1, 1], rfl⟩ [1] = true :=
    (h.1 (guarded_ne_of_rxCount rfl)).2
  exact absurd hmac (by decide)

end UeNas

end SrsLte
