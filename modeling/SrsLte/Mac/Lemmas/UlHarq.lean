import SrsLte.Mac.Impl.Harq

/-!
This module contains the theory of the uplink HARQ processes.
-/

namespace SrsLte

open Trace

structure UlBlock (π : Type) where
  ptr : π
  tbs : Int
  limit : Nat
  sent : Nat

namespace UlBlock

variable {π : Type} (params : UlHarqParams)

def limitOf (call : UlHarqCall π) (grant : UlGrant) : Nat :=
  if grant.isFromRar ∧ call.msg3IsPending then params.maxHarqMsg3Tx else params.maxHarqTx

def answer (call : UlHarqCall π) (request : MuxRequest) : Option π :=
  match request with
  | .msg3Get _ => call.msg3Get
  | .pduGet _ _ _ => call.pduGet

def requested (b : Option (UlBlock π)) (r : UlHarqEvent π × UlHarqOut π) : Option (UlBlock π) :=
  match r with
  | (.runTti call, out) =>
    match call.grant, out.request with
    | some grant, some request =>
      (answer call request).map fun ptr =>
        { ptr, tbs := grant.phyGrant.tbs, limit := limitOf params call grant, sent := 0 }
    | _, _ => b
  | _ => b

def Transmits (r : UlHarqEvent π × UlHarqOut π) : Prop :=
  match r with
  | (.runTti call, out) =>
    out.action.txEnabled ∧ ∀ grant, call.grant = some grant → ¬ UlHarqProcess.isCqiOnly grant
  | _ => False

instance (r : UlHarqEvent π × UlHarqOut π) : Decidable (Transmits r) :=
  match r with
  | (.runTti call, out) =>
    match hgrant : call.grant with
    | some grant =>
      decidable_of_iff (out.action.txEnabled ∧ ¬ UlHarqProcess.isCqiOnly grant) <| by
        simp only [Transmits, hgrant, Option.some.injEq, forall_eq']
    | none => decidable_of_iff (out.action.txEnabled = true) (by simp [Transmits, hgrant])
  | (.reset, _) => isFalse id
  | (.resetNdi, _) => isFalse id

theorem requested_of_eq_none {call : UlHarqCall π} {out : UlHarqOut π} (h : out.request = none) (b : Option (UlBlock π))
    : requested params b (.runTti call, out) = b := by
  unfold requested
  cases hgrant : call.grant with
  | none => simp only [hgrant]
  | some grant => simp only [hgrant, h]

theorem requested_of_eq_some {call : UlHarqCall π} {out : UlHarqOut π} {grant : UlGrant}
    {request : MuxRequest} (hgrant : call.grant = some grant) (h : out.request = some request)
    (b : Option (UlBlock π))
    : requested params b (.runTti call, out)
        =
      (answer call request).map fun ptr =>
        { ptr, tbs := grant.phyGrant.tbs, limit := limitOf params call grant, sent := 0 } := by
  unfold requested
  simp only [hgrant, h]

def next (b : Option (UlBlock π)) (r : UlHarqEvent π × UlHarqOut π) : Option (UlBlock π) :=
  if Transmits r then
    (requested params b r).map fun b => { b with sent := b.sent + 1 }
  else
    requested params b r

def Allows (b : Option (UlBlock π)) (r : UlHarqEvent π × UlHarqOut π) : Prop :=
  Transmits r →
    ∃ block, requested params b r = some block ∧ r.2.action.payloadPtr = some block.ptr ∧
      block.sent < block.limit

end UlBlock

namespace UlHarqProcess

variable {π : Type} {params : UlHarqParams}

def Tracks (params : UlHarqParams) (s : UlHarqProcess π) (b : Option (UlBlock π)) : Prop :=
  s.hasGrant →
    ∃ block, b = some block ∧ s.pduPtr = some block.ptr ∧ s.currentTxNb = block.sent ∧
      block.limit = maxRetx params s.isMsg3

inductive Runs (params : UlHarqParams) (call : UlHarqCall π) (s : UlHarqProcess π)
    : UlHarqProcess π → UlHarqOut π → Prop
  | quiet {s' : UlHarqProcess π} {out : UlHarqOut π}
      (hs' : s'.hasGrant → s' = { s with harqFeedback := s'.harqFeedback })
      (hrequest : out.request = none) (htx : ¬ UlBlock.Transmits (.runTti call, out))
      : Runs params call s s' out
  | failed {s' : UlHarqProcess π} {out : UlHarqOut π} {grant : UlGrant} {request : MuxRequest}
      (hs' : s'.hasGrant = false) (hgrant : call.grant = some grant) (hrequest : out.request = some request)
      (hanswer : UlBlock.answer call request = none) (htx : ¬ UlBlock.Transmits (.runTti call, out))
      : Runs params call s s' out
  | new {s' : UlHarqProcess π} {out : UlHarqOut π} {grant : UlGrant} {request : MuxRequest} {ptr : π}
      (hgrant : call.grant = some grant) (hrequest : out.request = some request)
      (hanswer : UlBlock.answer call request = some ptr) (htx : UlBlock.Transmits (.runTti call, out))
      (hpayload : out.action.payloadPtr = some ptr) (hptr : s'.pduPtr = some ptr) (hnb : s'.currentTxNb = 1)
      (hlimit : UlBlock.limitOf params call grant = maxRetx params s'.isMsg3)
      : Runs params call s s' out
  | retx {s' : UlHarqProcess π} {out : UlHarqOut π} (hs : s.hasGrant) (hrequest : out.request = none)
      (htx : UlBlock.Transmits (.runTti call, out)) (hpayload : out.action.payloadPtr = s.pduPtr)
      (hlt : s.currentTxNb < maxRetx params s.isMsg3) (hptr : s'.pduPtr = s.pduPtr)
      (hnb : s'.currentTxNb = s.currentTxNb + 1) (hmsg3 : s'.isMsg3 = s.isMsg3)
      : Runs params call s s' out

theorem hasGrant_reset (s : UlHarqProcess π) : s.reset.hasGrant = false := rfl

theorem not_transmits_default (call : UlHarqCall π) : ¬ UlBlock.Transmits (.runTti call, ({} : UlHarqOut π)) :=
  fun h => Bool.noConfusion h.1

theorem Runs.of_reset {call : UlHarqCall π} {s s' : UlHarqProcess π} {out : UlHarqOut π}
    (hs' : s'.hasGrant = false) (hout : out = {})
    : Runs params call s s' out := by
  subst hout
  apply Runs.quiet
  . intro h
    rw [hs'] at h
    cases h
  . rfl
  . exact not_transmits_default call

theorem Runs.of_received {call : UlHarqCall π} {s r s' : UlHarqProcess π} {out : UlHarqOut π}
    (hr : r.hasGrant → r = { s with harqFeedback := r.harqFeedback }) (h : Runs params call r s' out)
    : Runs params call s s' out := by
  cases h with
  | quiet hs' hrequest htx =>
    apply Runs.quiet
    . intro hgrant
      have hs' := hs' hgrant
      have hrgrant : r.hasGrant = true := by
        rw [hs'] at hgrant
        exact hgrant
      rw [hs', hr hrgrant]
    . exact hrequest
    . exact htx
  | failed hs' hgrant hrequest hanswer htx => exact Runs.failed hs' hgrant hrequest hanswer htx
  | new hgrant hrequest hanswer htx hpayload hptr hnb hlimit =>
    exact Runs.new hgrant hrequest hanswer htx hpayload hptr hnb hlimit
  | retx hrgrant hrequest htx hpayload hlt hptr hnb hmsg3 =>
    have hr := hr hrgrant
    rw [hr] at hrgrant hpayload hlt hptr hnb hmsg3
    exact Runs.retx hrgrant hrequest htx hpayload hlt hptr hnb hmsg3

theorem eq_of_hasGrant_resetIfChanged (s : UlHarqProcess π) (grant : Option UlGrant)
    (h : (s.resetIfChanged grant).hasGrant)
    : s.resetIfChanged grant = s := by
  unfold resetIfChanged at h ⊢
  cases grant with
  | none => rfl
  | some grant =>
    dsimp only at h ⊢
    split
    next hchanged =>
      rw [if_pos hchanged, hasGrant_reset] at h
      cases h
    next => rfl

theorem runs_generateRetx {call : UlHarqCall π} {s : UlHarqProcess π} (hs : s.hasGrant)
    (hcqi : ∀ grant, call.grant = some grant → ¬ isCqiOnly grant) (grant : Option UlGrant)
    : Runs params call s (generateRetx params call grant s).1 (generateRetx params call grant s).2 := by
  unfold generateRetx
  split
  next hmax => exact Runs.of_reset (hasGrant_reset s) rfl
  next hmax =>
    have hlt := Nat.lt_of_not_ge hmax
    cases grant with
    | some grant => exact Runs.retx hs rfl ⟨rfl, hcqi⟩ rfl hlt rfl rfl rfl
    | none =>
      unfold retransmit
      dsimp only
      split
      next => exact Runs.retx hs rfl ⟨rfl, hcqi⟩ rfl hlt rfl rfl rfl
      next =>
        apply Runs.quiet
        . intro _
          rfl
        . rfl
        . rintro ⟨htx, _⟩
          cases htx

variable {grant : UlGrant}

theorem runs_newTransmission {call : UlHarqCall π} (hgrant : call.grant = some grant)
    (hcqi : ¬ isCqiOnly grant) (s : UlHarqProcess π)
    : Runs params call s (newTransmission call grant s).1 (newTransmission call grant s).2 := by
  have hcqi : ∀ grant, call.grant = some grant → ¬ isCqiOnly grant := by
    intro grant' hgrant'
    rw [hgrant] at hgrant'
    cases hgrant'
    exact hcqi
  unfold newTransmission
  dsimp only
  split
  next hmsg3 =>
    cases hanswer : call.msg3Get with
    | none => exact Runs.failed rfl hgrant rfl hanswer (fun h => Bool.noConfusion h.1)
    | some ptr =>
      have hanswer : UlBlock.answer call (.msg3Get (grant.nBytes 0)) = some ptr := hanswer
      apply Runs.new hgrant rfl hanswer ⟨rfl, hcqi⟩ rfl rfl rfl
      exact if_pos hmsg3
  next hmsg3 =>
    cases hanswer : call.pduGet with
    | none => exact Runs.failed rfl hgrant rfl hanswer (fun h => Bool.noConfusion h.1)
    | some ptr =>
      have hanswer : UlBlock.answer call (.pduGet (grant.nBytes 0) call.ttiTx s.pid) = some ptr := hanswer
      have hnBytes : (if grant.isFromRar then { grant with rnti := call.crnti } else grant).nBytes = grant.nBytes := by
        split
        next => rfl
        next => rfl
      rw [hnBytes]
      apply Runs.new hgrant rfl hanswer ⟨rfl, hcqi⟩ rfl rfl rfl
      exact if_neg hmsg3

theorem runs_route (call : UlHarqCall π) (s : UlHarqProcess π)
    : Runs params call s (route params call s).1 (route params call s).2 := by
  have hquiet : ∀ out : UlHarqOut π, out.request = none → ¬ UlBlock.Transmits (.runTti call, out) →
      Runs params call s s out := fun out => Runs.quiet (fun _ => rfl)
  unfold route
  split
  next grant hgrant =>
    split
    next hcqi =>
      apply hquiet
      . rfl
      . intro htx
        exact htx.2 grant hgrant hcqi
    next hcqi =>
      split
      next => exact runs_newTransmission hgrant hcqi s
      next =>
        split
        next hs =>
          apply runs_generateRetx hs
          intro grant' hgrant'
          rw [hgrant] at hgrant'
          cases hgrant'
          exact hcqi
        next => exact hquiet _ rfl (not_transmits_default call)
  next hgrant =>
    split
    next hs =>
      apply runs_generateRetx hs
      intro grant hgrant'
      rw [hgrant] at hgrant'
      cases hgrant'
    next => exact hquiet _ rfl (not_transmits_default call)

theorem runs_runTti (call : UlHarqCall π) (s : UlHarqProcess π)
    : Runs params call s (runTti params call s).1 (runTti params call s).2 := by
  apply Runs.of_received _ (runs_route call _)
  intro hgrant
  rw [eq_of_hasGrant_resetIfChanged _ _ hgrant]

theorem Runs.tracks {call : UlHarqCall π} {s s' : UlHarqProcess π} {out : UlHarqOut π}
    {b : Option (UlBlock π)} (h : Runs params call s s' out) (hs : Tracks params s b)
    : Tracks params s' (UlBlock.next params b (.runTti call, out)) := by
  intro hs'
  unfold UlBlock.next
  cases h with
  | quiet heq hrequest htx =>
    have heq := heq hs'
    rw [if_neg htx]
    rw [heq] at hs'
    have ⟨block, hb, hptr, hnb, hlimit⟩ := hs hs'
    refine ⟨block, ?_, ?_, ?_, ?_⟩
    . rw [UlBlock.requested_of_eq_none params hrequest, hb]
    all_goals
      rw [heq]
      assumption
  | failed hgrant' _ _ _ _ =>
    rw [hgrant'] at hs'
    cases hs'
  | new hgrant hrequest hanswer htx hpayload hptr hnb hlimit =>
    rw [if_pos htx]
    rw [UlBlock.requested_of_eq_some params hgrant hrequest, hanswer, Option.map_some]
    exact ⟨_, rfl, hptr, hnb, hlimit⟩
  | retx hgrant hrequest htx hpayload hlt hptr hnb hmsg3 =>
    have ⟨block, hb, hptr', hnb', hlimit⟩ := hs hgrant
    rw [if_pos htx]
    refine ⟨{ block with sent := block.sent + 1 }, ?_, ?_, ?_, ?_⟩
    . rw [UlBlock.requested_of_eq_none params hrequest, hb, Option.map_some]
    . rw [hptr, hptr']
    . rw [hnb, hnb']
    . rw [hmsg3, ← hlimit]

theorem Runs.allows {call : UlHarqCall π} {s s' : UlHarqProcess π} {out : UlHarqOut π}
    {b : Option (UlBlock π)} (htx : 1 ≤ params.maxHarqTx) (hmsg3 : 1 ≤ params.maxHarqMsg3Tx)
    (h : Runs params call s s' out) (hs : Tracks params s b)
    : UlBlock.Allows params b (.runTti call, out) := by
  intro htransmits
  cases h with
  | quiet _ _ hquiet => exact absurd htransmits hquiet
  | failed _ _ _ _ hquiet => exact absurd htransmits hquiet
  | new hgrant hrequest hanswer _ hpayload _ _ _ =>
    rw [UlBlock.requested_of_eq_some params hgrant hrequest, hanswer, Option.map_some]
    refine ⟨_, rfl, hpayload, ?_⟩
    unfold UlBlock.limitOf
    split
    next => exact hmsg3
    next => exact htx
  | retx hgrant hrequest _ hpayload hlt _ _ _ =>
    have ⟨block, hb, hptr, hnb, hlimit⟩ := hs hgrant
    refine ⟨block, ?_, ?_, ?_⟩
    . rw [UlBlock.requested_of_eq_none params hrequest, hb]
    . rw [hpayload, hptr]
    . rw [hlimit, ← hnb]
      exact hlt

theorem tracks_step (s : UlHarqProcess π) (b : Option (UlBlock π)) (e : UlHarqEvent π) (h : Tracks params s b)
    : Tracks params (step params s e) (UlBlock.next params b (record params s e)) := by
  cases e with
  | runTti call => exact (runs_runTti call s).tracks h
  | reset => exact fun hs => Bool.noConfusion hs
  | resetNdi => exact h

theorem tracks_init (pid : Nat) (payloadBuffer : π) (b : Option (UlBlock π))
    : Tracks params (init pid payloadBuffer) b :=
  fun h => Bool.noConfusion h

def crntiGrant (ndi : Bool) (nBytes : Nat) : UlGrant :=
  { UlGrant.zero with ndi := fun _ => ndi, nBytes := fun _ => nBytes, phyGrant := { tbs := 8 * nBytes } }

def crntiCall (grant : Option UlGrant) (ack : Option Bool) : UlHarqCall Nat :=
  {
    ttiTx := 0,
    grant,
    ack,
    crnti := 0,
    tempRnti := 0,
    msg3IsPending := false,
    msg3Get := none,
    pduGet := some 1,
    memory := fun _ => 0
  }

theorem accepts_outputs (htx : 1 ≤ params.maxHarqTx) (hmsg3 : 1 ≤ params.maxHarqMsg3Tx) (pid : Nat)
    (payloadBuffer : π) (es : List (UlHarqEvent π))
    : Accepts (UlBlock.next params) (UlBlock.Allows params) none
        (outputs (step params) (record params) (init pid payloadBuffer) es) := by
  apply accepts_of_simulation (R := Tracks params) _ tracks_step es (tracks_init pid payloadBuffer none)
  intro s b e h
  cases e with
  | runTti call => exact (runs_runTti call s).allows htx hmsg3 h
  | reset => exact fun htransmits => htransmits.elim
  | resetNdi => exact fun htransmits => htransmits.elim

theorem accepts_outputs_retx
    : Accepts (UlBlock.next ⟨2, 1⟩) (UlBlock.Allows ⟨2, 1⟩) none
        (outputs (step ⟨2, 1⟩) (record ⟨2, 1⟩) (init 0 0)
          [.runTti (crntiCall (some (crntiGrant false 10)) none), .runTti (crntiCall none (some false)),
            .runTti (crntiCall none (some false))]) :=
  accepts_outputs (by decide) (by decide) 0 0 _

def blockAfter (params : UlHarqParams) (pid : Nat) (payloadBuffer : π) (es : List (UlHarqEvent π))
    : Option (UlBlock π) :=
  exec (UlBlock.next params) none (outputs (step params) (record params) (init pid payloadBuffer) es)

theorem tracks_exec (pid : Nat) (payloadBuffer : π) (es : List (UlHarqEvent π))
    : Tracks params (exec (step params) (init pid payloadBuffer) es) (blockAfter params pid payloadBuffer es) :=
  exec_simulation tracks_step es (tracks_init pid payloadBuffer none)

structure IsCrntiGrant (grant : UlGrant) : Prop where
  user : grant.rntiType = .user
  notFromRar : grant.isFromRar = false
  tbs_ne : grant.phyGrant.tbs ≠ 0

def IsOtherSize (s : UlHarqProcess π) (grant : UlGrant) : Prop :=
  grant.nBytes 0 ≠ s.curGrant.nBytes 0 ∧ s.curGrant.nBytes 0 > 0 ∧ grant.nBytes 0 > 0

def RequestsNew (grant : UlGrant) (s : UlHarqProcess π) (r : UlHarqEvent π × UlHarqOut π) : Prop :=
  ∃ ttiTx, r.2.request = some (.pduGet (grant.nBytes 0) ttiTx s.pid)

def Retransmits (block : UlBlock π) (tbs : Int) (r : UlHarqEvent π × UlHarqOut π) : Prop :=
  r.2.request = none ∧ UlBlock.Transmits r ∧ r.2.action.payloadPtr = some block.ptr ∧
    r.2.action.phyGrant.tbs = tbs

theorem not_isCqiOnly (h : IsCrntiGrant grant) : ¬ isCqiOnly grant :=
  fun hcqi => h.tbs_ne hcqi.2

theorem requestsNew_newTransmission {call : UlHarqCall π} (h : IsCrntiGrant grant) (s : UlHarqProcess π)
    : (newTransmission call grant s).2.request = some (.pduGet (grant.nBytes 0) call.ttiTx s.pid) := by
  unfold newTransmission
  rw [h.notFromRar]
  cases call.pduGet with
  | none => simp [reset]
  | some ptr => simp [reset, generateNewTx, generateTx]

theorem requestsNew_runTti {call : UlHarqCall π} {s : UlHarqProcess π}
    (hcall : call.grant = some grant) (h : IsCrntiGrant grant) (hndi : grant.ndi 0 ≠ s.getNdi)
    (hack : s.feedback call.grant call.ack = true)
    : RequestsNew grant s (record params s (.runTti call)) := by
  have hnew : ∀ r : UlHarqProcess π, r.pid = s.pid → r.isNewTransmission grant →
      (route params call r).2.request = some (.pduGet (grant.nBytes 0) call.ttiTx s.pid) := by
    intro r hpid hr
    unfold route
    rw [hcall]
    dsimp only
    rw [if_neg (not_isCqiOnly h), if_pos hr, requestsNew_newTransmission h, hpid]
  refine ⟨call.ttiTx, ?_⟩
  apply hnew
  . unfold resetIfChanged
    rw [hcall]
    dsimp only
    split
    next => rfl
    next => rfl
  . unfold resetIfChanged
    rw [hcall] at hack ⊢
    dsimp only
    split
    next =>
      -- The reset leaves a process without a grant
      exact Or.inr (Or.inl ⟨h.user, Bool.noConfusion⟩)
    next => exact Or.inl ⟨by rw [h.user]; decide, hndi, hack⟩

theorem runTti_eq_generateRetx {call : UlHarqCall π} {s : UlHarqProcess π} (hs : s.hasGrant)
    (hcall : call.grant = some grant) (h : IsCrntiGrant grant)
    (hnew : ¬ (grant.ndi 0 ≠ s.getNdi ∧ s.feedback call.grant call.ack = true))
    (hsize : ¬ (s.feedback call.grant call.ack = true ∧ s.IsOtherSize grant))
    : runTti params call s
        =
      generateRetx params call (some grant) { s with harqFeedback := s.feedback call.grant call.ack } := by
  have hchanged : ({ s with harqFeedback := s.feedback call.grant call.ack } : UlHarqProcess π).resetIfChanged call.grant
      = { s with harqFeedback := s.feedback call.grant call.ack } := by
    unfold resetIfChanged
    rw [hcall] at hsize ⊢
    apply if_neg
    rintro ⟨hack, _, hother⟩
    exact hsize ⟨hack, hother⟩
  unfold runTti
  dsimp only
  rw [hchanged]
  unfold route
  rw [hcall] at hnew ⊢
  dsimp only
  have hold : ¬ ({ s with harqFeedback := s.feedback (some grant) call.ack } : UlHarqProcess π).isNewTransmission grant := by
    rintro (⟨_, hndi, hack⟩ | ⟨_, hno⟩ | hrar)
    . exact hnew ⟨hndi, hack⟩
    . exact hno hs
    . rw [h.notFromRar] at hrar
      cases hrar
  rw [if_neg (not_isCqiOnly h), if_neg hold]
  exact if_pos hs

theorem retransmits_runTti {call : UlHarqCall π} {s : UlHarqProcess π} {block : UlBlock π}
    (hs : s.hasGrant) (hptr : s.pduPtr = some block.ptr) (hcall : call.grant = some grant)
    (h : IsCrntiGrant grant)
    (hnew : ¬ (grant.ndi 0 ≠ s.getNdi ∧ s.feedback call.grant call.ack = true))
    (hsize : ¬ (s.feedback call.grant call.ack = true ∧ s.IsOtherSize grant))
    (hleft : s.currentTxNb < maxRetx params s.isMsg3)
    : Retransmits block grant.phyGrant.tbs (record params s (.runTti call)) := by
  unfold record handle
  dsimp only
  rw [runTti_eq_generateRetx hs hcall h hnew hsize]
  unfold generateRetx
  rw [if_neg (Nat.not_le_of_lt hleft)]
  refine ⟨rfl, ⟨rfl, ?_⟩, hptr, rfl⟩
  intro grant' hgrant'
  rw [hcall] at hgrant'
  cases hgrant'
  exact not_isCqiOnly h

def NewDataRule (params : UlHarqParams) (s : UlHarqProcess π) (b : Option (UlBlock π)) (call : UlHarqCall π)
    (grant : UlGrant)
    : Prop :=
  (grant.ndi 0 ≠ s.getNdi → RequestsNew grant s (record params s (.runTti call))) ∧
    (grant.ndi 0 = s.getNdi →
      ∃ block, b = some block ∧ Retransmits block block.tbs (record params s (.runTti call)))

theorem newDataRule_of_feedback (params : UlHarqParams) (pid : Nat) (payloadBuffer : π)
    (es : List (UlHarqEvent π)) (call : UlHarqCall π) (grant : UlGrant) (hcall : call.grant = some grant)
    (h : IsCrntiGrant grant)
    (hs : (exec (step params) (init pid payloadBuffer) es).hasGrant)
    : let s := exec (step params) (init pid payloadBuffer) es
      ∃ block, blockAfter params pid payloadBuffer es = some block ∧
        (grant.ndi 0 ≠ s.getNdi → s.feedback call.grant call.ack = true →
          RequestsNew grant s (record params s (.runTti call))) ∧
        (grant.ndi 0 ≠ s.getNdi → s.feedback call.grant call.ack = false →
          s.currentTxNb < maxRetx params s.isMsg3 →
          Retransmits block grant.phyGrant.tbs (record params s (.runTti call))) ∧
        (grant.ndi 0 = s.getNdi → s.currentTxNb < maxRetx params s.isMsg3 → grant.phyGrant.tbs = block.tbs →
          ¬ (s.feedback call.grant call.ack = true ∧ s.IsOtherSize grant) →
          Retransmits block block.tbs (record params s (.runTti call))) := by
  intro s
  have ⟨block, hb, hptr, _, _⟩ := tracks_exec pid payloadBuffer es hs
  refine ⟨block, hb, ?_, ?_, ?_⟩
  . intro hndi hack
    exact requestsNew_runTti hcall h hndi hack
  . intro _ hnack hleft
    apply retransmits_runTti hs hptr hcall h _ _ hleft
    . rintro ⟨_, hack⟩
      rw [hnack] at hack
      cases hack
    . rintro ⟨hack, _⟩
      rw [hnack] at hack
      cases hack
  . intro hndi hleft htbs hsize
    rw [← htbs]
    exact retransmits_runTti hs hptr hcall h (fun hne => hne.1 hndi) hsize hleft

theorem newDataRule_of_feedback_smallGrant
    : (exec (step ⟨4, 4⟩) (init 0 0) [.runTti (crntiCall (some (crntiGrant false 10)) none)]).hasGrant ∧
      IsCrntiGrant (crntiGrant false 10) ∧
      Retransmits { ptr := 1, tbs := 80, limit := 4, sent := 1 } 80
        (record ⟨4, 4⟩ (exec (step ⟨4, 4⟩) (init 0 0) [.runTti (crntiCall (some (crntiGrant false 10)) none)])
          (.runTti (crntiCall (some (crntiGrant false 10)) none))) := by
  have hgrant : IsCrntiGrant (crntiGrant false 10) := ⟨rfl, rfl, by decide⟩
  refine ⟨rfl, hgrant, ?_⟩
  have ⟨block, hb, _, _, hretx⟩ := newDataRule_of_feedback ⟨4, 4⟩ 0 0
    [.runTti (crntiCall (some (crntiGrant false 10)) none)] (crntiCall (some (crntiGrant false 10)) none)
    (crntiGrant false 10) rfl hgrant rfl
  cases hb
  exact hretx rfl (by decide) rfl (fun h => Bool.noConfusion h.1)

theorem not_newDataRule
    : let es : List (UlHarqEvent Nat) := [.runTti (crntiCall (some (crntiGrant false 10)) none)]
      let acked := es ++ [.runTti (crntiCall none (some true))]
      ¬ NewDataRule ⟨4, 4⟩ (exec (step ⟨4, 4⟩) (init 0 0) es) (blockAfter ⟨4, 4⟩ 0 0 es)
          (crntiCall (some (crntiGrant true 10)) none) (crntiGrant true 10) ∧
        ¬ NewDataRule ⟨4, 4⟩ (exec (step ⟨4, 4⟩) (init 0 0) es) (blockAfter ⟨4, 4⟩ 0 0 es)
          (crntiCall (some (crntiGrant false 20)) none) (crntiGrant false 20) ∧
        ¬ NewDataRule ⟨4, 4⟩ (exec (step ⟨4, 4⟩) (init 0 0) acked) (blockAfter ⟨4, 4⟩ 0 0 acked)
          (crntiCall (some (crntiGrant false 20)) none) (crntiGrant false 20) ∧
        ¬ NewDataRule ⟨1, 1⟩ (exec (step ⟨1, 1⟩) (init 0 0) es) (blockAfter ⟨1, 1⟩ 0 0 es)
          (crntiCall (some (crntiGrant false 10)) none) (crntiGrant false 10) := by
  refine ⟨?_, ?_, ?_, ?_⟩
  . rintro ⟨hnew, _⟩
    obtain ⟨_, hrequest⟩ := hnew (by decide)
    cases hrequest
  . rintro ⟨_, hold⟩
    obtain ⟨block, hb, _, _, _, htbs⟩ := hold rfl
    cases hb
    cases htbs
  . rintro ⟨_, hold⟩
    obtain ⟨block, _, hrequest, _⟩ := hold rfl
    cases hrequest
  . rintro ⟨_, hold⟩
    obtain ⟨block, _, _, htx, _⟩ := hold rfl
    cases htx.1

end UlHarqProcess

end SrsLte
