import Mathlib.Data.Option.Basic
import SrsLte.Epc.Impl.Mme
import SrsLte.Epc.Lemmas.Hss

/-!
This module contains what the procedures of the MME that serve a bearer do.
-/

namespace SrsLte

open Option (bind_eq_some_iff)

structure UeCtx.Quiet (ueCtx ueCtx' : UeCtx) : Prop where
  imsi : ueCtx'.emmCtx.imsi = ueCtx.emmCtx.imsi
  state : ueCtx'.emmCtx.state = ueCtx.emmCtx.state
  securityCtxt : ueCtx'.emmCtx.securityCtxt
    = { ueCtx.emmCtx.securityCtxt with dlNasCount := ueCtx'.emmCtx.securityCtxt.dlNasCount }
  mmeUeS1apId : ueCtx'.ecmCtx.mmeUeS1apId = ueCtx.ecmCtx.mmeUeS1apId
  enbSri : ueCtx'.ecmCtx.enbSri = ueCtx.ecmCtx.enbSri
  history : ueCtx'.history = ueCtx.history

namespace UeCtx.Quiet

theorem refl (ueCtx : UeCtx) : ueCtx.Quiet ueCtx :=
  ⟨rfl, rfl, rfl, rfl, rfl, rfl⟩

theorem trans {ueCtx₁ ueCtx₂ ueCtx₃ : UeCtx} (h₁ : ueCtx₁.Quiet ueCtx₂) (h₂ : ueCtx₂.Quiet ueCtx₃)
    : ueCtx₁.Quiet ueCtx₃ where
  imsi := h₂.imsi.trans h₁.imsi
  state := h₂.state.trans h₁.state
  securityCtxt := by rw [h₂.securityCtxt, h₁.securityCtxt]
  mmeUeS1apId := h₂.mmeUeS1apId.trans h₁.mmeUeS1apId
  enbSri := h₂.enbSri.trans h₁.enbSri
  history := h₂.history.trans h₁.history

theorem incrementDlNasCount (ueCtx : UeCtx) : ueCtx.Quiet ueCtx.incrementDlNasCount :=
  ⟨rfl, rfl, rfl, rfl, rfl, rfl⟩

theorem updateErab (erabId : Nat) (f : ErabCtx → ErabCtx) (ueCtx : UeCtx) : ueCtx.Quiet (ueCtx.updateErab erabId f) :=
  ⟨rfl, rfl, rfl, rfl, rfl, rfl⟩

theorem deactivateErabs (ueCtx : UeCtx) : ueCtx.Quiet ueCtx.deactivateErabs :=
  ⟨rfl, rfl, rfl, rfl, rfl, rfl⟩

end UeCtx.Quiet

def UeCtx.null : UeCtx where
  emmCtx := {
    imsi := 0
    securityCtxt := {
      eksi := 0
      kAsme := 0
      xres := 0
      dlNasCount := 0
      ulNasCount := 0
      kNasEnc := 0
      kNasInt := 0
      kEnb := 0
      ueNetworkCap := ⟨fun _ => false, fun _ => false⟩
    }
    state := .deregistered
    attachType := 0
  }
  ecmCtx := {
    imsi := 0
    enbUeS1apId := 0
    mmeUeS1apId := 0
    enbSri := 0
    state := .idle
    erabsCtx := fun _ => ⟨.deactivated, ⟨0, 0⟩, 0⟩
    eit := false
  }

def MmeEnv.null : MmeEnv where
  rand := 0
  stackUeCtx := .null
  stackResponse := ⟨0, 0⟩
  sctpSend := true

theorem MmeGtpc.findUeCtx_of_handleCreateSessionResponse {findUeCtx : Nat → Bool} {gtpc : MmeGtpc}
    {response : CreateSessionResponse} {imsi : Nat}
    (h : (gtpc.handleCreateSessionResponse findUeCtx response).2 = some imsi)
    : findUeCtx imsi = true := by
  unfold handleCreateSessionResponse at h
  split at h
  . cases h
  . split at h
    . next hfind =>
      split at h <;> cases h
      exact hfind
    . cases h

namespace Mme

variable {mme mme' : Mme} {ptr : Nat} {f : UeCtx → UeCtx} {ueCtx : UeCtx}

theorem updateUeCtx_eq_some
    : mme.updateUeCtx ptr f = some mme'
        ↔
      ∃ ueCtx, mme.ueCtxs.lookup ptr = some ueCtx ∧ mme' = { mme with ueCtxs := mme.ueCtxs.insert ptr (f ueCtx) } := by
  unfold updateUeCtx
  cases mme.ueCtxs.lookup ptr with
  | none => simp
  | some ueCtx => simp [eq_comm]

theorem lookup_updateUeCtx (h : mme.updateUeCtx ptr f = some mme') (hctx : mme.ueCtxs.lookup ptr = some ueCtx)
    : mme'.ueCtxs.lookup ptr = some (f ueCtx) := by
  obtain ⟨ueCtx', hctx', rfl⟩ := updateUeCtx_eq_some.mp h
  cases hctx.symm.trans hctx'
  exact Finmap.lookup_insert _

theorem ueCtxs_addUeCtxToImsiMap (h : mme.addUeCtxToImsiMap ptr = some mme')
    : mme'.ueCtxs = mme.ueCtxs := by
  unfold addUeCtxToImsiMap at h
  have ⟨ueCtx, _, h⟩ := bind_eq_some_iff.mp h
  split at h
  . cases h
    rfl
  . split at h <;> cases h <;> rfl

theorem ueCtxs_addUeCtxToMmeUeS1apIdMap (h : mme.addUeCtxToMmeUeS1apIdMap ptr = some mme')
    : mme'.ueCtxs = mme.ueCtxs := by
  unfold addUeCtxToMmeUeS1apIdMap at h
  have ⟨ueCtx, _, h⟩ := bind_eq_some_iff.mp h
  split at h <;> cases h <;> rfl

@[simp]
theorem ueCtxs_addUeToEnbSet (mme : Mme) (enbSri mmeUeS1apId : Nat)
    : (mme.addUeToEnbSet enbSri mmeUeS1apId).ueCtxs = mme.ueCtxs := by
  unfold addUeToEnbSet
  split
  . rfl
  . split <;> rfl

theorem lookup_genAuthInfoAnswer {alg : NasAlgorithms} {imsi : Nat} {eksi : Nat → Nat}
    {env : MmeEnv} {vector : Option AuthVector}
    (h : mme.genAuthInfoAnswer alg ptr imsi eksi env = some (mme', vector))
    (hctx : mme.ueCtxs.lookup ptr = some ueCtx)
    : mme'.ueCtxs.lookup ptr = some (vector.elim ueCtx fun vector => ueCtx.setVector imsi vector eksi) := by
  unfold genAuthInfoAnswer at h
  dsimp only at h
  split at h
  . cases h
    exact hctx
  . next vector' _ =>
    have ⟨mme₁, hupdate, h⟩ := bind_eq_some_iff.mp h
    cases h
    exact lookup_updateUeCtx hupdate hctx

structure Quiet (mme mme' : Mme) : Prop where
  ueCtxs : ∀ ptr, Option.Rel UeCtx.Quiet (mme.ueCtxs.lookup ptr) (mme'.ueCtxs.lookup ptr)
  nextUeCtx : mme'.nextUeCtx = mme.nextUeCtx
  imsiToUeCtx : mme'.imsiToUeCtx = mme.imsiToUeCtx
  mmeUeS1apIdToUeCtx : mme'.mmeUeS1apIdToUeCtx = mme.mmeUeS1apIdToUeCtx
  enbAssocToUeIds : mme'.enbAssocToUeIds = mme.enbAssocToUeIds
  sctpToEnbId : mme'.sctpToEnbId = mme.sctpToEnbId
  nextMmeUeS1apId : mme'.nextMmeUeS1apId = mme.nextMmeUeS1apId
  hss : mme'.hss = mme.hss

namespace Quiet

variable {mme mme' mme₁ mme₂ mme₃ : Mme}

theorem of_ueCtxs_eq (hctxs : mme'.ueCtxs = mme.ueCtxs) (hnext : mme'.nextUeCtx = mme.nextUeCtx)
    (himsi : mme'.imsiToUeCtx = mme.imsiToUeCtx) (hid : mme'.mmeUeS1apIdToUeCtx = mme.mmeUeS1apIdToUeCtx)
    (hset : mme'.enbAssocToUeIds = mme.enbAssocToUeIds) (hsctp : mme'.sctpToEnbId = mme.sctpToEnbId)
    (hnextId : mme'.nextMmeUeS1apId = mme.nextMmeUeS1apId) (hhss : mme'.hss = mme.hss)
    : mme.Quiet mme' where
  ueCtxs := by
    intro ptr
    rw [hctxs]
    cases mme.ueCtxs.lookup ptr with
    | none => exact .none
    | some ueCtx => exact .some (.refl ueCtx)
  nextUeCtx := hnext
  imsiToUeCtx := himsi
  mmeUeS1apIdToUeCtx := hid
  enbAssocToUeIds := hset
  sctpToEnbId := hsctp
  nextMmeUeS1apId := hnextId
  hss := hhss

theorem refl (mme : Mme) : mme.Quiet mme :=
  of_ueCtxs_eq rfl rfl rfl rfl rfl rfl rfl rfl

theorem trans (h₁ : mme₁.Quiet mme₂) (h₂ : mme₂.Quiet mme₃) : mme₁.Quiet mme₃ where
  ueCtxs := by
    intro ptr
    have hrel₁ := h₁.ueCtxs ptr
    have hrel₂ := h₂.ueCtxs ptr
    generalize mme₁.ueCtxs.lookup ptr = ueCtx₁, mme₂.ueCtxs.lookup ptr = ueCtx₂,
      mme₃.ueCtxs.lookup ptr = ueCtx₃ at hrel₁ hrel₂
    cases hrel₁ with
    | none =>
      cases hrel₂
      exact .none
    | some hquiet₁ =>
      cases hrel₂ with
      | some hquiet₂ => exact .some (hquiet₁.trans hquiet₂)
  nextUeCtx := h₂.nextUeCtx.trans h₁.nextUeCtx
  imsiToUeCtx := h₂.imsiToUeCtx.trans h₁.imsiToUeCtx
  mmeUeS1apIdToUeCtx := h₂.mmeUeS1apIdToUeCtx.trans h₁.mmeUeS1apIdToUeCtx
  enbAssocToUeIds := h₂.enbAssocToUeIds.trans h₁.enbAssocToUeIds
  sctpToEnbId := h₂.sctpToEnbId.trans h₁.sctpToEnbId
  nextMmeUeS1apId := h₂.nextMmeUeS1apId.trans h₁.nextMmeUeS1apId
  hss := h₂.hss.trans h₁.hss

theorem of_updateUeCtx {f : UeCtx → UeCtx} (hf : ∀ ueCtx : UeCtx, ueCtx.Quiet (f ueCtx))
    (h : mme.updateUeCtx ptr f = some mme')
    : mme.Quiet mme' := by
  obtain ⟨ueCtx, hctx, rfl⟩ := updateUeCtx_eq_some.mp h
  refine ⟨?_, rfl, rfl, rfl, rfl, rfl, rfl, rfl⟩
  intro ptr'
  dsimp only
  rw [Map.lookup_insert_ite]
  split
  . next heq =>
    rw [heq, hctx]
    exact .some (hf ueCtx)
  . exact (refl mme).ueCtxs ptr'

theorem send (mme : Mme) (enbSri : Nat) (msg : S1apMsg) : mme.Quiet (mme.send enbSri msg) :=
  of_ueCtxs_eq rfl rfl rfl rfl rfl rfl rfl rfl

theorem gtpc (mme : Mme) (gtpc : Gtpc) : mme.Quiet { mme with gtpc } :=
  of_ueCtxs_eq rfl rfl rfl rfl rfl rfl rfl rfl

theorem lookup (h : mme.Quiet mme') (hctx : mme.ueCtxs.lookup ptr = some ueCtx)
    : ∃ ueCtx', mme'.ueCtxs.lookup ptr = some ueCtx' ∧ ueCtx.Quiet ueCtx' := by
  have hrel := h.ueCtxs ptr
  rw [hctx] at hrel
  generalize mme'.ueCtxs.lookup ptr = ueCtx'? at hrel
  cases hrel with
  | some hquiet => exact ⟨_, rfl, hquiet⟩

theorem lookup' (h : mme.Quiet mme') {ueCtx' : UeCtx} (hctx : mme'.ueCtxs.lookup ptr = some ueCtx')
    : ∃ ueCtx, mme.ueCtxs.lookup ptr = some ueCtx ∧ ueCtx.Quiet ueCtx' := by
  have hrel := h.ueCtxs ptr
  rw [hctx] at hrel
  generalize mme.ueCtxs.lookup ptr = ueCtx? at hrel
  cases hrel with
  | some hquiet => exact ⟨_, rfl, hquiet⟩

end Quiet

def Live (mme : Mme) (ptr : Nat) : Prop :=
  ∃ ueCtx, mme.ueCtxs.lookup ptr = some ueCtx

def ImsiLive (mme : Mme) : Prop :=
  ∀ imsi ptr, mme.imsiToUeCtx.lookup imsi = some ptr → mme.Live ptr

theorem Quiet.live (h : mme.Quiet mme') (hlive : mme.Live ptr) : mme'.Live ptr := by
  have ⟨ueCtx, hctx⟩ := hlive
  have ⟨ueCtx', hctx', _⟩ := h.lookup hctx
  exact ⟨ueCtx', hctx'⟩

theorem Quiet.imsiLive (h : mme.Quiet mme') (hlive : mme.ImsiLive) : mme'.ImsiLive := by
  intro imsi ptr hptr
  rw [h.imsiToUeCtx] at hptr
  exact h.live (hlive imsi ptr hptr)

theorem exists_updateUeCtx (hlive : mme.Live ptr) (f : UeCtx → UeCtx) : ∃ mme', mme.updateUeCtx ptr f = some mme' := by
  have ⟨ueCtx, hctx⟩ := hlive
  exact ⟨_, updateUeCtx_eq_some.mpr ⟨ueCtx, hctx, rfl⟩⟩

/--
A procedure that serves a bearer is quiet, and it returns if the pointers that it uses are live.
-/
structure Serves (mme : Mme) (live : Prop) {α : Type} (state : α → Mme) (result : Option α) : Prop where
  quiet : ∀ {a}, result = some a → mme.Quiet (state a)
  returns : live → ∃ a, result = some a

namespace Serves

variable {α β : Type} {state : α → Mme} {t : β → Mme} {live live' : Prop} {result : Option α} {x : Option β}
  {f : β → Option α}

theorem done {a : α} (h : mme.Quiet (state a)) : mme.Serves live state (some a) where
  quiet := by
    rintro _ ⟨⟩
    exact h
  returns := fun _ => ⟨a, rfl⟩

theorem bind (hx : live → ∃ b, x = some b) (hf : ∀ b, x = some b → mme.Serves live state (f b))
    : mme.Serves live state (x.bind f) where
  quiet := by
    intro a h
    obtain ⟨b, hb, h⟩ := bind_eq_some_iff.mp h
    exact (hf b hb).quiet h
  returns := by
    intro hlive
    obtain ⟨b, hb⟩ := hx hlive
    rw [hb]
    exact (hf b hb).returns hlive

theorem andThen (hx : mme.Serves live t x)
    (hf : ∀ b, mme.Quiet (t b) → mme.Serves live state (f b))
    : mme.Serves live state (x.bind f) :=
  bind hx.returns fun b hb => hf b (hx.quiet hb)

theorem after (hquiet : mme.Quiet mme') (h : mme'.Serves live' state result) (hlive : live → live')
    : mme.Serves live state result where
  quiet := fun hresult => hquiet.trans (h.quiet hresult)
  returns := fun hl => h.returns (hlive hl)

end Serves

variable {alg : NasAlgorithms} {env : MmeEnv} {imsi enbSri : Nat} {erabs : List (Nat × GtpFteid)}

theorem serves_updateUeCtx (hf : ∀ ueCtx : UeCtx, ueCtx.Quiet (f ueCtx))
    : mme.Serves (mme.Live ptr) id (mme.updateUeCtx ptr f) where
  quiet := Quiet.of_updateUeCtx hf
  returns := fun hlive => exists_updateUeCtx hlive f

theorem serves_activateEpsBearer {ebi : Nat} : mme.Serves mme.ImsiLive id (mme.activateEpsBearer imsi ebi) := by
  unfold activateEpsBearer
  split
  . exact .done (.refl mme)
  . next ptr hptr =>
    have hlive (himsi : mme.ImsiLive) := himsi imsi ptr hptr
    refine .bind hlive fun ueCtx _ => ?_
    split
    . exact .after (.refl mme) (serves_updateUeCtx fun _ => ⟨rfl, rfl, rfl, rfl, rfl, rfl⟩) hlive
    . exact .done (.refl mme)

theorem serves_packAttachAccept : mme.Serves (mme.Live ptr) Prod.fst (mme.packAttachAccept alg ptr) := by
  refine .bind id fun ueCtx _ => .andThen (t := id) ?_ fun mme₁ hquiet => .done hquiet
  refine .after ?_ (serves_updateUeCtx .incrementDlNasCount) id
  exact .of_ueCtxs_eq rfl rfl rfl rfl rfl rfl rfl rfl

theorem serves_sendInitialContextSetupRequest
    : mme.Serves (mme.Live ptr) id (mme.sendInitialContextSetupRequest alg ptr env) := by
  refine .bind id fun ueCtx _ => .andThen (t := Prod.fst) ?_ ?_
  . split
    . rw [Option.map_eq_bind]
      exact serves_packAttachAccept.andThen fun _ hquiet => .done hquiet
    . exact .done (.refl mme)
  . rintro ⟨mme₁, nasPdu⟩ hquiet
    dsimp only
    split
    . exact .after (hquiet.trans (.send _ _ _)) (serves_updateUeCtx (.updateErab 5 _)) hquiet.live
    . exact .done hquiet

theorem serves_sendCreateSessionRequest : mme.Serves mme.ImsiLive id (mme.sendCreateSessionRequest alg imsi env) := by
  unfold sendCreateSessionRequest
  dsimp only
  split
  . exact .done (.gtpc mme _)
  . next imsi' haccepted =>
    have ⟨ptr, hptr⟩ := Option.isSome_iff_exists.mp (MmeGtpc.findUeCtx_of_handleCreateSessionResponse haccepted)
    have hlive (himsi : mme.ImsiLive) := himsi imsi' ptr hptr
    refine .bind (fun _ => ⟨ptr, hptr⟩) fun ptr' hptr' => ?_
    cases hptr.symm.trans hptr'
    refine .andThen (.after (.gtpc mme _) (serves_updateUeCtx (.updateErab 5 _)) hlive) fun mme₁ hquiet => ?_
    exact .after hquiet serves_sendInitialContextSetupRequest fun himsi => hquiet.live (hlive himsi)

theorem serves_sendModifyBearerRequest {enbFteid : GtpFteid}
    : mme.Serves mme.ImsiLive id (mme.sendModifyBearerRequest imsi enbFteid env) := by
  unfold sendModifyBearerRequest handleModifyBearerResponse
  split
  . exact .done (.refl mme)
  . dsimp only
    split
    . exact .done (.gtpc mme _)
    . exact .after (.gtpc mme _) serves_activateEpsBearer id

theorem serves_setupErabs : mme.Serves (mme.Live ptr) Prod.fst (setupErabs ptr mme erabs) := by
  induction erabs generalizing mme with
  | nil => exact .done (.refl mme)
  | cons erab erabs ih =>
    refine .bind id fun ueCtx _ => ?_
    split
    . exact (serves_updateUeCtx (.updateErab _ _)).andThen fun mme₁ hquiet => .after hquiet ih hquiet.live
    . exact .done (.refl mme)

theorem serves_handleInitialContextSetupResponse {mmeUeS1apId : Nat}
    : mme.Serves (mme.ImsiLive ∧ ∀ ptr, mme.findUeCtxFromMmeUeS1apId mmeUeS1apId = some ptr → mme.Live ptr) id
        (mme.handleInitialContextSetupResponse mmeUeS1apId erabs env) := by
  unfold handleInitialContextSetupResponse
  split
  . exact .done (.refl mme)
  . next ptr hptr =>
    refine .andThen (.after (.refl mme) serves_setupErabs fun hlive => hlive.2 ptr hptr) ?_
    rintro ⟨mme₁, done⟩ hquiet
    refine .bind (fun hlive => hquiet.live (hlive.2 ptr hptr)) fun ueCtx _ => ?_
    split
    . exact .after hquiet serves_sendModifyBearerRequest fun hlive => hquiet.imsiLive hlive.1
    . exact .done hquiet

theorem serves_releaseErabs : mme.Serves (mme.Live ptr) id (mme.releaseErabs ptr ueCtx) := by
  unfold releaseErabs
  split
  . exact .done (.gtpc mme _)
  . exact serves_updateUeCtx .deactivateErabs

theorem serves_packEsmInformationRequest
    : mme.Serves (mme.Live ptr) id (mme.packEsmInformationRequest alg ptr enbSri) :=
  (serves_updateUeCtx .incrementDlNasCount).andThen fun _ hquiet =>
    .bind hquiet.live fun _ _ => .done (hquiet.trans (.send _ _ _))

theorem serves_packEmmInformation : mme.Serves (mme.Live ptr) id (mme.packEmmInformation alg ptr enbSri) :=
  (serves_updateUeCtx .incrementDlNasCount).andThen fun _ hquiet =>
    .bind hquiet.live fun _ _ => .done (hquiet.trans (.send _ _ _))

theorem serves_establishSession
    : mme.Serves (mme.ImsiLive ∧ mme.Live ptr) id (mme.establishSession alg ptr enbSri env) := by
  refine .bind And.right fun ueCtx _ => ?_
  split
  . exact .after (.refl mme) serves_packEsmInformationRequest And.right
  . exact .after (.refl mme) serves_sendCreateSessionRequest And.left

theorem serves_packAuthenticationRequest {vector : AuthVector}
    : mme.Serves (mme.Live ptr) id (mme.packAuthenticationRequest alg ptr enbSri vector) :=
  .bind id fun _ _ => .done (.send _ _ _)

/-- A run of an MME whose HSS knows the subscriber of `Hss.lastSqn`, and the event with which it attaches. -/
def execOne (events : List (MmeEvent × MmeEnv)) : Option Mme :=
  Trace.exec (step NasAlgorithms.null) (some (Mme.init 0 0 Hss.lastSqn (Gtpc.init 0 0))) events

def attachOne : MmeEvent :=
  .initialUeMessage 1 1 none (.plain [] (.attachRequest ⟨1, .imsi 1, UeCtx.null.emmCtx.securityCtxt.ueNetworkCap, false⟩))

end Mme

end SrsLte
