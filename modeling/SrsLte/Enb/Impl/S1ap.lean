import SrsLte.Data.Map

/-!
This module contains the UE contexts of the S1AP layer of the eNB in `s1ap.cc`. What a call does to the
other layers and to the MME is its output.
-/

namespace SrsLte

structure EnbUeCtxt where
  rnti : Nat := 0
  enbUeS1apId : Nat := 0
  mmeUeS1apId : Nat := 0
  releaseRequested : Bool := false
  streamId : Nat := 0
  deriving DecidableEq, Repr, Inhabited

structure EnbS1ap where
  mmeConnected : Bool
  nextEnbUeS1apId : Nat
  ueCtxtMap : Map EnbUeCtxt
  enbidToRntiMap : Map Nat

inductive EnbS1apOutput where
  | writeDlInfo (rnti : Nat)
  | setupUeCtxt (rnti : Nat)
  | setupUeErabs (rnti : Nat)
  | releaseErabs (rnti : Nat)
  | releaseComplete (rnti : Nat)
  | initialUeMessage (enbUeS1apId : Nat)
  | ulNasTransport (mmeUeS1apId enbUeS1apId : Nat)
  | ueCtxtReleaseRequest (mmeUeS1apId enbUeS1apId : Nat)
  | ueCtxtReleaseComplete (mmeUeS1apId enbUeS1apId : Nat)
  deriving DecidableEq, Repr

inductive UeS1apIds where
  | pair (mmeUeS1apId enbUeS1apId : Nat)
  | mme (mmeUeS1apId : Nat)
  deriving DecidableEq, Repr

namespace EnbS1ap

def init : EnbS1ap where
  mmeConnected := false
  nextEnbUeS1apId := 1
  ueCtxtMap := ∅
  enbidToRntiMap := ∅

def ueCtxt (s1ap : EnbS1ap) (rnti : Nat) : EnbUeCtxt :=
  (s1ap.ueCtxtMap.lookup rnti).getD {}

def sendToMme (s1ap : EnbS1ap) (output : EnbS1apOutput) : List EnbS1apOutput :=
  if s1ap.mmeConnected then [output] else []

def initialUe (s1ap : EnbS1ap) (rnti : Nat) : EnbS1ap × List EnbS1apOutput :=
  let ueCtxt := { s1ap.ueCtxt rnti with
    enbUeS1apId := s1ap.nextEnbUeS1apId
    streamId := 1
    releaseRequested := false
  }
  let s1ap := { s1ap with
    nextEnbUeS1apId := (s1ap.nextEnbUeS1apId + 1) % 2 ^ 32
    ueCtxtMap := s1ap.ueCtxtMap.insert rnti ueCtxt
    enbidToRntiMap := s1ap.enbidToRntiMap.insert ueCtxt.enbUeS1apId rnti
  }
  (s1ap, s1ap.sendToMme (.initialUeMessage ueCtxt.enbUeS1apId))

def writePdu (s1ap : EnbS1ap) (rnti : Nat) : EnbS1ap × List EnbS1apOutput :=
  match s1ap.ueCtxtMap.lookup rnti with
  | none => (s1ap, [])
  | some ueCtxt => (s1ap, s1ap.sendToMme (.ulNasTransport ueCtxt.mmeUeS1apId ueCtxt.enbUeS1apId))

def userRelease (s1ap : EnbS1ap) (rnti : Nat) : EnbS1ap × List EnbS1apOutput :=
  match s1ap.ueCtxtMap.lookup rnti with
  | none => (s1ap, [])
  | some ueCtxt =>
    if ueCtxt.releaseRequested then
      -- the context is a zombie
      ({ s1ap with ueCtxtMap := s1ap.ueCtxtMap.erase rnti }, [.releaseComplete rnti])
    else
      let ueCtxt := { ueCtxt with releaseRequested := true }
      ({ s1ap with ueCtxtMap := s1ap.ueCtxtMap.insert rnti ueCtxt },
        s1ap.sendToMme (.ueCtxtReleaseRequest ueCtxt.mmeUeS1apId ueCtxt.enbUeS1apId))

def handleByEnbId (s1ap : EnbS1ap) (mmeUeS1apId enbUeS1apId : Nat) (call : Nat → EnbS1apOutput)
    : EnbS1ap × List EnbS1apOutput :=
  match s1ap.enbidToRntiMap.lookup enbUeS1apId with
  | none => (s1ap, [])
  | some rnti =>
    let ueCtxt := { s1ap.ueCtxt rnti with mmeUeS1apId }
    ({ s1ap with ueCtxtMap := s1ap.ueCtxtMap.insert rnti ueCtxt }, [call rnti])

def handleDlnastransport (s1ap : EnbS1ap) (mmeUeS1apId enbUeS1apId : Nat) : EnbS1ap × List EnbS1apOutput :=
  s1ap.handleByEnbId mmeUeS1apId enbUeS1apId .writeDlInfo

def handleInitialctxtsetuprequest (s1ap : EnbS1ap) (mmeUeS1apId enbUeS1apId : Nat)
    : EnbS1ap × List EnbS1apOutput :=
  s1ap.handleByEnbId mmeUeS1apId enbUeS1apId .setupUeCtxt

def handleErabsetuprequest (s1ap : EnbS1ap) (mmeUeS1apId enbUeS1apId : Nat) : EnbS1ap × List EnbS1apOutput :=
  s1ap.handleByEnbId mmeUeS1apId enbUeS1apId .setupUeErabs

def findMmeUeId (s1ap : EnbS1ap) (mmeUeS1apId : Nat) : Option (Nat × Nat) :=
  (Map.find? s1ap.ueCtxtMap fun ueCtxt => ueCtxt.mmeUeS1apId == mmeUeS1apId).map fun (_, ueCtxt) =>
    (ueCtxt.rnti % 2 ^ 16, ueCtxt.enbUeS1apId)

def releaseRnti (s1ap : EnbS1ap) (rnti : Nat) : EnbS1ap × List EnbS1apOutput :=
  match s1ap.ueCtxtMap.lookup rnti with
  | none => (s1ap, [])
  | some ueCtxt =>
    ({ s1ap with ueCtxtMap := s1ap.ueCtxtMap.erase rnti },
      [.releaseErabs rnti] ++ s1ap.sendToMme (.ueCtxtReleaseComplete ueCtxt.mmeUeS1apId ueCtxt.enbUeS1apId)
        ++ [.releaseComplete rnti])

def handleUectxtreleasecommand (s1ap : EnbS1ap) (ids : UeS1apIds) : EnbS1ap × List EnbS1apOutput :=
  match ids with
  | .pair _ enbUeS1apId =>
    match s1ap.enbidToRntiMap.lookup enbUeS1apId with
    | none => (s1ap, [])
    | some rnti => { s1ap with enbidToRntiMap := s1ap.enbidToRntiMap.erase enbUeS1apId }.releaseRnti rnti
  | .mme mmeUeS1apId =>
    match s1ap.findMmeUeId mmeUeS1apId with
    | none => (s1ap, [])
    | some (rnti, enbUeS1apId) =>
      { s1ap with enbidToRntiMap := s1ap.enbidToRntiMap.erase enbUeS1apId }.releaseRnti rnti

end EnbS1ap

inductive EnbS1apEvent where
  | connection (connected : Bool)
  | initialUe (rnti : Nat)
  | writePdu (rnti : Nat)
  | userRelease (rnti : Nat)
  | dlNasTransport (mmeUeS1apId enbUeS1apId : Nat)
  | initialContextSetup (mmeUeS1apId enbUeS1apId : Nat)
  | erabSetup (mmeUeS1apId enbUeS1apId : Nat)
  | ueContextRelease (ids : UeS1apIds)
  deriving DecidableEq, Repr

namespace EnbS1ap

def handle (s1ap : EnbS1ap) (event : EnbS1apEvent) : EnbS1ap × List EnbS1apOutput :=
  match event with
  | .connection connected => ({ s1ap with mmeConnected := connected }, [])
  | .initialUe rnti => s1ap.initialUe rnti
  | .writePdu rnti => s1ap.writePdu rnti
  | .userRelease rnti => s1ap.userRelease rnti
  | .dlNasTransport mmeUeS1apId enbUeS1apId => s1ap.handleDlnastransport mmeUeS1apId enbUeS1apId
  | .initialContextSetup mmeUeS1apId enbUeS1apId => s1ap.handleInitialctxtsetuprequest mmeUeS1apId enbUeS1apId
  | .erabSetup mmeUeS1apId enbUeS1apId => s1ap.handleErabsetuprequest mmeUeS1apId enbUeS1apId
  | .ueContextRelease ids => s1ap.handleUectxtreleasecommand ids

def step (s1ap : EnbS1ap) (event : EnbS1apEvent) : EnbS1ap :=
  (s1ap.handle event).1

end EnbS1ap

end SrsLte
