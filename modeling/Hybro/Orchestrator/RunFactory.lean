import Hybro.Library.PythonText
import Hybro.Orchestrator.Models

/-! # New Runs

The aggregate a session creates for one user message.
-/

namespace Hybro.Orchestrator

structure RoomAgentSessionConfig where
  sessionId : String
  conversationId : String
  profile : OrchestratorProfile
  candidateScope : CandidateScopeSnapshot
  roomEpoch : Nat
  frozenToolCatalog : Option FrozenToolCatalogSnapshot := none
  resourceManifest : Option RunResourceManifestSnapshot := none

def initialRun (config : RoomAgentSessionConfig) (message : UserMessage)
    (runId fingerprint : String) (now : Timestamp) : OrchestratorRunState where
  runId := runId
  sessionId := config.sessionId
  conversationId := config.conversationId
  request :=
    { requestFingerprint := fingerprint
      roomEpoch := config.roomEpoch
      userMessageId := message.messageId }
  profile := config.profile
  candidateScope := config.candidateScope
  status := .running
  transcript := [.user message]
  toolCatalog := config.frozenToolCatalog
  resourceManifest := config.resourceManifest
  toolBatches := []
  artifactRefs := []
  budget := { deadlineAt := now + 1000 * config.profile.deadlineSeconds }
  proposedFinalMessageId := none
  terminalReason := none
  projectionState := .pending
  recoveryClaim := { nextAttemptAt := some (now + 1000 * config.profile.deadlineSeconds) }
  projectionOutbox := []
  processedCommandIds := []
  stateVersion := 0
  updatedAt := now

/-- `DefaultRunFactory.create_run`, with the generated id and digest as arguments. -/
def createRun (config : RoomAgentSessionConfig) (message : UserMessage)
    (clientRequestId : Option String) (runId fingerprint : String) (now : Timestamp) :
    Except String OrchestratorRunState :=
  if clientRequestId.all PythonText.isBlank then
    throw "canonical Runs require a nonempty client_request_id"
  else
    return initialRun config message runId fingerprint now

/-! ## A small Run -/

def sampleProfile : OrchestratorProfile where
  profileId := .fast
  maxModelTurns := 4
  graceModelTurns := 1
  maxAgentCalls := 2
  maxParallelCalls := 1
  deadlineSeconds := 600
  maxCompactions := 1
  toolExecution := .sequential

def sampleConfig : RoomAgentSessionConfig where
  sessionId := "session"
  conversationId := "room"
  profile := sampleProfile
  candidateScope := ⟨"room", ["agent"]⟩
  roomEpoch := 1

def sampleRun : OrchestratorRunState :=
  initialRun sampleConfig ⟨"question", [.text "hello"], 0⟩ "run" "digest" 0

end Hybro.Orchestrator
