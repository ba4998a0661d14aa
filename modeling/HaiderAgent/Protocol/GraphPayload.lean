import HaiderAgent.Protocol.Basic

/-!
# Convergence Graph vocabulary

Template, evidence and lifecycle payload types of `haider-protocol/src/graph.rs`.
-/

namespace HaiderAgent

/-- `GraphNodeName` (`graph.rs`), its text. -/
abbrev GraphNodeName := String

/-- What a node's gate waits for. -/
inductive GraphGateKind where
  | commandGreen
  | allOfN (n : Nat)
  | humanConfirm
  deriving DecidableEq, Repr

/-- Who executes a node. -/
inductive GraphExecutorShape where
  | inline | fanOut | human
  deriving DecidableEq, Repr

/-- Whose word an evidence slot takes. -/
inductive EvidenceAuthority where
  | daemonVerified | modelAttested
  deriving DecidableEq, Repr

/-- What an evidence slot is about. -/
inductive SubjectSelector where
  | workspaceRevision | command | freeform
  deriving DecidableEq, Repr

/-- One slot a gate must see green. -/
structure EvidenceSlotSpec where
  id : String
  authority : EvidenceAuthority
  subjectSelector : SubjectSelector
  deriving DecidableEq, Repr

/-- `GraphNodeSpec`: one node of a template. -/
structure GraphNodeSpec where
  name : GraphNodeName
  gate : GraphGateKind
  executor : GraphExecutorShape
  maxAttempts : Nat
  maxEvidencePerAttempt : Option Nat
  dependsOn : List GraphNodeName
  redTarget : Option GraphNodeName
  verifySlots : List EvidenceSlotSpec
  deriving DecidableEq, Repr

/-- `GraphTemplateSpec`: a template as it is submitted. -/
structure GraphTemplateSpec where
  name : String
  version : Nat
  startNode : Option GraphNodeName
  nodes : List GraphNodeSpec
  deriving DecidableEq, Repr

/-- The verdict of one piece of evidence. -/
inductive EvidenceVerdict where
  | green | red
  deriving DecidableEq, Repr

/-- Where evidence comes from, with the coordinates it is bound to. -/
inductive GraphEvidenceSource where
  | model (runId : RunId) (callId : String)
  | processSignal (runId : RunId) (callId : String) (effectId : EffectId)
  | workspaceMutation (runId : RunId) (effectId : EffectId)
  | computerObservation (runId : RunId) (callId : String) (effectId : EffectId)
      (effectArgsDigest : String) (observation : String) (image : Json)
      (workspaceRevision : WorkspaceRevision)
  | childContract (childSessionId : SessionId) (childRunId : RunId)
      (childGraphId : GraphId) (reportDigest : String)
      (workspaceRevision : Option WorkspaceRevision)
  deriving DecidableEq, Repr

/-- A graph instance starts from a template. -/
structure GraphPinned where
  graphId : GraphId
  template : String
  digest : String
  templateVersion : Nat
  startNode : Option GraphNodeName
  nodes : List GraphNodeSpec
  deriving DecidableEq, Repr

/-- `GraphAttemptOpened`, `GraphGateSatisfied` and `GraphNodeReadied`: the same three fields. -/
structure GraphNodeAttempt where
  graphId : GraphId
  node : GraphNodeName
  attempt : Nat
  deriving DecidableEq, Repr

/-- Evidence for one node at one attempt. -/
structure EvidenceRecorded where
  graphId : GraphId
  node : GraphNodeName
  attempt : Nat
  verdict : EvidenceVerdict
  detail : String
  fingerprint : String
  slot : Option String
  subjectDigest : Option String
  source : GraphEvidenceSource
  deriving DecidableEq, Repr

/-- A move to another node, followed only under template version 0. -/
structure GraphAdvanced where
  graphId : GraphId
  fromNode : GraphNodeName
  toNode : GraphNodeName
  deriving DecidableEq, Repr

/-- Why a graph stopped. -/
inductive GraphBlockReason where
  | roundsExhausted | noProgress | humanHold
  deriving DecidableEq, Repr

/-- A graph stops at a node. -/
structure GraphBlocked where
  graphId : GraphId
  node : GraphNodeName
  reason : GraphBlockReason
  deriving DecidableEq, Repr

/-- A graph is given up. -/
structure GraphAbandoned where
  graphId : GraphId
  why : String
  deriving DecidableEq, Repr

/-- A graph gives way to another. -/
structure GraphSuperseded where
  old : GraphId
  new : GraphId
  deriving DecidableEq, Repr

/-- A run may not end yet: nodes are unmet. -/
structure GraphFinalizationDeferred where
  graphId : GraphId
  runId : RunId
  stateDigest : String
  providerRequestsConsumed : Nat
  unmetNodes : List GraphNodeName
  deriving DecidableEq, Repr

/-- A run set opens over a plan, with its number of children. -/
structure GraphRunSetOpened where
  runSetId : GraphRunSetId
  rootGraphId : GraphId
  planItemId : ItemId
  planEventId : EventId
  requiredChildren : Nat
  deriving DecidableEq, Repr

/-- A child graph joins a run set. -/
structure TodoGraphAttached where
  runSetId : GraphRunSetId
  planItemId : ItemId
  todoId : Nat
  dependsOnTodoId : Option Nat
  childGraphId : GraphId
  ordinal : Nat
  deriving DecidableEq, Repr

/-- The phase of a graph. -/
inductive GraphPhase where
  | active | blocked | completed | abandoned | superseded
  deriving DecidableEq, Repr

end HaiderAgent
