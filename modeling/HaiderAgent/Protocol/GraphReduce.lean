import HaiderAgent.Lib.EntryMap
import HaiderAgent.Lib.Rows
import HaiderAgent.Protocol.Envelope
import HaiderAgent.Protocol.GraphTemplate
import Mathlib.Data.List.Sort

/-!
# The Convergence Graph reducer

`reduce_graphs` and `GraphReductions::apply_envelopes`
(`haider-protocol/src/graph.rs`): the journal's graph facts folded into one
status per pinned graph and one per todo run set, and the run-set projection
that is written back into the statuses at the end of a batch.
-/

namespace HaiderAgent

open EntryMap (mapEntries modify)

/-- The counts of a node's evidence. -/
structure GraphEvidenceTally where
  green : Nat := 0
  red : Nat := 0
  effectiveGreen : Nat := 0
  standingRed : Nat := 0
  deriving DecidableEq, Repr

/-- A slot with the last evidence it took. -/
structure GraphEvidenceSlotStatus where
  id : String
  authority : EvidenceAuthority
  subjectSelector : SubjectSelector
  verdict : Option EvidenceVerdict
  fingerprint : Option String
  subjectDigest : Option String
  source : Option GraphEvidenceSource
  deriving DecidableEq, Repr

/-- The projection of one node. -/
structure GraphNodeStatus where
  node : GraphNodeName
  gate : Option GraphGateKind
  executor : Option GraphExecutorShape
  attemptsOpened : Nat
  currentAttempt : Option Nat
  evidence : GraphEvidenceTally
  evidenceSlots : List GraphEvidenceSlotStatus
  satisfied : Bool
  deriving DecidableEq, Repr

/-- `clear_evidence_frontier`: a new attempt starts without evidence. -/
def GraphNodeStatus.clearEvidenceFrontier (node : GraphNodeStatus) : GraphNodeStatus :=
  { node with
    evidence := {}
    evidenceSlots := node.evidenceSlots.map fun slot =>
      { slot with verdict := none, fingerprint := none, subjectDigest := none, source := none } }

/-- What a reopened attempt takes from a node it invalidates. -/
def GraphNodeStatus.invalidate (node : GraphNodeStatus) : GraphNodeStatus :=
  { node.clearEvidenceFrontier with currentAttempt := none, satisfied := false }

/-- A child of a run set, with a copy of its graph's phase. -/
structure TodoGraphStatus where
  todoId : Nat
  dependsOnTodoId : Option Nat
  graphId : GraphId
  ordinal : Nat
  phase : GraphPhase
  currentNode : Option GraphNodeName
  attempt : Nat
  deriving DecidableEq, Repr

/-- The projection of a run set. -/
structure GraphRunSetStatus where
  runSetId : GraphRunSetId
  rootGraphId : GraphId
  planItemId : ItemId
  planEventId : EventId
  requiredChildren : Nat
  terminalChildren : Nat
  children : List TodoGraphStatus
  deriving DecidableEq, Repr

/-- `GraphRunSetStatus::is_complete`. -/
def GraphRunSetStatus.isComplete (runSet : GraphRunSetStatus) : Bool :=
  runSet.terminalChildren == runSet.requiredChildren

/-- The projection of one graph. -/
structure GraphStatus where
  graphId : GraphId
  template : String
  digest : String
  templateVersion : Nat
  startNode : Option GraphNodeName
  phase : GraphPhase
  currentNode : Option GraphNodeName
  readyNodes : List GraphNodeName
  attempt : Nat
  nodes : List GraphNodeStatus
  blockedReason : Option GraphBlockReason
  pendingMenu : Option MenuId
  pendingMenus : List MenuId
  runSet : Option GraphRunSetStatus
  deriving DecidableEq, Repr

/-- An open question about a deferred ending. -/
structure GraphFinalizationMenu where
  menuId : MenuId
  runId : RunId
  stateDigest : String
  deriving DecidableEq, Repr

/-- `GraphReduction`: a graph's status with the evidence behind it. -/
structure GraphReduction where
  status : Option GraphStatus
  evidence : List EvidenceRecorded
  finalizationDeferrals : List GraphFinalizationDeferred
  finalizationMenus : List GraphFinalizationMenu
  templateNodes : List GraphNodeSpec
  deriving DecidableEq, Repr

/-- `GraphReductions`: every graph and run set of a session. -/
@[ext] structure GraphReductions where
  activeRoot : Option GraphId := none
  byGraph : HashMap GraphId GraphReduction := ∅
  activeRunSet : Option GraphRunSetId := none
  runSets : HashMap GraphRunSetId GraphRunSetStatus := ∅

namespace GraphStatus

/-- `node_is_ready`. -/
def nodeIsReady (status : GraphStatus) (node : GraphNodeName) : Bool :=
  if status.readyNodes.isEmpty then status.currentNode == some node
  else status.readyNodes.any (· == node)

/-- `refresh_current_node`: the ready nodes in template order, the first of them current. -/
def refreshCurrentNode (templateNodes : List GraphNodeSpec) (status : GraphStatus) : GraphStatus :=
  let position := fun ready : GraphNodeName =>
    (templateNodes.findIdx? fun spec => spec.name == ready).getD u64Max
  let readyNodes := status.readyNodes.insertionSort fun a b => position a ≤ position b
  { status with readyNodes, currentNode := readyNodes.head? }

/-- `push_ready_in_template_order`. -/
def pushReadyInTemplateOrder (templateNodes : List GraphNodeSpec) (node : GraphNodeName)
    (status : GraphStatus) : GraphStatus :=
  refreshCurrentNode templateNodes
    { status with
      readyNodes :=
        if status.readyNodes.any (· == node) then status.readyNodes else status.readyNodes ++ [node] }

end GraphStatus

/-- `build_node`, the start of a template that names none. -/
def buildNode : GraphNodeName := "BUILD"

/-- `graph_descendants_inclusive`; a pop per declaration and one for the target suffice. -/
def graphDescendantsInclusive (specs : List GraphNodeSpec) (target : GraphNodeName) :
    List GraphNodeName :=
  Worklist.explore (graphDependents specs) (specs.length + 1) [target] [target]

namespace GraphStatus

/-- `GraphAttemptOpened` on an active graph. -/
def openAttempt (templateNodes : List GraphNodeSpec) (opened : GraphNodeAttempt)
    (status : GraphStatus) : GraphStatus :=
  let reopening :=
    (status.nodes.find? fun node => node.node == opened.node).any fun node => 0 < node.attemptsOpened
  let status : GraphStatus := { status with attempt := max status.attempt opened.attempt }
  let status : GraphStatus :=
    if opened.node = status.startNode.getD buildNode then
      { status with nodes := status.nodes.map (·.invalidate), readyNodes := [] }
    else if reopening then
      let invalidated := graphDescendantsInclusive templateNodes opened.node
      refreshCurrentNode templateNodes
        { status with
          nodes := status.nodes.map fun node =>
            if invalidated.contains node.node then node.invalidate else node
          readyNodes := status.readyNodes.filter fun node => !invalidated.contains node }
    else status
  let status : GraphStatus :=
    { status with
      nodes := Rows.update (·.node) opened.node
        (fun node => { node.clearEvidenceFrontier with
          attemptsOpened := u32Succ node.attemptsOpened
          currentAttempt := some opened.attempt
          satisfied := false })
        status.nodes }
  if status.templateVersion = 0 then { status with currentNode := some opened.node }
  else pushReadyInTemplateOrder templateNodes opened.node status

/-- The guard of evidence and gates: graph active, node ready, attempt current. -/
def admits (status : GraphStatus) (node : GraphNodeName) (attempt : Nat) : Bool :=
  status.phase == .active && status.nodeIsReady node &&
    (status.nodes.find? fun candidate => candidate.node == node).any fun candidate =>
      candidate.currentAttempt == some attempt

/-- `GraphGateSatisfied` on an open obligation. -/
def satisfyGate (templateNodes : List GraphNodeSpec) (node : GraphNodeName) (status : GraphStatus) :
    GraphStatus :=
  let status : GraphStatus := { status with
    nodes := Rows.update (·.node) node ({ · with satisfied := true }) status.nodes }
  if 0 < status.templateVersion then
    refreshCurrentNode templateNodes
      { status with readyNodes := status.readyNodes.filter (· != node) }
  else status

end GraphStatus

/-- Computer observations are provenance, not gate testimony. -/
def GraphEvidenceSource.gateEligible : GraphEvidenceSource → Bool
  | .computerObservation .. => false
  | _ => true

namespace GraphNodeStatus

/-- The tally of a node without declared slots. -/
def tally (verdict : EvidenceVerdict) (evidence : GraphEvidenceTally) : GraphEvidenceTally :=
  match verdict with
  | .green =>
    { evidence with
      green := u32Succ evidence.green
      effectiveGreen := u32Succ evidence.effectiveGreen
      standingRed := 0 }
  | .red =>
    { evidence with red := u32Succ evidence.red, effectiveGreen := 0, standingRed := 1 }

/-- What gate-eligible evidence does to its node. -/
def record (recorded : EvidenceRecorded) (node : GraphNodeStatus) : GraphNodeStatus :=
  if node.evidenceSlots.isEmpty then
    { node with evidence := tally recorded.verdict node.evidence }
  else
    match recorded.slot with
    | none => node
    | some id =>
      if node.evidenceSlots.any (·.id == id) then
        let slots := Rows.update (·.id) id
          (fun slot => { slot with
            verdict := some recorded.verdict
            fingerprint := some recorded.fingerprint
            subjectDigest := recorded.subjectDigest
            source := some recorded.source })
          node.evidenceSlots
        { node with
          evidenceSlots := slots
          evidence :=
            { green := if recorded.verdict = .green then u32Succ node.evidence.green
                else node.evidence.green
              red := if recorded.verdict = .red then u32Succ node.evidence.red
                else node.evidence.red
              effectiveGreen := u32Saturate (slots.countP (·.verdict == some .green))
              standingRed := u32Saturate (slots.countP (·.verdict == some .red)) } }
      else node

end GraphNodeStatus

namespace GraphReduction

/-- Change the status if it is the graph's own (`status_for_graph_mut`). -/
def updateStatus (graphId : GraphId) (f : GraphStatus → GraphStatus) (reduction : GraphReduction) :
    GraphReduction :=
  { reduction with
    status := reduction.status.map fun status => if status.graphId = graphId then f status else status }

/-- `GraphPinned`, the reduction it starts. -/
def pin (pinned : GraphPinned) : GraphReduction :=
  let m2b := 0 < pinned.templateVersion ∧ pinned.startNode.isSome
  { status := some
      { graphId := pinned.graphId, template := pinned.template, digest := pinned.digest
        templateVersion := pinned.templateVersion, startNode := pinned.startNode
        phase := .active, currentNode := none, readyNodes := [], attempt := 0
        nodes := pinned.nodes.map fun spec =>
          { node := spec.name
            gate := if m2b then some spec.gate else none
            executor := if m2b then some spec.executor else none
            attemptsOpened := 0, currentAttempt := none, evidence := {}
            evidenceSlots := spec.verifySlots.map fun slot =>
              { id := slot.id, authority := slot.authority, subjectSelector := slot.subjectSelector
                verdict := none, fingerprint := none, subjectDigest := none, source := none }
            satisfied := false }
        blockedReason := none, pendingMenu := none, pendingMenus := [], runSet := none }
    evidence := [], finalizationDeferrals := [], finalizationMenus := []
    templateNodes := pinned.nodes }

/-- The arm of `GraphAttemptOpened`. -/
def attemptOpened (opened : GraphNodeAttempt) (reduction : GraphReduction) : GraphReduction :=
  reduction.updateStatus opened.graphId fun status =>
    if status.phase = .active then status.openAttempt reduction.templateNodes opened else status

/-- The arm of `EvidenceRecorded`: ineligible evidence is kept but not counted. -/
def evidenceRecorded (recorded : EvidenceRecorded) (reduction : GraphReduction) : GraphReduction :=
  match reduction.status with
  | none => reduction
  | some status =>
    if status.admits recorded.node recorded.attempt then
      { reduction with
        status := some
          (if recorded.source.gateEligible then
            { status with
              nodes := Rows.update (·.node) recorded.node (·.record recorded) status.nodes }
          else status)
        evidence := reduction.evidence ++ [recorded] }
    else reduction

/-- The arm of `GraphGateSatisfied`. -/
def gateSatisfied (satisfied : GraphNodeAttempt) (reduction : GraphReduction) : GraphReduction :=
  reduction.updateStatus satisfied.graphId fun status =>
    if status.admits satisfied.node satisfied.attempt then
      status.satisfyGate reduction.templateNodes satisfied.node
    else status

/-- The arm of `GraphAdvanced`. -/
def advanced (advanced : GraphAdvanced) (reduction : GraphReduction) : GraphReduction :=
  reduction.updateStatus advanced.graphId fun status =>
    if status.templateVersion = 0 then { status with currentNode := some advanced.toNode } else status

/-- The arm of `GraphNodeReadied`. -/
def nodeReadied (readied : GraphNodeAttempt) (reduction : GraphReduction) : GraphReduction :=
  reduction.updateStatus readied.graphId fun status =>
    if status.phase = .active ∧ status.attempt = readied.attempt then
      status.pushReadyInTemplateOrder reduction.templateNodes readied.node
    else status

/-- The arm of `GraphBlocked`. -/
def blocked (blocked : GraphBlocked) (reduction : GraphReduction) : GraphReduction :=
  reduction.updateStatus blocked.graphId fun status =>
    { status with
      phase := .blocked, currentNode := some blocked.node, readyNodes := []
      blockedReason := some blocked.reason, pendingMenu := none, pendingMenus := [] }

/-- The arm of `GraphCompleted`. -/
def completed (graphId : GraphId) (reduction : GraphReduction) : GraphReduction :=
  reduction.updateStatus graphId fun status =>
    { status with
      phase := .completed
      currentNode := if 0 < status.templateVersion then none else status.currentNode
      readyNodes := [], pendingMenu := none, pendingMenus := [] }

/-- `GraphAbandoned`; the current node stays. -/
def abandoned (graphId : GraphId) (reduction : GraphReduction) : GraphReduction :=
  reduction.updateStatus graphId fun status =>
    { status with phase := .abandoned, readyNodes := [], pendingMenu := none, pendingMenus := [] }

/-- `GraphSuperseded`, for the old graph. -/
def superseded (graphId : GraphId) (reduction : GraphReduction) : GraphReduction :=
  reduction.updateStatus graphId fun status =>
    { status with
      phase := .superseded, currentNode := none, readyNodes := []
      pendingMenu := none, pendingMenus := [] }

/-- The arm of `GraphFinalizationDeferred`, once per run and digest. -/
def finalizationDeferred (deferred : GraphFinalizationDeferred) (reduction : GraphReduction) :
    GraphReduction :=
  if reduction.finalizationDeferrals.any fun prior =>
      prior.runId == deferred.runId && prior.stateDigest == deferred.stateDigest then reduction
  else { reduction with finalizationDeferrals := reduction.finalizationDeferrals ++ [deferred] }

/-- A graph menu opens on its graph. -/
def menuShown (menu : MenuId) (graphId : GraphId) (finalizationMenu : Bool)
    (reduction : GraphReduction) : GraphReduction :=
  reduction.updateStatus graphId fun status =>
    { status with
      pendingMenu := some (status.pendingMenu.getD menu)
      pendingMenus :=
        if (0 < status.templateVersion ∨ finalizationMenu) ∧ !status.pendingMenus.contains menu then
          status.pendingMenus ++ [menu]
        else status.pendingMenus }

/-- `MenuOpened`, on the graph its kind names. -/
def menuOpened (menu : Menu) (reduction : GraphReduction) : GraphReduction :=
  match menu.kind with
  | .graphHumanConfirm graphId _ _ => reduction.menuShown menu.id graphId false
  | .graphAbandonConfirm graphId runId stateDigest =>
    let shown := reduction.menuShown menu.id graphId true
    { shown with finalizationMenus := shown.finalizationMenus ++ [⟨menu.id, runId, stateDigest⟩] }
  | _ => reduction

/-- `MenuAnswered` and `MenuClosed`, on any graph. -/
def menuResolved (menu : MenuId) (reduction : GraphReduction) : GraphReduction :=
  { reduction with
    status := reduction.status.map fun status =>
      let pendingMenus := status.pendingMenus.filter (· != menu)
      { status with
        pendingMenus
        pendingMenu :=
          if status.pendingMenu = some menu then pendingMenus.head? else status.pendingMenu } }

end GraphReduction

/-- A run set that a `GraphRunSetOpened` starts. -/
def GraphRunSetStatus.open (opened : GraphRunSetOpened) : GraphRunSetStatus where
  runSetId := opened.runSetId
  rootGraphId := opened.rootGraphId
  planItemId := opened.planItemId
  planEventId := opened.planEventId
  requiredChildren := opened.requiredChildren
  terminalChildren := 0
  children := []

/-- Whether a `TodoGraphAttached` may join its run set. -/
def GraphRunSetStatus.joins (attached : TodoGraphAttached) (runSet : GraphRunSetStatus) : Bool :=
  runSet.planItemId == attached.planItemId && runSet.children.length < runSet.requiredChildren &&
    !runSet.children.any fun child => child.todoId == attached.todoId

/-- The child a `TodoGraphAttached` adds, in order. -/
def GraphRunSetStatus.attach (attached : TodoGraphAttached) (runSet : GraphRunSetStatus) :
    GraphRunSetStatus :=
  let child : TodoGraphStatus :=
    { todoId := attached.todoId, dependsOnTodoId := attached.dependsOnTodoId
      graphId := attached.childGraphId, ordinal := attached.ordinal
      phase := .active, currentNode := none, attempt := 0 }
  { runSet with
    children := (runSet.children ++ [child]).insertionSort fun a b =>
      a.ordinal < b.ordinal ∨ a.ordinal = b.ordinal ∧ a.todoId ≤ b.todoId }

namespace GraphReductions

variable (reductions : GraphReductions)

/-- `GraphReductions::graph`. -/
def graph (graphId : GraphId) : Option GraphReduction := reductions.byGraph.lookup graphId

/-- Whether some run set has the graph as a child. -/
def attachedChild (graphId : GraphId) : Bool :=
  reductions.runSets.entries.any fun entry =>
    entry.2.children.any fun child => child.graphId == graphId

/-- A change to one graph, if it is known. -/
def updateGraph (graphId : GraphId) (f : GraphReduction → GraphReduction) : GraphReductions :=
  { reductions with byGraph := modify graphId f reductions.byGraph }

/-- `apply_payload`: one arm per event kind. -/
def applyPayload : EventPayload → GraphReductions
  | .graphPinned pinned =>
    { reductions with
      byGraph := reductions.byGraph.insert pinned.graphId (.pin pinned)
      activeRoot := if reductions.attachedChild pinned.graphId then reductions.activeRoot
        else some pinned.graphId }
  | .graphRunSetOpened opened =>
    if (reductions.runSets.lookup opened.runSetId).isSome ∨
        (reductions.graph opened.rootGraphId).isNone then reductions
    else
      { reductions with
        activeRunSet := some opened.runSetId
        runSets := reductions.runSets.insert opened.runSetId (.open opened) }
  | .todoGraphAttached attached =>
    if reductions.attachedChild attached.childGraphId then reductions
    else
      { reductions with
        runSets := modify attached.runSetId
          (fun runSet => if runSet.joins attached then runSet.attach attached else runSet)
          reductions.runSets }
  | .graphAttemptOpened opened => reductions.updateGraph opened.graphId (·.attemptOpened opened)
  | .evidenceRecorded recorded => reductions.updateGraph recorded.graphId (·.evidenceRecorded recorded)
  | .graphGateSatisfied satisfied =>
    reductions.updateGraph satisfied.graphId (·.gateSatisfied satisfied)
  | .graphAdvanced advanced => reductions.updateGraph advanced.graphId (·.advanced advanced)
  | .graphNodeReadied readied => reductions.updateGraph readied.graphId (·.nodeReadied readied)
  | .graphBlocked blocked => reductions.updateGraph blocked.graphId (·.blocked blocked)
  | .graphCompleted graphId => reductions.updateGraph graphId (·.completed graphId)
  | .graphAbandoned abandoned =>
    reductions.updateGraph abandoned.graphId (·.abandoned abandoned.graphId)
  | .graphFinalizationDeferred deferred =>
    reductions.updateGraph deferred.graphId (·.finalizationDeferred deferred)
  | .graphSuperseded superseded =>
    let updated := reductions.updateGraph superseded.old (·.superseded superseded.old)
    { updated with
      activeRoot := if reductions.attachedChild superseded.old then reductions.activeRoot
        else some superseded.new }
  | .menuOpened menu =>
    match menu.kind with
    | .graphHumanConfirm graphId _ _ | .graphAbandonConfirm graphId _ _ =>
      reductions.updateGraph graphId (·.menuOpened menu)
    | _ => reductions
  | .menuAnswered answer =>
    { reductions with
      byGraph := mapEntries (fun _ reduction => reduction.menuResolved answer.menu)
        reductions.byGraph }
  | .menuClosed menu _ =>
    { reductions with
      byGraph := mapEntries (fun _ reduction => reduction.menuResolved menu) reductions.byGraph }
  | _ => reductions

end GraphReductions

/-- `graph_reduction_payload`: the kinds the reducer decodes. -/
def graphReductionPayload (payload : RawPayload) : Option EventPayload :=
  match payload.type with
  | none => none
  | some kind =>
    if "graph_".toList.isPrefixOf kind.toList || kind == "todo_graph_attached" ||
        kind == "evidence_recorded" || "menu_".toList.isPrefixOf kind.toList then
      payload.decodeEvent
    else none

/-- The child's copy of its graph's status. -/
def TodoGraphStatus.refresh (byGraph : HashMap GraphId GraphReduction) (child : TodoGraphStatus) :
    TodoGraphStatus :=
  match (byGraph.lookup child.graphId).bind (·.status) with
  | none => child
  | some status =>
    { child with phase := status.phase, currentNode := status.currentNode, attempt := status.attempt }

/-- `graph_phase_is_terminal`. -/
def GraphPhase.isTerminal : GraphPhase → Bool
  | .completed | .abandoned | .superseded => true
  | _ => false

/-- A run set with its children refreshed and the terminal ones counted. -/
def GraphRunSetStatus.refresh (byGraph : HashMap GraphId GraphReduction)
    (runSet : GraphRunSetStatus) : GraphRunSetStatus :=
  let children := runSet.children.map (·.refresh byGraph)
  { runSet with
    children
    terminalChildren :=
      min (u32Saturate (children.countP (·.phase.isTerminal))) runSet.requiredChildren }

/-- The root's status under the active run set. -/
def GraphStatus.own (runSet : GraphRunSetStatus) (root : GraphStatus) : GraphStatus :=
  if root.phase = .abandoned ∨ root.phase = .superseded then { root with runSet := some runSet }
  else
    { root with
      runSet := some runSet
      phase := if runSet.isComplete then .completed else .active
      currentNode := none, readyNodes := [], pendingMenu := none, pendingMenus := [] }

namespace GraphReductions

variable (reductions : GraphReductions)

/-- `refresh_run_set_projections`. -/
def refreshRunSetProjections : GraphReductions :=
  let runSets := mapEntries (fun _ runSet => runSet.refresh reductions.byGraph) reductions.runSets
  match reductions.activeRunSet.bind runSets.lookup with
  | none => { reductions with runSets }
  | some runSet =>
    { reductions with
      runSets
      byGraph := modify runSet.rootGraphId
        (fun reduction => { reduction with status := reduction.status.map (·.own runSet) })
        reductions.byGraph }

variable (envelope : RawEnvelope)

/-- `apply_envelope_unprojected`, the state it leaves. -/
def applyEnvelopeUnprojected : GraphReductions :=
  match graphReductionPayload envelope.payload with
  | none => reductions
  | some payload => reductions.applyPayload payload

/-- `apply_envelope_unprojected`, the flag it returns. -/
def changes : Bool := (graphReductionPayload envelope.payload).isSome

/-- `apply_envelope`: a fold of one envelope, then the projection. -/
def applyEnvelope : GraphReductions :=
  if changes envelope then (reductions.applyEnvelopeUnprojected envelope).refreshRunSetProjections
  else reductions.applyEnvelopeUnprojected envelope

/-- `apply_envelopes`: the projection runs once, after the batch. -/
def applyEnvelopes (envelopes : List RawEnvelope) : GraphReductions :=
  let folded := envelopes.foldl applyEnvelopeUnprojected reductions
  if envelopes.any changes then folded.refreshRunSetProjections else folded

end GraphReductions

/-- `reduce_graphs`: the fold from scratch. -/
def reduceGraphs (envelopes : List RawEnvelope) : GraphReductions :=
  (envelopes.foldl GraphReductions.applyEnvelopeUnprojected {}).refreshRunSetProjections

end HaiderAgent
