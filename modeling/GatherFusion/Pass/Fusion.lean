import GatherFusion.Lookup.Recognition
import GatherFusion.Lookup.Replacement
import GatherFusion.Pass.Run

/-!
# The fusion of lookups in compressed tables

All candidates are collected before the first change. Each of them then has one turn, oldest lookup
first: a candidate that an earlier turn has overtaken is stale and passed over, one that violates a
constraint is rejected, and any other is replaced, which may still fail.
-/
namespace GatherFusion

/-! ## Recognition told by events -/

/-- The event of an attempt to recognize a lookup. Nodes that are no plain lookup, and lookups in
anything but a decompressed table, go unmentioned. -/
def Graph.recognitionEvent? (graph : Graph) (gather : Nat) : Option Event := do
  let outcome ← (graph.recognize gather).toOption
  let node ← graph.node? gather
  let tell (finding : String) : Event := ⟨.trace, s!"gather '{node.name}': {finding}"⟩
  match outcome with
  | .error (.batched batchDims) => some (tell s!"batch_dims={batchDims}, not fusible")
  | .error .axisNotConstant => some (tell "axis is not a constant scalar")
  | .error (.otherAxis axisValue) => some (tell s!"axis {axisValue} is not the table axis")
  | .error .notALookup | .error .otherData => none
  | .ok candidate =>
    let weight ← graph.node? candidate.chain.weight
    some (tell s!"matched compressed table '{weight.name}'")

/-- The events of recognizing every lookup of a graph. -/
def Graph.surveyEvents (graph : Graph) : List Event :=
  graph.gathers.filterMap graph.recognitionEvent?

namespace Fusion

/-! ## Turns -/

/-- What became of a candidate on its turn. Except for a stale candidate, the name of the lookup is
kept. -/
inductive Turn where
  /-- An earlier turn changed the lookup. -/
  | stale (gather : Nat)
  /-- A constraint is violated. -/
  | rejected (gather : Nat) (name : String) (reason : Rejection)
  /-- The lookup was replaced by a fused one. -/
  | fused (gather : Nat) (name : String) (layout : Layout) (node : Nat)
  /-- The replacement failed. -/
  | failed (gather : Nat) (name : String) (cause : ReplacementError)
  deriving DecidableEq, Repr

namespace Turn

/-- The event of a turn. -/
def event : Turn → Event
  | stale gather => ⟨.trace, s!"candidate at {Store.handleText gather} went stale"⟩
  | rejected _ name reason => ⟨.debug, s!"gather '{name}' not fused: {reason.message}"⟩
  | fused _ name layout _ =>
    ⟨.debug, s!"gather '{name}' fused ({layout.encoding.label}, {layout.granularity.text})"⟩
  | failed _ name cause => ⟨.error, s!"gather '{name}' rewrite failed: {cause.message}"⟩

/-- The fused lookup of a successful turn. -/
def fused? : Turn → Option Nat
  | fused _ _ _ node => some node
  | _ => none

/-- The lookup and the reason of a rejection. -/
def rejected? : Turn → Option (Nat × Rejection)
  | rejected gather _ reason => some (gather, reason)
  | _ => none

/-- The lookup and the cause of a failed replacement. -/
def failed? : Turn → Option (Nat × ReplacementError)
  | failed gather _ cause => some (gather, cause)
  | _ => none

end Turn

/-- The turn of one candidate. -/
def takeTurn (config : FusionConfig) (graph : Graph) (candidate : Candidate) :
    Except Fault Turn × Graph :=
  if !candidate.isLive graph then (.ok (.stale candidate.gather), graph)
  else
    match graph.node candidate.gather with
    | .error fault => (.error fault, graph)
    | .ok gather =>
      match candidate.layout config graph with
      | .error (.fault fault) => (.error fault, graph)
      | .error (.refusal reason) => (.ok (.rejected candidate.gather gather.name reason), graph)
      | .ok layout =>
        match (candidate.replace layout).runOn graph with
        | (.ok node, changed) => (.ok (.fused candidate.gather gather.name layout node), changed)
        | (.error (.refusal cause), changed) =>
          (.ok (.failed candidate.gather gather.name cause), changed)
        | (.error (.fault fault), changed) => (.error fault, changed)

/-- The turns taken so far, the graph they left, and the fault that ended them early, if any. -/
structure Session where
  /-- The graph after the last turn. -/
  graph : Graph
  /-- The turns in order. -/
  turns : List Turn
  /-- The fault that broke off the last turn. -/
  fault : Option Fault

/-- Give each candidate its turn. -/
def takeTurns (config : FusionConfig) (graph : Graph) : List Candidate → Session
  | [] => ⟨graph, [], none⟩
  | candidate :: rest =>
    match takeTurn config graph candidate with
    | (.error fault, changed) => ⟨changed, [], some fault⟩
    | (.ok turn, changed) =>
      let later := takeTurns config changed rest
      { later with turns := turn :: later.turns }

/-! ## Reports -/

/-- What happened to all candidates of a graph. -/
structure Report where
  /-- Number of recognized lookups. -/
  matched : Nat
  /-- The fused lookups, in order of creation. -/
  fused : List Nat
  /-- The rejected lookups with their reasons. -/
  rejected : List (Nat × Rejection)
  /-- The lookups whose replacement failed, with the causes. -/
  failed : List (Nat × ReplacementError)
  deriving DecidableEq, Repr

/-- The report on a list of turns. -/
def Report.ofTurns (turns : List Turn) : Report where
  matched := turns.length
  fused := turns.filterMap Turn.fused?
  rejected := turns.filterMap Turn.rejected?
  failed := turns.filterMap Turn.failed?

/-- Whether anything was fused. -/
def Report.changed (report : Report) : Bool := !report.fused.isEmpty

/-- Fuse every lookup of a graph that can be fused. -/
def run (config : FusionConfig) (graph : Graph) : Run Report :=
  match graph.candidates with
  | .error fault => ⟨graph, graph.surveyEvents, .error fault⟩
  | .ok candidates =>
    let session := takeTurns config graph candidates
    { graph := session.graph
      events := graph.surveyEvents ++ session.turns.map Turn.event
      result := match session.fault with
        | none => .ok (.ofTurns session.turns)
        | some fault => .error fault }

end Fusion

end GatherFusion
