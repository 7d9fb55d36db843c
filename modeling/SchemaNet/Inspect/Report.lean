import SchemaNet.Decimal.Text
import SchemaNet.Network.PolicyNetwork
import SchemaNet.Scalar.Binary32

/-!
What is printed about a network and its policy.
-/

namespace SchemaNet.Inspect

namespace Report

/-- The weights: their number and the table of the blocks. -/
def weights (weights : Weights Float32) : String :=
  s!"{weights.numBlocks} weight blocks, {weights.numParams} parameters\n" ++ weights.table

def countLine (name : Symbol) (count : Nat) (what : String) : String :=
  s!"{name} " ++ Weights.padLeft 6 (toString count) ++ s!" ground {what}\n"

def sizes (net : PolicyNetwork Float32) : String :=
  String.join
    (List.zipWith (fun (schema : Schema) size => countLine schema.name size.2 "actions")
        net.domain.schemas net.schemaSizes
      ++ net.domain.predicates.zipIdx.map fun (name, id) =>
        countLine name (net.problem.predicateProps id).length "propositions")

/-- The actions with a positive probability, the most probable one first. -/
def ranking (problem : Problem) (probs : List Float32) : List (GroundAction × Float32) :=
  ((problem.actions.zip probs).mergeSort fun a b => Scalar.order b.2 a.2 != .gt).filter
    fun entry => Scalar.lt Scalar.zero entry.2

def rankingLine (entry : GroundAction × Float32) : String :=
  Weights.padLeft 8 ((Binary32.ofFloat entry.2).notated (Decimal.fixed 4)) ++ "  "
    ++ entry.1.display ++ "\n"

def greedyLine (problem : Problem) (probs : Grid Float32) : String :=
  match (greedyActions probs).head? with
  | some (some id) =>
    match problem.actions[id]? with
    | some action => s!"greedy action: {action.display}\n"
    | none => ""
  | _ => ""

/-- The policy in the state of the first row. -/
def policy (problem : Problem) (probs : Grid Float32) : String :=
  String.join ((ranking problem (probs.rows.headD [])).map rankingLine)
    ++ greedyLine problem probs

end Report

end SchemaNet.Inspect
