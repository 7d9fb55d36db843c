import SchemaNet.Planning.Grounding

/-!
A self-contained description of a domain and one of its problems, as an external
grounder writes it down.
-/

namespace SchemaNet

structure PropListing where
  predicate : Symbol
  args : List Symbol
  /-- Member of the goal. -/
  goal : Bool
  /-- True in the initial state. -/
  init : Bool
  deriving DecidableEq, Repr

def PropListing.atom (listing : PropListing) : GroundAtom := ⟨listing.predicate, listing.args⟩

structure ProblemListing where
  name : Symbol
  props : List PropListing
  actions : List ActionListing
  deriving DecidableEq, Repr

structure Instance where
  domain : DomainListing
  problem : ProblemListing
  deriving DecidableEq, Repr

namespace Instance

def grounding (inst : Instance) : Grounding where
  domain := inst.domain
  name := inst.problem.name
  props := inst.problem.props.map fun listing => (listing.atom, listing.goal)
  actions := inst.problem.actions

/-- Truth of every proposition of `problem` in the initial state. Each proposition that is
listed as true initially has to be one of the problem's. -/
def initialState (inst : Instance) (problem : Problem) : Except PlanningError (List Bool) := do
  let initial ← (inst.problem.props.filter (·.init)).mapM fun listing =>
    problem.propIndex listing.atom.ident
  return (List.range problem.numProps).map fun id => decide (id ∈ initial)

end Instance

end SchemaNet
