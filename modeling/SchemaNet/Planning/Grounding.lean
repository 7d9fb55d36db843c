import SchemaNet.Planning.Problem

/-!
Extraction of a domain and of a problem from what a grounder lists. A grounder
may name one relevant proposition of a schema several times; only the first
counts. It may list entities in any order.
-/

namespace SchemaNet

/-- Lifted view of a domain, as a grounder lists it. -/
structure DomainListing where
  name : Symbol
  predicates : List Symbol
  schemas : List Schema
  deriving DecidableEq, Repr

/-- A ground action by the name of its schema and its arguments. -/
structure ActionListing where
  schema : Symbol
  args : List Symbol
  deriving DecidableEq, Repr

/-- Grounded view of a problem: its propositions carry a flag for membership of the goal. -/
structure Grounding where
  domain : DomainListing
  name : Symbol
  props : List (GroundAtom × Bool)
  actions : List ActionListing
  deriving DecidableEq, Repr

namespace Domain

/-- The schema with each of its lifted propositions once, at its first place. -/
def withDistinctRelevant (schema : Schema) : Schema :=
  { schema with relevant := distinctBy id schema.relevant }

def extract (listing : DomainListing) : Except PlanningError Domain :=
  build listing.name (listing.schemas.map withDistinctRelevant) listing.predicates

end Domain

namespace Grounding

def goals (grounding : Grounding) : List GroundAtom :=
  (grounding.props.filter (·.2)).map (·.1)

end Grounding

namespace Problem

/-- Builds the problem of a grounding over `domain`. The grounder's own domain has to be
the same one; `own` is what was extracted from it. -/
def extractOver (grounding : Grounding) (own domain : Domain) : Except PlanningError Problem := do
  if own ≠ domain then
    throw (.domainMismatch grounding.name domain.name own.name)
  let actions ← grounding.actions.mapM fun listed => domain.ground listed.schema listed.args
  build grounding.name domain actions (grounding.props.map (·.1)) grounding.goals

def extract (grounding : Grounding) (domain : Domain) : Except PlanningError Problem := do
  extractOver grounding (← Domain.extract grounding.domain) domain

/-- The extraction together with what it reports: the grounder's domain is built first. -/
def extractLogged (grounding : Grounding) (domain : Domain) : Logged PlanningError Problem := do
  let own ← Logged.ofExcept (Domain.extract grounding.domain) Domain.notices
  Logged.ofExcept (extractOver grounding own domain) notices

end Problem

end SchemaNet
