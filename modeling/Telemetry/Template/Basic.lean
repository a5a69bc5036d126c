import Telemetry.Tag

/-!
# Templates

The tree of a format string.  Its shape carries the grammar: a group has no
groups inside, a tag of a single particle can only stand inside a group, and an
aggregate can only be formed from a tag with values that can be averaged.
-/

namespace Telemetry

inductive Reduction where
  | average
  | deviation
deriving Repr, DecidableEq

namespace Reduction

def selector : Reduction → Selector
  | .average => .average
  | .deviation => .deviation

end Reduction

/-- A reduction of a particle tag over every particle. -/
structure Aggregate where
  reduction : Reduction
  tag : ParticleTag
  isAggregable : tag.isAggregable = true
deriving Repr, DecidableEq

namespace Aggregate

/-- The reduction of a tag, unless the tag only tells particles apart. -/
def make? (reduction : Reduction) (tag : ParticleTag) : Option Aggregate :=
  if aggregable : tag.isAggregable = true then some ⟨reduction, tag, aggregable⟩ else none

end Aggregate

/-- A part of a group, expanded once for each particle. -/
inductive Item where
  | literal (text : String)
  | simulation (tag : SimulationTag)
  | particle (tag : ParticleTag)
  | aggregate (aggregate : Aggregate)
deriving Repr, DecidableEq

/-- A block that is repeated for each particle. -/
structure Group where
  items : List Item
  /-- The last repetition loses its trailing literal. -/
  elidesTrailingSeparator : Bool
deriving Repr, DecidableEq

namespace Group

/-- The text that the last repetition loses, if any. -/
def trailingSeparator? (group : Group) : Option String :=
  if group.elidesTrailingSeparator then
    match group.items.getLast? with
    | some (.literal text) => some text
    | _ => none
  else none

end Group

inductive Node where
  | literal (text : String)
  | simulation (tag : SimulationTag)
  | aggregate (aggregate : Aggregate)
  | group (group : Group)
deriving Repr, DecidableEq

/-- A format string in the form it is rendered from. -/
structure Template where
  nodes : List Node
deriving Repr, DecidableEq

namespace Template

def isEmpty (template : Template) : Bool :=
  template.nodes.isEmpty

end Template

end Telemetry
