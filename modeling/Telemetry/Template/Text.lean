import Telemetry.Template.Basic

/-!
# The text of a template

Every template is written back as a format string.  A template that was read
from a format string is written as exactly that string.
-/

namespace Telemetry

namespace SimulationTag

def token (tag : SimulationTag) : String :=
  String.ofList ['#', Selector.simulation.code] ++ tag.code

end SimulationTag

namespace ParticleTag

def token (tag : ParticleTag) : String :=
  String.ofList ['#', Selector.particle.code] ++ tag.code

end ParticleTag

namespace Aggregate

def token (aggregate : Aggregate) : String :=
  String.ofList ['#', aggregate.reduction.selector.code] ++ aggregate.tag.code

end Aggregate

namespace Item

/-- The part of a format string that an item is written as. -/
def text : Item → String
  | .literal text => text
  | .simulation tag => tag.token
  | .particle tag => tag.token
  | .aggregate reduced => reduced.token

end Item

namespace Group

def text (group : Group) : String :=
  "\x7b" ++ String.join (group.items.map Item.text) ++ "\x7d"

end Group

namespace Node

def text : Node → String
  | .literal text => text
  | .simulation tag => tag.token
  | .aggregate reduced => reduced.token
  | .group block => block.text

end Node

namespace Template

def text (template : Template) : String :=
  String.join (template.nodes.map Node.text)

end Template

end Telemetry
