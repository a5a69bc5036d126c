import Telemetry.Lint.Findings

/-!
# Explanations

Tables for the reader: what the parts of a format string stand for, which value
tokens there are, and how often they were used.
-/

namespace Telemetry

namespace Explanation

def entry (token description : String) : String :=
  Text.padRight 6 token ++ " " ++ description

def aggregateEntry (aggregate : Aggregate) : String :=
  entry aggregate.token
    (aggregate.reduction.selector.description ++ " of " ++ aggregate.tag.description)

def ofItem : Item → String
  | .literal text => "literal " ++ Text.quoted text
  | .simulation tag => entry tag.token tag.description
  | .particle tag =>
      entry tag.token
        (tag.description ++ if tag.isOrbital then " (relative to the reference body)" else "")
  | .aggregate reduced => aggregateEntry reduced

/-- A part of a template, in one or more lines. -/
def ofNode : Node → List String
  | .literal text => ["  literal " ++ Text.quoted text]
  | .simulation tag => ["  " ++ entry tag.token tag.description]
  | .aggregate reduced => ["  " ++ aggregateEntry reduced]
  | .group block =>
      ("  group, repeated per particle" ++
        if block.trailingSeparator?.isSome then ", last separator dropped" else "") ::
          block.items.map ("    " ++ ofItem ·)

def ofSpec {α : Type} (spec : ReportSpec α) (template : Template) : List String :=
  ["", spec.destination.text ++ " (" ++ spec.format ++ ")"] ++ template.nodes.flatMap ofNode

/-- Token counts, the highest first, and in the order of the tokens where counts
are equal. -/
def ofUsage (usage : List (String × Nat)) : List String :=
  let sorted := usage.mergeSort fun first second =>
    second.2 < first.2 ∨ second.2 = first.2 ∧ first.1 ≤ second.1
  ["", "=== Tag Usage ===", ""] ++
    sorted.map fun (token, count) => "  " ++ entry token (toString count)

def vocabulary : List String :=
  ["Selectors:"] ++
    Selector.all.map (fun selector =>
      "  #" ++ selector.code.toString ++ "    " ++ selector.description) ++
    ["", "Simulation values (#s..):"] ++
    SimulationTag.all.map (fun tag =>
      "  " ++ Text.padRight 3 tag.code ++ " " ++ Text.padRight 24 tag.description ++ " " ++
        tag.kind.label) ++
    ["", "Particle values (#p.., #a.., #d..):"] ++
    ParticleTag.all.map (fun tag =>
      "  " ++ Text.padRight 3 tag.code ++ " " ++ Text.padRight 32 tag.description ++ " " ++
        tag.kind.label ++ if tag.isAggregable then "" else "  (#p only)")

end Explanation

end Telemetry
