import Telemetry.Report.Basic

/-!
# Report sets

Reports that are updated together, in the order in which they were added.  The
first failure ends an update: the reports before it keep what they did, and those
behind it do nothing.
-/

namespace Telemetry

structure ReportSet (α σ : Type) where
  reports : List (Report α σ)

namespace ReportSet

variable {α σ ω : Type}

def empty : ReportSet α σ where
  reports := []

def push (set : ReportSet α σ) (report : Report α σ) : ReportSet α σ where
  reports := set.reports ++ [report]

variable [Scalar α] [Sink σ ω]

/-- Update reports one after the other up to the first failure, and count the
lines that were written. -/
def updateAll (snapshot : Snapshot α) (shared : ω) :
    List (Report α σ) → Attempt (List (Report α σ)) ω Nat
  | [] => { outcome := .ok 0, state := [], shared := shared }
  | report :: others =>
      let first := report.update snapshot shared
      match first.outcome with
      | .error cause =>
          { outcome := .error cause, state := first.state :: others, shared := first.shared }
      | .ok emitted =>
          let rest := updateAll snapshot first.shared others
          { outcome := rest.outcome.map fun count => if emitted then count + 1 else count
            state := first.state :: rest.state
            shared := rest.shared }

/-- Update every report, and count the lines that were written. -/
def update (set : ReportSet α σ) (snapshot : Snapshot α) (shared : ω) :
    Attempt (ReportSet α σ) ω Nat :=
  let attempt := updateAll snapshot shared set.reports
  { outcome := attempt.outcome
    state := { reports := attempt.state }
    shared := attempt.shared }

end ReportSet

end Telemetry
