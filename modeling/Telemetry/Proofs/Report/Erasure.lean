import Telemetry.Proofs.Report.Run
import Telemetry.Proofs.Scalar.Exact

/-!
# Failed updates leave no trace

An update fails when its line cannot be rendered or when the sink refuses it.  The report
then stays as it was, so that a run can be cut down to the updates that succeeded: they come
out as before, and the report ends as before.
-/

namespace Telemetry

variable {α : Type}

/-- The updates of a history that did not fail, whether they wrote a line or were passed
over. -/
def successes (history : List (HistoryEntry α)) : List (HistoryEntry α) :=
  history.filter (·.outcome.isOk)

theorem successes_cons_of_ok {entry : HistoryEntry α} {emitted : Bool}
    (history : List (HistoryEntry α)) (succeeds : entry.outcome = .ok emitted) :
    successes (entry :: history) = entry :: successes history :=
  List.filter_cons_of_pos (by rw [succeeds]; rfl)

theorem successes_cons_of_error {entry : HistoryEntry α} {cause : ReportError}
    (history : List (HistoryEntry α)) (fails : entry.outcome = .error cause) :
    successes (entry :: history) = successes history :=
  List.filter_cons_of_neg (by rw [fails]; simp [Except.isOk, Except.toBool])

namespace Report

variable [Scalar α]

section Failure

variable {report : Report α MemorySink} {request : UpdateRequest α} {cause : ReportError}

theorem state_respond_of_error (fails : (report.respond request).outcome = .error cause) :
    (report.respond request).state = report.withRefusal request.isRefused := by
  apply state_respond_of_ne
  rw [fails]
  simp

/-- Only a line that is due can fail. -/
theorem isDue_of_error (fails : (report.respond request).outcome = .error cause) :
    report.isDue request.snapshot.time = true := by
  by_contra notDue
  rw [outcome_respond, if_neg notDue] at fails
  exact absurd fails (by simp)

end Failure

/-- The updates that succeed in a run form a run of their own, with the same end. -/
theorem run_successes (report : Report α MemorySink) (requests : List (UpdateRequest α)) :
    (report.run ((successes (report.run requests).history).map (·.request))).history =
        successes (report.run requests).history ∧
      ∀ isRefused,
        (report.run ((successes (report.run requests).history).map (·.request))).final.withRefusal
            isRefused =
          (report.run requests).final.withRefusal isRefused := by
  -- A failed update only changes the condition of the sink, which the next update sets anew.
  induction requests generalizing report with
  | nil => exact ⟨rfl, fun _ => rfl⟩
  | cons request requests ih =>
      obtain ⟨sameHistory, sameFinal⟩ := ih (report.respond request).state
      rw [run_cons]
      cases outcomeEq : (report.respond request).outcome with
      | ok emitted =>
          rw [successes_cons_of_ok _ rfl, List.map_cons, run_cons, sameHistory, outcomeEq]
          exact ⟨rfl, sameFinal⟩
      | error cause =>
          rw [state_respond_of_error outcomeEq, history_run_withRefusal] at sameHistory sameFinal
          rw [successes_cons_of_error _ rfl, state_respond_of_error outcomeEq,
            history_run_withRefusal]
          refine ⟨?_, fun isRefused => ?_⟩
          · rw [history_run_withRefusal] at sameHistory
            exact sameHistory
          · have sameEnd := sameFinal isRefused
            rw [run_withRefusal] at sameEnd
            exact sameEnd

/-- Leaving the failed updates out of a run changes nothing: neither what the other updates
return, nor what the sink holds at the end, nor when the next line is due.  A failed update
itself changes nothing either, so that the line it was to write is still due. -/
theorem run_ignores_failures (report : Report α MemorySink)
    (requests : List (UpdateRequest α)) :
    let run := report.run requests
    let kept := report.run ((successes run.history).map (·.request))
    kept.history = successes run.history ∧
      kept.final.sink.contents = run.final.sink.contents ∧
      kept.final.lastEmission? = run.final.lastEmission? ∧
      (∀ time, kept.final.isDue time = run.final.isDue time) ∧
      ∀ before entry after cause, run.history = before ++ entry :: after →
        entry.outcome = .error cause →
        let reached := (report.run (before.map (·.request))).final
        let left := (reached.respond entry.request).state
        left.sink.contents = reached.sink.contents ∧
          left.lastEmission? = reached.lastEmission? ∧
          (∀ time, left.isDue time = reached.isDue time) ∧
          left.isDue entry.request.snapshot.time = true := by
  intro run kept
  obtain ⟨sameHistory, sameFinal⟩ := report.run_successes requests
  have sameReport : kept.final.withRefusal false = run.final.withRefusal false :=
    sameFinal false
  have sameContents : kept.final.sink.contents = run.final.sink.contents :=
    congrArg (·.sink.contents) sameReport
  have sameEmission : kept.final.lastEmission? = run.final.lastEmission? :=
    congrArg (·.lastEmission?) sameReport
  have sameSchedule (time : α) : kept.final.isDue time = run.final.isDue time :=
    congrArg (·.isDue time) sameReport
  refine ⟨sameHistory, sameContents, sameEmission, sameSchedule, ?_⟩
  intro before entry after cause split failed reached left
  obtain ⟨-, outcomeEq⟩ := run_of_history_eq split
  have fails : (reached.respond entry.request).outcome = .error cause :=
    outcomeEq.trans failed
  have unchanged : left = reached.withRefusal entry.request.isRefused :=
    state_respond_of_error fails
  have wasDue : reached.isDue entry.request.snapshot.time = true := isDue_of_error fails
  rw [unchanged]
  exact ⟨rfl, rfl, fun _ => rfl, wasDue⟩

/-- The first update is refused and its line stays due, and so is a later one.  The two
updates that are left come out the same without them. -/
theorem run_ignores_failures_of_names :
    letI := Scalar.exact (default : ElementaryFunctions ℚ)
    let requests : List (UpdateRequest ℚ) :=
      [.ofName true "a" 0, .ofName false "b" (1 / 2), .ofName true "c" 2, .ofName false "d" 2]
    ∃ report, Report.make ⟨.console, (1 : ℚ), "#sn;"⟩ MemorySink.empty = .ok report ∧
      (report.run requests).history.map (·.outcome) =
        [.error (.io .brokenSink), .ok true, .error (.io .brokenSink), .ok true] ∧
      (report.respond (.ofName true "a" 0)).state.isDue 0 = true ∧
      (report.run requests).final.sink.contents = "b;\nd;\n" ∧
      (report.run [.ofName false "b" (1 / 2), .ofName false "d" 2]).final.sink.contents =
        "b;\nd;\n" := by
  let scalar := Scalar.exact (default : ElementaryFunctions ℚ)
  let requests : List (UpdateRequest ℚ) :=
    [.ofName true "a" 0, .ofName false "b" (1 / 2), .ofName true "c" 2, .ofName false "d" 2]
  have accepted : Template.parse "#sn;" = .ok ⟨[.simulation .name, .literal ";"]⟩ := by
    with_unfolding_all rfl
  let report : Report ℚ MemorySink := ⟨.console, "#sn;", _, accepted, 1, none, .empty⟩
  have made : Report.make ⟨.console, (1 : ℚ), "#sn;"⟩ MemorySink.empty = .ok report := by
    with_unfolding_all rfl
  have contentsEq : (report.run requests).final.sink.contents = "b;\nd;\n" := by
    with_unfolding_all rfl
  have keptEq : (successes (report.run requests).history).map (·.request) =
      [.ofName false "b" (1 / 2), .ofName false "d" 2] := by
    with_unfolding_all rfl
  have history : (report.run requests).history =
      [] ++ ⟨.ofName true "a" 0, .error (.io .brokenSink)⟩ ::
        (report.run requests).history.tail := by
    with_unfolding_all rfl
  obtain ⟨-, sameContents, -, -, inert⟩ := report.run_ignores_failures requests
  rw [keptEq] at sameContents
  obtain ⟨-, -, -, stillDue⟩ := inert _ _ _ _ history rfl
  exact ⟨report, made, by with_unfolding_all rfl, stillDue, contentsEq,
    sameContents.trans contentsEq⟩

end Report

end Telemetry
