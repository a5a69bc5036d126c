import Telemetry.Proofs.Fallible
import Telemetry.Report.Basic

/-!
# Runs of a report

A report is updated again and again, with a snapshot each time, while its sink may
break and be mended in between.  This file defines such runs together with their
history, and proves how the state of a report follows from the history: the time of
the last line is the time of the last update that wrote one, and the sink holds the
lines of exactly these updates.
-/

namespace Telemetry

variable {α : Type}

/-- What goes into one update: the snapshot, and whether the sink refuses
everything at that time. -/
structure UpdateRequest (α : Type) where
  isRefused : Bool
  snapshot : Snapshot α

namespace UpdateRequest

/-- A request for a simulation without particles that is known by its name only. -/
def ofName [Zero α] (isRefused : Bool) (name : String) (time : α) : UpdateRequest α where
  isRefused := isRefused
  snapshot :=
    { name := name
      time := time
      lastStep := 0
      integrator := ""
      gravity := 0
      stepCount := 0
      wallTime := 0
      wallResolution := 0
      bodies := [] }

end UpdateRequest

/-- An update that was made, and what came out of it. -/
structure HistoryEntry (α : Type) where
  request : UpdateRequest α
  outcome : Except ReportError Bool

namespace HistoryEntry

def emission? (entry : HistoryEntry α) : Option (Snapshot α) :=
  match entry.outcome with
  | .ok true => some entry.request.snapshot
  | _ => none

end HistoryEntry

/-- The snapshots that lines were written for, in order. -/
def emissions (history : List (HistoryEntry α)) : List (Snapshot α) :=
  history.filterMap HistoryEntry.emission?

@[simp]
theorem emissions_nil : emissions ([] : List (HistoryEntry α)) = [] :=
  rfl

@[simp]
theorem emissions_append (first second : List (HistoryEntry α)) :
    emissions (first ++ second) = emissions first ++ emissions second :=
  List.filterMap_append

theorem emissions_cons_of_ok {entry : HistoryEntry α} (history : List (HistoryEntry α))
    (emits : entry.outcome = .ok true) :
    emissions (entry :: history) = entry.request.snapshot :: emissions history :=
  List.filterMap_cons_some (by simp [HistoryEntry.emission?, emits])

theorem emissions_cons_of_ne {entry : HistoryEntry α} (history : List (HistoryEntry α))
    (silent : entry.outcome ≠ .ok true) :
    emissions (entry :: history) = emissions history := by
  refine List.filterMap_cons_none ?_
  unfold HistoryEntry.emission?
  split
  · rename_i emits
    exact absurd emits silent
  · rfl

namespace Report

theorem make_eq_ok {σ : Type} (spec : ReportSpec α) (sink : σ) {template : Template}
    (accepted : Template.parse spec.format = .ok template) :
    make spec sink = .ok
      { destination := spec.destination
        format := spec.format
        template := template
        parse_format := accepted
        interval := spec.interval
        lastEmission? := none
        sink := sink } := by
  unfold make
  split
  · rename_i cause failed
    rw [accepted] at failed
    exact absurd failed (by simp)
  · rename_i other parsed
    obtain rfl := Except.ok.inj (accepted.symm.trans parsed)
    rfl

/-- The report with its sink broken or mended. -/
def withRefusal (isRefused : Bool) (report : Report α MemorySink) : Report α MemorySink :=
  { report with sink := { report.sink with isBroken := isRefused } }

section WithRefusal

variable (isRefused : Bool) (report : Report α MemorySink)

@[simp]
theorem withRefusal_template : (report.withRefusal isRefused).template = report.template :=
  rfl

@[simp]
theorem withRefusal_interval : (report.withRefusal isRefused).interval = report.interval :=
  rfl

@[simp]
theorem withRefusal_lastEmission? :
    (report.withRefusal isRefused).lastEmission? = report.lastEmission? :=
  rfl

@[simp]
theorem withRefusal_contents :
    (report.withRefusal isRefused).sink.contents = report.sink.contents :=
  rfl

end WithRefusal

def afterLine (report : Report α MemorySink) (snapshot : Snapshot α) (line : String) :
    Report α MemorySink :=
  { report with
    lastEmission? := some snapshot.time
    sink := { report.sink with contents := report.sink.contents ++ (line ++ "\n") } }

variable [Scalar α]

/-- What comes out of an update that is not passed over. -/
def attempted (template : Template) (request : UpdateRequest α) : Except ReportError Bool :=
  match template.evaluate request.snapshot with
  | .error cause => .error (.evaluation cause)
  | .ok _ => if request.isRefused then .error (.io .brokenSink) else .ok true

theorem attempted_ne_ok_false (template : Template) (request : UpdateRequest α) :
    attempted template request ≠ .ok false := by
  unfold attempted
  split
  · simp
  · split <;> simp

/-- Update a report while its sink is in a given condition. -/
def respond (report : Report α MemorySink) (request : UpdateRequest α) :
    Attempt (Report α MemorySink) Unit Bool :=
  (report.withRefusal request.isRefused).update request.snapshot ()

/-- An update that is not due is passed over.  One that is due writes a line unless
rendering fails or the sink refuses, and only then does the report change. -/
theorem respond_eq (report : Report α MemorySink) (request : UpdateRequest α) :
    report.respond request =
      if report.isDue request.snapshot.time then
        match report.template.evaluate request.snapshot with
        | .error cause =>
            ⟨.error (.evaluation cause), report.withRefusal request.isRefused, ()⟩
        | .ok line =>
            if request.isRefused then
              ⟨.error (.io .brokenSink), report.withRefusal request.isRefused, ()⟩
            else
              ⟨.ok true, (report.withRefusal request.isRefused).afterLine request.snapshot line, ()⟩
      else ⟨.ok false, report.withRefusal request.isRefused, ()⟩ := by
  have sameDue : (report.withRefusal request.isRefused).isDue request.snapshot.time =
      report.isDue request.snapshot.time := rfl
  unfold respond update
  simp only [sameDue, withRefusal_template]
  cases report.isDue request.snapshot.time with
  | false => rfl
  | true =>
      cases report.template.evaluate request.snapshot with
      | error cause => rfl
      | ok line => cases refusal : request.isRefused <;> rfl

theorem outcome_respond (report : Report α MemorySink) (request : UpdateRequest α) :
    (report.respond request).outcome =
      if report.isDue request.snapshot.time then attempted report.template request
      else .ok false := by
  rw [respond_eq]
  unfold attempted
  split
  · cases report.template.evaluate request.snapshot with
    | error cause => rfl
    | ok line => cases request.isRefused <;> rfl
  · rfl

theorem state_respond_of_ne {report : Report α MemorySink} {request : UpdateRequest α}
    (silent : (report.respond request).outcome ≠ .ok true) :
    (report.respond request).state = report.withRefusal request.isRefused := by
  revert silent
  rw [respond_eq]
  split
  · split
    · exact fun _ => rfl
    · split
      · exact fun _ => rfl
      · exact fun silent => absurd rfl silent
  · exact fun _ => rfl

theorem state_respond_of_ok {report : Report α MemorySink} {request : UpdateRequest α}
    (emits : (report.respond request).outcome = .ok true) :
    ∃ line, report.template.evaluate request.snapshot = .ok line ∧
      (report.respond request).state =
        (report.withRefusal request.isRefused).afterLine request.snapshot line := by
  revert emits
  rw [respond_eq]
  split
  · split
    · simp
    · rename_i line evaluated
      split
      · simp
      · exact fun _ => ⟨line, evaluated, rfl⟩
  · simp

end Report

/-- What is left of a run: its history, and the report at the end. -/
structure Run (α : Type) where
  history : List (HistoryEntry α)
  final : Report α MemorySink

namespace Report

variable [Scalar α]

def run (report : Report α MemorySink) : List (UpdateRequest α) → Run α
  | [] => { history := [], final := report }
  | request :: requests =>
      let attempt := report.respond request
      let rest := attempt.state.run requests
      { rest with history := { request := request, outcome := attempt.outcome } :: rest.history }

@[simp]
theorem run_nil (report : Report α MemorySink) : report.run [] = ⟨[], report⟩ :=
  rfl

theorem run_cons (report : Report α MemorySink) (request : UpdateRequest α)
    (requests : List (UpdateRequest α)) :
    report.run (request :: requests) =
      { history := { request := request, outcome := (report.respond request).outcome } ::
          ((report.respond request).state.run requests).history
        final := ((report.respond request).state.run requests).final } :=
  rfl

@[simp]
theorem map_request_run (report : Report α MemorySink) (requests : List (UpdateRequest α)) :
    (report.run requests).history.map (·.request) = requests := by
  induction requests generalizing report with
  | nil => rfl
  | cons request requests ih => rw [run_cons, List.map_cons, ih]

section Refusals

variable (report : Report α MemorySink) (wasRefused : Bool) (requests : List (UpdateRequest α))

/-- Whether the sink was broken before a run makes no difference. -/
theorem run_withRefusal (isRefused : Bool) :
    ((report.withRefusal wasRefused).run requests).final.withRefusal isRefused =
      (report.run requests).final.withRefusal isRefused := by
  cases requests with
  | nil => rfl
  | cons request requests => rfl

theorem history_run_withRefusal :
    ((report.withRefusal wasRefused).run requests).history = (report.run requests).history := by
  cases requests with
  | nil => rfl
  | cons request requests => rfl

end Refusals

/-- The part of a run before some update is a run, and the update is made from where
that run ends. -/
theorem run_of_history_eq {report : Report α MemorySink} {requests : List (UpdateRequest α)}
    {before after : List (HistoryEntry α)} {entry : HistoryEntry α}
    (split : (report.run requests).history = before ++ entry :: after) :
    (report.run (before.map (·.request))).history = before ∧
      ((report.run (before.map (·.request))).final.respond entry.request).outcome =
        entry.outcome := by
  induction before generalizing report requests with
  | nil =>
      cases requests with
      | nil => exact absurd split (by simp)
      | cons request requests =>
          rw [run_cons, List.nil_append, List.cons.injEq] at split
          rw [← split.1]
          exact ⟨rfl, rfl⟩
  | cons first before ih =>
      cases requests with
      | nil => exact absurd split (by simp)
      | cons request requests =>
          rw [run_cons, List.cons_append, List.cons.injEq] at split
          obtain ⟨firstEq, restEq⟩ := split
          obtain ⟨historyEq, outcomeEq⟩ := ih restEq
          rw [← firstEq, List.map_cons, run_cons, historyEq]
          exact ⟨rfl, outcomeEq⟩

/-! ## What stays the same, and what the history tells -/

section State

variable (report : Report α MemorySink)

theorem template_respond (request : UpdateRequest α) :
    (report.respond request).state.template = report.template := by
  by_cases emits : (report.respond request).outcome = .ok true
  · obtain ⟨line, -, stateEq⟩ := state_respond_of_ok emits
    rw [stateEq]
    rfl
  · rw [state_respond_of_ne emits, withRefusal_template]

theorem interval_respond (request : UpdateRequest α) :
    (report.respond request).state.interval = report.interval := by
  by_cases emits : (report.respond request).outcome = .ok true
  · obtain ⟨line, -, stateEq⟩ := state_respond_of_ok emits
    rw [stateEq]
    rfl
  · rw [state_respond_of_ne emits, withRefusal_interval]

@[simp]
theorem template_run (requests : List (UpdateRequest α)) :
    (report.run requests).final.template = report.template := by
  induction requests generalizing report with
  | nil => rfl
  | cons request requests ih => rw [run_cons, ih, template_respond]

@[simp]
theorem interval_run (requests : List (UpdateRequest α)) :
    (report.run requests).final.interval = report.interval := by
  induction requests generalizing report with
  | nil => rfl
  | cons request requests ih => rw [run_cons, ih, interval_respond]

/-- The schedule remembers the last line of the run, or what it remembered before. -/
theorem lastEmission?_run (requests : List (UpdateRequest α)) :
    (report.run requests).final.lastEmission? =
      ((emissions (report.run requests).history).getLast?.map (·.time)).or
        report.lastEmission? := by
  induction requests generalizing report with
  | nil => rfl
  | cons request requests ih =>
      rw [run_cons, ih]
      by_cases emits : (report.respond request).outcome = .ok true
      · obtain ⟨line, -, stateEq⟩ := state_respond_of_ok emits
        rw [emissions_cons_of_ok _ emits, List.getLast?_cons, stateEq]
        cases (emissions _).getLast? <;> rfl
      · rw [emissions_cons_of_ne _ emits, state_respond_of_ne emits, withRefusal_lastEmission?]

/-- A run adds to the sink one line for every update that wrote one. -/
theorem contents_run (requests : List (UpdateRequest α)) :
    ∃ lines, (emissions (report.run requests).history).mapM report.template.evaluate = .ok lines ∧
      (report.run requests).final.sink.contents =
        report.sink.contents ++ String.join (lines.map (· ++ "\n")) := by
  simp only [mapM_eq_ok_iff]
  induction requests generalizing report with
  | nil => exact ⟨[], .nil, by simp⟩
  | cons request requests ih =>
      obtain ⟨lines, evaluated, contentsEq⟩ := ih (report.respond request).state
      rw [template_respond] at evaluated
      rw [run_cons]
      by_cases emits : (report.respond request).outcome = .ok true
      · obtain ⟨line, lineEq, stateEq⟩ := state_respond_of_ok emits
        refine ⟨line :: lines, ?_, ?_⟩
        · rw [emissions_cons_of_ok _ emits]
          exact .cons lineEq evaluated
        · rw [contentsEq, stateEq]
          simp [afterLine, String.append_assoc]
      · refine ⟨lines, ?_, ?_⟩
        · rw [emissions_cons_of_ne _ emits]
          exact evaluated
        · rw [contentsEq, state_respond_of_ne emits, withRefusal_contents]

end State

end Report

end Telemetry
