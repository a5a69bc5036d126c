import Telemetry.Proofs.Report.Schedule
import Telemetry.Lint.Findings
import Telemetry.Scalar.Binary64

/-!
# Intervals that hold no line back

A report with a negative interval attempts every update.  Every other interval is the time
that has to go by since the last line, so that with interval zero an update is due as soon
as this time is not negative.  The two are often taken for the same, and they are as long as
no update is earlier than the last line before it.  An update that is earlier is passed over
with interval zero.

A step of a report uses the interval only to tell whether an update is due, so that two
runs with different intervals are the same if this makes no difference along one of them.
-/

namespace Telemetry

variable {α : Type}

/-- No update is earlier than the last line before it. -/
def NeverBehindLastLine [Scalar α] (history : List (HistoryEntry α)) : Prop :=
  ∀ before entry after last, history = before ++ entry :: after →
    (emissions before).getLast? = some last →
      Scalar.atMost 0.0 (entry.request.snapshot.time - last.time) = true

/-- Where differences of times are exact, it is enough that times never decrease. -/
theorem neverBehindLastLine_of_isChain [Scalar α] {value : α → ℝ} (exact : Scalar.IsExact value)
    {history : List (HistoryEntry α)}
    (ordered : (history.map fun entry => value entry.request.snapshot.time).IsChain (· ≤ ·)) :
    NeverBehindLastLine history := by
  intro before entry after last split isLast
  obtain ⟨earlier, member, emitted⟩ :=
    List.mem_filterMap.mp (List.mem_of_getLast? isLast)
  have lastEq : earlier.request.snapshot = last := by
    unfold HistoryEntry.emission? at emitted
    split at emitted
    · exact Option.some.inj emitted
    · exact absurd emitted (by simp)
  have pairwise := List.isChain_iff_pairwise.mp ordered
  rw [split, List.map_append, List.map_cons, List.pairwise_append] at pairwise
  have le : value earlier.request.snapshot.time ≤ value entry.request.snapshot.time :=
    pairwise.2.2 _ (List.mem_map_of_mem member) _ List.mem_cons_self
  rw [exact.atMost_iff, exact.value_zero, exact.value_sub, ← lastEq]
  exact sub_nonneg.mpr le

/-- A request for an empty simulation at a given time. -/
def UpdateRequest.ofTime [Scalar α] (time : α) : UpdateRequest α where
  isRefused := false
  snapshot := { (Simulation.empty : Simulation α).snapshot with time := time }

theorem Template.parse_time : Template.parse "#st" = .ok ⟨[.simulation .time]⟩ := by
  with_unfolding_all rfl

namespace Report

/-- The same report with another interval. -/
def withInterval (interval : α) (report : Report α MemorySink) : Report α MemorySink :=
  { report with interval := interval }

section WithInterval

variable (interval : α) (report : Report α MemorySink)

@[simp]
theorem withInterval_template : (report.withInterval interval).template = report.template :=
  rfl

@[simp]
theorem withInterval_interval : (report.withInterval interval).interval = interval :=
  rfl

@[simp]
theorem withInterval_lastEmission? :
    (report.withInterval interval).lastEmission? = report.lastEmission? :=
  rfl

@[simp]
theorem withInterval_sink : (report.withInterval interval).sink = report.sink :=
  rfl

end WithInterval

variable [Scalar α]

/-- An update uses the interval only to tell whether it is due. -/
theorem respond_withInterval {report : Report α MemorySink} {interval : α}
    {request : UpdateRequest α}
    (sameDue : (report.withInterval interval).isDue request.snapshot.time =
      report.isDue request.snapshot.time) :
    (report.withInterval interval).respond request =
      { outcome := (report.respond request).outcome
        state := (report.respond request).state.withInterval interval
        shared := () } := by
  rw [respond_eq, respond_eq, sameDue, withInterval_template]
  cases report.isDue request.snapshot.time with
  | false => rfl
  | true =>
      cases report.template.evaluate request.snapshot with
      | error cause => rfl
      | ok line => cases request.isRefused <;> rfl

/-- A run with another interval is the same if the same updates are due along it. -/
theorem run_withInterval {report : Report α MemorySink} {interval : α}
    {requests : List (UpdateRequest α)}
    (sameDue : ∀ before entry after, (report.run requests).history = before ++ entry :: after →
      ((report.run (before.map (·.request))).final.withInterval interval).isDue
          entry.request.snapshot.time =
        (report.run (before.map (·.request))).final.isDue entry.request.snapshot.time) :
    (report.withInterval interval).run requests =
      { history := (report.run requests).history
        final := (report.run requests).final.withInterval interval } := by
  induction requests generalizing report with
  | nil => rfl
  | cons request requests ih =>
      have firstDue : (report.withInterval interval).isDue request.snapshot.time =
          report.isDue request.snapshot.time := sameDue [] _ _ rfl
      have rest := ih fun before entry after split =>
        sameDue (⟨request, (report.respond request).outcome⟩ :: before) entry after
          (by rw [run_cons, split]; rfl)
      rw [run_cons, respond_withInterval firstDue, rest]
      rfl

section NewReport

variable {report : Report α MemorySink} {requests : List (UpdateRequest α)}

theorem isDue_of_negative (isNegative : Scalar.less report.interval 0.0 = true) (time : α) :
    report.isDue time = true := by
  rw [← Bool.not_eq_false, isDue_eq_false_iff]
  rintro ⟨last, -, notNegative, -⟩
  exact absurd (isNegative.symm.trans notNegative) (by simp)

/-- A report with a negative interval passes nothing over. -/
theorem map_outcome_run_of_negative (isNegative : Scalar.less report.interval 0.0 = true) :
    (report.run requests).history.map (·.outcome) =
      requests.map (attempted report.template) := by
  induction requests generalizing report with
  | nil => rfl
  | cons request requests ih =>
      have stillNegative :
          Scalar.less (report.respond request).state.interval 0.0 = true := by
        rw [interval_respond]
        exact isNegative
      have rest := ih stillNegative
      rw [run_cons, List.map_cons, rest, template_respond, outcome_respond,
        if_pos (isDue_of_negative isNegative _), List.map_cons]

/-- Along a run with a negative interval, the same updates are due with interval zero as long
as none is earlier than the last line. -/
theorem isDue_withInterval_zero (isNew : report.lastEmission? = none)
    {before after : List (HistoryEntry α)} {entry : HistoryEntry α}
    (split : (report.run requests).history = before ++ entry :: after)
    (inOrder : NeverBehindLastLine (report.run requests).history) :
    ((report.run (before.map (·.request))).final.withInterval 0.0).isDue
      entry.request.snapshot.time = true := by
  rw [← Bool.not_eq_false, isDue_eq_false_iff]
  rintro ⟨time, remembered, -, tooEarly⟩
  rw [withInterval_lastEmission?, lastEmission?_of_history_eq isNew split,
    Option.map_eq_some_iff] at remembered
  obtain ⟨last, isLast, rfl⟩ := remembered
  have notBehind := inOrder before entry after last split isLast
  rw [withInterval_interval] at tooEarly
  exact absurd (notBehind.symm.trans tooEarly) (by simp)

theorem run_withInterval_zero (isNew : report.lastEmission? = none)
    (isNegative : Scalar.less report.interval 0.0 = true)
    (inOrder : NeverBehindLastLine (report.run requests).history) :
    (report.withInterval 0.0).run requests =
      { history := (report.run requests).history
        final := (report.run requests).final.withInterval 0.0 } := by
  refine run_withInterval fun before entry after split => ?_
  rw [isDue_withInterval_zero isNew split inOrder, isDue_of_negative]
  rw [interval_run]
  exact isNegative

/-- Interval zero and a negative interval give the same results exactly when no update is
earlier than the last line before it. -/
theorem history_withInterval_zero_iff (isNew : report.lastEmission? = none)
    (isNegative : Scalar.less report.interval 0.0 = true)
    (zeroNotNegative : Scalar.less (0.0 : α) 0.0 = false) :
    ((report.withInterval 0.0).run requests).history = (report.run requests).history ↔
      NeverBehindLastLine (report.run requests).history := by
  constructor
  · intro sameHistory before entry after last split isLast
    by_contra tooEarly
    have zeroSplit : ((report.withInterval 0.0).run requests).history =
        before ++ entry :: after := sameHistory.trans split
    have zeroIsNew : (report.withInterval 0.0).lastEmission? = none := isNew
    obtain ⟨passedOverIff, -⟩ := outcome_of_history_eq zeroIsNew zeroSplit
    have passedOver : entry.outcome = .ok false :=
      passedOverIff.mpr ⟨last, isLast, zeroNotNegative, Bool.eq_false_iff.mpr tooEarly⟩
    obtain ⟨attemptedIff, -⟩ := outcome_of_history_eq isNew split
    obtain ⟨_, -, notNegative, -⟩ := attemptedIff.mp passedOver
    exact absurd (isNegative.symm.trans notNegative) (by simp)
  · intro inOrder
    rw [run_withInterval_zero isNew isNegative inOrder]

end NewReport

/-- With interval zero a report passes an update over exactly when it is earlier than the last
line, and with a negative interval it passes nothing over; besides, both do the same.  They
return the same results exactly when no update is earlier than the last line before it, and
their sinks are the same then.  Where times are exact, this is so if they never decrease. -/
theorem zero_interval_emits_as_negative_iff (destination : Destination) {format : String}
    {template : Template} (accepted : Template.parse format = .ok template) {negative : α}
    (isNegative : Scalar.less negative 0.0 = true)
    (zeroNotNegative : Scalar.less (0.0 : α) 0.0 = false)
    (requests : List (UpdateRequest α)) :
    ∃ ofZero ofNegative : Report α MemorySink,
      Report.make ⟨destination, 0.0, format⟩ MemorySink.empty = .ok ofZero ∧
      Report.make ⟨destination, negative, format⟩ MemorySink.empty = .ok ofNegative ∧
      (ofNegative.run requests).history.map (·.outcome) = requests.map (attempted template) ∧
      (∀ before entry after, (ofZero.run requests).history = before ++ entry :: after →
        (entry.outcome = .ok false ↔ ∃ last, (emissions before).getLast? = some last ∧
          Scalar.atMost 0.0 (entry.request.snapshot.time - last.time) = false) ∧
        (entry.outcome ≠ .ok false → entry.outcome = attempted template entry.request)) ∧
      ((ofZero.run requests).history = (ofNegative.run requests).history ↔
        NeverBehindLastLine (ofNegative.run requests).history) ∧
      (NeverBehindLastLine (ofNegative.run requests).history →
        (ofZero.run requests).final.sink = (ofNegative.run requests).final.sink) ∧
      ∀ value : α → ℝ, Scalar.IsExact value →
        (requests.map fun request => value request.snapshot.time).IsChain (· ≤ ·) →
          NeverBehindLastLine (ofNegative.run requests).history := by
  let ofNegative : Report α MemorySink :=
    { destination := destination
      format := format
      template := template
      parse_format := accepted
      interval := negative
      lastEmission? := none
      sink := .empty }
  have isNew : ofNegative.lastEmission? = none := rfl
  have zeroIsNew : (ofNegative.withInterval 0.0).lastEmission? = none := rfl
  refine ⟨ofNegative.withInterval 0.0, ofNegative, ?_, ?_, ?_, ?_, ?_, ?_, ?_⟩
  · exact make_eq_ok ⟨destination, 0.0, format⟩ MemorySink.empty accepted
  · exact make_eq_ok ⟨destination, negative, format⟩ MemorySink.empty accepted
  · exact map_outcome_run_of_negative isNegative
  · intro before entry after split
    obtain ⟨passedOverIff, attempt⟩ := outcome_of_history_eq zeroIsNew split
    refine ⟨passedOverIff.trans ?_, attempt⟩
    rw [withInterval_interval, zeroNotNegative]
    simp only [true_and]
  · exact history_withInterval_zero_iff isNew isNegative zeroNotNegative
  · intro inOrder
    rw [run_withInterval_zero isNew isNegative inOrder, withInterval_sink]
  · intro value exact ordered
    apply neverBehindLastLine_of_isChain exact
    have timesEq : (ofNegative.run requests).history.map
        (fun entry => value entry.request.snapshot.time) =
          requests.map fun request => value request.snapshot.time := by
      conv_rhs => rw [← ofNegative.map_request_run requests, List.map_map]
      rfl
    rw [timesEq]
    exact ordered

/-- A time that is repeated holds no line back, and the third of four updates is refused. -/
theorem zero_interval_emits_as_negative_iff_of_names :
    letI := Scalar.exact (default : ElementaryFunctions ℚ)
    let requests : List (UpdateRequest ℚ) :=
      [.ofName false "a" 0, .ofName false "b" 0, .ofName true "c" 1, .ofName false "d" 2]
    Template.parse "#sn;" = .ok ⟨[.simulation .name, .literal ";"]⟩ ∧
      ∃ ofZero ofNegative : Report ℚ MemorySink,
        Report.make ⟨.console, (0 : ℚ), "#sn;"⟩ MemorySink.empty = .ok ofZero ∧
        Report.make ⟨.console, (-1 : ℚ), "#sn;"⟩ MemorySink.empty = .ok ofNegative ∧
        (ofZero.run requests).history = (ofNegative.run requests).history ∧
        (ofZero.run requests).final.sink = (ofNegative.run requests).final.sink := by
  let scalar := Scalar.exact (default : ElementaryFunctions ℚ)
  let requests : List (UpdateRequest ℚ) :=
    [.ofName false "a" 0, .ofName false "b" 0, .ofName true "c" 1, .ofName false "d" 2]
  have accepted : Template.parse "#sn;" = .ok ⟨[.simulation .name, .literal ";"]⟩ := by
    with_unfolding_all rfl
  have zeroEq : @OfScientific.ofScientific ℚ scalar.toOfScientific 0 true 1 = 0 :=
    Scalar.exact_zero default
  have isNegative :
      Scalar.less (-1) (@OfScientific.ofScientific ℚ scalar.toOfScientific 0 true 1) = true := by
    rw [zeroEq, Scalar.exact_less_iff]
    norm_num
  have zeroNotNegative :
      Scalar.less (@OfScientific.ofScientific ℚ scalar.toOfScientific 0 true 1)
        (@OfScientific.ofScientific ℚ scalar.toOfScientific 0 true 1) = false := by
    rw [← Bool.not_eq_true, Scalar.exact_less_iff]
    exact lt_irrefl _
  obtain ⟨ofZero, ofNegative, zeroMade, negativeMade, -, -, sameIff, sameSink, inOrder⟩ :=
    zero_interval_emits_as_negative_iff .console accepted isNegative zeroNotNegative requests
  rw [zeroEq] at zeroMade
  have exact : Scalar.IsExact (Rat.castHom ℝ) :=
    Scalar.isExact_exact default (Rat.castHom ℝ) Rat.cast_strictMono
  have ordered : requests.IsChain fun earlier later =>
      earlier.snapshot.time ≤ later.snapshot.time := by
    simp [requests, UpdateRequest.ofName]
  have castOrdered : (requests.map fun request =>
      Rat.castHom ℝ request.snapshot.time).IsChain (· ≤ ·) := by
    rw [List.isChain_map]
    exact ordered.imp fun _ _ le => Rat.cast_mono le
  have neverBehind := inOrder (Rat.castHom ℝ) exact castOrdered
  exact ⟨accepted, ofZero, ofNegative, zeroMade, negativeMade, sameIff.mpr neverBehind,
    sameSink neverBehind⟩

/-- A new report that shows the simulated time. -/
def ofTimes (interval : Float) : Report Float MemorySink where
  destination := .console
  format := "#st"
  template := ⟨[.simulation .time]⟩
  parse_format := Template.parse_time
  interval := interval
  lastEmission? := none
  sink := .empty

/-- The second update is earlier than the first, so that it is not due with interval zero and
is with a negative interval.  The advice of the linter, which is given on the former, takes
no account of times that run backwards. -/
theorem zero_interval_passes_over_earlier_update :
    Report.make ⟨.console, 0.0, "#st"⟩ MemorySink.empty = .ok (ofTimes 0.0) ∧
      Report.make ⟨.console, -1.0, "#st"⟩ MemorySink.empty = .ok (ofTimes (-1.0)) ∧
      ((ofTimes (-1.0)).run [.ofTime 1.0, .ofTime 0.5]).history.map (·.outcome) =
        [.ok true, .ok true] ∧
      ((ofTimes 0.0).run [.ofTime 1.0, .ofTime 0.5]).history.map (·.outcome) =
        [.ok true, .ok false] ∧
      ((ofTimes (-1.0)).run [.ofTime 1.0, .ofTime 0.5]).final.sink.contents = "1.0\n0.5\n" ∧
      ((ofTimes 0.0).run [.ofTime 1.0, .ofTime 0.5]).final.sink.contents = "1.0\n" ∧
      (Findings.ofSpecs [(⟨.console, 0.0, "#st"⟩ : ReportSpec Float)]).warnings.map
          LintWarning.message =
        ["console: interval 0 emits on every update; use a negative interval to say so"] := by
  refine ⟨?_, ?_, ?_, ?_, ?_, ?_, ?_⟩
  · exact make_eq_ok ⟨.console, 0.0, "#st"⟩ MemorySink.empty Template.parse_time
  · exact make_eq_ok ⟨.console, -1.0, "#st"⟩ MemorySink.empty Template.parse_time
  · decide +kernel
  · decide +kernel
  · decide +kernel
  · decide +kernel
  · decide +kernel

end Report

end Telemetry
