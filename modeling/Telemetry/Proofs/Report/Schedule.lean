import Telemetry.Proofs.Report.Run
import Telemetry.Proofs.Scalar.Exact
import Mathlib.Data.List.Chain
import Mathlib.Tactic.Linarith

/-!
# The schedule of a report

An update is passed over exactly when a line has been written before, the interval is
not negative, and less than an interval has passed since the last line.  Every other
update is attempted.  Times may come in any order, updates may fail, and the sink may
break and be mended: a report only ever looks back to its last line.

Where times are exact, lines that follow one another are at least an interval apart,
so that the number of lines bounds the time between the first and the last.
-/

namespace Telemetry

/-- Steps of at least an interval add up. -/
theorem le_sub_of_isChain {interval : ℝ} {times : List ℝ}
    (spaced : times.IsChain fun earlier later => interval ≤ later - earlier)
    {first last : ℝ} (startsWith : times.head? = some first)
    (endsWith : times.getLast? = some last) :
    (times.length - 1 : ℝ) * interval ≤ last - first := by
  induction times generalizing first with
  | nil => exact absurd startsWith (by simp)
  | cons time times ih =>
      obtain rfl : time = first := by simpa using startsWith
      cases times with
      | nil =>
          obtain rfl : time = last := by simpa using endsWith
          simp
      | cons next times =>
          obtain ⟨step, others⟩ := List.isChain_cons_cons.mp spaced
          rw [List.getLast?_cons_cons] at endsWith
          have bound := ih others rfl endsWith
          simp only [List.length_cons, Nat.cast_add, Nat.cast_one] at bound ⊢
          linarith

variable {α : Type} [Scalar α]

namespace Report

theorem isDue_eq_false_iff (report : Report α MemorySink) (time : α) :
    report.isDue time = false ↔
      ∃ last, report.lastEmission? = some last ∧
        Scalar.less report.interval 0.0 = false ∧
        Scalar.atMost report.interval (time - last) = false := by
  unfold isDue
  cases report.lastEmission? with
  | none => simp
  | some last => simp

/-- When an update of a new report is made, the report remembers the last line before it. -/
theorem lastEmission?_of_history_eq {report : Report α MemorySink}
    (isNew : report.lastEmission? = none) {requests : List (UpdateRequest α)}
    {before after : List (HistoryEntry α)} {entry : HistoryEntry α}
    (split : (report.run requests).history = before ++ entry :: after) :
    (report.run (before.map (·.request))).final.lastEmission? =
      (emissions before).getLast?.map (·.time) := by
  rw [lastEmission?_run, (run_of_history_eq split).1, isNew, Option.or_none]

/-- An update of a new report is passed over if the time since the last line is
known to be too short, and attempted otherwise. -/
theorem outcome_of_history_eq {report : Report α MemorySink}
    (isNew : report.lastEmission? = none) {requests : List (UpdateRequest α)}
    {before after : List (HistoryEntry α)} {entry : HistoryEntry α}
    (split : (report.run requests).history = before ++ entry :: after) :
    (entry.outcome = .ok false ↔
      ∃ last, (emissions before).getLast? = some last ∧
        Scalar.less report.interval 0.0 = false ∧
        Scalar.atMost report.interval (entry.request.snapshot.time - last.time) = false) ∧
    (entry.outcome ≠ .ok false →
      entry.outcome = attempted report.template entry.request) := by
  obtain ⟨-, outcomeEq⟩ := run_of_history_eq split
  have remembered := lastEmission?_of_history_eq isNew split
  rw [outcome_respond, template_run] at outcomeEq
  have dueIff := isDue_eq_false_iff (report.run (before.map (·.request))).final
    entry.request.snapshot.time
  rw [remembered, interval_run] at dueIff
  simp only [Option.map_eq_some_iff, exists_exists_and_eq_and] at dueIff
  rw [← dueIff, ← outcomeEq]
  cases (report.run (before.map (·.request))).final.isDue entry.request.snapshot.time with
  | false => simp
  | true => simp [attempted_ne_ok_false]

/-- In exact time, an interval passes from each line to the next. -/
theorem isChain_emissions {report : Report α MemorySink} (isNew : report.lastEmission? = none)
    {value : α → ℝ} (exact : Scalar.IsExact value) (nonnegative : 0 ≤ value report.interval)
    {history : List (HistoryEntry α)}
    (isPart : ∃ requests after, (report.run requests).history = history ++ after) :
    (emissions history).IsChain fun earlier later =>
      value report.interval ≤ value later.time - value earlier.time := by
  induction history using List.reverseRecOn with
  | nil => exact .nil
  | append_singleton history entry ih =>
      obtain ⟨requests, after, split⟩ := isPart
      rw [List.append_assoc, List.singleton_append] at split
      have spaced := ih ⟨requests, entry :: after, split⟩
      rw [emissions_append]
      by_cases emits : entry.outcome = .ok true
      · rw [emissions_cons_of_ok _ emits, emissions_nil]
        refine spaced.append (.singleton _) ?_
        intro last isLast next isNext
        obtain rfl : entry.request.snapshot = next := by simpa using isNext
        -- The line was due although there was one before it, so an interval had passed.
        have notPassedOver : entry.outcome ≠ .ok false := by rw [emits]; simp
        rw [ne_eq, (outcome_of_history_eq isNew split).1] at notPassedOver
        push Not at notPassedOver
        have notNegative : Scalar.less report.interval 0.0 = false := by
          rw [Bool.eq_false_iff, ne_eq, exact.less_iff, exact.value_zero]
          exact not_lt.mpr nonnegative
        have passed := notPassedOver last isLast notNegative
        rwa [ne_eq, Bool.not_eq_false, exact.atMost_iff, exact.value_sub] at passed
      · rwa [emissions_cons_of_ne _ emits, emissions_nil, List.append_nil]

/-- What a report with an acceptable format does in a run.  The sink holds the lines
of the updates that wrote one, an update is passed over only while less than an
interval has passed since the last line, and in exact time the number of lines bounds
the time that they span. -/
theorem run_follows_schedule (spec : ReportSpec α) {template : Template}
    (accepted : Template.parse spec.format = .ok template) (requests : List (UpdateRequest α)) :
    ∃ report, Report.make spec MemorySink.empty = .ok report ∧
      (report.run requests).history.map (·.request) = requests ∧
      (∃ lines,
        (emissions (report.run requests).history).mapM template.evaluate = .ok lines ∧
          (report.run requests).final.sink.contents = String.join (lines.map (· ++ "\n"))) ∧
      (∀ before entry after, (report.run requests).history = before ++ entry :: after →
        (entry.outcome = .ok false ↔
          ∃ last, (emissions before).getLast? = some last ∧
            Scalar.less spec.interval 0.0 = false ∧
            Scalar.atMost spec.interval (entry.request.snapshot.time - last.time) = false) ∧
        (entry.outcome ≠ .ok false → entry.outcome = attempted template entry.request)) ∧
      ∀ value : α → ℝ, Scalar.IsExact value → 0 ≤ value spec.interval →
        ∀ first last, (emissions (report.run requests).history).head? = some first →
          (emissions (report.run requests).history).getLast? = some last →
          ((emissions (report.run requests).history).length - 1 : ℝ) * value spec.interval ≤
            value last.time - value first.time := by
  let report : Report α MemorySink :=
    { destination := spec.destination
      format := spec.format
      template := template
      parse_format := accepted
      interval := spec.interval
      lastEmission? := none
      sink := .empty }
  have made : Report.make spec MemorySink.empty = .ok report :=
    make_eq_ok spec MemorySink.empty accepted
  have isNew : report.lastEmission? = none := rfl
  refine ⟨report, made, report.map_request_run requests, ?_, ?_, ?_⟩
  · obtain ⟨lines, evaluated, contentsEq⟩ := report.contents_run requests
    exact ⟨lines, evaluated, by rw [contentsEq]; exact String.empty_append⟩
  · intro before entry after split
    exact outcome_of_history_eq isNew split
  · intro value exact nonnegative first last isFirst isLast
    have spaced := isChain_emissions isNew exact nonnegative
      ⟨requests, [], (List.append_nil _).symm⟩
    let times := (emissions (report.run requests).history).map fun snapshot => value snapshot.time
    have timesSpaced : times.IsChain fun earlier later => value spec.interval ≤ later - earlier :=
      (List.isChain_map _).mpr spaced
    have startsWith : times.head? = some (value first.time) := by
      rw [List.head?_map, isFirst, Option.map_some]
    have endsWith : times.getLast? = some (value last.time) := by
      rw [List.getLast?_map, isLast, Option.map_some]
    have bound := le_sub_of_isChain timesSpaced startsWith endsWith
    rwa [List.length_map] at bound

/-- The second of four updates comes too early and the third is refused. -/
theorem run_follows_schedule_of_names :
    letI := Scalar.exact (default : ElementaryFunctions ℚ)
    let requests : List (UpdateRequest ℚ) :=
      [.ofName false "a" 0, .ofName false "b" (1 / 2), .ofName true "c" 1, .ofName false "d" 2]
    Template.parse "#sn;" = .ok ⟨[.simulation .name, .literal ";"]⟩ ∧
      ∃ report, Report.make ⟨.console, (1 : ℚ), "#sn;"⟩ MemorySink.empty = .ok report ∧
        (report.run requests).history.map (·.outcome) =
          [.ok true, .ok false, .error (.io .brokenSink), .ok true] ∧
        (report.run requests).final.sink.contents = "a;\nd;\n" ∧
        ((emissions (report.run requests).history).length - 1 : ℝ) * ((1 : ℚ) : ℝ) ≤
          ((2 : ℚ) : ℝ) - ((0 : ℚ) : ℝ) := by
  let scalar := Scalar.exact (default : ElementaryFunctions ℚ)
  have accepted : Template.parse "#sn;" = .ok ⟨[.simulation .name, .literal ";"]⟩ := by
    with_unfolding_all rfl
  obtain ⟨report, made, -, -, -, spans⟩ :=
    run_follows_schedule ⟨.console, (1 : ℚ), "#sn;"⟩ accepted
      [.ofName false "a" 0, .ofName false "b" (1 / 2), .ofName true "c" 1, .ofName false "d" 2]
  have madeEq : Report.make ⟨.console, (1 : ℚ), "#sn;"⟩ MemorySink.empty =
      .ok ⟨.console, "#sn;", _, accepted, 1, none, .empty⟩ := by
    with_unfolding_all rfl
  obtain rfl := Except.ok.inj (made.symm.trans madeEq)
  have exact : Scalar.IsExact (Rat.castHom ℝ) :=
    Scalar.isExact_exact default (Rat.castHom ℝ) Rat.cast_strictMono
  have nonnegative : 0 ≤ Rat.castHom ℝ (1 : ℚ) := by
    rw [map_one]
    exact zero_le_one
  refine ⟨accepted, _, made, by with_unfolding_all rfl, by with_unfolding_all rfl, ?_⟩
  exact spans (Rat.castHom ℝ) exact nonnegative (UpdateRequest.ofName false "a" 0).snapshot
    (UpdateRequest.ofName false "d" 2).snapshot (by with_unfolding_all rfl)
    (by with_unfolding_all rfl)

end Report

end Telemetry
