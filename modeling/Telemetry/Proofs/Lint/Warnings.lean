import Telemetry.Proofs.Template.Tokens
import Telemetry.Scalar.Binary64

/-!
# What the linter warns of

A warning is about one report definition, and it depends on this definition only.  It is
given for every definition whose format string can be read.

A format string without value tokens shows the same separators in every line.  The linter
looks for this at the top level only: it warns when a format string holds nothing but
separators, and stays silent as soon as there is a list block, be there a value token
inside of it or not.
-/

namespace Telemetry

/-- The report definition that a warning is about. -/
def LintWarning.spec {α : Type} : LintWarning α → ReportSpec α
  | .zeroInterval spec => spec
  | .noValues spec => spec
  | .keptSeparator spec _ => spec

namespace Findings

variable {α : Type}

theorem sound?_eq_some_iff {spec : ReportSpec α} {sound : ReportSpec α × Template} :
    sound? spec = some sound ↔ Template.parse spec.format = .ok sound.2 ∧ spec = sound.1 := by
  obtain ⟨itsSpec, template⟩ := sound
  unfold sound?
  cases Template.parse spec.format with
  | ok parsed => simp [Except.toOption, and_comm]
  | error cause => simp [Except.toOption]

section Warnings

variable [Scalar α]

theorem spec_of_mem_warningsOf {spec : ReportSpec α} {template : Template}
    {warning : LintWarning α} (member : warning ∈ warningsOf spec template) :
    warning.spec = spec := by
  unfold warningsOf at member
  rcases List.mem_append.mp member with isEarlier | isKept
  · rcases List.mem_append.mp isEarlier with isZero | isConstant
    · split at isZero
      · rw [List.mem_singleton.mp isZero]
        rfl
      · exact absurd isZero List.not_mem_nil
    · split at isConstant
      · rw [List.mem_singleton.mp isConstant]
        rfl
      · exact absurd isConstant List.not_mem_nil
  · obtain ⟨block, -, rfl⟩ := List.mem_map.mp isKept
    rfl

/-- The warnings about a definition are those that its own template gives rise to. -/
theorem mem_warnings_ofSpecs_iff {specs : List (ReportSpec α)} {template : Template}
    {warning : LintWarning α} (member : warning.spec ∈ specs)
    (accepted : Template.parse warning.spec.format = .ok template) :
    warning ∈ (ofSpecs specs).warnings ↔ warning ∈ warningsOf warning.spec template := by
  have isSound : sound? warning.spec = some (warning.spec, template) :=
    sound?_eq_some_iff.mpr ⟨accepted, rfl⟩
  constructor
  · intro isGiven
    obtain ⟨⟨spec, itsTemplate⟩, soundMember, inItsWarnings⟩ := List.mem_flatMap.mp isGiven
    obtain ⟨other, -, otherSound⟩ := List.mem_filterMap.mp soundMember
    obtain ⟨itsAccepted, rfl⟩ := sound?_eq_some_iff.mp otherSound
    obtain rfl : warning.spec = other := spec_of_mem_warningsOf inItsWarnings
    obtain rfl : template = itsTemplate := Except.ok.inj (accepted.symm.trans itsAccepted)
    exact inItsWarnings
  · intro inWarnings
    exact List.mem_flatMap.mpr ⟨(warning.spec, template),
      List.mem_filterMap.mpr ⟨warning.spec, member, isSound⟩, inWarnings⟩

theorem noValues_mem_warningsOf_iff {spec : ReportSpec α} {template : Template} :
    .noValues spec ∈ warningsOf spec template ↔ template.isConstant = true := by
  cases constant : template.isConstant <;> simp [warningsOf, constant]

theorem keptSeparator_mem_warningsOf_iff {spec : ReportSpec α} {template : Template}
    {block : Group} :
    .keptSeparator spec block ∈ warningsOf spec template ↔ block ∈ template.keptSeparators := by
  simp [warningsOf]

end Warnings

end Findings

namespace Template

theorem nodeTokens_eq_nil_iff (node : Node) :
    nodeTokens node = [] ∧ (∀ block, node ≠ .group block) ↔ node.isLiteral = true := by
  cases node <;> simp [nodeTokens, Node.isLiteral]

/-- A template is constant when it has neither value tokens nor groups. -/
theorem isConstant_iff (template : Template) :
    template.isConstant = true ↔
      template.valueTokens = [] ∧ ∀ block, .group block ∉ template.nodes := by
  have isConstantEq : template.isConstant = template.nodes.all Node.isLiteral := rfl
  rw [isConstantEq, List.all_eq_true, valueTokens, List.flatMap_eq_nil_iff]
  simp only [← nodeTokens_eq_nil_iff]
  constructor
  · intro literals
    refine ⟨fun node member => (literals node member).1, fun block member => ?_⟩
    exact (literals _ member).2 block rfl
  · rintro ⟨noTokens, noGroups⟩ node member
    refine ⟨noTokens node member, ?_⟩
    rintro block rfl
    exact noGroups block member

/-- Opening braces stand at the groups of a template only. -/
theorem brace_mem_iff_of_parse {format : String} {template : Template}
    (parsed : parse format = .ok template) :
    '\x7b' ∈ format.toList ↔ ∃ block, .group block ∈ template.nodes := by
  constructor
  · intro member
    obtain ⟨lexemes, complete, read⟩ := parse_eq_ok_iff.mp parsed
    obtain ⟨-, nothingLost⟩ := Scan.toExcept_ofChars_eq_ok_iff.mp complete
    rw [← nothingLost] at member
    obtain ⟨lexeme, lexemeMember, inText⟩ := List.mem_flatMap.mp member
    have spells := Scan.spells_of_toExcept complete lexemeMember
    obtain ⟨interior, isList⟩ : ∃ interior, lexeme.kind = .list interior := by
      by_contra notList
      push Not at notList
      exact spells.brace_notMem notList inText
    obtain ⟨node, nodeMember, nodeEq⟩ := exists_related_of_mem read lexemeMember
    obtain ⟨pieceEq, -⟩ := (Lexeme.node_eq_ok_iff spells).mp nodeEq
    obtain ⟨block, rfl⟩ :=
      Node.exists_group_of_kind ((congrArg Prod.fst pieceEq).trans isList)
    exact ⟨block, nodeMember⟩
  · rintro ⟨block, member⟩
    obtain ⟨-, rfl⟩ := parse_eq_ok_iff_wellFormed.mp parsed
    rw [text_toList]
    refine List.mem_flatMap.mpr ⟨_, List.mem_map_of_mem member, ?_⟩
    show '\x7b' ∈ block.text.toList
    rw [block.text_toList]
    exact List.mem_cons_self

end Template

namespace Findings

variable {α : Type} [Scalar α]

/-- A format string has no value tokens exactly when it has no number sign.  The linter
warns of it exactly when, besides, it has no list block. -/
theorem noValues_mem_warnings_iff {specs : List (ReportSpec α)} {spec : ReportSpec α}
    {template : Template} (member : spec ∈ specs)
    (accepted : Template.parse spec.format = .ok template) :
    (template.valueTokens = [] ↔ '#' ∉ spec.format.toList) ∧
    ((∀ block, .group block ∉ template.nodes) ↔ '\x7b' ∉ spec.format.toList) ∧
    (.noValues spec ∈ (ofSpecs specs).warnings ↔
      '#' ∉ spec.format.toList ∧ '\x7b' ∉ spec.format.toList) := by
  have tokensIff := Template.valueTokens_eq_nil_iff accepted
  have groupsIff : (∀ block, .group block ∉ template.nodes) ↔ '\x7b' ∉ spec.format.toList := by
    rw [Template.brace_mem_iff_of_parse accepted, not_exists]
  have warningsIff : .noValues spec ∈ (ofSpecs specs).warnings ↔
      .noValues spec ∈ warningsOf spec template := mem_warnings_ofSpecs_iff member accepted
  refine ⟨tokensIff, groupsIff, ?_⟩
  rw [warningsIff, noValues_mem_warningsOf_iff, Template.isConstant_iff, tokensIff, groupsIff]

/-- One definition of several, and nothing but separators. -/
theorem noValues_mem_warnings_iff_of_separators :
    let spec : ReportSpec Float := ⟨.console, 0.5, "; "⟩
    let specs : List (ReportSpec Float) := [⟨.file "mass.txt", 0.5, "\x7b#pm\x7d"⟩, spec]
    Template.parse spec.format = .ok ⟨[.literal "; "]⟩ ∧
      (Template.valueTokens ⟨[.literal "; "]⟩ = [] ↔ '#' ∉ spec.format.toList) ∧
      (.noValues spec ∈ (ofSpecs specs).warnings ↔
        '#' ∉ spec.format.toList ∧ '\x7b' ∉ spec.format.toList) ∧
      .noValues spec ∈ (ofSpecs specs).warnings := by
  intro spec specs
  have accepted : Template.parse "; " = .ok ⟨[.literal "; "]⟩ := by with_unfolding_all rfl
  have member : spec ∈ specs := List.mem_cons_of_mem _ (List.mem_singleton_self spec)
  obtain ⟨tokensIff, -, warningsIff⟩ := noValues_mem_warnings_iff member accepted
  exact ⟨accepted, tokensIff, warningsIff, warningsIff.mpr ⟨by decide, by decide⟩⟩

/-- A list block without value tokens repeats its separators and nothing else. -/
theorem noValues_notMem_warnings_of_separators_in_block :
    let spec : ReportSpec Float := ⟨.console, 0.5, "\x7b,\x7d"⟩
    Template.parse spec.format = .ok ⟨[.group ⟨[.literal ","], true⟩]⟩ ∧
      Template.valueTokens ⟨[.group ⟨[.literal ","], true⟩]⟩ = [] ∧
      '#' ∉ spec.format.toList ∧
      (ofSpecs [spec]).warnings = [] := by
  refine ⟨by with_unfolding_all rfl, rfl, by decide, by with_unfolding_all rfl⟩

end Findings

end Telemetry
