import Telemetry.Lint.Explanation
import Telemetry.Proofs.Lint.Warnings
import Telemetry.Proofs.Template.Joining

/-!
# The separator behind the last particle

A list block may end with a separator.  Behind the last particle the separator is dropped
if the block ends the format string, and kept if something follows.  Reading decides this
from offsets, rendering cuts the separator off the finished text, and the linter looks for
blocks before the last node.  This file proves that the three agree: the linter warns of a
block exactly when its lines have the separator behind the last particle.
-/

namespace Telemetry

namespace Template

theorem endsWithLiteral_iff {block : Group} :
    endsWithLiteral block = true ↔
      ∃ separator, block.items.getLast? = some (.literal separator) := by
  unfold endsWithLiteral
  cases lastEq : block.items.getLast? with
  | none => simp
  | some last => cases last <;> simp

/-- The block that a node is, if it ends with a literal. -/
def blockEndingWithLiteral? : Node → Option Group
  | .group block => if endsWithLiteral block then some block else none
  | _ => none

theorem blockEndingWithLiteral?_eq_some_iff {node : Node} {block : Group} :
    blockEndingWithLiteral? node = some block ↔
      node = .group block ∧ endsWithLiteral block = true := by
  cases node with
  | group other =>
      simp only [blockEndingWithLiteral?, Node.group.injEq]
      split
      · rename_i ends
        rw [Option.some.injEq]
        exact ⟨fun same => ⟨same, same ▸ ends⟩, And.left⟩
      · rename_i doesNotEnd
        simp only [reduceCtorEq, false_iff]
        rintro ⟨rfl, ends⟩
        exact doesNotEnd ends
  | _ => simp [blockEndingWithLiteral?]

theorem keptSeparators_eq (template : Template) :
    template.keptSeparators = template.nodes.dropLast.filterMap blockEndingWithLiteral? :=
  rfl

theorem mem_keptSeparators_iff {template : Template} {block : Group} :
    block ∈ template.keptSeparators ↔
      .group block ∈ template.nodes.dropLast ∧ endsWithLiteral block = true := by
  rw [keptSeparators_eq, List.mem_filterMap]
  simp only [blockEndingWithLiteral?_eq_some_iff]
  constructor
  · rintro ⟨_, member, rfl, ends⟩
    exact ⟨member, ends⟩
  · rintro ⟨member, ends⟩
    exact ⟨.group block, member, rfl, ends⟩

/-- A block elides its separator unless another node follows. -/
theorem WellFormed.elides_iff_of_split {template : Template} (wellFormed : template.WellFormed)
    {before after : List Node} {block : Group}
    (split : template.nodes = before ++ .group block :: after) :
    block.elidesTrailingSeparator = true ↔ after = [] := by
  have position : template.nodes[before.length]? = some (.group block) := by
    rw [split, List.getElem?_append_right le_rfl, Nat.sub_self, List.getElem?_cons_zero]
  rw [wellFormed.elides_iff_last _ _ position, split, List.length_append, List.length_cons,
    ← List.length_eq_zero_iff]
  omega

/-- The linter finds a block that ends with a separator in every place it stands, unless the
block elides the separator. -/
theorem WellFormed.count_keptSeparators {template : Template} (wellFormed : template.WellFormed)
    {block : Group} (ends : endsWithLiteral block = true)
    (keeps : block.elidesTrailingSeparator = false) :
    template.keptSeparators.count block = template.nodes.count (.group block) := by
  have countEq : template.keptSeparators.count block =
      template.nodes.dropLast.count (.group block) := by
    rw [keptSeparators_eq, List.count_filterMap, List.count]
    refine List.countP_congr fun node _ => ?_
    rw [beq_iff_eq, beq_iff_eq, blockEndingWithLiteral?_eq_some_iff, and_iff_left ends]
  rw [countEq]
  rcases List.eq_nil_or_concat' template.nodes with none | ⟨others, last, split⟩
  · rw [none]
    rfl
  · have notLast : last ≠ .group block := by
      rintro rfl
      rw [(wellFormed.elides_iff_of_split split).mpr rfl] at keeps
      exact absurd keeps (by simp)
    rw [split, List.dropLast_concat, List.count_append, List.count_singleton,
      if_neg (by simpa using notLast), Nat.add_zero]

end Template

section Lines

variable {α : Type} [Scalar α]

/-- A line consists of what the nodes before a block write, of a text that the block puts
behind it, and of what the nodes after the block write. -/
def Group.Contributes (block : Group) (before after : List Node) (snapshot : Snapshot α)
    (text line : String) : Prop :=
  ∃ front back : String,
    Template.evaluate ⟨before⟩ snapshot = .ok front ∧
      (block.write snapshot front).outcome = .ok (front ++ text) ∧
      Template.evaluate ⟨after⟩ snapshot = .ok back ∧
      line = front ++ text ++ back

theorem Template.exists_contributes {template : Template} {before after : List Node}
    {block : Group} (split : template.nodes = before ++ .group block :: after)
    {snapshot : Snapshot α} {line : String} (evaluated : template.evaluate snapshot = .ok line) :
    ∃ text, block.meaning snapshot = .ok text ∧
      block.Contributes before after snapshot text line := by
  obtain ⟨nodes⟩ := template
  obtain rfl : nodes = before ++ .group block :: after := split
  rw [evaluate, outcome_evaluateMetered, meaning_nodes_append, meaning_cons] at evaluated
  obtain ⟨front, frontEq, evaluated⟩ := bind_eq_ok_iff.mp evaluated
  obtain ⟨rest, restEq, lineEq⟩ := bind_eq_ok_iff.mp evaluated
  obtain ⟨text, textEq, restEq⟩ := bind_eq_ok_iff.mp restEq
  obtain ⟨back, backEq, restEq⟩ := bind_eq_ok_iff.mp restEq
  obtain rfl := pure_eq_ok_iff.mp restEq
  obtain rfl := pure_eq_ok_iff.mp lineEq
  refine ⟨text, textEq, front, back, ?_, ?_, ?_, String.append_assoc.symm⟩
  · rw [evaluate, outcome_evaluateMetered, frontEq]
  · have meant : block.meaning snapshot = .ok text := textEq
    rw [block.outcome_write, meant]
    rfl
  · rw [evaluate, outcome_evaluateMetered, backEq]

/-- A separator behind each of some texts is one between them and one behind the last. -/
theorem join_map_append {separator : String} {texts : List String} (nonempty : texts ≠ []) :
    String.join (texts.map (· ++ separator)) = separator.intercalate texts ++ separator := by
  induction texts with
  | nil => exact absurd rfl nonempty
  | cons text texts ih =>
      by_cases noneLeft : texts = []
      · rw [noneLeft]
        simp
      · rw [List.map_cons, String.join_cons, ih noneLeft,
          String.intercalate_cons_of_ne_nil noneLeft]
        simp only [String.append_assoc]

/-- In the line of a template, a block contributes what is made of the expansions of some of
its items, one for each particle. -/
def Group.ContributesExpansions (block : Group) (before after : List Node) (items : List Item)
    (joined : List String → String) (snapshot : Snapshot α) (line : String) : Prop :=
  ∃ expansions,
    snapshot.bodies.zipIdx.mapM (Item.expansion snapshot items) = .ok expansions ∧
      block.Contributes before after snapshot (joined expansions) line

section Contributions

variable {template : Template} {before after : List Node} {block : Group} {separator : String}
  {snapshot : Snapshot α} {line : String}

theorem contributesExpansions_of_some
    (split : template.nodes = before ++ .group block :: after)
    (evaluated : template.evaluate snapshot = .ok line)
    (elides : block.trailingSeparator? = some separator) :
    block.ContributesExpansions before after block.items.dropLast separator.intercalate
      snapshot line := by
  obtain ⟨text, meant, contributes⟩ := template.exists_contributes split evaluated
  rw [Group.meaning, Group.repetitions_of_some elides] at meant
  obtain ⟨expansions, expanded, rfl⟩ := map_eq_ok_iff.mp meant
  exact ⟨expansions, expanded, contributes⟩

theorem contributesExpansions_of_none
    (split : template.nodes = before ++ .group block :: after)
    (evaluated : template.evaluate snapshot = .ok line)
    (keeps : block.trailingSeparator? = none) :
    block.ContributesExpansions before after block.items String.join snapshot line := by
  obtain ⟨text, meant, contributes⟩ := template.exists_contributes split evaluated
  rw [Group.meaning, Group.repetitions_of_none keeps] at meant
  obtain ⟨expansions, expanded, rfl⟩ := map_eq_ok_iff.mp meant
  exact ⟨expansions, expanded, contributes⟩

/-- Where a separator is kept, it stands between the particles and behind the last one. -/
theorem contributesExpansions_of_kept
    (split : template.nodes = before ++ .group block :: after)
    (evaluated : template.evaluate snapshot = .ok line)
    (keeps : block.trailingSeparator? = none)
    (lastEq : block.items.getLast? = some (.literal separator))
    (nonempty : snapshot.bodies ≠ []) :
    block.ContributesExpansions before after block.items.dropLast
      (separator.intercalate · ++ separator) snapshot line := by
  obtain ⟨expansions, expanded, contributes⟩ :=
    contributesExpansions_of_none split evaluated keeps
  have expansionEq : Item.expansion snapshot block.items = fun repetition =>
      (Item.expansion snapshot block.items.dropLast repetition).map (· ++ separator) :=
    funext (Item.expansion_of_getLast? lastEq snapshot)
  rw [expansionEq, mapM_map] at expanded
  obtain ⟨shorter, shorterExpanded, rfl⟩ := map_eq_ok_iff.mp expanded
  have someParticle : snapshot.bodies.zipIdx ≠ [] := by simpa using nonempty
  have someExpansion : shorter ≠ [] :=
    fun none => someParticle ((eq_nil_iff_of_mapM shorterExpanded).mpr none)
  rw [join_map_append someExpansion] at contributes
  exact ⟨shorter, shorterExpanded, contributes⟩

end Contributions

namespace Findings

variable {specs : List (ReportSpec α)} {spec : ReportSpec α} {template : Template}
  {before after : List Node} {block : Group} {separator : String}

/-- The linter warns of a block, once for each place where it stands, and a line that is
rendered for some particles has the separator of the block behind the last one. -/
structure KeepsSeparator (specs : List (ReportSpec α)) (spec : ReportSpec α)
    (template : Template) (before after : List Node) (block : Group) (separator : String) :
    Prop where
  isWarnedOf : .keptSeparator spec block ∈ (ofSpecs specs).warnings
  count_warned : template.keptSeparators.count block = template.nodes.count (.group block)
  isExplained : (Explanation.ofNode (.group block)).head? = some "  group, repeated per particle"
  text_ends : ∀ (snapshot : Snapshot α) (line : String), snapshot.bodies ≠ [] →
    template.evaluate snapshot = .ok line →
      block.ContributesExpansions before after block.items.dropLast
        (separator.intercalate · ++ separator) snapshot line

/-- There is no warning of a block, its explanation says that the separator is dropped, and
a line that is rendered has the separator between the particles only. -/
structure DropsSeparator (specs : List (ReportSpec α)) (spec : ReportSpec α)
    (template : Template) (before after : List Node) (block : Group) (separator : String) :
    Prop where
  notWarnedOf : .keptSeparator spec block ∉ (ofSpecs specs).warnings
  isTrailing : block.trailingSeparator? = some separator
  isExplained : (Explanation.ofNode (.group block)).head? =
    some "  group, repeated per particle, last separator dropped"
  text_joined : ∀ (snapshot : Snapshot α) (line : String),
    template.evaluate snapshot = .ok line →
      block.ContributesExpansions before after block.items.dropLast separator.intercalate
        snapshot line

/-- The linter warns of a block that ends with a separator exactly when something follows. -/
theorem keptSeparator_mem_warnings_iff (member : spec ∈ specs)
    (accepted : Template.parse spec.format = .ok template)
    (split : template.nodes = before ++ .group block :: after) :
    .keptSeparator spec block ∈ (ofSpecs specs).warnings ↔
      after ≠ [] ∧ ∃ separator, block.items.getLast? = some (.literal separator) := by
  obtain ⟨wellFormed, -⟩ := Template.parse_eq_ok_iff_wellFormed.mp accepted
  have warningsIff : .keptSeparator spec block ∈ (ofSpecs specs).warnings ↔
      .keptSeparator spec block ∈ warningsOf spec template :=
    mem_warnings_ofSpecs_iff member accepted
  rw [warningsIff, keptSeparator_mem_warningsOf_iff, Template.mem_keptSeparators_iff,
    Template.endsWithLiteral_iff]
  refine and_congr_left fun _ => ?_
  constructor
  · -- The last block elides its separator, so it differs from all blocks before it.
    rintro inFront rfl
    have elides := (wellFormed.elides_iff_of_split split).mpr rfl
    rw [split, List.dropLast_concat] at inFront
    obtain ⟨first, others, beforeEq⟩ := List.append_of_mem inFront
    have earlier : template.nodes = first ++ .group block :: (others ++ [.group block]) := by
      rw [split, beforeEq, List.append_assoc, List.cons_append]
    have isLast := (wellFormed.elides_iff_of_split earlier).mp elides
    exact absurd isLast (by simp)
  · intro followed
    rw [split, List.dropLast_append_of_ne_nil (List.cons_ne_nil _ _),
      List.dropLast_cons_of_ne_nil followed]
    exact List.mem_append_right before List.mem_cons_self

theorem keepsSeparator_of_followed (member : spec ∈ specs)
    (accepted : Template.parse spec.format = .ok template)
    (split : template.nodes = before ++ .group block :: after) (followed : after ≠ [])
    (lastEq : block.items.getLast? = some (.literal separator)) :
    KeepsSeparator specs spec template before after block separator := by
  obtain ⟨wellFormed, -⟩ := Template.parse_eq_ok_iff_wellFormed.mp accepted
  have keeps : block.elidesTrailingSeparator = false :=
    Bool.eq_false_iff.mpr fun elides =>
      followed ((wellFormed.elides_iff_of_split split).mp elides)
  have ends : Template.endsWithLiteral block = true :=
    Template.endsWithLiteral_iff.mpr ⟨separator, lastEq⟩
  have noTrailing : block.trailingSeparator? = none := by
    simp [Group.trailingSeparator?, keeps]
  refine ⟨?_, wellFormed.count_keptSeparators ends keeps, ?_,
    fun snapshot line nonempty evaluated =>
      contributesExpansions_of_kept split evaluated noTrailing lastEq nonempty⟩
  · exact (keptSeparator_mem_warnings_iff member accepted split).mpr ⟨followed, separator, lastEq⟩
  · simp [Explanation.ofNode, noTrailing]

theorem dropsSeparator_of_last (member : spec ∈ specs)
    (accepted : Template.parse spec.format = .ok template)
    (split : template.nodes = before ++ [.group block])
    (lastEq : block.items.getLast? = some (.literal separator)) :
    DropsSeparator specs spec template before [] block separator := by
  obtain ⟨wellFormed, -⟩ := Template.parse_eq_ok_iff_wellFormed.mp accepted
  have elides := (wellFormed.elides_iff_of_split split).mpr rfl
  have trailing := Group.trailingSeparator?_eq_some_iff.mpr ⟨elides, lastEq⟩
  refine ⟨?_, trailing, ?_, fun snapshot line evaluated =>
    contributesExpansions_of_some split evaluated trailing⟩
  · rw [keptSeparator_mem_warnings_iff member accepted split]
    exact fun isFollowed => isFollowed.1 rfl
  · simp [Explanation.ofNode, trailing]

/-- The linter and rendering agree about every block of a format string that can be read. -/
theorem separator_kept_or_dropped (member : spec ∈ specs)
    (accepted : Template.parse spec.format = .ok template)
    (split : template.nodes = before ++ .group block :: after) :
    (∀ separator, block.items.getLast? = some (.literal separator) →
      Xor (KeepsSeparator specs spec template before after block separator)
        (DropsSeparator specs spec template before after block separator)) ∧
    ((∀ separator, block.items.getLast? ≠ some (.literal separator)) →
      .keptSeparator spec block ∉ (ofSpecs specs).warnings ∧
        block.trailingSeparator? = none ∧
        (Explanation.ofNode (.group block)).head? = some "  group, repeated per particle" ∧
        ∀ (snapshot : Snapshot α) (line : String), template.evaluate snapshot = .ok line →
          block.ContributesExpansions before after block.items String.join snapshot line) := by
  constructor
  · intro separator lastEq
    by_cases followed : after = []
    · obtain rfl := followed
      have drops := dropsSeparator_of_last member accepted split lastEq
      exact .inr ⟨drops, fun keeps => drops.notWarnedOf keeps.isWarnedOf⟩
    · have keeps := keepsSeparator_of_followed member accepted split followed lastEq
      exact .inl ⟨keeps, fun drops => drops.notWarnedOf keeps.isWarnedOf⟩
  · intro noLiteral
    have noTrailing : block.trailingSeparator? = none := by
      by_contra some
      obtain ⟨separator, trailing⟩ := Option.ne_none_iff_exists'.mp some
      exact noLiteral separator (Group.trailingSeparator?_eq_some_iff.mp trailing).2
    refine ⟨?_, noTrailing, ?_, fun snapshot line evaluated =>
      contributesExpansions_of_none split evaluated noTrailing⟩
    · rw [keptSeparator_mem_warnings_iff member accepted split]
      rintro ⟨-, separator, lastEq⟩
      exact noLiteral separator lastEq
    · simp [Explanation.ofNode, noTrailing]

/-- Of two blocks that are written alike the first one keeps its separator, and the last one
drops it. -/
theorem separator_kept_or_dropped_of_blocks :
    let spec : ReportSpec Float := ⟨.console, 0.5, "\x7b#pn, \x7d\x7b#pn, \x7d"⟩
    let first : Group := ⟨[.particle .name, .literal ", "], false⟩
    let last : Group := ⟨[.particle .name, .literal ", "], true⟩
    let template : Template := ⟨[.group first, .group last]⟩
    Template.parse "\x7b#pn, \x7d\x7b#pn, \x7d" = .ok template ∧
      KeepsSeparator [spec] spec template [] [.group last] first ", " ∧
      DropsSeparator [spec] spec template [.group first] [] last ", " ∧
      template.evaluate
          (((Simulation.empty : Simulation Float).push (.pointMass ⟨1⟩ "a" 1.0)).push
            (.pointMass ⟨2⟩ "b" 1.0)).snapshot =
        .ok "a, b, a, b" := by
  intro spec first last template
  have accepted : Template.parse "\x7b#pn, \x7d\x7b#pn, \x7d" = .ok template := by
    with_unfolding_all rfl
  have member : spec ∈ [spec] := List.mem_singleton_self spec
  have firstSplit : template.nodes = [] ++ .group first :: [.group last] := rfl
  have lastSplit : template.nodes = [.group first] ++ .group last :: [] := rfl
  obtain ⟨firstAgrees, -⟩ := separator_kept_or_dropped member accepted firstSplit
  obtain ⟨lastAgrees, -⟩ := separator_kept_or_dropped member accepted lastSplit
  refine ⟨accepted, ?_, ?_, ?_⟩
  · rcases firstAgrees ", " rfl with ⟨keeps, -⟩ | ⟨drops, -⟩
    · exact keeps
    · exact absurd drops.isTrailing (by decide)
  · rcases lastAgrees ", " rfl with ⟨keeps, -⟩ | ⟨drops, -⟩
    · exact absurd keeps.isExplained (by decide)
    · exact drops
  · simp only [Template.evaluate, Template.outcome_evaluateMetered]
    with_unfolding_all rfl

end Findings

end Lines

end Telemetry
