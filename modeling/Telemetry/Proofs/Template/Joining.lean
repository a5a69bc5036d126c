import Telemetry.Proofs.Evaluation.Denotation
import Telemetry.Proofs.Template.WellFormed
import Telemetry.Scalar.Binary64
import Telemetry.Simulation

/-!
# Joining format strings

Two format strings that can be read can be read as one string.  Where they meet, two
things change.  Runs of separators that touch become one literal, and the first string
no longer ends the template, so that none of its groups elides a separator.  Everything
else stays as it is: the line of the joined template is the line of the first, with all
separators kept, followed by the line of the second.
-/

namespace Telemetry

/-! ## Keeping separators -/

/-- The group with its separator behind every repetition. -/
def Group.keepingSeparator (group : Group) : Group :=
  { group with elidesTrailingSeparator := false }

namespace Node

def keepingSeparator : Node → Node
  | .group block => .group block.keepingSeparator
  | node => node

@[simp]
theorem text_keepingSeparator (node : Node) : node.keepingSeparator.text = node.text := by
  cases node <;> rfl

@[simp]
theorem isLiteral_keepingSeparator (node : Node) :
    node.keepingSeparator.isLiteral = node.isLiteral := by
  cases node <;> rfl

theorem isLiteral_iff {node : Node} :
    node.isLiteral = true ↔ ∃ text, node = .literal text := by
  cases node <;> simp [isLiteral]

theorem keepingSeparator_eq_literal_iff {node : Node} {text : String} :
    node.keepingSeparator = .literal text ↔ node = .literal text := by
  cases node <;> simp [keepingSeparator]

theorem keepingSeparator_eq_group_iff {node : Node} {block : Group} :
    node.keepingSeparator = .group block ↔
      ∃ original, node = .group original ∧ original.keepingSeparator = block := by
  cases node <;> simp [keepingSeparator]

/-- Where the nodes meet, a literal stands on one side at most. -/
def MeetApart (before after : List Node) : Prop :=
  ∀ last ∈ before.getLast?, ∀ next ∈ after.head?, ¬(last.isLiteral ∧ next.isLiteral)

theorem MeetApart.map_keepingSeparator {before after : List Node}
    (apart : MeetApart before after) : MeetApart (before.map keepingSeparator) after := by
  intro last isLast next isNext
  rw [List.getLast?_map] at isLast
  obtain ⟨original, isOriginal, rfl⟩ := Option.map_eq_some_iff.mp isLast
  rw [isLiteral_keepingSeparator]
  exact apart original isOriginal next isNext

end Node

namespace Template

def keepingSeparators (template : Template) : Template :=
  ⟨template.nodes.map Node.keepingSeparator⟩

@[simp]
theorem text_keepingSeparators (template : Template) :
    template.keepingSeparators.text = template.text := by
  simp [text, keepingSeparators, Function.comp_def]

/-! ## Joining templates -/

/-- The nodes of two templates one after the other.  Literals that meet are joined. -/
def append (first second : Template) : Template :=
  match first.nodes.getLast?, second.nodes with
  | some (.literal ending), .literal beginning :: others =>
      ⟨first.nodes.dropLast ++ .literal (ending ++ beginning) :: others⟩
  | _, nodes => ⟨first.nodes ++ nodes⟩

theorem append_eq_join {before others : List Node} {ending beginning : String} :
    append ⟨before ++ [.literal ending]⟩ ⟨.literal beginning :: others⟩ =
      ⟨before ++ .literal (ending ++ beginning) :: others⟩ := by
  simp [append]

theorem append_eq_of_apart {first second : Template}
    (apart : Node.MeetApart first.nodes second.nodes) :
    append first second = ⟨first.nodes ++ second.nodes⟩ := by
  unfold append
  split
  · rename_i ending beginning others lastEq nodesEq
    rw [nodesEq] at apart
    exact absurd ⟨rfl, rfl⟩ (apart _ lastEq _ rfl)
  · rfl

/-- Two templates either meet with literals or they do not. -/
theorem exists_literals_or_apart (first second : Template) :
    (∃ before ending beginning others, first = ⟨before ++ [.literal ending]⟩ ∧
      second = ⟨.literal beginning :: others⟩) ∨
    Node.MeetApart first.nodes second.nodes := by
  unfold Node.MeetApart
  by_contra! neither
  obtain ⟨notJoined, last, isLast, next, isNext, lastLiteral, nextLiteral⟩ := neither
  obtain ⟨before, firstEq⟩ := List.getLast?_eq_some_iff.mp isLast
  obtain ⟨others, secondEq⟩ := List.head?_eq_some_iff.mp isNext
  obtain ⟨ending, rfl⟩ := Node.isLiteral_iff.mp lastLiteral
  obtain ⟨beginning, rfl⟩ := Node.isLiteral_iff.mp nextLiteral
  exact notJoined before ending beginning others (congrArg Template.mk firstEq)
    (congrArg Template.mk secondEq)

theorem keepingSeparators_append_literal (before : List Node) (ending : String) :
    keepingSeparators ⟨before ++ [.literal ending]⟩ =
      ⟨before.map Node.keepingSeparator ++ [.literal ending]⟩ := by
  simp [keepingSeparators, Node.keepingSeparator]

theorem text_append (first second : Template) :
    (first.append second).text = first.text ++ second.text := by
  rcases exists_literals_or_apart first second with
    ⟨before, ending, beginning, others, rfl, rfl⟩ | apart
  · rw [append_eq_join]
    simp [text, Node.text, String.append_assoc]
  · rw [append_eq_of_apart apart]
    simp [text]

end Template

/-! ## Joined templates are well-formed -/

theorem IsSeparatorRun.append {first second : String} (firstRun : IsSeparatorRun first)
    (secondRun : IsSeparatorRun second) : IsSeparatorRun (first ++ second) := by
  rw [isSeparatorRun_iff_spells, Lexeme.Kind.Spells] at *
  rw [String.toList_append]
  exact ⟨List.append_ne_nil_of_left_ne_nil firstRun.1 _,
    List.forall_mem_append.mpr ⟨firstRun.2, secondRun.2⟩⟩

/-- Nodes that are read back as they are, wherever in a template they stand.  Whether a
group elides its separator is left open, because this depends on the place. -/
structure Node.PartsWellFormed (nodes : List Node) : Prop where
  literals : ∀ text, .literal text ∈ nodes → IsSeparatorRun text
  apart : nodes.IsChain fun first second => ¬(first.isLiteral ∧ second.isLiteral)
  groups : ∀ block, .group block ∈ nodes → block.WellFormed

namespace Node

theorem partsWellFormed_append_iff {before after : List Node} :
    PartsWellFormed (before ++ after) ↔
      PartsWellFormed before ∧ PartsWellFormed after ∧ MeetApart before after := by
  constructor
  · rintro ⟨literals, apart, groups⟩
    obtain ⟨apartBefore, apartAfter, apartBetween⟩ := List.isChain_append.mp apart
    refine ⟨⟨?_, apartBefore, ?_⟩, ⟨?_, apartAfter, ?_⟩, apartBetween⟩
    · exact fun text member => literals text (List.mem_append_left after member)
    · exact fun block member => groups block (List.mem_append_left after member)
    · exact fun text member => literals text (List.mem_append_right before member)
    · exact fun block member => groups block (List.mem_append_right before member)
  · rintro ⟨first, second, apartBetween⟩
    refine ⟨fun text member => ?_, ?_, fun block member => ?_⟩
    · exact (List.mem_append.mp member).elim (first.literals text) (second.literals text)
    · exact List.isChain_append.mpr ⟨first.apart, second.apart, apartBetween⟩
    · exact (List.mem_append.mp member).elim (first.groups block) (second.groups block)

theorem PartsWellFormed.map_keepingSeparator {nodes : List Node}
    (wellFormed : PartsWellFormed nodes) : PartsWellFormed (nodes.map keepingSeparator) where
  literals := by
    intro text member
    obtain ⟨node, nodeMember, nodeEq⟩ := List.mem_map.mp member
    rw [keepingSeparator_eq_literal_iff] at nodeEq
    exact wellFormed.literals text (nodeEq ▸ nodeMember)
  apart := by
    rw [List.isChain_map]
    simpa only [isLiteral_keepingSeparator] using wellFormed.apart
  groups := by
    intro block member
    obtain ⟨node, nodeMember, nodeEq⟩ := List.mem_map.mp member
    obtain ⟨original, rfl, rfl⟩ := keepingSeparator_eq_group_iff.mp nodeEq
    -- The items are the same, and nothing else matters.
    obtain ⟨literals, apart⟩ := wellFormed.groups original nodeMember
    exact ⟨literals, apart⟩

theorem PartsWellFormed.lengthen {beginning ending : String} {others : List Node}
    (wellFormed : PartsWellFormed (.literal beginning :: others))
    (isRun : IsSeparatorRun ending) :
    PartsWellFormed (.literal (ending ++ beginning) :: others) where
  literals := by
    intro text member
    rcases List.mem_cons.mp member with isFirst | inOthers
    · obtain rfl := Node.literal.inj isFirst
      exact isRun.append (wellFormed.literals beginning List.mem_cons_self)
    · exact wellFormed.literals text (List.mem_cons_of_mem _ inOthers)
  apart := by
    -- The chain only asks whether the first node is a literal.
    have apart := wellFormed.apart
    rw [List.isChain_cons] at apart ⊢
    exact apart
  groups := by
    intro block member
    rcases List.mem_cons.mp member with isFirst | inOthers
    · exact absurd isFirst (by simp)
    · exact wellFormed.groups block (List.mem_cons_of_mem _ inOthers)

end Node

namespace Template

theorem WellFormed.parts {template : Template} (wellFormed : template.WellFormed) :
    Node.PartsWellFormed template.nodes :=
  ⟨wellFormed.literals, wellFormed.apart, wellFormed.groups⟩

/-- Nodes that keep their separators can be put in front of the nodes of a template. -/
theorem wellFormed_of_keepingSeparator {before after : List Node}
    (parts : Node.PartsWellFormed (before.map Node.keepingSeparator ++ after))
    (nonempty : after ≠ [])
    (elides : ∀ (index : Nat) (block : Group), after[index]? = some (.group block) →
      (block.elidesTrailingSeparator = true ↔ index + 1 = after.length)) :
    WellFormed ⟨before.map Node.keepingSeparator ++ after⟩ := by
  refine ⟨parts.literals, parts.apart, parts.groups, fun index block position => ?_⟩
  have someAfter := List.length_pos_iff.mpr nonempty
  rw [List.length_append]
  by_cases inBefore : index < (before.map Node.keepingSeparator).length
  · rw [List.getElem?_append_left inBefore] at position
    obtain ⟨node, -, nodeEq⟩ := List.mem_map.mp (List.mem_of_getElem? position)
    obtain ⟨original, -, rfl⟩ := Node.keepingSeparator_eq_group_iff.mp nodeEq
    simp only [Group.keepingSeparator, Bool.false_eq_true, false_iff]
    omega
  · rw [List.getElem?_append_right (Nat.le_of_not_lt inBefore)] at position
    rw [elides _ block position]
    omega

theorem WellFormed.append {first second : Template} (firstWellFormed : first.WellFormed)
    (secondWellFormed : second.WellFormed) (nonempty : second.nodes ≠ []) :
    (first.keepingSeparators.append second).WellFormed := by
  have firstParts := firstWellFormed.parts.map_keepingSeparator
  have secondParts := secondWellFormed.parts
  rcases exists_literals_or_apart first second with
    ⟨before, ending, beginning, others, rfl, rfl⟩ | apart
  · rw [List.map_append, Node.partsWellFormed_append_iff] at firstParts
    obtain ⟨beforeParts, endingParts, apartBefore⟩ := firstParts
    have isRun := endingParts.literals ending List.mem_cons_self
    rw [keepingSeparators_append_literal, append_eq_join]
    refine wellFormed_of_keepingSeparator ?_ (List.cons_ne_nil _ _) ?_
    · refine Node.partsWellFormed_append_iff.mpr
        ⟨beforeParts, secondParts.lengthen isRun, fun last isLast next isNext => ?_⟩
      -- What stands before the joined literal already stood before a literal.
      obtain rfl := Option.some.inj isNext
      exact apartBefore last isLast (.literal ending) rfl
    · intro index block position
      refine secondWellFormed.elides_iff_last index block ?_
      cases index with
      | zero => exact absurd position (by simp)
      | succ index => exact position
  · have apartKeeping : Node.MeetApart first.keepingSeparators.nodes second.nodes :=
      apart.map_keepingSeparator
    rw [append_eq_of_apart apartKeeping]
    refine wellFormed_of_keepingSeparator ?_ nonempty secondWellFormed.elides_iff_last
    exact Node.partsWellFormed_append_iff.mpr ⟨firstParts, secondParts, apartKeeping⟩

/-! ## The line of a joined template -/

section Lines

variable {α : Type} [Scalar α]

theorem meaning_nodes_append (before after : List Node) (snapshot : Snapshot α) :
    meaning ⟨before ++ after⟩ snapshot =
      (do
        let line ← meaning ⟨before⟩ snapshot
        let rest ← meaning ⟨after⟩ snapshot
        return line ++ rest) := by
  unfold meaning
  rw [List.mapM_append]
  cases before.mapM (Node.meaning snapshot) with
  | error error => rfl
  | ok texts =>
      cases after.mapM (Node.meaning snapshot) with
      | error error => rfl
      | ok others => exact congrArg Except.ok String.join_append

theorem meaning_cons (node : Node) (others : List Node) (snapshot : Snapshot α) :
    meaning ⟨node :: others⟩ snapshot =
      (do
        let text ← node.meaning snapshot
        let rest ← meaning ⟨others⟩ snapshot
        return text ++ rest) := by
  unfold meaning
  rw [List.mapM_cons]
  cases node.meaning snapshot with
  | error error => rfl
  | ok text =>
      cases others.mapM (Node.meaning snapshot) with
      | error error => rfl
      | ok texts => exact congrArg Except.ok String.join_cons

theorem meaning_literal_cons (text : String) (others : List Node) (snapshot : Snapshot α) :
    meaning ⟨.literal text :: others⟩ snapshot =
      (do return text ++ (← meaning ⟨others⟩ snapshot)) :=
  meaning_cons (.literal text) others snapshot

/-- The lines of two templates stand one after the other.  If both fail, the first one's
fault is met first. -/
theorem meaning_append (first second : Template) (snapshot : Snapshot α) :
    (first.append second).meaning snapshot =
      (do
        let line ← first.meaning snapshot
        let rest ← second.meaning snapshot
        return line ++ rest) := by
  rcases exists_literals_or_apart first second with
    ⟨before, ending, beginning, others, rfl, rfl⟩ | apart
  · rw [append_eq_join, meaning_nodes_append, meaning_nodes_append, meaning_literal_cons,
      meaning_literal_cons, meaning_literal_cons]
    cases meaning ⟨before⟩ snapshot with
    | error error => rfl
    | ok line =>
        cases meaning ⟨others⟩ snapshot with
        | error error => rfl
        | ok rest =>
            -- The joined literal is cut in two at the place where the strings meet.
            refine congrArg Except.ok ?_
            simp [String.append_assoc, String.join_nil]
  · rw [append_eq_of_apart apart, meaning_nodes_append]

end Lines

theorem nodes_ne_nil_of_text_ne {template : Template} (nonempty : template.text ≠ "") :
    template.nodes ≠ [] := by
  intro noNodes
  exact nonempty (by simp [text, noNodes])

/-- Format strings that can be read can be joined, and so can the lines that they stand
for. -/
theorem parse_append {first second : String} {firstTemplate secondTemplate : Template}
    (firstRead : parse first = .ok firstTemplate)
    (secondRead : parse second = .ok secondTemplate) (nonempty : second ≠ "") :
    parse (first ++ second) =
        .ok (firstTemplate.keepingSeparators.append secondTemplate) ∧
      ∀ {α : Type} [Scalar α] (snapshot : Snapshot α),
        (firstTemplate.keepingSeparators.append secondTemplate).evaluate snapshot =
          (do
            let line ← firstTemplate.keepingSeparators.evaluate snapshot
            let rest ← secondTemplate.evaluate snapshot
            return line ++ rest) := by
  obtain ⟨firstWellFormed, rfl⟩ := parse_eq_ok_iff_wellFormed.mp firstRead
  obtain ⟨secondWellFormed, rfl⟩ := parse_eq_ok_iff_wellFormed.mp secondRead
  constructor
  · refine parse_eq_ok_iff_wellFormed.mpr ⟨?_, ?_⟩
    · exact firstWellFormed.append secondWellFormed (nodes_ne_nil_of_text_ne nonempty)
    · rw [text_append, text_keepingSeparators]
  · intro α _ snapshot
    simp only [evaluate, outcome_evaluateMetered, meaning_append]

/-- The separator that the first block elides when it ends the format is kept between two
blocks. -/
theorem parse_append_of_blocks :
    parse "#sc \x7b#pn;\x7d" =
        .ok ⟨[.simulation .particleCount, .literal " ",
          .group ⟨[.particle .name, .literal ";"], true⟩]⟩ ∧
      parse "/\x7b#pn,\x7d" =
        .ok ⟨[.literal "/", .group ⟨[.particle .name, .literal ","], true⟩]⟩ ∧
      parse ("#sc \x7b#pn;\x7d" ++ "/\x7b#pn,\x7d") =
        .ok ⟨[.simulation .particleCount, .literal " ",
          .group ⟨[.particle .name, .literal ";"], false⟩, .literal "/",
          .group ⟨[.particle .name, .literal ","], true⟩]⟩ ∧
      Template.evaluate
          ⟨[.simulation .particleCount, .literal " ",
            .group ⟨[.particle .name, .literal ";"], false⟩, .literal "/",
            .group ⟨[.particle .name, .literal ","], true⟩]⟩
          (((Simulation.empty : Simulation Float).push (.pointMass ⟨1⟩ "a" 1.0)).push
            (.pointMass ⟨2⟩ "b" 1.0)).snapshot =
        .ok "2 a;b;/a,b" := by
  have firstRead : parse "#sc \x7b#pn;\x7d" =
      .ok ⟨[.simulation .particleCount, .literal " ",
        .group ⟨[.particle .name, .literal ";"], true⟩]⟩ := by with_unfolding_all rfl
  have secondRead : parse "/\x7b#pn,\x7d" =
      .ok ⟨[.literal "/", .group ⟨[.particle .name, .literal ","], true⟩]⟩ := by
    with_unfolding_all rfl
  obtain ⟨joined, lines⟩ := parse_append firstRead secondRead (by decide)
  refine ⟨firstRead, secondRead, joined, ?_⟩
  -- Only the lines of the two parts are computed.
  refine (lines _).trans ?_
  simp only [evaluate, outcome_evaluateMetered]
  with_unfolding_all rfl

end Template

end Telemetry
