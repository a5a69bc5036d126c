import Telemetry.Proofs.Decimal.Characters
import Telemetry.Proofs.Evaluation.Reduction
import Telemetry.Proofs.Template.WellFormed
import Telemetry.Simulation
import Telemetry.Text.Split

/-!
# The delimiters of a line

Names are free text, but the values of all other tags are written with few characters, none
of which separates fields or rows.  So a line without names can be taken apart again: its
separators are those of the literals that were written, in their order, and it is one row.
-/

namespace Telemetry

/-- The characters that some reader of lines ends a line at. -/
def isLineBreak (character : Char) : Bool :=
  ['\n', '\x0b', '\x0c', '\r', '\u0085', '\u2028', '\u2029'].contains character

def isDelimiter (character : Char) : Bool :=
  isSeparator character || isLineBreak character

/-- The separators and line breaks of a text, in their order. -/
def delimiters (text : String) : List Char :=
  text.toList.filter isDelimiter

/-! ## Texts with and without delimiters -/

@[simp]
theorem delimiters_append (first second : String) :
    delimiters (first ++ second) = delimiters first ++ delimiters second := by
  simp [delimiters]

theorem isLineBreak_of_isSeparator {character : Char}
    (separates : isSeparator character = true) : isLineBreak character = false := by
  simpa using of_isSeparator (!isLineBreak ·) (by decide) separates

/-- No delimiter is a character of a number. -/
theorem isNumberCharacter_of_isDelimiter {character : Char}
    (delimits : isDelimiter character = true) : isNumberCharacter character = false := by
  rcases Bool.or_eq_true_iff.mp delimits with separates | breaks
  · simpa using of_isSeparator (!isNumberCharacter ·) (by decide) separates
  · have checked : ['\n', '\x0b', '\x0c', '\r', '\u0085', '\u2028', '\u2029'].all
        (!isNumberCharacter ·) = true := by
      decide
    simpa using List.all_eq_true.mp checked character (List.contains_iff_mem.mp breaks)

theorem delimiters_of_isNumberText {text : String} (isNumber : IsNumberText text.toList) :
    delimiters text = [] := by
  apply List.filter_eq_nil_iff.mpr
  intro character member delimits
  have noNumber := isNumberCharacter_of_isDelimiter delimits
  exact absurd (isNumber character member) (by simp [noNumber])

theorem delimiters_of_isSeparatorRun {text : String} (isRun : IsSeparatorRun text) :
    delimiters text = text.toList := by
  apply List.filter_eq_self.mpr
  intro character member
  rw [isDelimiter, isRun.2 character member]
  rfl

/-- A text has the delimiters of some literals, in their order. -/
def IsDelimitedBy (literals : List String) (text : String) : Prop :=
  delimiters text = literals.flatMap String.toList

theorem isDelimitedBy_nil : IsDelimitedBy [] "" := rfl

theorem IsDelimitedBy.append {literals others : List String} {first second : String}
    (isFirst : IsDelimitedBy literals first) (isSecond : IsDelimitedBy others second) :
    IsDelimitedBy (literals ++ others) (first ++ second) := by
  unfold IsDelimitedBy at *
  rw [delimiters_append, isFirst, isSecond, List.flatMap_append]

theorem IsSeparatorRun.isDelimitedBy {text : String} (isRun : IsSeparatorRun text) :
    IsDelimitedBy [text] text := by
  unfold IsDelimitedBy
  rw [delimiters_of_isSeparatorRun isRun, List.flatMap_singleton]

/-- Texts that are made one after the other have the delimiters of all their literals. -/
theorem isDelimitedBy_join {Part : Type} {step : Part → Except EvaluationError String}
    {literals : Part → List String} {parts : List Part} {texts : List String}
    (taken : parts.mapM step = .ok texts)
    (delimited : ∀ part ∈ parts, ∀ text, step part = .ok text →
      IsDelimitedBy (literals part) text) :
    IsDelimitedBy (parts.flatMap literals) (String.join texts) := by
  have pairs := mapM_eq_ok_iff.mp taken
  clear taken
  induction pairs with
  | nil => exact isDelimitedBy_nil
  | cons made _ ih =>
      rw [List.forall_mem_cons] at delimited
      rw [List.flatMap_cons, String.join_cons]
      exact (delimited.1 _ made).append (ih delimited.2)

/-! ## Lines of a text -/

namespace Text

theorem splitAt_ne_nil (separator : Char) (text : List Char) : splitAt separator text ≠ [] := by
  cases text with
  | nil => simp [splitAt]
  | cons first rest =>
      unfold splitAt
      split
      · exact List.cons_ne_nil _ _
      · split <;> exact List.cons_ne_nil _ _

/-- A separator cuts a text into what stands before it and what stands behind it. -/
theorem splitAt_append_cons (separator : Char) (before behind : List Char) :
    splitAt separator (before ++ separator :: behind) =
      splitAt separator before ++ splitAt separator behind := by
  induction before with
  | nil => simp [splitAt]
  | cons first rest ih =>
      rw [List.cons_append, splitAt, splitAt, ih]
      split
      · rfl
      · cases pieces : splitAt separator rest with
        | nil => exact absurd pieces (splitAt_ne_nil separator rest)
        | cons piece others => rfl

theorem splitAt_of_not_mem {separator : Char} {text : List Char} (whole : separator ∉ text) :
    splitAt separator text = [text] := by
  induction text with
  | nil => rfl
  | cons first rest ih =>
      rw [List.mem_cons, not_or] at whole
      rw [splitAt, if_neg (Ne.symm whole.1), ih whole.2]

/-- A line end at the end of a text begins no further line. -/
theorem splitLines_concat (text : List Char) :
    splitLines (text ++ ['\n']) = splitAt '\n' text := by
  have pieces : splitAt '\n' (text ++ ['\n']) = splitAt '\n' text ++ [[]] :=
    splitAt_append_cons '\n' text []
  simp [splitLines, pieces]

/-- Behind whole lines, a text without line ends makes one more line. -/
theorem splitLines_append_line {lines line : List Char}
    (whole : lines = [] ∨ lines.getLast? = some '\n') (noLineEnd : '\n' ∉ line) :
    splitLines (lines ++ (line ++ ['\n'])) = splitLines lines ++ [line] := by
  rcases whole with rfl | ended
  · rw [List.nil_append, splitLines_concat, splitAt_of_not_mem noLineEnd]
    rfl
  · obtain ⟨before, rfl⟩ := List.getLast?_eq_some_iff.mp ended
    rw [← List.append_assoc, splitLines_concat, splitLines_concat, List.append_assoc,
      List.singleton_append, splitAt_append_cons, splitAt_of_not_mem noLineEnd]

end Text

/-! ## Literals and kinds of values in a template -/

namespace Item

def literal? : Item → Option String
  | .literal text => some text
  | _ => none

theorem literal?_eq_some_iff {item : Item} {text : String} :
    item.literal? = some text ↔ item = .literal text := by
  cases item <;> simp [literal?]

/-- The kind of the value that an item stands for, unless it is a literal. -/
def valueKind? : Item → Option ValueKind
  | .literal _ => none
  | .simulation tag => some tag.kind
  | .particle tag => some tag.kind
  | .aggregate reduced => some reduced.tag.kind

end Item

namespace Group

def literals (group : Group) : List String :=
  group.items.filterMap Item.literal?

/-- The literals that a group writes for a number of particles: its literals once for each of
them, without the very last one if the group elides it. -/
def emittedLiterals (count : Nat) (group : Group) : List String :=
  let repeated := (List.replicate count group.literals).flatten
  if group.trailingSeparator?.isSome then repeated.dropLast else repeated

end Group

namespace Node

/-- The kinds of the values that a node stands for. -/
def valueKinds : Node → List ValueKind
  | .literal _ => []
  | .simulation tag => [tag.kind]
  | .aggregate reduced => [reduced.tag.kind]
  | .group block => block.items.filterMap Item.valueKind?

/-- The literals that a node writes for a number of particles. -/
def emittedLiterals (count : Nat) : Node → List String
  | .literal text => [text]
  | .group block => block.emittedLiterals count
  | _ => []

end Node

namespace Template

/-- The kinds of the values that the tags of a template stand for. -/
def valueKinds (template : Template) : List ValueKind :=
  template.nodes.flatMap Node.valueKinds

/-- The literals that a template writes for a number of particles, in their order. -/
def emittedLiterals (count : Nat) (template : Template) : List String :=
  template.nodes.flatMap (Node.emittedLiterals count)

end Template

namespace Group

theorem mem_literals_of_mem_emittedLiterals {group : Group} {count : Nat} {literal : String}
    (isEmitted : literal ∈ group.emittedLiterals count) : literal ∈ group.literals := by
  have repeated : literal ∈ (List.replicate count group.literals).flatten := by
    unfold emittedLiterals at isEmitted
    split at isEmitted
    · exact List.dropLast_subset _ isEmitted
    · exact isEmitted
  obtain ⟨literals, isCopy, member⟩ := List.mem_flatten.mp repeated
  rwa [List.eq_of_mem_replicate isCopy] at member

@[simp]
theorem emittedLiterals_zero (group : Group) : group.emittedLiterals 0 = [] := by
  simp [emittedLiterals]

/-- The literals of a group that elides a separator are those before it, and the separator. -/
theorem literals_of_some {group : Group} {separator : String}
    (elides : group.trailingSeparator? = some separator) :
    group.literals = group.items.dropLast.filterMap Item.literal? ++ [separator] := by
  obtain ⟨-, lastEq⟩ := trailingSeparator?_eq_some_iff.mp elides
  obtain ⟨items, itemsEq⟩ := List.getLast?_eq_some_iff.mp lastEq
  rw [literals, itemsEq, List.dropLast_concat, List.filterMap_append]
  rfl

theorem emittedLiterals_one_of_none {group : Group} (keeps : group.trailingSeparator? = none) :
    group.emittedLiterals 1 = group.literals := by
  simp [emittedLiterals, keeps]

theorem emittedLiterals_one_of_some {group : Group} {separator : String}
    (elides : group.trailingSeparator? = some separator) :
    group.emittedLiterals 1 = group.items.dropLast.filterMap Item.literal? := by
  simp [emittedLiterals, elides, literals_of_some elides]

/-- A repetition that is not the last has all literals. -/
theorem emittedLiterals_succ (group : Group) {count : Nat} (more : count ≠ 0) :
    group.emittedLiterals (count + 1) = group.literals ++ group.emittedLiterals count := by
  unfold emittedLiterals
  rw [List.replicate_succ, List.flatten_cons]
  cases trailing : group.trailingSeparator? with
  | none => rfl
  | some separator =>
      have others : (List.replicate count group.literals).flatten ≠ [] := by
        simp [more, literals_of_some trailing]
      exact List.dropLast_append_of_ne_nil others

theorem isSeparatorRun_of_mem_literals {group : Group} (wellFormed : group.WellFormed) :
    ∀ literal ∈ group.literals, IsSeparatorRun literal := by
  intro literal member
  obtain ⟨item, itemMember, isLiteral⟩ := List.mem_filterMap.mp member
  rw [Item.literal?_eq_some_iff.mp isLiteral] at itemMember
  exact wellFormed.literals literal itemMember

end Group

/-- Nothing but separators is written for literals. -/
theorem Template.isSeparatorRun_of_mem_emittedLiterals {template : Template}
    (wellFormed : template.WellFormed) (count : Nat) :
    ∀ literal ∈ template.emittedLiterals count, IsSeparatorRun literal := by
  intro literal member
  obtain ⟨node, nodeMember, isEmitted⟩ := List.mem_flatMap.mp member
  cases node with
  | literal text =>
      rw [List.mem_singleton.mp isEmitted]
      exact wellFormed.literals text nodeMember
  | simulation tag => exact absurd isEmitted List.not_mem_nil
  | aggregate reduced => exact absurd isEmitted List.not_mem_nil
  | group block =>
      apply Group.isSeparatorRun_of_mem_literals (wellFormed.groups block nodeMember)
      exact block.mem_literals_of_mem_emittedLiterals isEmitted

/-! ## Rendered lines -/

section Rendering

variable {α : Type} [Scalar α] {snapshot : Snapshot α}
  (plain : ∀ number : α, delimiters (Scalar.text number) = [])

include plain

/-- Only a text can hold delimiters, provided that numbers do not. -/
theorem Value.delimiters_toText {value : Value α} (notText : value.kind ≠ .text) :
    delimiters value.toText = [] := by
  cases value with
  | scalar number => exact plain number
  | vector vector =>
      have opening : delimiters "(" = [] := by decide
      have bar : delimiters "|" = [] := by decide
      have closing : delimiters ")" = [] := by decide
      simp [toText, plain, opening, bar, closing]
  | text text => exact absurd rfl notText
  | integer number =>
      apply delimiters_of_isNumberText
      rw [toText, Nat.toString_eq_ofList_toDigits, String.toList_ofList]
      exact isNumberText_toDigits number

theorem SimulationTag.isDelimitedBy_value {tag : SimulationTag} (notText : tag.kind ≠ .text) :
    IsDelimitedBy [] (tag.value snapshot).toText := by
  apply Value.delimiters_toText plain
  rwa [tag.kind_of_value snapshot]

/-- A reduction is never a text. -/
theorem Aggregate.isDelimitedBy_of_meaning {reduced : Aggregate} {text : String}
    (means : (reduced.meaning snapshot).map Value.toText = .ok text) :
    IsDelimitedBy [] text := by
  obtain ⟨value, isMeaning, rfl⟩ := map_eq_ok_iff.mp means
  apply Value.delimiters_toText plain
  rw [kind_of_meaning isMeaning]
  rcases reduced.kind_tag with isScalar | isVector
  · simp [isScalar]
  · simp [isVector]

namespace Item

theorem isDelimitedBy_of_meaning {item : Item} {body : Body α} {index : Nat} {text : String}
    (runs : ∀ literal ∈ item.literal?, IsSeparatorRun literal)
    (notText : .text ∉ item.valueKind?) (means : item.meaning snapshot body index = .ok text) :
    IsDelimitedBy item.literal?.toList text := by
  cases item with
  | literal literal =>
      obtain rfl := Except.ok.inj means
      exact (runs literal rfl).isDelimitedBy
  | simulation tag =>
      obtain rfl := Except.ok.inj means
      exact SimulationTag.isDelimitedBy_value plain (by simpa [valueKind?] using notText)
  | particle tag =>
      obtain ⟨value, read, rfl⟩ := map_eq_ok_iff.mp means
      apply Value.delimiters_toText plain
      rw [ParticleTag.kind_of_value read]
      simpa [valueKind?] using notText
  | aggregate reduced => exact Aggregate.isDelimitedBy_of_meaning plain means

theorem isDelimitedBy_of_expansion {items : List Item} {repetition : Body α × Nat} {text : String}
    (runs : ∀ literal ∈ items.filterMap literal?, IsSeparatorRun literal)
    (noTexts : .text ∉ items.filterMap valueKind?)
    (means : expansion snapshot items repetition = .ok text) :
    IsDelimitedBy (items.filterMap literal?) text := by
  obtain ⟨texts, taken, joined⟩ := bind_eq_ok_iff.mp means
  rw [pure_eq_ok_iff.mp joined, List.filterMap_eq_flatMap_toList]
  apply isDelimitedBy_join taken
  intro item member part means
  apply isDelimitedBy_of_meaning plain _ _ means
  · intro literal isLiteral
    exact runs literal (List.mem_filterMap.mpr ⟨item, member, isLiteral⟩)
  · intro isText
    exact noTexts (List.mem_filterMap.mpr ⟨item, member, isText⟩)

end Item

namespace Group

/-- The last repetition has all delimiters of the items but the separator that is elided. -/
theorem isDelimitedBy_elide {group : Group} (wellFormed : group.WellFormed)
    (noTexts : .text ∉ group.items.filterMap Item.valueKind?) {repetition : Body α × Nat}
    {text : String} (expanded : Item.expansion snapshot group.items repetition = .ok text) :
    IsDelimitedBy (group.emittedLiterals 1) (group.elide 0 text) := by
  have runs := isSeparatorRun_of_mem_literals wellFormed
  cases trailing : group.trailingSeparator? with
  | none =>
      simp only [elide, trailing, emittedLiterals_one_of_none trailing]
      exact Item.isDelimitedBy_of_expansion plain runs noTexts expanded
  | some separator =>
      rw [expansion_of_some trailing] at expanded
      obtain ⟨others, othersExpanded, rfl⟩ := map_eq_ok_iff.mp expanded
      simp only [elide, trailing, emittedLiterals_one_of_some trailing, dropEnding_append_self]
      apply Item.isDelimitedBy_of_expansion plain _ _ othersExpanded
      · intro literal member
        rw [literals_of_some trailing] at runs
        exact runs literal (List.mem_append_left _ member)
      · have isPart := (List.dropLast_sublist group.items).filterMap Item.valueKind?
        exact fun isText => noTexts (isPart.subset isText)

theorem isDelimitedBy_of_repetitions {group : Group} (wellFormed : group.WellFormed)
    (noTexts : .text ∉ group.items.filterMap Item.valueKind?)
    {bodies : List (Body α × Nat)} {text : String}
    (means : group.repetitions snapshot bodies = .ok text) :
    IsDelimitedBy (group.emittedLiterals bodies.length) text := by
  induction bodies generalizing text with
  | nil =>
      rw [repetitions_nil] at means
      obtain rfl := Except.ok.inj means
      rw [List.length_nil, emittedLiterals_zero]
      exact isDelimitedBy_nil
  | cons first others ih =>
      rw [repetitions_cons] at means
      obtain ⟨whole, expanded, rest⟩ := bind_eq_ok_iff.mp means
      by_cases last : others = []
      · rw [if_pos last] at rest
        obtain rfl := Except.ok.inj rest
        rw [last]
        exact isDelimitedBy_elide plain wellFormed noTexts expanded
      · rw [if_neg last] at rest
        obtain ⟨remainder, meansRemainder, rfl⟩ := map_eq_ok_iff.mp rest
        have more : others.length ≠ 0 := fun none => last (List.length_eq_zero_iff.mp none)
        have delimited := Item.isDelimitedBy_of_expansion plain
          (isSeparatorRun_of_mem_literals wellFormed) noTexts expanded
        rw [List.length_cons, emittedLiterals_succ group more]
        exact delimited.append (ih meansRemainder)

end Group

theorem Node.isDelimitedBy_of_meaning {node : Node} {text : String}
    (runs : ∀ literal, node = .literal literal → IsSeparatorRun literal)
    (groups : ∀ block, node = .group block → block.WellFormed)
    (noTexts : .text ∉ node.valueKinds) (means : node.meaning snapshot = .ok text) :
    IsDelimitedBy (node.emittedLiterals snapshot.particleCount) text := by
  cases node with
  | literal literal =>
      obtain rfl := Except.ok.inj means
      exact (runs literal rfl).isDelimitedBy
  | simulation tag =>
      obtain rfl := Except.ok.inj means
      exact SimulationTag.isDelimitedBy_value plain (by simpa [valueKinds, eq_comm] using noTexts)
  | aggregate reduced => exact Aggregate.isDelimitedBy_of_meaning plain means
  | group block =>
      have delimited := Group.isDelimitedBy_of_repetitions plain (groups block rfl) noTexts means
      rwa [List.length_zipIdx] at delimited

theorem Template.isDelimitedBy_of_evaluate {template : Template}
    (wellFormed : template.WellFormed) (noTexts : .text ∉ template.valueKinds) {line : String}
    (rendered : template.evaluate snapshot = .ok line) :
    IsDelimitedBy (template.emittedLiterals snapshot.particleCount) line := by
  rw [evaluate, outcome_evaluateMetered] at rendered
  obtain ⟨texts, taken, joined⟩ := bind_eq_ok_iff.mp rendered
  rw [pure_eq_ok_iff.mp joined]
  apply isDelimitedBy_join taken
  intro node member text means
  apply node.isDelimitedBy_of_meaning plain _ _ _ means
  · rintro literal rfl
    exact wellFormed.literals literal member
  · rintro block rfl
    exact wellFormed.groups block member
  · exact fun isText => noTexts (List.mem_flatMap.mpr ⟨node, member, isText⟩)

end Rendering

/-- A line without names can be taken apart again.  Its separators and line breaks are exactly
those of the literals that were written, in their order, and so it has no line break: behind
whole lines, it makes one more line. -/
theorem Template.delimiters_of_evaluate {format : String} {template : Template}
    {snapshot : Snapshot Float} {line : String} (accepted : parse format = .ok template)
    (noTexts : .text ∉ template.valueKinds)
    (rendered : template.evaluate snapshot = .ok line) :
    delimiters line =
        (template.emittedLiterals snapshot.particleCount).flatMap String.toList ∧
      (∀ character ∈ line.toList, isLineBreak character = false) ∧
      ∀ lines : List Char, lines = [] ∨ lines.getLast? = some '\n' →
        Text.splitLines (lines ++ (line ++ "\n").toList) =
          Text.splitLines lines ++ [line.toList] := by
  obtain ⟨wellFormed, -⟩ := parse_eq_ok_iff_wellFormed.mp accepted
  have plain (number : Float) : delimiters (Scalar.text number) = [] :=
    delimiters_of_isNumberText (Scalar.isNumberText_text number)
  have delimited : delimiters line =
      (template.emittedLiterals snapshot.particleCount).flatMap String.toList :=
    isDelimitedBy_of_evaluate plain wellFormed noTexts rendered
  have noLineBreak : ∀ character ∈ line.toList, isLineBreak character = false := by
    intro character member
    cases breaks : isLineBreak character with
    | false => rfl
    | true =>
        -- A line break would be one of the characters of a literal.
        have delimits : character ∈ delimiters line :=
          List.mem_filter.mpr ⟨member, by simp [isDelimiter, breaks]⟩
        rw [delimited] at delimits
        obtain ⟨literal, isEmitted, ofLiteral⟩ := List.mem_flatMap.mp delimits
        have isRun := isSeparatorRun_of_mem_emittedLiterals wellFormed _ literal isEmitted
        have noBreak := isLineBreak_of_isSeparator (isRun.2 character ofLiteral)
        exact absurd noBreak (by simp [breaks])
  refine ⟨delimited, noLineBreak, fun lines whole => ?_⟩
  rw [String.toList_append]
  apply Text.splitLines_append_line whole
  intro isMember
  exact absurd (noLineBreak '\n' isMember) (by decide)

/-- The number of particles, and the identifier of each beside the gravitational constant. -/
def Template.identifiersAndGravity : Template :=
  ⟨[.simulation .time, .literal " ", .simulation .particleCount, .literal ":",
    .group ⟨[.particle .identifier, .literal ",", .simulation .gravity, .literal ";"], true⟩]⟩

def Snapshot.pointMasses : Snapshot Float :=
  (((Simulation.empty : Simulation Float).push (.pointMass ⟨1⟩ "a, b" 1.0)).push
    (.pointMass ⟨2⟩ "c" 1.0)).snapshot

/-- The semicolon stands between two particles and not behind them, and the comma in a name is
not seen. -/
theorem Template.delimiters_of_evaluate_of_pair :
    let gravity := Scalar.text Snapshot.pointMasses.gravity
    let line := Scalar.text Snapshot.pointMasses.time ++ " 2:1," ++ gravity ++ ";2," ++ gravity
    parse "#st #sc:\x7b#ph,#sG;\x7d" = .ok identifiersAndGravity ∧
      .text ∉ identifiersAndGravity.valueKinds ∧
      identifiersAndGravity.evaluate Snapshot.pointMasses = .ok line ∧
      delimiters line = [' ', ':', ',', ';', ','] := by
  intro gravity line
  have accepted : parse "#st #sc:\x7b#ph,#sG;\x7d" = .ok identifiersAndGravity := by
    decide +kernel
  have noTexts : .text ∉ identifiersAndGravity.valueKinds := by decide
  have rendered : identifiersAndGravity.evaluate Snapshot.pointMasses = .ok line := by
    rw [evaluate, outcome_evaluateMetered]
    rfl
  obtain ⟨delimited, -⟩ := delimiters_of_evaluate accepted noTexts rendered
  exact ⟨accepted, noTexts, rendered, delimited⟩

end Telemetry
