import Telemetry.Proofs.Fallible
import Telemetry.Proofs.Template.Tiling
import Telemetry.Template.Parse
import Telemetry.Template.Text

/-!
# Well-formed templates

A template can be built that no format string reads as: one with an empty
literal, with two literals side by side, or with a group that elides its
separator before the end.  The templates without such parts are called
well-formed.  The main result of this file is that reading a format string
yields a template exactly when the template is well-formed and is written as
that string.
-/

namespace Telemetry

/-- A text that stands for itself in a format string as one run of
separators. -/
def IsSeparatorRun (text : String) : Prop :=
  text ≠ "" ∧ ∀ character ∈ text.toList, isSeparator character = true

theorem isSeparatorRun_iff_spells {text : String} :
    IsSeparatorRun text ↔ Lexeme.Kind.separators.Spells text.toList := by
  simp [IsSeparatorRun, Lexeme.Kind.Spells]

namespace Item

/-- The item is a literal. -/
def isLiteral : Item → Bool
  | .literal _ => true
  | _ => false

/-- The kind of lexeme that an item is written as. -/
def kind : Item → Lexeme.Kind
  | .literal _ => .separators
  | .simulation tag => .value Selector.simulation.code tag.code.toList
  | .particle tag => .value Selector.particle.code tag.code.toList
  | .aggregate reduced => .value reduced.reduction.selector.code reduced.tag.code.toList

/-- The lexeme that an item is written as, wherever it stands. -/
def piece (item : Item) : Lexeme.Kind × List Char :=
  (item.kind, item.text.toList)

theorem kind_eq_separators_iff (item : Item) :
    item.kind = .separators ↔ item.isLiteral = true := by
  cases item <;> simp [kind, isLiteral]

theorem kind_ne_list (item : Item) (interior : List Char) : item.kind ≠ .list interior := by
  cases item <;> simp [kind]

/-- Value tokens always have the form of a value token. -/
theorem spells_iff (item : Item) :
    item.kind.Spells item.text.toList ↔
      ∀ text, item = .literal text → IsSeparatorRun text := by
  cases item with
  | literal text =>
      simp only [kind, Item.text, Item.literal.injEq, forall_eq']
      exact isSeparatorRun_iff_spells.symm
  | simulation tag =>
      simp [kind, Item.text, SimulationTag.token, Lexeme.Kind.Spells,
        Selector.isWord_code, tag.isTagCode]
  | particle tag =>
      simp [kind, Item.text, ParticleTag.token, Lexeme.Kind.Spells,
        Selector.isWord_code, tag.isTagCode]
  | aggregate reduced =>
      simp [kind, Item.text, Aggregate.token, Lexeme.Kind.Spells,
        Selector.isWord_code, reduced.tag.isTagCode]

theorem exists_selector_of_kind {item : Item} {selector : Char} {code : List Char}
    (kindEq : item.kind = .value selector code) : ∃ known : Selector, known.code = selector := by
  cases item with
  | literal text => simp [kind] at kindEq
  | simulation tag => exact ⟨.simulation, (Lexeme.Kind.value.inj kindEq).1⟩
  | particle tag => exact ⟨.particle, (Lexeme.Kind.value.inj kindEq).1⟩
  | aggregate reduced => exact ⟨reduced.reduction.selector, (Lexeme.Kind.value.inj kindEq).1⟩

/-- A value token is determined by its selector and its code. -/
theorem text_toList_of_kind {item : Item} {selector : Char} {code : List Char}
    (kindEq : item.kind = .value selector code) :
    item.text.toList = '#' :: selector :: code := by
  cases item <;> simp only [kind, Lexeme.Kind.value.injEq, reduceCtorEq] at kindEq <;>
    simp [Item.text, SimulationTag.token, ParticleTag.token, Aggregate.token, kindEq]

/-- Which items are written with a selector. -/
theorem kind_eq_value_iff {item : Item} {selector : Selector} {code : List Char} :
    item.kind = .value selector.code code ↔
      match selector with
      | .simulation => ∃ tag, item = .simulation tag ∧ tag.code.toList = code
      | .particle => ∃ tag, item = .particle tag ∧ tag.code.toList = code
      | .average => ∃ reduced, item = .aggregate reduced ∧
          reduced.reduction = .average ∧ reduced.tag.code.toList = code
      | .deviation => ∃ reduced, item = .aggregate reduced ∧
          reduced.reduction = .deviation ∧ reduced.tag.code.toList = code := by
  cases selector <;> cases item with
  | literal text => simp [kind]
  | simulation tag => simp [kind, Selector.code]
  | particle tag => simp [kind, Selector.code]
  | aggregate reduced =>
      obtain ⟨reduction, tag, aggregable⟩ := reduced
      cases reduction <;> simp [kind, Selector.code, Reduction.selector]

end Item

namespace Lexeme

theorem particleTag_eq_ok_iff {lexeme : Lexeme} {code : List Char} {tag : ParticleTag} :
    lexeme.particleTag code = .ok tag ↔ tag.code.toList = code := by
  rw [← ParticleTag.ofCode?_eq_some_iff]
  unfold particleTag
  cases ParticleTag.ofCode? (String.ofList code) <;> simp

theorem aggregate_eq_ok_iff {lexeme : Lexeme} {reduction : Reduction} {code : List Char}
    {reduced : Aggregate} :
    lexeme.aggregate reduction code = .ok reduced ↔
      reduced.reduction = reduction ∧ reduced.tag.code.toList = code := by
  unfold aggregate
  rw [bind_eq_ok_iff]
  simp only [particleTag_eq_ok_iff]
  constructor
  · rintro ⟨tag, rfl, made⟩
    split at made
    · rename_i found
      obtain rfl := Except.ok.inj made
      obtain ⟨reductionEq, rfl⟩ := Aggregate.make?_eq_some_iff.mp found
      exact ⟨reductionEq, rfl⟩
    · exact absurd made (by simp)
  · rintro ⟨rfl, rfl⟩
    refine ⟨reduced.tag, rfl, ?_⟩
    rw [Aggregate.make?_eq_some_iff.mpr ⟨rfl, rfl⟩]

/-- A value token is read as the item that is written with its selector and
code. -/
theorem quantity_eq_ok_iff {lexeme : Lexeme} {selector : Char} {code : List Char}
    {item : Item} :
    lexeme.quantity selector code = .ok item ↔ item.kind = .value selector code := by
  unfold quantity
  cases found : Selector.ofCode? selector with
  | none =>
      simp only [reduceCtorEq, false_iff]
      intro kindEq
      obtain ⟨known, rfl⟩ := Item.exists_selector_of_kind kindEq
      rw [Selector.ofCode?_eq_some_iff.mpr rfl] at found
      exact absurd found (by simp)
  | some known =>
      obtain rfl := Selector.ofCode?_eq_some_iff.mp found
      rw [Item.kind_eq_value_iff]
      cases known with
      | simulation =>
          simp only [← SimulationTag.ofCode?_eq_some_iff]
          cases SimulationTag.ofCode? (String.ofList code) <;> simp [eq_comm]
      | particle =>
          simp only [bind_eq_ok_iff, particleTag_eq_ok_iff, pure_eq_ok_iff, and_comm]
      | average =>
          simp only [bind_eq_ok_iff, aggregate_eq_ok_iff, pure_eq_ok_iff, and_comm]
      | deviation =>
          simp only [bind_eq_ok_iff, aggregate_eq_ok_iff, pure_eq_ok_iff, and_comm]

/-- A lexeme is read as the item that is written as that lexeme. -/
theorem item_eq_ok_iff {lexeme : Lexeme} {item : Item}
    (spells : lexeme.kind.Spells lexeme.text) :
    lexeme.item = .ok item ↔ item.piece = lexeme.piece := by
  unfold Lexeme.item piece Item.piece
  rw [Prod.mk.injEq]
  cases kindEq : lexeme.kind with
  | separators =>
      rw [Item.kind_eq_separators_iff]
      cases item <;> simp [Item.isLiteral, Item.text, ← String.toList_inj, eq_comm]
  | value selector code =>
      rw [kindEq] at spells
      simp only [quantity_eq_ok_iff, spells.1]
      exact ⟨fun itsKind => ⟨itsKind, Item.text_toList_of_kind itsKind⟩, And.left⟩
  | list interior => simp [Item.kind_ne_list]

end Lexeme

/-- Reading succeeds exactly when cutting does and every lexeme has a meaning. -/
theorem Scan.read_eq_ok_iff {Part : Type} {meaning : Lexeme → Except TemplateError Part}
    {scan : Scan} {parts : List Part} :
    scan.read meaning = .ok parts ↔
      ∃ lexemes, scan.toExcept = .ok lexemes ∧
        List.Forall₂ (fun lexeme part => meaning lexeme = .ok part) lexemes parts := by
  unfold Scan.read Scan.toExcept
  rw [bind_eq_ok_iff]
  simp only [mapM_eq_ok_iff]
  cases scan.error? with
  | none => simp
  | some error => simp

/-- A group whose items are read back as they are. -/
structure Group.WellFormed (group : Group) : Prop where
  literals : ∀ text, .literal text ∈ group.items → IsSeparatorRun text
  apart : group.items.IsChain fun first second => ¬(first.isLiteral ∧ second.isLiteral)

namespace Group

/-- What stands between the braces of a group. -/
def interior (group : Group) : List Char :=
  group.items.flatMap (·.text.toList)

theorem interior_eq_flatMap (group : Group) :
    group.interior = (group.items.map Item.piece).flatMap Prod.snd := by
  simp [interior, List.flatMap_map, Item.piece]

theorem text_toList (group : Group) :
    group.text.toList = '\x7b' :: (group.interior ++ ['\x7d']) := by
  simp [text, interior, List.flatMap_map]

theorem wellFormed_iff_separated (group : Group) :
    group.WellFormed ↔ Scan.Separated .interior (group.items.map Item.piece) := by
  have apartIff (first second : Item) :
      ¬(first.isLiteral ∧ second.isLiteral) ↔ first.piece.1.Apart second.piece.1 := by
    simp [Lexeme.Kind.Apart, Item.piece, Item.kind_eq_separators_iff]
  constructor
  · rintro ⟨literals, apart⟩
    refine ⟨?_, ?_, ?_⟩
    · rw [List.forall_mem_map]
      intro item member interior kindEq
      exact absurd kindEq (item.kind_ne_list interior)
    · rw [List.forall_mem_map]
      intro item member
      refine item.spells_iff.mpr fun text itemEq => literals text ?_
      rwa [← itemEq]
    · rw [List.isChain_map]
      exact apart.imp fun first second => (apartIff first second).mp
  · rintro ⟨-, spells, apart⟩
    refine ⟨fun text member => ?_, ?_⟩
    · have spelled := spells (Item.literal text).piece (List.mem_map_of_mem member)
      exact (Item.literal text).spells_iff.mp spelled text rfl
    · rw [List.isChain_map] at apart
      exact apart.imp fun first second => (apartIff first second).mpr

/-- The lexemes inside of the block that a well-formed group is written as are
those that its items are written as. -/
theorem exists_toExcept_interior {group : Group} (wellFormed : group.WellFormed)
    (offset : Nat) :
    ∃ lexemes, (Scan.ofChars .interior offset group.interior).toExcept = .ok lexemes ∧
      lexemes.map Lexeme.piece = group.items.map Item.piece := by
  rw [Scan.exists_toExcept_ofChars_iff, ← wellFormed_iff_separated]
  exact ⟨wellFormed, group.interior_eq_flatMap.symm⟩

theorem isInterior_of_wellFormed {group : Group} (wellFormed : group.WellFormed) :
    ∀ character ∈ group.interior, isInterior character = true := by
  intro character member
  obtain ⟨item, itemMember, characterMember⟩ := List.mem_flatMap.mp member
  have spells := ((wellFormed_iff_separated group).mp wellFormed).spells item.piece
    (List.mem_map_of_mem itemMember)
  exact spells.isInterior item.kind_ne_list character characterMember

/-- The items that a block is read as are well-formed and are written as the
inside of the block. -/
theorem itemsOfInterior_eq_ok_iff {offset : Nat} {inside : List Char} {group : Group} :
    itemsOfInterior offset inside = .ok group.items ↔
      group.WellFormed ∧ group.interior = inside := by
  rw [wellFormed_iff_separated, interior_eq_flatMap, ← Scan.exists_toExcept_ofChars_iff offset]
  unfold itemsOfInterior
  rw [Scan.read_eq_ok_iff]
  refine exists_congr fun lexemes => and_congr_right fun complete => ?_
  rw [← List.forall₂_eq_eq_eq, List.forall₂_map_left_iff, List.forall₂_map_right_iff]
  refine forall₂_congr_of_mem fun lexeme member item => ?_
  rw [Lexeme.item_eq_ok_iff (Scan.spells_of_toExcept complete member), eq_comm]

end Group

namespace Node

/-- The node is a literal. -/
def isLiteral : Node → Bool
  | .literal _ => true
  | _ => false

/-- The kind of lexeme that a node is written as. -/
def kind : Node → Lexeme.Kind
  | .literal text => (Item.literal text).kind
  | .simulation tag => (Item.simulation tag).kind
  | .aggregate reduced => (Item.aggregate reduced).kind
  | .group block => .list block.interior

/-- The lexeme that a node is written as, wherever it stands. -/
def piece (node : Node) : Lexeme.Kind × List Char :=
  (node.kind, node.text.toList)

theorem kind_eq_separators_iff (node : Node) :
    node.kind = .separators ↔ node.isLiteral = true := by
  cases node <;> simp [kind, isLiteral, Item.kind]

theorem exists_group_of_kind {node : Node} {inside : List Char}
    (kindEq : node.kind = .list inside) : ∃ block, node = .group block := by
  cases node with
  | group block => exact ⟨block, rfl⟩
  | literal text => exact absurd kindEq ((Item.literal text).kind_ne_list inside)
  | simulation tag => exact absurd kindEq ((Item.simulation tag).kind_ne_list inside)
  | aggregate reduced => exact absurd kindEq ((Item.aggregate reduced).kind_ne_list inside)

theorem spells_iff (node : Node) (groups : ∀ block, node = .group block → block.WellFormed) :
    node.kind.Spells node.text.toList ↔
      ∀ text, node = .literal text → IsSeparatorRun text := by
  cases node with
  | literal text => exact (Item.literal text).spells_iff.trans (by simp)
  | simulation tag => exact (Item.simulation tag).spells_iff.trans (by simp)
  | aggregate reduced => exact (Item.aggregate reduced).spells_iff.trans (by simp)
  | group block =>
      simp only [reduceCtorEq, false_implies, implies_true, iff_true]
      exact ⟨block.text_toList, Group.isInterior_of_wellFormed (groups block rfl)⟩

end Node

/-- A list block is read as a group with well-formed items, which elides its
trailing separator when the block ends the format string; the other lexemes are
read as the nodes that are written as them. -/
theorem Lexeme.node_eq_ok_iff {length : Nat} {lexeme : Lexeme} {node : Node}
    (spells : lexeme.kind.Spells lexeme.text) :
    lexeme.node length = .ok node ↔
      node.piece = lexeme.piece ∧
        ∀ block, node = .group block →
          block.WellFormed ∧ block.elidesTrailingSeparator = (lexeme.stop == length) := by
  unfold Lexeme.node
  split
  · rename_i inside kindEq
    simp only [bind_eq_ok_iff, pure_eq_ok_iff]
    rw [kindEq] at spells
    constructor
    · rintro ⟨items, read, rfl⟩
      let block : Group := ⟨items, lexeme.stop == length⟩
      have blockRead : Group.itemsOfInterior (lexeme.start + 1) inside = .ok block.items := read
      obtain ⟨wellFormed, rfl⟩ := Group.itemsOfInterior_eq_ok_iff.mp blockRead
      refine ⟨?_, ?_⟩
      · exact Prod.ext kindEq.symm (block.text_toList.trans spells.1.symm)
      · rintro _ ⟨rfl⟩
        exact ⟨wellFormed, rfl⟩
    · rintro ⟨pieceEq, groups⟩
      have nodeKind : node.kind = .list inside := (congrArg Prod.fst pieceEq).trans kindEq
      obtain ⟨block, rfl⟩ := Node.exists_group_of_kind nodeKind
      obtain ⟨wellFormed, elides⟩ := groups block rfl
      refine ⟨block.items, Group.itemsOfInterior_eq_ok_iff.mpr ⟨wellFormed, ?_⟩, ?_⟩
      · exact Lexeme.Kind.list.inj nodeKind
      · rw [← elides]
  · -- Everything else is read as an item, of which a node may not be a particle tag.
    rename_i notList
    simp only [bind_eq_ok_iff, Lexeme.item_eq_ok_iff spells]
    constructor
    · rintro ⟨item, pieceEq, placed⟩
      cases item with
      | particle tag => exact absurd placed (by simp [throw, throwThe, MonadExceptOf.throw])
      | literal text =>
          obtain rfl := pure_eq_ok_iff.mp placed
          exact ⟨pieceEq, by simp⟩
      | simulation tag =>
          obtain rfl := pure_eq_ok_iff.mp placed
          exact ⟨pieceEq, by simp⟩
      | aggregate reduced =>
          obtain rfl := pure_eq_ok_iff.mp placed
          exact ⟨pieceEq, by simp⟩
    · rintro ⟨pieceEq, -⟩
      cases node with
      | literal text => exact ⟨.literal text, pieceEq, rfl⟩
      | simulation tag => exact ⟨.simulation tag, pieceEq, rfl⟩
      | aggregate reduced => exact ⟨.aggregate reduced, pieceEq, rfl⟩
      | group block => exact (notList block.interior (congrArg Prod.fst pieceEq).symm).elim

/-- A template that some format string reads as. -/
structure Template.WellFormed (template : Template) : Prop where
  literals : ∀ text, .literal text ∈ template.nodes → IsSeparatorRun text
  apart : template.nodes.IsChain fun first second => ¬(first.isLiteral ∧ second.isLiteral)
  groups : ∀ block, .group block ∈ template.nodes → block.WellFormed
  /-- A group elides its trailing separator exactly when it ends the template. -/
  elides_iff_last : ∀ (index : Nat) (block : Group),
    template.nodes[index]? = some (.group block) →
      (block.elidesTrailingSeparator = true ↔ index + 1 = template.nodes.length)

namespace Template

theorem wellFormed_iff_separated (template : Template) :
    template.WellFormed ↔
      Scan.Separated .template (template.nodes.map Node.piece) ∧
        ∀ (index : Nat) (block : Group), template.nodes[index]? = some (.group block) →
          block.WellFormed ∧
            (block.elidesTrailingSeparator = true ↔ index + 1 = template.nodes.length) := by
  have apartIff (first second : Node) :
      ¬(first.isLiteral ∧ second.isLiteral) ↔ first.piece.1.Apart second.piece.1 := by
    simp [Lexeme.Kind.Apart, Node.piece, Node.kind_eq_separators_iff]
  constructor
  · rintro ⟨literals, apart, groups, elides⟩
    refine ⟨⟨?_, ?_, ?_⟩, fun index block position => ?_⟩
    · rw [List.forall_mem_map]
      intro node member interior kindEq
      rfl
    · rw [List.forall_mem_map]
      intro node member
      refine (node.spells_iff ?_).mpr fun text nodeEq => literals text (nodeEq ▸ member)
      exact fun block nodeEq => groups block (nodeEq ▸ member)
    · rw [List.isChain_map]
      exact apart.imp fun first second => (apartIff first second).mp
    · exact ⟨groups block (List.mem_of_getElem? position), elides index block position⟩
  · rintro ⟨⟨-, spells, apart⟩, groups⟩
    have wellFormed : ∀ block, .group block ∈ template.nodes → block.WellFormed := by
      intro block member
      obtain ⟨index, position⟩ := List.mem_iff_getElem?.mp member
      exact (groups index block position).1
    refine ⟨fun text member => ?_, ?_, wellFormed, fun index block position => ?_⟩
    · have spelled := spells (Node.literal text).piece (List.mem_map_of_mem member)
      exact ((Node.literal text).spells_iff (by simp)).mp spelled text rfl
    · rw [List.isChain_map] at apart
      exact apart.imp fun first second => (apartIff first second).mpr
    · exact (groups index block position).2

theorem parse_eq_ok_iff {format : String} {template : Template} :
    parse format = .ok template ↔
      ∃ lexemes, (Scan.ofChars .template 0 format.toList).toExcept = .ok lexemes ∧
        List.Forall₂ (fun lexeme node => lexeme.node (byteLength format.toList) = .ok node)
          lexemes template.nodes := by
  obtain ⟨nodes⟩ := template
  unfold parse ofChars
  rw [bind_eq_ok_iff, ← Scan.read_eq_ok_iff]
  simp [pure_eq_ok_iff]

/-- The nodes that lexemes are read as are written as these lexemes, and a group
elides its trailing separator when it is the last of them. -/
theorem forall₂_node_iff {characters : List Char} {lexemes : List Lexeme} {nodes : List Node}
    (complete : (Scan.ofChars .template 0 characters).toExcept = .ok lexemes) :
    List.Forall₂ (fun lexeme node => lexeme.node (byteLength characters) = .ok node)
        lexemes nodes ↔
      lexemes.map Lexeme.piece = nodes.map Node.piece ∧
        ∀ (index : Nat) (block : Group), nodes[index]? = some (.group block) →
          block.WellFormed ∧
            (block.elidesTrailingSeparator = true ↔ index + 1 = nodes.length) := by
  have congr : ∀ lexeme ∈ lexemes, ∀ node,
      lexeme.node (byteLength characters) = .ok node ↔ _ := fun lexeme member node =>
    Lexeme.node_eq_ok_iff (Scan.spells_of_toExcept complete member)
  rw [forall₂_congr_of_mem congr, ← List.forall₂_eq_eq_eq, List.forall₂_map_left_iff,
    List.forall₂_map_right_iff, forall₂_iff_getElem?, forall₂_iff_getElem?, and_assoc]
  refine and_congr_right fun lengthEq => ?_
  -- Offsets say which lexeme is the last: the one that ends where the text ends.
  obtain ⟨tiling, nothingLost⟩ := Scan.toExcept_ofChars_eq_ok_iff.mp complete
  have lastIff {index : Nat} {lexeme : Lexeme} (position : lexemes[index]? = some lexeme) :
      (lexeme.stop == byteLength characters) = true ↔ index + 1 = nodes.length := by
    have stopIff := tiling.stop_eq_iff position
    rwa [nothingLost, Nat.zero_add, lengthEq, ← beq_iff_eq] at stopIff
  constructor
  · intro read
    refine ⟨fun index lexeme node lexemeAt nodeAt => (read index _ _ lexemeAt nodeAt).1.symm,
      fun index block blockAt => ?_⟩
    have inBounds : index < lexemes.length := by
      rw [lengthEq]
      exact (List.getElem?_eq_some_iff.mp blockAt).1
    have lexemeAt := List.getElem?_eq_getElem inBounds
    obtain ⟨wellFormed, elides⟩ := (read index _ _ lexemeAt blockAt).2 block rfl
    rw [elides]
    exact ⟨wellFormed, lastIff lexemeAt⟩
  · rintro ⟨pieces, groups⟩ index lexeme node lexemeAt nodeAt
    refine ⟨(pieces index _ _ lexemeAt nodeAt).symm, ?_⟩
    rintro block rfl
    obtain ⟨wellFormed, elides⟩ := groups index block nodeAt
    exact ⟨wellFormed, Bool.eq_iff_iff.mpr (elides.trans (lastIff lexemeAt).symm)⟩

theorem text_toList (template : Template) :
    template.text.toList = (template.nodes.map Node.piece).flatMap Prod.snd := by
  simp [text, Node.piece, List.flatMap_map]

/-- Reading a format string yields a template exactly when the template is
well-formed and is written as that string. -/
theorem parse_eq_ok_iff_wellFormed {format : String} {template : Template} :
    parse format = .ok template ↔ template.WellFormed ∧ template.text = format := by
  rw [parse_eq_ok_iff, wellFormed_iff_separated, ← String.toList_inj, text_toList,
    and_right_comm, ← Scan.exists_toExcept_ofChars_iff 0, ← exists_and_right]
  refine exists_congr fun lexemes => ?_
  rw [and_assoc]
  exact and_congr_right forall₂_node_iff

end Template

end Telemetry
