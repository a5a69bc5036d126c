import Telemetry.Proofs.Template.WellFormed

/-!
# The grammar of format strings

A format string is a sequence of pieces.  The grammar says what the pieces are and
nothing about how long they may be: a run of separators can be cut into shorter
runs, and nothing forbids a word character behind a code of one character.

Reading takes the longest run of separators and the longest code instead, and the
first closing brace that it meets.  This never matters for whether a string is
accepted.  Neighbouring runs of separators can be joined, no piece starts with a word
character, and no piece inside a block holds a brace or a line break.  The main
result is that a format string can be read exactly when the grammar derives it.
-/

namespace Telemetry

namespace Grammar

/-- The pieces that may stand inside of a block as well as outside. -/
inductive CommonPiece : List Char → Prop where
  | separators {run : List Char} (nonempty : run ≠ [])
      (inside : ∀ character ∈ run, isSeparator character = true) : CommonPiece run
  | simulation (tag : SimulationTag) : CommonPiece ('#' :: 's' :: tag.code.toList)
  | average (tag : ParticleTag) (measures : tag ≠ .name ∧ tag ≠ .identifier) :
      CommonPiece ('#' :: 'a' :: tag.code.toList)
  | deviation (tag : ParticleTag) (measures : tag ≠ .name ∧ tag ≠ .identifier) :
      CommonPiece ('#' :: 'd' :: tag.code.toList)

/-- The pieces that may stand inside of a block. -/
inductive BlockPiece : List Char → Prop where
  | common {text : List Char} (piece : CommonPiece text) : BlockPiece text
  | particle (tag : ParticleTag) : BlockPiece ('#' :: 'p' :: tag.code.toList)

/-- A text can be cut in some way into pieces. -/
def Sequence (Piece : List Char → Prop) (text : List Char) : Prop :=
  ∃ pieces : List (List Char), (∀ piece ∈ pieces, Piece piece) ∧ pieces.flatten = text

/-- The pieces of a format string. -/
inductive FormatPiece : List Char → Prop where
  | common {text : List Char} (piece : CommonPiece text) : FormatPiece text
  | block {interior : List Char} (inside : Sequence BlockPiece interior) :
      FormatPiece ('\x7b' :: (interior ++ ['\x7d']))

/-- The grammar derives a format string. -/
def Derives (format : String) : Prop :=
  Sequence FormatPiece format.toList

end Grammar

namespace Scan

/-- Runs of separators that stand side by side are joined into one. -/
theorem exists_separated {region : Region} {pieces : List (Lexeme.Kind × List Char)}
    (allowed : ∀ piece ∈ pieces, region.Allows piece.1)
    (spells : ∀ piece ∈ pieces, piece.1.Spells piece.2) :
    ∃ joined, Separated region joined ∧
      joined.flatMap Prod.snd = pieces.flatMap Prod.snd ∧
      ∀ piece ∈ joined, piece.1 = .separators ∨ piece ∈ pieces := by
  induction pieces with
  | nil => exact ⟨[], ⟨by simp, by simp, by simp⟩, rfl, by simp⟩
  | cons first pieces ih =>
      rw [List.forall_mem_cons] at allowed spells
      obtain ⟨joined, separated, sameText, origin⟩ := ih allowed.2 spells.2
      by_cases adjacent : first.1 = .separators ∧ ∃ run others, joined = (.separators, run) :: others
      · obtain ⟨firstIsRun, run, others, rfl⟩ := adjacent
        have firstSpells := spells.1
        rw [firstIsRun] at firstSpells
        obtain ⟨runAllowed, runSpells, runStops, othersSeparated⟩ :=
          separated_cons_iff.mp separated
        refine ⟨(.separators, first.2 ++ run) :: others, ?_, ?_, ?_⟩
        · refine separated_cons_iff.mpr ⟨runAllowed, ⟨?_, ?_⟩, runStops, othersSeparated⟩
          · exact List.append_ne_nil_of_left_ne_nil firstSpells.1 run
          · intro character member
            rcases List.mem_append.mp member with inFirst | inRun
            · exact firstSpells.2 character inFirst
            · exact runSpells.2 character inRun
        · rw [List.flatMap_cons, List.flatMap_cons, ← sameText, List.flatMap_cons,
            List.append_assoc]
        · rw [List.forall_mem_cons] at origin ⊢
          refine ⟨.inl rfl, fun piece member => ?_⟩
          exact (origin.2 piece member).imp_right (List.mem_cons_of_mem first)
      · refine ⟨first :: joined, ?_, by rw [List.flatMap_cons, List.flatMap_cons, sameText], ?_⟩
        · refine
            { allowed := List.forall_mem_cons.mpr ⟨allowed.1, separated.allowed⟩
              spells := List.forall_mem_cons.mpr ⟨spells.1, separated.spells⟩
              apart := List.isChain_cons.mpr ⟨?_, separated.apart⟩ }
          rintro ⟨kind, run⟩ isNext firstIsRun nextIsRun
          obtain ⟨others, joinedEq⟩ := List.head?_eq_some_iff.mp isNext
          obtain rfl : kind = .separators := nextIsRun
          exact adjacent ⟨firstIsRun, run, others, joinedEq⟩
        · rw [List.forall_mem_cons]
          refine ⟨.inr (by simp), fun piece member => ?_⟩
          exact (origin piece member).imp_right (List.mem_cons_of_mem first)

/-- Reading succeeds exactly when the text is cut to its end into lexemes that all
have a meaning. -/
theorem exists_read_eq_ok_iff {Part : Type} {meaning : Lexeme → Except TemplateError Part}
    {scan : Scan} :
    (∃ parts, scan.read meaning = .ok parts) ↔
      ∃ lexemes, scan.toExcept = .ok lexemes ∧
        ∀ lexeme ∈ lexemes, ∃ part, meaning lexeme = .ok part := by
  simp only [read_eq_ok_iff]
  constructor
  · rintro ⟨parts, lexemes, complete, related⟩
    refine ⟨lexemes, complete, fun lexeme member => ?_⟩
    obtain ⟨part, -, partEq⟩ := exists_related_of_mem related member
    exact ⟨part, partEq⟩
  · rintro ⟨lexemes, complete, meant⟩
    suffices related : ∃ parts,
        List.Forall₂ (fun lexeme part => meaning lexeme = .ok part) lexemes parts by
      obtain ⟨parts, related⟩ := related
      exact ⟨parts, lexemes, complete, related⟩
    clear complete
    induction lexemes with
    | nil => exact ⟨[], .nil⟩
    | cons lexeme lexemes ih =>
        rw [List.forall_mem_cons] at meant
        obtain ⟨part, partEq⟩ := meant.1
        obtain ⟨parts, related⟩ := ih meant.2
        exact ⟨part :: parts, .cons partEq related⟩

/-- Cutting greedily reads a text exactly when it can be cut in some way into pieces
of a grammar.  The grammar has to agree with the reader on the single pieces, and
it has to leave runs of separators free. -/
theorem exists_read_ofChars_iff {Part : Type} {meaning : Lexeme → Except TemplateError Part}
    {region : Region} (Readable : Lexeme.Kind × List Char → Prop) {Piece : List Char → Prop}
    (meansIff : ∀ lexeme : Lexeme, lexeme.kind.Spells lexeme.text →
      ((∃ part, meaning lexeme = .ok part) ↔ Readable lexeme.piece))
    (allowed : ∀ piece, Readable piece → region.Allows piece.1)
    (runs : ∀ run, Readable (.separators, run))
    (pieceIff : ∀ text, Piece text ↔ ∃ kind : Lexeme.Kind, kind.Spells text ∧ Readable (kind, text))
    (offset : Nat) (input : List Char) :
    (∃ parts, (ofChars region offset input).read meaning = .ok parts) ↔
      Grammar.Sequence Piece input := by
  rw [exists_read_eq_ok_iff]
  constructor
  · rintro ⟨lexemes, complete, meant⟩
    obtain ⟨-, nothingLost⟩ := toExcept_ofChars_eq_ok_iff.mp complete
    refine ⟨lexemes.map (·.text), ?_, by rw [← List.flatMap_def]; exact nothingLost⟩
    rw [List.forall_mem_map]
    intro lexeme member
    have spells := spells_of_toExcept complete member
    exact (pieceIff lexeme.text).mpr
      ⟨lexeme.kind, spells, (meansIff lexeme spells).mp (meant lexeme member)⟩
  · rintro ⟨texts, arePieces, rfl⟩
    obtain ⟨pieces, rfl, spells, readable⟩ : ∃ pieces : List (Lexeme.Kind × List Char),
        pieces.map Prod.snd = texts ∧ (∀ piece ∈ pieces, piece.1.Spells piece.2) ∧
          ∀ piece ∈ pieces, Readable piece := by
      induction texts with
      | nil => exact ⟨[], rfl, by simp, by simp⟩
      | cons text texts ih =>
          rw [List.forall_mem_cons] at arePieces
          obtain ⟨kind, spells, readable⟩ := (pieceIff text).mp arePieces.1
          obtain ⟨pieces, textsEq, othersSpell, othersReadable⟩ := ih arePieces.2
          exact ⟨(kind, text) :: pieces, congrArg (text :: ·) textsEq,
            List.forall_mem_cons.mpr ⟨spells, othersSpell⟩,
            List.forall_mem_cons.mpr ⟨readable, othersReadable⟩⟩
    -- The pieces need not be lexemes, but they are after joining runs of separators.
    obtain ⟨joined, separated, sameText, origin⟩ :=
      exists_separated
        (fun piece member => allowed piece (readable piece member)) spells
    obtain ⟨lexemes, complete, lexemePieces⟩ :=
      (exists_toExcept_ofChars_iff offset).mpr ⟨separated, rfl⟩
    rw [sameText, List.flatMap_def] at complete
    refine ⟨lexemes, complete, fun lexeme member => ?_⟩
    have pieceMember : lexeme.piece ∈ joined := by
      rw [← lexemePieces]
      exact List.mem_map_of_mem member
    refine (meansIff lexeme (separated.spells _ pieceMember)).mpr ?_
    rcases origin _ pieceMember with isRun | original
    · have pieceEq : lexeme.piece = (.separators, lexeme.text) := Prod.ext isRun rfl
      rw [pieceEq]
      exact runs lexeme.text
    · exact readable _ original

end Scan

/-! ## Single pieces -/

namespace Grammar

theorem isAggregable_iff (tag : ParticleTag) :
    tag.isAggregable = true ↔ tag ≠ .name ∧ tag ≠ .identifier := by
  cases tag <;> decide

/-- A common piece is what an item other than a tag of one particle is written as. -/
theorem commonPiece_iff {text : List Char} :
    CommonPiece text ↔
      ∃ item : Item, item.text.toList = text ∧ item.kind.Spells text ∧
        ∀ tag, item ≠ .particle tag := by
  constructor
  · intro piece
    cases piece with
    | separators nonempty inside =>
        exact ⟨.literal (String.ofList text), by simp [Item.text], ⟨nonempty, inside⟩, by simp⟩
    | simulation tag =>
        refine ⟨.simulation tag, ?_, ?_, by simp⟩
        · simp [Item.text, SimulationTag.token, Selector.code]
        · exact ⟨rfl, Selector.isWord_code _, tag.isTagCode⟩
    | average tag measures =>
        refine ⟨.aggregate ⟨.average, tag, (isAggregable_iff tag).mpr measures⟩, ?_, ?_, by simp⟩
        · simp [Item.text, Aggregate.token, Reduction.selector, Selector.code]
        · exact ⟨rfl, Selector.isWord_code _, tag.isTagCode⟩
    | deviation tag measures =>
        refine ⟨.aggregate ⟨.deviation, tag, (isAggregable_iff tag).mpr measures⟩, ?_, ?_, by simp⟩
        · simp [Item.text, Aggregate.token, Reduction.selector, Selector.code]
        · exact ⟨rfl, Selector.isWord_code _, tag.isTagCode⟩
  · rintro ⟨item, rfl, spells, notParticle⟩
    cases item with
    | literal text => exact .separators spells.1 spells.2
    | simulation tag =>
        have piece := CommonPiece.simulation tag
        simpa [Item.text, SimulationTag.token, Selector.code] using piece
    | particle tag => exact absurd rfl (notParticle tag)
    | aggregate reduced =>
        obtain ⟨reduction, tag, aggregable⟩ := reduced
        have measures := (isAggregable_iff tag).mp aggregable
        cases reduction with
        | average =>
            have piece := CommonPiece.average tag measures
            simpa [Item.text, Aggregate.token, Reduction.selector, Selector.code] using piece
        | deviation =>
            have piece := CommonPiece.deviation tag measures
            simpa [Item.text, Aggregate.token, Reduction.selector, Selector.code] using piece

/-- A piece inside of a block is what some item is written as. -/
theorem blockPiece_iff {text : List Char} :
    BlockPiece text ↔ ∃ item : Item, item.text.toList = text ∧ item.kind.Spells text := by
  constructor
  · intro piece
    cases piece with
    | common piece =>
        obtain ⟨item, textEq, spells, -⟩ := commonPiece_iff.mp piece
        exact ⟨item, textEq, spells⟩
    | particle tag =>
        refine ⟨.particle tag, ?_, rfl, Selector.isWord_code _, tag.isTagCode⟩
        simp [Item.text, ParticleTag.token, Selector.code]
  · rintro ⟨item, textEq, spells⟩
    by_cases isParticle : ∃ tag, item = .particle tag
    · obtain ⟨tag, rfl⟩ := isParticle
      have piece := BlockPiece.particle tag
      rw [← textEq]
      simpa [Item.text, ParticleTag.token, Selector.code] using piece
    · push Not at isParticle
      exact .common (commonPiece_iff.mpr ⟨item, textEq, spells, isParticle⟩)

end Grammar

/-! ## Blocks -/

theorem Group.exists_itemsOfInterior_iff (offset : Nat) (inside : List Char) :
    (∃ items, itemsOfInterior offset inside = .ok items) ↔
      Grammar.Sequence Grammar.BlockPiece inside := by
  refine Scan.exists_read_ofChars_iff (fun piece => ∃ item : Item, item.piece = piece)
    ?_ ?_ ?_ ?_ offset inside
  · intro lexeme spells
    exact exists_congr fun item => Lexeme.item_eq_ok_iff spells
  · rintro _ ⟨item, rfl⟩ interior isList
    exact absurd isList (item.kind_ne_list interior)
  · intro run
    exact ⟨.literal (String.ofList run), by simp [Item.piece, Item.kind, Item.text]⟩
  · intro text
    rw [Grammar.blockPiece_iff]
    constructor
    · rintro ⟨item, rfl, spells⟩
      exact ⟨item.kind, spells, item, rfl⟩
    · rintro ⟨kind, spells, item, pieceEq⟩
      obtain ⟨rfl, rfl⟩ := Prod.mk.inj pieceEq
      exact ⟨item, rfl, spells⟩

/-! ## Format strings -/

namespace Node

/-- What a lexeme of a format string may be for a node to be read from it. -/
def Readable (piece : Lexeme.Kind × List Char) : Prop :=
  match piece.1 with
  | .list interior => Grammar.Sequence Grammar.BlockPiece interior
  | _ => ∃ item : Item, item.piece = piece ∧ ∀ tag, item ≠ .particle tag

theorem readable_item_iff {piece : Lexeme.Kind × List Char}
    (notList : ∀ interior, piece.1 ≠ .list interior) :
    Readable piece ↔ ∃ item : Item, item.piece = piece ∧ ∀ tag, item ≠ .particle tag := by
  obtain ⟨kind, text⟩ := piece
  cases kind with
  | separators => rfl
  | value selector code => rfl
  | list interior => exact absurd rfl (notList interior)

end Node

theorem Lexeme.exists_node_eq_ok_iff {length : Nat} {lexeme : Lexeme}
    (spells : lexeme.kind.Spells lexeme.text) :
    (∃ node, lexeme.node length = .ok node) ↔ Node.Readable lexeme.piece := by
  by_cases isList : ∃ interior, lexeme.kind = .list interior
  · obtain ⟨interior, kindEq⟩ := isList
    have readableIff : Node.Readable lexeme.piece ↔
        Grammar.Sequence Grammar.BlockPiece interior := by
      simp [Node.Readable, Lexeme.piece, kindEq]
    rw [readableIff, ← Group.exists_itemsOfInterior_iff (lexeme.start + 1)]
    unfold Lexeme.node
    simp only [kindEq, bind_eq_ok_iff, pure_eq_ok_iff]
    constructor
    · rintro ⟨node, items, read, -⟩
      exact ⟨items, read⟩
    · rintro ⟨items, read⟩
      exact ⟨_, items, read, rfl⟩
  · push Not at isList
    rw [Node.readable_item_iff isList]
    simp only [Lexeme.node_eq_ok_iff spells]
    constructor
    · rintro ⟨node, pieceEq, -⟩
      cases node with
      | literal text => exact ⟨.literal text, pieceEq, by simp⟩
      | simulation tag => exact ⟨.simulation tag, pieceEq, by simp⟩
      | aggregate reduced => exact ⟨.aggregate reduced, pieceEq, by simp⟩
      | group block => exact absurd (congrArg Prod.fst pieceEq).symm (isList block.interior)
    · rintro ⟨item, pieceEq, notParticle⟩
      cases item with
      | literal text => exact ⟨.literal text, pieceEq, by simp⟩
      | simulation tag => exact ⟨.simulation tag, pieceEq, by simp⟩
      | particle tag => exact absurd rfl (notParticle tag)
      | aggregate reduced => exact ⟨.aggregate reduced, pieceEq, by simp⟩

/-- A piece of a format string is what a node can be read from. -/
theorem Grammar.formatPiece_iff {text : List Char} :
    FormatPiece text ↔ ∃ kind : Lexeme.Kind, kind.Spells text ∧ Node.Readable (kind, text) := by
  constructor
  · intro piece
    cases piece with
    | common piece =>
        obtain ⟨item, rfl, spells, notParticle⟩ := commonPiece_iff.mp piece
        refine ⟨item.kind, spells, ?_⟩
        exact (Node.readable_item_iff item.kind_ne_list).mpr ⟨item, rfl, notParticle⟩
    | @block interior inside =>
        -- The block must be known to hold no closing brace and no line break.
        obtain ⟨items, read⟩ := (Group.exists_itemsOfInterior_iff 0 interior).mpr inside
        let group : Group := ⟨items, false⟩
        have groupRead : Group.itemsOfInterior 0 interior = .ok group.items := read
        obtain ⟨wellFormed, interiorEq⟩ := Group.itemsOfInterior_eq_ok_iff.mp groupRead
        have isInside := Group.isInterior_of_wellFormed wellFormed
        rw [interiorEq] at isInside
        exact ⟨.list interior, ⟨rfl, isInside⟩, inside⟩
  · rintro ⟨kind, spells, readable⟩
    by_cases isList : ∃ interior, kind = .list interior
    · obtain ⟨interior, rfl⟩ := isList
      rw [spells.1]
      exact .block readable
    · push Not at isList
      obtain ⟨item, pieceEq, notParticle⟩ := (Node.readable_item_iff isList).mp readable
      obtain ⟨rfl, rfl⟩ := Prod.mk.inj pieceEq
      exact .common (commonPiece_iff.mpr ⟨item, rfl, spells, notParticle⟩)

/-- A format string can be read exactly when the grammar derives it, in whichever way
its pieces are cut. -/
theorem Template.exists_parse_eq_ok_iff (format : String) :
    (∃ template, parse format = .ok template) ↔ Grammar.Derives format := by
  have readIff : (∃ nodes, (Scan.ofChars .template 0 format.toList).read
      (Lexeme.node (byteLength format.toList)) = .ok nodes) ↔ _ :=
    Scan.exists_read_ofChars_iff Node.Readable
      (fun _ => Lexeme.exists_node_eq_ok_iff)
      (fun _ _ _ _ => rfl)
      (fun run => ⟨.literal (String.ofList run), by simp [Item.piece, Item.kind, Item.text],
        by simp⟩)
      (fun _ => Grammar.formatPiece_iff) 0 format.toList
  unfold Grammar.Derives
  rw [← readIff]
  unfold parse ofChars
  simp only [bind_eq_ok_iff, pure_eq_ok_iff]
  constructor
  · rintro ⟨template, nodes, read, -⟩
    exact ⟨nodes, read⟩
  · rintro ⟨nodes, read⟩
    exact ⟨_, nodes, read, rfl⟩

end Telemetry
