import Telemetry.Lint.Findings
import Telemetry.Proofs.Template.WellFormed

/-!
# The value tokens of a format string

The value tokens of a template are read off its tree, where each of them is written anew
from its tag.  In the format string they are lexemes, some at the top level and some inside
of list blocks.  For a format string that can be read the two agree token by token.

A value token starts with a number sign, and nothing else in such a format string holds
one, so that the number signs count the value tokens.
-/

namespace Telemetry

theorem Scan.lexemes_of_toExcept {scan : Scan} {lexemes : List Lexeme}
    (complete : scan.toExcept = .ok lexemes) : scan.lexemes = lexemes := by
  unfold toExcept at complete
  split at complete
  · exact Except.ok.inj complete
  · exact absurd complete (by simp)

namespace Lexeme

def isValue (lexeme : Lexeme) : Bool :=
  match lexeme.kind with
  | .value _ _ => true
  | _ => false

/-- The value tokens that a lexeme of a format string consists of: itself, or those inside
of its block. -/
def valueLexemes (lexeme : Lexeme) : List Lexeme :=
  match lexeme.kind with
  | .separators => []
  | .value _ _ => [lexeme]
  | .list interior =>
      (Scan.ofChars .interior (lexeme.start + 1) interior).lexemes.filter isValue

/-- The part of the format string that a lexeme was cut from. -/
def spelling (lexeme : Lexeme) : String :=
  String.ofList lexeme.text

theorem valueLexemes_of_list {lexeme : Lexeme} {interior : List Char} {lexemes : List Lexeme}
    (isList : lexeme.kind = .list interior)
    (complete : (Scan.ofChars .interior (lexeme.start + 1) interior).toExcept = .ok lexemes) :
    lexeme.valueLexemes = lexemes.filter isValue := by
  unfold valueLexemes
  rw [isList]
  exact congrArg (List.filter isValue) (Scan.lexemes_of_toExcept complete)

end Lexeme

/-! ## Tokens of a template -/

theorem Item.isValue_of_piece {item : Item} {lexeme : Lexeme}
    (pieceEq : lexeme.piece = item.piece) : lexeme.isValue = !item.isLiteral := by
  have kindEq : lexeme.kind = item.kind := congrArg Prod.fst pieceEq
  unfold Lexeme.isValue
  rw [kindEq]
  cases item <;> rfl

theorem Lexeme.spelling_of_piece {lexeme : Lexeme} {kind : Kind} {written : String}
    (pieceEq : lexeme.piece = (kind, written.toList)) : lexeme.spelling = written := by
  have textEq : lexeme.text = written.toList := congrArg Prod.snd pieceEq
  rw [spelling, textEq, String.ofList_toList]

namespace Template

theorem itemTokens_eq (item : Item) :
    itemTokens item = if item.isLiteral then [] else [item.text] := by
  cases item <;> rfl

/-- The value tokens among items are those among the lexemes that they are written as. -/
theorem flatMap_itemTokens {items : List Item} {lexemes : List Lexeme}
    (pieces : lexemes.map Lexeme.piece = items.map Item.piece) :
    items.flatMap itemTokens = (lexemes.filter Lexeme.isValue).map Lexeme.spelling := by
  induction items generalizing lexemes with
  | nil =>
      obtain rfl := List.map_eq_nil_iff.mp pieces
      rfl
  | cons item items ih =>
      obtain ⟨lexeme, others, rfl, pieceEq, othersEq⟩ := List.map_eq_cons_iff.mp pieces
      rw [List.flatMap_cons, itemTokens_eq, ih othersEq, List.filter_cons,
        Item.isValue_of_piece pieceEq]
      cases item.isLiteral with
      | true => rfl
      | false => simp [Lexeme.spelling_of_piece pieceEq]

/-- A node has the value tokens of the lexeme that it is read from. -/
theorem nodeTokens_of_node {length : Nat} {lexeme : Lexeme} {node : Node}
    (spells : lexeme.kind.Spells lexeme.text) (read : lexeme.node length = .ok node) :
    nodeTokens node = lexeme.valueLexemes.map Lexeme.spelling := by
  obtain ⟨pieceEq, groups⟩ := (Lexeme.node_eq_ok_iff spells).mp read
  have kindEq : lexeme.kind = node.kind := congrArg Prod.fst pieceEq.symm
  have spellingEq : lexeme.spelling = node.text := Lexeme.spelling_of_piece pieceEq.symm
  cases node with
  | literal text => simp [nodeTokens, Lexeme.valueLexemes, kindEq, Node.kind, Item.kind]
  | simulation tag =>
      simp [nodeTokens, Lexeme.valueLexemes, kindEq, Node.kind, Item.kind, spellingEq]
  | aggregate reduced =>
      simp [nodeTokens, Lexeme.valueLexemes, kindEq, Node.kind, Item.kind, spellingEq]
  | group block =>
      obtain ⟨lexemes, complete, pieces⟩ :=
        Group.exists_toExcept_interior (groups block rfl).1 (lexeme.start + 1)
      rw [Lexeme.valueLexemes_of_list kindEq complete, ← flatMap_itemTokens pieces]
      rfl

/-- The value tokens of a format string, inside of list blocks too. -/
def valueLexemes (format : String) : List Lexeme :=
  (Scan.ofChars .template 0 format.toList).lexemes.flatMap Lexeme.valueLexemes

theorem valueTokens_of_parse {format : String} {template : Template}
    (parsed : parse format = .ok template) :
    template.valueTokens = (valueLexemes format).map Lexeme.spelling := by
  obtain ⟨lexemes, complete, read⟩ := parse_eq_ok_iff.mp parsed
  have tokensEq : template.nodes.map nodeTokens =
      lexemes.map fun lexeme => lexeme.valueLexemes.map Lexeme.spelling := by
    rw [eq_comm, ← List.forall₂_eq_eq_eq, List.forall₂_map_left_iff, List.forall₂_map_right_iff]
    refine forall₂_imp_of_mem read fun lexeme member node nodeEq => ?_
    exact (nodeTokens_of_node (Scan.spells_of_toExcept complete member) nodeEq).symm
  unfold valueTokens valueLexemes
  rw [Scan.lexemes_of_toExcept complete, List.map_flatMap, List.flatMap_def, List.flatMap_def,
    tokensEq]

end Template

/-! ## Number signs -/

namespace Lexeme

/-- Outside of list blocks only value tokens hold a number sign, and each holds one. -/
theorem count_text {lexeme : Lexeme} (spells : lexeme.kind.Spells lexeme.text)
    (notList : ∀ interior, lexeme.kind ≠ .list interior) :
    lexeme.text.count '#' = if lexeme.isValue then 1 else 0 := by
  have noSign {text : List Char} (inside : ∀ character ∈ text, isWord character = true) :
      text.count '#' = 0 :=
    List.count_eq_zero.mpr fun member => absurd (inside '#' member) (by decide)
  unfold isValue
  cases kindEq : lexeme.kind with
  | separators =>
      rw [kindEq] at spells
      exact List.count_eq_zero.mpr fun member => absurd (spells.2 '#' member) (by decide)
  | value selector code =>
      rw [kindEq] at spells
      obtain ⟨textEq, selects, isCode⟩ := spells
      rw [textEq, List.count_cons_self, noSign]
      · rfl
      · exact List.forall_mem_cons.mpr ⟨selects, isCode.isWord⟩
  | list interior => exact absurd kindEq (notList interior)

end Lexeme

/-- Inside of a list block the number signs count the value tokens. -/
theorem Scan.count_written {offset : Nat} {lexemes : List Lexeme} {rest : List Char}
    (tiling : Tiling .interior offset lexemes rest) :
    (written lexemes).count '#' = (lexemes.filter Lexeme.isValue).length := by
  induction lexemes generalizing offset with
  | nil => rfl
  | cons lexeme lexemes ih =>
      obtain ⟨-, -, -, spells, -, others⟩ := tiling_cons_iff.mp tiling
      have notList := tiling.kind_ne_list List.mem_cons_self
      rw [written_cons, List.count_append, ih others, Lexeme.count_text spells notList,
        List.filter_cons]
      cases lexeme.isValue with
      | true => simp [Nat.add_comm]
      | false => simp

theorem Lexeme.length_valueLexemes {length : Nat} {lexeme : Lexeme} {node : Node}
    (spells : lexeme.kind.Spells lexeme.text) (read : lexeme.node length = .ok node) :
    lexeme.valueLexemes.length = lexeme.text.count '#' := by
  cases kindEq : lexeme.kind with
  | separators =>
      rw [count_text spells (by simp [kindEq])]
      simp [valueLexemes, isValue, kindEq]
  | value selector code =>
      rw [count_text spells (by simp [kindEq])]
      simp [valueLexemes, isValue, kindEq]
  | list interior =>
      obtain ⟨pieceEq, groups⟩ := (node_eq_ok_iff spells).mp read
      have nodeKind : node.kind = .list interior := (congrArg Prod.fst pieceEq).trans kindEq
      obtain ⟨block, rfl⟩ := Node.exists_group_of_kind nodeKind
      obtain rfl : block.interior = interior := Kind.list.inj nodeKind
      obtain ⟨lexemes, complete, -⟩ :=
        Group.exists_toExcept_interior (groups block rfl).1 (lexeme.start + 1)
      obtain ⟨tiling, nothingLost⟩ := Scan.toExcept_ofChars_eq_ok_iff.mp complete
      rw [kindEq] at spells
      rw [valueLexemes_of_list kindEq complete, ← Scan.count_written tiling, nothingLost,
        spells.1]
      simp

namespace Template

/-- A format string has as many value tokens as number signs. -/
theorem length_valueLexemes_of_parse {format : String} {template : Template}
    (parsed : parse format = .ok template) :
    (valueLexemes format).length = format.toList.count '#' := by
  obtain ⟨lexemes, complete, read⟩ := parse_eq_ok_iff.mp parsed
  obtain ⟨-, nothingLost⟩ := Scan.toExcept_ofChars_eq_ok_iff.mp complete
  rw [valueLexemes, Scan.lexemes_of_toExcept complete, ← nothingLost, Scan.written,
    List.length_flatMap, List.count_flatMap]
  congr 1
  apply List.map_congr_left
  intro lexeme member
  obtain ⟨node, -, nodeEq⟩ := exists_related_of_mem read member
  exact Lexeme.length_valueLexemes (Scan.spells_of_toExcept complete member) nodeEq

theorem valueTokens_eq_nil_iff {format : String} {template : Template}
    (parsed : parse format = .ok template) :
    template.valueTokens = [] ↔ '#' ∉ format.toList := by
  rw [valueTokens_of_parse parsed, List.map_eq_nil_iff, ← List.length_eq_zero_iff,
    length_valueLexemes_of_parse parsed, List.count_eq_zero]

end Template

end Telemetry
