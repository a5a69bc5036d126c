import Telemetry.Proofs.Template.Grammar
import Telemetry.Proofs.Template.Scanner

/-!
# Where the fault of a format string lies

The error of a format string that cannot be read says where the fault is: its offset
leads to a text that starts with the text of the error.  What stands before the fault
is in order.  It is a format string that can be read, or it becomes one when the
block that holds the fault is closed in front of it.  A block inside a block is the
exception, because it is reported even if something before it is at fault.
-/

namespace Telemetry

namespace TemplateError

/-- The error tells of the text behind `before`, in a text whose first byte has the
offset `offset`. -/
def PointsBehind (error : TemplateError) (offset : Nat) (before input : List Char) : Prop :=
  ∃ after, before ++ after = input ∧ error.offset = offset + byteLength before ∧
    error.text.toList ≠ [] ∧ error.text.toList <+: after

def IsNestedGroup (error : TemplateError) : Prop :=
  ∃ text offset, error = .nestedGroup text offset

theorem PointsBehind.append {error : TemplateError} {offset : Nat} {before input : List Char}
    (points : error.PointsBehind offset before input) (more : List Char) :
    error.PointsBehind offset before (input ++ more) := by
  obtain ⟨after, rfl, offsetEq, nonempty, starts⟩ := points
  refine ⟨after ++ more, by rw [List.append_assoc], offsetEq, nonempty, ?_⟩
  exact starts.trans (List.prefix_append after more)

theorem PointsBehind.prepend {error : TemplateError} {offset : Nat} {before input : List Char}
    (first : List Char) (points : error.PointsBehind (offset + byteLength first) before input) :
    error.PointsBehind offset (first ++ before) (first ++ input) := by
  obtain ⟨after, rfl, offsetEq, nonempty, starts⟩ := points
  refine ⟨after, by rw [List.append_assoc], ?_, nonempty, starts⟩
  rw [offsetEq, byteLength_append, Nat.add_assoc]

end TemplateError

/-! ## Faults of single lexemes -/

namespace Lexeme

/-- The error tells of the lexeme. -/
def IsBlamedBy (lexeme : Lexeme) (error : TemplateError) : Prop :=
  error.offset = lexeme.start ∧ error.text = String.ofList lexeme.text

/-- The error says that the lexeme, a value token, stands for nothing or may not stand
where it does. -/
def IsRefusedBy (lexeme : Lexeme) (error : TemplateError) : Prop :=
  (∃ vocabulary, error = lexeme.unknown vocabulary) ∨
    ∃ misplacement, error = lexeme.misplaced misplacement

theorem IsRefusedBy.isBlamedBy {lexeme : Lexeme} {error : TemplateError}
    (refused : lexeme.IsRefusedBy error) : lexeme.IsBlamedBy error := by
  rcases refused with ⟨vocabulary, rfl⟩ | ⟨misplacement, rfl⟩
  · exact ⟨rfl, rfl⟩
  · exact ⟨rfl, rfl⟩

theorem isRefusedBy_of_particleTag {lexeme : Lexeme} {code : List Char} {error : TemplateError}
    (failed : lexeme.particleTag code = .error error) : lexeme.IsRefusedBy error := by
  unfold particleTag at failed
  split at failed
  · exact absurd failed (by simp)
  · obtain rfl := Except.error.inj failed
    exact .inl ⟨.particle, rfl⟩

theorem isRefusedBy_of_aggregate {lexeme : Lexeme} {reduction : Reduction} {code : List Char}
    {error : TemplateError} (failed : lexeme.aggregate reduction code = .error error) :
    lexeme.IsRefusedBy error := by
  unfold aggregate at failed
  rcases bind_eq_error_iff.mp failed with notFound | ⟨tag, -, notMade⟩
  · exact isRefusedBy_of_particleTag notFound
  · split at notMade
    · exact absurd notMade (by simp)
    · obtain rfl := Except.error.inj notMade
      exact .inr ⟨_, rfl⟩

theorem isRefusedBy_of_quantity {lexeme : Lexeme} {selector : Char} {code : List Char}
    {error : TemplateError} (failed : lexeme.quantity selector code = .error error) :
    lexeme.IsRefusedBy error := by
  unfold quantity at failed
  split at failed
  · obtain rfl := Except.error.inj failed
    exact .inl ⟨.selector, rfl⟩
  · split at failed
    · exact absurd failed (by simp)
    · obtain rfl := Except.error.inj failed
      exact .inl ⟨.simulation, rfl⟩
  · exact isRefusedBy_of_particleTag (bind_pure_eq_error_iff.mp failed)
  · exact isRefusedBy_of_aggregate (bind_pure_eq_error_iff.mp failed)
  · exact isRefusedBy_of_aggregate (bind_pure_eq_error_iff.mp failed)

/-- Only a value token is refused; a block inside a block is told of as such. -/
theorem isRefusedBy_or_of_item {lexeme : Lexeme} {error : TemplateError}
    (failed : lexeme.item = .error error) :
    ((∃ selector code, lexeme.kind = .value selector code) ∧ lexeme.IsRefusedBy error) ∨
      (∃ interior, lexeme.kind = .list interior) ∧ lexeme.IsBlamedBy error := by
  unfold item at failed
  split at failed
  · exact absurd failed (by simp)
  · rename_i selector code kindEq
    exact .inl ⟨⟨selector, code, kindEq⟩, isRefusedBy_of_quantity failed⟩
  · rename_i interior kindEq
    obtain rfl := Except.error.inj failed
    exact .inr ⟨⟨interior, kindEq⟩, rfl, rfl⟩

theorem isBlamedBy_of_item {lexeme : Lexeme} {error : TemplateError}
    (failed : lexeme.item = .error error) : lexeme.IsBlamedBy error := by
  rcases isRefusedBy_or_of_item failed with ⟨-, refused⟩ | ⟨-, blamed⟩
  · exact refused.isBlamedBy
  · exact blamed

/-- A lexeme of a format string is a value token that is refused, or the fault lies in
its block. -/
theorem isRefusedBy_or_of_node {length : Nat} {lexeme : Lexeme} {error : TemplateError}
    (failed : lexeme.node length = .error error) :
    ((∃ selector code, lexeme.kind = .value selector code) ∧ lexeme.IsRefusedBy error) ∨
      ∃ interior, lexeme.kind = .list interior ∧
        Group.itemsOfInterior (lexeme.start + 1) interior = .error error := by
  unfold node at failed
  split at failed
  · rename_i interior kindEq
    exact .inr ⟨interior, kindEq, bind_pure_eq_error_iff.mp failed⟩
  · rename_i notList
    left
    rcases bind_eq_error_iff.mp failed with notRead | ⟨item, read, notPlaced⟩
    · rcases isRefusedBy_or_of_item notRead with refused | ⟨⟨interior, kindEq⟩, -⟩
      · exact refused
      · exact absurd kindEq (notList interior)
    · cases item with
      | literal text => exact absurd notPlaced (by simp [pure, Except.pure])
      | simulation tag => exact absurd notPlaced (by simp [pure, Except.pure])
      | aggregate reduced => exact absurd notPlaced (by simp [pure, Except.pure])
      | particle tag =>
          obtain rfl := Except.error.inj notPlaced
          refine ⟨?_, .inr ⟨.particleOutsideGroup, rfl⟩⟩
          unfold Lexeme.item at read
          cases kindEq : lexeme.kind with
          | separators => simp [kindEq] at read
          | value selector code => exact ⟨selector, code, rfl⟩
          | list interior => exact absurd kindEq (notList interior)

end Lexeme

/-! ## Faults of scans -/

namespace Scan

/-- Reading fails on the first lexeme without a meaning, or else where cutting
stops. -/
theorem exists_of_read_eq_error {Part : Type} {meaning : Lexeme → Except TemplateError Part}
    {scan : Scan} {error : TemplateError} (failed : scan.read meaning = .error error) :
    (∃ before lexeme after, scan.lexemes = before ++ lexeme :: after ∧
      (∀ earlier ∈ before, ∃ part, meaning earlier = .ok part) ∧
      meaning lexeme = .error error) ∨
    ((∀ lexeme ∈ scan.lexemes, ∃ part, meaning lexeme = .ok part) ∧
      scan.error? = some error) := by
  unfold read at failed
  rcases bind_eq_error_iff.mp failed with meaningless | ⟨parts, meant, cutShort⟩
  · exact .inl (mapM_eq_error_iff.mp meaningless)
  · refine .inr ⟨?_, ?_⟩
    · rcases forall_eq_ok_or_exists_eq_error meaning scan.lexemes with
        allMeant | ⟨before, lexeme, after, failure, split⟩
      · exact allMeant
      · rw [mapM_eq_error_iff.mpr ⟨before, lexeme, after, split⟩] at meant
        exact absurd meant (by simp)
    · split at cutShort
      · exact absurd cutShort (by simp)
      · rename_i fault faultEq
        obtain rfl := Except.error.inj cutShort
        exact faultEq

/-- The fault of a text that starts no lexeme lies at its start, unless it is a brace
further on. -/
theorem exists_pointsBehind_fault (region : Region) (offset : Nat) {input : List Char}
    (nonempty : input ≠ []) :
    ∃ before, (fault region offset input).PointsBehind offset before input ∧
      (¬(fault region offset input).IsNestedGroup → before = []) := by
  unfold fault
  dsimp only
  split
  · rename_i nested
    refine ⟨input.takeWhile (· != '\x7b'), ⟨_, List.takeWhile_append_dropWhile, rfl, ?_, ?_⟩, ?_⟩
    · rw [TemplateError.text, String.toList_ofList]
      exact nested.2
    · simp [TemplateError.text]
    · exact fun notNested => absurd ⟨_, _, rfl⟩ notNested
  · refine ⟨[], ⟨input, rfl, rfl, ?_, ?_⟩, fun _ => rfl⟩
    · rw [TemplateError.text, String.toList_ofList]
      exact nonempty
    · simp [TemplateError.text]

/-- The fault of a scan lies behind its lexemes. -/
theorem exists_pointsBehind_of_error? {region : Region} {offset : Nat} {input : List Char}
    {error : TemplateError} (isFault : (ofChars region offset input).error? = some error) :
    ∃ before, error.PointsBehind offset
        (written (ofChars region offset input).lexemes ++ before) input ∧
      (¬ error.IsNestedGroup → before = []) := by
  obtain ⟨rest, -, nothingLost, -, stopEq, faultEq⟩ := exists_rest_ofChars region offset input
  rw [faultEq, stopEq] at isFault
  split at isFault
  · exact absurd isFault (by simp)
  · rename_i nonempty
    obtain rfl := Option.some.inj isFault
    obtain ⟨before, points, atStart⟩ := exists_pointsBehind_fault region
      (offset + byteLength (written (ofChars region offset input).lexemes)) nonempty
    refine ⟨before, ?_, atStart⟩
    have shifted := points.prepend
    rwa [nothingLost] at shifted

theorem Tiling.pointsBehind {region : Region} {offset : Nat} {before after : List Lexeme}
    {lexeme : Lexeme} {rest : List Char} {error : TemplateError}
    (tiling : Tiling region offset (before ++ lexeme :: after) rest)
    (blames : lexeme.IsBlamedBy error) :
    error.PointsBehind offset (written before)
      (written (before ++ lexeme :: after) ++ rest) := by
  obtain ⟨startEq, -, -, spells, -⟩ := tiling_cons_iff.mp (tiling_append_iff.mp tiling).2
  refine ⟨lexeme.text ++ (written after ++ rest), ?_, blames.1.trans startEq, ?_, ?_⟩
  · simp only [written_append, written_cons, List.append_assoc]
  · rw [blames.2, String.toList_ofList]
    exact spells.ne_nil
  · rw [blames.2, String.toList_ofList]
    exact List.prefix_append _ _

/-- Lexemes lie between the ends of what they tile. -/
theorem Tiling.bounds {region : Region} {offset : Nat} {lexemes : List Lexeme}
    {rest : List Char} (tiling : Tiling region offset lexemes rest) {lexeme : Lexeme}
    (member : lexeme ∈ lexemes) :
    offset ≤ lexeme.start ∧ lexeme.stop ≤ offset + byteLength (written lexemes) := by
  obtain ⟨before, after, rfl⟩ := List.append_of_mem member
  obtain ⟨startEq, stopEq, -⟩ := tiling_cons_iff.mp (tiling_append_iff.mp tiling).2
  rw [written_append, written_cons, byteLength_append, byteLength_append]
  omega

/-- No lexeme reaches across a place where others end and begin. -/
theorem Tiling.not_across {region : Region} {offset : Nat} {before after : List Lexeme}
    {rest : List Char} (tiling : Tiling region offset (before ++ after) rest) {lexeme : Lexeme}
    (member : lexeme ∈ before ++ after) :
    ¬(lexeme.start < offset + byteLength (written before) ∧
      offset + byteLength (written before) < lexeme.stop) := by
  obtain ⟨precedes, follows⟩ := tiling_append_iff.mp tiling
  rcases List.mem_append.mp member with isBefore | isAfter
  · have := (precedes.bounds isBefore).2
    omega
  · have := (follows.bounds isAfter).1
    omega

end Scan

/-! ## Faults inside of a block -/

theorem Grammar.sequence_written {Piece : List Char → Prop} {lexemes : List Lexeme}
    (pieces : ∀ lexeme ∈ lexemes, Piece lexeme.text) : Sequence Piece (Scan.written lexemes) := by
  refine ⟨lexemes.map (·.text), ?_, by rw [Scan.written, List.flatMap_def]⟩
  rw [List.forall_mem_map]
  exact pieces

theorem Lexeme.blockPiece_of_item {lexeme : Lexeme} {item : Item}
    (spells : lexeme.kind.Spells lexeme.text) (read : lexeme.item = .ok item) :
    Grammar.BlockPiece lexeme.text := by
  have pieceEq := (item_eq_ok_iff spells).mp read
  obtain ⟨kindEq, textEq⟩ := Prod.mk.inj pieceEq
  rw [← kindEq, ← textEq] at spells
  exact Grammar.blockPiece_iff.mpr ⟨item, textEq, textEq ▸ spells⟩

/-- The fault of a block is found in its inside, behind pieces of a block. -/
theorem Group.exists_fault_of_itemsOfInterior {offset : Nat} {inside : List Char}
    {error : TemplateError} (failed : itemsOfInterior offset inside = .error error) :
    ∃ before, error.PointsBehind offset before inside ∧
      (¬ error.IsNestedGroup → Grammar.Sequence Grammar.BlockPiece before) := by
  obtain ⟨rest, tiling, nothingLost, -⟩ := Scan.exists_rest_ofChars .interior offset inside
  have piecesOf {lexemes : List Lexeme}
      (ofScan : ∀ lexeme ∈ lexemes, lexeme ∈ (Scan.ofChars .interior offset inside).lexemes)
      (read : ∀ lexeme ∈ lexemes, ∃ item, lexeme.item = .ok item) :
      Grammar.Sequence Grammar.BlockPiece (Scan.written lexemes) := by
    refine Grammar.sequence_written fun lexeme member => ?_
    obtain ⟨item, itemEq⟩ := read lexeme member
    exact lexeme.blockPiece_of_item (tiling.of_mem (ofScan lexeme member)).2 itemEq
  rcases Scan.exists_of_read_eq_error failed with
    ⟨before, lexeme, after, lexemesEq, read, blamed⟩ | ⟨read, isFault⟩
  · have points := (lexemesEq ▸ tiling).pointsBehind (Lexeme.isBlamedBy_of_item blamed)
    rw [← lexemesEq, nothingLost] at points
    refine ⟨Scan.written before, points, fun _ => piecesOf (fun earlier member => ?_) read⟩
    rw [lexemesEq]
    exact List.mem_append_left _ member
  · obtain ⟨before, points, atStart⟩ := Scan.exists_pointsBehind_of_error? isFault
    refine ⟨_, points, fun notNested => ?_⟩
    rw [atStart notNested, List.append_nil]
    exact piecesOf (fun _ member => member) read

/-! ## Faults of format strings -/

namespace Template

theorem exists_parse_of_pieces {pieces : List (Lexeme.Kind × List Char)} {format : String}
    (separated : Scan.Separated .template pieces)
    (readable : ∀ piece ∈ pieces, Node.Readable piece)
    (textEq : pieces.flatMap Prod.snd = format.toList) :
    ∃ template, parse format = .ok template := by
  obtain ⟨lexemes, complete, rfl⟩ :=
    (Scan.exists_toExcept_ofChars_iff 0).mpr ⟨separated, textEq⟩
  obtain ⟨nodes, read⟩ : ∃ nodes, (Scan.ofChars .template 0 format.toList).read
      (Lexeme.node (byteLength format.toList)) = .ok nodes := by
    refine Scan.exists_read_eq_ok_iff.mpr ⟨lexemes, complete, fun lexeme member => ?_⟩
    rw [Lexeme.exists_node_eq_ok_iff (Scan.spells_of_toExcept complete member)]
    exact readable lexeme.piece (List.mem_map_of_mem member)
  refine ⟨⟨nodes⟩, ?_⟩
  unfold parse ofChars
  rw [read]
  rfl

section Prefixes

variable {lexemes before after : List Lexeme} {block : Lexeme} {rest : List Char}

theorem exists_parse_written (tiling : Scan.Tiling .template 0 lexemes rest) {length : Nat}
    (read : ∀ lexeme ∈ lexemes, ∃ node, lexeme.node length = .ok node) :
    ∃ template, parse (String.ofList (Scan.written lexemes)) = .ok template := by
  refine exists_parse_of_pieces (Scan.separated_of_tiling tiling) ?_ ?_
  · rw [List.forall_mem_map]
    intro lexeme member
    exact (Lexeme.exists_node_eq_ok_iff (tiling.of_mem member).2).mp (read lexeme member)
  · rw [← Scan.written_eq_flatMap, String.toList_ofList]

/-- Closing a block early, behind pieces of a block, gives a format string. -/
theorem exists_parse_closed (tiling : Scan.Tiling .template 0 (before ++ block :: after) rest)
    {length : Nat} (read : ∀ lexeme ∈ before, ∃ node, lexeme.node length = .ok node)
    {inside interior : List Char} (isBlock : block.kind = .list interior)
    (isPrefix : inside <+: interior) (pieces : Grammar.Sequence Grammar.BlockPiece inside) :
    ∃ template, parse
      (String.ofList (Scan.written before ++ '\x7b' :: inside) ++ "\x7d") = .ok template := by
  have separated := Scan.separated_of_tiling (Scan.tiling_append_iff.mp tiling).1
  have blockSpells := (tiling.of_mem (List.mem_append_right before List.mem_cons_self)).2
  rw [isBlock] at blockSpells
  have closedSpells : (Lexeme.Kind.list inside).Spells ('\x7b' :: (inside ++ ['\x7d'])) :=
    ⟨rfl, fun character member => blockSpells.2 character (isPrefix.subset member)⟩
  have closed : Scan.Separated .template
      (before.map Lexeme.piece ++ [(.list inside, '\x7b' :: (inside ++ ['\x7d']))]) :=
    { allowed := fun _ _ _ _ => rfl
      spells := List.forall_mem_append.mpr
        ⟨separated.spells, List.forall_mem_singleton.mpr closedSpells⟩
      apart := List.isChain_append.mpr ⟨separated.apart, by simp, by simp [Lexeme.Kind.Apart]⟩ }
  refine exists_parse_of_pieces closed ?_ ?_
  · refine List.forall_mem_append.mpr ⟨?_, List.forall_mem_singleton.mpr pieces⟩
    rw [List.forall_mem_map]
    intro lexeme member
    have spells := (tiling.of_mem (List.mem_append_left _ member)).2
    exact (Lexeme.exists_node_eq_ok_iff spells).mp (read lexeme member)
  · rw [List.flatMap_append, ← Scan.written_eq_flatMap]
    simp

end Prefixes

end Template

/-- The fault lies inside of a list block of the format string. -/
def TemplateError.LiesInBlock (error : TemplateError) (format : String) : Prop :=
  ∃ block ∈ (Scan.ofChars .template 0 format.toList).lexemes, ∃ interior,
    block.kind = .list interior ∧ block.start < error.offset ∧ error.offset < block.stop

namespace Template

/-- What stands before a fault can be read, or it can once the block that holds the
fault is closed. -/
def ReadableBefore (error : TemplateError) (format : String) (before : List Char) : Prop :=
  (¬ error.LiesInBlock format ∧ ∃ template, parse (String.ofList before) = .ok template) ∨
  (error.LiesInBlock format ∧
    ∃ template, parse (String.ofList before ++ "\x7d") = .ok template)

section Cases

variable {format : String} {before after : List Lexeme} {rest : List Char}
  {error : TemplateError}

theorem readableBefore_of_topLevel
    (lexemesEq : (Scan.ofChars .template 0 format.toList).lexemes = before ++ after)
    (tiling : Scan.Tiling .template 0 (before ++ after) rest)
    (points : error.PointsBehind 0 (Scan.written before) format.toList) {length : Nat}
    (read : ∀ lexeme ∈ before, ∃ node, lexeme.node length = .ok node) :
    ReadableBefore error format (Scan.written before) := by
  refine .inl ⟨?_, exists_parse_written (Scan.tiling_append_iff.mp tiling).1 read⟩
  rintro ⟨block, member, interior, -, opensBefore, closesBehind⟩
  obtain ⟨-, -, offsetEq, -⟩ := points
  rw [lexemesEq] at member
  rw [offsetEq] at opensBefore closesBehind
  exact tiling.not_across member ⟨opensBefore, closesBehind⟩

theorem exists_fault_of_block {block : Lexeme} {interior : List Char}
    (lexemesEq : (Scan.ofChars .template 0 format.toList).lexemes = before ++ block :: after)
    (tiling : Scan.Tiling .template 0 (before ++ block :: after) rest)
    (nothingLost : Scan.written (before ++ block :: after) ++ rest = format.toList)
    {length : Nat} (read : ∀ lexeme ∈ before, ∃ node, lexeme.node length = .ok node)
    (isBlock : block.kind = .list interior)
    (failed : Group.itemsOfInterior (block.start + 1) interior = .error error) :
    ∃ before, error.PointsBehind 0 before format.toList ∧
      (¬ error.IsNestedGroup → ReadableBefore error format before) := by
  obtain ⟨inside, points, pieces⟩ := Group.exists_fault_of_itemsOfInterior failed
  obtain ⟨startEq, stopEq, -, spells, -⟩ :=
    Scan.tiling_cons_iff.mp (Scan.tiling_append_iff.mp tiling).2
  rw [isBlock] at spells
  have opened : Scan.written before ++ '\x7b' :: interior ++
      ('\x7d' :: (Scan.written after ++ rest)) = format.toList := by
    rw [← nothingLost, Scan.written_append, Scan.written_cons, spells.1]
    simp
  refine ⟨Scan.written before ++ '\x7b' :: inside, ?_, fun notNested => .inr ⟨?_, ?_⟩⟩
  · rw [← opened]
    have openBrace : byteLength ['\x7b'] = 1 := by decide
    rw [startEq, ← openBrace] at points
    exact (points.prepend ['\x7b']).prepend (Scan.written before) |>.append _
  · -- Even a fault at the end of the inside lies before the end of the closing brace.
    obtain ⟨behind, behindEq, offsetEq, -⟩ := points
    refine ⟨block, by simp [lexemesEq], interior, isBlock, by omega, ?_⟩
    have opening : '\x7b'.utf8Size = 1 := by decide
    have closing : '\x7d'.utf8Size = 1 := by decide
    rw [offsetEq, stopEq, ← startEq, spells.1, ← behindEq]
    simp only [byteLength, byteLength_append, opening, closing]
    omega
  · obtain ⟨behind, behindEq, -⟩ := points
    exact exists_parse_closed tiling read isBlock ⟨behind, behindEq⟩ (pieces notNested)

end Cases

theorem exists_fault_of_parse {format : String} {error : TemplateError}
    (failed : parse format = .error error) :
    ∃ before, error.PointsBehind 0 before format.toList ∧
      (¬ error.IsNestedGroup → ReadableBefore error format before) := by
  obtain ⟨rest, tiling, nothingLost, -⟩ := Scan.exists_rest_ofChars .template 0 format.toList
  rcases Scan.exists_of_read_eq_error (bind_pure_eq_error_iff.mp failed) with
    ⟨before, lexeme, after, lexemesEq, read, blamed⟩ | ⟨read, isFault⟩
  · rw [lexemesEq] at tiling nothingLost
    rcases Lexeme.isRefusedBy_or_of_node blamed with
      ⟨-, refused⟩ | ⟨interior, isBlock, blockFailed⟩
    · have points := tiling.pointsBehind refused.isBlamedBy
      rw [nothingLost] at points
      exact ⟨_, points, fun _ => readableBefore_of_topLevel lexemesEq tiling points read⟩
    · exact exists_fault_of_block lexemesEq tiling nothingLost read isBlock blockFailed
  · obtain ⟨before, points, atStart⟩ := Scan.exists_pointsBehind_of_error? isFault
    refine ⟨_, points, fun notNested => ?_⟩
    rw [atStart notNested, List.append_nil] at points ⊢
    rw [← List.append_nil (Scan.ofChars .template 0 format.toList).lexemes] at tiling
    exact readableBefore_of_topLevel (List.append_nil _).symm tiling points read

/-- The error of a format string that cannot be read locates its fault. -/
theorem error_locates_fault {format : String} {error : TemplateError}
    (failed : parse format = .error error) :
    ∃ before after : String, format = before ++ after ∧ after ≠ "" ∧
      error.offset = before.utf8ByteSize ∧ error.text ≠ "" ∧
      error.text.toList <+: after.toList ∧
      (¬ error.IsNestedGroup →
        (¬ error.LiesInBlock format ∧ ∃ template, parse before = .ok template) ∨
        (error.LiesInBlock format ∧ ∃ template, parse (before ++ "\x7d") = .ok template)) := by
  obtain ⟨before, ⟨after, formatEq, offsetEq, nonempty, starts⟩, readable⟩ :=
    exists_fault_of_parse failed
  refine ⟨String.ofList before, String.ofList after, ?_, ?_, ?_, ?_, ?_, readable⟩
  · rw [← String.ofList_append, formatEq, String.ofList_toList]
  · intro noneBehind
    rw [String.ofList_eq_empty_iff] at noneBehind
    rw [noneBehind, List.prefix_nil] at starts
    exact nonempty starts
  · rw [offsetEq, Nat.zero_add, utf8ByteSize_ofList]
  · intro noText
    exact nonempty (by rw [noText]; rfl)
  · rwa [String.toList_ofList]

theorem error_locates_fault_in_block :
    parse "#st, \x7b#pm,#zq\x7d" = .error (.unknownTag "#zq" 10 .selector) ∧
      ∃ before after : String, "#st, \x7b#pm,#zq\x7d" = before ++ after ∧
        10 = before.utf8ByteSize ∧ "#zq".toList <+: after.toList ∧
        ∃ template, parse before = .ok template ∨ parse (before ++ "\x7d") = .ok template := by
  have failed : parse "#st, \x7b#pm,#zq\x7d" = .error (.unknownTag "#zq" 10 .selector) := by
    with_unfolding_all rfl
  obtain ⟨before, after, formatEq, -, offsetEq, -, starts, readable⟩ := error_locates_fault failed
  refine ⟨failed, before, after, formatEq, offsetEq, starts, ?_⟩
  have notNested : ¬ (TemplateError.unknownTag "#zq" 10 .selector).IsNestedGroup := by
    rintro ⟨text, offset, isNested⟩
    exact absurd isNested (by simp)
  rcases readable notNested with ⟨-, template, parsed⟩ | ⟨-, template, parsed⟩
  · exact ⟨template, .inl parsed⟩
  · exact ⟨template, .inr parsed⟩

end Template

end Telemetry
