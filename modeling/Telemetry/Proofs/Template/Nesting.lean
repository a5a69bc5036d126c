import Telemetry.Proofs.Template.Fault

/-!
# Braces inside of a block

A block may not hold another one.  Cutting the inside of a block reports its first
opening brace, whatever stands before it: no lexeme inside of a block holds a brace, and
a text that starts no lexeme is searched for one.

Reading a format string goes from left to right and ends at the first fault.  So a brace
inside of a block is reported unless a value token before it is refused, or an earlier
block cannot be cut to its end.
-/

namespace Telemetry

namespace Scan

theorem toExcept_eq_error_iff {scan : Scan} {error : TemplateError} :
    scan.toExcept = .error error ↔ scan.error? = some error := by
  unfold toExcept
  cases scan.error? <;> simp

section Interior

variable {offset : Nat} {lexemes : List Lexeme} {rest : List Char}

theorem Tiling.brace_notMem_written (tiling : Tiling .interior offset lexemes rest) :
    '\x7b' ∉ written lexemes := by
  intro member
  obtain ⟨lexeme, lexemeMember, inText⟩ := List.mem_flatMap.mp member
  have spells := (tiling.of_mem lexemeMember).2
  exact spells.brace_notMem (tiling.kind_ne_list lexemeMember) inText

end Interior

section FirstBrace

variable {before after : List Char}

/-- A text that starts no lexeme is blamed for its first brace. -/
theorem fault_interior (offset : Nat) (isFirst : '\x7b' ∉ before) :
    fault .interior offset (before ++ '\x7b' :: after) =
      .nestedGroup (String.ofList ('\x7b' :: after)) (offset + byteLength before) := by
  have passed : ∀ character ∈ before, (character != '\x7b') = true := by
    intro character member
    rw [bne_iff_ne]
    rintro rfl
    exact isFirst member
  have skipped : (before ++ '\x7b' :: after).takeWhile (· != '\x7b') = before := by
    rw [List.takeWhile_append_of_pos passed]
    simp
  have left : (before ++ '\x7b' :: after).dropWhile (· != '\x7b') = '\x7b' :: after := by
    rw [List.dropWhile_append_of_pos passed]
    simp
  unfold fault
  simp [skipped, left]

theorem mem_of_fault_interior {offset place : Nat} {input : List Char} {text : String}
    (isFault : fault .interior offset input = .nestedGroup text place) : '\x7b' ∈ input := by
  unfold fault at isFault
  dsimp only at isFault
  split at isFault
  · rename_i nested
    obtain ⟨brace, others, nestedEq⟩ := List.exists_cons_of_ne_nil nested.2
    have isBrace := List.head?_dropWhile_not (· != '\x7b') input
    rw [nestedEq, List.head?_cons] at isBrace
    have braceEq : brace = '\x7b' := by simpa using isBrace
    have member : brace ∈ input.dropWhile (· != '\x7b') := by
      rw [nestedEq]
      exact List.mem_cons_self
    rw [← braceEq]
    exact (List.dropWhile_suffix _).subset member
  · exact absurd isFault (by simp)

/-- Cutting the inside of a block stops before its first brace. -/
theorem exists_rest_interior (base : Nat) (isFirst : '\x7b' ∉ before) (after : List Char) :
    ∃ more, written (ofChars .interior base (before ++ '\x7b' :: after)).lexemes ++ more =
        before ∧
      (ofChars .interior base (before ++ '\x7b' :: after)).error? =
        some (.nestedGroup (String.ofList ('\x7b' :: after)) (base + byteLength before)) := by
  obtain ⟨rest, tiling, nothingLost, -, stopEq, faultEq⟩ :=
    exists_rest_ofChars .interior base (before ++ '\x7b' :: after)
  have noBrace := tiling.brace_notMem_written
  have behind : ∃ more,
      written (ofChars .interior base (before ++ '\x7b' :: after)).lexemes ++ more = before ∧
        rest = more ++ '\x7b' :: after := by
    rcases List.append_eq_append_iff.mp nothingLost with
      ⟨more, beforeEq, restEq⟩ | ⟨more, writtenEq, braceEq⟩
    · exact ⟨more, beforeEq.symm, restEq⟩
    · cases more with
      | nil => exact ⟨[], by simpa using writtenEq, by simpa using braceEq.symm⟩
      | cons brace others =>
          obtain rfl := (List.cons.inj braceEq).1
          rw [writtenEq] at noBrace
          exact absurd (List.mem_append_right before List.mem_cons_self) noBrace
  obtain ⟨more, beforeEq, restEq⟩ := behind
  have moreIsFirst : '\x7b' ∉ more := by
    intro member
    apply isFirst
    rw [← beforeEq]
    exact List.mem_append_right _ member
  have nonempty : rest ≠ [] := by simp [restEq]
  refine ⟨more, beforeEq, ?_⟩
  rw [faultEq, if_neg nonempty, restEq, fault_interior _ moreIsFirst, stopEq, Nat.add_assoc,
    ← byteLength_append, beforeEq]

theorem toExcept_interior {before after : String} (base : Nat)
    (isFirst : '\x7b' ∉ before.toList) :
    (ofChars .interior base (before ++ "\x7b" ++ after).toList).toExcept =
      .error (.nestedGroup ("\x7b" ++ after) (base + before.utf8ByteSize)) := by
  have split : (before ++ "\x7b" ++ after).toList = before.toList ++ '\x7b' :: after.toList := by
    simp
  have textEq : String.ofList ('\x7b' :: after.toList) = "\x7b" ++ after := by
    rw [← String.toList_inj]
    simp
  have sizeEq : byteLength before.toList = before.utf8ByteSize := by
    rw [← utf8ByteSize_ofList, String.ofList_toList]
  obtain ⟨-, -, isFault⟩ := exists_rest_interior base isFirst after.toList
  rw [toExcept_eq_error_iff, split, isFault, textEq, sizeEq]

/-- What is cut from the inside of a block ends before its first brace. -/
theorem stop_le_of_interior {base : Nat} {lexeme : Lexeme} (isFirst : '\x7b' ∉ before)
    (member : lexeme ∈ (ofChars .interior base (before ++ '\x7b' :: after)).lexemes) :
    lexeme.stop ≤ base + byteLength before := by
  obtain ⟨rest, tiling, -⟩ := exists_rest_ofChars .interior base (before ++ '\x7b' :: after)
  obtain ⟨more, beforeEq, -⟩ := exists_rest_interior base isFirst after
  have bound := (tiling.bounds member).2
  have lengthEq := congrArg byteLength beforeEq
  rw [byteLength_append] at lengthEq
  omega

end FirstBrace

theorem exists_nestedGroup_iff (base : Nat) (input : List Char) :
    (∃ text offset, (ofChars .interior base input).error? = some (.nestedGroup text offset)) ↔
      '\x7b' ∈ input := by
  constructor
  · rintro ⟨text, offset, isNested⟩
    obtain ⟨rest, -, nothingLost, -, -, faultEq⟩ := exists_rest_ofChars .interior base input
    rw [isNested] at faultEq
    split at faultEq
    · exact absurd faultEq (by simp)
    · have inRest := mem_of_fault_interior (Option.some.inj faultEq).symm
      rw [← nothingLost]
      exact List.mem_append_right _ inRest
  · intro member
    obtain ⟨before, after, rfl, isFirst⟩ := List.eq_append_cons_of_mem member
    obtain ⟨-, -, isFault⟩ := exists_rest_interior base isFirst after
    exact ⟨_, _, isFault⟩

theorem Tiling.stop_of_mem {region : Region} {offset : Nat} {lexemes : List Lexeme}
    {rest : List Char} (tiling : Tiling region offset lexemes rest) {lexeme : Lexeme}
    (member : lexeme ∈ lexemes) : lexeme.stop = lexeme.start + byteLength lexeme.text := by
  obtain ⟨before, after, rfl⟩ := List.append_of_mem member
  obtain ⟨startEq, stopEq, -⟩ := tiling_cons_iff.mp (tiling_append_iff.mp tiling).2
  rw [stopEq, startEq]

end Scan

namespace Group

/-- Reading the inside of a block fails on a value token that is refused, or where
cutting stops. -/
theorem isRefusedBy_or_of_itemsOfInterior {offset : Nat} {inside : List Char}
    {error : TemplateError} (failed : itemsOfInterior offset inside = .error error) :
    (∃ token ∈ (Scan.ofChars .interior offset inside).lexemes,
      (∃ selector code, token.kind = .value selector code) ∧ token.IsRefusedBy error) ∨
    (Scan.ofChars .interior offset inside).error? = some error := by
  obtain ⟨rest, tiling, -⟩ := Scan.exists_rest_ofChars .interior offset inside
  rcases Scan.exists_of_read_eq_error failed with
    ⟨before, token, after, lexemesEq, -, blamed⟩ | ⟨-, isFault⟩
  · have member : token ∈ (Scan.ofChars .interior offset inside).lexemes := by
      rw [lexemesEq]
      exact List.mem_append_right before List.mem_cons_self
    rcases Lexeme.isRefusedBy_or_of_item blamed with refused | ⟨⟨interior, isList⟩, -⟩
    · exact .inl ⟨token, member, refused⟩
    · exact absurd isList (tiling.kind_ne_list member interior)
  · exact .inr isFault

/-- With a brace inside, what is blamed is a value token before the first brace, or the
brace. -/
theorem isRefusedBy_or_nestedGroup {offset : Nat} {before after : List Char}
    {error : TemplateError} (isFirst : '\x7b' ∉ before)
    (failed : itemsOfInterior offset (before ++ '\x7b' :: after) = .error error) :
    (∃ token ∈ (Scan.ofChars .interior offset (before ++ '\x7b' :: after)).lexemes,
      (∃ selector code, token.kind = .value selector code) ∧
        token.stop ≤ offset + byteLength before ∧ token.IsRefusedBy error) ∨
    error = .nestedGroup (String.ofList ('\x7b' :: after)) (offset + byteLength before) := by
  rcases isRefusedBy_or_of_itemsOfInterior failed with
    ⟨token, member, isValue, refused⟩ | isFault
  · exact .inl ⟨token, member, isValue, Scan.stop_le_of_interior isFirst member, refused⟩
  · right
    obtain ⟨-, -, faultEq⟩ := Scan.exists_rest_interior offset isFirst after
    rw [faultEq] at isFault
    exact (Option.some.inj isFault).symm

theorem exists_itemsOfInterior_eq_error {inside : List Char} (nested : '\x7b' ∈ inside)
    (offset : Nat) : ∃ error, itemsOfInterior offset inside = .error error := by
  obtain ⟨text, place, isFault⟩ := (Scan.exists_nestedGroup_iff offset inside).mpr nested
  cases outcome : itemsOfInterior offset inside with
  | error error => exact ⟨error, rfl⟩
  | ok items =>
      obtain ⟨lexemes, complete, -⟩ := Scan.read_eq_ok_iff.mp outcome
      rw [Scan.toExcept_eq_error_iff.mpr isFault] at complete
      exact absurd complete (by simp)

end Group

namespace Template

/-- A value token that cutting a format string yields, outside of blocks or inside of
one. -/
def HasValueToken (format : String) (token : Lexeme) : Prop :=
  (∃ selector code, token.kind = .value selector code) ∧
    (token ∈ (Scan.ofChars .template 0 format.toList).lexemes ∨
      ∃ block ∈ (Scan.ofChars .template 0 format.toList).lexemes, ∃ interior,
        block.kind = .list interior ∧
          token ∈ (Scan.ofChars .interior (block.start + 1) interior).lexemes)

section Blocks

variable {format : String} {earlier later : List Lexeme} {block : Lexeme}

/-- A block that cannot be read fails the format string, unless an earlier lexeme
does. -/
theorem exists_parse_eq_error
    (lexemesEq : (Scan.ofChars .template 0 format.toList).lexemes = earlier ++ block :: later)
    {interior : List Char} (isBlock : block.kind = .list interior) {blockError : TemplateError}
    (failed : Group.itemsOfInterior (block.start + 1) interior = .error blockError) :
    ∃ error, parse format = .error error ∧
      (error = blockError ∨
        ∃ other ∈ earlier, other.node (byteLength format.toList) = .error error) := by
  have nodeFailed : block.node (byteLength format.toList) = .error blockError := by
    unfold Lexeme.node
    simp only [isBlock, failed]
    rfl
  obtain ⟨error, mapFailed, origin⟩ := exists_mapM_eq_error nodeFailed earlier later
  refine ⟨error, ?_, origin⟩
  unfold parse ofChars Scan.read
  rw [lexemesEq, mapFailed]
  rfl

theorem stop_le_start_of_mem {rest : List Char} {other : Lexeme}
    (tiling : Scan.Tiling .template 0 (earlier ++ block :: later) rest)
    (member : other ∈ earlier) : other.stop ≤ block.start := by
  obtain ⟨precedes, follows⟩ := Scan.tiling_append_iff.mp tiling
  have startEq := (Scan.tiling_cons_iff.mp follows).1
  have bound := (precedes.bounds member).2
  omega

/-- What is cut from the inside of a block ends before the block does. -/
theorem stop_le_stop_of_interior {lexemes : List Lexeme} {rest interior : List Char}
    {token : Lexeme} (tiling : Scan.Tiling .template 0 lexemes rest) (member : block ∈ lexemes)
    (isBlock : block.kind = .list interior)
    (tokenMember : token ∈ (Scan.ofChars .interior (block.start + 1) interior).lexemes) :
    token.stop ≤ block.stop := by
  obtain ⟨insideRest, insideTiling, nothingLost, -⟩ :=
    Scan.exists_rest_ofChars .interior (block.start + 1) interior
  have bound := (insideTiling.bounds tokenMember).2
  have lengthEq := congrArg byteLength nothingLost
  have spells := (tiling.of_mem member).2
  rw [isBlock] at spells
  have opening : '\x7b'.utf8Size = 1 := by decide
  have stopEq := tiling.stop_of_mem member
  rw [spells.1] at stopEq
  simp only [byteLength, byteLength_append, opening] at stopEq lengthEq
  omega

/-- A lexeme that cannot be read is or holds a value token that is refused, or its inside
cannot be cut to its end. -/
theorem isRefusedBy_or_of_member
    (member : block ∈ (Scan.ofChars .template 0 format.toList).lexemes) {length : Nat}
    {error : TemplateError} (failed : block.node length = .error error) :
    (∃ token, HasValueToken format token ∧ token.stop ≤ block.stop ∧ token.IsRefusedBy error) ∨
      ∃ interior, block.kind = .list interior ∧
        (Scan.ofChars .interior (block.start + 1) interior).toExcept = .error error := by
  obtain ⟨rest, tiling, -⟩ := Scan.exists_rest_ofChars .template 0 format.toList
  rcases Lexeme.isRefusedBy_or_of_node failed with
    ⟨isValue, refused⟩ | ⟨interior, isBlock, interiorFailed⟩
  · exact .inl ⟨block, ⟨isValue, .inl member⟩, le_refl _, refused⟩
  · rcases Group.isRefusedBy_or_of_itemsOfInterior interiorFailed with
      ⟨token, tokenMember, isValue, refused⟩ | isFault
    · left
      have stopLe := stop_le_stop_of_interior tiling member isBlock tokenMember
      have hasToken : HasValueToken format token :=
        ⟨isValue, .inr ⟨block, member, interior, isBlock, tokenMember⟩⟩
      exact ⟨token, hasToken, stopLe, refused⟩
    · exact .inr ⟨interior, isBlock, Scan.toExcept_eq_error_iff.mpr isFault⟩

end Blocks

section NestedBrace

variable {format : String} {earlier later : List Lexeme} {block : Lexeme}
  {before after : List Char}
  (lexemesEq : (Scan.ofChars .template 0 format.toList).lexemes = earlier ++ block :: later)
  (isBlock : block.kind = .list (before ++ '\x7b' :: after)) (isFirst : '\x7b' ∉ before)
include lexemesEq isBlock isFirst

/-- A format string with a brace inside of a block cannot be read.  Its error is the one at
the brace, that of a value token before the brace which is refused, or that of an earlier
block which cannot be cut to its end. -/
theorem exists_parse_of_nested :
    ∃ error, parse format = .error error ∧
      (error = .nestedGroup (String.ofList ('\x7b' :: after))
          (block.start + 1 + byteLength before) ∨
        (∃ token, HasValueToken format token ∧
          token.stop ≤ block.start + 1 + byteLength before ∧ token.IsRefusedBy error) ∨
        ∃ other ∈ earlier, ∃ interior, other.kind = .list interior ∧
          (Scan.ofChars .interior (other.start + 1) interior).toExcept = .error error) := by
  obtain ⟨rest, tiling, -⟩ := Scan.exists_rest_ofChars .template 0 format.toList
  rw [lexemesEq] at tiling
  have nested : '\x7b' ∈ before ++ '\x7b' :: after :=
    List.mem_append_right before List.mem_cons_self
  obtain ⟨blockError, blockFailed⟩ :=
    Group.exists_itemsOfInterior_eq_error nested (block.start + 1)
  obtain ⟨error, failed, origin⟩ := exists_parse_eq_error lexemesEq isBlock blockFailed
  refine ⟨error, failed, ?_⟩
  rcases origin with rfl | ⟨other, member, otherFailed⟩
  · -- Everything before the block has a meaning, and the inside of the block has none.
    rcases Group.isRefusedBy_or_nestedGroup isFirst blockFailed with
      ⟨token, tokenMember, isValue, stopLe, refused⟩ | isNested
    · right; left
      have blockMember : block ∈ (Scan.ofChars .template 0 format.toList).lexemes := by
        rw [lexemesEq]
        exact List.mem_append_right earlier List.mem_cons_self
      have hasToken : HasValueToken format token :=
        ⟨isValue, .inr ⟨block, blockMember, _, isBlock, tokenMember⟩⟩
      exact ⟨token, hasToken, stopLe, refused⟩
    · exact .inl isNested
  · have otherMember : other ∈ (Scan.ofChars .template 0 format.toList).lexemes := by
      rw [lexemesEq]
      exact List.mem_append_left _ member
    rcases isRefusedBy_or_of_member otherMember otherFailed with
      ⟨token, hasToken, stopLe, refused⟩ | ⟨interior, isList, interiorFailed⟩
    · right; left
      have otherStopLe := stop_le_start_of_mem tiling member
      exact ⟨token, hasToken, by omega, refused⟩
    · right; right
      exact ⟨other, member, interior, isList, interiorFailed⟩

/-- A scan that cuts every block to its end before it goes on comes to the brace only when
no earlier block is at fault.  Then the error is the one at the brace or that of a value
token before it which is refused. -/
theorem exists_parse_of_nested_of_cut
    (cut : ∀ other ∈ earlier, ∀ interior, other.kind = .list interior →
      ∃ lexemes, (Scan.ofChars .interior (other.start + 1) interior).toExcept = .ok lexemes) :
    ∃ error, parse format = .error error ∧
      (error = .nestedGroup (String.ofList ('\x7b' :: after))
          (block.start + 1 + byteLength before) ∨
        ∃ token, HasValueToken format token ∧
          token.stop ≤ block.start + 1 + byteLength before ∧ token.IsRefusedBy error) := by
  obtain ⟨error, failed, origin⟩ := exists_parse_of_nested lexemesEq isBlock isFirst
  refine ⟨error, failed, ?_⟩
  rcases origin with isNested | isRefused | ⟨other, member, interior, isList, notCut⟩
  · exact .inl isNested
  · exact .inr isRefused
  · obtain ⟨lexemes, complete⟩ := cut other member interior isList
    rw [complete] at notCut
    exact absurd notCut (by simp)

end NestedBrace

/-- Cutting the inside of a block fails on a block inside of it exactly when it holds an
opening brace, at the first one and whatever stands before it, and yields no block.  A
format string with a brace inside of a block cannot be read.  Its error is the one at the
brace, that of a value token before the brace which is refused, or that of an earlier
block which cannot be cut to its end. -/
theorem nested_brace_is_reported :
    (∀ (source : String) (base : Nat),
      let scan := Scan.ofChars .interior base source.toList
      ((∃ text offset, scan.toExcept = .error (.nestedGroup text offset)) ↔
        '\x7b' ∈ source.toList) ∧
      (∀ before after : String, source = before ++ "\x7b" ++ after → '\x7b' ∉ before.toList →
        scan.toExcept = .error (.nestedGroup ("\x7b" ++ after) (base + before.utf8ByteSize))) ∧
      ∀ lexeme ∈ scan.lexemes, ∀ interior, lexeme.kind ≠ .list interior) ∧
    ∀ (format : String) (earlier later : List Lexeme) (block : Lexeme) (before after : List Char),
      (Scan.ofChars .template 0 format.toList).lexemes = earlier ++ block :: later →
      block.kind = .list (before ++ '\x7b' :: after) → '\x7b' ∉ before →
      ∃ error, parse format = .error error ∧
        (error = .nestedGroup (String.ofList ('\x7b' :: after))
            (block.start + 1 + byteLength before) ∨
          (∃ token, HasValueToken format token ∧
            token.stop ≤ block.start + 1 + byteLength before ∧ token.IsRefusedBy error) ∨
          ∃ other ∈ earlier, ∃ interior, other.kind = .list interior ∧
            (Scan.ofChars .interior (other.start + 1) interior).toExcept = .error error) := by
  constructor
  · intro source base scan
    obtain ⟨rest, tiling, -⟩ := Scan.exists_rest_ofChars .interior base source.toList
    refine ⟨?_, ?_, fun lexeme member => tiling.kind_ne_list member⟩
    · simp only [Scan.toExcept_eq_error_iff]
      exact Scan.exists_nestedGroup_iff base source.toList
    · rintro before after rfl isFirst
      exact Scan.toExcept_interior base isFirst
  · intro format earlier later block before after lexemesEq isBlock isFirst
    exact exists_parse_of_nested lexemesEq isBlock isFirst

/-- A brace behind a text that starts no lexeme, which has a character of two bytes. -/
theorem nested_brace_is_reported_behind_unscannable_text :
    (Scan.ofChars .template 0 "#st\x7b#pmé\x7b#pa\x7d".toList).lexemes =
        [⟨.value 's' ['t'], "#st".toList, 0, 3⟩] ++
          ⟨.list "#pmé\x7b#pa".toList, "\x7b#pmé\x7b#pa\x7d".toList, 3, 14⟩ :: [] ∧
      '\x7b' ∉ "#pmé".toList ∧
      ∃ error, parse "#st\x7b#pmé\x7b#pa\x7d" = .error error ∧
        (error = .nestedGroup "\x7b#pa" 9 ∨
          (∃ token, HasValueToken "#st\x7b#pmé\x7b#pa\x7d" token ∧ token.stop ≤ 9 ∧
            token.IsRefusedBy error) ∨
          ∃ other ∈ [(⟨.value 's' ['t'], "#st".toList, 0, 3⟩ : Lexeme)], ∃ interior,
            other.kind = .list interior ∧
              (Scan.ofChars .interior (other.start + 1) interior).toExcept = .error error) := by
  have lexemesEq : (Scan.ofChars .template 0 "#st\x7b#pmé\x7b#pa\x7d".toList).lexemes =
      [⟨.value 's' ['t'], "#st".toList, 0, 3⟩] ++
        ⟨.list ("#pmé".toList ++ '\x7b' :: "#pa".toList), "\x7b#pmé\x7b#pa\x7d".toList, 3, 14⟩ ::
          [] := by with_unfolding_all rfl
  have isFirst : '\x7b' ∉ "#pmé".toList := by decide
  exact ⟨lexemesEq, isFirst,
    nested_brace_is_reported.2 _ _ _ _ "#pmé".toList "#pa".toList lexemesEq rfl isFirst⟩

/-- Reading ends at a text that starts no lexeme in an earlier block, although the scan of
the format string goes on to a block with a brace inside and meets no value token. -/
theorem parse_of_unscannable_before_nested_brace :
    (Scan.ofChars .template 0 "\x7b?\x7d\x7b\x7b\x7d".toList).lexemes =
        [⟨.list ['?'], "\x7b?\x7d".toList, 0, 3⟩,
          ⟨.list ['\x7b'], "\x7b\x7b\x7d".toList, 3, 6⟩] ∧
      (∀ token, ¬ HasValueToken "\x7b?\x7d\x7b\x7b\x7d" token) ∧
      (Scan.ofChars .interior 4 ['\x7b']).toExcept = .error (.nestedGroup "\x7b" 4) ∧
      parse "\x7b?\x7d\x7b\x7b\x7d" = .error (.unscannable "?" 1) := by
  have lexemesEq : (Scan.ofChars .template 0 "\x7b?\x7d\x7b\x7b\x7d".toList).lexemes =
      [⟨.list ['?'], "\x7b?\x7d".toList, 0, 3⟩,
        ⟨.list ['\x7b'], "\x7b\x7b\x7d".toList, 3, 6⟩] := by with_unfolding_all rfl
  have firstInside : (Scan.ofChars .interior 1 ['?']).lexemes = [] := by with_unfolding_all rfl
  have secondInside : (Scan.ofChars .interior 4 ['\x7b']).lexemes = [] := by
    with_unfolding_all rfl
  refine ⟨lexemesEq, ?_, by with_unfolding_all rfl, by with_unfolding_all rfl⟩
  rintro token ⟨⟨selector, code, isValue⟩, member | ⟨block, blockMember, interior, isList, member⟩⟩
  · rw [lexemesEq] at member
    rcases List.mem_pair.mp member with rfl | rfl
    · exact absurd isValue (by simp)
    · exact absurd isValue (by simp)
  · rw [lexemesEq] at blockMember
    rcases List.mem_pair.mp blockMember with rfl | rfl
    · obtain rfl := Lexeme.Kind.list.inj isList
      rw [firstInside] at member
      exact absurd member List.not_mem_nil
    · obtain rfl := Lexeme.Kind.list.inj isList
      rw [secondInside] at member
      exact absurd member List.not_mem_nil

end Template

end Telemetry
