import Telemetry.Preview.Session
import Telemetry.Proofs.Lint.Verdict
import Telemetry.Proofs.Template.Fault

/-!
# Where the caret under a format string stands

The linter and the preview shell show a format string that cannot be read with a caret
under it.  The caret is moved by the offset of the error, which counts bytes, while the
columns of a line are its characters.  It stands under the first character of the fault
exactly when everything before the fault consists of characters of one byte.

Only a block inside a block can be reported behind other characters.  What stands before
any other fault is made of separators, value tokens and braces.
-/

namespace Telemetry

/-- Every character takes one byte in the UTF-8 form of the text. -/
def IsAscii (text : List Char) : Prop :=
  ∀ character ∈ text, character.utf8Size = 1

theorem length_le_byteLength (text : List Char) : text.length ≤ byteLength text := by
  induction text with
  | nil => exact Nat.le_refl 0
  | cons character text ih =>
      have positive := character.utf8Size_pos
      rw [List.length_cons, byteLength]
      omega

/-- Bytes can be counted as characters exactly where every character takes one byte. -/
theorem byteLength_eq_length_iff (text : List Char) :
    byteLength text = text.length ↔ IsAscii text := by
  induction text with
  | nil => simp [byteLength, IsAscii]
  | cons character text ih =>
      have positive := character.utf8Size_pos
      have shorter := length_le_byteLength text
      unfold IsAscii at ih ⊢
      rw [List.forall_mem_cons, ← ih, byteLength, List.length_cons]
      omega

theorem utf8Size_of_isSeparator {character : Char} (separator : isSeparator character = true) :
    character.utf8Size = 1 := by
  have oneByte := of_isSeparator (·.utf8Size == 1) (by decide) separator
  exact beq_iff_eq.mp oneByte

theorem utf8Size_of_isWord {character : Char} (word : isWord character = true) :
    character.utf8Size = 1 := by
  have oneByte {last : Char} (isAscii : last.val ≤ 127) (inRange : character.val ≤ last.val) :
      character.utf8Size = 1 :=
    Char.utf8Size_eq_one_iff.mpr (UInt32.le_trans inRange isAscii)
  rcases Bool.or_eq_true_iff.mp word with alphanumeric | underscore
  · rcases Bool.or_eq_true_iff.mp alphanumeric with letter | digit
    · rcases Bool.or_eq_true_iff.mp letter with upper | lower
      · have bounds : 'A'.val ≤ character.val ∧ character.val ≤ 'Z'.val :=
          of_decide_eq_true upper
        exact oneByte (by decide) bounds.2
      · have bounds := Bool.and_eq_true_iff.mp lower
        exact oneByte (by decide) (of_decide_eq_true bounds.2)
    · have bounds := Bool.and_eq_true_iff.mp digit
      exact oneByte (by decide) (of_decide_eq_true bounds.2)
  · rw [beq_iff_eq.mp underscore]
    rfl

theorem Lexeme.Kind.Spells.isAscii {kind : Kind} {text : List Char} (spells : kind.Spells text)
    (notList : ∀ interior, kind ≠ .list interior) : IsAscii text := by
  intro character member
  cases kind with
  | separators => exact utf8Size_of_isSeparator (spells.2 character member)
  | value selector code =>
      obtain ⟨rfl, selects, isCode⟩ := spells
      rcases List.mem_cons.mp member with rfl | inWord
      · decide
      · rcases List.mem_cons.mp inWord with rfl | inCode
        · exact utf8Size_of_isWord selects
        · exact utf8Size_of_isWord (isCode.isWord character inCode)
  | list interior => exact absurd rfl (notList interior)

theorem Group.isAscii_interior {group : Group} (wellFormed : group.WellFormed) :
    IsAscii group.interior := by
  intro character member
  obtain ⟨item, itemMember, inItem⟩ := List.mem_flatMap.mp member
  have spells := ((wellFormed_iff_separated group).mp wellFormed).spells item.piece
    (List.mem_map_of_mem itemMember)
  exact spells.isAscii item.kind_ne_list character inItem

namespace Template

/-- A format string that can be read has no character of several bytes. -/
theorem isAscii_of_parse {format : String} {template : Template}
    (parsed : parse format = .ok template) : IsAscii format.toList := by
  obtain ⟨wellFormed, rfl⟩ := parse_eq_ok_iff_wellFormed.mp parsed
  obtain ⟨separated, -⟩ := template.wellFormed_iff_separated.mp wellFormed
  intro character member
  rw [text_toList] at member
  obtain ⟨piece, pieceMember, inPiece⟩ := List.mem_flatMap.mp member
  obtain ⟨node, nodeMember, rfl⟩ := List.mem_map.mp pieceMember
  cases node with
  | group block =>
      have blockWellFormed := wellFormed.groups block nodeMember
      have inText : character ∈ block.text.toList := inPiece
      rw [block.text_toList] at inText
      rcases List.mem_cons.mp inText with rfl | inRest
      · decide
      · rcases List.mem_append.mp inRest with inInterior | isBrace
        · exact Group.isAscii_interior blockWellFormed character inInterior
        · obtain rfl := List.mem_singleton.mp isBrace
          decide
  | literal text =>
      have spells := separated.spells _ pieceMember
      exact spells.isAscii (Item.literal text).kind_ne_list character inPiece
  | simulation tag =>
      have spells := separated.spells _ pieceMember
      exact spells.isAscii (Item.simulation tag).kind_ne_list character inPiece
  | aggregate reduced =>
      have spells := separated.spells _ pieceMember
      exact spells.isAscii (Item.aggregate reduced).kind_ne_list character inPiece

theorem ReadableBefore.isAscii {error : TemplateError} {format : String} {before : List Char}
    (readable : ReadableBefore error format before) : IsAscii before := by
  rcases readable with ⟨-, template, parsed⟩ | ⟨-, template, parsed⟩
  · have ascii := isAscii_of_parse parsed
    rwa [String.toList_ofList] at ascii
  · have ascii := isAscii_of_parse parsed
    intro character member
    apply ascii
    simp [member]

end Template

/-! ## The caret -/

theorem Text.toList_spaces (count : Nat) : (spaces count).toList = List.replicate count ' ' := by
  simp [spaces]

theorem Text.spaces_add (first second : Nat) :
    spaces (first + second) = spaces first ++ spaces second := by
  rw [← String.toList_inj, String.toList_append, toList_spaces, toList_spaces, toList_spaces,
    List.replicate_append_replicate]

theorem Text.spaces_append_inj {first second : Nat} {text : String}
    (same : spaces first ++ text = spaces second ++ text) : first = second := by
  have lengthEq := congrArg (fun shown : String => shown.toList.length) same
  simpa [toList_spaces] using lengthEq

/-- A text in two parts and under it a caret in the column of the first character of the
second part. -/
def caretUnder (indent : Nat) (before after : String) : List String :=
  [Text.spaces indent ++ (before ++ after), Text.spaces (indent + before.length) ++ "^"]

/-- The caret is moved by bytes, and so it stands right where these are characters. -/
theorem pointer_eq_caretUnder_iff {before after : String} {error : TemplateError}
    (offsetEq : error.offset = before.utf8ByteSize) (indent : Nat) :
    pointer indent (before ++ after) error = caretUnder indent before after ↔
      IsAscii before.toList := by
  have bytes : byteLength before.toList = before.utf8ByteSize := by
    rw [← utf8ByteSize_ofList, String.ofList_toList]
  rw [← byteLength_eq_length_iff, bytes, ← offsetEq, String.length_toList]
  unfold pointer caretUnder
  constructor
  · intro same
    have caretEq := (List.cons.inj (List.cons.inj same).2).1
    have columnEq := Text.spaces_append_inj caretEq
    omega
  · intro same
    rw [same]

theorem Preview.Session.render_of_error {session : Session} {error : TemplateError}
    (failed : Template.parse session.format = .error error) :
    session.render = ("ERROR: " ++ error.message) :: pointer 2 session.format error := by
  have twoSpaces : Text.spaces 2 = "  " := by decide
  unfold render pointer
  rw [failed, Text.spaces_add, twoSpaces]

/-- The caret under a format string that cannot be read stands under the first character
of the fault exactly when all characters before it take one byte.  They do unless a block
inside a block is at fault. -/
theorem pointer_marks_fault_iff {format : String} {error : TemplateError}
    (failed : Template.parse format = .error error) :
    ∃ before after : String, format = before ++ after ∧ error.offset = before.utf8ByteSize ∧
      error.text ≠ "" ∧ error.text.toList <+: after.toList ∧
      (∀ indent, pointer indent format error = caretUnder indent before after ↔
        IsAscii before.toList) ∧
      (¬ error.IsNestedGroup →
        ∀ indent, pointer indent format error = caretUnder indent before after) ∧
      (∀ spec : ReportSpec Float, spec.format = format →
        Findings.formatError? spec = some (.rejectedFormat spec error) ∧
        (LintError.rejectedFormat spec error).message =
          "\n".intercalate
            ((spec.destination.text ++ ": " ++ error.message) :: pointer 4 format error)) ∧
      ∀ session : Preview.Session, session.format = format →
        session.render = ("ERROR: " ++ error.message) :: pointer 2 format error := by
  obtain ⟨before, ⟨after, formatEq, offsetEq, nonempty, starts⟩, readable⟩ :=
    Template.exists_fault_of_parse failed
  have split : format = String.ofList before ++ String.ofList after := by
    rw [← String.ofList_append, formatEq, String.ofList_toList]
  have bytesEq : error.offset = (String.ofList before).utf8ByteSize := by
    rw [offsetEq, Nat.zero_add, utf8ByteSize_ofList]
  have marksIff (indent : Nat) : pointer indent format error =
      caretUnder indent (String.ofList before) (String.ofList after) ↔
        IsAscii (String.ofList before).toList := by
    rw [split]
    exact pointer_eq_caretUnder_iff bytesEq indent
  refine ⟨String.ofList before, String.ofList after, split, bytesEq, ?_, ?_, marksIff, ?_, ?_, ?_⟩
  · intro noText
    apply nonempty
    rw [noText]
    rfl
  · rwa [String.toList_ofList]
  · intro notNested indent
    rw [marksIff, String.toList_ofList]
    exact (readable notNested).isAscii
  · rintro spec rfl
    exact ⟨Findings.formatError?_of_error failed, rfl⟩
  · rintro session rfl
    exact Preview.Session.render_of_error failed

/-- The fault lies inside of a block. -/
theorem pointer_marks_fault_iff_in_block :
    Template.parse "#st, \x7b#pm,#zq\x7d" = .error (.unknownTag "#zq" 10 .selector) ∧
      ∃ before after : String, "#st, \x7b#pm,#zq\x7d" = before ++ after ∧
        10 = before.utf8ByteSize ∧ "#zq".toList <+: after.toList ∧
        pointer 4 "#st, \x7b#pm,#zq\x7d" (.unknownTag "#zq" 10 .selector) =
          caretUnder 4 before after := by
  have failed : Template.parse "#st, \x7b#pm,#zq\x7d" =
      .error (.unknownTag "#zq" 10 .selector) := by with_unfolding_all rfl
  have notNested : ¬ (TemplateError.unknownTag "#zq" 10 .selector).IsNestedGroup := by
    rintro ⟨text, offset, isNested⟩
    exact absurd isNested (by simp)
  obtain ⟨before, after, split, offsetEq, -, starts, -, marks, -⟩ := pointer_marks_fault_iff failed
  exact ⟨failed, before, after, split, offsetEq, starts, marks notNested 4⟩

/-- A character of two bytes before a brace moves the caret one column too far. -/
theorem caret_misses_nested_brace :
    Template.parse "\x7bé\x7b\x7d" = .error (.nestedGroup "\x7b" 3) ∧
      "\x7bé\x7b\x7d" = "\x7bé" ++ "\x7b\x7d" ∧ "\x7bé".utf8ByteSize = 3 ∧ "\x7bé".length = 2 ∧
      pointer 4 "\x7bé\x7b\x7d" (.nestedGroup "\x7b" 3) = ["    \x7bé\x7b\x7d", "       ^"] ∧
      caretUnder 4 "\x7bé" "\x7b\x7d" = ["    \x7bé\x7b\x7d", "      ^"] :=
  ⟨by with_unfolding_all rfl, by decide, by decide, by decide, by decide, by decide⟩

end Telemetry
