import Telemetry.Proofs.Template.WellFormed

/-!
# Writing and reading templates

Writing a template and reading the result gives the template back exactly when
it is well-formed.  In the other direction nothing is lost either: a format
string that can be read is the text of its template, and each part of the
template is the text of the lexeme that was cut in its place.
-/

namespace Telemetry

namespace Template

/-- The well-formed templates are those that writing and reading keeps. -/
theorem parse_text_eq_ok_iff (template : Template) :
    parse template.text = .ok template ↔ template.WellFormed := by
  rw [parse_eq_ok_iff_wellFormed]
  exact and_iff_left rfl

/-- Reading loses nothing of a format string.  Nodes correspond to its lexemes
one by one, and the items of a group to the lexemes inside of its block. -/
theorem text_eq_of_parse {format : String} {template : Template}
    (parsed : parse format = .ok template) :
    template.text = format ∧
      ∃ lexemes, (Scan.ofChars .template 0 format.toList).toExcept = .ok lexemes ∧
        lexemes.length = template.nodes.length ∧
        ∀ (index : Nat) (node : Node) (lexeme : Lexeme),
          template.nodes[index]? = some node → lexemes[index]? = some lexeme →
            node.text = String.ofList lexeme.text ∧
            ∀ block, node = .group block → ∃ interior itemLexemes,
              lexeme.kind = .list interior ∧
              (Scan.ofChars .interior (lexeme.start + 1) interior).toExcept =
                .ok itemLexemes ∧
              block.items.map Item.text =
                itemLexemes.map fun itemLexeme => String.ofList itemLexeme.text := by
  refine ⟨(parse_eq_ok_iff_wellFormed.mp parsed).2, ?_⟩
  obtain ⟨lexemes, complete, read⟩ := parse_eq_ok_iff.mp parsed
  obtain ⟨lengthEq, readAt⟩ := forall₂_iff_getElem?.mp read
  refine ⟨lexemes, complete, lengthEq, fun index node lexeme nodeAt lexemeAt => ?_⟩
  have spells := Scan.spells_of_toExcept complete (List.mem_of_getElem? lexemeAt)
  obtain ⟨pieceEq, groups⟩ :=
    (Lexeme.node_eq_ok_iff spells).mp (readAt index lexeme node lexemeAt nodeAt)
  refine ⟨?_, ?_⟩
  · rw [← String.toList_inj, String.toList_ofList]
    exact congrArg Prod.snd pieceEq
  · rintro block rfl
    obtain ⟨itemLexemes, interiorComplete, pieces⟩ :=
      Group.exists_toExcept_interior (groups block rfl).1 (lexeme.start + 1)
    refine ⟨block.interior, itemLexemes, (congrArg Prod.fst pieceEq).symm,
      interiorComplete, ?_⟩
    have texts := congrArg (List.map fun piece => String.ofList piece.2) pieces
    simpa [Lexeme.piece, Item.piece, Function.comp_def] using texts.symm

/-- A format string whose last lexeme is a list block. -/
theorem text_eq_of_parse_orbit_list :
    parse "#st, \x7b#pa:#pn;\x7d" =
        .ok ⟨[.simulation .time, .literal ", ",
          .group ⟨[.particle .semiMajorAxis, .literal ":", .particle .name, .literal ";"],
            true⟩]⟩ ∧
      Template.text
          ⟨[.simulation .time, .literal ", ",
            .group ⟨[.particle .semiMajorAxis, .literal ":", .particle .name, .literal ";"],
              true⟩]⟩ =
        "#st, \x7b#pa:#pn;\x7d" ∧
      ∃ lexemes, (Scan.ofChars .template 0 "#st, \x7b#pa:#pn;\x7d".toList).toExcept =
          .ok lexemes ∧
        lexemes.length = 3 := by
  have parsed : parse "#st, \x7b#pa:#pn;\x7d" =
      .ok ⟨[.simulation .time, .literal ", ",
        .group ⟨[.particle .semiMajorAxis, .literal ":", .particle .name, .literal ";"],
          true⟩]⟩ := by with_unfolding_all rfl
  obtain ⟨textEq, lexemes, complete, lengthEq, -⟩ := text_eq_of_parse parsed
  exact ⟨parsed, textEq, lexemes, complete, lengthEq⟩

end Template

end Telemetry
