import Telemetry.Proofs.Template.Lexeme
import Mathlib.Data.List.Chain

/-!
# Lexemes that tile a text

Cutting a text lays lexemes side by side: each starts at the offset at which the
one before it ends, has the form of its kind, and is as long as what follows it
allows.  This file states that arrangement as a relation and proves that cutting
succeeds on a text with certain lexemes exactly when these lexemes tile the text.
A tiling of a text is therefore unique.
-/

namespace Telemetry

/-- The kinds of lexemes that may stand in a region. -/
def Region.Allows (region : Region) (kind : Lexeme.Kind) : Prop :=
  ∀ interior, kind = .list interior → region = .template

namespace Scan

/-- The text that lexemes were cut from. -/
def written (lexemes : List Lexeme) : List Char :=
  lexemes.flatMap (·.text)

@[simp]
theorem written_nil : written [] = [] :=
  rfl

@[simp]
theorem written_cons (lexeme : Lexeme) (lexemes : List Lexeme) :
    written (lexeme :: lexemes) = lexeme.text ++ written lexemes :=
  rfl

@[simp]
theorem written_append (before after : List Lexeme) :
    written (before ++ after) = written before ++ written after :=
  List.flatMap_append

/-- Lexemes that stand side by side from an offset on, in front of a rest. -/
inductive Tiling (region : Region) : Nat → List Lexeme → List Char → Prop where
  | done (offset : Nat) (rest : List Char) : Tiling region offset [] rest
  | lexeme {kind : Lexeme.Kind} {text : List Char} {offset : Nat}
      {lexemes : List Lexeme} {rest : List Char}
      (allowed : region.Allows kind) (spells : kind.Spells text)
      (stops : kind.StopsBefore (written lexemes ++ rest))
      (others : Tiling region (offset + byteLength text) lexemes rest) :
      Tiling region offset
        ({ kind := kind, text := text, start := offset,
           stop := offset + byteLength text } :: lexemes) rest

theorem spec_of_cut? {region : Region} {input : List Char} {cut : Lexeme.Cut input}
    (found : cut? region input = some cut) :
    cut.kind.Spells cut.text ∧ cut.kind.StopsBefore cut.rest := by
  unfold cut? at found
  split at found
  · exact absurd found (by simp)
  · exact Lexeme.cut?_spec found

/-- A lexeme that is cut in a region is allowed there. -/
theorem allows_of_cut? {region : Region} {input : List Char} {cut : Lexeme.Cut input}
    (found : cut? region input = some cut) : region.Allows cut.kind := by
  intro interior kindEq
  obtain ⟨spells, -⟩ := spec_of_cut? found
  unfold cut? at found
  split at found
  · exact absurd found (by simp)
  · rename_i notNested
    rw [kindEq] at spells
    have opens : input.head? = some '\x7b' := by
      rw [← cut.text_append_rest, spells.1]
      rfl
    cases region with
    | template => rfl
    | interior => exact absurd ⟨rfl, opens⟩ notNested

theorem cut?_eq_of_allows {region : Region} {kind : Lexeme.Kind} {text rest : List Char}
    (allowed : region.Allows kind) (spells : kind.Spells text) :
    cut? region (text ++ rest) = Lexeme.cut? (text ++ rest) := by
  unfold cut?
  refine if_neg ?_
  rintro ⟨rfl, opens⟩
  cases kind with
  | separators =>
      obtain ⟨nonempty, inside⟩ := spells
      obtain ⟨first, others, rfl⟩ := List.exists_cons_of_ne_nil nonempty
      obtain rfl : first = '\x7b' := by simpa using opens
      exact absurd (inside '\x7b' (by simp)) (by decide)
  | value selector code =>
      rw [spells.1] at opens
      exact absurd opens (by simp)
  | list interior => exact absurd (allowed interior rfl) (by simp)

/-- Nothing can be cut from a text exactly when it starts with no lexeme that is allowed. -/
theorem cut?_eq_none_iff {region : Region} {input : List Char} :
    cut? region input = none ↔ ∀ (kind : Lexeme.Kind) (text : List Char),
      region.Allows kind → kind.Spells text → ¬ text <+: input := by
  constructor
  · rintro noneFound kind text allowed spells ⟨rest, rfl⟩
    -- Cutting takes the longest lexeme, of which this one may be only the front.
    obtain ⟨longest, more, behind, rfl, longestSpells, stops, sameList⟩ :=
      spells.exists_longest rest
    have longestAllowed : region.Allows longest := fun interior isList =>
      allowed interior (sameList interior isList)
    obtain ⟨cut, found, -⟩ := Lexeme.exists_cut?_append longestSpells stops
    rw [← List.append_assoc, cut?_eq_of_allows longestAllowed longestSpells, found] at noneFound
    exact absurd noneFound (by simp)
  · intro startsWithNone
    cases found : cut? region input with
    | none => rfl
    | some cut =>
        have isPrefix : cut.text <+: input := ⟨cut.rest, cut.text_append_rest⟩
        exact absurd isPrefix
          (startsWithNone cut.kind cut.text (allows_of_cut? found) (spec_of_cut? found).1)

/-- Cutting a text yields a tiling of everything before the place where it
stops, which is the end of the text or a text that starts no lexeme. -/
theorem exists_rest_ofChars (region : Region) (offset : Nat) (input : List Char) :
    ∃ rest, Tiling region offset (ofChars region offset input).lexemes rest ∧
      written (ofChars region offset input).lexemes ++ rest = input ∧
      (rest ≠ [] → cut? region rest = none) ∧
      (ofChars region offset input).stop =
        offset + byteLength (written (ofChars region offset input).lexemes) ∧
      (ofChars region offset input).error? =
        if rest = [] then none
        else some (fault region (ofChars region offset input).stop rest) := by
  fun_induction ofChars region offset input with
  | case1 => exact ⟨[], .done _ _, rfl, absurd rfl, rfl, rfl⟩
  | case2 offset input nonempty notFound =>
      exact ⟨input, .done _ _, rfl, fun _ => notFound, rfl, (if_neg nonempty).symm⟩
  | case3 offset input nonempty cut found stop remainder ih =>
      obtain ⟨rest, tiling, nothingLost, noneLeft, stopEq, faultEq⟩ := ih
      obtain ⟨spells, stops⟩ := spec_of_cut? found
      refine ⟨rest, ?_, ?_, noneLeft, ?_, faultEq⟩
      · refine .lexeme (allows_of_cut? found) spells ?_ tiling
        rw [nothingLost]
        exact stops
      · rw [written_cons, List.append_assoc, nothingLost]
        exact cut.text_append_rest
      · rw [written_cons, byteLength_append, ← Nat.add_assoc]
        exact stopEq

/-- Cutting follows a tiling lexeme by lexeme. -/
theorem ofChars_of_tiling {region : Region} {offset : Nat} {lexemes : List Lexeme}
    {rest : List Char} (tiling : Tiling region offset lexemes rest) :
    ofChars region offset (written lexemes ++ rest) =
      let remainder := ofChars region (offset + byteLength (written lexemes)) rest
      { remainder with lexemes := lexemes ++ remainder.lexemes } := by
  induction tiling with
  | done offset rest => simp [byteLength]
  | @lexeme kind text offset lexemes rest allowed spells stops others ih =>
      obtain ⟨cut, found, kindEq, textEq, restEq⟩ := Lexeme.exists_cut?_append spells stops
      rw [← cut?_eq_of_allows allowed spells] at found
      have nonempty : text ++ (written lexemes ++ rest) ≠ [] :=
        List.append_ne_nil_of_left_ne_nil spells.ne_nil _
      rw [written_cons, List.append_assoc, ofChars, if_neg nonempty, found]
      simp only [kindEq, textEq, restEq, ih, byteLength_append, ← Nat.add_assoc,
        List.cons_append]

/-- A text is cut to its end into certain lexemes exactly when they tile it. -/
theorem toExcept_ofChars_eq_ok_iff {region : Region} {offset : Nat} {input : List Char}
    {lexemes : List Lexeme} :
    (ofChars region offset input).toExcept = .ok lexemes ↔
      Tiling region offset lexemes [] ∧ written lexemes = input := by
  constructor
  · intro complete
    obtain ⟨rest, tiling, nothingLost, -, -, faultEq⟩ := exists_rest_ofChars region offset input
    unfold toExcept at complete
    split at complete
    · rename_i noError
      obtain rfl := Except.ok.inj complete
      have atEnd : rest = [] := by
        by_contra nonempty
        rw [noError, if_neg nonempty] at faultEq
        exact absurd faultEq (by simp)
      rw [atEnd] at tiling nothingLost
      exact ⟨tiling, by simpa using nothingLost⟩
    · exact absurd complete (by simp)
  · rintro ⟨tiling, rfl⟩
    have cutting := ofChars_of_tiling tiling
    rw [List.append_nil] at cutting
    rw [cutting]
    simp [toExcept, ofChars]

theorem Tiling.written_eq_nil_iff {region : Region} {offset : Nat} {lexemes : List Lexeme}
    {rest : List Char} (tiling : Tiling region offset lexemes rest) :
    written lexemes = [] ↔ lexemes = [] := by
  cases tiling with
  | done => simp
  | lexeme allowed spells stops others => simp [spells.ne_nil]

theorem tiling_cons_iff {region : Region} {offset : Nat} {lexeme : Lexeme}
    {lexemes : List Lexeme} {rest : List Char} :
    Tiling region offset (lexeme :: lexemes) rest ↔
      lexeme.start = offset ∧ lexeme.stop = offset + byteLength lexeme.text ∧
        region.Allows lexeme.kind ∧ lexeme.kind.Spells lexeme.text ∧
        lexeme.kind.StopsBefore (written lexemes ++ rest) ∧
        Tiling region (offset + byteLength lexeme.text) lexemes rest := by
  constructor
  · intro tiling
    cases tiling with
    | lexeme allowed spells stops others => exact ⟨rfl, rfl, allowed, spells, stops, others⟩
  · obtain ⟨kind, text, start, stop⟩ := lexeme
    rintro ⟨startEq, stopEq, allowed, spells, stops, others⟩
    dsimp only at startEq stopEq
    subst startEq stopEq
    exact .lexeme allowed spells stops others

/-- Tilings are cut and joined like the texts that they tile. -/
theorem tiling_append_iff {region : Region} {offset : Nat} {before after : List Lexeme}
    {rest : List Char} :
    Tiling region offset (before ++ after) rest ↔
      Tiling region offset before (written after ++ rest) ∧
        Tiling region (offset + byteLength (written before)) after rest := by
  induction before generalizing offset with
  | nil =>
      rw [List.nil_append, written_nil, byteLength, Nat.add_zero]
      exact (and_iff_right (.done offset _)).symm
  | cons lexeme before ih =>
      rw [List.cons_append, tiling_cons_iff, tiling_cons_iff, ih, written_append,
        List.append_assoc, written_cons, byteLength_append, ← Nat.add_assoc]
      simp only [and_assoc]

section Members

variable {region : Region} {offset : Nat} {lexemes : List Lexeme} {rest : List Char}

theorem Tiling.of_mem (tiling : Tiling region offset lexemes rest) {lexeme : Lexeme}
    (member : lexeme ∈ lexemes) :
    region.Allows lexeme.kind ∧ lexeme.kind.Spells lexeme.text := by
  obtain ⟨before, after, rfl⟩ := List.append_of_mem member
  obtain ⟨-, -, allowed, spells, -⟩ := tiling_cons_iff.mp (tiling_append_iff.mp tiling).2
  exact ⟨allowed, spells⟩

theorem Tiling.kind_ne_list (tiling : Tiling .interior offset lexemes rest) {lexeme : Lexeme}
    (member : lexeme ∈ lexemes) (interior : List Char) : lexeme.kind ≠ .list interior := by
  intro isList
  have allowed := (tiling.of_mem member).1 interior isList
  exact absurd allowed (by decide)

/-- Neighbours in a tiling touch, and they are not both runs of separators. -/
theorem Tiling.isChain (tiling : Tiling region offset lexemes rest) :
    lexemes.IsChain fun first second =>
      first.stop = second.start ∧ first.kind.Apart second.kind := by
  induction lexemes generalizing offset with
  | nil => simp
  | cons lexeme lexemes ih =>
      obtain ⟨-, stopEq, -, -, stops, others⟩ := tiling_cons_iff.mp tiling
      refine List.isChain_cons.mpr ⟨fun next isNext => ?_, ih others⟩
      obtain ⟨following, rfl⟩ := List.head?_eq_some_iff.mp isNext
      obtain ⟨nextStart, -, -, nextSpells, -, -⟩ := tiling_cons_iff.mp others
      rw [written_cons, List.append_assoc,
        Lexeme.Kind.stopsBefore_append_iff nextSpells] at stops
      exact ⟨stopEq.trans nextStart.symm, stops⟩

end Members

/-- Only the last lexeme of a tiling ends where the text ends. -/
theorem Tiling.stop_eq_iff {region : Region} {offset index : Nat} {lexemes : List Lexeme}
    {lexeme : Lexeme} {rest : List Char} (tiling : Tiling region offset lexemes rest)
    (position : lexemes[index]? = some lexeme) :
    lexeme.stop = offset + byteLength (written lexemes) ↔ index + 1 = lexemes.length := by
  induction tiling generalizing index with
  | done offset rest => simp at position
  | @lexeme kind text offset lexemes rest allowed spells stops others ih =>
      cases index with
      | zero =>
          obtain rfl := Option.some.inj position
          have noneLeft : byteLength (written lexemes) = 0 ↔ lexemes = [] := by
            rw [byteLength_eq_zero_iff]
            exact others.written_eq_nil_iff
          rw [written_cons, byteLength_append, List.length_cons]
          rw [← List.length_eq_zero_iff] at noneLeft
          dsimp only
          omega
      | succ index =>
          rw [written_cons, byteLength_append, ← Nat.add_assoc, List.length_cons,
            Nat.add_right_cancel_iff]
          exact ih position

end Scan

namespace Lexeme

/-- A lexeme apart from the place it stands at. -/
def piece (lexeme : Lexeme) : Kind × List Char :=
  (lexeme.kind, lexeme.text)

/-- Lexemes laid side by side from an offset on. -/
def layOut (offset : Nat) : List (Kind × List Char) → List Lexeme
  | [] => []
  | (kind, text) :: pieces =>
      { kind := kind, text := text, start := offset, stop := offset + byteLength text } ::
        layOut (offset + byteLength text) pieces

@[simp]
theorem map_piece_layOut (offset : Nat) (pieces : List (Kind × List Char)) :
    (layOut offset pieces).map piece = pieces := by
  induction pieces generalizing offset with
  | nil => rfl
  | cons first pieces ih => simp [layOut, piece, ih]

end Lexeme

namespace Scan

theorem written_eq_flatMap (lexemes : List Lexeme) :
    written lexemes = (lexemes.map Lexeme.piece).flatMap Prod.snd := by
  simp [written, Lexeme.piece, List.flatMap_map]

/-- Pieces that are cut from their joined texts as they are. -/
structure Separated (region : Region) (pieces : List (Lexeme.Kind × List Char)) : Prop where
  allowed : ∀ piece ∈ pieces, region.Allows piece.1
  spells : ∀ piece ∈ pieces, piece.1.Spells piece.2
  apart : pieces.IsChain fun first second => first.1.Apart second.1

theorem separated_cons_iff {region : Region} {kind : Lexeme.Kind} {text : List Char}
    {pieces : List (Lexeme.Kind × List Char)} :
    Separated region ((kind, text) :: pieces) ↔
      region.Allows kind ∧ kind.Spells text ∧
        kind.StopsBefore (pieces.flatMap Prod.snd) ∧ Separated region pieces := by
  have apartIff (spelled : ∀ piece ∈ pieces, piece.1.Spells piece.2) :
      kind.StopsBefore (pieces.flatMap Prod.snd) ↔
        ∀ next ∈ pieces.head?, kind.Apart next.1 := by
    cases pieces with
    | nil => simp [kind.stopsBefore_nil]
    | cons next pieces =>
        rw [List.flatMap_cons, Lexeme.Kind.stopsBefore_append_iff (spelled next (by simp))]
        simp
  constructor
  · rintro ⟨allowed, spells, apart⟩
    obtain ⟨headApart, tailApart⟩ := List.isChain_cons.mp apart
    rw [List.forall_mem_cons] at allowed spells
    exact ⟨allowed.1, spells.1, (apartIff spells.2).mpr headApart,
      ⟨allowed.2, spells.2, tailApart⟩⟩
  · rintro ⟨allowed, spells, stops, separated⟩
    exact
      { allowed := List.forall_mem_cons.mpr ⟨allowed, separated.allowed⟩
        spells := List.forall_mem_cons.mpr ⟨spells, separated.spells⟩
        apart := List.isChain_cons.mpr
          ⟨(apartIff separated.spells).mp stops, separated.apart⟩ }

theorem separated_of_tiling {region : Region} {offset : Nat} {lexemes : List Lexeme}
    {rest : List Char} (tiling : Tiling region offset lexemes rest) :
    Separated region (lexemes.map Lexeme.piece) where
  allowed := List.forall_mem_map.mpr fun _ member => (tiling.of_mem member).1
  spells := List.forall_mem_map.mpr fun _ member => (tiling.of_mem member).2
  apart := (List.isChain_map _).mpr (tiling.isChain.imp fun _ _ => And.right)

theorem tiling_layOut {region : Region} {pieces : List (Lexeme.Kind × List Char)}
    (separated : Separated region pieces) (offset : Nat) :
    Tiling region offset (Lexeme.layOut offset pieces) [] := by
  induction pieces generalizing offset with
  | nil => exact .done offset []
  | cons first pieces ih =>
      obtain ⟨kind, text⟩ := first
      obtain ⟨allowed, spells, stops, others⟩ := separated_cons_iff.mp separated
      refine .lexeme allowed spells ?_ (ih others _)
      rwa [List.append_nil, written_eq_flatMap, Lexeme.map_piece_layOut]

/-- A text is cut to its end into certain pieces exactly when they are separated
and make up the text. -/
theorem exists_toExcept_ofChars_iff {region : Region} (offset : Nat) {input : List Char}
    {pieces : List (Lexeme.Kind × List Char)} :
    (∃ lexemes, (ofChars region offset input).toExcept = .ok lexemes ∧
      lexemes.map Lexeme.piece = pieces) ↔
      Separated region pieces ∧ pieces.flatMap Prod.snd = input := by
  constructor
  · rintro ⟨lexemes, complete, rfl⟩
    obtain ⟨tiling, nothingLost⟩ := toExcept_ofChars_eq_ok_iff.mp complete
    exact ⟨separated_of_tiling tiling, by rw [← written_eq_flatMap, nothingLost]⟩
  · rintro ⟨separated, rfl⟩
    refine ⟨Lexeme.layOut offset pieces, toExcept_ofChars_eq_ok_iff.mpr ⟨?_, ?_⟩, by simp⟩
    · exact tiling_layOut separated offset
    · rw [written_eq_flatMap, Lexeme.map_piece_layOut]

theorem separated_of_toExcept {region : Region} {offset : Nat} {input : List Char}
    {lexemes : List Lexeme} (complete : (ofChars region offset input).toExcept = .ok lexemes) :
    Separated region (lexemes.map Lexeme.piece) :=
  ((exists_toExcept_ofChars_iff offset).mp ⟨lexemes, complete, rfl⟩).1

theorem spells_of_toExcept {region : Region} {offset : Nat} {input : List Char}
    {lexemes : List Lexeme} (complete : (ofChars region offset input).toExcept = .ok lexemes)
    {lexeme : Lexeme} (member : lexeme ∈ lexemes) : lexeme.kind.Spells lexeme.text :=
  (separated_of_toExcept complete).spells lexeme.piece (List.mem_map_of_mem member)

end Scan

end Telemetry
