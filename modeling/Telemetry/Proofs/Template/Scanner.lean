import Telemetry.Proofs.Template.Tiling

/-!
# Scanning lexeme by lexeme

A scanner hands out the lexemes of a text one at a time, and then possibly one
fault.  It is shown that asking it over and over gives what cutting the whole text
gives, and nothing more after that.

What it hands out tiles the text.  Every lexeme starts where the one before it ends,
its offsets are those of its characters in the UTF-8 form of the text, and a run of
separators is as long as it can be in either direction.
-/

namespace Telemetry

theorem utf8ByteSize_ofList (characters : List Char) :
    (String.ofList characters).utf8ByteSize = byteLength characters := by
  induction characters with
  | nil => rfl
  | cons character characters ih =>
      rw [← List.singleton_append, String.ofList_append, String.utf8ByteSize_append, ih,
        ← String.singleton_eq_ofList, String.utf8ByteSize_singleton]
      rfl

/-- A text that is cut lexeme by lexeme. -/
structure Scanner where
  region : Region
  /-- Offset of the first byte that has not been cut. -/
  offset : Nat
  rest : List Char
  hasFailed : Bool

namespace Scanner

def start (region : Region) (offset : Nat) (input : List Char) : Scanner where
  region := region
  offset := offset
  rest := input
  hasFailed := false

/-- The next lexeme or the fault, and the scanner behind it.  There is nothing at the
end of the text and behind a fault. -/
def next (scanner : Scanner) : Option (Except TemplateError Lexeme) × Scanner :=
  if scanner.hasFailed ∨ scanner.rest = [] then (none, scanner)
  else
    match Scan.cut? scanner.region scanner.rest with
    | none =>
        (some (.error (Scan.fault scanner.region scanner.offset scanner.rest)),
          { scanner with hasFailed := true })
    | some cut =>
        let stop := scanner.offset + byteLength cut.text
        (some (.ok { kind := cut.kind, text := cut.text, start := scanner.offset, stop := stop }),
          { scanner with offset := stop, rest := cut.rest })

/-- What a scanner hands out when it has been asked a number of times before. -/
def answer (scanner : Scanner) : Nat → Option (Except TemplateError Lexeme)
  | 0 => scanner.next.1
  | asked + 1 => scanner.next.2.answer asked

theorem answer_eq_none {scanner : Scanner} (done : scanner.hasFailed ∨ scanner.rest = [])
    (asked : Nat) : scanner.answer asked = none := by
  have nextEq : scanner.next = (none, scanner) := if_pos done
  induction asked with
  | zero => rw [answer, nextEq]
  | succ asked ih => rw [answer, nextEq, ih]

end Scanner

namespace Scan

/-- Everything that a scan hands out, in order: its lexemes and its fault. -/
def answers (scan : Scan) : List (Except TemplateError Lexeme) :=
  scan.lexemes.map .ok ++ scan.error?.toList.map .error

/-- Asking a scanner over and over gives the lexemes of the whole scan, its fault if
there is one, and nothing ever after. -/
theorem answer_start (region : Region) (offset : Nat) (input : List Char) (asked : Nat) :
    (Scanner.start region offset input).answer asked =
      (ofChars region offset input).answers[asked]? := by
  fun_induction ofChars region offset input generalizing asked with
  | case1 offset => exact Scanner.answer_eq_none (.inr rfl) asked
  | case2 offset input nonempty notFound =>
      have nextEq : (Scanner.start region offset input).next =
          (some (.error (fault region offset input)),
            { Scanner.start region offset input with hasFailed := true }) := by
        simp [Scanner.next, Scanner.start, nonempty, notFound]
      cases asked with
      | zero => rw [Scanner.answer, nextEq]; rfl
      | succ asked =>
          rw [Scanner.answer, nextEq]
          exact Scanner.answer_eq_none (.inl rfl) asked
  | case3 offset input nonempty cut found stop remainder ih =>
      have nextEq : (Scanner.start region offset input).next =
          (some (.ok { kind := cut.kind, text := cut.text, start := offset, stop := stop }),
            Scanner.start region stop cut.rest) := by
        simp [Scanner.next, Scanner.start, nonempty, found, stop]
      cases asked with
      | zero => rw [Scanner.answer, nextEq]; rfl
      | succ asked =>
          rw [Scanner.answer, nextEq]
          exact ih asked

/-- What stands before a run of separators in a tiling does not end with one. -/
theorem Tiling.isSeparator_getLast? {region : Region} {offset : Nat} {before after : List Lexeme}
    {lexeme : Lexeme} {rest : List Char}
    (tiling : Tiling region offset (before ++ lexeme :: after) rest)
    (isRun : lexeme.kind = .separators) :
    ∀ character ∈ (written before).getLast?, isSeparator character = false := by
  rcases List.eq_nil_or_concat before with rfl | ⟨others, previous, rfl⟩
  · simp
  · rw [List.concat_eq_append] at tiling ⊢
    obtain ⟨precedes, -⟩ := tiling_append_iff.mp tiling
    obtain ⟨-, isLast⟩ := tiling_append_iff.mp precedes
    obtain ⟨-, -, -, spells, -, -⟩ := tiling_cons_iff.mp isLast
    rw [List.append_assoc] at tiling
    have apart := (List.isChain_append.mp tiling.isChain).2.1
    have notRun : previous.kind ≠ .separators := fun previousIsRun =>
      (List.isChain_cons.mp apart).1 lexeme (by simp) |>.2 previousIsRun isRun
    intro character isEnd
    rw [written_append, written_cons, written_nil, List.append_nil,
      List.getLast?_append_of_ne_nil _ spells.ne_nil] at isEnd
    exact spells.isSeparator_getLast? notRun character isEnd

theorem Tiling.stop_getLast? {region : Region} {offset : Nat} {lexemes : List Lexeme}
    {rest : List Char} (tiling : Tiling region offset lexemes rest) :
    (lexemes.getLast?.map (·.stop)).getD offset = offset + byteLength (written lexemes) := by
  rcases List.eq_nil_or_concat lexemes with rfl | ⟨others, last, rfl⟩
  · rfl
  · rw [List.concat_eq_append] at tiling ⊢
    obtain ⟨-, isLast⟩ := tiling_append_iff.mp tiling
    obtain ⟨-, stopEq, -⟩ := tiling_cons_iff.mp isLast
    rw [List.getLast?_concat, Option.map_some, Option.getD_some, stopEq, written_append,
      written_cons, written_nil, List.append_nil, byteLength_append, Nat.add_assoc]

theorem fault_eq_unscannable {region : Region} {offset : Nat} {input : List Char}
    {text : String} {place : Nat} (faultEq : fault region offset input = .unscannable text place) :
    text = String.ofList input ∧ place = offset := by
  unfold fault at faultEq
  dsimp only at faultEq
  split at faultEq
  · exact absurd faultEq (by simp)
  · obtain ⟨rfl, rfl⟩ := TemplateError.unscannable.inj faultEq
    exact ⟨rfl, rfl⟩

theorem toList_join_texts (lexemes : List Lexeme) :
    (String.join (lexemes.map fun lexeme => String.ofList lexeme.text)).toList =
      written lexemes := by
  simp [written, List.flatMap_map]

/-- What a scanner hands out tiles the text, for any text and wherever it is said to
begin.  Offsets are those of the UTF-8 form of the text, so that both ends of every
lexeme are boundaries of characters.  What is left over starts with no lexeme. -/
theorem ofChars_tiles (region : Region) (base : Nat) (source : String) :
    let scan := ofChars region base source.toList
    (∀ asked, (Scanner.start region base source.toList).answer asked = scan.answers[asked]?) ∧
    (∀ first ∈ scan.lexemes.head?, first.start = base) ∧
    (scan.lexemes.IsChain fun first second => first.stop = second.start) ∧
    (∀ lexeme ∈ scan.lexemes, ∃ before after : String,
      source = before ++ String.ofList lexeme.text ++ after ∧
      lexeme.text ≠ [] ∧ lexeme.kind.Spells lexeme.text ∧
      lexeme.start = base + before.utf8ByteSize ∧
      lexeme.stop = lexeme.start + (String.ofList lexeme.text).utf8ByteSize ∧
      (lexeme.kind = .separators →
        (∀ character ∈ before.toList.getLast?, isSeparator character = false) ∧
        ∀ character ∈ after.toList.head?, isSeparator character = false)) ∧
    (scan.lexemes.IsChain fun first second =>
      ¬(first.kind = .separators ∧ second.kind = .separators)) ∧
    ∃ rest : String,
      source = String.join (scan.lexemes.map fun lexeme => String.ofList lexeme.text) ++ rest ∧
      (scan.error? = none ↔ rest = "") ∧
      (∀ (kind : Lexeme.Kind) (text : List Char), region.Allows kind → kind.Spells text →
        ¬ text <+: rest.toList) ∧
      ∀ text offset, scan.error? = some (.unscannable text offset) →
        text = rest ∧ offset = (scan.lexemes.getLast?.map (·.stop)).getD base := by
  intro scan
  obtain ⟨rest, tiling, nothingLost, noneLeft, stopEq, faultEq⟩ :=
    exists_rest_ofChars region base source.toList
  refine ⟨answer_start region base source.toList, ?_, ?_, ?_, ?_, ?_⟩
  · intro first isFirst
    obtain ⟨others, lexemesEq⟩ := List.head?_eq_some_iff.mp isFirst
    rw [lexemesEq] at tiling
    exact (tiling_cons_iff.mp tiling).1
  · exact tiling.isChain.imp fun first second => And.left
  · intro lexeme member
    obtain ⟨before, after, lexemesEq⟩ := List.append_of_mem member
    rw [lexemesEq] at tiling nothingLost
    obtain ⟨-, standing⟩ := tiling_append_iff.mp tiling
    obtain ⟨startEq, stopEq, -, spells, stops, -⟩ := tiling_cons_iff.mp standing
    refine ⟨String.ofList (written before), String.ofList (written after ++ rest), ?_,
      spells.ne_nil, spells, ?_, ?_, fun isRun => ⟨?_, ?_⟩⟩
    · rw [← String.toList_inj, ← nothingLost]
      simp [List.append_assoc]
    · rw [startEq, utf8ByteSize_ofList]
    · rw [stopEq, startEq, utf8ByteSize_ofList]
    · rw [String.toList_ofList]
      exact tiling.isSeparator_getLast? isRun
    · rw [String.toList_ofList]
      rw [isRun] at stops
      exact stops
  · refine tiling.isChain.imp fun first second touch => ?_
    rintro ⟨firstIsRun, secondIsRun⟩
    exact touch.2 firstIsRun secondIsRun
  · refine ⟨String.ofList rest, ?_, ?_, ?_, ?_⟩
    · rw [← String.toList_inj, String.toList_append, String.toList_ofList, toList_join_texts]
      exact nothingLost.symm
    · rw [faultEq, ← String.toList_inj, String.toList_ofList]
      by_cases atEnd : rest = [] <;> simp [atEnd]
    · rw [String.toList_ofList]
      intro kind text allowed spells isPrefix
      have nonempty : rest ≠ [] := by
        rintro rfl
        exact spells.ne_nil (List.prefix_nil.mp isPrefix)
      exact cut?_eq_none_iff.mp (noneLeft nonempty) kind text allowed spells isPrefix
    · intro text offset found
      rw [faultEq] at found
      split at found
      · exact absurd found (by simp)
      · obtain ⟨textEq, offsetEq⟩ := fault_eq_unscannable (Option.some.inj found)
        refine ⟨textEq, ?_⟩
        rw [offsetEq, stopEq, tiling.stop_getLast?]

/-- A character of two bytes moves the offsets behind it, and the scan ends at it. -/
example :
    (ofChars .template 3 "#st, \x7bé\x7d#".toList).answers =
      [.ok ⟨.value 's' ['t'], "#st".toList, 3, 6⟩, .ok ⟨.separators, ", ".toList, 6, 8⟩,
        .ok ⟨.list ['é'], "\x7bé\x7d".toList, 8, 12⟩, .error (.unscannable "#" 12)] := by
  with_unfolding_all rfl

end Scan

end Telemetry
