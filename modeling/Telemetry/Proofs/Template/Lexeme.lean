import Telemetry.Proofs.Template.Vocabulary
import Mathlib.Data.List.TakeWhile

/-!
# Where lexemes begin and end

A lexeme is cut from the front of a text exactly when the text starts with
characters in the form of its kind and what follows cannot make it longer.  A
run of separators must stop in front of another character, a value token with a
code of one character must not run into a word character, and a list block ends
at its closing brace whatever follows.
-/

namespace Telemetry

@[simp]
theorem byteLength_append (first second : List Char) :
    byteLength (first ++ second) = byteLength first + byteLength second := by
  induction first with
  | nil => simp [byteLength]
  | cons character first ih =>
      simp only [List.cons_append, byteLength, ih]
      omega

theorem byteLength_eq_zero_iff (text : List Char) : byteLength text = 0 ↔ text = [] := by
  cases text with
  | nil => simp [byteLength]
  | cons character text =>
      have positive := character.utf8Size_pos
      simp only [byteLength, reduceCtorEq, iff_false]
      omega

/-- A property of all separators can be checked one by one. -/
theorem of_isSeparator (property : Char → Bool) {character : Char}
    (checked : [',', ';', ':', '/', '\\', ' ', '\t'].all property = true)
    (separates : isSeparator character = true) : property character = true :=
  List.all_eq_true.mp checked character (List.contains_iff_mem.mp separates)

theorem isSeparator_eq_false_of_isWord {character : Char} (word : isWord character = true) :
    isSeparator character = false := by
  by_contra separator
  rw [Bool.not_eq_false] at separator
  have noWord : (!isWord character) = true :=
    of_isSeparator (!isWord ·) (by decide) separator
  exact absurd word (by simpa using noWord)

theorem isInterior_of_true {property : Char → Bool} {character : Char}
    (outside : property '\x7d' = false ∧ property '\n' = false ∧ property '\r' = false)
    (holds : property character = true) : isInterior character = true := by
  by_contra notInterior
  obtain rfl | rfl | rfl : character = '\x7d' ∨ character = '\n' ∨ character = '\r' := by
    simpa [isInterior, or_iff_not_imp_left] using notInterior
  · exact absurd holds (by simp [outside])
  · exact absurd holds (by simp [outside])
  · exact absurd holds (by simp [outside])

namespace Lexeme.Kind

/-- A text has the form of a kind of lexeme. -/
def Spells (kind : Kind) (text : List Char) : Prop :=
  match kind with
  | .separators => text ≠ [] ∧ ∀ character ∈ text, isSeparator character = true
  | .value selector code =>
      text = '#' :: selector :: code ∧ isWord selector = true ∧ IsTagCode code
  | .list interior =>
      text = '\x7b' :: (interior ++ ['\x7d']) ∧
        ∀ character ∈ interior, isInterior character = true

theorem Spells.ne_nil {kind : Kind} {text : List Char} (spells : kind.Spells text) :
    text ≠ [] := by
  cases kind with
  | separators => exact spells.1
  | value selector code => simp [spells.1]
  | list interior => simp [spells.1]

/-- Nothing but a list block holds a brace or a line break. -/
theorem Spells.isInterior {kind : Kind} {text : List Char} (spells : kind.Spells text)
    (notList : ∀ interior, kind ≠ .list interior) :
    ∀ character ∈ text, isInterior character = true := by
  cases kind with
  | separators =>
      intro character member
      exact isInterior_of_true (by decide) (spells.2 character member)
  | value selector code =>
      obtain ⟨rfl, selects, isCode⟩ := spells
      rw [List.forall_mem_cons, List.forall_mem_cons]
      refine ⟨by decide, isInterior_of_true (by decide) selects, fun character member => ?_⟩
      exact isInterior_of_true (by decide) (isCode.isWord character member)
  | list interior => exact absurd rfl (notList interior)

theorem Spells.brace_notMem {kind : Kind} {text : List Char}
    (spells : kind.Spells text) (notList : ∀ interior, kind ≠ .list interior) :
    '\x7b' ∉ text := by
  intro member
  cases kind with
  | separators => exact absurd (spells.2 '\x7b' member) (by decide)
  | value selector code =>
      obtain ⟨rfl, selects, isCode⟩ := spells
      rcases List.mem_cons.mp member with isHash | inWord
      · exact absurd isHash (by decide)
      · rcases List.mem_cons.mp inWord with rfl | inCode
        · exact absurd selects (by decide)
        · exact absurd (isCode.isWord '\x7b' inCode) (by decide)
  | list interior => exact notList interior rfl

/-- Only a run of separators ends with a separator. -/
theorem Spells.isSeparator_getLast? {kind : Kind} {text : List Char} (spells : kind.Spells text)
    (notRun : kind ≠ .separators) :
    ∀ character ∈ text.getLast?, isSeparator character = false := by
  intro character isEnd
  cases kind with
  | separators => exact absurd rfl notRun
  | value selector code =>
      obtain ⟨rfl, -, isCode⟩ := spells
      rw [List.getLast?_cons_cons, List.getLast?_cons_of_ne_nil isCode.ne_nil] at isEnd
      exact isSeparator_eq_false_of_isWord
        (isCode.isWord character (List.mem_of_getLast? isEnd))
  | list interior =>
      obtain ⟨rfl, -⟩ := spells
      rw [← List.cons_append, List.getLast?_concat] at isEnd
      obtain rfl := Option.some.inj isEnd
      decide

/-- A lexeme of a kind cannot be made longer by what follows it. -/
def StopsBefore (kind : Kind) (rest : List Char) : Prop :=
  match kind with
  | .separators => ∀ character ∈ rest.head?, isSeparator character = false
  | .value _ code =>
      code.length = 1 → ∀ character ∈ rest.head?, isWord character = false
  | .list _ => True

/-- Two lexemes that may follow one another: adjacent separators are one run. -/
def Apart (first second : Kind) : Prop :=
  first = .separators → second ≠ .separators

theorem stopsBefore_nil (kind : Kind) : kind.StopsBefore [] := by
  cases kind <;> simp [StopsBefore]

/-- Every lexeme starts with a character that is no word character, and only a
run of separators starts with a separator. -/
theorem Spells.exists_cons {kind : Kind} {text : List Char} (spells : kind.Spells text) :
    ∃ first others, text = first :: others ∧ isWord first = false ∧
      (isSeparator first = true ↔ kind = .separators) := by
  cases kind with
  | separators =>
      obtain ⟨nonempty, inside⟩ := spells
      obtain ⟨first, others, rfl⟩ := List.exists_cons_of_ne_nil nonempty
      have separator := inside first (by simp)
      refine ⟨first, others, rfl, ?_, by simp [separator]⟩
      by_contra word
      rw [isSeparator_eq_false_of_isWord (by simpa using word)] at separator
      exact absurd separator (by decide)
  | value selector code => exact ⟨'#', selector :: code, spells.1, by decide, by simp [isSeparator]⟩
  | list interior => exact ⟨'\x7b', interior ++ ['\x7d'], spells.1, by decide, by simp [isSeparator]⟩

/-- In front of another lexeme, only a run of separators can be too short. -/
theorem stopsBefore_append_iff {kind next : Kind} {text rest : List Char}
    (spells : next.Spells text) : kind.StopsBefore (text ++ rest) ↔ kind.Apart next := by
  obtain ⟨first, others, rfl, notWord, separator⟩ := spells.exists_cons
  cases kind with
  | separators => simp [StopsBefore, Apart, ← separator]
  | value selector code => simp [StopsBefore, Apart, notWord]
  | list interior => simp [StopsBefore, Apart]

end Lexeme.Kind

namespace Lexeme

/-- The longest prefix with a property is followed by a character without it. -/
private theorem eq_false_of_mem_head?_dropWhile {property : Char → Bool} {text : List Char}
    {character : Char} (follows : character ∈ (text.dropWhile property).head?) :
    property character = false := by
  have stopped := List.head?_dropWhile_not property text
  rw [Option.mem_def.mp follows] at stopped
  exact stopped

/-- A word that is shorter than it may be is followed by no word character. -/
private theorem eq_false_of_mem_head?_drop {property : Char → Bool} {limit : Nat}
    {text : List Char} {character : Char}
    (short : ((text.take limit).takeWhile property).length < limit)
    (follows : character ∈ (text.drop ((text.take limit).takeWhile property).length).head?) :
    property character = false := by
  induction limit generalizing text with
  | zero => simp at short
  | succ limit ih =>
      cases text with
      | nil => simp at follows
      | cons first rest =>
          by_cases holds : property first = true
          · simp only [List.take_succ_cons, List.takeWhile_cons_of_pos holds,
              List.length_cons, List.drop_succ_cons, Nat.succ_lt_succ_iff] at short follows
            exact ih short follows
          · simp only [List.take_succ_cons, List.takeWhile_cons_of_neg holds,
              List.length_nil, List.drop_zero, List.head?_cons, Option.mem_some] at follows
            rw [← follows]
            exact Bool.eq_false_iff.mpr holds

private theorem takeWhile_append_eq {property : Char → Bool} {text rest : List Char}
    (inside : ∀ character ∈ text, property character = true)
    (outside : ∀ character ∈ rest.head?, property character = false) :
    (text ++ rest).takeWhile property = text := by
  rw [List.takeWhile_append_of_pos inside]
  cases rest with
  | nil => simp
  | cons character rest => simp [outside character (by simp)]

theorem cutSeparators?_spec {input : List Char} {cut : Cut input}
    (found : cutSeparators? input = some cut) :
    cut.kind.Spells cut.text ∧ cut.kind.StopsBefore cut.rest := by
  unfold cutSeparators? at found
  split at found
  · exact absurd found (by simp)
  · rename_i nonempty
    obtain rfl := Option.some.inj found
    refine ⟨⟨nonempty, fun character member => ?_⟩, fun character follows => ?_⟩
    · exact List.mem_takeWhile_imp member
    · exact eq_false_of_mem_head?_dropWhile follows

theorem cutValue?_spec {input : List Char} {cut : Cut ('#' :: input)}
    (found : cutValue? input = some cut) :
    cut.kind.Spells cut.text ∧ cut.kind.StopsBefore cut.rest := by
  dsimp only [cutValue?] at found
  split at found
  · rename_i selector first more wordEq
    obtain rfl := Option.some.inj found
    have wordLength : ((input.take 3).takeWhile isWord).length ≤ 3 := by
      have ofTaken := (List.takeWhile_prefix isWord (l := input.take 3)).length_le
      have taken := List.length_take_le 3 input
      omega
    have wordInside : ∀ character ∈ selector :: first :: more, isWord character = true := by
      intro character member
      rw [← wordEq] at member
      exact List.mem_takeWhile_imp member
    refine ⟨⟨?_, wordInside selector (by simp), ?_⟩, ?_⟩
    · exact congrArg ('#' :: ·) wordEq
    · refine ⟨by simp, ?_, fun character member => wordInside character (by simp [member])⟩
      rw [wordEq, List.length_cons] at wordLength
      exact Nat.le_of_succ_le_succ wordLength
    · -- With a code of one character the word could have been longer by one.
      intro codeLength character follows
      have wordShort : ((input.take 3).takeWhile isWord).length < 3 := by
        rw [wordEq, List.length_cons, codeLength]
        omega
      exact eq_false_of_mem_head?_drop wordShort follows
  · exact absurd found (by simp)

theorem cutList?_spec {input : List Char} {cut : Cut ('\x7b' :: input)}
    (found : cutList? input = some cut) :
    cut.kind.Spells cut.text ∧ cut.kind.StopsBefore cut.rest := by
  unfold cutList? at found
  split at found
  · obtain rfl := Option.some.inj found
    exact ⟨⟨rfl, fun character member => List.mem_takeWhile_imp member⟩, trivial⟩
  · exact absurd found (by simp)

/-- A lexeme that is cut has the form of its kind and is as long as it can be. -/
theorem cut?_spec {input : List Char} {cut : Cut input} (found : cut? input = some cut) :
    cut.kind.Spells cut.text ∧ cut.kind.StopsBefore cut.rest := by
  unfold cut? at found
  split at found
  · exact cutList?_spec found
  · exact cutValue?_spec found
  · exact cutSeparators?_spec found

theorem exists_cutSeparators?_append {text rest : List Char}
    (spells : Kind.separators.Spells text) (stops : Kind.separators.StopsBefore rest) :
    ∃ cut, cutSeparators? (text ++ rest) = some cut ∧
      cut.kind = .separators ∧ cut.text = text := by
  obtain ⟨nonempty, inside⟩ := spells
  have taken : (text ++ rest).takeWhile isSeparator = text :=
    takeWhile_append_eq inside stops
  unfold cutSeparators?
  rw [dif_neg (by rw [taken]; exact nonempty)]
  exact ⟨_, rfl, rfl, taken⟩

private theorem takeWhile_take_word {selector : Char} {code rest : List Char}
    (selects : isWord selector = true) (isCode : IsTagCode code)
    (stops : (Kind.value selector code).StopsBefore rest) :
    ((selector :: (code ++ rest)).take 3).takeWhile isWord = selector :: code := by
  obtain ⟨nonempty, atMostTwo, inside⟩ := isCode
  -- Only behind a code of one character does it matter what comes next.
  rcases code with _ | ⟨first, _ | ⟨second, _ | ⟨third, code⟩⟩⟩
  · exact absurd rfl nonempty
  · have firstWord := inside first (by simp)
    cases rest with
    | nil => simp [selects, firstWord]
    | cons next rest =>
        have nextOutside : isWord next = false := stops rfl next (by simp)
        simp [selects, firstWord, nextOutside]
  · have firstWord := inside first (by simp)
    have secondWord := inside second (by simp)
    simp [selects, firstWord, secondWord]
  · simp at atMostTwo

theorem exists_cutValue?_append {selector : Char} {code rest : List Char}
    (selects : isWord selector = true) (isCode : IsTagCode code)
    (stops : (Kind.value selector code).StopsBefore rest) :
    ∃ cut, cutValue? (selector :: (code ++ rest)) = some cut ∧
      cut.kind = .value selector code ∧ cut.text = '#' :: selector :: code := by
  have wordEq := takeWhile_take_word selects isCode stops
  dsimp only [cutValue?]
  split
  · rename_i itsSelector first more foundEq
    rw [wordEq, List.cons.injEq] at foundEq
    obtain ⟨rfl, rfl⟩ := foundEq
    exact ⟨_, rfl, rfl, congrArg ('#' :: ·) wordEq⟩
  · rename_i notFound
    obtain ⟨first, more, codeEq⟩ := List.exists_cons_of_ne_nil isCode.ne_nil
    exact (notFound selector first more (by rw [wordEq, codeEq])).elim

theorem exists_cutList?_append {interior rest : List Char}
    (inside : ∀ character ∈ interior, isInterior character = true) :
    ∃ cut, cutList? (interior ++ '\x7d' :: rest) = some cut ∧
      cut.kind = .list interior ∧ cut.text = '\x7b' :: (interior ++ ['\x7d']) := by
  have dropped : (interior ++ '\x7d' :: rest).dropWhile isInterior = '\x7d' :: rest := by
    rw [List.dropWhile_append_of_pos inside]
    rfl
  have taken : (interior ++ '\x7d' :: rest).takeWhile isInterior = interior :=
    takeWhile_append_eq inside (by simp [isInterior])
  unfold cutList?
  split
  · exact ⟨_, rfl, by simp only [taken], by simp only [taken]⟩
  · rename_i notFound
    exact absurd dropped (notFound rest)

/-- A separator starts no value token and no list block. -/
theorem cut?_eq_cutSeparators? {first : Char} {rest : List Char}
    (separator : isSeparator first = true) :
    cut? (first :: rest) = cutSeparators? (first :: rest) := by
  apply cut?.eq_3
  · rintro input ⟨rfl, rfl⟩
    exact absurd separator (by decide)
  · rintro input ⟨rfl, rfl⟩
    exact absurd separator (by decide)

theorem Cut.rest_eq {text rest : List Char} {cut : Cut (text ++ rest)}
    (textEq : cut.text = text) : cut.rest = rest := by
  have nothingLost := cut.text_append_rest
  rw [textEq] at nothingLost
  exact List.append_cancel_left nothingLost

/-- What has the form of a lexeme and cannot be made longer is cut. -/
theorem exists_cut?_append {kind : Kind} {text rest : List Char}
    (spells : kind.Spells text) (stops : kind.StopsBefore rest) :
    ∃ cut, cut? (text ++ rest) = some cut ∧
      cut.kind = kind ∧ cut.text = text ∧ cut.rest = rest := by
  suffices found : ∃ cut, cut? (text ++ rest) = some cut ∧ cut.kind = kind ∧ cut.text = text by
    obtain ⟨cut, cutEq, kindEq, textEq⟩ := found
    exact ⟨cut, cutEq, kindEq, textEq, cut.rest_eq textEq⟩
  cases kind with
  | separators =>
      obtain ⟨first, others, rfl⟩ := List.exists_cons_of_ne_nil spells.1
      rw [List.cons_append, cut?_eq_cutSeparators? (spells.2 first (by simp))]
      exact exists_cutSeparators?_append spells stops
  | value selector code =>
      obtain ⟨rfl, selects, isCode⟩ := spells
      exact exists_cutValue?_append selects isCode stops
  | list interior =>
      obtain ⟨rfl, inside⟩ := spells
      rw [List.cons_append, List.append_assoc]
      exact exists_cutList?_append inside

/-- What has the form of a lexeme is made as long as it can be by what follows. -/
theorem Kind.Spells.exists_longest {kind : Kind} {text : List Char} (spells : kind.Spells text)
    (rest : List Char) :
    ∃ (longest : Kind) (more behind : List Char), more ++ behind = rest ∧
      longest.Spells (text ++ more) ∧ longest.StopsBefore behind ∧
      (∀ interior, longest = .list interior → kind = .list interior) := by
  cases kind with
  | separators =>
      refine ⟨.separators, rest.takeWhile isSeparator, rest.dropWhile isSeparator,
        List.takeWhile_append_dropWhile, ⟨?_, ?_⟩, ?_, fun _ => id⟩
      · exact List.append_ne_nil_of_left_ne_nil spells.1 _
      · exact List.forall_mem_append.mpr
          ⟨spells.2, fun character member => List.mem_takeWhile_imp member⟩
      · exact fun character follows => eq_false_of_mem_head?_dropWhile follows
  | value selector code =>
      by_cases stops : (Kind.value selector code).StopsBefore rest
      · exact ⟨.value selector code, [], rest, rfl, by rwa [List.append_nil], stops, fun _ => id⟩
      · -- The code has one character and a second one follows.
        obtain ⟨rfl, selects, isCode⟩ := spells
        simp only [StopsBefore, Classical.not_imp, not_forall, Bool.not_eq_false] at stops
        obtain ⟨oneCharacter, second, follows, secondWord⟩ := stops
        obtain ⟨behind, rfl⟩ := List.head?_eq_some_iff.mp follows
        refine ⟨.value selector (code ++ [second]), [second], behind, rfl,
          ⟨rfl, selects, by simp, by simp [oneCharacter], ?_⟩, ?_, fun _ impossible => ?_⟩
        · exact List.forall_mem_append.mpr
            ⟨isCode.isWord, List.forall_mem_singleton.mpr secondWord⟩
        · simp [StopsBefore, oneCharacter]
        · exact absurd impossible (by simp)
  | list interior =>
      exact ⟨.list interior, [], rest, rfl, by rwa [List.append_nil], trivial, fun _ => id⟩

end Lexeme

end Telemetry
