import Telemetry.Template.Basic
import Telemetry.Template.Lexeme

/-!
# Looking up codes

A code is looked up by searching the list of all tags.  The search finds a tag
exactly when the tag is written with that code, so that reading a code and
writing it again loses nothing.  All tag codes have the form that a value token
leaves room for: one or two word characters.
-/

namespace Telemetry

/-- Searching a complete list of tags whose codes tell them apart. -/
theorem find?_code_eq_some_iff {Tag Code : Type} [BEq Code] [LawfulBEq Code]
    {all : List Tag} {code : Tag → Code}
    (found : ∀ tag, all.find? (code · == code tag) = some tag)
    {spelling : Code} {tag : Tag} :
    all.find? (code · == spelling) = some tag ↔ code tag = spelling := by
  constructor
  · intro search
    exact eq_of_beq (List.find?_some (p := (code · == spelling)) search)
  · rintro rfl
    exact found tag

theorem Selector.ofCode?_eq_some_iff {code : Char} {selector : Selector} :
    Selector.ofCode? code = some selector ↔ selector.code = code :=
  find?_code_eq_some_iff (fun selector => by cases selector <;> rfl)

theorem SimulationTag.ofCode?_eq_some_iff {code : List Char} {tag : SimulationTag} :
    SimulationTag.ofCode? (String.ofList code) = some tag ↔ tag.code.toList = code := by
  rw [← String.toList_ofList (l := code), String.toList_inj, String.ofList_toList]
  exact find?_code_eq_some_iff (fun tag => by cases tag <;> decide)

theorem ParticleTag.ofCode?_eq_some_iff {code : List Char} {tag : ParticleTag} :
    ParticleTag.ofCode? (String.ofList code) = some tag ↔ tag.code.toList = code := by
  rw [← String.toList_ofList (l := code), String.toList_inj, String.ofList_toList]
  exact find?_code_eq_some_iff (fun tag => by cases tag <;> decide)

theorem Aggregate.make?_eq_some_iff {reduction : Reduction} {tag : ParticleTag}
    {aggregate : Aggregate} :
    Aggregate.make? reduction tag = some aggregate ↔
      aggregate.reduction = reduction ∧ aggregate.tag = tag := by
  obtain ⟨itsReduction, itsTag, aggregable⟩ := aggregate
  unfold Aggregate.make?
  split
  · simp [eq_comm]
  · rename_i notAggregable
    simp only [reduceCtorEq, false_iff, not_and]
    rintro - rfl
    exact notAggregable aggregable

/-- The codes that fit into a value token. -/
structure IsTagCode (code : List Char) : Prop where
  ne_nil : code ≠ []
  length_le : code.length ≤ 2
  isWord : ∀ character ∈ code, isWord character = true

theorem SimulationTag.isTagCode (tag : SimulationTag) : IsTagCode tag.code.toList where
  ne_nil := by cases tag <;> simp [SimulationTag.code]
  length_le := by cases tag <;> simp [SimulationTag.code]
  isWord := List.all_eq_true.mp (by cases tag <;> rfl)

theorem ParticleTag.isTagCode (tag : ParticleTag) : IsTagCode tag.code.toList where
  ne_nil := by cases tag <;> simp [ParticleTag.code]
  length_le := by cases tag <;> simp [ParticleTag.code]
  isWord := List.all_eq_true.mp (by cases tag <;> rfl)

theorem Selector.isWord_code (selector : Selector) : isWord selector.code = true := by
  cases selector <;> rfl

end Telemetry
