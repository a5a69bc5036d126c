import Telemetry.Evaluation
import Telemetry.Proofs.Fallible

/-!
# What a template means

The meaning of a template is given by its parts: the texts of the nodes stand
one after the other, a reduction is made anew wherever it occurs, and a group
repeats its items for every particle, with the elided separator standing between
the repetitions only.  This file defines that meaning and proves that rendering,
which grows one line, keeps the texts of reductions and cuts off the last
separator, has exactly this outcome, errors included.
-/

namespace Telemetry

variable {α : Type} [Scalar α]

namespace Metered

theorem outcome_mapM {Input Output : Type} (step : Input → Metered Output)
    (inputs : List Input) :
    (inputs.mapM step).outcome = inputs.mapM fun input => (step input).outcome := by
  induction inputs with
  | nil => rfl
  | cons input inputs ih =>
      rw [List.mapM_cons, List.mapM_cons, outcome_bind]
      cases (step input).outcome with
      | error error => rfl
      | ok output =>
          simp only [Except.bind, outcome_bind, ih]
          cases inputs.mapM fun input => (step input).outcome <;> rfl

end Metered

namespace Aggregate

/-- A reduction over no particles is an error; otherwise every particle's value
is taken, in order, and the first that is missing is the error. -/
def meaning (snapshot : Snapshot α) (aggregate : Aggregate) :
    Except EvaluationError (Value α) :=
  if snapshot.bodies = [] then .error (.emptyAggregate aggregate.tag)
  else
    return aggregate.reduce (← snapshot.bodies.zipIdx.mapM fun (body, index) =>
      (aggregate.tag.value body index).outcome)

theorem outcome_value (snapshot : Snapshot α) (aggregate : Aggregate) :
    (aggregate.value snapshot).outcome = aggregate.meaning snapshot := by
  unfold value meaning
  by_cases empty : snapshot.bodies = []
  · rw [if_pos (List.isEmpty_iff.mpr empty), if_pos empty]
    rfl
  · rw [if_neg (fun isEmpty => empty (List.isEmpty_iff.mp isEmpty)), if_neg empty,
      Metered.outcome_bind, Metered.outcome_mapM]
    rfl

end Aggregate

namespace Item

def meaning (snapshot : Snapshot α) (body : Body α) (index : Nat) :
    Item → Except EvaluationError String
  | .literal text => .ok text
  | .simulation tag => .ok (tag.value snapshot).toText
  | .particle tag => (tag.value body index).outcome.map Value.toText
  | .aggregate reduced => (reduced.meaning snapshot).map Value.toText

/-- The texts of items for the body at a position, one after the other. -/
def expansion (snapshot : Snapshot α) (items : List Item) (repetition : Body α × Nat) :
    Except EvaluationError String :=
  return String.join (← items.mapM (meaning snapshot repetition.1 repetition.2))

@[simp]
theorem expansion_nil (snapshot : Snapshot α) (repetition : Body α × Nat) :
    expansion snapshot [] repetition = .ok "" :=
  rfl

theorem expansion_cons (snapshot : Snapshot α) (item : Item) (items : List Item)
    (repetition : Body α × Nat) :
    expansion snapshot (item :: items) repetition =
      (meaning snapshot repetition.1 repetition.2 item).bind fun text =>
        (expansion snapshot items repetition).map (text ++ ·) := by
  unfold expansion
  rw [List.mapM_cons]
  cases meaning snapshot repetition.1 repetition.2 item with
  | error error => rfl
  | ok text =>
      cases items.mapM (meaning snapshot repetition.1 repetition.2) with
      | error error => rfl
      | ok texts => exact congrArg Except.ok String.join_cons

/-- A literal at the end of the items ends every expansion. -/
theorem expansion_append_literal (snapshot : Snapshot α) (items : List Item)
    (separator : String) (repetition : Body α × Nat) :
    expansion snapshot (items ++ [.literal separator]) repetition =
      (expansion snapshot items repetition).map (· ++ separator) := by
  induction items with
  | nil =>
      rw [List.nil_append, expansion_cons]
      simp [meaning, Except.bind, Except.map]
  | cons item items ih =>
      rw [List.cons_append, expansion_cons, expansion_cons, ih]
      cases meaning snapshot repetition.1 repetition.2 item with
      | error error => rfl
      | ok text =>
          cases expansion snapshot items repetition with
          | error error => rfl
          | ok others => exact congrArg Except.ok String.append_assoc.symm

theorem expansion_of_getLast? {items : List Item} {separator : String}
    (lastEq : items.getLast? = some (.literal separator)) (snapshot : Snapshot α)
    (repetition : Body α × Nat) :
    expansion snapshot items repetition =
      (expansion snapshot items.dropLast repetition).map (· ++ separator) := by
  obtain ⟨others, rfl⟩ := List.getLast?_eq_some_iff.mp lastEq
  rw [List.dropLast_concat, expansion_append_literal]

end Item

namespace Group

/-- The text of a group that is repeated for some bodies: all repetitions one
after the other, or joined by the separator that the group elides. -/
def repetitions (snapshot : Snapshot α) (group : Group) (bodies : List (Body α × Nat)) :
    Except EvaluationError String :=
  match group.elidesTrailingSeparator, group.items.getLast? with
  | true, some (.literal separator) =>
      return separator.intercalate
        (← bodies.mapM (Item.expansion snapshot group.items.dropLast))
  | _, _ => return String.join (← bodies.mapM (Item.expansion snapshot group.items))

def meaning (snapshot : Snapshot α) (group : Group) : Except EvaluationError String :=
  group.repetitions snapshot snapshot.bodies.zipIdx

end Group

def Node.meaning (snapshot : Snapshot α) : Node → Except EvaluationError String
  | .literal text => .ok text
  | .simulation tag => .ok (tag.value snapshot).toText
  | .aggregate reduced => (reduced.meaning snapshot).map Value.toText
  | .group block => block.meaning snapshot

def Template.meaning (template : Template) (snapshot : Snapshot α) :
    Except EvaluationError String :=
  return String.join (← template.nodes.mapM (Node.meaning snapshot))

/-! ## Items and the texts they keep -/

namespace Slot

/-- A text that is kept is the one that making the reduction gives. -/
def Valid (snapshot : Snapshot α) (slot : Slot) : Prop :=
  ∀ text ∈ slot.kept?, ∀ reduced, slot.item = .aggregate reduced →
    (reduced.meaning snapshot).map Value.toText = .ok text

/-- Writing fails with a given error, or puts a text behind a line and leaves a
state with a property. -/
def Writes {State : Type} (line : String) (Kept : State → Prop)
    (outcome : Except EvaluationError (String × State))
    (meaning : Except EvaluationError String) : Prop :=
  (∃ error, outcome = .error error ∧ meaning = .error error) ∨
    ∃ text state, outcome = .ok (line ++ text, state) ∧ meaning = .ok text ∧ Kept state

theorem write_writes {snapshot : Snapshot α} {slot : Slot} (valid : slot.Valid snapshot)
    (body : Body α) (index : Nat) (line : String) :
    Writes line (fun next => next.item = slot.item ∧ next.Valid snapshot)
      (slot.write snapshot body index line).outcome
      (slot.item.meaning snapshot body index) := by
  obtain ⟨item, kept?⟩ := slot
  cases item with
  | literal text => exact .inr ⟨text, _, rfl, rfl, rfl, valid⟩
  | simulation tag => exact .inr ⟨_, _, rfl, rfl, rfl, valid⟩
  | particle tag =>
      simp only [write, Item.meaning, Metered.outcome_bind]
      cases (tag.value body index).outcome with
      | error error => exact .inl ⟨error, rfl, rfl⟩
      | ok value => exact .inr ⟨value.toText, _, rfl, rfl, rfl, valid⟩
  | aggregate reduced =>
      cases kept? with
      | some text =>
          have textEq := valid text rfl reduced rfl
          exact .inr ⟨text, _, rfl, textEq, rfl, valid⟩
      | none =>
          simp only [write, Item.meaning, Metered.outcome_bind, Aggregate.outcome_value]
          cases made : reduced.meaning snapshot with
          | error error => exact .inl ⟨error, rfl, rfl⟩
          | ok value =>
              refine .inr ⟨value.toText, _, rfl, rfl, rfl, ?_⟩
              rintro text ⟨rfl⟩ _ ⟨rfl⟩
              rw [made]
              rfl

theorem writeAll_writes {snapshot : Snapshot α} {slots : List Slot}
    (valid : ∀ slot ∈ slots, slot.Valid snapshot) (body : Body α) (index : Nat)
    (line : String) :
    Writes line
      (fun next => next.map Slot.item = slots.map Slot.item ∧
        ∀ slot ∈ next, slot.Valid snapshot)
      (writeAll snapshot body index slots line).outcome
      (Item.expansion snapshot (slots.map Slot.item) (body, index)) := by
  induction slots generalizing line with
  | nil => exact .inr ⟨"", [], by simp [writeAll], rfl, rfl, by simp⟩
  | cons slot slots ih =>
      rw [List.forall_mem_cons] at valid
      simp only [writeAll, Metered.outcome_bind]
      rcases write_writes valid.1 body index line with
        ⟨error, written, meant⟩ | ⟨text, next, written, meant, itemEq, nextValid⟩
      · refine .inl ⟨error, ?_, ?_⟩
        · rw [written]
          rfl
        · rw [List.map_cons, Item.expansion_cons, meant]
          rfl
      · rw [List.map_cons, Item.expansion_cons, meant, written]
        rcases ih valid.2 (line ++ text) with
          ⟨error, othersWritten, othersMeant⟩ |
            ⟨others, rest, othersWritten, othersMeant, itemsEq, restValid⟩
        · refine .inl ⟨error, ?_, ?_⟩
          · simp [Except.bind, othersWritten]
          · simp [Except.bind, Except.map, othersMeant]
        · refine .inr ⟨text ++ others, next :: rest, ?_, ?_, ?_, ?_⟩
          · simp [Except.bind, othersWritten, String.append_assoc]
          · simp [Except.bind, Except.map, othersMeant]
          · rw [List.map_cons, itemEq, itemsEq]
          · exact List.forall_mem_cons.mpr ⟨nextValid, restValid⟩

end Slot

/-! ## Repetitions and the separator between them -/

theorem dropEnding_append (line ending text : String) :
    dropEnding line.length ending (line ++ text) = line ++ dropEnding 0 ending text := by
  have behind : (line ++ text).toList.drop line.length = text.toList := by
    rw [String.toList_append, ← String.length_toList, List.drop_left]
  unfold dropEnding
  rw [behind, List.drop_zero]
  split
  · rename_i suffix
    have shorter := (List.isSuffixOf_iff_suffix.mp suffix).length_le
    rw [← String.toList_inj, String.toList_append, String.toList_append, String.toList_ofList,
      String.toList_ofList, List.length_append, Nat.add_sub_assoc shorter,
      List.take_length_add_append]
  · rfl

theorem dropEnding_append_self (text ending : String) :
    dropEnding 0 ending (text ++ ending) = text := by
  unfold dropEnding
  rw [if_pos (by simp)]
  simp

namespace Group

theorem trailingSeparator?_eq_some_iff {group : Group} {separator : String} :
    group.trailingSeparator? = some separator ↔
      group.elidesTrailingSeparator = true ∧
        group.items.getLast? = some (.literal separator) := by
  unfold trailingSeparator?
  cases group.elidesTrailingSeparator with
  | false => simp
  | true =>
      cases lastEq : group.items.getLast? with
      | none => simp
      | some last => cases last <;> simp

theorem repetitions_of_some {group : Group} {separator : String}
    (elides : group.trailingSeparator? = some separator)
    (snapshot : Snapshot α) (bodies : List (Body α × Nat)) :
    group.repetitions snapshot bodies =
      (bodies.mapM (Item.expansion snapshot group.items.dropLast)).map separator.intercalate := by
  obtain ⟨flag, lastEq⟩ := trailingSeparator?_eq_some_iff.mp elides
  unfold repetitions
  rw [flag, lastEq]
  cases bodies.mapM (Item.expansion snapshot group.items.dropLast) <;> rfl

theorem repetitions_of_none {group : Group} (keeps : group.trailingSeparator? = none)
    (snapshot : Snapshot α) (bodies : List (Body α × Nat)) :
    group.repetitions snapshot bodies =
      (bodies.mapM (Item.expansion snapshot group.items)).map String.join := by
  unfold repetitions
  split
  · rename_i separator flag lastEq
    rw [trailingSeparator?_eq_some_iff.mpr ⟨flag, lastEq⟩] at keeps
    exact absurd keeps (by simp)
  · cases bodies.mapM (Item.expansion snapshot group.items) <;> rfl

@[simp]
theorem repetitions_nil (snapshot : Snapshot α) (group : Group) :
    group.repetitions snapshot [] = .ok "" := by
  cases trailing : group.trailingSeparator? with
  | none => rw [repetitions_of_none trailing]; rfl
  | some separator => rw [repetitions_of_some trailing]; rfl

theorem expansion_of_some {group : Group} {separator : String}
    (elides : group.trailingSeparator? = some separator)
    (snapshot : Snapshot α) (repetition : Body α × Nat) :
    Item.expansion snapshot group.items repetition =
      (Item.expansion snapshot group.items.dropLast repetition).map (· ++ separator) :=
  Item.expansion_of_getLast? (trailingSeparator?_eq_some_iff.mp elides).2 snapshot repetition

/-- The first repetition stands in front of the others, and loses its separator
if there are none. -/
theorem repetitions_cons (snapshot : Snapshot α) (group : Group)
    (first : Body α × Nat) (others : List (Body α × Nat)) :
    group.repetitions snapshot (first :: others) =
      (Item.expansion snapshot group.items first).bind fun text =>
        if others = [] then .ok (group.elide 0 text)
        else (group.repetitions snapshot others).map (text ++ ·) := by
  cases trailing : group.trailingSeparator? with
  | none =>
      rw [repetitions_of_none trailing, repetitions_of_none trailing, List.mapM_cons]
      cases Item.expansion snapshot group.items first with
      | error error => rfl
      | ok text =>
          cases read : others.mapM (Item.expansion snapshot group.items) with
          | error error =>
              simp [bind, Except.bind, Except.map, ne_nil_of_mapM_eq_error read]
          | ok texts =>
              have emptyIff := eq_nil_iff_of_mapM read
              by_cases last : others = []
              · obtain rfl := emptyIff.mp last
                simp [bind, pure, Except.bind, Except.pure, Except.map, last, elide, trailing]
              · simp [bind, pure, Except.bind, Except.pure, Except.map, last]
  | some separator =>
      rw [repetitions_of_some trailing, repetitions_of_some trailing,
        expansion_of_some trailing, List.mapM_cons]
      cases Item.expansion snapshot group.items.dropLast first with
      | error error => rfl
      | ok text =>
          cases read : others.mapM (Item.expansion snapshot group.items.dropLast) with
          | error error =>
              simp [bind, Except.bind, Except.map, ne_nil_of_mapM_eq_error read]
          | ok texts =>
              have emptyIff := eq_nil_iff_of_mapM read
              by_cases last : others = []
              · obtain rfl := emptyIff.mp last
                simp [bind, pure, Except.bind, Except.pure, Except.map, last, elide, trailing,
                  dropEnding_append_self]
              · have more : texts ≠ [] := fun noTexts => last (emptyIff.mpr noTexts)
                simp [bind, pure, Except.bind, Except.pure, Except.map, last,
                  String.intercalate_cons_of_ne_nil more]

theorem elide_append (group : Group) (line text : String) :
    group.elide line.length (line ++ text) = line ++ group.elide 0 text := by
  unfold elide
  split
  · exact dropEnding_append line _ text
  · rfl

theorem outcome_writeRepetitions {snapshot : Snapshot α} {group : Group}
    {slots : List Slot} (bodies : List (Body α)) (index : Nat) (line : String)
    (valid : ∀ slot ∈ slots, slot.Valid snapshot)
    (items : slots.map Slot.item = group.items)
    (count : index + bodies.length = snapshot.particleCount) :
    (group.writeRepetitions snapshot (bodies.zipIdx index) slots line).outcome =
      (group.repetitions snapshot (bodies.zipIdx index)).map (line ++ ·) := by
  -- The slots vary with the induction: earlier repetitions have filled some of
  -- them, and all that matters is that what they keep is valid.
  induction bodies generalizing index line slots with
  | nil => simp [writeRepetitions, Except.map]
  | cons body bodies ih =>
      have agrees := Slot.writeAll_writes valid body index line
      rw [items] at agrees
      rw [List.zipIdx_cons, repetitions_cons]
      simp only [writeRepetitions, Metered.outcome_bind]
      rcases agrees with
        ⟨error, written, meant⟩ | ⟨text, next, written, meant, itemsEq, nextValid⟩
      · rw [written, meant]
        rfl
      · rw [written, meant]
        simp only [Except.bind]
        rw [List.length_cons] at count
        have lastIff : index + 1 = snapshot.particleCount ↔ bodies = [] := by
          rw [← List.length_eq_zero_iff]
          omega
        by_cases last : bodies = []
        · rw [if_pos (lastIff.mpr last), last]
          simp [writeRepetitions, elide_append, Except.map]
        · have othersLeft : bodies.zipIdx (index + 1) ≠ [] := by simpa using last
          rw [if_neg (fun isLast => last (lastIff.mp isLast)), if_neg othersLeft,
            ih (index + 1) (line ++ text) nextValid itemsEq (by omega)]
          cases group.repetitions snapshot (bodies.zipIdx (index + 1)) with
          | error error => rfl
          | ok others => exact congrArg Except.ok String.append_assoc

theorem outcome_write (snapshot : Snapshot α) (group : Group) (line : String) :
    (group.write snapshot line).outcome = (group.meaning snapshot).map (line ++ ·) := by
  -- A slot that keeps nothing is valid.
  refine outcome_writeRepetitions snapshot.bodies 0 line ?_ ?_ ?_
  · simp [Slot.Valid]
  · simp [Function.comp_def]
  · exact Nat.zero_add _

end Group

/-! ## Whole templates -/

theorem Node.outcome_write (snapshot : Snapshot α) (node : Node) (line : String) :
    (node.write snapshot line).outcome = (node.meaning snapshot).map (line ++ ·) := by
  cases node with
  | literal text => rfl
  | simulation tag => rfl
  | aggregate reduced =>
      simp only [write, meaning, Metered.outcome_bind, Aggregate.outcome_value]
      cases reduced.meaning snapshot <;> rfl
  | group block => exact block.outcome_write snapshot line

theorem Node.outcome_foldlM_write (snapshot : Snapshot α) (nodes : List Node)
    (line : String) :
    (nodes.foldlM (fun line node => Node.write snapshot node line) line).outcome =
      (nodes.mapM (Node.meaning snapshot)).map (line ++ String.join ·) := by
  induction nodes generalizing line with
  | nil =>
      rw [List.foldlM_nil, List.mapM_nil, Metered.outcome_pure]
      simp [pure, Except.pure, Except.map]
  | cons node nodes ih =>
      rw [List.foldlM_cons, List.mapM_cons, Metered.outcome_bind, outcome_write]
      cases node.meaning snapshot with
      | error error => rfl
      | ok text =>
          simp only [Except.map, Except.bind, bind, ih]
          cases nodes.mapM (Node.meaning snapshot) with
          | error error => rfl
          | ok texts => simp [pure, Except.pure, String.append_assoc]

theorem Template.outcome_evaluateMetered (template : Template) (snapshot : Snapshot α) :
    (template.evaluateMetered snapshot).outcome = template.meaning snapshot := by
  unfold Template.evaluateMetered Template.meaning
  rw [Node.outcome_foldlM_write]
  cases template.nodes.mapM (Node.meaning snapshot) with
  | error error => rfl
  | ok texts => simp [bind, pure, Except.bind, Except.pure, Except.map]

/-- Rendering a template gives what the template means. -/
theorem Template.evaluate_eq_meaning (template : Template) (snapshot : Snapshot α) :
    template.evaluate snapshot = template.meaning snapshot :=
  template.outcome_evaluateMetered snapshot

end Telemetry
