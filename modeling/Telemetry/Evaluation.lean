import Telemetry.Template.Basic
import Telemetry.Snapshot

/-!
# Rendering a template

A template is rendered against a snapshot to one line of text, or fails at the
first value that has no meaning; there is no partial line.

The line grows from left to right: every part is written behind what is there
already.  Looking up the orbit of a particle is the expensive part of a line, so
rendering counts the lookups it makes.  A reduction inside a group is made once
for the whole group, when the group first needs its text, and kept for the
particles after that.
-/

namespace Telemetry

inductive EvaluationError where
  | degenerateOrbit (index : Nat) (cause : OrbitError)
  | emptyAggregate (tag : ParticleTag)
deriving Repr, DecidableEq

def EvaluationError.message : EvaluationError → String
  | .degenerateOrbit index cause =>
      let reason := cause.message
      s!"could not get the orbit of particle {index}: {reason}"
  | .emptyAggregate tag =>
      let name := tag.label
      s!"cannot reduce {name} over an empty particle set"

/-- The outcome of a computation, and how many orbits it looked up. -/
structure Metered (β : Type) where
  outcome : Except EvaluationError β
  /-- The number of lookups, failed ones included. -/
  orbitLookups : Nat

namespace Metered

protected def pure {β : Type} (value : β) : Metered β := ⟨.ok value, 0⟩

/-- One computation after another; the second does not start if the first
fails. -/
protected def bind {β γ : Type} (first : Metered β) (next : β → Metered γ) : Metered γ :=
  match first.outcome with
  | .ok value =>
      ⟨(next value).outcome, first.orbitLookups + (next value).orbitLookups⟩
  | .error error => ⟨.error error, first.orbitLookups⟩

instance : Monad Metered where
  pure := Metered.pure
  bind := Metered.bind

def fail {β : Type} (error : EvaluationError) : Metered β := ⟨.error error, 0⟩

@[simp]
theorem outcome_pure {β : Type} (value : β) : (pure value : Metered β).outcome = .ok value :=
  rfl

@[simp]
theorem orbitLookups_pure {β : Type} (value : β) : (pure value : Metered β).orbitLookups = 0 :=
  rfl

@[simp]
theorem outcome_bind {β γ : Type} (first : Metered β) (next : β → Metered γ) :
    (first >>= next).outcome = first.outcome.bind (fun value => (next value).outcome) := by
  show (Metered.bind first next).outcome = _
  unfold Metered.bind
  cases first.outcome <;> rfl

instance : LawfulMonad Metered :=
  LawfulMonad.mk' Metered
    (by
      rintro β ⟨outcome, lookups⟩
      cases outcome <;> rfl)
    (by
      intro β γ value next
      show Metered.bind (Metered.pure value) next = next value
      simp [Metered.bind, Metered.pure])
    (by
      rintro β γ δ ⟨outcome, lookups⟩ second third
      show Metered.bind (Metered.bind _ second) third = Metered.bind _ _
      cases outcome with
      | error error => rfl
      | ok value =>
          show Metered.bind (Metered.bind _ second) third =
            Metered.bind _ (fun value => Metered.bind (second value) third)
          cases secondEq : (second value).outcome <;>
            simp [Metered.bind, secondEq, Nat.add_assoc])

end Metered

inductive Value (α : Type) where
  | scalar (value : α)
  | vector (value : Vec3 α)
  | text (value : String)
  | integer (value : Nat)
deriving Repr, DecidableEq

namespace Value

variable {α : Type}

/-- The number, if the value is one. -/
def asScalar? : Value α → Option α
  | .scalar value => some value
  | _ => none

/-- The vector, if the value is one. -/
def asVector? : Value α → Option (Vec3 α)
  | .vector value => some value
  | _ => none

/-- The value as a part of a report line.  The components of a vector stand
between bars in parentheses. -/
def toText [Scalar α] : Value α → String
  | .scalar value => Scalar.text value
  | .vector value =>
      "(" ++ Scalar.text value.x ++ "|" ++ Scalar.text value.y ++ "|" ++
        Scalar.text value.z ++ ")"
  | .text value => value
  | .integer value => toString value

end Value

namespace SimulationTag

def value {α : Type} (snapshot : Snapshot α) : SimulationTag → Value α
  | .name => .text snapshot.name
  | .time => .scalar snapshot.time
  | .lastStep => .scalar snapshot.lastStep
  | .particleCount => .integer snapshot.particleCount
  | .integrator => .text snapshot.integrator
  | .gravity => .scalar snapshot.gravity
  | .stepCount => .integer snapshot.stepCount.toNat
  | .wallTime => .scalar snapshot.wallTime
  | .wallResolution => .scalar snapshot.wallResolution

end SimulationTag

namespace Body

variable {α : Type}

def lookUpOrbit (body : Body α) (index : Nat) : Metered (Orbit α) where
  outcome := body.orbit.mapError (EvaluationError.degenerateOrbit index)
  orbitLookups := 1

end Body

namespace ParticleTag

variable {α : Type} [Scalar α]

/-- The quantity of the body at a position that a tag stands for. -/
def value (body : Body α) (index : Nat) (tag : ParticleTag) : Metered (Value α) :=
  let ofOrbit (read : Orbit α → Value α) : Metered (Value α) :=
    return read (← body.lookUpOrbit index)
  match tag with
  | .mass => return .scalar body.particle.mass
  | .radius => return .scalar body.particle.radius
  | .name => return .text body.particle.name
  | .identifier => return .integer body.particle.id.value.toNat
  | .semiMajorAxis => ofOrbit (.scalar ·.semiMajorAxis)
  | .eccentricity => ofOrbit (.scalar ·.eccentricity)
  | .inclination => ofOrbit (.scalar ·.inclination)
  | .ascendingNode => ofOrbit (.scalar ·.ascendingNode)
  | .pericenter => ofOrbit (.scalar ·.pericenter)
  | .trueAnomaly => ofOrbit (.scalar ·.trueAnomaly)
  | .meanAnomaly => ofOrbit (.scalar ·.meanAnomaly)
  | .positionX => return .scalar body.particle.position.x
  | .positionY => return .scalar body.particle.position.y
  | .positionZ => return .scalar body.particle.position.z
  | .velocityX => return .scalar body.particle.velocity.x
  | .velocityY => return .scalar body.particle.velocity.y
  | .velocityZ => return .scalar body.particle.velocity.z
  | .accelerationX => return .scalar body.particle.acceleration.x
  | .accelerationY => return .scalar body.particle.acceleration.y
  | .accelerationZ => return .scalar body.particle.acceleration.z
  | .distance => return .scalar body.particle.distance
  | .referenceDistance => ofOrbit (.scalar ·.distance)
  | .eccentricityX => ofOrbit (.scalar ·.eccentricityVector.x)
  | .eccentricityY => ofOrbit (.scalar ·.eccentricityVector.y)
  | .eccentricityZ => ofOrbit (.scalar ·.eccentricityVector.z)
  | .eccentricityVector => ofOrbit (.vector ·.eccentricityVector)
  | .momentum => ofOrbit (.scalar ·.angularMomentumLength)
  | .momentumX => ofOrbit (.scalar ·.angularMomentum.x)
  | .momentumY => ofOrbit (.scalar ·.angularMomentum.y)
  | .momentumZ => ofOrbit (.scalar ·.angularMomentum.z)
  | .momentumVector => ofOrbit (.vector ·.angularMomentum)

end ParticleTag

namespace Reduction

variable {α : Type} [Scalar α]

def mean (sample : List α) : α :=
  Scalar.sum sample / Scalar.ofNat sample.length

/-- A sample reduced to one number.  The deviation is that of the whole
population: the root of the mean square distance from the mean. -/
def apply (reduction : Reduction) (sample : List α) : α :=
  match reduction with
  | .average => mean sample
  | .deviation =>
      let center := mean sample
      Scalar.sqrt
        (mean (sample.map fun value => (value - center) * (value - center)))

end Reduction

namespace Aggregate

variable {α : Type} [Scalar α]

/-- The reduction of the values of a tag, component by component if they are
vectors. -/
def reduce (aggregate : Aggregate) (sample : List (Value α)) : Value α :=
  if aggregate.tag.kind = .vector then
    let vectors := sample.filterMap Value.asVector?
    .vector
      { x := aggregate.reduction.apply (vectors.map (·.x))
        y := aggregate.reduction.apply (vectors.map (·.y))
        z := aggregate.reduction.apply (vectors.map (·.z)) }
  else
    .scalar (aggregate.reduction.apply (sample.filterMap Value.asScalar?))

/-- The reduction of the values a tag has for all particles. -/
def value (snapshot : Snapshot α) (aggregate : Aggregate) : Metered (Value α) :=
  if snapshot.bodies.isEmpty then
    .fail (.emptyAggregate aggregate.tag)
  else do
    let sample ← snapshot.bodies.zipIdx.mapM fun (body, index) =>
      aggregate.tag.value body index
    return aggregate.reduce sample

end Aggregate

/-- An item of a group that is being written, with the text of its reduction
once that has been made. -/
structure Slot where
  item : Item
  /-- The text of the reduction that the item stands for. -/
  kept? : Option String

namespace Slot

variable {α : Type} [Scalar α]

/-- Write an item for the body at a position behind a line. -/
def write (snapshot : Snapshot α) (body : Body α) (index : Nat) (slot : Slot)
    (line : String) : Metered (String × Slot) :=
  match slot.item with
  | .literal text => return (line ++ text, slot)
  | .simulation tag => return (line ++ (tag.value snapshot).toText, slot)
  | .particle tag => return (line ++ (← tag.value body index).toText, slot)
  | .aggregate reduced =>
      match slot.kept? with
      | some text => return (line ++ text, slot)
      | none => do
          let text := (← reduced.value snapshot).toText
          return (line ++ text, { slot with kept? := some text })

def writeAll (snapshot : Snapshot α) (body : Body α) (index : Nat) :
    (slots : List Slot) → (line : String) → Metered (String × List Slot)
  | [], line => return (line, [])
  | slot :: slots, line => do
      let (line, slot) ← slot.write snapshot body index line
      let (line, slots) ← writeAll snapshot body index slots line
      return (line, slot :: slots)

end Slot

/-- A line without a given ending, if what stands behind its first `start`
characters has that ending. -/
def dropEnding (start : Nat) (ending line : String) : String :=
  if ending.toList.isSuffixOf (line.toList.drop start) then
    String.ofList (line.toList.take (line.toList.length - ending.toList.length))
  else line

namespace Group

variable {α : Type} [Scalar α]

/-- Take the separator off the repetition that begins at an offset, if the group
elides it. -/
def elide (group : Group) (start : Nat) (line : String) : String :=
  match group.trailingSeparator? with
  | some separator => dropEnding start separator line
  | none => line

/-- Write the repetitions of a group for the bodies that are left. -/
def writeRepetitions (snapshot : Snapshot α) (group : Group) :
    (left : List (Body α × Nat)) → (slots : List Slot) → (line : String) → Metered String
  | [], _, line => return line
  | (body, index) :: left, slots, line => do
      let (longer, slots) ← Slot.writeAll snapshot body index slots line
      let longer :=
        if index + 1 = snapshot.particleCount then group.elide line.length longer else longer
      writeRepetitions snapshot group left slots longer

/-- Write a group behind a line: one repetition for each body. -/
def write (snapshot : Snapshot α) (group : Group) (line : String) : Metered String :=
  group.writeRepetitions snapshot snapshot.bodies.zipIdx (group.items.map (⟨·, none⟩)) line

end Group

namespace Node

variable {α : Type} [Scalar α]

def write (snapshot : Snapshot α) (node : Node) (line : String) : Metered String :=
  match node with
  | .literal text => return line ++ text
  | .simulation tag => return line ++ (tag.value snapshot).toText
  | .aggregate reduced => return line ++ (← reduced.value snapshot).toText
  | .group block => block.write snapshot line

end Node

namespace Template

variable {α : Type} [Scalar α]

/-- Render a template and count the orbits that were looked up. -/
def evaluateMetered (template : Template) (snapshot : Snapshot α) : Metered String :=
  template.nodes.foldlM (fun line node => node.write snapshot line) ""

/-- The line of a template, without line end, or why there is none. -/
def evaluate (template : Template) (snapshot : Snapshot α) :
    Except EvaluationError String :=
  (template.evaluateMetered snapshot).outcome

def orbitLookups (template : Template) (snapshot : Snapshot α) : Nat :=
  (template.evaluateMetered snapshot).orbitLookups

end Template

end Telemetry
