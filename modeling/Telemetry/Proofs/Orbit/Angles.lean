import Telemetry.Proofs.Orbit.Kepler

/-!
# The range of the angles

An angle read from two vectors reaches the lower end of the range from -π to π only if the
vectors point in opposite directions while the side still counts as negative, and this does
not happen for the vectors of an orbit that turns around its reference.  In the reference
plane angles are measured from the first axis instead, and an orbit that turns clockwise
there has them negated: half a turn then comes out as -π.
-/

namespace Telemetry

namespace Orbit

section Readings

variable (texts : ElementaryFunctions ℝ)

theorem signedAngle_mem_Ioc {numerator denominator side : ℝ} (positive : 0 < denominator)
    (notOpposite : side < 0 → -denominator < numerator) :
    letI := Scalar.real texts
    signedAngle numerator denominator side ∈ Set.Ioc (-Real.pi) Real.pi := by
  let := Scalar.real texts
  rw [signedAngle_eq_arccos]
  split
  · rename_i sideNegative
    have above : -1 < numerator / denominator := by
      rw [lt_div_iff₀ positive, neg_one_mul]
      exact notOpposite sideNegative
    have nonempty : (-1 : ℝ) < 1 := neg_one_lt_zero.trans zero_lt_one
    have clampedAbove := Scalar.exact_lt_clamp (.real texts) nonempty above
    have notStraight := mt Real.arccos_eq_pi.mp clampedAbove.not_ge
    refine ⟨neg_lt_neg (lt_of_le_of_ne (Real.arccos_le_pi _) notStraight), ?_⟩
    exact (neg_nonpos.mpr (Real.arccos_nonneg _)).trans Real.pi_pos.le
  · exact ⟨(neg_neg_of_pos Real.pi_pos).trans_le (Real.arccos_nonneg _), Real.arccos_le_pi _⟩

/-- Negating an angle takes the upper end of the range to the lower end. -/
theorem atan2_mul_signum (y x side : ℝ) :
    letI := Scalar.real texts
    Scalar.atan2 y x * Scalar.signum side ∈ Set.Icc (-Real.pi) Real.pi ∧
      (Scalar.atan2 y x * Scalar.signum side = -Real.pi ↔ side < 0 ∧ x < 0 ∧ y = 0) := by
  let := Scalar.real texts
  have angleEq : Scalar.atan2 y x = Complex.arg ⟨x, y⟩ := rfl
  obtain ⟨low, high⟩ := Complex.arg_mem_Ioc ⟨x, y⟩
  rw [angleEq, Scalar.exact_signum]
  split
  · rename_i negative
    rw [mul_neg_one, neg_inj, Complex.arg_eq_pi_iff]
    exact ⟨⟨neg_le_neg high, neg_le.mpr low.le⟩, (and_iff_right negative).symm⟩
  · rename_i notNegative
    rw [mul_one]
    exact ⟨⟨low.le, high⟩, iff_of_false low.ne' fun negative => notNegative negative.1⟩

end Readings

theorem zero_mem_Ioc : (0 : ℝ) ∈ Set.Ioc (-Real.pi) Real.pi :=
  ⟨neg_neg_of_pos Real.pi_pos, Real.pi_pos.le⟩

theorem range_of_mem_Ioc {angle : ℝ} {exception : Prop}
    (inRange : angle ∈ Set.Ioc (-Real.pi) Real.pi) (regular : ¬ exception) :
    angle ∈ Set.Icc (-Real.pi) Real.pi ∧ (angle = -Real.pi ↔ exception) :=
  ⟨Set.Ioc_subset_Icc_self inRange, iff_of_false inRange.1.ne' regular⟩

/-! ## Vectors that are not opposite -/

section Directions

variable (texts : ElementaryFunctions ℝ) {parameter : ℝ} {position velocity : Vec3 ℝ}

/-- The node lies in the reference plane, and nothing above or below that plane is opposite
to it. -/
theorem neg_length_mul_length_lt_node_dot (orbit : Orbit ℝ) {vector : Vec3 ℝ}
    (leaves : vector.z ≠ 0) :
    letI := Scalar.real texts
    0 < orbit.node.length →
      -(orbit.node.length * vector.length) < orbit.node.dot vector := by
  let := Scalar.real texts
  intro inclined
  have flat : orbit.node.z = 0 := Scalar.exact_zero _
  apply Vec3.neg_length_mul_length_lt_dot texts
  calc
    0 < orbit.node.length ^ 2 * vector.z ^ 2 := by positivity
    _ ≤ orbit.node.length ^ 2 * vector.z ^ 2 +
        (orbit.node.x * vector.y - orbit.node.y * vector.x) ^ 2 :=
      le_add_of_nonneg_right (sq_nonneg _)
    _ = (orbit.node.cross vector).dot (orbit.node.cross vector) := by
      rw [Vec3.length_sq]
      unfold Vec3.dot Vec3.cross
      rw [flat]
      ring

/-- Without a pull the eccentricity vector is a quotient by zero, which a field takes for
zero. -/
theorem parameter_ne_zero :
    letI := Scalar.real texts
    (ofRelativeMotion parameter position velocity).eccentricity ≠ 0 → parameter ≠ 0 := by
  let := Scalar.real texts
  rintro eccentric rfl
  have noVector : (ofRelativeMotion 0 position velocity).eccentricityVector = ⟨0, 0, 0⟩ := by
    refine Vec3.ext_component fun axis => ?_
    rw [eccentricityVector_ofRelativeMotion, Vec3.component_div, div_zero]
    cases axis <;> rfl
  have lengthEq := congrArg (@Vec3.length ℝ (Scalar.real texts)) noVector
  rw [Vec3.length_on_axis, abs_zero] at lengthEq
  exact eccentric lengthEq

/-- A particle that turns around the reference is at the far end of its orbit only while it
moves neither outwards nor inwards. -/
theorem neg_eccentricity_mul_distance_lt_dot :
    letI := Scalar.real texts
    position.length ≠ 0 → parameter ≠ 0 → position.cross velocity ≠ ⟨0, 0, 0⟩ →
      position.dot velocity ≠ 0 →
      -((ofRelativeMotion parameter position velocity).eccentricity * position.length) <
        (ofRelativeMotion parameter position velocity).eccentricityVector.dot position := by
  let := Scalar.real texts
  intro apart attracts turns moves
  have momentumPos : 0 < (position.cross velocity).dot (position.cross velocity) :=
    lt_of_le_of_ne (Vec3.dot_self_nonneg _ _)
      (Ne.symm ((Vec3.dot_self_eq_zero_iff _).not.mpr turns))
  have crossEq : (ofRelativeMotion parameter position velocity).eccentricityVector.cross position =
      position.cross velocity * (position.dot velocity / parameter) := by
    rw [eccentricityVector_eq_combination texts apart, Vec3.combination_cross_first, neg_neg]
  apply Vec3.neg_length_mul_length_lt_dot texts
  rw [← eccentricityVector_ofRelativeMotion, crossEq, Vec3.dot_mul_mul]
  exact mul_pos momentumPos (mul_self_pos.mpr (div_ne_zero moves attracts))

end Directions

/-! ## The angles of an orbit -/

section Longitude

variable {α : Type} [Scalar α]

/-- The angle at which a vector of the plane of the orbit points, from the ascending node or
else from the first axis. -/
def longitude (orbit : Orbit α) (vector : Vec3 α) : α :=
  if Scalar.atMost orbit.node.length tiny then
    Scalar.atan2 vector.y vector.x * Scalar.signum orbit.angularMomentum.z
  else signedAngle (orbit.node.dot vector) (orbit.node.length * vector.length) vector.z

variable (parameter : α) (position velocity : Vec3 α) (orbit : Orbit α)
  (orbitEq : ofRelativeMotion parameter position velocity = orbit)
include orbitEq

theorem pericenter_eq_longitude :
    orbit.pericenter =
      if Scalar.atMost orbit.eccentricity tiny then 0.0
      else orbit.longitude orbit.eccentricityVector := by
  rw [pericenter_ofRelativeMotion _ _ _ orbit orbitEq]
  subst orbitEq
  rfl

theorem trueAnomaly_eq_longitude :
    orbit.trueAnomaly =
      if Scalar.atMost orbit.eccentricity tiny then orbit.longitude position
      else signedAngle (orbit.eccentricityVector.dot position)
        (orbit.eccentricity * orbit.distance) (position.dot velocity / orbit.distance) := by
  rw [trueAnomaly_ofRelativeMotion _ _ _ orbit orbitEq]
  subst orbitEq
  rfl

end Longitude

/-- The orbit runs clockwise in the reference plane, and the vector points away from where
angles are measured. -/
def IsHalfTurnBack (texts : ElementaryFunctions ℝ) (orbit : Orbit ℝ) (vector : Vec3 ℝ) : Prop :=
  letI := Scalar.real texts
  orbit.node.length ≤ tiny ∧ orbit.angularMomentum.z < 0 ∧ vector.x < 0 ∧ vector.y = 0

section Angles

variable (texts : ElementaryFunctions ℝ) {parameter : ℝ} {position velocity : Vec3 ℝ}
  {orbit : Orbit ℝ}

theorem longitude_range (orbit : Orbit ℝ) {vector : Vec3 ℝ} :
    letI := Scalar.real texts
    0 < vector.length →
      orbit.longitude vector ∈ Set.Icc (-Real.pi) Real.pi ∧
        (orbit.longitude vector = -Real.pi ↔ IsHalfTurnBack texts orbit vector) := by
  let := Scalar.real texts
  intro vectorPos
  unfold longitude
  cases equatorial : Scalar.atMost orbit.node.length tiny with
  | true =>
      rw [Scalar.exact_atMost_iff] at equatorial
      obtain ⟨inRange, lowest⟩ :=
        atan2_mul_signum texts vector.y vector.x orbit.angularMomentum.z
      exact ⟨inRange, lowest.trans (and_iff_right equatorial).symm⟩
  | false =>
      have nodePos := pos_of_not_tiny equatorial
      rw [Scalar.exact_atMost_eq_false_iff] at equatorial
      refine range_of_mem_Ioc (signedAngle_mem_Ioc texts (mul_pos nodePos vectorPos) ?_)
        fun backwards => equatorial.not_ge backwards.1
      exact fun below => neg_length_mul_length_lt_node_dot texts orbit below.ne nodePos

variable (orbitEq : @ofRelativeMotion ℝ (Scalar.real texts) parameter position velocity = orbit)
include orbitEq

theorem ascendingNode_mem_Ioc : orbit.ascendingNode ∈ Set.Ioc (-Real.pi) Real.pi := by
  let := Scalar.real texts
  rw [ascendingNode_ofRelativeMotion _ _ _ orbit orbitEq]
  cases equatorial : Scalar.atMost orbit.node.length tiny with
  | true =>
      rw [if_pos rfl, Scalar.exact_zero]
      exact zero_mem_Ioc
  | false =>
      apply signedAngle_mem_Ioc texts (pos_of_not_tiny equatorial)
      exact fun below => Vec3.neg_length_lt_x texts below.ne

theorem pericenter_range :
    letI := Scalar.real texts
    orbit.pericenter ∈ Set.Icc (-Real.pi) Real.pi ∧
      (orbit.pericenter = -Real.pi ↔
        tiny < orbit.eccentricity ∧ IsHalfTurnBack texts orbit orbit.eccentricityVector) := by
  let := Scalar.real texts
  rw [pericenter_eq_longitude _ _ _ orbit orbitEq]
  cases circular : Scalar.atMost orbit.eccentricity tiny with
  | true =>
      rw [Scalar.exact_atMost_iff] at circular
      rw [if_pos rfl, Scalar.exact_zero]
      exact range_of_mem_Ioc zero_mem_Ioc fun backwards => backwards.1.not_ge circular
  | false =>
      have eccentricityPos : 0 < orbit.eccentricityVector.length := by
        rw [← orbitEq] at circular ⊢
        exact pos_of_not_tiny circular
      obtain ⟨inRange, lowest⟩ := longitude_range texts orbit eccentricityPos
      rw [Scalar.exact_atMost_eq_false_iff] at circular
      exact ⟨inRange, lowest.trans (and_iff_right circular).symm⟩

theorem trueAnomaly_range :
    letI := Scalar.real texts
    0 < orbit.distance → orbit.angularMomentum ≠ ⟨0, 0, 0⟩ →
      orbit.trueAnomaly ∈ Set.Icc (-Real.pi) Real.pi ∧
        (orbit.trueAnomaly = -Real.pi ↔
          orbit.eccentricity ≤ tiny ∧ IsHalfTurnBack texts orbit position) := by
  let := Scalar.real texts
  intro distancePos turns
  rw [trueAnomaly_eq_longitude _ _ _ orbit orbitEq]
  cases circular : Scalar.atMost orbit.eccentricity tiny with
  | true =>
      have positionPos : 0 < position.length := by
        rw [← orbitEq] at distancePos
        exact distancePos
      obtain ⟨inRange, lowest⟩ := longitude_range texts orbit positionPos
      rw [Scalar.exact_atMost_iff] at circular
      exact ⟨inRange, lowest.trans (and_iff_right circular).symm⟩
  | false =>
      have eccentricityPos := pos_of_not_tiny circular
      rw [Scalar.exact_atMost_eq_false_iff] at circular
      refine range_of_mem_Ioc (signedAngle_mem_Ioc texts (mul_pos eccentricityPos distancePos) ?_)
        fun backwards => circular.not_ge backwards.1
      intro inwards
      have moves : position.dot velocity ≠ 0 := by
        intro still
        rw [still, zero_div] at inwards
        exact inwards.false
      subst orbitEq
      exact neg_eccentricity_mul_distance_lt_dot texts distancePos.ne'
        (parameter_ne_zero texts eccentricityPos.ne') turns moves

end Angles

end Orbit

/-- The angles of an orbit lie between -π and π.  The ascending node is never at -π; the
pericenter and the true anomaly are there just for clockwise orbits in the reference plane
on which they are measured from the first axis and are half a turn away from it. -/
theorem Orbit.derive_angles_mem_range (texts : ElementaryFunctions ℝ) {gravity : ℝ}
    {particle reference : Particle ℝ} :
    letI := Scalar.real texts
    ∀ orbit, derive gravity particle reference = .ok orbit →
      orbit.angularMomentum ≠ ⟨0, 0, 0⟩ →
      orbit.ascendingNode ∈ Set.Ioc (-Real.pi) Real.pi ∧
        orbit.pericenter ∈ Set.Icc (-Real.pi) Real.pi ∧
        (orbit.pericenter = -Real.pi ↔
          tiny < orbit.eccentricity ∧ IsHalfTurnBack texts orbit orbit.eccentricityVector) ∧
        orbit.trueAnomaly ∈ Set.Icc (-Real.pi) Real.pi ∧
        (orbit.trueAnomaly = -Real.pi ↔
          orbit.eccentricity ≤ tiny ∧
            IsHalfTurnBack texts orbit (particle.position - reference.position)) := by
  let := Scalar.real texts
  intro orbit derived turns
  obtain ⟨-, far, orbitEq⟩ := derive_eq_ok_iff.mp derived
  have distancePos : 0 < orbit.distance := by
    rw [← orbitEq]
    exact pos_of_not_tiny far
  obtain ⟨pericenterMem, pericenterLowest⟩ := pericenter_range texts orbitEq
  obtain ⟨anomalyMem, anomalyLowest⟩ := trueAnomaly_range texts orbitEq distancePos turns
  exact ⟨ascendingNode_mem_Ioc texts orbitEq, pericenterMem, pericenterLowest, anomalyMem,
    anomalyLowest⟩

/-! ## Clockwise orbits in the reference plane -/

namespace Orbit

section Crossing

variable (speed : ℝ)

/-- The motion of a satellite that goes down through the first axis on its negative side. -/
noncomputable def crossing : Orbit ℝ :=
  letI := Scalar.real default
  ofRelativeMotion (1 * (0 + 1)) ⟨-1, 0, 0⟩ ⟨0, speed, 0⟩

theorem angularMomentum_crossing : (crossing speed).angularMomentum = ⟨0, 0, -speed⟩ := by
  change (⟨0 * 0 - 0 * speed, 0 * 0 - -1 * 0, -1 * speed - 0 * 0⟩ : Vec3 ℝ) = _
  norm_num

theorem isHalfTurnBack_crossing {speed : ℝ} {vector : Vec3 ℝ} (clockwise : 0 < speed)
    (opposite : vector.x < 0) (onAxis : vector.y = 0) :
    IsHalfTurnBack default (crossing speed) vector := by
  let := Scalar.real default
  have momentumEq := angularMomentum_crossing speed
  have noNode : (crossing speed).node.length = 0 := by
    unfold node
    rw [momentumEq, Scalar.exact_zero, neg_zero, Vec3.length_on_axis, abs_zero]
  refine ⟨noNode.trans_le tiny_nonneg, ?_, opposite, onAxis⟩
  rw [momentumEq]
  exact neg_neg_of_pos clockwise

theorem derive_crossing :
    letI := Scalar.real default
    derive 1 (.satellite 0 ⟨-1, 0, 0⟩ ⟨0, speed, 0⟩) (.center 1) = .ok (crossing speed) := by
  let := Scalar.real default
  have distanceEq : (⟨-1, 0, 0⟩ : Vec3 ℝ).length = 1 := by
    rw [Vec3.length_on_axis, abs_neg, abs_one]
  exact derive_satellite 1 0 ⟨0, speed, 0⟩ le_rfl distanceEq.ge

theorem eccentricityVector_crossing :
    (crossing speed).eccentricityVector = ⟨1 - speed ^ 2, 0, 0⟩ := by
  let := Scalar.real default
  have distanceEq : (⟨-1, 0, 0⟩ : Vec3 ℝ).length = 1 := by
    rw [Vec3.length_on_axis, abs_neg, abs_one]
  have apart : (⟨-1, 0, 0⟩ : Vec3 ℝ).length ≠ 0 := distanceEq.trans_ne one_ne_zero
  refine (eccentricityVector_eq_combination default apart).trans ?_
  rw [distanceEq]
  refine Vec3.ext_component fun axis => ?_
  rw [Vec3.component_add, Vec3.component_mul, Vec3.component_mul]
  unfold Vec3.lengthSquared Vec3.dot
  cases axis <;> simp only [Vec3.component] <;> ring

theorem eccentricity_crossing : (crossing speed).eccentricity = |1 - speed ^ 2| := by
  have lengthEq := Vec3.length_on_axis default (1 - speed ^ 2)
  rw [← eccentricityVector_crossing] at lengthEq
  exact lengthEq

end Crossing

/-- The true anomaly of a clockwise circular orbit starts from -π. -/
theorem derive_angles_mem_range_of_circle :
    letI := Scalar.real default
    ∃ orbit, derive 1 (.satellite 0 ⟨-1, 0, 0⟩ ⟨0, 1, 0⟩) (.center 1) = .ok orbit ∧
      orbit.angularMomentum ≠ ⟨0, 0, 0⟩ ∧ orbit.pericenter ∈ Set.Icc (-Real.pi) Real.pi ∧
      orbit.trueAnomaly = -Real.pi := by
  let := Scalar.real default
  have turns : (crossing 1).angularMomentum ≠ ⟨0, 0, 0⟩ := by
    rw [angularMomentum_crossing]
    exact fun stops => neg_ne_zero.mpr one_ne_zero (congrArg Vec3.z stops)
  have circular : (crossing 1).eccentricity ≤ tiny := by
    rw [eccentricity_crossing, one_pow, sub_self, abs_zero]
    exact tiny_nonneg
  obtain ⟨-, pericenterMem, -, -, anomalyLowest⟩ :=
    derive_angles_mem_range default _ (derive_crossing 1) turns
  refine ⟨_, derive_crossing 1, turns, pericenterMem, anomalyLowest.mpr ⟨circular, ?_⟩⟩
  rw [(Particle.motion_satellite _ _ _ _).1]
  exact isHalfTurnBack_crossing one_pos neg_one_lt_zero rfl

/-- The pericenter of a clockwise orbit in the reference plane can lie below the half-open
range. -/
theorem pericenter_not_mem_Ioc_of_clockwise :
    letI := Scalar.real default
    ∃ orbit, derive 1 (.satellite 0 ⟨-1, 0, 0⟩ ⟨0, 2, 0⟩) (.center 1) = .ok orbit ∧
      orbit.angularMomentum ≠ ⟨0, 0, 0⟩ ∧ orbit.pericenter ∉ Set.Ioc (-Real.pi) Real.pi := by
  let := Scalar.real default
  have turns : (crossing 2).angularMomentum ≠ ⟨0, 0, 0⟩ := by
    rw [angularMomentum_crossing]
    exact fun stops => neg_ne_zero.mpr two_ne_zero (congrArg Vec3.z stops)
  have eccentric : tiny < (crossing 2).eccentricity := by
    have eccentricityEq : (crossing 2).eccentricity = 3 := by
      rw [eccentricity_crossing]
      norm_num
    rw [eccentricityEq]
    exact tiny_lt_half.trans (by norm_num)
  have halfTurn : IsHalfTurnBack default (crossing 2) (crossing 2).eccentricityVector := by
    rw [eccentricityVector_crossing]
    exact isHalfTurnBack_crossing two_pos (by norm_num) rfl
  have lowest := (pericenter_range default rfl).2.mpr ⟨eccentric, halfTurn⟩
  exact ⟨_, derive_crossing 2, turns, fun inRange => inRange.1.ne' lowest⟩

end Orbit

end Telemetry
