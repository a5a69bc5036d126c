import Telemetry.Proofs.Orbit.Conic

/-!
# Elements survive the round trip

A particle is placed by its elements, and an orbit is derived from its motion.  Over real
numbers the orbit has the elements again: its shape always, and its angles where the orbit
is neither circular nor in the reference plane, provided that each angle is given as the
one in its principal range.
-/

namespace Telemetry

/-! ## Angles -/

theorem sin_mul_neg_iff {angle factor : ℝ} (inRange : angle ∈ Set.Ioc (-Real.pi) Real.pi)
    (positive : 0 < factor) : Real.sin angle * factor < 0 ↔ angle < 0 := by
  constructor
  · intro negative
    by_contra notNegative
    have sineNonneg := Real.sin_nonneg_of_nonneg_of_le_pi (not_lt.mp notNegative) inRange.2
    exact not_lt.mpr (mul_nonneg sineNonneg positive.le) negative
  · intro negative
    have sineNegative := Real.sin_neg_of_neg_of_neg_pi_lt negative inRange.1
    exact mul_neg_of_neg_of_pos sineNegative positive

namespace Orbit

/-- An angle in the principal range is told by its cosine and by a number that has its
sign. -/
theorem signedAngle_eq (texts : ElementaryFunctions ℝ) {angle numerator denominator side : ℝ}
    (inRange : angle ∈ Set.Ioc (-Real.pi) Real.pi) (positive : 0 < denominator)
    (numeratorEq : numerator = Real.cos angle * denominator)
    (sameSign : side < 0 ↔ angle < 0) :
    letI := Scalar.real texts
    signedAngle numerator denominator side = angle := by
  let := Scalar.real texts
  rw [signedAngle_eq_arccos, numeratorEq, mul_div_cancel_right₀ _ positive.ne',
    Scalar.exact_clamp_of_mem _ (Real.neg_one_le_cos angle) (Real.cos_le_one angle)]
  simp only [sameSign]
  split
  · rename_i negative
    rw [← Real.cos_neg, Real.arccos_cos (neg_nonneg.mpr negative.le) (neg_le.mpr inRange.1.le),
      neg_neg]
  · rename_i notNegative
    exact Real.arccos_cos (not_lt.mp notNegative) inRange.2

end Orbit

/-! ## The angles of the derived orbit -/

namespace Elements

/-- Every angle is the one that its cosine and the sign of its sine tell, and the plane is
inclined. -/
structure IsPrincipal (elements : Elements ℝ) : Prop where
  inclination_mem : elements.inclination ∈ Set.Ioo 0 Real.pi
  ascendingNode_mem : elements.ascendingNode ∈ Set.Ioc (-Real.pi) Real.pi
  pericenter_mem : elements.pericenter ∈ Set.Ioc (-Real.pi) Real.pi
  trueAnomaly_mem : elements.trueAnomaly ∈ Set.Ioc (-Real.pi) Real.pi

variable (texts : ElementaryFunctions ℝ) {elements : Elements ℝ}

theorem node_of_angularMomentum {orbit : Orbit ℝ} {momentum : ℝ} :
    letI := Scalar.real texts
    orbit.angularMomentum = elements.normal * momentum →
      orbit.node = elements.nodeAxis * (momentum * Scalar.sin elements.inclination) := by
  let := Scalar.real texts
  intro momentumEq
  unfold Orbit.node
  rw [momentumEq, Vec3.mul_eq, Vec3.mul_eq, Vec3.mk.injEq]
  unfold normal nodeAxis
  refine ⟨?_, ?_, ?_⟩
  · ring
  · ring
  · rw [Scalar.exact_zero, zero_mul]

section Angles

variable (principal : elements.IsPrincipal)
include principal

theorem IsPrincipal.sin_inclination_pos :
    letI := Scalar.real texts
    0 < Scalar.sin elements.inclination :=
  Real.sin_pos_of_mem_Ioo principal.inclination_mem

theorem signedAngle_inclination {momentum side : ℝ} (momentumPos : 0 < momentum)
    (sideNonneg : 0 ≤ side) :
    letI := Scalar.real texts
    Orbit.signedAngle (elements.normal * momentum).z momentum side = elements.inclination := by
  have nonneg := principal.inclination_mem.1.le
  refine Orbit.signedAngle_eq texts ⟨?_, principal.inclination_mem.2.le⟩ momentumPos rfl ?_
  · linarith [Real.pi_pos]
  · exact iff_of_false (not_lt.mpr sideNonneg) (not_lt.mpr nonneg)

theorem signedAngle_ascendingNode {nodeLength : ℝ} (nodePos : 0 < nodeLength) :
    letI := Scalar.real texts
    Orbit.signedAngle (elements.nodeAxis * nodeLength).x nodeLength
      (elements.nodeAxis * nodeLength).y = elements.ascendingNode :=
  Orbit.signedAngle_eq texts principal.ascendingNode_mem nodePos rfl
    (sin_mul_neg_iff principal.ascendingNode_mem nodePos)

theorem signedAngle_pericenter {nodeLength eccentricity : ℝ} (nodePos : 0 < nodeLength)
    (eccentricityPos : 0 < eccentricity) :
    letI := Scalar.real texts
    Orbit.signedAngle
      ((elements.nodeAxis * nodeLength).dot (elements.pericenterAxis * eccentricity))
      (nodeLength * eccentricity) (elements.pericenterAxis * eccentricity).z =
        elements.pericenter := by
  let := Scalar.real texts
  refine Orbit.signedAngle_eq texts principal.pericenter_mem
    (mul_pos nodePos eccentricityPos) ?_ ?_
  · rw [Vec3.dot_mul_mul, nodeAxis_dot_pericenterAxis]
    rfl
  · change Real.sin _ * _ * _ < 0 ↔ _
    rw [mul_assoc]
    exact sin_mul_neg_iff principal.pericenter_mem
      (mul_pos (principal.sin_inclination_pos texts) eccentricityPos)

/-- The particle moves away from the focus on the way out from the pericenter. -/
theorem signedAngle_trueAnomaly {parameter : ℝ} (eccentricityPos : 0 < elements.eccentricity) :
    letI := Scalar.real texts
    0 < elements.radius → 0 < elements.speed parameter →
      Orbit.signedAngle
        ((elements.pericenterAxis * elements.eccentricity).dot elements.position)
        (elements.eccentricity * elements.radius)
        (elements.position.dot (elements.velocity parameter) / elements.radius) =
          elements.trueAnomaly := by
  let := Scalar.real texts
  intro radiusPos speedPos
  refine Orbit.signedAngle_eq texts principal.trueAnomaly_mem
    (mul_pos eccentricityPos radiusPos) ?_ ?_
  · rw [← inPlane_zero, position_eq_inPlane, inPlane_dot_inPlane]
    change elements.eccentricity * (elements.radius * Real.cos _) + _ = _
    ring
  · rw [position_dot_velocity, mul_div_cancel_left₀ _ radiusPos.ne', mul_comm]
    exact sin_mul_neg_iff principal.trueAnomaly_mem (mul_pos speedPos eccentricityPos)

end Angles

namespace IsConic

variable (conic : elements.IsConic) {parameter : ℝ} (attracts : 0 < parameter)
include conic attracts

theorem momentum_pos :
    letI := Scalar.real texts
    0 < Scalar.sqrt (parameter * elements.latusRectum) :=
  Real.sqrt_pos.mpr (mul_pos attracts (conic.latusRectum_pos texts))

theorem node_orbit :
    letI := Scalar.real texts
    (elements.orbit parameter).node = elements.nodeAxis *
      (Scalar.sqrt (parameter * elements.latusRectum) * Scalar.sin elements.inclination) :=
  node_of_angularMomentum texts (conic.position_cross_velocity texts attracts)

theorem length_node_orbit (principal : elements.IsPrincipal) :
    letI := Scalar.real texts
    (elements.orbit parameter).node.length =
      Scalar.sqrt (parameter * elements.latusRectum) * Scalar.sin elements.inclination := by
  rw [conic.node_orbit texts attracts]
  exact Vec3.length_mul texts
    (mul_pos (conic.momentum_pos texts attracts) (principal.sin_inclination_pos texts)).le
    (elements.nodeAxis_dot_self texts)

/-- An orbit that is inclined and not circular has the angles of its elements. -/
theorem angles_orbit (principal : elements.IsPrincipal) :
    letI := Scalar.real texts
    Orbit.tiny < elements.eccentricity → Orbit.tiny < (elements.orbit parameter).node.length →
      (elements.orbit parameter).inclination = elements.inclination ∧
        (elements.orbit parameter).ascendingNode = elements.ascendingNode ∧
        (elements.orbit parameter).pericenter = elements.pericenter ∧
        (elements.orbit parameter).trueAnomaly = elements.trueAnomaly := by
  let := Scalar.real texts
  intro eccentric inclined
  have momentumPos := conic.momentum_pos texts attracts
  have nodePos := mul_pos momentumPos (principal.sin_inclination_pos texts)
  have eccentricityPos : 0 < elements.eccentricity := Orbit.tiny_nonneg.trans_lt eccentric
  have momentumEq : (elements.orbit parameter).angularMomentum = _ :=
    conic.position_cross_velocity texts attracts
  have momentumLength : (elements.orbit parameter).angularMomentum.length = _ :=
    momentumEq ▸ Vec3.length_mul texts momentumPos.le (elements.normal_dot_self texts)
  have distanceEq : (elements.orbit parameter).distance = _ := conic.length_position texts
  obtain ⟨inclinationEq, ascendingNodeEq, pericenterEq, trueAnomalyEq⟩ :=
    Orbit.angles_ofRelativeMotion parameter elements.position (elements.velocity parameter)
      (elements.orbit parameter) rfl ((Scalar.exact_atMost_eq_false_iff _).mpr inclined)
      (by rwa [Scalar.exact_atMost_eq_false_iff, conic.eccentricity_orbit texts attracts])
  rw [inclinationEq, ascendingNodeEq, pericenterEq, trueAnomalyEq,
    conic.length_node_orbit texts attracts principal, conic.node_orbit texts attracts,
    momentumLength, momentumEq, conic.eccentricity_orbit texts attracts,
    conic.eccentricityVector_orbit texts attracts, distanceEq, Scalar.exact_one]
  exact ⟨signedAngle_inclination texts principal momentumPos zero_le_one,
    signedAngle_ascendingNode texts principal nodePos,
    signedAngle_pericenter texts principal nodePos eccentricityPos,
    signedAngle_trueAnomaly texts principal eccentricityPos (conic.radius_pos texts)
      (conic.speed_pos texts attracts)⟩

end IsConic

theorem derive_particle {gravity mass : ℝ} {primary : Particle ℝ} (id : ParticleId)
    (conic : elements.IsConic) :
    letI := Scalar.real texts
    Orbit.tiny < primary.mass → Orbit.tiny < elements.radius →
      Orbit.derive gravity (elements.particle gravity primary id mass) primary =
        .ok (elements.orbit (gravity * (mass + primary.mass))) := by
  let := Scalar.real texts
  intro hasMass apart
  have relative (origin shift : Vec3 ℝ) : origin + shift - origin = shift := by
    refine Vec3.ext_component fun axis => ?_
    rw [Vec3.component_sub, Vec3.component_add]
    exact add_sub_cancel_left _ _
  have positionEq : (elements.particle gravity primary id mass).position - primary.position =
      elements.position := relative _ _
  have velocityEq : (elements.particle gravity primary id mass).velocity - primary.velocity =
      elements.velocity (gravity * (mass + primary.mass)) := relative _ _
  rw [Orbit.derive_eq_ok, positionEq, velocityEq]
  · rfl
  · exact (Scalar.exact_atMost_eq_false_iff _).mpr hasMass
  · rw [positionEq, conic.length_position texts]
    exact (Scalar.exact_atMost_eq_false_iff _).mpr apart

end Elements

/-- The orbit that is derived of a particle placed by elements has these elements. -/
theorem Orbit.derive_recovers_elements (texts : ElementaryFunctions ℝ) (gravity mass : ℝ)
    (primary : Particle ℝ) (id : ParticleId) {elements : Elements ℝ}
    (conic : elements.IsConic) (attracts : 0 < gravity * (mass + primary.mass)) :
    letI := Scalar.real texts
    tiny < primary.mass →
    tiny < elements.semiMajorAxis * (1 - elements.eccentricity ^ 2) /
      (1 + elements.eccentricity * Real.cos elements.trueAnomaly) →
      ∃ orbit, derive gravity (elements.particle gravity primary id mass) primary = .ok orbit ∧
        orbit.semiMajorAxis = elements.semiMajorAxis ∧
        orbit.eccentricity = elements.eccentricity ∧
        orbit.distance = elements.semiMajorAxis * (1 - elements.eccentricity ^ 2) /
          (1 + elements.eccentricity * Real.cos elements.trueAnomaly) ∧
        orbit.angularMomentum = elements.normal * Real.sqrt (gravity * (mass + primary.mass) *
          (elements.semiMajorAxis * (1 - elements.eccentricity ^ 2))) ∧
        orbit.eccentricityVector = elements.pericenterAxis * elements.eccentricity ∧
        (tiny < elements.eccentricity → tiny < orbit.node.length → elements.IsPrincipal →
          orbit.inclination = elements.inclination ∧
            orbit.ascendingNode = elements.ascendingNode ∧
            orbit.pericenter = elements.pericenter ∧
            orbit.trueAnomaly = elements.trueAnomaly) := by
  let := Scalar.real texts
  intro hasMass apart
  have radiusEq : elements.radius = elements.semiMajorAxis * (1 - elements.eccentricity ^ 2) /
      (1 + elements.eccentricity * Real.cos elements.trueAnomaly) := by
    rw [Elements.radius_eq, Elements.latusRectum_eq]
    rfl
  rw [← radiusEq] at apart
  rw [← radiusEq, ← Elements.latusRectum_eq texts]
  exact ⟨elements.orbit (gravity * (mass + primary.mass)),
    elements.derive_particle texts id conic hasMass apart,
    conic.semiMajorAxis_orbit texts attracts, conic.eccentricity_orbit texts attracts,
    conic.length_position texts, conic.position_cross_velocity texts attracts,
    conic.eccentricityVector_orbit texts attracts, fun eccentric inclined principal =>
      conic.angles_orbit texts attracts principal eccentric inclined⟩

/-! ## A polar orbit -/

/-- An ellipse that stands upright on the reference plane. -/
noncomputable def Elements.polar : Elements ℝ where
  semiMajorAxis := 1
  eccentricity := 1 / 2
  inclination := Real.pi / 2
  ascendingNode := Real.pi / 2
  pericenter := -(Real.pi / 2)
  trueAnomaly := Real.pi / 2

noncomputable def Particle.star : Particle ℝ :=
  letI := Scalar.real default
  .pointMass ⟨1⟩ "star" 1

theorem Particle.mass_star : Particle.star.mass = 1 :=
  rfl

/-- A quarter turn past the pericenter of a polar orbit, the elements are found again. -/
theorem Orbit.derive_recovers_elements_of_polar :
    letI := Scalar.real default
    Elements.polar.IsConic ∧ Elements.polar.IsPrincipal ∧
      (0 : ℝ) < 1 * (0 + Particle.star.mass) ∧ tiny < Particle.star.mass ∧
      ∃ orbit, derive 1 (Elements.polar.particle 1 .star ⟨2⟩ 0) .star = .ok orbit ∧
        tiny < orbit.node.length ∧
        orbit.semiMajorAxis = 1 ∧ orbit.eccentricity = 1 / 2 ∧ orbit.distance = 3 / 4 ∧
        orbit.inclination = Real.pi / 2 ∧ orbit.ascendingNode = Real.pi / 2 ∧
        orbit.pericenter = -(Real.pi / 2) ∧ orbit.trueAnomaly = Real.pi / 2 := by
  let := Scalar.real default
  have piPos := Real.pi_pos
  have conic : Elements.polar.IsConic := by
    refine ⟨?_, ?_, ?_⟩ <;> norm_num [Elements.polar]
  have principal : Elements.polar.IsPrincipal := by
    refine ⟨⟨?_, ?_⟩, ⟨?_, ?_⟩, ⟨?_, ?_⟩, ⟨?_, ?_⟩⟩ <;> dsimp only [Elements.polar] <;> linarith
  have tinyLt : tiny < (1 / 2 : ℝ) := tiny_lt_half
  have attracts : (0 : ℝ) < 1 * (0 + Particle.star.mass) := by norm_num [Particle.mass_star]
  have hasMass : tiny < Particle.star.mass := tinyLt.trans (by norm_num [Particle.mass_star])
  have radiusEq : Elements.polar.semiMajorAxis * (1 - Elements.polar.eccentricity ^ 2) /
      (1 + Elements.polar.eccentricity * Real.cos Elements.polar.trueAnomaly) = 3 / 4 := by
    norm_num [Elements.polar]
  obtain ⟨orbit, derived, axisEq, eccentricityEq, distanceEq, momentumEq, -, angles⟩ :=
    derive_recovers_elements default 1 0 .star ⟨2⟩ conic attracts hasMass
      (radiusEq ▸ tinyLt.trans (by norm_num))
  have inclined : tiny < orbit.node.length := by
    have factorEq : Real.sqrt (1 * (0 + Particle.star.mass) *
        (Elements.polar.semiMajorAxis * (1 - Elements.polar.eccentricity ^ 2))) *
        Scalar.sin Elements.polar.inclination = Real.sqrt (3 / 4) := by
      change _ * Real.sin (Real.pi / 2) = _
      rw [Real.sin_pi_div_two, mul_one]
      norm_num [Elements.polar, Particle.mass_star]
    rw [Elements.node_of_angularMomentum default momentumEq, factorEq,
      Vec3.length_mul default (Real.sqrt_nonneg _) (Elements.nodeAxis_dot_self default _)]
    exact tinyLt.trans (Real.lt_sqrt_of_sq_lt (by norm_num))
  exact ⟨conic, principal, attracts, hasMass, orbit, derived, inclined, axisEq, eccentricityEq,
    distanceEq.trans radiusEq, angles tinyLt inclined principal⟩

end Telemetry
