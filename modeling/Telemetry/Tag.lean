/-!
# The tag vocabulary

A value token of a template is `#`, a selector character and a tag code.  The
selector says in which scope the code is looked up, or which reduction is
applied; the code names a quantity of the simulation or of a particle.  This
file holds the vocabulary: codes, descriptions and the kind of value behind
each tag.
-/

namespace Telemetry

/-- The shape of the value that a tag stands for. -/
inductive ValueKind where
  | scalar
  | vector
  | text
  | integer
deriving Repr, DecidableEq

namespace ValueKind

def label : ValueKind → String
  | .scalar => "Scalar"
  | .vector => "Vector3"
  | .text => "String"
  | .integer => "Integer"

end ValueKind

/-- The first character of a value token. -/
inductive Selector where
  | average
  | deviation
  | particle
  | simulation
deriving Repr, DecidableEq

namespace Selector

/-- All selectors, in the order of the vocabulary listing. -/
def all : List Selector := [.average, .deviation, .particle, .simulation]

def code : Selector → Char
  | .average => 'a'
  | .deviation => 'd'
  | .particle => 'p'
  | .simulation => 's'

def ofCode? (code : Char) : Option Selector :=
  all.find? (·.code == code)

def label : Selector → String
  | .average => "Average"
  | .deviation => "StdDev"
  | .particle => "Particle"
  | .simulation => "Simulation"

def description : Selector → String
  | .average => "Global Average"
  | .deviation => "Global Standard Deviation"
  | .particle => "Particle"
  | .simulation => "Simulation"

end Selector

/-- The quantities of a whole simulation. -/
inductive SimulationTag where
  | name
  | time
  | lastStep
  | particleCount
  | integrator
  | gravity
  | stepCount
  | wallTime
  | wallResolution
deriving Repr, DecidableEq

namespace SimulationTag

/-- All simulation tags, in the order of the vocabulary listing. -/
def all : List SimulationTag :=
  [.name, .time, .lastStep, .particleCount, .integrator, .gravity, .stepCount,
    .wallTime, .wallResolution]

def code : SimulationTag → String
  | .name => "n"
  | .time => "t"
  | .lastStep => "dt"
  | .particleCount => "c"
  | .integrator => "i"
  | .gravity => "G"
  | .stepCount => "ts"
  | .wallTime => "w"
  | .wallResolution => "wr"

def ofCode? (code : String) : Option SimulationTag :=
  all.find? (·.code == code)

def label : SimulationTag → String
  | .name => "Name"
  | .time => "Time"
  | .lastStep => "LastStep"
  | .particleCount => "ParticleCount"
  | .integrator => "Integrator"
  | .gravity => "Gravity"
  | .stepCount => "StepCount"
  | .wallTime => "WallTime"
  | .wallResolution => "WallResolution"

def description : SimulationTag → String
  | .name => "Name"
  | .time => "Current Time"
  | .lastStep => "Last dt"
  | .particleCount => "Particle Count"
  | .integrator => "Integrator Name"
  | .gravity => "Gravitational Constant"
  | .stepCount => "Current Timestep"
  | .wallTime => "Current Wall Time"
  | .wallResolution => "Wall Time Resolution"

def kind : SimulationTag → ValueKind
  | .name | .integrator => .text
  | .particleCount | .stepCount => .integer
  | .time | .lastStep | .gravity | .wallTime | .wallResolution => .scalar

end SimulationTag

/-- The quantities of one particle.  Those of its orbit are taken relative to
the reference body of the snapshot. -/
inductive ParticleTag where
  | mass
  | radius
  | name
  | identifier
  | semiMajorAxis
  | eccentricity
  | inclination
  | ascendingNode
  | pericenter
  | trueAnomaly
  | meanAnomaly
  | positionX
  | positionY
  | positionZ
  | velocityX
  | velocityY
  | velocityZ
  | accelerationX
  | accelerationY
  | accelerationZ
  /-- Distance from the origin. -/
  | distance
  /-- Distance from the reference body. -/
  | referenceDistance
  | eccentricityX
  | eccentricityY
  | eccentricityZ
  | eccentricityVector
  | momentum
  | momentumX
  | momentumY
  | momentumZ
  | momentumVector
deriving Repr, DecidableEq

namespace ParticleTag

/-- All particle tags, in the order of the vocabulary listing. -/
def all : List ParticleTag :=
  [.mass, .radius, .name, .identifier, .semiMajorAxis, .eccentricity, .inclination,
    .ascendingNode, .pericenter, .trueAnomaly, .meanAnomaly, .positionX, .positionY,
    .positionZ, .velocityX, .velocityY, .velocityZ, .accelerationX, .accelerationY,
    .accelerationZ, .distance, .referenceDistance, .eccentricityX, .eccentricityY,
    .eccentricityZ, .eccentricityVector, .momentum, .momentumX, .momentumY, .momentumZ,
    .momentumVector]

def code : ParticleTag → String
  | .mass => "m"
  | .radius => "r"
  | .name => "n"
  | .identifier => "h"
  | .semiMajorAxis => "a"
  | .eccentricity => "e"
  | .inclination => "i"
  | .ascendingNode => "O"
  | .pericenter => "o"
  | .trueAnomaly => "f"
  | .meanAnomaly => "M"
  | .positionX => "x"
  | .positionY => "y"
  | .positionZ => "z"
  | .velocityX => "vx"
  | .velocityY => "vy"
  | .velocityZ => "vz"
  | .accelerationX => "ax"
  | .accelerationY => "ay"
  | .accelerationZ => "az"
  | .distance => "R"
  | .referenceDistance => "Rc"
  | .eccentricityX => "ex"
  | .eccentricityY => "ey"
  | .eccentricityZ => "ez"
  | .eccentricityVector => "ev"
  | .momentum => "j"
  | .momentumX => "jx"
  | .momentumY => "jy"
  | .momentumZ => "jz"
  | .momentumVector => "jv"

def ofCode? (code : String) : Option ParticleTag :=
  all.find? (·.code == code)

def label : ParticleTag → String
  | .mass => "Mass"
  | .radius => "Radius"
  | .name => "Name"
  | .identifier => "Hash"
  | .semiMajorAxis => "SemiMajorAxis"
  | .eccentricity => "Eccentricity"
  | .inclination => "Inclination"
  | .ascendingNode => "AscendingNode"
  | .pericenter => "Pericenter"
  | .trueAnomaly => "TrueAnomaly"
  | .meanAnomaly => "MeanAnomaly"
  | .positionX => "PosX"
  | .positionY => "PosY"
  | .positionZ => "PosZ"
  | .velocityX => "VelX"
  | .velocityY => "VelY"
  | .velocityZ => "VelZ"
  | .accelerationX => "AccX"
  | .accelerationY => "AccY"
  | .accelerationZ => "AccZ"
  | .distance => "Distance"
  | .referenceDistance => "PrimaryDistance"
  | .eccentricityX => "EccX"
  | .eccentricityY => "EccY"
  | .eccentricityZ => "EccZ"
  | .eccentricityVector => "EccVector"
  | .momentum => "AngMom"
  | .momentumX => "AngMomX"
  | .momentumY => "AngMomY"
  | .momentumZ => "AngMomZ"
  | .momentumVector => "AngMomVector"

def description : ParticleTag → String
  | .mass => "Mass"
  | .radius => "Radius"
  | .name => "Name"
  | .identifier => "Hash"
  | .semiMajorAxis => "Semi-Major Axis"
  | .eccentricity => "Eccentricity"
  | .inclination => "Inclination"
  | .ascendingNode => "Longitude of Ascending Node"
  | .pericenter => "Argument of Pericenter"
  | .trueAnomaly => "True Anomaly"
  | .meanAnomaly => "Mean Anomaly"
  | .positionX => "X Position"
  | .positionY => "Y Position"
  | .positionZ => "Z Position"
  | .velocityX => "X Velocity"
  | .velocityY => "Y Velocity"
  | .velocityZ => "Z Velocity"
  | .accelerationX => "X Acceleration"
  | .accelerationY => "Y Acceleration"
  | .accelerationZ => "Z Acceleration"
  | .distance => "Distance from Origin"
  | .referenceDistance => "Distance from Primary Particle"
  | .eccentricityX => "X Eccentricity Vector Component"
  | .eccentricityY => "Y Eccentricity Vector Component"
  | .eccentricityZ => "Z Eccentricity Vector Component"
  | .eccentricityVector => "3-Component Eccentricity Vector"
  | .momentum => "Magnitude of Angular Momentum"
  | .momentumX => "X Angular Momentum Vector Component"
  | .momentumY => "Y Angular Momentum Vector Component"
  | .momentumZ => "Z Angular Momentum Vector Component"
  | .momentumVector => "3-Component Angular Momentum Vector"

def kind : ParticleTag → ValueKind
  | .name => .text
  | .identifier => .integer
  | .eccentricityVector | .momentumVector => .vector
  | _ => .scalar

/-- The value is read from the particle's orbit. -/
def isOrbital : ParticleTag → Bool
  | .semiMajorAxis | .eccentricity | .inclination | .ascendingNode | .pericenter
  | .trueAnomaly | .meanAnomaly | .referenceDistance | .eccentricityX | .eccentricityY
  | .eccentricityZ | .eccentricityVector | .momentum | .momentumX | .momentumY
  | .momentumZ | .momentumVector => true
  | _ => false

/-- The value measures the particle and so can be averaged.  Names and
identifiers only tell particles apart. -/
def isAggregable (tag : ParticleTag) : Bool :=
  tag.kind = .scalar || tag.kind = .vector

end ParticleTag

end Telemetry
