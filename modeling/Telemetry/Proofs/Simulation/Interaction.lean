import Telemetry.Playground
import Telemetry.Preview.Program
import Telemetry.Proofs.Simulation.Validity

/-!
# Simulations under interaction

The playground and the preview shell let a reader replace the simulation and choose its
primary, in any order and as often as wanted.  The simulation stays valid all the while:
whatever takes its place has been checked or generated, and a primary is looked up
before it is set.  A request that is refused changes nothing.
-/

namespace Telemetry

namespace Playground

/-- What a page can ask of a playground that depends on its simulation. -/
inductive Request where
  | loadSnapshot (document : String)
  | setPrimary (id? : Option ParticleId)
  | render (format : String)
  | snapshotInfo

inductive Reply where
  | done
  | line (text : String)
  | info (snapshot : SnapshotInfo Float)

/-- The playground after an attempt to change it, and how the attempt ended. -/
def settle (playground : Playground) :
    Except PlaygroundError Playground → Playground × Except PlaygroundError Reply
  | .ok changed => (changed, .ok .done)
  | .error cause => (playground, .error cause)

/-- Carry out a request: the playground after it, and the answer. -/
def respond (playground : Playground) : Request → Playground × Except PlaygroundError Reply
  | .loadSnapshot document => playground.settle (playground.loadSnapshot document)
  | .setPrimary id? => playground.settle (playground.setPrimary id?)
  | .render format => (playground, (playground.render format).map .line)
  | .snapshotInfo => (playground, .ok (.info playground.snapshotInfo))

def afterAll (playground : Playground) (requests : List Request) : Playground :=
  requests.foldl (fun playground request => (playground.respond request).1) playground

theorem settle_of_error {playground : Playground} {outcome : Except PlaygroundError Playground}
    {cause : PlaygroundError} (refused : (playground.settle outcome).2 = .error cause) :
    (playground.settle outcome).1 = playground := by
  cases outcome with
  | ok changed => exact absurd refused (by simp [settle])
  | error cause => rfl

theorem respond_of_error {playground : Playground} {request : Request} {cause : PlaygroundError}
    (refused : (playground.respond request).2 = .error cause) :
    (playground.respond request).1 = playground := by
  cases request with
  | loadSnapshot document => exact settle_of_error refused
  | setPrimary id? => exact settle_of_error refused
  | render format => rfl
  | snapshotInfo => rfl

variable {playground changed : Playground}

theorem consistent_of_loadSnapshot {document : String}
    (loaded : playground.loadSnapshot document = .ok changed) :
    changed.simulation.Consistent := by
  unfold loadSnapshot at loaded
  split at loaded
  · rename_i simulation read
    obtain rfl := Except.ok.inj loaded
    exact Simulation.consistent_of_ofJson read
  · exact absurd loaded (by simp)

theorem consistent_of_setPrimary (consistent : playground.simulation.Consistent)
    {id? : Option ParticleId} (set : playground.setPrimary id? = .ok changed) :
    changed.simulation.Consistent := by
  unfold setPrimary at set
  split at set
  · obtain rfl := Except.ok.inj set
    exact consistent.clearPrimary
  · split at set
    · rename_i isSome
      obtain ⟨particle, found⟩ := Option.isSome_iff_exists.mp isSome
      obtain rfl := Except.ok.inj set
      exact consistent.setPrimary found
    · exact absurd set (by simp)

theorem consistent_settle (consistent : playground.simulation.Consistent)
    {outcome : Except PlaygroundError Playground}
    (whenChanged : ∀ changed, outcome = .ok changed → changed.simulation.Consistent) :
    (playground.settle outcome).1.simulation.Consistent := by
  cases outcome with
  | ok changed => exact whenChanged changed rfl
  | error cause => exact consistent

theorem consistent_respond (consistent : playground.simulation.Consistent) (request : Request) :
    (playground.respond request).1.simulation.Consistent := by
  cases request with
  | loadSnapshot document =>
      exact consistent_settle consistent fun _ => consistent_of_loadSnapshot
  | setPrimary id? =>
      exact consistent_settle consistent fun _ => consistent_of_setPrimary consistent
  | render format => exact consistent
  | snapshotInfo => exact consistent

theorem consistent_afterAll (consistent : playground.simulation.Consistent)
    (requests : List Request) : (playground.afterAll requests).simulation.Consistent := by
  induction requests generalizing playground with
  | nil => exact consistent
  | cons request requests ih => exact ih (consistent_respond consistent request)

end Playground

namespace Preview

/-- There are identifiers for all stars that the command asks for. -/
def Command.IsBounded : Command → Prop
  | .generate argument =>
      ∀ count ∈ countOfChars? UInt64.size argument.toList, count < UInt32.size
  | _ => True

namespace Session

/-- The command asks for a change that cannot be made. -/
def Rejects (session : Session) (disk : Disk) : Command → Prop
  | .load path => path = "" ∨ ∃ cause, Simulation.load (α := Float) disk path = .error cause
  | .generate argument => argument ≠ "" ∧ countOfChars? UInt64.size argument.toList = none
  | .seed argument => argument ≠ "" ∧ countOfChars? UInt64.size argument.toList = none
  | .primary argument =>
      argument ≠ "" ∧ argument ≠ "none" ∧
        ∀ value ∈ countOfChars? UInt32.size argument.toList,
          session.simulation.find? ⟨UInt32.ofNat value⟩ = none
  | _ => False

/-- The session after commands, each of which finds the files of its own moment. -/
def afterAll (session : Session) (steps : List (Disk × Command)) : Session :=
  steps.foldl (fun session (disk, command) => (session.respond disk command).1) session

variable {session : Session}

theorem respond_of_rejects {disk : Disk} {command : Command}
    (rejects : session.Rejects disk command) : (session.respond disk command).1 = session := by
  cases command with
  | load path =>
      change (session.load disk path).1 = session
      unfold load
      split
      · rfl
      · rename_i nonempty
        rcases rejects with isEmpty | ⟨cause, notLoaded⟩
        · exact absurd (String.isEmpty_iff.mpr isEmpty) nonempty
        · rw [notLoaded]
  | generate argument =>
      obtain ⟨nonempty, unreadable⟩ := rejects
      change (session.generate argument).1 = session
      unfold generate
      simp only [String.isEmpty_iff, nonempty, if_false, unreadable]
  | seed argument =>
      obtain ⟨nonempty, unreadable⟩ := rejects
      change (session.setSeed argument).1 = session
      unfold setSeed
      simp only [String.isEmpty_iff, nonempty, if_false, unreadable]
  | primary argument =>
      obtain ⟨nonempty, notNone, unknown⟩ := rejects
      change (session.setPrimary argument).1 = session
      unfold setPrimary
      split
      · rename_i clears
        rw [Bool.or_eq_true, String.isEmpty_iff, beq_iff_eq] at clears
        exact absurd clears (not_or.mpr ⟨nonempty, notNone⟩)
      · split
        · rfl
        · rename_i value readable
          dsimp only
          rw [unknown value readable]
  | _ => exact rejects.elim

theorem consistent_load (consistent : session.simulation.Consistent) (disk : Disk)
    (path : String) : (session.load disk path).1.simulation.Consistent := by
  unfold load
  split
  · exact consistent
  · split
    · rename_i loaded read
      exact Simulation.consistent_of_load read
    · exact consistent

theorem consistent_generate (consistent : session.simulation.Consistent) {argument : String}
    (bounded : (Command.generate argument).IsBounded) :
    (session.generate argument).1.simulation.Consistent := by
  unfold generate
  dsimp only
  split
  · exact consistent
  · rename_i count isCount
    refine Simulation.consistent_eccentricDisk_iff.mpr ?_
    -- Without an argument it is the default number of stars.
    split at isCount
    · obtain rfl := Option.some.inj isCount
      decide
    · exact bounded count isCount

theorem consistent_setSeed (consistent : session.simulation.Consistent) (argument : String) :
    (session.setSeed argument).1.simulation.Consistent := by
  unfold setSeed
  split
  · exact consistent
  · split
    · exact consistent
    · exact consistent

theorem consistent_setPrimary (consistent : session.simulation.Consistent) (argument : String) :
    (session.setPrimary argument).1.simulation.Consistent := by
  unfold setPrimary
  split
  · exact consistent.clearPrimary
  · split
    · exact consistent
    · dsimp only
      split
      · exact consistent
      · rename_i particle found
        exact consistent.setPrimary found

theorem consistent_respond (consistent : session.simulation.Consistent) (disk : Disk)
    {command : Command} (bounded : command.IsBounded) :
    (session.respond disk command).1.simulation.Consistent := by
  cases command with
  | load path => exact consistent_load consistent disk path
  | generate argument => exact consistent_generate consistent bounded
  | seed argument => exact consistent_setSeed consistent argument
  | primary argument => exact consistent_setPrimary consistent argument
  | format text =>
      change (if text.isEmpty then _ else _ : Session × List String).1.simulation.Consistent
      split
      · exact consistent
      · exact consistent
  | _ => exact consistent

theorem consistent_afterAll (consistent : session.simulation.Consistent)
    {steps : List (Disk × Command)} (bounded : ∀ step ∈ steps, step.2.IsBounded) :
    (session.afterAll steps).simulation.Consistent := by
  induction steps generalizing session with
  | nil => exact consistent
  | cons step steps ih =>
      rw [List.forall_mem_cons] at bounded
      exact ih (consistent_respond consistent step.1 bounded.1) bounded.2

end Session

theorem Options.consistent_session {options : Options} {disk : Disk} {session : Session}
    {opening : List String} (started : options.session disk = .ok (session, opening))
    (bounded : options.snapshot? = none → options.stars < UInt32.size) :
    session.simulation.Consistent := by
  unfold Options.session Options.simulation at started
  split at started
  · rename_i isGenerated
    obtain ⟨rfl, -⟩ := Prod.mk.inj (Except.ok.inj started)
    exact Simulation.consistent_eccentricDisk_iff.mpr (bounded isGenerated)
  · split at started
    · rename_i loaded read
      obtain ⟨rfl, -⟩ := Prod.mk.inj (Except.ok.inj started)
      exact Simulation.consistent_of_load read
    · exact absurd started (by simp [Except.map])

end Preview

/-- Whatever a reader does, the simulations of the playground and of the preview shell
stay consistent, and what is refused leaves them as they were.  The disks that are asked
for must not have more stars than there are identifiers. -/
theorem consistent_under_interaction :
    (∀ (seed : UInt64) (stars : Nat) (requests : List Playground.Request),
      stars < UInt32.size →
      ((Playground.generate seed stars).afterAll requests).simulation.Consistent) ∧
    (∀ (playground : Playground) (request : Playground.Request) (cause : PlaygroundError),
      (playground.respond request).2 = .error cause →
      (playground.respond request).1 = playground) ∧
    (∀ (options : Preview.Options) (disk : Disk) (session : Preview.Session)
        (opening : List String) (steps : List (Disk × Preview.Command)),
      options.session disk = .ok (session, opening) →
      (options.snapshot? = none → options.stars < UInt32.size) →
      (∀ step ∈ steps, step.2.IsBounded) →
      (session.afterAll steps).simulation.Consistent) ∧
    (∀ (session : Preview.Session) (disk : Disk) (command : Preview.Command),
      session.Rejects disk command → (session.respond disk command).1 = session) := by
  refine ⟨fun seed stars requests bounded => ?_, fun _ _ _ => Playground.respond_of_error,
    fun options disk session opening steps started startBounded bounded => ?_,
    fun _ _ _ => Preview.Session.respond_of_rejects⟩
  · have generated : (Playground.generate seed stars).simulation.Consistent :=
      Simulation.consistent_eccentricDisk_iff.mpr bounded
    exact Playground.consistent_afterAll generated requests
  · have initial := Preview.Options.consistent_session started startBounded
    exact Preview.Session.consistent_afterAll initial bounded

theorem consistent_under_interaction_of_defaults :
    ((Playground.generate 42 25).afterAll
      [.setPrimary (some ⟨7⟩), .loadSnapshot "", .snapshotInfo]).simulation.Consistent ∧
    ((Playground.mk .empty).respond (.setPrimary (some ⟨7⟩))).1 = Playground.mk .empty ∧
    (∃ session opening,
      Preview.Options.default.session ⟨[], [], []⟩ = .ok (session, opening) ∧
      (session.afterAll [(⟨[], [], []⟩, .generate "3"), (⟨[], [], []⟩, .primary "2")]
        ).simulation.Consistent) ∧
    ((Preview.Session.mk .empty 42 "").respond ⟨[], [], []⟩ (.primary "7")).1 =
      Preview.Session.mk .empty 42 "" := by
  obtain ⟨playgrounds, refusedRequests, sessions, refusedCommands⟩ :=
    consistent_under_interaction
  refine ⟨playgrounds 42 25 _ (by decide), refusedRequests _ _ (.missingParticle ⟨7⟩) rfl,
    ⟨_, _, rfl, sessions .default ⟨[], [], []⟩ _ _ _ rfl (fun _ => by decide) ?_⟩,
    refusedCommands _ _ _ ⟨by decide, by decide, fun _ _ => rfl⟩⟩
  have readable : countOfChars? UInt64.size ['3'] = some 3 := by decide
  simp [Preview.Command.IsBounded, readable, UInt32.size]

end Telemetry
