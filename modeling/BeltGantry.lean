import BeltGantry.Limit.Update
import BeltGantry.Main
import BeltGantry.Proofs.Axis.Layout
import BeltGantry.Proofs.Gantry.Touch
import BeltGantry.Proofs.Scalar.Binary64
import BeltGantry.Rail.Bank
import BeltGantry.Session
import BeltGantry.Proofs.Failure
import BeltGantry.Proofs.Gantry.Construction
import BeltGantry.Proofs.Gantry.Invariant
import BeltGantry.Proofs.Session.Step
import BeltGantry.Proofs.Session.History
import BeltGantry.Proofs.Move.Admission
import BeltGantry.Proofs.Session.Registration
import BeltGantry.Proofs.Session.Verdict
import BeltGantry.Proofs.Machine.Acceptance
import BeltGantry.Proofs.Homing.Protocol
import BeltGantry.Proofs.Homing.Simulated
import BeltGantry.Proofs.Gantry.Equipment
import BeltGantry.Proofs.Session.Homing
import BeltGantry.Proofs.Scalar.Difference
import BeltGantry.Proofs.Program.Containment
import BeltGantry.Proofs.Gantry.Furnishing
import BeltGantry.Proofs.Session.Building
import BeltGantry.Proofs.Gantry.Command
import BeltGantry.Proofs.Session.Command
import BeltGantry.Proofs.Scalar.Exact
import BeltGantry.Proofs.Gantry.Measurement
import BeltGantry.Proofs.Session.Measurement
import BeltGantry.Proofs.Gantry.Renumbering
import BeltGantry.Proofs.Session.Isolation
import BeltGantry.Proofs.Axis.Arrangement
import BeltGantry.Proofs.Gantry.Relabeling
import BeltGantry.Proofs.Gantry.Reordering
import BeltGantry.Proofs.Session.Reordering
import BeltGantry.Proofs.Program.Rejection
import BeltGantry.Proofs.Program.Ending
import BeltGantry.Proofs.Move.Capping
import BeltGantry.Proofs.Move.Derating
import BeltGantry.Proofs.Axis.Store
import BeltGantry.Proofs.Axis.Grammar
import BeltGantry.Proofs.Scalar.Ticks
import BeltGantry.Proofs.Scalar.Rounding
import BeltGantry.Proofs.Scalar.Arithmetic
import BeltGantry.Proofs.Homing.Overshoot
import BeltGantry.Proofs.Homing.Approach
import BeltGantry.Proofs.Machine.Obstacle
import BeltGantry.Proofs.Move.Lowering
import BeltGantry.Proofs.Rail.Coupling
import BeltGantry.Proofs.Session.Atomicity
import BeltGantry.Proofs.Rail.Position
import BeltGantry.Proofs.Session.Reading
import BeltGantry.Proofs.Homing.Travel
import BeltGantry.Proofs.Machine.Lookup
import BeltGantry.Proofs.Homing.Recording
import BeltGantry.Proofs.Program.Target
