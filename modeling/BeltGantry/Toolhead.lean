import BeltGantry.Machine
import BeltGantry.Rail
namespace BeltGantry

/-!
# The toolhead

The part of the machine that all gantries share: it carries the axes, limits
speed and acceleration, names motion queues, and records every stepper for which
steps are to be generated.
-/

structure Toolhead (α : Type) where
  axisCount : Nat
  maxVelocity : α
  maxAccel : α
  registered : List StepperRef := []

namespace Toolhead

variable {α : Type}

/-- The toolhead of a machine, without any stepper. -/
def ofPrinter (printer : PrinterSection α) : Toolhead α :=
  { axisCount := printer.axisCount
    maxVelocity := printer.maxVelocity
    maxAccel := printer.maxAccel }

/-- The queue that serves a group of axis letters. -/
def queueFor (letters : String) : MotionQueue := "trapq_" ++ Text.lowered letters

/-- The toolhead with more steppers registered, in order. -/
def register (toolhead : Toolhead α) (steppers : List StepperRef) : Toolhead α :=
  { toolhead with registered := toolhead.registered ++ steppers }

end Toolhead

end BeltGantry
