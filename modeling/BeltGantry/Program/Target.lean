import BeltGantry.Decimal.Literal
import BeltGantry.Slot
import BeltGantry.Text.Blank
namespace BeltGantry

/-!
# Targets on the command line

A target is three numbers with commas between them; white space around a number
does not matter.  Every piece is read before the pieces are counted, so a piece
that is not a number is reported first.
-/

/-- Why a text is not a target. -/
inductive TargetFault where
  | piece (text : String) (fault : Decimal.NumberFault)
  | count (text : String)
  deriving DecidableEq, Repr

def TargetFault.message : TargetFault → String
  | piece text fault => "'" ++ text ++ "': " ++ fault.message
  | count text => "expected X,Y,Z, got '" ++ text ++ "'"

namespace Target

/-- Read pieces in order, up to the first that is not a number. -/
def readPieces : List (List Char) → Except TargetFault (List Float)
  | [] => .ok []
  | piece :: rest =>
    match Decimal.number (Text.trim piece) with
    | .error fault => .error (.piece (String.ofList piece) fault)
    | .ok value =>
      match readPieces rest with
      | .error fault => .error fault
      | .ok values => .ok (value :: values)

def read (text : String) : Except TargetFault (Point Float) :=
  match readPieces (Text.splitAt ',' text.toList) with
  | .error fault => .error fault
  | .ok [x, y, z] => .ok ⟨x, y, z⟩
  | .ok _ => .error (.count text)

/-- Read targets in order, up to the first that is not one. -/
def readAll : List String → Except TargetFault (List (Point Float))
  | [] => .ok []
  | text :: rest =>
    match read text with
    | .error fault => .error fault
    | .ok target =>
      match readAll rest with
      | .error fault => .error fault
      | .ok targets => .ok (target :: targets)

end Target

end BeltGantry
