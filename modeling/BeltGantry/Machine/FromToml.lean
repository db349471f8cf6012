import BeltGantry.Machine
import BeltGantry.Toml.Document
namespace BeltGantry

/-!
# Machine files in TOML

How the tables of a TOML document become the sections of a machine file.  A
section is given as a table, whose other keys are ignored as long as their
numbers can be read, or as an array that lists its fields in the order of their
declaration; an array may stop early, and what follows the declared fields is
not looked at.  A date in the place of a section is a table without any of the
declared keys.  A whole number may stand where a float is wanted, but not the
other way round.
-/

namespace Toml

/-- The values that a section gives for its declared fields. -/
def Value.fields? (names : List String) : Value → Option (List (Option Value))
  | .table entries =>
    if entries.all fun entry => names.contains entry.1 || entry.2.isReadable then
      some (names.map fun name => entries.lookup name)
    else none
  | .array items => some ((List.range names.length).map (items[·]?))
  | .moment _ => some (names.map fun _ => none)
  | _ => none

/-- A field that has a default when it is left out. -/
def orDefault {β : Type} (decode : Value → Option β) (default : β) : Option Value → Option β
  | none => some default
  | some value => decode value

def Value.text? : Value → Option String
  | .text content => some content
  | _ => none

def Value.boolean? : Value → Option Bool
  | .boolean value => some value
  | _ => none

/-- A count, which has to fit into 64 bits. -/
def Value.count? : Value → Option Nat
  | .integer value => if 0 ≤ value ∧ value < Int.pow 2 64 then some value.toNat else none
  | _ => none

/-- A float, or a whole number that fits into 64 bits with or without a sign. -/
def Value.float? : Value → Option Float
  | .float value => some value
  | .integer value =>
    if -Int.pow 2 63 ≤ value ∧ value < Int.pow 2 64 then
      let magnitude := Decimal.nearest value.natAbs 0
      some (if value < 0 then -magnitude else magnitude)
    else none
  | _ => none

def Value.items? {β : Type} (decode : Value → Option β) : Value → Option (List β)
  | .array items => items.mapM decode
  | _ => none

/-- A severity, given by its name alone or by its name as the only key of a
table whose value is empty. -/
def Value.severity? : Value → Option Severity
  | .text name => Severity.ofName? name
  | .table [(name, .table [])] => Severity.ofName? name
  | .table [(name, .array [])] => Severity.ofName? name
  | _ => none

end Toml

open Toml

def SharedSection.ofToml? (value : Value) : Option SharedSection := do
  match ← value.fields? ["log_level", "service_name"] with
  | [level, name] => some {
      logLevel := ← orDefault Value.severity? .info level
      serviceName := ← (← name).text? }
  | _ => none

def PrinterSection.ofToml? (value : Value) : Option (PrinterSection Float) := do
  match ← value.fields? ["max_velocity", "max_accel", "axis_count"] with
  | [velocity, accel, count] => some {
      maxVelocity := ← (← velocity).float?
      maxAccel := ← (← accel).float?
      axisCount := ← orDefault Value.count? tripletSize count }
  | _ => none

def KinematicsSection.ofToml? (value : Value) : Option (KinematicsSection Float) := do
  match ← value.fields? ["axes", "axis_indices", "max_z_velocity", "max_z_accel"] with
  | [axes, indices, velocity, accel] => some {
      axes := ← orDefault Value.text? "XYZ" axes
      axisIndices := ← orDefault (Value.items? Value.count?) [0, 1, 2] indices
      maxZVelocity := ← orDefault (fun value => value.float?.map some) none velocity
      maxZAccel := ← orDefault (fun value => value.float?.map some) none accel }
  | _ => none

def RailSection.ofToml? (value : Value) : Option (RailSection Float) := do
  match ← value.fields?
      ["steppers", "position_min", "position_max", "position_endstop", "homing_positive_dir"] with
  | [steppers, low, high, endstop, direction] => some {
      steppers := ← orDefault (Value.items? Value.text?) [] steppers
      positionMin := ← orDefault Value.float? 0.0 low
      positionMax := ← (← high).float?
      positionEndstop := ← (← endstop).float?
      homingPositiveDir := ← orDefault (fun value => value.boolean?.map some) none direction }
  | _ => none

/-- The rail sections by their keys. -/
def railSections? : Value → Option (List (String × RailSection Float))
  | .table entries => do
    let sections ← entries.mapM fun (key, value) => (RailSection.ofToml? value).map (key, ·)
    some (orderedSections sections)
  | _ => none

namespace Machine

def ofToml? (value : Value) : Option (Machine Float) := do
  match ← value.fields? ["shared", "printer", "kinematics", "stepper"] with
  | [shared, printer, kinematics, rails] => some {
      shared := ← orDefault SharedSection.ofToml? {} shared
      printer := ← PrinterSection.ofToml? (← printer)
      kinematics := ← orDefault KinematicsSection.ofToml? {} kinematics
      rails := ← orDefault railSections? [] rails }
  | _ => none

/-- Read a machine file from its text. -/
def ofText (text : String) : Except (ConfigFault Float) (Machine Float) :=
  match Toml.document? text with
  | none => .error (.unreadable "the text is not a TOML document")
  | some entries =>
    match ofToml? (.table entries) with
    | none => .error (.unreadable "a section is missing or has a value of the wrong kind")
    | some machine => .ok machine

end Machine

/-- What a path leads to. -/
inductive FileContent where
  | missing
  /-- Something that cannot be read as a file. -/
  | unreadable (reason : String)
  | bytes (content : ByteArray)

/-- Read a machine file from what its path leads to. -/
def Machine.load : FileContent → Except (ConfigFault Float) (Machine Float)
  | .missing => .error .fileMissing
  | .unreadable reason => .error (.unreadable reason)
  | .bytes content =>
    match String.fromUTF8? content with
    | none => .error (.unreadable "the file is not UTF-8 text")
    | some text => Machine.ofText text

end BeltGantry
