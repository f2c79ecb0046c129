import ResponseCheck.Calendar.Timestamp
import ResponseCheck.Program
import ResponseCheck.Xh
import Std.Time.Zoned

/-! The program with the files and the clock of the machine. It has no way to start other programs,
so the tool that sends requests is always missing; recorded responses can be checked. -/

namespace ResponseCheck.Program

/-- What a path leads to on this machine. -/
def machineFile (path : String) : IO Check.File := do
  try
    return .regular (← IO.FS.readBinFile path).toList
  catch
    | .noFileOrDirectory .. => return .unavailable "No such file or directory (os error 2)"
    | .permissionDenied .. => return .unavailable "Permission denied (os error 13)"
    | .inappropriateType .. => return .directory
    | error => return .unavailable (toString error)

/-- The present on this machine. -/
def machineClock : IO String := do
  let present ← Std.Time.Timestamp.now
  let rules ← Std.Time.Database.defaultGetLocalZoneRules
  let zone := (rules.findLocalTimeTypeForTimestamp present).getTimeZone
  let seconds := present.toSecondsSinceUnixEpoch.val
  let offset := zone.offset.second.val
  return (Calendar.stamp? seconds offset).getD ""

/-- The surroundings of the program on this machine. -/
def machine : Check.Surroundings IO Xh.Error where
  file := machineFile
  transport := Xh.send fun _ => return .missing
  words := Xh.Error.message
  clock := machineClock

end ResponseCheck.Program

/-- Runs the program. -/
def main (arguments : List String) : IO UInt32 := do
  let output ← ResponseCheck.Program.run ResponseCheck.Program.machine arguments
  (← IO.getStdout).putStr output.standard
  (← IO.getStderr).putStr output.error
  return output.code.toUInt32
