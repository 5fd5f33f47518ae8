import TemporalQuery.CommandLine.Check

/-!
# The program

Looks up the files that the arguments name and prints what `CommandLine.run` says.
-/

namespace TemporalQuery.CommandLine

def look (path : String) : IO Stored := do
  try
    return .file (← IO.FS.readBinFile path).toList
  catch
    | .noFileOrDirectory .. => return .missing
    | .inappropriateType _ code _ => return if code = 21 then .directory else .missing
    | e => return .unreadable (toString e)

end TemporalQuery.CommandLine

open TemporalQuery.CommandLine in
def main (arguments : List String) : IO UInt32 := do
  let files := match Settings.parse arguments with
    | .ok s => s.files.filterMap id
    | .error _ => []
  let found ← files.mapM fun path => return (path, ← look path)
  let outcome := run arguments fun path => (found.lookup path).getD .missing
  IO.print outcome.stdout
  IO.eprint outcome.stderr
  return outcome.exitCode.toUInt32
