import NameAuction.Demo.Script
import Std.Time.DateTime.Timestamp

/-!
# The command line

Reads the settings of the demonstration from the environment, runs it, and shows what it has to show.
-/

namespace NameAuction.Main

def readParams : IO (Except Demo.Report (Option Demo.Document)) := do
  match ← IO.getEnv "NAMESERVICE_PARAMS" with
  | none => return .ok none
  | some path =>
    try
      return .ok (some ⟨path, ← IO.FS.readFile path⟩)
    catch e => return .error ⟨"Failed to read params file " ++ path, some (toString e)⟩

def readInput (params : Option Demo.Document) : IO Demo.Input := do
  let start ← match ← IO.getEnv "AUCTION_START" with
    | some start => pure start
    | none => do
      let now ← Std.Time.Timestamp.now
      pure (toString now.toSecondsSinceUnixEpoch.val)
  return ⟨params, start, ← IO.getEnv "AUCTION_NAME", ← IO.getEnv "GENESIS_OUT"⟩

def present (outcome : Demo.Outcome) (path : Option String) : IO Unit := do
  IO.print outcome.shown
  match path, outcome.saved with
  | some path, some text => IO.FS.writeFile path text
  | _, _ => pure ()
  match outcome.stop with
  | none => pure ()
  | some (.failed report) => IO.eprint report.render
  | some (.broken defect) => IO.eprintln defect.message

end NameAuction.Main

open NameAuction Main in
def main : IO UInt32 := do
  match ← readParams with
  | .error report =>
    IO.eprint report.render
    return 1
  | .ok params =>
    let input ← readInput params
    let outcome := Demo.run input
    present outcome input.genesisPath
    return outcome.exitCode.toUInt32
