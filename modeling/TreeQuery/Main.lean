import TreeQuery.CommandLine

/-!
# The program

Reads the file that the command line names, prints the outcome and exits with its status.
-/

open TreeQuery

/-- The content of a file, unless it cannot be read as text. -/
def contentOf (name : Text) : IO (Option Text) := do
  try
    return some (← IO.FS.readFile name.asString).toList
  catch _ =>
    return none

/-- Prints what arguments lead to. -/
def main (args : List String) : IO UInt32 := do
  let args := args.map String.toList
  let content ← match CommandLine.parse args with
    | .ok (.search o) => contentOf o.file
    | .ok _ => pure none
    | .error e =>
      IO.eprintln ("error: " ++ e.message.asString)
      pure none
  let outcome := CommandLine.run args fun _ => content
  IO.print outcome.output.asString
  match outcome.error with
  | some e => IO.eprintln ("Error: " ++ (CommandLine.report e).asString)
  | none => pure ()
  return UInt32.ofNat outcome.status
