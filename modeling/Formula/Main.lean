import Formula.Command.Run

/-!
The program: it reads the file that its arguments name, prints what the library reports, and ends
with the number that belongs to it.
-/

set_option autoImplicit false

open Formula

/-- What the file system holds at a path; what can not be read counts as missing. -/
def readContent (path : String) : IO FileContent :=
  try
    return .bytes (← IO.FS.readBinFile path)
  catch _ => return .missing

def namedFile? (arguments : List String) : Option String :=
  match Command.readCommandLine arguments with
  | .run _ _ request => request.varsFile
  | _ => none

def showWarnings (notices : List Notice) : IO Unit :=
  for w in notices.filterMap Notice.warning? do
    IO.eprintln w.text

def main (arguments : List String) : IO UInt32 := do
  let content ← match namedFile? arguments with
    | some path => readContent path
    | none => pure .missing
  match Command.runCommandLine (fun _ => content) arguments with
  | .usage =>
    IO.eprintln "Usage: formula [-v] (eval | validate | rpn) [OPTIONS] EXPRESSION"
    return 2
  | .told text =>
    IO.println text
    return 0
  | .ran verbose outcome =>
    showWarnings outcome.notices
    let report := outcome.report verbose
    IO.print report.output
    IO.eprint report.errors
    return UInt32.ofNat report.exit
