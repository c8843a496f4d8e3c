import RecordQuery.CommandLine

/-!
# The program

Reads the arguments, the seed file and the lines of a shell, and prints what the library says.
-/

namespace RecordQuery

def Emission.print (elapsedNanos : Nat) : Emission → IO Unit
  | .out text => do
    IO.print text
    (← IO.getStdout).flush
  | .err text => IO.eprint text
  | .elapsed => do
    let hundredths := elapsedNanos / 10000
    let fraction := hundredths % 100
    let filler := if fraction < 10 then "0" else ""
    IO.println s!"({hundredths / 100}.{filler}{fraction}ms)"

def printAll (emissions : List Emission) (elapsedNanos : Nat) : IO Unit :=
  emissions.forM (Emission.print elapsedNanos)

/-- Reads lines until a shell is left or the input ends. -/
partial def interact (shell : Shell) : IO Unit := do
  let line ← (← IO.getStdin).getLine
  if !line.isEmpty then
    let start ← IO.monoNanosNow
    let (emissions, next) := shell.step (Text.erase line.toList)
    printAll emissions ((← IO.monoNanosNow) - start)
    if let some shell := next then
      interact shell

def readSeed (path : String) : IO (Except String String) := do
  match ← (IO.FS.readFile path).toBaseIO with
  | .ok content => return .ok content
  | .error (.noFileOrDirectory _ _ _) => return .error "No such file or directory (os error 2)"
  | .error e => return .error (toString e)

/-- Runs what an invocation asks for and yields the exit code. -/
def Invocation.main (invocation : Invocation) : IO UInt32 := do
  let content ← match invocation.seed with
    | some path => readSeed path
    | none => pure (.error "")
  match invocation.openSession fun _ => content with
  | .error failure =>
    printAll failure.emit 0
    return 1
  | .ok session =>
    match invocation.task with
    | .request request =>
      let (emissions, code) := invocation.runRequest session request
      printAll emissions 0
      return code
    | .shell =>
      printAll Shell.welcome 0
      interact { session, format := invocation.format }
      printAll Shell.farewell 0
      return 0

end RecordQuery

def main (arguments : List String) : IO UInt32 :=
  match RecordQuery.Invocation.parse arguments with
  | .error message => do
    IO.eprintln ("error: " ++ message)
    return 2
  | .ok invocation => invocation.main
