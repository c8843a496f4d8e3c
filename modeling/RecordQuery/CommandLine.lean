import RecordQuery.Json.Reader
import RecordQuery.Shell

/-!
# The command line

* `Invocation.parse`: what the arguments ask for.
* `Invocation.openSession`: a session on a store with the given settings and seed.
* `Invocation.runRequest`: what is printed for a single request, and whether it met errors.
* `Invocation.execute`: what a whole invocation prints and its exit code.
-/

namespace RecordQuery

/-! ## Arguments -/

inductive Task where
  | request (request : Request)
  | shell
deriving DecidableEq, Repr

structure Invocation where
  ttl : Option UInt32 := none
  /-- The path of the file with the records to begin with. -/
  seed : Option String := none
  format : OutputFormat := .table
  task : Task
deriving DecidableEq, Repr

inductive CommandOption where
  | ttl
  | seed
  | output
deriving DecidableEq, Repr

def CommandOption.ofName? (name : List Char) : Option CommandOption :=
  if name = "ttl".toList then some .ttl
  else if name = "seed".toList then some .seed
  else if name = "output".toList then some .output
  else none

/-- Arguments sorted into options with their values and words. -/
structure Arguments where
  options : List (CommandOption × String) := []
  words : List String := []

namespace Arguments

def withOption (option : CommandOption) (value : String) (arguments : Arguments) : Arguments :=
  { arguments with options := (option, value) :: arguments.options }

def withWord (word : String) (arguments : Arguments) : Arguments :=
  { arguments with words := word :: arguments.words }

/-- What an argument is by itself: an option with its value, an option that takes the next argument
as its value, the mark after which all arguments are words, or a word. -/
inductive Form where
  | complete (option : CommandOption) (value : String)
  | awaiting (option : CommandOption)
  | mark
  | word
  | unknown

def Form.of (argument : List Char) : Form :=
  match argument with
  | ['-', '-'] => .mark
  | '-' :: '-' :: rest =>
    match Text.cutAt '=' rest with
    | some (name, value) =>
      match CommandOption.ofName? name with
      | some option => .complete option (String.ofList value)
      | none => .unknown
    | none =>
      match CommandOption.ofName? rest with
      | some option => .awaiting option
      | none => .unknown
  | ['-', 'o'] => .awaiting .output
  | '-' :: 'o' :: '=' :: value => .complete .output (String.ofList value)
  | '-' :: 'o' :: value => .complete .output (String.ofList value)
  | '-' :: _ :: _ => .unknown
  | _ => .word

def sort : List String → Except String Arguments
  | [] => .ok {}
  | argument :: rest =>
    match Form.of argument.toList with
    | .complete option value => (sort rest).map (withOption option value)
    | .awaiting option =>
      match rest with
      | value :: rest => (sort rest).map (withOption option value)
      | [] => .error ("a value is required for '" ++ argument ++ "' but none was supplied")
    | .mark => .ok { words := rest }
    | .word => (sort rest).map (withWord argument)
    | .unknown => .error ("unexpected argument '" ++ argument ++ "' found")

end Arguments

def Task.ofWords? : List String → Option Task
  | ["query", text] => some (.request (.statement text))
  | ["browse", space] => some (.request (.browse space none))
  | ["browse", space, set] => some (.request (.browse space (some set)))
  | ["namespaces"] => some (.request .catalogue)
  | ["delete", space, set, user] => some (.request (.deleteRecord ⟨space, set, user⟩))
  | ["edit", space, set, user, bin, value] =>
    some (.request (.editBin ⟨space, set, user⟩ bin value))
  | ["truncate", space, set] => some (.request (.truncate ⟨space, set⟩))
  | ["shell"] => some .shell
  | _ => none

namespace Invocation

/-- Reads a time to live in seconds. -/
def readTtl? (text : String) : Option UInt32 :=
  (Number.readInt? text.toList).bind fun n =>
    if 0 ≤ n ∧ n < UInt32.size then some (UInt32.ofNat n.toNat) else none

def withOption (invocation : Invocation) : CommandOption × String → Except String Invocation
  | (.ttl, value) =>
    match readTtl? value with
    | some seconds => .ok { invocation with ttl := some seconds }
    | none => .error ("invalid value '" ++ value ++ "' for '--ttl <TTL>'")
  | (.seed, value) => .ok { invocation with seed := some value }
  | (.output, value) =>
    match OutputFormat.ofName? value with
    | some format => .ok { invocation with format }
    | none => .error ("invalid value '" ++ value ++ "' for '--output <OUTPUT>'")

def parse (arguments : List String) : Except String Invocation := do
  let arguments ← Arguments.sort arguments
  match Task.ofWords? arguments.words with
  | some task => arguments.options.foldlM withOption { task }
  | none => .error "the command or its arguments are not known"

/-! ## Sessions -/

/-- Why a session could not be opened: what was tried, and what went wrong with it. -/
structure Failure where
  attempt : String
  cause : String
deriving DecidableEq, Repr

/-- A text with every line of it indented by four blanks. -/
def indented (text : String) : String :=
  "\n".intercalate ((text.toList.splitOn '\n').map fun line => "    " ++ String.ofList line)

/-- What is printed for a failure: the attempt, and indented below it the cause. -/
def Failure.emit (failure : Failure) : List Emission :=
  [.err ("Error: " ++ failure.attempt ++ "\n\nCaused by:\n" ++ indented failure.cause ++ "\n")]

/-- A value, or its error as the cause of a failure. -/
def attempting {α : Type} (attempt : String) : Except Error α → Except Failure α
  | .ok a => .ok a
  | .error e => .error { attempt, cause := e.message }

def loadSeed (store : Store) (path : String) (content : Except String String) :
    Except Failure Store := do
  let text ← content.mapError fun cause => ⟨"Failed to read seed file " ++ path, cause⟩
  match Json.read? text.toList with
  | none => .error ⟨"Seed file is not valid JSON", "the text is not a JSON value"⟩
  | some json =>
    match store.load json with
    | (.ok _, store) => return store
    | (.error e, _) => attempting "Failed to load seed data" (.error e.toError)

/-- Opens a session. Seed files are read by a function from paths to contents. -/
def openSession (invocation : Invocation) (contentOf : String → Except String String) :
    Except Failure Session := do
  let store ← attempting "Failed to open the in-memory store"
    (Store.connect { defaultTtl := invocation.ttl })
  let store ← match invocation.seed with
    | none => pure store
    | some path => loadSeed store path (contentOf path)
  attempting "Failed to start execution engine" (Session.start store)

/-! ## Running -/

/-- What is printed for a single request, and the exit code, which is one after errors. -/
def runRequest (invocation : Invocation) (session : Session) (request : Request) :
    List Emission × UInt32 :=
  let deliveries := (session.run request).1
  let errors := deliveries.countP Delivery.isError
  let printed := emit invocation.format deliveries
  if errors = 0 then (printed, 0)
  else (printed ++ [.err ("Error: " ++ counted errors "error" ++ " reported\n")], 1)

/-- What an invocation prints, given its standard input, and its exit code. -/
def run (invocation : Invocation) (contentOf : String → Except String String)
    (input : List Char) : List Emission × UInt32 :=
  match invocation.openSession contentOf with
  | .error failure => (failure.emit, 1)
  | .ok session =>
    match invocation.task with
    | .request request => invocation.runRequest session request
    | .shell => (Shell.runAll { session, format := invocation.format } input, 0)

/-- What arguments print, given the standard input, and the exit code, which is two if the arguments
cannot be read. -/
def execute (arguments : List String) (contentOf : String → Except String String)
    (input : List Char) : List Emission × UInt32 :=
  match parse arguments with
  | .error message => ([.err ("error: " ++ message ++ "\n")], 2)
  | .ok invocation => invocation.run contentOf input

end Invocation

end RecordQuery
