import RecordQuery.Engine
import RecordQuery.Output
import RecordQuery.Shell.Completion
import RecordQuery.Shell.DotCommand
import RecordQuery.Store.Seed
import RecordQuery.Text.Cluster

/-!
# The shell

A shell reads lines and runs what they make up. A statement may take several lines and runs once a
line ends in a semicolon.

* `Session`: an engine over a store in memory, which runs one request at a time.
* `Shell.feed`: what a line does to the text that is typed so far.
* `Shell.step`: what a line does to the shell and what is printed for it.
* `Shell.runAll`: what is printed for a whole input.
-/

namespace RecordQuery

/-! ## Sessions -/

/-- An engine over a store in memory, and the requests that were submitted to it. -/
structure Session where
  engine : Engine Store
  submitted : List Request := []

namespace Session

def start (store : Store) : Except Error Session :=
  (Engine.start Store.client {} store).map fun engine => { engine }

def submit (session : Session) (request : Request) : Except Error QueueKind × Session :=
  let (answer, engine) := session.engine.submit request
  (answer, { engine, submitted := session.submitted ++ [request] })

def run (session : Session) (request : Request) : List Delivery × Session :=
  match session.submit request with
  | (.ok _, session) =>
    let (deliveries, engine) := session.engine.settle.receive
    (deliveries, { session with engine })
  | (.error e, session) => ([.error e.message], session)

def setConnected (session : Session) (connected : Bool) : Session :=
  let workspace := session.engine.workspace
  let store := { workspace.store with connected }
  { session with engine := { session.engine with workspace := { workspace with store } } }

end Session

/-! ## The shell -/

structure Shell where
  session : Session
  format : OutputFormat
  /-- Whether the time of each request is printed. -/
  timing : Bool := true
  /-- The lines of a statement that is not complete yet. -/
  buffer : List Char := []

inductive Shell.Input where
  /-- More lines have to follow, after the given text. -/
  | incomplete (buffer : List Char)
  | dotCommand (text : List Char)
  | statement (text : List Char)
deriving DecidableEq, Repr

namespace Shell

/-- Adds a line, without the blanks around it, to the text that is typed so far. -/
def feed (buffer line : List Char) : Input :=
  let line := Text.trim line
  let text := if buffer.isEmpty then line else buffer ++ ' ' :: line
  if text.isEmpty || !isComplete text then .incomplete text
  else if text.head? == some '.' then .dotCommand text
  else .statement text

def welcome : List Emission :=
  ["", "AQL-lite interactive shell", "  Store: in-memory store",
    "  Tip: End statements with ;. Type .help for commands.", ""].map .line

def help : List Emission :=
  ["",
    "Available Commands:",
    "",
    "  Meta-commands:",
    "    .help                                 Show this help message",
    "    .exit, .quit                          Exit the shell",
    "    .format <type>                        Set output format (table|json|jsonl|csv)",
    "    .timer <on|off>                       Toggle timing display",
    "    .clear                                Clear the screen",
    "    .namespaces                           List namespaces and sets",
    "    .browse <ns> [set]                    Scan a namespace or set",
    "    .delete <ns> <set> <key>              Delete one record",
    "    .edit <ns> <set> <key> <bin> <value>  Overwrite one bin",
    "    .truncate <ns> <set>                  Delete every record of a set",
    "    .connect, .disconnect                 Attach or detach the in-memory store",
    "",
    "  AQL Statements:",
    "    SELECT * FROM test.users;",
    "    SELECT name, age FROM test.users WHERE age = 30;",
    "    INSERT INTO test.users (Pk, name, age) VALUES ('u1', 'Ann', 30);",
    "    UPDATE test.users SET age = 31 WHERE pk = 'u1';",
    "    DELETE FROM test.users WHERE name = 'Ann';",
    "",
    "  Keyboard Shortcuts:",
    "    Ctrl+C             Cancel current input",
    "    Ctrl+D             Exit shell",
    "    Tab                Autocomplete commands and keywords",
    ""].map .line

def runRequest (shell : Shell) (request : Request) : List Emission × Shell :=
  let (deliveries, session) := shell.session.run request
  (emit shell.format deliveries ++ (if shell.timing then [.elapsed] else []),
    { shell with session })

/-- Shows or sets the format. -/
def setFormat (shell : Shell) : Option String → List Emission × Shell
  | none =>
    ([.line "Usage: .format <table|json|jsonl|csv>",
      .line ("Current format: " ++ shell.format.display)], shell)
  | some name =>
    match OutputFormat.parse? name.toList with
    | some format => ([.line ("Output format set to: " ++ format.display)], { shell with format })
    | none => ([.line ("Invalid format: " ++ name ++ ". Use: table, json, jsonl or csv")], shell)

def setTimer (shell : Shell) : Option String → List Emission × Shell
  | none =>
    ([.line "Usage: .timer <on|off>",
      .line ("Current: " ++ (if shell.timing then "on" else "off"))], shell)
  | some value =>
    let value := String.ofList (Text.lower value.toList)
    if ["on", "true", "1"].contains value then
      ([.line "Timer enabled"], { shell with timing := true })
    else if ["off", "false", "0"].contains value then
      ([.line "Timer disabled"], { shell with timing := false })
    else ([.line ("Invalid value: " ++ value ++ ". Use: on or off")], shell)

/-- Runs a dot-command. There is no shell after the one that leaves it. -/
def runDotCommand (shell : Shell) : DotCommand → List Emission × Option Shell
  | .help => (help, shell)
  | .exit => ([], none)
  | .format name => (shell.setFormat name).map id some
  | .timer value => (shell.setTimer value).map id some
  | .clear => ([.out "\x1b[2J\x1b[1;1H"], shell)
  | .connect =>
    ([.line "Connected to the in-memory store"],
      some { shell with session := shell.session.setConnected true })
  | .disconnect =>
    ([.line "Disconnected from the in-memory store"],
      some { shell with session := shell.session.setConnected false })
  | .run request => (shell.runRequest request).map id some
  | .usage text => ([.line ("Usage: " ++ text)], shell)
  | .unknown name =>
    ([.line ("Unknown command: " ++ name), .line "Type .help for available commands"], shell)

/-- What a line does to a shell. -/
def step (shell : Shell) (line : List Char) : List Emission × Option Shell :=
  match feed shell.buffer line with
  | .incomplete buffer => ([], some { shell with buffer })
  | .dotCommand text => { shell with buffer := [] }.runDotCommand (.parse text)
  | .statement text =>
    ({ shell with buffer := [] }.runRequest (.statement (String.ofList text))).map id some

/-- What is printed for lines up to the one that leaves the shell, and the shell after them, if none of
them leaves it. -/
def steps (shell : Shell) : List (List Char) → List Emission × Option Shell
  | [] => ([], some shell)
  | line :: rest =>
    match shell.step line with
    | (emissions, some shell) =>
      let (more, last) := steps shell rest
      (emissions ++ more, last)
    | (emissions, none) => (emissions, none)

def farewell : List Emission :=
  [.line ""]

/-- The lines of an input, without what their backspaces take back. The last one need not end in a
line break. -/
def inputLines (input : List Char) : List (List Char) :=
  let lines := input.splitOn '\n'
  (if lines.getLast? = some [] then lines.dropLast else lines).map Text.erase

/-- What is printed for a whole input. -/
def runAll (shell : Shell) (input : List Char) : List Emission :=
  welcome ++ (shell.steps (inputLines input)).1 ++ farewell

end Shell

end RecordQuery
