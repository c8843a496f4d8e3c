import RecordQuery.Request

/-!
# Dot-commands

The commands of a shell that are no statements. They begin with a point and take one line.

* `DotCommand.parse`: the command of a line.
* `isComplete`: whether what was typed so far is to be run.
-/

namespace RecordQuery.Shell

inductive DotCommand where
  | help
  | exit
  | format (name : Option String)
  | timer (value : Option String)
  | clear
  | connect
  | disconnect
  | run (request : Request)
  /-- A known command with the wrong number of arguments, and how it is used. -/
  | usage (text : String)
  | unknown (name : String)
deriving DecidableEq, Repr

def DotCommand.ofWords (name : String) (arguments : List String) : DotCommand :=
  match name, arguments with
  | ".help", _ => .help
  | ".exit", _ => .exit
  | ".quit", _ => .exit
  | ".format", _ => .format arguments.head?
  | ".timer", _ => .timer arguments.head?
  | ".clear", _ => .clear
  | ".connect", _ => .connect
  | ".disconnect", _ => .disconnect
  | ".namespaces", _ => .run .catalogue
  | ".browse", [space] => .run (.browse space none)
  | ".browse", [space, set] => .run (.browse space (some set))
  | ".browse", _ => .usage ".browse <namespace> [set]"
  | ".delete", [space, set, user] => .run (.deleteRecord ⟨space, set, user⟩)
  | ".delete", _ => .usage ".delete <namespace> <set> <key>"
  | ".edit", space :: set :: user :: bin :: first :: others =>
    .run (.editBin ⟨space, set, user⟩ bin (" ".intercalate (first :: others)))
  | ".edit", _ => .usage ".edit <namespace> <set> <key> <bin> <value>"
  | ".truncate", [space, set] => .run (.truncate ⟨space, set⟩)
  | ".truncate", _ => .usage ".truncate <namespace> <set>"
  | name, _ => .unknown name

def DotCommand.parse (line : List Char) : DotCommand :=
  match (Text.words line).map String.ofList with
  | [] => .unknown ""
  | name :: arguments => .ofWords name arguments

/-- Whether a text is to be run: a dot-command at once, a statement when it ends in a semicolon. -/
def isComplete (buffer : List Char) : Bool :=
  buffer.head? == some '.' || (Text.trimEnd buffer).getLast? == some ';'

end RecordQuery.Shell
