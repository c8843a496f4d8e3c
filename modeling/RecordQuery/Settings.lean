import RecordQuery.Error
import RecordQuery.Number.Integer
import RecordQuery.Text.Blank
import RecordQuery.Text.Pieces

/-!
# Settings

* `Host`, `parseHosts`: the nodes of a cluster and their list as text.
* `ClientSettings`: how a store is reached and how long its records live.
* `EngineSettings`: the names of the queues, and whether updates keep the types of bins.

`ClientSettings.fault?` and `EngineSettings.fault?` tell what makes settings unusable.
-/

namespace RecordQuery

/-! ## Hosts -/

structure Host where
  name : String
  port : UInt16
deriving DecidableEq, Repr

/-- The port of a node that is listed without one. -/
def defaultPort : UInt16 := 3000

def Host.display (host : Host) : String :=
  host.name ++ ":" ++ Nat.repr host.port.toNat

/-- Reads one entry of a list of nodes: a name, or a name and a port around a colon. -/
def Host.parse (entry : List Char) : Except Error Host :=
  match Text.cutAt ':' entry with
  | none => .ok { name := String.ofList entry, port := defaultPort }
  | some (name, port) =>
    let name := Text.trim name
    if name.isEmpty then
      .error (.invalidArgument ("missing host name in '" ++ String.ofList entry ++ "'"))
    else
      match Number.readUInt16? (Text.trim port) with
      | some port => .ok { name := String.ofList name, port }
      | none => .error (.invalidArgument ("invalid port in '" ++ String.ofList entry ++ "'"))

/-- The entries of a list of nodes: what stands between commas, without blanks around it, unless it
is blank. -/
def hostEntries (seeds : List Char) : List (List Char) :=
  ((seeds.splitOn ',').map Text.trim).filter fun entry => !entry.isEmpty

/-- Reads a list of nodes. It has one node at least, and one bad entry spoils it. -/
def parseHosts (seeds : List Char) : Except Error (List Host) := do
  let hosts ← (hostEntries seeds).mapM Host.parse
  if hosts.isEmpty then .error (.invalidArgument "no hosts given") else return hosts

/-! ## Client settings -/

/-- How a store is reached. -/
structure ClientSettings where
  hosts : List Host := [{ name := "localhost", port := defaultPort }]
  user : Option String := none
  password : Option String := none
  /-- Seconds that a written record lives; without it records live forever. -/
  defaultTtl : Option UInt32 := none
deriving DecidableEq, Repr, Inhabited

namespace ClientSettings

/-- User and password, if neither is missing or empty. -/
def credentials? (settings : ClientSettings) : Option (String × String) :=
  match settings.user, settings.password with
  | some user, some password => if user = "" ∨ password = "" then none else some (user, password)
  | _, _ => none

def fault? (settings : ClientSettings) : Option String :=
  if settings.hosts.isEmpty then some "at least one host is required"
  else if settings.hosts.any fun host => Text.allBlank host.name.toList then
    some "host names must not be empty"
  else if settings.defaultTtl = some 0 then some "default_ttl must be greater than 0 when set"
  else none

def validated (settings : ClientSettings) : Except Error ClientSettings :=
  match settings.fault? with
  | some fault => .error (.invalidArgument fault)
  | none => .ok settings

end ClientSettings

/-! ## Engine settings -/

/-- How requests are run. -/
structure EngineSettings where
  queryQueue : String := "aqlite-query"
  writeQueue : String := "aqlite-write"
  delivery : String := "aqlite-delivery"
  /-- Whether an update reads its values as the types that the bins have. -/
  narrowUpdates : Bool := true
deriving DecidableEq, Repr, Inhabited

namespace EngineSettings

def withThreadNames (settings : EngineSettings) (beginning : String) : EngineSettings :=
  { settings with
    queryQueue := beginning ++ "-query"
    writeQueue := beginning ++ "-write"
    delivery := beginning ++ "-delivery" }

def fault? (settings : EngineSettings) : Option String :=
  if [settings.queryQueue, settings.writeQueue, settings.delivery].contains "" then
    some "thread names must not be empty"
  else if settings.queryQueue = settings.writeQueue then
    some "query and write queues must have distinct names"
  else none

def validated (settings : EngineSettings) : Except Error EngineSettings :=
  match settings.fault? with
  | some fault => .error (.invalidArgument fault)
  | none => .ok settings

end EngineSettings

end RecordQuery
