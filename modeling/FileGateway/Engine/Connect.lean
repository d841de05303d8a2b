import FileGateway.Engine

/-! # Connecting and opening through the engine

Every call here leaves what it made in a local reference of the calling thread.
-/

namespace FileGateway.Engine

/-- Makes a cluster reachable at an address. Says whether something else was before. -/
def register (authority : String) (factory : Factory) : EngineAction Bool :=
  modifyGet fun engine =>
    (engine.factories.contains authority,
      { engine with factories := engine.factories.insert authority factory })

/-- Forgets an address. Says whether it was known. -/
def unregister (authority : String) : EngineAction Bool :=
  modifyGet fun engine =>
    (engine.factories.contains authority,
      { engine with factories := engine.factories.erase authority })

def setConfiguration (conf : Configuration) : EngineAction Unit :=
  modify fun engine => { engine with conf }

/-- A new client for what answers at an address. -/
def connectRemote (host : String) (port : UInt16) : EngineAction Nat := do
  let authority := Target.authority host port
  match (← get).factories.get? authority with
  | some factory => onStorage (Storage.connectCluster factory.cluster authority factory.script)
  | none => raise (.refused authority)

/-- A new client for a target. The configured name is never the default target itself. -/
def connect (target : Target) : EngineAction Nat := do
  let conf := (← get).conf
  let target ← match target with
    | .default => answerOf (Target.ofDefaultName conf.defaultName)
    | .local | .remote _ _ => pure target
  match target with
  | .local | .default => onStorage (Storage.localClient conf)
  | .remote host port => connectRemote host port

/-- A client in a local reference. -/
def getFileSystem (thread : Nat) (target : Target) : EngineAction Reference := do
  newLocal thread (.fileSystem (← connect target))

/-- Asks the client behind a reference and puts the answer into a local reference. -/
def keep {α : Type} (thread : Nat) (reference : Reference) (wrap : α → Object)
    (action : Nat → Action α) : EngineAction Reference := do
  let client ← fileSystem thread reference
  newLocal thread (wrap (← onStorage (action client)))

def openReader (thread : Nat) (reference : Reference) (path : Path) (bufferSize : UInt64) :
    EngineAction Reference :=
  keep thread reference .inputStream (Storage.openReader · path bufferSize)

def createWriter (thread : Nat) (reference : Reference) (path : Path) (options : CreateOptions) :
    EngineAction Reference :=
  keep thread reference .outputStream (Storage.createWriter · path options)

def status (thread : Nat) (reference : Reference) (path : Path) : EngineAction Reference :=
  keep thread reference .fileStatus (Storage.status · path)

def list (thread : Nat) (reference : Reference) (path : Path) : EngineAction Reference :=
  keep thread reference .fileStatuses (Storage.list · path)

def blockLocations (thread : Nat) (reference : Reference) (path : Path) (start length : UInt64) :
    EngineAction Reference :=
  keep thread reference .blockLocations (Storage.blockLocations · path start length)

/-! ## Texts -/

/-- An object as a text. -/
def objectText (object : Object) : EngineAction String :=
  match object with
  | .fileSystem client => do
    let uri ← onStorage (Storage.uri client)
    return s!"FileSystem({Quoted.text uri})"
  | .fileStatus status => return s!"FileStatus({status.text})"
  | .fileStatuses statuses => return s!"FileStatusArray({statuses.length})"
  | .blockLocations blocks => return s!"BlockLocations({blocks.length})"
  | .inputStream _ | .outputStream _ => return object.className

/-- The engine as a record text, with the known addresses in order. -/
def text (engine : Engine) : String :=
  let authorities := ", ".intercalate (engine.factories.keys.map Quoted.text)
  recordText "Runtime"
    [("conf", engine.conf.text), ("live_globals", toString engine.liveGlobals),
     ("authorities", s!"[{authorities}]")]

end FileGateway.Engine
