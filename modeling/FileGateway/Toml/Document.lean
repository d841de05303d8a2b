import FileGateway.Decimal.Binary64

/-! # TOML documents

A document is a table built line by line. A table is *implicit* while only its contents have been
mentioned, and *dotted* when dotted keys made it; the two marks decide which later lines may still
extend it. Inline tables and arrays are closed values. Entries keep the order of their insertion,
and a table opened by a header is inserted when the next header or the end of the document closes
it.
-/

namespace FileGateway.Toml

abbrev Key := String

/-- A value, as much of it as its kind shows. -/
inductive Value
  | text (content : String)
  | integer (value : Int)
  | float (value : Binary64)
  | boolean (value : Bool)
  /-- A date, a time or both. -/
  | moment
  | array
  | inlineTable
deriving DecidableEq, Repr

inductive Node
  | value (value : Value)
  | table (implicit dotted : Bool) (entries : List (Key × Node))
  /-- An array of tables; headers reach its last member. -/
  | tables (members : List Node)

namespace Node

def entries : Node → List (Key × Node)
  | .table _ _ entries => entries
  | _ => []

/-- Sets an entry, in its old place if the key is there and at the end otherwise. -/
def setEntry (key : Key) (node : Node) : List (Key × Node) → List (Key × Node)
  | [] => [(key, node)]
  | entry :: rest =>
    if entry.1 = key then (key, node) :: rest else entry :: setEntry key node rest

/-- Changes the table that a path of keys leads to, making implicit tables on the way. Dotted keys
only pass through implicit tables, headers through any table and through the last member of an
array of tables. -/
def modifyAt (dotted : Bool) (change : Node → Option Node) : List Key → Node → Option Node
  | [], node => change node
  | key :: path, .table implicit wasDotted entries =>
    let put := fun child => Node.table implicit wasDotted (setEntry key child entries)
    match entries.lookup key with
    | none => (modifyAt dotted change path (.table true dotted [])).map put
    | some (.table childImplicit childDotted childEntries) =>
      if dotted ∧ ¬ childImplicit then none
      else (modifyAt dotted change path (.table childImplicit childDotted childEntries)).map put
    | some (.tables members) =>
      match members.getLast? with
      | none => none
      | some last =>
        (modifyAt dotted change path last).map fun changed =>
          put (.tables (members.dropLast ++ [changed]))
    | some (.value _) => none
  | _ :: _, _ => none

/-- Adds a value under a dotted key. The table that receives it must have been made by dotted keys
exactly when the key has a path in front, and the last part must be new. -/
def addPair (path : List Key) (key : Key) (value : Value) : Node → Option Node :=
  modifyAt true (fun node =>
    match node with
    | .table implicit dotted entries =>
      if dotted = path.isEmpty then none
      else if (entries.lookup key).isSome then none
      else some (.table implicit dotted (entries ++ [(key, .value value)]))
    | _ => none) path

def emptyTable : Node := .table false false []

end Node

/-- One line of a document that says something. -/
inductive Line
  | pair (path : List Key) (key : Key) (value : Value)
  | header (path : List Key) (key : Key)
  | arrayHeader (path : List Key) (key : Key)
deriving Repr

/-- The table that lines currently go to. -/
inductive Place
  | top
  | table (path : List Key) (key : Key)
  | member (path : List Key) (key : Key)

/-- A document being read: all closed tables, and the open one with its place. -/
structure Draft where
  root : Node
  current : Node
  place : Place

namespace Draft

def start : Draft := ⟨.emptyTable, .emptyTable, .top⟩

/-- Puts the open table into its place. -/
def close (draft : Draft) : Option Node :=
  match draft.place with
  | .top => some draft.current
  | .table path key =>
    draft.root.modifyAt false (fun node =>
      match node with
      | .table implicit dotted entries =>
        some (.table implicit dotted (entries ++ [(key, draft.current)]))
      | _ => none) path
  | .member path key =>
    draft.root.modifyAt false (fun node =>
      match node with
      | .table implicit dotted entries =>
        match entries.lookup key with
        | some (.tables members) =>
          some (.table implicit dotted
            (Node.setEntry key (.tables (members ++ [draft.current])) entries))
        | _ => none
      | _ => none) path

/-- The entry under a key, and the entries without it. -/
def takeEntry (key : Key) (entries : List (Key × Node)) : Option Node × List (Key × Node) :=
  (entries.lookup key, entries.filter (fun entry => entry.1 != key))

/-- The table found at a path. -/
def tableAt? : List Key → Node → Option Node
  | [], node => some node
  | key :: path, node =>
    match node.entries.lookup key with
    | some (.tables members) => members.getLast?.bind (tableAt? path)
    | some child => tableAt? path child
    | none => none

def add (draft : Draft) : Line → Option Draft
  | .pair path key value =>
    (draft.current.addPair path key value).map fun current => { draft with current }
  | .header path key => do
    let closed ← draft.close
    let opened ← closed.modifyAt false some path
    let parent ← tableAt? path opened
    let (old, rest) := takeEntry key parent.entries
    let current ← match old with
      | none => some Node.emptyTable
      | some (.table true false entries) => some (.table false false entries)
      | some _ => none
    let root ← opened.modifyAt false (fun node =>
      match node with
      | .table implicit dotted _ => some (.table implicit dotted rest)
      | _ => none) path
    some ⟨root, current, .table path key⟩
  | .arrayHeader path key => do
    let closed ← draft.close
    let root ← closed.modifyAt false (fun node =>
      match node with
      | .table implicit dotted entries =>
        match entries.lookup key with
        | none => some (.table implicit dotted (entries ++ [(key, .tables [])]))
        | some (.tables _) => some node
        | some _ => none
      | _ => none) path
    some ⟨root, .emptyTable, .member path key⟩

end Draft

/-- The top-level entries of a document, in order; `none` if a line breaks the rules of tables. -/
def Document.ofLines? (lines : List Line) : Option (List (Key × Node)) := do
  let draft ← lines.foldlM Draft.add Draft.start
  let root ← draft.close
  some root.entries

end FileGateway.Toml
