import PhraseFilter.Toml.Basic

/-!
# Putting a TOML document together

A document is a list of sections, each with a header and the entries below it. While it is put together,
a table remembers how it came about: by a header, as part of the path of a header, or by a key with dots.
A header may complete only a table of the second kind, and a key with dots only one of the third.

* `Node.put?`: adds one entry.
* `addSection?`, `ofSections?`: adds a section, and all sections.
-/

namespace PhraseFilter.Toml

/-- How a table came about. -/
inductive Origin
  | header
  | path
  | dotted
  deriving Repr, DecidableEq

/-- A part of a document that is being put together. -/
inductive Node
  | value (v : Toml)
  | table (origin : Origin) (entries : List (String × Node))
  /-- An array of tables that have headers of their own, the latest first. -/
  | tables (items : List (List (String × Node)))
  deriving Repr, Inhabited

namespace Node

abbrev Entries := List (String × Node)

def find? (key : String) (entries : Entries) : Option Node :=
  (entries.find? (·.1 == key)).map (·.2)

def set (key : String) (node : Node) : Entries → Entries
  | [] => [(key, node)]
  | (k, old) :: rest => if k = key then (key, node) :: rest else (k, old) :: set key node rest

/-- Adds an entry to a table of the given origin, which has to have come about by dots exactly when the
path that led to it has dots. -/
def putHere? (isDotted : Bool) (pathLeft : Bool) (key : String) (v : Toml) (entries : Entries) :
    Option Entries :=
  if isDotted != pathLeft then none
  else if (find? key entries).isSome then none
  else some (entries ++ [(key, .value v)])

/-- Adds an entry below a path of keys. `isDotted` says whether this table came about by dots, and
`isBelow` whether part of the path lies behind. -/
def put? (isDotted isBelow : Bool) (path : List String) (key : String) (v : Toml)
    (entries : Entries) : Option Entries :=
  match path with
  | [] => putHere? isDotted isBelow key v entries
  | k :: path =>
    match find? k entries with
    | none => (put? true true path key v []).map fun es => set k (.table .dotted es) entries
    | some (.value _) => none
    | some (.table .header _) => none
    | some (.table origin es) =>
      (put? (origin == .dotted) true path key v es).map fun es => set k (.table origin es) entries
    | some (.tables []) => none
    | some (.tables (item :: items)) =>
      (put? false true path key v item).map fun es => set k (.tables (es :: items)) entries

/-- Changes the table below a path of keys of headers; tables on the way come about as needed. -/
def update? (f : Entries → Option Entries) : (path : List String) → Entries → Option Entries
  | [], entries => f entries
  | k :: path, entries =>
    match find? k entries with
    | none => (update? f path []).map fun es => set k (.table .path es) entries
    | some (.value _) => none
    | some (.table origin es) => (update? f path es).map fun es => set k (.table origin es) entries
    | some (.tables []) => none
    | some (.tables (item :: items)) =>
      (update? f path item).map fun es => set k (.tables (es :: items)) entries

mutual

def toToml : Node → Toml
  | .value v => v
  | .table _ entries => .table (entriesToToml entries)
  | .tables items => .array (itemsToToml items).reverse

def entriesToToml : List (String × Node) → List (String × Toml)
  | [] => []
  | (key, node) :: rest => (key, toToml node) :: entriesToToml rest

/-- The values of an array of tables. -/
def itemsToToml : List (List (String × Node)) → List Toml
  | [] => []
  | entries :: rest => .table (entriesToToml entries) :: itemsToToml rest

end

end Node

/-- An entry as it is written: the path of its key, the last part of it, and the value. -/
structure Entry where
  path : List String
  key : String
  value : Toml
  deriving Repr

inductive Header
  | none
  | table (path : List String) (key : String)
  /-- One more table of an array, with its path and key. -/
  | item (path : List String) (key : String)
  deriving Repr, DecidableEq

/-- A header with the entries below it. -/
structure Section where
  header : Header
  entries : List Entry
  deriving Repr

/-- Adds entries to a table that has a header or braces of its own. -/
def putAll? (entries : List Entry) (start : Node.Entries) : Option Node.Entries :=
  entries.foldlM (fun es e => Node.put? false false e.path e.key e.value es) start

/-- The table of a section with a header, at its key. -/
def addTable? (key : String) (entries : List Entry) (parent : Node.Entries) : Option Node.Entries :=
  match Node.find? key parent with
  | none => (putAll? entries []).map fun es => parent ++ [(key, .table .header es)]
  | some (.table .path start) =>
    (putAll? entries start).map fun es => Node.set key (.table .header es) parent
  | some _ => none

/-- One more table of an array, at its key. -/
def addItem? (key : String) (entries : List Entry) (parent : Node.Entries) : Option Node.Entries :=
  match Node.find? key parent with
  | none => (putAll? entries []).map fun es => parent ++ [(key, .tables [es])]
  | some (.tables items) =>
    (putAll? entries []).map fun es => Node.set key (.tables (es :: items)) parent
  | some _ => none

def addSection? (root : Node.Entries) (s : Section) : Option Node.Entries :=
  match s.header with
  | .none => putAll? s.entries root
  | .table path key => Node.update? (addTable? key s.entries) path root
  | .item path key => Node.update? (addItem? key s.entries) path root

def ofSections? (sections : List Section) : Option (List (String × Toml)) :=
  (sections.foldlM addSection? []).map Node.entriesToToml

def ofBraces? (entries : List Entry) : Option Toml :=
  (putAll? entries []).map fun es => .table (Node.entriesToToml es)

end PhraseFilter.Toml
