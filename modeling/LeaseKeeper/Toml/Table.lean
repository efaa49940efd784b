/-
  Building tables.

  A TOML document is a list of statements: headers and assignments.  Each names a path of keys from
  the table it is about.  Tables on the way come to be when they are first named, and a name may
  not be given a second meaning:

    * a key is assigned once;
    * a table has one header, and none if a dotted key named it;
    * a dotted key adds only to tables that no header made;
    * an inline table is closed.
-/
import LeaseKeeper.Toml.Basic

namespace LeaseKeeper.Toml

/-- The entry under a key. -/
def get? (key : String) (es : Entries) : Option Toml := es.lookup key

/-- Replace the entry under a key, or add one at the end. -/
def set (key : String) (v : Toml) : Entries → Entries
  | [] => [(key, v)]
  | (k, w) :: es => if k = key then (k, v) :: es else (k, w) :: set key v es

/-- **Change the table that a path leads to.**  Tables on the way that do not exist come to be with
    the origin `origin`; a list of tables stands for its last element. -/
def modifyAt (origin : TableOrigin) (f : TableOrigin → Entries → Option Entries)
    (own : TableOrigin) : (path : List String) → Entries → Option Entries
  | [], es => f own es
  | key :: path, es =>
    match get? key es with
    | none => (modifyAt origin f origin path []).map fun es' => set key (.table origin es') es
    | some (.table .inline _) => none
    | some (.table o es') =>
      if origin = .dotted ∧ o = .header then none
      else (modifyAt origin f o path es').map fun es'' => set key (.table o es'') es
    | some (.tables elements) =>
      match elements.getLast? with
      | some (.table o es') =>
        (modifyAt origin f o path es').map fun es'' =>
          set key (.tables (elements.dropLast ++ [.table o es''])) es
      | _ => none
    | some _ => none

/-- Give a key its value. -/
def assignKey (key : String) (v : Toml) (es : Entries) : Option Entries :=
  if (get? key es).isSome then none else some (set key v es)

/-- **Assign a dotted key** in a table.  The table it ends in must have been made by dotted keys. -/
def assign (own : TableOrigin) (path : List String) (key : String) (v : Toml) (es : Entries) :
    Option Entries :=
  modifyAt .dotted (fun o es =>
    if (o == .dotted) == path.isEmpty then none else assignKey key v es) own path es

/-- **Open a table with a header.** -/
def openTable (path : List String) (key : String) (root : Entries) : Option Entries :=
  modifyAt .implied (fun _ es =>
    match get? key es with
    | none => some (set key (.table .header []) es)
    | some (.table .implied es') => some (set key (.table .header es') es)
    | some _ => none) .header path root

/-- **Begin another element of a list of tables.** -/
def openElement (path : List String) (key : String) (root : Entries) : Option Entries :=
  modifyAt .implied (fun _ es =>
    match get? key es with
    | none => some (set key (.tables [.table .header []]) es)
    | some (.tables elements) => some (set key (.tables (elements ++ [.table .header []])) es)
    | some _ => none) .header path root

/-- **A statement of a document.** -/
inductive Statement where
  | header (path : List String) (key : String)
  | element (path : List String) (key : String)
  | assignment (path : List String) (key : String) (value : Toml)
  deriving Inhabited

/-- **A document under construction**: the root table and the path of the table that assignments are
    about. -/
structure Document where
  root : Entries
  current : List String
  deriving Inhabited

/-- One more statement; `none` if it contradicts an earlier one. -/
def Document.add (d : Document) : Statement → Option Document
  | .header path key => (openTable path key d.root).map fun root => ⟨root, path ++ [key]⟩
  | .element path key => (openElement path key d.root).map fun root => ⟨root, path ++ [key]⟩
  | .assignment path key v =>
    (modifyAt .implied (fun own es => assign own path key v es) .header d.current d.root).map
      fun root => ⟨root, d.current⟩

/-- **The root table of a list of statements.** -/
def ofStatements (statements : List Statement) : Option Toml :=
  (statements.foldlM Document.add ⟨[], []⟩).map fun d => .table .header d.root

/-- The inline table of a list of assignments. -/
def ofAssignments (assignments : List (List String × String × Toml)) : Option Toml :=
  (assignments.foldlM (fun es a => assign .inline a.1 a.2.1 a.2.2 es) []).map (.table .inline ·)

end LeaseKeeper.Toml
