import SelfCheck.Sorted
import SelfCheck.Tree

/-! TOML tables while they are being written.

A table may come to be in several places of a document, but no place may define again what another
one has defined. So a table remembers how it came to be.
-/

set_option autoImplicit false

namespace SelfCheck.Toml

inductive Origin where
  /-- By a header of its own. -/
  | header
  /-- On the way to a table with a header. -/
  | passed
  /-- On the way to a key with dots. -/
  | dotted
  deriving DecidableEq, Repr

inductive Entry where
  /-- Complete, such as a string, an array or a table in braces. -/
  | value (tree : Tree)
  | table (origin : Origin) (members : List (String × Entry))
  /-- Tables that share a header; the last one is in front. -/
  | tables (last : List (String × Entry)) (earlier : List (List (String × Entry)))
  deriving Inhabited

abbrev Members := List (String × Entry)

/-- Members with one of them replaced, or with a new one behind them. -/
def set (key : String) (entry : Entry) : Members → Members
  | [] => [(key, entry)]
  | (k, e) :: rest => if k = key then (key, entry) :: rest else (k, e) :: set key entry rest

/-- Bind a key below a table. A table on the way must not have a header, and the last one must have
come to be by dots; `inside` says that the way has left the table at which it began. -/
def bind? (inside : Option Origin) : List String → String → Tree → Members → Option Members
  | [], key, tree, members =>
    if inside.all (· = .dotted) && (members.lookup key).isNone then
      some (members ++ [(key, .value tree)])
    else none
  | step :: path, key, tree, members =>
    match members.lookup step with
    | none =>
      (bind? (some .dotted) path key tree []).map fun inner =>
        members ++ [(step, .table .dotted inner)]
    | some (.table .header _) | some (.value _) => none
    | some (.table origin inner) =>
      (bind? (some origin) path key tree inner).map fun inner =>
        set step (.table origin inner) members
    | some (.tables last earlier) =>
      (bind? (some .header) path key tree last).map fun last =>
        set step (.tables last earlier) members

/-- Change the table at the end of a path of headers; tables on the way come to be as needed, and
of tables that share a header the last one counts. -/
def under? (change : Members → Option Members) : List String → Members → Option Members
  | [], members => change members
  | step :: path, members =>
    match members.lookup step with
    | none => (under? change path []).map fun inner => members ++ [(step, .table .passed inner)]
    | some (.value _) => none
    | some (.table origin inner) =>
      (under? change path inner).map fun inner => set step (.table origin inner) members
    | some (.tables last earlier) =>
      (under? change path last).map fun last => set step (.tables last earlier) members

/-- Begin the table of a header. -/
def beginTable? (key : String) (members : Members) : Option Members :=
  match members.lookup key with
  | none => some (members ++ [(key, .table .header [])])
  | some (.table .passed inner) => some (set key (.table .header inner) members)
  | some _ => none

/-- Begin another one of the tables that share a header. -/
def beginItem? (key : String) (members : Members) : Option Members :=
  match members.lookup key with
  | none => some (members ++ [(key, .tables [] [])])
  | some (.tables last earlier) => some (set key (.tables [] (last :: earlier)) members)
  | some _ => none

mutual

/-- What an entry says, with the members of tables in the order of their keys. -/
def Entry.tree : Entry → Tree
  | .value tree => tree
  | .table _ members => .record (Sorted.ofList (memberTrees members))
  | .tables last earlier => .list (tableTrees earlier [.record (Sorted.ofList (memberTrees last))])

def memberTrees : List (String × Entry) → List (String × Tree)
  | [] => []
  | (key, entry) :: rest => (key, entry.tree) :: memberTrees rest

def tableTrees : List (List (String × Entry)) → List Tree → List Tree
  | [], done => done
  | members :: rest, done => tableTrees rest (.record (Sorted.ofList (memberTrees members)) :: done)

end

def Members.tree (members : Members) : Tree := .record (Sorted.ofList (memberTrees members))

end SelfCheck.Toml
