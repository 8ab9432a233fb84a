/-!
Contract: TOML values and the tables that documents build from them.

Owns:
- the values, of which floats and dates are known by their kind only, as no setting is one;
- how a table came about, which decides what may still be added to it;
- putting a value under a dotted key, and opening a table by its header.

Does not own: the text of a document.
-/

namespace SocketGateway.Toml

/-- How a table came about. -/
inductive Origin where
  /-- Written in braces: nothing can be added. -/
  | inline
  /-- Opened by a header of its own, or the document itself. -/
  | header
  /-- Passed through by the header of another table. -/
  | passed
  /-- Passed through by a dotted key. -/
  | dotted
deriving DecidableEq, Repr

/-- A TOML value. The tables that headers in double brackets open are kept apart from arrays that
are written as values; the last of them is the open one. -/
inductive Value where
  | string (value : String)
  | integer (value : Int)
  | float
  | bool (value : Bool)
  | date
  | array (items : List Value)
  | table (origin : Origin) (entries : List (String × Value))
  | tables (earlier : List (List (String × Value))) (last : List (String × Value))
deriving Inhabited

/-- The entries of a table; every key occurs once. -/
abbrev Entries := List (String × Value)

/-- Changes the value under `key`, which may be missing; a failing change fails. -/
def alter? (key : String) (change : Option Value → Option Value) : Entries → Option Entries
  | [] => (change none).map fun value => [(key, value)]
  | entry :: rest =>
    if entry.1 = key then (change (some entry.2)).map fun value => (key, value) :: rest
    else (alter? key change rest).map (entry :: ·)

/-- Changes the table at `path` below a table of the given origin. Tables that are missing on the
way are made with the origin `fresh`. A dotted key cannot pass through a table that a header has
opened, and nothing passes through other values. -/
def within? (fresh : Origin) (change : Origin → Entries → Option Entries) :
    List String → Origin → Entries → Option Entries
  | [], origin, entries => change origin entries
  | key :: rest, _, entries =>
    alter? key (fun
      | none => (within? fresh change rest fresh []).map (.table fresh)
      | some (.table origin inner) =>
        if origin = .inline ∨ (fresh = .dotted ∧ origin = .header) then none
        else (within? fresh change rest origin inner).map (.table origin)
      | some (.tables earlier last) =>
        (within? fresh change rest .header last).map (.tables earlier)
      | some _ => none) entries

/-- Puts a value under a dotted key below the table at `header`. The key must be new, and a table
that the key passes through must have been made by dotted keys alone. -/
def assign? (header path : List String) (key : String) (value : Value) (entries : Entries) :
    Option Entries :=
  within? .passed (fun origin inner =>
    within? .dotted (fun origin target =>
      -- without a path the table is that of the header itself
      if decide (origin = .dotted) = path.isEmpty then none
      else alter? key (fun
        | none => some value
        | some _ => none) target) path origin inner) header .header entries

/-- Opens the table at `path` with the last segment `key`: it must be new, or only passed through
by earlier headers. -/
def openTable? (path : List String) (key : String) (entries : Entries) : Option Entries :=
  within? .passed (fun _ inner =>
    alter? key (fun
      | none => some (.table .header [])
      | some (.table .passed known) => some (.table .header known)
      | some _ => none) inner) path .header entries

/-- Opens one more table in the list of tables at `path` with the last segment `key`. -/
def openElement? (path : List String) (key : String) (entries : Entries) : Option Entries :=
  within? .passed (fun _ inner =>
    alter? key (fun
      | none => some (.tables [] [])
      | some (.tables earlier last) => some (.tables (earlier ++ [last]) [])
      | some _ => none) inner) path .header entries

end SocketGateway.Toml
