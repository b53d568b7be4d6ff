/-!
TOML documents as values, and the tables they are put together from. A table is written by a
header, implied by the header of one below it, or opened by a dotted key; only what is implied may
still get a header of its own, and only dotted keys go on where dotted keys began.
-/

namespace Admission.Toml

/-- A TOML value. Floating numbers and dates are kept as they are written. -/
inductive Value where
  | string (s : String)
  | integer (n : Int)
  | float (literal : String)
  | boolean (b : Bool)
  | datetime (literal : String)
  | array (items : List Value)
  | table (items : List (String × Value))
deriving Repr, Inhabited

/-- How a table came to be. -/
inductive TableKind where
  | header
  | implied
  | dotted
deriving DecidableEq, Repr

/-- What a key stands for while the document is read: a value, a table that may grow, or a series
    of tables of which the last may grow. -/
inductive Node where
  | value (v : Value)
  | table (kind : TableKind) (items : List (String × Node))
  | series (earlier : List (List (String × Node))) (last : List (String × Node))
deriving Inhabited

/-- The entries of a table. -/
abbrev Items := List (String × Node)

namespace Node

mutual

/-- What a node amounts to in the end. -/
def toValue : Node → Value
  | .value v => v
  | .table _ items => .table (itemValues items)
  | .series earlier last => .array (seriesValues earlier ++ [.table (itemValues last)])

def itemValues : List (String × Node) → List (String × Value)
  | [] => []
  | (k, n) :: rest => (k, toValue n) :: itemValues rest

def seriesValues : List (List (String × Node)) → List Value
  | [] => []
  | items :: rest => .table (itemValues items) :: seriesValues rest

end

end Node

namespace Items

/-- Puts a node under a key, in place of what is there. -/
def put (key : String) (node : Node) : Items → Items
  | [] => [(key, node)]
  | (k, n) :: rest => if k == key then (key, node) :: rest else (k, n) :: put key node rest

/-- Changes the table at the end of a path. Missing tables on the way are opened; of a series the
    last table is taken. Dotted keys do not go into a table that has a header. -/
def alter (dotted : Bool) (change : TableKind → Items → Option Items) (kind : TableKind) :
    List String → Items → Option Items
  | [], items => change kind items
  | key :: path, items =>
    match items.lookup key with
    | none =>
      let opened : TableKind := if dotted then .dotted else .implied
      (alter dotted change opened path []).map fun sub => put key (.table opened sub) items
    | some (.value _) => none
    | some (.table subKind sub) =>
      if dotted && subKind == .header then none
      else (alter dotted change subKind path sub).map fun sub => put key (.table subKind sub) items
    | some (.series earlier last) =>
      (alter dotted change .header path last).map fun sub => put key (.series earlier sub) items

/-- Opens the table of a header. -/
def openTable (path : List String) (items : Items) : Option Items :=
  match path.getLast? with
  | none => none
  | some key => alter false (fun _ parent =>
      match parent.lookup key with
      | none => some (put key (.table .header []) parent)
      | some (.table .implied sub) => some (put key (.table .header sub) parent)
      | _ => none) .header path.dropLast items

/-- Opens one more table of a series. -/
def openSeries (path : List String) (items : Items) : Option Items :=
  match path.getLast? with
  | none => none
  | some key => alter false (fun _ parent =>
      match parent.lookup key with
      | none => some (put key (.series [] []) parent)
      | some (.series earlier last) => some (put key (.series (earlier ++ [last]) []) parent)
      | _ => none) .header path.dropLast items

/-- Puts a value under a dotted key. -/
def putPair (path : List String) (v : Value) (items : Items) : Option Items :=
  match path.getLast? with
  | none => none
  | some key => alter true (fun kind table =>
      if (kind == .dotted) == path.dropLast.isEmpty then none
      else if (table.lookup key).isSome then none
      else some (table ++ [(key, .value v)])) .header path.dropLast items

/-- Puts a value under a dotted key of the table at the end of a path. -/
def putPairAt (table path : List String) (v : Value) (items : Items) : Option Items :=
  alter false (fun _ inner => putPair path v inner) .header table items

end Items

end Admission.Toml
