import Admission.Toml.Scalar

/-!
Reading a TOML document: its lines are read as statements, and the statements put the tables
together. Values nest to a fixed depth, and keys have a bounded number of parts.
-/

namespace Admission.Toml

open Text Scanner

/-- A line that says something. -/
inductive Statement where
  | header (path : List String)
  | seriesHeader (path : List String)
  | pair (path : List String) (v : Value)

/-- No key has so many parts, and no value nests so deep. -/
def depthLimit : Nat := 80

def bareKey : Scanner String := do
  let cs ← run (fun c => c.isAlphanum || c == '-' || c == '_') 1 ((← get).length)
  return String.ofList cs

def keyPart : Scanner String := do
  spaces
  let part ← basicString <|> literalString <|> bareKey
  spaces
  return part

/-- A key of one or more parts. -/
def key : Scanner (List String) := do
  let parts ← sepBy1 keyPart (char '.')
  if parts.length < depthLimit then return parts else failure

/-- The items of an array, each on as many lines as it likes, with a comma after the last or not. -/
def arrayOf (item : Scanner Value) : Scanner Value := do
  char '['
  let items ← Scanner.optional (do
    let items ← sepBy1 (do filler; let v ← item; filler; return v) (char ',')
    let _ ← Scanner.optional (char ',')
    return items)
  filler
  char ']'
  return .array (items.getD [])

/-- A table on one line. -/
def inlineTableOf (item : Scanner Value) : Scanner Value := do
  char '\x7b'
  let pairs ← Scanner.optional (sepBy1 (do
    let path ← key
    char '='
    spaces
    let v ← item
    spaces
    return (path, v)) (char ','))
  spaces
  char '\x7d'
  match (pairs.getD []).foldlM (fun items p => Items.putPair p.1 p.2 items) ([] : Items) with
  | some items => return .table (Node.itemValues items)
  | none => failure

/-- A value in which values nest to at most that depth. -/
def valueTo : Nat → Scanner Value
  | 0 => scalar
  | depth + 1 => scalar <|> arrayOf (valueTo depth) <|> inlineTableOf (valueTo depth)

def value : Scanner Value := valueTo (depthLimit - 1)

/-- What may follow on a line: a comment. -/
def restOfLine : Scanner Unit := do
  spaces
  let _ ← Scanner.optional comment
  lineEnd

/-- One line, which may say nothing. -/
def line : Scanner (Option Statement) := do
  spaces
  (do
    comment
    lineEnd
    return none) <|> (do
    newline
    return none) <|> (do
    literal "[["
    let path ← key
    literal "]]"
    restOfLine
    return some (.seriesHeader path)) <|> (do
    char '['
    let path ← key
    char ']'
    restOfLine
    return some (.header path)) <|> (do
    let path ← key
    char '='
    spaces
    let v ← value
    restOfLine
    return some (.pair path v))

/-- All lines of a document, after a byte order mark if there is one. -/
def statements : Scanner (List Statement) := do
  let _ ← Scanner.optional (char '\ufeff')
  let lines ← many line
  spaces
  return lines.filterMap id

/-- A document under construction: its tables, and the path of the table that pairs go to. -/
structure Draft where
  root : Items
  current : List String

/-- What a statement does to the document. -/
def Draft.step (d : Draft) : Statement → Option Draft
  | .header path => (d.root.openTable path).map fun root => ⟨root, path⟩
  | .seriesHeader path => (d.root.openSeries path).map fun root => ⟨root, path⟩
  | .pair path v => (d.root.putPairAt d.current path v).map fun root => { d with root }

/-- Reads a document into its table. -/
def parse? (text : String) : Option Value := do
  let statements ← readAll? statements text.toList
  let draft ← statements.foldlM Draft.step ⟨[], []⟩
  return .table (Node.itemValues draft.root)

end Admission.Toml
