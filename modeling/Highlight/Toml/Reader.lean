import Highlight.Toml.Scalar

/-!
# Reading TOML documents

A document is read statement by statement.  Beside the data, the reader keeps the keys of tables that may
not be declared again and of values that may not be extended.

A value that nests too deeply for the stack, or that is a decimal integer with too many digits, crashes
the reader (`Failure.crash`), whatever comes after it.

## Termination

The number of characters left bounds the nesting and the length of arrays, tables and documents, since
every element takes a character at least.
-/

namespace Highlight.Toml

/-! ## Values -/

/-- The data of a table. -/
abbrev Entries := Table Value

/-- Changes the table that a key leads to, making the tables on the way that are missing.  Where
`intoArrays` is set, an array stands for its last element. -/
def updateAt (intoArrays : Bool) (f : Entries → Option Entries) :
    Key → Entries → Option Entries
  | [], t => f t
  | part :: parts, t =>
    match t.get? part with
    | none => (updateAt intoArrays f parts []).map fun u => t.put part (.table u)
    | some (.table u) => (updateAt intoArrays f parts u).map fun u => t.put part (.table u)
    | some (.array items) =>
      if !intoArrays then none
      else match items.getLast? with
        | some (.table u) =>
          (updateAt intoArrays f parts u).map fun u =>
            t.put part (.array (items.dropLast ++ [.table u]))
        | _ => none
    | some _ => none

/-- The table with a new entry; none if there is one already. -/
def insertNew (part : String) (v : Value) (t : Entries) : Option Entries :=
  match t.get? part with
  | some _ => none
  | none => some (t.put part v)

/-- Whether a value holds others. -/
def isContainer : Value → Bool
  | .array _ => true
  | .table _ => true
  | _ => false

/-- Whether one of `keys` is a key or leads to it. -/
def coveredBy (keys : List Key) (key : Key) : Bool := keys.any (·.isPrefixOf key)

mutual

/-- A value, inside the brackets `around`. -/
def value (stack : Stack) :
    (around : List Bracket) → (steps : Nat) → List Char → Except Failure (Value × List Char)
  | _, 0, rest => failAt .invalidValue rest
  | around, steps + 1, rest =>
    if stack.endsReading around rest then .error (.crash .deepDocument)
    else match rest with
    | '"' :: '"' :: '"' :: r => do
      let (s, r) ← linesString '"' r
      return (.string s, r)
    | '"' :: r => do
      let (s, r) ← lineString r
      return (.string s, r)
    | '\'' :: '\'' :: '\'' :: r => do
      let (s, r) ← linesString '\'' r
      return (.string s, r)
    | '\'' :: r => do
      let (s, r) ← literalString r
      return (.string s, r)
    | 't' :: 'r' :: 'u' :: 'e' :: r => .ok (.bool true, r)
    | 'f' :: 'a' :: 'l' :: 's' :: 'e' :: r => .ok (.bool false, r)
    | '[' :: r => do
      let r ← skipLines (r.length + 1) r
      match r with
      | ']' :: r => return (.array [], r)
      | r =>
        let (items, r) ← arrayItems stack (.array :: around) steps r
        return (.array items, r)
    | '{' :: r =>
      match skipSpaces r with
      | '}' :: r => .ok (.table [], r)
      | r => do
        let (entries, r) ← tableItems stack (.table :: around) steps [] [] r
        return (.table entries, r)
    | rest => do
      match ← moment? rest with
      | some (m, r) => return (.moment m, r)
      | none =>
        match number? rest with
        | some (v, r) => return (← v, r)
        | none => failAt .invalidValue rest

/-- The items of an array from one of them on, and the bracket after them. -/
def arrayItems (stack : Stack) :
    (around : List Bracket) → (steps : Nat) → List Char → Except Failure (List Value × List Char)
  | _, 0, rest => failAt .unclosedArray rest
  | around, steps + 1, rest => do
    let (v, rest) ← value stack around steps rest
    let rest ← skipLines (rest.length + 1) rest
    match rest with
    | ']' :: rest => return ([v], rest)
    | ',' :: rest => do
      let rest ← skipLines (rest.length + 1) rest
      match rest with
      | ']' :: rest => return ([v], rest)
      | rest => do
        let (vs, rest) ← arrayItems stack around steps rest
        return (v :: vs, rest)
    | rest => failAt .unclosedArray rest

/-- The entries of an inline table from one of them on, and the brace after them; `t` holds those before,
and `frozen` the keys among them whose values may not be extended. -/
def tableItems (stack : Stack) : (around : List Bracket) → (steps : Nat) → (frozen : List Key) →
    (t : Entries) → List Char → Except Failure (Entries × List Char)
  | _, 0, _, _, rest => failAt .unclosedTable rest
  | around, steps + 1, frozen, t, rest => do
    let (k, rest) ← key (rest.length + 1) rest
    let '=' :: rest := rest | failAt .missingEquals rest
    let (v, rest) ← value stack around steps (skipSpaces rest)
    if coveredBy frozen k then failAt (.immutable k) rest
    let part := k.getLast?.getD ""
    let some _ := updateAt false some k.dropLast t | failAt .overwritten rest
    let some t := updateAt false (insertNew part v) k.dropLast t
      | failAt (.duplicateKey part) rest
    match skipSpaces rest with
    | '}' :: rest => return (t, rest)
    | ',' :: rest =>
      let frozen := if isContainer v then k :: frozen else frozen
      tableItems stack around steps frozen t (skipSpaces rest)
    | rest => failAt .unclosedTable rest

end

/-! ## Statements -/

/-- The state of reading a document. -/
structure Draft where
  data : Entries := []
  /-- The key of the table that entries go to. -/
  header : Key := []
  /-- The keys that may not be declared as a table. -/
  declared : List Key := []
  /-- The keys to add to `declared` before the next declaration. -/
  pending : List Key := []
  /-- The keys whose values may not be extended. -/
  frozen : List Key := []

/-- Whether a key may not be extended. -/
def Draft.isFrozen (d : Draft) (k : Key) : Bool := coveredBy d.frozen k

/-- The declaration of a table, after its bracket. -/
def tableHeader (d : Draft) (rest : List Char) : Except Failure (Draft × List Char) := do
  let rest := skipSpaces rest
  let (k, rest) ← key (rest.length + 1) rest
  if d.declared.contains k || d.isFrozen k then failAt (.declaredTwice k) rest
  let some data := updateAt true some k d.data | failAt .overwritten rest
  match rest with
  | ']' :: rest => return ({ d with data, header := k, declared := k :: d.declared }, rest)
  | rest => failAt .missingTableEnd rest

/-- An array with a new empty table at its end; none if the entry is no array. -/
def appendTable (part : String) (t : Entries) : Option Entries :=
  match t.get? part with
  | none => some (t.put part (.array [.table []]))
  | some (.array items) => some (t.put part (.array (items ++ [.table []])))
  | some _ => none

/-- The declaration of an element of an array of tables, after its brackets.  What was declared inside
the element before is free again. -/
def arrayHeader (d : Draft) (rest : List Char) : Except Failure (Draft × List Char) := do
  let rest := skipSpaces rest
  let (k, rest) ← key (rest.length + 1) rest
  if d.isFrozen k then failAt (.immutable k) rest
  let free (keys : List Key) := keys.filter fun l => !k.isPrefixOf l
  let some data := updateAt true (appendTable (k.getLast?.getD "")) k.dropLast d.data
    | failAt .overwritten rest
  match rest with
  | ']' :: ']' :: rest =>
    return ({ d with data, header := k, declared := k :: free d.declared, frozen := free d.frozen },
      rest)
  | rest => failAt .missingArrayEnd rest

/-- An entry of the current table. -/
def entry (stack : Stack) (d : Draft) (rest : List Char) : Except Failure (Draft × List Char) := do
  let (k, rest) ← key (rest.length + 1) rest
  let '=' :: rest := rest | failAt .missingEquals rest
  let rest := skipSpaces rest
  let (v, rest) ← value stack [] (2 * rest.length + 2) rest
  let outer := (List.range (k.length - 1)).map fun i => d.header ++ k.take (i + 1)
  if let some l := outer.find? d.declared.contains then failAt (.redefined l) rest
  let parent := d.header ++ k.dropLast
  if d.isFrozen parent then failAt (.immutable parent) rest
  let some data := updateAt true (insertNew (k.getLast?.getD "") v) parent d.data
    | failAt .overwritten rest
  let frozen := if isContainer v then (d.header ++ k) :: d.frozen else d.frozen
  return ({ d with data, pending := outer ++ d.pending, frozen }, rest)

/-- Whether a statement that starts with a character is an entry. -/
def startsKey (c : Char) : Bool := isBareKeyChar c || c == '\'' || c == '"'

/-- The statement that is next, without the comment after it. -/
def statement (stack : Stack) (d : Draft) : List Char → Except Failure (Draft × List Char)
  | [] => .ok (d, [])
  | '#' :: rest => .ok (d, '#' :: rest)
  | '[' :: rest => do
    let d := { d with declared := d.pending ++ d.declared, pending := [] }
    match rest with
    | '[' :: rest => arrayHeader d rest
    | rest => tableHeader d rest
  | c :: rest =>
    if startsKey c then entry stack d (c :: rest) else failAt .invalidStatement (c :: rest)

/-- The statements of a document. -/
def statements (stack : Stack) : (steps : Nat) → Draft → List Char → Except Failure Draft
  | 0, d, _ => .ok d
  | steps + 1, d, rest =>
    match skipSpaces rest with
    | [] => .ok d
    | '\n' :: rest => statements stack steps d rest
    | rest => do
      let (d, rest) ← statement stack d rest
      match ← skipComment (skipSpaces rest) with
      | [] => return d
      | '\n' :: rest => statements stack steps d rest
      | rest => failAt .trailingText rest

/-- A text in which a carriage return and the line feed after it are one line feed. -/
def joinLineEnds : List Char → List Char
  | [] => []
  | '\r' :: '\n' :: rest => '\n' :: joinLineEnds rest
  | c :: rest => c :: joinLineEnds rest

/-- The table that a document denotes. -/
def read (stack : Stack) (text : List Char) : Except Unread Entries :=
  let source := joinLineEnds text
  match statements stack (source.length + 1) {} source with
  | .ok d => .ok d.data
  | .error f => .error (f.inDocument source)

end Highlight.Toml
