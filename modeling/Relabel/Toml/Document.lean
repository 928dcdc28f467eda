import Relabel.Toml.Moment

/-!
# TOML documents

A document is a list of lines: settings of a key, headers of tables, headers of arrays of tables,
and comments. Reading one gives the entries of its root table, or nothing when it is malformed.
-/

namespace Relabel.Toml

/-- Keys and values can be nested this deep. -/
def nestingLimit : Nat := 80

/-! ## Keys -/

def isBareChar (c : Char) : Bool :=
  c.isAlphanum || c = '_' || c = '-'

/-- Reads one name of a key. -/
def simpleKey? : Text → Option (Name × Text)
  | '"' :: rest => basicString .plain rest
  | '\'' :: rest => literalString rest
  | t =>
      let name := t.takeWhile isBareChar
      if name.isEmpty then none else some (name, t.dropWhile isBareChar)

/-- Reads names with dots between them, at most `steps` of them. -/
def keyNames? : (steps : Nat) → Text → Option (List Name × Text)
  | 0, _ => none
  | steps + 1, t => do
      let (name, t) ← simpleKey? (skipBlanks t)
      match skipBlanks t with
      | '.' :: t => do
          let (names, rest) ← keyNames? steps t
          return (name :: names, rest)
      | rest => return ([name], rest)

/-- Reads a key and the blanks around it. -/
def key? (t : Text) : Option (List Name × Text) :=
  keyNames? (nestingLimit - 1) t

/-! ## Values -/

/-- Skips blanks, line breaks and comments. -/
def skipFiller : (inComment : Bool) → Text → Text
  | _, [] => []
  | inComment, c :: rest =>
      if inComment ∧ isPlain c then skipFiller true rest
      else if isBlank c ∨ c = '\n' then skipFiller false rest
      else if c = '\r' then
        match rest with
        | '\n' :: rest => skipFiller false rest
        | _ => c :: rest
      else if c = '#' then skipFiller true rest
      else c :: rest

/-- Reads the elements of an array up to its closing bracket; a comma may follow the last one. -/
def elements? (read : Text → Option (Item × Text)) :
    (steps : Nat) → Text → Option (List Item × Text)
  | 0, _ => none
  | steps + 1, t =>
      match skipFiller false t with
      | ']' :: rest => some ([], rest)
      | t => do
          let (item, t) ← read t
          match skipFiller false t with
          | ',' :: t => do
              let (items, rest) ← elements? read steps t
              return (item :: items, rest)
          | ']' :: rest => return ([item], rest)
          | _ => none

/-- Reads a key, the sign behind it and its value. -/
def pair? (read : Text → Option (Item × Text)) (t : Text) : Option ((List Name × Item) × Text) := do
  let (key, t) ← key? t
  let t ← expect? '=' t
  let (item, rest) ← read (skipBlanks t)
  return ((key, item), rest)

/-- Reads the pairs of a table in braces, at least one, up to the closing brace. -/
def pairs? (read : Text → Option (Item × Text)) :
    (steps : Nat) → Text → Option (List (List Name × Item) × Text)
  | 0, _ => none
  | steps + 1, t => do
      let (pair, t) ← pair? read t
      match skipBlanks t with
      | ',' :: t => do
          let (pairs, rest) ← pairs? read steps t
          return (pair :: pairs, rest)
      | '}' :: rest => return ([pair], rest)
      | _ => none

/-- Reads what stands behind an opening brace. -/
def braces? (read : Text → Option (Item × Text)) (t : Text) : Option (Item × Text) := do
  match skipBlanks t with
  | '}' :: rest => return (← ofPairs [], rest)
  | t =>
      let (pairs, rest) ← pairs? read t.length t
      return (← ofPairs pairs, rest)

/-- Reads a value that is neither an array nor a table. -/
def scalar? : Text → Option (Item × Text)
  | 't' :: 'r' :: 'u' :: 'e' :: rest => some (.bool true, rest)
  | 'f' :: 'a' :: 'l' :: 's' :: 'e' :: rest => some (.bool false, rest)
  | t =>
      if t.head? = some '"' ∨ t.head? = some '\'' then
        (string? t).map fun (value, rest) => (.text value, rest)
      else
        match moment? t with
        | some found => some found
        | none => number? t

/-- Reads a value in which arrays and tables are nested at most `depth` deep. -/
def value? : (depth : Nat) → Text → Option (Item × Text)
  | 0, t => scalar? t
  | depth + 1, '[' :: t => do
      let (items, rest) ← elements? (value? depth) (t.length + 1) t
      return (.array false items, rest)
  | depth + 1, '{' :: t => braces? (value? depth) t
  | _ + 1, t => scalar? t

/-! ## Lines -/

/-- The text behind the end of a line, which blanks and a comment may precede. -/
def lineEnd? (t : Text) : Option Text :=
  let t := skipBlanks t
  let t := if t.head? = some '#' then t.dropWhile isPlain else t
  if t.isEmpty then some [] else lineBreak? t

/-- What has been read: the root table, and the path of the table that is open. -/
structure Reading where
  root : Entries := []
  path : List Name := []

/-- Goes on with a header that was read. -/
def Reading.header (reading : Reading) (opening : Name → Entries → Option Entries)
    (path : List Name) : Option Reading := do
  let name ← path.getLast?
  return ⟨← within (opening name) path.dropLast reading.root, path⟩

/-- Reads a line, from its first character that is not blank. -/
def line? (reading : Reading) (t : Text) : Option (Reading × Text) := do
  match t with
  | '[' :: '[' :: t =>
      let (path, t) ← key? t
      let t ← expect? ']' (← expect? ']' t)
      return (← reading.header openElement path, ← lineEnd? t)
  | '[' :: t =>
      let (path, t) ← key? t
      let t ← expect? ']' t
      return (← reading.header openTable path, ← lineEnd? t)
  | t =>
      if t.head? = some '#' ∨ (lineBreak? t).isSome then return (reading, ← lineEnd? t)
      else
        let ((key, item), t) ← pair? (value? (nestingLimit - 1)) t
        let root ← within (addItem item key) reading.path reading.root
        return ({ reading with root := root }, ← lineEnd? t)

/-- Reads lines to the end of the text. -/
def lines? : (steps : Nat) → Reading → Text → Option Entries
  | 0, _, _ => none
  | steps + 1, reading, t =>
      match skipBlanks t with
      | [] => some reading.root
      | t => do
          let (reading, t) ← line? reading t
          lines? steps reading t

/-- Drops a byte order mark at the start. -/
def dropMark : Text → Text
  | '\ufeff' :: rest => rest
  | t => t

/-- Reads a document. -/
def parse? (t : Text) : Option Entries :=
  lines? (t.length + 1) {} (dropMark t)

end Relabel.Toml
