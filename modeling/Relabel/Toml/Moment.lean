import Relabel.Toml.Number

/-!
# TOML dates and times

A date, a time of day, or a date with a time and perhaps an offset. A moment is kept in its normal
spelling: a `T` between date and time, and fractions of a second without zeros at the end.
-/

namespace Relabel.Toml

/-- Reads a number of exactly `count` digits. -/
def fixedDigits? (count : Nat) (t : Text) : Option (Nat × Text) :=
  let digits := t.take count
  if digits.length = count ∧ digits.all Char.isDigit then some (ofDigits 10 digits, t.drop count)
  else none

/-- Reads a number of two digits between two bounds. -/
def between? (low high : Nat) (t : Text) : Option (Nat × Text) := do
  let (n, rest) ← fixedDigits? 2 t
  if low ≤ n ∧ n ≤ high then return (n, rest) else none

def expect? (c : Char) : Text → Option Text
  | d :: rest => if d = c then some rest else none
  | [] => none

/-- A number with at least `width` digits. -/
def padded (width n : Nat) : Text :=
  let digits := Nat.toDigits 10 n
  List.replicate (width - digits.length) '0' ++ digits

def isLeapYear (year : Nat) : Bool :=
  year % 4 = 0 && (year % 100 ≠ 0 || year % 400 = 0)

def daysInMonth (year month : Nat) : Nat :=
  if month = 2 then if isLeapYear year then 29 else 28
  else if month = 4 ∨ month = 6 ∨ month = 9 ∨ month = 11 then 30
  else 31

/-- Reads a date. -/
def date? (t : Text) : Option (Text × Text) := do
  let (year, t) ← fixedDigits? 4 t
  let t ← expect? '-' t
  let (month, t) ← between? 1 12 t
  let t ← expect? '-' t
  let (day, rest) ← between? 1 (daysInMonth year month) t
  return (padded 4 year ++ '-' :: padded 2 month ++ '-' :: padded 2 day, rest)

/-- The fraction of a second with the given digits; places beyond the ninth are dropped. -/
def fraction (digits : Text) : Text :=
  let kept := ((digits.take 9).reverse.dropWhile (· = '0')).reverse
  if kept.isEmpty then [] else '.' :: kept

/-- Reads a time of day with an hour up to `lastHour`. -/
def time? (lastHour : Nat) (t : Text) : Option (Text × Text) := do
  let (hour, t) ← between? 0 lastHour t
  let t ← expect? ':' t
  let (minute, t) ← between? 0 59 t
  let t ← expect? ':' t
  let (second, t) ← between? 0 60 t
  let clock := padded 2 hour ++ ':' :: padded 2 minute ++ ':' :: padded 2 second
  match t with
  | '.' :: c :: rest =>
      if c.isDigit then
        let digits := (c :: rest).takeWhile Char.isDigit
        return (clock ++ fraction digits, (c :: rest).dropWhile Char.isDigit)
      else return (clock, t)
  | _ => return (clock, t)

/-- Reads the offset of a time, if there is one. -/
def offset? : Text → Option (Text × Text)
  | [] => some ([], [])
  | c :: t =>
      if c = 'Z' ∨ c = 'z' then some (['Z'], t)
      else if c = '+' ∨ c = '-' then do
        let (hours, t) ← between? 0 23 t
        let t ← expect? ':' t
        let (minutes, rest) ← between? 0 59 t
        let mark := if c = '-' ∧ (hours ≠ 0 ∨ minutes ≠ 0) then '-' else '+'
        return (mark :: padded 2 hours ++ ':' :: padded 2 minutes, rest)
      else some ([], c :: t)

/-- Goes on behind a date: with a time, or with nothing of it. -/
def afterDate (date : Text) : Text → Option (Item × Text)
  | [] => some (.moment date, [])
  | c :: t =>
      if c = 'T' ∨ c = 't' ∨ c = ' ' then
        match time? 23 t with
        | none => some (.moment date, c :: t)
        | some (time, t) => do
            let (offset, rest) ← offset? t
            return (.moment (date ++ 'T' :: time ++ offset), rest)
      else some (.moment date, c :: t)

/-- Reads a date, a time or both. -/
def moment? (t : Text) : Option (Item × Text) :=
  match date? t with
  | some (date, rest) => afterDate date rest
  | none => (time? 23 t).map fun (time, rest) => (.moment time, rest)

/-! ## Moments in texts

A table can stand for a moment: its first key says so, and the text under that key spells it. Such a
text is read a little more freely than a moment of the document. -/

/-- The key that marks a table as a moment. -/
def momentKey : Name :=
  "$__toml_private_datetime".toList

/-- The normal spelling of an offset: hours and minutes, together not above a day. -/
def freeOffset? : Text → Option Text
  | [] => some []
  | c :: t =>
      if c = 'Z' ∨ c = 'z' then if t.isEmpty then some ['Z'] else none
      else if c = '+' ∨ c = '-' then do
        let (hours, t) ← fixedDigits? 2 t
        let t ← expect? ':' t
        let (minutes, rest) ← fixedDigits? 2 t
        let total := 60 * hours + minutes
        let mark := if c = '-' ∧ total ≠ 0 then '-' else '+'
        if rest.isEmpty ∧ total ≤ 60 * 24 then
          return mark :: padded 2 (total / 60) ++ ':' :: padded 2 (total % 60)
        else none
      else none

/-- The normal spelling of a moment that a text spells. -/
def momentOf? (t : Text) : Option Text :=
  if (t.drop 2).head? = some ':' then do
    let (time, rest) ← time? 24 t
    if rest.isEmpty then return time else none
  else do
    match ← date? t with
    | (date, []) => return date
    | (date, c :: t) =>
        if c = 'T' ∨ c = 't' ∨ c = ' ' then
          let (time, t) ← time? 24 t
          return date ++ 'T' :: time ++ (← freeOffset? t)
        else none

/-- The moment that a table stands for, if it is marked as one; nothing when the mark is misused. -/
def marked? : Entries → Option (Option Text)
  | [] => some none
  | (name, item) :: _ =>
      if name = momentKey then
        match item with
        | .text t => (momentOf? t).map some
        | _ => none
      else some none

mutual

/-- An item with moments in place of the tables that stand for them. -/
def Item.withMoments? : Item → Option Item
  | .array grows items => do return .array grows (← itemsWithMoments? items)
  | .table making entries => do
      match ← marked? entries with
      | some spelling => return .moment spelling
      | none => return .table making (← entriesWithMoments? entries)
  | item => some item

def itemsWithMoments? : List Item → Option (List Item)
  | [] => some []
  | item :: rest => do return (← item.withMoments?) :: (← itemsWithMoments? rest)

def entriesWithMoments? : Entries → Option Entries
  | [] => some []
  | (name, item) :: rest => do
      return (name, ← item.withMoments?) :: (← entriesWithMoments? rest)

end

/-- The entries of a document with moments in place of the tables that stand for them. The document
itself is not a moment. -/
def withMoments? (entries : Entries) : Option Entries := do
  match ← marked? entries with
  | some _ => none
  | none => entriesWithMoments? entries

end Relabel.Toml
