import Relabel.Scopes.Fault
import Relabel.Table

/-!
# Reading the written form of scopes

The reader takes a JSON object of objects of strings and nothing else. Every step returns what it
read and the rest of the text, or stops with a fault and the place of it.
-/

namespace Relabel.Scopes

/-- The outcome of a reading step, mostly a value and the rest of the text. -/
abbrev Read (α : Type) := Except Stop α

/-- Stops just behind the next byte, or at the end of the text. -/
def stopBehindNext (fault : Fault) (rest : Text) : Stop :=
  ⟨fault, rest, if rest.isEmpty then 0 else 1⟩

def stopAt (fault : Fault) (rest : Text) : Stop :=
  ⟨fault, rest, 0⟩

def isSpace (c : Char) : Bool :=
  c = ' ' || c = '\n' || c = '\t' || c = '\r'

def skipSpace (t : Text) : Text :=
  t.dropWhile isSpace

/-! ## Strings -/

/-- Where the reader stands inside a string. -/
inductive Inside where
  /-- Between characters. -/
  | plain
  /-- Behind a backslash. -/
  | escape
  /-- Inside the four digits of a numbered character, `seen` of them read; `high` is the first half
  of a pair, if one came before. -/
  | hex (high : Option Nat) (seen value : Nat)
  /-- Behind the first half of a pair. -/
  | pair (high : Nat)
  /-- Behind the backslash that follows the first half of a pair. -/
  | pairEscape (high : Nat)
deriving DecidableEq, Repr

def hexValue? (c : Char) : Option Nat :=
  if '0' ≤ c ∧ c ≤ '9' then some (c.toNat - '0'.toNat)
  else if 'a' ≤ c ∧ c ≤ 'f' then some (c.toNat - 'a'.toNat + 10)
  else if 'A' ≤ c ∧ c ≤ 'F' then some (c.toNat - 'A'.toNat + 10)
  else none

def isHighHalf (n : Nat) : Bool :=
  0xD800 ≤ n && n ≤ 0xDBFF

def isLowHalf (n : Nat) : Bool :=
  0xDC00 ≤ n && n ≤ 0xDFFF

/-- The character of a pair of halves. -/
def joinHalves (high low : Nat) : Char :=
  Char.ofNat (0x10000 + (high - 0xD800) * 0x400 + (low - 0xDC00))

/-- The character that a backslash and a letter stand for. -/
def simpleEscape? (c : Char) : Option Char :=
  if c = '"' ∨ c = '\\' ∨ c = '/' then some c
  else if c = 'b' then some '\x08'
  else if c = 'f' then some '\x0c'
  else if c = 'n' then some '\n'
  else if c = 'r' then some '\r'
  else if c = 't' then some '\t'
  else none

def consRead (c : Char) (r : Read (Text × Text)) : Read (Text × Text) :=
  r.map fun (t, rest) => (c :: t, rest)

/-- Reads up to the closing quote. -/
def readString : Inside → Text → Read (Text × Text)
  | _, [] => .error (stopAt .endInString [])
  | .plain, c :: rest =>
      if c = '"' then .ok ([], rest)
      else if c = '\\' then readString .escape rest
      else if c.toNat < 0x20 then .error (stopBehindNext .controlCharacter (c :: rest))
      else consRead c (readString .plain rest)
  | .escape, c :: rest =>
      match simpleEscape? c with
      | some d => consRead d (readString .plain rest)
      | none =>
          if c = 'u' then readString (.hex none 0 0) rest
          else .error (stopBehindNext .badEscape (c :: rest))
  | .hex high seen value, c :: rest =>
      match hexValue? c with
      | none =>
          if 4 ≤ seen + byteLength (c :: rest) then .error ⟨.badEscape, c :: rest, 4 - seen⟩
          else .error (stopAt .endInString [])
      | some digit =>
          let n := 16 * value + digit
          if seen < 3 then readString (.hex high (seen + 1) n) rest
          else
            match high with
            | some h =>
                if isLowHalf n then consRead (joinHalves h n) (readString .plain rest)
                else .error (stopAt .loneSurrogate rest)
            | none =>
                if isLowHalf n then .error (stopAt .loneSurrogate rest)
                else if isHighHalf n then readString (.pair n) rest
                else consRead (Char.ofNat n) (readString .plain rest)
  | .pair high, c :: rest =>
      if c = '\\' then readString (.pairEscape high) rest
      else .error (stopBehindNext .endOfEscape (c :: rest))
  | .pairEscape high, c :: rest =>
      if c = 'u' then readString (.hex (some high) 0 0) rest
      else .error (stopBehindNext .endOfEscape (c :: rest))

/-! ## Numbers

A number is never wanted, but it is read to its end, so that the message can show it. Its digits are
gathered as long as they fit into 64 bits. -/

def digitValue (c : Char) : Nat :=
  c.toNat - '0'.toNat

/-- Gathers digits while the number stays within `limit`: the number, how many digits went into it,
and the rest. -/
def gatherDigits (limit : Nat) : (number taken : Nat) → Text → Nat × Nat × Text
  | number, taken, [] => (number, taken, [])
  | number, taken, c :: rest =>
      if c.isDigit ∧ 10 * number + digitValue c ≤ limit then
        gatherDigits limit (10 * number + digitValue c) (taken + 1) rest
      else (number, taken, c :: rest)

/-- How many digits a text starts with, and the rest behind them. -/
def skipDigits (t : Text) : Nat × Text :=
  ((t.takeWhile Char.isDigit).length, t.dropWhile Char.isDigit)

/-- The largest number of 64 bits. -/
def largestWord : Nat := 18446744073709551615

/-- `x * 10 ^ exponent` as a reader computes it: one power from a table, which is
multiplied or divided by; exponents below the table take several divisions. None when the
result is out of range. -/
def scaleByTen : Nat → Magnitude → Int → Option Magnitude
  | 0, x, _ => some x
  | steps + 1, x, exponent =>
      if exponent.natAbs ≤ 308 then do
        let power ← Magnitude.ofDecimal 1 exponent.natAbs
        if 0 ≤ exponent then x.mul power else x.div power
      else if x.mantissa = 0 then some x
      else if 0 ≤ exponent then none
      else do
        let power ← Magnitude.ofDecimal 1 308
        scaleByTen steps (← x.div power) (exponent + 308)

def readFloat (negative : Bool) (digits : Nat) (exponent : Int) (rest : Text) :
    Read (Found × Text) :=
  match (Magnitude.ofRatio digits 1).bind (scaleByTen 8 · exponent) with
  | some x => .ok (.float (.finite negative x), rest)
  | none => .error (stopAt .numberOutOfRange rest)

/-- The largest exponent that a reader takes as it is. -/
def largestExponent : Nat := 2147483647

/-- Reads what follows the exponent letter. -/
def readExponent (negative : Bool) (digits : Nat) (start : Int) (t : Text) : Read (Found × Text) :=
  let (down, t) :=
    match t with
    | '+' :: rest => (false, rest)
    | '-' :: rest => (true, rest)
    | _ => (false, t)
  match t with
  | [] => .error (stopAt .endInValue [])
  | c :: _ =>
      if ¬ c.isDigit then .error (stopBehindNext .badNumber t)
      else
        match gatherDigits largestExponent 0 0 t with
        | (exponent, _, rest) =>
            match rest with
            | d :: _ =>
                if d.isDigit then
                  if digits ≠ 0 ∧ ¬ down then .error (stopBehindNext .numberOutOfRange rest)
                  else .ok (.float (.finite negative .zero), (skipDigits rest).2)
                else
                  readFloat negative digits
                    (if down then start - exponent else start + exponent) rest
            | [] =>
                readFloat negative digits (if down then start - exponent else start + exponent) []

/-- Reads what follows the gathered digits: an exponent or nothing. -/
def readTail (negative : Bool) (digits : Nat) (exponent : Int) : Text → Read (Found × Text)
  | 'e' :: rest => readExponent negative digits exponent rest
  | 'E' :: rest => readExponent negative digits exponent rest
  | rest => readFloat negative digits exponent rest

/-- Reads what follows the decimal point. -/
def readFraction (negative : Bool) (digits : Nat) (exponent : Int) (t : Text) :
    Read (Found × Text) :=
  match gatherDigits largestWord digits 0 t with
  | (digits, taken, rest) =>
      match skipDigits rest with
      | (0, _) =>
          if taken = 0 then
            .error (stopBehindNext (if rest.isEmpty then .endInValue else .badNumber) rest)
          else readTail negative digits (exponent - taken) rest
      | (_, behind) => readTail negative digits (exponent - taken) behind

/-- An integer as a message shows it: one that does not fit into 64 bits, and `-0`, are floats. -/
def integerFound (negative : Bool) (digits : Nat) : Found :=
  if ¬ negative then .integer digits
  else if 0 < digits ∧ digits ≤ 9223372036854775808 then .integer (-digits)
  else .float (Binary64.ofDecimal true digits 0)

/-- Reads a number behind its sign. -/
def readNumber (negative : Bool) (t : Text) : Read (Found × Text) :=
  match t with
  | [] => .error (stopAt .endInValue [])
  | c :: rest =>
      if ¬ c.isDigit then .error (stopBehindNext .badNumber t)
      else if c = '0' ∧ 0 < (skipDigits rest).1 then .error (stopBehindNext .badNumber rest)
      else
        match gatherDigits largestWord 0 0 t with
        | (digits, _, rest) =>
            match skipDigits rest with
            | (skipped, behind) =>
                match behind with
                | '.' :: fraction => readFraction negative digits skipped fraction
                | 'e' :: _ => readTail negative digits skipped behind
                | 'E' :: _ => readTail negative digits skipped behind
                | _ =>
                    if skipped = 0 then .ok (integerFound negative digits, behind)
                    else readFloat negative digits skipped behind

/-! ## Values of the wrong kind -/

/-- Reads the rest of a literal word. -/
def readLiteral (found : Found) : (word : Text) → Text → Read (Found × Text)
  | [], rest => .ok (found, rest)
  | _ :: _, [] => .error (stopAt .endInValue [])
  | w :: word, c :: rest =>
      if c = w then readLiteral found word rest
      else .error (stopBehindNext .misspelt (c :: rest))

/-- Reads a value that is not of the expected kind, as far as it has to be read to name it. -/
def readOther (t : Text) : Read (Found × Text) :=
  match t with
  | [] => .error (stopBehindNext .noValue [])
  | c :: rest =>
      if c = 'n' then readLiteral .null ['u', 'l', 'l'] rest
      else if c = 't' then readLiteral (.boolean true) ['r', 'u', 'e'] rest
      else if c = 'f' then readLiteral (.boolean false) ['a', 'l', 's', 'e'] rest
      else if c = '-' then readNumber true rest
      else if c.isDigit then readNumber false t
      else if c = '"' then (readString .plain rest).map fun (s, rest) => (.string s, rest)
      else if c = '[' then .ok (.sequence, t)
      else if c = '{' then .ok (.map, t)
      else .error (stopBehindNext .noValue t)

/-- Stops at a value of the wrong kind. -/
def refuse {α : Type} (expected : Expected) (t : Text) : Read (α × Text) := do
  let (found, rest) ← readOther t
  .error (stopAt (.wrongType found expected) rest)

/-! ## Objects -/

def readStringValue (t : Text) : Read (Text × Text) :=
  match skipSpace t with
  | [] => .error (stopAt .endInValue [])
  | c :: rest => if c = '"' then readString .plain rest else refuse .string (c :: rest)

def readColon (t : Text) : Read (Unit × Text) :=
  match skipSpace t with
  | [] => .error (stopAt .endInObject [])
  | c :: rest => if c = ':' then .ok ((), rest) else .error (stopBehindNext .noColon (c :: rest))

/-- Steps to the next key of an object and over its opening quote; `none` at the closing brace,
which is stepped over. -/
def nextKey (first : Bool) (t : Text) : Read (Bool × Text) :=
  match skipSpace t with
  | [] => .error (stopAt .endInObject [])
  | c :: rest =>
      if c = '}' then .ok (false, rest)
      else if first then
        if c = '"' then .ok (true, rest) else .error (stopBehindNext .keyNotString (c :: rest))
      else if c = ',' then
        match skipSpace rest with
        | [] => .error (stopAt .endInValue [])
        | d :: more =>
            if d = '"' then .ok (true, more)
            else if d = '}' then .error (stopBehindNext .trailingComma (d :: more))
            else .error (stopBehindNext .keyNotString (d :: more))
      else .error (stopBehindNext .noCommaOrEnd (c :: rest))

/-- Reads the members of an object up to its closing brace; `steps` bounds their number. -/
def readMembers {α : Type} (readValue : Text → Read (α × Text)) :
    (steps : Nat) → (first : Bool) → Text → Read (List (Name × α) × Text)
  | 0, _, t => .error (stopAt .endInObject t)
  | steps + 1, first, t => do
      let (more, t) ← nextKey first t
      if more then
        let (key, t) ← readString .plain t
        let ((), t) ← readColon t
        let (value, t) ← readValue t
        let (members, t) ← readMembers readValue steps false t
        return ((key, value) :: members, t)
      else return ([], t)

/-- Reads an object; every member takes at least one character, which bounds their number. -/
def readObject {α : Type} (readValue : Text → Read (α × Text)) (t : Text) : Read (Table α × Text) :=
  match skipSpace t with
  | [] => .error (stopAt .endInValue [])
  | c :: rest =>
      if c = '{' then do
        let (members, rest) ← readMembers readValue (rest.length + 1) true rest
        return (Table.ofList members, rest)
      else refuse .map (c :: rest)

def readScopes (t : Text) : Read Scopes := do
  let (scopes, rest) ← readObject (readObject readStringValue) t
  match skipSpace rest with
  | [] => return scopes
  | c :: more => .error (stopBehindNext .trailingText (c :: more))

/-- Reads scopes; an error is worded with the line and the column of the fault. -/
def parse (t : Text) : Except String Scopes :=
  (readScopes t).mapError (Stop.message t)

end Relabel.Scopes
