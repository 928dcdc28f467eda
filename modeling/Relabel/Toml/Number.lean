import Relabel.Number.Signed64
import Relabel.Toml.Item
import Relabel.Toml.Quoted

/-!
# TOML numbers

Whole numbers of 64 bits in four bases, and binary floating point numbers. Underscores may
stand between digits.
-/

namespace Relabel.Toml

/-- Reads the digits behind a digit; an underscore has to be followed by one. -/
def moreDigits (isDigit : Char → Bool) : Text → Option (Text × Text)
  | [] => some ([], [])
  | c :: rest =>
      if isDigit c then consChar c (moreDigits isDigit rest)
      else if c = '_' then
        match rest with
        | d :: rest => if isDigit d then consChar d (moreDigits isDigit rest) else none
        | [] => none
      else some ([], c :: rest)

/-- Reads one or more digits. -/
def digits? (isDigit : Char → Bool) : Text → Option (Text × Text)
  | [] => none
  | c :: rest => if isDigit c then consChar c (moreDigits isDigit rest) else none

/-- The number that digits of a base spell. -/
def ofDigits (base : Nat) (digits : Text) : Nat :=
  digits.foldl (fun n c => base * n + (hexDigit? c).getD 0) 0

/-- Splits off a sign: whether it is a minus, and the rest. -/
def sign : Text → Bool × Text
  | '-' :: rest => (true, rest)
  | '+' :: rest => (false, rest)
  | t => (false, t)

/-- Reads the digits of a whole decimal number: a zero stands alone. -/
def wholeDigits? : Text → Option (Text × Text)
  | '0' :: rest => some (['0'], rest)
  | t => digits? Char.isDigit t

def signed (negative : Bool) (n : Nat) : Int :=
  if negative then -n else n

/-- A whole number, if 64 bits hold it. -/
def int? (n : Int) : Option Item :=
  if fitsSigned64 n then some (.int n) else none

/-- A floating point number; a large positive number has to be finite. -/
def float? (negative : Bool) (digits : Text) (exponent : Int) : Option Item :=
  let value := Binary64.ofDecimal negative (ofDigits 10 digits) exponent
  if value = .infinity false then none else some (.float value)

/-- Reads an exponent behind its mark. -/
def exponent? (t : Text) : Option (Int × Text) := do
  let (negative, t) := sign t
  let (digits, rest) ← digits? Char.isDigit t
  return (signed negative (ofDigits 10 digits), rest)

/-- Goes on behind the whole part of a decimal number. -/
def afterWhole (negative : Bool) (whole : Text) : Text → Option (Item × Text)
  | '.' :: t => do
      let (fraction, t) ← digits? Char.isDigit t
      let places : Int := -fraction.length
      match t with
      | c :: t' =>
          if c = 'e' ∨ c = 'E' then do
            let (exponent, rest) ← exponent? t'
            return (← float? negative (whole ++ fraction) (places + exponent), rest)
          else do return (← float? negative (whole ++ fraction) places, t)
      | [] => do return (← float? negative (whole ++ fraction) places, t)
  | t@(c :: t') =>
      if c = 'e' ∨ c = 'E' then do
        let (exponent, rest) ← exponent? t'
        return (← float? negative whole exponent, rest)
      else do return (← int? (signed negative (ofDigits 10 whole)), t)
  | [] => do return (← int? (signed negative (ofDigits 10 whole)), [])

/-- Reads a whole number with digits of a base. -/
def based (base : Nat) (t : Text) : Option (Item × Text) := do
  let (digits, rest) ← digits? (fun c => (hexDigit? c).any (· < base)) t
  return (← int? (ofDigits base digits), rest)

/-- Reads a decimal number, infinity or the value that is no number. -/
def decimal (t : Text) : Option (Item × Text) :=
  let (negative, t) := sign t
  match t with
  | 'i' :: 'n' :: 'f' :: rest => some (.float (.infinity negative), rest)
  | 'n' :: 'a' :: 'n' :: rest => some (.float .nan, rest)
  | t => do
      let (whole, rest) ← wholeDigits? t
      afterWhole negative whole rest

/-- Reads a number. -/
def number? : Text → Option (Item × Text)
  | '0' :: 'x' :: rest => based 16 rest
  | '0' :: 'o' :: rest => based 8 rest
  | '0' :: 'b' :: rest => based 2 rest
  | t => decimal t

end Relabel.Toml
