import ServerLauncher.Json.Quoted
import ServerLauncher.Text.Pieces
import ServerLauncher.Toml.Basic

/-!
This module contains the values of TOML that are written without quotes: truth values, numbers,
dates and times. `Toml.Scalar.ofWord?` says which value a word is.
-/

namespace ServerLauncher.Toml

/--
The characters of such values.
-/
def isWordChar (c : Char) : Bool :=
  c.isAlphanum || c = '_' || c = '-' || c = '+' || c = '.' || c = ':'

/--
The digits of a number in which single underscores may stand between them.
-/
def digits? (isDigit : Char → Bool) (cs : List Char) : Option (List Char) :=
  let groups := Text.pieces '_' cs
  if groups.all fun group => !group.isEmpty && group.all isDigit then some groups.flatten else none

/--
The digits of a decimal number, of which the first may be a zero only if it is the only one.
-/
def decimal? (cs : List Char) : Option (List Char) := do
  let ds ← digits? Char.isDigit cs
  guard (ds.length = 1 || ds.head? != some '0')
  return ds

/--
A text without the sign in front of it, and whether that is a minus.
-/
def unsign : List Char → Bool × List Char
  | '-' :: rest => (true, rest)
  | '+' :: rest => (false, rest)
  | cs => (false, cs)

/--
The number with the given digits.
-/
def ofDigits (base : Nat) (cs : List Char) : Nat :=
  cs.foldl (fun n c => base * n + (Json.hexValue? c).getD 0) 0

/--
The digits of a base below ten.
-/
def isDigitBelow (base : Nat) (c : Char) : Bool :=
  c.isDigit && c.toNat - '0'.toNat < base

/--
The integer with the given digits. Integers go down to the least of those with a sign and 128 bits,
and up to the largest of those with 128 bits and no sign.
-/
def Scalar.ofInteger (negative : Bool) (base : Nat) (ds : List Char) : Scalar :=
  let ds := ds.dropWhile (· = '0')
  if 128 < ds.length then .huge
  else
    let n := ofDigits base ds
    if negative then
      if n ≤ 1 <<< 127 then .integer (-n) else .huge
    else if n < 1 <<< 128 then .integer n else .huge

def integer? (cs : List Char) : Option Scalar :=
  match cs with
  | '0' :: 'x' :: rest =>
    Scalar.ofInteger false 16 <$> digits? (fun c => (Json.hexValue? c).isSome) rest
  | '0' :: 'o' :: rest => Scalar.ofInteger false 8 <$> digits? (isDigitBelow 8) rest
  | '0' :: 'b' :: rest => Scalar.ofInteger false 2 <$> digits? (isDigitBelow 2) rest
  | cs =>
    let (negative, rest) := unsign cs
    Scalar.ofInteger negative 10 <$> decimal? rest

/--
The number that the digits of an exponent stand for. Where there are more than twenty digits that
count, twenty are enough: no number has as many digits as they say.
-/
def exponentOf (cs : List Char) : Int :=
  let (negative, ds) := unsign cs
  let n := ofDigits 10 (((ds.filter Char.isDigit).dropWhile (· = '0')).take 20)
  if negative then -n else n

/--
The floating point number with the given digits, times ten to the power of `exponent`. It is too
large from the middle between the largest float and the next power of two on. That is a number with
309 digits, so that only the digits at these places have to be looked at.
-/
def Scalar.ofFloat (ds : List Char) (exponent : Int) : Scalar :=
  let ds := ds.dropWhile (· = '0')
  let places : Int := ds.length + exponent
  if ds.isEmpty || places < 309 then .float
  else if 309 < places then .huge
  else if ofDigits 10 ((ds ++ List.replicate 309 '0').take 309) < 1 <<< 1024 - 1 <<< 970 then .float
  else .huge

def float? (cs : List Char) : Option Scalar :=
  let (_, rest) := unsign cs
  if rest = "inf".toList || rest = "nan".toList then some .float
  else
    let isE := fun c => c = 'e' || c = 'E'
    let mantissa := rest.takeWhile fun c => !isE c
    let (whole, fraction) := Text.cutAt '.' mantissa
    let exponent := if rest.any isE then some (rest.drop (mantissa.length + 1)) else none
    do
      let whole ← decimal? whole
      guard (fraction.isSome || exponent.isSome)
      let fraction ← digits? Char.isDigit (fraction.getD ['0'])
      let _ ← digits? Char.isDigit (unsign (exponent.getD ['0'])).2
      return Scalar.ofFloat (whole ++ fraction) (exponentOf (exponent.getD []) - fraction.length)

/--
The number of days of a month.
-/
def daysIn (year month : Nat) : Nat :=
  if month = 2 then
    if year % 4 = 0 ∧ (year % 100 ≠ 0 ∨ year % 400 = 0) then 29 else 28
  else if month = 4 ∨ month = 6 ∨ month = 9 ∨ month = 11 then 30
  else 31

/--
The number written with exactly `count` decimal digits.
-/
def fixed? (count : Nat) (cs : List Char) : Option Nat :=
  if cs.length = count ∧ cs.all Char.isDigit then some (ofDigits 10 cs) else none

def isDate (cs : List Char) : Bool :=
  match Text.pieces '-' cs with
  | [year, month, day] =>
    match fixed? 4 year, fixed? 2 month, fixed? 2 day with
    | some year, some month, some day =>
      1 ≤ month && month ≤ 12 && 1 ≤ day && day ≤ daysIn year month
    | _, _, _ => false
  | _ => false

/--
Whether a text is a number of seconds, with a fraction or without.
-/
def isSeconds (cs : List Char) : Bool :=
  match Text.cutAt '.' cs with
  | (whole, fraction) =>
    ((fixed? 2 whole).any fun n => n ≤ 60) &&
      fraction.all fun ds => !ds.isEmpty && ds.all Char.isDigit

/--
Whether a text is a time of day. The seconds may be left out.
-/
def isTime (cs : List Char) : Bool :=
  let below (bound : Nat) (ds : List Char) : Bool := (fixed? 2 ds).any (· < bound)
  match Text.pieces ':' cs with
  | [hour, minute] => below 24 hour && below 60 minute
  | [hour, minute, second] => below 24 hour && below 60 minute && isSeconds second
  | _ => false

/--
Whether a text is the distance of a time from universal time.
-/
def isOffset (cs : List Char) : Bool :=
  match cs with
  | ['Z'] => true
  | ['z'] => true
  | sign :: rest =>
    (sign = '+' || sign = '-') &&
      match Text.pieces ':' rest with
      | [hour, minute] => (fixed? 2 hour).any (· < 24) && (fixed? 2 minute).any (· < 60)
      | _ => false
  | [] => false

/--
The part of a time in front of its offset from universal time.
-/
def timeOfDay (cs : List Char) : List Char :=
  cs.takeWhile fun c => c.isDigit || c = ':' || c = '.'

/--
Whether a word is a date, a time, or both. Between them stands a `T` or a space.
-/
def isMoment (cs : List Char) : Bool :=
  let date := cs.take 10
  match cs.drop 10 with
  | [] => isDate date || isTime cs
  | sep :: time =>
    let clock := timeOfDay time
    let offset := time.drop clock.length
    isTime cs ||
      isDate date && (sep = 'T' || sep = 't' || sep = ' ') && isTime clock &&
        (offset.isEmpty || isOffset offset)

def Scalar.ofWord? (cs : List Char) : Option Scalar :=
  if cs = "true".toList then some (.boolean true)
  else if cs = "false".toList then some (.boolean false)
  else
    (integer? cs).orElse fun _ => (float? cs).orElse fun _ =>
      if isMoment cs then some .moment else none

/--
Read a value that is written without quotes. A date goes on behind one space if a digit follows.
-/
def readWord (cs : List Char) : Option (Scalar × List Char) :=
  let word := cs.takeWhile isWordChar
  let behind := cs.dropWhile isWordChar
  let (word, behind) :=
    match behind with
    | ' ' :: c :: rest =>
      if isDate word ∧ c.isDigit then
        (word ++ ' ' :: (c :: rest).takeWhile isWordChar, (c :: rest).dropWhile isWordChar)
      else
        (word, behind)
    | _ => (word, behind)
  (Scalar.ofWord? word).map (·, behind)

end ServerLauncher.Toml
