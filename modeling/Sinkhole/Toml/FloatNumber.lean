import Sinkhole.Toml.Lexeme

/-! # Floating-point numbers

A number with a fraction, an exponent or both is kept as it is written. It is refused when the
nearest number of 64 bits would be infinite, unless it is negative.
-/
namespace Sinkhole.Toml

inductive FloatNumber where
  /-- The significand times a power of ten. -/
  | finite (negative : Bool) (significand : Nat) (exponent : Int)
  | infinite (negative : Bool)
  | notANumber
deriving DecidableEq, Repr

/-- What no 64-bit number is near to: the greatest one and half of its last place. -/
def firstInfinite : Nat := (1 <<< 1024) - (1 <<< 970)

/-- Whether digits times a power of ten are out of range. -/
def overflows (digits : List Nat) (exponent : Int) : Bool :=
  let digits := digits.dropWhile (· == 0)
  let magnitude := digits.length + exponent
  if digits.isEmpty || magnitude ≤ 308 then false
  else if 310 ≤ magnitude then true
  else
    firstInfinite * Nat.pow 10 (-exponent).toNat ≤
      digitsValue 10 digits * Nat.pow 10 exponent.toNat

def splitSign : List Char → Bool × List Char
  | '+' :: rest => (false, rest)
  | '-' :: rest => (true, rest)
  | text => (false, text)

def fractionDigits? : List Char → Option (List Nat × List Char)
  | '.' :: rest => digitList? 10 rest
  | _ => none

def exponent? : List Char → Option (Int × List Char)
  | 'e' :: rest => read rest
  | 'E' :: rest => read rest
  | _ => none
where
  read (text : List Char) : Option (Int × List Char) :=
    let (negative, text) := splitSign text
    (digits? 10 text).map fun (value, rest) =>
      (if negative then -Int.ofNat value else Int.ofNat value, rest)

def fractionAndExponent? (text : List Char) : Option ((List Nat × Int) × List Char) :=
  match fractionDigits? text with
  | none => (exponent? text).map fun (exponent, rest) => (([], exponent), rest)
  | some (fraction, rest) =>
    match exponent? rest with
    | none => some ((fraction, 0), rest)
    | some (exponent, rest) => some ((fraction, exponent), rest)

def float? (text : List Char) : Option (FloatNumber × List Char) :=
  match splitSign text with
  | (negative, 'i' :: 'n' :: 'f' :: rest) => some (.infinite negative, rest)
  | (_, 'n' :: 'a' :: 'n' :: rest) => some (.notANumber, rest)
  | (negative, text) => do
    let (whole, rest) ← decimalDigits? text
    let ((fraction, exponent), rest) ← fractionAndExponent? rest
    let digits := whole ++ fraction
    let exponent := exponent - fraction.length
    if overflows digits exponent then
      if negative then some (.infinite true, rest) else none
    else some (.finite negative (digitsValue 10 digits) exponent, rest)

end Sinkhole.Toml
