/-! # Decimals with fixed places

A quotient is first rounded to a binary fraction of 53 significant bits, and that fraction is then
written with a fixed number of places. Both roundings go to the nearest value, and a tie goes to
the even one.
-/
namespace Sinkhole.Decimal

/-- The quotient rounded to a whole number, a half going to the even neighbour. -/
def roundQuotient (num den : Nat) : Nat :=
  let whole := num / den
  let rest := num % den
  if 2 * rest < den then whole
  else if den < 2 * rest then whole + 1
  else if whole % 2 = 0 then whole else whole + 1

/-- The bits that a quotient is scaled by so that its whole part has 53 of them: the first shift
is to the left, the second to the right. -/
def shiftsFor (num den : Nat) : Nat × Nat :=
  let left := 53 + Nat.log2 den - Nat.log2 num
  let right := Nat.log2 num - (53 + Nat.log2 den)
  if (num <<< left) / (den <<< right) < 1 <<< 53 then (left, right)
  else if left = 0 then (0, right + 1) else (left - 1, right)

def binaryFraction (num den : Nat) : Nat × Nat :=
  if num = 0 then (0, 1)
  else
    let (left, right) := shiftsFor num den
    (roundQuotient (num <<< left) (den <<< right) <<< right, 1 <<< left)

def padded (width n : Nat) : String :=
  let digits := toString n
  String.ofList (List.replicate (width - digits.length) '0') ++ digits

def fixed (places : Nat) (fraction : Nat × Nat) : String :=
  let scaled := roundQuotient (fraction.1 * Nat.pow 10 places) fraction.2
  toString (scaled / Nat.pow 10 places) ++ "." ++ padded places (scaled % Nat.pow 10 places)

end Sinkhole.Decimal
