/-! # Labels in letters, digits and hyphens

Any text can be written in ASCII: its ASCII characters come first, then a hyphen if there are any,
then digits in base 36 that say which other characters go where. Each character is a number: how
far to count to it, going through all places of the text for one code point after another. The
digits of a number have growing weights, and the last one is a digit below its threshold.
-/
namespace Sinkhole.Domain.Punycode

def base : Nat := 36

def limit : Nat := 4294967296

def firstCode : Nat := 128

def firstBias : Nat := 72

/-- The least digit that another one follows, `place` being 36 times the digit's place. -/
def threshold (bias place : Nat) : Nat := max 1 (min 26 (place - bias))

theorem one_le_threshold (bias place : Nat) : 1 ≤ threshold bias place := by
  unfold threshold; omega

theorem threshold_le (bias place : Nat) : threshold bias place ≤ 26 := by
  unfold threshold; omega

def scaledBias (distance : Nat) : Nat :=
  if 455 < distance then base + scaledBias (distance / 35)
  else 36 * distance / (distance + 38)
termination_by distance

/-- The bias for the number after one for a text of `size` characters. -/
def nextBias (distance size : Nat) (first : Bool) : Nat :=
  let distance := if first then distance / 700 else distance / 2
  scaledBias (distance + distance / size)

def digitChar (digit : Nat) : Char :=
  if digit < 26 then Char.ofNat (97 + digit) else Char.ofNat (22 + digit)

def numberDigits (bias place number : Nat) : List Nat :=
  let least := threshold bias place
  if number < least then [number]
  else (least + (number - least) % (base - least)) ::
    numberDigits bias (place + base) ((number - least) / (base - least))
termination_by number
decreasing_by
  have := one_le_threshold bias place
  have := Nat.div_le_self (number - threshold bias place) (base - threshold bias place)
  omega

/-- A text on its way into digits: how many characters are written, what to count from and the
digits so far. -/
structure Encoding where
  written : Nat
  distance : Nat
  bias : Nat
  digits : List Nat
deriving Repr

namespace Encoding

def visit (basics code : Nat) (state : Encoding) (c : Char) : Encoding :=
  if c.toNat < code then { state with distance := state.distance + 1 }
  else if c.toNat = code then
    { written := state.written + 1
      distance := 0
      bias := nextBias state.distance (state.written + 1) (state.written == basics)
      digits := state.digits ++ numberDigits state.bias base state.distance }
  else state

def writeCodes (basics : Nat) (text : List Char) (code : Nat) (state : Encoding) :
    List Nat → Encoding
  | [] => state
  | next :: rest =>
    let start := state.distance + (next - code) * (state.written + 1)
    let state := text.foldl (visit basics next) { state with distance := start }
    writeCodes basics text (next + 1) { state with distance := state.distance + 1 } rest

end Encoding

def isBasic (c : Char) : Bool := c.toNat < firstCode

def encode (text : List Char) : List Char :=
  let basics := text.filter isBasic
  let codes := (((text.filter (!isBasic ·)).map Char.toNat).mergeSort (· ≤ ·)).eraseDups
  let start : Encoding := ⟨basics.length, 0, firstBias, []⟩
  let done := start.writeCodes basics.length text firstCode codes
  (if basics.isEmpty then [] else basics ++ ['-']) ++ done.digits.map digitChar

def digitOf? (c : Char) : Option Nat :=
  if 'a' ≤ c ∧ c ≤ 'z' then some (c.toNat - 97)
  else if 'A' ≤ c ∧ c ≤ 'Z' then some (c.toNat - 65)
  else if '0' ≤ c ∧ c ≤ '9' then some (c.toNat - 22)
  else none

def readNumber (bias weight place value : Nat) : List Nat → Option (Nat × List Nat)
  | [] => none
  | digit :: rest =>
    let value := value + digit * weight
    let least := threshold bias place
    if limit ≤ value then none
    else if digit < least then some (value, rest)
    else if limit ≤ weight * (base - least) then none
    else readNumber bias (weight * (base - least)) (place + base) value rest

theorem length_lt_of_readNumber {bias weight place value : Nat} {digits : List Nat}
    {result : Nat × List Nat} (h : readNumber bias weight place value digits = some result) :
    result.2.length < digits.length := by
  fun_induction readNumber bias weight place value digits with
  | case1 => simp at h
  | case2 => simp at h
  | case3 => cases h; simp
  | case4 => simp at h
  | case5 _ _ _ _ _ _ _ _ _ _ ih => exact Nat.lt_succ_of_lt (ih h)

/-- Puts the characters of the numbers into the text. Counting goes on from the place `index` and
the code point `code`. -/
def insertAll (code index bias : Nat) (text : List Char) (digits : List Nat) :
    Option (List Char) :=
  if digits.isEmpty then some text
  else
    match h : readNumber bias 1 base index digits with
    | none => none
    | some (value, rest) =>
      have := length_lt_of_readNumber h
      let size := text.length + 1
      let code := code + value / size
      let place := value % size
      if code.isValidChar then
        insertAll code (place + 1) (nextBias (value - index) size (index == 0))
          (text.insertIdx place (Char.ofNat code)) rest
      else none
termination_by digits.length

/-- The text that was written so. The last hyphen ends its ASCII characters, unless there are
none. -/
def decode? (text : List Char) : Option (List Char) := do
  let reversed := text.reverse
  let basics := (reversed.dropWhile (· != '-')).drop 1
  let digits := if basics.isEmpty then text else (reversed.takeWhile (· != '-')).reverse
  insertAll firstCode 0 firstBias (basics.reverse.map Char.toLower) (← digits.mapM digitOf?)

end Sinkhole.Domain.Punycode
