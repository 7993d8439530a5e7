import Sinkhole.Text.Digits
import Sinkhole.Text.Split

/-! # Tables of characters

A property of characters is a table of ranges of code points in increasing order. The ranges are
written in lines of hexadecimal numbers with blanks between them: `300-36f` is a range and `378`
a single code point.
-/
namespace Sinkhole.Text

structure CharacterRange (α : Type) where
  first : Nat
  last : Nat
  value : α
deriving Repr

abbrev CharacterTable (α : Type) := Array (CharacterRange α)

def hexNumber (text : List Char) : Nat := digitsValue 16 (spanDigits 16 text).1

namespace CharacterRange

variable {α : Type}

def read (value : α) (text : List Char) : CharacterRange α × List Char :=
  let (first, rest) := spanDigits 16 text
  match rest with
  | '-' :: rest =>
    let (last, rest) := spanDigits 16 rest
    (⟨digitsValue 16 first, digitsValue 16 last, value⟩, rest)
  | _ => (⟨digitsValue 16 first, digitsValue 16 first, value⟩, rest)

end CharacterRange

def lineWords (lines : List String) : List (List Char) :=
  lines.flatMap fun line => parts (· == ' ') line.toList

namespace CharacterTable

variable {α : Type}

def ofRanges (ranges : List (CharacterRange α)) : CharacterTable α :=
  (ranges.mergeSort fun a b => a.first ≤ b.first).toArray

def ofClasses (classes : List (α × List String)) : CharacterTable α :=
  ofRanges (classes.flatMap fun (value, lines) =>
    (lineWords lines).map fun word => (CharacterRange.read value word).1)

/-- The range that holds the code point, among those with an index from `low` up to `high`. -/
def search? (table : CharacterTable α) (code low high : Nat) : Option (CharacterRange α) :=
  if low < high then
    let middle := (low + high) / 2
    match table[middle]? with
    | none => none
    | some range =>
      if code < range.first then search? table code low middle
      else if range.last < code then search? table code (middle + 1) high
      else some range
  else none
termination_by high - low
decreasing_by all_goals omega

def range? (table : CharacterTable α) (c : Char) : Option (CharacterRange α) :=
  search? table c.toNat 0 table.size

def value? (table : CharacterTable α) (c : Char) : Option α := (table.range? c).map (·.value)

def contains (table : CharacterTable α) (c : Char) : Bool := (table.range? c).isSome

theorem mem_of_search? {table : CharacterTable α} {code low high : Nat}
    {range : CharacterRange α} (h : table.search? code low high = some range) :
    range ∈ table ∧ range.first ≤ code ∧ code ≤ range.last := by
  fun_induction search? table code low high with
  | case1 => simp at h
  | case2 _ _ _ _ _ _ _ ih => exact ih h
  | case3 _ _ _ _ _ _ _ _ ih => exact ih h
  | case4 _ _ _ _ range' found _ _ =>
    cases h
    exact ⟨Array.mem_of_getElem? found, by omega, by omega⟩
  | case5 => simp at h

end CharacterTable

end Sinkhole.Text
