import Sinkhole.Text.CombiningClass
import Sinkhole.Text.Composite

/-! # The composed form of text

The same text can be written with composites or with their parts, and with marks in different
orders. In the composed form all marks are in their fixed order and everything that can be a
composite is one.
-/
namespace Sinkhole.Text

def decompose : (steps : Nat) → Char → List Char
  | 0, c => [c]
  | steps + 1, c =>
    match pairOf? c with
    | some (first, second) => decompose steps first ++ [second]
    | none => [c]

/-- No composite stands for more characters. -/
def maxParts : Nat := 3

def decomposed (text : List Char) : List Char := text.flatMap (decompose maxParts)

/-- Puts every run of elements of a class in order. -/
def sortRuns {α : Type} (inRun : α → Bool) (le : α → α → Bool) (items : List α) : List α :=
  match items with
  | [] => []
  | item :: rest =>
    if inRun item then
      (item :: rest.takeWhile inRun).mergeSort le ++ sortRuns inRun le (rest.dropWhile inRun)
    else item :: sortRuns inRun le rest
termination_by items.length
decreasing_by
  · exact Nat.lt_succ_of_le (List.dropWhile_suffix inRun).length_le
  · exact Nat.lt_succ_self _

def isCombining (c : Char) : Bool := combiningClass c != 0

/-- Puts every run of marks in order. -/
def orderMarks (text : List Char) : List Char :=
  sortRuns isCombining (combiningClass · ≤ combiningClass ·) text

/-- Text on its way into composites: what is done, last first, then the character that may still
become a composite with its marks that did not, last first. -/
structure Composing where
  done : List Char
  starter : Option Char
  marks : List Char

namespace Composing

def reversed (state : Composing) : List Char :=
  state.marks ++ (state.starter.toList ++ state.done)

/-- Whether a mark before it keeps the character from the starter. -/
def isBlocked (state : Composing) (c : Char) : Bool :=
  state.marks.head?.any fun mark => combiningClass c ≤ combiningClass mark

def add (state : Composing) (c : Char) : Composing :=
  let whole? := if state.isBlocked c then none else state.starter.bind (wholeOf? · c)
  match whole? with
  | some whole => { state with starter := some whole }
  | none =>
    if isCombining c then { state with marks := c :: state.marks }
    else ⟨state.reversed, some c, []⟩

end Composing

def composed (text : List Char) : List Char :=
  ((orderMarks (decomposed text)).foldl Composing.add ⟨[], none, []⟩).reversed.reverse

end Sinkhole.Text
