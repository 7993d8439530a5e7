import Sinkhole.Domain.CharacterMapping
import Sinkhole.Domain.Direction
import Sinkhole.Domain.Joining
import Sinkhole.Domain.Punycode
import Sinkhole.Text.Composed
import Sinkhole.Text.Mark

/-! # International domain names

A name in any script is put in its normal form, and labels that are not ASCII are then written in
letters, digits and hyphens behind a mark. A label that already bears the mark has to stand for a
text in normal form.
-/
namespace Sinkhole.Domain

/-- What labels begin with that stand for other text. -/
def encodedMark : List Char := ['x', 'n', '-', '-']

def isEncoded (label : List Char) : Bool := encodedMark.isPrefixOf label

/-- A label as it is shown and as it travels. -/
structure InternationalLabel where
  shown : List Char
  ascii : List Char
deriving DecidableEq, Repr

/-- The longest text that is written in ASCII, and the longest ASCII that is read as such. -/
def maxShownLength : Nat := 1000
def maxEncodedLength : Nat := 2000

/-- Whether a label that is not ASCII may stand in a name. -/
def isWellFormed (label : List Char) : Bool :=
  !label.head?.any Text.isMark && joinersAllowed [] label && label.length ≤ maxShownLength

def decodedLabel? (denied : Char → Bool) (text : List Char) : Option (List Char) :=
  if maxEncodedLength < text.length || text.isEmpty || text.getLast? == some '-' then none
  else
    (Punycode.decode? text).filter fun shown =>
      shown.all (fun c => isSettled c && !denied c && c != '.') && Text.composed shown == shown

def internationalLabel? (denied : Char → Bool) (label : List Char) : Option InternationalLabel :=
  if isEncoded label then
    ((decodedLabel? denied (label.drop encodedMark.length)).filter isWellFormed).map (⟨·, label⟩)
  else if label.all Punycode.isBasic then some ⟨label, label⟩
  else if isWellFormed label then some ⟨label, encodedMark ++ Punycode.encode label⟩
  else none

def normalName? (text : List Char) : Option (List Char) :=
  (text.mapM mapCharacter?).map fun mapped => Text.composed mapped.flatten

/-- The labels of a name; some of its characters may be denied. -/
def internationalLabels? (denied : Char → Bool) (text : List Char) :
    Option (List InternationalLabel) := do
  let name ← normalName? text
  if name.any denied then none
  else
    let labels ← (Text.parts (· == '.') name).mapM (internationalLabel? denied)
    if directionsAllowed (labels.map (·.shown)) then some labels else none

def toAscii? (denied : Char → Bool) (text : List Char) : Option (List Char) :=
  (internationalLabels? denied text).map fun labels => Text.joined '.' (labels.map (·.ascii))

def shownName (name : List Char) : List Char :=
  Text.joined '.' ((Text.parts (· == '.') name).map fun label =>
    if isEncoded label then (Punycode.decode? (label.drop encodedMark.length)).getD label
    else label)

end Sinkhole.Domain
