import Sinkhole.Dns.Name
import Sinkhole.Domain.International
import Sinkhole.Text.Blank
import Sinkhole.Text.Numeral

/-! # Names of issuers

The name of an issuer is written in text: labels with points between them, in any script. A
backslash takes the meaning from the character behind it, and three octal digits behind one stand
for a character; an escape that the text ends in says nothing. The name is kept in its normal form
and shown in its own script.
-/
namespace Sinkhole.Dns

inductive EscapeState where
  | outside
  | opened
  | digits (value : Nat) (missing : Nat)
deriving DecidableEq, Repr

def charOfCode? (code : Nat) : Option Char :=
  if code.isValidChar then some (Char.ofNat code) else none

def isControl (c : Char) : Bool := c.toNat < 0x20 || (0x7f ≤ c.toNat && c.toNat ≤ 0x9f)

/-- Splits text into labels at its points; escapes are resolved. `label` is what was read of the
current one, last character first. -/
def readLabels (state : EscapeState) (label : List Char) (text : List Char) :
    Option (List (List Char)) :=
  match state, text with
  | _, [] => some (if label.isEmpty then [] else [label.reverse])
  | .outside, c :: rest =>
    if c = '.' then (readLabels .outside [] rest).map (label.reverse :: ·)
    else if c = '\\' then readLabels .opened label rest
    else if isControl c || Text.isBlank c then none
    else readLabels .outside (c :: label) rest
  | .opened, c :: rest =>
    if Text.isNumeral c then
      (digitValue? 8 c).bind fun digit => readLabels (.digits digit 2) label rest
    else readLabels .outside (c :: label) rest
  | .digits value missing, c :: rest =>
    match digitValue? 8 c with
    | none => none
    | some digit =>
      let value := value * 8 + digit
      if missing = 1 then
        (charOfCode? value).bind fun char => readLabels .outside (char :: label) rest
      else readLabels (.digits value (missing - 1)) label rest

/-- Characters of labels: letters, digits, underscores, hyphens that do not open them, and the
points of mailboxes. -/
def isSafe (first : Bool) (c : Char) : Bool :=
  c.isAlphanum || (c == '-' && !first) || c == '_' || (c == '*' && first) || c == '.'

def safeLabel? : List Char → Option Label
  | [] => none
  | first :: rest =>
    if isSafe true first && rest.all (isSafe false) && rest.length < maxLabelLength then
      some ((first :: rest).map fun c => UInt8.ofNat c.toNat)
    else none

/-- Writes with other letters what once could not be told from them. -/
def widelyRead (c : Char) : List Char :=
  if c = 'ß' || c = 'ẞ' then ['s', 's']
  else if c = 'ς' then ['σ']
  else if Domain.isJoiner c || Domain.isNonJoiner c then []
  else [c]

/-- Characters that no host name holds. -/
def isOutsideHostNames (c : Char) : Bool :=
  c.toNat < 128 && !(c.isAlphanum || c == '-' || c == '.')

/-- The label of a text. A wildcard stands for itself, names of services keep their case, and
other labels are put in ASCII. -/
def labelOfText? (text : List Char) : Option Label :=
  if text = ['*'] || text.head? == some '_' then safeLabel? text
  else (Domain.toAscii? isOutsideHostNames (text.flatMap widelyRead)).bind safeLabel?

structure IssuerName where
  labels : List Label
  final : Bool
deriving DecidableEq, Repr

namespace IssuerName

def ofText? (text : List Char) : Option IssuerName :=
  if text = ['.'] then some ⟨[], true⟩
  else do
    let labels ← (← readLabels .outside [] text).mapM labelOfText?
    if maxNameLength < Name.labelsLength labels then none
    else some ⟨labels, text.getLast? == some '.'⟩

def shownLabel (label : Label) : List Char :=
  let text := label.map fun octet => Char.ofNat octet.toNat
  if Domain.isEncoded text then Domain.shownName text else Name.labelText label

def text (name : IssuerName) : List Char :=
  Text.joined '.' (name.labels.map shownLabel) ++ if name.final then ['.'] else []

end IssuerName

end Sinkhole.Dns
