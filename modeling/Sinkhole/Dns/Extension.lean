import Sinkhole.Octets

/-! # Extension options

Options of the extension record are a code, a length and data. When the last option lacks its
length or some of its data, all are ignored. The option that carries a client's subnet has a form:
a family, two prefix lengths and as many octets of address as the first prefix needs; octets after
those are dropped.
-/
namespace Sinkhole.Dns

structure ExtensionOption where
  code : UInt16
  data : Bytes
deriving DecidableEq, Repr

inductive OptionsReading where
  | options (options : List ExtensionOption)
  | incomplete
  | malformed
deriving DecidableEq, Repr

def clientSubnetCode : UInt16 := 8

def clientSubnet? : Bytes → Option Bytes
  | family1 :: family2 :: source :: scope :: address =>
    let size := if family1 = 0 ∧ family2 = 1 then 4 else if family1 = 0 ∧ family2 = 2 then 16 else 0
    let needed := (source.toNat + 7) / 8
    if size = 0 || size < needed || address.length < needed then none
    else some (family1 :: family2 :: source :: scope :: address.take needed)
  | _ => none

def optionData? (code : UInt16) (data : Bytes) : Option Bytes :=
  if code = clientSubnetCode then clientSubnet? data else some data

/-- A later option replaces an earlier one of its code. -/
def addOption (options : List ExtensionOption) (added : ExtensionOption) :
    List ExtensionOption :=
  options.filter (·.code != added.code) ++ [added]

/-- Reads options. `total` is the length of all of them, which no single length may exceed. -/
def readOptions (total : Nat) (options : List ExtensionOption) (octets : Bytes) :
    OptionsReading :=
  match octets with
  | [] => .options options
  | code1 :: code2 :: length1 :: length2 :: rest =>
    let code := Word.of16 code1 code2
    let length := (Word.of16 length1 length2).toNat
    if total < length then .malformed
    else if rest.length < length then .incomplete
    else
      match optionData? code (rest.take length) with
      | none => .malformed
      | some data => readOptions total (addOption options ⟨code, data⟩) (rest.drop length)
  | [_, _] => .incomplete
  | _ => .malformed
termination_by octets.length
decreasing_by
  simp only [List.length_drop, List.length_cons]
  omega

def optionPieces (code : UInt16) (data : Bytes) : List Bytes :=
  if code = clientSubnetCode then
    [data.take 2, (data.drop 2).take 1, (data.drop 3).take 1, data.drop 4]
  else [data]

def ExtensionOption.pieces (option : ExtensionOption) : List Bytes :=
  Word.octets16 option.code :: Word.octets16 (UInt16.ofNat option.data.length) ::
    optionPieces option.code option.data

end Sinkhole.Dns
