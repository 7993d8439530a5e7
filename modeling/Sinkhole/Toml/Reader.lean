import Sinkhole.Toml.Value

/-! # Reading TOML

Reads documents line by line. What starts like a number is tried as a date or a time first, then as
a number with a fraction or an exponent, and then as an integer.
-/
namespace Sinkhole.Toml

def scalar? (text : List Char) : Option (Value × List Char) :=
  match dateTime? text with
  | some (value, rest) => some (.dateTime value, rest)
  | none =>
    match float? text with
    | some (value, rest) => some (.float value, rest)
    | none => (integer? text).map fun (value, rest) => (.integer value, rest)

mutual

/-- A value. The steps bound how many values stand side by side or in each other, and `room` is how
many brackets may still be opened in each other. -/
def value? : (steps room : Nat) → List Char → Option (Value × List Char)
  | 0, _, _ => none
  | steps + 1, room, text =>
    match text with
    | '[' :: rest =>
      match room with
      | 0 => none
      | room + 1 => do
        let (items, rest) ← items? steps room rest
        pure (.array items, rest)
    | '\x7b' :: rest =>
      match room with
      | 0 => none
      | room + 1 => do
        let (entries, rest) ← inlineEntries? steps room rest
        pure (.table .inline entries, rest)
    | 't' :: 'r' :: 'u' :: 'e' :: rest => some (.boolean true, rest)
    | 'f' :: 'a' :: 'l' :: 's' :: 'e' :: rest => some (.boolean false, rest)
    | '"' :: _ => (string? text).map fun (body, rest) => (.text body, rest)
    | '\'' :: _ => (string? text).map fun (body, rest) => (.text body, rest)
    | _ => scalar? text

/-- The items of an array up to its bracket; a comma may stand behind the last one. -/
def items? : (steps room : Nat) → List Char → Option (List Value × List Char)
  | 0, _, _ => none
  | steps + 1, room, text => do
    match ← skipTrivia false text with
    | ']' :: rest => pure ([], rest)
    | text =>
      let (item, rest) ← value? steps room text
      match ← skipTrivia false rest with
      | ',' :: rest =>
        let (items, rest) ← items? steps room rest
        pure (item :: items, rest)
      | ']' :: rest => pure ([item], rest)
      | _ => none

def inlineEntries? : (steps room : Nat) → List Char → Option (Entries × List Char)
  | 0, _, _ => none
  | steps + 1, room, text =>
    match skipBlanks text with
    | '\x7d' :: rest => some ([], rest)
    | text => inlineRest? steps room [] text

def inlineRest? : (steps room : Nat) → Entries → List Char → Option (Entries × List Char)
  | 0, _, _, _ => none
  | steps + 1, room, entries, text => do
    let (path, rest) ← keyPath? text
    match rest with
    | '=' :: rest =>
      let (value, rest) ← value? steps room (skipBlanks rest)
      let key ← path.getLast?
      let entries ← entries.setDotted? path.dropLast key value
      match skipBlanks rest with
      | ',' :: rest => inlineRest? steps room entries rest
      | '\x7d' :: rest => pure (entries, rest)
      | _ => none
    | _ => none

end

structure Document where
  root : Entries
  /-- The path of the last header. -/
  current : List String

/-- A header: brackets around a path, and the rest of the line. -/
def header? (double : Bool) (text : List Char) (document : Document) :
    Option (Document × List Char) := do
  let (path, rest) ← keyPath? text
  let rest ← match double, rest with
    | false, ']' :: rest => some rest
    | true, ']' :: ']' :: rest => some rest
    | _, _ => none
  let rest ← lineEnd? rest
  let key ← path.getLast?
  let change := if double then Entries.appendTable? key else Entries.openTable? key
  let root ← document.root.changeAt? path.dropLast change
  pure (⟨root, path⟩, rest)

def keyValue? (text : List Char) (document : Document) : Option (Document × List Char) := do
  let (path, rest) ← keyPath? text
  match rest with
  | '=' :: rest =>
    let (value, rest) ← value? (2 * rest.length + 2) (maxNesting - 1) (skipBlanks rest)
    let rest ← lineEnd? rest
    let key ← path.getLast?
    let root ← document.root.changeAt? document.current (Entries.setDotted? path.dropLast key value)
    pure (⟨root, document.current⟩, rest)
  | _ => none

def lines? : (steps : Nat) → Document → List Char → Option Document
  | 0, _, _ => none
  | steps + 1, document, text =>
    match skipBlanks text with
    | [] => some document
    | '[' :: '[' :: rest => do
      let (document, rest) ← header? true rest document
      lines? steps document rest
    | '[' :: rest => do
      let (document, rest) ← header? false rest document
      lines? steps document rest
    | '#' :: rest => do
      let rest ← lineEnd? ('#' :: rest)
      lines? steps document rest
    | text =>
      match newline? text with
      | some rest => lines? steps document rest
      | none => do
        let (document, rest) ← keyValue? text document
        lines? steps document rest

/-- The document without the mark that some editors put first. -/
def dropByteOrderMark : List Char → List Char
  | '\ufeff' :: rest => rest
  | text => text

def parse? (text : String) : Option Entries :=
  let chars := dropByteOrderMark text.toList
  (lines? (chars.length + 1) ⟨[], []⟩ chars).map (·.root)

end Sinkhole.Toml
