import Sinkhole.Text.Digits

/-! # TOML lexemes

Blanks, comments, keys, strings and integers. A reader takes the characters ahead and gives its
value with the characters behind it. Loops are bounded by a number of steps; as many as there are
characters are always enough.
-/
namespace Sinkhole.Toml

def isTomlBlank (c : Char) : Bool := c == ' ' || c == '\t'

def isTextChar (c : Char) : Bool :=
  c == '\t' || (0x20 ≤ c.toNat && c.toNat != 0x7f)

def skipBlanks (text : List Char) : List Char := text.dropWhile isTomlBlank

def newline? : List Char → Option (List Char)
  | '\n' :: rest => some rest
  | '\r' :: '\n' :: rest => some rest
  | _ => none

def skipComment (text : List Char) : List Char :=
  match text with
  | '#' :: rest => rest.dropWhile isTextChar
  | _ => text

/-- Blanks and a comment up to the end of the line or of the text. -/
def lineEnd? (text : List Char) : Option (List Char) :=
  match skipComment (skipBlanks text) with
  | [] => some []
  | rest => newline? rest

/-- Skips blanks, line breaks and comments. A comment has to end in a line break. -/
def skipTrivia : (comment : Bool) → List Char → Option (List Char)
  | false, [] => some []
  | true, [] => none
  | false, c :: rest =>
    if isTomlBlank c || c == '\n' then skipTrivia false rest
    else if c == '\r' then
      match rest with
      | '\n' :: _ => skipTrivia false rest
      | _ => none
    else if c == '#' then skipTrivia true rest
    else some (c :: rest)
  | true, c :: rest =>
    if c == '\n' then skipTrivia false rest
    else if c == '\r' then
      match rest with
      | '\n' :: _ => skipTrivia false rest
      | _ => none
    else if isTextChar c then skipTrivia true rest
    else none

def charOfDigits? (digits : List Char) : Option Char := do
  let values ← digits.mapM (digitValue? 16)
  let code := digitsValue 16 values
  if code < 0xd800 || (0xdfff < code && code < 0x110000) then some (Char.ofNat code) else none

def escape? : List Char → Option (Char × List Char)
  | 'b' :: rest => some ('\x08', rest)
  | 't' :: rest => some ('\t', rest)
  | 'n' :: rest => some ('\n', rest)
  | 'f' :: rest => some ('\x0c', rest)
  | 'r' :: rest => some ('\r', rest)
  | '"' :: rest => some ('"', rest)
  | '\\' :: rest => some ('\\', rest)
  | 'u' :: rest =>
    if rest.length < 4 then none
    else (charOfDigits? (rest.take 4)).map fun c => (c, rest.drop 4)
  | 'U' :: rest =>
    if rest.length < 8 then none
    else (charOfDigits? (rest.take 8)).map fun c => (c, rest.drop 8)
  | _ => none

def basicBody? : (steps : Nat) → List Char → Option (List Char × List Char)
  | 0, _ => none
  | _, [] => none
  | steps + 1, c :: rest =>
    if c = '"' then some ([], rest)
    else if c = '\\' then do
      let (escaped, rest) ← escape? rest
      let (body, rest) ← basicBody? steps rest
      pure (escaped :: body, rest)
    else if isTextChar c then do
      let (body, rest) ← basicBody? steps rest
      pure (c :: body, rest)
    else none

def literalBody? (text : List Char) : Option (List Char × List Char) :=
  let body := text.takeWhile fun c => isTextChar c && c != '\''
  match text.drop body.length with
  | '\'' :: rest => some (body, rest)
  | _ => none

/-- The end of a string in triple quotes: up to two more quotes still belong to it. -/
def closing? (quote : Char) : List Char → Option (List Char × List Char)
  | a :: b :: c :: rest =>
    if a = quote && b = quote && c = quote then
      let extra := (rest.takeWhile (· == quote)).take 2
      some (extra, rest.drop extra.length)
    else none
  | _ => none

def skipBreaks : List Char → List Char
  | '\r' :: '\n' :: rest => skipBreaks rest
  | c :: rest => if isTomlBlank c || c == '\n' then skipBreaks rest else c :: rest
  | [] => []

/-- What follows a line break that was escaped, with all blanks and breaks after it. -/
def continuation? (text : List Char) : Option (List Char) :=
  (newline? (skipBlanks text)).map skipBreaks

/-- A string in triple quotes. Escapes are resolved where asked, and breaks become line feeds. -/
def multilineBody? (quote : Char) (escapes : Bool) :
    (steps : Nat) → List Char → Option (List Char × List Char)
  | 0, _ => none
  | _, [] => none
  | steps + 1, c :: rest =>
    match closing? quote (c :: rest) with
    | some closed => some closed
    | none =>
      match newline? (c :: rest) with
      | some rest => do
        let (body, rest) ← multilineBody? quote escapes steps rest
        pure ('\n' :: body, rest)
      | none =>
        if escapes && c = '\\' then
          match continuation? rest with
          | some rest => multilineBody? quote escapes steps rest
          | none => do
            let (escaped, rest) ← escape? rest
            let (body, rest) ← multilineBody? quote escapes steps rest
            pure (escaped :: body, rest)
        else if isTextChar c then do
          let (body, rest) ← multilineBody? quote escapes steps rest
          pure (c :: body, rest)
        else none

/-- A line break right behind opening triple quotes does not count. -/
def skipFirstBreak (text : List Char) : List Char := (newline? text).getD text

def lineString? : List Char → Option (String × List Char)
  | '"' :: rest => (basicBody? (rest.length + 1) rest).map fun (body, rest) =>
      (String.ofList body, rest)
  | '\'' :: rest => (literalBody? rest).map fun (body, rest) => (String.ofList body, rest)
  | _ => none

def string? (text : List Char) : Option (String × List Char) :=
  match text with
  | '"' :: '"' :: '"' :: rest =>
    (multilineBody? '"' true (rest.length + 1) (skipFirstBreak rest)).map fun (body, rest) =>
      (String.ofList body, rest)
  | '\'' :: '\'' :: '\'' :: rest =>
    (multilineBody? '\'' false (rest.length + 1) (skipFirstBreak rest)).map fun (body, rest) =>
      (String.ofList body, rest)
  | _ => lineString? text

def isBareKeyChar (c : Char) : Bool := c.isAlphanum || c == '_' || c == '-'

def simpleKey? (text : List Char) : Option (String × List Char) :=
  match text.takeWhile isBareKeyChar with
  | [] => lineString? text
  | key => some (String.ofList key, text.drop key.length)

/-- Values nest less deeply than this, and paths have fewer keys. -/
def maxNesting : Nat := 80

/-- Keys with points between them, and blanks around the points. -/
def keys? : (steps : Nat) → List Char → Option (List String × List Char)
  | 0, _ => none
  | steps + 1, text => do
    let (key, rest) ← simpleKey? (skipBlanks text)
    match skipBlanks rest with
    | '.' :: rest => do
      let (keys, rest) ← keys? steps rest
      pure (key :: keys, rest)
    | rest => pure ([key], rest)

def keyPath? (text : List Char) : Option (List String × List Char) :=
  (keys? (text.length + 1) text).filter fun (path, _) => path.length < maxNesting

/-- Digits of a base with single underscores between them. -/
def digitRun (base : Nat) : List Char → List Nat × List Char
  | [] => ([], [])
  | c :: rest =>
    match digitValue? base c with
    | some digit =>
      let (digits, after) := digitRun base rest
      (digit :: digits, after)
    | none =>
      match c, rest with
      | '_', d :: _ =>
        if (digitValue? base d).isSome then digitRun base rest else ([], c :: rest)
      | _, _ => ([], c :: rest)

def maxInteger : Nat := 9223372036854775807

def digitList? (base : Nat) (text : List Char) : Option (List Nat × List Char) :=
  match text with
  | c :: _ => if (digitValue? base c).isSome then some (digitRun base text) else none
  | [] => none

def digits? (base : Nat) (text : List Char) : Option (Nat × List Char) :=
  (digitList? base text).map fun (digits, rest) => (digitsValue base digits, rest)

/-- The digits of a decimal number: a zero alone, or digits that do not start with one. -/
def decimalDigits? (text : List Char) : Option (List Nat × List Char) :=
  match text with
  | '0' :: rest => some ([0], rest)
  | _ => digitList? 10 text

def decimal? (text : List Char) : Option (Nat × List Char) :=
  (decimalDigits? text).map fun (digits, rest) => (digitsValue 10 digits, rest)

def inRange (value : Nat) (rest : List Char) : Option (Int × List Char) :=
  if maxInteger < value then none else some (Int.ofNat value, rest)

def integer? : List Char → Option (Int × List Char)
  | '0' :: 'x' :: text => do
    let (value, rest) ← digits? 16 text
    inRange value rest
  | '0' :: 'o' :: text => do
    let (value, rest) ← digits? 8 text
    inRange value rest
  | '0' :: 'b' :: text => do
    let (value, rest) ← digits? 2 text
    inRange value rest
  | '+' :: text => do
    let (value, rest) ← decimal? text
    inRange value rest
  | '-' :: text => do
    let (value, rest) ← decimal? text
    if maxInteger + 1 < value then none else some (-Int.ofNat value, rest)
  | text => do
    let (value, rest) ← decimal? text
    inRange value rest

end Sinkhole.Toml
