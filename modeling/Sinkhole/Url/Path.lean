import Sinkhole.Text.Split
import Sinkhole.Url.Percent

/-! # Paths of URLs

A path is a row of segments behind slashes. A segment of one point says nothing and one of two
points takes the segment before it back, except for the letter of a drive. A local path that starts
with the letter of a drive names that drive on this machine.
-/
namespace Sinkhole.Url

/-- Tabs and line breaks may stand anywhere in a URL and say nothing. -/
def isIgnored (c : Char) : Bool := c == '\t' || c == '\n' || c == '\r'

def isSlash (special : Bool) (c : Char) : Bool := c == '/' || (special && c == '\\')

def lowerText (segment : List Char) : String := String.ofList (segment.map Char.toLower)

def isSingleDot (segment : List Char) : Bool :=
  [".", "%2e"].contains (lowerText segment)

def isDoubleDot (segment : List Char) : Bool :=
  ["..", ".%2e", "%2e.", "%2e%2e"].contains (lowerText segment)

def isDrive : List Char → Bool
  | [letter, mark] => letter.isAlpha && (mark == ':' || mark == '|')
  | _ => false

/-- Whether a segment is a drive, alone or before a backslash. -/
def startsWithDrive (segment : List Char) : Bool := isDrive (segment.takeWhile (· != '\\'))

/-- Takes the last segment back; `done` holds the segments kept so far, last first. -/
def takeBack : (done : List (List Char)) → List (List Char)
  | [] => []
  | segment :: done => if startsWithDrive segment then segment :: done else done

/-- The segments kept after one more, last first. The last segment of a path is never left out:
one of points leaves an empty one. -/
def addSegment (done : List (List Char)) (segment : List Char) (last : Bool) :
    List (List Char) :=
  let ending := if last then [[]] else []
  if isDoubleDot segment then ending ++ takeBack done
  else if isSingleDot segment then ending ++ done
  else segment :: done

def resolveDots (done : List (List Char)) : List (List Char) → List (List Char)
  | [] => done.reverse
  | segment :: rest => resolveDots (addSegment done segment rest.isEmpty) rest

/-- The text behind the first slash. -/
def behindSlash (special : Bool) : List Char → List Char
  | [] => []
  | c :: path => if isSlash special c then path else c :: path

def hierarchicalPath (special : Bool) (path : List Char) : List Char :=
  let segments := Text.parts (isSlash special) (behindSlash special path)
  (resolveDots [] segments).flatMap fun segment => '/' :: percentEncode inPath segment

/-- Splits a segment behind a drive that ignored characters part from the rest. -/
def splitDrive? (raw : List Char) : Option (List Char × List Char) :=
  let letter := raw.dropWhile isIgnored
  let mark := (letter.drop 1).dropWhile isIgnored
  let drive := letter.take 1 ++ mark.take 1
  let rest := mark.drop 1
  let after := rest.filter (!isIgnored ·)
  if isDrive drive && mark.head? == some ':' && rest.head?.any isIgnored && !after.isEmpty then
    some (drive, after)
  else none

def resolveLocal (done : List (List Char)) : List (List Char) → List (List Char) × Bool
  | [] => (done.reverse, false)
  | raw :: rest =>
    let segment := raw.filter (!isIgnored ·)
    match done.isEmpty, splitDrive? raw with
    | true, some (drive, after) => resolveLocal [after, drive] rest
    | true, none =>
      if isDrive segment then ((resolveLocal [segment.take 1 ++ [':']] rest).1, true)
      else resolveLocal (addSegment done segment rest.isEmpty) rest
    | false, _ => resolveLocal (addSegment done segment rest.isEmpty) rest

def localPath (path : List Char) : List Char × Bool :=
  let (segments, drive) := resolveLocal [] (Text.parts (isSlash true) (behindSlash true path))
  let encoded := (segments.dropWhile (·.isEmpty)).map (percentEncode inPath)
  ('/' :: Text.joined '/' encoded, drive)

end Sinkhole.Url
