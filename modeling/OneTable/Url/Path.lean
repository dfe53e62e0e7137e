import OneTable.Text.Split
import OneTable.Url.Percent

/-!
# Paths of URLs

A path is a list of segments behind slashes. A segment of one dot says nothing and one of two dots
takes back the segment before it, in any spelling of the dots; a segment that begins like the
letter of a drive is not taken back.
-/

namespace OneTable.Url

/-- One dot, written out or percent-encoded. -/
def isDot (segment : List Char) : Bool :=
  ["." , "%2e"].contains (String.ofList (segment.map Char.toLower))

/-- Two dots, each written out or percent-encoded. -/
def isDoubleDot (segment : List Char) : Bool :=
  ["..", ".%2e", "%2e.", "%2e%2e"].contains (String.ofList (segment.map Char.toLower))

/-- A letter and a colon or a bar. -/
def isDrive : List Char → Bool
  | [a, b] => a.isAlpha && (b == ':' || b == '|')
  | _ => false

/-- A drive, with nothing or a backslash behind it. -/
def beginsWithDrive (segment : List Char) : Bool :=
  isDrive (segment.take 2) && (segment[2]?.all (· == '\\'))

/-- Takes back the last segment, unless it begins with a drive. -/
def dropLastSegment (segments : List (List Char)) : List (List Char) :=
  match segments.getLast? with
  | some last => if beginsWithDrive last then segments else segments.dropLast
  | none => []

/-- Adds a segment with a slash behind it to finished ones. -/
def addSegment (finished : List (List Char)) (segment : List Char) : List (List Char) :=
  if isDoubleDot segment then dropLastSegment finished
  else if isDot segment then finished
  else finished ++ [segment]

/-- The path whose segments stand behind its first slash; the last has no slash behind it. -/
def normalPath (cs : List Char) : List Char :=
  let segments := (Text.pieces (· == '/') cs).map (percentEncode isPathEncoded)
  let finished := segments.dropLast.foldl addSegment []
  let last := segments.getLast?.getD []
  let (finished, last) :=
    if isDoubleDot last then (dropLastSegment finished, [])
    else if isDot last then (finished, [])
    else (finished, last)
  '/' :: finished.flatMap (· ++ ['/']) ++ last

/-- The path behind a host. Nothing, or what begins like a query or a fragment, is no path; a first
slash may be left out. -/
def pathBehindHost : List Char → List Char
  | [] => []
  | '?' :: _ => []
  | '#' :: _ => []
  | '/' :: rest => normalPath rest
  | cs => normalPath cs

end OneTable.Url
