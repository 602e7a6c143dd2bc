import Flowchart.Text.Percent

/-!
The path that a request asks for, from the target that it names.
-/

namespace Flowchart

/-- A target without the query or the fragment that may follow its path. -/
def withoutQuery (target : List Char) : List Char :=
  target.takeWhile fun c => c != '?' && c != '#'

/-- A target without the authority that two slashes introduce. -/
def withoutAuthority : List Char → List Char
  | '/' :: '/' :: rest => rest.dropWhile (· != '/')
  | target => target

/-- Adds a segment to those already kept, last first. One dot adds nothing, and two dots take the
last segment away, but not the root. -/
def addSegment (kept : List (List Char)) (segment : List Char) : List (List Char) :=
  if segment = ['.'] then kept
  else if segment = ['.', '.'] then (if kept = [[]] then kept else kept.tail)
  else segment :: kept

/-- The segments of a path from the root, without dots. -/
def segments (path : List Char) : List (List Char) :=
  (((path.dropWhile (· == '/')).splitOn '/').foldl addSegment [[]]).reverse

/-- The path of a target. Its percent escapes are read by the sender and once more by the
receiver. -/
def pathOfTarget (target : String) : List Char :=
  let path := ['/'].intercalate (segments (withoutAuthority (withoutQuery target.toList)))
  (percentDecode (percentDecode (String.ofList path))).toList

end Flowchart
