import RebateRelay.Http.Percent
import RebateRelay.Text.Split

/-!
# Paths of addresses

A path is a list of segments, each with a slash before it, or a text of which nothing is known. In
reading a path its steps are carried out: a segment may stand for the place where one is, or for the
place above. No step leads out of a drive, which is a segment of a letter and a colon, and a path to
a file does not begin with empty segments.
-/

namespace RebateRelay.Http

/-- The path of an address. -/
inductive Path where
  /-- A path with a slash before each segment. -/
  | segments (segments : List String)
  /-- A text of which nothing is known. -/
  | opaqueText (text : String)
  deriving DecidableEq, Repr

namespace Path

/-- The text of a path. -/
def text : Path → String
  | segments parts => String.join (parts.map ("/" ++ ·))
  | opaqueText text => text

/-- A segment for the place where one is. -/
def isStay (segment : String) : Bool := [".", "%2e"].contains segment.toLower

/-- A segment for the place above. -/
def isUp (segment : String) : Bool :=
  ["..", ".%2e", "%2e.", "%2e%2e"].contains segment.toLower

/-- The name of a drive: a letter, and a colon or a bar. -/
def isDrive : List Char → Bool
  | [letter, mark] => letter.isAlpha && (mark == ':' || mark == '|')
  | _ => false

/-- A segment that no step leads out of: a drive, or one with a backslash behind it. -/
def isEnclosed (segment : String) : Bool :=
  match segment.toList with
  | letter :: mark :: rest => isDrive [letter, mark] && (rest.isEmpty || rest.head? == some '\\')
  | _ => false

/-- The segments of the place above. -/
def above (done : List String) : List String :=
  if done.getLast?.any isEnclosed then done else done.dropLast

/-- The form of a segment in a path to a file. The first one may be a drive, whose mark becomes a
colon. -/
def fileSegment (done : List String) (segment : String) : String :=
  match done, segment.toList with
  | [], [letter, mark] => if isDrive [letter, mark] then String.ofList [letter, ':'] else segment
  | _, _ => segment

/-- Carries out the segments of a path, one after the other. -/
def walk (isFile : Bool) (done : List String) : List String → List String
  | [] => done
  | segment :: rest =>
    let steps :=
      if isUp segment then above done
      else if isStay segment then done
      else done ++ [if isFile then fileSegment done segment else segment]
    let isStep := isUp segment || isStay segment
    if rest.isEmpty && isStep then steps ++ [""] else walk isFile steps rest

/-- The segments of a text with slashes between them, with the steps carried out. -/
def walked (isFile : Bool) (slash : Char → Bool) (cs : List Char) : List String :=
  let cs := cs.map fun c => if slash c then '/' else c
  walk isFile [] ((Text.splitOn '/' cs).map fun s => String.ofList (Percent.encode Percent.inPath s))

/-- A path leads to a drive. -/
def leadsToDrive (parts : List String) : Bool := parts.head?.any fun s => isDrive s.toList

/-- Segments without the empty ones in front of others. -/
def withoutEmptyFront : List String → List String
  | segment :: next :: rest =>
    if segment = "" then withoutEmptyFront (next :: rest) else segment :: next :: rest
  | parts => parts

@[simp] theorem walk_nil (isFile : Bool) (done : List String) : walk isFile done [] = done := rfl

theorem above_nil : above [] = [] := rfl

theorem withoutEmptyFront_of_ne {segment : String} (h : segment ≠ "") (rest : List String) :
    withoutEmptyFront (segment :: rest) = segment :: rest := by
  cases rest with
  | nil => rfl
  | cons next rest => simp [withoutEmptyFront, h]

end Path

end RebateRelay.Http
