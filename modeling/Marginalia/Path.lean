import Marginalia.Text

/-
  This file defines paths: where they start and the segments
  they go through. Empty segments and segments `.` are not
  kept; a segment `..` is, since only the file tree can tell
  where it leads.

  Key definitions include:
    * `Path`
    * `Path.ofText`
    * `Path.toText`
    * `Path.append`
    * `Path.parent`
    * `Path.extension`
    * `Path.collapse`
-/

namespace Marginalia

------------------------------------------------------------
-- Paths
------------------------------------------------------------

/-
  Where a path starts: at the current directory, at the root,
  or at the root written with exactly two slashes, which is a
  spelling of its own.
-/
inductive Path.Origin where
  | here
  | root
  | doubleRoot
  deriving DecidableEq, Repr

/- A path as its origin and its segments. -/
structure Path where
  origin : Path.Origin := .here
  segments : List Text := []
  deriving DecidableEq, Repr

namespace Path

/- The segment that leads to the directory above. -/
def up : Text :=
  ['.', '.']

/- The path of the current directory. -/
def here : Path :=
  {}

------------------------------------------------------------
-- Reading and Writing Paths
------------------------------------------------------------

namespace Origin

/- The origin of a written path, by its leading slashes. -/
def ofText
    (text : Text) : Origin :=
  match (text.takeWhile (· == '/')).length with
  | 0 => .here
  | 2 => .doubleRoot
  | _ => .root

/- The leading slashes of a written path. -/
def toText : Origin → Text
  | .here => []
  | .root => ['/']
  | .doubleRoot => ['/', '/']

end Origin

/- A segment that is kept: neither empty nor `.`. -/
def keeps
    (segment : Text) : Bool :=
  segment != [] && segment != ['.']

/- Read a path. -/
def ofText
    (text : Text) : Path :=
  { origin := Origin.ofText text
    segments := (Text.splitAt '/' text).filter keeps }

/- Write a path; the current directory is written `.`. -/
def toText
    (path : Path) : Text :=
  match path.origin, path.segments with
  | .here, [] => ['.']
  | origin, segments => origin.toText ++ Text.join ['/'] segments

------------------------------------------------------------
-- Going Through the File Tree
------------------------------------------------------------

/-
  Continue a path by a second one. A second path that starts
  at the root replaces the first.
-/
def append
    (path next : Path) : Path :=
  match next.origin with
  | .here =>
      { path with segments := path.segments ++ next.segments }
  | _ => next

/- Continue a path by one segment. -/
def child
    (path : Path)
    (segment : Text) : Path :=
  { path with segments := path.segments ++ [segment] }

/- The path without its last segment. -/
def parent
    (path : Path) : Path :=
  { path with segments := path.segments.dropLast }

/-
  The extension of the last segment: what follows its last
  point, unless that point is its first or last character.
-/
def extension
    (path : Path) : Text :=
  match path.segments.getLast? with
  | none => []
  | some name =>
      let after := (name.reverse.takeWhile (· != '.')).reverse
      if after.length + 1 < name.length then after else []

------------------------------------------------------------
-- Collapsing Segments
------------------------------------------------------------

/-
  Go one segment further on a way that is kept in reverse. A
  segment `..` takes back the segment before it, stays at the
  start of a relative way, and leads nowhere from the root.
-/
def collapseStep
    (origin : Origin)
    (way : List Text)
    (segment : Text) : List Text :=
  if segment = up then
    match way with
    | [] => if origin = .here then [up] else []
    | last :: before =>
        if last = up then up :: last :: before else before
  else segment :: way

/-
  The path with every `..` taken together with the segment
  before it, by spelling alone.
-/
def collapse
    (path : Path) : Path :=
  { path with
    segments :=
      (path.segments.foldl (collapseStep path.origin) []).reverse }

end Path

end Marginalia
