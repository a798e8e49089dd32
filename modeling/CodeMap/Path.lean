/-
Paths as texts: parts with slashes between them. A path that starts with a slash is absolute; two
slashes at the start, and no more, are kept.
-/

import CodeMap.Text.Lines

namespace CodeMap.Path

/-- The parts between the slashes. -/
def parts (path : String) : List String :=
  (Text.splitAt '/' path.toList).map String.ofList

/-- The slashes that an equivalent path starts with. -/
def lead (path : String) : String :=
  match path.toList with
  | '/' :: '/' :: '/' :: _ => "/"
  | '/' :: '/' :: _ => "//"
  | '/' :: _ => "/"
  | _ => ""

/-- Goes on from `trail`, the parts so far with the last one first, by one more part. A step up
from the top of an absolute path stays there. -/
def advance (absolute : Bool) (trail : List String) (part : String) : List String :=
  if part = "" || part = "." then trail
  else if part = ".." then
    match trail with
    | [] => if absolute then [] else [part]
    | last :: rest => if last = ".." then part :: last :: rest else rest
  else part :: trail

/-- The shortest equivalent path. -/
def normal (path : String) : String :=
  let absolute := lead path ≠ ""
  let kept := ((parts path).foldl (advance absolute) []).reverse
  let text := lead path ++ "/".intercalate kept
  if text = "" then "." else text

/-- The path of `inner` as seen from `base`. -/
def join (base inner : String) : String :=
  if lead inner ≠ "" then inner
  else if base = "" || base.toList.getLast? = some '/' then base ++ inner
  else base ++ "/" ++ inner

/-- The last part. -/
def name (path : String) : String :=
  (parts path).getLast?.getD ""

/-- The absolute form of a path as seen from a folder. -/
def absolute (folder path : String) : String :=
  normal (join folder path)

/-- The path with slashes only. -/
def withSlashes (path : String) : String :=
  path.map fun c => if c = '\\' then '/' else c

end CodeMap.Path
