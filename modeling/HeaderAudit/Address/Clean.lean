import HeaderAudit.Address.Bytes
/-!
Lexical cleaning of slash-separated paths: repeated slashes become one, `.` segments go, and `..`
removes the segment before it (at the root it is dropped; in a relative path with nothing to remove
it stays).
-/
namespace HeaderAudit

namespace Bytes

def cleanSegments (rooted : Bool) (acc : List Bytes) : List Bytes → List Bytes
  | [] => acc
  | seg :: rest =>
    if seg = [] ∨ seg = ofString "." then cleanSegments rooted acc rest
    else if seg = ofString ".." then
      match acc with
      | prev :: older =>
        if prev = ofString ".." then cleanSegments rooted (seg :: acc) rest
        else cleanSegments rooted older rest
      | [] => if rooted then cleanSegments rooted [] rest else cleanSegments rooted [seg] rest
    else cleanSegments rooted (seg :: acc) rest

def cleanPath (p : Bytes) : Bytes :=
  let rooted := p.head? = some (ascii '/')
  let kept := (cleanSegments rooted [] (p.splitOn (ascii '/'))).reverse
  let body := (kept.intersperse [ascii '/']).flatten
  if rooted then ascii '/' :: body
  else if body = [] then [ascii '.'] else body

end Bytes

end HeaderAudit
