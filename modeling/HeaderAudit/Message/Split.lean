import HeaderAudit.Error
import HeaderAudit.Address.Bytes
import HeaderAudit.Text.Blank
import HeaderAudit.Text.Search
/-!
The parts of a raw HTTP message: its start line, its header lines and its body.
-/
namespace HeaderAudit

/-- A raw message cut into its start line, header lines and body. -/
structure RawMessage where
  start : String
  lines : List String
  body : Bytes
  deriving Repr, BEq

namespace RawMessage

def headAndBody (raw : Bytes) : Bytes × Bytes :=
  match Text.cutList (Bytes.ofString "\r\n\r\n") raw with
  | some (head, body) => (head, body)
  | none => match Text.cutList (Bytes.ofString "\n\n") raw with
    | some (head, body) => (head, body)
    | none => (raw, [])

def split (raw : Bytes) : Outcome RawMessage :=
  let raw := raw.dropWhile (· ∈ Bytes.ofString "\r\n")
  if Text.isBlankText (Bytes.toStringLossy raw) then .error (Error.ofFault .emptyMessage)
  else
    let (head, body) := headAndBody raw
    match Text.split (Text.replaceAll (Bytes.toStringLossy head) "\r\n" "\n") "\n" with
    | first :: rest => .ok ⟨Text.trim first, rest, body⟩
    | [] => .ok ⟨"", [], body⟩

end RawMessage

end HeaderAudit
