import HeaderAudit.Text.Blank
import HeaderAudit.Text.Case
import HeaderAudit.Text.Search
/-!
A header block: the raw lines as they were kept, and the named fields read from them.
-/
namespace HeaderAudit

/-- One named field of a header block. -/
structure Field where
  name : String
  value : String
  deriving Repr, BEq, Inhabited

/-- A header block: its kept lines, and its fields in order. -/
structure Header where
  lines : List String
  fields : List Field
  deriving Repr, BEq, Inhabited

def mapLast {α : Type} (f : α → α) : List α → List α
  | [] => []
  | [a] => [f a]
  | a :: as => a :: mapLast f as

namespace Header

def empty : Header := ⟨[], []⟩

def isContinuation (line : String) : Bool :=
  match line.toList with
  | c :: _ => c = ' ' ∨ c = '\t'
  | [] => false

/-- The field that a line names, if any: the text before the first colon, trimmed, is the name,
and the trimmed rest is the value. -/
def fieldOfLine (line : String) : Option Field :=
  match Text.cut line ":" with
  | some (name, value) =>
    let name := Text.trim name
    if name = "" then none else some ⟨name, Text.trim value⟩
  | none => none

/-- Adds one raw line: trailing carriage returns go, an empty line is skipped, and a continuation
line is joined to the last line and the last field with one space. -/
def addLine (h : Header) (raw : String) : Header :=
  let line := Text.trimEndOf raw ['\r']
  if line = "" then h
  else if isContinuation line ∧ h.fields ≠ [] ∧ h.lines ≠ [] then
    let more := Text.trim line
    { lines := mapLast (· ++ " " ++ more) h.lines
      fields := mapLast (fun f => { f with value := Text.trim (f.value ++ " " ++ more) }) h.fields }
  else
    { lines := h.lines ++ [line]
      fields := match fieldOfLine line with
        | some f => h.fields ++ [f]
        | none => h.fields }

def ofLines (lines : List String) : Header := lines.foldl addLine empty

/-- The header of a map from names to values: names in ascending order, each value a line
`name: value`. -/
def ofMap (m : List (String × List String)) : Header :=
  let names := m.mergeSort (fun a b => decide (a.1 ≤ b.1))
  ofLines (names.flatMap fun (k, vs) => vs.map fun v => k ++ ": " ++ v)

def value? (h : Header) (name : String) : Option String :=
  (h.fields.find? fun f => Text.equalFold f.name name).map (·.value)

def valueD (h : Header) (name : String) : String := (h.value? name).getD ""

def values (h : Header) (name : String) : List String :=
  (h.fields.filter fun f => Text.equalFold f.name name).map (·.value)

def size (h : Header) : Nat := h.fields.length

theorem ofLines_append (ls ms : List String) :
    ofLines (ls ++ ms) = ms.foldl addLine (ofLines ls) := by
  simp [ofLines, List.foldl_append]

end Header

end HeaderAudit
