import HeaderAudit.Yaml.Event
import HeaderAudit.Yaml.Resolve
/-!
The node tree of the first document of a YAML text. Each node keeps its tag, its text (for a
scalar), how it was written and its line and column counted from one; a collection also keeps its
anchor.
-/
namespace HeaderAudit.Yaml

/-- A node of a document. -/
inductive Node where
  | scalar (tag : String) (value : String) (style : ScalarStyle) (line column : Nat)
  | sequence (tag : String) (anchor : String) (items : List Node) (line column : Nat)
  | mapping (tag : String) (anchor : String) (pairs : List (Node × Node)) (line column : Nat)
  | reference (name : String) (target : Option Node) (line column : Nat)
  deriving Inhabited

namespace Node

def line : Node → Nat
  | scalar _ _ _ l _ => l
  | sequence _ _ _ l _ => l
  | mapping _ _ _ l _ => l
  | reference _ _ l _ => l

end Node

def shortTag (tag : String) : String :=
  if tag.startsWith "tag:yaml.org,2002:" then "!!" ++ String.ofList (tag.toList.drop 18) else tag

/-- The composer's state: the parser, the next event if already read, and the anchors seen. -/
structure Composer where
  parser : Parser
  pending : Option Event
  anchors : List (String × Node)
  building : List String

namespace Composer

/-- A composing failure: a reading problem, or a fault of the document. -/
inductive Failure where
  | problem (p : Problem)
  | fault (msg : String)

def peek (c : Composer) : Except Failure (Event × Composer) :=
  match c.pending with
  | some e => .ok (e, c)
  | none => match c.parser.next with
    | .ok (e, p) => .ok (e, { c with parser := p, pending := some e })
    | .error pr => .error (.problem pr)

def expect (c : Composer) (kind : EventKind) : Except Failure Composer := do
  let (e, c) ← c.peek
  if e.kind = .streamEnd ∧ kind ≠ .streamEnd then
    .error (.fault "attempted to go past the end of stream; corrupted value?")
  else if e.kind ≠ kind then .error (.problem ⟨.parsing, "", default, "unexpected event", e.start⟩)
  else pure { c with pending := none }

def tagOf (explicit default : String) : String :=
  if explicit ≠ "" ∧ explicit ≠ "!" then shortTag explicit else default

def anchor (c : Composer) (name : String) (n : Node) : Composer :=
  if name = "" then c else
  { c with anchors := (name, n) :: c.anchors.filter (·.1 != name), building := c.building.filter (· != name) }

def begin (c : Composer) (name : String) : Composer :=
  if name = "" then c else
  { c with anchors := c.anchors.filter (·.1 != name), building := name :: c.building }

mutual
def node : Nat → Composer → Except Failure (Node × Composer)
  | 0, _ => .error (.fault "document too deep")
  | fuel + 1, c => do
    let (e, c) ← c.peek
    let line := e.start.line + 1
    let column := e.start.column + 1
    match e.kind with
    | .reference =>
      let target := (c.anchors.find? (·.1 == e.anchor)).map (·.2)
      if target.isNone ∧ !c.building.contains e.anchor then
        .error (.fault ("unknown anchor '" ++ e.anchor ++ "' referenced"))
      else
        let c ← c.expect .reference
        pure (.reference e.anchor target line column, c)
    | .scalar =>
      let tag := if e.tag ≠ "" ∧ e.tag ≠ "!" then shortTag e.tag
        else if e.style ≠ .plain then "!!str"
        else if e.value = "<<" then "!!merge"
        else (resolve e.value).tag
      let n := Node.scalar tag e.value e.style line column
      let c ← c.expect .scalar
      pure (n, c.anchor e.anchor n)
    | .sequenceStart =>
      let c := c.begin e.anchor
      let c ← c.expect .sequenceStart
      let (items, c) ← items fuel c []
      let n := Node.sequence (tagOf e.tag "!!seq") e.anchor items line column
      let c ← c.expect .sequenceEnd
      pure (n, c.anchor e.anchor n)
    | .mappingStart =>
      let c := c.begin e.anchor
      let c ← c.expect .mappingStart
      let (pairs, c) ← pairs fuel c []
      let n := Node.mapping (tagOf e.tag "!!map") e.anchor pairs line column
      let c ← c.expect .mappingEnd
      pure (n, c.anchor e.anchor n)
    | _ => .error (.fault "unexpected event")

def items : Nat → Composer → List Node → Except Failure (List Node × Composer)
  | 0, c, acc => .ok (acc.reverse, c)
  | fuel + 1, c, acc => do
    let (e, c) ← c.peek
    if e.kind = .sequenceEnd then pure (acc.reverse, c)
    else
      let (n, c) ← node fuel c
      items fuel c (n :: acc)

def pairs : Nat → Composer → List (Node × Node) → Except Failure (List (Node × Node) × Composer)
  | 0, c, acc => .ok (acc.reverse, c)
  | fuel + 1, c, acc => do
    let (e, c) ← c.peek
    if e.kind = .mappingEnd then pure (acc.reverse, c)
    else
      let (k, c) ← node fuel c
      let (v, c) ← node fuel c
      pairs fuel c ((k, v) :: acc)
end

end Composer

/-- The content of the first document of a text, or nothing for a text without documents. An
empty text reads as a single line break. -/
def compose (text : String) : Except Composer.Failure (Option Node) := do
  let text := if text = "" then "\n" else text
  let text := if text.startsWith "\uFEFF" then String.ofList (text.toList.drop 1) else text
  let fuel := 4 * text.length + 16
  let c : Composer := ⟨Parser.start text, none, [], []⟩
  let c ← c.expect .streamStart
  let (e, c) ← c.peek
  if e.kind = .streamEnd then return none
  if e.kind = .documentStart then
    let c ← c.expect .documentStart
    let (n, c) ← Composer.node fuel c
    let _ ← c.expect .documentEnd
    return some n
  let (n, _) ← Composer.node fuel c
  return some n

end HeaderAudit.Yaml
