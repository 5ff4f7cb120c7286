import HeaderAudit.Yaml.Scanner
/-!
Turning YAML tokens into events: the starts and ends of the stream, documents, sequences and
mappings, and the scalars and aliases between them.
-/
namespace HeaderAudit.Yaml

/-- The kinds of event. -/
inductive EventKind where
  | streamStart
  | streamEnd
  | documentStart
  | documentEnd
  | reference
  | scalar
  | sequenceStart
  | sequenceEnd
  | mappingStart
  | mappingEnd
  deriving Inhabited, BEq, Repr, DecidableEq

/-- An event with where it starts, and for nodes its anchor, tag, value, style, and whether
a collection is written in flow style. -/
structure Event where
  kind : EventKind
  start : Mark
  anchor : String
  tag : String
  value : String
  style : ScalarStyle
  flow : Bool
  deriving Inhabited

def Event.bare (kind : EventKind) (start : Mark) : Event := ⟨kind, start, "", "", "", .plain, false⟩

/-- The places in the grammar the parser can be at. -/
inductive State where
  | streamStart
  | implicitDocumentStart
  | documentStart
  | documentContent
  | documentEnd
  | blockNode
  | blockNodeOrIndentlessSequence
  | flowNode
  | blockSequenceFirstEntry
  | blockSequenceEntry
  | indentlessSequenceEntry
  | blockMappingFirstKey
  | blockMappingKey
  | blockMappingValue
  | flowSequenceFirstEntry
  | flowSequenceEntry
  | flowSequenceEntryMappingKey
  | flowSequenceEntryMappingValue
  | flowSequenceEntryMappingEnd
  | flowMappingFirstKey
  | flowMappingKey
  | flowMappingValue
  | flowMappingEmptyValue
  | finished
  deriving Inhabited, BEq, Repr

/-- The state of the parser. -/
structure Parser where
  scanner : Scanner
  state : State
  states : List State
  marks : List Mark
  handles : List (String × String)
  deriving Inhabited

namespace Parser

def start (text : String) : Parser := ⟨Scanner.start text, .streamStart, [], [], []⟩

def peek (p : Parser) : Except Problem (Token × Parser) := do
  let (t, s) ← p.scanner.peek
  pure (t, { p with scanner := s })

def skip (p : Parser) : Parser := { p with scanner := p.scanner.next }

def fail {α : Type} (context : String) (contextMark : Mark) (problem : String) (problemMark : Mark) :
    Except Problem α :=
  .error ⟨.parsing, context, contextMark, problem, problemMark⟩

def pop (p : Parser) : Parser :=
  match p.states with
  | s :: rest => { p with state := s, states := rest }
  | [] => { p with state := .finished }

def popMark (p : Parser) : Parser := { p with marks := p.marks.drop 1 }

def topMark (p : Parser) : Mark := p.marks.headD default

def emptyScalar (m : Mark) : Event := Event.bare .scalar m

def defaultHandles : List (String × String) := [("!", "!"), ("!!", "tag:yaml.org,2002:")]

/-- Reads the directives before a document: a `%YAML` version, which must be 1.1 or 1.2 and
given once, and `%TAG` handles, each given once. -/
def directives : Nat → Parser → Bool → List (String × String) → Except Problem (Parser × List (String × String))
  | 0, p, _, hs => .ok (p, hs)
  | fuel + 1, p, seenVersion, hs => do
    let (t, p) ← p.peek
    if t.kind = .versionDirective then
      if seenVersion then fail "" default "found duplicate %YAML directive" t.start
      else if t.text ≠ "1" ∨ (t.suffix ≠ "1" ∧ t.suffix ≠ "2") then
        fail "" default "found incompatible YAML document" t.start
      else directives fuel p.skip true hs
    else if t.kind = .tagDirective then
      if hs.any (·.1 == t.text) then fail "" default "found duplicate %TAG directive" t.start
      else directives fuel p.skip seenVersion (hs ++ [(t.text, t.suffix)])
    else
      pure (p, hs ++ defaultHandles.filter fun d => !hs.any (·.1 == d.1))

/-- The start of a document, or the end of the stream. An implicit document starts at any token
but a directive, a document marker or the end; an explicit one needs `---`. -/
def documentStart (p : Parser) (implicit : Bool) : Except Problem (Event × Parser) := do
  let (t, p) ← p.peek
  let (t, p) ← if implicit then pure (t, p) else
    (List.range (p.scanner.left + 4)).foldlM (fun (acc : Token × Parser) _ =>
      if acc.1.kind = .documentEnd then acc.2.skip.peek else pure acc) (t, p)
  if implicit ∧ t.kind ≠ .versionDirective ∧ t.kind ≠ .tagDirective ∧ t.kind ≠ .documentStart ∧
      t.kind ≠ .streamEnd then
    let (p, hs) ← directives (p.scanner.left + 4) p false []
    pure (Event.bare .documentStart t.start,
      { p with handles := hs, states := .documentEnd :: p.states, state := .blockNode })
  else if t.kind ≠ .streamEnd then
    let (p, hs) ← directives (p.scanner.left + 4) p false []
    let (t, p) ← p.peek
    if t.kind ≠ .documentStart then fail "" default "did not find expected <document start>" t.start
    else pure (Event.bare .documentStart t.start,
      { p.skip with handles := hs, states := .documentEnd :: p.states, state := .documentContent })
  else pure (Event.bare .streamEnd t.start, { p.skip with state := .finished })

/-- A node: an alias, or a scalar or collection with an optional anchor and tag in either order.
In a block mapping's value a sequence may start without indentation. -/
def node (p : Parser) (block indentless : Bool) : Except Problem (Event × Parser) := do
  let (t, p) ← p.peek
  if t.kind = .reference then
    return (⟨.reference, t.start, t.text, "", "", .plain, false⟩, p.pop.skip)
  let startMark := t.start
  -- anchor and tag, in either order
  let (anchor, tagTok, t, p) ←
    if t.kind = .anchor then do
      let (u, q) ← p.skip.peek
      if u.kind = .tag then do
        let (v, r) ← q.skip.peek
        pure (t.text, some u, v, r)
      else pure (t.text, none, u, q)
    else if t.kind = .tag then do
      let (u, q) ← p.skip.peek
      if u.kind = .anchor then do
        let (v, r) ← q.skip.peek
        pure (u.text, some t, v, r)
      else pure ("", some t, u, q)
    else pure ("", none, t, p)
  let tag ← match tagTok with
    | none => pure ""
    | some tt =>
      if tt.text = "" then pure tt.suffix
      else match p.handles.find? (·.1 == tt.text) with
        | some (_, pfx) => pure (pfx ++ tt.suffix)
        | none => fail "while parsing a node" startMark "found undefined tag handle" tt.start
  if indentless ∧ t.kind = .blockEntry then
    return (⟨.sequenceStart, startMark, anchor, tag, "", .plain, false⟩, { p with state := .indentlessSequenceEntry })
  if t.kind = .scalar then
    return (⟨.scalar, startMark, anchor, tag, t.text, t.style, false⟩, p.pop.skip)
  if t.kind = .flowSequenceStart then
    return (⟨.sequenceStart, startMark, anchor, tag, "", .plain, true⟩, { p with state := .flowSequenceFirstEntry })
  if t.kind = .flowMappingStart then
    return (⟨.mappingStart, startMark, anchor, tag, "", .plain, true⟩, { p with state := .flowMappingFirstKey })
  if block ∧ t.kind = .blockSequenceStart then
    return (⟨.sequenceStart, startMark, anchor, tag, "", .plain, false⟩, { p with state := .blockSequenceFirstEntry })
  if block ∧ t.kind = .blockMappingStart then
    return (⟨.mappingStart, startMark, anchor, tag, "", .plain, false⟩, { p with state := .blockMappingFirstKey })
  if anchor ≠ "" ∨ tag ≠ "" then
    return (⟨.scalar, startMark, anchor, tag, "", .plain, false⟩, p.pop)
  fail (if block then "while parsing a block node" else "while parsing a flow node") startMark
    "did not find expected node content" t.start

def openCollection (p : Parser) : Except Problem Parser := do
  let (t, p) ← p.peek
  pure { p.skip with marks := t.start :: p.marks }

def blockSequenceEntry (p : Parser) : Except Problem (Event × Parser) := do
  let (t, p) ← p.peek
  if t.kind = .blockEntry then
    let (u, q) ← p.skip.peek
    if u.kind ≠ .blockEntry ∧ u.kind ≠ .blockEnd then
      node { q with states := .blockSequenceEntry :: q.states } true false
    else pure (emptyScalar t.stop, { q with state := .blockSequenceEntry })
  else if t.kind = .blockEnd then
    pure (Event.bare .sequenceEnd t.start, p.pop.popMark.skip)
  else fail "while parsing a block collection" p.topMark "did not find expected '-' indicator" t.start

def indentlessSequenceEntry (p : Parser) : Except Problem (Event × Parser) := do
  let (t, p) ← p.peek
  if t.kind = .blockEntry then
    let (u, q) ← p.skip.peek
    if u.kind ≠ .blockEntry ∧ u.kind ≠ .key ∧ u.kind ≠ .value ∧ u.kind ≠ .blockEnd then
      node { q with states := .indentlessSequenceEntry :: q.states } true false
    else pure (emptyScalar t.stop, { q with state := .indentlessSequenceEntry })
  else pure (Event.bare .sequenceEnd t.start, p.pop)

def blockMappingKey (p : Parser) : Except Problem (Event × Parser) := do
  let (t, p) ← p.peek
  if t.kind = .key then
    let (u, q) ← p.skip.peek
    if u.kind ≠ .key ∧ u.kind ≠ .value ∧ u.kind ≠ .blockEnd then
      node { q with states := .blockMappingValue :: q.states } true true
    else pure (emptyScalar t.stop, { q with state := .blockMappingValue })
  else if t.kind = .blockEnd then
    pure (Event.bare .mappingEnd t.start, p.pop.popMark.skip)
  else fail "while parsing a block mapping" p.topMark "did not find expected key" t.start

def blockMappingValue (p : Parser) : Except Problem (Event × Parser) := do
  let (t, p) ← p.peek
  if t.kind = .value then
    let (u, q) ← p.skip.peek
    if u.kind ≠ .key ∧ u.kind ≠ .value ∧ u.kind ≠ .blockEnd then
      node { q with states := .blockMappingKey :: q.states } true true
    else pure (emptyScalar t.stop, { q with state := .blockMappingKey })
  else pure (emptyScalar t.start, { p with state := .blockMappingKey })

/-- The next entry of a flow sequence, or its end; entries after the first follow a comma, and
an entry with a key is a one-pair mapping. -/
def flowSequenceEntry (p : Parser) (first : Bool) : Except Problem (Event × Parser) := do
  let (t, p) ← p.peek
  let (t, p) ←
    if t.kind ≠ .flowSequenceEnd ∧ !first then
      if t.kind = .flowEntry then p.skip.peek
      else fail "while parsing a flow sequence" p.topMark "did not find expected ',' or ']'" t.start
    else pure (t, p)
  if t.kind = .key then
    pure (⟨.mappingStart, t.start, "", "", "", .plain, true⟩, { p.skip with state := .flowSequenceEntryMappingKey })
  else if t.kind ≠ .flowSequenceEnd then
    node { p with states := .flowSequenceEntry :: p.states } false false
  else pure (Event.bare .sequenceEnd t.start, p.pop.popMark.skip)

def flowSequenceEntryMappingKey (p : Parser) : Except Problem (Event × Parser) := do
  let (t, p) ← p.peek
  if t.kind ≠ .value ∧ t.kind ≠ .flowEntry ∧ t.kind ≠ .flowSequenceEnd then
    node { p with states := .flowSequenceEntryMappingValue :: p.states } false false
  else pure (emptyScalar t.stop, { p.skip with state := .flowSequenceEntryMappingValue })

def flowSequenceEntryMappingValue (p : Parser) : Except Problem (Event × Parser) := do
  let (t, p) ← p.peek
  if t.kind = .value then
    let (u, q) ← p.skip.peek
    if u.kind ≠ .flowEntry ∧ u.kind ≠ .flowSequenceEnd then
      node { q with states := .flowSequenceEntryMappingEnd :: q.states } false false
    else pure (emptyScalar t.start, { q with state := .flowSequenceEntryMappingEnd })
  else pure (emptyScalar t.start, { p with state := .flowSequenceEntryMappingEnd })

def flowSequenceEntryMappingEnd (p : Parser) : Except Problem (Event × Parser) := do
  let (t, p) ← p.peek
  pure (Event.bare .mappingEnd t.start, { p with state := .flowSequenceEntry })

def flowMappingKey (p : Parser) (first : Bool) : Except Problem (Event × Parser) := do
  let (t, p) ← p.peek
  let (t, p) ←
    if t.kind ≠ .flowMappingEnd ∧ !first then
      if t.kind = .flowEntry then p.skip.peek
      else fail "while parsing a flow mapping" p.topMark "did not find expected ',' or '\x7d'" t.start
    else pure (t, p)
  if t.kind = .key then
    let (u, q) ← p.skip.peek
    if u.kind ≠ .value ∧ u.kind ≠ .flowEntry ∧ u.kind ≠ .flowMappingEnd then
      node { q with states := .flowMappingValue :: q.states } false false
    else pure (emptyScalar u.start, { q with state := .flowMappingValue })
  else if t.kind ≠ .flowMappingEnd then
    node { p with states := .flowMappingEmptyValue :: p.states } false false
  else pure (Event.bare .mappingEnd t.start, p.pop.popMark.skip)

def flowMappingValue (p : Parser) (empty : Bool) : Except Problem (Event × Parser) := do
  let (t, p) ← p.peek
  if empty then pure (emptyScalar t.start, { p with state := .flowMappingKey })
  else if t.kind = .value then
    let (u, q) ← p.skip.peek
    if u.kind ≠ .flowEntry ∧ u.kind ≠ .flowMappingEnd then
      node { q with states := .flowMappingKey :: q.states } false false
    else pure (emptyScalar u.start, { q with state := .flowMappingKey })
  else pure (emptyScalar t.start, { p with state := .flowMappingKey })

def next (p : Parser) : Except Problem (Event × Parser) := do
  match p.state with
  | .streamStart =>
    let (t, p) ← p.peek
    pure (Event.bare .streamStart t.start, { p.skip with state := .implicitDocumentStart })
  | .implicitDocumentStart => p.documentStart true
  | .documentStart => p.documentStart false
  | .documentContent =>
    let (t, p) ← p.peek
    if t.kind = .versionDirective ∨ t.kind = .tagDirective ∨ t.kind = .documentStart ∨
        t.kind = .documentEnd ∨ t.kind = .streamEnd then
      pure (emptyScalar t.start, p.pop)
    else p.node true false
  | .documentEnd =>
    let (t, p) ← p.peek
    let p := if t.kind = .documentEnd then p.skip else p
    pure (Event.bare .documentEnd t.start, { p with state := .documentStart, handles := [] })
  | .blockNode => p.node true false
  | .blockNodeOrIndentlessSequence => p.node true true
  | .flowNode => p.node false false
  | .blockSequenceFirstEntry => do (← p.openCollection).blockSequenceEntry
  | .blockSequenceEntry => p.blockSequenceEntry
  | .indentlessSequenceEntry => p.indentlessSequenceEntry
  | .blockMappingFirstKey => do (← p.openCollection).blockMappingKey
  | .blockMappingKey => p.blockMappingKey
  | .blockMappingValue => p.blockMappingValue
  | .flowSequenceFirstEntry => do (← p.openCollection).flowSequenceEntry true
  | .flowSequenceEntry => p.flowSequenceEntry false
  | .flowSequenceEntryMappingKey => p.flowSequenceEntryMappingKey
  | .flowSequenceEntryMappingValue => p.flowSequenceEntryMappingValue
  | .flowSequenceEntryMappingEnd => p.flowSequenceEntryMappingEnd
  | .flowMappingFirstKey => do (← p.openCollection).flowMappingKey true
  | .flowMappingKey => p.flowMappingKey false
  | .flowMappingValue => p.flowMappingValue false
  | .flowMappingEmptyValue => p.flowMappingValue true
  | .finished =>
    let (t, p) ← p.peek
    pure (Event.bare .streamEnd t.start, p)

end Parser

end HeaderAudit.Yaml
