import HeaderAudit.Yaml.Token
/-!
Turning YAML text into tokens. The scanner keeps the indentation levels of the block collections it
is inside, the depth of flow collections, and for each level the place where a simple key (one
written without `?`) may have started.
-/
namespace HeaderAudit.Yaml

def isBlank (c : Char) : Bool := c = ' ' ∨ c = '\t'

def isBreak (c : Char) : Bool := c = '\r' ∨ c = '\n' ∨ c = '\x85' ∨ c = '\u2028' ∨ c = '\u2029'

def isEnd (c : Char) : Bool := c = '\x00'

def isBreakOrEnd (c : Char) : Bool := isBreak c || isEnd c

def isSpaceOrEnd (c : Char) : Bool := isBlank c || isBreakOrEnd c

def isWordChar (c : Char) : Bool := c.isAlphanum || c = '_' || c = '-'

def isTagChar (c : Char) : Bool :=
  isWordChar c || ";/?:@&=+$.%!~*'()".toList.contains c

/-- Where a simple key may have started, and whether it must be one. -/
structure SimpleKey where
  possible : Bool
  required : Bool
  number : Nat
  mark : Mark
  deriving Inhabited

/-- The state of the scanner. -/
structure Scanner where
  text : Array Char
  mark : Mark
  queue : List Token
  taken : Nat
  available : Bool
  started : Bool
  flowLevel : Nat
  indent : Int
  indents : List Int
  keyAllowed : Bool
  keys : Array SimpleKey
  keyOf : List (Nat × Nat)
  deriving Inhabited

namespace Scanner

def start (text : String) : Scanner :=
  ⟨text.toList.toArray, ⟨0, 0, 0⟩, [], 0, false, false, 0, -1, [], false, #[], []⟩

def ahead (s : Scanner) (k : Nat) : Char := s.text.getD (s.mark.index + k) '\x00'

def fail {α : Type} (s : Scanner) (context : String) (contextMark : Mark) (problem : String) :
    Except Problem α :=
  .error ⟨.scanning, context, contextMark, problem, s.mark⟩

def skip (s : Scanner) : Scanner := { s with mark := ⟨s.mark.index + 1, s.mark.line, s.mark.column + 1⟩ }

def skipN (s : Scanner) : Nat → Scanner
  | 0 => s
  | n + 1 => (s.skip).skipN n

def skipLine (s : Scanner) : Scanner :=
  if s.ahead 0 = '\r' ∧ s.ahead 1 = '\n' then { s with mark := ⟨s.mark.index + 2, s.mark.line + 1, 0⟩ }
  else if isBreak (s.ahead 0) then { s with mark := ⟨s.mark.index + 1, s.mark.line + 1, 0⟩ }
  else s

def read (s : Scanner) (buf : String) : Scanner × String := (s.skip, buf.push (s.ahead 0))

def readLine (s : Scanner) (buf : String) : Scanner × String :=
  let c := s.ahead 0
  if c = '\r' ∧ s.ahead 1 = '\n' then ({ s with mark := ⟨s.mark.index + 2, s.mark.line + 1, 0⟩ }, buf.push '\n')
  else if c = '\r' ∨ c = '\n' ∨ c = '\x85' then
    ({ s with mark := ⟨s.mark.index + 1, s.mark.line + 1, 0⟩ }, buf.push '\n')
  else if c = '\u2028' ∨ c = '\u2029' then
    ({ s with mark := ⟨s.mark.index + 1, s.mark.line + 1, 0⟩ }, buf.push c)
  else (s, buf)

def left (s : Scanner) : Nat := s.text.size + 2 - s.mark.index

def push (s : Scanner) (t : Token) : Scanner := { s with queue := s.queue ++ [t] }

def insertAt (s : Scanner) (pos : Nat) (t : Token) : Scanner :=
  { s with queue := s.queue.take pos ++ t :: s.queue.drop pos }

def topKey (s : Scanner) : SimpleKey := s.keys.back?.getD default

def setTopKey (s : Scanner) (k : SimpleKey) : Scanner := { s with keys := s.keys.pop.push k }

def removeKey (s : Scanner) : Except Problem Scanner :=
  let k := s.topKey
  if k.possible then
    if k.required then s.fail "while scanning a simple key" k.mark "could not find expected ':'"
    else .ok { s.setTopKey { k with possible := false } with keyOf := s.keyOf.filter (·.1 != k.number) }
  else .ok s

/-- Notes that a simple key may start at the next token. It is required when it stands at the
indentation of a block collection. -/
def saveKey (s : Scanner) : Except Problem Scanner :=
  if s.keyAllowed then do
    let key : SimpleKey := ⟨true, s.flowLevel = 0 ∧ s.indent = s.mark.column, s.taken + s.queue.length, s.mark⟩
    let s ← s.removeKey
    let s := s.setTopKey key
    pure { s with keyOf := (key.number, s.keys.size - 1) :: s.keyOf.filter (·.1 != key.number) }
  else .ok s

/-- Whether the pending key at a level can still be one: it must stay on its line and within
1024 characters. A required key that can no longer be one is a problem. -/
def checkKey (s : Scanner) (i : Nat) : Except Problem (Bool × Scanner) :=
  let k := s.keys.getD i default
  if !k.possible then .ok (false, s)
  else if k.mark.line < s.mark.line ∨ k.mark.index + 1024 < s.mark.index then
    if k.required then s.fail "while scanning a simple key" k.mark "could not find expected ':'"
    else
      let gone : SimpleKey := { k with possible := false }
      .ok (false, { s with keys := s.keys.set! i gone })
  else .ok (true, s)

def enterFlow (s : Scanner) : Scanner :=
  { s with keys := s.keys.push default, flowLevel := s.flowLevel + 1 }

def leaveFlow (s : Scanner) : Scanner :=
  if s.flowLevel > 0 then
    { s with flowLevel := s.flowLevel - 1, keyOf := s.keyOf.filter (·.1 != s.topKey.number), keys := s.keys.pop }
  else s

/-- Opens a block collection at a column deeper than the current indentation, putting its start
token at the end of the queue or before the token with a given number. -/
def rollIndent (s : Scanner) (column : Int) (number : Option Nat) (kind : TokenKind) (mark : Mark) : Scanner :=
  if s.flowLevel > 0 then s
  else if s.indent < column then
    let s := { s with indents := s.indent :: s.indents, indent := column }
    match number with
    | none => s.push (Token.bare kind mark mark)
    | some n => s.insertAt (n - s.taken) (Token.bare kind mark mark)
  else s

def closeTo (column : Int) (m : Mark) : Scanner → List Int → Scanner
  | s, [] => s
  | s, i :: rest =>
    if s.indent > column then closeTo column m ({ s with indent := i, indents := rest }.push (Token.bare .blockEnd m m)) rest
    else s

/-- Closes the block collections deeper than a column; the end tokens stand just before the
place where the scan for the next token began. -/
def unrollIndent (s : Scanner) (column : Int) (scanMark : Mark) : Scanner :=
  if s.flowLevel > 0 then s
  else closeTo column { scanMark with index := scanMark.index - 1 } s s.indents

def skipToBreak : Nat → Scanner → Scanner
  | 0, s => s
  | fuel + 1, s => if isBreakOrEnd (s.ahead 0) then s else skipToBreak fuel s.skip

def skipBlanks : Nat → Scanner → Scanner
  | 0, s => s
  | fuel + 1, s => if isBlank (s.ahead 0) then skipBlanks fuel s.skip else s

def skipSpaces : Nat → Scanner → Scanner
  | 0, s => s
  | fuel + 1, s =>
    if s.ahead 0 = ' ' ∨ ((s.flowLevel > 0 ∨ !s.keyAllowed) ∧ s.ahead 0 = '\t') then skipSpaces fuel s.skip else s

/-- Skips blanks, comments and line breaks up to the next token. In a block collection a new
line may start a simple key. -/
def toNextToken : Nat → Scanner → Scanner
  | 0, s => s
  | fuel + 1, s =>
    let s := if s.mark.column = 0 ∧ s.ahead 0 = '\uFEFF' then s.skip else s
    let s := skipSpaces s.left s
    let s := if s.ahead 0 = '#' then skipToBreak s.left s else s
    if isBreak (s.ahead 0) then
      let s := s.skipLine
      toNextToken fuel (if s.flowLevel = 0 then { s with keyAllowed := true } else s)
    else s

def skipLineComment (s : Scanner) : Scanner :=
  let t := skipBlanks s.left s
  if t.ahead 0 = '#' then skipToBreak t.left t else s

/-! Single tokens. -/

def streamStart (s : Scanner) : Scanner :=
  { s with started := true, indent := -1, keyAllowed := true, keys := #[default], keyOf := [] }.push
    (Token.bare .streamStart s.mark s.mark)

def streamEnd (s : Scanner) : Except Problem Scanner := do
  let s := if s.mark.column ≠ 0 then { s with mark := { s.mark with column := 0, line := s.mark.line + 1 } } else s
  let s := s.unrollIndent (-1) s.mark
  let s ← s.removeKey
  let s := { s with keyAllowed := false }
  pure (s.push (Token.bare .streamEnd s.mark s.mark))

def documentMarker (s : Scanner) (kind : TokenKind) : Except Problem Scanner := do
  let s := s.unrollIndent (-1) s.mark
  let s ← s.removeKey
  let s := { s with keyAllowed := false }
  let t := s.skipN 3
  pure (t.push (Token.bare kind s.mark t.mark))

def flowStart (s : Scanner) (kind : TokenKind) : Except Problem Scanner := do
  let s ← s.saveKey
  let s := { s.enterFlow with keyAllowed := true }
  pure (s.skip.push (Token.bare kind s.mark s.skip.mark))

def flowEnd (s : Scanner) (kind : TokenKind) : Except Problem Scanner := do
  let s ← s.removeKey
  let s := { s.leaveFlow with keyAllowed := false }
  pure (s.skip.push (Token.bare kind s.mark s.skip.mark))

def flowEntry (s : Scanner) : Except Problem Scanner := do
  let s ← s.removeKey
  let s := { s with keyAllowed := true }
  pure (s.skip.push (Token.bare .flowEntry s.mark s.skip.mark))

/-- A `-` entry of a block sequence, opening the sequence when it is deeper than the current
indentation. -/
def blockEntry (s : Scanner) : Except Problem Scanner := do
  let s ← if s.flowLevel = 0 then
      if !s.keyAllowed then s.fail "" s.mark "block sequence entries are not allowed in this context"
      else pure (s.rollIndent s.mark.column none .blockSequenceStart s.mark)
    else pure s
  let s ← s.removeKey
  let s := { s with keyAllowed := true }
  pure (s.skip.push (Token.bare .blockEntry s.mark s.skip.mark))

def complexKey (s : Scanner) : Except Problem Scanner := do
  let s ← if s.flowLevel = 0 then
      if !s.keyAllowed then s.fail "" s.mark "mapping keys are not allowed in this context"
      else pure (s.rollIndent s.mark.column none .blockMappingStart s.mark)
    else pure s
  let s ← s.removeKey
  let s := { s with keyAllowed := s.flowLevel = 0 }
  pure (s.skip.push (Token.bare .key s.mark s.skip.mark))

/-- A `:` before a value. When a simple key is pending, its key token is put in place, opening a
block mapping at its column if needed. -/
def valueIndicator (s : Scanner) : Except Problem Scanner := do
  let i := s.keys.size - 1
  let (valid, s) ← s.checkKey i
  let s ← if valid then
      let k := s.keys.getD i default
      let s := s.insertAt (k.number - s.taken) (Token.bare .key k.mark k.mark)
      let s := s.rollIndent k.mark.column (some k.number) .blockMappingStart k.mark
      let gone : SimpleKey := { k with possible := false }
      let s := { s with keys := s.keys.set! i gone, keyOf := s.keyOf.filter (·.1 != k.number) }
      pure { s with keyAllowed := false }
    else if s.flowLevel = 0 then
      if !s.keyAllowed then s.fail "" s.mark "mapping values are not allowed in this context"
      else pure { s.rollIndent s.mark.column none .blockMappingStart s.mark with keyAllowed := true }
    else pure { s with keyAllowed := false }
  pure (s.skip.push (Token.bare .value s.mark s.skip.mark))

/-! Anchors, aliases and tags. -/

def readWord : Nat → Scanner → String → Scanner × String
  | 0, s, buf => (s, buf)
  | fuel + 1, s, buf => if isWordChar (s.ahead 0) then let (s, buf) := s.read buf; readWord fuel s buf else (s, buf)

def anchorToken (s : Scanner) (kind : TokenKind) : Except Problem Scanner := do
  let s ← s.saveKey
  let s := { s with keyAllowed := false }
  let start := s.mark
  let (t, name) := readWord s.left s.skip ""
  let c := t.ahead 0
  if name.isEmpty ∨ !(isSpaceOrEnd c || "?:,]\x7d%@`".toList.contains c) then
    t.fail (if kind = .reference then "while scanning an alias" else "while scanning an anchor") start
      "did not find expected alphabetic or numeric character"
  else pure (t.push ⟨kind, start, t.mark, name, "", .plain⟩)

def readTagChars : Nat → Scanner → String → Scanner × String
  | 0, s, buf => (s, buf)
  | fuel + 1, s, buf =>
    if isTagChar (s.ahead 0) then
      let (s, buf) := s.read buf
      readTagChars fuel s buf
    else (s, buf)

def tagToken (s : Scanner) : Except Problem Scanner := do
  let s ← s.saveKey
  let s := { s with keyAllowed := false }
  let start := s.mark
  let (t, handle, suffix) ←
    if s.ahead 1 = '<' then do
      let (t, uri) := readTagChars s.left (s.skipN 2) ""
      if uri.isEmpty then t.fail "while parsing a tag" start "did not find expected tag URI"
      else if t.ahead 0 ≠ '>' then t.fail "while scanning a tag" start "did not find the expected '>'"
      else pure (t.skip, "", uri)
    else
      let (t, word) := readWord s.left s.skip ""
      if t.ahead 0 = '!' then
        let (t, uri) := readTagChars t.left t.skip ""
        if uri.isEmpty then t.fail "while parsing a tag" start "did not find expected tag URI"
        else pure (t, "!" ++ word ++ "!", uri)
      else
        let (t, rest) := readTagChars t.left t word
        if rest.isEmpty then pure (t, "", "!") else pure (t, "!", rest)
  if !isSpaceOrEnd (t.ahead 0) ∧ (t.flowLevel = 0 ∨ t.ahead 0 ≠ ',') then
    t.fail "while scanning a tag" start "did not find expected whitespace or line break"
  else pure (t.push ⟨.tag, start, t.mark, handle, suffix, .plain⟩)

/-! Scalars. -/

/-- What a scalar collected so far: its text, the first line break of the current run of breaks,
the later breaks, the pending blanks, whether the run holds a break, and where the text ends. -/
structure Gather where
  out : String
  firstBreak : String
  breaks : String
  blanks : String
  inBreaks : Bool
  stop : Mark
  deriving Inhabited

/-- Adds the pending blanks or folded breaks before more text: a single line feed folds into a
space, further breaks are kept. -/
def Gather.join (g : Gather) : Gather :=
  if g.inBreaks then
    let out := if g.firstBreak.startsWith "\n" then (if g.breaks.isEmpty then g.out.push ' ' else g.out ++ g.breaks)
      else g.out ++ g.firstBreak ++ g.breaks
    { g with out := out, firstBreak := "", breaks := "", inBreaks := false }
  else if g.blanks.isEmpty then g
  else { g with out := g.out ++ g.blanks, blanks := "" }

def atDocumentMarker (s : Scanner) : Bool :=
  s.mark.column = 0 ∧
    ((s.ahead 0 = '-' ∧ s.ahead 1 = '-' ∧ s.ahead 2 = '-') ∨ (s.ahead 0 = '.' ∧ s.ahead 1 = '.' ∧ s.ahead 2 = '.')) ∧
    isSpaceOrEnd (s.ahead 3)

def plainWord : Nat → Scanner → Gather → Scanner × Gather
  | 0, s, g => (s, g)
  | fuel + 1, s, g =>
    let c := s.ahead 0
    if isSpaceOrEnd c then (s, g)
    else if (c = ':' ∧ isSpaceOrEnd (s.ahead 1)) ∨ (s.flowLevel > 0 ∧ ",?[]\x7b\x7d".toList.contains c) then (s, g)
    else
      let g := g.join
      let (s, out) := s.read g.out
      plainWord fuel s { g with out := out, stop := s.mark }

/-- Reads the blanks and line breaks after a word of a plain scalar. A tab may not stand in the
indentation of a continuation line. -/
def plainSpace (start : Mark) (indent : Int) : Nat → Scanner → Gather → Except Problem (Scanner × Gather)
  | 0, s, g => .ok (s, g)
  | fuel + 1, s, g =>
    let c := s.ahead 0
    if isBlank c then
      if g.inBreaks ∧ (s.mark.column : Int) < indent ∧ c = '\t' then
        s.fail "while scanning a plain scalar" start "found a tab character that violates indentation"
      else if g.inBreaks then plainSpace start indent fuel s.skip g
      else
        let (s, b) := s.read g.blanks
        plainSpace start indent fuel s { g with blanks := b }
    else if isBreak c then
      if g.inBreaks then
        let (s, b) := s.readLine g.breaks
        plainSpace start indent fuel s { g with breaks := b }
      else
        let (s, b) := s.readLine ""
        plainSpace start indent fuel s { g with blanks := "", firstBreak := b, inBreaks := true }
    else .ok (s, g)

def plainLines (start : Mark) (indent : Int) : Nat → Scanner → Gather → Except Problem (Scanner × Gather)
  | 0, s, g => .ok (s, g)
  | fuel + 1, s, g =>
    if s.atDocumentMarker ∨ s.ahead 0 = '#' then .ok (s, g)
    else
      let (s, g) := plainWord s.left s g
      if !(isBlank (s.ahead 0) || isBreak (s.ahead 0)) then .ok (s, g)
      else match plainSpace start indent s.left s g with
        | .error e => .error e
        | .ok (s, g) =>
          if s.flowLevel = 0 ∧ (s.mark.column : Int) < indent then .ok (s, g)
          else plainLines start indent fuel s g

def plainScalar (s : Scanner) : Except Problem Scanner := do
  let s ← s.saveKey
  let s := { s with keyAllowed := false }
  let start := s.mark
  let (t, g) ← plainLines start (s.indent + 1) s.left s ⟨"", "", "", "", false, start⟩
  let t := if g.inBreaks then { t with keyAllowed := true } else t
  pure (t.push ⟨.scalar, start, g.stop, g.out, "", .plain⟩)

def escapeChar? (c : Char) : Option Char :=
  if c = '0' then some '\x00' else if c = 'a' then some '\x07' else if c = 'b' then some '\x08'
  else if c = 't' ∨ c = '\t' then some '\t' else if c = 'n' then some '\n' else if c = 'v' then some '\x0b'
  else if c = 'f' then some '\x0c' else if c = 'r' then some '\r' else if c = 'e' then some '\x1b'
  else if c = ' ' then some ' ' else if c = '"' then some '"' else if c = '\'' then some '\''
  else if c = '\\' then some '\\' else if c = 'N' then some '\x85' else if c = '_' then some '\xa0'
  else if c = 'L' then some '\u2028' else if c = 'P' then some '\u2029' else none

def hexDigits (cs : List Char) : Option Nat :=
  cs.foldl (fun acc c => acc.bind fun n =>
    if c.isDigit then some (16 * n + (c.toNat - '0'.toNat))
    else if 'a' ≤ c ∧ c ≤ 'f' then some (16 * n + (c.toNat - 'a'.toNat + 10))
    else if 'A' ≤ c ∧ c ≤ 'F' then some (16 * n + (c.toNat - 'A'.toNat + 10))
    else none) (some 0)

/-- Reads the non-blank characters of a quoted scalar up to its closing quote or a blank; says
whether an escaped line break was met. -/
def quotedWord (start : Mark) (single : Bool) : Nat → Scanner → String → Except Problem (Scanner × String × Bool)
  | 0, s, out => .ok (s, out, false)
  | fuel + 1, s, out =>
    let c := s.ahead 0
    if isSpaceOrEnd c then .ok (s, out, false)
    else if single ∧ c = '\'' ∧ s.ahead 1 = '\'' then quotedWord start single fuel (s.skipN 2) (out.push '\'')
    else if single ∧ c = '\'' then .ok (s, out, false)
    else if !single ∧ c = '"' then .ok (s, out, false)
    else if !single ∧ c = '\\' ∧ isBreak (s.ahead 1) then .ok (s.skip.skipLine, out, true)
    else if !single ∧ c = '\\' then
      let e := s.ahead 1
      let width := if e = 'x' then 2 else if e = 'u' then 4 else if e = 'U' then 8 else 0
      if width = 0 then
        match escapeChar? e with
        | some x => quotedWord start single fuel (s.skipN 2) (out.push x)
        | none => s.fail "while parsing a quoted scalar" start "found unknown escape character"
      else
        let t := s.skipN 2
        let digits := (List.range width).map t.ahead
        match hexDigits digits with
        | none => t.fail "while parsing a quoted scalar" start "did not find expected hexdecimal number"
        | some v =>
          if (0xD800 ≤ v ∧ v ≤ 0xDFFF) ∨ v > 0x10FFFF then
            t.fail "while parsing a quoted scalar" start "found invalid Unicode character escape code"
          else quotedWord start single fuel (t.skipN width) (out.push (Char.ofNat v))
    else
      let (s, out) := s.read out
      quotedWord start single fuel s out

def quotedSpace : Nat → Scanner → Gather → Scanner × Gather
  | 0, s, g => (s, g)
  | fuel + 1, s, g =>
    let c := s.ahead 0
    if isBlank c then
      if g.inBreaks then quotedSpace fuel s.skip g
      else
        let (s, b) := s.read g.blanks
        quotedSpace fuel s { g with blanks := b }
    else if isBreak c then
      if g.inBreaks then
        let (s, b) := s.readLine g.breaks
        quotedSpace fuel s { g with breaks := b }
      else
        let (s, b) := s.readLine ""
        quotedSpace fuel s { g with blanks := "", firstBreak := b, inBreaks := true }
    else (s, g)

def quotedLines (start : Mark) (single : Bool) : Nat → Scanner → String → Except Problem (Scanner × String)
  | 0, s, out => .ok (s, out)
  | fuel + 1, s, out =>
    if s.atDocumentMarker then s.fail "while scanning a quoted scalar" start "found unexpected document indicator"
    else if isEnd (s.ahead 0) then s.fail "while scanning a quoted scalar" start "found unexpected end of stream"
    else match quotedWord start single s.left s out with
      | .error e => .error e
      | .ok (s, out, escapedBreak) =>
        if (single ∧ s.ahead 0 = '\'') ∨ (!single ∧ s.ahead 0 = '"') then .ok (s, out)
        else
          let (s, g) := quotedSpace s.left s ⟨out, "", "", "", escapedBreak, s.mark⟩
          let g := if g.inBreaks then
              let out := if g.firstBreak.startsWith "\n" then (if g.breaks.isEmpty then g.out.push ' ' else g.out ++ g.breaks)
                else g.out ++ g.firstBreak ++ g.breaks
              { g with out := out }
            else { g with out := g.out ++ g.blanks }
          quotedLines start single fuel s g.out

def quotedScalar (s : Scanner) (single : Bool) : Except Problem Scanner := do
  let s ← s.saveKey
  let s := { s with keyAllowed := false }
  let start := s.mark
  let (t, out) ← quotedLines start single s.left s.skip ""
  let t := t.skip
  pure (t.push ⟨.scalar, start, t.mark, out, "", if single then .single else .double⟩)

/-- Skips the indentation and empty lines before a line of a block scalar, collecting the
breaks; the indentation, when not yet known, becomes the deepest seen. Also gives where the
scalar's text ends so far: after the last break read, or where the skipping began. -/
def blockBreaks (start : Mark) (blockIndent : Int) : Nat → Scanner → Nat → String → Nat → Mark →
    Except Problem (Scanner × Nat × String × Mark)
  | 0, s, indent, breaks, _, stop => .ok (s, indent, breaks, stop)
  | fuel + 1, s, indent, breaks, deepest, stop =>
    let s := (List.range s.left).foldl (fun (t : Scanner) _ =>
      if (indent = 0 ∨ t.mark.column < indent) ∧ t.ahead 0 = ' ' then t.skip else t) s
    let deepest := max deepest s.mark.column
    if (indent = 0 ∨ s.mark.column < indent) ∧ s.ahead 0 = '\t' then
      s.fail "while scanning a block scalar" start "found a tab character where an indentation space is expected"
    else if isBreak (s.ahead 0) then
      let (s, breaks) := s.readLine breaks
      blockBreaks start blockIndent fuel s indent breaks deepest s.mark
    else
      let indent := if indent = 0 then max 1 (max (deepest : Int) (blockIndent + 1)).toNat else indent
      .ok (s, indent, breaks, stop)

def blockLines (start : Mark) (literal : Bool) (blockIndent : Int) :
    Nat → Scanner → Nat → String → String → String → Bool → Mark →
    Except Problem (Scanner × String × String × String × Mark)
  | 0, s, _, out, firstBreak, breaks, _, stop => .ok (s, out, firstBreak, breaks, stop)
  | fuel + 1, s, indent, out, firstBreak, breaks, leadingBlank, stop =>
    if s.mark.column = indent ∧ !isEnd (s.ahead 0) then
      let trailingBlank := isBlank (s.ahead 0)
      let out := if !literal ∧ !leadingBlank ∧ !trailingBlank ∧ firstBreak.startsWith "\n" then
          (if breaks.isEmpty then out.push ' ' else out)
        else out ++ firstBreak
      let out := out ++ breaks
      let leadingBlank := isBlank (s.ahead 0)
      let (s, out) := (List.range s.left).foldl (fun (acc : Scanner × String) _ =>
        if isBreakOrEnd (acc.1.ahead 0) then acc else acc.1.read acc.2) (s, out)
      let (s, firstBreak) := s.readLine ""
      match blockBreaks start blockIndent s.left s indent "" 0 s.mark with
      | .error e => .error e
      | .ok (s, indent, breaks, stop') =>
        blockLines start literal blockIndent fuel s indent out firstBreak breaks leadingBlank stop'
    else .ok (s, out, firstBreak, breaks, stop)

/-- Reads the indicators after `|` or `>`: the chomping (`+` keep, `-` strip) and an explicit
indentation, in either order. -/
def blockHeader (s : Scanner) (start : Mark) : Except Problem (Scanner × Int × Nat) :=
  let chompOf (c : Char) : Int := if c = '+' then 1 else -1
  let c := s.ahead 0
  if c = '+' ∨ c = '-' then
    let t := s.skip
    if (t.ahead 0).isDigit then
      if t.ahead 0 = '0' then t.fail "while scanning a block scalar" start "found an indentation indicator equal to 0"
      else .ok (t.skip, chompOf c, (t.ahead 0).toNat - '0'.toNat)
    else .ok (t, chompOf c, 0)
  else if c.isDigit then
    if c = '0' then s.fail "while scanning a block scalar" start "found an indentation indicator equal to 0"
    else
      let t := s.skip
      let d := t.ahead 0
      if d = '+' ∨ d = '-' then .ok (t.skip, chompOf d, c.toNat - '0'.toNat)
      else .ok (t, 0, c.toNat - '0'.toNat)
  else .ok (s, 0, 0)

def blockScalar (s : Scanner) (literal : Bool) : Except Problem Scanner := do
  let s ← s.removeKey
  let s := { s with keyAllowed := true }
  let start := s.mark
  let (t, chomp, increment) ← blockHeader s.skip start
  let t := skipBlanks t.left t
  let t := if t.ahead 0 = '#' then skipToBreak t.left t else t
  if !isBreakOrEnd (t.ahead 0) then t.fail "while scanning a block scalar" start "did not find expected comment or line break"
  else
    let t := if isBreak (t.ahead 0) then t.skipLine else t
    let indent : Nat := if increment > 0 then (if t.indent ≥ 0 then (t.indent + increment).toNat else increment) else 0
    let (t, indent, breaks, stop) ← blockBreaks start t.indent t.left t indent "" 0 t.mark
    let (t, out, firstBreak, breaks, stop) ← blockLines start literal t.indent t.left t indent "" "" breaks false stop
    let out := if chomp ≠ -1 then out ++ firstBreak else out
    let out := if chomp = 1 then out ++ breaks else out
    pure (t.push ⟨.scalar, start, stop, out, "", if literal then .literal else .folded⟩)

/-! Directives. -/

def directive (s : Scanner) : Except Problem Scanner := do
  let s := s.unrollIndent (-1) s.mark
  let s ← s.removeKey
  let s := { s with keyAllowed := false }
  let start := s.mark
  let (t, name) := readWord s.left s.skip ""
  if name.isEmpty then t.fail "while scanning a directive" start "could not find expected directive name"
  else if !isSpaceOrEnd (t.ahead 0) then
    t.fail "while scanning a directive" start "found unexpected non-alphabetical character"
  else if name = "YAML" then
    let t := skipBlanks t.left t
    let (t, major) := (List.range t.left).foldl (fun (acc : Scanner × String) _ =>
      if (acc.1.ahead 0).isDigit then acc.1.read acc.2 else acc) (t, "")
    if major.isEmpty then t.fail "while scanning a %YAML directive" start "did not find expected version number"
    else if t.ahead 0 ≠ '.' then t.fail "while scanning a %YAML directive" start "did not find expected digit or '.' character"
    else
      let (t, minor) := (List.range t.left).foldl (fun (acc : Scanner × String) _ =>
        if (acc.1.ahead 0).isDigit then acc.1.read acc.2 else acc) (t.skip, "")
      if minor.isEmpty then t.fail "while scanning a %YAML directive" start "did not find expected version number"
      else
        let stop := t.mark
        let t := skipBlanks t.left t
        let t := if t.ahead 0 = '#' then skipToBreak t.left t else t
        if !isBreakOrEnd (t.ahead 0) then
          t.fail "while scanning a directive" start "did not find expected comment or line break"
        else pure ((if isBreak (t.ahead 0) then t.skipLine else t).push
          ⟨.versionDirective, start, stop, major, minor, .plain⟩)
  else if name = "TAG" then
    let t := skipBlanks t.left t
    if t.ahead 0 ≠ '!' then t.fail "while scanning a %TAG directive" start "did not find expected '!'"
    else
      let (t, word) := readWord t.left t.skip ""
      let (t, handle) := if t.ahead 0 = '!' then (t.skip, "!" ++ word ++ "!") else (t, "!" ++ word)
      if !isBlank (t.ahead 0) then t.fail "while scanning a %TAG directive" start "did not find expected whitespace"
      else
        let t := skipBlanks t.left t
        let (t, pfx) := readTagChars t.left t ""
        if pfx.isEmpty then t.fail "while parsing a %TAG directive" start "did not find expected tag URI"
        else if !isSpaceOrEnd (t.ahead 0) then
          t.fail "while scanning a %TAG directive" start "did not find expected whitespace or line break"
        else
          let stop := t.mark
          let t := skipBlanks t.left t
          let t := if t.ahead 0 = '#' then skipToBreak t.left t else t
          if !isBreakOrEnd (t.ahead 0) then
            t.fail "while scanning a directive" start "did not find expected comment or line break"
          else pure ((if isBreak (t.ahead 0) then t.skipLine else t).push ⟨.tagDirective, start, stop, handle, pfx, .plain⟩)
  else t.fail "while scanning a directive" start "found unknown directive name"

/-! The scanner's loop. -/

def startsPlain (s : Scanner) : Bool :=
  let c := s.ahead 0
  !(isSpaceOrEnd c || "-?:,[]\x7b\x7d#&*!|>'\"%@`".toList.contains c) ||
    (c = '-' ∧ !isBlank (s.ahead 1)) ||
    (s.flowLevel = 0 ∧ (c = '?' ∨ c = ':') ∧ !isSpaceOrEnd (s.ahead 1))

def token (s : Scanner) : Except Problem Scanner :=
  let c := s.ahead 0
  if c = '[' then s.flowStart .flowSequenceStart
  else if c = '{' then s.flowStart .flowMappingStart
  else if c = ']' then s.flowEnd .flowSequenceEnd
  else if c = '}' then s.flowEnd .flowMappingEnd
  else if c = ',' then s.flowEntry
  else if c = '-' ∧ isSpaceOrEnd (s.ahead 1) then s.blockEntry
  else if c = '?' ∧ (s.flowLevel > 0 ∨ isSpaceOrEnd (s.ahead 1)) then s.complexKey
  else if c = ':' ∧ (s.flowLevel > 0 ∨ isSpaceOrEnd (s.ahead 1)) then s.valueIndicator
  else if c = '*' then s.anchorToken .reference
  else if c = '&' then s.anchorToken .anchor
  else if c = '!' then s.tagToken
  else if c = '|' ∧ s.flowLevel = 0 then s.blockScalar true
  else if c = '>' ∧ s.flowLevel = 0 then s.blockScalar false
  else if c = '\'' then s.quotedScalar true
  else if c = '"' then s.quotedScalar false
  else if s.startsPlain then s.plainScalar
  else s.fail "while scanning for the next token" s.mark "found character that cannot start any token"

def fetch (s : Scanner) : Except Problem Scanner := do
  if !s.started then return s.streamStart
  let scanMark := s.mark
  let s := toNextToken s.left s
  let s := s.unrollIndent s.mark.column scanMark
  if isEnd (s.ahead 0) then s.streamEnd
  else if s.mark.column = 0 ∧ s.ahead 0 = '%' then s.directive
  else if s.mark.column = 0 ∧ s.ahead 0 = '-' ∧ s.ahead 1 = '-' ∧ s.ahead 2 = '-' ∧ isSpaceOrEnd (s.ahead 3) then
    s.documentMarker .documentStart
  else if s.mark.column = 0 ∧ s.ahead 0 = '.' ∧ s.ahead 1 = '.' ∧ s.ahead 2 = '.' ∧ isSpaceOrEnd (s.ahead 3) then
    s.documentMarker .documentEnd
  else
    let t ← s.token
    match t.queue.getLast? with
    | some last => if last.kind = .blockEntry then pure t else pure t.skipLineComment
    | none => pure t

/-- Fills the queue until its first token is settled: three tokens are waiting and no pending
simple key starts at the first. -/
def fill : Nat → Scanner → Except Problem Scanner
  | 0, s => .ok { s with available := true }
  | fuel + 1, s =>
    if s.queue.length ≥ 3 then
      match s.keyOf.find? (·.1 == s.taken) with
      | none => .ok { s with available := true }
      | some (_, i) =>
        match s.checkKey i with
        | .error e => .error e
        | .ok (false, s) => .ok { s with available := true }
        | .ok (true, s) => match s.fetch with
          | .ok s => fill fuel s
          | .error e => .error e
    else match s.fetch with
      | .ok s => fill fuel s
      | .error e => .error e

def peek (s : Scanner) : Except Problem (Token × Scanner) := do
  let s ← if s.available then pure s else fill (s.left + 8) s
  match s.queue.head? with
  | some t => pure (t, s)
  | none => pure (Token.bare .streamEnd s.mark s.mark, s)

def next (s : Scanner) : Scanner :=
  { s with available := false, taken := s.taken + 1, queue := s.queue.drop 1 }

end Scanner

end HeaderAudit.Yaml
