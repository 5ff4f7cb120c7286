import HeaderAudit.Markup.Reference
/-!
Splitting HTML text into tokens: text, start and end tags, comments and doctypes.
-/
namespace HeaderAudit.Markup

/-- A token of HTML text. A text token notes whether it is an element's raw text. -/
inductive Token where
  | text (data : String) (raw : Bool)
  | startTag (name : String) (attrs : List (String × String)) (selfClosing : Bool)
  | endTag (name : String)
  | comment
  | doctype
  deriving Repr, Inhabited

def isSpace (c : Char) : Bool := c = ' ' ∨ c = '\n' ∨ c = '\r' ∨ c = '\t' ∨ c = '\x0c'

def isLetter (c : Char) : Bool := ('a' ≤ c ∧ c ≤ 'z') ∨ ('A' ≤ c ∧ c ≤ 'Z')

def lowerChar (c : Char) : Char := if 'A' ≤ c ∧ c ≤ 'Z' then Char.ofNat (c.toNat + 32) else c

def lowerAscii (s : String) : String := String.ofList (s.toList.map lowerChar)

def unifyBreaks : List Char → List Char
  | '\r' :: '\n' :: rest => '\n' :: unifyBreaks rest
  | '\r' :: rest => '\n' :: unifyBreaks rest
  | c :: rest => c :: unifyBreaks rest
  | [] => []

def slice (t : Array Char) (i j : Nat) : String := String.ofList ((t.toList.drop i).take (j - i))

def skipSpace (t : Array Char) : Nat → Nat → Nat
  | 0, i => i
  | fuel + 1, i => match t[i]? with
    | some c => if isSpace c then skipSpace t fuel (i + 1) else i
    | none => i

def findFrom (t : Array Char) (c : Char) : Nat → Nat → Option Nat
  | 0, _ => none
  | fuel + 1, i => match t[i]? with
    | some d => if d = c then some i else findFrom t c fuel (i + 1)
    | none => none

/-- Where a tag name from a position ends, and where reading goes on: after a space, or at a
`/` or `>`; nothing at the end of the text. -/
def tagNameEnd (t : Array Char) : Nat → Nat → Option (Nat × Nat)
  | 0, _ => none
  | fuel + 1, i => match t[i]? with
    | none => none
    | some c =>
      if isSpace c then some (i, i + 1)
      else if c = '/' ∨ c = '>' then some (i, i)
      else tagNameEnd t fuel (i + 1)

/-- Where an attribute name that starts at `start` ends: at `=` (unless it is the first
character), a space, `/` or `>`; nothing at the end of the text. -/
def attrNameEnd (t : Array Char) (start : Nat) : Nat → Nat → Option Nat
  | 0, _ => none
  | fuel + 1, i => match t[i]? with
    | none => none
    | some c =>
      if c = '=' ∧ i = start then attrNameEnd t start fuel (i + 1)
      else if c = '=' ∨ isSpace c ∨ c = '/' ∨ c = '>' then some i
      else attrNameEnd t start fuel (i + 1)

/-- Where an unquoted attribute value from a position ends, and where reading goes on: after a
space, or at `>`; nothing at the end of the text. -/
def unquotedEnd (t : Array Char) : Nat → Nat → Option (Nat × Nat)
  | 0, _ => none
  | fuel + 1, i => match t[i]? with
    | none => none
    | some c =>
      if isSpace c then some (i, i + 1)
      else if c = '>' then some (i, i)
      else unquotedEnd t fuel (i + 1)

/-- Reads the value after an attribute name: its span, and where reading goes on; nothing at
the end of the text. A name without `=` has an empty value. -/
def attrValue (t : Array Char) (i : Nat) : Option ((Nat × Nat) × Nat) :=
  let fuel := t.size + 1
  let i := skipSpace t fuel i
  match t[i]? with
  | none => none
  | some c =>
    if c = '/' then some ((i, i), i + 1)
    else if c ≠ '=' then some ((i, i), i)
    else
      let j := skipSpace t fuel (i + 1)
      match t[j]? with
      | none => none
      | some q =>
        if q = '>' then some ((j, j), j)
        else if q = '\'' ∨ q = '"' then
          (findFrom t q fuel (j + 1)).map fun k => ((j + 1, k), k + 1)
        else (unquotedEnd t fuel (j + 1)).map fun (k, next) => ((j, k), next)

/-- Reads the attributes of a tag up to its `>`: the name and value spans of each attribute with
a name, and the position after the `>`; nothing at the end of the text. -/
def tagAttrs (t : Array Char) : Nat → Nat → List ((Nat × Nat) × (Nat × Nat)) →
    Option (List ((Nat × Nat) × (Nat × Nat)) × Nat)
  | 0, _, _ => none
  | fuel + 1, i, acc =>
    match t[i]? with
    | none => none
    | some c =>
      if c = '>' then some (acc.reverse, i + 1)
      else match attrNameEnd t i (t.size + 1) i with
        | none => none
        | some keyEnd => match attrValue t keyEnd with
          | none => none
          | some (value, next) =>
            let acc := if keyEnd > i then ((i, keyEnd), value) :: acc else acc
            let next := skipSpace t (t.size + 1) next
            if next ≥ t.size then none else tagAttrs t fuel next acc

/-- Reads a tag whose name starts at a position: its name span, its attributes, and the
position after its `>`; nothing when the text ends first. -/
def readTag (t : Array Char) (i : Nat) :
    Option ((Nat × Nat) × List ((Nat × Nat) × (Nat × Nat)) × Nat) := do
  let (nameEnd, next) ← tagNameEnd t (t.size + 1) (i + 1)
  let next := skipSpace t (t.size + 1) next
  if next ≥ t.size then none
  let (attrs, stop) ← tagAttrs t (t.size + 1) next []
  pure ((i, nameEnd), attrs, stop)

def rawTextElements : List String :=
  ["iframe", "noembed", "noframes", "noscript", "plaintext", "script", "style", "textarea", "title", "xmp"]

/-- Whether an end tag of an element starts at a position (after its `<`): `/`, the name in any
case, then a space, `/` or `>`. Gives how many of the name's characters matched, and whether the
whole tag matched. -/
def rawEndMatch (t : Array Char) (name : List Char) (i : Nat) : Nat × Option Bool :=
  let matched := ((List.range name.length).takeWhile fun k =>
    match t[i + k]?, name[k]? with
    | some c, some n => lowerChar c = n
    | _, _ => false).length
  if matched < name.length then
    (matched, if i + matched ≥ t.size then none else some false)
  else match t[i + matched]? with
    | none => (matched, none)
    | some c => (matched, some (isSpace c ∨ c = '/' ∨ c = '>'))

/-- Where the raw text of an element from a position ends: at the `<` of its end tag, or at the
end of the text. -/
def rawTextEnd (t : Array Char) (name : List Char) : Nat → Nat → Nat
  | 0, _ => t.size
  | fuel + 1, i =>
    match t[i]?, t[i + 1]? with
    | some '<', some '/' =>
      match rawEndMatch t name (i + 2) with
      | (_, some true) => i
      | (_, none) => t.size
      | (k, some false) => rawTextEnd t name fuel (i + 2 + k)
    | some _, _ => rawTextEnd t name fuel (i + 1)
    | none, _ => t.size

/-- The states of reading a script's text. -/
inductive ScriptState where
  | data | lessThan | escapeStart | escapeStartDash | escaped | escapedDash | escapedDashDash
  | escapedLessThan | doubleEscaped | doubleEscapedDash | doubleEscapedDashDash
  | doubleEscapedLessThan
  deriving Repr, BEq, Inhabited

/-- Whether `script` in any case, then a space, `/` or `>`, starts at a position: the position
after it, or where the match failed (or nothing at the end of the text). -/
def scriptWordAt (t : Array Char) (i : Nat) : Option (Bool × Nat) :=
  let word := "script".toList
  let matched := ((List.range 6).takeWhile fun k =>
    match t[i + k]?, word[k]? with
    | some c, some w => lowerChar c = w
    | _, _ => false).length
  if matched < 6 then (if i + matched ≥ t.size then none else some (false, i + matched))
  else match t[i + 6]? with
    | none => none
    | some c => if isSpace c ∨ c = '/' ∨ c = '>' then some (true, i + 7) else some (false, i + 6)

/-- Where a script's text from a position ends, following the rules that hide an end tag inside
an escaped comment. -/
def scriptEnd (t : Array Char) : Nat → ScriptState → Nat → Nat
  | 0, _, _ => t.size
  | fuel + 1, st, i =>
    match t[i]? with
    | none => t.size
    | some c =>
      let endTag (onFail : ScriptState) : Nat :=
        match rawEndMatch t "script".toList (i + 1) with
        | (_, some true) => i - 1
        | (_, none) => t.size
        | (k, some false) => scriptEnd t fuel onFail (i + 1 + k)
      match st with
      | .data => if c = '<' then scriptEnd t fuel .lessThan (i + 1) else scriptEnd t fuel .data (i + 1)
      | .lessThan =>
        if c = '/' then endTag .data
        else if c = '!' then scriptEnd t fuel .escapeStart (i + 1)
        else scriptEnd t fuel .data i
      | .escapeStart => if c = '-' then scriptEnd t fuel .escapeStartDash (i + 1) else scriptEnd t fuel .data i
      | .escapeStartDash =>
        if c = '-' then scriptEnd t fuel .escapedDashDash (i + 1) else scriptEnd t fuel .data i
      | .escaped =>
        if c = '-' then scriptEnd t fuel .escapedDash (i + 1)
        else if c = '<' then scriptEnd t fuel .escapedLessThan (i + 1)
        else scriptEnd t fuel .escaped (i + 1)
      | .escapedDash =>
        if c = '-' then scriptEnd t fuel .escapedDashDash (i + 1)
        else if c = '<' then scriptEnd t fuel .escapedLessThan (i + 1)
        else scriptEnd t fuel .escaped (i + 1)
      | .escapedDashDash =>
        if c = '-' then scriptEnd t fuel .escapedDashDash (i + 1)
        else if c = '<' then scriptEnd t fuel .escapedLessThan (i + 1)
        else if c = '>' then scriptEnd t fuel .data (i + 1)
        else scriptEnd t fuel .escaped (i + 1)
      | .escapedLessThan =>
        if c = '/' then endTag .escaped
        else if isLetter c then
          match scriptWordAt t i with
          | none => t.size
          | some (true, next) => scriptEnd t fuel .doubleEscaped next
          | some (false, next) => scriptEnd t fuel .escaped next
        else scriptEnd t fuel .data i
      | .doubleEscaped =>
        if c = '-' then scriptEnd t fuel .doubleEscapedDash (i + 1)
        else if c = '<' then scriptEnd t fuel .doubleEscapedLessThan (i + 1)
        else scriptEnd t fuel .doubleEscaped (i + 1)
      | .doubleEscapedDash =>
        if c = '-' then scriptEnd t fuel .doubleEscapedDashDash (i + 1)
        else if c = '<' then scriptEnd t fuel .doubleEscapedLessThan (i + 1)
        else scriptEnd t fuel .doubleEscaped (i + 1)
      | .doubleEscapedDashDash =>
        if c = '-' then scriptEnd t fuel .doubleEscapedDashDash (i + 1)
        else if c = '<' then scriptEnd t fuel .doubleEscapedLessThan (i + 1)
        else if c = '>' then scriptEnd t fuel .data (i + 1)
        else scriptEnd t fuel .doubleEscaped (i + 1)
      | .doubleEscapedLessThan =>
        if c = '/' then
          match rawEndMatch t "script".toList (i + 1) with
          | (_, some true) => scriptEnd t fuel .escaped (i + 1 + 7)
          | (_, none) => t.size
          | (k, some false) => scriptEnd t fuel .doubleEscaped (i + 1 + k)
        else scriptEnd t fuel .doubleEscaped i

def afterCloseAngle (t : Array Char) (i : Nat) : Nat :=
  match findFrom t '>' (t.size + 1) i with
  | some k => k + 1
  | none => t.size

/-- Where a comment from a position (after `<!--`) ends: after `-->`, `--!>`, or a `>` right at
its start; or at the end of the text. -/
def commentEnd (t : Array Char) : Nat → Nat → Bool → Nat → Nat
  | 0, _, _, _ => t.size
  | fuel + 1, dashes, beginning, i =>
    match t[i]? with
    | none => t.size
    | some c =>
      if c = '-' then commentEnd t fuel (dashes + 1) beginning (i + 1)
      else if c = '>' ∧ (dashes ≥ 2 ∨ beginning) then i + 1
      else if c = '!' ∧ dashes ≥ 2 then
        match t[i + 1]? with
        | none => t.size
        | some '>' => i + 2
        | some '-' => commentEnd t fuel 1 false (i + 2)
        | some _ => commentEnd t fuel 0 false (i + 2)
      else commentEnd t fuel 0 false (i + 1)

def wordAt (t : Array Char) (word : String) (i : Nat) : Bool :=
  (word.toList.zipIdx).all fun (w, k) => match t[i + k]? with
    | some c => lowerChar c = lowerChar w
    | none => false

def exactAt (t : Array Char) (word : String) (i : Nat) : Bool :=
  (word.toList.zipIdx).all fun (w, k) => t[i + k]? = some w

/-- Where a character data section from a position (after `[CDATA[`) ends: its content's end and
the position after `]]>`, or the end of the text. -/
def cdataEnd (t : Array Char) : Nat → Nat → Nat → Nat × Nat
  | 0, _, _ => (t.size, t.size)
  | fuel + 1, brackets, i =>
    match t[i]? with
    | none => (t.size, t.size)
    | some c =>
      if c = ']' then cdataEnd t fuel (brackets + 1) (i + 1)
      else if c = '>' ∧ brackets ≥ 2 then (i - 2, i + 1)
      else cdataEnd t fuel 0 (i + 1)

/-- Where text from a position ends: at a `<` that starts a tag, comment or declaration, or at
the end of the text. -/
def textEnd (t : Array Char) : Nat → Nat → Nat
  | 0, _ => t.size
  | fuel + 1, i =>
    match t[i]?, t[i + 1]? with
    | some '<', some c => if isLetter c ∨ c = '/' ∨ c = '!' ∨ c = '?' then i else textEnd t fuel (i + 1)
    | some _, _ => textEnd t fuel (i + 1)
    | none, _ => t.size

/-- A tokenizer: the text, the position reached, and the raw text element whose content comes
next, if any. -/
structure Tokenizer where
  text : Array Char
  pos : Nat
  rawTag : String

namespace Tokenizer

def start (s : String) : Tokenizer := ⟨s.toList.toArray, 0, ""⟩

def attributes (t : Array Char) (spans : List ((Nat × Nat) × (Nat × Nat))) : List (String × String) :=
  spans.map fun ((ks, ke), (vs, ve)) =>
    (lowerAscii (slice t ks ke), unescape true (String.ofList (unifyBreaks (slice t vs ve).toList)))

def markup (z : Tokenizer) (allowCDATA : Bool) : Option (Token × Tokenizer) :=
  let t := z.text
  let i := z.pos
  match t[i + 1]? with
  | some c =>
    if isLetter c then
      match readTag t (i + 1) with
      | none => none
      | some ((ns, ne), spans, stop) =>
        let name := lowerAscii (slice t ns ne)
        let selfClosing := t[stop - 2]? = some '/'
        let raw := if rawTextElements.contains name then name else ""
        some (.startTag name (attributes t spans) selfClosing, ⟨t, stop, raw⟩)
    else if c = '/' then
      match t[i + 2]? with
      | none => some (.text "</" false, ⟨t, t.size, ""⟩)
      | some d =>
        if d = '>' then some (.comment, ⟨t, i + 3, ""⟩)
        else if isLetter d then
          match readTag t (i + 2) with
          | none => none
          | some ((ns, ne), _, stop) => some (.endTag (lowerAscii (slice t ns ne)), ⟨t, stop, ""⟩)
        else some (.comment, ⟨t, afterCloseAngle t (i + 2), ""⟩)
    else if c = '?' then some (.comment, ⟨t, afterCloseAngle t (i + 1), ""⟩)
    else
      let j := i + 2
      if j + 1 ≥ t.size then some (.comment, ⟨t, t.size, ""⟩)
      else if t[j]? = some '-' ∧ t[j + 1]? = some '-' then
        some (.comment, ⟨t, commentEnd t (t.size + 1) 0 true (j + 2), ""⟩)
      else if wordAt t "DOCTYPE" j then some (.doctype, ⟨t, afterCloseAngle t (j + 7), ""⟩)
      else if allowCDATA ∧ exactAt t "[CDATA[" j then
        let (stop, next) := cdataEnd t (t.size + 1) 0 (j + 7)
        some (.text (slice t (j + 7) stop) false, ⟨t, next, ""⟩)
      else some (.comment, ⟨t, afterCloseAngle t j, ""⟩)
  | none => none

/-- Reads the next token; nothing at the end of the text. Character data sections are read only
when `allowCDATA` is set. -/
def next (z : Tokenizer) (allowCDATA : Bool) : Option (Token × Tokenizer) :=
  let t := z.text
  let rawEnd :=
    if z.rawTag = "" then none
    else if z.rawTag = "plaintext" then some t.size
    else if z.rawTag = "script" then some (scriptEnd t (4 * t.size + 8) .data z.pos)
    else some (rawTextEnd t z.rawTag.toList (t.size + 1) z.pos)
  match rawEnd with
  | some stop =>
    if stop > z.pos then
      some (.text (slice t z.pos stop) true, ⟨t, stop, if z.rawTag = "plaintext" then z.rawTag else ""⟩)
    else if z.rawTag = "plaintext" then none
    else plain { z with rawTag := "" } allowCDATA
  | none => plain z allowCDATA
where
  /-- Reads the next token outside raw text. -/
  plain (z : Tokenizer) (allowCDATA : Bool) : Option (Token × Tokenizer) :=
    let t := z.text
    if z.pos ≥ t.size then none
    else
      let stop := textEnd t (t.size + 1) z.pos
      if stop > z.pos then some (.text (slice t z.pos stop) false, { z with pos := stop })
      else markup z allowCDATA

def plainNext (z : Tokenizer) : Tokenizer := { z with rawTag := "" }

end Tokenizer

end HeaderAudit.Markup
