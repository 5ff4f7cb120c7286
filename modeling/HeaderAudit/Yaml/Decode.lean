import HeaderAudit.Yaml.Node
import HeaderAudit.Text.Duration
import HeaderAudit.Text.Quoted
import HeaderAudit.Address.Bytes
/-!
Typed decoding of a YAML node tree. A decoder takes a node and the value decoded so far, and gives
the new value, or nothing when the node leaves the value as it was.
-/
namespace HeaderAudit.Yaml

abbrev Decoding := StateT (Array String) (Except String)

/-- Where a node is decoded: the anchored collections around it, innermost first, and the
aliases followed to reach it, each known by its name and position. -/
structure Scope where
  enclosing : List (String × Node)
  following : List (String × Nat × Nat)

def lift {α : Type} : Except String α → Decoding α
  | .ok a => pure a
  | .error e => throw e

abbrev Decoder (α : Type) := Scope → Node → α → Decoding (Option α)

namespace Scope

def target (sc : Scope) (n : Node) : Except String Node :=
  match n with
  | .reference name target _ _ => match target with
    | some t => .ok t
    | none => match sc.enclosing.find? (·.1 == name) with
      | some (_, t) => .ok t
      | none => .error ("unknown anchor '" ++ name ++ "' referenced")
  | n => .ok n

/-- Follows an alias to the node it stands for, in the scope that remembers the alias; an alias
met again while it is being followed stands inside its own node. -/
def follow (sc : Scope) (n : Node) : Decoding (Scope × Node) :=
  match n with
  | .reference name _ line column =>
    if sc.following.contains (name, line, column) then
      throw ("anchor '" ++ name ++ "' value contains itself")
    else do
      let t ← lift (sc.target n)
      pure ({ sc with following := (name, line, column) :: sc.following }, t)
  | n => pure (sc, n)

def enter (sc : Scope) (n : Node) : Scope :=
  match n with
  | .sequence _ a _ _ _ => if a = "" then sc else { sc with enclosing := (a, n) :: sc.enclosing }
  | .mapping _ a _ _ _ => if a = "" then sc else { sc with enclosing := (a, n) :: sc.enclosing }
  | _ => sc

end Scope

/-- The first bytes of a text that fit in a budget; a character cut short leaves one U+FFFD
for each of its bytes that fit. -/
def clipBytes (budget : Nat) : List Char → List Char
  | [] => []
  | c :: cs =>
    if c.utf8Size ≤ budget then c :: clipBytes (budget - c.utf8Size) cs
    else List.replicate budget '�'

/-- A scalar's value as a type error shows it: whole up to ten bytes, else its first seven bytes
and an ellipsis. -/
def shownValue (v : String) : String :=
  if v.utf8ByteSize > 10 then String.ofList (clipBytes 7 v.toList) ++ "..." else v

/-- Notes that a node does not fit a type. A collection is shown by its tag, a scalar also by
its value. -/
def mismatch (n : Node) (typeName : String) : Decoding Unit :=
  let (tag, value) := match n with
    | .scalar tag v _ _ _ => (tag, v)
    | .sequence tag _ _ _ _ => (tag, "")
    | .mapping tag _ _ _ _ => (tag, "")
    | .reference name _ _ _ => ("", name)
  let shown := if tag = "!!seq" ∨ tag = "!!map" then "" else " `" ++ shownValue value ++ "`"
  modify (·.push ("line " ++ toString n.line ++ ": cannot unmarshal " ++ tag ++ shown ++ " into " ++ typeName))

def keyIdentity : Node → Nat × String
  | .scalar _ v _ _ _ => (0, v)
  | .sequence .. => (1, "")
  | .mapping .. => (2, "")
  | .reference name _ _ _ => (3, name)

def uniqueKeys (pairs : List (Node × Node)) : Decoding Bool := do
  let keys := pairs.map (·.1)
  let mut clash := false
  for (k, i) in keys.zipIdx do
    for l in keys.drop (i + 1) do
      if keyIdentity k == keyIdentity l then
        clash := true
        modify (·.push ("line " ++ toString l.line ++ ": mapping key " ++ Text.quote (keyIdentity l).2 ++
          " already defined at line " ++ toString k.line))
  return !clash

def collectionMismatch (n : Node) (typeName : String) : Decoding Unit := do
  match n with
  | .mapping _ _ pairs _ _ => if ← uniqueKeys pairs then mismatch n typeName
  | _ => mismatch n typeName

def base64Digit (c : Char) : Option Nat :=
  if 'A' ≤ c ∧ c ≤ 'Z' then some (c.toNat - 'A'.toNat)
  else if 'a' ≤ c ∧ c ≤ 'z' then some (c.toNat - 'a'.toNat + 26)
  else if '0' ≤ c ∧ c ≤ '9' then some (c.toNat - '0'.toNat + 52)
  else if c = '+' then some 62
  else if c = '/' then some 63
  else none

/-- Decodes padded base64 in groups of four characters; line breaks are ignored, and padding
may only end the last group. -/
def base64Groups : Nat → List Char → Option (List UInt8)
  | 0, _ => none
  | _, [] => some []
  | fuel + 1, a :: b :: c :: d :: rest => do
    let va ← base64Digit a
    let vb ← base64Digit b
    let v := va * 64 + vb
    if c = '=' then
      if d = '=' ∧ rest.isEmpty then some [(v / 16).toUInt8] else none
    else
      let vc ← base64Digit c
      if d = '=' then
        if rest.isEmpty then some [((v * 64 + vc) / 1024).toUInt8, (((v * 64 + vc) / 4) % 256).toUInt8]
        else none
      else
        let vd ← base64Digit d
        let w := (v * 64 + vc) * 64 + vd
        let tail ← base64Groups fuel rest
        some ((w / 65536).toUInt8 :: ((w / 256) % 256).toUInt8 :: (w % 256).toUInt8 :: tail)
  | _, _ => none

def base64Decode (s : String) : Option (List UInt8) :=
  let cs := s.toList.filter (fun c => c ≠ '\r' ∧ c ≠ '\n')
  base64Groups (cs.length + 1) cs

def resolvable (tag : String) : Bool :=
  tag = "" ∨ tag = "!!str" ∨ tag = "!!bool" ∨ tag = "!!int" ∨ tag = "!!float" ∨ tag = "!!timestamp" ∨
    tag = "!!null"

/-- What a scalar stands for once its tag is applied, with its text as text targets take it: a
text tag keeps the text as it is, a standard tag must fit what the text reads as (an integer
fits a float tag), binary data is decoded, and any other tag is kept with the text. -/
def scalarValue (tag value : String) : Except String (Resolved × String) :=
  if tag = "!!str" then .ok (.text, value)
  else if resolvable tag then
    let r := resolveWith (tag = "" ∨ tag = "!!timestamp") value
    if tag = "" ∨ r.tag = tag then .ok (r, value)
    else match tag, r with
      | "!!float", .int n => .ok (.float n 0, value)
      | _, _ => .error ("cannot decode " ++ r.tag ++ " `" ++ value ++ "` as a " ++ tag)
  else if tag = "!!binary" then
    match base64Decode value with
    | some bytes => .ok (.text, Bytes.toStringLossy bytes)
    | none => .error "!!binary value contains invalid base64 data"
  else .ok (.text, value)

def scalarOf (sc : Scope) (n : Node) : Decoding (Node × Option (Resolved × String)) := do
  let (_, n) ← sc.follow n
  match n with
  | .scalar tag value _ _ _ =>
    let r ← lift (scalarValue tag value)
    pure (n, some r)
  | n => pure (n, none)

def text : Decoder String := fun sc n _ => do
  let (n, s) ← scalarOf sc n
  match s with
  | some (.null, _) => pure none
  | some (_, t) => pure (some t)
  | none => collectionMismatch n "string"; pure none

/-- The exact value of a decimal, rounded to the nearest 64-bit float and then truncated toward
zero, for magnitudes from one tenth up to 10^20; the float's value is checked against 2^63
before truncating. -/
def roundedWhole (num den : Nat) : Nat × Bool :=
  let q := num / den
  let k : Int := if q ≥ 1 then Nat.log2 q
    else if num * 2 ≥ den then -1 else if num * 4 ≥ den then -2 else if num * 8 ≥ den then -3 else -4
  let s : Int := 52 - k
  let (n', d') := if s ≥ 0 then (num * Nat.pow 2 s.toNat, den) else (num, den * Nat.pow 2 (-s).toNat)
  let m := n' / d'
  let r := n' % d'
  let m := if 2 * r > d' ∨ (2 * r = d' ∧ m % 2 = 1) then m + 1 else m
  if s ≤ 0 then
    let v := m * Nat.pow 2 (-s).toNat
    (v, v > 0x8000000000000000)
  else (m / Nat.pow 2 s.toNat, m > 0x8000000000000000 * Nat.pow 2 s.toNat)

/-- The integer a float gives on a 64-bit machine, or nothing when it is above 2^63: the value
rounded to a float and truncated, with anything out of the signed range becoming -2^63. -/
def floatToInt (mantissa exponent : Int) : Option Int :=
  let digits : Int := (toString mantissa.natAbs).length
  let neg := mantissa < 0
  let low : Int := -0x8000000000000000
  if mantissa = 0 ∨ digits + exponent ≤ -1 then some 0
  else if digits + exponent ≥ 21 then (if neg then some low else none)
  else
    let (num, den) := if exponent ≥ 0 then (mantissa.natAbs * Nat.pow 10 exponent.toNat, 1)
      else (mantissa.natAbs, Nat.pow 10 (-exponent).toNat)
    let (v, tooLarge) := roundedWhole num den
    if neg then (if v > 0x8000000000000000 then some low else some (-(v : Int)))
    else if tooLarge then none
    else if v ≥ 0x8000000000000000 then some low
    else some v

def integer (typeName : String) : Decoder Int := fun sc n _ => do
  let (n, s) ← scalarOf sc n
  match s with
  | some (.null, _) => pure none
  | some (.int v, _) =>
    if v < 0x8000000000000000 then pure (some v) else do mismatch n typeName; pure none
  | some (.float m e, _) => match floatToInt m e with
    | some v => pure (some v)
    | none => do mismatch n typeName; pure none
  | some (.infinity true, _) => pure (some (-0x8000000000000000))
  | some _ => do mismatch n typeName; pure none
  | none => do collectionMismatch n typeName; pure none

def duration : Decoder Int := fun sc n _ => do
  let (n, s) ← scalarOf sc n
  match s with
  | some (.null, _) => pure none
  | some (.text, t) => match Text.parseDuration t with
    | .ok d => pure (some d)
    | .error _ => do mismatch n "time.Duration"; pure none
  | some _ => do mismatch n "time.Duration"; pure none
  | none => do collectionMismatch n "time.Duration"; pure none

def flagWord (t : String) : Option Bool :=
  if ["y", "Y", "yes", "Yes", "YES", "on", "On", "ON"].contains t then some true
  else if ["n", "N", "no", "No", "NO", "off", "Off", "OFF"].contains t then some false
  else none

def flag : Decoder Bool := fun sc n _ => do
  let (n, s) ← scalarOf sc n
  match s with
  | some (.null, _) => pure none
  | some (.bool b, _) => pure (some b)
  | some (.text, t) => match flagWord t with
    | some b => pure (some b)
    | none => do mismatch n "bool"; pure none
  | some _ => do mismatch n "bool"; pure none
  | none => do collectionMismatch n "bool"; pure none

/-- A field of a record: its key, and how its value is decoded into the record. -/
structure Field (α : Type) where
  key : String
  decode : Scope → Node → α → Decoding α

def Field.of {α β : Type} (key : String) (dec : Decoder β) (get : α → β) (put : α → β → α) : Field α :=
  ⟨key, fun sc n r => do
    match ← dec sc n (get r) with
    | some v => pure (put r v)
    | none => pure r⟩

def isMergeKey : Node → Bool
  | .scalar tag value _ _ _ => value = "<<" ∧ tag = "!!merge"
  | _ => false

def textKeys (sc : Scope) (pairs : List (Node × Node)) : List String :=
  pairs.filterMap fun (k, _) => match sc.target k with
    | .ok (.scalar tag value _ _ _) => match scalarValue tag value with
      | .ok (.text, t) => some t
      | _ => none
    | _ => none

/-- Whether a merge key's value names mappings: a mapping, an alias of one, or a sequence of
them. -/
def mergeSources (sc : Scope) (n : Node) : Except String (List Node) := do
  let wantMap := "map merge requires map or sequence of maps as the value"
  match n with
  | .mapping .. => pure [n]
  | .reference .. => match ← sc.target n with
    | .mapping .. => pure [n]
    | _ => throw wantMap
  | .sequence _ _ items _ _ =>
    items.mapM fun i => match i with
      | .mapping .. => pure i
      | .reference .. => do
        match ← sc.target i with
        | .mapping .. => pure i
        | _ => throw wantMap
      | _ => throw wantMap
  | _ => throw wantMap

/-- Decodes a node into a record, given the keys already set when it is merged into another
mapping; gives the record, or nothing when the node leaves it as it was, and the keys now set. -/
def recordFrom {α : Type} (typeName : String) (fields : List (Field α)) :
    Nat → Scope → Node → Option (List String) → α → Decoding (Option α × Option (List String))
  | 0, _, _, _, _ => throw "document contains excessive aliasing"
  | fuel + 1, sc, n, merged, cur => do
    let (sc, n) ← sc.follow n
    match n with
    | .mapping _ _ pairs _ _ =>
      if !(← uniqueKeys pairs) then return (none, merged)
      let inner := sc.enter n
      let mut r := cur
      let mut names := merged
      let mut done : List String := []
      let mut source : Option Node := none
      for (k, v) in pairs do
        if isMergeKey k then
          source := some v
        else
          match ← text inner k "" with
          | none => pure ()
          | some key =>
            let skip := match names with
              | some ns => ns.contains key
              | none => false
            if !skip then
              names := names.map (key :: ·)
              match fields.find? (·.key == key) with
              | none => pure ()
              | some f =>
                if done.contains key then
                  modify (·.push ("line " ++ toString k.line ++ ": field " ++ key ++ " already set in type " ++
                    typeName))
                else
                  done := key :: done
                  r ← f.decode inner v r
      match source with
      | none => return (some r, names)
      | some m =>
        let sources ← lift (mergeSources inner m)
        let within := inner.enter m
        let mut set := some (names.getD (textKeys inner pairs))
        for s in sources do
          let (r', set') ← recordFrom typeName fields fuel within s set r
          r := r'.getD r
          set := set'
        return (some r, if names.isSome then set else none)
    | .scalar tag value _ _ _ =>
      let (res, _) ← lift (scalarValue tag value)
      if res != .null then mismatch n typeName
      return (none, merged)
    | _ => do collectionMismatch n typeName; return (none, merged)

def record {α : Type} (typeName : String) (fields : List (Field α)) : Decoder α := fun sc n cur => do
  let (r, _) ← recordFrom typeName fields 1000 sc n none cur
  pure r

def list {β : Type} (typeName : String) (item : Decoder β) (start : β) : Decoder (Option (List β)) :=
  fun sc n _ => do
    let (sc, n) ← sc.follow n
    match n with
    | .sequence _ _ items _ _ =>
      let inner := sc.enter n
      let mut out : Array β := #[]
      for i in items do
        match ← item inner i start with
        | some v => out := out.push v
        | none => pure ()
      return some (some out.toList)
    | .scalar tag value _ _ _ =>
      let (res, _) ← lift (scalarValue tag value)
      if res == .null then return some none
      mismatch n typeName
      return none
    | _ => do collectionMismatch n typeName; return none

/-- Decodes the first document of a YAML text over a starting value. A text that does not read
as YAML, a fatal fault, or any type error makes it fail, with the message a reader shows. -/
def decodeDocument {α : Type} (dec : Decoder α) (start : α) (text : String) : Except String α :=
  match compose text with
  | .error (.problem p) => .error ("yaml: " ++ p.message)
  | .error (.fault m) => .error ("yaml: " ++ m)
  | .ok none => .ok start
  | .ok (some root) =>
    match (dec ⟨[], []⟩ root start).run #[] with
    | .error m => .error ("yaml: " ++ m)
    | .ok (v, errs) =>
      if errs.isEmpty then .ok (v.getD start)
      else .error ("yaml: unmarshal errors:\n  " ++ "\n  ".intercalate errs.toList)

end HeaderAudit.Yaml
