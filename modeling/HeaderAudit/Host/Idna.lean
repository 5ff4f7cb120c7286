import HeaderAudit.Host.MappingData
import HeaderAudit.Host.Punycode
import HeaderAudit.Text.RangeTable
/-!
Internationalised host names for look-up: the ASCII form of a host name.
-/
namespace HeaderAudit.Host

/-- How the table treats a code point. -/
inductive Treatment where
  | valid
  | mapped (image : List Char)
  | deviation
  | ignored
  | disallowed
  deriving Repr, BEq, Inhabited

/-- An entry of the table: from `start` on, up to the next entry. -/
structure MappingEntry where
  start : Nat
  treatment : Treatment
  deriving Repr, Inhabited

def mappingTable : Array MappingEntry :=
  ((Text.packedFields mappingText).filterMap fun
    | [s, st] => (Text.hexValue? s).bind fun n => match st with
      | ['V'] => some ⟨n, .valid⟩
      | ['D'] => some ⟨n, .deviation⟩
      | ['I'] => some ⟨n, .ignored⟩
      | ['X'] => some ⟨n, .disallowed⟩
      | _ => none
    | [s, ['M'], m] => (Text.hexValue? s).map fun n =>
      ⟨n, .mapped (((m.splitOn ' ').filterMap Text.hexValue?).map Char.ofNat)⟩
    | _ => none).toArray

def markTable : Array Text.CodeRange := Text.CodeRange.table markText

def isMark (c : Char) : Bool := Text.CodeRange.memTable markTable c.toNat

def isHostAscii (c : Char) : Bool := ('a' ≤ c ∧ c ≤ 'z') ∨ ('0' ≤ c ∧ c ≤ '9') ∨ c = '-' ∨ c = '.'

def treatment (c : Char) : Treatment :=
  if c.toNat < 0x80 then
    if isHostAscii c then .valid
    else if 'A' ≤ c ∧ c ≤ 'Z' then .mapped [Char.ofNat (c.toNat + 32)]
    else .disallowed
  else match Text.lastAtMost mappingTable MappingEntry.start c.toNat with
    | some e => match e.treatment with
      | .mapped image => if image.all fun d => d.toNat ≥ 0x80 ∨ isHostAscii d then .mapped image else .disallowed
      | t => t
    | none => .disallowed

def mapName (cs : List Char) : List Char × Bool :=
  cs.foldr (fun c (acc, ok) => match treatment c with
    | .valid | .deviation => (c :: acc, ok)
    | .mapped image => (image ++ acc, ok)
    | .ignored => (acc, ok)
    | .disallowed => (c :: acc, false)) ([], true)

def validLabel (label : List Char) : Bool :=
  let bytes := (String.ofList label).toUTF8.toList
  let hyphen : UInt8 := 0x2D
  let doubleHyphen := bytes.length > 4 ∧ bytes[2]? = some hyphen ∧ bytes[3]? = some hyphen
  let edgeHyphen := label.head? = some '-' ∨ label.getLast? = some '-'
  let markFirst := match label.head? with
    | some c => isMark c
    | none => false
  let joiner := label.any fun c => c.toNat = 0x200C ∨ c.toNat = 0x200D
  label = [] ∨ (!doubleHyphen ∧ !edgeHyphen ∧ !markFirst ∧ !joiner)

def labelToAscii (label : List Char) : Option (List Char) :=
  if label = [] then some []
  else if ['x', 'n', '-', '-'].isPrefixOf label then
    match Punycode.decode (String.ofList (label.drop 4)) with
    | none => none
    | some u =>
      let u := u.toList
      if u.all (fun c => match treatment c with
          | .valid | .deviation => true
          | _ => false) ∧ validLabel u then
        (if u.all (·.toNat < 0x80) then some u
         else some ("xn--".toList ++ (Punycode.encode (String.ofList u)).toList))
      else none
  else if !validLabel label then none
  else if label.all (·.toNat < 0x80) then some label
  else some ("xn--".toList ++ (Punycode.encode (String.ofList label)).toList)

def toAscii (name : String) : Option String :=
  let (mapped, ok) := mapName name.toList
  if !ok then none
  else
    let labels := mapped.splitOn '.'
    match labels.mapM labelToAscii with
    | some ls => some (String.ofList ((ls.intersperse ['.']).flatten))
    | none => none

end HeaderAudit.Host
