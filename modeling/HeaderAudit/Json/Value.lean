import HeaderAudit.Text.Hex
/-!
JSON values and their text. Objects keep their members in the order given, so a record is written
field by field in declaration order and a map is written after sorting its keys.
-/
namespace HeaderAudit

/-- A JSON value. Integers are numbers; a number read with a fraction or an exponent is kept as
written, since nothing in this library computes with one. -/
inductive Json where
  | null
  | bool (b : Bool)
  | num (n : Int)
  | real (literal : String)
  | str (s : String)
  | arr (items : List Json)
  | obj (fields : List (String × Json))
  deriving Repr, Inhabited, BEq

namespace Json

def escapeChar (c : Char) : List Char :=
  if c = '"' then ['\\', '"']
  else if c = '\\' then ['\\', '\\']
  else if c = '\n' then ['\\', 'n']
  else if c = '\r' then ['\\', 'r']
  else if c = '\t' then ['\\', 't']
  else if c = '\x08' then ['\\', 'b']
  else if c = '\x0c' then ['\\', 'f']
  else if c.toNat < 32 ∨ c = '<' ∨ c = '>' ∨ c = '&' ∨ c.toNat = 0x2028 ∨ c.toNat = 0x2029 then
    '\\' :: 'u' :: Text.hexPadded false 4 c.toNat
  else [c]

def quote (s : String) : String :=
  String.ofList ('"' :: (s.toList.flatMap escapeChar ++ ['"']))

mutual
def render : Json → String
  | null => "null"
  | bool true => "true"
  | bool false => "false"
  | num n => toString n
  | real t => t
  | str s => quote s
  | arr items => "[" ++ renderItems items ++ "]"
  | obj fields => "\x7b" ++ renderFields fields ++ "\x7d"

def renderItems : List Json → String
  | [] => ""
  | [x] => render x
  | x :: xs => render x ++ "," ++ renderItems xs

def renderFields : List (String × Json) → String
  | [] => ""
  | [(k, v)] => quote k ++ ":" ++ render v
  | (k, v) :: rest => quote k ++ ":" ++ render v ++ "," ++ renderFields rest
end

def newline (depth : Nat) : String := "\n" ++ String.ofList (List.replicate (2 * depth) ' ')

mutual
def pretty (depth : Nat) : Json → String
  | arr [] => "[]"
  | obj [] => "\x7b\x7d"
  | arr items => "[" ++ prettyItems (depth + 1) items ++ newline depth ++ "]"
  | obj fields => "\x7b" ++ prettyFields (depth + 1) fields ++ newline depth ++ "\x7d"
  | v => render v

def prettyItems (depth : Nat) : List Json → String
  | [] => ""
  | [x] => newline depth ++ pretty depth x
  | x :: xs => newline depth ++ pretty depth x ++ "," ++ prettyItems depth xs

def prettyFields (depth : Nat) : List (String × Json) → String
  | [] => ""
  | [(k, v)] => newline depth ++ quote k ++ ": " ++ pretty depth v
  | (k, v) :: rest => newline depth ++ quote k ++ ": " ++ pretty depth v ++ "," ++
      prettyFields depth rest
end

def strs (xs : List String) : Json := arr (xs.map str)

def nat (n : Nat) : Json := num n

def opt {α : Type} (f : α → Json) : Option α → Json
  | some a => f a
  | none => null

def insertSorted (k : String) (v : Json) : List (String × Json) → List (String × Json)
  | [] => [(k, v)]
  | (k', v') :: rest =>
    if k = k' then (k, v) :: rest
    else if k < k' then (k, v) :: (k', v') :: rest
    else (k', v') :: insertSorted k v rest

def sortedObj (fields : List (String × Json)) : Json :=
  obj (fields.foldl (fun acc (k, v) => insertSorted k v acc) [])

def field? (j : Json) (k : String) : Option Json :=
  match j with
  | obj fields => (fields.find? (·.1 == k)).map (·.2)
  | _ => none

end Json

end HeaderAudit
