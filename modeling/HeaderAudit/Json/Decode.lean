import HeaderAudit.Error
import HeaderAudit.Json.Value
import HeaderAudit.Text.Case
/-!
Decoding JSON into records. Each member of an object goes to the field of the same name, or, failing
that, to the first field whose name matches ignoring case; unknown members are ignored, a field
reader decides what `null` means (a text field keeps its value), and a later member for a field
wins.
-/
namespace HeaderAudit

namespace Json

def kindWord : Json → String
  | null => "null"
  | bool _ => "bool"
  | num _ => "number"
  | real _ => "number"
  | str _ => "string"
  | arr _ => "array"
  | obj _ => "object"

def mismatch (value target : String) (place : Option (String × String)) : String :=
  match place with
  | some (record, field) =>
    "json: cannot unmarshal " ++ value ++ " into Go struct field " ++ record ++ "." ++ field ++
      " of type " ++ target
  | none => "json: cannot unmarshal " ++ value ++ " into Go value of type " ++ target

def fieldFor (fields : List String) (key : String) : Option String :=
  if fields.contains key then some key else fields.find? (Text.equalFold · key)

/-- How decoding a value ended: a value, a noted fault (decoding goes on), or a stop. -/
inductive Step (α : Type) where
  | ok (a : α)
  | noted (msg : String)
  | stop (e : Error)

/-- The state of decoding a record: the fields set so far and the first noted fault. -/
structure Fill (α : Type) where
  value : α
  noted : Option String

def fill {α : Type} (fields : List String) (set : String → Json → α → Step α) (start : α) :
    List (String × Json) → Outcome (Fill α)
  | [] => .ok ⟨start, none⟩
  | (k, v) :: rest =>
    match fieldFor fields k with
    | none => fill fields set start rest
    | some f =>
      match set f v start with
        | .ok a => fill fields set a rest
        | .noted msg => (fill fields set start rest).map fun r => ⟨r.value, some (r.noted.getD msg)⟩
        | .stop e => .error e

/-- Decodes a record from a value that must be an object; the first noted fault or the stop
is the failure. -/
def record {α : Type} (typeName : String) (fields : List String) (set : String → Json → α → Step α)
    (start : α) (j : Json) : Outcome α :=
  match j with
  | obj members => match fill fields set start members with
    | .ok r => match r.noted with
      | some msg => .error (Error.plain msg)
      | none => .ok r.value
    | .error e => .error e
  | null => .ok start
  | other => .error (Error.plain (mismatch (kindWord other) typeName none))

def textField {α : Type} (record field : String) (j : Json) (cur : α) (put : String → α) : Step α :=
  match j with
  | str s => .ok (put s)
  | null => .ok cur
  | other => .noted (mismatch (kindWord other) "string" (some (record, field)))

def flagField {α : Type} (record field : String) (j : Json) (cur : α) (put : Bool → α) : Step α :=
  match j with
  | bool b => .ok (put b)
  | null => .ok cur
  | other => .noted (mismatch (kindWord other) "bool" (some (record, field)))

/-- Reads a list of texts; `null` is no list, and an item of the wrong kind is noted while the
other items are kept (it stands as the empty text). -/
def textsField {α : Type} (record field : String) (j : Json) (cur : α) (put : Option (List String) → α) :
    Step α :=
  match j with
  | arr items =>
    let bad := items.find? fun
      | str _ | null => false
      | _ => true
    let texts := items.map fun
      | str s => s
      | _ => ""
    match bad with
    | some other => .noted (mismatch (kindWord other) "string" (some (record, field)))
    | none => .ok (put (some texts))
  | null => .ok (put none)
  | other => .noted (mismatch (kindWord other) "[]string" (some (record, field)))

end Json

end HeaderAudit
