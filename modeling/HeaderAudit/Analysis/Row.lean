import HeaderAudit.Analysis.Entry
import HeaderAudit.Text.Blank
import HeaderAudit.Text.Decimal
import HeaderAudit.Text.Quoted
import HeaderAudit.Text.Search
/-!
The table of stored analyses: a row per entry with the method, address and status code first and
then a cell per check, in the order of the checks, holding the verdict's display text.
-/
namespace HeaderAudit

/-- One entry as a table row. -/
structure Row where
  key : String
  method : String
  url : String
  status : String
  cells : List String
  overall : Status
  hasIssues : Bool

namespace Row

def fixedColumns : List String := ["Method", "URL", "Code"]

def columns (reg : Registry) : List String := fixedColumns ++ reg.columns

/-- The row of an entry. A check without a verdict has an empty cell; an entry without
verdicts has only empty cells, no overall status and no issues. -/
def build (reg : Registry) (e : Entry) : Row :=
  let base : Row := ⟨e.key, e.method, e.url, toString e.statusCode, reg.checks.map fun _ => "", .none, false⟩
  match e.results with
  | none => base
  | some rs =>
    { base with
      cells := reg.checks.map fun c => ((rs.get? c.name).map (·.display)).getD ""
      overall := reg.overall rs
      hasIssues := rs.hasIssues }

def values (r : Row) : List String := [r.method, r.url, r.status] ++ r.cells

def toJson (r : Row) : Json :=
  .obj [("key", .str r.key), ("method", .str r.method), ("url", .str r.url), ("status", .str r.status),
    ("cells", .strs r.cells), ("overall", .str r.overall.name), ("has_issues", .bool r.hasIssues)]

end Row

/-- A selection of rows: any of the methods, any of the status classes, and the text in some
cell ignoring case. An empty group selects everything. -/
structure Filter where
  methods : List String
  classes : List Int
  text : String

namespace Filter

def statusIn (classes : List Int) (s : String) : Bool :=
  s.length == 3 &&
    match Text.parseInt? s with
    | some code => classes.any fun c => code.tdiv 100 = c
    | none => false

def accepts (f : Filter) (r : Row) : Bool :=
  (f.methods.isEmpty || f.methods.contains r.method) &&
  (f.classes.isEmpty || statusIn f.classes r.status) &&
  (let needle := Text.trim f.text
   needle = "" || r.values.any fun v => Text.contains (Text.lower v) (Text.lower needle))

def apply (f : Filter) (rows : List Row) : List Row := rows.filter f.accepts

end Filter

def statusClass (s : String) : Outcome Int :=
  let t := Text.trimSuffix (Text.lower (Text.trim s)) "xx"
  match t.toList with
  | [c] => if '2' ≤ c ∧ c ≤ '5' then .ok (c.toNat - '0'.toNat : Nat)
    else .error (Error.plain ("analyzer: unknown status class " ++ Text.quote t))
  | _ => .error (Error.plain ("analyzer: unknown status class " ++ Text.quote t))

end HeaderAudit
