import HeaderAudit.Cli.Run
import HeaderAudit.Proofs.Scan.BatchRun
import HeaderAudit.Proofs.Storage.Reference
/-!
The exit code and listing of `analyze`, from what each capture of a batch comes to and the order the
scheduler lets them finish.
-/

namespace HeaderAudit

namespace Check

end Check

namespace Results

end Results

namespace Registry

end Registry

namespace Entry

@[simp]
theorem ofRecord_key (reg : Registry) (r : Record) : (ofRecord reg r).key = r.key := rfl

end Entry

def admitted (idna : IdnaLookup) (rules : RuleStore) (cs : List Capture) : List Record :=
  (cs.filterMap fun c => c.record.toOption).filter fun r => !rules.excludes idna r.method r.url

section Admitted

variable (idna : IdnaLookup) (rules : RuleStore)

end Admitted

namespace Analyzer

variable {σ : Type} {a : Analyzer} {idna : IdnaLookup} {rules : RuleStore}

end Analyzer

namespace App

end App

namespace Cli

end Cli

namespace App

end App

namespace ResultStore

variable {s : ResultStore} {entries : List StoredEntry}

end ResultStore

namespace Cli

end Cli

namespace Cli

/-- The endpoints an analysis of captures reports on: for each endpoint key, the analysis of the
last admitted record with that key, in the order the keys were first stored. -/
def reported (idna : IdnaLookup) (rules : RuleStore) (cs : List Capture) : List Entry :=
  (ResultLog.mk ((admitted idna rules cs).map fun r => (Entry.ofRecord Registry.standard r).stored)).listed.map
    StoredEntry.text

end Cli

end HeaderAudit
