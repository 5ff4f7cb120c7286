import HeaderAudit.Text.Hex
import HeaderAudit.Text.Blank
/-!
Fresh identifiers. The identifiers the program hands out are random UUIDs, so what it may rely on is
only that a draw is fresh: no identifier comes twice, and none is blank.
-/
namespace HeaderAudit

/-- A source of identifiers: the identifier it hands out `n`-th. -/
structure IdSource where
  draw : Nat → String

/-- What the program relies on of its identifiers. -/
structure IdSource.Fresh (src : IdSource) : Prop where
  distinct : ∀ m n, src.draw m = src.draw n → m = n
  nonblank : ∀ n, Text.trim (src.draw n) ≠ ""

namespace IdSource

def render (n : Nat) : String :=
  "00000000-0000-4000-8000-" ++ String.ofList (Text.hexPadded false 12 n)

def sequential : IdSource := ⟨render⟩

end IdSource

/-- A supply of fresh identifiers: a source, and the number of the next identifier to draw. -/
structure IdSupply where
  source : IdSource
  next : Nat

namespace IdSupply

def start (source : IdSource) : IdSupply := ⟨source, 1⟩

def fresh (s : IdSupply) : String × IdSupply := (s.source.draw s.next, ⟨s.source, s.next + 1⟩)

end IdSupply

end HeaderAudit
