/-!
Punycode (RFC 3492): the bootstring encoding of a label's code points into ASCII letters, digits and
hyphens.
-/
namespace HeaderAudit.Host.Punycode

def digitChar (d : Nat) : Char :=
  if d < 26 then Char.ofNat (0x61 + d) else Char.ofNat (0x30 + d - 26)

def digitValue? (c : Char) : Option Nat :=
  let n := c.toNat
  if 0x61 ≤ n ∧ n ≤ 0x7A then some (n - 0x61)
  else if 0x41 ≤ n ∧ n ≤ 0x5A then some (n - 0x41)
  else if 0x30 ≤ n ∧ n ≤ 0x39 then some (n - 0x30 + 26)
  else none

def threshold (k bias : Nat) : Nat :=
  if k ≤ bias then 1 else if bias + 26 ≤ k then 26 else k - bias

theorem threshold_pos (k bias : Nat) : 1 ≤ threshold k bias := by
  unfold threshold
  split
  · omega
  · split <;> omega

theorem threshold_le (k bias : Nat) : threshold k bias ≤ 26 := by
  unfold threshold
  split
  · omega
  · split <;> omega

def adaptLoop (delta k : Nat) : Nat × Nat :=
  if 455 < delta then adaptLoop (delta / 35) (k + 36) else (delta, k)
termination_by delta
decreasing_by omega

def adapt (delta numPoints : Nat) (firstTime : Bool) : Nat :=
  let d := if firstTime then delta / 700 else delta / 2
  let d := d + d / numPoints
  let (d, k) := adaptLoop d 0
  k + 36 * d / (d + 38)

def encodeDigits (bias k q : Nat) : List Char :=
  if h : q < threshold k bias then [digitChar q]
  else
    digitChar (threshold k bias + (q - threshold k bias) % (36 - threshold k bias)) ::
      encodeDigits bias (k + 36) ((q - threshold k bias) / (36 - threshold k bias))
termination_by q
decreasing_by
  have h1 := threshold_pos k bias
  have : (q - threshold k bias) / (36 - threshold k bias) ≤ q - threshold k bias :=
    Nat.div_le_self _ _
  omega

/-- The state of encoding: output, delta, code point, bias, and code points handled. -/
structure EncodeState where
  out : List Char
  delta : Nat
  bias : Nat
  handled : Nat
  deriving Inhabited

def encodeRound (basic n : Nat) (cps : List Nat) (st : EncodeState) : EncodeState :=
  cps.foldl (fun st r =>
    if r < n then { st with delta := st.delta + 1 }
    else if r > n then st
    else
      { out := st.out ++ encodeDigits st.bias 36 st.delta, delta := 0
        bias := adapt st.delta (st.handled + 1) (st.handled = basic)
        handled := st.handled + 1 }) st

def encodeLoop (basic : Nat) (cps : List Nat) : Nat → Nat → EncodeState → EncodeState
  | 0, _, st => st
  | fuel + 1, n, st =>
    match (cps.filter (· ≥ n)).min? with
    | none => st
    | some m =>
      let st := { st with delta := st.delta + (m - n) * (st.handled + 1) }
      let st := encodeRound basic m cps st
      encodeLoop basic cps fuel (m + 1) { st with delta := st.delta + 1 }

def encode (label : String) : String :=
  let cps := label.toList.map Char.toNat
  let basicChars := label.toList.filter (·.toNat < 0x80)
  let b := basicChars.length
  let out := basicChars ++ (if b > 0 then ['-'] else [])
  let st := encodeLoop b cps cps.length 128 ⟨out, 0, 72, b⟩
  String.ofList st.out

def readDelta (bias : Nat) : Nat → Nat → Nat → List Char → Option (Nat × List Char)
  | _, _, _, [] => none
  | i, w, k, c :: rest =>
    match digitValue? c with
    | none => none
    | some d =>
      let i := i + d * w
      if i ≥ 0x80000000 then none
      else
        let t := threshold k bias
        if d < t then some (i, rest) else readDelta bias i (w * (36 - t)) (k + 36) rest

def insertAt (xs : List Nat) (pos v : Nat) : List Nat := xs.take pos ++ v :: xs.drop pos

def decodeLoop : Nat → List Char → List Nat → Nat → Nat → Nat → Option (List Nat)
  | 0, [], out, _, _, _ => some out
  | 0, _ :: _, _, _, _, _ => none
  | _ + 1, [], out, _, _, _ => some out
  | fuel + 1, c :: cs, out, i, n, bias => do
    let (i', rest) ← readDelta bias i 1 36 (c :: cs)
    if out.length ≥ 1024 then none
    let x := out.length + 1
    let bias := adapt (i' - i) x (i = 0)
    let n := n + i' / x
    let pos := i' % x
    if n > 0x10FFFF then none
    decodeLoop fuel rest (insertAt out pos n) (pos + 1) n bias

def decode (encoded : String) : Option String :=
  let cs := encoded.toList
  if cs = [] then some ""
  else
    let dash := (cs.zipIdx.filter (·.1 = '-')).getLast?.map (·.2)
    let pos := match dash with
      | some j => j + 1
      | none => 0
    if pos = 1 then none
    else if pos = cs.length then some (String.ofList cs.dropLast)
    else
      let basic := if pos = 0 then [] else (cs.take (pos - 1)).map Char.toNat
      (decodeLoop cs.length (cs.drop pos) basic 0 128 72).map fun out =>
        String.ofList (out.map Char.ofNat)

end HeaderAudit.Host.Punycode
