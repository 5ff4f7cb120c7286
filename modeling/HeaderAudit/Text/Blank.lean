/-!
Blank space as Unicode's White_Space property defines it, and the trimming and field splitting built
on it.
-/
namespace HeaderAudit.Text

def isBlank (c : Char) : Bool :=
  let n := c.toNat
  (9 ≤ n ∧ n ≤ 13) ∨ n = 32 ∨ n = 0x85 ∨ n = 0xA0 ∨ n = 0x1680 ∨ (0x2000 ≤ n ∧ n ≤ 0x200A) ∨
    n = 0x2028 ∨ n = 0x2029 ∨ n = 0x202F ∨ n = 0x205F ∨ n = 0x3000

def trimList (cs : List Char) : List Char :=
  ((cs.dropWhile isBlank).reverse.dropWhile isBlank).reverse

def trim (s : String) : String := String.ofList (trimList s.toList)

def trimStart (s : String) : String := String.ofList (s.toList.dropWhile isBlank)

def trimEnd (s : String) : String := String.ofList (s.toList.reverse.dropWhile isBlank).reverse

def fieldsFrom (cur : List Char) : List Char → List (List Char)
  | [] => if cur = [] then [] else [cur.reverse]
  | c :: cs =>
    if isBlank c then
      (if cur = [] then fieldsFrom [] cs else cur.reverse :: fieldsFrom [] cs)
    else fieldsFrom (c :: cur) cs

def fields (s : String) : List String := (fieldsFrom [] s.toList).map String.ofList

def isBlankText (s : String) : Bool := s.toList.all isBlank

end HeaderAudit.Text
