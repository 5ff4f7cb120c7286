import HeaderAudit.Proofs.Address.Render
import HeaderAudit.Runtime.Standard
/-!
The IDNA law on plain names, and the standard look-up keeping it.
-/
namespace HeaderAudit.Address

theorem lt_of_isAlphanum {c : Char} (alnum : c.isAlphanum = true) : c.toNat < 0x80 := by
  simp only [Char.isAlphanum, Char.isAlpha, Char.isUpper, Char.isLower, Char.isDigit, Bool.or_eq_true,
    Bool.and_eq_true, decide_eq_true_eq] at alnum
  have : c.toNat = c.val.toNat := rfl
  rcases alnum with (⟨-, below⟩ | ⟨-, below⟩) | ⟨-, below⟩ <;> simp [UInt32.le_iff_toNat_le] at below <;> omega

theorem lt_of_nameChar {c : Char} (named : nameChar c = true) : c.toNat < 0x80 := by
  simp only [nameChar, Bool.or_eq_true, beq_iff_eq] at named
  rcases named with (alnum | rfl) | rfl
  · exact lt_of_isAlphanum alnum
  all_goals decide

theorem nameChar_of_isHostAscii_table : ∀ n < 0x80, Host.isHostAscii (Char.ofNat n) = true →
    nameChar (Char.ofNat n) = true := by
  decide

theorem nameChar_of_isHostAscii {c : Char} (letter : Host.isHostAscii c = true) : nameChar c = true := by
  have entry := nameChar_of_isHostAscii_table c.toNat (lt_of_hostChar (by simp [hostChar, letter]))
    (by rwa [Char.ofNat_toNat])
  rwa [Char.ofNat_toNat] at entry

theorem PlainName.lower_eq {name : String} (plain : PlainName name) : Text.lower name = name :=
  lower_of_hostChar plain.hostChar

theorem PlainName.hostName {name : String} (plain : PlainName name) : HostName name :=
  ⟨plain.full, fun c held => nameChar_of_isHostAscii (plain.letters c held)⟩

theorem PlainName.unencodedLower {name : String} (plain : PlainName name) : Unencoded name := by
  unfold Unencoded
  rw [plain.lower_eq]
  exact plain.unencoded

end HeaderAudit.Address

namespace HeaderAudit.Host

theorem treatment_of_isHostAscii {c : Char} (letter : isHostAscii c = true) : treatment c = .valid := by
  have small : c.toNat < 0x80 := Address.lt_of_hostChar (by simp [Address.hostChar, letter])
  rw [treatment, if_pos small, if_pos letter]

theorem mapName_of_valid : ∀ cs : List Char, (∀ c ∈ cs, treatment c = .valid) → mapName cs = (cs, true)
  | [], _ => rfl
  | c :: cs, valid => by
    have rest := mapName_of_valid cs fun d held => valid d (List.mem_cons_of_mem _ held)
    rw [mapName, List.foldr_cons, ← mapName, rest, valid c List.mem_cons_self]

theorem labelToAscii_plain {label : List Char} (letters : ∀ c ∈ label, isHostAscii c = true)
    (unencoded : ['x', 'n', '-', '-'].isPrefixOf label = false) :
    labelToAscii label = none ∨ labelToAscii label = some label := by
  rw [labelToAscii]
  by_cases empty : label = []
  · subst empty
    exact .inr rfl
  · rw [if_neg empty, if_neg (by simp [unencoded])]
    by_cases valid : validLabel label = true
    · have small : label.all (·.toNat < 0x80) = true := by
        simpa using fun c held => Address.lt_of_hostChar (by simp [Address.hostChar, letters c held])
      rw [if_neg (by simp [valid]), if_pos small]
      exact .inr rfl
    · rw [if_pos (by simpa using valid)]
      exact .inl rfl

theorem mapM_of_none_or_self {f : List Char → Option (List Char)} :
    ∀ ls : List (List Char), (∀ l ∈ ls, f l = none ∨ f l = some l) → ls.mapM f = none ∨ ls.mapM f = some ls
  | [], _ => .inr rfl
  | l :: ls, each => by
    rw [List.mapM_cons]
    rcases each l List.mem_cons_self with none | same
    · exact .inl (by simp [none])
    · rcases mapM_of_none_or_self ls (fun k held => each k (List.mem_cons_of_mem _ held)) with rest | rest
      · exact .inl (by simp [same, rest])
      · exact .inr (by simp [same, rest])

theorem toAscii_plainName {name : String} (plain : Address.PlainName name) : (toAscii name).getD name = name := by
  have mapped := mapName_of_valid name.toList fun c held => treatment_of_isHostAscii (plain.letters c held)
  have labels := mapM_of_none_or_self (f := labelToAscii) (name.toList.splitOn '.') fun label held =>
    labelToAscii_plain
      (fun c inLabel => plain.letters c (by
        have whole : ['.'].intercalate (name.toList.splitOn '.') = name.toList := List.intercalate_splitOn '.'
        rw [← whole]
        exact Bytes.mem_intercalate_of_mem held inLabel))
      (plain.unencoded label held)
  rw [toAscii]
  simp only [mapped, Bool.not_true, Bool.false_eq_true, if_false]
  rcases labels with none | same
  · rw [none]
    rfl
  · rw [same]
    show String.ofList (['.'].intercalate (name.toList.splitOn '.')) = name
    rw [List.intercalate_splitOn, String.ofList_toList]

theorem nameChar_lower_table : ∀ n < 0x80, Address.nameChar (Char.ofNat n) = true →
    mapName [Char.ofNat n] = ([Text.lowerChar (Char.ofNat n)], true) ∧
      isHostAscii (Text.lowerChar (Char.ofNat n)) = true := by
  decide

theorem lower_of_nameChar {c : Char} (named : Address.nameChar c = true) :
    mapName [c] = ([Text.lowerChar c], true) ∧ isHostAscii (Text.lowerChar c) = true := by
  have entry := nameChar_lower_table c.toNat (Address.lt_of_nameChar named) (by rwa [Char.ofNat_toNat])
  rwa [Char.ofNat_toNat] at entry

theorem mapName_cons_of_single {c d : Char} (single : mapName [c] = ([d], true)) (cs : List Char) :
    mapName (c :: cs) = (d :: (mapName cs).1, (mapName cs).2) := by
  rw [mapName, List.foldr_cons, ← mapName]
  rw [mapName, List.foldr_cons, List.foldr_nil] at single
  cases treated : treatment c <;> simp_all

theorem mapName_of_nameChar : ∀ cs : List Char, (∀ c ∈ cs, Address.nameChar c = true) →
    mapName cs = (cs.map Text.lowerChar, true)
  | [], _ => rfl
  | c :: cs, named => by
    rw [mapName_cons_of_single (lower_of_nameChar (named c List.mem_cons_self)).1,
      mapName_of_nameChar cs fun d held => named d (List.mem_cons_of_mem _ held), List.map_cons]

theorem toAscii_eq_of_mapName {a b : String} (same : mapName a.toList = mapName b.toList) :
    toAscii a = toAscii b := by
  unfold toAscii
  rw [same]

end HeaderAudit.Host

namespace HeaderAudit.Address

theorem HostName.plainName_lower {name : String} (named : HostName name) (unencoded : Unencoded name) :
    PlainName (Text.lower name) where
  full := by
    intro empty
    have lengths := Text.length_lower name
    rw [empty] at lengths
    exact named.full (String.length_eq_zero_iff.mp lengths.symm)
  letters := by
    intro c held
    rw [Text.lower, String.toList_ofList] at held
    obtain ⟨d, written, rfl⟩ := List.mem_map.mp held
    exact (Host.lower_of_nameChar (named.chars d written)).2
  unencoded := unencoded

theorem toAscii_hostName {name : String} (named : HostName name) (unencoded : Unencoded name) :
    Host.toAscii name = none ∨ Host.toAscii name = some (Text.lower name) := by
  have plain := named.plainName_lower unencoded
  -- the name and its lower case map to the same code points, so they have the same ASCII form
  have same : Host.toAscii name = Host.toAscii (Text.lower name) := by
    apply Host.toAscii_eq_of_mapName
    rw [Host.mapName_of_nameChar _ named.chars, Host.mapName_of_valid _ fun c held =>
      Host.treatment_of_isHostAscii (plain.letters c held), Text.lower, String.toList_ofList]
  have kept := Host.toAscii_plainName plain
  rw [same]
  cases ascii : Host.toAscii (Text.lower name) with
  | none => exact .inl rfl
  | some a =>
    rw [ascii, Option.getD_some] at kept
    exact .inr (kept ▸ rfl)

end HeaderAudit.Address

namespace HeaderAudit

theorem IdnaLookup.Lawful.getD_plainName {idna : IdnaLookup} (lawful : idna.Lawful) {name : String}
    (plain : Address.PlainName name) : (idna.toAscii name).getD name = name := by
  rcases lawful.ascii name plain.hostName plain.unencodedLower with none | lowered
  · rw [none, Option.getD_none]
  · rw [lowered, Option.getD_some, plain.lower_eq]

theorem IdnaLookup.standard_lawful : IdnaLookup.standard.Lawful :=
  ⟨fun _ named unencoded => Address.toAscii_hostName named unencoded⟩

end HeaderAudit
