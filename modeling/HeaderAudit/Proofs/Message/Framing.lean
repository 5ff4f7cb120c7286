import HeaderAudit.Message.Request
import HeaderAudit.Message.Response
import HeaderAudit.Proofs.Text.Cut
import HeaderAudit.Proofs.Text.Decimal
import HeaderAudit.Proofs.Address.Escape
/-!
Messages read back from the wire, bodies of any bytes, except an LF-framed body holding CRLF CRLF.
-/

namespace HeaderAudit

/-- The end of a line on the wire. -/
inductive Ending where
  | crlf
  | lf
  deriving DecidableEq, Repr

namespace Ending

def text : Ending → String
  | crlf => "\r\n"
  | lf => "\n"

/-- A message on the wire: the start line and each header line, then an empty line, each ended by
`e`, then the body, which is any bytes. -/
def frame (e : Ending) (start : String) (lines : List String) (body : Bytes) : Bytes :=
  Bytes.ofString (start ++ e.text ++ String.join (lines.map (· ++ e.text)) ++ e.text) ++ body

def head (e : Ending) (start : String) (lines : List String) : String :=
  start ++ String.join (lines.map (e.text ++ ·))

end Ending

def Unbroken (s : String) : Prop := '\r' ∉ s.toList ∧ '\n' ∉ s.toList

instance (s : String) : Decidable (Unbroken s) := inferInstanceAs (Decidable (_ ∧ _))

def Word (s : String) : Prop := s ≠ "" ∧ ∀ c ∈ s.toList, Text.isBlank c = false

-- the code points are checked one by one, not by ranging over every code point
instance (s : String) : Decidable (Word s) :=
  @instDecidableAnd _ _ _ (List.decidableBAll (fun c => Text.isBlank c = false) s.toList)

/-- A header line as sent: nonempty, unbroken, and not starting with a space or a tab, which
would continue the line before it. -/
structure HeaderLine (s : String) : Prop where
  nonempty : s ≠ ""
  unbroken : Unbroken s
  unfolded : ∀ c ∈ s.toList.head?, c ≠ ' ' ∧ c ≠ '\t'

/-- The status line of a protocol, a code and a reason, the reason after a space when there is
one. -/
def statusLineOf (proto : String) (code : Int) (reason : String) : String :=
  proto ++ " " ++ toString code ++ (if reason = "" then "" else " " ++ reason)

theorem statusLine_eq (r : Response) : r.statusLine = statusLineOf r.proto r.statusCode r.reason :=
  rfl

/-! ### Code points of the wire form -/

theorem not_mem_of_unblank {cs : List Char} {c : Char} (blank : Text.isBlank c = true)
    (unblank : ∀ d ∈ cs, Text.isBlank d = false) : c ∉ cs := fun held => by
  rw [unblank c held] at blank
  cases blank

theorem unbroken_of_word {s : String} (word : Word s) : Unbroken s :=
  ⟨not_mem_of_unblank (by decide) word.2, not_mem_of_unblank (by decide) word.2⟩

theorem unbroken_append {a b : String} (left : Unbroken a) (right : Unbroken b) :
    Unbroken (a ++ b) := by
  simp only [Unbroken, String.toList_append, List.mem_append, not_or] at *
  exact ⟨⟨left.1, right.1⟩, ⟨left.2, right.2⟩⟩

theorem unbroken_space : Unbroken " " := by decide

theorem isBlank_of_isDigit {c : Char} (digit : c.isDigit = true) : Text.isBlank c = false := by
  simp only [Char.isDigit, Bool.and_eq_true, decide_eq_true_eq] at digit
  simp only [Text.isBlank, Char.toNat, decide_eq_false_iff_not]
  have low : 48 ≤ c.val.toNat := digit.1
  have high : c.val.toNat ≤ 57 := digit.2
  omega

theorem digits_of_code {code : Int} (large : 100 ≤ code) :
    (toString code).toList = Nat.toDigits 10 code.toNat ∧
      ∀ c ∈ (toString code).toList, c.isDigit = true := by
  have natural : code = (code.toNat : Int) := by omega
  have written : (toString code).toList = Nat.toDigits 10 code.toNat := by
    rw [natural]
    exact String.toList_ofList
  exact ⟨written, fun c held => Text.isDigit_of_mem_toDigits (written ▸ held)⟩

theorem flatMap_shift {α : Type} (ending : List α) (lines : List (List α)) :
    ending ++ lines.flatMap (· ++ ending) = lines.flatMap (ending ++ ·) ++ ending := by
  induction lines with
  | nil => simp
  | cons line lines ih => simp only [List.flatMap_cons, List.append_assoc, ih]

theorem toList_head (e : Ending) (start : String) (lines : List String) :
    (e.head start lines).toList =
      start.toList ++ (lines.map String.toList).flatMap (e.text.toList ++ ·) := by
  simp [Ending.head, String.toList_join, List.flatMap_map]

theorem unbroken_toList {lines : List String} (lined : ∀ l ∈ lines, l ≠ "" ∧ Unbroken l) :
    ∀ l ∈ lines.map String.toList, l ≠ [] ∧ '\r' ∉ l ∧ '\n' ∉ l := by
  intro l held
  obtain ⟨line, member, rfl⟩ := List.mem_map.mp held
  obtain ⟨full, unbroken⟩ := lined line member
  exact ⟨fun empty => full (String.toList_eq_nil_iff.mp empty), unbroken⟩

theorem toList_crlf : Ending.crlf.text.toList = ['\r', '\n'] := rfl

theorem toList_lf : Ending.lf.text.toList = ['\n'] := rfl

theorem return_not_mem_lf_join {start : String} {lines : List String} (unbroken : Unbroken start)
    (lined : ∀ l ∈ lines, l ≠ "" ∧ Unbroken l) :
    '\r' ∉ start.toList ++ (lines.map String.toList).flatMap (['\n'] ++ ·) := by
  simp only [List.mem_append, List.mem_flatMap, List.mem_map, not_or, not_exists, not_and]
  refine ⟨unbroken.1, ?_⟩
  rintro l ⟨line, member, rfl⟩
  exact ⟨by decide, (lined line member).2.1⟩

theorem frame_eq_head (e : Ending) (start : String) (lines : List String) (body : Bytes) :
    e.frame start lines body = Bytes.ofString (e.head start lines ++ e.text ++ e.text) ++ body := by
  have shifted := flatMap_shift e.text.toList (lines.map String.toList)
  simp only [List.flatMap_map] at shifted
  have joined : start ++ e.text ++ String.join (lines.map (· ++ e.text)) ++ e.text =
      e.head start lines ++ e.text ++ e.text := by
    apply String.toList_inj.mp
    simp only [toList_head, String.toList_append, String.toList_join, List.flatMap_map,
      List.append_assoc]
    rw [← List.append_assoc e.text.toList, shifted]
    simp
  rw [Ending.frame, joined]

theorem trim_of_trimmed {s : String} (trimmed : Text.Trimmed s.toList) : Text.trim s = s := by
  rw [Text.trim, Text.trimList_of_trimmed trimmed, String.ofList_toList]

/-! ### Bytes of the wire form -/

section Bytes

open Bytes

theorem ofString_crlf : ofString Ending.crlf.text = [ascii '\r', ascii '\n'] := by
  rw [ofString_eq_flatMap]
  rfl

theorem ofString_lf : ofString Ending.lf.text = [ascii '\n'] := by
  rw [ofString_eq_flatMap]
  rfl

theorem ofString_blank : ofString "\r\n\r\n" = [ascii '\r', ascii '\n', ascii '\r', ascii '\n'] := by
  rw [ofString_eq_flatMap]
  rfl

theorem ofString_text_ne_nil (e : Ending) : ofString e.text ≠ [] := by
  cases e <;> simp [ofString_crlf, ofString_lf]

theorem mem_ofString_text (e : Ending) {b : UInt8} (held : b ∈ ofString e.text) :
    b = ascii '\r' ∨ b = ascii '\n' := by
  cases e <;> simp_all [ofString_crlf, ofString_lf]

theorem Unbroken.bytes {s : String} (unbroken : Unbroken s) :
    ascii '\r' ∉ ofString s ∧ ascii '\n' ∉ ofString s :=
  ⟨ascii_not_mem_ofString (by decide) unbroken.1, ascii_not_mem_ofString (by decide) unbroken.2⟩

theorem lined_bytes {lines : List String} (lined : ∀ l ∈ lines, l ≠ "" ∧ Unbroken l) :
    ∀ l ∈ lines.map ofString, l ≠ [] ∧ ascii '\r' ∉ l ∧ ascii '\n' ∉ l := by
  intro l held
  obtain ⟨line, member, rfl⟩ := List.mem_map.mp held
  obtain ⟨full, unbroken⟩ := lined line member
  exact ⟨fun empty => full (ofString_injective (empty.trans ofString_empty.symm)), unbroken.bytes⟩

theorem ofString_head (e : Ending) (start : String) (lines : List String) :
    ofString (e.head start lines) = ofString start ++ (lines.map ofString).flatMap (ofString e.text ++ ·) := by
  simp [Ending.head, ofString_append, ofString_join, List.flatMap_map]

theorem cutList_unbroken_append {α : Type} [BEq α] [LawfulBEq α] {r n : α} {ending x : List α}
    (rest : List α) (nonempty : ending ≠ []) (breaks : ∀ c ∈ ending, c = r ∨ c = n)
    (unbroken : r ∉ x ∧ n ∉ x) :
    Text.cutList (ending ++ ending) (x ++ rest) =
      (Text.cutList (ending ++ ending) rest).map fun p => (x ++ p.1, p.2) := by
  obtain ⟨d, ds, rfl⟩ := List.exists_cons_of_ne_nil nonempty
  have fresh : d ∉ x := by
    rcases breaks d List.mem_cons_self with rfl | rfl
    · exact unbroken.1
    · exact unbroken.2
  exact Text.cutList_append_of_not_mem rest fresh

theorem cutList_double {α : Type} [BEq α] [LawfulBEq α] {ending : List α} (rest : List α)
    (nonempty : ending ≠ []) : Text.cutList (ending ++ ending) (ending ++ (ending ++ rest)) = some ([], rest) := by
  obtain ⟨d, ds, rfl⟩ := List.exists_cons_of_ne_nil nonempty
  simpa only [List.cons_append, List.append_assoc] using Text.cutList_self_append d (ds ++ d :: ds) rest

theorem cutList_text_append (e : Ending) {b : UInt8} (rest : Bytes)
    (plain : b ≠ ascii '\r' ∧ b ≠ ascii '\n') :
    Text.cutList (ofString e.text ++ ofString e.text) (ofString e.text ++ b :: rest) =
      (Text.cutList (ofString e.text ++ ofString e.text) (b :: rest)).map
        fun p => (ofString e.text ++ p.1, p.2) := by
  have apart : ascii '\r' ≠ ascii '\n' := by decide
  cases e with
  | crlf =>
    have third : [ascii '\r', ascii '\n', ascii '\r', ascii '\n'].isPrefixOf
        (ascii '\r' :: ascii '\n' :: b :: rest) = false := by
      simp [List.isPrefixOf, Ne.symm plain.1]
    have second : [ascii '\r', ascii '\n', ascii '\r', ascii '\n'].isPrefixOf
        (ascii '\n' :: b :: rest) = false := by
      simp [List.isPrefixOf, apart]
    rw [ofString_crlf]
    show Text.cutList [ascii '\r', ascii '\n', ascii '\r', ascii '\n']
      (ascii '\r' :: ascii '\n' :: b :: rest) = _
    rw [Text.cutList_cons_of_unmatched third, Text.cutList_cons_of_unmatched second,
      Option.map_map]
    rfl
  | lf =>
    have second : [ascii '\n', ascii '\n'].isPrefixOf (ascii '\n' :: b :: rest) = false := by
      simp [List.isPrefixOf, Ne.symm plain.2]
    rw [ofString_lf]
    show Text.cutList [ascii '\n', ascii '\n'] (ascii '\n' :: b :: rest) = _
    rw [Text.cutList_cons_of_unmatched second]
    rfl

theorem cutList_block (e : Ending) (first : Bytes) (lines : List Bytes) (rest : Bytes)
    (unbroken : ascii '\r' ∉ first ∧ ascii '\n' ∉ first)
    (lined : ∀ l ∈ lines, l ≠ [] ∧ ascii '\r' ∉ l ∧ ascii '\n' ∉ l) :
    Text.cutList (ofString e.text ++ ofString e.text)
        (first ++ lines.flatMap (ofString e.text ++ ·) ++ (ofString e.text ++ ofString e.text ++ rest)) =
      some (first ++ lines.flatMap (ofString e.text ++ ·), rest) := by
  induction lines generalizing first with
  | nil =>
    simp only [List.flatMap_nil, List.append_nil, List.append_assoc]
    rw [cutList_unbroken_append _ (ofString_text_ne_nil e) (fun _ => mem_ofString_text e) unbroken,
      cutList_double _ (ofString_text_ne_nil e)]
    simp
  | cons line lines ih =>
    obtain ⟨full, lineCr, lineLf⟩ := lined line List.mem_cons_self
    obtain ⟨b, more, rfl⟩ := List.exists_cons_of_ne_nil full
    have plain : b ≠ ascii '\r' ∧ b ≠ ascii '\n' :=
      ⟨fun same => lineCr (same ▸ List.mem_cons_self), fun same => lineLf (same ▸ List.mem_cons_self)⟩
    have later := ih (b :: more) ⟨lineCr, lineLf⟩ (fun l held => lined l (.tail _ held))
    simp only [List.append_assoc, List.cons_append] at later
    simp only [List.flatMap_cons, List.append_assoc, List.cons_append]
    rw [cutList_unbroken_append _ (ofString_text_ne_nil e) (fun _ => mem_ofString_text e) unbroken,
      cutList_text_append e _ plain, later]
    simp

theorem cut_blank_frame (e : Ending) (blank : String)
    (doubled : ofString blank = ofString e.text ++ ofString e.text) {start : String}
    {lines : List String} (body : Bytes) (unbroken : Unbroken start)
    (lined : ∀ l ∈ lines, l ≠ "" ∧ Unbroken l) :
    Text.cutList (ofString blank) (e.frame start lines body) =
      some (ofString (e.head start lines), body) := by
  have block := cutList_block e (ofString start) (lines.map ofString) body unbroken.bytes
    (lined_bytes lined)
  rw [doubled, frame_eq_head, ofString_append, ofString_append, List.append_assoc, List.append_assoc,
    ofString_head, ← List.append_assoc (ofString e.text), block]

theorem headAndBody_frame (e : Ending) {start : String} {lines : List String} {body : Bytes}
    (unbroken : Unbroken start) (lined : ∀ l ∈ lines, l ≠ "" ∧ Unbroken l)
    (framed : e = .crlf ∨ ¬ ofString "\r\n\r\n" <:+: body) :
    RawMessage.headAndBody (e.frame start lines body) = (ofString (e.head start lines), body) := by
  unfold RawMessage.headAndBody
  cases e with
  | crlf =>
    rw [cut_blank_frame .crlf "\r\n\r\n" (by simp only [ofString_eq_flatMap]; rfl) body unbroken lined]
  | lf =>
    have clear := Text.containsList_eq_false (framed.resolve_left nofun)
    rw [ofString_blank] at clear
    -- no carriage return comes before the body, so CRLF CRLF is looked for in the body alone
    have noReturn : ascii '\r' ∉
        ofString (Ending.lf.head start lines ++ Ending.lf.text ++ Ending.lf.text) := by
      apply ascii_not_mem_ofString (by decide)
      have joined := return_not_mem_lf_join unbroken lined
      rw [String.toList_append, String.toList_append, toList_head, toList_lf]
      simp only [List.mem_append, List.mem_singleton, not_or] at joined ⊢
      exact ⟨⟨joined, by decide⟩, by decide⟩
    have missing : Text.cutList (ofString "\r\n\r\n") (Ending.lf.frame start lines body) = none := by
      rw [frame_eq_head, ofString_blank, Text.cutList_append_of_not_mem _ noReturn,
        Text.cutList_eq_none clear]
      rfl
    rw [missing, cut_blank_frame .lf "\n\n" (by simp only [ofString_eq_flatMap]; rfl) body unbroken lined]

end Bytes

/-! ### The lines of the head -/

theorem split_joined {start : String} {lines : List String} (unbroken : Unbroken start)
    (lined : ∀ l ∈ lines, l ≠ "" ∧ Unbroken l) :
    Text.split (String.ofList (start.toList ++ (lines.map String.toList).flatMap (['\n'] ++ ·)))
      "\n" = start :: lines := by
  have pieces := @Text.splitList_flatMap '\n' [] start.toList
    (lines.map String.toList) unbroken.2 (fun l held => ((unbroken_toList lined) l held).2.2)
  simp only [Text.split, String.toList_ofList]
  rw [show "\n".toList = ['\n'] from rfl, pieces]
  simp [List.map_map, Function.comp_def]

theorem split_head (e : Ending) {start : String} {lines : List String} (unbroken : Unbroken start)
    (lined : ∀ l ∈ lines, l ≠ "" ∧ Unbroken l) :
    Text.split (Text.replaceAll (e.head start lines) "\r\n" "\n") "\n" = start :: lines := by
  have unfolded : e.head start lines =
      String.ofList (start.toList ++ (lines.map String.toList).flatMap (e.text.toList ++ ·)) := by
    rw [← toList_head, String.ofList_toList]
  rw [unfolded]
  cases e with
  | crlf =>
    have pieces := @Text.splitList_flatMap '\r' ['\n'] start.toList
      (lines.map String.toList) unbroken.1 (fun l held => ((unbroken_toList lined) l held).2.1)
    have replaced : Text.replaceAll (String.ofList (start.toList ++
        (lines.map String.toList).flatMap (Ending.crlf.text.toList ++ ·))) "\r\n" "\n" =
        String.ofList (start.toList ++ (lines.map String.toList).flatMap (['\n'] ++ ·)) := by
      apply String.toList_inj.mp
      rw [Text.replaceAll, Text.split, String.toList_ofList, toList_crlf,
        show "\r\n".toList = ['\r', '\n'] from rfl, pieces, String.toList_intercalate,
        String.toList_ofList]
      simp [List.map_map, Function.comp_def, Text.intercalate_cons_eq_flatMap]
    rw [replaced, split_joined unbroken lined]
  | lf =>
    have replaced : Text.replaceAll (String.ofList (start.toList ++
        (lines.map String.toList).flatMap (Ending.lf.text.toList ++ ·))) "\r\n" "\n" =
        String.ofList (start.toList ++ (lines.map String.toList).flatMap (['\n'] ++ ·)) := by
      rw [Text.replaceAll, Text.split, String.toList_ofList, toList_lf,
        show "\r\n".toList = ['\r', '\n'] from rfl,
        Text.splitList_of_not_mem (return_not_mem_lf_join unbroken lined)]
      simp
    rw [replaced, split_joined unbroken lined]

theorem split_frame (e : Ending) {start : String} {body : Bytes} {lines : List String}
    (nonempty : start ≠ "") (unbroken : Unbroken start) (trimmed : Text.Trimmed start.toList)
    (lined : ∀ l ∈ lines, l ≠ "" ∧ Unbroken l)
    (framed : e = .crlf ∨ ¬ Bytes.ofString "\r\n\r\n" <:+: body) :
    RawMessage.split (e.frame start lines body) = .ok ⟨start, lines, body⟩ := by
  obtain ⟨c, more, first⟩ :=
    List.exists_cons_of_ne_nil (fun empty => nonempty (String.toList_eq_nil_iff.mp empty))
  have unblank : Text.isBlank c = false := by
    have := List.dropWhile_eq_self_iff.mp trimmed.1 (by rw [first]; exact Nat.succ_pos _)
    simpa [first] using this
  -- the first byte is one of the start line's, so neither a carriage return nor a line feed
  obtain ⟨b, bs, leading⟩ := List.exists_cons_of_ne_nil fun empty =>
    nonempty (Bytes.ofString_injective (empty.trans Bytes.ofString_empty.symm))
  have plain : b ∉ Bytes.ofString "\r\n" := by
    have inStart : b ∈ Bytes.ofString start := leading ▸ List.mem_cons_self
    rw [show Bytes.ofString "\r\n" = [Bytes.ascii '\r', Bytes.ascii '\n'] from ofString_crlf]
    simp only [List.mem_cons, List.not_mem_nil, or_false, not_or]
    exact ⟨fun same => unbroken.bytes.1 (same ▸ inStart), fun same => unbroken.bytes.2 (same ▸ inStart)⟩
  have kept : (e.frame start lines body).dropWhile (· ∈ Bytes.ofString "\r\n") =
      e.frame start lines body := by
    rw [frame_eq_head, Ending.head, String.append_assoc, String.append_assoc, Bytes.ofString_append,
      leading, List.cons_append, List.cons_append, List.dropWhile_cons_of_neg (by simpa using plain)]
  have solid : Text.isBlankText (Bytes.toStringLossy (e.frame start lines body)) = false := by
    rw [frame_eq_head, Bytes.toStringLossy_ofString_append]
    simp [Text.isBlankText, toList_head, first, unblank]
  simp only [RawMessage.split, kept, solid, Bool.false_eq_true, if_false,
    headAndBody_frame e unbroken lined framed, Bytes.toStringLossy_ofString, split_head e unbroken lined,
    trim_of_trimmed trimmed]

theorem trimEndOf_unbroken {line : String} (unbroken : Unbroken line) :
    Text.trimEndOf line ['\r'] = line := by
  apply String.toList_inj.mp
  simp only [Text.trimEndOf, String.toList_ofList]
  rw [List.dropWhile_eq_self_iff.mpr ?_, List.reverse_reverse]
  intro nonempty
  have held : line.toList.reverse[0] ∈ line.toList := List.mem_reverse.mp (List.getElem_mem nonempty)
  simp only [List.mem_singleton, decide_eq_true_eq]
  exact fun same => unbroken.1 (same ▸ held)

theorem lines_addLine (h : Header) {line : String} (sent : HeaderLine line) :
    (h.addLine line).lines = h.lines ++ [line] := by
  have unfolded : Header.isContinuation line = false := by
    unfold Header.isContinuation
    split
    · rename_i c rest first
      have plain := sent.unfolded c (by rw [first]; rfl)
      simp [plain.1, plain.2]
    · rfl
  simp [Header.addLine, trimEndOf_unbroken sent.unbroken, sent.nonempty, unfolded]

theorem lines_ofLines {lines : List String} (sent : ∀ l ∈ lines, HeaderLine l) :
    (Header.ofLines lines).lines = lines := by
  suffices kept : ∀ h : Header, (lines.foldl Header.addLine h).lines = h.lines ++ lines by
    simpa [Header.ofLines, Header.empty] using kept Header.empty
  induction lines with
  | nil => simp
  | cons line rest ih =>
    intro h
    rw [List.foldl_cons, ih (fun l held => sent l (.tail line held)),
      lines_addLine h (sent line List.mem_cons_self), List.append_assoc, List.singleton_append]

/-! ### Start lines -/

def afterProto (code : Int) (reason : String) : List Char :=
  (toString code).toList ++ if reason = "" then [] else ' ' :: reason.toList

theorem toList_statusLineOf (proto reason : String) (code : Int) :
    (statusLineOf proto code reason).toList = proto.toList ++ ' ' :: afterProto code reason := by
  unfold statusLineOf afterProto
  split <;> simp

theorem code_digits {code : Int} (large : 100 ≤ code) :
    (toString code).toList ≠ [] ∧ ∀ c ∈ (toString code).toList, Text.isBlank c = false := by
  obtain ⟨written, digits⟩ := digits_of_code large
  exact ⟨written ▸ Text.toDigits_ne_nil _, fun c held => isBlank_of_isDigit (digits c held)⟩

theorem trimmed_of_trim {s : String} (trimmed : Text.trim s = s) : Text.Trimmed s.toList := by
  have same : Text.trimList s.toList = s.toList := by
    have := congrArg String.toList trimmed
    simpa [Text.trim] using this
  exact same ▸ Text.trimmed_trimList s.toList

theorem trimmed_afterProto {code : Int} {reason : String} (large : 100 ≤ code)
    (trimmed : Text.trim reason = reason) : Text.Trimmed (afterProto code reason) := by
  obtain ⟨nonempty, unblank⟩ := code_digits large
  unfold afterProto
  split
  · simpa using Text.trimmed_of_unblank nonempty unblank
  · rename_i full
    have reasonFull : reason.toList ≠ [] := fun empty => full (String.toList_eq_nil_iff.mp empty)
    simpa using Text.trimmed_append [' '] nonempty reasonFull
      (Text.trimmed_of_unblank nonempty unblank) (trimmed_of_trim trimmed)

theorem statusLineOf_start {proto reason : String} {code : Int} (word : Word proto)
    (large : 100 ≤ code) (unbroken : Unbroken reason) (trimmed : Text.trim reason = reason) :
    statusLineOf proto code reason ≠ "" ∧ Unbroken (statusLineOf proto code reason) ∧
      Text.Trimmed (statusLineOf proto code reason).toList := by
  obtain ⟨digitsFull, digitsUnblank⟩ := code_digits large
  have protoFull : proto.toList ≠ [] := fun empty => word.1 (String.toList_eq_nil_iff.mp empty)
  have afterFull : afterProto code reason ≠ [] := fun empty =>
    digitsFull (List.append_eq_nil_iff.mp empty).1
  have digitsUnbroken : Unbroken (toString code) :=
    ⟨not_mem_of_unblank (by decide) digitsUnblank, not_mem_of_unblank (by decide) digitsUnblank⟩
  have reasonPart : Unbroken (if reason = "" then "" else " " ++ reason) := by
    split
    · decide
    · exact unbroken_append unbroken_space unbroken
  refine ⟨fun empty => ?_, ?_, ?_⟩
  · have := congrArg String.toList empty
    simp [toList_statusLineOf] at this
  · exact unbroken_append (unbroken_append (unbroken_append (unbroken_of_word word) unbroken_space)
      digitsUnbroken) reasonPart
  · rw [toList_statusLineOf, ← List.singleton_append, ← List.append_assoc]
    exact Text.trimmed_append [' '] protoFull afterFull
      (Text.trimmed_of_unblank protoFull word.2) (trimmed_afterProto large trimmed)

theorem cut_statusLineOf {proto reason : String} (code : Int) (word : Word proto) :
    Text.cut (statusLineOf proto code reason) " " =
      some (proto, String.ofList (afterProto code reason)) := by
  have found := Text.cutList_self_append ' ' [] (afterProto code reason)
  simp only [List.cons_append, List.nil_append] at found
  simp only [Text.cut, toList_statusLineOf]
  rw [show " ".toList = [' '] from rfl,
    Text.cutList_append_of_not_mem _ (not_mem_of_unblank Text.isBlank_space word.2), found]
  simp

theorem hasPrefix_upper {proto : String} (http : (proto.toList.take 5).map Text.upperChar = "HTTP/".toList) :
    Text.hasPrefix (Text.upper proto) "HTTP/" = true := by
  simp only [Text.hasPrefix, Text.upper, String.toList_ofList]
  apply List.isPrefixOf_iff_prefix.mpr
  rw [List.prefix_iff_eq_take, show "HTTP/".toList.length = 5 from rfl, ← List.map_take, http]

theorem cutOr_afterProto {code : Int} {reason : String} (large : 100 ≤ code) :
    (Text.cutOr (String.ofList (afterProto code reason)) " ").1 = toString code ∧
      (Text.cutOr (String.ofList (afterProto code reason)) " ").2.1 = reason := by
  obtain ⟨-, digitsUnblank⟩ := code_digits large
  have spaceFree : ' ' ∉ (toString code).toList := not_mem_of_unblank Text.isBlank_space digitsUnblank
  have cut : Text.cutList [' '] (afterProto code reason) =
      if reason = "" then none else some ((toString code).toList, reason.toList) := by
    unfold afterProto
    by_cases empty : reason = ""
    · have missing := @Text.cutList_append_of_not_mem _ _ _ _ [] _ [] spaceFree
      rw [List.append_nil] at missing
      rw [if_pos empty, if_pos empty, List.append_nil, missing]
      rfl
    · have found := Text.cutList_self_append ' ' [] reason.toList
      simp only [List.cons_append, List.nil_append] at found
      rw [if_neg empty, if_neg empty, Text.cutList_append_of_not_mem _ spaceFree, found]
      simp
  unfold Text.cutOr Text.cut
  simp only [String.toList_ofList]
  rw [show " ".toList = [' '] from rfl, cut]
  by_cases empty : reason = ""
  · rw [if_pos empty]
    simp [afterProto, empty]
  · rw [if_neg empty]
    simp

theorem code?_toString {code : Int} (low : 100 ≤ code) (high : code ≤ 999) :
    Response.code? (toString code) = some code := by
  have natural : code = (code.toNat : Int) := by omega
  have read : Text.parseInt64? (toString code) = some code := by
    rw [natural]
    exact Text.parseInt64?_toString (by omega)
  simp only [Response.code?, read]
  exact if_pos ⟨low, high⟩

/-! ### Responses and requests -/

theorem parse_response_frame (e : Ending) {proto reason : String} {body : Bytes} {code : Int}
    {lines : List String} (word : Word proto)
    (http : (proto.toList.take 5).map Text.upperChar = "HTTP/".toList)
    (low : 100 ≤ code) (high : code ≤ 999) (unbroken : Unbroken reason)
    (trimmed : Text.trim reason = reason) (lined : ∀ l ∈ lines, l ≠ "" ∧ Unbroken l)
    (framed : e = .crlf ∨ ¬ Bytes.ofString "\r\n\r\n" <:+: body) :
    Response.parse (e.frame (statusLineOf proto code reason) lines body) =
      .ok ⟨proto, code, reason, Header.ofLines lines, body⟩ := by
  obtain ⟨nonempty, startUnbroken, startTrimmed⟩ := statusLineOf_start word low unbroken trimmed
  have after : Text.trim (String.ofList (afterProto code reason)) =
      String.ofList (afterProto code reason) := by
    apply trim_of_trimmed
    rw [String.toList_ofList]
    exact trimmed_afterProto low trimmed
  obtain ⟨codeText, reasonText⟩ := @cutOr_afterProto _ reason low
  simp only [Response.parse, split_frame e nonempty startUnbroken startTrimmed lined framed,
    bind, Except.bind, cut_statusLineOf code word, hasPrefix_upper http, Bool.not_true,
    Bool.false_eq_true, if_false, after]
  rw [codeText, reasonText, code?_toString low high, trimmed]

theorem fields_requestLine {method target proto : String} (m : Word method) (t : Word target)
    (v : Word proto) : Text.fields (method ++ " " ++ target ++ " " ++ proto) = [method, target, proto] := by
  have full : ∀ {s : String}, Word s → s.toList ≠ [] := fun word empty =>
    word.1 (String.toList_eq_nil_iff.mp empty)
  have words := Text.fieldsFrom_words method.toList [target.toList, proto.toList] (full m) m.2
    (by
      intro w held
      simp only [List.mem_cons, List.not_mem_nil, or_false] at held
      rcases held with rfl | rfl
      · exact ⟨full t, t.2⟩
      · exact ⟨full v, v.2⟩)
  simp only [List.flatMap_cons, List.flatMap_nil, List.append_nil] at words
  simp only [Text.fields, String.toList_append, Text.toList_space, List.append_assoc,
    List.singleton_append, words]
  simp

theorem requestLine_start {method target proto : String} (m : Word method) (t : Word target)
    (v : Word proto) :
    method ++ " " ++ target ++ " " ++ proto ≠ "" ∧ Unbroken (method ++ " " ++ target ++ " " ++ proto) ∧
      Text.Trimmed (method ++ " " ++ target ++ " " ++ proto).toList := by
  have full : ∀ {s : String}, Word s → s.toList ≠ [] := fun word empty =>
    word.1 (String.toList_eq_nil_iff.mp empty)
  have line : (method ++ " " ++ target ++ " " ++ proto).toList =
      method.toList ++ (' ' :: target.toList ++ [' ']) ++ proto.toList := by
    simp [Text.toList_space]
  refine ⟨fun empty => ?_, ?_, ?_⟩
  · have := congrArg String.toList empty
    rw [line] at this
    simp at this
  · exact unbroken_append (unbroken_append (unbroken_append (unbroken_append (unbroken_of_word m)
      unbroken_space) (unbroken_of_word t)) unbroken_space) (unbroken_of_word v)
  · rw [line]
    exact Text.trimmed_append _ (full m) (full v) (Text.trimmed_of_unblank (full m) m.2)
      (Text.trimmed_of_unblank (full v) v.2)

theorem parse_request_frame (e : Ending) {method target proto : String} {body : Bytes}
    {lines : List String} (m : Word method) (t : Word target) (v : Word proto)
    (lined : ∀ l ∈ lines, l ≠ "" ∧ Unbroken l)
    (framed : e = .crlf ∨ ¬ Bytes.ofString "\r\n\r\n" <:+: body) :
    Request.parse (e.frame (method ++ " " ++ target ++ " " ++ proto) lines body) =
      .ok ⟨Text.upper method, target, proto, Header.ofLines lines, body⟩ := by
  obtain ⟨nonempty, unbroken, trimmed⟩ := requestLine_start m t v
  simp only [Request.parse, split_frame e nonempty unbroken trimmed lined framed, bind, Except.bind,
    fields_requestLine m t v]
  rfl

/-- Messages read back from the wire. With lines all ended by CRLF, or all by LF and a body
holding no CRLF CRLF, a response gives back its protocol, code, reason, header lines and body and
writes its status line back as the first line, and a request gives back its method in upper case,
its target, protocol, header lines and body. -/
theorem messages_read_back_from_wire (e : Ending) (lines : List String) (body : Bytes)
    (sent : ∀ l ∈ lines, HeaderLine l)
    (framed : e = .crlf ∨ ¬ Bytes.ofString "\r\n\r\n" <:+: body) :
    (∀ proto code reason, Word proto → (proto.toList.take 5).map Text.upperChar = "HTTP/".toList →
      100 ≤ code → code ≤ 999 → Unbroken reason → Text.trim reason = reason →
      ∃ resp, Response.parse (e.frame (statusLineOf proto code reason) lines body) = .ok resp ∧
        resp.proto = proto ∧ resp.statusCode = code ∧ resp.reason = reason ∧
        resp.header.lines = lines ∧ resp.body = body ∧
        resp.statusLine = statusLineOf proto code reason) ∧
    ∀ method target proto, Word method → Word target → Word proto →
      ∃ req, Request.parse (e.frame (method ++ " " ++ target ++ " " ++ proto) lines body) = .ok req ∧
        req.method = Text.upper method ∧ req.target = target ∧ req.proto = proto ∧
        req.header.lines = lines ∧ req.body = body := by
  have lined : ∀ l ∈ lines, l ≠ "" ∧ Unbroken l := fun l held =>
    ⟨(sent l held).nonempty, (sent l held).unbroken⟩
  refine ⟨fun proto code reason word http low high unbroken trimmed => ?_,
    fun method target proto m t v => ?_⟩
  · exact ⟨_, parse_response_frame e word http low high unbroken trimmed lined framed,
      rfl, rfl, rfl, lines_ofLines sent, rfl, rfl⟩
  · exact ⟨_, parse_request_frame e m t v lined framed, rfl, rfl, rfl, lines_ofLines sent, rfl⟩

theorem lf_messages_read_back :
    HeaderLine "Host: a.test" ∧ ¬ Bytes.ofString "\r\n\r\n" <:+: [0xFF, 0x0D, 0x0A] ∧
    (∃ resp, Response.parse (Ending.lf.frame (statusLineOf "HTTP/1.1" 200 "OK") ["Host: a.test"]
        [0xFF, 0x0D, 0x0A]) = .ok resp ∧ resp.proto = "HTTP/1.1" ∧ resp.statusCode = 200 ∧
        resp.reason = "OK" ∧ resp.header.lines = ["Host: a.test"] ∧ resp.body = [0xFF, 0x0D, 0x0A] ∧
        resp.statusLine = statusLineOf "HTTP/1.1" 200 "OK") ∧
    ∃ req, Request.parse (Ending.lf.frame ("get" ++ " " ++ "/a" ++ " " ++ "HTTP/1.1") ["Host: a.test"]
        [0xFF, 0x0D, 0x0A]) = .ok req ∧
      req.method = Text.upper "get" ∧ req.target = "/a" ∧ req.proto = "HTTP/1.1" ∧
      req.header.lines = ["Host: a.test"] ∧ req.body = [0xFF, 0x0D, 0x0A] := by
  have sent : HeaderLine "Host: a.test" := ⟨by decide, by decide, fun c first => by cases first; decide⟩
  have clear : ¬ Bytes.ofString "\r\n\r\n" <:+: [0xFF, 0x0D, 0x0A] := by
    rw [ofString_blank]
    decide
  have read := messages_read_back_from_wire .lf ["Host: a.test"] [0xFF, 0x0D, 0x0A]
    (fun l held => (List.mem_singleton.mp held) ▸ sent) (.inr clear)
  exact ⟨sent, clear,
    read.1 "HTTP/1.1" 200 "OK" (by decide) (by decide) (by decide) (by decide) (by decide) (by decide),
    read.2 "get" "/a" "HTTP/1.1" (by decide) (by decide) (by decide)⟩

/-- A body holding CRLF CRLF after LF lines is cut into: the head runs on to that blank line. -/
theorem lf_body_with_blank_line_cut_early :
    (Response.parse (Ending.lf.frame (statusLineOf "HTTP/1.1" 200 "OK") ["A: b"]
      (Bytes.ofString "x\r\n\r\ny"))).toOption.map (fun r => (r.header.lines, r.body)) =
      some (["A: b", "x"], Bytes.ofString "y") := by
  decide +kernel

end HeaderAudit
