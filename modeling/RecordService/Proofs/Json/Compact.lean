import Mathlib.Algebra.Ring.Int.Defs
import Mathlib.Data.List.Forall2
import RecordService.Json.Printer
import RecordService.Json.Reader
import RecordService.Proofs.Number.Integer
/-!
# Compact text — how a value is written, and that it is told from its text

In compact text nothing stands between the parts of a value, and strings have the fewest escapes (`Compact`).  The value
is told from the text, also when more text comes behind it (`compact_append_inj`).  A character is told from its escape,
because the reader of escapes gives it back, and a number ends where a comma or a bracket comes.

Doubles are left out: only the texts of integers are decimal numerals.
-/
namespace RecordService.Json

/-! ## Values without doubles -/

/-- **All numbers in the value are integers of 64 bits with a sign.** -/
inductive Integral : Json → Prop where
  | null : Integral .null
  | bool (b : Bool) : Integral (.bool b)
  | int {i : Int} : -2 ^ 63 ≤ i → i < 2 ^ 63 → Integral (.num (.int i))
  | str (s : String) : Integral (.str s)
  | arr {items : List Json} : (∀ v ∈ items, Integral v) → Integral (.arr items)
  | obj {members : Row} : (∀ m ∈ members, Integral m.2) → Integral (.obj members)

theorem Integral.items {items : List Json} (h : Integral (.arr items)) : ∀ v ∈ items, v.Integral := by
  cases h with
  | arr h => exact h

theorem Integral.members {members : Row} (h : Integral (.obj members)) : ∀ m ∈ members, m.2.Integral := by
  cases h with
  | obj h => exact h

/-! ## The form -/

/-- **How a character stands in a string**: the quote, the backslash and the control characters behind a backslash, and
every other character by itself. -/
inductive Escaped : Char → List Char → Prop where
  | quote : Escaped '"' ['\\', '"']
  | backslash : Escaped '\\' ['\\', '\\']
  | backspace : Escaped (Char.ofNat 8) ['\\', 'b']
  | tab : Escaped '\t' ['\\', 't']
  | lineFeed : Escaped '\n' ['\\', 'n']
  | formFeed : Escaped (Char.ofNat 12) ['\\', 'f']
  | carriageReturn : Escaped '\r' ['\\', 'r']
  | control {c : Char} : c.toNat < 32 → c.toNat ∉ [8, 9, 10, 12, 13] →
      Escaped c ['\\', 'u', '0', '0', Nat.digitChar (c.toNat / 16), Nat.digitChar (c.toNat % 16)]
  | plain {c : Char} : 32 ≤ c.toNat → c ≠ '"' → c ≠ '\\' → Escaped c [c]

inductive EscapedAll : List Char → List Char → Prop where
  | nil : EscapedAll [] []
  | cons {c : Char} {cs text rest : List Char} : Escaped c text → EscapedAll cs rest →
      EscapedAll (c :: cs) (text ++ rest)

inductive Quoted : String → List Char → Prop where
  | quotes {s : String} {text : List Char} : EscapedAll s.toList text → Quoted s ('"' :: (text ++ ['"']))

mutual
/-- **The compact text of a value**: commas stand between the parts of an array or an object, and no blanks. -/
inductive Compact : Json → List Char → Prop where
  | null : Compact .null ['n', 'u', 'l', 'l']
  | true : Compact (.bool true) ['t', 'r', 'u', 'e']
  | false : Compact (.bool false) ['f', 'a', 'l', 's', 'e']
  | natural (n : Nat) : Compact (.num (.int n)) (Nat.toDigits 10 n)
  | negative (n : Nat) : Compact (.num (.int (-(n + 1)))) ('-' :: Nat.toDigits 10 (n + 1))
  | str {s : String} {text : List Char} : Quoted s text → Compact (.str s) text
  | arr {items : List Json} {texts : List (List Char)} : List.Forall₂ Compact items texts →
      Compact (.arr items) ('[' :: (List.intercalate [','] texts ++ [']']))
  | obj {members : Row} {texts : List (List Char)} : List.Forall₂ CompactMember members texts →
      Compact (.obj members) ('{' :: (List.intercalate [','] texts ++ ['}']))

inductive CompactMember : String × Json → List Char → Prop where
  | named {name : String} {v : Json} {key text : List Char} : Quoted name key → Compact v text →
      CompactMember (name, v) (key ++ ':' :: text)
end

/-! ## Strings -/

theorem toList_controlEscape {c : Char} (h : c.toNat < 32) : (controlEscape c).toList =
    ['\\', 'u', '0', '0', Nat.digitChar (c.toNat / 16), Nat.digitChar (c.toNat % 16)] := by
  have hall : ∀ n < 32, "\\u".toList ++ (List.replicate (4 - (Nat.toDigits 16 n).length) '0' ++ Nat.toDigits 16 n) =
      ['\\', 'u', '0', '0', Nat.digitChar (n / 16), Nat.digitChar (n % 16)] := by decide
  unfold controlEscape
  simp only [String.toList_append, String.toList_ofList]
  exact hall _ h

theorem escaped_escapeChar (c : Char) : Escaped c (escapeChar c).toList := by
  have hchar : ∀ n, (c.toNat == n) = true → c = Char.ofNat n := fun n hn => by
    rw [← beq_iff_eq.1 hn, Char.ofNat_toNat]
  unfold escapeChar
  split
  · rename_i h
    rw [beq_iff_eq.1 h]
    exact .quote
  split
  · rename_i h
    rw [beq_iff_eq.1 h]
    exact .backslash
  split
  · rename_i h
    rw [hchar 8 h]
    exact .backspace
  split
  · rename_i h
    rw [hchar 9 h]
    exact .tab
  split
  · rename_i h
    rw [hchar 10 h]
    exact .lineFeed
  split
  · rename_i h
    rw [hchar 12 h]
    exact .formFeed
  split
  · rename_i h
    rw [hchar 13 h]
    exact .carriageReturn
  split
  · rename_i h
    rw [toList_controlEscape h]
    exact .control h (by simp_all)
  · rename_i hquote hbackslash _ _ _ _ _ h
    have hplain : Escaped c [c] := .plain (Nat.not_lt.1 h) (by simpa using hquote) (by simpa using hbackslash)
    simpa [Char.toString, String.toList_singleton] using hplain

/-- An escape is read as its character. -/
theorem Escaped.read {c : Char} {text : List Char} (h : Escaped c text) : (text = [c] ∧ c ≠ '"' ∧ c ≠ '\\') ∨
    ∃ escape, text = '\\' :: escape ∧ ∀ rest, readEscape (escape ++ rest) = some (c, rest) := by
  cases h with
  | plain _ hquote hbackslash => exact .inl ⟨rfl, hquote, hbackslash⟩
  | control h _ =>
    refine .inr ⟨_, rfl, fun rest => ?_⟩
    have hhex : ∀ d < 16, hexValue? (Nat.digitChar d) = some d := by decide
    have hhigh : hexValue? (Nat.digitChar (c.toNat / 16)) = some (c.toNat / 16) := hhex _ (by omega)
    have hlow : hexValue? (Nat.digitChar (c.toNat % 16)) = some (c.toNat % 16) := hhex _ (by omega)
    have hzero : hexValue? '0' = some 0 := rfl
    have hnumber : ((0 * 16 + 0) * 16 + c.toNat / 16) * 16 + c.toNat % 16 = c.toNat := by omega
    have hread : readHex4 (['0', '0', Nat.digitChar (c.toNat / 16), Nat.digitChar (c.toNat % 16)] ++ rest) =
        some (c.toNat, rest) := by
      simp only [List.cons_append, List.nil_append, readHex4, hzero, hhigh, hlow, Option.bind_eq_bind, Option.bind_some,
        hnumber]
      rfl
    show readEscapedCode (['0', '0', Nat.digitChar (c.toNat / 16), Nat.digitChar (c.toNat % 16)] ++ rest) = _
    rw [readEscapedCode, hread]
    have hhalf : ¬ 0xD800 ≤ c.toNat := by omega
    have hhalf' : ¬ 0xDC00 ≤ c.toNat := by omega
    simp [hhalf, hhalf']
  | _ => exact .inr ⟨_, rfl, fun _ => rfl⟩

/-- **A character is told from how it stands in a string**, and does not end the string. -/
theorem escapeChar_append_inj {c d : Char} {r s : List Char}
    (h : (escapeChar c).toList ++ r = (escapeChar d).toList ++ s) : c = d ∧ r = s := by
  rcases (escaped_escapeChar c).read with ⟨hc, -, hcb⟩ | ⟨escape, hc, hread⟩
  · rcases (escaped_escapeChar d).read with ⟨hd, -, -⟩ | ⟨escape', hd, -⟩
    · rw [hc, hd] at h
      exact List.cons.inj h
    · rw [hc, hd] at h
      exact absurd (List.cons.inj h).1 hcb
  · rcases (escaped_escapeChar d).read with ⟨hd, -, hdb⟩ | ⟨escape', hd, hread'⟩
    · rw [hc, hd] at h
      exact absurd (List.cons.inj h).1.symm hdb
    · rw [hc, hd] at h
      have hsame : readEscape (escape ++ r) = readEscape (escape' ++ s) := congrArg readEscape (List.cons.inj h).2
      rw [hread, hread'] at hsame
      exact Prod.mk.inj (Option.some.inj hsame)

theorem escapeChar_append_ne_quote (c : Char) (r s : List Char) : (escapeChar c).toList ++ r ≠ '"' :: s := by
  rcases (escaped_escapeChar c).read with ⟨hc, hquote, -⟩ | ⟨escape, hc, -⟩
  · rw [hc]
    exact fun h => hquote (List.cons.inj h).1
  · rw [hc]
    exact fun h => absurd (List.cons.inj h).1 (by decide)

theorem flatMap_escapeChar_append_inj {r s : List Char} : ∀ {cs ds : List Char},
    (cs.flatMap fun c => (escapeChar c).toList) ++ '"' :: r = (ds.flatMap fun d => (escapeChar d).toList) ++ '"' :: s →
      cs = ds ∧ r = s
  | [], [], h => ⟨rfl, (List.cons.inj h).2⟩
  | [], d :: ds, h => by
    rw [List.flatMap_cons, List.append_assoc] at h
    exact absurd h.symm (escapeChar_append_ne_quote _ _ _)
  | c :: cs, [], h => by
    rw [List.flatMap_cons, List.append_assoc] at h
    exact absurd h (escapeChar_append_ne_quote _ _ _)
  | c :: cs, d :: ds, h => by
    rw [List.flatMap_cons, List.flatMap_cons, List.append_assoc, List.append_assoc] at h
    obtain ⟨rfl, hrest⟩ := escapeChar_append_inj h
    obtain ⟨rfl, hrs⟩ := flatMap_escapeChar_append_inj hrest
    exact ⟨rfl, hrs⟩

theorem toList_compactString (s : String) :
    (compactString s).toList = '"' :: ((s.toList.flatMap fun c => (escapeChar c).toList) ++ ['"']) := by
  unfold compactString
  rw [String.toList_append, String.toList_append, String.toList_join, List.flatMap_map]
  rfl

theorem quoted_compactString (s : String) : Quoted s (compactString s).toList := by
  have hall : ∀ cs : List Char, EscapedAll cs (cs.flatMap fun c => (escapeChar c).toList) := by
    intro cs
    induction cs with
    | nil => exact .nil
    | cons c cs ih => exact .cons (escaped_escapeChar c) ih
  rw [toList_compactString]
  exact .quotes (hall s.toList)

/-- **A string is told from its text**, whatever comes behind it. -/
theorem compactString_append_inj {s t : String} {r u : List Char}
    (h : (compactString s).toList ++ r = (compactString t).toList ++ u) : s = t ∧ r = u := by
  rw [toList_compactString, toList_compactString, List.cons_append, List.cons_append, List.append_assoc,
    List.append_assoc] at h
  obtain ⟨hst, hru⟩ := flatMap_escapeChar_append_inj (List.cons.inj h).2
  exact ⟨String.toList_injective hst, hru⟩

/-! ## Numbers -/

/-- Behind a value comes nothing, a comma or a closing bracket. -/
def Ends (rest : List Char) : Prop := ∀ c ∈ rest.head?, c = ',' ∨ c = ']' ∨ c = '}'

theorem compact_int (i : Int) : Compact (.num (.int i)) (compact (.num (.int i))).toList := by
  cases i with
  | ofNat n =>
    have htext : (compact (.num (.int (Int.ofNat n)))).toList = Nat.toDigits 10 n := toList_toString n
    rw [htext]
    exact .natural n
  | negSucc n =>
    have htext : (compact (.num (.int (Int.negSucc n)))).toList = '-' :: Nat.toDigits 10 (n + 1) :=
      (toList_toString_negSucc n).trans (congrArg ('-' :: ·) (toList_toString (n + 1)))
    rw [htext, Int.negSucc_eq]
    exact .negative n

theorem isNumeric_of_mem_toString (i : Int) : ∀ c ∈ (toString i).toList, (c.isDigit || c == '-') = true := by
  intro c hc
  cases i with
  | ofNat n => rw [isDigit_of_mem_toString n c hc, Bool.true_or]
  | negSucc n =>
    rw [toList_toString_negSucc] at hc
    rcases List.mem_cons.1 hc with rfl | hc
    · rfl
    · rw [isDigit_of_mem_toString (n + 1) c hc, Bool.true_or]

/-- **An integer is told from its text**, when no digit comes behind it. -/
theorem toString_append_inj {i j : Int} {r s : List Char} (hr : Ends r) (hs : Ends s)
    (h : (toString i).toList ++ r = (toString j).toList ++ s) : i = j ∧ r = s := by
  have hsplit : ∀ (k : Int) {rest : List Char}, Ends rest →
      ((toString k).toList ++ rest).takeWhile (fun c => c.isDigit || c == '-') = (toString k).toList := by
    intro k rest hrest
    rw [List.takeWhile_append_of_pos (isNumeric_of_mem_toString k)]
    cases rest with
    | nil => rw [List.takeWhile_nil, List.append_nil]
    | cons c rest =>
      have hc : (c.isDigit || c == '-') = false := by
        rcases hrest c rfl with rfl | rfl | rfl <;> rfl
      rw [List.takeWhile_cons_of_neg (by rw [hc]; decide), List.append_nil]
  have htexts : (toString i).toList = (toString j).toList := by rw [← hsplit i hr, h, hsplit j hs]
  have hread := congrArg readSigned htexts
  rw [readSigned_toString, readSigned_toString] at hread
  rw [htexts] at h
  exact ⟨Option.some.inj hread, List.append_cancel_left h⟩

/-! ## Values -/

def compactMember (m : String × Json) : List Char := (compactString m.1).toList ++ ':' :: (compact m.2).toList

theorem toList_compactItems : ∀ items : List Json,
    (compactItems items).toList = List.intercalate [','] (items.map fun v => (compact v).toList)
  | [] => by simp [compactItems]
  | [v] => by simp [compactItems]
  | v :: w :: items => by
    have ih := toList_compactItems (w :: items)
    rw [List.map_cons] at ih
    rw [compactItems, List.isEmpty_cons, if_neg Bool.false_ne_true, String.toList_append, String.toList_append, ih,
      List.map_cons, List.map_cons, List.intercalate_cons_cons]
    rfl

theorem toList_compactMembers : ∀ members : Row,
    (compactMembers members).toList = List.intercalate [','] (members.map compactMember)
  | [] => by simp [compactMembers]
  | [(name, v)] => by simp [compactMembers, compactMember]
  | (name, v) :: m :: members => by
    have ih := toList_compactMembers (m :: members)
    rw [List.map_cons] at ih
    rw [compactMembers, List.isEmpty_cons, if_neg Bool.false_ne_true, List.map_cons, List.map_cons,
      List.intercalate_cons_cons, ← ih]
    simp only [String.toList_append, compactMember, List.append_assoc]
    rfl

theorem toList_compact_arr (items : List Json) : (compact (.arr items)).toList =
    '[' :: (List.intercalate [','] (items.map fun v => (compact v).toList) ++ [']']) := by
  rw [compact, String.toList_append, String.toList_append, toList_compactItems]
  rfl

theorem toList_compact_obj (members : Row) :
    (compact (.obj members)).toList = '{' :: (List.intercalate [','] (members.map compactMember) ++ ['}']) := by
  rw [compact, String.toList_append, String.toList_append, toList_compactMembers]
  rfl

/-- **The printer writes compact text.** -/
theorem compact_compact {v : Json} (h : v.Integral) : Compact v (compact v).toList := by
  induction h with
  | null => exact .null
  | bool b =>
    cases b with
    | false => exact .false
    | true => exact .true
  | int _ _ => exact compact_int _
  | str s => exact .str (quoted_compactString s)
  | arr _ ih =>
    rw [toList_compact_arr]
    exact .arr (List.forall₂_map_right_iff.2 (List.forall₂_same.2 ih))
  | obj _ ih =>
    rw [toList_compact_obj]
    refine .obj (List.forall₂_map_right_iff.2 (List.forall₂_same.2 fun m hm => ?_))
    exact .named (quoted_compactString m.1) (ih m hm)

/-! ## Telling values from their text -/

/-- The kind of the values whose text begins with the character. -/
def kindOpenedBy? (c : Char) : Option String :=
  if c.isDigit || c == '-' then some "number"
  else
    match c with
    | 'n' => some "null"
    | 't' => some "boolean"
    | 'f' => some "boolean"
    | '"' => some "string"
    | '[' => some "array"
    | '{' => some "object"
    | _ => none

theorem exists_opening {v : Json} (h : v.Integral) :
    ∃ c cs, (compact v).toList = c :: cs ∧ kindOpenedBy? c = some v.kindName := by
  cases h with
  | null => exact ⟨'n', _, rfl, rfl⟩
  | bool b =>
    cases b with
    | false => exact ⟨'f', _, rfl, rfl⟩
    | true => exact ⟨'t', _, rfl, rfl⟩
  | @int i _ _ =>
    show ∃ c cs, (toString i).toList = c :: cs ∧ _
    cases htext : (toString i).toList with
    | nil =>
      have hread := readSigned_toString i
      rw [htext] at hread
      cases hread
    | cons c cs =>
      have hc := isNumeric_of_mem_toString i c (by rw [htext]; exact List.mem_cons_self)
      exact ⟨c, cs, rfl, if_pos hc⟩
  | str s => exact ⟨'"', _, toList_compactString s, rfl⟩
  | arr _ => exact ⟨'[', _, toList_compact_arr _, rfl⟩
  | obj _ => exact ⟨'{', _, toList_compact_obj _, rfl⟩

/-- Values with one text are of one kind. -/
theorem kindName_eq_of_compact {v w : Json} {r s : List Char} (hv : v.Integral) (hw : w.Integral)
    (h : (compact v).toList ++ r = (compact w).toList ++ s) : v.kindName = w.kindName := by
  obtain ⟨c, cs, hc, hkind⟩ := exists_opening hv
  obtain ⟨d, ds, hd, hkind'⟩ := exists_opening hw
  rw [hc, hd] at h
  rw [(List.cons.inj h).1, hkind'] at hkind
  exact (Option.some.inj hkind).symm

theorem compact_append_ne_closing {v : Json} (hv : v.Integral) (r s : List Char) :
    (compact v).toList ++ r ≠ ']' :: s := by
  obtain ⟨c, cs, hc, hkind⟩ := exists_opening hv
  rw [hc]
  intro h
  rw [(List.cons.inj h).1] at hkind
  cases hkind

theorem compactMember_append_ne_closing (m : String × Json) (r s : List Char) : compactMember m ++ r ≠ '}' :: s := by
  rw [compactMember, toList_compactString]
  exact fun h => absurd (List.cons.inj h).1 (by decide)

theorem ends_cons {c : Char} (h : c = ',' ∨ c = ']' ∨ c = '}') (rest : List Char) : Ends (c :: rest) := by
  rintro d ⟨⟩
  exact h

section
variable {α : Type} {write : α → List Char} {among : α → Prop} {close : Char}

/-- Nothing else has the text, and the text shows where it ends. -/
def ToldBy (write : α → List Char) (among : α → Prop) (a : α) : Prop :=
  ∀ {b r s}, among b → Ends r → Ends s → write a ++ r = write b ++ s → a = b ∧ r = s

/-- What comes behind a part of a list: the end of the list, or a comma and the next part. -/
def behindPart (write : α → List Char) (close : Char) (rest : List Char) : List α → List Char
  | [] => close :: rest
  | a :: as => ',' :: (List.intercalate [','] ((a :: as).map write) ++ close :: rest)

theorem intercalate_cons_append (a : α) (as : List α) (rest : List Char) :
    List.intercalate [','] ((a :: as).map write) ++ close :: rest = write a ++ behindPart write close rest as := by
  cases as with
  | nil => rw [List.map_cons, List.map_nil, List.intercalate_singleton, behindPart]
  | cons b bs =>
    rw [behindPart, List.map_cons, List.map_cons, List.intercalate_cons_cons, List.append_assoc, List.append_assoc]
    rfl

theorem ends_behindPart (hclose : close = ']' ∨ close = '}') (rest : List Char) : ∀ as : List α,
    Ends (behindPart write close rest as)
  | [] => ends_cons (.inr hclose) rest
  | _ :: _ => ends_cons (.inl rfl) _

/-- **A list is told from the texts of its parts with commas between them**, when its parts are told from theirs. -/
theorem intercalate_append_inj (hclose : close = ']' ∨ close = '}')
    (hopen : ∀ a r s, among a → write a ++ r ≠ close :: s) {r s : List Char} : ∀ {as bs : List α},
      (∀ a ∈ as, among a ∧ ToldBy write among a) → (∀ b ∈ bs, among b) →
      List.intercalate [','] (as.map write) ++ close :: r = List.intercalate [','] (bs.map write) ++ close :: s →
        as = bs ∧ r = s
  | [], [], _, _, h => ⟨rfl, (List.cons.inj h).2⟩
  | [], b :: bs, _, hbs, h => by
    rw [intercalate_cons_append] at h
    exact absurd h.symm (hopen b _ _ (hbs b List.mem_cons_self))
  | a :: as, [], has, _, h => by
    rw [intercalate_cons_append] at h
    exact absurd h (hopen a _ _ (has a List.mem_cons_self).1)
  | a :: as, b :: bs, has, hbs, h => by
    obtain ⟨ha, hothers⟩ := List.forall_mem_cons.1 has
    obtain ⟨hb, hothers'⟩ := List.forall_mem_cons.1 hbs
    have hcomma : close ≠ ',' := by rcases hclose with rfl | rfl <;> decide
    rw [intercalate_cons_append, intercalate_cons_append] at h
    obtain ⟨rfl, hrest⟩ := ha.2 hb (ends_behindPart hclose r as) (ends_behindPart hclose s bs) h
    cases as with
    | nil =>
      cases bs with
      | nil => exact ⟨rfl, (List.cons.inj hrest).2⟩
      | cons _ _ => exact absurd (List.cons.inj hrest).1 hcomma
    | cons _ _ =>
      cases bs with
      | nil => exact absurd (List.cons.inj hrest).1.symm hcomma
      | cons _ _ =>
        obtain ⟨hparts, hrs⟩ := intercalate_append_inj hclose hopen hothers hothers' (List.cons.inj hrest).2
        exact ⟨by rw [hparts], hrs⟩

end

theorem toldBy_compactMember {m : String × Json} (hm : ToldBy (fun v => (compact v).toList) Integral m.2) :
    ToldBy compactMember (fun m => m.2.Integral) m := by
  intro m' r s hm' hr hs h
  unfold compactMember at h
  rw [List.append_assoc, List.append_assoc] at h
  obtain ⟨hname, hrest⟩ := compactString_append_inj h
  obtain ⟨hvalue, hrs⟩ := hm hm' hr hs (List.cons.inj hrest).2
  exact ⟨Prod.ext hname hvalue, hrs⟩

/-- **A value is told from its text**, whatever comes behind the end of it. -/
theorem toldBy_compact {v : Json} (hv : v.Integral) : ToldBy (fun v => (compact v).toList) Integral v := by
  induction hv with
  | null =>
    intro w r s hw _ _ h
    have hkind := kindName_eq_of_compact .null hw h
    cases hw with
    | null => exact ⟨rfl, List.append_cancel_left h⟩
    | _ => simp [kindName] at hkind
  | bool a =>
    intro w r s hw _ _ h
    have hkind := kindName_eq_of_compact (.bool a) hw h
    cases hw with
    | bool b =>
      cases a <;> cases b
      · exact ⟨rfl, List.append_cancel_left h⟩
      · exact absurd (List.cons.inj h).1 (by decide)
      · exact absurd (List.cons.inj h).1 (by decide)
      · exact ⟨rfl, List.append_cancel_left h⟩
    | _ => simp [kindName] at hkind
  | int hlow hhigh =>
    intro w r s hw hr hs h
    have hkind := kindName_eq_of_compact (.int hlow hhigh) hw h
    cases hw with
    | int _ _ =>
      obtain ⟨rfl, hrs⟩ := toString_append_inj hr hs h
      exact ⟨rfl, hrs⟩
    | _ => simp [kindName] at hkind
  | str a =>
    intro w r s hw _ _ h
    have hkind := kindName_eq_of_compact (.str a) hw h
    cases hw with
    | str b =>
      obtain ⟨rfl, hrs⟩ := compactString_append_inj h
      exact ⟨rfl, hrs⟩
    | _ => simp [kindName] at hkind
  | @arr items hitems ih =>
    intro w r s hw _ _ h
    have hkind := kindName_eq_of_compact (.arr hitems) hw h
    cases hw with
    | @arr others hothers =>
      dsimp only at h
      rw [toList_compact_arr, toList_compact_arr, List.cons_append, List.cons_append, List.append_assoc,
        List.append_assoc] at h
      have hopen : ∀ (v : Json) r s, v.Integral → (compact v).toList ++ r ≠ ']' :: s := fun v r s hv =>
        compact_append_ne_closing hv r s
      obtain ⟨rfl, hrs⟩ := intercalate_append_inj (.inl rfl) hopen (fun v hv => ⟨hitems v hv, ih v hv⟩) hothers
        (List.cons.inj h).2
      exact ⟨rfl, hrs⟩
    | _ => simp [kindName] at hkind
  | @obj members hmembers ih =>
    intro w r s hw _ _ h
    have hkind := kindName_eq_of_compact (.obj hmembers) hw h
    cases hw with
    | @obj others hothers =>
      dsimp only at h
      rw [toList_compact_obj, toList_compact_obj, List.cons_append, List.cons_append, List.append_assoc,
        List.append_assoc] at h
      have hopen : ∀ (m : String × Json) r s, m.2.Integral → compactMember m ++ r ≠ '}' :: s := fun m r s _ =>
        compactMember_append_ne_closing m r s
      obtain ⟨rfl, hrs⟩ := intercalate_append_inj (.inr rfl) hopen
        (fun m hm => ⟨hmembers m hm, toldBy_compactMember (ih m hm)⟩) hothers (List.cons.inj h).2
      exact ⟨rfl, hrs⟩
    | _ => simp [kindName] at hkind

/-- **Only one value has the text.** -/
theorem compact_inj {v w : Json} (hv : v.Integral) (hw : w.Integral) (h : v.compact = w.compact) : v = w := by
  have hends : Ends [] := fun c hc => by cases hc
  exact (toldBy_compact hv hw hends hends (congrArg (String.toList · ++ []) h)).1

end RecordService.Json
