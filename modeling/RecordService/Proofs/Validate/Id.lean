import RecordService.Proofs.Basic
import RecordService.Proofs.Number.Integer
import RecordService.Proofs.Text.Uuid
import RecordService.Validate.Id
/-!
# Identifiers — reading an identifier once is reading it for good

What an identifier was read as is read as itself (`IdType.parse_parse`), and what a value was read as, its text is read
as (`IdType.parse_patternText`).  A time, which has a letter in it that stands in
no number and no UUID, is an identifier only where any text is one (`IdType.parse_time`).
-/
namespace RecordService

/-! ## Times

A time ends in the letter for its zone. -/

/-- **The text has the letter `Z` in it**, as has every time that is written in universal time. -/
def Text.HasZone (s : String) : Prop := 'Z' ∈ s.toList

namespace Text

variable {s : String}

theorem mem_dropWhile {q : Char → Bool} {c : Char} (hc : q c = false) : ∀ {cs : List Char}, c ∈ cs → c ∈ cs.dropWhile q
  | d :: rest, h => by
    rw [List.dropWhile_cons]
    split
    · rename_i hd
      rcases List.mem_cons.1 h with rfl | hrest
      · rw [hc] at hd; cases hd
      · exact mem_dropWhile hc hrest
    · exact h

theorem hasZone_trim (h : HasZone s) : HasZone (trim s) := by
  unfold HasZone trim trimChars
  rw [String.toList_ofList, List.mem_reverse]
  refine mem_dropWhile (by decide) (List.mem_reverse.2 (mem_dropWhile (by decide) h))

theorem readSigned_of_mem_z {cs : List Char} (h : 'Z' ∈ cs) : readSigned cs = none := by
  have hnumeral : ∀ {cs : List Char}, 'Z' ∈ cs → isNumeral cs = false := fun {cs} hz => by
    rw [isNumeral, List.all_eq_false.2 ⟨'Z', hz, by decide⟩, Bool.and_false]
  unfold readSigned
  split
  · have hz : 'Z' ∈ _ := (List.mem_cons.1 h).resolve_left (by decide)
    rw [hnumeral hz]
    rfl
  · have hz : 'Z' ∈ _ := (List.mem_cons.1 h).resolve_left (by decide)
    rw [hnumeral hz]
    rfl
  · rw [hnumeral h]
    rfl

theorem readSigned64_of_hasZone (h : HasZone s) : readSigned64 s = none := by
  rw [readSigned64, readSigned_of_mem_z h]
  rfl

theorem readExponent_of_mem_z : ∀ {cs : List Char}, 'Z' ∈ cs → readExponent cs = none
  | c :: rest, h => by
    rw [readExponent]
    split
    · rename_i hc
      have hne : 'Z' ≠ c := by
        rintro rfl
        revert hc
        decide
      exact readSigned_of_mem_z ((List.mem_cons.1 h).resolve_left hne)
    · rfl

/-- **A time denotes no number.** -/
theorem readDouble_of_hasZone (h : HasZone s) : readDouble s = none := by
  have hsign : 'Z' ∈ (takeSign s.toList).2 := by
    unfold HasZone at h
    unfold takeSign
    split
    · rename_i hcs
      rw [hcs] at h
      exact (List.mem_cons.1 h).resolve_left (by decide)
    · rename_i hcs
      rw [hcs] at h
      exact (List.mem_cons.1 h).resolve_left (by decide)
    · exact h
  unfold readDouble
  generalize takeSign s.toList = signed at hsign
  obtain ⟨negative, cs⟩ := signed
  dsimp only at hsign ⊢
  have hword : ∀ word : String, 'z' ∉ word.toList → (String.ofList (cs.map Char.toLower) == word) = false := by
    intro word hnot
    refine beq_eq_false_iff_ne.2 fun heq => hnot ?_
    rw [← heq, String.toList_ofList]
    exact List.mem_map_of_mem (f := Char.toLower) hsign
  have hrest : 'Z' ∈ (readFraction (cs.dropWhile Char.isDigit)).2 := by
    have hz := mem_dropWhile (q := Char.isDigit) (by decide) hsign
    unfold readFraction
    split
    · rename_i hcs
      rw [hcs] at hz
      exact mem_dropWhile (by decide) ((List.mem_cons.1 hz).resolve_left (by decide))
    · exact hz
  unfold readUnsignedDouble
  dsimp only
  rw [hword "inf" (by decide), hword "infinity" (by decide), hword "nan" (by decide), readExponent_of_mem_z hrest]
  simp

end Text

/-! ## Reading -/

namespace Layout

theorem place_ne_empty (digits : List Char) (point : Int) : document.place digits point ≠ "" := by
  unfold place
  split
  · simp
  · split <;> simp [document]

theorem withExponent_ne_empty (digits : List Char) (leading : Int) : withExponent digits leading ≠ "" := by
  simp [withExponent]

theorem write_ne_empty (d : Double) : document.write d ≠ "" := by
  have hsign : ∀ sign text : String, text ≠ "" → sign ++ text ≠ "" := fun sign text h => by simp [h]
  unfold write
  dsimp only
  split
  · exact hsign _ _ (by decide)
  · refine hsign _ _ ?_
    split
    · exact place_ne_empty _ _
    · exact withExponent_ne_empty _ _

end Layout

theorem toString_ne_empty : ∀ i : Int, toString i ≠ ""
  | .ofNat n => fun h => by
    have hchars := congrArg String.toList (show toString n = "" from h)
    simp at hchars
  | .negSucc n => fun h => by
    have hchars := congrArg String.toList (show "-" ++ toString (n + 1) = "" from h)
    simp at hchars

theorem Number.text_ne_empty : ∀ n : Number, n.text ≠ ""
  | .int i => toString_ne_empty i
  | .double d => Layout.write_ne_empty d

namespace IdType

theorem inSigned64_of_integer? {v : Json} {i : Int} (h : integer? v = some i) : inSigned64 i = true := by
  have hnumber : ∀ v : Json, v.int64? = some i → inSigned64 i = true := fun v hv => by
    unfold Json.int64? at hv
    split at hv
    · split at hv
      · rename_i hrange
        cases hv
        simpa [inSigned64] using hrange
      · cases hv
    · cases hv
  unfold integer? at h
  split at h
  · exact (Option.filter_eq_some_iff.1 h).2
  · exact hnumber v h

theorem integer?_int {i : Int} (h : inSigned64 i = true) : integer? (.num (.int i)) = some i :=
  if_pos (by simpa [inSigned64] using h)

theorem parseBigint_int {i : Int} (h : inSigned64 i = true) : parseBigint (.num (.int i)) = .ok (.num (.int i)) := by
  rw [parseBigint, integer?_int h]

/-- What an identifier is read as, for each type. -/
theorem of_parseBigint {v id : Json} (h : parseBigint v = .ok id) : ∃ i, inSigned64 i = true ∧ id = .num (.int i) := by
  unfold parseBigint at h
  split at h
  · rename_i i hi
    cases h
    exact ⟨i, inSigned64_of_integer? hi, rfl⟩
  · cases h

theorem of_parseInt {v id : Json} (h : parseInt v = .ok id) :
    ∃ i, inSigned64 i = true ∧ inSigned32 i = true ∧ id = .num (.int i) := by
  unfold parseInt at h
  split at h
  · rename_i i hi
    split at h
    · rename_i hrange
      cases h
      exact ⟨i, inSigned64_of_integer? hi, hrange, rfl⟩
    · cases h
  · cases h

theorem of_parseUuid {v id : Json} (h : parseUuid v = .ok id) : ∃ s, Uuid.parse s = some s ∧ id = .str s := by
  unfold parseUuid at h
  split at h
  · split at h
    · rename_i c hc
      cases h
      exact ⟨c, Uuid.parse_canonical hc, rfl⟩
    · cases h
  · cases h

theorem of_parseText {v id : Json} (h : parseText v = .ok id) : ∃ s, s ≠ "" ∧ id = .str s := by
  unfold parseText at h
  split at h
  · split at h
    · cases h
    · rename_i s hs
      cases h
      exact ⟨s, by simpa using hs, rfl⟩
  · rename_i n
    cases h
    exact ⟨n.text, n.text_ne_empty, rfl⟩
  · cases h

theorem parseText_str {s : String} (h : s ≠ "") : parseText (.str s) = .ok (.str s) :=
  if_neg (by simpa using h)

theorem parseUuid_str {s c : String} (h : Uuid.parse s = some c) : parseUuid (.str s) = .ok (.str c) := by
  rw [parseUuid, h]

theorem parseInt_int {i : Int} (h : inSigned64 i = true) :
    parseInt (.num (.int i)) = if inSigned32 i then .ok (.num (.int i)) else .error "is out of range" := by
  rw [parseInt, integer?_int h]

/-- **What an identifier was read as is read as itself.** -/
theorem parse_parse : ∀ {t : IdType} {v id : Json}, t.parse v = .ok id → t.parse id = .ok id
  | .uuid, _, _, h => by
    obtain ⟨s, hs, rfl⟩ := of_parseUuid h
    exact parseUuid_str hs
  | .bigint, _, _, h => by
    obtain ⟨i, hi, rfl⟩ := of_parseBigint h
    exact parseBigint_int hi
  | .int, _, _, h => by
    obtain ⟨i, hi, hrange, rfl⟩ := of_parseInt h
    exact (parseInt_int hi).trans (if_pos hrange)
  | .text, _, _, h => by
    obtain ⟨s, hs, rfl⟩ := of_parseText h
    exact parseText_str hs

theorem eq_of_integer?_int {i j : Int} (h : integer? (.num (.int j)) = some i) : j = i := by
  unfold integer? Json.int64? at h
  dsimp only at h
  split at h
  · exact Option.some.inj h
  · cases h

theorem integer?_patternText {v : Json} {i : Int} (h : integer? v = some i) :
    integer? (.str (Cell.patternText v)) = some i := by
  cases v with
  | str s => exact h
  | num n =>
    cases n with
    | int j =>
      have hrange := inSigned64_of_integer? h
      obtain rfl := eq_of_integer?_int h
      exact readSigned64_toString hrange
    | double d => cases h
  | _ => cases h

/-- **The text of a value is read as what the value is read as.** -/
theorem parse_patternText : ∀ {t : IdType} {v id : Json}, t.parse v = .ok id →
    t.parse (.str (Cell.patternText v)) = .ok id
  | .uuid, v, _, h => by
    cases v with
    | str s => exact h
    | _ => cases h
  | .bigint, v, _, h => by
    cases hi : integer? v with
    | some i => rwa [parse, parseBigint, integer?_patternText hi, ← hi]
    | none => rw [parse, parseBigint, hi] at h; cases h
  | .int, v, _, h => by
    cases hi : integer? v with
    | some i => rwa [parse, parseInt, integer?_patternText hi, ← hi]
    | none => rw [parse, parseInt, hi] at h; cases h
  | .text, v, _, h => by
    cases v with
    | str s => exact h
    | num n =>
      cases h
      exact parseText_str n.text_ne_empty
    | _ => cases h

/-- Without text there is no identifier. -/
theorem patternText_ne_empty {t : IdType} {v id : Json} (h : t.parse v = .ok id) : Cell.patternText v ≠ "" := by
  intro hempty
  have hparse := parse_patternText h
  rw [hempty] at hparse
  cases t <;> cases hparse

/-- An identifier is a text or a number. -/
theorem scalar_of_parse : ∀ {t : IdType} {v id : Json}, t.parse v = .ok id → (∃ s, id = .str s) ∨ ∃ n, id = .num n
  | .uuid, _, _, h => by
    obtain ⟨s, -, rfl⟩ := of_parseUuid h
    exact .inl ⟨s, rfl⟩
  | .bigint, _, _, h => by
    obtain ⟨i, -, rfl⟩ := of_parseBigint h
    exact .inr ⟨_, rfl⟩
  | .int, _, _, h => by
    obtain ⟨i, -, -, rfl⟩ := of_parseInt h
    exact .inr ⟨_, rfl⟩
  | .text, _, _, h => by
    obtain ⟨s, -, rfl⟩ := of_parseText h
    exact .inl ⟨s, rfl⟩

/-- **A time is an identifier only where any text is one.** -/
theorem parse_time {now : String} (h : Text.HasZone now) : ∀ t : IdType,
    (t.parse (.str now) = .ok (.str now) ∧ t = .text) ∨ ((∃ message, t.parse (.str now) = .error message) ∧ t ≠ .text)
  | .uuid => .inr ⟨⟨_, by rw [parse, parseUuid, Uuid.parse_of_mem_z h]⟩, by decide⟩
  | .bigint => .inr ⟨⟨_, by
      rw [parse, parseBigint, integer?, Text.readSigned64_of_hasZone (Text.hasZone_trim h)]⟩, by decide⟩
  | .int => .inr ⟨⟨_, by
      rw [parse, parseInt, integer?, Text.readSigned64_of_hasZone (Text.hasZone_trim h)]⟩, by decide⟩
  | .text => .inl ⟨parseText_str (by rintro rfl; cases h), rfl⟩

end IdType

end RecordService
