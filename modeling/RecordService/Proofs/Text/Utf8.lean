import RecordService.Text.Utf8
/-!
# UTF-8 — text is read as it was written

The octets of a character are read as this character and leave nothing begun, whatever comes behind them
(`decodeFrom_charOctets`).  So a text can be had back from its octets (`decode?_octets`).
-/
namespace RecordService.Text

/-! ## The octets of a character -/

theorem toNat_lt (c : Char) : c.toNat < 0x110000 := by
  have h := c.valid
  simp only [UInt32.isValidChar, Nat.isValidChar] at h
  show c.val.toNat < 0x110000
  omega

/-- No character has the number of half a pair. -/
theorem not_surrogate (c : Char) : c.toNat < 0xD800 ∨ 0xE000 ≤ c.toNat := by
  have h := c.valid
  simp only [UInt32.isValidChar, Nat.isValidChar] at h
  show c.val.toNat < 0xD800 ∨ 0xE000 ≤ c.val.toNat
  omega

theorem lt_of_mem_charOctets {c : Char} {octet : Nat} (h : octet ∈ charOctets c) : octet < 256 := by
  have hbound := toNat_lt c
  unfold charOctets at h
  dsimp only at h
  split at h
  · simp only [List.mem_singleton] at h
    omega
  · split at h
    · simp only [List.mem_cons, List.not_mem_nil, or_false] at h
      omega
    · split at h <;> simp only [List.mem_cons, List.not_mem_nil, or_false] at h <;> omega

/-! ## Reading them -/

/-- A character of one octet is complete at once. -/
theorem decodeFrom_ascii {octet : Nat} (h : octet < 0x80) (rest : List Nat) :
    decodeFrom none (octet :: rest) = some (Char.ofNat octet) :: decodeFrom none rest := by
  simp [decodeFrom, advance, first, h]

theorem decodeFrom_begin {octet : Nat} {b : Begun} (h : 0x80 ≤ octet) (hb : begin? octet = some b) (rest : List Nat) :
    decodeFrom none (octet :: rest) = decodeFrom (some b) rest := by
  simp [decodeFrom, advance, first, Nat.not_lt.2 h, hb]

theorem decodeFrom_more {more low high bits octet : Nat} (hlow : low ≤ octet) (hhigh : octet ≤ high) (rest : List Nat) :
    decodeFrom (some ⟨more + 1, low, high, bits⟩) (octet :: rest) =
      decodeFrom (some ⟨more, 0x80, 0xBF, bits * 64 + octet % 64⟩) rest := by
  simp [decodeFrom, advance, hlow, hhigh]

theorem decodeFrom_last {low high bits octet : Nat} (hlow : low ≤ octet) (hhigh : octet ≤ high) (rest : List Nat) :
    decodeFrom (some ⟨0, low, high, bits⟩) (octet :: rest) =
      some (Char.ofNat (bits * 64 + octet % 64)) :: decodeFrom none rest := by
  simp [decodeFrom, advance, hlow, hhigh]

/-- The first of two octets says that one more is to come. -/
theorem begin?_two {n : Nat} (hlow : 0x80 ≤ n) (hhigh : n < 0x800) :
    begin? (0xC0 + n / 64) = some ⟨0, 0x80, 0xBF, n / 64⟩ := by
  unfold begin?
  rw [if_pos (by simp only [Bool.and_eq_true, decide_eq_true_eq]; omega), Nat.add_sub_cancel_left]

/-- The first of three octets allows for the second one. -/
theorem begin?_three {n : Nat} (hlow : 0x800 ≤ n) (hhigh : n < 0x10000) (hchar : n < 0xD800 ∨ 0xE000 ≤ n) :
    ∃ low high, begin? (0xE0 + n / 4096) = some ⟨1, low, high, n / 4096⟩ ∧
      low ≤ 0x80 + n / 64 % 64 ∧ 0x80 + n / 64 % 64 ≤ high := by
  by_cases hfirst : n / 4096 = 0
  · exact ⟨0xA0, 0xBF, by rw [hfirst]; rfl, by omega, by omega⟩
  by_cases hpairs : n / 4096 = 13
  · exact ⟨0x80, 0x9F, by rw [hpairs]; rfl, by omega, by omega⟩
  refine ⟨0x80, 0xBF, ?_, by omega, by omega⟩
  unfold begin?
  simp only [Bool.and_eq_true, decide_eq_true_eq, beq_iff_eq]
  rw [if_neg (by omega), if_neg (by omega), if_neg (by omega), if_pos (by omega), Nat.add_sub_cancel_left]

/-- The first of four octets allows for the second one. -/
theorem begin?_four {n : Nat} (hlow : 0x10000 ≤ n) (hhigh : n < 0x110000) :
    ∃ low high, begin? (0xF0 + n / 262144) = some ⟨2, low, high, n / 262144⟩ ∧
      low ≤ 0x80 + n / 4096 % 64 ∧ 0x80 + n / 4096 % 64 ≤ high := by
  by_cases hfirst : n / 262144 = 0
  · exact ⟨0x90, 0xBF, by rw [hfirst]; rfl, by omega, by omega⟩
  by_cases hlast : n / 262144 = 4
  · exact ⟨0x80, 0x8F, by rw [hlast]; rfl, by omega, by omega⟩
  refine ⟨0x80, 0xBF, ?_, by omega, by omega⟩
  unfold begin?
  simp only [Bool.and_eq_true, decide_eq_true_eq, beq_iff_eq]
  rw [if_neg (by omega), if_neg (by omega), if_neg (by omega), if_neg (by omega), if_neg (by omega),
    if_pos (by omega), Nat.add_sub_cancel_left]

/-- **A character is read from its octets**, whatever comes behind them. -/
theorem decodeFrom_charOctets (c : Char) (rest : List Nat) :
    decodeFrom none (charOctets c ++ rest) = some c :: decodeFrom none rest := by
  have hback : Char.ofNat c.toNat = c := Char.ofNat_toNat c
  have hbound := toNat_lt c
  have hchar := not_surrogate c
  unfold charOctets
  generalize c.toNat = n at hback hbound hchar
  dsimp only
  by_cases hone : n < 0x80
  · rw [if_pos hone]
    exact (decodeFrom_ascii hone rest).trans (by rw [hback])
  rw [if_neg hone]
  by_cases htwo : n < 0x800
  · rw [if_pos htwo, List.cons_append, decodeFrom_begin (by omega) (begin?_two (by omega) htwo), List.cons_append,
      decodeFrom_last (by omega) (by omega), List.nil_append]
    rw [show n / 64 * 64 + (0x80 + n % 64) % 64 = n by omega, hback]
  rw [if_neg htwo]
  by_cases hthree : n < 0x10000
  · obtain ⟨low, high, hbegin, hlow, hhigh⟩ := begin?_three (by omega) hthree hchar
    rw [if_pos hthree, List.cons_append, decodeFrom_begin (by omega) hbegin, List.cons_append, decodeFrom_more hlow hhigh,
      List.cons_append, decodeFrom_last (by omega) (by omega), List.nil_append]
    rw [show (n / 4096 * 64 + (0x80 + n / 64 % 64) % 64) * 64 + (0x80 + n % 64) % 64 = n by omega, hback]
  · obtain ⟨low, high, hbegin, hlow, hhigh⟩ := begin?_four (by omega) hbound
    rw [if_neg hthree, List.cons_append, decodeFrom_begin (by omega) hbegin, List.cons_append, decodeFrom_more hlow hhigh,
      List.cons_append, decodeFrom_more (by omega) (by omega), List.cons_append, decodeFrom_last (by omega) (by omega),
      List.nil_append]
    rw [show ((n / 262144 * 64 + (0x80 + n / 4096 % 64) % 64) * 64 + (0x80 + n / 64 % 64) % 64) * 64 +
      (0x80 + n % 64) % 64 = n by omega, hback]

/-- **A text is read from its octets.** -/
theorem decode?_octets (cs : List Char) : decode? (octets cs) = some cs := by
  have hpieces : decodeFrom none (octets cs) = cs.map some := by
    induction cs with
    | nil => rfl
    | cons c cs ih =>
      rw [octets, List.flatMap_cons, decodeFrom_charOctets, List.map_cons, ← ih]
      rfl
  rw [decode?, hpieces, List.mapM_map]
  exact (List.mapM_pure (m := Option) (f := id)).trans (congrArg some (List.map_id cs))

end RecordService.Text
