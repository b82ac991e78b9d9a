import Mathlib.Data.List.Forall2
import RecordService.Store.Matching
/-!
# Results and members

What the developments behind this one share: the steps on the way to a result, and the members of rows that are
written column by column.
-/
namespace RecordService

theorem ok_of_bind {ε α β : Type} {x : Except ε α} {f : α → Except ε β} {b : β} (h : (x >>= f) = .ok b) :
    ∃ a, x = .ok a ∧ f a = .ok b := by
  cases x with
  | ok a => exact ⟨a, rfl, h⟩
  | error e => cases h

theorem ok_of_map {ε α β : Type} {x : Except ε α} {f : α → β} {b : β} (h : x.map f = .ok b) : ∃ a, x = .ok a ∧ f a = b := by
  cases x with
  | ok a => exact ⟨a, rfl, Except.ok.inj h⟩
  | error e => cases h

theorem error_of_bind {ε α β : Type} {x : Except ε α} {f : α → Except ε β} {e : ε} (h : (x >>= f) = .error e) :
    x = .error e ∨ ∃ a, x = .ok a ∧ f a = .error e := by
  cases x with
  | ok a => exact .inr ⟨a, rfl, h⟩
  | error e' =>
    cases h
    exact .inl rfl

theorem ok_bind {ε α β : Type} (a : α) (f : α → Except ε β) : (Except.ok a >>= f) = f a := rfl

theorem mapM_ok_of_forall {ε α β : Type} {f : α → Except ε β} {g : α → β} : ∀ {l : List α},
    (∀ a ∈ l, f a = .ok (g a)) → l.mapM f = .ok (l.map g)
  | [], _ => rfl
  | a :: l, h => by
    obtain ⟨ha, hl⟩ := List.forall_mem_cons.1 h
    rw [List.mapM_cons, ha, mapM_ok_of_forall hl]
    rfl

theorem mem_of_mapM_ok {ε α β : Type} {f : α → Except ε β} {b : β} : ∀ {l : List α} {bs : List β},
    l.mapM f = .ok bs → b ∈ bs → ∃ a ∈ l, f a = .ok b
  | [], bs, h, hb => by
    cases h
    cases hb
  | a :: l, bs, h, hb => by
    rw [List.mapM_cons] at h
    obtain ⟨first, hfirst, h⟩ := ok_of_bind h
    obtain ⟨others, hothers, h⟩ := ok_of_bind h
    cases h
    rcases List.mem_cons.1 hb with rfl | hmem
    · exact ⟨a, List.mem_cons_self, hfirst⟩
    · obtain ⟨a', ha', hf⟩ := mem_of_mapM_ok hothers hmem
      exact ⟨a', List.mem_cons_of_mem a ha', hf⟩

/-- A list is read when every element is, and then the results stand in the places of the elements. -/
theorem mapM_ok_iff {ε α β : Type} {f : α → Except ε β} : ∀ {l : List α} {bs : List β},
    l.mapM f = .ok bs ↔ List.Forall₂ (fun a b => f a = .ok b) l bs
  | [], bs => by
    rw [List.forall₂_nil_left_iff]
    exact ⟨fun h => (Except.ok.inj h).symm, fun h => h ▸ rfl⟩
  | a :: l, bs => by
    rw [List.mapM_cons, List.forall₂_cons_left_iff]
    constructor
    · intro h
      obtain ⟨b, hb, h⟩ := ok_of_bind h
      obtain ⟨rest, hrest, h⟩ := ok_of_bind h
      exact ⟨b, rest, hb, mapM_ok_iff.1 hrest, (Except.ok.inj h).symm⟩
    · rintro ⟨b, rest, hb, hrest, rfl⟩
      rw [hb, mapM_ok_iff.2 hrest]
      rfl

theorem exists_mapM_ok_iff {ε α β : Type} {f : α → Except ε β} {l : List α} :
    (∃ bs, l.mapM f = .ok bs) ↔ ∀ a ∈ l, ∃ b, f a = .ok b := by
  induction l with
  | nil => simp [pure, Except.pure]
  | cons a l ih =>
    rw [List.forall_mem_cons, ← ih]
    simp only [mapM_ok_iff, List.forall₂_cons_left_iff]
    constructor
    · rintro ⟨bs, b, rest, hb, hrest, -⟩
      exact ⟨⟨b, hb⟩, rest, hrest⟩
    · rintro ⟨⟨b, hb⟩, rest, hrest⟩
      exact ⟨b :: rest, b, rest, hb, hrest, rfl⟩

/-- It fails as one of the elements does. -/
theorem error_of_mapM {ε α β : Type} {f : α → Except ε β} {e : ε} : ∀ {l : List α}, l.mapM f = .error e →
    ∃ a ∈ l, f a = .error e
  | [], h => by cases h
  | a :: l, h => by
    rw [List.mapM_cons] at h
    rcases error_of_bind h with hfirst | ⟨b, -, h⟩
    · exact ⟨a, List.mem_cons_self, hfirst⟩
    · rcases error_of_bind h with hrest | ⟨bs, -, h⟩
      · obtain ⟨a', ha', hf⟩ := error_of_mapM hrest
        exact ⟨a', List.mem_cons_of_mem a ha', hf⟩
      · cases h

namespace Row

theorem mem_of_get? {name : String} {v : Json} : ∀ {row : Row}, row.get? name = some v → (name, v) ∈ row
  | (k, w) :: rest, h => by
    unfold Row.get? at h
    by_cases hk : k = name
    · rw [if_pos hk] at h
      cases h
      exact hk ▸ List.mem_cons_self
    · rw [if_neg hk] at h
      exact List.mem_cons_of_mem _ (mem_of_get? h)

theorem mem_keys_of_mem {name : String} {v : Json} {row : Row} (h : (name, v) ∈ row) : name ∈ row.keys :=
  List.mem_map.2 ⟨(name, v), h, rfl⟩

theorem exists_mem_of_mem_keys {name : String} {row : Row} (h : name ∈ row.keys) : ∃ v, (name, v) ∈ row := by
  obtain ⟨⟨k, v⟩, hmem, rfl⟩ := List.mem_map.1 h
  exact ⟨v, hmem⟩

/-- A row that is written from a list of names has a cell for each of them. -/
theorem get?_map {α : Type} (name : α → String) (cell : String → Json) (key : String) : ∀ l : List α,
    Row.get? (l.map fun a => (name a, cell (name a))) key = if key ∈ l.map name then some (cell key) else none
  | [] => rfl
  | a :: l => by
    rw [List.map_cons, Row.get?]
    by_cases ha : name a = key
    · subst ha
      simp
    · rw [if_neg ha, get?_map name cell key l]
      simp [Ne.symm ha]

/-- Setting a member sets the cell, and leaves the others. -/
theorem get?_set (name : String) (value : Json) (key : String) : ∀ row : Row,
    (row.set name value).get? key = if key = name then some value else row.get? key
  | [] => by
    by_cases h : key = name
    · simp [Row.set, Row.get?, h]
    · simp [Row.set, Row.get?, h, Ne.symm h]
  | (k, v) :: rest => by
    have ih := get?_set name value key rest
    unfold Row.set
    by_cases hk : k = name
    · subst hk
      by_cases h : key = k
      · simp [Row.get?, h]
      · simp [Row.get?, h, Ne.symm h]
    · rw [if_neg hk]
      by_cases h : k = key
      · subst h
        simp [Row.get?, hk]
      · simp [Row.get?, h, ih]

theorem cell_set (row : Row) (name : String) (value : Json) (key : String) :
    (row.set name value).cell key = if key = name then value else row.cell key := by
  rw [Row.cell, Row.cell, get?_set]
  split <;> rfl

theorem mem_of_mem_set {name : String} {value : Json} {member : String × Json} : ∀ {row : Row},
    member ∈ row.set name value → member ∈ row ∨ member.1 = name
  | [], h => .inr (congrArg Prod.fst (List.mem_singleton.1 h))
  | (k, v) :: rest, h => by
    unfold Row.set at h
    split at h
    · rename_i hk
      rcases List.mem_cons.1 h with rfl | h
      · exact .inr hk
      · exact .inl (List.mem_cons_of_mem _ h)
    · rcases List.mem_cons.1 h with rfl | h
      · exact .inl List.mem_cons_self
      · exact (mem_of_mem_set h).imp_left (List.mem_cons_of_mem _)

theorem mem_set_of_ne {name : String} {value : Json} {member : String × Json} (hname : member.1 ≠ name) :
    ∀ {row : Row}, member ∈ row → member ∈ row.set name value
  | (k, v) :: rest, h => by
    unfold Row.set
    rcases List.mem_cons.1 h with rfl | h
    · rw [if_neg hname]
      exact List.mem_cons_self
    · split
      · exact List.mem_cons_of_mem _ h
      · exact List.mem_cons_of_mem _ (mem_set_of_ne hname h)

theorem mem_keys_set {name key : String} {value : Json} : ∀ {row : Row},
    key ∈ (row.set name value).keys ↔ key = name ∨ key ∈ row.keys
  | [] => by simp [set, keys]
  | (k, v) :: rest => by
    have ih : key ∈ (set rest name value).keys ↔ key = name ∨ key ∈ keys rest := mem_keys_set
    unfold set
    by_cases hk : k = name
    · simp [hk, keys]
    · rw [if_neg hk]
      simp only [keys, List.map_cons, List.mem_cons] at ih ⊢
      rw [ih]
      exact or_left_comm

theorem keys_set_nodup {name : String} {value : Json} : ∀ {row : Row}, row.keys.Nodup →
    (row.set name value).keys.Nodup
  | [], _ => List.pairwise_singleton _ name
  | (k, v) :: rest, h => by
    obtain ⟨hnot, hrest⟩ := List.nodup_cons.1 h
    unfold Row.set
    split
    · exact h
    · rename_i hk
      exact List.nodup_cons.2 ⟨fun hmem => (mem_keys_set.1 hmem).elim hk hnot, keys_set_nodup hrest⟩

end Row

/-- Texts are equal cells when they are the same. -/
theorem Cell.equal_str (a b : String) : Cell.equal (.str a) (.str b) = (a == b) := by
  simp [Cell.equal, Cell.isNumber, Json.same]

/-- What is not null does not equal null. -/
theorem Cell.equal_null {cell : Json} (h : cell.isNull = false) {v : Json} (hv : v.isNull = true) :
    Cell.equal cell v = false := by
  cases v with
  | null => cases cell <;> first | rfl | cases h
  | _ => cases hv

/-- A column that holds a text equals the same text, and no other. -/
theorem Predicate.holds_eq_str {row : Row} {name a : String} (b : String) (h : row.cell name = .str a) :
    (Predicate.eq name (.str b)).holds row = (a == b) := by
  simp [Predicate.eq, Predicate.holds, Comparison.holds, h, Json.isNull, Cell.equal_str]

/-- The cell decides, whatever else is in the row. -/
theorem Predicate.holds_eq_congr {row row' : Row} {name : String} (value : Json) (h : row.cell name = row'.cell name) :
    (Predicate.eq name value).holds row = (Predicate.eq name value).holds row' := by
  simp [Predicate.eq, Predicate.holds, h]

end RecordService
