import RecordService.Proofs.Store.Counter
/-!
# Numbering — the integers that rows without an identifier are given

A batch that is left to the store is numbered consecutively (`Table.numbers_of_insertAll`).  The store compares numbers as
doubles, however, and takes the next integer for a duplicate where an identifier in the table is rounded to the same
double (`Table.Tracks.exists_insertAll_iff`); and behind the last integer of 64 bits it goes on from the other end.  An
insertion is numbered as it should be exactly when neither gets in its way (`numbered_afresh_iff`), as always with integers
of less than 53 binary digits (`numbered_afresh_of_small`).
-/
namespace RecordService

/-! ## Batches that are left to the store -/

namespace Table

variable {e : Entity} {input : Row}

/-- The next `n` integers behind `m`. -/
def following (m : Int) : Nat → List Int
  | 0 => []
  | n + 1 => (m + 1) :: following (m + 1) n

theorem mem_following_iff {i : Int} : ∀ {m : Int} {n : Nat}, i ∈ following m n ↔ m < i ∧ i ≤ m + n
  | m, 0 => by
    rw [following]
    exact ⟨fun h => absurd h List.not_mem_nil, fun h => by omega⟩
  | m, n + 1 => by
    rw [following, List.mem_cons, mem_following_iff]
    omega

theorem pairwise_following : ∀ (m : Int) (n : Nat), (following m n).Pairwise (· < ·)
  | _, 0 => List.Pairwise.nil
  | m, n + 1 => List.pairwise_cons.2 ⟨fun _ hi => (mem_following_iff.1 hi).1, pairwise_following (m + 1) n⟩

/-- The store tells the integers apart, for they are rounded to different doubles. -/
def ToldApart (is : List Int) : Prop := is.Pairwise fun i j => (Double.ofInt i).toInt ≠ (Double.ofInt j).toInt

/-- Integers that follow all others are told apart from them as long as they have less than 53 binary digits. -/
theorem ToldApart.append_following {is : List Int} {m : Int} {n : Nat} (h : ToldApart is) (hbelow : ∀ i ∈ is, i ≤ m)
    (hlow : 0 ≤ m) (hsmall : m + n < 2 ^ 53) : ToldApart (is ++ following m n) := by
  have happart : ∀ i j, i < j → j ∈ following m n → (Double.ofInt i).toInt ≠ (Double.ofInt j).toInt := by
    intro i j hlt hj hdouble
    obtain ⟨hm, hn⟩ := mem_following_iff.1 hj
    exact hlt.ne (Double.eq_of_toInt_ofInt (by omega) hdouble)
  refine List.pairwise_append.2 ⟨h, ?_, fun i hi j hj => ?_⟩
  · exact (pairwise_following m n).imp_of_mem fun {i j} _ hj hlt => happart i j hlt hj
  · have hlt := (mem_following_iff.1 hj).1
    exact happart i j (by have := hbelow i hi; omega) hj

theorem Tracks.hasId_iff {ever : Set Int} {t : Table} (hid : e.hasColumn e.idField = true)
    (hrepresents : t.Represents e) (h : Tracks e ever t) (i : Int) : hasId e (.num (.int i)) t.rows = false ↔
      ∀ j ∈ numbers e t.rows, (Double.ofInt j).toInt ≠ (Double.ofInt i).toInt := by
  constructor
  · intro hfresh j hj
    obtain ⟨row, hrow, hj⟩ := mem_numbers_iff.1 hj
    have hequal := not_equal_of_hasId hid hrepresents.keys hfresh row hrow
    rw [eq_of_int64? hj, Cell.equal_int] at hequal
    exact beq_eq_false_iff_ne.1 hequal
  · intro hapart
    refine Bool.eq_false_iff.2 fun hhas => ?_
    obtain ⟨row, hrow, hequal⟩ := exists_equal_of_hasId hhas
    obtain ⟨j, hj, hcell⟩ := h.stored row hrow
    rw [hcell, Cell.equal_int, beq_iff_eq] at hequal
    refine hapart j (mem_numbers_iff.2 ⟨row, hrow, ?_⟩) hequal
    rw [hcell, int64?_int (h.limit j hj)]

theorem Represents.toldApart {t : Table} (h : t.Represents e) : ToldApart (numbers e t.rows) := by
  refine List.pairwise_filterMap.2 (h.apart.imp fun {row row'} hequal i hi j hj => ?_)
  rw [eq_of_int64? hi, eq_of_int64? hj, Cell.equal_int] at hequal
  exact beq_eq_false_iff_ne.1 hequal

theorem Represents.add {t : Table} (hid : e.hasColumn e.idField = true) (h : t.Represents e)
    (hfresh : hasId e ((prepare e draw input t.lastId).1.cell e.idField) t.rows = false) :
    Represents ⟨t.rows ++ [(prepare e draw input t.lastId).1], (prepare e draw input t.lastId).2⟩ e := by
  have hins := insertAll_singleton e [draw] input t
  rw [List.headD_cons, hfresh, if_neg Bool.false_ne_true] at hins
  exact h.insertAll hid hins

theorem exists_insertAll_cons_iff {draws : List String} {inputs : List Row} {t : Table} :
    (∃ result, insertAll e draws (input :: inputs) t = .ok result) ↔
      hasId e ((prepare e (draws.headD "") input t.lastId).1.cell e.idField) t.rows = false ∧
        ∃ result, insertAll e draws.tail inputs ⟨t.rows ++ [(prepare e (draws.headD "") input t.lastId).1],
          (prepare e (draws.headD "") input t.lastId).2⟩ = .ok result := by
  constructor
  · rintro ⟨⟨stored, t'⟩, hins⟩
    obtain ⟨rest, hfresh, hbatch, -⟩ := of_insertAll_cons hins
    exact ⟨hfresh, _, hbatch⟩
  · rintro ⟨hfresh, ⟨rest, t'⟩, hbatch⟩
    refine ⟨((prepare e (draws.headD "") input t.lastId).1 :: rest, t'), ?_⟩
    rw [insertAll]
    dsimp only
    rw [hfresh, if_neg Bool.false_ne_true, hbatch]
    rfl

/-- **A batch that is left to the store is accepted exactly when the integers it comes to are told apart**, from one another
and from those in the table. -/
theorem Tracks.exists_insertAll_iff (hcounted : e.Counted) : ∀ (inputs : List Row) (draws : List String) {t : Table}
    {ever : Set Int}, Tracks e ever t → t.Represents e → 0 ≤ t.lastId → t.lastId + inputs.length ≤ maxId →
    (∀ input ∈ inputs, input.has e.idField = false) →
      ((∃ result, Table.insertAll e draws inputs t = .ok result) ↔
        ToldApart (numbers e t.rows ++ following t.lastId inputs.length))
  | [], _, t, _, _, hrepresents, _, _, _ => by
    rw [List.length_nil, following, List.append_nil]
    exact ⟨fun _ => hrepresents.toldApart, fun _ => ⟨_, rfl⟩⟩
  | input :: inputs, draws, t, ever, h, hrepresents, hlow, hroom, hleft => by
    obtain ⟨hinput, hleft⟩ := List.forall_mem_cons.1 hleft
    have hroom' : t.lastId + 1 + inputs.length ≤ maxId := by
      rw [List.length_cons] at hroom
      omega
    have hnext : wrapSigned64 (t.lastId + 1) = t.lastId + 1 := wrapSigned64_of_mem (by omega) (by omega)
    obtain ⟨hcell, hcounter⟩ := prepare_of_left hcounted (draws.headD "") t.lastId hinput
    rw [hnext] at hcell hcounter
    obtain ⟨i, hi, hcell', -, hadded⟩ := h.add hcounted (Entity.takesNumber_of_left hinput) (draws.headD "")
    obtain rfl : t.lastId + 1 = i := by simpa using hcell.symm.trans hcell'
    have hnumbers : numbers e (t.rows ++ [(prepare e (draws.headD "") input t.lastId).1]) =
        numbers e t.rows ++ [t.lastId + 1] := by
      rw [numbers_append, numbers_cons (by rw [hcell, int64?_int hi])]
      rfl
    -- the table behind the first row holds the next integer, which the rest of the batch has to be told apart from
    have hbatch := fun hfresh => exists_insertAll_iff hcounted inputs draws.tail hadded
      (hrepresents.add hcounted.idField hfresh)
    dsimp only at hbatch
    rw [hnumbers, hcounter, hcell] at hbatch
    rw [exists_insertAll_cons_iff, hcounter, hcell, List.length_cons, following,
      List.append_cons (numbers e t.rows)]
    constructor
    · rintro ⟨hfresh, hrest⟩
      exact (hbatch hfresh (by omega) hroom' hleft).1 hrest
    · intro hapart
      have hbefore := (List.pairwise_append.1 (List.pairwise_append.1 hapart).1).2.2
      have hfresh := (h.hasId_iff hcounted.idField hrepresents (t.lastId + 1)).2 fun j hj =>
        hbefore j hj _ (List.mem_singleton_self _)
      exact ⟨hfresh, (hbatch hfresh (by omega) hroom' hleft).2 hapart⟩

/-- **A batch that is left to the store is numbered consecutively**, as long as there is room for it. -/
theorem numbers_of_insertAll (hcounted : e.Counted) : ∀ {inputs stored : List Row} {draws : List String} {t t' : Table},
    0 ≤ t.lastId → t.lastId + inputs.length ≤ maxId → (∀ input ∈ inputs, input.has e.idField = false) →
    insertAll e draws inputs t = .ok (stored, t') → numbers e stored = following t.lastId inputs.length
  | [], _, _, _, _, _, _, _, hins => by
    cases hins
    rfl
  | input :: inputs, _, draws, t, _, hlow, hroom, hleft, hins => by
    obtain ⟨hinput, hleft⟩ := List.forall_mem_cons.1 hleft
    obtain ⟨rest, -, hbatch, rfl⟩ := of_insertAll_cons hins
    rw [List.length_cons] at hroom
    obtain ⟨hcell, hcounter⟩ := prepare_of_left hcounted (draws.headD "") t.lastId hinput
    have hsigned := inSigned64_wrapSigned64 (t.lastId + 1)
    rw [wrapSigned64_of_mem (by omega) (by omega)] at hcell hcounter hsigned
    have hrest := numbers_of_insertAll hcounted (by dsimp only; omega) (by dsimp only; omega) hleft hbatch
    rw [numbers_cons (by rw [hcell, int64?_int hsigned]), hrest, hcounter, List.length_cons, following]

end Table

/-! ## The next insertion -/

namespace MemoryStore

variable {e : Entity} {calls : List TableCall}

/-- A row that is left to the store gets an identifier above all that ever were, and above those of the rows before it. -/
def Ascending (e : Entity) (calls : List TableCall) (draws : List String) (inputs : List Row) : Prop :=
  ∀ stored, (answer draws e (.insert inputs) (empty.afterCalls calls)).1 = .ok stored →
    ∀ (k : Nat) (input : Row), inputs[k]? = some input → input.has e.idField = false →
      ∃ row i, stored[k]? = some row ∧ (row.cell e.idField).int64? = some i ∧
        ∀ j ∈ held e calls ∪ {i | i ∈ Table.numbers e (stored.take k)}, j < i

/-- No row that is left to the store comes behind the last integer. -/
def Unended (e : Entity) (calls : List TableCall) (draws : List String) (inputs : List Row) : Prop :=
  ∀ stored, (answer draws e (.insert inputs) (empty.afterCalls calls)).1 = .ok stored →
    ∀ (k : Nat) (input : Row), inputs[k]? = some input → input.has e.idField = false →
      Table.maxId ∉ held e calls ∪ {i | i ∈ Table.numbers e (stored.take k)}

/-- **The insertion behind the calls is numbered afresh.** -/
structure NumberedAfresh (e : Entity) (calls : List TableCall) (draws : List String) (inputs : List Row) : Prop where
  ascending : Ascending e calls draws inputs
  /-- Rows that are all left to the store are accepted. -/
  accepted : (∀ input ∈ inputs, input.has e.idField = false) →
    ∃ stored, (answer draws e (.insert inputs) (empty.afterCalls calls)).1 = .ok stored

/-- **There is room for the rows that are left to the store.** -/
structure HasRoom (e : Entity) (calls : List TableCall) (draws : List String) (inputs : List Row) : Prop where
  unended : Unended e calls draws inputs
  /-- When the batch consists of them, the integers that follow the greatest identifier are there for all of them, and are
  told apart, from one another and from the identifiers in the table. -/
  apart : (∀ input ∈ inputs, input.has e.idField = false) → ∀ m, IsGreatest (Insert.insert 0 (held e calls)) m →
    m + inputs.length ≤ Table.maxId ∧
      Table.ToldApart (Table.numbers e ((empty.afterCalls calls).rowsOf e) ++ Table.following m inputs.length)

theorem answer_insert_ok_iff {draws : List String} {inputs stored : List Row} :
    (answer draws e (.insert inputs) s).1 = .ok stored ↔
      ∃ t, Table.insertAll e draws inputs (s.table e) = .ok (stored, t) := by
  rw [answer_insert]
  cases Table.insertAll e draws inputs (s.table e) with
  | ok result => simp [Prod.ext_iff]
  | error error => simp

section
variable {draws : List String} {inputs : List Row} (hcounted : e.Counted)
  (hcalls : ∀ call ∈ calls, call.TakesNumbers e)
include hcounted hcalls

theorem exists_isGreatest : ∃ m, IsGreatest (Insert.insert 0 (held e calls)) m := by
  have h := tracks_afterCalls hcounted hcalls
  by_cases hmax : Table.maxId ∈ held e calls
  · refine ⟨Table.maxId, Set.mem_insert_of_mem 0 hmax, ?_⟩
    rintro i (rfl | hi)
    · decide
    · exact le_maxId_of_inSigned64 (h.limit i hi)
  · exact ⟨_, h.counter hmax⟩

/-- Rows that are left to the store come above all before them exactly when the last integer has not been taken. -/
theorem ascending_iff_unended (hinputs : ∀ input ∈ inputs, e.TakesNumber input) :
    Ascending e calls draws inputs ↔ Unended e calls draws inputs := by
  refine forall₂_congr fun stored hstored => forall₂_congr fun k input => forall₂_congr fun hk hleft => ?_
  obtain ⟨t, hins⟩ := answer_insert_ok_iff.1 hstored
  exact ((tracks_afterCalls hcounted hcalls).insertAll hcounted hinputs hins).2 k input hk hleft

/-- What the batch comes to is accepted where there is room. -/
theorem accepted_of_room (hroom : HasRoom e calls draws inputs) (hleft : ∀ input ∈ inputs, input.has e.idField = false) :
    ∃ stored, (answer draws e (.insert inputs) (empty.afterCalls calls)).1 = .ok stored := by
  have h := tracks_afterCalls hcounted hcalls
  obtain ⟨m, hm⟩ := exists_isGreatest hcounted hcalls
  obtain ⟨hlast, hapart⟩ := hroom.apart hleft m hm
  suffices hins : ∃ result, Table.insertAll e draws inputs ((empty.afterCalls calls).table e) = .ok result by
    obtain ⟨⟨stored, t⟩, hins⟩ := hins
    exact ⟨stored, answer_insert_ok_iff.2 ⟨t, hins⟩⟩
  by_cases hmax : Table.maxId ∈ held e calls
  · -- nothing is left to count to, so that there is nothing to insert
    have hle : Table.maxId ≤ m := hm.2 (Set.mem_insert_of_mem 0 hmax)
    obtain rfl : inputs = [] := List.length_eq_zero_iff.1 (by omega)
    exact ⟨_, rfl⟩
  · have hcounter := h.counter hmax
    obtain rfl : m = ((empty.afterCalls calls).table e).lastId := hm.unique hcounter
    have hlow : 0 ≤ ((empty.afterCalls calls).table e).lastId := hcounter.2 (Set.mem_insert 0 _)
    have hrepresents := represents_afterCalls hcounted hcalls
    exact (h.exists_insertAll_iff hcounted inputs draws hrepresents hlow hlast hleft).2 hapart

theorem afresh_of_room (hinputs : ∀ input ∈ inputs, e.TakesNumber input) (hroom : HasRoom e calls draws inputs) :
    NumberedAfresh e calls draws inputs :=
  ⟨(ascending_iff_unended hcounted hcalls hinputs).2 hroom.unended, accepted_of_room hcounted hcalls hroom⟩

/-- What is accepted without coming to the last integer had room. -/
theorem apart_of_unended (hunended : Unended e calls draws inputs)
    (hstored : ∃ stored, (answer draws e (.insert inputs) (empty.afterCalls calls)).1 = .ok stored)
    (hleft : ∀ input ∈ inputs, input.has e.idField = false) {m : Int}
    (hm : IsGreatest (Insert.insert 0 (held e calls)) m) : m + inputs.length ≤ Table.maxId ∧
      Table.ToldApart (Table.numbers e ((empty.afterCalls calls).rowsOf e) ++ Table.following m inputs.length) := by
  have h := tracks_afterCalls hcounted hcalls
  have hrepresents := represents_afterCalls hcounted hcalls
  obtain ⟨stored, hstored⟩ := hstored
  obtain ⟨t, hins⟩ := answer_insert_ok_iff.1 hstored
  have hopen : ∀ k < inputs.length, Table.maxId ∉ held e calls ∪ {i | i ∈ Table.numbers e (stored.take k)} :=
    fun k hk => hunended stored hstored k inputs[k] (List.getElem?_eq_getElem hk) (hleft _ (List.getElem_mem hk))
  by_cases hempty : inputs = []
  · subst hempty
    rw [List.length_nil, Table.following, List.append_nil]
    refine ⟨?_, hrepresents.toldApart⟩
    rcases hm.1 with rfl | hmem
    · decide
    · simpa using le_maxId_of_inSigned64 (h.limit m hmem)
  · have hmax : Table.maxId ∉ held e calls := by
      have hzero := hopen 0 (List.length_pos_iff.2 hempty)
      rwa [List.take_zero, Table.union_numbers_nil] at hzero
    have hcounter := h.counter hmax
    obtain rfl : m = ((empty.afterCalls calls).table e).lastId := hm.unique hcounter
    have hlow : 0 ≤ ((empty.afterCalls calls).table e).lastId := hcounter.2 (Set.mem_insert 0 _)
    have hlast := h.lastId_add_length_le hcounted hleft hins hempty hopen
    exact ⟨hlast, (h.exists_insertAll_iff hcounted inputs draws hrepresents hlow hlast hleft).1 ⟨_, hins⟩⟩

/-- **The next insertion is numbered afresh exactly when there is room for the rows that are left to the store.** -/
theorem numbered_afresh_iff (hinputs : ∀ input ∈ inputs, e.TakesNumber input) :
    NumberedAfresh e calls draws inputs ↔ HasRoom e calls draws inputs := by
  constructor
  · intro hfresh
    have hunended := (ascending_iff_unended hcounted hcalls hinputs).1 hfresh.ascending
    exact ⟨hunended, fun hleft _ hm => apart_of_unended hcounted hcalls hunended (hfresh.accepted hleft) hleft hm⟩
  · exact afresh_of_room hcounted hcalls hinputs

/-- A batch that is left to the store is numbered afresh as long as the integers have less than 53 binary digits. -/
theorem numbered_afresh_of_small (hleft : ∀ input ∈ inputs, input.has e.idField = false)
    (hsmall : ∀ i ∈ Insert.insert 0 (held e calls), i + inputs.length < 2 ^ 53) :
    NumberedAfresh e calls draws inputs := by
  have h := tracks_afterCalls hcounted hcalls
  have hlast : (2 : Int) ^ 53 ≤ Table.maxId := by decide
  have hmax : Table.maxId ∉ held e calls := fun hmem => by
    have hlt := hsmall _ (Set.mem_insert_of_mem 0 hmem)
    omega
  have hcounter := h.counter hmax
  have hlow := hcounter.2 (Set.mem_insert 0 _)
  have hroom := hsmall _ hcounter.1
  refine afresh_of_room hcounted hcalls (fun input hinput => Entity.takesNumber_of_left (hleft input hinput))
    ⟨fun stored hstored k input _ _ => ?_, fun _ m hm => ?_⟩
  · obtain ⟨t, hins⟩ := answer_insert_ok_iff.1 hstored
    rintro (hmem | hmem)
    · exact hmax hmem
    · obtain ⟨row, hrow, hi⟩ := Table.mem_numbers_iff.1 hmem
      have hfollows := Table.mem_numbers_iff.2 ⟨row, List.mem_of_mem_take hrow, hi⟩
      rw [Table.numbers_of_insertAll hcounted hlow (by omega) hleft hins] at hfollows
      have hle := (Table.mem_following_iff.1 hfollows).2
      omega
  · obtain rfl : m = ((empty.afterCalls calls).table e).lastId := hm.unique hcounter
    have hrepresents := represents_afterCalls hcounted hcalls
    refine ⟨by omega, hrepresents.toldApart.append_following (fun i hi => ?_) hlow hroom⟩
    exact hcounter.2 (Set.mem_insert_of_mem 0 (h.mem_of_mem_numbers hi))

end

end MemoryStore

namespace Notes

theorem counted_counted : counted.Counted := ⟨rfl, .inr rfl⟩

/-- A note with the first integer behind which not every integer is a double. -/
def insertLarge : TableCall :=
  ⟨counted, .rows [] (.insert [[("id", .num (.int 9007199254740992)), ("title", .str "first")]])⟩

theorem takesNumbers_insertLarge : insertLarge.TakesNumbers counted := by
  refine .own fun input hinput v hv => ?_
  cases List.mem_singleton.1 hinput
  exact ⟨9007199254740992, rfl, (Option.some.inj hv).symm⟩

/-- A note that is left to the store. -/
def unnumbered : Row := [("title", .str "second")]

theorem held_insertLarge : MemoryStore.held counted [insertLarge] = {9007199254740992} := by
  have hnumbers : Table.numbers counted ((insertLarge.after .empty).rowsOf counted) = [9007199254740992] := rfl
  rw [← List.nil_append [insertLarge], MemoryStore.held_concat, MemoryStore.held_nil]
  ext i
  show i ∈ (∅ : Set Int) ∨ i ∈ Table.numbers counted ((insertLarge.after .empty).rowsOf counted) ↔ _
  rw [hnumbers]
  simp

/-- The note is removed again. -/
def removed : List TableCall := [insertLarge, ⟨counted, .rows [] (.delete [])⟩]

theorem takesNumbers_removed : ∀ call ∈ removed, call.TakesNumbers counted :=
  List.forall_mem_cons.2 ⟨takesNumbers_insertLarge, List.forall_mem_singleton.2 (.own trivial)⟩

theorem rowsOf_removed : (MemoryStore.empty.afterCalls removed).rowsOf counted = [] := rfl

theorem held_removed : MemoryStore.held counted removed = {9007199254740992} := by
  have hcalls : removed = [insertLarge] ++ [⟨counted, .rows [] (.delete [])⟩] := rfl
  have hrows := rowsOf_removed
  rw [hcalls, MemoryStore.afterCalls_concat] at hrows
  rw [hcalls, MemoryStore.held_concat, held_insertLarge, hrows]
  exact Table.union_numbers_nil counted _

end Notes

/-- The number of a note that was removed is not given again: the next note gets the one behind it. -/
theorem MemoryStore.numbered_afresh_iff_notes :
    Notes.counted.Counted ∧ (∀ call ∈ Notes.removed, call.TakesNumbers Notes.counted) ∧
      (∀ input ∈ [Notes.unnumbered], Notes.counted.TakesNumber input) ∧
      MemoryStore.NumberedAfresh Notes.counted Notes.removed [] [Notes.unnumbered] := by
  have hinputs : ∀ input ∈ [Notes.unnumbered], Notes.counted.TakesNumber input :=
    List.forall_mem_singleton.2 (Entity.takesNumber_of_left rfl)
  refine ⟨Notes.counted_counted, Notes.takesNumbers_removed, hinputs, ?_⟩
  refine (MemoryStore.numbered_afresh_iff Notes.counted_counted Notes.takesNumbers_removed hinputs).2
    ⟨fun stored _ k input hk _ => ?_, fun _ m hm => ?_⟩
  · obtain rfl : k = 0 := by
      have hlength := (List.getElem?_eq_some_iff.1 hk).1
      simpa using hlength
    rw [List.take_zero, Table.union_numbers_nil, Notes.held_removed]
    decide
  · rw [Notes.held_removed] at hm
    rw [Notes.rowsOf_removed]
    obtain rfl : m = 9007199254740992 := hm.unique ⟨Or.inr rfl, by rintro i (rfl | rfl) <;> decide⟩
    exact ⟨by decide, List.pairwise_singleton _ _⟩

/-- With the note still there the next integer is taken for a duplicate of its number. -/
theorem MemoryStore.next_number_refused :
    Notes.counted.Counted ∧ (∀ call ∈ [Notes.insertLarge], call.TakesNumbers Notes.counted) ∧
      MemoryStore.held Notes.counted [Notes.insertLarge] = {9007199254740992} ∧
      (MemoryStore.answer [] Notes.counted (.insert [Notes.unnumbered])
          (MemoryStore.empty.afterCalls [Notes.insertLarge])).1 =
        .error (Table.duplicate Notes.counted (.num (.int 9007199254740993))) ∧
      ¬MemoryStore.NumberedAfresh Notes.counted [Notes.insertLarge] [] [Notes.unnumbered] := by
  have hrefused : (MemoryStore.answer [] Notes.counted (.insert [Notes.unnumbered])
      (MemoryStore.empty.afterCalls [Notes.insertLarge])).1 =
        .error (Table.duplicate Notes.counted (.num (.int 9007199254740993))) := by
    have hduplicate : Table.hasId Notes.counted (.num (.int 9007199254740993))
        ((MemoryStore.empty.afterCalls [Notes.insertLarge]).table Notes.counted).rows = true := by
      decide +kernel
    have hnumber : (Table.prepare Notes.counted "" Notes.unnumbered
        ((MemoryStore.empty.afterCalls [Notes.insertLarge]).table Notes.counted).lastId).1.cell
          Notes.counted.idField = .num (.int 9007199254740993) := rfl
    rw [MemoryStore.answer_insert, Table.insertAll_singleton, List.headD_nil, hnumber, hduplicate, if_pos rfl]
  refine ⟨Notes.counted_counted, List.forall_mem_singleton.2 Notes.takesNumbers_insertLarge, Notes.held_insertLarge,
    hrefused, fun hfresh => ?_⟩
  obtain ⟨stored, hstored⟩ := hfresh.accepted (List.forall_mem_singleton.2 rfl)
  rw [hrefused] at hstored
  cases hstored

/-- Behind the last integer the numbers go on from the other end. -/
example : Table.numbers Notes.counted ((MemoryStore.answer [] Notes.counted
    (.insert [[("id", .num (.int 9223372036854775807))], Notes.unnumbered]) .empty).2.rowsOf Notes.counted) =
      [9223372036854775807, -9223372036854775808] := by
  decide +kernel

end RecordService
