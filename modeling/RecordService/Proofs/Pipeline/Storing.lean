import Mathlib.Data.List.Forall2
import RecordService.Proofs.Pipeline.Batch
/-!
# Storing — the rows that an operation adds to a table

A record is accepted, given the time, and completed to a row by the store (`Pipeline.StoredFor`).  The rows that an
operation without hooks answers to have stored are the rows that it adds, and each was made in this way of a record that
it was given (`Pipeline.Stores`).
-/
namespace RecordService

/-- The records that the operation is to store. -/
def Request.records : Request → List Json
  | .create data => [data]
  | .bulkCreate records => records
  | _ => []

/-- The rows that the operation answers to have stored. -/
def Request.stored : Request → Except ServiceError Answer → List Row
  | .create _, .ok (.row row) => [row]
  | .bulkCreate _, .ok (.created rows) => rows
  | _, _ => []

namespace Pipeline

variable {p : Pipeline} {o : Occasion} {request : Request} {s : MemoryStore}

/-! ## Rows and the records they are for -/

/-- The row is what the record is accepted as, with the time that it has to be given, and completed by the store. -/
def StoredFor (p : Pipeline) (now : String) (ctx : Context) (record : Json) (row : Row) : Prop :=
  ∃ input draw lastId, p.accepted ctx record = .ok input ∧
    row = (Table.prepare p.entity draw (p.entity.stampCreated now input) lastId).1

theorem of_addition {record : Json} {row : Row} {t t' : Table} (h : p.addition o record t = .ok (row, t')) :
    p.StoredFor o.now o.context record row ∧ t'.rows = t.rows ++ [row] := by
  obtain ⟨input, hinput, hadd⟩ := ok_of_bind h
  unfold Table.add at hadd
  dsimp only at hadd
  split at hadd
  · cases hadd
  · cases hadd
    exact ⟨⟨input, _, _, hinput, rfl⟩, rfl⟩

/-- **A list of records adds one row for each**, in their order. -/
theorem of_additions {now : String} {ctx : Context} : ∀ {records : List Json} {i : Nat} {draws : List String}
    {t t' : Table} {rows : List Row}, p.additions (fun _ => now) ctx i draws records t = .ok (rows, t') →
      List.Forall₂ (p.StoredFor now ctx) records rows ∧ t'.rows = t.rows ++ rows
  | [], _, _, t, _, _, h => by
    cases h
    exact ⟨.nil, (List.append_nil t.rows).symm⟩
  | record :: records, _, _, t, t', _, h => by
    obtain ⟨row, t₁, rest, hfirst, hrest, rfl⟩ := additions_cons_ok_iff.1 h
    obtain ⟨hrow, hadded⟩ := of_addition hfirst
    obtain ⟨hrows, hothers⟩ := of_additions hrest
    exact ⟨.cons hrow hrows, by rw [hothers, hadded, List.append_assoc, List.singleton_append]⟩

/-! ## Operations that store -/

/-- **The rows that an operation answers to have stored are added to the table**, each for a record of the request. -/
structure Stores (p : Pipeline) (o : Occasion) (request : Request) (s : MemoryStore)
    (result : Except ServiceError Answer × MemoryStore) : Prop where
  rows : result.2.rowsOf p.entity = s.rowsOf p.entity ++ request.stored result.1
  stored : ∀ row ∈ request.stored result.1, ∃ record ∈ request.records, p.StoredFor o.now o.context record row
  answer : ∀ n, result.1 ≠ .ok (.affected n)

/-- An operation that stores no row and leaves the store as it was, failed or not. -/
theorem stores_of_none {answer : Except ServiceError Answer} (hnone : request.stored answer = [])
    (hanswer : ∀ n, answer ≠ .ok (.affected n)) : p.Stores o request s (answer, s) := by
  refine ⟨by rw [hnone, List.append_nil], fun row hrow => ?_, hanswer⟩
  rw [hnone] at hrow
  cases hrow

theorem stores_create (hp : p.hooks = .none) (data : Json) (s : MemoryStore) :
    p.Stores o (.create data) s (p.runOn o (.create data) s) := by
  rw [runOn_create_eq hp]
  cases haddition : p.addition o data (s.table p.entity) with
  | error error => exact stores_of_none rfl fun n hn => (by cases hn)
  | ok result =>
    obtain ⟨row, t⟩ := result
    obtain ⟨hrow, hrows⟩ := of_addition haddition
    refine ⟨?_, List.forall_mem_singleton.2 ⟨data, List.mem_cons_self, hrow⟩, fun n hn => by cases hn⟩
    rw [MemoryStore.rowsOf, MemoryStore.table_setTable, hrows]
    rfl

theorem stores_bulkCreate (hp : p.hooks = .none) (records : List Json) (s : MemoryStore) :
    p.Stores o (.bulkCreate records) s (p.runOn o (.bulkCreate records) s) := by
  by_cases hne : records = []
  · subst hne
    exact stores_of_none rfl fun n hn => (by cases hn)
  rw [runOn_bulkCreate, runBatch_eq hp hne]
  cases hadditions : p.additions (fun _ => o.now) o.context 0 o.draws records (s.table p.entity) with
  | error error => exact stores_of_none rfl fun n hn => (by cases hn)
  | ok result =>
    obtain ⟨rows, t⟩ := result
    obtain ⟨hstored, hrows⟩ := of_additions hadditions
    refine ⟨?_, fun row hrow => ?_, fun n hn => by cases hn⟩
    · rw [MemoryStore.rowsOf, MemoryStore.table_setTable, hrows]
      rfl
    · obtain ⟨i, hi, rfl⟩ := List.getElem_of_mem (show row ∈ rows from hrow)
      have hi' : i < records.length := hstored.length_eq ▸ hi
      exact ⟨records[i], List.getElem_mem hi', hstored.get hi' hi⟩

/-- **What an operation answers to have stored is stored for the records it is given.** -/
theorem storedFor_of_stored (hp : p.hooks = .none) {row : Row} (hrow : row ∈ request.stored (p.runOn o request s).1) :
    ∃ record ∈ request.records, p.StoredFor o.now o.context record row := by
  cases request with
  | create data => exact (stores_create hp data s).stored row hrow
  | bulkCreate records => exact (stores_bulkCreate hp records s).stored row hrow
  | _ => cases hrow

end Pipeline

end RecordService
