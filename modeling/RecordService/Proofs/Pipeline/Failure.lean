import RecordService.Proofs.Pipeline.Memory
/-!
# Failure — an operation that fails leaves no trace

An operation fails at one of three places.  Its arguments are refused, before any store is asked; its call fails,
and a call that fails changes nothing; or its call answers with no row where one has to be, and a call that answers
with no row has changed nothing either (`unchanged_of_error`).
-/
namespace RecordService

variable {p : Pipeline} {o : Occasion} {s : MemoryStore} {error : ServiceError}

/-- Only the want of a row makes an error of the rows that a call answered with. -/
theorem Outcome.eq_nil_of_error {outcome : Outcome} {rows : List Row} (h : outcome.answer p rows = .error error) :
    rows = [] := by
  cases outcome with
  | stored =>
    unfold answer at h
    dsimp only at h
    split at h
    · cases h
    · rename_i hlast
      exact List.getLast?_eq_none_iff.1 hlast
  | current id =>
    unfold answer Pipeline.firstOrNotFound at h
    dsimp only at h
    split at h
    · cases h
    · rename_i hhead
      exact List.head?_eq_none_iff.1 hhead
  | affected => cases h
  | affectedSome id =>
    unfold answer Pipeline.affectedOrNotFound at h
    dsimp only at h
    split at h
    · rename_i hlength
      exact List.length_eq_zero_iff.1 hlength
    · cases h
  | created => cases h

namespace Intent

theorem same_of_call_error {c : RowCall} {outcome : Outcome} (h : ((call c outcome).runOn p o s).1 = .error error) :
    ((call c outcome).runOn p o s).2.Same s := by
  rw [runOn_call] at h ⊢
  dsimp only at h ⊢
  cases hanswer : (MemoryStore.answer o.draws p.entity c s).1 with
  | error failure =>
    rw [MemoryStore.answer_error hanswer]
    exact MemoryStore.Same.refl s
  | ok rows =>
    rw [hanswer] at h
    have hnone : rows = [] := Outcome.eq_nil_of_error h
    rw [hnone] at hanswer
    exact MemoryStore.answer_nil hanswer

/-- **An intent that fails leaves the tables as they were.** -/
theorem same_of_error {i : Intent} (h : (i.runOn p o s).1 = .error error) : (i.runOn p o s).2.Same s := by
  cases i with
  | answer a => exact MemoryStore.Same.refl s
  | find filter => exact MemoryStore.Same.refl s
  | page filter orderBy bounds =>
    rw [runOn_page]
    exact MemoryStore.Same.refl s
  | call c outcome => exact same_of_call_error h
  | expunge id filter =>
    rw [runOn_expunge] at h ⊢
    split at h
    · rename_i habsent
      rw [if_pos habsent]
      exact MemoryStore.Same.refl s
    · rename_i hpresent
      rw [if_neg hpresent]
      exact same_of_call_error h

end Intent

namespace Pipeline

/-- **An operation that fails leaves every table as it was**, its rows and its counter, whatever the error. -/
theorem unchanged_of_error (p : Pipeline) (o : Occasion) (request : Request) (s : MemoryStore) {error : ServiceError}
    (h : (p.runOn o request s).1 = .error error) : (p.runOn o request s).2.Same s := by
  cases hplan : p.plan o request with
  | error refusal =>
    rw [runOn_of_refusal hplan]
    exact MemoryStore.Same.refl s
  | ok i =>
    rw [runOn_of_plan hplan] at h ⊢
    exact Intent.same_of_error h

/-- The first record is accepted before the second is found to have its identifier. -/
theorem unchanged_of_error_notes :
    (Notes.byTenant.runOn (Notes.occasion "a") (.bulkCreate [.obj [("id", .str "2")], .obj [("id", .str "2")]])
        (Notes.store [Notes.row "1" (.str "a") .null])).1 =
      .error (.store "duplicate key value for notes.id: \"2\"") ∧
    (Notes.byTenant.runOn (Notes.occasion "a") (.bulkCreate [.obj [("id", .str "2")], .obj [("id", .str "2")]])
        (Notes.store [Notes.row "1" (.str "a") .null])).2.Same (Notes.store [Notes.row "1" (.str "a") .null]) :=
  ⟨rfl, unchanged_of_error Notes.byTenant (Notes.occasion "a") _ _ rfl⟩

end Pipeline

end RecordService
