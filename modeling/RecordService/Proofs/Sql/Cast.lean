import RecordService.Proofs.Sql.Binding
/-!
# Casts — how a value is cast in the text

In the text of a fragment a cast stands directly behind the number of the placeholder (`Fragment.casts_of_holes`).  So what
a call binds for a column with a type is cast to this type (`StoreCall.casts_of_binding`).
-/
namespace RecordService

/-! ## Holes -/

namespace Fragment

/-- Of the placeholders of the text, counted from nought, the one with the number stands for the value and is cast to the
type. -/
def Casts (f : Fragment) (n : Nat) (type : String) (value : Json) : Prop :=
  ∃ before after : Fragment, f = before ++ .hole (some type) value :: after ∧ before.params.length = n ∧
    f.sql = before.sql ++ "$" ++ toString (n + 1) ++ "::" ++ type ++ String.ofList (write (n + 1) after)

theorem exists_split_of_holes {f : Fragment} {cast : Option String} {value : Json} : ∀ {n : Nat},
    f.holes[n]? = some (cast, value) →
      ∃ before after : Fragment, f = before ++ .hole cast value :: after ∧ before.params.length = n := by
  induction f with
  | nil => exact nofun
  | cons piece f ih =>
    intro n h
    cases piece with
    | hole cast' value' =>
      cases n with
      | zero =>
        cases h
        exact ⟨[], f, rfl, rfl⟩
      | succ n =>
        obtain ⟨before, after, hf, hn⟩ := ih h
        exact ⟨.hole cast' value' :: before, after, congrArg _ hf, congrArg (· + 1) hn⟩
    | _ =>
      obtain ⟨before, after, hf, hn⟩ := ih h
      exact ⟨_ :: before, after, congrArg _ hf, hn⟩

theorem casts_of_holes {f : Fragment} {n : Nat} {type : String} {value : Json}
    (h : f.holes[n]? = some (some type, value)) : f.Casts n type value := by
  obtain ⟨before, after, hf, hn⟩ := exists_split_of_holes h
  refine ⟨before, after, hf, hn, ?_⟩
  have hhole : write n (.hole (some type) value :: after) =
      '$' :: (toString (n + 1)).toList ++ ':' :: ':' :: type.toList ++ write (n + 1) after := rfl
  rw [← String.toList_inj, hf, Fragment.sql, String.toList_ofList, write_append, hn, Nat.zero_add, hhole]
  simp [Fragment.sql]

end Fragment

/-! ## Calls -/

namespace StoreCall

open Fragment Predicate Statement

/-- **What is bound for a column with a type is cast to this type.** -/
theorem casts_of_binding {e : Entity} {column type : String} (h : Sql.cast e column = some type) {c : StoreCall} {n : Nat}
    {value : Json} (hn : (c.bindings e)[n]? = some ⟨some column, value⟩) :
    ((c.statement e).fragment e).Casts n type value := by
  refine casts_of_holes ?_
  rw [holes_eq, List.getElem?_map, hn]
  exact congrArg (fun cast => some (cast, value)) h

end StoreCall

end RecordService
