import RecordService.Proofs.Basic
/-!
# Sameness — a value is the same as itself

Objects are compared name by name, and of two members with one name the first stands for both.  So a value is the same
as itself as long as no object in it has a name twice, and it equals itself as a cell.
-/
namespace RecordService

/-- With every name once, each member is the one that its name stands for. -/
theorem Row.get?_of_mem {name : String} {v : Json} : ∀ {row : Row}, row.keys.Nodup → (name, v) ∈ row →
    row.get? name = some v
  | (k, w) :: rest, hkeys, hmem => by
    obtain ⟨hnot, hrest⟩ := List.nodup_cons.1 hkeys
    rcases List.mem_cons.1 hmem with heq | hmem
    · cases heq
      exact if_pos rfl
    · have hk : k ≠ name := by
        rintro rfl
        exact hnot (mem_keys_of_mem hmem)
      rw [Row.get?, if_neg hk]
      exact get?_of_mem hrest hmem

theorem Number.same_self (n : Number) : n.same n = true := by cases n <;> simp [Number.same]

namespace Json

mutual
/-- No object in the value has a name twice. -/
def distinctNames : Json → Bool
  | .arr items => distinctItems items
  | .obj members => decide (Row.keys members).Nodup && distinctMembers members
  | _ => true
termination_by structural v => v

def distinctItems : List Json → Bool
  | [] => true
  | v :: rest => distinctNames v && distinctItems rest
termination_by structural items => items

def distinctMembers : List (String × Json) → Bool
  | [] => true
  | (_, v) :: rest => distinctNames v && distinctMembers rest
termination_by structural members => members
end

mutual
theorem same_self : ∀ {v : Json}, v.distinctNames = true → v.same v = true
  | .null, _ => rfl
  | .bool b, _ => beq_self_eq_true b
  | .num n, _ => n.same_self
  | .str text, _ => beq_self_eq_true text
  | .arr items, h => sameItems_self h
  | .obj members, h => by
    obtain ⟨hkeys, hmembers⟩ := Bool.and_eq_true_iff.1 h
    have hself := sameMembers_of_get? (fun m hm => Row.get?_of_mem (of_decide_eq_true hkeys) hm) hmembers
    simp [same, hself]

theorem sameItems_self : ∀ {items : List Json}, distinctItems items = true → sameItems items items = true
  | [], _ => rfl
  | v :: rest, h => by
    obtain ⟨hv, hrest⟩ := Bool.and_eq_true_iff.1 h
    rw [sameItems, same_self hv, sameItems_self hrest]
    rfl

/-- Each member has to be the one that its name stands for in the other object. -/
theorem sameMembers_of_get? {other : Row} : ∀ {members : Row}, (∀ m ∈ members, other.get? m.1 = some m.2) →
    distinctMembers members = true → sameMembers members other = true
  | [], _, _ => rfl
  | (name, v) :: rest, hget, h => by
    obtain ⟨hv, hrest⟩ := Bool.and_eq_true_iff.1 h
    obtain ⟨hfirst, hothers⟩ := List.forall_mem_cons.1 hget
    rw [sameMembers, sameMembers_of_get? hothers hrest, hfirst]
    simp [same_self hv]
end

end Json

/-- **A value equals itself as a cell.** -/
theorem Cell.equal_self {v : Json} (h : v.distinctNames = true) : Cell.equal v v = true := by
  cases v with
  | num n => simp [equal, isNumber, real?, ExtendedDouble.equals, ExtendedDouble.compare?]
  | _ =>
    simp only [equal, isNumber]
    exact Json.same_self h

end RecordService
