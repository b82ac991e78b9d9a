import Mathlib.Data.List.Induction
import RecordService.Proofs.Scope.Rules
import RecordService.Proofs.Store.Confined
/-!
# Insertions — a scope is an ordered map

A scope that functions were inserted into one after the other has each key in the place of its first insertion
(`Scope.keys_ofInsertions`) and with the function of its last one (`Scope.mem_ofInsertions`).  So what it adds to a list of
predicates can be read off the insertions (`Scope.applies_last`).
-/
namespace RecordService.Scope

/-- The functions are inserted one after the other. -/
def ofInsertions (insertions : List (String × ScopeFunction)) : Scope :=
  insertions.foldl (fun s i => s.insert i.1 i.2) none

/-- The function of the last insertion with the key. -/
def lastInserted (key : String) (insertions : List (String × ScopeFunction)) : Option ScopeFunction :=
  (insertions.findRev? fun i => i.1 == key).map Prod.snd

variable (insertions : List (String × ScopeFunction))

theorem ofInsertions_concat (i : String × ScopeFunction) :
    ofInsertions (insertions ++ [i]) = (ofInsertions insertions).insert i.1 i.2 :=
  List.foldl_concat ..

theorem lastInserted_concat (key : String) (i : String × ScopeFunction) :
    lastInserted key (insertions ++ [i]) = if i.1 = key then some i.2 else lastInserted key insertions := by
  unfold lastInserted
  rw [List.findRev?_eq_find?_reverse, List.findRev?_eq_find?_reverse, List.reverse_concat, List.find?_cons]
  by_cases hkey : i.1 = key
  · rw [beq_iff_eq.2 hkey, if_pos hkey]
    rfl
  · rw [beq_eq_false_iff_ne.2 hkey, if_neg hkey]

/-! ## Keys -/

/-- A new key goes to the end, and a known one stays. -/
theorem keys_put (key : String) (f : ScopeFunction) : ∀ fs : List (String × ScopeFunction),
    (put key f fs).map Prod.fst = if key ∈ fs.map Prod.fst then fs.map Prod.fst else fs.map Prod.fst ++ [key]
  | [] => rfl
  | (k, g) :: rest => by
    rw [put]
    by_cases hk : k = key
    · subst hk
      simp
    · rw [if_neg hk, List.map_cons, keys_put key f rest, List.map_cons]
      by_cases hmem : key ∈ rest.map Prod.fst
      · rw [if_pos hmem, if_pos (List.mem_cons_of_mem k hmem)]
      · have hcons : key ∉ k :: rest.map Prod.fst := fun h => (List.mem_cons.1 h).elim (Ne.symm hk) hmem
        rw [if_neg hmem, if_neg hcons]
        rfl

theorem eraseDups_concat (key : String) (keys : List String) :
    (keys ++ [key]).eraseDups = if key ∈ keys.eraseDups then keys.eraseDups else keys.eraseDups ++ [key] := by
  rw [List.eraseDups_append]
  by_cases hmem : key ∈ keys
  · have hnone : [key].removeAll keys = [] := by simp [List.removeAll, hmem]
    rw [hnone, if_pos (List.mem_eraseDups.2 hmem)]
    exact List.append_nil _
  · have hone : [key].removeAll keys = [key] := by simp [List.removeAll, hmem]
    rw [hone, if_neg fun h => hmem (List.mem_eraseDups.1 h)]
    rfl

/-- **Every key once, in the order of the first insertions.** -/
theorem keys_ofInsertions : (ofInsertions insertions).keys = (insertions.map Prod.fst).eraseDups := by
  induction insertions using List.reverseRecOn with
  | nil => rfl
  | append_singleton insertions i ih =>
    rw [ofInsertions_concat, List.map_append, List.map_singleton, eraseDups_concat, ← ih]
    exact keys_put i.1 i.2 _

theorem nodup_keys_ofInsertions : (ofInsertions insertions).keys.Nodup := by
  induction insertions using List.reverseRecOn with
  | nil => exact List.nodup_nil
  | append_singleton insertions i ih =>
    rw [ofInsertions_concat]
    exact nodup_keys_put i.1 i.2 _ ih

/-! ## Functions -/

/-- **Every key has the function of its last insertion.** -/
theorem mem_ofInsertions {key : String} {f : ScopeFunction} :
    (key, f) ∈ (ofInsertions insertions).functions ↔ lastInserted key insertions = some f := by
  induction insertions using List.reverseRecOn with
  | nil => exact ⟨nofun, nofun⟩
  | append_singleton insertions i ih =>
    rw [ofInsertions_concat, lastInserted_concat]
    refine (mem_put i.1 i.2 key f _ (nodup_keys_ofInsertions insertions)).trans ?_
    by_cases hkey : i.1 = key
    · rw [if_pos hkey, if_pos hkey.symm]
      exact ⟨fun h => congrArg some h.symm, fun h => (Option.some.inj h).symm⟩
    · rw [if_neg hkey, if_neg (Ne.symm hkey), ih]

theorem restrictions_ofInsertions (values : Option Row) (actor : Option Json) :
    (ofInsertions insertions).restrictions values actor = (ofInsertions insertions).keys.filterMap fun key =>
      (lastInserted key insertions).bind fun f => f (values.bind (Row.get? · key)) actor := by
  rw [keys, List.filterMap_map, restrictions]
  refine List.filterMap_congr fun i hmem => ?_
  show _ = (lastInserted i.1 insertions).bind _
  rw [(mem_ofInsertions insertions).1 hmem]
  rfl

/-- What a scope adds never lets more rows through. -/
theorem narrows_apply (s : Scope) (predicates : List Predicate) (values : Option Row) (actor : Option Json) :
    Narrows (s.apply predicates values actor) predicates :=
  .of_subset fun _ hp => List.mem_append_left _ hp

/-- **A scope is an ordered map of which every function is applied.**  However functions were inserted, its keys are the
inserted ones, each once and in the order of their first insertion.  Applied, it leaves the predicates before it as they
are, and behind them puts for each key, in this order, what the function inserted last for it makes of the value for the key
and of the actor, or nothing where that makes none; and no row satisfies them all that did not satisfy those before. -/
theorem applies_last (predicates : List Predicate) (values : Option Row) (actor : Option Json) :
    (ofInsertions insertions).keys = (insertions.map Prod.fst).eraseDups ∧
      (ofInsertions insertions).apply predicates values actor =
        predicates ++ (insertions.map Prod.fst).eraseDups.filterMap (fun key =>
          (lastInserted key insertions).bind fun f => f (values.bind (Row.get? · key)) actor) ∧
      ∀ row : Row, row.satisfies ((ofInsertions insertions).apply predicates values actor) = true →
        row.satisfies predicates = true := by
  refine ⟨keys_ofInsertions insertions, ?_, narrows_apply _ predicates values actor⟩
  rw [apply, restrictions_ofInsertions, keys_ofInsertions]

end RecordService.Scope
