import RecordService.Query.Scope
/-!
# Declared rules — which of them a scope holds

A scope has one function for a key.  Of several rules with one key it is the last that counts
(`mem_ofRules`): it alone decides what a value for the key restricts, and what comes of a missing one
(`mem_restrictions_ofRules`).
-/
namespace RecordService

/-- The last rule with the key. -/
def ScopeRule.lastFor (key : String) : List ScopeRule → Option ScopeRule
  | [] => none
  | r :: rest => (lastFor key rest).or (if r.key = key then some r else none)

namespace ScopeRule

theorem of_lastFor {key : String} {last : ScopeRule} : ∀ {rules : List ScopeRule}, lastFor key rules = some last →
    last ∈ rules ∧ last.key = key
  | r :: rest, h => by
    unfold lastFor at h
    cases hrest : lastFor key rest with
    | some r' =>
      rw [hrest] at h
      cases h
      obtain ⟨hmem, hkey⟩ := of_lastFor hrest
      exact ⟨List.mem_cons_of_mem r hmem, hkey⟩
    | none =>
      rw [hrest, Option.none_or] at h
      split at h
      · rename_i hkey
        cases h
        exact ⟨List.mem_cons_self, hkey⟩
      · cases h

theorem exists_lastFor {r : ScopeRule} : ∀ {rules : List ScopeRule}, r ∈ rules → ∃ last, lastFor r.key rules = some last
  | q :: rest, h => by
    unfold lastFor
    cases hrest : lastFor r.key rest with
    | some last => exact ⟨last, rfl⟩
    | none =>
      rcases List.mem_cons.1 h with rfl | hmem
      · exact ⟨r, by simp⟩
      · obtain ⟨last, hlast⟩ := exists_lastFor hmem
        rw [hlast] at hrest
        cases hrest

end ScopeRule

namespace Scope

/-! ## Functions by key -/

theorem mem_keys_put (key : String) (f : ScopeFunction) (k : String) : ∀ fs : List (String × ScopeFunction),
    k ∈ (put key f fs).map Prod.fst ↔ k = key ∨ k ∈ fs.map Prod.fst
  | [] => by simp [put]
  | (k', g) :: rest => by
    unfold put
    by_cases hk : k' = key
    · subst hk
      simp
    · have ih := mem_keys_put key f k rest
      rw [if_neg hk, List.map_cons, List.map_cons, List.mem_cons, List.mem_cons, ih]
      exact or_left_comm

theorem nodup_keys_put (key : String) (f : ScopeFunction) : ∀ fs : List (String × ScopeFunction),
    (fs.map Prod.fst).Nodup → ((put key f fs).map Prod.fst).Nodup
  | [], _ => by simp [put]
  | (k', g) :: rest, h => by
    unfold put
    by_cases hk : k' = key
    · subst hk
      rw [if_pos rfl]
      exact h
    · rw [if_neg hk]
      obtain ⟨hnot, hrest⟩ := List.nodup_cons.1 h
      refine List.nodup_cons.2 ⟨fun hmem => ?_, nodup_keys_put key f rest hrest⟩
      exact ((mem_keys_put key f k' rest).1 hmem).elim hk hnot

/-- A function that is put under a key is the only one there, and the others stay. -/
theorem mem_put (key : String) (f : ScopeFunction) (k : String) (g : ScopeFunction) :
    ∀ fs : List (String × ScopeFunction), (fs.map Prod.fst).Nodup →
      ((k, g) ∈ put key f fs ↔ if k = key then g = f else (k, g) ∈ fs)
  | [], _ => by
    by_cases hk : k = key <;> simp [put, hk]
  | (k', g') :: rest, h => by
    obtain ⟨hnot, hrest⟩ := List.nodup_cons.1 h
    unfold put
    by_cases hk' : k' = key
    · subst hk'
      by_cases hk : k = k'
      · subst hk
        have hout : (k, g) ∉ rest := fun hmem => hnot (List.mem_map.2 ⟨(k, g), hmem, rfl⟩)
        simp [hout]
      · simp [hk]
    · have ih := mem_put key f k g rest hrest
      rw [if_neg hk', List.mem_cons, ih]
      by_cases hk : k = key
      · subst hk
        simp [Ne.symm hk']
      · simp [hk]

/-! ## Functions of rules -/

def insertRule (s : Scope) (r : ScopeRule) : Scope := s.insert r.key (columnEquals r.column r.required)

theorem mem_foldl_insertRule (k : String) (f : ScopeFunction) : ∀ (rules : List ScopeRule) (s : Scope), s.keys.Nodup →
    ((k, f) ∈ (rules.foldl insertRule s).functions ↔
      match ScopeRule.lastFor k rules with
      | some last => f = columnEquals last.column last.required
      | .none => (k, f) ∈ s.functions)
  | [], _, _ => Iff.rfl
  | r :: rest, s, h => by
    have hkeys : (s.insertRule r).keys.Nodup := nodup_keys_put _ _ _ h
    rw [List.foldl_cons, mem_foldl_insertRule k f rest (s.insertRule r) hkeys, ScopeRule.lastFor]
    cases ScopeRule.lastFor k rest with
    | some last => exact Iff.rfl
    | none =>
      rw [Option.none_or]
      refine (mem_put r.key _ k f s.functions h).trans ?_
      by_cases hk : r.key = k
      · rw [if_pos hk, if_pos hk.symm]
      · rw [if_neg hk, if_neg (Ne.symm hk)]

/-- **The scope of declared rules has, for each key, the function of the last rule with it.** -/
theorem mem_ofRules {k : String} {f : ScopeFunction} {rules : List ScopeRule} :
    (k, f) ∈ (ofRules rules).functions ↔
      ∃ last, ScopeRule.lastFor k rules = some last ∧ f = columnEquals last.column last.required := by
  have h := mem_foldl_insertRule k f rules none List.nodup_nil
  refine Iff.trans h ?_
  cases ScopeRule.lastFor k rules with
  | some last => simp
  | none => simp [Scope.none]

theorem mem_restrictions {s : Scope} {values : Option Row} {actor : Option Json} {q : Predicate} :
    q ∈ s.restrictions values actor ↔ ∃ k f, (k, f) ∈ s.functions ∧ f (values.bind (Row.get? · k)) actor = some q := by
  simp [restrictions]

/-- **What a caller's values restrict**: each key, by the last rule with it. -/
theorem mem_restrictions_ofRules {rules : List ScopeRule} {values : Option Row} {actor : Option Json} {q : Predicate} :
    q ∈ (ofRules rules).restrictions values actor ↔
      ∃ k last, ScopeRule.lastFor k rules = some last ∧
        columnEquals last.column last.required (values.bind (Row.get? · k)) actor = some q := by
  rw [mem_restrictions]
  constructor
  · rintro ⟨k, f, hf, hq⟩
    obtain ⟨last, hlast, rfl⟩ := mem_ofRules.1 hf
    exact ⟨k, last, hlast, hq⟩
  · rintro ⟨k, last, hlast, hq⟩
    exact ⟨k, _, mem_ofRules.2 ⟨last, hlast, rfl⟩, hq⟩

end Scope

end RecordService
