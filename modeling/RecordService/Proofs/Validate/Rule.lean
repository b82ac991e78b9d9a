import RecordService.Proofs.Record.Creation
/-!
# Rules — what they ask of a value, and what an accepted payload has of it

A rule finds nothing wrong with a value exactly when the value satisfies it, point by point (`Rule.faults_eq_nil_iff`).
Of a payload that was accepted, the values that are kept satisfy the rules of their columns (`satisfied_of_kept`).  A
whole record has a value for every column that needs one and for every rule that requires one; changes only promise
that what may not be null is not made so (`of_kept`).
-/
namespace RecordService

@[simp] theorem complaint_eq_nil_iff {wrong : Bool} {message : String} :
    complaint wrong message = [] ↔ wrong = false := by
  cases wrong <;> simp [complaint]

/-! ## One rule -/

namespace Rule

/-- What a rule asks of a text.  Lengths are in characters, and a pattern may fit any part. -/
structure SatisfiedByText (r : Rule) (s : String) : Prop where
  email : ∀ format, r.format = some format → Text.lowerAscii format = "email" → isEmail s = true
  uuid : ∀ format, r.format = some format → Text.lowerAscii format = "uuid" → (Uuid.parse s).isSome = true
  maxLength : ∀ n, r.maxLength = some n → s.length ≤ n
  minLength : ∀ n, r.minLength = some n → n ≤ s.length
  pattern : ∀ p, r.pattern = some p → ∃ regex, Regex.read p = some regex ∧ regex.isMatch s = true

/-- **The value satisfies the rule**: bounds are about numbers, and the allowed values about all values. -/
structure Satisfied (r : Rule) (v : Json) : Prop where
  text : ∀ s, v = .str s → r.SatisfiedByText s
  allowed : ∀ values, r.allowed = some values → ∃ a ∈ values, v.equals a = true
  minimum : ∀ n, v = .num n → ∀ m, r.minimum = some m → m.toInt ≤ n.toDouble.toInt
  maximum : ∀ n, v = .num n → ∀ m, r.maximum = some m → n.toDouble.toInt ≤ m.toInt

end Rule

@[simp] theorem formatFaults_eq_nil_iff {format s : String} : formatFaults format s = [] ↔
    (Text.lowerAscii format = "email" → isEmail s = true) ∧
      (Text.lowerAscii format = "uuid" → (Uuid.parse s).isSome = true) := by
  unfold formatFaults
  split
  · rename_i hformat
    simp [hformat]
  · rename_i hformat
    simp [hformat]
  · rename_i hemail huuid
    exact ⟨fun _ => ⟨fun h => (hemail h).elim, fun h => (huuid h).elim⟩, fun _ => rfl⟩

@[simp] theorem patternFaults_eq_nil_iff {pattern s : String} : patternFaults pattern s = [] ↔
    ∃ regex, Regex.read pattern = some regex ∧ regex.isMatch s = true := by
  unfold patternFaults
  cases Regex.read pattern <;> simp

@[simp] theorem allowedFaults_eq_nil_iff {values : List Json} {v : Json} :
    allowedFaults values v = [] ↔ ∃ a ∈ values, v.equals a = true := by
  simp [allowedFaults]

@[simp] theorem elim_eq_nil_iff {α β : Type} {o : Option α} {f : α → List β} :
    o.elim [] f = [] ↔ ∀ a, o = some a → f a = [] := by
  cases o <;> simp

namespace Rule

variable {r : Rule}

theorem textFaults_eq_nil_iff {s : String} :
    r.format.elim [] (formatFaults · s) ++ r.lengthFaults s ++ r.pattern.elim [] (patternFaults · s) = [] ↔
      r.SatisfiedByText s := by
  simp only [lengthFaults, List.append_eq_nil_iff, elim_eq_nil_iff, formatFaults_eq_nil_iff, patternFaults_eq_nil_iff,
    complaint_eq_nil_iff, decide_eq_false_iff_not, Nat.not_lt]
  constructor
  · rintro ⟨⟨hformat, hmax, hmin⟩, hpattern⟩
    exact ⟨fun f hf => (hformat f hf).1, fun f hf => (hformat f hf).2, hmax, hmin, hpattern⟩
  · intro h
    exact ⟨⟨fun f hf => ⟨h.email f hf, h.uuid f hf⟩, h.maxLength, h.minLength⟩, h.pattern⟩

theorem boundFaults_eq_nil_iff {d : Double} : r.boundFaults d = [] ↔
    (∀ m, r.minimum = some m → m.toInt ≤ d.toInt) ∧ ∀ m, r.maximum = some m → d.toInt ≤ m.toInt := by
  simp only [boundFaults, List.append_eq_nil_iff, elim_eq_nil_iff, complaint_eq_nil_iff, decide_eq_false_iff_not,
    Int.not_lt]

/-- **A rule finds nothing wrong with a value exactly when the value satisfies it.** -/
theorem faults_eq_nil_iff {v : Json} (hv : v.isNull = false) : r.faults v = [] ↔ r.Satisfied v := by
  have htext : ∀ s, v.string? = some s ↔ v = .str s := by cases v <;> simp [Json.string?]
  have hnumber : ∀ n, v.number? = some n ↔ v = .num n := by cases v <;> simp [Json.number?]
  unfold faults
  rw [hv, if_neg Bool.false_ne_true, List.append_eq_nil_iff, List.append_eq_nil_iff]
  simp only [elim_eq_nil_iff, textFaults_eq_nil_iff, boundFaults_eq_nil_iff, allowedFaults_eq_nil_iff, htext, hnumber]
  constructor
  · rintro ⟨⟨hs, hallowed⟩, hbounds⟩
    exact ⟨hs, hallowed, fun n hn => (hbounds n hn).1, fun n hn => (hbounds n hn).2⟩
  · intro h
    exact ⟨⟨h.text, h.allowed⟩, fun n hn => ⟨h.minimum n hn, h.maximum n hn⟩⟩

end Rule

/-! ## A payload that was accepted -/

namespace Entity

variable {e : Entity} {payload : Payload} {body : Row} {name : String} {v : Json}

/-- Besides the identifier, a value is kept as it is. -/
theorem of_kept (hissues : e.recordIssues payload body = []) (hname : name ≠ e.idField)
    (hv : (e.keptMembers payload body).get? name = some v) :
    body.get? name = some v ∧ ∃ c, e.column? name = some c ∧ (v.isNull = true → c.nullable = true) := by
  rw [get?_keptMembers name (memberIssues_of_recordIssues hissues)] at hv
  obtain ⟨w, hw, hkept⟩ := Option.bind_eq_some_iff.1 hv
  unfold judge at hkept
  cases hcolumn : e.column? name with
  | none =>
    rw [hcolumn] at hkept
    cases hkept
  | some c =>
    rw [hcolumn] at hkept
    simp only [if_neg hname] at hkept
    split at hkept
    · cases hkept
    · rename_i hnull
      cases hkept
      exact ⟨hw, c, rfl, by simpa using hnull⟩

/-- What is given for a column is kept. -/
theorem kept_of_given (hissues : e.recordIssues payload body = []) (hname : name ≠ e.idField)
    (hcolumn : e.hasColumn name = true) (hv : body.get? name = some v) :
    (e.keptMembers payload body).get? name = some v := by
  have hmembers := memberIssues_of_recordIssues hissues
  have hrefusal := refusal_of_memberIssues hmembers hv
  obtain ⟨c, hc⟩ := Option.isSome_iff_exists.1 hcolumn
  rw [get?_keptMembers name hmembers, hv, Option.bind_some]
  unfold judge at hrefusal ⊢
  simp only [hc, if_neg hname] at hrefusal ⊢
  split
  · rename_i hrefused
    rw [if_pos hrefused] at hrefusal
    cases hrefusal
  · rfl

theorem ruleIssues_eq_nil {r : Rule} (hissues : e.recordIssues payload body = []) (hr : (name, r) ∈ e.rules) :
    lacks payload r ((e.keptMembers payload body).get? name) = false ∧
      ∀ v, (e.keptMembers payload body).get? name = some v → r.faults v = [] := by
  unfold recordIssues at hissues
  obtain ⟨hfound, hrules⟩ := List.append_eq_nil_iff.1 hissues
  have hrule : ruleIssues payload (e.keptMembers payload body) _ name r = [] :=
    List.flatMap_eq_nil_iff.1 hrules (name, r) hr
  rw [hfound] at hrule
  unfold ruleIssues at hrule
  split at hrule
  · simp at hrule
  · rename_i hlacks
    rw [elim_eq_nil_iff] at hrule
    exact ⟨Bool.eq_false_iff.2 hlacks, fun v hv => List.map_eq_nil_iff.1 (hrule v hv)⟩

/-- **What is kept satisfies the rules.** -/
theorem satisfied_of_kept {r : Rule} (hissues : e.recordIssues payload body = []) (hr : (name, r) ∈ e.rules)
    (hv : (e.keptMembers payload body).get? name = some v) (hnull : v.isNull = false) : r.Satisfied v :=
  (Rule.faults_eq_nil_iff hnull).1 ((ruleIssues_eq_nil hissues hr).2 v hv)

/-- A record has a value wherever a rule requires one. -/
theorem present_of_required {r : Rule} (hissues : e.recordIssues .record body = []) (hr : (name, r) ∈ e.rules)
    (hrequired : r.required = some true) :
    ∃ v, (e.keptMembers .record body).get? name = some v ∧ v.isNull = false := by
  have hlacks := (ruleIssues_eq_nil hissues hr).1
  unfold lacks at hlacks
  rw [hrequired] at hlacks
  cases hv : (e.keptMembers .record body).get? name with
  | none =>
    rw [hv] at hlacks
    cases hlacks
  | some v =>
    rw [hv] at hlacks
    exact ⟨v, rfl, by simpa using hlacks⟩

/-- A record has a value for every column that needs one. -/
theorem present_of_needed {c : Column} (hissues : e.recordIssues .record body = []) (hc : c ∈ e.columns)
    (hneeds : e.needs c = true) : ∃ v, (e.keptMembers .record body).get? c.name = some v := by
  unfold recordIssues at hissues
  have hmissing := (List.append_eq_nil_iff.1 (List.append_eq_nil_iff.1 hissues).1).2
  unfold missingIssues at hmissing
  have hhas := List.filter_eq_nil_iff.1 (List.map_eq_nil_iff.1 hmissing) c hc
  rw [hneeds, Bool.true_and, Bool.not_eq_true', Bool.not_eq_false] at hhas
  exact Option.isSome_iff_exists.1 hhas

end Entity
end RecordService
