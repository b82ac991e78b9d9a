import RecordService.Config.Encode
import RecordService.Json.Decode
import RecordService.Proofs.Basic
/-!
# Decoders — what they read, and what they make of what was written

`Decoder.Yields` says of a decoder what holds of everything it reads.  A record that is built field by field keeps what
every field keeps (`Yields.record`).  A value is read back when its decoder makes the value of what was written of it;
for lists and the like it is enough that the elements at hand are.
-/
namespace RecordService
namespace Decoder

variable {α σ : Type}

/-! ## What is read -/

def Yields (d : Decoder α) (P : α → Prop) : Prop := ∀ v a, d v = .ok a → P a

theorem natural_yields (limit : Nat) : (natural limit).Yields (· ≤ limit) := by
  intro v n h
  unfold natural at h
  split at h
  · split at h
    · rename_i hi
      cases h
      rw [Bool.and_eq_true, decide_eq_true_eq, decide_eq_true_eq] at hi
      omega
    · cases h
  · cases h

theorem Yields.optional {d : Decoder α} {P : α → Prop} (hd : d.Yields P) :
    (optional d).Yields fun o => ∀ a ∈ o, P a := by
  intro v o h a ha
  unfold Decoder.optional at h
  split at h
  · cases h
    cases ha
  · cases hv : d v with
    | error e => rw [hv] at h; cases h
    | ok b =>
      rw [hv] at h
      cases h
      cases ha
      exact hd v a hv

theorem Yields.list {d : Decoder α} {P : α → Prop} (hd : d.Yields P) : (list d).Yields fun l => ∀ a ∈ l, P a := by
  intro v l h a ha
  unfold Decoder.list at h
  split at h
  · obtain ⟨w, -, hw⟩ := mem_of_mapM_ok h ha
    exact hd w a hw
  · cases h

theorem Yields.table {d : Decoder α} {P : α → Prop} (hd : d.Yields P) :
    (table d).Yields fun l => ∀ m ∈ l, P m.2 := by
  intro v l h m hm
  unfold Decoder.table at h
  split at h
  · obtain ⟨⟨name, w⟩, -, hw⟩ := mem_of_mapM_ok h hm
    cases hv : d w with
    | error e => rw [hv] at hw; cases hw
    | ok a =>
      rw [hv] at hw
      cases hw
      exact hd w a hv
  · cases h

/-! ### Records -/

/-- Whatever the field reads, the record keeps the property. -/
def Field.Keeps (f : Field σ) (P : σ → Prop) : Prop := ∀ v r r', f.read v r = .ok r' → P r → P r'

theorem Field.Keeps.of {name : String} {d : Decoder α} {assign : σ → α → σ} {P : σ → Prop} {Q : α → Prop}
    (hd : d.Yields Q) (h : ∀ r a, P r → Q a → P (assign r a)) : (Field.of name d assign).Keeps P := by
  intro v r r' hread hr
  cases hv : d v with
  | error e =>
    rw [show (Field.of name d assign).read v r = (d v).map (assign r) from rfl, hv] at hread
    cases hread
  | ok a =>
    rw [show (Field.of name d assign).read v r = (d v).map (assign r) from rfl, hv] at hread
    cases hread
    exact h r a hr (hd v a hv)

/-- A field that the property is not about. -/
theorem Field.Keeps.of_assign {name : String} {d : Decoder α} {assign : σ → α → σ} {P : σ → Prop}
    (h : ∀ r a, P r → P (assign r a)) : (Field.of name d assign).Keeps P :=
  of (Q := fun _ => True) (fun _ _ _ => trivial) fun r a hr _ => h r a hr

variable {fields : List (Field σ)} {P : σ → Prop}

theorem mem_of_findField {f : Field σ} {name : String} : ∀ {fields : List (Field σ)},
    findField fields name = some f → f ∈ fields
  | g :: rest, h => by
    unfold findField at h
    split at h
    · cases h
      exact List.mem_cons_self
    · exact List.mem_cons_of_mem g (mem_of_findField h)

theorem visitMembers_keeps (hfields : ∀ f ∈ fields, f.Keeps P) : ∀ {members : Row} {r r' : σ},
    visitMembers fields members r = .ok r' → P r → P r'
  | [], _, _, h, hr => by
    cases h
    exact hr
  | (name, v) :: rest, r, r', h, hr => by
    unfold visitMembers at h
    split at h
    · rename_i f hf
      obtain ⟨next, hnext, h⟩ := ok_of_bind h
      exact visitMembers_keeps hfields h (hfields f (mem_of_findField hf) v r next hnext hr)
    · exact visitMembers_keeps hfields h hr

theorem visitItems_keeps : ∀ {fields : List (Field σ)} {items : List Json} {r r' : σ}, (∀ f ∈ fields, f.Keeps P) →
    visitItems fields items r = .ok r' → P r → P r'
  | [], [], _, _, _, h, hr => by
    cases h
    exact hr
  | _ :: _, [], _, _, _, h, hr => by
    cases h
    exact hr
  | [], _ :: _, _, _, _, h, _ => by cases h
  | f :: fields, v :: rest, r, r', hfields, h, hr => by
    obtain ⟨hf, hothers⟩ := List.forall_mem_cons.1 hfields
    obtain ⟨next, hnext, h⟩ := ok_of_bind h
    exact visitItems_keeps hothers h (hf v r next hnext hr)

theorem of_record {required : List String} {start r : σ} : ∀ {v : Json}, record fields required start v = .ok r →
    (∃ members, visitMembers fields members start = .ok r) ∨ ∃ items, visitItems fields items start = .ok r
  | .obj members, h => by
    obtain ⟨done, hdone, h⟩ := ok_of_bind h
    split at h
    · cases h
      exact .inl ⟨members, hdone⟩
    · cases h
  | .arr items, h => by
    obtain ⟨done, hdone, h⟩ := ok_of_bind h
    split at h
    · cases h
      exact .inr ⟨items, hdone⟩
    · cases h
  | .null, h => by cases h
  | .bool _, h => by cases h
  | .num _, h => by cases h
  | .str _, h => by cases h

/-- **A record has what it starts with and every field keeps.** -/
theorem Yields.record {required : List String} {start : σ} (hstart : P start) (hfields : ∀ f ∈ fields, f.Keeps P) :
    (record fields required start).Yields P := by
  intro v r h
  obtain ⟨members, h⟩ | ⟨items, h⟩ := of_record h
  · exact visitMembers_keeps hfields h hstart
  · exact visitItems_keeps hfields h hstart

/-! ## What is read back -/

@[simp] theorem string_str (s : String) : string (.str s) = .ok s := rfl

@[simp] theorem bool_bool (b : Bool) : bool (.bool b) = .ok b := rfl

@[simp] theorem any_eq (v : Json) : any v = .ok v := rfl

@[simp] theorem double_ofDouble (d : Double) : double (Json.ofDouble d) = .ok d := rfl

@[simp] theorem object_obj (members : Row) : object (.obj members) = .ok members := rfl

theorem natural_ofNat {limit n : Nat} (h : n ≤ limit) : natural limit (Json.ofNat n) = .ok n := by
  simp [natural, Json.ofNat, h]

theorem optional_of_ne_null (d : Decoder α) {v : Json} (hv : v.isNull = false) : optional d v = (d v).map some := by
  cases v with
  | null => cases hv
  | _ => rfl

/-- Only an absent value is written as null. -/
theorem optional_ofOption {d : Decoder α} {write : α → Json} (hnull : ∀ a, (write a).isNull = false) {o : Option α}
    (h : ∀ a ∈ o, d (write a) = .ok a) : optional d (Json.ofOption write o) = .ok o := by
  cases o with
  | none => rfl
  | some a =>
    rw [Json.ofOption, optional_of_ne_null d (hnull a), h a rfl]
    rfl

theorem optional_ofNat {limit : Nat} {o : Option Nat} (h : ∀ n ∈ o, n ≤ limit) :
    optional (natural limit) (Json.ofOption Json.ofNat o) = .ok o :=
  optional_ofOption (fun _ => rfl) fun n hn => natural_ofNat (h n hn)

@[simp] theorem optional_str (o : Option String) : optional string (Json.ofOption .str o) = .ok o :=
  optional_ofOption (fun _ => rfl) fun s _ => string_str s

theorem list_map {d : Decoder α} {write : α → Json} {l : List α} (h : ∀ a ∈ l, d (write a) = .ok a) :
    list d (.arr (l.map write)) = .ok l := by
  rw [list, List.mapM_map]
  exact (mapM_ok_of_forall (g := id) h).trans (congrArg Except.ok (List.map_id l))

@[simp] theorem list_any (vs : List Json) : list any (.arr vs) = .ok vs :=
  (mapM_ok_of_forall (g := id) fun _ _ => rfl).trans (congrArg Except.ok (List.map_id vs))

theorem table_map {d : Decoder α} {write : α → Json} {l : List (String × α)}
    (h : ∀ m ∈ l, d (write m.2) = .ok m.2) : table d (.obj (l.map fun m => (m.1, write m.2))) = .ok l := by
  rw [table, List.mapM_map]
  refine (mapM_ok_of_forall (g := id) fun m hm => ?_).trans (congrArg Except.ok (List.map_id l))
  show (d (write m.2)).map (m.1, ·) = _
  rw [h m hm]
  rfl

/-! ### Records

A record that is written as an object, with one member for each field and in their order, is read as if it were written
by position. -/

theorem findField_of_mem {f : Field σ} : ∀ {fields : List (Field σ)}, (fields.map (·.name)).Nodup → f ∈ fields →
    findField fields f.name = some f
  | g :: rest, hnames, hmem => by
    obtain ⟨hnot, hrest⟩ := List.nodup_cons.1 hnames
    rcases List.mem_cons.1 hmem with rfl | hmem
    · exact if_pos rfl
    · have hother : g.name ≠ f.name := fun h => hnot (List.mem_map.2 ⟨f, hmem, h.symm⟩)
      rw [findField, if_neg hother]
      exact findField_of_mem hrest hmem

/-- The induction is on the members that are left, the fields of which are still found among all of them. -/
theorem visitMembers_of_found : ∀ {rest : List (Field σ)} {members : Row} (r : σ),
    (∀ f ∈ rest, findField fields f.name = some f) → members.keys = rest.map (·.name) →
      visitMembers fields members r = visitItems rest (members.map Prod.snd) r
  | [], [], _, _, _ => rfl
  | _ :: _, [], _, _, hkeys => by cases hkeys
  | [], _ :: _, _, _, hkeys => by cases hkeys
  | f :: rest, (name, v) :: members, r, hfound, hkeys => by
    obtain ⟨hf, hrest⟩ := List.forall_mem_cons.1 hfound
    obtain ⟨rfl, hothers⟩ := List.cons.inj hkeys
    have hnext : visitMembers fields members = visitItems rest (members.map Prod.snd) :=
      funext fun next => visitMembers_of_found next hrest hothers
    rw [visitMembers, hf, hnext]
    rfl

theorem visitMembers_inOrder {members : Row} (r : σ) (hkeys : members.keys = fields.map (·.name))
    (hnames : (fields.map (·.name)).Nodup) :
    visitMembers fields members r = visitItems fields (members.map Prod.snd) r :=
  visitMembers_of_found r (fun _ hf => findField_of_mem hnames hf) hkeys

theorem record_inOrder {required : List String} {start : σ} {members : Row} (hkeys : members.keys = fields.map (·.name))
    (hnames : (fields.map (·.name)).Nodup) (hrequired : mentions fields required (.obj members) = true) :
    record fields required start (.obj members) = visitItems fields (members.map Prod.snd) start := by
  unfold record
  simp only [visitMembers_inOrder start hkeys hnames, hrequired, if_true]
  cases visitItems fields (members.map Prod.snd) start <;> rfl

theorem visitItems_of (name : String) (d : Decoder α) (assign : σ → α → σ) (fields : List (Field σ)) (v : Json)
    (values : List Json) (r : σ) : visitItems (.of name d assign :: fields) (v :: values) r =
      d v >>= fun a => visitItems fields values (assign r a) := by
  show (d v).map (assign r) >>= visitItems fields values = _
  cases d v <;> rfl

end Decoder
end RecordService
