import RecordService.Proofs.Json.Decode
import RecordService.Proofs.Record.Lookup
import RecordService.Proofs.Scope.View
/-!
# List parameters written and read again

The standard validator sees the parameters of a list as they are written.  With numbers of 64 bits they are read back
as they were (`ListParams.ofJson_encode`), so that to validate them changes nothing, and refuses no more than a page or
a size of zero (`Pipeline.paramsFor_plain`).
-/
namespace RecordService

open Decoder

theorem SortDirection.choice_name (d : SortDirection) : choice words (.str d.name) = .ok d := by
  cases d <;> rfl

theorem OrderBy.decode_encode (o : OrderBy) : decode o.encode = .ok o := by
  rw [decode, encode, record_inOrder rfl (by decide) rfl]
  simp only [fields, List.map_cons, visitItems_of, string_str, SortDirection.choice_name, ok_bind]
  rfl

namespace ListParams

/-- The numbers have 64 bits. -/
structure InRange (p : ListParams) : Prop where
  page : ∀ n ∈ p.page, n ≤ 18446744073709551615
  perPage : ∀ n ∈ p.perPage, n ≤ 18446744073709551615

/-- A member that is left out reads as the absence of a value, when that is what the record has so far. -/
theorem visitMembers_member {α σ : Type} {fields : List (Decoder.Field σ)} {name : String} {d : Decoder α}
    (assign : σ → Option α → σ) (hfield : findField fields name = some (.of name (.optional d) assign))
    {write : α → Json} (hnull : ∀ a, (write a).isNull = false) {value : Option α}
    (hread : ∀ a ∈ value, d (write a) = .ok a) {r : σ} (hr : assign r none = r) :
    visitMembers fields (member name write value) r = .ok (assign r value) := by
  cases value with
  | none => exact congrArg Except.ok hr.symm
  | some a =>
    rw [member, visitMembers, hfield]
    show (optional d (write a)).map (assign r) >>= visitMembers fields [] = _
    rw [optional_of_ne_null d (hnull a), hread a rfl]
    rfl

/-- An order of no columns is left out. -/
theorem visitMembers_orderBy (orderBy : List OrderBy) {r : ListParams} (hr : r.orderBy = []) :
    visitMembers fields (if orderBy.isEmpty then [] else [("orderBy", .arr (orderBy.map OrderBy.encode))]) r =
      .ok { r with orderBy } := by
  cases orderBy with
  | nil => exact congrArg Except.ok (by rw [← hr])
  | cons o rest =>
    show (list OrderBy.decode (.arr ((o :: rest).map OrderBy.encode))).map (fun v => { r with orderBy := v }) >>=
      .ok = _
    rw [list_map fun o _ => OrderBy.decode_encode o]
    rfl

theorem decode_encode {p : ListParams} (h : p.InRange) : decode p.encode = .ok p := by
  have hpage : visitMembers fields (member "page" Json.ofNat p.page) standard =
      .ok ⟨p.page, none, none, none, [], false⟩ :=
    visitMembers_member (fun (r : ListParams) v => { r with page := v }) rfl (fun _ => rfl)
      (fun n hn => natural_ofNat (h.page n hn)) rfl
  have hperPage : visitMembers fields (member "perPage" Json.ofNat p.perPage) ⟨p.page, none, none, none, [], false⟩ =
      .ok ⟨p.page, p.perPage, none, none, [], false⟩ :=
    visitMembers_member (fun (r : ListParams) v => { r with perPage := v }) rfl (fun _ => rfl)
      (fun n hn => natural_ofNat (h.perPage n hn)) rfl
  have hsearch : visitMembers fields (member "search" .str p.search) ⟨p.page, p.perPage, none, none, [], false⟩ =
      .ok ⟨p.page, p.perPage, p.search, none, [], false⟩ :=
    visitMembers_member (fun (r : ListParams) v => { r with search := v }) rfl (fun _ => rfl)
      (fun s _ => string_str s) rfl
  have hfilters : visitMembers fields (member "filters" .obj p.filters) ⟨p.page, p.perPage, p.search, none, [], false⟩ =
      .ok ⟨p.page, p.perPage, p.search, p.filters, [], false⟩ :=
    visitMembers_member (fun (r : ListParams) v => { r with filters := v }) rfl (fun _ => rfl)
      (fun f _ => object_obj f) rfl
  rw [decode, encode, record]
  simp only [visitMembers_append, hpage, hperPage, hsearch, hfilters, visitMembers_orderBy, ok_bind]
  rfl

theorem ofJson_encode {p : ListParams} (h : p.InRange) : ofJson p.encode = .ok p := by
  rw [ofJson, decode_encode h]

end ListParams

/-- **Parameters are taken as they are**, unless they are to be validated and have a zero in them. -/
theorem Pipeline.paramsFor_plain (e : Entity) (scope : Scope) {params : ListParams} (h : params.InRange)
    (ctx : Context) :
    (plain e scope).paramsFor .none params ctx =
      if ctx.skipValidation then .ok params else (ServiceError.ofIssues params.issues).map fun _ => params := by
  have hread : ListParams.read params.encode = .ok params := ListParams.ofJson_encode h
  unfold paramsFor
  rw [Hooks.admits_none]
  cases ctx.skipValidation with
  | true => rfl
  | false =>
    show ListParams.validator params.encode >>= ListParams.ofJson = _
    rw [ListParams.validator, hread, ok_bind]
    cases ServiceError.ofIssues params.issues with
    | error e => rfl
    | ok _ => exact ListParams.ofJson_encode h

end RecordService
