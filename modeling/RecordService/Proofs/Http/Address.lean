import RecordService.Http.Service
import RecordService.Proofs.Config.WellFormed
import RecordService.Proofs.Http.Path
import RecordService.Proofs.Record.ReadBack
/-!
# Addresses — getting a record by its path

To get the path of a record is to ask for the record with the text that is sent for the identifier.  This text is read as
what it is the text of, so a record that is found by an identifier is got under the path of this identifier.  Only where
the word `bulk` is sent, the path is that of the endpoint for lists of records, of which there is nothing to get
(`serve_record_iff`).
-/
namespace RecordService

namespace Pipeline

variable {e : Entity} {o o' : Occasion} {id id' : Json} {row : Row} {t : MemoryStore}

/-! ## Asking by the text of an identifier -/

/-- No record is found by null, which is no condition. -/
theorem lookup_null_refused (hcolumn : e.hasColumn e.idField = true) (hskip : o.context.skipValidation = false)
    (t : MemoryStore) : ∃ error, ((Pipeline.of e).runOn o (lookup e .null false) t).1 = .error error := by
  have hjudge : e.judgeCondition e.idField .null = .keep .null := by
    simp [Entity.judgeCondition, hcolumn, Json.isNull]
  have hvalidated : Hooks.none.validated .findOne (.obj [(e.idField, .null)]) o.context
      (Pipeline.of e).validators.conditions = .ok (.obj [(e.idField, .null)]) := by
    rw [Hooks.validated_none, hskip]
    exact Entity.conditionValidator_of_keep hjudge
  have hplan : (Pipeline.of e).plan o (lookup e .null false) =
      .error (.usage ("findOne on " ++ e.name ++ " requires at least one condition")) := by
    show Intended.findOne (Pipeline.of e) .none o.context (.obj [(e.idField, .null)]) false = _
    rw [Intended.findOne, hvalidated]
    rfl
  exact ⟨_, by rw [runOn_of_refusal hplan]⟩

theorem parse_of_found (hcolumn : e.hasColumn e.idField = true) (hskip : o.context.skipValidation = false)
    (h : ((Pipeline.of e).runOn o (lookup e id false) t).1 = .ok (.found (some row))) :
    ∃ id', e.idType.parse id = .ok id' := by
  cases hparse : e.idType.parse id with
  | ok id' => exact ⟨id', rfl⟩
  | error message =>
    cases hnull : id.isNull with
    | false =>
      obtain ⟨error, herror⟩ := lookup_refused hcolumn hskip hnull hparse false t
      cases h.symm.trans herror
    | true =>
      obtain rfl : id = .null := by
        cases id <;> first | rfl | cases hnull
      obtain ⟨error, herror⟩ := lookup_null_refused hcolumn hskip t
      cases h.symm.trans herror

/-- **Without a scope, whoever asks by an identifier or by its text is answered the same.** -/
theorem runOn_lookup_patternText (hcolumn : e.hasColumn e.idField = true) (hscope : e.scope = [])
    (hskip : o.context.skipValidation = false) (hskip' : o'.context.skipValidation = false)
    (hid : e.idType.parse id = .ok id') :
    (Pipeline.of e).runOn o' (lookup e (.str (Cell.patternText id)) false) t =
      (((Pipeline.of e).runOn o (lookup e id false) t).1, t) := by
  have hnull : id'.isNull = false := by
    rcases IdType.scalar_of_parse hid with ⟨s, rfl⟩ | ⟨n, rfl⟩ <;> rfl
  have hread := IdType.parse_patternText hid
  rw [runOn_lookup hcolumn hscope (Entity.idFor_of_parse hskip' hread) hnull,
    runOn_lookup hcolumn hscope (Entity.idFor_of_parse hskip hid) hnull]

end Pipeline

namespace Service

variable {service : Service} {e : Entity} {r : HttpRequest} {name part : List Char} {id : String}

/-! ## Getting the path of a record -/

/-- The request gets the path and does not ask for deleted records besides. -/
structure Gets (r : HttpRequest) (path : String) : Prop where
  method : r.method = "GET"
  path : r.path = path
  query : Form.flag? (.ofText r.query) "includeDeleted" = some false
  size : r.declaresTooMuch = false

theorem planRead_of_encodes (hpipeline : service.pipeline e.name = .ok (Pipeline.of e))
    (hname : Percent.Encodes name e.name) (hpart : Percent.Encodes part id)
    (hquery : Form.flag? (.ofText r.query) "includeDeleted" = some false) :
    service.planRead r name part =
      .ok (.perform (Pipeline.of e) r.context (Pipeline.lookup e (.str id) false) (.ofFound e.name id)) := by
  unfold planRead Understanding.part
  rw [hname.decoded, hpart.decoded, hquery]
  show (do
    let p ← Understanding.ofService (service.pipeline e.name)
    return Plan.perform p r.context (.findOne (.obj [(p.entity.idField, .str id)]) false)
      (.ofFound e.name id) : Understanding Plan) = _
  rw [hpipeline]
  rfl

/-- **To get the path of a record is to ask for the record**, except where the word for lists is sent. -/
theorem serve_recordPath (hpipeline : service.pipeline e.name = .ok (Pipeline.of e))
    (hname : Percent.Encodes name e.name) (hpart : Percent.Encodes part id) (hid : id ≠ "")
    (hr : Gets r (Endpoint.recordPath name part)) (now : String) (draws : List String) (t : MemoryStore) :
    service.serve now (fun _ => MemoryStore.backend draws) r t =
      if part = "bulk".toList then (.empty 405, t)
      else
        (Response.ofFound e.name id
            ((Pipeline.of e).runOn ⟨now, draws, r.context⟩ (Pipeline.lookup e (.str id) false) t).1,
          ((Pipeline.of e).runOn ⟨now, draws, r.context⟩ (Pipeline.lookup e (.str id) false) t).2) := by
  have hendpoint := Endpoint.ofPath_recordPath hname.whole hpart.whole (hpart.ne_nil hid)
  have hmethod : methodOf r = "GET" := by
    rw [methodOf, hr.method]
    rfl
  have hhead : isHeadOnly r = false := by
    rw [isHeadOnly, hr.method]
    rfl
  unfold serve plan
  rw [hr.path, hendpoint, hr.size, hmethod, hhead]
  simp only [Bool.and_false, Bool.false_eq_true, if_false]
  by_cases hbulk : part = "bulk".toList
  · rw [if_pos hbulk, if_pos hbulk]
    rfl
  · rw [if_neg hbulk, if_neg hbulk]
    have hplan : service.planAt r (.record name part) "GET" =
        .ok (.perform (Pipeline.of e) r.context (Pipeline.lookup e (.str id) false) (.ofFound e.name id)) :=
      planRead_of_encodes hpipeline hname hpart hr.query
    dsimp only
    rw [hplan]
    rfl

/-- **A record that is found by an identifier is got under every path for this identifier, unless the word for lists is
sent**, which is not sent for another identifier. -/
theorem serve_record_iff {settings : Settings} {ds : List Declaration} {es : List Entity}
    (hresolve : Declaration.resolve settings ds = .ok es) (hservice : Service.of es = .ok service) (he : e ∈ es)
    (hscope : e.scope = []) {o : Occasion} {id : Json} {row : Row} {t : MemoryStore}
    (hskip : o.context.skipValidation = false)
    (hfound : ((Pipeline.of e).runOn o (Pipeline.lookup e id false) t).1 = .ok (.found (some row)))
    (hname : Percent.Encodes name e.name) (hpart : Percent.Encodes part (Cell.patternText id))
    (hr : Gets r (Endpoint.recordPath name part)) (now : String) (draws : List String) :
    (service.serve now (fun _ => MemoryStore.backend draws) r t = (.ok (.obj row), t) ↔ part ≠ "bulk".toList) ∧
      (Cell.patternText id ≠ "bulk" → part ≠ "bulk".toList) := by
  have hcolumn := Entity.hasIdField_of_resolve hresolve he
  obtain ⟨served, hserved, hserves⟩ := Declaration.serves_of_resolve hresolve
  obtain rfl : service = served := Except.ok.inj (hservice.symm.trans hserved)
  obtain ⟨id', hid⟩ := Pipeline.parse_of_found hcolumn hskip hfound
  have hasked : (Pipeline.of e).runOn ⟨now, draws, r.context⟩ (Pipeline.lookup e (.str (Cell.patternText id)) false) t =
      (.ok (.found (some row)), t) := by
    rw [Pipeline.runOn_lookup_patternText hcolumn hscope hskip rfl hid, hfound]
  constructor
  · rw [serve_recordPath (hserves.pipeline e he) hname hpart (IdType.patternText_ne_empty hid) hr, hasked]
    by_cases hbulk : part = "bulk".toList
    · rw [if_pos hbulk]
      exact iff_of_false (fun h => by cases h) fun h => h hbulk
    · rw [if_neg hbulk]
      exact iff_of_true rfl hbulk
  · rintro hne rfl
    exact hne (hpart.text_eq (Percent.encodes_encode "bulk"))

end Service

namespace Notes

def service : Service := ⟨[.of (entity [])]⟩

/-- The request for a note by its path. -/
def request (path : String) : HttpRequest := ⟨"GET", path, "", [], ""⟩

end Notes

namespace Service

/-- The blank stands as an octet in the path of the note. -/
theorem serve_record_iff_notes :
    Declaration.resolve .standard [Notes.declaration []] = .ok [Notes.entity []] ∧
      Service.of [Notes.entity []] = .ok Notes.service ∧
      Notes.service.serve "2024-05-01T10:00:00Z" (fun _ => MemoryStore.backend []) (Notes.request "/api/note/a%20b")
          (Notes.store [Notes.row "a b" .null .null]) =
        (.ok (.obj (Notes.row "a b" .null .null)), Notes.store [Notes.row "a b" .null .null]) := by
  have hresolve : Declaration.resolve .standard [Notes.declaration []] = .ok [Notes.entity []] := rfl
  have hservice : Service.of [Notes.entity []] = .ok Notes.service := rfl
  have hfound : ((Pipeline.of (Notes.entity [])).runOn (Notes.occasion "a")
      (Pipeline.lookup (Notes.entity []) (.str "a b") false) (Notes.store [Notes.row "a b" .null .null])).1 =
        .ok (.found (some (Notes.row "a b" .null .null))) := rfl
  have hgets : Gets (Notes.request "/api/note/a%20b")
      (Endpoint.recordPath (Percent.encode "note") (Percent.encode "a b")) := ⟨rfl, by decide, rfl, rfl⟩
  obtain ⟨hiff, hother⟩ := serve_record_iff hresolve hservice List.mem_cons_self rfl rfl hfound
    (Percent.encodes_encode "note") (Percent.encodes_encode "a b") hgets "2024-05-01T10:00:00Z" []
  exact ⟨hresolve, hservice, hiff.2 (hother (by decide))⟩

/-- A note can have the word for lists as its identifier: it is found by it, but there is nothing to get under its
path. -/
theorem bulk_note_not_got :
    Declaration.resolve .standard [Notes.declaration []] = .ok [Notes.entity []] ∧
      Service.of [Notes.entity []] = .ok Notes.service ∧
      ((Pipeline.of (Notes.entity [])).runOn (Notes.occasion "a")
          (.create (.obj [("id", .str "bulk"), ("title", .str "draft")])) .empty).2.rowsOf (Notes.entity []) =
        [Notes.row "bulk" .null .null] ∧
      ((Pipeline.of (Notes.entity [])).runOn (Notes.occasion "a")
          (Pipeline.lookup (Notes.entity []) (.str "bulk") false)
          ((Pipeline.of (Notes.entity [])).runOn (Notes.occasion "a")
            (.create (.obj [("id", .str "bulk"), ("title", .str "draft")])) .empty).2).1 =
        .ok (.found (some (Notes.row "bulk" .null .null))) ∧
      Gets (Notes.request "/api/note/bulk")
        (Endpoint.recordPath (Percent.encode "note") (Percent.encode "bulk")) ∧
      (Notes.service.serve "2024-05-01T10:00:00Z" (fun _ => MemoryStore.backend []) (Notes.request "/api/note/bulk")
          ((Pipeline.of (Notes.entity [])).runOn (Notes.occasion "a")
            (.create (.obj [("id", .str "bulk"), ("title", .str "draft")])) .empty).2).1 = .empty 405 :=
  ⟨rfl, rfl, rfl, rfl, ⟨rfl, by decide, rfl, rfl⟩, rfl⟩

end Service

end RecordService
