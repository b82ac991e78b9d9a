import RecordService.Http.ListQuery
import RecordService.Proofs.Basic
import RecordService.Proofs.Text.Blank
/-!
# The order of a list — how it may be written

An order is written in items between commas, and an item is the name of a column, with the direction behind a colon.
There is much freedom in that (`OrderBy.Written`, `OrderBy.Items`), and none in how it is read: whatever the writing,
the orders are had back (`ListQuery.parseOrder_of_items`).  The one thing that is refused is a direction which is none
(`ListQuery.exists_parseOrder_iff`).
-/
namespace RecordService

/-! ## Cutting -/

namespace Text

theorem pieces_eq_splitOn (separator : Char) : ∀ cs : List Char, pieces separator cs = cs.splitOn separator
  | [] => rfl
  | c :: cs => by
    have hne : cs.splitOn separator ≠ [] := List.splitOn_ne_nil separator cs
    rw [pieces, pieces_eq_splitOn separator cs, List.splitOn_cons_eq_if_modifyHead]
    by_cases hc : c = separator
    · rw [if_pos hc, if_pos (beq_iff_eq.2 hc)]
    · rw [if_neg hc, if_neg (mt beq_iff_eq.1 hc)]
      cases hsplit : cs.splitOn separator with
      | nil => exact absurd hsplit hne
      | cons piece rest => rfl

theorem cutOnce_of_not_mem {separator : Char} : ∀ {cs : List Char}, separator ∉ cs → cutOnce separator cs = none
  | [], _ => rfl
  | c :: cs, h => by
    obtain ⟨hc, hcs⟩ := not_or.1 (mt List.mem_cons.2 h)
    rw [cutOnce, if_neg (Ne.symm hc), cutOnce_of_not_mem hcs]
    rfl

theorem cutOnce_append {separator : Char} (right : List Char) : ∀ {left : List Char}, separator ∉ left →
    cutOnce separator (left ++ separator :: right) = some (left, right)
  | [], _ => by rw [List.nil_append, cutOnce, if_pos rfl]
  | c :: left, h => by
    obtain ⟨hc, hleft⟩ := not_or.1 (mt List.mem_cons.2 h)
    rw [List.cons_append, cutOnce, if_neg (Ne.symm hc), cutOnce_append right hleft]
    rfl

/-- What is on the two sides of a character that is no blank loses its outer blanks with the text, and no more. -/
theorem trimChars_cut {separator : Char} (hseparator : isBlank separator = false) {left : List Char}
    (hleft : separator ∉ left) (right : List Char) : ∃ left' right',
      trimChars (left ++ separator :: right) = left' ++ separator :: right' ∧ separator ∉ left' ∧
        trimChars left' = trimChars left ∧ trimChars right' = trimChars right := by
  have hpadded := padded_trimChars (left ++ separator :: right)
  have hmem : separator ∈ trimChars (left ++ separator :: right) := (hpadded.mem_iff hseparator).1 (by simp)
  obtain ⟨left', right', hcut, hleft'⟩ := List.eq_append_cons_of_mem hmem
  obtain ⟨before, after, htext, hbefore, hafter⟩ := hpadded
  rw [hcut] at htext
  have hfirst : Padded (before ++ left') left' := ⟨before, [], by simp, hbefore, by simp⟩
  have hsecond : Padded (right' ++ after) right' := ⟨[], after, by simp, by simp, hafter⟩
  -- The text is cut at one place only.
  have hsides : (left, right) = (before ++ left', right' ++ after) := by
    rw [← Option.some_inj, ← cutOnce_append right hleft, htext,
      ← cutOnce_append (right' ++ after) (mt (hfirst.mem_iff hseparator).1 hleft')]
    simp
  cases hsides
  exact ⟨left', right', hcut, hleft', (trimChars_of_padded hfirst).symm, (trimChars_of_padded hsecond).symm⟩

/-! ## Letter case -/

/-- The letters are those of the word, each of them small or capital. -/
def AnyCase (cs word : List Char) : Prop :=
  List.Forall₂ (fun c small => c = small ∨ c.toNat + 32 = small.toNat) cs word

theorem toNat_toLower (c : Char) : c.toLower.toNat = if 65 ≤ c.toNat ∧ c.toNat ≤ 90 then c.toNat + 32 else c.toNat := by
  have hcapital : ('A'.val ≤ c.val ∧ c.val ≤ 'Z'.val) ↔ 65 ≤ c.toNat ∧ c.toNat ≤ 90 := by
    rw [UInt32.le_iff_toNat_le, UInt32.le_iff_toNat_le]
    rfl
  unfold Char.toLower
  by_cases h : 65 ≤ c.toNat ∧ c.toNat ≤ 90
  · rw [if_pos h, dif_pos (hcapital.2 h)]
    show (c.val + 32).toNat = c.toNat + 32
    rw [UInt32.toNat_add]
    show (c.toNat + 32) % 2 ^ 32 = c.toNat + 32
    omega
  · rw [if_neg h, dif_neg (mt hcapital.1 h)]

theorem toLower_eq_iff {c small : Char} (hlow : 97 ≤ small.toNat) (hhigh : small.toNat ≤ 122) :
    c.toLower = small ↔ c = small ∨ c.toNat + 32 = small.toNat := by
  rw [← Char.toNat_inj, ← Char.toNat_inj, toNat_toLower]
  split <;> omega

theorem map_toLower_eq_iff : ∀ {word cs : List Char}, (∀ small ∈ word, 97 ≤ small.toNat ∧ small.toNat ≤ 122) →
    (cs.map Char.toLower = word ↔ AnyCase cs word)
  | [], cs, _ => by rw [List.map_eq_nil_iff, AnyCase, List.forall₂_nil_right_iff]
  | small :: word, cs, hword => by
    obtain ⟨⟨hlow, hhigh⟩, hrest⟩ := List.forall_mem_cons.1 hword
    rw [List.map_eq_cons_iff, AnyCase, List.forall₂_cons_right_iff]
    constructor
    · rintro ⟨c, rest, rfl, hc, h⟩
      exact ⟨c, rest, (toLower_eq_iff hlow hhigh).1 hc, (map_toLower_eq_iff hrest).1 h, rfl⟩
    · rintro ⟨c, rest, hc, h, rfl⟩
      exact ⟨c, rest, rfl, (toLower_eq_iff hlow hhigh).2 hc, (map_toLower_eq_iff hrest).2 h⟩

theorem AnyCase.bounds {cs word : List Char} (h : AnyCase cs word)
    (hword : ∀ small ∈ word, 97 ≤ small.toNat ∧ small.toNat ≤ 122) : ∀ c ∈ cs, 65 ≤ c.toNat ∧ c.toNat ≤ 122 := by
  induction h with
  | nil => simp
  | @cons c small rest word hc _ ih =>
    obtain ⟨⟨hlow, hhigh⟩, hrest⟩ := List.forall_mem_cons.1 hword
    refine List.forall_mem_cons.2 ⟨?_, ih hrest⟩
    rcases hc with rfl | hc <;> omega

end Text

/-! ## Directions -/

namespace SortDirection

/-- **The text stands for the direction**: its name in letters of either case, with blanks around it. -/
def Spelled (text : List Char) (d : SortDirection) : Prop :=
  ∃ word, Text.Padded text word ∧ Text.AnyCase word d.name.toList

theorem bounds_name (d : SortDirection) : ∀ small ∈ d.name.toList, 97 ≤ small.toNat ∧ small.toNat ≤ 122 := by
  have hasc : ∀ small ∈ ['a', 's', 'c'], 97 ≤ small.toNat ∧ small.toNat ≤ 122 := by simp
  have hdesc : ∀ small ∈ ['d', 'e', 's', 'c'], 97 ≤ small.toNat ∧ small.toNat ≤ 122 := by simp
  cases d
  · exact hasc
  · exact hdesc

theorem not_isBlank_of_anyCase {word : List Char} {d : SortDirection} (h : Text.AnyCase word d.name.toList) :
    ∀ c ∈ word, Text.isBlank c = false := by
  intro c hc
  obtain ⟨hlow, hhigh⟩ := h.bounds d.bounds_name c hc
  exact Text.not_isBlank_of_visible (by omega) (by omega)

theorem spelled_iff {text : List Char} {d : SortDirection} :
    Spelled text d ↔ (Text.trimChars text).map Char.toLower = d.name.toList := by
  rw [Text.map_toLower_eq_iff d.bounds_name]
  constructor
  · rintro ⟨word, hpadded, hword⟩
    rw [Text.trimChars_of_padded hpadded, Text.trimChars_of_solid (not_isBlank_of_anyCase hword)]
    exact hword
  · intro h
    exact ⟨_, Text.padded_trimChars text, h⟩

theorem Spelled.not_mem {text : List Char} {d : SortDirection} (h : Spelled text d) : ',' ∉ text := by
  obtain ⟨word, hpadded, hword⟩ := h
  intro hcomma
  have hbounds := hword.bounds d.bounds_name ',' ((hpadded.mem_iff (by decide)).1 hcomma)
  exact absurd hbounds (by decide)

end SortDirection

namespace ListQuery

variable {text : List Char} {d : SortDirection}

theorem direction_eq_ok_iff : direction text = .ok d ↔ SortDirection.Spelled text d := by
  rw [SortDirection.spelled_iff, direction]
  split
  case h_1 h =>
    rw [h]
    cases d <;> decide
  case h_2 h =>
    rw [h]
    cases d <;> decide
  case h_3 hasc hdesc =>
    constructor
    · intro h
      cases h
    · intro h
      cases d with
      | asc => exact absurd h hasc
      | desc => exact absurd h hdesc

theorem badRequest_of_direction {error : ServiceError} (h : direction text = .error error) :
    ∃ message, error = .badRequest message := by
  unfold direction at h
  split at h <;> cases h
  exact ⟨_, rfl⟩

theorem direction_congr {text' : List Char} (h : Text.trimChars text = Text.trimChars text') :
    direction text = direction text' := by
  rw [direction, direction, h]

end ListQuery

/-! ## Items -/

namespace OrderBy

/-- The name of the column can be told in an order: there is something of it, with no blanks at its ends, and it has
none of the characters that stand between names. -/
structure Legible (o : OrderBy) : Prop where
  ne_nil : o.field.toList ≠ []
  trimmed : Text.Trimmed o.field.toList
  comma : ',' ∉ o.field.toList
  colon : ':' ∉ o.field.toList

/-- **The item writes the order**: the name and, behind a colon, the direction, with blanks around each of them. -/
inductive Written (o : OrderBy) : List Char → Prop where
  /-- An order that says nothing of its direction is ascending. -/
  | brief {item : List Char} : o.direction = .asc → Text.Padded item o.field.toList → Written o item
  | full {field word : List Char} : Text.Padded field o.field.toList → o.direction.Spelled word →
      Written o (field ++ ':' :: word)

/-- **The items write the orders**, one behind the other, with any number of blank items between them. -/
inductive Items : List (List Char) → List OrderBy → Prop where
  | nil : Items [] []
  | blank {item : List Char} {items : List (List Char)} {orders : List OrderBy} : (∀ c ∈ item, Text.isBlank c = true) →
      Items items orders → Items (item :: items) orders
  | order {item : List Char} {o : OrderBy} {items : List (List Char)} {orders : List OrderBy} : o.Written item →
      Items items orders → Items (item :: items) (o :: orders)

end OrderBy

namespace ListQuery

/-- What an item between commas stands for. -/
def readItem (item : List Char) : Except ServiceError OrderBy := parseOrderItem (Text.trimChars item)

/-- The item is not passed over. -/
def counts (item : List Char) : Bool := !item.all Text.isBlank

theorem counts_iff {item : List Char} : counts item = true ↔ ¬ ∀ c ∈ item, Text.isBlank c = true := by
  rw [counts, Bool.not_eq_true', Bool.eq_false_iff, Ne, List.all_eq_true]

theorem parseOrder_eq (text : String) : parseOrder text =
    ((text.toList.splitOn ',').filter counts).mapM readItem := by
  have hempty : ∀ item, (Text.trimChars item).isEmpty = item.all Text.isBlank := by
    intro item
    rw [Bool.eq_iff_iff, List.isEmpty_iff, Text.trimChars_eq_nil_iff, List.all_eq_true]
  rw [parseOrder, Text.pieces_eq_splitOn, List.filter_map, List.mapM_map]
  simp only [Function.comp_def, hempty]
  rfl

theorem readItem_of_not_mem {item : List Char} (h : ':' ∉ item) :
    readItem item = .ok ⟨String.ofList (Text.trimChars item), .asc⟩ := by
  have hcolon : ':' ∉ Text.trimChars item := mt ((Text.padded_trimChars item).mem_iff (by decide)).2 h
  rw [readItem, parseOrderItem, Text.cutOnce_of_not_mem hcolon]

theorem readItem_append {field : List Char} (word : List Char) (h : ':' ∉ field) : readItem (field ++ ':' :: word) =
    (direction word).map fun d => ⟨String.ofList (Text.trimChars field), d⟩ := by
  obtain ⟨field', word', hcut, hfield', hfield, hword⟩ := Text.trimChars_cut (by decide) h word
  rw [readItem, hcut, parseOrderItem, Text.cutOnce_append word' hfield', ← direction_congr hword, ← hfield]

variable {o : OrderBy} {item : List Char}

theorem readItem_of_written (ho : o.Legible) (h : o.Written item) : readItem item = .ok o := by
  have hname : ∀ {field : List Char}, Text.Padded field o.field.toList →
      String.ofList (Text.trimChars field) = o.field ∧ ':' ∉ field := by
    intro field hpadded
    rw [Text.trimChars_of_padded hpadded, Text.trimChars_of_trimmed ho.trimmed, String.ofList_toList]
    exact ⟨rfl, mt (hpadded.mem_iff (by decide)).1 ho.colon⟩
  cases h with
  | brief hasc hpadded =>
    obtain ⟨hfield, hcolon⟩ := hname hpadded
    rw [readItem_of_not_mem hcolon, hfield, ← hasc]
  | full hpadded hword =>
    obtain ⟨hfield, hcolon⟩ := hname hpadded
    rw [readItem_append _ hcolon, direction_eq_ok_iff.2 hword, hfield]
    rfl

theorem comma_not_mem_of_written (ho : o.Legible) (h : o.Written item) : ',' ∉ item := by
  cases h with
  | brief _ hpadded => exact mt (hpadded.mem_iff (by decide)).1 ho.comma
  | full hpadded hword =>
    have hfield := mt (hpadded.mem_iff (by decide)).1 ho.comma
    simp [hfield, hword.not_mem]

theorem counts_of_written (ho : o.Legible) (h : o.Written item) : counts item = true := by
  rw [counts_iff]
  intro hblank
  cases h with
  | brief _ hpadded =>
    rw [← Text.trimChars_eq_nil_iff, Text.trimChars_of_padded hpadded, Text.trimChars_of_trimmed ho.trimmed] at hblank
    exact ho.ne_nil hblank
  | full => exact absurd (hblank ':' (by simp)) (by decide)

/-- **The items that write orders are read as these**, and have no commas in them. -/
theorem read_of_items {items : List (List Char)} {orders : List OrderBy} (h : OrderBy.Items items orders)
    (horders : ∀ o ∈ orders, o.Legible) :
    (items.filter counts).mapM readItem = .ok orders ∧ ∀ item ∈ items, ',' ∉ item := by
  induction h with
  | nil => exact ⟨rfl, by simp⟩
  | blank hblank _ ih =>
    obtain ⟨hread, hcomma⟩ := ih horders
    rw [List.filter_cons_of_neg (mt counts_iff.1 (not_not_intro hblank))]
    refine ⟨hread, List.forall_mem_cons.2 ⟨fun hmem => ?_, hcomma⟩⟩
    exact absurd (hblank ',' hmem) (by decide)
  | order hwritten _ ih =>
    obtain ⟨ho, hrest⟩ := List.forall_mem_cons.1 horders
    obtain ⟨hread, hcomma⟩ := ih hrest
    rw [List.filter_cons_of_pos (counts_of_written ho hwritten), List.mapM_cons,
      readItem_of_written ho hwritten, hread]
    exact ⟨rfl, List.forall_mem_cons.2 ⟨comma_not_mem_of_written ho hwritten, hcomma⟩⟩

theorem parseOrder_of_items {items : List (List Char)} {orders : List OrderBy} (h : OrderBy.Items items orders)
    (horders : ∀ o ∈ orders, o.Legible) : parseOrder (String.ofList ([','].intercalate items)) = .ok orders := by
  obtain ⟨hread, hcomma⟩ := read_of_items h horders
  rw [parseOrder_eq, String.toList_ofList, ← hread]
  cases items with
  | nil => rfl
  | cons item rest => rw [List.splitOn_intercalate ',' hcomma (List.cons_ne_nil item rest)]

/-- In full and with nothing to spare, every list of orders can be written. -/
theorem parseOrder_plain {orders : List OrderBy} (horders : ∀ o ∈ orders, o.Legible) :
    parseOrder (String.ofList ([','].intercalate
      (orders.map fun o => o.field.toList ++ ':' :: o.direction.name.toList))) = .ok orders := by
  refine parseOrder_of_items ?_ horders
  induction orders with
  | nil => exact .nil
  | cons o rest ih =>
    have hfield : Text.Padded o.field.toList o.field.toList := ⟨[], [], by simp, by simp, by simp⟩
    have hword : o.direction.Spelled o.direction.name.toList :=
      ⟨_, ⟨[], [], by simp, by simp, by simp⟩, List.forall₂_same.2 fun c _ => .inl rfl⟩
    exact .order (.full hfield hword) (ih (List.forall_mem_cons.1 horders).2)

/-! ## Failures -/

/-- Some item says something of the direction that stands for none. -/
def Misdirected (text : List Char) : Prop :=
  ∃ item ∈ text.splitOn ',', ¬ (∀ c ∈ item, Text.isBlank c = true) ∧
    ∃ field word, item = field ++ ':' :: word ∧ ':' ∉ field ∧ ∀ d : SortDirection, ¬ d.Spelled word

theorem exists_readItem_append_iff {field word : List Char} (h : ':' ∉ field) :
    (∃ o, readItem (field ++ ':' :: word) = .ok o) ↔ ∃ d : SortDirection, d.Spelled word := by
  simp only [readItem_append word h, ← direction_eq_ok_iff]
  cases direction word with
  | ok d => exact ⟨fun _ => ⟨d, rfl⟩, fun _ => ⟨_, rfl⟩⟩
  | error error => simp [Except.map]

theorem exists_parseOrder_iff (text : String) :
    (∃ orders, parseOrder text = .ok orders) ↔ ¬ Misdirected text.toList := by
  rw [parseOrder_eq, exists_mapM_ok_iff]
  constructor
  · rintro hread ⟨item, hitem, hsome, field, word, rfl, hfield, hword⟩
    obtain ⟨d, hd⟩ := (exists_readItem_append_iff hfield).1 (hread _ (List.mem_filter.2 ⟨hitem, counts_iff.2 hsome⟩))
    exact hword d hd
  · intro hnone item hitem
    obtain ⟨hitem, hsome⟩ := List.mem_filter.1 hitem
    by_cases hcolon : ':' ∈ item
    · obtain ⟨field, word, rfl, hfield⟩ := List.eq_append_cons_of_mem hcolon
      rw [exists_readItem_append_iff hfield]
      by_contra hword
      exact hnone ⟨_, hitem, counts_iff.1 hsome, field, word, rfl, hfield, not_exists.1 hword⟩
    · exact ⟨_, readItem_of_not_mem hcolon⟩

theorem badRequest_of_parseOrder {text : String} {error : ServiceError} (h : parseOrder text = .error error) :
    ∃ message, error = .badRequest message := by
  obtain ⟨item, -, hitem⟩ := error_of_mapM h
  unfold parseOrderItem at hitem
  split at hitem
  · rename_i field word _
    cases hword : direction word with
    | ok d => rw [hword] at hitem; cases hitem
    | error failure =>
      rw [hword] at hitem
      cases hitem
      exact badRequest_of_direction hword
  · cases hitem

/-! ## Parameters -/

theorem params_eq {q : ListQuery} {filters : Option Row} (h : readFilters q.filters = .ok filters) : q.params =
    (readOrder q.orderBy).map fun orderBy => ⟨q.page, q.perPage, q.search, filters, orderBy, q.includeDeleted⟩ := by
  rw [params, h, ok_bind]
  cases readOrder q.orderBy <;> rfl

/-- **An order is read back from what it is written as**: from its items between commas, with blanks anywhere, letters
of either case, ascending directions left out and any number of items that are empty.  An order is refused as a bad
request exactly when some item has a colon, and behind the first one no direction. -/
theorem params_orderBy (q : ListQuery) :
    (∀ (filters : Option Row) (orders : List OrderBy) (items : List (List Char)), readFilters q.filters = .ok filters →
      (∀ o ∈ orders, o.Legible) → OrderBy.Items items orders →
        params { q with orderBy := some (String.ofList ([','].intercalate items)) } =
          .ok ⟨q.page, q.perPage, q.search, filters, orders, q.includeDeleted⟩) ∧
    ∀ text : String,
      ((∃ message, params { q with filters := none, orderBy := some text } = .error (.badRequest message)) ↔
        Misdirected text.toList) ∧
      ((∃ p, params { q with filters := none, orderBy := some text } = .ok p) ↔ ¬ Misdirected text.toList) := by
  constructor
  · intro filters orders items hfilters horders hitems
    have hread : readOrder (some (String.ofList ([','].intercalate items))) = .ok orders :=
      parseOrder_of_items hitems horders
    rw [params_eq (q := { q with orderBy := some _ }) hfilters, hread]
    rfl
  · intro text
    rw [params_eq (q := { q with filters := none, orderBy := some text }) rfl, readOrder]
    have hiff := exists_parseOrder_iff text
    cases horder : parseOrder text with
    | ok orders =>
      have hdirected : ¬ Misdirected text.toList := hiff.1 ⟨orders, horder⟩
      simp [Except.map, hdirected]
    | error error =>
      obtain ⟨message, rfl⟩ := badRequest_of_parseOrder horder
      have hmisdirected : Misdirected text.toList := by
        by_contra hdirected
        obtain ⟨orders, hok⟩ := hiff.2 hdirected
        rw [horder] at hok
        cases hok
      simp [Except.map, hmisdirected]

end ListQuery

namespace Notes

/-- Titles from last to first. -/
def byTitle : List OrderBy := [⟨"title", .desc⟩, ⟨"id", .asc⟩]

/-- The same order in items, some of them empty. -/
def byTitleItems : List (List Char) := [[' '], " title ".toList ++ ':' :: " DESC".toList, [], "id ".toList]

end Notes

namespace ListQuery

/-- An order with capital letters, blanks and empty items; and a direction that is none. -/
theorem params_orderBy_title :
    params { standard with orderBy := some " , title : DESC,,id " } =
        .ok { ListParams.standard with orderBy := Notes.byTitle } ∧
      ∃ message, params { standard with orderBy := some "id,title: sideways" } = .error (.badRequest message) := by
  obtain ⟨hread, hrefuse⟩ := params_orderBy standard
  have hlegible : ∀ o ∈ Notes.byTitle, o.Legible := by
    have hsolid : ∀ {cs : List Char}, cs.any Text.isBlank = false → Text.Trimmed cs := fun h =>
      Text.trimmed_of_solid fun c hc => Bool.eq_false_iff.2 (List.any_eq_false.1 h c hc)
    exact List.forall_mem_cons.2 ⟨⟨by decide, hsolid (by decide), by decide, by decide⟩,
      List.forall_mem_singleton.2 ⟨by decide, hsolid (by decide), by decide, by decide⟩⟩
  have hitems : OrderBy.Items Notes.byTitleItems Notes.byTitle := by
    have hblank : ∀ c ∈ [' '], Text.isBlank c = true := List.forall_mem_singleton.2 (by decide)
    have hnone : ∀ c ∈ [], Text.isBlank c = true := List.forall_mem_nil _
    have htitle : Text.Padded " title ".toList "title".toList := ⟨[' '], [' '], by decide, hblank, hblank⟩
    have hdesc : SortDirection.desc.Spelled " DESC".toList := SortDirection.spelled_iff.2 (by decide)
    have hid : Text.Padded "id ".toList "id".toList := ⟨[], [' '], by decide, hnone, hblank⟩
    exact .blank hblank (.order (.full htitle hdesc) (.blank hnone (.order (.brief rfl hid) .nil)))
  have htext : String.ofList ([','].intercalate Notes.byTitleItems) = " , title : DESC,,id " := by decide
  have hmisdirected : Misdirected "id,title: sideways".toList := by
    refine ⟨"title: sideways".toList, by decide, counts_iff.1 (by decide), "title".toList, " sideways".toList,
      by decide, by decide, fun d => ?_⟩
    rw [SortDirection.spelled_iff]
    cases d <;> decide
  have hordered := hread none _ _ rfl hlegible hitems
  rw [htext] at hordered
  exact ⟨hordered, (hrefuse "id,title: sideways").1.2 hmisdirected⟩

end ListQuery

end RecordService
