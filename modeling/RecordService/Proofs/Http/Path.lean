import RecordService.Http.Endpoint
import RecordService.Http.Percent
import RecordService.Proofs.Text.Utf8
/-!
# Paths — the parts of a path and the endpoint it leads to

Any text can be sent as a part of a path: its unreserved characters as they are, and the octets of the others each as `%`
and two digits.  Such a part has no slash in it and is decoded to the text (`Percent.encodes_encode`).  Whatever parts a
path has after the one for entities, it leads to the record they name, unless the last of them is the word for lists, which
is fixed at this place (`Endpoint.ofPath_recordPath`).
-/
namespace RecordService

/-! ## Percent-encoding a text -/

namespace Percent

/-- The characters that stand for themselves in every part of an address. -/
def isUnreserved (c : Char) : Bool := c.isAlphanum || c == '-' || c == '.' || c == '_' || c == '~'

def digit (value : Nat) : Char := Char.ofNat (if value < 10 then 48 + value else 55 + value)

def encodeOctet (octet : Nat) : List Char := ['%', digit (octet / 16), digit (octet % 16)]

def encodeChar (c : Char) : List Char :=
  if isUnreserved c then [c] else (Text.charOctets c).flatMap encodeOctet

/-- The text as a part of a path, in which no character is encoded that stands for itself. -/
def encode (s : String) : List Char := s.toList.flatMap encodeChar

/-! ### Decoding it again -/

theorem toNat_lt_of_isUnreserved {c : Char} (h : isUnreserved c = true) : c.toNat < 0x80 := by
  have hbound : ∀ last : Char, c.val ≤ last.val → last.toNat < 0x80 → c.toNat < 0x80 := fun _ hle hlast =>
    Nat.lt_of_le_of_lt (UInt32.le_iff_toNat_le.1 hle) hlast
  simp only [isUnreserved, Bool.or_eq_true, beq_iff_eq] at h
  rcases h with (((h | rfl) | rfl) | rfl) | rfl
  · rcases Bool.or_eq_true_iff.1 h with hletter | hdigit
    · rcases Bool.or_eq_true_iff.1 hletter with hupper | hlower
      · exact hbound 'Z' (of_decide_eq_true hupper).2 (by decide)
      · exact hbound 'z' (of_decide_eq_true (Bool.and_eq_true_iff.1 hlower).2) (by decide)
    · exact hbound '9' (of_decide_eq_true (Bool.and_eq_true_iff.1 hdigit).2) (by decide)
  all_goals decide

/-- Neither the sign of an encoded octet nor the slash between two parts stands for itself. -/
theorem ne_of_isUnreserved {c : Char} (h : isUnreserved c = true) : c ≠ '%' ∧ c ≠ '/' := by
  constructor <;> rintro rfl <;> revert h <;> decide

theorem digit_spec : ∀ value < 16, Text.charOctets (digit value) = [(digit value).toNat] ∧
    digit? (digit value).toNat = some value ∧ digit value ≠ '/' := by decide

theorem decodeOctets_cons_of_ne {octet : Nat} (h : octet ≠ 37) (rest : List Nat) :
    decodeOctets (octet :: rest) = octet :: decodeOctets rest := by
  rw [decodeOctets]
  exact fun _ _ _ hsign => absurd hsign h

/-- An octet is decoded from its two digits. -/
theorem decodeOctets_encodeOctet {octet : Nat} (h : octet < 256) (rest : List Nat) :
    decodeOctets (Text.octets (encodeOctet octet) ++ rest) = octet :: decodeOctets rest := by
  obtain ⟨hhigh, hhigh?, -⟩ := digit_spec (octet / 16) (by omega)
  obtain ⟨hlow, hlow?, -⟩ := digit_spec (octet % 16) (by omega)
  have hoctets : Text.octets (encodeOctet octet) = [37, (digit (octet / 16)).toNat, (digit (octet % 16)).toNat] := by
    simp only [encodeOctet, Text.octets, List.flatMap_cons, List.flatMap_nil, hhigh, hlow]
    rfl
  have hpair : pair? (digit (octet / 16)).toNat (digit (octet % 16)).toNat = some octet := by
    rw [pair?, hhigh?, hlow?]
    exact congrArg some (Nat.div_add_mod octet 16)
  rw [hoctets]
  show decodeOctets (37 :: (digit (octet / 16)).toNat :: (digit (octet % 16)).toNat :: rest) = _
  rw [decodeOctets, hpair]

theorem octets_append (a b : List Char) : Text.octets (a ++ b) = Text.octets a ++ Text.octets b := List.flatMap_append

/-- **A character is decoded from what it is encoded as.** -/
theorem decodeOctets_encodeChar (c : Char) (rest : List Nat) :
    decodeOctets (Text.octets (encodeChar c) ++ rest) = Text.charOctets c ++ decodeOctets rest := by
  have hencoded : ∀ os : List Nat, (∀ o ∈ os, o < 256) →
      decodeOctets (Text.octets (os.flatMap encodeOctet) ++ rest) = os ++ decodeOctets rest := by
    intro os hos
    induction os with
    | nil => rfl
    | cons o os ih =>
      obtain ⟨ho, hos⟩ := List.forall_mem_cons.1 hos
      rw [List.flatMap_cons, octets_append, List.append_assoc, decodeOctets_encodeOctet ho, ih hos, List.cons_append]
  unfold encodeChar
  by_cases hc : isUnreserved c = true
  · have hascii : Text.charOctets c = [c.toNat] := if_pos (toNat_lt_of_isUnreserved hc)
    have hsign : c.toNat ≠ 37 := fun h => (ne_of_isUnreserved hc).1 (by rw [← Char.ofNat_toNat c, h])
    rw [if_pos hc, Text.octets, List.flatMap_singleton, hascii]
    exact decodeOctets_cons_of_ne hsign rest
  · rw [if_neg hc]
    exact hencoded (Text.charOctets c) fun o ho => Text.lt_of_mem_charOctets ho

/-- **A text is decoded from what it is encoded as.** -/
theorem decode?_encode (s : String) : decode? (encode s) = some s := by
  have hoctets : ∀ cs : List Char, decodeOctets (Text.octets (cs.flatMap encodeChar)) = Text.octets cs := by
    intro cs
    induction cs with
    | nil => rfl
    | cons c cs ih =>
      rw [List.flatMap_cons, octets_append, decodeOctets_encodeChar, ih]
      rfl
  rw [decode?, encode, hoctets, Text.decode?_octets, Option.map_some, String.ofList_toList]

/-! ### What stands in an encoded text -/

theorem slash_not_mem_encode (s : String) : '/' ∉ encode s := by
  intro hslash
  obtain ⟨c, -, hc⟩ := List.mem_flatMap.1 hslash
  unfold encodeChar at hc
  split at hc
  · rename_i hunreserved
    exact (ne_of_isUnreserved hunreserved).2 (List.mem_singleton.1 hc).symm
  · obtain ⟨octet, hoctet, hmem⟩ := List.mem_flatMap.1 hc
    have hbound := Text.lt_of_mem_charOctets hoctet
    have hhigh := (digit_spec (octet / 16) (by omega)).2.2
    have hlow := (digit_spec (octet % 16) (by omega)).2.2
    simp [encodeOctet, hhigh.symm, hlow.symm] at hmem

/-- Sent as one part of a path, the characters are read as the text. -/
structure Encodes (part : List Char) (s : String) : Prop where
  decoded : decode? part = some s
  whole : '/' ∉ part

/-- **Every text can be sent as one part of a path.** -/
theorem encodes_encode (s : String) : Encodes (encode s) s := ⟨decode?_encode s, slash_not_mem_encode s⟩

variable {part : List Char} {s s' : String}

theorem Encodes.text_eq (h : Encodes part s) (h' : Encodes part s') : s = s' :=
  Option.some.inj (h.decoded.symm.trans h'.decoded)

theorem Encodes.ne_nil (h : Encodes part s) (hs : s ≠ "") : part ≠ [] := by
  rintro rfl
  exact hs (h.text_eq (encodes_encode ""))

end Percent

/-! ## The path of a record -/

namespace Text

theorem pieces_of_not_mem {separator : Char} : ∀ {cs : List Char}, separator ∉ cs → pieces separator cs = [cs]
  | [], _ => rfl
  | c :: cs, h => by
    obtain ⟨hc, hcs⟩ := not_or.1 (mt List.mem_cons.2 h)
    rw [pieces, if_neg (Ne.symm hc), pieces_of_not_mem hcs]

theorem pieces_append {separator : Char} (rest : List Char) : ∀ {cs : List Char}, separator ∉ cs →
    pieces separator (cs ++ separator :: rest) = cs :: pieces separator rest
  | [], _ => by rw [List.nil_append, pieces, if_pos rfl]
  | c :: cs, h => by
    obtain ⟨hc, hcs⟩ := not_or.1 (mt List.mem_cons.2 h)
    rw [List.cons_append, pieces, if_neg (Ne.symm hc), pieces_append rest hcs]

end Text

namespace Endpoint

/-- The path of a record, from what is sent for the entity and for the identifier. -/
def recordPath (entity id : List Char) : String := String.ofList ('/' :: "api".toList ++ '/' :: entity ++ '/' :: id)

/-- **The path of a record leads to the record**, except that the word for lists stands for lists. -/
theorem ofPath_recordPath {entity id : List Char} (hentity : '/' ∉ entity) (hid : '/' ∉ id) (hsome : id ≠ []) :
    ofPath (recordPath entity id) = if id = "bulk".toList then some (.bulk entity) else some (.record entity id) := by
  have hpieces : Text.pieces '/' (recordPath entity id).toList = [[], "api".toList, entity, id] := by
    have hapi : '/' ∉ "api".toList := by decide
    rw [recordPath, String.toList_ofList, List.append_assoc, List.cons_append, Text.pieces, if_pos rfl, List.cons_append,
      Text.pieces_append _ hapi, Text.pieces_append _ hentity, Text.pieces_of_not_mem hid]
  rw [ofPath, hpieces]
  show (if "api".toList = "api".toList then ofParts [entity, id] else none) = _
  -- The word is compared with what is sent, before it is decoded.
  rw [if_pos rfl, ofParts, List.isEmpty_eq_false_iff.2 hsome, if_neg (by decide)]

end Endpoint

end RecordService
