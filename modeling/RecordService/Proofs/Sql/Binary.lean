import Mathlib.Data.Nat.Digits.Defs
import RecordService.Proofs.Json.Compact
import RecordService.Sql.Bind
/-!
# Binary parameters — a value is told from what is sent for it

For each parameter a type is sent and bytes, or that it is null.  The bytes are those that the protocol prescribes for the
type (`Encoded`), and with the type they determine the value (`Bind.bytes_determine`): arrays and objects go by their
compact text, the only one of its value, and all other values have a type to themselves.
-/
namespace RecordService

/-! ## Bytes -/

/-- The number that the bytes denote in two's complement, the most significant byte first. -/
def twosComplement (bytes : List UInt8) : Int :=
  let unsigned : Nat := Nat.ofDigits 256 (bytes.reverse.map UInt8.toNat)
  Int.bmod unsigned (256 ^ bytes.length)

/-- The bytes of the characters in UTF-8. -/
def utf8 (cs : List Char) : List UInt8 := cs.flatMap String.utf8EncodeChar

theorem toList_byteArray (bytes : ByteArray) : bytes.toList = bytes.data.toList := by
  have hloop : ∀ (i : Nat) (done : List UInt8),
      ByteArray.toList.loop bytes i done = done.reverse ++ bytes.data.toList.drop i := by
    intro i done
    induction i, done using ByteArray.toList.loop.induct bytes with
    | case1 i done h ih =>
      have hi : i < bytes.data.toList.length := h
      have hbyte : bytes.get! i = bytes.data.toList[i] := by
        rw [Array.getElem_toList]
        exact getElem!_pos bytes.data i h
      rw [ByteArray.toList.loop, if_pos h, ih, List.drop_eq_getElem_cons hi, hbyte]
      simp
    | case2 i done h =>
      rw [ByteArray.toList.loop, if_neg h, List.drop_eq_nil_of_le (Nat.le_of_not_lt h), List.append_nil]
  rw [ByteArray.toList, hloop]
  rfl

theorem toList_toUTF8 (s : String) : s.toUTF8.toList = utf8 s.toList := by
  have hbytes : s.toUTF8 = s.toList.utf8Encode := by
    rw [← String.toByteArray_ofList, String.ofList_toList]
    rfl
  rw [hbytes, toList_byteArray, List.utf8Encode, List.data_toByteArray]
  rfl

/-- Text is told from its bytes. -/
theorem utf8_toList_inj {s t : String} (h : utf8 s.toList = utf8 t.toList) : s = t := by
  rw [← toList_toUTF8, ← toList_toUTF8, toList_byteArray, toList_byteArray] at h
  exact String.toByteArray_inj.1 (ByteArray.ext (Array.toList_inj.1 h))

namespace Bind

theorem length_bigEndian : ∀ count n : Nat, (bigEndian count n).length = count
  | 0, _ => rfl
  | count + 1, n => by rw [bigEndian, List.length_append, length_bigEndian count, List.length_singleton]

theorem ofDigits_bigEndian : ∀ count n : Nat,
    Nat.ofDigits 256 ((bigEndian count n).reverse.map UInt8.toNat) = n % 256 ^ count
  | 0, n => by simp [bigEndian, Nat.mod_one]
  | count + 1, n => by
    have ih := ofDigits_bigEndian count (n / 256)
    have hlast : (UInt8.ofNat n).toNat = n % 256 := by simp
    rw [bigEndian, List.reverse_append, List.reverse_singleton, List.singleton_append, List.map_cons, Nat.ofDigits_cons,
      ih, hlast, Nat.pow_succ', Nat.mod_mul]

/-- **Eight bytes are enough for an integer of 64 bits.** -/
theorem twosComplement_bigEndian {i : Int} (hlow : -2 ^ 63 ≤ i) (hhigh : i < 2 ^ 63) :
    twosComplement (bigEndian 8 (i % 18446744073709551616).toNat) = i := by
  have hnonneg : 0 ≤ i % 18446744073709551616 := Int.emod_nonneg i (by decide)
  have hless : (i % 18446744073709551616).toNat % 256 ^ 8 = (i % 18446744073709551616).toNat := by
    refine Nat.mod_eq_of_lt ?_
    omega
  unfold twosComplement
  dsimp only
  rw [ofDigits_bigEndian, hless, length_bigEndian, Int.toNat_of_nonneg hnonneg]
  show Int.bmod (i % (18446744073709551616 : Nat)) 18446744073709551616 = i
  rw [Int.emod_bmod]
  refine Int.bmod_eq_of_le ?_ ?_ <;> omega

/-! ## The form that is prescribed -/

/-- **What the protocol prescribes for a value**: its type, and its bytes unless it is null. -/
inductive Encoded : Json → String → Option (List UInt8) → Prop where
  | null : Encoded .null "untyped" none
  | true : Encoded (.bool true) "BOOL" (some [1])
  | false : Encoded (.bool false) "BOOL" (some [0])
  | int {i : Int} {bytes : List UInt8} : bytes.length = 8 → twosComplement bytes = i →
      Encoded (.num (.int i)) "INT8" (some bytes)
  | str (s : String) : Encoded (.str s) "TEXT" (some (utf8 s.toList))
  | arr {items : List Json} {text : List Char} : Json.Compact (.arr items) text →
      Encoded (.arr items) "JSONB" (some (1 :: utf8 text))
  | obj {members : Row} {text : List Char} : Json.Compact (.obj members) text →
      Encoded (.obj members) "JSONB" (some (1 :: utf8 text))

theorem ofJson_int {i : Int} (hlow : -2 ^ 63 ≤ i) (hhigh : i < 2 ^ 63) : ofJson (.num (.int i)) = .int64 i := by
  have hrange : (-9223372036854775808 ≤ i && i ≤ 9223372036854775807) = true := by
    simp only [Bool.and_eq_true, decide_eq_true_eq]
    omega
  rw [ofJson, if_pos hrange]

theorem encoded_ofJson {v : Json} (h : v.Integral) : Encoded v (ofJson v).typeName (ofJson v).bytes? := by
  have hcompact := Json.compact_compact h
  cases h with
  | null => exact .null
  | bool b =>
    cases b with
    | false => exact .false
    | true => exact .true
  | int hlow hhigh =>
    rw [ofJson_int hlow hhigh]
    exact .int (length_bigEndian 8 _) (twosComplement_bigEndian hlow hhigh)
  | str s =>
    show Encoded _ "TEXT" (some s.toUTF8.toList)
    rw [toList_toUTF8]
    exact .str s
  | @arr items _ =>
    show Encoded _ "JSONB" (some (1 :: (Json.arr items).compact.toUTF8.toList))
    rw [toList_toUTF8]
    exact .arr hcompact
  | @obj members _ =>
    show Encoded _ "JSONB" (some (1 :: (Json.obj members).compact.toUTF8.toList))
    rw [toList_toUTF8]
    exact .obj hcompact

/-! ## Values told from their parameters -/

/-- The type that a value is sent as. -/
def typeOf : Json → String
  | .null => "untyped"
  | .bool _ => "BOOL"
  | .num _ => "INT8"
  | .str _ => "TEXT"
  | .arr _ => "JSONB"
  | .obj _ => "JSONB"

theorem typeName_ofJson {v : Json} (h : v.Integral) : (ofJson v).typeName = typeOf v := by
  cases h with
  | int hlow hhigh =>
    rw [ofJson_int hlow hhigh]
    rfl
  | _ => rfl

theorem ofJson_of_jsonb {v : Json} (h : typeOf v = "JSONB") : ofJson v = .json v := by
  cases v with
  | arr _ => rfl
  | obj _ => rfl
  | _ => simp [typeOf] at h

/-- Arrays and objects are told from each other by their text. -/
theorem jsonb_determine {v w : Json} (hv : v.Integral) (hw : w.Integral) (hvtype : typeOf v = "JSONB")
    (hwtype : typeOf w = "JSONB") (hbytes : (ofJson v).bytes? = (ofJson w).bytes?) : v = w := by
  rw [ofJson_of_jsonb hvtype, ofJson_of_jsonb hwtype] at hbytes
  have htexts : v.compact.toUTF8.toList = w.compact.toUTF8.toList := (List.cons.inj (Option.some.inj hbytes)).2
  rw [toList_toUTF8, toList_toUTF8] at htexts
  exact Json.compact_inj hv hw (utf8_toList_inj htexts)

/-- **Only one value has the type and the bytes.** -/
theorem eq_of_bytes {v w : Json} (hv : v.Integral) (hw : w.Integral) (htype : (ofJson v).typeName = (ofJson w).typeName)
    (hbytes : (ofJson v).bytes? = (ofJson w).bytes?) : v = w := by
  rw [typeName_ofJson hv, typeName_ofJson hw] at htype
  cases hv with
  | null =>
    cases hw with
    | null => rfl
    | _ => simp [typeOf] at htype
  | bool a =>
    cases hw with
    | bool b =>
      cases a <;> cases b
      · rfl
      · simp [ofJson, bytes?] at hbytes
      · simp [ofJson, bytes?] at hbytes
      · rfl
    | _ => simp [typeOf] at htype
  | int hlow hhigh =>
    cases hw with
    | int hlow' hhigh' =>
      rw [ofJson_int hlow hhigh, ofJson_int hlow' hhigh'] at hbytes
      have hvalues := congrArg twosComplement (Option.some.inj hbytes)
      rw [twosComplement_bigEndian hlow hhigh, twosComplement_bigEndian hlow' hhigh'] at hvalues
      rw [hvalues]
    | _ => simp [typeOf] at htype
  | str a =>
    cases hw with
    | str b =>
      have htexts : a.toUTF8.toList = b.toUTF8.toList := Option.some.inj hbytes
      rw [toList_toUTF8, toList_toUTF8] at htexts
      rw [utf8_toList_inj htexts]
    | _ => simp [typeOf] at htype
  | arr h => exact jsonb_determine (.arr h) hw rfl htype.symm hbytes
  | obj h => exact jsonb_determine (.obj h) hw rfl htype.symm hbytes

/-- **A parameter determines its value.**  For values whose numbers are integers of 64 bits, what is sent is what the
protocol prescribes, and values that are sent alike are equal, to the order of the members of objects. -/
theorem bytes_determine :
    (∀ v : Json, v.Integral → Encoded v (ofJson v).typeName (ofJson v).bytes?) ∧
      ∀ v w : Json, v.Integral → w.Integral → (ofJson v).typeName = (ofJson w).typeName →
        (ofJson v).bytes? = (ofJson w).bytes? → v = w :=
  ⟨fun _ => encoded_ofJson, fun _ _ => eq_of_bytes⟩

end Bind

namespace Notes

/-- A title with a quote in it, and marks. -/
def marked : Json := .obj [("title", .str "\""), ("marks", .arr [.num (.int 1), .num (.int (-1))])]

/-- The same members in the other order. -/
def markedBefore : Json := .obj [("marks", .arr [.num (.int 1), .num (.int (-1))]), ("title", .str "\"")]

theorem integral_marks : (Json.arr [.num (.int 1), .num (.int (-1))]).Integral :=
  .arr (List.forall_mem_cons.2
    ⟨.int (by decide) (by decide), List.forall_mem_singleton.2 (.int (by decide) (by decide))⟩)

end Notes

namespace Bind

/-- The order of the members shows in the bytes. -/
theorem bytes_determine_notes :
    Encoded Notes.marked "JSONB" (ofJson Notes.marked).bytes? ∧
      (ofJson Notes.marked).typeName = (ofJson Notes.markedBefore).typeName ∧
      (ofJson Notes.marked).bytes? ≠ (ofJson Notes.markedBefore).bytes? := by
  have hmarked : Notes.marked.Integral :=
    .obj (List.forall_mem_cons.2 ⟨.str _, List.forall_mem_singleton.2 Notes.integral_marks⟩)
  have hbefore : Notes.markedBefore.Integral :=
    .obj (List.forall_mem_cons.2 ⟨Notes.integral_marks, List.forall_mem_singleton.2 (.str _)⟩)
  refine ⟨bytes_determine.1 Notes.marked hmarked, rfl, fun hbytes => ?_⟩
  have hsame := bytes_determine.2 Notes.marked Notes.markedBefore hmarked hbefore rfl hbytes
  simp [Notes.marked, Notes.markedBefore] at hsame

end Bind
end RecordService
