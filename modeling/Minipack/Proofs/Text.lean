/-
Texts and their bytes.

Bytes are decoded to the one text that they encode (`Text.decode_eq_ok_iff`).  The three bytes of a
byte order mark encode a character, and bytes with the mark in front encode a text exactly if the
bytes behind it do: the text with that character in front (`Text.decode_mark`).  Dropping a mark
from the bytes of a text drops that character from the front of the text (`stripMark_toUTF8`).
-/
import Minipack.Path.Specifier
import Minipack.Text.Utf8

namespace Minipack

/-! ### Lists of bytes -/

theorem toList_loop_eq (bytes : ByteArray) (i : Nat) (done : List UInt8) :
    ByteArray.toList.loop bytes i done = done.reverse ++ bytes.data.toList.drop i := by
  fun_induction ByteArray.toList.loop bytes i done with
  | case1 i done hi ih =>
    have hlength : i < bytes.data.toList.length := by
      rw [Array.length_toList]
      exact hi
    have hget : bytes.get! i = bytes.data.toList[i] := by
      show bytes.data[i]! = _
      rw [getElem!_pos bytes.data i hi, Array.getElem_toList]
    rw [ih, List.drop_eq_getElem_cons hlength, hget, List.reverse_cons, List.append_assoc]
    rfl
  | case2 i done hi =>
    rw [List.drop_eq_nil_of_le, List.append_nil]
    rw [Array.length_toList]
    exact Nat.le_of_not_lt hi

theorem toList_eq (bytes : ByteArray) : bytes.toList = bytes.data.toList :=
  (toList_loop_eq bytes 0 []).trans rfl

namespace Text

/-! ### Decoding -/

variable {bytes : ByteArray} {text : String}

theorem decode_eq_ok_iff : decode bytes = .ok text ↔ bytes = text.toUTF8 := by
  constructor
  · intro h
    unfold decode String.fromUTF8? at h
    split at h
    · next heq =>
      split at heq
      · obtain rfl := Option.some.inj heq
        obtain rfl := Except.ok.inj h
        rfl
      · cases heq
    · cases h
  · rintro rfl
    exact decode_toUTF8 text

theorem toUTF8_inj {other : String} (h : text.toUTF8 = other.toUTF8) : text = other :=
  Except.ok.inj ((decode_toUTF8 text).symm.trans (decode_eq_ok_iff.2 h))

/-! ### The byte order mark -/

/-- The character of a byte order mark. -/
def mark : Char := '\ufeff'

/-- The bytes of a byte order mark. -/
def markBytes : ByteArray :=
  ⟨#[0xef, 0xbb, 0xbf]⟩

theorem toByteArray_mark : (String.utf8EncodeChar mark).toByteArray = markBytes := by
  decide +kernel

theorem toUTF8_cons (c : Char) (text : List Char) :
    (String.ofList (c :: text)).toUTF8 =
      (String.utf8EncodeChar c).toByteArray ++ (String.ofList text).toUTF8 := by
  show (String.ofList (c :: text)).toByteArray = _ ++ (String.ofList text).toByteArray
  rw [String.toByteArray_ofList, String.toByteArray_ofList, List.utf8Encode_cons,
    List.utf8Encode_singleton]

theorem toUTF8_mark (text : List Char) :
    (String.ofList (mark :: text)).toUTF8 = markBytes ++ (String.ofList text).toUTF8 := by
  rw [toUTF8_cons, toByteArray_mark]

/-- Bytes that begin with the mark encode a text that begins with its character. -/
theorem exists_of_toUTF8_mark {chars : List Char} {rest : ByteArray}
    (h : (String.ofList chars).toUTF8 = markBytes ++ rest) :
    ∃ tail, chars = mark :: tail ∧ rest = (String.ofList tail).toUTF8 := by
  cases chars with
  | nil =>
    have hsize := congrArg ByteArray.size h
    rw [ByteArray.size_append] at hsize
    exact absurd hsize (Nat.ne_of_lt (Nat.lt_add_right _ (by decide)))
  | cons c tail =>
    rw [toUTF8_cons, ← toByteArray_mark] at h
    have hc : c = mark := by
      have hfirst := congrArg (fun bytes => bytes.utf8DecodeChar? 0) h
      rw [ByteArray.utf8DecodeChar?_utf8EncodeChar_append,
        ByteArray.utf8DecodeChar?_utf8EncodeChar_append] at hfirst
      exact Option.some.inj hfirst
    subst hc
    exact ⟨tail, rfl, ((ByteArray.append_right_inj _).1 h).symm⟩

/-- The bytes of a text that does not begin with the character do not begin with the mark. -/
theorem toUTF8_ne_mark {chars : List Char} (h : chars.head? ≠ some mark) (rest : ByteArray) :
    (String.ofList chars).toUTF8 ≠ markBytes ++ rest := fun heq => by
  obtain ⟨tail, rfl, -⟩ := exists_of_toUTF8_mark heq
  exact h rfl

/-- Bytes with a mark in front are decoded as the bytes behind it. -/
theorem decode_mark (bytes : ByteArray) :
    (∃ text, decode bytes = .ok text ∧
        decode (markBytes ++ bytes) = .ok (String.ofList (mark :: text.toList))) ∨
      ∃ fault fault', decode bytes = .error fault ∧
        decode (markBytes ++ bytes) = .error fault' := by
  cases hdecode : decode bytes with
  | ok text =>
    refine Or.inl ⟨text, rfl, ?_⟩
    rw [decode_eq_ok_iff, toUTF8_mark, String.ofList_toList, decode_eq_ok_iff.1 hdecode]
  | error fault =>
    cases hmarked : decode (markBytes ++ bytes) with
    | error fault' => exact Or.inr ⟨fault, fault', rfl, rfl⟩
    | ok text =>
      have hbytes := decode_eq_ok_iff.1 hmarked
      rw [← String.ofList_toList (s := text)] at hbytes
      obtain ⟨tail, -, hrest⟩ := exists_of_toUTF8_mark hbytes.symm
      rw [decode_eq_ok_iff.2 hrest] at hdecode
      cases hdecode

/-- A text without the character of a mark in front. -/
def dropMark : List Char → List Char
  | [] => []
  | c :: rest => if c = mark then rest else c :: rest

theorem dropMark_mark (text : List Char) : dropMark (mark :: text) = text :=
  rfl

theorem dropMark_of_head {text : List Char} (h : text.head? ≠ some mark) :
    dropMark text = text := by
  cases text with
  | nil => rfl
  | cons c rest => exact if_neg fun hc => h (congrArg some hc)

end Text

open Text

theorem stripMark_mark (bytes : ByteArray) : stripMark (markBytes ++ bytes) = bytes := by
  have hfront : (markBytes ++ bytes).extract 0 3 = markBytes :=
    ByteArray.extract_append_eq_left rfl
  rw [stripMark, hfront, if_pos (by decide +kernel), ByteArray.size_append]
  exact ByteArray.extract_append_eq_right rfl rfl

theorem stripMark_of_ne {bytes : ByteArray} (h : ∀ rest, bytes ≠ markBytes ++ rest) :
    stripMark bytes = bytes := by
  rw [stripMark]
  refine if_neg fun hfront => h (bytes.extract 3 bytes.size) ?_
  have hmark : bytes.extract 0 3 = markBytes := by
    rw [toList_eq] at hfront
    exact ByteArray.ext (Array.ext' hfront)
  rw [← hmark, ByteArray.extract_append_extract, Nat.zero_min, ByteArray.extract_zero_max_size]

/-- The bytes of a text lose the mark when the text loses its character. -/
theorem stripMark_toUTF8 (text : List Char) :
    stripMark (String.ofList text).toUTF8 = (String.ofList (dropMark text)).toUTF8 := by
  by_cases h : text.head? = some mark
  · obtain ⟨rest, rfl⟩ := List.head?_eq_some_iff.1 h
    rw [dropMark_mark, toUTF8_mark, stripMark_mark]
  · rw [dropMark_of_head h, stripMark_of_ne (toUTF8_ne_mark h)]

end Minipack
