/-
Reading what has been written.

The compact text of a value is read as the document of the value (`Document.read?_compact`), when
its numbers are whole and fit in 64 bits.  The readers of the parts are followed on the bytes of the
parts with something behind them.  A string may be followed by anything; a number ends only where no
digit, point or exponent follows, so the rest behind a value is empty or begins with a comma or a
closing bracket (`Ends`).  The readers of values carry fuel, of which two for each byte are enough.
-/
import Mathlib.Tactic.IntervalCases
import Minipack.Json.Reader
import Minipack.Json.Writer
import Minipack.Proofs.Json.Reading

namespace Minipack

/-! ### Bytes of texts -/

/-- The bytes of characters. -/
def utf8 (text : List Char) : List UInt8 :=
  text.flatMap String.utf8EncodeChar

theorem utf8_append (a b : List Char) : utf8 (a ++ b) = utf8 a ++ utf8 b :=
  List.flatMap_append

theorem utf8_cons (c : Char) (text : List Char) :
    utf8 (c :: text) = String.utf8EncodeChar c ++ utf8 text :=
  List.flatMap_cons

theorem data_toUTF8 (s : String) : s.toUTF8.data.toList = utf8 s.toList := by
  have hbytes : s.toByteArray = (utf8 s.toList).toByteArray := by
    rw [← String.ofList_toList (s := s), String.toByteArray_ofList, String.toList_ofList]
    rfl
  show s.toByteArray.data.toList = _
  rw [hbytes, List.toList_data_toByteArray]

theorem toList_toUTF8 (s : String) : s.toUTF8.toList = utf8 s.toList := by
  rw [← data_toUTF8]
  exact toList_eq s.toUTF8

/-- A character of ASCII is one byte. -/
theorem utf8EncodeChar_ascii {c : Char} (h : c.toNat ≤ 127) :
    String.utf8EncodeChar c = [UInt8.ofNat c.toNat] := by
  unfold String.utf8EncodeChar
  exact if_pos h

/-- The bytes of other characters are not ASCII. -/
theorem le_of_mem_utf8EncodeChar {c : Char} (h : 127 < c.toNat) {b : UInt8}
    (hb : b ∈ String.utf8EncodeChar c) : 0x80 ≤ b := by
  have hbyte (n : Nat) (hn : 128 ≤ n % 256) : (0x80 : UInt8) ≤ UInt8.ofNat n := by
    rw [UInt8.le_iff_toNat_le, UInt8.toNat_ofNat']
    exact hn
  unfold String.utf8EncodeChar at hb
  dsimp only at hb
  split at hb
  · next hle => exact absurd hle (Nat.not_le.2 h)
  split at hb
  · simp only [List.mem_cons, List.not_mem_nil, or_false] at hb
    rcases hb with rfl | rfl <;> exact hbyte _ (by omega)
  · split at hb <;>
      simp only [List.mem_cons, List.not_mem_nil, or_false] at hb
    · rcases hb with rfl | rfl | rfl <;> exact hbyte _ (by omega)
    · rcases hb with rfl | rfl | rfl | rfl <;> exact hbyte _ (by omega)

namespace JsonReader

/-! ### Strings -/

/-- Bytes that are neither quotes, backslashes nor controls stand for themselves. -/
theorem stringFrom?_plain {bytes : List UInt8}
    (h : ∀ b ∈ bytes, b ≠ 0x22 ∧ b ≠ 0x5c ∧ ¬ b < 0x20) (fuel : Nat) (done : List UInt8)
    (sound : Bool) (rest : List UInt8) :
    stringFrom? (fuel + bytes.length) done sound (bytes ++ rest) =
      stringFrom? fuel (bytes.reverse ++ done) sound rest := by
  induction bytes generalizing done with
  | nil => rfl
  | cons b bytes ih =>
    obtain ⟨hquote, hslash, hcontrol⟩ := h b List.mem_cons_self
    rw [List.length_cons, ← Nat.add_assoc, List.cons_append, stringFrom?, if_neg hquote,
      if_neg hslash, if_neg hcontrol, ih fun b hb => h b (List.mem_cons_of_mem _ hb),
      List.reverse_cons, List.append_assoc]
    rfl

/-- A control character is read back from its number. -/
theorem escape?_fourDigits {n : Nat} (h : n < 0x20) (rest : List UInt8) :
    escape? (0x75 :: (utf8 (Json.fourDigits n) ++ rest)) =
      some (⟨String.utf8EncodeChar (Char.ofNat n), true⟩, rest) := by
  interval_cases n <;> rfl

/-- An escape counts as one step. -/
theorem stringFrom?_escape {bytes piece rest : List UInt8}
    (h : escape? bytes = some (⟨piece, true⟩, rest)) (fuel : Nat) (done : List UInt8) :
    stringFrom? (fuel + 1) done true (0x5c :: bytes) =
      stringFrom? fuel (piece.reverse ++ done) true rest := by
  show (escape? bytes >>= fun r => stringFrom? fuel (r.1.bytes.reverse ++ done)
    (true && r.1.sound) r.2) = _
  rw [h]
  rfl

/-- A character is read back from the way it stands in a string. -/
theorem stringFrom?_escapeChar (c : Char) (fuel : Nat) (done rest : List UInt8) :
    ∃ left, fuel ≤ left ∧
      stringFrom? (fuel + (utf8 (Json.escapeChar c)).length) done true
        (utf8 (Json.escapeChar c) ++ rest) =
          stringFrom? left ((String.utf8EncodeChar c).reverse ++ done) true rest := by
  -- a short escape, four digits, or the bytes of the character
  by_cases hshort : c ∈ ['\x22', '\\', '\x08', '\x0c', '\n', '\r', '\t']
  · refine ⟨fuel + 1, Nat.le_succ fuel, ?_⟩
    simp only [List.mem_cons, List.not_mem_nil, or_false] at hshort
    rcases hshort with rfl | rfl | rfl | rfl | rfl | rfl | rfl <;>
      exact stringFrom?_escape rfl (fuel + 1) done
  simp only [List.mem_cons, List.not_mem_nil, or_false, not_or] at hshort
  obtain ⟨hquote, hslash, hback, hfeed, hline, hreturn, htab⟩ := hshort
  unfold Json.escapeChar
  rw [if_neg hquote, if_neg hslash, if_neg hback, if_neg hfeed, if_neg hline, if_neg hreturn,
    if_neg htab]
  split
  · next hcontrol =>
    have hescape := escape?_fourDigits (n := c.toNat) hcontrol rest
    rw [Char.ofNat_toNat] at hescape
    refine ⟨fuel + (utf8 (Json.fourDigits c.toNat)).length + 1, by omega, ?_⟩
    exact stringFrom?_escape hescape (fuel + (utf8 (Json.fourDigits c.toNat)).length + 1) done
  · next hcontrol =>
    have hplain : ∀ b ∈ String.utf8EncodeChar c, b ≠ 0x22 ∧ b ≠ 0x5c ∧ ¬ b < 0x20 := by
      intro b hb
      -- beyond ASCII no byte of a character is an ASCII byte
      by_cases hascii : c.toNat ≤ 127
      · rw [utf8EncodeChar_ascii hascii, List.mem_singleton] at hb
        have hval : b.toNat = c.toNat := by
          rw [hb, UInt8.toNat_ofNat']
          omega
        have hne (d : Char) (hd : c ≠ d) : b.toNat ≠ d.toNat := fun heq =>
          hd (Char.toNat_inj.1 (hval.symm.trans heq))
        refine ⟨fun heq => hne '\x22' hquote (by rw [heq]; rfl),
          fun heq => hne '\\' hslash (by rw [heq]; rfl), fun hlt => hcontrol ?_⟩
        rw [UInt8.lt_iff_toNat_lt, hval] at hlt
        exact hlt
      · have hle := UInt8.le_iff_toNat_le.1 (le_of_mem_utf8EncodeChar (Nat.not_le.1 hascii) hb)
        refine ⟨?_, ?_, fun hlt => ?_⟩
        · rintro rfl
          exact absurd hle (by decide)
        · rintro rfl
          exact absurd hle (by decide)
        · exact absurd (UInt8.lt_iff_toNat_lt.1 hlt) (Nat.not_lt.2 (Nat.le_trans (by decide) hle))
    have hone : utf8 [c] = String.utf8EncodeChar c := List.append_nil _
    rw [hone]
    exact ⟨fuel, Nat.le_refl fuel, stringFrom?_plain hplain fuel done true rest⟩

/-- A text is read back from its literal. -/
theorem stringFrom?_stringLiteral (text : List Char) (rest : List UInt8) (fuel : Nat)
    (done : List UInt8) (h : (utf8 (text.flatMap Json.escapeChar)).length < fuel) :
    stringFrom? fuel done true (utf8 (text.flatMap Json.escapeChar) ++ 0x22 :: rest) =
      some (⟨done.reverse ++ utf8 text, true⟩, rest) := by
  induction text generalizing fuel done with
  | nil =>
    obtain ⟨fuel, rfl⟩ := Nat.exists_eq_add_of_lt h
    show some ((⟨done.reverse, true⟩ : RawText), rest) = some (⟨done.reverse ++ [], true⟩, rest)
    rw [List.append_nil]
  | cons c text ih =>
    rw [List.flatMap_cons, utf8_append] at h ⊢
    rw [List.length_append] at h
    obtain ⟨more, rfl⟩ := Nat.exists_eq_add_of_le
      (Nat.le_of_lt (Nat.lt_of_le_of_lt (Nat.le_add_right _ _) h))
    rw [List.append_assoc, Nat.add_comm]
    obtain ⟨left, hle, heq⟩ := stringFrom?_escapeChar c more done
      (utf8 (text.flatMap Json.escapeChar) ++ 0x22 :: rest)
    rw [heq, ih left _ (by omega), List.reverse_append, List.reverse_reverse, List.append_assoc,
      utf8_cons]

/-! ### Numbers -/

/-- What may stand behind a value in an array or an object. -/
def Ends (rest : List UInt8) : Prop :=
  ∀ b ∈ rest.head?, b = 0x2c ∨ b = 0x5d ∨ b = 0x7d

theorem collectWhole_digits {digits : List UInt8} {n : Nat}
    (h : digits.foldl (fun n d => n * 10 + digitValue d) n ≤ maxWord) :
    collectWhole ⟨n, 0⟩ digits = ⟨digits.foldl (fun n d => n * 10 + digitValue d) n, 0⟩ := by
  induction digits generalizing n with
  | nil => rfl
  | cons d rest ih =>
    have hgrown : n * 10 + digitValue d ≤ maxWord := by
      refine Nat.le_trans ?_ h
      -- later digits only make the number larger
      rw [List.foldl_cons]
      generalize n * 10 + digitValue d = m
      clear h ih
      induction rest generalizing m with
      | nil => exact Nat.le_refl m
      | cons e rest ih =>
        rw [List.foldl_cons]
        exact Nat.le_trans (by omega) (ih (m * 10 + digitValue e))
    rw [collectWhole, if_pos ⟨rfl, hgrown⟩, List.foldl_cons]
    exact ih h

theorem utf8_digitChar {n : Nat} (h : n < 10) :
    utf8 [n.digitChar] = [UInt8.ofNat (0x30 + n)] := by
  interval_cases n <;> rfl

theorem isDigit_ofNat {n : Nat} (h : n < 10) : isDigit (UInt8.ofNat (0x30 + n)) = true := by
  interval_cases n <;> rfl

theorem digitValue_ofNat {n : Nat} (h : n < 10) : digitValue (UInt8.ofNat (0x30 + n)) = n := by
  interval_cases n <;> rfl

/-- The bytes of a number are digits without a leading zero, which have the number's value. -/
structure Numeral (n : Nat) (bytes : List UInt8) : Prop where
  digits : ∀ b ∈ bytes, isDigit b = true
  value : bytes.foldl (fun n d => n * 10 + digitValue d) 0 = n
  ne_nil : bytes ≠ []
  leading : bytes.head? = some 0x30 → bytes.length = 1

theorem numeral_toDigits (n : Nat) : Numeral n (utf8 (Nat.toDigits 10 n)) := by
  induction n using Nat.strongRecOn with
  | ind n ih =>
    rcases Nat.lt_or_ge n 10 with h | h
    · rw [Nat.toDigits_of_lt_base h, utf8_digitChar h]
      refine ⟨?_, ?_, List.cons_ne_nil _ _, fun _ => rfl⟩
      · intro b hb
        rw [List.mem_singleton.1 hb]
        exact isDigit_ofNat h
      · show 0 * 10 + digitValue (UInt8.ofNat (0x30 + n)) = n
        rw [digitValue_ofNat h, Nat.zero_mul, Nat.zero_add]
    · -- one digit more than the number without its last digit
      have hlast : n % 10 < 10 := Nat.mod_lt n (by decide)
      have hrest := ih (n / 10) (by omega)
      rw [Nat.toDigits_of_base_le (by decide) h, utf8_append, utf8_digitChar hlast]
      refine ⟨?_, ?_, List.append_ne_nil_of_left_ne_nil hrest.ne_nil _, ?_⟩
      · intro b hb
        rcases List.mem_append.1 hb with hb | hb
        · exact hrest.digits b hb
        · rw [List.mem_singleton.1 hb]
          exact isDigit_ofNat hlast
      · rw [List.foldl_append, hrest.value]
        show n / 10 * 10 + digitValue (UInt8.ofNat (0x30 + n % 10)) = n
        rw [digitValue_ofNat hlast]
        omega
      · intro hzero
        rw [List.head?_append_of_ne_nil _ hrest.ne_nil] at hzero
        -- the digits before would be a zero alone
        have hvalue := hrest.value
        obtain ⟨b, hb⟩ := List.length_eq_one_iff.1 (hrest.leading hzero)
        rw [hb] at hzero hvalue
        obtain rfl := Option.some.inj hzero
        change 0 = n / 10 at hvalue
        omega

/-- Nothing that continues a number stands behind a value. -/
theorem Ends.not_number {b : UInt8} {rest : List UInt8} (h : Ends (b :: rest)) :
    isDigit b = false ∧ b ≠ 0x2e ∧ b ≠ 0x65 ∧ b ≠ 0x45 := by
  rcases h b rfl with rfl | rfl | rfl <;> decide

/-- Digits are read up to their end. -/
theorem Numeral.whole? {n : Nat} {bytes rest : List UInt8} (h : Numeral n bytes)
    (hends : Ends rest) : whole? (bytes ++ rest) = some (bytes, rest) := by
  have htake : (bytes ++ rest).takeWhile isDigit = bytes ∧
      (bytes ++ rest).dropWhile isDigit = rest := by
    rw [List.takeWhile_append_of_pos h.digits, List.dropWhile_append_of_pos h.digits]
    cases rest with
    | nil => exact ⟨List.append_nil _, rfl⟩
    | cons b rest =>
      have hb := hends.not_number.1
      rw [List.takeWhile_cons_of_neg (by rw [hb]; exact Bool.false_ne_true),
        List.dropWhile_cons_of_neg (by rw [hb]; exact Bool.false_ne_true)]
      exact ⟨List.append_nil _, rfl⟩
  unfold JsonReader.whole? digits?
  rw [htake.1, htake.2, if_neg (by rw [List.isEmpty_iff]; exact h.ne_nil)]
  show (if bytes.head? = some 0x30 ∧ 1 < bytes.length then none else some (bytes, rest)) = _
  rw [if_neg fun hzero => absurd (h.leading hzero.1) (Nat.ne_of_gt hzero.2)]

/-- A number without a fraction and an exponent is read up to its end. -/
theorem Numeral.literal? {n : Nat} {bytes rest : List UInt8} (h : Numeral n bytes)
    (hends : Ends rest) : literal? (bytes ++ rest) = some (⟨false, bytes, none, none⟩, rest) ∧
      literal? (0x2d :: (bytes ++ rest)) = some (⟨true, bytes, none, none⟩, rest) := by
  have hfraction : fraction? rest = some (none, rest) := by
    unfold fraction?
    split
    · exact absurd rfl hends.not_number.2.1
    · rfl
  have hexponent : exponent? rest = some (none, rest) := by
    cases rest with
    | nil => rfl
    | cons b rest => exact if_neg (not_or.2 hends.not_number.2.2)
  have hwhole := h.whole? hends
  constructor
  · unfold JsonReader.literal?
    obtain ⟨b, more, rfl⟩ := List.exists_cons_of_ne_nil h.ne_nil
    have hsign : b ≠ 0x2d := by
      rintro rfl
      exact absurd (h.digits 0x2d List.mem_cons_self) (by decide)
    split
    next negative tail heq =>
    split at heq
    · next hcons => exact absurd (List.cons.inj hcons).1 hsign
    · obtain ⟨rfl, rfl⟩ := Prod.mk.inj heq
      simp only [hwhole, Option.bind_eq_bind, Option.bind_some, hfraction, hexponent]
      rfl
  · unfold JsonReader.literal?
    simp only [hwhole, Option.bind_eq_bind, Option.bind_some, hfraction, hexponent]
    rfl

end JsonReader

/-- Whole numbers that fit in 64 bits. -/
def JsonNumber.Exact : JsonNumber → Prop
  | natural n => n ≤ JsonReader.maxWord
  | negative n => 0 < n ∧ n ≤ 0x8000000000000000
  | float _ => False

namespace JsonReader

/-- A whole number is read back from its text, which begins with a digit or a sign. -/
theorem literal?_text {number : JsonNumber} (h : number.Exact) {rest : List UInt8}
    (hends : Ends rest) :
    ∃ b more, utf8 number.text.toList = b :: more ∧ (isDigit b = true ∨ b = 0x2d) ∧
      (literal? (b :: more ++ rest)).map (fun r => (Document.number r.1.value?, r.2)) =
        some (.number (some number), rest) := by
  cases number with
  | natural n =>
    have hn := numeral_toDigits n
    -- the digits are collected without an overflow
    have hvalue : collectWhole ⟨0, 0⟩ (utf8 (Nat.toDigits 10 n)) = ⟨n, 0⟩ := by
      rw [collectWhole_digits (by rw [hn.value]; exact h), hn.value]
    obtain ⟨b, more, hbytes⟩ := List.exists_cons_of_ne_nil hn.ne_nil
    have htext : utf8 (JsonNumber.natural n).text.toList = utf8 (Nat.toDigits 10 n) := by
      show utf8 (String.ofList (Nat.toDigits 10 n)).toList = _
      rw [String.toList_ofList]
    refine ⟨b, more, htext.trans hbytes,
      .inl (hn.digits b (by rw [hbytes]; exact List.mem_cons_self)), ?_⟩
    rw [← hbytes, (hn.literal? hends).1, Option.map_some, Literal.value?, hvalue]
    rfl
  | negative n =>
    have hn := numeral_toDigits n
    have hvalue : collectWhole ⟨0, 0⟩ (utf8 (Nat.toDigits 10 n)) = ⟨n, 0⟩ := by
      rw [collectWhole_digits, hn.value]
      rw [hn.value]
      exact Nat.le_trans h.2 (by decide)
    refine ⟨0x2d, utf8 (Nat.toDigits 10 n), ?_, .inr rfl, ?_⟩
    · show utf8 ("-" ++ String.ofList (Nat.toDigits 10 n)).toList = _
      rw [String.toList_append, String.toList_ofList, String.toList_ofList]
      rfl
    · rw [List.cons_append, (hn.literal? hends).2, Option.map_some, Literal.value?]
      dsimp only
      rw [hvalue]
      simp [h.2, Nat.ne_of_gt h.1]
  | float x => exact h.elim

end JsonReader

/-! ### Values -/

namespace Json

mutual

/-- All numbers are whole and fit in 64 bits. -/
def Exact : Json → Prop
  | number n => n.Exact
  | array items => ExactItems items
  | object members => ExactMembers members
  | _ => True

/-- All numbers of an array's items are whole and fit in 64 bits. -/
def ExactItems : List Json → Prop
  | [] => True
  | item :: rest => Exact item ∧ ExactItems rest

/-- All numbers of an object's members are whole and fit in 64 bits. -/
def ExactMembers : List (String × Json) → Prop
  | [] => True
  | (_, value) :: rest => Exact value ∧ ExactMembers rest

end

end Json

namespace JsonReader

theorem skipGaps_of_not_gap {b : UInt8} (h : isGap b = false) (rest : List UInt8) :
    skipGaps (b :: rest) = b :: rest :=
  List.dropWhile_cons_of_neg (by rw [h]; exact Bool.false_ne_true)

theorem utf8_stringLiteral (s : String) :
    utf8 (Json.stringLiteral s).toList =
      0x22 :: (utf8 (s.toList.flatMap Json.escapeChar) ++ [0x22]) := by
  rw [Json.stringLiteral, String.toList_ofList, List.cons_append, utf8_cons, utf8_append]
  rfl

/-- A text is read back from its literal. -/
theorem string?_stringLiteral (s : String) (rest : List UInt8) :
    string? (utf8 (s.toList.flatMap Json.escapeChar) ++ 0x22 :: rest) =
      some (RawText.ofString s, rest) := by
  rw [string?, stringFrom?_stringLiteral _ _ _ _ (by rw [List.length_append]; omega),
    RawText.ofString, toList_toUTF8]
  rfl

/-- The byte at the front of a number is none that tells of another value. -/
theorem not_gap_of_number {b : UInt8} (h : isDigit b = true ∨ b = 0x2d) :
    isGap b = false ∧ ∀ c ∈ [0x7b, 0x5b, 0x22, 0x6e, 0x74, 0x66, 0x5d], b ≠ c := by
  constructor
  · rw [Bool.eq_false_iff]
    intro hgap
    simp only [isGap, Bool.or_eq_true, beq_iff_eq] at hgap
    rcases hgap with ((rfl | rfl) | rfl) | rfl <;> exact absurd h (by decide)
  · intro c hc hbc
    subst hbc
    simp only [List.mem_cons, List.not_mem_nil, or_false] at hc
    rcases hc with rfl | rfl | rfl | rfl | rfl | rfl | rfl <;> exact absurd h (by decide)

theorem utf8_compact_array (items : List Json) :
    utf8 (Json.array items).compact.toList =
      0x5b :: (utf8 (",".intercalate (Json.compactItems items)).toList ++ [0x5d]) := by
  rw [Json.compact, String.append_assoc, String.toList_append, String.toList_append, utf8_append,
    utf8_append]
  rfl

theorem utf8_compact_object (members : List (String × Json)) :
    utf8 (Json.object members).compact.toList =
      0x7b :: (utf8 (",".intercalate (Json.compactMembers members)).toList ++ [0x7d]) := by
  rw [Json.compact, String.append_assoc, String.toList_append, String.toList_append, utf8_append,
    utf8_append]
  rfl

/-- The text of a value begins with a byte that is no blank and closes no array. -/
theorem exists_compact_eq_cons {value : Json} (h : value.Exact) :
    ∃ b more, utf8 value.compact.toList = b :: more ∧ isGap b = false ∧ b ≠ 0x5d := by
  cases value with
  | null => exact ⟨_, _, rfl, by decide, by decide⟩
  | bool flag => cases flag <;> exact ⟨_, _, rfl, by decide, by decide⟩
  | number n =>
    have hn : n.Exact := h
    have hends : Ends [] := nofun
    obtain ⟨b, more, hbytes, hb, -⟩ := literal?_text hn hends
    exact ⟨b, more, hbytes, (not_gap_of_number hb).1, (not_gap_of_number hb).2 _ (by decide)⟩
  | string s => exact ⟨_, _, utf8_stringLiteral s, by decide, by decide⟩
  | array items => exact ⟨_, _, utf8_compact_array items, by decide, by decide⟩
  | object members => exact ⟨_, _, utf8_compact_object members, by decide, by decide⟩

/-- Texts with commas between them. -/
theorem utf8_intercalate (a b : String) (texts : List String) :
    utf8 (",".intercalate (a :: b :: texts)).toList =
      utf8 a.toList ++ 0x2c :: utf8 (",".intercalate (b :: texts)).toList := by
  rw [String.intercalate_cons_cons, String.toList_append, String.toList_append, utf8_append,
    utf8_append, List.append_assoc]
  rfl

/-- The first text stands at the front. -/
theorem exists_intercalate_eq_append (text : String) (texts : List String) :
    ∃ others, utf8 (",".intercalate (text :: texts)).toList = utf8 text.toList ++ others := by
  cases texts with
  | nil => exact ⟨[], by rw [String.intercalate_singleton, List.append_nil]⟩
  | cons next texts => exact ⟨_, utf8_intercalate text next texts⟩

theorem expect?_append (word : String) (rest : List UInt8) :
    expect? word.toUTF8.toList (utf8 word.toList ++ rest) = some rest := by
  rw [toList_toUTF8, expect?,
    if_pos (List.isPrefixOf_iff_prefix.2 (List.prefix_append _ rest)), List.drop_left]

theorem value?_null (fuel : Nat) (rest : List UInt8) :
    value? (fuel + 1) (utf8 "null".toList ++ rest) = some (.null, rest) := by
  exact congrArg (Option.map (Document.null, ·)) (expect?_append "ull" rest)

theorem value?_bool (flag : Bool) (fuel : Nat) (rest : List UInt8) :
    value? (fuel + 1) (utf8 (if flag then "true" else "false").toList ++ rest) =
      some (.bool flag, rest) := by
  cases flag with
  | false => exact congrArg (Option.map (Document.bool false, ·)) (expect?_append "alse" rest)
  | true => exact congrArg (Option.map (Document.bool true, ·)) (expect?_append "rue" rest)

theorem value?_number {number : JsonNumber} (h : number.Exact) (fuel : Nat) {rest : List UInt8}
    (hends : Ends rest) :
    value? (fuel + 1) (utf8 number.text.toList ++ rest) = some (.number (some number), rest) := by
  obtain ⟨b, more, hbytes, hb, hread⟩ := literal?_text h hends
  obtain ⟨hgap, hne⟩ := not_gap_of_number hb
  simp only [List.forall_mem_cons, List.not_mem_nil, false_imp_iff, implies_true, and_true] at hne
  obtain ⟨hobject, harray, hstring, hnull, htrue, hfalse, -⟩ := hne
  rw [hbytes, List.cons_append, value?, skipGaps_of_not_gap hgap]
  dsimp only
  rw [if_neg hobject, if_neg harray, if_neg hstring, if_neg hnull, if_neg htrue, if_neg hfalse]
  exact hread

theorem value?_string (s : String) (fuel : Nat) (rest : List UInt8) :
    value? (fuel + 1) (utf8 (Json.stringLiteral s).toList ++ rest) =
      some (.string (RawText.ofString s), rest) := by
  rw [utf8_stringLiteral, List.cons_append, List.append_assoc, value?,
    skipGaps_of_not_gap (by decide)]
  show (string? (utf8 (s.toList.flatMap Json.escapeChar) ++ 0x22 :: rest)).map _ = _
  rw [string?_stringLiteral]
  rfl

/-- An array that is not empty is read item by item. -/
theorem value?_array {b : UInt8} {bytes : List UInt8} (hgap : isGap b = false) (hb : b ≠ 0x5d)
    (fuel : Nat) : value? (fuel + 1) (0x5b :: b :: bytes) = items? fuel [] (b :: bytes) := by
  rw [value?, skipGaps_of_not_gap (by decide)]
  refine (if_neg (by decide)).trans ((if_pos rfl).trans ?_)
  rw [skipGaps_of_not_gap hgap]
  split
  · next heq => exact absurd (List.cons.inj heq).1 hb
  · rfl

/-- An object that is not empty is read member by member. -/
theorem value?_object (bytes : List UInt8) (fuel : Nat) :
    value? (fuel + 1) (0x7b :: 0x22 :: bytes) = members? fuel [] (0x22 :: bytes) := by
  rw [value?, skipGaps_of_not_gap (by decide)]
  rfl

/-- After an item the array goes on behind a comma and ends at its bracket. -/
theorem items?_of_value? {fuel : Nat} {done : List Document} {bytes rest : List UInt8}
    {item : Document} :
    (value? fuel bytes = some (item, 0x2c :: rest) →
      items? (fuel + 1) done bytes = items? fuel (item :: done) rest) ∧
    (value? fuel bytes = some (item, 0x5d :: rest) →
      items? (fuel + 1) done bytes = some (.array (done.reverse ++ [item]), rest)) := by
  constructor
  · intro h
    rw [items?, h]
    rfl
  · intro h
    rw [items?, h, ← List.reverse_cons]
    rfl

/-- After the name of a member and a colon its value is read.  Behind a comma the object goes on,
and it ends at its brace. -/
theorem members?_of_value? (name : String) {value : Json} {fuel : Nat}
    {done : List (RawText × Document)} {more rest : List UInt8} {item : Document} :
    (value? fuel (utf8 value.compact.toList ++ more) = some (item, 0x2c :: rest) →
      members? (fuel + 1) done
          (utf8 (Json.stringLiteral name ++ ":" ++ value.compact).toList ++ more) =
        members? fuel ((RawText.ofString name, item) :: done) rest) ∧
    (value? fuel (utf8 value.compact.toList ++ more) = some (item, 0x7d :: rest) →
      members? (fuel + 1) done
          (utf8 (Json.stringLiteral name ++ ":" ++ value.compact).toList ++ more) =
        some (.object (done.reverse ++ [(RawText.ofString name, item)]), rest)) := by
  have hbytes : utf8 (Json.stringLiteral name ++ ":" ++ value.compact).toList ++ more =
      0x22 :: (utf8 (name.toList.flatMap Json.escapeChar) ++
        0x22 :: 0x3a :: (utf8 value.compact.toList ++ more)) := by
    rw [String.toList_append, String.toList_append, utf8_append, utf8_append, utf8_stringLiteral]
    simp only [List.cons_append, List.append_assoc, List.nil_append]
    rfl
  have hname := string?_stringLiteral name (0x3a :: (utf8 value.compact.toList ++ more))
  rw [hbytes, members?, skipGaps_of_not_gap (by decide)]
  constructor
  · intro h
    show (string? _ >>= _) = _
    rw [hname]
    show (value? fuel (utf8 value.compact.toList ++ more) >>= _) = _
    rw [h]
    rfl
  · intro h
    show (string? _ >>= _) = _
    rw [hname]
    show (value? fuel (utf8 value.compact.toList ++ more) >>= _) = _
    rw [h, ← List.reverse_cons]
    rfl

theorem ends_cons {b : UInt8} (h : b = 0x2c ∨ b = 0x5d ∨ b = 0x7d) (rest : List UInt8) :
    Ends (b :: rest) := by
  intro c hc
  rw [← Option.some.inj hc]
  exact h

/-- The text of a value is read as its document, with two steps for each byte. -/
def ReadBack (value : Json) : Prop :=
  ∀ fuel rest, 2 * (utf8 value.compact.toList).length < fuel → Ends rest →
    value? fuel (utf8 value.compact.toList ++ rest) = some (.ofJson value, rest)

/-- A value without parts needs one step. -/
theorem ReadBack.of_leaf {value : Json} (h : ∀ fuel rest, Ends rest →
    value? (fuel + 1) (utf8 value.compact.toList ++ rest) = some (.ofJson value, rest)) :
    ReadBack value := by
  intro fuel rest hfuel hends
  cases fuel with
  | zero => exact absurd hfuel (Nat.not_lt_zero _)
  | succ fuel => exact h fuel rest hends

/-- The items of an array are read back from their text. -/
theorem items?_of_readBack {item : Json} {items : List Json} (fuel : Nat) (done : List Document)
    (rest : List UInt8) (hitem : ReadBack item) (hitems : ∀ next ∈ items, ReadBack next)
    (hfuel : 2 * (utf8 (",".intercalate (Json.compactItems (item :: items))).toList).length + 1
      < fuel) :
    items? fuel done (utf8 (",".intercalate (Json.compactItems (item :: items))).toList ++
        0x5d :: rest) =
      some (.array (done.reverse ++ Document.ofItems (item :: items)), rest) := by
  induction items generalizing item fuel done with
  | nil =>
    have htext : ",".intercalate (Json.compactItems [item]) = item.compact :=
      String.intercalate_singleton
    cases fuel with
    | zero => exact absurd hfuel (Nat.not_lt_zero _)
    | succ fuel =>
      rw [htext] at hfuel ⊢
      exact items?_of_value?.2 (hitem _ _ (by omega) (ends_cons (by decide) rest))
  | cons next items ih =>
    have htext : utf8 (",".intercalate (Json.compactItems (item :: next :: items))).toList =
        utf8 item.compact.toList ++
          0x2c :: utf8 (",".intercalate (Json.compactItems (next :: items))).toList :=
      utf8_intercalate _ _ _
    cases fuel with
    | zero => exact absurd hfuel (Nat.not_lt_zero _)
    | succ fuel =>
      rw [htext, List.length_append, List.length_cons] at hfuel
      rw [htext, List.append_assoc, List.cons_append]
      refine (items?_of_value?.1 (hitem _ _ (by omega) (ends_cons (by decide) _))).trans ?_
      rw [ih _ _ (hitems next List.mem_cons_self) (fun n hn => hitems n (List.mem_cons_of_mem _ hn))
        (by omega), List.reverse_cons, List.append_assoc]
      rfl

/-- The members of an object are read back from their text. -/
theorem members?_of_readBack {member : String × Json} {members : List (String × Json)} (fuel : Nat)
    (done : List (RawText × Document)) (rest : List UInt8) (hmember : ReadBack member.2)
    (hmembers : ∀ next ∈ members, ReadBack next.2)
    (hfuel :
      2 * (utf8 (",".intercalate (Json.compactMembers (member :: members))).toList).length + 1 <
        fuel) :
    members? fuel done (utf8 (",".intercalate (Json.compactMembers (member :: members))).toList ++
        0x7d :: rest) =
      some (.object (done.reverse ++ Document.ofMembers (member :: members)), rest) := by
  -- each member takes its own length from the fuel
  induction members generalizing member fuel done with
  | nil =>
    obtain ⟨name, value⟩ := member
    change ReadBack value at hmember
    have htext : ",".intercalate (Json.compactMembers [(name, value)]) =
        Json.stringLiteral name ++ ":" ++ value.compact := String.intercalate_singleton
    cases fuel with
    | zero => exact absurd hfuel (Nat.not_lt_zero _)
    | succ fuel =>
      rw [htext, String.toList_append, utf8_append, List.length_append] at hfuel
      rw [htext]
      exact (members?_of_value? name).2 (hmember _ _ (by omega) (ends_cons (by decide) rest))
  | cons next members ih =>
    obtain ⟨name, value⟩ := member
    change ReadBack value at hmember
    have htext : utf8 (",".intercalate
          (Json.compactMembers ((name, value) :: next :: members))).toList =
        utf8 (Json.stringLiteral name ++ ":" ++ value.compact).toList ++
          0x2c :: utf8 (",".intercalate (Json.compactMembers (next :: members))).toList :=
      utf8_intercalate _ _ _
    cases fuel with
    | zero => exact absurd hfuel (Nat.not_lt_zero _)
    | succ fuel =>
      rw [htext, List.length_append, List.length_cons, String.toList_append, utf8_append,
        List.length_append] at hfuel
      rw [htext, List.append_assoc, List.cons_append]
      refine ((members?_of_value? name).1
        (hmember _ _ (by omega) (ends_cons (by decide) _))).trans ?_
      rw [ih _ _ (hmembers next List.mem_cons_self)
        (fun n hn => hmembers n (List.mem_cons_of_mem _ hn)) (by omega), List.reverse_cons,
        List.append_assoc]
      rfl

/-- An array is read back when its items are. -/
theorem readBack_array {items : List Json} (hexact : Json.ExactItems items)
    (h : ∀ item ∈ items, ReadBack item) : ReadBack (.array items) := by
  intro fuel rest hfuel _
  rw [utf8_compact_array, List.length_cons, List.length_append] at hfuel
  rw [utf8_compact_array, List.cons_append, List.append_assoc]
  cases fuel with
  | zero => exact absurd hfuel (Nat.not_lt_zero _)
  | succ fuel =>
    cases items with
    | nil =>
      rw [value?, skipGaps_of_not_gap (by decide)]
      rfl
    | cons item items =>
      have hread :=
        items?_of_readBack fuel [] rest (h item List.mem_cons_self)
          (fun n hn => h n (List.mem_cons_of_mem _ hn)) (by omega)
      -- the first byte of the first item does not close the array
      obtain ⟨b, more, hbytes, hgap, hb⟩ := exists_compact_eq_cons hexact.1
      obtain ⟨others, hothers⟩ :=
        exists_intercalate_eq_append item.compact (Json.compactItems items)
      have hfirst : utf8 (",".intercalate (Json.compactItems (item :: items))).toList ++
          ([0x5d] ++ rest) = b :: (more ++ others ++ ([0x5d] ++ rest)) := by
        rw [Json.compactItems, hothers, hbytes]
        rfl
      rw [hfirst, value?_array hgap hb, ← hfirst]
      exact hread

/-- An object is read back when its values are. -/
theorem readBack_object {members : List (String × Json)}
    (h : ∀ member ∈ members, ReadBack member.2) : ReadBack (.object members) := by
  intro fuel rest hfuel _
  rw [utf8_compact_object, List.length_cons, List.length_append] at hfuel
  rw [utf8_compact_object, List.cons_append, List.append_assoc]
  cases fuel with
  | zero => exact absurd hfuel (Nat.not_lt_zero _)
  | succ fuel =>
    cases members with
    | nil =>
      rw [value?, skipGaps_of_not_gap (by decide)]
      rfl
    | cons member members =>
      have hread :=
        members?_of_readBack fuel [] rest (h member List.mem_cons_self)
          (fun n hn => h n (List.mem_cons_of_mem _ hn)) (by omega)
      obtain ⟨name, value⟩ := member
      obtain ⟨others, hothers⟩ := exists_intercalate_eq_append
        (Json.stringLiteral name ++ ":" ++ value.compact) (Json.compactMembers members)
      have hfirst : utf8 (",".intercalate (Json.compactMembers ((name, value) :: members))).toList =
          0x22 :: (utf8 (name.toList.flatMap Json.escapeChar) ++ [0x22] ++ utf8 ":".toList ++
            utf8 value.compact.toList ++ others) := by
        rw [Json.compactMembers, hothers, String.toList_append, String.toList_append, utf8_append,
          utf8_append, utf8_stringLiteral]
        rfl
      rw [hfirst] at hread ⊢
      exact (value?_object _ fuel).trans hread

end JsonReader

/-! ### Documents -/

namespace Json

theorem exactItems_iff {items : List Json} :
    ExactItems items ↔ ∀ item ∈ items, item.Exact := by
  induction items with
  | nil => exact ⟨fun _ => nofun, fun _ => True.intro⟩
  | cons item items ih => rw [ExactItems, ih, List.forall_mem_cons]

theorem exactMembers_iff {members : List (String × Json)} :
    ExactMembers members ↔ ∀ member ∈ members, member.2.Exact := by
  induction members with
  | nil => exact ⟨fun _ => nofun, fun _ => True.intro⟩
  | cons member members ih =>
    obtain ⟨name, value⟩ := member
    rw [ExactMembers, ih, List.forall_mem_cons]

/-- A value is read back from its text when its numbers are exact. -/
theorem readBack_of_exact (value : Json) (h : value.Exact) : JsonReader.ReadBack value := by
  match value, h with
  | null, _ => exact .of_leaf fun fuel rest _ => JsonReader.value?_null fuel rest
  | bool flag, _ => exact .of_leaf fun fuel rest _ => JsonReader.value?_bool flag fuel rest
  | number n, h => exact .of_leaf fun fuel rest hends => JsonReader.value?_number h fuel hends
  | string s, _ => exact .of_leaf fun fuel rest _ => JsonReader.value?_string s fuel rest
  | array items, h =>
    exact JsonReader.readBack_array h fun item hi =>
      readBack_of_exact item (exactItems_iff.1 h item hi)
  | object members, h =>
    exact JsonReader.readBack_object fun member hm =>
      readBack_of_exact member.2 (exactMembers_iff.1 h member hm)
termination_by sizeOf value
decreasing_by
  · have hlt := List.sizeOf_lt_of_mem hi
    rw [array.sizeOf_spec]
    omega
  · have hlt := List.sizeOf_lt_of_mem hm
    obtain ⟨name, value⟩ := member
    rw [Prod.mk.sizeOf_spec] at hlt
    rw [object.sizeOf_spec]
    show sizeOf value < _
    omega

end Json

/-- The compact text of a value is read as the document of the value. -/
theorem Document.read?_compact {value : Json} (h : value.Exact) :
    Document.read? value.compact.toUTF8.toList = some (.ofJson value) := by
  have hread := Json.readBack_of_exact value h (2 * (utf8 value.compact.toList).length + 2) []
    (by omega) nofun
  rw [List.append_nil] at hread
  rw [toList_toUTF8, read?, hread]
  rfl

end Minipack
