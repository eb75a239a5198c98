/-
UTF-8 faults.  A byte sequence that is not UTF-8 has a first fault: the index at which the longest
valid beginning ends, and the number of bytes that can start no character, or none when the bytes
end inside a character that could still become valid.

`decode` gives the text or the fault.  `decodeLossy` writes one replacement character for each
maximal faulty piece and never fails.
-/

namespace Minipack.Text

/-- Where bytes stop being UTF-8. -/
structure Utf8Fault where
  /-- The number of bytes before the fault. -/
  index : Nat
  /-- The length of the faulty piece; none when the bytes end too early. -/
  length : Option Nat
deriving DecidableEq, Repr

/-- The fault in words. -/
def Utf8Fault.message (fault : Utf8Fault) : String :=
  match fault.length with
  | some n => s!"invalid utf-8 sequence of {n} bytes from index {fault.index}"
  | none => s!"incomplete utf-8 byte sequence from index {fault.index}"

/-- What stands at the front of a byte sequence. -/
inductive Utf8Piece where
  /-- A character and the number of its bytes. -/
  | scalar (c : Char) (length : Nat)
  /-- Bytes that can start no character. -/
  | malformed (length : Nat)
  /-- A character that the end of the bytes cuts off after `length` bytes. -/
  | truncated (length : Nat)
deriving DecidableEq, Repr

/-- Bytes `80` to `bf`. -/
def isContinuation (b : UInt8) : Bool :=
  0x80 ≤ b && b ≤ 0xbf

/-- The six payload bits of a continuation byte. -/
def payload (b : UInt8) : Nat :=
  b.toNat % 64

/-- The second byte allowed after `first` in a sequence of three. -/
def isSecondOfThree (first second : UInt8) : Bool :=
  isContinuation second && (first != 0xe0 || 0xa0 ≤ second) && (first != 0xed || second ≤ 0x9f)

/-- The second byte allowed after `first` in a sequence of four. -/
def isSecondOfFour (first second : UInt8) : Bool :=
  isContinuation second && (first != 0xf0 || 0x90 ≤ second) && (first != 0xf4 || second ≤ 0x8f)

/-- A two-byte sequence that starts with `b`. -/
def pieceOfTwo (b : UInt8) : List UInt8 → Utf8Piece
  | [] => .truncated 1
  | c :: _ =>
    if isContinuation c then .scalar (Char.ofNat (b.toNat % 32 * 64 + payload c)) 2
    else .malformed 1

/-- A three-byte sequence that starts with `b`. -/
def pieceOfThree (b : UInt8) : List UInt8 → Utf8Piece
  | [] => .truncated 1
  | c :: rest =>
    if !isSecondOfThree b c then .malformed 1
    else match rest with
      | [] => .truncated 2
      | d :: _ =>
        if isContinuation d then
          .scalar (Char.ofNat ((b.toNat % 16 * 64 + payload c) * 64 + payload d)) 3
        else .malformed 2

/-- A four-byte sequence that starts with `b`. -/
def pieceOfFour (b : UInt8) : List UInt8 → Utf8Piece
  | [] => .truncated 1
  | c :: rest =>
    if !isSecondOfFour b c then .malformed 1
    else match rest with
      | [] => .truncated 2
      | d :: rest =>
        if !isContinuation d then .malformed 2
        else match rest with
          | [] => .truncated 3
          | e :: _ =>
            if isContinuation e then
              .scalar (Char.ofNat
                (((b.toNat % 8 * 64 + payload c) * 64 + payload d) * 64 + payload e)) 4
            else .malformed 3

/-- The piece at the front of `b :: rest`. -/
def Utf8Piece.first (b : UInt8) (rest : List UInt8) : Utf8Piece :=
  if b < 0x80 then .scalar (Char.ofNat b.toNat) 1
  else if 0xc2 ≤ b && b ≤ 0xdf then pieceOfTwo b rest
  else if 0xe0 ≤ b && b ≤ 0xef then pieceOfThree b rest
  else if 0xf0 ≤ b && b ≤ 0xf4 then pieceOfFour b rest
  else .malformed 1

/-- The number of bytes of a piece. -/
def Utf8Piece.size : Utf8Piece → Nat
  | .scalar _ n => n
  | .malformed n => n
  | .truncated n => n

/-- The first fault of a byte sequence whose first `index` bytes were read before. -/
def faultFrom (index : Nat) (bytes : List UInt8) : Option Utf8Fault :=
  match bytes with
  | [] => none
  | b :: rest =>
    match Utf8Piece.first b rest with
    | .scalar _ n => faultFrom (index + n) (rest.drop (n - 1))
    | .malformed n => some ⟨index, some n⟩
    | .truncated _ => some ⟨index, none⟩
termination_by bytes.length
decreasing_by simp only [List.length_drop, List.length_cons]; omega

/-- The characters of a byte sequence, with a replacement character for each faulty piece. -/
def lossyChars (bytes : List UInt8) : List Char :=
  match bytes with
  | [] => []
  | b :: rest =>
    let piece := Utf8Piece.first b rest
    let c := match piece with
      | .scalar c _ => c
      | _ => '\ufffd'
    c :: lossyChars (rest.drop (piece.size - 1))
termination_by bytes.length
decreasing_by simp only [List.length_drop, List.length_cons]; omega

/-- The text whose encoding is `bytes`, or the first fault. -/
def decode (bytes : ByteArray) : Except Utf8Fault String :=
  match String.fromUTF8? bytes with
  | some text => .ok text
  | none => .error ((faultFrom 0 bytes.toList).getD ⟨bytes.size, none⟩)

/-- The text of `bytes`, with a replacement character for each faulty piece. -/
def decodeLossy (bytes : ByteArray) : String :=
  match String.fromUTF8? bytes with
  | some text => text
  | none => String.ofList (lossyChars bytes.toList)

/-- A text is read from its bytes. -/
theorem fromUTF8?_toUTF8 (text : String) : String.fromUTF8? text.toUTF8 = some text :=
  dif_pos text.isValidUTF8

theorem decode_toUTF8 (text : String) : decode text.toUTF8 = .ok text := by
  rw [decode, fromUTF8?_toUTF8]

theorem decodeLossy_toUTF8 (text : String) : decodeLossy text.toUTF8 = text := by
  rw [decodeLossy, fromUTF8?_toUTF8]

end Minipack.Text
