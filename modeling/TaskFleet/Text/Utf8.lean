/-!
# Text from UTF-8 bytes

Two readers of the same encoding: `decode?` refuses a byte sequence that is not UTF-8, and
`decodeLossy` puts one replacement character in the place of each maximal piece that starts no
character. Both read a lead byte, which fixes how many bytes follow and in which window the next
byte lies.
-/

namespace TaskFleet.Text

/-- A row of bytes, as a file or a pipe holds them. -/
abbrev Bytes := List UInt8

/-- What a lead byte says: its own bits, the number of bytes that follow, and the window of the
first of them. -/
structure Lead where
  bits : Nat
  following : Nat
  low : UInt8
  high : UInt8

/-- The meaning of a byte in first place, or `none` for one that starts no character. -/
def lead? (b : UInt8) : Option Lead :=
  if b ≤ 0x7F then some ⟨b.toNat, 0, 0, 0⟩
  else if 0xC2 ≤ b && b ≤ 0xDF then some ⟨b.toNat - 0xC0, 1, 0x80, 0xBF⟩
  else if b == 0xE0 then some ⟨0, 2, 0xA0, 0xBF⟩
  else if b == 0xED then some ⟨0xD, 2, 0x80, 0x9F⟩
  else if 0xE1 ≤ b && b ≤ 0xEF then some ⟨b.toNat - 0xE0, 2, 0x80, 0xBF⟩
  else if b == 0xF0 then some ⟨0, 3, 0x90, 0xBF⟩
  else if 0xF1 ≤ b && b ≤ 0xF3 then some ⟨b.toNat - 0xF0, 3, 0x80, 0xBF⟩
  else if b == 0xF4 then some ⟨4, 3, 0x80, 0x8F⟩
  else none

/-- Reads `count` following bytes, the first in the given window: the value, if all are there,
and the bytes that remain. -/
def takeFollowing : Nat → Nat → UInt8 → UInt8 → Bytes → Option Nat × Bytes
  | 0, value, _, _, rest => (some value, rest)
  | _ + 1, _, _, _, [] => (none, [])
  | count + 1, value, low, high, b :: rest =>
    if low ≤ b && b ≤ high then
      takeFollowing count (value * 64 + (b.toNat - 0x80)) 0x80 0xBF rest
    else (none, b :: rest)

theorem takeFollowing_length_le (count value : Nat) (low high : UInt8) (bytes : Bytes) :
    (takeFollowing count value low high bytes).2.length ≤ bytes.length := by
  induction count generalizing value low high bytes with
  | zero => simp [takeFollowing]
  | succ count ih =>
    cases bytes with
    | nil => simp [takeFollowing]
    | cons b rest =>
      unfold takeFollowing
      split
      · exact Nat.le_succ_of_le (ih ..)
      · simp

/-- The first character of a row of bytes, if the bytes start with one, and what follows it. -/
def takeChar (b : UInt8) (rest : Bytes) : Option Char × Bytes :=
  match lead? b with
  | none => (none, rest)
  | some lead =>
    let taken := takeFollowing lead.following lead.bits lead.low lead.high rest
    (taken.1.map Char.ofNat, taken.2)

theorem takeChar_length_le (b : UInt8) (rest : Bytes) :
    (takeChar b rest).2.length ≤ rest.length := by
  unfold takeChar
  split
  · exact Nat.le_refl _
  · exact takeFollowing_length_le ..

/-- Reads bytes as UTF-8, with U+FFFD for each piece that is none. -/
def decodeLossy : Bytes → List Char
  | [] => []
  | b :: rest =>
    (takeChar b rest).1.getD '\uFFFD' :: decodeLossy (takeChar b rest).2
termination_by bytes => bytes.length
decreasing_by
  have := takeChar_length_le b rest
  simp only [List.length_cons]
  omega

/-- Reads bytes as UTF-8, or `none` if they are not. -/
def decodeChars? : Bytes → Option (List Char)
  | [] => some []
  | b :: rest => do
    let c ← (takeChar b rest).1
    let more ← decodeChars? (takeChar b rest).2
    return c :: more
termination_by bytes => bytes.length
decreasing_by
  have := takeChar_length_le b rest
  simp only [List.length_cons]
  omega

/-- The text of a file's bytes, if they are UTF-8. -/
def decode? (bytes : Bytes) : Option String :=
  (decodeChars? bytes).map String.ofList

/-- A text as UTF-8 bytes. -/
def encode (s : String) : Bytes :=
  s.toUTF8.toList

end TaskFleet.Text
