/-
  UTF-8 on lists of bytes. `decode?` reads exactly what `encode` writes
  (`decode?_eq_some_iff`). Bytes that are no text are taken apart by `pieces` into their
  characters and their malformed parts, each as long as it still began some character.
-/

namespace Monkey

abbrev Bytes := List UInt8

namespace Utf8

def encode (text : String) : Bytes := text.toList.flatMap String.utf8EncodeChar

/-- The text of these bytes, if they are the bytes of one. -/
def decode? (bytes : Bytes) : Option String := String.fromUTF8? bytes.toByteArray

/-- A character, or bytes that no character has. -/
inductive Piece where
  | char (c : Char)
  | malformed (bytes : Bytes)

/-- What each byte behind this first byte of a character has to lie between. -/
def followers (first : UInt8) : List (UInt8 × UInt8) :=
  if first < 0xC2 then []
  else if first < 0xE0 then [(0x80, 0xBF)]
  else if first = 0xE0 then [(0xA0, 0xBF), (0x80, 0xBF)]
  else if first = 0xED then [(0x80, 0x9F), (0x80, 0xBF)]
  else if first < 0xF0 then [(0x80, 0xBF), (0x80, 0xBF)]
  else if first = 0xF0 then [(0x90, 0xBF), (0x80, 0xBF), (0x80, 0xBF)]
  else if first < 0xF4 then [(0x80, 0xBF), (0x80, 0xBF), (0x80, 0xBF)]
  else if first = 0xF4 then [(0x80, 0x8F), (0x80, 0xBF), (0x80, 0xBF)]
  else []

/-- How many bytes lie, one after the other, within the bounds that are set for them. -/
def countWithin : List (UInt8 × UInt8) → Bytes → Nat
  | (low, high) :: bounds, b :: bytes =>
    if low ≤ b ∧ b ≤ high then countWithin bounds bytes + 1 else 0
  | _, _ => 0

/-- The characters of these bytes and the malformed parts between them. -/
def pieces : Bytes → List Piece
  | [] => []
  | b :: rest =>
    match ByteArray.utf8DecodeChar? (b :: rest.take 3).toByteArray 0 with
    | some c => .char c :: pieces (rest.drop (c.utf8Size - 1))
    | none =>
      let n := countWithin (followers b) rest
      .malformed (b :: rest.take n) :: pieces (rest.drop n)
termination_by bytes => bytes.length
decreasing_by all_goals simp only [List.length_drop, List.length_cons]; omega

/-- The bytes as a text, with one replacement character for each malformed part. -/
def lossy (bytes : Bytes) : String :=
  String.ofList ((pieces bytes).map fun
    | .char c => c
    | .malformed _ => '\uFFFD')

theorem encode_append (s t : String) : encode (s ++ t) = encode s ++ encode t := by
  simp [encode]

theorem toByteArray_encode (text : String) : (encode text).toByteArray = text.toByteArray :=
  String.utf8Encode_toList

theorem decode?_encode (text : String) : decode? (encode text) = some text := by
  simp only [decode?, String.fromUTF8?, toByteArray_encode, text.isValidUTF8, dif_pos]
  rfl

theorem decode?_eq_some_iff {bytes : Bytes} {text : String} :
    decode? bytes = some text ↔ bytes = encode text := by
  constructor
  · intro h
    simp only [decode?, String.fromUTF8?, Option.dite_none_right_eq_some, Option.some.injEq] at h
    obtain ⟨hvalid, rfl⟩ := h
    exact List.toByteArray_inj.1 (toByteArray_encode (String.fromUTF8 _ hvalid)).symm
  · rintro rfl
    exact decode?_encode text

/-- Bytes are no text just if no text is written as them. -/
theorem decode?_eq_none_iff {bytes : Bytes} :
    decode? bytes = none ↔ ∀ text, bytes ≠ encode text := by
  rw [Option.eq_none_iff_forall_ne_some]
  exact forall_congr' fun text => not_congr decode?_eq_some_iff

theorem encode_inj {s t : String} : encode s = encode t ↔ s = t := by
  constructor
  · intro h
    have hdecode := decode?_encode s
    rw [h, decode?_encode] at hdecode
    exact (Option.some.inj hdecode).symm
  · intro h
    rw [h]

end Utf8

end Monkey
