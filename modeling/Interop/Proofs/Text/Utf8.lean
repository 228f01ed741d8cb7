import Interop.Text.Utf8

/-!
# Bytes of texts

A text can be read from its bytes, and a byte that is a line feed is the line feed of the text: no
other character has that byte in it.
-/

namespace Interop.Text

/-! ## The bytes of one character -/

theorem toNat_ofNat_byte {n : Nat} (small : n < 256) : (UInt8.ofNat n).toNat = n :=
  UInt8.toNat_ofNat_of_lt small

theorem readTail_cons {value length low high bits : Nat} {ranges : List ByteRange} {bytes : Bytes}
    (small : bits < 64) (above : low ≤ bits + 128) (below : bits + 128 ≤ high) :
    readTail value length ((low, high) :: ranges) (UInt8.ofNat (bits + 128) :: bytes) =
      readTail (64 * value + bits) (length + 1) ranges bytes := by
  rw [readTail, toNat_ofNat_byte (by omega), if_pos ⟨above, below⟩, Nat.add_sub_cancel]

private theorem firstPiece_one {v : Nat} (below : v ≤ 127) (rest : Bytes) :
    firstPiece (UInt8.ofNat v) rest = .whole (Char.ofNat v) 1 := by
  rw [firstPiece, toNat_ofNat_byte (by omega), leadByte?, if_pos (by omega)]
  rfl

private theorem firstPiece_two {v : Nat} (above : 127 < v) (below : v ≤ 2047) (rest : Bytes) :
    firstPiece (UInt8.ofNat (v / 64 % 32 + 192)) (UInt8.ofNat (v % 64 + 128) :: rest) =
      .whole (Char.ofNat v) 2 := by
  rw [firstPiece, toNat_ofNat_byte (by omega), leadByte?, if_neg (by omega), if_neg (by omega),
    if_pos (by omega)]
  simp only [anyTail]
  rw [readTail_cons (by omega) (by omega) (by omega), readTail]
  congr 2
  omega

private theorem firstPiece_three {v : Nat} (above : 2047 < v) (below : v ≤ 65535)
    (valid : v < 55296 ∨ 57343 < v) (rest : Bytes) :
    firstPiece (UInt8.ofNat (v / 4096 % 16 + 224))
        (UInt8.ofNat (v / 64 % 64 + 128) :: UInt8.ofNat (v % 64 + 128) :: rest) =
      .whole (Char.ofNat v) 3 := by
  rw [firstPiece, toNat_ofNat_byte (by omega), leadByte?, if_neg (by omega), if_neg (by omega),
    if_neg (by omega), if_pos (by omega)]
  simp only [anyTail]
  rw [readTail_cons (by omega) (by split <;> omega) (by split <;> omega),
    readTail_cons (by omega) (by omega) (by omega), readTail]
  congr 2
  omega

private theorem firstPiece_four {v : Nat} (above : 65535 < v) (valid : v < 1114112) (rest : Bytes) :
    firstPiece (UInt8.ofNat (v / 262144 % 8 + 240))
        (UInt8.ofNat (v / 4096 % 64 + 128) :: UInt8.ofNat (v / 64 % 64 + 128) ::
          UInt8.ofNat (v % 64 + 128) :: rest) =
      .whole (Char.ofNat v) 4 := by
  rw [firstPiece, toNat_ofNat_byte (by omega), leadByte?, if_neg (by omega), if_neg (by omega),
    if_neg (by omega), if_neg (by omega), if_pos (by omega)]
  simp only [anyTail]
  rw [readTail_cons (by omega) (by split <;> omega) (by split <;> omega),
    readTail_cons (by omega) (by omega) (by omega),
    readTail_cons (by omega) (by omega) (by omega), readTail]
  congr 2
  omega

/-- The bytes of a character are read as this character whatever follows them. -/
theorem exists_firstPiece (c : Char) : ∃ lead tail, String.utf8EncodeChar c = lead :: tail ∧
    ∀ rest, firstPiece lead (tail ++ rest) = .whole c (tail.length + 1) := by
  have valid : c.val.toNat < 55296 ∨ 57343 < c.val.toNat ∧ c.val.toNat < 1114112 := c.valid
  have same : Char.ofNat c.val.toNat = c := Char.ofNat_toNat c
  rw [String.utf8EncodeChar]
  -- the four lengths of a character
  split
  · next below =>
    refine ⟨_, _, rfl, fun rest => ?_⟩
    rw [List.nil_append, firstPiece_one below, same, List.length_nil]
  split
  · next above below =>
    refine ⟨_, _, rfl, fun rest => ?_⟩
    exact (firstPiece_two (by omega) below rest).trans (by rw [same]; rfl)
  split
  · next above below =>
    refine ⟨_, _, rfl, fun rest => ?_⟩
    exact (firstPiece_three (by omega) below (by omega) rest).trans (by rw [same]; rfl)
  · next above =>
    refine ⟨_, _, rfl, fun rest => ?_⟩
    exact (firstPiece_four (by omega) (by omega) rest).trans (by rw [same]; rfl)

/-! ## Reading a text from its bytes -/

private theorem piecesFrom_length (skipped rest : Bytes) :
    piecesFrom skipped.length (skipped ++ rest) = piecesFrom 0 rest := by
  induction skipped with
  | nil => rfl
  | cons b skipped ih =>
    rw [List.length_cons, List.cons_append, piecesFrom, if_pos (by omega), Nat.add_sub_cancel, ih]

private theorem piecesFrom_encodeChar (c : Char) (rest : Bytes) :
    piecesFrom 0 (String.utf8EncodeChar c ++ rest) = some c :: piecesFrom 0 rest := by
  obtain ⟨lead, tail, bytes, read⟩ := exists_firstPiece c
  rw [bytes, List.cons_append, piecesFrom, if_neg (by omega), read]
  simp only [Nat.add_sub_cancel]
  rw [piecesFrom_length]

private theorem piecesFrom_encode (cs : List Char) :
    piecesFrom 0 (cs.flatMap String.utf8EncodeChar) = cs.map some := by
  induction cs with
  | nil => rfl
  | cons c cs ih => rw [List.flatMap_cons, piecesFrom_encodeChar, ih, List.map_cons]

@[simp]
theorem decode?_encode (text : String) : decode? (encode text) = some text := by
  have whole (cs : List Char) : (cs.map some).mapM id = some cs := by
    induction cs with
    | nil => rfl
    | cons c cs ih => simp [ih]
  rw [decode?, encode, piecesFrom_encode, whole, Option.map_some, String.ofList_toList]

/-! ## Line feeds -/

def lineFeed : UInt8 := 10

private theorem lineFeed_ne {n : Nat} (above : 10 < n) (small : n < 256) :
    lineFeed ≠ UInt8.ofNat n := by
  intro eq
  have value : lineFeed.toNat = n := by rw [eq, toNat_ofNat_byte small]
  have ten : lineFeed.toNat = 10 := rfl
  omega

private theorem lineFeed_mem_encodeChar {c : Char} (mem : lineFeed ∈ String.utf8EncodeChar c) :
    c = '\n' := by
  rw [String.utf8EncodeChar] at mem
  split at mem
  · next below =>
    have value : lineFeed.toNat = c.val.toNat := by
      rw [List.mem_singleton.mp mem, toNat_ofNat_byte (by omega)]
    exact Char.toNat_inj.mp value.symm
  -- every other byte is at least 128
  split at mem
  · simp only [List.mem_cons, List.not_mem_nil, or_false] at mem
    rcases mem with eq | eq <;> exact absurd eq (lineFeed_ne (by omega) (by omega))
  split at mem
  · simp only [List.mem_cons, List.not_mem_nil, or_false] at mem
    rcases mem with eq | eq | eq <;> exact absurd eq (lineFeed_ne (by omega) (by omega))
  · simp only [List.mem_cons, List.not_mem_nil, or_false] at mem
    rcases mem with eq | eq | eq | eq <;> exact absurd eq (lineFeed_ne (by omega) (by omega))

theorem lineFeed_not_mem_encode {text : String} (inner : '\n' ∉ text.toList) :
    lineFeed ∉ encode text := by
  intro mem
  obtain ⟨c, within, mem⟩ := List.mem_flatMap.mp mem
  exact inner (lineFeed_mem_encodeChar mem ▸ within)

theorem encode_line (line : String) : encode (line ++ "\n") = encode line ++ [lineFeed] := by
  rw [encode, encode, String.toList_append, List.flatMap_append]
  rfl

end Interop.Text
