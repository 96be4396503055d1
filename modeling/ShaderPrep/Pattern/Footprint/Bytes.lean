/-!
Ranges of code points as ranges of bytes. A range is cut where the number of bytes changes and
where a leading byte does, so that each piece is a row of ranges of single bytes.
-/
namespace ShaderPrep.Pattern.Bytes

/-- The bytes of a code point. -/
def encode (n : Nat) : List Nat :=
  let tail (k : Nat) : Nat := 128 + n / k % 64
  if n < 0x80 then [n]
  else if n < 0x800 then [192 + n / 64, tail 1]
  else if n < 0x10000 then [224 + n / 4096, tail 64, tail 1]
  else [240 + n / 262144, tail 4096, tail 64, tail 1]

/-- The code points of one length in bytes, surrogates left out. -/
def lengths : List (Nat × Nat) :=
  [(0, 0x7F), (0x80, 0x7FF), (0x800, 0xD7FF), (0xE000, 0xFFFF), (0x10000, 0x10FFFF)]

/-- Cuts a range that reaches over blocks of the given size so that at most its ends lie within
one block, and all between fills blocks. -/
def cutAt (block : Nat) (range : Nat × Nat) : List (Nat × Nat) :=
  let (lo, hi) := range
  if lo / block = hi / block then [range]
  else
    let first := if lo % block = 0 then lo else (lo / block + 1) * block
    let behind := if hi % block = block - 1 then hi + 1 else hi / block * block
    (if lo < first then [(lo, first - 1)] else []) ++
      (if first < behind then [(first, behind - 1)] else []) ++
      (if behind ≤ hi then [(behind, hi)] else [])

/-- Pieces whose members differ in the same bytes, ascending. -/
def pieces (range : Nat × Nat) : List (Nat × Nat) :=
  lengths.flatMap fun (lo, hi) =>
    let part := (max lo range.1, min hi range.2)
    if part.2 < part.1 then []
    else if hi < 0x80 then [part]
    else (cutAt 64 part).flatMap fun part => (cutAt 4096 part).flatMap (cutAt 262144)

/-- A range of code points as rows of ranges of bytes. -/
def rows (range : Nat × Nat) : List (List (Nat × Nat)) :=
  (pieces range).map fun (lo, hi) => (encode lo).zip (encode hi)

example : rows (0x41, 0x7FF) = [[(0x41, 0x7F)], [(0xC2, 0xDF), (0x80, 0xBF)]] := by decide
example : rows (0x800, 0xFFFF) = [[(0xE0, 0xE0), (0xA0, 0xBF), (0x80, 0xBF)],
    [(0xE1, 0xEC), (0x80, 0xBF), (0x80, 0xBF)], [(0xED, 0xED), (0x80, 0x9F), (0x80, 0xBF)],
    [(0xEE, 0xEF), (0x80, 0xBF), (0x80, 0xBF)]] := by decide

end ShaderPrep.Pattern.Bytes
