import ShaderPrep.Unicode.Classes

/-!
Text as a list of characters, so that every scanner below recurses on it. A search yields the two
sides of the first occurrence; the laws say that the sides and the word make up the whole.
-/
namespace ShaderPrep

abbrev Text := List Char

namespace Text

/-- What follows `word` in a text that starts with it. -/
def after? : Text → Text → Option Text
  | [], s => some s
  | _ :: _, [] => none
  | c :: word, d :: s => if c = d then after? word s else none

/-- Both sides of the first occurrence of `word`. -/
def cut? (word : Text) : Text → Option (Text × Text)
  | [] => (after? word []).map fun rest => ([], rest)
  | c :: s =>
    match after? word (c :: s) with
    | some rest => some ([], rest)
    | none => (cut? word s).map fun (before, rest) => (c :: before, rest)

/-- Both sides of the last occurrence of `word`. -/
def cutLast? (word : Text) : Text → Option (Text × Text)
  | [] => (after? word []).map fun rest => ([], rest)
  | c :: s =>
    match cutLast? word s with
    | some (before, rest) => some (c :: before, rest)
    | none => (after? word (c :: s)).map fun rest => ([], rest)

def occurs (word s : Text) : Bool := (cut? word s).isSome

def begins (word s : Text) : Bool := (after? word s).isSome

def replaceFirst (word new s : Text) : Text :=
  match cut? word s with
  | some (before, rest) => before ++ new ++ rest
  | none => s

def trimStart (s : Text) : Text := s.dropWhile Unicode.isBlank

def trimEnd (s : Text) : Text := (s.reverse.dropWhile Unicode.isBlank).reverse

/-- The text without the blanks around it. -/
def trim (s : Text) : Text := trimEnd (trimStart s)

/-- The text without one `c` at its end. -/
def dropLastIf (c : Char) (s : Text) : Text :=
  if s.getLast? = some c then s.dropLast else s

/-- Size in UTF-8 bytes, the unit of spans. -/
def byteSize (s : Text) : Nat := s.foldr (fun c size => c.utf8Size + size) 0

/-- The first `n` bytes and the rest; none if byte `n` is inside a character or behind the end. -/
def splitAtByte? : Nat → Text → Option (Text × Text)
  | 0, s => some ([], s)
  | _ + 1, [] => none
  | n + 1, c :: s =>
    if c.utf8Size ≤ n + 1 then
      (splitAtByte? (n + 1 - c.utf8Size) s).map fun (before, rest) => (c :: before, rest)
    else none

def lowercase (s : Text) : Text := s.map Char.toLower

def ofNat (n : Nat) : Text := Nat.toDigits 10 n

def ofInt : Int → Text
  | .ofNat n => ofNat n
  | .negSucc n => '-' :: ofNat (n + 1)

/-- The parts joined with `glue` between neighbours. -/
def join (glue : Text) (parts : List Text) : Text := glue.intercalate parts

@[simp] theorem after?_nil (s : Text) : after? [] s = some s := rfl

@[simp] theorem after?_append (word s : Text) : after? word (word ++ s) = some s := by
  induction word with
  | nil => rfl
  | cons c word ih => simpa [after?] using ih

theorem after?_eq_some {word s rest : Text} : after? word s = some rest ↔ s = word ++ rest := by
  constructor
  · intro h
    induction word generalizing s with
    | nil => simpa using h
    | cons c word ih =>
      cases s with
      | nil => simp [after?] at h
      | cons d s =>
        simp only [after?] at h
        split at h
        · next e => rw [e, ih h, List.cons_append]
        · cases h
  · rintro rfl
    exact after?_append word rest

theorem begins_iff {word s : Text} : begins word s = true ↔ ∃ rest, s = word ++ rest := by
  simp [begins, Option.isSome_iff_exists, after?_eq_some]

theorem eq_of_cut? {word s before rest : Text} (h : cut? word s = some (before, rest)) :
    s = before ++ word ++ rest := by
  induction s generalizing before with
  | nil =>
    cases h' : after? word [] with
    | none => simp [cut?, h'] at h
    | some r =>
      simp only [cut?, h', Option.map_some, Option.some.injEq, Prod.mk.injEq] at h
      obtain ⟨rfl, rfl⟩ := h
      simpa using after?_eq_some.1 h'
  | cons c s ih =>
    simp only [cut?] at h
    split at h
    · next r h' =>
      simp only [Option.some.injEq, Prod.mk.injEq] at h
      obtain ⟨rfl, rfl⟩ := h
      simpa using after?_eq_some.1 h'
    · simp only [Option.map_eq_some_iff, Prod.mk.injEq, Prod.exists] at h
      obtain ⟨b, r, h', rfl, rfl⟩ := h
      simpa using ih h'

theorem occurs_iff {word s : Text} :
    occurs word s = true ↔ ∃ before rest, s = before ++ word ++ rest := by
  constructor
  · intro h
    obtain ⟨⟨before, rest⟩, h⟩ := Option.isSome_iff_exists.1 h
    exact ⟨before, rest, eq_of_cut? h⟩
  · rintro ⟨before, rest, rfl⟩
    induction before with
    | nil =>
      cases word with
      | nil => cases rest <;> simp [occurs, cut?]
      | cons c word =>
        have h : after? (c :: word) (c :: (word ++ rest)) = some rest :=
          after?_eq_some.2 (List.cons_append ..).symm
        simp [occurs, cut?, h]
    | cons d before ih =>
      simp only [occurs, List.cons_append, cut?] at ih ⊢
      split
      · rfl
      · simpa using ih

@[simp] theorem byteSize_nil : byteSize [] = 0 := rfl

@[simp] theorem byteSize_cons (c : Char) (s : Text) :
    byteSize (c :: s) = c.utf8Size + byteSize s := rfl

@[simp] theorem byteSize_append (s t : Text) : byteSize (s ++ t) = byteSize s + byteSize t := by
  induction s with
  | nil => simp
  | cons c s ih => simp [ih, Nat.add_assoc]

theorem length_le_byteSize (s : Text) : s.length ≤ byteSize s := by
  induction s with
  | nil => simp
  | cons c s ih =>
    have := c.utf8Size_pos
    simp only [List.length_cons, byteSize_cons]
    omega

/-- Some list holds every text up to a length. -/
theorem exists_forall_mem (n : Nat) :
    ∃ texts : List Text, ∀ t : Text, t.length ≤ n → t ∈ texts := by
  induction n with
  | zero => exact ⟨[[]], fun t h => by simpa using h⟩
  | succ n ih =>
    obtain ⟨texts, all⟩ := ih
    refine ⟨[] :: ((List.range 0x110000).map Char.ofNat).flatMap fun c => texts.map (c :: ·), ?_⟩
    intro t h
    cases t with
    | nil => simp
    | cons c t =>
      refine List.mem_cons_of_mem _ (List.mem_flatMap.2 ⟨c, ?_, List.mem_map.2 ⟨t, all t ?_, rfl⟩⟩)
      · have bound : c.toNat < 0x110000 := by
          rcases c.valid with h | ⟨_, h⟩
          · exact Nat.lt_trans h (by decide)
          · exact h
        exact List.mem_map.2 ⟨c.toNat, List.mem_range.2 bound, Char.ofNat_toNat c⟩
      · simpa using h

end Text
end ShaderPrep
