import Mathlib
import ShaderPrep.Include.Expand
import ShaderPrep.Proofs.Numeral.Decimal

/-! Ranges of indices. A directive with a range stands for one copy of its content for each index,
the copies of two adjoining ranges make up those of both together, and an upper bound may be
written as a number or as the name of an index parameter. -/
namespace ShaderPrep.Include

/-- A range as it is written. -/
def rangeText (first last : Text) : Text := first ++ "..".toList ++ last

/-- A template once for each index of a range, every copy on its own line. -/
def copies (first last : Int) (template : Text) : Text :=
  (indices first last).flatMap fun i => putIndex (Text.ofInt i) template ++ ['\n']

/-- The text is read as the upper bound `n`: it is a number, or else the name of an index parameter
with blanks around it. -/
def Bounds (settings : Settings) (last : Text) (n : Int) : Prop :=
  Numeral.read? last = some n ∨
    Numeral.read? last = none ∧ settings.indexParameters.get? last.trim = some n

/-- The same directive with another range. -/
def Directive.withRange (d : Directive) (range : Text) : Directive := { d with range := some range }

section Indices
variable {a b c : Int}

/-- A range is the part up to one of its indices and the part behind it. -/
theorem indices_append (first : a ≤ b) (last : b < c) :
    indices a c = indices a b ++ indices (b + 1) c := by
  have size : (c - a + 1).toNat = (b - a + 1).toNat + (c - (b + 1) + 1).toNat := by omega
  rw [indices, indices, indices, size, List.range_add, List.map_append, List.map_map]
  refine congrArg _ (List.map_congr_left fun i _ => ?_)
  simp only [Function.comp_apply]
  omega

theorem indices_self (a : Int) : indices a a = [a] := by
  have one : (a - a + 1).toNat = 1 := by omega
  rw [indices, one]
  simp

theorem indices_eq_nil (h : b < a) : indices a b = [] := by
  have none : (b - a + 1).toNat = 0 := by omega
  rw [indices, none]
  rfl

theorem copies_append (first : a ≤ b) (last : b < c) (template : Text) :
    copies a c template = copies a b template ++ copies (b + 1) c template := by
  rw [copies, indices_append first last, List.flatMap_append]
  rfl

theorem copies_self (a : Int) (template : Text) :
    copies a a template = putIndex (Text.ofInt a) template ++ ['\n'] := by
  rw [copies, indices_self, List.flatMap_singleton]

theorem copies_eq_nil (h : b < a) (template : Text) : copies a b template = [] := by
  rw [copies, indices_eq_nil h]
  rfl

end Indices

section Expand
variable {settings : Settings} {d : Directive} {content filled upper : Text} {a b : Int}

theorem bounds_ofInt (settings : Settings) (low : -Numeral.limit ≤ b) (high : b ≤ Numeral.limit) :
    Bounds settings (Text.ofInt b) b :=
  .inl (Numeral.read?_ofInt low high)

theorem bounds_of_name (unread : Numeral.read? upper.trim = none)
    (named : settings.indexParameters.get? upper.trim = some b) : Bounds settings upper b :=
  .inr ⟨by rwa [Numeral.read?_trim] at unread, named⟩

theorem Bounds.upperBound_eq (h : Bounds settings upper b) :
    upperBound settings upper = pure (some b) := by
  rcases h with read | ⟨unread, named⟩
  · rw [upperBound, read]
  · rw [upperBound, unread]
    dsimp only
    rw [named]

/-- A decimal in front of two dots is the lower bound, whatever stands behind them. -/
theorem cut?_rangeText (a : Int) (upper : Text) :
    Text.cut? "..".toList (rangeText (Text.ofInt a) upper) = some (Text.ofInt a, upper) := by
  have first := Text.cut?_append (Numeral.dot_notMem_ofInt a) ['.'] upper
  rwa [rangeText, List.append_assoc]

theorem expand_range (replaced : replaceMarked d.replacements content = .ok filled)
    (low : -Numeral.limit ≤ a) (high : a ≤ Numeral.limit) (bounds : Bounds settings upper b) :
    (d.withRange (rangeText (Text.ofInt a) upper)).expand settings content =
      pure (.ok (copies a b (indexTemplate settings filled))) := by
  have unrolled : unroll settings (Text.ofInt a) upper filled =
      pure (copies a b (indexTemplate settings filled)) := by
    rw [unroll, Numeral.read?_ofInt low high, bounds.upperBound_eq, pure_bind]
    rfl
  have put : putRange settings (some (rangeText (Text.ofInt a) upper)) filled =
      pure (copies a b (indexTemplate settings filled)) := by
    rw [putRange, cut?_rangeText]
    exact unrolled
  have replaced' : replaceMarked
      (d.withRange (rangeText (Text.ofInt a) upper)).replacements content = .ok filled := replaced
  rw [Directive.expand, replaced']
  exact (congrArg (Except.ok <$> ·) put).trans (map_pure ..)

theorem expand_index (replaced : replaceMarked d.replacements content = .ok filled) (a : Int) :
    (d.withRange (Text.ofInt a)).expand settings content =
      pure (.ok (putIndex (Text.ofInt a) (indexTemplate settings filled))) := by
  have single : Text.cut? "..".toList (Text.ofInt a) = none := by
    refine Text.cut?_eq_none_of_count '.' ?_
    rw [List.count_eq_zero.mpr (Numeral.dot_notMem_ofInt a)]
    decide
  have put : putRange settings (some (Text.ofInt a)) filled =
      pure (putIndex (Text.ofInt a) (indexTemplate settings filled)) := by
    rw [putRange, single]
  have replaced' : replaceMarked (d.withRange (Text.ofInt a)).replacements content = .ok filled :=
    replaced
  rw [Directive.expand, replaced']
  exact (congrArg (Except.ok <$> ·) put).trans (map_pure ..)

/-- Where the replacements succeed, a range stands for its part up to an index and then the part
behind it, the range of a single index for that index with a line end, and a range that ends before
it starts for nothing; and its end may be the name of an index parameter, with blanks around it. -/
theorem expand_ranges {c : Int} (replaced : replaceMarked d.replacements content = .ok filled)
    (low : -Numeral.limit ≤ a) (first : a ≤ b) (last : b < c) (high : c ≤ Numeral.limit) :
    let expand (range : Text) := (d.withRange range).expand settings content
    let range (first last : Int) := rangeText (Text.ofInt first) (Text.ofInt last)
    (∃ front back, expand (range a b) = pure (.ok front) ∧
      expand (range (b + 1) c) = pure (.ok back) ∧
      expand (range a c) = pure (.ok (front ++ back))) ∧
    (∃ one, expand (Text.ofInt a) = pure (.ok one) ∧
      expand (range a a) = pure (.ok (one ++ ['\n']))) ∧
    expand (range c a) = pure (.ok []) ∧
    ∀ upper, Numeral.read? upper.trim = none →
      settings.indexParameters.get? upper.trim = some b →
      expand (rangeText (Text.ofInt a) upper) = expand (range a b) := by
  intro expand range
  have within (n m : Int) (least : -Numeral.limit ≤ n) (most : n ≤ Numeral.limit)
      (least' : -Numeral.limit ≤ m) (most' : m ≤ Numeral.limit) :
      expand (range n m) = pure (.ok (copies n m (indexTemplate settings filled))) :=
    expand_range replaced least most (bounds_ofInt settings least' most')
  refine ⟨⟨_, _, within a b low (by omega) (by omega) (by omega),
    within (b + 1) c (by omega) (by omega) (by omega) high, ?_⟩, ⟨_, expand_index replaced a, ?_⟩,
    ?_, fun upper unread named => ?_⟩
  · rw [within a c low (by omega) (by omega) high, copies_append first last]
  · rw [within a a low (by omega) low (by omega), copies_self]
  · rw [within c a (by omega) high low (by omega), copies_eq_nil (by omega)]
  · rw [within a b low (by omega) (by omega) (by omega)]
    exact expand_range replaced low (by omega) (bounds_of_name unread named)

/-- A range over zero that ends at a named index, for content that the replacements change, with
members of lights to be renamed. -/
theorem expand_ranges_named :
    let settings : Settings := { indexParameters := (∅ : Table Int).insert "maxLights".toList 0 }
    let d : Directive := ⟨[], "lights".toList, some "col,colour".toList, none⟩
    let content := "light\x7bX\x7d.col".toList
    let expand (range : String) := (d.withRange range.toList).expand settings content
    replaceMarked d.replacements content = .ok "light\x7bX\x7d.colour".toList ∧
      (∃ front back, expand "-1..0" = pure (.ok front) ∧ expand "1..2" = pure (.ok back) ∧
        expand "-1..2" = pure (.ok (front ++ back))) ∧
      (∃ one, expand "-1" = pure (.ok one) ∧ expand "-1..-1" = pure (.ok (one ++ ['\n']))) ∧
      expand "2..-1" = pure (.ok []) ∧ expand "-1..\tmaxLights " = expand "-1..0" := by
  have replaced : replaceMarked (some "col,colour".toList) "light\x7bX\x7d.col".toList =
      .ok "light\x7bX\x7d.colour".toList := by cbv
  intro settings d content expand
  obtain ⟨parts, single, empty, named⟩ := @expand_ranges settings d content _ (-1) 0 2 replaced
    (by decide) (by decide) (by decide) (by decide)
  exact ⟨replaced, parts, single, empty, named "\tmaxLights ".toList (by decide) (by decide)⟩

end Expand
end ShaderPrep.Include
