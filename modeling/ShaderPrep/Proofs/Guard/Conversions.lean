import ShaderPrep.Guard.Memo
import ShaderPrep.Proofs.Memo.Recency
import ShaderPrep.Proofs.Numeral.Decimal

/-! Conversions that are kept never show: with them each condition is converted to what it would be
converted to without. -/
namespace ShaderPrep.Guard.Rpn

/-- The conversions kept after these conditions, none before the first. -/
def conversions (history : List Text) : Conversions :=
  history.foldl (fun kept condition => (askCondition kept condition).2) {}

theorem tracks_conversions (history : List Text) :
    Memo.Tracks ofCondition history (conversions history) :=
  Memo.tracks_after ofCondition history

/-- After any history a condition is converted as if nothing had been kept. At most 50000
conversions are kept. They are dropped only for a condition that is new when there are that many;
then less than half of them stay, those that were asked for last. -/
theorem askCondition_history (history : List Text) (condition : Text) :
    let before := conversions history
    let answer := askCondition before condition
    answer.1 = ofCondition condition ∧
      before.kept.size ≤ 50000 ∧ before.clock = history.length ∧
      (∀ s, s ∈ answer.2.kept ↔ s = condition ∨
        if condition ∈ before.kept ∨ before.kept.size < 50000 then s ∈ before.kept
        else s ∈ before.prune.kept) ∧
      before.prune.kept.size = before.kept.size - (before.kept.size / 2 + 1) ∧
      ∀ s t, s ∈ before.prune.kept → t ∈ before.kept → t ∉ before.prune.kept →
        s ∈ before.kept ∧ Memo.lastUse history t < Memo.lastUse history s := by
  have tracks := tracks_conversions history
  refine ⟨(tracks.ask condition).1, tracks.size, tracks.clock, fun s => Memo.mem_ask_iff _ _ _,
    tracks.size_prune, fun s t stays held goes => ⟨?_, tracks.lastUse_lt stays held goes⟩⟩
  exact Std.HashMap.mem_of_mem_filter stays

/-- As many conditions as can be kept, all different, and a new one behind them. -/
theorem askCondition_history_full :
    let history := (List.range 50000).map Text.ofNat
    let before := conversions history
    before.kept.size = 50000 ∧ "A".toList ∉ before.kept ∧ before.prune.kept.size = 24999 ∧
      ∃ s t, s ∈ before.prune.kept ∧ t ∈ before.kept ∧ t ∉ before.prune.kept ∧
        Memo.lastUse history t < Memo.lastUse history s := by
  intro history
  have distinct : history.Nodup :=
    List.nodup_range.map (Function.LeftInverse.injective Numeral.value_ofNat)
  have many : history.length = 50000 := by rw [List.length_map, List.length_range]
  have full : (conversions history).kept.size = 50000 :=
    (Memo.size_after ofCondition distinct many.le).trans many
  have new : "A".toList ∉ (conversions history).kept := by
    intro mem
    have asked := (tracks_conversions history).mem_history mem
    obtain ⟨n, -, spelled⟩ := List.mem_map.mp asked
    exact absurd (Numeral.decimal_ofNat n 'A' (by rw [spelled]; decide)) (by decide)
  obtain ⟨-, -, -, -, size, recent⟩ := askCondition_history history "A".toList
  -- The memo is not to be worked out, only these facts about it are needed.
  generalize conversions history = before at full new size recent ⊢
  intro before
  have half : before.prune.kept.size = 24999 := size.trans (by rw [full])
  obtain ⟨s, stays⟩ := Memo.exists_mem_prune (by rw [half]; decide)
  obtain ⟨t, held, goes⟩ := Memo.exists_notMem_prune (by rw [half, full]; decide)
  exact ⟨full, new, half, s, t, stays, held, goes, (recent s t stays held goes).2⟩

end ShaderPrep.Guard.Rpn
