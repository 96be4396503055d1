import Mathlib.Data.List.Basic
import Mathlib.Data.List.Induction
import Mathlib.Data.List.Nodup
import ShaderPrep.Guard.Memo

/-! A memo after a history of questions. Each answer is what the function itself gives, the memo
never outgrows its capacity, and what goes when it is full was asked for longer ago than anything
that stays. The proofs follow one invariant, which says what is held and when it was used. -/
namespace ShaderPrep.Memo
variable {β : Type} {f : Text → β} {m : Memo β} {history : List Text} {s t text : Text}
  {entry : Kept β}

section History

/-- The memo after these questions, empty before the first. -/
def after (f : Text → β) (history : List Text) : Memo β :=
  history.foldl (fun m text => (m.ask f text).2) {}

theorem after_concat (f : Text → β) (history : List Text) (text : Text) :
    after f (history ++ [text]) = ((after f history).ask f text).2 := by
  rw [after, List.foldl_concat]
  rfl

/-- The number of the last question for a text, counted from one; zero if there was none. -/
def lastUse (history : List Text) (text : Text) : Nat :=
  history.length - history.reverse.idxOf text

theorem lastUse_concat_self (history : List Text) (text : Text) :
    lastUse (history ++ [text]) text = history.length + 1 := by
  rw [lastUse, List.reverse_concat, List.idxOf_cons_self, List.length_append]
  rfl

theorem lastUse_concat_ne (h : text ≠ s) :
    lastUse (history ++ [text]) s = lastUse history s := by
  rw [lastUse, List.reverse_concat, List.idxOf_cons_ne _ h, List.length_append,
    List.length_singleton, Nat.add_sub_add_right]
  rfl

/-- No two texts were asked for last by the same question. -/
theorem lastUse_inj (hs : s ∈ history) (ht : t ∈ history)
    (same : lastUse history s = lastUse history t) : s = t := by
  have first := List.idxOf_lt_length_of_mem (List.mem_reverse.mpr hs)
  have second := List.idxOf_lt_length_of_mem (List.mem_reverse.mpr ht)
  rw [List.length_reverse] at first second
  rw [lastUse, lastUse] at same
  exact (List.idxOf_inj (List.mem_reverse.mpr hs)).mp (by omega)

end History

theorem mem_iff_exists {kept : Std.HashMap Text (Kept β)} :
    text ∈ kept ↔ ∃ entry, kept[text]? = some entry := by
  rw [Std.HashMap.mem_iff_isSome_getElem?, Option.isSome_iff_exists]

section Prune

theorem prune_kept (m : Memo β) (text : Text) :
    m.prune.kept[text]? = m.kept[text]?.filter fun entry => decide (m.cutoff < entry.used) :=
  Std.HashMap.getElem?_filter'

theorem mem_prune_iff : text ∈ m.prune.kept ↔
    ∃ entry, m.kept[text]? = some entry ∧ m.cutoff < entry.used := by
  rw [mem_iff_exists, prune_kept]
  simp

theorem exists_mem_prune (filled : 0 < m.prune.kept.size) : ∃ s, s ∈ m.prune.kept := by
  refine Std.HashMap.isEmpty_eq_false_iff_exists_mem.mp ?_
  rw [Std.HashMap.isEmpty_eq_size_eq_zero, beq_eq_false_iff_ne]
  exact Nat.ne_of_gt filled

theorem exists_notMem_prune (fewer : m.prune.kept.size < m.kept.size) :
    ∃ t, t ∈ m.kept ∧ t ∉ m.prune.kept := by
  by_contra all
  refine Nat.ne_of_lt fewer (Std.HashMap.size_filter_eq_size_iff.mpr fun t held => ?_)
  have stays : t ∈ m.prune.kept := by_contra fun goes => all ⟨t, held, goes⟩
  exact (Std.HashMap.mem_filter.mp stays).2

theorem perm_times (m : Memo β) : m.times.Perm (m.kept.toList.map fun e => e.2.used) :=
  List.mergeSort_perm ..

theorem sorted_times (m : Memo β) : m.times.Pairwise (· ≤ ·) := by
  have sorted : m.times.Pairwise fun a b => decide (a ≤ b) = true := by
    apply List.pairwise_mergeSort
    · intro a b c first second
      rw [decide_eq_true_eq] at first second ⊢
      exact Nat.le_trans first second
    · intro a b
      simpa using Nat.le_total a b
  exact sorted.imp of_decide_eq_true

theorem length_times (m : Memo β) : m.times.length = m.kept.size := by
  rw [m.perm_times.length_eq, List.length_map, Std.HashMap.length_toList]

theorem countP_behind {u v : List Nat} {x : Nat} (sorted : (u ++ x :: v).Pairwise (· < ·)) :
    (u ++ x :: v).countP (x < ·) = v.length := by
  obtain ⟨-, inner, across⟩ := List.pairwise_append.mp sorted
  have front : u.countP (x < ·) = 0 := by
    rw [List.countP_eq_zero]
    intro a mem
    have less := across a mem x List.mem_cons_self
    simp only [decide_eq_true_eq]
    omega
  have back : v.countP (x < ·) = v.length := by
    rw [List.countP_eq_length]
    intro a mem
    exact decide_eq_true ((List.pairwise_cons.mp inner).1 a mem)
  rw [List.countP_append, List.countP_cons, front, back]
  simp

theorem size_prune_eq_countP (m : Memo β) :
    m.prune.kept.size = m.times.countP (m.cutoff < ·) := by
  rw [m.perm_times.countP_eq, List.countP_map, List.countP_eq_length_filter,
    ← Std.HashMap.length_toList]
  exact Std.HashMap.toList_filter.length_eq

/-- Of times that differ, those behind the middle stay. -/
theorem size_prune_of_nodup (distinct : m.times.Nodup) :
    m.prune.kept.size = m.kept.size - (m.kept.size / 2 + 1) := by
  have strict : m.times.Pairwise (· < ·) :=
    (m.sorted_times.and distinct).imp fun both => Nat.lt_of_le_of_ne both.1 both.2
  rw [size_prune_eq_countP, ← length_times, cutoff]
  by_cases empty : m.times = []
  · rw [empty]
    rfl
  · have middle : m.times.length / 2 < m.times.length := by
      have filled := List.length_pos_iff.mpr empty
      omega
    have cut : m.times.take (m.times.length / 2) ++
        m.times[m.times.length / 2] :: m.times.drop (m.times.length / 2 + 1) = m.times := by
      rw [← List.drop_eq_getElem_cons middle, List.take_append_drop]
    have behind := countP_behind (cut ▸ strict)
    rw [cut, List.length_drop] at behind
    rw [List.getElem?_eq_getElem middle]
    exact behind

end Prune

/-- What a memo holds after a history: right results, with the time of their last question. -/
structure Tracks (f : Text → β) (history : List Text) (m : Memo β) : Prop where
  clock : m.clock = history.length
  size : m.kept.size ≤ capacity
  entry : ∀ {text entry}, m.kept[text]? = some entry →
    text ∈ history ∧ entry.result = f text ∧ entry.used = lastUse history text

/-- The entries that stay when one more is put in. -/
def spared (m : Memo β) : Std.HashMap Text (Kept β) :=
  if capacity ≤ m.kept.size then m.prune.kept else m.kept

theorem ask_of_some (f : Text → β) (h : m.kept[text]? = some entry) : m.ask f text =
    (entry.result, ⟨m.kept.insert text ⟨m.clock + 1, entry.result⟩, m.clock + 1⟩) := by
  simp only [ask, lookUp, h]

theorem ask_of_none (f : Text → β) (h : m.kept[text]? = none) :
    m.ask f text = (f text, ⟨m.spared.insert text ⟨m.clock + 1, f text⟩, m.clock + 1⟩) := by
  simp only [ask, lookUp, h, keep, spared]
  split <;> rfl

theorem spared_entry (h : m.spared[text]? = some entry) : m.kept[text]? = some entry := by
  rw [spared] at h
  split at h
  · rw [prune_kept] at h
    exact (Option.filter_eq_some_iff.mp h).1
  · exact h

namespace Tracks

theorem nil (f : Text → β) : Tracks f [] {} where
  clock := rfl
  size := Nat.zero_le _
  entry h := by simp at h

variable (h : Tracks f history m)
include h

theorem mem_history (held : text ∈ m.kept) : text ∈ history := by
  obtain ⟨entry, found⟩ := mem_iff_exists.mp held
  exact (h.entry found).1

theorem nodup_times : m.times.Nodup := by
  rw [m.perm_times.nodup_iff]
  have entries : m.kept.toList.Nodup :=
    Std.HashMap.distinct_keys_toList.imp fun other same => by simp [same] at other
  refine entries.map_on ?_
  rintro ⟨s, first⟩ hs ⟨t, second⟩ ht same
  have found := Std.HashMap.mem_toList_iff_getElem?_eq_some.mp hs
  have found' := Std.HashMap.mem_toList_iff_getElem?_eq_some.mp ht
  obtain ⟨mem, -, time⟩ := h.entry found
  obtain ⟨mem', -, time'⟩ := h.entry found'
  obtain rfl := lastUse_inj mem mem' (time.symm.trans (same.trans time'))
  rw [Option.some.inj (found.symm.trans found')]

theorem size_prune : m.prune.kept.size = m.kept.size - (m.kept.size / 2 + 1) :=
  size_prune_of_nodup h.nodup_times

theorem size_spared_lt : m.spared.size < capacity := by
  have bound := h.size
  have positive : 0 < capacity := by decide
  rw [spared]
  split
  · rw [h.size_prune]
    omega
  · omega

/-- Entries that were held already, and the one for the text asked for now. -/
theorem put {kept : Std.HashMap Text (Kept β)} (size : (kept.insert text entry).size ≤ capacity)
    (older : ∀ {s : Text} {e : Kept β}, kept[s]? = some e → m.kept[s]? = some e)
    (result : entry.result = f text) (used : entry.used = m.clock + 1) :
    Tracks f (history ++ [text]) ⟨kept.insert text entry, m.clock + 1⟩ where
  clock := by rw [h.clock, List.length_append, List.length_singleton]
  size := size
  entry {s e} held := by
    rw [Std.HashMap.getElem?_insert] at held
    by_cases own : text = s
    · subst own
      obtain rfl : entry = e := by simpa using held
      refine ⟨by simp, result, ?_⟩
      rw [used, h.clock, lastUse_concat_self]
    · have before := older (by simpa [own] using held)
      obtain ⟨mem, right, time⟩ := h.entry before
      refine ⟨List.mem_append_left _ mem, right, ?_⟩
      rw [time, lastUse_concat_ne own]

/-- A question is answered rightly, and the memo goes on to say what it holds. -/
theorem ask (text : Text) :
    (m.ask f text).1 = f text ∧ Tracks f (history ++ [text]) (m.ask f text).2 := by
  cases found : m.kept[text]? with
  | some entry =>
    obtain ⟨-, result, -⟩ := h.entry found
    rw [ask_of_some f found]
    refine ⟨result, h.put ?_ id result rfl⟩
    have mem : text ∈ m.kept := mem_iff_exists.mpr ⟨entry, found⟩
    rw [Std.HashMap.size_insert, if_pos mem]
    exact h.size
  | none =>
    rw [ask_of_none f found]
    refine ⟨rfl, h.put ?_ spared_entry rfl rfl⟩
    exact Nat.le_trans Std.HashMap.size_insert_le h.size_spared_lt

/-- What is dropped was asked for longer ago than what stays. -/
theorem lastUse_lt (stays : s ∈ m.prune.kept) (held : t ∈ m.kept) (goes : t ∉ m.prune.kept) :
    lastUse history t < lastUse history s := by
  obtain ⟨late, found, above⟩ := mem_prune_iff.mp stays
  obtain ⟨early, found'⟩ := mem_iff_exists.mp held
  have below : early.used ≤ m.cutoff :=
    Nat.le_of_not_lt fun above => goes (mem_prune_iff.mpr ⟨early, found', above⟩)
  rw [← (h.entry found).2.2, ← (h.entry found').2.2]
  omega

end Tracks

theorem tracks_after (f : Text → β) (history : List Text) : Tracks f history (after f history) := by
  induction history using List.reverseRecOn with
  | nil => exact .nil f
  | append_singleton history text ih =>
    rw [after_concat]
    exact (ih.ask text).2

/-- Entries go only when the memo is full and the text is new. -/
theorem mem_ask_iff (f : Text → β) (m : Memo β) (text : Text) :
    s ∈ (m.ask f text).2.kept ↔ s = text ∨
      if text ∈ m.kept ∨ m.kept.size < capacity then s ∈ m.kept else s ∈ m.prune.kept := by
  cases found : m.kept[text]? with
  | some entry =>
    have mem : text ∈ m.kept := mem_iff_exists.mpr ⟨entry, found⟩
    rw [ask_of_some f found, if_pos (.inl mem), Std.HashMap.mem_insert, beq_iff_eq, eq_comm]
  | none =>
    have fresh : text ∉ m.kept := by
      rw [mem_iff_exists, found]
      simp
    rw [ask_of_none f found, Std.HashMap.mem_insert, beq_iff_eq, eq_comm, spared]
    simp only [fresh, false_or, ← Nat.not_le, ite_not]
    split <;> rfl

/-- Texts that all differ are all held as long as there is room. -/
theorem size_after (f : Text → β) (distinct : history.Nodup) (few : history.length ≤ capacity) :
    (after f history).kept.size = history.length := by
  induction history using List.reverseRecOn with
  | nil => rfl
  | append_singleton history text ih =>
    rw [List.length_append, List.length_singleton] at few
    obtain ⟨before, -, apart⟩ := List.nodup_append.mp distinct
    have size := ih before (Nat.le_of_succ_le few)
    have fresh : text ∉ (after f history).kept := by
      intro mem
      have asked := (tracks_after f history).mem_history mem
      exact apart text asked text (List.mem_singleton_self text) rfl
    have room : ¬capacity ≤ (after f history).kept.size := by omega
    rw [after_concat, ask_of_none f (Std.HashMap.getElem?_eq_none fresh), spared, if_neg room,
      Std.HashMap.size_insert, if_neg fresh, size, List.length_append, List.length_singleton]

end ShaderPrep.Memo
