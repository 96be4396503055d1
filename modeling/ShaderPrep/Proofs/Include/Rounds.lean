import Mathlib.Data.Finset.Card
import ShaderPrep.Include.Resolve

/-! Resolving as rounds of one pass each. A round ends the work or hands a text on to the next; each
round uses up an allowed pass or stores an include that was missing, which bounds their number. -/
namespace ShaderPrep.Include

/-- What a pass starts from, and how many later ones may still put in further directives. -/
structure Round where
  left : Nat
  store : Store
  source : Text

inductive Turn where
  | done (result : Except Failure Text)
  | next (round : Round)

variable (settings : Settings) (engine : Option Engine)

def Round.turn (r : Round) : Traced Turn := do
  match ← pass settings engine r.store r.source with
  | .complete text => return .done (.ok text)
  | .failed failure => return .done (.error failure)
  | .fetched text key content => return .next ⟨r.left, r.store.setInclude key content, text⟩
  | .nested text =>
    Traced.debug "included content has further includes, rescanning".toList
    match r.left with
    | 0 => return .done (.error { cause := .includeDepthExceeded maxDepth })
    | left + 1 => return .next ⟨left, r.store, text⟩

def Round.resolve (r : Round) : Traced (Except Failure Text × Store) :=
  resolveWithin settings engine r.left r.store r.source

/-- Rounds that follow each other. -/
inductive Rounds : Nat → Round → Round → Prop
  | refl : Rounds 0 r r
  | next : (r.turn settings engine).value = .next r' → Rounds n r' r'' → Rounds (n + 1) r r''

variable {settings engine} {r r' : Round} {result : Except Failure Text}

/-- The work is the turns of its rounds, one after the other. -/
theorem Round.resolve_eq (r : Round) : r.resolve settings engine =
    match (r.turn settings engine).value with
    | .done result => ⟨(result, r.store), (r.turn settings engine).events⟩
    | .next r' => (r'.resolve settings engine).behind (r.turn settings engine).events := by
  obtain ⟨left, store, source⟩ := r
  rw [resolve, resolveWithin]
  simp only [turn, Traced.value_bind, Traced.events_bind]
  cases found : (pass settings engine store source).value with
  | complete text => simp
  | failed failure => simp
  | fetched text key content => simp [resolve]
  | nested text => cases left <;> simp [resolve, Traced.debug, Traced.emit]

theorem Round.resolve_of_done (h : (r.turn settings engine).value = .done result) :
    r.resolve settings engine = ⟨(result, r.store), (r.turn settings engine).events⟩ := by
  rw [resolve_eq, h]

theorem Round.resolve_of_next (h : (r.turn settings engine).value = .next r') :
    r.resolve settings engine =
      (r'.resolve settings engine).behind (r.turn settings engine).events := by
  rw [resolve_eq, h]

theorem Round.turn_eq_next (h : (r.turn settings engine).value = .next r') :
    (∃ text key content, (pass settings engine r.store r.source).value = .fetched text key content ∧
      r' = ⟨r.left, r.store.setInclude key content, text⟩) ∨
    ∃ left text, (pass settings engine r.store r.source).value = .nested text ∧
      r.left = left + 1 ∧ r' = ⟨left, r.store, text⟩ := by
  obtain ⟨left, store, source⟩ := r
  simp only [turn, Traced.value_bind] at h
  cases found : (pass settings engine store source).value with
  | complete text => simp [found] at h
  | failed failure => simp [found] at h
  | fetched text key content =>
    simp only [found, Traced.value_pure, Turn.next.injEq] at h
    exact .inl ⟨text, key, content, rfl, h.symm⟩
  | nested text =>
    cases left with
    | zero => simp [found] at h
    | succ left =>
      simp only [found, Traced.value_bind, Traced.value_pure, Turn.next.injEq] at h
      exact .inr ⟨left, text, rfl, rfl, h.symm⟩

theorem Round.turn_eq_done (h : (r.turn settings engine).value = .done result) :
    (∃ text, (pass settings engine r.store r.source).value = .complete text ∧
      result = .ok text) ∨
    (∃ failure, (pass settings engine r.store r.source).value = .failed failure ∧
      result = .error failure) ∨
    (∃ text, (pass settings engine r.store r.source).value = .nested text ∧ r.left = 0 ∧
      result = .error { cause := .includeDepthExceeded maxDepth }) := by
  obtain ⟨left, store, source⟩ := r
  simp only [turn, Traced.value_bind] at h
  cases found : (pass settings engine store source).value with
  | complete text =>
    simp only [found, Traced.value_pure, Turn.done.injEq] at h
    exact .inl ⟨text, rfl, h.symm⟩
  | failed failure =>
    simp only [found, Traced.value_pure, Turn.done.injEq] at h
    exact .inr (.inl ⟨failure, rfl, h.symm⟩)
  | fetched text key content => simp [found] at h
  | nested text =>
    cases left with
    | zero =>
      simp only [found, Traced.value_bind, Traced.value_pure, Turn.done.injEq] at h
      exact .inr (.inr ⟨text, rfl, rfl, h.symm⟩)
    | succ left => simp [found] at h

/-- A turn that is not the last takes away an include that can still be fetched, or a pass. -/
theorem Round.turn_decreases (h : (r.turn settings engine).value = .next r') :
    Prod.Lex (· < ·) (· < ·) (absent settings engine r'.store, r'.left)
      (absent settings engine r.store, r.left) := by
  rcases turn_eq_next h with ⟨text, key, content, fetched, rfl⟩ | ⟨left, text, -, more, rfl⟩
  · obtain ⟨missing, e, rfl, loaded⟩ := runPass_eq_fetched fetched
    exact .left _ _ (absent_setInclude missing loaded)
  · rw [more]
    exact .right _ (Nat.lt_succ_self left)

variable (settings engine) in
/-- What holds of a round if it holds of the one it leads to holds of every round. -/
theorem Round.induction {motive : Round → Prop}
    (step : ∀ r, (∀ r', (r.turn settings engine).value = .next r' → motive r') → motive r)
    (r : Round) : motive r :=
  step r fun r' _ => induction step r'
termination_by (absent settings engine r.store, r.left)
decreasing_by exact turn_decreases ‹_›

variable (settings engine) in
/-- There is a last round, and the result is its own. -/
theorem exists_last (r : Round) : ∃ n last result, Rounds settings engine n r last ∧
    (last.turn settings engine).value = .done result ∧
    (r.resolve settings engine).value = (result, last.store) := by
  induction r using Round.induction settings engine with
  | step r ih =>
    cases h : (r.turn settings engine).value with
    | done result => exact ⟨0, r, result, .refl, h, by rw [r.resolve_of_done h]⟩
    | next r' =>
      obtain ⟨n, last, result, rounds, done, value⟩ := ih r' h
      refine ⟨n + 1, last, result, .next h rounds, done, ?_⟩
      rw [r.resolve_of_next h, Traced.value_behind, value]

/-- Whatever includes one store has, the other has too. -/
def Within (store after : Store) : Prop :=
  ∀ key text, store.include? key = some text → after.include? key = some text

theorem Within.refl (store : Store) : Within store store := fun _ _ stored => stored

theorem Within.trans {first second third : Store} (before : Within first second)
    (after : Within second third) : Within first third :=
  fun key text stored => after key text (before key text stored)

theorem within_setInclude {store : Store} {key : Text} (missing : store.include? key = none)
    (content : Text) : Within store (store.setInclude key content) := by
  intro k text stored
  rw [Store.include?_setInclude]
  split
  · next same =>
    subst same
    rw [missing] at stored
    contradiction
  · exact stored

theorem Rounds.within {n : Nat} (h : Rounds settings engine n r r') : Within r.store r'.store := by
  induction h with
  | refl => exact .refl _
  | next turn _ ih =>
    rcases Round.turn_eq_next turn with ⟨text, key, content, fetched, rfl⟩ | ⟨left, text, -, -, rfl⟩
    · obtain ⟨missing, -⟩ := runPass_eq_fetched fetched
      exact (within_setInclude missing content).trans ih
    · exact ih

variable (settings engine) in
theorem Round.within_resolve (r : Round) :
    Within r.store (r.resolve settings engine).value.2 := by
  obtain ⟨n, last, result, rounds, -, value⟩ := exists_last settings engine r
  rw [value]
  exact rounds.within

section Bound

/-- The passes that may still nest, and the includes that may still be fetched. -/
def Round.room (keys : Finset Text) (r : Round) : Nat :=
  r.left + (keys.filter fun key => r.store.include? key = none).card

/-- Every include that is missing and can be loaded is among the keys. -/
def Covers (settings : Settings) (engine : Option Engine) (store : Store) (keys : Finset Text) :
    Prop :=
  ∀ e ∈ engine, ∀ key content, store.include? key = none →
    e.load (url settings key) = .ok content → key ∈ keys

variable {keys : Finset Text} {store : Store}

theorem Covers.setInclude (h : Covers settings engine store keys) (key content : Text) :
    Covers settings engine (store.setInclude key content) keys := by
  intro e given k text missing loaded
  rw [Store.include?_setInclude] at missing
  split at missing
  · contradiction
  · exact h e given k text missing loaded

/-- A turn that is not the last takes room away. -/
theorem Round.room_lt (covers : Covers settings engine r.store keys)
    (h : (r.turn settings engine).value = .next r') :
    r'.room keys < r.room keys ∧ Covers settings engine r'.store keys := by
  rcases turn_eq_next h with ⟨text, key, content, fetched, rfl⟩ | ⟨left, text, -, more, rfl⟩
  · obtain ⟨missing, e, rfl, loaded⟩ := runPass_eq_fetched fetched
    refine ⟨Nat.add_lt_add_left (Finset.card_lt_card ?_) r.left, covers.setInclude key content⟩
    have listed : key ∈ keys := covers e rfl key content missing loaded
    constructor
    · intro k mem
      simp only [Finset.mem_filter, Store.include?_setInclude] at mem ⊢
      refine ⟨mem.1, ?_⟩
      split at mem
      · exact absurd mem.2 (by simp)
      · exact mem.2
    · intro inside
      have mem := inside (Finset.mem_filter.mpr ⟨listed, missing⟩)
      simp at mem
  · refine ⟨?_, covers⟩
    simp only [room, more]
    omega

theorem Rounds.room_le {n : Nat} (h : Rounds settings engine n r r')
    (covers : Covers settings engine r.store keys) : n + r'.room keys ≤ r.room keys := by
  induction h with
  | refl => omega
  | next turn _ ih =>
    obtain ⟨less, covers⟩ := Round.room_lt covers turn
    have := ih covers
    omega

/-- Resolving takes 65 passes at most and one for every include that the engine can add, and no
rounds go on beyond that. -/
theorem rounds_le (covers : Covers settings engine store keys) (source : Text) :
    let start : Round := ⟨maxDepth, store, source⟩
    (∃ n last, Rounds settings engine n start last ∧
      (resolve settings engine store source).value.2 = last.store ∧
      (last.turn settings engine).value = .done (resolve settings engine store source).value.1 ∧
      n + 1 ≤ 65 + keys.card) ∧
    ∀ n r, Rounds settings engine n start r → n + 1 ≤ 65 + keys.card := by
  intro start
  have bound : ∀ n r, Rounds settings engine n start r → n + 1 ≤ 65 + keys.card := by
    intro n r rounds
    have room := rounds.room_le covers
    have missing : (keys.filter fun key => store.include? key = none).card ≤ keys.card :=
      Finset.card_filter_le ..
    simp only [start, Round.room, maxDepth] at room
    omega
  refine ⟨?_, bound⟩
  obtain ⟨n, last, result, rounds, done, value⟩ := exists_last settings engine start
  have whole : (resolve settings engine store source).value = (result, last.store) := value
  rw [whole]
  exact ⟨n, last, rounds, rfl, done, bound n last rounds⟩

/-- An include of itself that has to be fetched takes all the passes there are. -/
theorem rounds_le_loop :
    let loop := "#include<z>".toList
    let files := [("ShadersInclude/z.fx".toList, loop)]
    let engine : Engine :=
      { load := Engine.loadFrom files [], finite := Engine.loadFrom_finite _ _ }
    Covers {} (some engine) {} {['z']} ∧
    (∃ n last, Rounds {} (some engine) n ⟨maxDepth, {}, loop⟩ last ∧
      (resolve {} (some engine) {} loop).value.2 = last.store ∧
      (last.turn {} (some engine)).value = .done (resolve {} (some engine) {} loop).value.1 ∧
      n + 1 ≤ 65 + 1) ∧
    ∃ last, Rounds {} (some engine) 65 ⟨maxDepth, {}, loop⟩ last ∧
      (last.turn {} (some engine)).value =
        .done (.error { cause := .includeDepthExceeded maxDepth }) := by
  intro loop files engine
  have covers : Covers {} (some engine) {} {['z']} := by
    rintro e ⟨⟩ key content - loaded
    have found : Entries.find? (url {} key) files = some content := by
      simp only [engine, Engine.loadFrom] at loaded
      split at loaded
      · next text found =>
        cases loaded
        exact found
      · cases loaded
    have located := Entries.find?_isSome.mp (Option.isSome_of_eq_some found)
    have same : url {} key = url {} ['z'] := List.mem_singleton.mp located
    exact Finset.mem_singleton.mpr (url_inj same)
  have nested : ∀ left, Rounds {} (some engine) left
      ⟨left, Store.setInclude {} ['z'] loop, loop⟩ ⟨0, Store.setInclude {} ['z'] loop, loop⟩ := by
    intro left
    induction left with
    | zero => exact .refl
    | succ left ih => exact .next rfl ih
  refine ⟨covers, (rounds_le covers loop).1, _, .next rfl (nested 64), rfl⟩

end Bound

end ShaderPrep.Include
