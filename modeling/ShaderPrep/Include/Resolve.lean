import ShaderPrep.Engine
import ShaderPrep.Include.Expand
import ShaderPrep.Store

/-!
Includes resolved pass by pass. A pass puts in every include that is stored; one that is missing
is fetched, and the pass starts anew on what it has made of the source so far. A pass that puts in
further directives is followed by another, within a limit. The includes an engine could still add
to the store grow fewer with every fetch, and that is why resolving ends.
-/
namespace ShaderPrep.Include

/-- Most passes in a row that may put in further directives. -/
def maxDepth : Nat := 64

/-- Where a missing include is fetched from. -/
def url (settings : Settings) (key : Text) : Text :=
  settings.repository ++ "ShadersInclude/".toList ++ key ++ ".fx".toList

/-- Whether included text calls for another pass. -/
def hasDirective (text : Text) : Bool :=
  Text.occurs "#include<".toList text || Text.occurs "#include <".toList text

/-- How a pass ends. -/
inductive Pass where
  /-- Nothing is left to resolve. -/
  | complete (text : Text)
  /-- Included text has further directives. -/
  | nested (text : Text)
  /-- A missing include was fetched. -/
  | fetched (text key content : Text)
  | failed (failure : Failure)

/-- The end of a pass with `before` in front of its text; `again` says that this has further
directives. -/
def Pass.after (before : Text) (again : Bool) : Pass → Pass
  | complete text => if again then nested (before ++ text) else complete (before ++ text)
  | nested text => nested (before ++ text)
  | fetched text key content => fetched (before ++ text) key content
  | failed failure => failed failure

/-- Fetches a missing include. -/
def fetch (settings : Settings) (engine : Option Engine) (key : Text) :
    Traced (Except Failure Text) :=
  match engine with
  | none => pure (.error { cause := .includeNotFound key (url settings key) })
  | some engine => do
    Traced.debug
      ("include '".toList ++ key ++ "' not in store, fetching ".toList ++ url settings key)
    return (← engine.fetch (url settings key)).mapError (·.inShader key)

def runPass (settings : Settings) (engine : Option Engine) (store : Store) :
    List Piece → Text → Traced Pass
  | [], tail => pure (.complete tail)
  | ⟨before, d⟩ :: rest, tail => do
    let key := d.key settings.supportsUniformBuffers
    match store.include? key with
    | none =>
      match ← fetch settings engine key with
      | .error failure => return .failed failure
      | .ok content => return .fetched (before ++ d.text ++ unsplit rest tail) key content
    | some content =>
      Traced.trace ("expanding ".toList ++ d.text)
      match ← d.expand settings content with
      | .error failure => return .failed (failure.inShader key)
      | .ok text =>
        let others ← runPass settings engine store rest tail
        return others.after (before ++ text) (hasDirective text)

/-- One pass over a source. -/
def pass (settings : Settings) (engine : Option Engine) (store : Store) (source : Text) :
    Traced Pass :=
  let (pieces, tail) := split source
  runPass settings engine store pieces tail

/-- Locations that the engine may load and that belong to no stored include. -/
noncomputable def absent (settings : Settings) (engine : Option Engine) (store : Store) : Nat :=
  match engine with
  | none => 0
  | some engine =>
    engine.finite.choose.countP fun u => !(store.includes.keys.map (url settings)).contains u

theorem url_inj {settings : Settings} {a b : Text} (h : url settings a = url settings b) :
    a = b := by
  simpa [url] using h

theorem Pass.after_eq_fetched {p : Pass} {before text key content : Text} {again : Bool}
    (h : p.after before again = .fetched text key content) : ∃ t, p = .fetched t key content := by
  cases p with
  | complete t => simp only [after] at h; split at h <;> cases h
  | nested t => cases h
  | fetched t k c => cases h; exact ⟨t, rfl⟩
  | failed f => cases h

theorem fetch_eq_ok {settings : Settings} {engine : Option Engine} {key content : Text}
    (h : (fetch settings engine key).value = .ok content) :
    ∃ e, engine = some e ∧ e.load (url settings key) = .ok content := by
  cases engine with
  | none => cases h
  | some e =>
    refine ⟨e, rfl, ?_⟩
    simp only [fetch, Traced.value_bind, Traced.value_pure, Engine.value_fetch] at h
    cases he : e.load (url settings key) with
    | error f => rw [he] at h; cases h
    | ok t => rw [he] at h; cases h; rfl

/-- A fetch is of an include that was not stored, from a location the engine can load. -/
theorem runPass_eq_fetched {settings : Settings} {engine : Option Engine} {store : Store}
    {pieces : List Piece} {tail text key content : Text}
    (h : (runPass settings engine store pieces tail).value = .fetched text key content) :
    store.include? key = none ∧
      ∃ e, engine = some e ∧ e.load (url settings key) = .ok content := by
  induction pieces generalizing text with
  | nil => cases h
  | cons piece rest ih =>
    obtain ⟨before, d⟩ := piece
    simp only [runPass] at h
    split at h
    · next missing =>
      simp only [Traced.value_bind] at h
      split at h
      · cases h
      · next loaded => cases h; exact ⟨missing, fetch_eq_ok loaded⟩
    · simp only [Traced.value_bind] at h
      split at h
      · cases h
      · simp only [Traced.value_bind, Traced.value_pure] at h
        obtain ⟨t, h⟩ := Pass.after_eq_fetched h
        exact ih h

private theorem countP_lt {p q : α → Bool} {a : α} {as : List α} (le : ∀ x, q x = true → p x = true)
    (mem : a ∈ as) (hp : p a = true) (hq : q a = false) : as.countP q < as.countP p := by
  induction as with
  | nil => cases mem
  | cons x as ih =>
    have rest : as.countP q ≤ as.countP p := List.countP_mono_left fun x _ => le x
    rw [List.countP_cons, List.countP_cons]
    rcases List.mem_cons.1 mem with rfl | mem
    · simp [hp, hq]
      omega
    · have := ih mem
      have : (if q x = true then 1 else 0) ≤ (if p x = true then 1 else 0) := by
        split
        · next h => simp [le x h]
        · omega
      omega

theorem absent_setInclude {settings : Settings} {e : Engine} {store : Store} {key content : Text}
    (missing : store.include? key = none) (loaded : e.load (url settings key) = .ok content) :
    absent settings (some e) (store.setInclude key content) < absent settings (some e) store := by
  refine countP_lt ?_ (e.finite.choose_spec _ _ loaded) ?_ ?_
  · intro u
    simp only [Store.setInclude, Bool.not_eq_true', List.contains_eq_mem, decide_eq_false_iff_not,
      List.mem_map, Table.mem_keys_insert]
    rintro h ⟨k, hk, rfl⟩
    exact h ⟨k, .inr hk, rfl⟩
  · simp only [Bool.not_eq_true', List.contains_eq_mem, decide_eq_false_iff_not, List.mem_map]
    rintro ⟨k, hk, h⟩
    obtain rfl := url_inj h
    have present := Table.mem_keys_iff.1 hk
    simp only [Store.include?] at missing
    simp [Table.has, missing] at present
  · simp only [Store.setInclude, Bool.not_eq_false', List.contains_eq_mem, decide_eq_true_eq,
      List.mem_map, Table.mem_keys_insert]
    exact ⟨key, .inl rfl, rfl⟩

/-- Resolves every include of a source, `left` passes with further directives being allowed. What
was fetched stays in the store, also when resolving fails. -/
def resolveWithin (settings : Settings) (engine : Option Engine) (left : Nat) (store : Store)
    (source : Text) : Traced (Except Failure Text × Store) :=
  let result := pass settings engine store source
  match _h : result.value with
  | .complete text => ⟨(.ok text, store), result.events⟩
  | .failed failure => ⟨(.error failure, store), result.events⟩
  | .fetched text key content =>
    (resolveWithin settings engine left (store.setInclude key content) text).behind result.events
  | .nested text =>
    let noted := result.events ++
      [.note .debug "included content has further includes, rescanning".toList]
    match left with
    | 0 => ⟨(.error { cause := .includeDepthExceeded maxDepth }, store), noted⟩
    | left + 1 => (resolveWithin settings engine left store text).behind noted
termination_by (absent settings engine store, left)
decreasing_by
  · obtain ⟨missing, e, rfl, loaded⟩ := runPass_eq_fetched _h
    exact .left _ _ (absent_setInclude missing loaded)
  · exact .right _ (Nat.lt_succ_self _)

def resolve (settings : Settings) (engine : Option Engine) (store : Store) (source : Text) :
    Traced (Except Failure Text × Store) :=
  resolveWithin settings engine maxDepth store source

end ShaderPrep.Include
