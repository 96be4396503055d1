import ShaderPrep.Text.Basic

/-!
What a run does besides computing its result, as a list of events in order: notes for the log and
locations asked of the engine. `value_bind` drops the events, so a law about results never has
to look at them.
-/
namespace ShaderPrep

inductive Level where
  | warn
  | debug
  | trace
  deriving DecidableEq, Repr

inductive Event where
  | note (level : Level) (message : Text)
  | load (url : Text)
  deriving DecidableEq, Repr

/-- A result with the events on the way to it. -/
structure Traced (α : Type) where
  value : α
  events : List Event := []

namespace Traced

instance : Monad Traced where
  pure a := ⟨a, []⟩
  bind x f := ⟨(f x.value).value, x.events ++ (f x.value).events⟩

@[simp] theorem value_pure (a : α) : (pure a : Traced α).value = a := rfl
@[simp] theorem events_pure (a : α) : (pure a : Traced α).events = [] := rfl

@[simp] theorem value_bind (x : Traced α) (f : α → Traced β) :
    (x >>= f).value = (f x.value).value := rfl

@[simp] theorem events_bind (x : Traced α) (f : α → Traced β) :
    (x >>= f).events = x.events ++ (f x.value).events := rfl

@[simp] theorem value_map (f : α → β) (x : Traced α) : (f <$> x).value = f x.value := rfl

@[simp] theorem events_map (f : α → β) (x : Traced α) : (f <$> x).events = x.events := by
  show x.events ++ [] = x.events
  simp

instance : LawfulMonad Traced := .mk' Traced
  (fun x => congrArg (Traced.mk x.value) (List.append_nil x.events))
  (fun a f => congrArg (Traced.mk (f a).value) (List.nil_append (f a).events))
  (fun _ _ _ => congrArg (Traced.mk _) (List.append_assoc ..))

def emit (event : Event) : Traced Unit := ⟨(), [event]⟩

def warn (message : Text) : Traced Unit := emit (.note .warn message)
def debug (message : Text) : Traced Unit := emit (.note .debug message)
def trace (message : Text) : Traced Unit := emit (.note .trace message)

/-- The same result, with events that came first. -/
def behind (events : List Event) (x : Traced α) : Traced α := ⟨x.value, events ++ x.events⟩

@[simp] theorem value_behind (events : List Event) (x : Traced α) :
    (x.behind events).value = x.value := rfl

/-- The locations asked for, in order. -/
def loads (x : Traced α) : List Text :=
  x.events.filterMap fun
    | .load url => some url
    | .note .. => none

@[simp] theorem loads_pure (a : α) : (pure a : Traced α).loads = [] := rfl

@[simp] theorem loads_bind (x : Traced α) (f : α → Traced β) :
    (x >>= f).loads = x.loads ++ (f x.value).loads := by
  simp [loads]

@[simp] theorem loads_map (f : α → β) (x : Traced α) : (f <$> x).loads = x.loads := by
  simp [loads]

@[simp] theorem loads_warn (message : Text) : (warn message).loads = [] := rfl
@[simp] theorem loads_debug (message : Text) : (debug message).loads = [] := rfl
@[simp] theorem loads_trace (message : Text) : (trace message).loads = [] := rfl

theorem loads_behind (x : Traced α) (y : Traced β) :
    (y.behind x.events).loads = x.loads ++ y.loads := by
  simp [loads, behind]

end Traced
end ShaderPrep
