import LineAtlas.Fault

/-!
# Events

What an operation reports about its course, apart from its answer.  An event has a level, a text and named values; an
operation that reports events is a `Told` computation, which gives them in order beside its value.
-/

namespace LineAtlas

inductive Level where
  | error
  | warn
  | info
  | debug
  | trace
  deriving DecidableEq, Repr

/-- How much detail a level admits. -/
def Level.rank : Level → Nat
  | error => 0
  | warn => 1
  | info => 2
  | debug => 3
  | trace => 4

def Level.name : Level → String
  | error => "error"
  | warn => "warn"
  | info => "info"
  | debug => "debug"
  | trace => "trace"

inductive Event where
  | loadingMap (map : String)
  | mapRead (map : String) (lines mappings : Nat)
  | mapRefused (map : String) (fault : Fault)
  | definitionRefused (script : String) (id : Nat) (reason : Record.Fault)
  | reverseSearched (script file : String) (line hits : Nat)
  | linesCollected (file : String) (line hits : Nat)
  | settingsSaved (path : String)
  | settingsIgnored (fault : Fault)
  | restoreFailed (script map : String) (fault : Fault)
  | moduleIgnored (script : String) (fault : Fault)
  | promptStarted (map : String)
  deriving Repr

namespace Event

def level : Event → Level
  | loadingMap _ | mapRead .. | promptStarted _ => .info
  | mapRefused _ fault => if fault.isIncompatible then .warn else .error
  | definitionRefused .. | settingsIgnored _ | restoreFailed .. | moduleIgnored .. => .warn
  | reverseSearched .. | linesCollected .. | settingsSaved _ => .debug

/-- The text of an event.  The text about settings that are not TOML ends with the path. -/
def message : Event → String
  | loadingMap _ => "Loading line map"
  | mapRead .. => "Line map parsed"
  | mapRefused _ fault => if fault.isIncompatible then "Incompatible line map version" else "Could not parse line map"
  | definitionRefused .. => "Error parsing mapping"
  | reverseSearched .. => "Reverse mapping"
  | linesCollected .. => "Generated lines collected"
  | settingsSaved _ => "Settings saved"
  | settingsIgnored fault =>
    let start := "Warning: Failed to load settings: " ++ fault.message
    match fault with
    | .settings _ => start
    | _ => start ++ ". Using defaults."
  | restoreFailed _ _ fault => "Could not restore line map: " ++ fault.message
  | moduleIgnored _ fault => "Ignoring line map: " ++ fault.message
  | promptStarted _ => "Interactive debugger started"

/-- The named values of an event. -/
def fields : Event → List (String × Json.Value)
  | loadingMap map => [("map", .string map)]
  | mapRead map lines mappings => [("map", .string map), ("lines", .integer lines), ("mappings", .integer mappings)]
  | mapRefused map fault => [("map", .string map), ("error", .string fault.message)]
  | definitionRefused script id reason =>
    [("script", .string script), ("id", .integer id), ("error", .string (Fault.undecodable id reason).message)]
  | reverseSearched script file line hits =>
    [("script", .string script), ("file", .string file), ("line", .integer line), ("hits", .integer hits)]
  | linesCollected file line hits => [("file", .string file), ("line", .integer line), ("hits", .integer hits)]
  | settingsSaved path => [("path", .string path)]
  | settingsIgnored _ => []
  | restoreFailed script map _ => [("context", .string script), ("map", .string map)]
  | moduleIgnored script _ => [("script", .string script)]
  | promptStarted map => [("map", .string map)]

/-- Whether an event is shown where events up to a level are. -/
def isShown (limit : Level) (e : Event) : Bool := e.level.rank ≤ limit.rank

end Event

/-- A value and the events that were reported on the way to it. -/
structure Told (α : Type) where
  value : α
  events : List Event
  deriving Repr

namespace Told

instance : Monad Told where
  pure v := ⟨v, []⟩
  bind t f := ⟨(f t.value).value, t.events ++ (f t.value).events⟩

/-- Reports an event. -/
def tell (e : Event) : Told Unit := ⟨(), [e]⟩

@[simp] theorem value_pure {α : Type} (v : α) : (pure v : Told α).value = v := rfl

@[simp] theorem events_pure {α : Type} (v : α) : (pure v : Told α).events = [] := rfl

@[simp] theorem value_bind {α β : Type} (t : Told α) (f : α → Told β) : (t >>= f).value = (f t.value).value := rfl

@[simp] theorem events_bind {α β : Type} (t : Told α) (f : α → Told β) :
    (t >>= f).events = t.events ++ (f t.value).events := rfl

instance : LawfulMonad Told :=
  LawfulMonad.mk' Told
    (fun t => by cases t; simp [Functor.map])
    (fun v f => by simp [bind, pure])
    (fun t f g => by simp [bind])

theorem mk_bind {α β : Type} (v : α) (es : List Event) (f : α → Told β) :
    (⟨v, es⟩ >>= f : Told β) = ⟨(f v).value, es ++ (f v).events⟩ := rfl

theorem map_mk {α β : Type} (f : α → β) (v : α) (es : List Event) : (f <$> ⟨v, es⟩ : Told β) = ⟨f v, es⟩ := by
  rw [map_eq_pure_bind, mk_bind]
  simp

theorem events_map {α β : Type} (f : α → β) (t : Told α) : (f <$> t).events = t.events := by
  obtain ⟨v, es⟩ := t
  rw [map_mk]

end Told

export Told (tell)

end LineAtlas
