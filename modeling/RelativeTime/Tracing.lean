import RelativeTime.Settings.Store

/-!
Tracing: the events that a span records around a piece of work. A failure is recorded on every
span that it leaves, unless the span does not record or breaks when told to; neither changes the
result of the work.
-/
namespace RelativeTime.Tracing

/-- What happens to a span; attributes have values of any type. -/
inductive Event (β : Type)
  | start (name : String)
  | attributes (pairs : List (String × β))
  | failure (f : Failure)
  | status (f : Failure)
  | stop (leaving : Option Failure)

/-- How a span behaves. -/
structure Span where
  recording : Bool
  broken : Bool
  deriving DecidableEq

/-- The events of recording a failure. -/
def Span.record (s : Span) (f : Failure) : List (Event β) :=
  if s.recording && !s.broken then [.failure f, .status f] else []

/-- A piece of work: its result, and the events it left behind. -/
structure Work (α β : Type) where
  result : Except Failure α
  events : List (Event β)

/-- Work inside a span of its own. -/
def Span.around (s : Span) (name : String) (attributes : List (String × β)) (w : Work α β) :
    Work α β :=
  let opening := .start name :: if attributes.isEmpty then [] else [.attributes attributes]
  let closing := match w.result with
    | .ok _ => [.stop none]
    | .error f => s.record f ++ [.stop (some f)]
  ⟨w.result, opening ++ w.events ++ closing⟩

/-- Work inside a span if tracing is on. -/
def Span.aroundIf (s : Span) (on : Bool) (name : String) (attributes : List (String × β))
    (w : Work α β) : Work α β :=
  if on then s.around name attributes w else w

/-- The name to use when the one given is empty or missing. -/
def nameOr (given : Option String) (default : String) : String :=
  match given with
  | none | some "" => default
  | some name => name

/-- The text of an expression read from a text, inside a span for the reading inside a span for
the whole. Whether tracing is on is asked of the settings first. -/
def readText (s : Span) (outer inner : String) (attributes : List (String × β))
    (text : Option String) (store : SettingsStore) : Work String β :=
  match store.settings.1 with
  | .error f => ⟨.error f, []⟩
  | .ok c =>
    s.aroundIf c.telemetry outer attributes <|
      s.aroundIf c.telemetry inner [] ⟨(Expression.ofText text none).map Expression.text, []⟩

end RelativeTime.Tracing
