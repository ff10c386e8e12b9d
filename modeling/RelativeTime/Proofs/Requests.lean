import RelativeTime.Proofs.Caching
import RelativeTime.Proofs.Printing
import RelativeTime.Proofs.Showing

/-!
How the run of a command line ends. With well-formed options it reports, and an error that is
reported is told in lines of its own that begin with the word for it. Only what keeps the settings
from being read can escape: always where it is met for the log level, and otherwise where a resolve
command is at a place that does not catch it.
-/
namespace RelativeTime

/-- The reference that a text is under some settings, whose time zone it takes if it has none. -/
def Settings.reference? (c : Settings) (value : String) : Option Stamp :=
  (Iso.readStamp? value).map fun s =>
    if s.zone = .floating then { s with zone := c.timezone.zone } else s

namespace SettingsStore

variable {s : SettingsStore} {c : Settings} {f : Failure} {value : String}

theorem offers_ofEnvironment {env : Environment} (h : Settings.load env = .ok c) :
    (ofEnvironment env).Offers c :=
  Or.inr ⟨rfl, h⟩

theorem readReference_of_none (h : Iso.readStamp? value = none) :
    s.readReference value = (.error .unreadable, s) := by
  unfold readReference
  simp only [h]

theorem readReference_of_zone {stamp : Stamp} (hv : Iso.readStamp? value = some stamp)
    (hz : stamp.zone ≠ .floating) : s.readReference value = (.ok stamp, s) := by
  unfold readReference
  simp only [hv]

theorem readReference_of_offers (h : s.Offers c) {r : Stamp} (hr : c.reference? value = some r) :
    ∃ t : SettingsStore, t.Offers c ∧ s.readReference value = (.ok r, t) := by
  obtain ⟨stamp, hstamp, hr⟩ := Option.map_eq_some_iff.mp hr
  split at hr
  case isTrue hz =>
    refine ⟨_, offers_cached s c, ?_⟩
    rw [readReference_of_floating hstamp hz, withSettings_of_offers h, ← hr]
    rfl
  case isFalse hz =>
    rw [← hr]
    exact ⟨s, h, readReference_of_zone hstamp hz⟩

theorem readExpression_of_offers (h : s.Offers c) (text : Option String) (ref : Option Stamp) :
    s.readExpression text ref = (Expression.ofText text ref, { s with cached := some c }) :=
  withSettings_of_offers h _

end SettingsStore

namespace Expression

theorem ofText_eq_error {text : Option String} {ref : Option Stamp} {f : Failure} :
    ofText text ref = .error f ↔ ∃ e es, (Reading.ofText text).errors = e :: es ∧
      f = .expression e.message ((Reading.ofText text).errors.map ReadError.message) := by
  unfold ofText
  simp only
  split
  case h_1 he => simp [he]
  case h_2 e es he =>
    rw [he]
    constructor
    · intro h
      exact ⟨e, es, rfl, (Except.error.inj h).symm⟩
    · rintro ⟨_, _, hes, rfl⟩
      rw [← (List.cons.inj hes).1]
      rfl

theorem isOwn_of_ofText {text : Option String} {ref : Option Stamp} {f : Failure}
    (h : ofText text ref = .error f) : f.isOwn = true := by
  obtain ⟨_, _, _, rfl⟩ := ofText_eq_error.mp h
  rfl

/-- What was read from a text can be written, so that its failures are the library's own. -/
theorem isOwn_of_evaluate {text : Option String} {ref : Option Stamp} {x : Expression}
    (hx : ofText text ref = .ok x) {c : Calendar} {r : Stamp} {f : Failure}
    (h : x.evaluate c r = .error f) : f.isOwn = true := by
  obtain ⟨fault, _, rfl⟩ := evaluate_eq_error.mp h
  rw [failureOf_of_written (written_of_ofText hx)]
  rfl

end Expression

/-- No value is to blame for a failure of the library's own. -/
theorem Failure.isValue_of_isOwn {f : Failure} (h : f.isOwn = true) : f.isValue = false := by
  cases f with
  | foreign e => simp [isOwn, kind, Kind.lineage] at h
  | _ => rfl

namespace CommandLine

/-- What a command can be asked for. -/
inductive Task
  | help
  | version
  | tokens (expression : String)
  | parse (expression : String)
  | resolve (q : ResolveRequest)
  deriving DecidableEq

namespace Task

/-- The task that well-formed arguments give to a command. -/
def ofArguments? (c : Command) (a : Arguments) : Option Task :=
  if a.has "help" then some help
  else
    match c, a.rest with
    | .version, [] => some version
    | .tokens, [x] => some (tokens x)
    | .parse, [x] => some (parse x)
    | .resolve, [x] => some (resolve ⟨x, a.last? "at", a.has "json", a.has "seconds"⟩)
    | _, _ => none

def perform (console : Console) (clock : Zone → Stamp) (store : SettingsStore) : Task → Outcome
  | help => .help
  | version => succeed [versionLine]
  | tokens x => runTokens console x
  | parse x => runParse console x
  | resolve q => runResolve console q clock store

/-- Whether a failure to read the settings escapes. A resolve command reads them for the zone of a
reference that has no offset, where it catches refused values alone, or else for its expression,
where it catches what is the library's own. -/
def escapes (f : Failure) : Task → Bool
  | resolve q =>
    match q.reference with
    | none => !f.isOwn
    | some value =>
      match Iso.readStamp? value with
      | none => false
      | some s => if s.zone = .floating then !f.isValue else !f.isOwn
  | _ => false

theorem runCommand_of_task {c : Command} {a : Arguments} {t : Task}
    (h : ofArguments? c a = some t) (console : Console) (clock : Zone → Stamp)
    (store : SettingsStore) :
    runCommand console c a clock store = t.perform console clock store := by
  unfold ofArguments? at h
  unfold runCommand
  split
  case isTrue hhelp =>
    rw [if_pos hhelp] at h
    rw [← Option.some.inj h]
    rfl
  case isFalse hhelp =>
    rw [if_neg hhelp] at h
    generalize a.rest = rest at h ⊢
    split at h
    case h_5 => simp at h
    all_goals
      rw [← Option.some.inj h]
      rfl

end Task

/-- What a command line with well-formed options asks for. Its log level comes from the settings
unless it asks to be verbose, or for help before any command. -/
structure Request where
  needsLevel : Bool
  task : Task
  deriving DecidableEq

namespace Request

def ofArguments? (args : List String) : Option Request :=
  match Arguments.read leadingOptions false args with
  | none => none
  | some leading =>
    if leading.has "help" then some ⟨false, .help⟩
    else
      match leading.rest with
      | [] => none
      | name :: rest => do
        let c ← Command.ofName? name
        let a ← Arguments.read c.options true rest
        let task ← Task.ofArguments? c a
        return ⟨!leading.has "verbose", task⟩

theorem ofArguments?_eq_some {args : List String} {q : Request}
    (h : ofArguments? args = some q) :
    ∃ leading, Arguments.read leadingOptions false args = some leading ∧
      (leading.has "help" = true ∧ q = ⟨false, .help⟩ ∨
        leading.has "help" = false ∧ ∃ name rest c a task, leading.rest = name :: rest ∧
          Command.ofName? name = some c ∧ Arguments.read c.options true rest = some a ∧
          Task.ofArguments? c a = some task ∧ q = ⟨!leading.has "verbose", task⟩) := by
  unfold ofArguments? at h
  split at h
  case h_1 => simp at h
  case h_2 leading hread =>
    refine ⟨leading, hread, ?_⟩
    split at h
    case isTrue hhelp => exact Or.inl ⟨hhelp, (Option.some.inj h).symm⟩
    case isFalse hhelp =>
      split at h
      case h_1 => simp at h
      case h_2 name rest hrest =>
        obtain ⟨c, hc, h⟩ := Option.bind_eq_some_iff.mp h
        obtain ⟨a, ha, h⟩ := Option.bind_eq_some_iff.mp h
        obtain ⟨task, htask, h⟩ := Option.bind_eq_some_iff.mp h
        exact Or.inr ⟨Bool.eq_false_iff.mpr hhelp, name, rest, c, a, task, hrest, hc, ha, htask,
          (Option.some.inj h).symm⟩

/-- Whether a failure to read the settings escapes, if not from the task then where they are read
for the log level. -/
def escapes (q : Request) (f : Failure) : Bool :=
  q.needsLevel || q.task.escapes f

end Request

section Outcomes

variable {console : Console} {clock : Zone → Stamp} {store : SettingsStore} {c : Settings}
  {f : Failure} {args : List String} {q : Request}

theorem run_eq (h : Request.ofArguments? args = some q) (console : Console) (clock : Zone → Stamp)
    (store : SettingsStore) :
    run console args clock store =
      if q.needsLevel then
        match store.settings with
        | (.error f, _) => .escaped f
        | (.ok _, store) => q.task.perform console clock store
      else q.task.perform console clock store := by
  obtain ⟨leading, hread, h⟩ := Request.ofArguments?_eq_some h
  rcases h with ⟨hhelp, rfl⟩ | ⟨hhelp, name, rest, c, a, task, hrest, hc, ha, htask, rfl⟩
  · simp [run, hread, hhelp, Task.perform]
  · simp only [run, hread, hhelp, hrest, hc, ha, SettingsStore.withSettings]
    cases leading.has "verbose" with
    | true => exact Task.runCommand_of_task htask console clock store
    | false =>
      rcases store.settings with ⟨_ | _, store'⟩
      · rfl
      · exact Task.runCommand_of_task htask console clock store'

/-- A run that ends well, or tells what is wrong, in lines of which the first begins with the word
for it unless the console is too narrow for that. -/
def Outcome.IsReported (columns : Nat) (o : Outcome) : Prop :=
  o.status = 0 ∨ ∃ r text, o = .report r ∧ r.status = 1 ∧ errorLines columns text <+: r.lines ∧
    (7 ≤ columns → ∃ first more, errorLines columns text = ("Error: " ++ first) :: more)

theorem Outcome.IsReported.ne_escaped {columns : Nat} {o : Outcome} (h : o.IsReported columns)
    (f : Failure) : o ≠ .escaped f := by
  rintro rfl
  rcases h with h | ⟨_, _, h, _⟩ <;> exact absurd h nofun

theorem isReported_of_lines {columns : Nat} {r : Report} (hs : r.status = 1) (text : String)
    (h : errorLines columns text <+: r.lines) : (Outcome.report r).IsReported columns :=
  Or.inr ⟨r, text, rfl, hs, h, fun h7 => errorLines_eq_cons h7 text⟩

theorem reject_isReported (console : Console) (text : String) :
    (reject console text).IsReported console.columns :=
  isReported_of_lines rfl text (List.prefix_refl _)

theorem runTokens_isReported (console : Console) (expression : String) :
    (runTokens console expression).IsReported console.columns := by
  unfold runTokens
  simp only
  split
  case isTrue => exact reject_isReported console _
  case isFalse => exact Or.inl rfl

theorem runParse_isReported (console : Console) (expression : String) :
    (runParse console expression).IsReported console.columns := by
  cases he : (Reading.ofText (some expression)).errors with
  | nil => exact Or.inl (by simp [runParse, he, Outcome.status])
  | cons e es =>
    refine isReported_of_lines (by simp [he]) e.message ?_
    simp only [he, List.flatMap_cons]
    exact List.prefix_append _ _

/-- What a resolve command shows of its result. -/
def showResolved (q : ResolveRequest) (x : Expression) (s : Stamp) : Outcome :=
  let result := if q.toSecond then Iso.stampToSecond s else Iso.stamp s
  if q.asJson then
    succeed (Terminal.plainLines ((resolvedData q.expression x result).document 0))
  else succeed [result]

theorem showResolved_status (q : ResolveRequest) (x : Expression) (s : Stamp) :
    (showResolved q x s).status = 0 := by
  unfold showResolved
  simp only
  split <;> rfl

/-- A resolve command from the place on where its reference has been read. -/
def resolveFrom (console : Console) (q : ResolveRequest) (clock : Zone → Stamp)
    (reference : Option Stamp) (store : SettingsStore) : Outcome :=
  match store.readExpression (some q.expression) reference with
  | (.error f, _) => failResolve console f
  | (.ok x, store) =>
    match (store.evaluate x none none clock).1 with
    | .error f => failResolve console f
    | .ok s => showResolved q x s

theorem failResolve_of_isOwn (h : f.isOwn = true) : failResolve console f = reject console f.text :=
  if_pos h

/-- With settings at hand the command depends on the text, the reference and the calendar. -/
theorem resolveFrom_of_offers (hs : store.Offers c) (q : ResolveRequest)
    (reference : Option Stamp) :
    resolveFrom console q clock reference store =
      match Expression.ofText (some q.expression) reference with
      | .error f => reject console f.text
      | .ok x =>
        match x.evaluate c.calendar (reference.getD (clock c.timezone.zone)) with
        | .error f => reject console f.text
        | .ok s => showResolved q x s := by
  unfold resolveFrom
  rw [SettingsStore.readExpression_of_offers hs]
  cases hx : Expression.ofText (some q.expression) reference with
  | error f => exact failResolve_of_isOwn (Expression.isOwn_of_ofText hx)
  | ok x =>
    have href : x.reference = reference := by
      rw [(Expression.ofText_eq_ok.mp hx).2]
    have hv : (SettingsStore.evaluate x none none clock { store with cached := some c }).1 =
        x.evaluate c.calendar (reference.getD (clock c.timezone.zone)) := by
      rw [SettingsStore.evaluate_of_offers (SettingsStore.offers_cached store c), href]
    cases he : x.evaluate c.calendar (reference.getD (clock c.timezone.zone)) with
    | error f => simp only [hv, he, failResolve_of_isOwn (Expression.isOwn_of_evaluate hx he)]
    | ok s => simp only [hv, he]

theorem resolveFrom_isReported (hs : store.Offers c) (q : ResolveRequest)
    (reference : Option Stamp) :
    (resolveFrom console q clock reference store).IsReported console.columns := by
  rw [resolveFrom_of_offers hs]
  split
  case h_1 => exact reject_isReported console _
  case h_2 =>
    split
    case h_1 => exact reject_isReported console _
    case h_2 => exact Or.inl (showResolved_status q _ _)

theorem resolveFrom_of_error (hn : store.cached = none)
    (hl : Settings.load store.environment = .error f) (q : ResolveRequest)
    (reference : Option Stamp) :
    resolveFrom console q clock reference store = failResolve console f := by
  have hr : store.readExpression (some q.expression) reference = (.error f, store) :=
    SettingsStore.withSettings_of_error hn hl _
  rw [resolveFrom, hr]

section Resolve

variable {q : ResolveRequest}

theorem runResolve_of_none (h : q.reference = none) :
    runResolve console q clock store = resolveFrom console q clock none store := by
  unfold runResolve
  rw [h]
  rfl

theorem runResolve_of_some {value : String} (h : q.reference = some value) :
    runResolve console q clock store =
      match store.readReference value with
      | (.error .unreadable, _) => reject console ("Invalid reference instant: " ++ value)
      | (.error (.failure f), _) =>
        if f.isValue then reject console ("Invalid reference instant: " ++ value) else .escaped f
      | (.ok s, store) => resolveFrom console q clock (some s) store := by
  unfold runResolve
  simp only [h]
  rcases store.readReference value with ⟨(_ | _) | _, _⟩ <;> rfl

theorem runResolve_isReported (hs : store.Offers c) :
    (runResolve console q clock store).IsReported console.columns := by
  cases hq : q.reference with
  | none =>
    rw [runResolve_of_none hq]
    exact resolveFrom_isReported hs q none
  | some value =>
    rw [runResolve_of_some hq]
    cases hr : c.reference? value with
    | none =>
      rw [SettingsStore.readReference_of_none (Option.map_eq_none_iff.mp hr)]
      exact reject_isReported console _
    | some r =>
      obtain ⟨t, ht, hread⟩ := SettingsStore.readReference_of_offers hs hr
      rw [hread]
      exact resolveFrom_isReported ht q (some r)

/-- What a resolve command does without settings is decided where it asks for them first. -/
theorem runResolve_of_error (hn : store.cached = none)
    (hl : Settings.load store.environment = .error f) :
    runResolve console q clock store =
      match q.reference with
      | none => failResolve console f
      | some value =>
        match Iso.readStamp? value with
        | none => reject console ("Invalid reference instant: " ++ value)
        | some s =>
          if s.zone = .floating then
            if f.isValue then reject console ("Invalid reference instant: " ++ value)
            else .escaped f
          else failResolve console f := by
  cases hq : q.reference with
  | none => rw [runResolve_of_none hq, resolveFrom_of_error hn hl]
  | some value =>
    rw [runResolve_of_some hq]
    cases hv : Iso.readStamp? value with
    | none =>
      simp only [SettingsStore.readReference_of_none hv, hv]
    | some s =>
      by_cases hz : s.zone = .floating
      · rw [SettingsStore.readReference_of_floating hv hz,
          SettingsStore.withSettings_of_error hn hl]
        simp only [hv, hz, if_true]
        rfl
      · rw [SettingsStore.readReference_of_zone hv hz]
        simp only [hv, hz, if_false, resolveFrom_of_error hn hl]

theorem runResolve_of_escapes (hn : store.cached = none)
    (hl : Settings.load store.environment = .error f)
    (he : (Task.resolve q).escapes f = true) : runResolve console q clock store = .escaped f := by
  rw [runResolve_of_error hn hl]
  unfold Task.escapes at he
  cases hq : q.reference with
  | none => simp_all [failResolve]
  | some value =>
    cases hv : Iso.readStamp? value with
    | none => simp_all
    | some s => by_cases hz : s.zone = .floating <;> simp_all [failResolve]

/-- What does not escape is told, a failure of the library's own by its own text unless the
reference is to blame. -/
theorem runResolve_of_not_escapes (console : Console) (clock : Zone → Stamp)
    (store : SettingsStore) (hn : store.cached = none)
    (hl : Settings.load store.environment = .error f)
    (he : (Task.resolve q).escapes f = false) :
    ∃ text, runResolve console q clock store = reject console text ∧
      (f.isOwn = true → (∀ value ∈ q.reference, (Iso.readStamp? value).isSome) →
        text = f.text) := by
  rw [runResolve_of_error hn hl]
  unfold Task.escapes at he
  cases hq : q.reference with
  | none => exact ⟨f.text, by simp_all [failResolve]⟩
  | some value =>
    cases hv : Iso.readStamp? value with
    | none =>
      refine ⟨"Invalid reference instant: " ++ value, by simp only [hv], fun _ hvalue => ?_⟩
      simp [hv] at hvalue
    | some s =>
      by_cases hz : s.zone = .floating
      · have hvalue : f.isValue = true := by simpa [hq, hv, hz] using he
        refine ⟨"Invalid reference instant: " ++ value, by simp only [hv, hz, hvalue, if_true],
          fun hown => ?_⟩
        rw [Failure.isValue_of_isOwn hown] at hvalue
        exact absurd hvalue Bool.false_ne_true
      · exact ⟨f.text, by simp_all [failResolve]⟩

end Resolve

/-- Only a resolve command can fail to report. -/
theorem perform_isReported_of (t : Task)
    (h : ∀ q, t = .resolve q → (runResolve console q clock store).IsReported console.columns) :
    (t.perform console clock store).IsReported console.columns := by
  cases t with
  | help => exact Or.inl rfl
  | version => exact Or.inl rfl
  | tokens x => exact runTokens_isReported console x
  | parse x => exact runParse_isReported console x
  | resolve q => exact h q rfl

theorem perform_isReported (hs : store.Offers c) (t : Task) :
    (t.perform console clock store).IsReported console.columns :=
  perform_isReported_of t fun _ _ => runResolve_isReported hs

theorem perform_of_escapes (hn : store.cached = none)
    (hl : Settings.load store.environment = .error f) {t : Task} (he : t.escapes f = true) :
    t.perform console clock store = .escaped f := by
  cases t with
  | resolve q => exact runResolve_of_escapes hn hl he
  | _ => exact absurd he Bool.false_ne_true

theorem perform_of_not_escapes (hn : store.cached = none)
    (hl : Settings.load store.environment = .error f) {t : Task} (he : t.escapes f = false) :
    (t.perform console clock store).IsReported console.columns := by
  apply perform_isReported_of
  rintro q rfl
  obtain ⟨text, hrun, _⟩ := runResolve_of_not_escapes console clock store hn hl he
  rw [hrun]
  exact reject_isReported console text

theorem run_of_offers (console : Console) (clock : Zone → Stamp) (hs : store.Offers c)
    (h : Request.ofArguments? args = some q) :
    ∃ t : SettingsStore, t.Offers c ∧
      run console args clock store = q.task.perform console clock t := by
  rw [run_eq h]
  cases q.needsLevel with
  | false => exact ⟨store, hs, rfl⟩
  | true =>
    -- the level fills the store, which offers the same settings to the task
    rw [SettingsStore.settings_of_offers hs]
    exact ⟨_, SettingsStore.offers_cached store c, rfl⟩

theorem run_of_escapes (h : Request.ofArguments? args = some q) (hn : store.cached = none)
    (hl : Settings.load store.environment = .error f) (he : q.escapes f = true) :
    run console args clock store = .escaped f := by
  rw [run_eq h]
  unfold Request.escapes at he
  cases hlevel : q.needsLevel with
  | true =>
    rw [SettingsStore.settings_of_error hn hl]
    rfl
  | false =>
    rw [hlevel, Bool.false_or] at he
    exact perform_of_escapes hn hl he

theorem run_of_not_escapes (h : Request.ofArguments? args = some q)
    (he : q.escapes f = false) (console : Console) (clock : Zone → Stamp) (store : SettingsStore) :
    run console args clock store = q.task.perform console clock store ∧
      q.task.escapes f = false := by
  obtain ⟨hlevel, htask⟩ := Bool.or_eq_false_iff.mp he
  rw [run_eq h, hlevel]
  exact ⟨rfl, htask⟩

/-- A run passes on what escapes its request when the settings are read, and reports otherwise. -/
theorem run_cases (h : Request.ofArguments? args = some q) (console : Console)
    (clock : Zone → Stamp) (env : Environment) :
    (∃ f, Settings.load env = .error f ∧ q.escapes f = true ∧
        run console args clock (.ofEnvironment env) = .escaped f) ∨
      (∀ f, Settings.load env = .error f → q.escapes f = false) ∧
        (run console args clock (.ofEnvironment env)).IsReported console.columns := by
  cases hl : Settings.load env with
  | ok c =>
    obtain ⟨t, ht, hrun⟩ := run_of_offers console clock (SettingsStore.offers_ofEnvironment hl) h
    refine Or.inr ⟨nofun, ?_⟩
    rw [hrun]
    exact perform_isReported ht q.task
  | error f =>
    cases he : q.escapes f with
    | true => exact Or.inl ⟨f, rfl, he, run_of_escapes h rfl hl he⟩
    | false =>
      obtain ⟨hrun, htask⟩ := run_of_not_escapes h he console clock (.ofEnvironment env)
      refine Or.inr ⟨fun g hg => Except.error.inj hg ▸ he, ?_⟩
      rw [hrun]
      exact perform_of_not_escapes rfl hl htask

end Outcomes

/-- A run with well-formed options escapes exactly where the settings cannot be read and this is met
outside the reach of its reports, and nothing but that escapes. Any other run reports; a resolve
command that meets it later tells it. -/
theorem run_of_request {args : List String} {q : Request}
    (h : Request.ofArguments? args = some q) (console : Console) (clock : Zone → Stamp)
    (env : Environment) :
    let outcome := run console args clock (.ofEnvironment env)
    (∀ f, outcome = .escaped f ↔ Settings.load env = .error f ∧ q.escapes f = true) ∧
      (env.IsSound → ∀ f, outcome = .escaped f → f.kind = .setting) ∧
      ((∀ f, outcome ≠ .escaped f) → outcome.IsReported console.columns) ∧
      ∀ r f, q.task = .resolve r → q.escapes f = false → Settings.load env = .error f →
        f.isOwn = true → (∀ value ∈ r.reference, (Iso.readStamp? value).isSome) →
          outcome = reject console f.text := by
  intro outcome
  -- a run that reports does not escape, so the two cases of a run decide
  have hescaped : ∀ f, outcome = .escaped f ↔
      Settings.load env = .error f ∧ q.escapes f = true := by
    intro f
    rcases run_cases h console clock env with ⟨g, hl, he, hrun⟩ | ⟨hnot, hreported⟩
    · simp only [outcome, hrun, Outcome.escaped.injEq, hl, Except.error.injEq]
      exact ⟨fun hg => ⟨hg, hg ▸ he⟩, And.left⟩
    · refine iff_of_false (hreported.ne_escaped f) ?_
      rintro ⟨hl, he⟩
      exact absurd he (by simp [hnot f hl])
  refine ⟨hescaped, fun hsound f hf => ?_, fun hne => ?_, fun r f htask he hl hown hvalue => ?_⟩
  · exact Settings.kind_of_load_error hsound ((hescaped f).mp hf).1
  · rcases run_cases h console clock env with ⟨f, -, -, hrun⟩ | ⟨-, hreported⟩
    · exact absurd hrun (hne f)
    · exact hreported
  · obtain ⟨hrun, hnot⟩ := run_of_not_escapes h he console clock (.ofEnvironment env)
    rw [htask] at hnot hrun
    obtain ⟨text, hresolve, htext⟩ :=
      runResolve_of_not_escapes console clock (.ofEnvironment env) rfl hl hnot
    rw [← htext hown hvalue]
    simp only [outcome, hrun]
    exact hresolve

/-- The same bad settings are reported with an offset in the reference and escape without one. -/
theorem run_of_request_verbose :
    let early : Stamp := ⟨⟨0, by decide, by decide⟩, .floating, false⟩
    let console := Console.ofColumns 80
    let env := Environment.ofVars [("DATEMATH_TIMEZONE", "Mars/Olympus")] ClockHistory.ofName?
    let f : Failure := .setting "timezone" "Mars/Olympus"
      "Value error, unknown time zone: Mars/Olympus"
    run console ["-v", "resolve", "now/d", "--at", "2018-06-18T08:39:07+00:00"] (fun _ => early)
        (.ofEnvironment env) = reject console f.text ∧
      run console ["-v", "resolve", "now/d", "--at", "2018-06-18T08:39:07"] (fun _ => early)
        (.ofEnvironment env) = .escaped f := by
  intro early console env f
  have hl : Settings.load env = .error f := by decide +kernel
  constructor
  · have h : Request.ofArguments?
        ["-v", "resolve", "now/d", "--at", "2018-06-18T08:39:07+00:00"] =
          some ⟨false, .resolve ⟨"now/d", some "2018-06-18T08:39:07+00:00", false, false⟩⟩ := by
      decide +kernel
    obtain ⟨_, _, _, hlate⟩ := run_of_request h console (fun _ => early) env
    exact hlate _ f rfl (by decide +kernel) hl rfl (by decide +kernel)
  · have h : Request.ofArguments? ["-v", "resolve", "now/d", "--at", "2018-06-18T08:39:07"] =
        some ⟨false, .resolve ⟨"now/d", some "2018-06-18T08:39:07", false, false⟩⟩ := by
      decide +kernel
    obtain ⟨hescaped, _⟩ := run_of_request h console (fun _ => early) env
    exact (hescaped f).mpr ⟨hl, by decide +kernel⟩

/-- No report tells the version of a program whose time zone is unknown. -/
theorem run_version_escapes :
    let early : Stamp := ⟨⟨0, by decide, by decide⟩, .floating, false⟩
    let console := Console.ofColumns 80
    let store := SettingsStore.ofEnvironment
      (.ofVars [("DATEMATH_TIMEZONE", "Mars/Olympus")] ClockHistory.ofName?)
    Request.ofArguments? ["version"] = some ⟨true, .version⟩ ∧
      run console ["version"] (fun _ => early) store = .escaped (.setting "timezone" "Mars/Olympus"
        "Value error, unknown time zone: Mars/Olympus") ∧
      ¬(run console ["version"] (fun _ => early) store).IsReported console.columns := by
  intro early console store
  have hrun : run console ["version"] (fun _ => early) store = .escaped (.setting "timezone"
      "Mars/Olympus" "Value error, unknown time zone: Mars/Olympus") := by
    decide +kernel
  refine ⟨by decide +kernel, hrun, fun h => ?_⟩
  exact h.ne_escaped _ hrun

end CommandLine

end RelativeTime
