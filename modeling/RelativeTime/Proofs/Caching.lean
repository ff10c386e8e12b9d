import Mathlib.Data.List.Basic
import RelativeTime.Settings.Store
import RelativeTime.Zone.Known

/-!
What a store holds over a run of steps. Between two resets it is filled by the first step that needs
the settings while the environment has good ones, and keeps those whatever happens to the
environment. Until then every step that needs settings fails and leaves it empty.
-/
namespace RelativeTime

namespace Settings

variable {α β : Type} {env : Environment} {f : Failure}

theorem of_field_error {vars : Variables} {name : String} {default : α}
    {read : String → Except ForeignError (Option α)} {reason : String → String}
    (h : field vars name default read reason = .error f) :
    f.kind = .setting ∨ ∃ value e, read value = .error e ∧ f = .foreign e := by
  unfold field at h
  split at h
  case h_1 => simp at h
  case h_2 value _ =>
    split at h
    case h_1 => simp at h
    case h_2 =>
      rw [← Except.error.inj h]
      exact Or.inl rfl
    case h_3 e he => exact Or.inr ⟨value, e, he, (Except.error.inj h).symm⟩

/-- Where reading a value cannot fail, what is told is the value. -/
theorem kind_of_field_error {vars : Variables} {name : String} {default : α}
    {read : String → Option α} {reason : String → String}
    (h : field vars name default (.ok ∘ read) reason = .error f) : f.kind = .setting := by
  rcases of_field_error h with hkind | ⟨_, _, he, _⟩
  · exact hkind
  · exact absurd he nofun

theorem raises_of_timezone?_error {name : String} {e : ForeignError}
    (h : timezone? env.zones name = .error e) : env.Raises e := by
  unfold timezone? at h
  split at h
  case isTrue => simp at h
  case isFalse =>
    split at h
    case h_1 => simp at h
    case h_2 e' he =>
      split at h
      case isTrue => simp at h
      case isFalse hvalue =>
        obtain rfl := Except.error.inj h
        exact .zone he (by simpa using hvalue)

theorem of_bind_error {e : Except Failure α} {k : α → Except Failure β}
    (h : (e >>= k) = .error f) : e = .error f ∨ ∃ a, e = .ok a ∧ k a = .error f := by
  cases e with
  | error g =>
    have hg : g = f := Except.error.inj h
    exact Or.inl (congrArg _ hg)
  | ok a => exact Or.inr ⟨a, rfl, h⟩

/-- Settings that cannot be read have a bad value, or the file or a zone could not be read. -/
theorem of_load_error (h : load env = .error f) :
    f.kind = .setting ∨ ∃ e, f = .foreign e ∧ env.Raises e := by
  -- the file, the four settings in their order, and the record of them that cannot fail
  rcases of_bind_error h with h | ⟨_, _, h⟩
  · cases hfile : env.file with
    | ok vs =>
      rw [hfile] at h
      exact absurd h nofun
    | error e =>
      rw [hfile] at h
      exact Or.inr ⟨e, (Except.error.inj h).symm, .file hfile⟩
  rcases of_bind_error h with h | ⟨_, _, h⟩
  · rcases of_field_error h with hkind | ⟨_, e, he, hf⟩
    · exact Or.inl hkind
    · exact Or.inr ⟨e, hf, raises_of_timezone?_error he⟩
  rcases of_bind_error h with h | ⟨_, _, h⟩
  · exact Or.inl (kind_of_field_error h)
  rcases of_bind_error h with h | ⟨_, _, h⟩
  · exact Or.inl (kind_of_field_error h)
  rcases of_bind_error h with h | ⟨_, _, h⟩
  · exact Or.inl (kind_of_field_error h)
  · simp [pure, Except.pure] at h

theorem kind_of_load_error (hsound : env.IsSound) (h : load env = .error f) :
    f.kind = .setting := by
  rcases of_load_error h with hkind | ⟨e, -, he⟩
  · exact hkind
  · exact absurd he (hsound e)

end Settings

namespace SettingsStore

namespace Step

/-- Steps that need the settings: every expression does, even one that does not read, but of the
references only those that read and have no offset. -/
def needsSettings : Step → Bool
  | get | isShared | telemetry | resolve .. => true
  | reference value => (Iso.readStamp? value).any fun s => s.zone = .floating
  | assign .. | unassign _ | reset | load => false

/-- The environment behind a step. -/
def environment (env : Environment) : Step → Environment
  | assign name value => env.assign name value
  | unassign name => env.unassign name
  | _ => env

/-- What a step that needs the settings answers, from these alone. They are always shared. -/
def answerWith (clock : Zone → Stamp) (c : Settings) : Step → Answer
  | get => .settings c
  | telemetry => .truth c.telemetry
  | resolve text at_ =>
    match Expression.ofText text at_ >>= fun x =>
        x.evaluate c.calendar (at_.getD (clock c.timezone.zone)) with
    | .ok s => .stamp s
    | .error f => .failure (.failure f)
  | reference value =>
    match Iso.readStamp? value with
    | some s => .stamp { s with zone := c.timezone.zone }
    | none => .failure .unreadable
  | _ => .truth true

end Step

/-- The environment behind a list of steps. -/
def environmentAfter (env : Environment) (xs : List Step) : Environment :=
  xs.foldl Step.environment env

theorem Step.environment_raises {env : Environment} {e : ForeignError} {x : Step}
    (h : (x.environment env).Raises e) : env.Raises e := by
  -- a step sets variables at most, not the file and the zones
  have hfile : (x.environment env).file = env.file := by cases x <;> rfl
  have hzones : (x.environment env).zones = env.zones := by cases x <;> rfl
  cases h with
  | file h => exact .file (hfile ▸ h)
  | zone h hvalue => exact .zone (hzones ▸ h) hvalue

theorem environmentAfter_isSound {env : Environment} (h : env.IsSound) (xs : List Step) :
    (environmentAfter env xs).IsSound := by
  induction xs generalizing env with
  | nil => exact h
  | cons x xs ih => exact ih fun e he => h e (Step.environment_raises he)

/-- Each of the steps that needs settings finds an environment without good ones. -/
def FindsNone (env : Environment) (xs : List Step) : Prop :=
  ∀ ys x zs, xs = ys ++ x :: zs → x.needsSettings = true →
    ∃ f, Settings.load (environmentAfter env ys) = .error f

/-- The first of the steps that needs settings and finds good ones finds these. -/
def FindsFirst (env : Environment) (xs : List Step) (c : Settings) : Prop :=
  ∃ ys x zs, xs = ys ++ x :: zs ∧ x.needsSettings = true ∧
    Settings.load (environmentAfter env ys) = .ok c ∧ FindsNone env ys

/-- A step that needs settings would find these, in the store or else in the environment. -/
def Offers (s : SettingsStore) (c : Settings) : Prop :=
  s.cached = some c ∨ s.cached = none ∧ Settings.load s.environment = .ok c

section Environments

variable {env : Environment} {x : Step} {xs : List Step}

@[simp] theorem findsNone_nil : FindsNone env [] := by
  intro ys x zs h
  simp at h

theorem findsNone_cons :
    FindsNone env (x :: xs) ↔
      (x.needsSettings = true → ∃ f, Settings.load env = .error f) ∧
        FindsNone (x.environment env) xs := by
  constructor
  · intro h
    refine ⟨h [] x xs rfl, ?_⟩
    rintro ys y zs rfl
    exact h (x :: ys) y zs rfl
  · rintro ⟨hx, hxs⟩ ys y zs h
    cases ys with
    | nil =>
      obtain ⟨rfl, rfl⟩ := List.cons.inj h
      exact hx
    | cons w ys =>
      obtain ⟨rfl, rfl⟩ := List.cons.inj h
      exact hxs ys y zs rfl

theorem findsFirst_cons {c : Settings} :
    FindsFirst env (x :: xs) c ↔
      (x.needsSettings = true ∧ Settings.load env = .ok c) ∨
        (x.needsSettings = true → ∃ f, Settings.load env = .error f) ∧
          FindsFirst (x.environment env) xs c := by
  constructor
  · rintro ⟨ys, y, zs, h, hy, hload, hnone⟩
    cases ys with
    | nil =>
      obtain ⟨rfl, rfl⟩ := List.cons.inj h
      exact Or.inl ⟨hy, hload⟩
    | cons w ys =>
      obtain ⟨rfl, rfl⟩ := List.cons.inj h
      obtain ⟨hx, hys⟩ := findsNone_cons.mp hnone
      exact Or.inr ⟨hx, ys, y, zs, rfl, hy, hload, hys⟩
  · rintro (⟨hx, hload⟩ | ⟨hx, ys, y, zs, rfl, hy, hload, hnone⟩)
    · exact ⟨[], x, xs, rfl, hx, hload, findsNone_nil⟩
    · exact ⟨x :: ys, y, zs, rfl, hy, hload, findsNone_cons.mpr ⟨hx, hnone⟩⟩

end Environments

section Steps

variable {clock : Zone → Stamp} {s t : SettingsStore} {c : Settings} {f : Failure} {x : Step}

theorem settings_of_offers (h : s.Offers c) :
    s.settings = (.ok c, { s with cached := some c }) := by
  unfold settings
  rcases h with h | ⟨hn, hl⟩
  · have hs : { s with cached := some c } = s := by rw [← h]
    simp only [h, hs]
  · simp only [hn, hl]

theorem settings_of_error (hn : s.cached = none) (hl : Settings.load s.environment = .error f) :
    s.settings = (.error f, s) := by
  unfold settings
  simp only [hn, hl]

theorem offers_cases (s : SettingsStore) :
    (∃ c, s.Offers c) ∨ s.cached = none ∧ ∃ f, Settings.load s.environment = .error f := by
  cases hc : s.cached with
  | some c => exact Or.inl ⟨c, Or.inl hc⟩
  | none =>
    cases hl : Settings.load s.environment with
    | ok c => exact Or.inl ⟨c, Or.inr ⟨hc, hl⟩⟩
    | error f => exact Or.inr ⟨rfl, f, rfl⟩

theorem withSettings_of_offers {α : Type} (h : s.Offers c) (use : Settings → Except Failure α) :
    s.withSettings use = (use c, { s with cached := some c }) := by
  unfold withSettings
  rw [settings_of_offers h]
  rfl

theorem withSettings_of_error {α : Type} (hn : s.cached = none)
    (hl : Settings.load s.environment = .error f) (use : Settings → Except Failure α) :
    s.withSettings use = (.error f, s) := by
  unfold withSettings
  rw [settings_of_error hn hl]
  rfl

theorem offers_cached (s : SettingsStore) (c : Settings) :
    Offers { s with cached := some c } c :=
  Or.inl rfl

theorem evaluate_of_offers (h : s.Offers c) (e : Expression) :
    s.evaluate e none none clock =
      (e.evaluate c.calendar (e.reference.getD (clock c.timezone.zone)),
        { s with cached := some c }) := by
  unfold evaluate referenceFor calendarFor
  -- the calendar needs the settings, whether or not the reference has needed them before it
  cases e.reference with
  | some r =>
    simp only [Option.none_or, withSettings_of_offers h]
    rfl
  | none =>
    simp only [Option.none_or, withSettings_of_offers h, withSettings_of_offers (offers_cached s c)]
    rfl

theorem resolve_of_offers (h : s.Offers c) (text : Option String) (at_ : Option Stamp) :
    s.resolve text at_ clock =
      (Expression.ofText text at_ >>= fun e =>
        e.evaluate c.calendar (at_.getD (clock c.timezone.zone)), { s with cached := some c }) := by
  unfold resolve readExpression
  rw [withSettings_of_offers h]
  cases he : Expression.ofText text at_ with
  | error f => rfl
  | ok e =>
    -- an expression that was read has the reference it was read with
    have href : e.reference = at_ := by
      rw [(Expression.ofText_eq_ok.mp he).2]
    simp only [evaluate_of_offers (offers_cached s c), href]
    rfl

/-- Two reads with nothing between them find the same settings. -/
theorem readTwice_of_offers (h : s.Offers c) :
    s.readTwice = (.ok true, { s with cached := some c }) := by
  unfold readTwice
  simp only [settings_of_offers h, settings_of_offers (offers_cached s c), decide_true]

theorem readTwice_of_error (hn : s.cached = none) (hl : Settings.load s.environment = .error f) :
    s.readTwice = (.error f, s) := by
  unfold readTwice
  simp only [settings_of_error hn hl]

theorem readReference_of_floating {value : String} {stamp : Stamp}
    (hv : Iso.readStamp? value = some stamp) (hz : stamp.zone = .floating) :
    s.readReference value =
      (((s.withSettings fun c => .ok { stamp with zone := c.timezone.zone }).1.mapError
        .failure), (s.withSettings fun c => .ok { stamp with zone := c.timezone.zone }).2) := by
  unfold readReference
  simp only [hv, hz]

theorem step_of_offers (hx : x.needsSettings = true) (h : s.Offers c) :
    s.step clock x = (x.answerWith clock c, { s with cached := some c }) := by
  cases x with
  | assign | unassign | reset | load => simp [Step.needsSettings] at hx
  | get => simp only [step, settings_of_offers h, Answer.ofResult, Step.answerWith]
  | isShared => simp only [step, readTwice_of_offers h, Answer.ofResult, Step.answerWith]
  | telemetry => simp only [step, settings_of_offers h, Answer.ofResult, Step.answerWith]
  | resolve text at_ =>
    simp only [step, resolve_of_offers h, Answer.ofResult, Step.answerWith]
    split <;> simp_all
  | reference value =>
    obtain ⟨stamp, hv, hz⟩ := (Option.any_eq_true _ _).mp hx
    have hfloating : stamp.zone = .floating := by simpa using hz
    simp only [step, readReference_of_floating hv hfloating, withSettings_of_offers h,
      Step.answerWith, hv]
    rfl

theorem step_of_error (hx : x.needsSettings = true) (hn : s.cached = none)
    (hl : Settings.load s.environment = .error f) :
    s.step clock x = (.failure (.failure f), s) := by
  have hs : s.settings = (.error f, s) := settings_of_error hn hl
  cases x with
  | assign | unassign | reset | load => simp [Step.needsSettings] at hx
  | get => simp only [step, hs, Answer.ofResult]
  | isShared => simp only [step, readTwice_of_error hn hl, Answer.ofResult]
  | telemetry => simp only [step, hs, Answer.ofResult]
  | resolve text at_ =>
    have hr : s.readExpression text at_ = (.error f, s) := withSettings_of_error hn hl _
    simp only [step, resolve, hr, Answer.ofResult]
  | reference value =>
    obtain ⟨stamp, hv, hz⟩ := (Option.any_eq_true _ _).mp hx
    have hfloating : stamp.zone = .floating := by simpa using hz
    simp only [step, readReference_of_floating hv hfloating, withSettings_of_error hn hl]
    rfl

theorem step_reference (clock : Zone → Stamp) {value : String}
    (hx : (Step.reference value).needsSettings = false) :
    ∃ answer, ∀ s : SettingsStore, s.step clock (.reference value) = (answer, s) := by
  cases hv : Iso.readStamp? value with
  | none => exact ⟨.failure .unreadable, fun s => by simp only [step, readReference, hv]⟩
  | some stamp =>
    have hz : stamp.zone ≠ .floating := by simpa [Step.needsSettings, hv] using hx
    refine ⟨.stamp stamp, fun s => ?_⟩
    have hr : s.readReference value = (.ok stamp, s) := by
      unfold readReference
      simp only [hv]
    simp only [step, hr]

theorem step_load :
    s.step clock .load = ((Answer.ofResult .settings (Settings.load s.environment, s)).1, s) := by
  simp only [step, Answer.ofResult]
  split <;> simp_all

/-- All that a step without a need for settings can do. Only a load looks at the store for its
answer, and only a reset touches the settings. -/
theorem step_of_unneeded (clock : Zone → Stamp) (hx : x.needsSettings = false) :
    x = .reset ∨ x = .load ∨ ∃ answer, ∀ s : SettingsStore,
      s.step clock x = (answer, { s with environment := x.environment s.environment }) := by
  cases x with
  | get | isShared | telemetry | resolve => simp [Step.needsSettings] at hx
  | reset => exact Or.inl rfl
  | load => exact Or.inr (Or.inl rfl)
  | assign name value => exact Or.inr (Or.inr ⟨.done, fun _ => rfl⟩)
  | unassign name => exact Or.inr (Or.inr ⟨.done, fun _ => rfl⟩)
  | reference value => exact Or.inr (Or.inr (step_reference clock hx))

theorem step_cached_of_unneeded (hx : x.needsSettings = false) (hreset : x ≠ .reset) :
    (s.step clock x).2.cached = s.cached := by
  rcases step_of_unneeded clock hx with rfl | rfl | ⟨answer, h⟩
  · exact absurd rfl hreset
  · rw [step_load]
  · rw [h]

theorem step_environment : (s.step clock x).2.environment = x.environment s.environment := by
  cases hx : x.needsSettings with
  | true =>
    -- the steps that change the environment are not among those that need settings
    have henv : x.environment s.environment = s.environment := by
      cases x <;> first | rfl | simp [Step.needsSettings] at hx
    rw [henv]
    rcases offers_cases s with ⟨c, h⟩ | ⟨hn, f, hl⟩
    · rw [step_of_offers hx h]
    · rw [step_of_error hx hn hl]
  | false =>
    rcases step_of_unneeded clock hx with rfl | rfl | ⟨answer, h⟩
    · rfl
    · rw [step_load]
      rfl
    · rw [h]

/-- Nothing but a reset takes settings out of a store. -/
theorem step_cached (hreset : x ≠ .reset) (h : s.cached = some c) :
    (s.step clock x).2.cached = some c := by
  cases hx : x.needsSettings with
  | true => rw [step_of_offers hx (Or.inl h)]
  | false => rw [step_cached_of_unneeded hx hreset, h]

theorem step_answer (hx : x.needsSettings = false) (hload : x ≠ .load) :
    (s.step clock x).1 = (t.step clock x).1 := by
  rcases step_of_unneeded clock hx with rfl | rfl | ⟨answer, h⟩
  · rfl
  · exact absurd rfl hload
  · rw [h, h]

end Steps

section Runs

variable {clock : Zone → Stamp} {s : SettingsStore} {c : Settings} {x : Step} {xs ys : List Step}

theorem run_cons :
    s.run clock (x :: xs) =
      ((s.step clock x).1 :: ((s.step clock x).2.run clock xs).1,
        ((s.step clock x).2.run clock xs).2) :=
  rfl

theorem run_append :
    s.run clock (xs ++ ys) =
      ((s.run clock xs).1 ++ ((s.run clock xs).2.run clock ys).1,
        ((s.run clock xs).2.run clock ys).2) := by
  induction xs generalizing s with
  | nil => rfl
  | cons x xs ih => simp only [List.cons_append, run_cons, ih]

theorem run_length : (s.run clock xs).1.length = xs.length := by
  induction xs generalizing s with
  | nil => rfl
  | cons x xs ih => simp only [run_cons, List.length_cons, ih]

theorem run_environment :
    (s.run clock xs).2.environment = environmentAfter s.environment xs := by
  induction xs generalizing s with
  | nil => rfl
  | cons x xs ih =>
    rw [run_cons]
    exact ih.trans (congrArg (environmentAfter · xs) step_environment)

theorem run_cached (hreset : Step.reset ∉ xs) (h : s.cached = some c) :
    (s.run clock xs).2.cached = some c := by
  induction xs generalizing s with
  | nil => exact h
  | cons x xs ih =>
    have hx : x ≠ .reset := Ne.symm (List.ne_of_not_mem_cons hreset)
    have hxs : Step.reset ∉ xs := List.not_mem_of_not_mem_cons hreset
    exact ih hxs (step_cached hx h)

theorem step_of_empty (clock : Zone → Stamp) (hx : x ≠ .reset) (hn : s.cached = none) :
    (∃ c, x.needsSettings = true ∧ Settings.load s.environment = .ok c ∧
        (s.step clock x).2.cached = some c) ∨
      (x.needsSettings = true → ∃ f, Settings.load s.environment = .error f) ∧
        (s.step clock x).2.cached = none := by
  cases hneeds : x.needsSettings with
  | false =>
    refine Or.inr ⟨fun h => absurd h Bool.false_ne_true, ?_⟩
    rw [step_cached_of_unneeded hneeds hx, hn]
  | true =>
    cases hl : Settings.load s.environment with
    | ok c =>
      refine Or.inl ⟨c, rfl, rfl, ?_⟩
      rw [step_of_offers hneeds (Or.inr ⟨hn, hl⟩)]
    | error f =>
      refine Or.inr ⟨fun _ => ⟨f, rfl⟩, ?_⟩
      rw [step_of_error hneeds hn hl, hn]

theorem run_cached_eq_none (hreset : Step.reset ∉ xs) (hn : s.cached = none) :
    (s.run clock xs).2.cached = none ↔ FindsNone s.environment xs := by
  -- the first step fills the store for good, or leaves it empty for the steps that follow
  induction xs generalizing s with
  | nil => exact iff_of_true hn findsNone_nil
  | cons x xs ih =>
    have hx : x ≠ .reset := Ne.symm (List.ne_of_not_mem_cons hreset)
    have hxs : Step.reset ∉ xs := List.not_mem_of_not_mem_cons hreset
    rw [run_cons, findsNone_cons]
    rcases step_of_empty clock hx hn with
      ⟨c, hneeds, hl, hc⟩ | ⟨hneeds, hc⟩
    · have hrun : (((s.step clock x).2).run clock xs).2.cached = some c := run_cached hxs hc
      simp [hrun, hneeds, hl]
    · rw [ih hxs hc, step_environment]
      exact (and_iff_right hneeds).symm

theorem run_cached_eq_some (hreset : Step.reset ∉ xs) (hn : s.cached = none) :
    (s.run clock xs).2.cached = some c ↔ FindsFirst s.environment xs c := by
  induction xs generalizing s with
  | nil =>
    refine iff_of_false ?_ ?_
    · exact fun h => absurd (hn.symm.trans h) nofun
    · rintro ⟨ys, x, zs, h, -⟩
      simp at h
  | cons x xs ih =>
    have hx : x ≠ .reset := Ne.symm (List.ne_of_not_mem_cons hreset)
    have hxs : Step.reset ∉ xs := List.not_mem_of_not_mem_cons hreset
    rw [run_cons, findsFirst_cons]
    rcases step_of_empty clock hx hn with
      ⟨d, hneeds, hl, hc⟩ | ⟨hneeds, hc⟩
    · have hrun : (((s.step clock x).2).run clock xs).2.cached = some d := run_cached hxs hc
      simp [hrun, hneeds, hl]
    · rw [ih hxs hc, step_environment]
      constructor
      · exact fun h => Or.inr ⟨hneeds, h⟩
      · rintro (⟨hx, hl⟩ | ⟨-, h⟩)
        · obtain ⟨f, hf⟩ := hneeds hx
          exact absurd (hl.symm.trans hf) nofun
        · exact h

end Runs

/-- What a step does between two resets to a store that holds `last` at the end. -/
structure Between (clock : Zone → Stamp) (s : SettingsStore) (x : Step) (last : Option Settings) :
    Prop where
  /-- Settings in the store stay there. -/
  kept : ∀ c, s.cached = some c → (s.step clock x).2.cached = some c ∧ last = some c
  /-- A step that sees settings sees the last ones, which the store held or the environment gives;
  one that sees none has looked for them in vain. -/
  needed : x.needsSettings = true →
    (∃ c, last = some c ∧ s.Offers c ∧
      s.step clock x = (x.answerWith clock c, { s with cached := some c })) ∨
    ∃ f, s.cached = none ∧ Settings.load s.environment = .error f ∧
      (f.kind = .setting ∨ ∃ e, f = .foreign e ∧ s.environment.Raises e) ∧
      s.step clock x = (.failure (.failure f), s)
  /-- Any other step leaves the store as full as it was, and a load aside answers as on any
  store. -/
  unneeded : x.needsSettings = false → (s.step clock x).2.cached = s.cached ∧
    (x ≠ .load → ∀ t : SettingsStore, (t.step clock x).1 = (s.step clock x).1)
  /-- A load answers for the environment alone. -/
  load : x = .load → s.step clock x = Answer.ofResult .settings (Settings.load s.environment, s)

section Windows

variable {clock : Zone → Stamp} {s : SettingsStore} {x : Step} {xs ys zs : List Step}

theorem step_between (hreset : Step.reset ∉ x :: zs) :
    s.Between clock x (s.run clock (x :: zs)).2.cached := by
  have hx : x ≠ .reset := Ne.symm (List.ne_of_not_mem_cons hreset)
  have hzs : Step.reset ∉ zs := List.not_mem_of_not_mem_cons hreset
  constructor
  case kept =>
    intro c hc
    exact ⟨step_cached hx hc, run_cached hreset hc⟩
  case needed =>
    intro hneeds
    rcases offers_cases s with ⟨c, hc⟩ | ⟨hn, f, hl⟩
    · have hstep : s.step clock x = (x.answerWith clock c, { s with cached := some c }) :=
        step_of_offers hneeds hc
      have hfull : (s.step clock x).2.cached = some c := by rw [hstep]
      have hlast : ((s.step clock x).2.run clock zs).2.cached = some c := run_cached hzs hfull
      exact Or.inl ⟨c, hlast, hc, hstep⟩
    · exact Or.inr ⟨f, hn, hl, Settings.of_load_error hl, step_of_error hneeds hn hl⟩
  case unneeded =>
    intro hneeds
    exact ⟨step_cached_of_unneeded hneeds hx, fun hload t => step_answer hneeds hload⟩
  case load =>
    rintro rfl
    rfl

theorem run_answer :
    (s.run clock (ys ++ x :: zs)).1[ys.length]? = some ((s.run clock ys).2.step clock x).1 := by
  have hys : (s.run clock ys).1.length = ys.length := run_length
  rw [run_append, ← hys, List.getElem?_append_right (Nat.le_refl _), Nat.sub_self, run_cons]
  rfl

end Windows

/-- A store that was reset is empty until a step needs settings where the environment has good ones.
It holds these from then on, and what every other step in between answers and changes follows. A
step that has looked in vain tells a bad setting, if the file and the zones raise nothing else. -/
theorem run_between_resets (clock : Zone → Stamp) (s : SettingsStore) (before after : List Step)
    (h : Step.reset ∉ after) :
    let env := environmentAfter s.environment before
    let store := fun xs => (s.run clock (before ++ .reset :: xs)).2
    ((store after).cached = none ↔ FindsNone env after) ∧
      (∀ c, (store after).cached = some c ↔ FindsFirst env after c) ∧
      ∀ ys x zs, after = ys ++ x :: zs →
        (store ys).environment = environmentAfter env ys ∧
          (store ys).Between clock x (store after).cached ∧
          (s.environment.IsSound → ∀ f, Settings.load (store ys).environment = .error f →
            f.kind = .setting) ∧
          (s.run clock (before ++ .reset :: after)).1[before.length + 1 + ys.length]? =
            some ((store ys).step clock x).1 := by
  intro env store
  -- the store right after the reset: empty, with the environment of the steps before
  let fresh : SettingsStore := (s.run clock before).2.reset
  have henv : fresh.environment = env := run_environment
  have hempty : fresh.cached = none := rfl
  have hstore : ∀ xs, store xs = (fresh.run clock xs).2 := by
    intro xs
    simp only [store, run_append, run_cons]
    rfl
  refine ⟨?_, ?_, ?_⟩
  · rw [hstore, run_cached_eq_none h hempty, henv]
  · intro c
    rw [hstore, run_cached_eq_some h hempty, henv]
  · rintro ys x zs rfl
    have hzs : Step.reset ∉ x :: zs := fun hmem => h (List.mem_append_right ys hmem)
    have hlast : store (ys ++ x :: zs) = ((store ys).run clock (x :: zs)).2 := by
      rw [hstore, hstore, run_append]
    have hys : (store ys).environment = environmentAfter env ys := by
      rw [hstore, run_environment, henv]
    refine ⟨hys, ?_, ?_, ?_⟩
    · rw [hlast]
      exact step_between hzs
    · intro hsound f
      rw [hys]
      exact Settings.kind_of_load_error
        (environmentAfter_isSound (environmentAfter_isSound hsound before) ys)
    · have hsteps : before ++ .reset :: (ys ++ x :: zs) = (before ++ .reset :: ys) ++ x :: zs := by
        simp
      have hlength : before.length + 1 + ys.length = (before ++ .reset :: ys).length := by
        simp [Nat.add_right_comm, Nat.add_assoc]
      rw [hsteps, hlength, run_answer]

/-- A week start that does not read leaves the store empty. Once corrected it is found by the next
step, a text that does not read, and it stays when the variable goes. -/
theorem run_between_resets_week_start :
    let early : Stamp := ⟨⟨0, by decide, by decide⟩, .floating, false⟩
    let env : Environment := .ofVars [("DATEMATH_TIMEZONE", "Asia/Kolkata")] ClockHistory.ofName?
    let steps : List Step := [.get, .assign "DATEMATH_WEEK_STARTS_ON" "mon",
      .resolve (some "*") none, .unassign "DATEMATH_WEEK_STARTS_ON"]
    Step.reset ∉ steps ∧
      ((ofEnvironment env).run (fun _ => early)
        ([.assign "DATEMATH_WEEK_STARTS_ON" "monday"] ++ .reset :: steps)).2.cached =
          some { Settings.default with
            timezone := .named ⟨"Asia/Kolkata", .kolkata⟩, weekStart := .monday } := by
  intro early env steps
  have h : Step.reset ∉ steps := by simp [steps]
  obtain ⟨-, hfirst, -⟩ := run_between_resets (fun _ => early) (ofEnvironment env)
    [.assign "DATEMATH_WEEK_STARTS_ON" "monday"] steps h
  refine ⟨h, (hfirst _).mpr ?_⟩
  refine ⟨[.get, .assign "DATEMATH_WEEK_STARTS_ON" "mon"], .resolve (some "*") none,
    [.unassign "DATEMATH_WEEK_STARTS_ON"], rfl, rfl, by decide +kernel, ?_⟩
  refine findsNone_cons.mpr ⟨fun _ => ⟨.setting "week_starts_on" "monday"
    "Input should be 'sun', 'mon', 'tue', 'wed', 'thu', 'fri' or 'sat'", by decide +kernel⟩, ?_⟩
  exact findsNone_cons.mpr ⟨nofun, findsNone_nil⟩

end SettingsStore

end RelativeTime
