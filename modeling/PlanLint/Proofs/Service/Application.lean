import PlanLint.Service.Application
import Mathlib.Data.List.Induction

/-! The options in force are those of the last startup that succeeded, until any shutdown. -/

namespace PlanLint

/-- The options that an event installs: those of a startup that succeeds. -/
def Event.installed? : Event → Option ServiceOptions
  | .startup env file => (loadOptions env file).toOption
  | .shutdown => none
  | .request _ => none

/-- The service after some events, one after the other. -/
def Application.after (app : Application) : List Event → Application
  | [] => app
  | event :: events => (app.handle event).1.after events

/-- Some options were installed last in a history; what came later installed none. -/
structure LastInstalled (history : List Event) (options : ServiceOptions) (later : List Event) : Prop where
  split : ∃ before event, history = before ++ event :: later ∧ event.installed? = some options
  last : ∀ event ∈ later, event.installed? = none

/-- A startup that succeeds installs its options, whatever was in force. -/
theorem Application.handle_of_installed (app : Application) {event : Event} {options : ServiceOptions}
    (installed : event.installed? = some options) : (app.handle event).1 = ⟨some options⟩ := by
  -- Only a startup whose options load installs any.
  cases event with
  | startup env file =>
    cases loaded : loadOptions env file with
    | error failure => simp [Event.installed?, loaded, Except.toOption] at installed
    | ok found =>
      simp only [Event.installed?, loaded, Except.toOption, Option.some.injEq] at installed
      simp [Application.handle, loaded, installed]
  | shutdown => simp [Event.installed?] at installed
  | request request => simp [Event.installed?] at installed

/-- An event that neither installs options nor shuts the service down leaves it as it is. -/
theorem Application.handle_of_quiet (app : Application) {event : Event} (quiet : event.installed? = none)
    (running : event ≠ .shutdown) : (app.handle event).1 = app := by
  -- A startup that installs nothing has failed, and a request changes nothing.
  cases event with
  | startup env file =>
    cases loaded : loadOptions env file with
    | error failure => simp [Application.handle, loaded]
    | ok found => simp [Event.installed?, loaded, Except.toOption] at quiet
  | shutdown => exact absurd rfl running
  | request request => rfl

/-- What is done after two histories in a row is done after the second, from where the first ends. -/
theorem Application.after_append (app : Application) (events more : List Event) :
    app.after (events ++ more) = (app.after events).after more := by
  -- Induction on the first history, from whatever application it starts with.
  induction events generalizing app with
  | nil => rfl
  | cons event events ih => rw [List.cons_append, Application.after, Application.after, ih]

/-- The answers to a history in front of another do not depend on the other. -/
theorem Application.run_append (app : Application) (events more : List Event) :
    app.run (events ++ more) = app.run events ++ (app.after events).run more := by
  -- Induction on the first history, from whatever application it starts with.
  induction events generalizing app with
  | nil => rfl
  | cons event events ih =>
    simp only [List.cons_append, Application.run, Application.after, ih]

/-- Events that neither install options nor shut the service down leave it as it is. -/
theorem Application.after_of_quiet (app : Application) {events : List Event}
    (quiet : ∀ event ∈ events, event.installed? = none) (running : .shutdown ∉ events) :
    app.after events = app := by
  -- Each event leaves the service that the rest of the history starts with.
  induction events with
  | nil => rfl
  | cons event events ih =>
    simp only [List.mem_cons, not_or, forall_eq_or_imp] at quiet running
    rw [Application.after, app.handle_of_quiet quiet.1 (Ne.symm running.1)]
    exact ih quiet.2 running.2

/-- A history leaves either no options at all, or those that were installed last if it was not shut
down since. -/
theorem options_after (history : List Event) :
    (Application.initial.after history).options = none ∨
      ∃ options later, LastInstalled history options later ∧ .shutdown ∉ later ∧
        (Application.initial.after history).options = some options := by
  -- One more event at the end either decides the matter itself or leaves it as it was.
  induction history using List.reverseRecOn with
  | nil => exact .inl rfl
  | append_singleton history event ih =>
    have next : Application.initial.after (history ++ [event]) =
        ((Application.initial.after history).handle event).1 := Application.after_append _ _ _
    rw [next]
    -- A startup that succeeds is the last one itself, and nothing is behind it yet.
    cases installed : event.installed? with
    | some options =>
      rw [Application.handle_of_installed _ installed]
      exact .inr ⟨options, [], ⟨⟨history, event, rfl, installed⟩, by simp⟩, by simp, rfl⟩
    | none =>
      -- Otherwise it is a shutdown, which leaves no options, or one that changes nothing.
      rcases eq_or_ne event .shutdown with rfl | running
      · exact .inl rfl
      · rw [Application.handle_of_quiet _ installed running]
        rcases ih with unset | ⟨options, later, ⟨⟨before, first, rfl, own⟩, last⟩, open_, set⟩
        · exact .inl unset
        · -- It is one more behind the startup that was the last before it.
          refine .inr ⟨options, later ++ [event], ⟨⟨before, first, by simp, own⟩, ?_⟩, ?_, set⟩
          · simpa [or_imp, forall_and] using ⟨last, installed⟩
          · simpa using ⟨open_, Ne.symm running⟩

/-- The service seen from its lifespans: the options that each of those entered and not yet left has
installed, the latest first, and the options that are set. -/
structure Lifespans where
  entered : List ServiceOptions
  options : Option ServiceOptions

/-- The service before any lifespan is entered. -/
def Lifespans.initial : Lifespans := ⟨[], none⟩

/-- A startup that succeeds enters a lifespan and sets its options; a shutdown leaves the latest
lifespan, if there is one, and unsets whatever options are set. -/
def Lifespans.handle (spans : Lifespans) (event : Event) : Lifespans :=
  match event.installed?, event, spans.entered with
  | some options, _, entered => ⟨options :: entered, some options⟩
  | none, .shutdown, _ :: entered => ⟨entered, none⟩
  | none, _, _ => spans

/-- The lifespans after some events. -/
def Lifespans.after (spans : Lifespans) : List Event → Lifespans
  | [] => spans
  | event :: events => (spans.handle event).after events

/-- If options are set, they are those of the lifespan entered last; so none are set where no lifespan
is entered. -/
def Lifespans.Linked (spans : Lifespans) : Prop := spans.options = none ∨ spans.options = spans.entered.head?

/-- Every event keeps the options linked to the lifespans, and changes them as it changes the options
of the service. -/
theorem Lifespans.Linked.handle {spans : Lifespans} (linked : spans.Linked) (event : Event) :
    (spans.handle event).Linked ∧
      (spans.handle event).options = ((Application.mk spans.options).handle event).1.options := by
  cases installed : event.installed? with
  | some options =>
    -- The lifespan that is entered is the one whose options are set.
    rw [Application.handle_of_installed _ installed]
    simp [Lifespans.handle, installed, Lifespans.Linked]
  | none =>
    rcases eq_or_ne event .shutdown with rfl | running
    · -- A shutdown with nothing to leave finds no options set.
      cases empty : spans.entered with
      | nil =>
        have unset : spans.options = none := by simpa [Lifespans.Linked, empty] using linked
        simp [Lifespans.handle, installed, empty, unset, Lifespans.Linked, Application.handle,
          Application.initial]
      | cons latest entered =>
        simp [Lifespans.handle, installed, empty, Lifespans.Linked, Application.handle,
          Application.initial]
    · rw [Application.handle_of_quiet _ installed running]
      have same : spans.handle event = spans := by
        cases event <;> simp_all [Lifespans.handle]
      rw [same]
      exact ⟨linked, rfl⟩

/-- Lifespans and service agree on the options after any history. -/
theorem Lifespans.Linked.after {spans : Lifespans} (linked : spans.Linked) (history : List Event) :
    (spans.after history).options = ((Application.mk spans.options).after history).options := by
  -- The link is what each event keeps, so the rest of the history starts with it again.
  induction history generalizing spans with
  | nil => rfl
  | cons event history ih =>
    obtain ⟨next, same⟩ := linked.handle event
    rw [Lifespans.after, Application.after, ih next, same]

/-- After any history the options in force are those of the last startup that succeeded, unless a
shutdown came since, and the defaults otherwise. Startups that fail and requests change nothing; a
request is answered from itself and the options in force; and documents may always have a byte. -/
theorem options_in_force (history : List Event) :
    let app := Application.initial.after history
    (∀ options later, LastInstalled history options later → .shutdown ∉ later →
        app.currentOptions = options) ∧
      ((∀ options later, LastInstalled history options later → .shutdown ∈ later) →
        app.currentOptions = defaultOptions) ∧
      app.options = (Lifespans.initial.after history).options ∧
      (∀ env file failure, loadOptions env file = .error failure →
        ∀ later, Application.initial.run (history ++ .startup env file :: later) =
          Application.initial.run history ++ .startupFailed failure :: app.run later) ∧
      (∀ request later, Application.initial.run (history ++ .request request :: later) =
          Application.initial.run history ++ .response (respond app.currentOptions request) :: app.run later) ∧
      1 ≤ app.currentOptions.sizeLimit := by
  intro app
  refine ⟨?_, ?_, ?_, ?_, ?_, app.currentOptions.sizeLimit_pos⟩
  · -- The startup sets the options, and nothing behind it touches them.
    rintro options later ⟨⟨before, event, rfl, installed⟩, last⟩ running
    have set : app = ⟨some options⟩ := by
      rw [show app = _ from Application.after_append _ _ _, Application.after,
        Application.handle_of_installed _ installed, Application.after_of_quiet _ last running]
    rw [set]
    rfl
  · -- Options that are set would be those of a startup without a shutdown behind it.
    intro closed
    rcases options_after history with unset | ⟨options, later, installed, running, -⟩
    · rw [Application.currentOptions, show app.options = none from unset, Option.getD_none]
    · exact absurd (closed options later installed) running
  · have linked : Lifespans.initial.Linked := .inl rfl
    exact (linked.after history).symm
  · -- Neither a startup that fails nor a request leaves another service to the events behind it.
    intro env file failure failed later
    rw [Application.run_append, Application.run]
    simp [Application.handle, failed, app]
  · intro request later
    rw [Application.run_append, Application.run]
    simp [Application.handle, app]

/-- A startup that limits documents to two kilobytes. -/
def modestStartup : Event := .startup ⟨some " Yes ", some "2048"⟩ none

/-- A startup that fails, since it asks for a limit of nothing. -/
def emptyStartup : Event := .startup ⟨none, some "0"⟩ none

/-- The startup that fails in the middle leaves the options of the first in force, and the shutdown of
the second history brings the defaults back. -/
theorem modestStartup_in_force :
    (Application.initial.after [modestStartup, emptyStartup]).currentOptions = ⟨true, 2048, by decide⟩ ∧
      (Application.initial.after [modestStartup, .shutdown, emptyStartup]).currentOptions =
        defaultOptions := by
  have modest : modestStartup.installed? = some ⟨true, 2048, by decide⟩ := by rfl
  have empty : emptyStartup.installed? = none := by rfl
  constructor
  · refine (options_in_force [modestStartup, emptyStartup]).1 _ [emptyStartup] ⟨⟨[], _, rfl, modest⟩, ?_⟩ ?_
    · simpa using empty
    · simp [emptyStartup]
  · refine (options_in_force [modestStartup, .shutdown, emptyStartup]).2.1 ?_
    rintro options later ⟨⟨before, event, split, installed⟩, -⟩
    -- Only the first event installs options, so the shutdown is among those behind it.
    rcases before with _ | ⟨first, _ | ⟨second, _ | ⟨third, before⟩⟩⟩ <;>
      simp only [List.nil_append, List.cons_append, List.cons.injEq] at split
    · obtain ⟨-, rfl⟩ := split
      exact List.mem_cons_self
    · obtain ⟨-, rfl, -⟩ := split
      exact absurd installed (by simp [Event.installed?])
    · obtain ⟨-, -, rfl, -⟩ := split
      exact absurd installed (by simp [empty])
    · simp at split

end PlanLint
