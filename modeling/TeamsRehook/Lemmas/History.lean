import TeamsRehook.Webhook.History
import TeamsRehook.Lemmas.Webhook

/-!
# What the steps of a history keep
-/

namespace TeamsRehook

variable {P : Platform} {V : Services}

/-- A request keeps the events well-formed. -/
theorem handleWebhook_wf {s : Settings} {r : WebhookRequest} {run : Option ProviderRun} {db : Database}
    (h : db.EventsWf) : (handleWebhook P V s r run db).EventsWf := by
  obtain ⟨hwf, hfits⟩ := admitWebhook_wf (P := P) (V := V) (s := s) (r := r) h
  unfold handleWebhook
  simp only
  split
  · rename_i d hadm
    cases run with
    | some run => exact complete_wf hwf (hfits d hadm)
    | none => exact hwf
  · exact hwf

/-- A step other than a request leaves the events alone. -/
theorem webhookStep_events {x x' : WebhookState} {a : WebhookStep} (h : webhookStep P V x a = some x')
    (ha : ∀ r run, a ≠ .request r run) : x'.db.events = x.db.events ∧ x'.db.nextId = x.db.nextId := by
  cases a with
  | request r run => exact absurd rfl (ha r run)
  | editRoute =>
    simp only [webhookStep, Option.some.injEq] at h
    subst h
    exact ⟨rfl, rfl⟩
  | configure =>
    simp only [webhookStep, Option.some.injEq] at h
    subst h
    exact ⟨rfl, rfl⟩
  | regenerate now routeId routeToken =>
    simp only [webhookStep, regenerateWebhookRouteUrl, Option.map_eq_some_iff, Option.ite_none_left_eq_some,
      Option.some.injEq] at h
    obtain ⟨db, ⟨-, rfl⟩, rfl⟩ := h
    exact ⟨rfl, rfl⟩

/-- Every step keeps the events well-formed. -/
theorem webhookStep_wf (x : WebhookState) (a : WebhookStep) (x' : WebhookState) (h : x.db.EventsWf)
    (hstep : webhookStep P V x a = some x') : x'.db.EventsWf := by
  by_cases ha : ∃ r run, a = .request r run
  · obtain ⟨r, run, rfl⟩ := ha
    simp only [webhookStep, Option.some.injEq] at hstep
    subst hstep
    exact handleWebhook_wf h
  · obtain ⟨he, hn⟩ := webhookStep_events hstep fun r run heq => ha ⟨r, run, heq⟩
    exact Database.eventsWf_of_events_eq h he hn

/-- Events are well-formed in every state of a history that starts without any. -/
theorem eventsWf_of_exec {x₀ x : WebhookState} {steps : List WebhookStep} (hx₀ : x₀.db.events = [])
    (hrun : Transition.exec (webhookStep P V) x₀ steps = some x) : x.db.EventsWf :=
  Transition.exec_invariant (I := fun x => x.db.EventsWf) webhookStep_wf (Database.eventsWf_of_nil hx₀) hrun

end TeamsRehook
