import TeamsRehook.Lemmas.Routes

/-!
# What reveal links disclose

A link discloses the URL its route had when the link was issued, until its lifetime ends or the route is deleted, in
histories that regenerate a URL only when the links to it have expired.
-/

namespace TeamsRehook

/-- What is revealed at any time from now on, to any token: only a link that was issued reveals, before the end of its
lifetime, while its route exists, and the URL that was current when it was issued. -/
def RevealLaw (P : Platform) (x : RevealHistory) : Prop :=
  ∀ now token out, x.clock ≤ now → revealWebhookUrl P x.settings now token x.db = .ok out →
    ∃ link ∈ x.issued, link.tokenHash = lookupSecretHash P token ∧
      (∀ other ∈ x.issued, other.tokenHash = lookupSecretHash P token → other = link) ∧
      now < link.expiresAt ∧ (∃ route ∈ x.db.routes, route.id = link.routeId) ∧ out.webhookUrl = link.webhookUrl

/-- The URL of a route is regenerated only when the links to it have expired. -/
def RegeneratesUnlinked (x : RevealHistory) : RevealStep → Prop
  | .regenerate now routeId _ => ∀ reveal ∈ x.db.reveals, reveal.routeId = routeId → reveal.expiresAt ≤ now
  | _ => True

/-- The reveal token of a link: while it has not expired, the link shows the URL its route has now. -/
structure WebhookUrlRevealToken.OfLink (reveal : WebhookUrlRevealToken) (x : RevealHistory) (link : IssuedLink) :
    Prop where
  tokenHash : link.tokenHash = reveal.tokenHash
  routeId : link.routeId = reveal.routeId
  expiresAt : link.expiresAt = reveal.expiresAt
  current : x.clock < reveal.expiresAt → ∀ route ∈ x.db.routes, route.id = reveal.routeId →
    buildWebhookUrl x.settings route.routeToken = link.webhookUrl

/-- Every reveal token is that of a link, and no two links have one token. -/
structure RevealHistory.LinksCurrent (x : RevealHistory) : Prop where
  ids : x.db.RouteIds
  fresh : ∀ reveal ∈ x.db.reveals, reveal.routeId < x.db.nextId
  linked : ∀ reveal ∈ x.db.reveals, ∃ link ∈ x.issued, reveal.OfLink x link
  unique : (x.issued.map (·.tokenHash)).Nodup

namespace RevealLinksAux

variable {P : Platform} {x x' : RevealHistory}

/-- Current links disclose what the law says. -/
theorem revealLaw_of_linksCurrent (hx : x.LinksCurrent) : RevealLaw P x := by
  intro now token out hnow h
  unfold revealWebhookUrl at h
  simp only at h
  split at h
  · nomatch h
  next reveal hreveal =>
    split at h
    · nomatch h
    next hlive =>
      split at h
      · nomatch h
      next route hroute =>
        split at h
        · nomatch h
        · cases h
          obtain ⟨link, hlink, hof⟩ := hx.linked reveal (List.mem_of_find?_eq_some hreveal)
          have hhash : reveal.tokenHash = lookupSecretHash P token := by simpa using List.find?_some hreveal
          have hid : route.id = reveal.routeId := by
            have := List.find?_some hroute
            simp only [Bool.and_eq_true, beq_iff_eq] at this
            exact this.1
          have hmem : route ∈ x.db.routes := List.mem_of_find?_eq_some hroute
          have hexpires : now < reveal.expiresAt := not_le.1 hlive
          refine ⟨link, hlink, hof.tokenHash.trans hhash, ?_, hof.expiresAt ▸ hexpires,
            ⟨route, hmem, hid.trans hof.routeId.symm⟩, ?_⟩
          · intro other hother hotherHash
            exact List.inj_on_of_nodup_map hx.unique hother hlink (hotherHash.trans (hof.tokenHash.trans hhash).symm)
          · exact hof.current (lt_of_le_of_lt hnow hexpires) route hmem hid

/-- The link of a reveal token stays its link when time passes and the URL of its route is kept. -/
theorem ofLink_of_keepsUrls {reveal : WebhookUrlRevealToken} {link : IssuedLink} (hof : reveal.OfLink x link)
    (hfresh : reveal.routeId < x.db.nextId) (hurls : KeepsUrls x.db x'.db) (hclock : x.clock ≤ x'.clock)
    (hsettings : x'.settings = x.settings) : reveal.OfLink x' link := by
  refine ⟨hof.tokenHash, hof.routeId, hof.expiresAt, ?_⟩
  intro hlive route hroute hid
  rcases hurls.routes route hroute with hnew | ⟨old, hold, holdid, htoken⟩
  · omega
  · rw [hsettings, ← htoken]
    exact hof.current (lt_of_le_of_lt hclock hlive) old hold (holdid.trans hid)

/-- A step that keeps the URLs and adds no reveal token keeps the links current. -/
theorem linksCurrent_of_subset (hx : x.LinksCurrent) (hurls : KeepsUrls x.db x'.db)
    (hreveals : x'.db.reveals ⊆ x.db.reveals) (hclock : x.clock ≤ x'.clock) (hsettings : x'.settings = x.settings)
    (hissued : x'.issued = x.issued) : x'.LinksCurrent := by
  refine ⟨hurls.ids hx.ids, ?_, ?_, hissued ▸ hx.unique⟩
  · exact fun reveal hreveal => lt_of_lt_of_le (hx.fresh reveal (hreveals hreveal)) hurls.nextId
  · intro reveal hreveal
    obtain ⟨link, hlink, hof⟩ := hx.linked reveal (hreveals hreveal)
    exact ⟨link, hissued ▸ hlink, ofLink_of_keepsUrls hof (hx.fresh reveal (hreveals hreveal)) hurls hclock hsettings⟩

/-- The token of a link that was just issued. -/
theorem exists_linksIssued {s : Settings} {now : Int} {db db' : Database} {reveal : WebhookUrlRevealToken}
    {row : WebhookRoute} (hids : db'.RouteIds) (hreveal : reveal ∈ db'.reveals) (hnew : reveal ∉ db.reveals)
    (hrow : row ∈ db'.routes) (hid : row.id = reveal.routeId) :
    ⟨reveal.tokenHash, reveal.routeId, buildWebhookUrl s row.routeToken, now + hours s.webhookUrlRevealTtlHours⟩ ∈
      linksIssued s now db db' := by
  unfold linksIssued
  refine List.mem_filterMap.2 ⟨reveal, List.mem_filter.2 ⟨hreveal, by simpa using hnew⟩, ?_⟩
  rw [← hid, hids.unique.find?_eq_some hrow]
  rfl

/-- An activity keeps the links current. -/
theorem linksCurrent_activity {db' : Database} {now : Int} (hx : x.LinksCurrent) (hclock : x.clock ≤ now)
    (h : ActivityReveals x.settings now x.db db')
    (hunique : ((x.issued ++ linksIssued x.settings now x.db db').map (·.tokenHash)).Nodup) :
    RevealHistory.LinksCurrent
    { x with db := db', clock := now, issued := x.issued ++ linksIssued x.settings now x.db db' } := by
  have hids := h.urls.ids hx.ids
  refine ⟨hids, ?_, ?_, hunique⟩
  · intro reveal hreveal
    rcases h.reveals reveal hreveal with hold | ⟨row, hrow, hid, -⟩
    · exact lt_of_lt_of_le (hx.fresh reveal hold) h.urls.nextId
    · exact hid ▸ hids.fresh row hrow
  · intro reveal hreveal
    by_cases hold : reveal ∈ x.db.reveals
    · obtain ⟨link, hlink, hof⟩ := hx.linked reveal hold
      exact ⟨link, List.mem_append_left _ hlink, ofLink_of_keepsUrls hof (hx.fresh reveal hold) h.urls hclock rfl⟩
    · obtain ⟨row, hrow, hid, hexpires⟩ := (h.reveals reveal hreveal).resolve_left hold
      refine ⟨_, List.mem_append_right _ (exists_linksIssued hids hreveal hold hrow hid), rfl, rfl, hexpires.symm, ?_⟩
      intro _ route hroute hrouteid
      rw [hids.unique.eq_of_mem hroute hrow (hrouteid.trans hid.symm)]

/-- Deleting routes keeps the URLs of the others and adds no reveal token. -/
theorem foldl_deleteRoute (routes : List WebhookRoute) (db : Database) :
    KeepsUrls db (routes.foldl (fun db route => deleteRoute route.id db) db) ∧
      (routes.foldl (fun db route => deleteRoute route.id db) db).reveals ⊆ db.reveals := by
  induction routes generalizing db with
  | nil => exact ⟨.refl db, List.Subset.refl _⟩
  | cons route routes ih =>
    obtain ⟨hurls, hreveals⟩ := ih (deleteRoute route.id db)
    exact ⟨(KeepsUrls.deleteRoute route.id db).trans hurls, fun _ h => (Table.mem_delete.1 (hreveals h)).1⟩

/-- Deleting a route keeps the URLs of the others and adds no reveal token. -/
theorem committed_deleteWebhookRoute (organizationId routeId : Nat) (db : Database) :
    KeepsUrls db (committed db (deleteWebhookRoute organizationId routeId db)) ∧
      (committed db (deleteWebhookRoute organizationId routeId db)).reveals ⊆ db.reveals := by
  unfold deleteWebhookRoute
  cases getOrgRoute organizationId routeId db with
  | error e => exact ⟨.refl db, List.Subset.refl _⟩
  | ok route => exact foldl_deleteRoute [route] db

/-- Deleting a reference keeps the URLs of the routes that are left and adds no reveal token. -/
theorem committed_deleteBotConversationReference (organizationId referenceId : Nat) (deleteLinkedRoutes : Bool)
    (db : Database) :
    KeepsUrls db (committed db (deleteBotConversationReference organizationId referenceId deleteLinkedRoutes db)) ∧
      (committed db (deleteBotConversationReference organizationId referenceId deleteLinkedRoutes
        db)).reveals ⊆ db.reveals := by
  unfold deleteBotConversationReference
  split
  · exact ⟨.refl db, List.Subset.refl _⟩
  next reference _ =>
    dsimp only
    split
    · exact ⟨.refl db, List.Subset.refl _⟩
    · obtain ⟨hurls, hreveals⟩ := foldl_deleteRoute (findRoutesForConversationReference organizationId reference db) db
      exact ⟨hurls.trans (.of_routes rfl (le_refl _)), hreveals⟩

/-- A regenerated URL is current for no link, when those that point to it have expired. -/
theorem linksCurrent_regenerate {db' : Database} {now : Int} {routeId : Nat} {routeToken : String} (hx : x.LinksCurrent)
    (hclock : x.clock ≤ now) (hguard : ∀ reveal ∈ x.db.reveals, reveal.routeId = routeId → reveal.expiresAt ≤ now)
    (h : regenerateWebhookRouteUrl P now routeId routeToken x.db = some db') :
    RevealHistory.LinksCurrent { x with db := db', clock := now } := by
  unfold regenerateWebhookRouteUrl at h
  split at h
  · nomatch h
  · cases h
    refine ⟨⟨Table.uniqueOn_update hx.ids.unique fun _ => rfl, ?_⟩, hx.fresh, ?_, hx.unique⟩
    · exact Table.forall_mem_update hx.ids.fresh fun row hrow _ => hx.ids.fresh row hrow
    · intro reveal hreveal
      obtain ⟨link, hlink, hof⟩ := hx.linked reveal hreveal
      refine ⟨link, hlink, hof.tokenHash, hof.routeId, hof.expiresAt, ?_⟩
      intro hlive route hroute hid
      obtain ⟨old, hold, rfl⟩ := Table.mem_update.1 hroute
      by_cases holdid : old.id = routeId
      · have hexpired := hguard reveal hreveal (by rw [← hid, ← holdid]; simp [holdid, WebhookRoute.flushed])
        exact absurd hlive (not_lt.2 hexpired)
      · simp only [holdid, beq_iff_eq, if_false] at hid ⊢
        exact hof.current (lt_of_le_of_lt hclock hlive) old hold hid

/-- A step that regenerates no URL under a live link keeps the links current. -/
theorem linksCurrent_step {a : RevealStep} (hx : x.LinksCurrent) (hguard : RegeneratesUnlinked x a)
    (h : revealStep P x a = some x') : x'.LinksCurrent := by
  cases a with
  | activity run body =>
    simp only [revealStep] at h
    split at h
    next hdrawn =>
      cases h
      apply linksCurrent_activity hx hdrawn.1 _ hdrawn.2
      cases hreceive : receiveBotActivity P x.settings run body x.db with
      | error e => exact activityReveals_of_same ⟨rfl, rfl, rfl, le_refl _⟩
      | ok r => exact receiveBotActivity_reveals hx.ids hreceive
    next => nomatch h
  | regenerate now routeId routeToken =>
    simp only [revealStep] at h
    split at h
    next hclock =>
      obtain ⟨db', hdb', rfl⟩ := Option.map_eq_some_iff.1 h
      exact linksCurrent_regenerate hx hclock hguard hdb'
    next => nomatch h
  | deleteRoute organizationId routeId =>
    cases h
    obtain ⟨hurls, hreveals⟩ := committed_deleteWebhookRoute organizationId routeId x.db
    exact linksCurrent_of_subset hx hurls hreveals (le_refl _) rfl rfl
  | deleteReference organizationId referenceId deleteLinkedRoutes =>
    cases h
    obtain ⟨hurls, hreveals⟩ :=
      committed_deleteBotConversationReference organizationId referenceId deleteLinkedRoutes x.db
    exact linksCurrent_of_subset hx hurls hreveals (le_refl _) rfl rfl
  | configure s =>
    simp only [revealStep] at h
    split at h
    next hsame =>
      cases h
      refine ⟨hx.ids, hx.fresh, fun reveal hreveal => ?_, hx.unique⟩
      obtain ⟨link, hlink, hof⟩ := hx.linked reveal hreveal
      refine ⟨link, hlink, hof.tokenHash, hof.routeId, hof.expiresAt, fun hlive route hroute hid => ?_⟩
      rw [← hof.current hlive route hroute hid, buildWebhookUrl, buildWebhookUrl, hsame.1, hsame.2]
    next => nomatch h
  | wait now =>
    simp only [revealStep] at h
    split at h
    next hclock =>
      cases h
      exact linksCurrent_of_subset hx (.refl _) (List.Subset.refl _) hclock rfl rfl
    next => nomatch h

end RevealLinksAux

open RevealLinksAux Transition

/-- In every history that regenerates a URL only when the links to it have expired, what is revealed in every state is
what the law says. -/
theorem reveal_links_of_run {P : Platform} {x₀ x : RevealHistory} {steps : List RevealStep} (hids : x₀.db.RouteIds)
    (hreveals : x₀.db.reveals = []) (hissued : x₀.issued = [])
    (hguard : Meets (revealStep P) RegeneratesUnlinked x₀ steps)
    (hrun : exec (revealStep P) x₀ steps = some x) : RevealLaw P x := by
  have hx₀ : x₀.LinksCurrent := by
    refine ⟨hids, ?_, ?_, ?_⟩
    · rw [hreveals]
      exact fun _ h => nomatch h
    · rw [hreveals]
      exact fun _ h => nomatch h
    · rw [hissued]
      exact List.nodup_nil
  exact revealLaw_of_linksCurrent (exec_invariant_of_meets (fun _ _ _ hx hguard h => linksCurrent_step hx hguard h)
    hx₀ hguard hrun)

/-! ## Fixed inputs -/

/-- A history that starts with a grant of Ada's, who may do everything, and no route. -/
def noRoutesHistory : RevealHistory where
  settings := {}
  db := {
    organizations := [{ id := 1, slug := "default", name := "Default Organization" }]
    botUsers :=
      [{ id := 2, organizationId := 1, aadObjectId := "ada", displayName := "Ada",
         permissions := .ofFields fun _ => true }]
    nextId := 3 }

/-- A day after Ada has registered a route, its URL is regenerated: her link does not disclose the new one. -/
theorem reveal_links_regeneratedLater :
    ∃ x, exec (revealStep (.bodyOfAda "register alerts")) noRoutesHistory
        [.activity offlineRun [0], .regenerate (hours 24) 4 "second-token"] = some x ∧
      x.issued.map (·.webhookUrl) = ["http://localhost:8000/api/v1/webhooks/route-token"] ∧
      RevealLaw (.bodyOfAda "register alerts") x := by
  obtain ⟨x, hrun⟩ : ∃ x, exec (revealStep (.bodyOfAda "register alerts")) noRoutesHistory
      [.activity offlineRun [0], .regenerate (hours 24) 4 "second-token"] = some x := ⟨_, rfl⟩
  have hids : noRoutesHistory.db.RouteIds := ⟨List.nodup_nil, fun _ h => nomatch h⟩
  have hguard : Meets (revealStep (.bodyOfAda "register alerts")) RegeneratesUnlinked noRoutesHistory
      [.activity offlineRun [0], .regenerate (hours 24) 4 "second-token"] := by
    refine ⟨trivial, ?_⟩
    intro x' h
    cases h
    refine ⟨fun reveal hreveal _ => ?_, fun _ _ => trivial⟩
    have hreveal : reveal ∈ [⟨5, 1, 4, "reveal-0", hours 24⟩] := hreveal
    rw [List.mem_singleton.1 hreveal]
  have hlaw := reveal_links_of_run hids rfl rfl hguard hrun
  cases hrun
  exact ⟨_, rfl, rfl, hlaw⟩

/-- A second after Ada has registered a route, its URL is regenerated: her link discloses the new one. -/
theorem regenerated_url_disclosed :
    ∃ x out, exec (revealStep (.bodyOfAda "register alerts")) noRoutesHistory
        [.activity offlineRun [0], .regenerate 1000000 4 "second-token"] = some x ∧
      x.issued.map (·.webhookUrl) = ["http://localhost:8000/api/v1/webhooks/route-token"] ∧
      revealWebhookUrl (.bodyOfAda "register alerts") x.settings 1000000 "reveal-0" x.db = .ok out ∧
      out.webhookUrl = "http://localhost:8000/api/v1/webhooks/second-token" ∧
      ¬RevealLaw (.bodyOfAda "register alerts") x := by
  refine ⟨_, _, rfl, rfl, rfl, rfl, ?_⟩
  intro hlaw
  obtain ⟨link, hlink, -, -, -, -, hurl⟩ := hlaw 1000000 "reveal-0" _ (le_refl _) rfl
  rw [List.mem_singleton.1 hlink] at hurl
  exact absurd hurl (by decide)

end TeamsRehook
