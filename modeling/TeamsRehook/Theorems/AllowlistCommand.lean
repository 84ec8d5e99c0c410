import TeamsRehook.Bot.Receive
import TeamsRehook.Lemmas.Routes
import TeamsRehook.Lib.Splitting
import TeamsRehook.Theorems.AllowedClients

/-!
# The allowlist command

`allowlist restricted` takes an optional name and a list, with a colon between them. The first colon of the argument is
taken for it, which is one of the list when no name is given and the list has an IPv6 address, and one of the name when
the name has a colon.
-/

namespace TeamsRehook

/-- The text of a message reads as the command, without mentions and character references. -/
def ReadsAs (P : Platform) (text command : String) : Prop :=
  P.htmlUnescape (String.ofList (removeMentions 0 text.toList)) = command

/-- What the command in a message does. -/
def runMessage (P : Platform) (s : Settings) (run : BotRun) (captured : Captured)
    (reference : Option BotConversationReference) (text : String) (permissions : BotPermissions) (db : Database) :
    Except Exn Database :=
  match parseCommand P text with
  | some (command, argument) => handleCommand P s run captured reference command argument permissions db
  | none => .ok db

/-- The routes that are linked to a conversation. -/
def linkedRoutes (s : Settings) (captured : Captured) (db : Database) : List WebhookRoute :=
  conversationRoutes (defaultOrganization s db).2.id captured (defaultOrganization s db).1

/-- The route with the id is restricted to the allowlist, and every other route is as it was. -/
def RestrictedTo (id : Nat) (allowlist : String) (db db' : Database) : Prop :=
  List.Forall₂
    (fun row row' => row' =
      if row.id = id then
        { row with clientIpAccessMode := "restricted", clientIpAllowlist := allowlist, updatedAt := row'.updatedAt }
      else row)
    db.routes db'.routes

/-- The message restricts the only linked route to the allowlist. -/
def RestrictsOnlyRoute (P : Platform) (s : Settings) (text allowlist : String) : Prop :=
  ∀ run captured reference permissions db route, db.RouteIds → linkedRoutes s captured db = [route] →
    ∃ db', runMessage P s run captured reference text permissions db = .ok db' ∧ RestrictedTo route.id allowlist db db'

/-- The message restricts the linked route with the name to the allowlist. -/
def RestrictsNamedRoute (P : Platform) (s : Settings) (text name allowlist : String) : Prop :=
  ∀ run captured reference permissions db route, db.RouteIds → ((linkedRoutes s captured db).map (·.name)).Nodup →
    route ∈ linkedRoutes s captured db → route.name = name →
    ∃ db', runMessage P s run captured reference text permissions db = .ok db' ∧ RestrictedTo route.id allowlist db db'

/-- What the runtime promises on the texts of this command: `lower` keeps a word in lower case at the front, and an
address or a network that starts with a colon starts with two, after which nothing is left of it without the first one.
-/
structure AllowlistTexts (P : Platform) : Prop where
  lower : ∀ text, Python.startsWith (P.lower ("restricted " ++ text)) "restricted " = true
  address_colon : ∀ text, (P.ipAddress (":" ++ text)).isSome → text ≠ "" ∧ P.ipAddress text = none
  network_colon : ∀ text, (P.ipNetwork (":" ++ text)).isSome → text ≠ "" ∧ P.ipNetwork text = none

namespace AllowlistCommandAux

variable {P : Platform} {s : Settings} {run : BotRun} {captured : Captured} {reference : Option BotConversationReference}
  {permissions : BotPermissions} {db : Database} {route : WebhookRoute} {text list normalized name : String}

open Python (Visible StartsVisibly)

/-! ## Reading the command -/

/-- What follows the word of the command is its argument. -/
theorem parseCommand_allowlist {rest : String} (hreads : ReadsAs P text ("allowlist" ++ " " ++ rest))
    (hrest : Visible rest) : parseCommand P text = some (.allowlist, Python.collapse rest) := by
  obtain ⟨rest', hstrip, hwords⟩ := Python.strip_append_blank (w := "allowlist") ⟨'a', by decide, by decide⟩ hrest
  have hchars : ("allowlist" ++ " " ++ rest').toList =
      ['a', 'l', 'l', 'o', 'w', 'l', 'i', 's', 't', ' '] ++ rest'.toList := by
    simp
  have hmatch : matchCommand ("allowlist" ++ " " ++ rest').toList =
      some (['a', 'l', 'l', 'o', 'w', 'l', 'i', 's', 't'], rest'.toList.dropWhile Python.isSpace) := by
    rw [hchars]
    rfl
  have hargument : Python.collapse (Python.strip (String.ofList (rest'.toList.dropWhile Python.isSpace))) =
      Python.collapse rest := by
    rw [Python.collapse_strip]
    unfold Python.collapse
    rw [← hwords]
    unfold Python.split Python.splitOn
    rw [String.toList_ofList, Python.splitChars_dropWhile]
  have hslash : Python.startsWith ("allowlist" ++ " " ++ rest') "/" = false := by
    unfold Python.startsWith
    rw [hchars]
    rfl
  have hne : "allowlist" ++ " " ++ rest' ≠ "" := by simp
  unfold ReadsAs at hreads
  unfold parseCommand
  simp only [hreads, hstrip, hslash, hne, hmatch, hargument, Bool.false_eq_true, or_self, if_false]
  rfl

/-- A text that starts with another character is no start of a text. -/
theorem startsWith_of_head {text : String} {c d : Char} (htext : text.toList.head? = some c) (word : String)
    (hword : word.toList.head? = some d) (hne : d ≠ c) : text ≠ word ∧ Python.startsWith text word = false := by
  refine ⟨fun heq => ?_, Bool.eq_false_iff.2 fun hstarts => ?_⟩
  · rw [heq, hword] at htext
    exact hne (Option.some.inj htext)
  · obtain ⟨rest, hrest⟩ := List.isPrefixOf_iff_prefix.1 hstarts
    rw [← hrest, List.head?_append, hword] at htext
    exact hne (Option.some.inj htext)

/-- A restricting argument is split into a name and a list. -/
theorem allowlistCommand_restricted (hP : AllowlistTexts P) {argument : String}
    (hargument : Python.strip (" " ++ argument) = argument) :
    allowlistCommand P s run captured ("restricted " ++ argument) db =
      setAllowlistCommand P s run captured (parseRestrictedAllowlistArgument argument).1 "restricted"
        (parseRestrictedAllowlistArgument argument).2 db := by
  have hrestricted := hP.lower argument
  obtain ⟨rest, hrest⟩ := List.isPrefixOf_iff_prefix.1 hrestricted
  have hhead : (P.lower ("restricted " ++ argument)).toList.head? = some 'r' := by
    rw [← hrest, List.head?_append]
    rfl
  have hshow := startsWith_of_head hhead "show" rfl (by decide)
  have hshow' := startsWith_of_head hhead "show " rfl (by decide)
  have hpublic := startsWith_of_head hhead "public" rfl (by decide)
  have hpublic' := startsWith_of_head hhead "public " rfl (by decide)
  have hne : "restricted " ++ argument ≠ "" := by simp
  have hdrop : Python.drop ("restricted " ++ argument) 10 = " " ++ argument := by
    have hchars : "restricted " ++ argument = "restricted" ++ (" " ++ argument) := by
      rw [← String.append_assoc]
      exact congrArg (· ++ argument) (by decide)
    unfold Python.drop
    rw [hchars, String.toList_append, List.drop_left' (by decide), String.ofList_toList]
  unfold allowlistCommand
  simp only [hne, hshow.1, hshow'.2, hpublic.1, hpublic'.2, hrestricted, hdrop, hargument, Bool.false_eq_true, or_self,
    or_true, if_false, if_true]

/-- A message that restricts routes is read as a name and a list. -/
theorem runMessage_restricted (hP : AllowlistTexts P) {rest : String}
    (hreads : ReadsAs P text ("allowlist restricted " ++ rest)) (hrest : Visible rest) :
    runMessage P s run captured reference text permissions db =
      .ok (setAllowlistCommand P s run captured (parseRestrictedAllowlistArgument (Python.collapse rest)).1 "restricted"
        (parseRestrictedAllowlistArgument (Python.collapse rest)).2 db) := by
  have hcommand : "allowlist restricted " ++ rest = "allowlist" ++ " " ++ ("restricted" ++ " " ++ rest) := by
    rw [← String.append_assoc, ← String.append_assoc]
    exact congrArg (· ++ rest) (by decide)
  have hword : Visible "restricted" := ⟨'r', by decide, by decide⟩
  have hargument : Python.collapse ("restricted" ++ " " ++ rest) = "restricted " ++ Python.collapse rest := by
    rw [Python.collapse_append_blank hword hrest]
    exact congrArg (· ++ Python.collapse rest) (by decide)
  rw [hcommand] at hreads
  unfold runMessage
  rw [parseCommand_allowlist hreads (hrest.append_right _), hargument]
  refine congrArg Except.ok (allowlistCommand_restricted hP ?_)
  rw [Python.strip_blank_append, Python.strip_collapse]

/-- A list that can be stored is not blank. -/
theorem visible_of_normalized (hlist : normalizeClientIpAllowlist P list = .ok normalized) (hne : normalized ≠ "") :
    Visible list := by
  rw [← Python.strip_ne_empty_iff]
  intro hblank
  unfold normalizeClientIpAllowlist at hlist
  rw [hblank] at hlist
  exact hne (Except.ok.inj hlist).symm

/-- Collapsing a list makes no difference to its normal form. -/
theorem normalizeClientIpAllowlist_collapse (list : String) :
    normalizeClientIpAllowlist P (Python.collapse list) = normalizeClientIpAllowlist P list := by
  unfold normalizeClientIpAllowlist
  rw [Python.strip_collapse, Python.splitOn_collapse AllowedClientsAux.isAllowlistSeparator_of_isSpace,
    Python.splitOn_strip AllowedClientsAux.isAllowlistSeparator_of_isSpace]

/-! ## The first colon -/

/-- What stands before and after the first colon. -/
theorem splitFirst_colon {before : String} (hbefore : ':' ∉ before.toList) (after : String) :
    Python.splitFirst (before ++ ":" ++ after) ":" = some (before, after) :=
  Python.splitFirst_append String.toList_ofList hbefore after

/-- The parts of an argument with a colon. -/
theorem parseRestrictedAllowlistArgument_colon {before : String} (hbefore : ':' ∉ before.toList) (after : String) :
    parseRestrictedAllowlistArgument (before ++ ":" ++ after) = (Python.strip before, Python.strip after) := by
  unfold parseRestrictedAllowlistArgument
  rw [splitFirst_colon hbefore]

/-- An argument without a colon is a list. -/
theorem parseRestrictedAllowlistArgument_of_no_colon {argument : String} (h : ':' ∉ argument.toList) :
    parseRestrictedAllowlistArgument argument = ("", argument) := by
  have hsplit : Python.splitFirst argument ":" = none := Python.splitFirst_of_not_mem String.toList_ofList h
  unfold parseRestrictedAllowlistArgument
  rw [hsplit]

/-- A text with a colon. -/
theorem exists_first_colon {text : String} (h : ':' ∈ text.toList) :
    ∃ before after : String, text = before ++ ":" ++ after ∧ ':' ∉ before.toList :=
  Python.exists_first String.toList_ofList h

/-! ## Storing the rule -/

/-- Storing the rule of a route restricts this route only. -/
theorem restrictedTo_storeRoute (hids : db.RouteIds) (hroute : route ∈ db.routes) (now : Int) {db₁ : Database}
    (hroutes : db₁.routes = db.routes) : RestrictedTo route.id normalized db
      (storeRoute now { route with clientIpAccessMode := "restricted", clientIpAllowlist := normalized } db₁) := by
  unfold RestrictedTo storeRoute Table.update
  rw [hroutes, List.forall₂_map_right_iff, List.forall₂_same]
  intro row hrow
  by_cases hid : row.id = route.id
  · obtain rfl := hids.unique.eq_of_mem hrow hroute hid
    rw [if_pos rfl, if_pos (beq_self_eq_true _)]
    rfl
  · rw [if_neg hid, if_neg (by simpa using hid)]

/-- A rule that can be stored restricts the route that the name resolves to. -/
theorem setAllowlistCommand_restricted (hids : db.RouteIds) (hname : name.length ≤ 200)
    (hroute : resolveLinkedRoute (defaultOrganization s db).2.id captured name (defaultOrganization s db).1 = some route)
    (hlist : normalizeClientIpAllowlist P list = .ok normalized) (hne : normalized ≠ "") :
    RestrictedTo route.id normalized db (setAllowlistCommand P s run captured name "restricted" list db) := by
  obtain ⟨organizations, n, horganization, -⟩ := defaultOrganization_eq s db
  have hroutes : (defaultOrganization s db).1.routes = db.routes := by rw [horganization]
  have hmem : route ∈ db.routes := hroutes ▸ mem_of_resolveLinkedRoute hroute
  unfold setAllowlistCommand
  simp only [if_neg (Nat.not_lt.2 hname), hroute, hlist, hne, and_false, if_false, if_true]
  exact restrictedTo_storeRoute hids hmem run.now hroutes

/-- A name that no linked route resolves to, or a list that cannot be stored, changes no route. -/
theorem routes_setAllowlistCommand
    (h : resolveLinkedRoute (defaultOrganization s db).2.id captured name (defaultOrganization s db).1 = none ∨
      ∃ e, normalizeClientIpAllowlist P list = .error e) :
    (setAllowlistCommand P s run captured name "restricted" list db).routes = db.routes := by
  obtain ⟨organizations, n, horganization, -⟩ := defaultOrganization_eq s db
  have hroutes : (defaultOrganization s db).1.routes = db.routes := by rw [horganization]
  unfold setAllowlistCommand
  split
  · rfl
  · rcases h with h | ⟨e, h⟩
    · simp only [h, hroutes]
    · simp only [h]
      cases resolveLinkedRoute (defaultOrganization s db).2.id captured name (defaultOrganization s db).1 with
      | none => exact hroutes
      | some route => exact hroutes

/-- A public route that is as it was is not restricted. -/
theorem not_restrictedTo_of_public {db' : Database} (hroutes : db'.routes = db.routes) (hroute : route ∈ db.routes)
    (hpublic : route.clientIpAccessMode = "public") : ¬RestrictedTo route.id normalized db db' := by
  intro h
  unfold RestrictedTo at h
  rw [hroutes, List.forall₂_same] at h
  have heq := h route hroute
  rw [if_pos rfl] at heq
  have hmode : route.clientIpAccessMode = "restricted" := congrArg WebhookRoute.clientIpAccessMode heq
  exact absurd (hpublic.symm.trans hmode) (by decide)

/-! ## Conversations -/

/-- A public route of the conversation. -/
def opsRoute (id : Nat) (name : String) : WebhookRoute :=
  { id := id, organizationId := 1, name := name, routeTokenHash := "hash-" ++ toString id, botConversationId := "19:ops" }

/-- The conversation. -/
def opsConversation : Captured :=
  { conversationId := "19:ops", serviceUrl := "https://smba.example/", conversationType := "groupchat" }

/-- Tables of the organization with some routes. -/
def organizationTables (s : Settings) (routes : List WebhookRoute) : Database where
  organizations := [{ id := 1, slug := s.defaultOrgSlug, name := s.defaultOrgName }]
  routes := routes
  nextId := 4

theorem defaultOrganization_organizationTables (s : Settings) (routes : List WebhookRoute) :
    defaultOrganization s (organizationTables s routes) =
      (organizationTables s routes, { id := 1, slug := s.defaultOrgSlug, name := s.defaultOrgName }) := by
  simp [defaultOrganization, organizationTables]

/-- The only route is linked. -/
theorem linkedRoutes_one (s : Settings) (name : String) :
    linkedRoutes s opsConversation (organizationTables s [opsRoute 2 name]) = [opsRoute 2 name] := by
  unfold linkedRoutes
  rw [defaultOrganization_organizationTables]
  rfl

/-- Both routes are linked. -/
theorem linkedRoutes_two (s : Settings) (name other : String) :
    linkedRoutes s opsConversation (organizationTables s [opsRoute 2 name, opsRoute 3 other]) =
    [opsRoute 2 name, opsRoute 3 other] := by
  unfold linkedRoutes
  rw [defaultOrganization_organizationTables]
  rfl

/-- The ids of at most two routes. -/
theorem routeIds_one (s : Settings) (name : String) : (organizationTables s [opsRoute 2 name]).RouteIds := by
  refine ⟨List.pairwise_singleton _ _, fun route hroute => ?_⟩
  obtain rfl := List.mem_singleton.1 hroute
  exact (by decide : 2 < 4)

theorem routeIds_two (s : Settings) (name other : String) :
    (organizationTables s [opsRoute 2 name, opsRoute 3 other]).RouteIds := by
  refine ⟨by simp [Table.UniqueOn, organizationTables, opsRoute], fun route hroute => ?_⟩
  rcases List.mem_cons.1 hroute with rfl | hroute
  · exact (by decide : 2 < 4)
  · obtain rfl := List.mem_singleton.1 hroute
    exact (by decide : 3 < 4)

/-- There is a name besides any two. -/
theorem exists_other_name (a b : String) : ∃ name, name ≠ a ∧ name ≠ b := by
  by_contra h
  simp only [not_exists, not_and_or, not_not] at h
  have hdistinct : "alerts" ≠ "ops" ∧ "alerts" ≠ "dev" ∧ "ops" ≠ "dev" := by decide
  grind [h "alerts", h "ops", h "dev"]

/-! ## Without a name -/

/-- A list without a colon is set on the only route. -/
theorem restrictsOnlyRoute_of_no_colon (hP : AllowlistTexts P) (hreads : ReadsAs P text ("allowlist restricted " ++ list))
    (hlist : normalizeClientIpAllowlist P list = .ok normalized) (hne : normalized ≠ "") (hcolon : ':' ∉ list.toList) :
    RestrictsOnlyRoute P s text normalized := by
  intro run captured reference permissions db route hids hlinked
  have hargument : ':' ∉ (Python.collapse list).toList := (Python.mem_collapse_iff (by decide)).not.2 hcolon
  have hroute : resolveLinkedRoute (defaultOrganization s db).2.id captured "" (defaultOrganization s db).1 =
      some route := by
    unfold linkedRoutes at hlinked
    unfold resolveLinkedRoute
    simp only [hlinked, ne_eq, not_true_eq_false, if_false]
  have hlength : ("" : String).length ≤ 200 := by decide
  refine ⟨_, runMessage_restricted hP hreads (visible_of_normalized hlist hne), ?_⟩
  rw [parseRestrictedAllowlistArgument_of_no_colon hargument]
  exact setAllowlistCommand_restricted hids hlength hroute ((normalizeClientIpAllowlist_collapse list).trans hlist) hne

/-- What follows the colon a list starts with cannot be stored. -/
theorem normalize_error_of_colon (hP : AllowlistTexts P) {after : String}
    (hlist : normalizeClientIpAllowlist P (":" ++ after) = .ok normalized) :
    ∃ e, normalizeClientIpAllowlist P (Python.strip after) = .error e := by
  have hentries : ∀ value, allowlistEntries value = Python.splitOn isAllowlistSeparator value := fun value =>
    Python.splitOn_strip AllowedClientsAux.isAllowlistSeparator_of_isSpace value
  have hchars : (":" ++ after).toList = ':' :: after.toList := by simp
  let rest := after.toList.takeWhile (!isAllowlistSeparator ·)
  have hmem : ":" ++ String.ofList rest ∈ allowlistEntries (":" ++ after) := by
    rw [hentries]
    unfold Python.splitOn
    rw [hchars, Python.splitChars_cons (by decide), List.map_cons]
    refine List.mem_cons.2 (.inl (String.toList_inj.1 ?_))
    simp [rest]
  obtain ⟨line, hline⟩ := AllowedClientsAux.exists_normalizeClientIpAllowlist_iff.1 ⟨_, hlist⟩ _ hmem
  have hslash : (":" ++ String.ofList rest).toList.contains '/' = (String.ofList rest).toList.contains '/' := by simp
  have hrest : String.ofList rest ≠ "" ∧ ∀ line, normalizeClientIp P (String.ofList rest) ≠ .ok line := by
    rw [AllowedClientsAux.normalizeClientIp_eq_ok_iff, hslash] at hline
    simp only [ne_eq, AllowedClientsAux.normalizeClientIp_eq_ok_iff]
    split at hline
    next hnetwork =>
      obtain ⟨hne, hnone⟩ := hP.network_colon _ (Option.isSome_of_eq_some hline)
      refine ⟨hne, fun line => ?_⟩
      rw [if_pos hnetwork, hnone]
      exact nofun
    next haddress =>
      obtain ⟨hne, hnone⟩ := hP.address_colon _ (Option.isSome_of_eq_some hline)
      refine ⟨hne, fun line => ?_⟩
      rw [if_neg haddress, hnone]
      exact nofun
  have hmem' : String.ofList rest ∈ allowlistEntries (Python.strip after) := by
    rw [hentries, Python.splitOn_strip AllowedClientsAux.isAllowlistSeparator_of_isSpace]
    unfold Python.splitOn
    cases hafter : after.toList with
    | nil => exact absurd (by simp [rest, hafter]) hrest.1
    | cons c cs =>
      cases hc : isAllowlistSeparator c with
      | true => exact absurd (by simp [rest, hafter, hc]) hrest.1
      | false =>
        rw [Python.splitChars_cons hc, List.map_cons]
        exact List.mem_cons.2 (.inl (by simp [rest, hafter, hc]))
  cases h : normalizeClientIpAllowlist P (Python.strip after) with
  | error e => exact ⟨e, rfl⟩
  | ok other =>
    obtain ⟨line, hline⟩ := AllowedClientsAux.exists_normalizeClientIpAllowlist_iff.1 ⟨_, h⟩ _ hmem'
    exact absurd hline (hrest.2 line)

/-- A list with a colon is not set on every only route. -/
theorem not_restrictsOnlyRoute_of_colon (hP : AllowlistTexts P)
    (hreads : ReadsAs P text ("allowlist restricted " ++ list))
    (hlist : normalizeClientIpAllowlist P list = .ok normalized) (hne : normalized ≠ "") (hcolon : ':' ∈ list.toList) :
    ¬RestrictsOnlyRoute P s text normalized := by
  have hvisible := visible_of_normalized hlist hne
  have hcollapse := (normalizeClientIpAllowlist_collapse list).trans hlist
  obtain ⟨before, after, hargument, hbefore⟩ := exists_first_colon ((Python.mem_collapse_iff (by decide)).2 hcolon)
  obtain ⟨name, hname, -⟩ := exists_other_name (Python.strip before) ""
  intro h
  obtain ⟨db', hrun, hrestricted⟩ :=
    h offlineRun opsConversation none {} _ _ (routeIds_one s name) (linkedRoutes_one s name)
  rw [runMessage_restricted hP hreads hvisible, hargument, parseRestrictedAllowlistArgument_colon hbefore] at hrun
  refine not_restrictedTo_of_public ?_ (List.mem_singleton_self _) rfl hrestricted
  rw [← Except.ok.inj hrun]
  refine routes_setAllowlistCommand ?_
  by_cases hblank : Python.strip before = ""
  · -- nothing stands before the colon: the list starts with it
    have hstart : Python.VisibleOrEmpty (Python.collapse list) :=
      Python.strip_collapse list ▸ Python.visibleOrEmpty_strip _
    have hempty : before = "" := by
      rcases hstart with hstart | hstart
      · rw [hargument] at hstart
        exact absurd hstart (by simp)
      · exact ((hargument ▸ hstart).splitFirst (splitFirst_colon hbefore after)).resolve_right fun h => h.strip_ne hblank
    rw [hargument, hempty, String.empty_append] at hcollapse
    exact .inr (normalize_error_of_colon hP hcollapse)
  · refine .inl ?_
    have hlinked := linkedRoutes_one s name
    unfold linkedRoutes at hlinked
    unfold resolveLinkedRoute
    rw [if_pos hblank, hlinked, List.find?_singleton, if_neg]
    simpa [opsRoute] using hname

/-! ## With a name -/

/-- A named list as it is collapsed. -/
theorem collapse_named (hname : Python.collapse name = name) (hne : name ≠ "") (hlist : Visible list) :
    Python.collapse (name ++ ": " ++ list) = name ++ ":" ++ (" " ++ Python.collapse list) := by
  have hvisible : Visible name := by
    rw [← Python.strip_ne_empty_iff, Ne, ← Python.collapse_eq_empty_iff, hname]
    exact hne
  have hgap : (": " : String) = ":" ++ " " := by decide
  have hsplit : name ++ ": " ++ list = name ++ ":" ++ " " ++ list := by rw [hgap, ← String.append_assoc]
  have hsingleton : String.singleton ':' = ":" := by decide
  have hcolon := Python.collapse_append_singleton hname hvisible (c := ':') (by decide)
  rw [hsingleton] at hcolon
  rw [hsplit, Python.collapse_append_blank (hvisible.append_left ":") hlist, hcolon, String.append_assoc]

/-- The list is set on the route whose name has no colon. -/
theorem restrictsNamedRoute_of_no_colon (hP : AllowlistTexts P)
    (hreads : ReadsAs P text ("allowlist restricted " ++ (name ++ ": " ++ list)))
    (hlist : normalizeClientIpAllowlist P list = .ok normalized) (hne : normalized ≠ "")
    (hname : Python.collapse name = name) (hnamed : name ≠ "") (hlength : name.length ≤ 200)
        (hcolon : ':' ∉ name.toList) : RestrictsNamedRoute P s text name normalized := by
  rintro run captured reference permissions db route hids hnames hlinked rfl
  have hvisible := visible_of_normalized hlist hne
  have hstrip : Python.strip route.name = route.name := by rw [← hname, Python.strip_collapse]
  have hroute : resolveLinkedRoute (defaultOrganization s db).2.id captured route.name (defaultOrganization s db).1 =
      some route := by
    unfold linkedRoutes at hnames hlinked
    unfold resolveLinkedRoute
    simp only [if_pos hnamed]
    exact Table.UniqueOn.find?_eq_some hnames hlinked
  refine ⟨_, runMessage_restricted hP hreads (hvisible.append_right _), ?_⟩
  rw [collapse_named hname hnamed hvisible, parseRestrictedAllowlistArgument_colon hcolon, Python.strip_blank_append,
    Python.strip_collapse, hstrip]
  exact setAllowlistCommand_restricted hids hlength hroute ((normalizeClientIpAllowlist_collapse list).trans hlist) hne

/-- The list is not set on every route whose name has a colon. -/
theorem not_restrictsNamedRoute_of_colon (hP : AllowlistTexts P)
    (hreads : ReadsAs P text ("allowlist restricted " ++ (name ++ ": " ++ list)))
    (hlist : normalizeClientIpAllowlist P list = .ok normalized) (hne : normalized ≠ "")
    (hname : Python.collapse name = name) (hnamed : name ≠ "") (hcolon : ':' ∈ name.toList) : ¬RestrictsNamedRoute P s
        text name normalized := by
  have hvisible := visible_of_normalized hlist hne
  obtain ⟨before, after, hsplit, hbefore⟩ := exists_first_colon hcolon
  have hargument : Python.collapse (name ++ ": " ++ list) = before ++ ":" ++
      (after ++ ":" ++ (" " ++ Python.collapse list)) := by
    rw [collapse_named hname hnamed hvisible, hsplit]
    simp only [String.append_assoc]
  have hshorter : Python.strip before ≠ name := by
    intro heq
    have hlength := Python.length_strip_le before
    rw [heq, hsplit, String.length_append, String.length_append] at hlength
    have : (":" : String).length = 1 := rfl
    omega
  obtain ⟨other, hother, hother'⟩ := exists_other_name name (Python.strip before)
  intro h
  obtain ⟨db', hrun, hrestricted⟩ := h offlineRun opsConversation none {} _ (opsRoute 2 name) (routeIds_two s name other)
    (by rw [linkedRoutes_two]; simpa [opsRoute] using hother.symm)
    (by rw [linkedRoutes_two]; exact List.mem_cons_self) rfl
  rw [runMessage_restricted hP hreads (hvisible.append_right _), hargument,
    parseRestrictedAllowlistArgument_colon hbefore] at hrun
  refine not_restrictedTo_of_public ?_ List.mem_cons_self rfl hrestricted
  rw [← Except.ok.inj hrun]
  refine routes_setAllowlistCommand (.inl ?_)
  have hlinked := linkedRoutes_two s name other
  unfold linkedRoutes at hlinked
  unfold resolveLinkedRoute
  simp only [hlinked]
  split
  · simp [opsRoute, hshorter.symm, hother']
  · rfl

end AllowlistCommandAux

open AllowlistCommandAux

/-! ## What is set -/

/-- Without a name, the list of the command is set on the only linked route exactly when it has no colon. With a name,
it is set on the linked route with the name exactly when the name has none. -/
theorem allowlist_command_iff {P : Platform} (hP : AllowlistTexts P) (s : Settings) (list normalized : String)
    (hlist : normalizeClientIpAllowlist P list = .ok normalized) (hne : normalized ≠ "") :
    (∀ text, ReadsAs P text ("allowlist restricted " ++ list) → (RestrictsOnlyRoute P s text normalized ↔
      ':' ∉ list.toList)) ∧
    ∀ name text, Python.collapse name = name → name ≠ "" → name.length ≤ 200 →
      ReadsAs P text ("allowlist restricted " ++ (name ++ ": " ++ list)) →
      (RestrictsNamedRoute P s text name normalized ↔ ':' ∉ name.toList) := by
  refine ⟨fun text hreads => ⟨fun h hcolon => ?_, ?_⟩, fun name text hname hnamed hlength hreads =>
    ⟨fun h hcolon => ?_, ?_⟩⟩
  · exact not_restrictsOnlyRoute_of_colon hP hreads hlist hne hcolon h
  · exact restrictsOnlyRoute_of_no_colon hP hreads hlist hne
  · exact not_restrictsNamedRoute_of_colon hP hreads hlist hne hname hnamed hcolon h
  · exact restrictsNamedRoute_of_no_colon hP hreads hlist hne hname hnamed hlength

/-! ## Fixed inputs -/

/-- The platform with some addresses keeps what is promised of these texts. -/
theorem allowlistTexts_someAddresses : AllowlistTexts Platform.someAddresses := by
  have hforms : ∀ forms : List (String × String), (∀ form ∈ forms, form.1.toList.head? ≠ some ':') →
      ∀ text, (forms.lookup (":" ++ text)).isSome = false := by
    intro forms hforms text
    cases h : forms.lookup (":" ++ text) with
    | none => rfl
    | some printed => exact absurd (by simp) (hforms _ (mem_of_lookup_eq_some h))
  refine ⟨fun text => ?_, fun text h => ?_, fun text h => ?_⟩
  · refine List.isPrefixOf_iff_prefix.2 ?_
    show "restricted ".toList <+: ("restricted " ++ text).toList
    rw [String.toList_append]
    exact List.prefix_append _ _
  · have hnone := hforms someAddresses (by decide) text
    exact absurd h
      (by rw [show Platform.someAddresses.ipAddress (":" ++ text) = someAddresses.lookup (":" ++ text) from rfl, hnone]; decide)
  · have hnone := hforms someNetworks (by decide) text
    exact absurd h
      (by rw [show Platform.someAddresses.ipNetwork (":" ++ text) = someNetworks.lookup (":" ++ text) from rfl, hnone]; decide)

/-- An IPv6 address for a route by its name. -/
theorem allowlist_command_named :
    RestrictsNamedRoute Platform.someAddresses
      {} "allowlist restricted Primary Alerts: 2001:DB8::1" "Primary Alerts" "2001:db8::1" := by
  have hlist : normalizeClientIpAllowlist Platform.someAddresses "2001:DB8::1" = .ok "2001:db8::1" :=
    Except.toOption_eq_some_iff.1 (by decide +kernel)
  have hreads : ReadsAs Platform.someAddresses "allowlist restricted Primary Alerts: 2001:DB8::1"
      ("allowlist restricted " ++ ("Primary Alerts" ++ ": " ++ "2001:DB8::1")) := by
    unfold ReadsAs
    decide +kernel
  obtain ⟨-, hnamed⟩ := allowlist_command_iff allowlistTexts_someAddresses {} _ _ hlist (by decide)
  exact (hnamed "Primary Alerts" _ (by decide +kernel) (by decide) (by decide) hreads).2 (by decide)

/-- The same address without a name is taken for a name and a list. -/
theorem allowlist_command_takes_address_for_name :
    normalizeClientIpAllowlist Platform.someAddresses "2001:db8::1" = .ok "2001:db8::1" ∧
      ¬RestrictsOnlyRoute Platform.someAddresses {} "allowlist restricted 2001:db8::1" "2001:db8::1" := by
  have hlist : normalizeClientIpAllowlist Platform.someAddresses "2001:db8::1" = .ok "2001:db8::1" :=
    Except.toOption_eq_some_iff.1 (by decide +kernel)
  have hreads : ReadsAs Platform.someAddresses "allowlist restricted 2001:db8::1" ("allowlist restricted " ++
      "2001:db8::1") := by
    unfold ReadsAs
    decide +kernel
  exact ⟨hlist, not_restrictsOnlyRoute_of_colon allowlistTexts_someAddresses hreads hlist (by decide) (by decide)⟩

end TeamsRehook
