import TeamsRehook.Lemmas.RowOrigins

/-!
# Stored names and their columns

The names of routes and references are stored in columns of a bounded length. What an activity or a request gives is cut
or checked, but for the type of an activity; a name from Graph is stored as it is, and so is the name made of a team and
a channel.
-/

namespace TeamsRehook

/-- The texts of a route fit their columns. -/
structure WebhookRoute.Fits (route : WebhookRoute) : Prop where
  targetName : route.targetName.length ≤ 200
  graphTeamName : route.graphTeamName.length ≤ 200
  memberSummary : route.memberSummary.length ≤ 500

/-- The texts of a reference fit their columns. -/
structure BotConversationReference.Fits (reference : BotConversationReference) : Prop where
  teamName : reference.teamName.length ≤ 200
  channelName : reference.channelName.length ≤ 200
  userName : reference.userName.length ≤ 200
  conversationType : reference.conversationType.length ≤ 40
  memberSummary : reference.memberSummary.length ≤ 500
  rawActivityType : reference.rawActivityType.length ≤ 80

/-- What the columns promise of the tables. -/
structure NamesLaw (db : Database) : Prop where
  routes : ∀ route ∈ db.routes, route.Fits
  references : ∀ reference ∈ db.references, reference.Fits

/-! ## Lookups that fit -/

/-- A lookup that is made gives a name that fits. -/
def LookupFits (wanted : Bool) (look : Except Exn String) : Prop :=
  wanted = true → ∀ name, look = .ok name → name.length ≤ 200

/-- The names that Graph gives for a reference fit. -/
structure ReferenceNamesFit (G : GraphNames) (force : Bool) (reference : BotConversationReference) : Prop where
  team : LookupFits (reference.graphTeamId != "" && (force || reference.teamName == ""))
    (safeTeamName G reference.graphTeamId)
  channel : LookupFits (reference.graphTeamId != "" && reference.channelId != "" &&
    (force || reference.channelName == ""))
    (safeChannelName G reference.graphTeamId reference.channelId)
  user : LookupFits (reference.graphUserId != "" && (force || reference.userName == ""))
    (safeUserName G reference.graphUserId)

/-- Whether the name of a route's team is looked up. -/
def WebhookRoute.wantsTeamName (force : Bool) (route : WebhookRoute) : Bool :=
  route.graphTeamId != "" && (force || route.graphTeamName == "")

/-- Whether a route has the name for its team: its own one, or the one that is looked up. -/
def WebhookRoute.HasTeamName (G : GraphNames) (force : Bool) (route : WebhookRoute) (team : String) : Prop :=
  if route.wantsTeamName force then
    ∃ name, safeTeamName G route.graphTeamId = .ok name ∧ team = Python.orElse name route.graphTeamName
  else team = route.graphTeamName

/-- The names that Graph gives for a route fit, and so does the name made of its team and its channel. -/
structure RouteNamesFit (G : GraphNames) (force : Bool) (route : WebhookRoute) : Prop where
  team : LookupFits (route.wantsTeamName force) (safeTeamName G route.graphTeamId)
  channel : ∀ team name, route.HasTeamName G force team → route.graphTargetKind = "channel" → team ≠ "" → name ≠ "" →
    route.graphTeamId ≠ "" → route.graphChannelId ≠ "" →
    (force = true ∨ (Python.splitFirst (Python.strip route.targetName) " / ").isNone = true) →
    safeChannelName G route.graphTeamId route.graphChannelId = .ok name → (team ++ " / " ++ name).length ≤ 200
  user : LookupFits (route.graphTargetKind == "user" && route.graphTargetId != "" && (force || route.targetName == ""))
    (safeUserName G route.graphTargetId)

/-- The names that Graph gives while a step runs fit, for the rows whose names the step looks up, and so does the type
of an activity. -/
def GivenNamesFit (P : Platform) (db : Database) : LiveStep → Prop
  | .routes (.activity _ run body) => ∀ activity, activityOfBody P body = .ok (some activity) →
      (extractActivity P activity).activityType.length ≤ 80 ∧
      ((extractActivity P activity).conversationId ≠ "" → (extractActivity P activity).serviceUrl ≠ "" →
        ReferenceNamesFit run.referenceNames false
          ((db.referenceToCapture run.now (extractActivity P activity).conversationId).captures P run.now
            (extractActivity P activity))) ∧
        ∀ argument found route, commandOf P activity = some (.register, argument) →
          CapturesReference P run (extractActivity P activity) db found →
          RouteNamesFit run.routeNames false
            (registeredRoute P run.now (capturedWithReference (extractActivity P activity) found) found route)
  | .routes (.create s run organizationId payload) => s.graphLookupEnabled = true →
      (payload.route P run organizationId db.nextId).targetsGraphUser = false →
      RouteNamesFit run.names false (payload.route P run organizationId db.nextId)
  | .routes (.update s run _ routeId payload) => s.graphLookupEnabled = true → ∀ old ∈ db.routes, old.id = routeId →
      (payload.apply old).targetsGraphUser = false → RouteNamesFit run.names false (payload.apply old)
  | .routes (.refreshNames _ _ G organizationId) => (∀ reference ∈ db.references, ReferenceNamesFit G true reference) ∧
      ∀ route ∈ db.routes, route.organizationId = organizationId → RouteNamesFit G true route
  | .routes (.refreshRouteNames _ _ G _ routeId) => ∀ route ∈ db.routes, route.id = routeId → RouteNamesFit G true route
  | _ => True

namespace StoredNamesAux

variable {P : Platform} {route row : WebhookRoute} {reference row' : BotConversationReference}

/-! ## Names from Graph -/

/-- A name that fits keeps what it is written to. -/
theorem named_fits {ρ : Type} {I : ρ → Prop} {wanted : Bool} {look : Except Exn String} {set : String → ρ} {row : ρ}
    (hlook : LookupFits wanted look) (h : I row) (hset : ∀ name, name.length ≤ 200 → I (set name)) :
    I (named wanted look set row).1 := by
  cases hwanted : wanted with
  | false => exact h
  | true => exact named_invariant h fun name hname _ => hset name (hlook hwanted name hname)

/-- A reference after lookups that go by its own ids, with names in their columns. -/
structure Between (old reference : BotConversationReference) : Prop where
  fits : reference.Fits
  graphTeamId : reference.graphTeamId = old.graphTeamId
  channelId : reference.channelId = old.channelId
  graphUserId : reference.graphUserId = old.graphUserId
  userName : reference.userName = old.userName

/-- Names that fit keep a reference in its columns. -/
theorem fits_resolveReference {G : GraphNames} {force : Bool} (h : reference.Fits)
    (hnames : ReferenceNamesFit G force reference) : (resolveReferenceGraphNames G force reference).1.Fits := by
  unfold resolveReferenceGraphNames
  refine Changed.andThen_of (I := Between reference) ?_ (fun _ hrow => hrow.fits) fun row hrow => ?_
  · refine Changed.andThen_of (I := fun row => Between reference row ∧ row.channelName = reference.channelName) ?_
      (fun _ hrow => hrow.1)
      fun row ⟨hrow, hchannelName⟩ => ?_
    · refine named_fits (I := fun row => Between reference row ∧ row.channelName = reference.channelName) hnames.team
        ⟨⟨h, rfl, rfl, rfl, rfl⟩, rfl⟩ fun name hname => ?_
      exact ⟨⟨{ h with teamName := hname }, rfl, rfl, rfl, rfl⟩, rfl⟩
    · have hlook : LookupFits (row.graphTeamId != "" && row.channelId != "" && (force || row.channelName == ""))
          (safeChannelName G row.graphTeamId row.channelId) := by
        rw [hrow.graphTeamId, hrow.channelId, hchannelName]
        exact hnames.channel
      refine named_fits (I := Between reference) hlook hrow fun name hname => ?_
      exact ⟨{ hrow.fits with channelName := hname }, hrow.graphTeamId, hrow.channelId, hrow.graphUserId, hrow.userName⟩
  · have hlook : LookupFits (row.graphUserId != "" && (force || row.userName == ""))
        (safeUserName G row.graphUserId) := by
      rw [hrow.graphUserId, hrow.userName]
      exact hnames.user
    exact named_fits hlook hrow.fits fun name hname => { hrow.fits with userName := hname }

/-- The name of a route's team is its own one, or the one that is looked up. -/
theorem hasTeamName_named {G : GraphNames} {force : Bool}
    (hraised : (named (route.graphTeamId != "" && (force || route.graphTeamName == "")) (safeTeamName G route.graphTeamId)
      (fun name => { route with graphTeamName := name }) route).2 = none) :
    route.HasTeamName G force (named (route.graphTeamId != "" && (force || route.graphTeamName == ""))
      (safeTeamName G route.graphTeamId)
      (fun name => { route with graphTeamName := name }) route).1.graphTeamName := by
  unfold named at hraised ⊢
  unfold WebhookRoute.HasTeamName WebhookRoute.wantsTeamName
  split
  next hwanted =>
    rw [if_pos hwanted] at hraised
    cases hlook : safeTeamName G route.graphTeamId with
    | error e =>
      rw [hlook] at hraised
      nomatch hraised
    | ok name =>
      refine ⟨name, rfl, ?_⟩
      dsimp only
      unfold Python.orElse
      split <;> rfl
  next => rfl

/-- Names that fit keep a route in its columns. -/
theorem fits_resolveRoute {G : GraphNames} {force : Bool} (h : route.Fits) (hnames : RouteNamesFit G force route) :
    (resolveRouteGraphNames G force route).1.Fits := by
  have hlook : LookupFits (route.graphTeamId != "" && (force || route.graphTeamName == ""))
      (safeTeamName G route.graphTeamId) :=
    hnames.team
  have hfits := named_fits (I := WebhookRoute.Fits) hlook h fun name hname =>
    (show WebhookRoute.Fits { route with graphTeamName := name } from { h with graphTeamName := hname })
  have hteam := @hasTeamName_named route G force
  obtain ⟨teamName, hrow⟩ : ∃ teamName, (named (route.graphTeamId != "" && (force || route.graphTeamName == ""))
      (safeTeamName G route.graphTeamId) (fun name => { route with graphTeamName := name }) route).1 =
        { route with graphTeamName := teamName } :=
    named_invariant (I := fun row => ∃ teamName, row = { route with graphTeamName := teamName }) ⟨_, rfl⟩
      fun name _ _ => ⟨name, rfl⟩
  rw [hrow] at hfits hteam
  unfold resolveRouteGraphNames Changed.andThen
  dsimp only
  split
  next hraised =>
    specialize hteam hraised
    rw [hrow]
    split
    next channelName hlookup =>
      unfold resolveTargetName
      split
      next hchannel =>
        obtain ⟨hkind, hnamed, hgiven⟩ := hchannel
        refine { hfits with targetName := ?_ }
        split at hlookup
        next hwanted =>
          obtain ⟨hteamId, hchannelId, hresolve⟩ := hwanted
          refine hnames.channel teamName channelName hteam hkind hnamed hgiven hteamId hchannelId ?_ hlookup
          have hresolve : force = true ∨ route.graphTargetKind = "channel" ∧
              (teamName = "" ∨ (Python.splitFirst (Python.strip route.targetName) " / ").isNone = true) := by
            simpa using hresolve
          exact hresolve.imp id fun hslash => hslash.2.resolve_left hnamed
        next => exact absurd (Except.ok.inj hlookup).symm hgiven
      · split
        next => exact { hfits with targetName := hfits.graphTeamName }
        next =>
          exact named_fits (I := WebhookRoute.Fits) hnames.user hfits fun name hname =>
            { hfits with targetName := hname }
    next => exact hfits
  next e he =>
    rw [hrow]
    exact hfits

/-! ## Members and captured references -/

/-- Members that were fetched keep a route in its columns. -/
theorem fits_refreshRouteMembers {now : Int} {fetched : Except Exn ConversationMembers} {valueErrorText : String}
    (h : route.Fits) (hrow : refreshRouteMembers now fetched valueErrorText route = .ok row) : row.Fits := by
  unfold refreshRouteMembers at hrow
  split at hrow
  · split at hrow
    next members =>
      cases hrow
      refine ⟨?_, h.graphTeamName, members.bounded⟩
      dsimp only
      split
      · exact h.targetName
      · exact Python.length_clip_le _ 200
    next e =>
      split at hrow
      · cases hrow
        exact ⟨h.targetName, h.graphTeamName, h.memberSummary⟩
      · nomatch hrow
  · cases hrow
    exact ⟨h.targetName, h.graphTeamName, h.memberSummary⟩

/-- Members that were fetched keep a reference in its columns. -/
theorem fits_refreshReferenceChatMembers {now : Int} {force : Bool} {fetched : Except Exn ConversationMembers}
    {found : BotConversationReference} (h : reference.Fits)
    (hfound : refreshReferenceChatMembers P now force fetched reference = .ok found) : found.Fits := by
  unfold refreshReferenceChatMembers at hfound
  split at hfound
  · split at hfound
    next members =>
      cases hfound
      exact { h with memberSummary := members.bounded }
    · cases hfound
      exact { h with memberSummary := h.memberSummary }
    · cases hfound
      exact { h with memberSummary := h.memberSummary }
    · nomatch hfound
  · cases hfound
    exact h

/-- Of two texts that fit, the first one that is there fits. -/
theorem length_orElse_le {first second : String} {n : Nat} (hfirst : first.length ≤ n) (hsecond : second.length ≤ n) :
    (Python.orElse first second).length ≤ n := by
  unfold Python.orElse
  split
  · exact hsecond
  · exact hfirst

/-- What is captured of an activity fits the columns. -/
structure CapturedFits (captured : Captured) : Prop where
  teamName : captured.teamName.length ≤ 200
  channelName : captured.channelName.length ≤ 200
  userName : captured.userName.length ≤ 200
  conversationType : captured.conversationType.length ≤ 40
  activityType : captured.activityType.length ≤ 80

/-- What is captured of an activity is cut to the columns, but for its type. -/
theorem capturedFits_extractActivity {activity : List (String × Json)}
    (htype : (extractActivity P activity).activityType.length ≤ 80) : CapturedFits (extractActivity P activity) :=
  ⟨Python.length_clip_le _ 200, Python.length_clip_le _ 200, Python.length_clip_le _ 200,
    Python.length_clip_le _ 40, htype⟩

/-- What is captured keeps a reference in its columns. -/
theorem fits_captures {captured : Captured} (hcaptured : CapturedFits captured) (now : Int) (h : reference.Fits) :
    (reference.captures P now captured).Fits := by
  refine ⟨?_, ?_, ?_, hcaptured.conversationType, h.memberSummary, hcaptured.activityType⟩
  · exact length_orElse_le hcaptured.teamName h.teamName
  · exact length_orElse_le hcaptured.channelName h.channelName
  · exact length_orElse_le hcaptured.userName h.userName

/-- A reference that an activity captured fits its columns. -/
theorem fits_of_capturesReference {run : BotRun} {captured : Captured} {db : Database} {found : BotConversationReference}
    (hreferences : ∀ reference ∈ db.references, reference.Fits) (hcaptured : CapturedFits captured)
    (hnames : ReferenceNamesFit run.referenceNames false
      ((db.referenceToCapture run.now captured.conversationId).captures P run.now captured))
    (h : CapturesReference P run captured db found) : found.Fits := by
  obtain ⟨named, hnamed, hfound⟩ := h.written
  have hloaded : (db.referenceToCapture run.now captured.conversationId).Fits := by
    rcases (db.referenceToCapture_cases run.now captured.conversationId).1 with hold | hnew
    · exact hreferences _ hold
    · rw [hnew]
      exact ⟨Nat.zero_le _, Nat.zero_le _, Nat.zero_le _, Nat.zero_le _, Nat.zero_le _, Nat.zero_le _⟩
  refine fits_refreshReferenceChatMembers ?_ hfound
  rw [Changed.eq_of_try hnamed]
  exact fits_resolveReference (fits_captures hcaptured run.now hloaded) hnames

/-! ## Registered, created and edited routes -/

/-- The name of a captured conversation fits. -/
theorem length_targetName_le (captured : Captured) : (targetName P captured).length ≤ 200 := by
  unfold targetName
  split
  · exact Python.length_clip_le _ 200
  · split
    · exact Python.length_clip_le _ 200
    · split
      · exact Python.length_clip_le _ 200
      · split
        · exact Python.length_clip_le _ 200
        · split
          · decide
          · exact Python.length_clip_le _ 200

/-- A route that `register` turns to a conversation fits its columns when the reference does. -/
theorem fits_registeredRoute {now : Int} {effective : Captured} {found : BotConversationReference} (h : found.Fits) :
    (registeredRoute P now effective found route).Fits where
  targetName := length_targetName_le effective
  graphTeamName := Python.length_clip_le _ 200
  memberSummary := h.memberSummary

/-- A text of a request fits stripped. -/
theorem length_strip_le_of {text : String} {n : Nat} (h : text.length ≤ n) : (Python.strip text).length ≤ n :=
  (Python.length_strip_le text).trans h

/-- The route that an accepted request asks for fits its columns. -/
theorem fits_create {payload : WebhookRouteCreate} (haccepted : payload.accepted = true) (run : RouteRun)
    (organizationId id : Nat) : (payload.route P run organizationId id).Fits := by
  unfold WebhookRouteCreate.accepted at haccepted
  simp only [Bool.and_eq_true, decide_eq_true_eq] at haccepted
  obtain ⟨⟨⟨⟨⟨⟨⟨⟨⟨⟨⟨⟨⟨⟨-, -⟩, -⟩, -⟩, htargetName⟩, -⟩, -⟩, -⟩, -⟩, hteamName⟩, -⟩, -⟩, -⟩, -⟩, -⟩ := haccepted
  exact ⟨length_strip_le_of htargetName, length_strip_le_of hteamName, Nat.zero_le _⟩

/-- The route with the fields that an accepted request gives fits its columns. -/
theorem fits_update {payload : WebhookRouteUpdate} (haccepted : payload.accepted = true) (h : route.Fits) :
    (payload.apply route).Fits := by
  unfold WebhookRouteUpdate.accepted at haccepted
  simp only [Bool.and_eq_true] at haccepted
  obtain ⟨⟨⟨⟨⟨⟨⟨⟨⟨⟨⟨⟨⟨-, -⟩, -⟩, htargetName⟩, -⟩, -⟩, -⟩, -⟩, hteamName⟩, -⟩, -⟩, -⟩, -⟩, -⟩ := haccepted
  refine ⟨?_, ?_, h.memberSummary⟩
  · show ((payload.targetName.map Python.strip).getD route.targetName).length ≤ 200
    cases hname : payload.targetName with
    | none => exact h.targetName
    | some name =>
      rw [hname] at htargetName
      simp only [Option.all_some, Bool.and_eq_true, decide_eq_true_eq] at htargetName
      exact length_strip_le_of htargetName.2
  · show ((payload.graphTeamName.map Python.strip).getD route.graphTeamName).length ≤ 200
    cases hname : payload.graphTeamName with
    | none => exact h.graphTeamName
    | some name =>
      rw [hname] at hteamName
      simp only [Option.all_some, decide_eq_true_eq] at hteamName
      exact length_strip_le_of hteamName

/-- A chat with a user fits its columns. -/
theorem fits_materialize {run : RouteRun} (h : route.Fits) (hrow : materializeGraphUserTarget run route = .ok row) :
    row.Fits := by
  unfold materializeGraphUserTarget at hrow
  split at hrow
  · cases hrow
    exact h
  · dsimp only at hrow
    split at hrow
    · nomatch hrow
    · split at hrow
      · nomatch hrow
      · nomatch hrow
      · cases hrow
        exact ⟨h.targetName, Nat.zero_le _, h.memberSummary⟩

/-- Nothing is looked up for a chat with a user. -/
theorem namesFit_materialize {run : RouteRun} {G : GraphNames}
    (hnames : route.targetsGraphUser = false → RouteNamesFit G false route)
    (hrow : materializeGraphUserTarget run route = .ok row) : RouteNamesFit G false row := by
  unfold materializeGraphUserTarget at hrow
  split at hrow
  next hother =>
    cases hrow
    exact hnames hother
  next =>
    dsimp only at hrow
    split at hrow
    · nomatch hrow
    · split at hrow
      · nomatch hrow
      · nomatch hrow
      · cases hrow
        refine ⟨fun hwanted => ?_, fun team name _ hkind => ?_, fun hwanted => ?_⟩
        · nomatch hwanted
        · exact absurd hkind (by decide : "chat" ≠ "channel")
        · nomatch hwanted

/-- What becomes of a route between its checks and its lookups: it stays in its columns, with the lookups it had. -/
structure KeepsFit (G : GraphNames) (settled : WebhookRoute → WebhookRoute) : Prop where
  fits : ∀ route, route.Fits → (settled route).Fits
  names : ∀ route, RouteNamesFit G false route → RouteNamesFit G false (settled route)

/-- Settled members keep a route in its columns, with the lookups it had. -/
theorem keepsFit_settleMembers (G : GraphNames) (old : WebhookRoute) : KeepsFit G (settleMembers old) := by
  refine ⟨fun edited h => ?_, fun edited h => ?_⟩
  · unfold settleMembers
    split
    · exact ⟨h.targetName, h.graphTeamName, Nat.zero_le _⟩
    · exact h
  · unfold settleMembers
    split
    · exact ⟨h.team, h.channel, h.user⟩
    · exact h

/-- The checks of the administration keep a route in its columns. -/
theorem fits_checkedRoute {s : Settings} {run : RouteRun} {settled : WebhookRoute → WebhookRoute}
    (hsettled : KeepsFit run.names settled) (h : route.Fits)
    (hnames : s.graphLookupEnabled = true → route.targetsGraphUser = false → RouteNamesFit run.names false route)
    (hrow : checkedRoute P s run settled route = .ok row) : row.Fits := by
  obtain ⟨mode, allowlist, chat, -, hchat, hnamed, -⟩ := checkedRoute_eq_ok hrow
  have hadmitted : WebhookRoute.Fits { route with clientIpAccessMode := mode, clientIpAllowlist := allowlist } :=
    ⟨h.targetName, h.graphTeamName, h.memberSummary⟩
  have hfits := hsettled.fits chat (fits_materialize hadmitted hchat)
  rcases hnamed with ⟨hlookup, rfl⟩ | rfl
  · have hwanted : route.targetsGraphUser = false →
        RouteNamesFit run.names false { route with clientIpAccessMode := mode, clientIpAllowlist := allowlist } :=
        fun hother =>
      have hfit := hnames hlookup hother
      ⟨hfit.team, hfit.channel, hfit.user⟩
    exact fits_resolveRoute hfits (hsettled.names chat (namesFit_materialize hwanted hchat))
  · exact hfits

/-! ## Runs -/

/-- The moment of a change does not matter to a route. -/
theorem fits_updatedAt (t : Int) (h : route.Fits) : WebhookRoute.Fits { route with updatedAt := t } :=
  ⟨h.targetName, h.graphTeamName, h.memberSummary⟩

/-- What a reference comes from keeps it in its columns. -/
theorem fits_of_referenceOrigin {db : Database} {step : LiveStep} (h : NamesLaw db) (hnames : GivenNamesFit P db step)
    (horigin : ReferenceOrigin P db step reference) : reference.Fits := by
  cases horigin with
  | kept hold => exact h.references _ hold
  | @captured _ _ _ activity _ hbody hcaptures =>
    obtain ⟨htype, hreferenceNames, -⟩ := hnames activity hbody
    exact fits_of_capturesReference h.references (capturedFits_extractActivity htype)
      (hreferenceNames hcaptures.conversationId hcaptures.serviceUrl) hcaptures
  | membersRefreshed t hold hchanged =>
    have hfits := fits_refreshReferenceChatMembers (h.references _ hold) hchanged
    exact { hfits with teamName := hfits.teamName }
  | @namesRefreshed _ _ G _ _ t hold =>
    have hfits := fits_resolveReference (h.references _ hold) (hnames.1 _ hold)
    exact { hfits with teamName := hfits.teamName }

/-- What a route comes from keeps it in its columns. -/
theorem fits_of_routeOrigin {db : Database} {step : LiveStep} (h : NamesLaw db) (hnames : GivenNamesFit P db step)
    (horigin : RouteOrigin P db step route) : route.Fits := by
  cases horigin with
  | kept hold => exact h.routes _ hold
  | @activated _ _ _ old isActive t hold =>
    have hfits := h.routes old hold
    exact ⟨hfits.targetName, hfits.graphTeamName, hfits.memberSummary⟩
  | @accessSet _ _ _ old _ _ t hold haccess =>
    have hfits := h.routes old hold
    exact ⟨hfits.targetName, hfits.graphTeamName, hfits.memberSummary⟩
  | @registered _ run _ activity found argument old row t hbody hcommand hfound _ hrow =>
    obtain ⟨htype, hreferenceNames, hrouteNames⟩ := hnames activity hbody
    have hfits := fits_of_capturesReference h.references (capturedFits_extractActivity htype)
      (hreferenceNames hfound.conversationId hfound.serviceUrl) hfound
    rw [Changed.eq_of_try hrow]
    exact fits_updatedAt t (fits_resolveRoute (fits_registeredRoute hfits)
      (hrouteNames argument found old hcommand hfound))
  | created t haccepted hrow =>
    exact fits_updatedAt t (fits_checkedRoute ⟨fun _ h => h, fun _ h => h⟩ (fits_create haccepted _ _ _) hnames hrow)
  | @updated _ run _ _ _ old _ t hold hid haccepted hrow =>
    exact fits_updatedAt t (fits_checkedRoute (keepsFit_settleMembers run.names old)
      (fits_update haccepted (h.routes old hold))
      (fun hlookup => hnames hlookup old hold hid) hrow)
  | membersRefreshed t hold hrow => exact fits_updatedAt t (fits_refreshRouteMembers (h.routes _ hold) hrow)
  | namesRefreshed t hold horganization =>
    exact fits_updatedAt t (fits_resolveRoute (h.routes _ hold) (hnames.2 _ hold horganization))
  | routeNamesRefreshed t hold hid => exact fits_updatedAt t (fits_resolveRoute (h.routes _ hold) (hnames _ hold hid))
  | @regenerated _ _ _ old t hold =>
    have hfits := h.routes old hold
    exact ⟨hfits.targetName, hfits.graphTeamName, hfits.memberSummary⟩

/-- A step for which the names and the type that are given fit keeps the names in their columns. -/
theorem namesLaw_step {db db' : Database} {step : LiveStep} (h : NamesLaw db) (hnames : GivenNamesFit P db step)
    (hstep : liveStep P db step = some db') : NamesLaw db' :=
  have horigins := rowOrigins_of_step hstep
  ⟨fun route hroute => fits_of_routeOrigin h hnames (horigins.routes route hroute),
    fun reference hreference => fits_of_referenceOrigin h hnames (horigins.references reference hreference)⟩

end StoredNamesAux

open StoredNamesAux Transition

/-- Lookups in a Graph that names users only, each by the same name. -/
def usersNamed (name : String) : GraphNames := ⟨fun _ => .ok "", fun _ _ => .ok "", fun _ => .ok name⟩

/-- A lookup gives nothing but the name of the answer, stripped. -/
theorem lookup_eq_ok {c : Prop} [Decidable c] {answer name : String}
    (h : (if c then .ok "" else (Except.ok answer : Except Exn String).map Python.strip) = .ok name) :
    name = "" ∨ name = Python.strip answer := by
  split at h
  · exact .inl (Except.ok.inj h).symm
  · exact .inr (Except.ok.inj h).symm

/-- A name of users that fits is all that is looked up. -/
theorem namesFit_usersNamed (name : String) (hname : name.length ≤ 200) (force : Bool) :
    (∀ reference, ReferenceNamesFit (usersNamed name) force reference) ∧
    ∀ route, RouteNamesFit (usersNamed name) force route := by
  have hempty : ∀ {c : Prop} [Decidable c] {text : String},
      (if c then .ok "" else (Except.ok "" : Except Exn String).map Python.strip) = .ok text → text = "" :=
    fun h => (lookup_eq_ok h).elim id fun h => h.trans (by decide)
  have hblank : ∀ {c : Prop} [Decidable c] {text : String},
      (if c then .ok "" else (Except.ok "" : Except Exn String).map Python.strip) = .ok text → text.length ≤ 200 :=
    fun h => hempty h ▸ Nat.zero_le _
  have huser : ∀ {c : Prop} [Decidable c] {text : String},
      (if c then .ok "" else (Except.ok name : Except Exn String).map Python.strip) = .ok text → text.length ≤ 200 := by
    intro c _ text h
    rcases lookup_eq_ok h with rfl | rfl
    · exact Nat.zero_le _
    · exact (Python.length_strip_le name).trans hname
  refine ⟨fun reference => ⟨fun _ _ h => hblank h, fun _ _ h => hblank h, fun _ _ h => huser h⟩,
    fun route => ⟨fun _ _ h => hblank h, fun _ _ _ _ _ hchannel _ _ _ h => ?_, fun _ _ h => huser h⟩⟩
  exact absurd (hempty h) hchannel

/-- A name of 201 characters. -/
def longName : String := String.ofList (List.replicate 201 'x')

/-- Its length. -/
theorem length_longName : longName.length = 201 := String.length_ofList.trans List.length_replicate

/-- It is stripped. -/
theorem strip_longName : Python.strip longName = longName := by
  have hchars : longName.toList = List.replicate 201 'x' := String.toList_ofList
  rw [Python.strip, hchars, Python.stripChars_of_ends]
  · rfl
  · simp
    decide
  · simp
    decide

/-- The lookup for a route of a user gives it the name in Graph, when there is one. -/
theorem resolveRouteGraphNames_user {G : GraphNames} {route : WebhookRoute} {name : String}
    (hteam : route.graphTeamId = "") (hkind : route.graphTargetKind = "user") (hid : route.graphTargetId ≠ "")
    (hname : safeUserName G route.graphTargetId = .ok name) (hne : name ≠ "") :
    resolveRouteGraphNames G true route = ({ route with targetName := name }, none) := by
  simp [resolveRouteGraphNames, Changed.andThen, named, resolveTargetName, hteam, hkind, hid, hname, hne]

end TeamsRehook
