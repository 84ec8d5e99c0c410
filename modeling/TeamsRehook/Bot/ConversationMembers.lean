import TeamsRehook.Delivery.TeamsBot

/-!
# Conversation members

`services/bot_conversation_members.py`: the members of a conversation, as the bot's connector and Graph give them, with
their summary and the text that is stored. What the services do is given by a `UrlOutcome` each.
-/

namespace TeamsRehook

/-- `BotConversationMember`. Its texts are stripped, so they start visibly where they are not empty. -/
structure BotConversationMember where
  id : String := ""
  name : String := ""
  aadObjectId : String := ""
  email : String := ""
  userPrincipalName : String := ""
  visible : ∀ text ∈ [name, userPrincipalName, email, id], Python.VisibleOrEmpty text

/-- `BotConversationMember.to_dict`. -/
def BotConversationMember.toDict (member : BotConversationMember) : Json :=
  .obj [("id", .str member.id), ("name", .str member.name), ("aad_object_id", .str member.aadObjectId),
    ("email", .str member.email), ("user_principal_name", .str member.userPrincipalName)]

/-- Stripped texts start visibly where they are not empty. -/
theorem visible_of_stripped {texts : List String} (h : ∀ text ∈ texts, ∃ raw, text = Python.strip raw) :
    ∀ text ∈ texts, Python.VisibleOrEmpty text := by
  intro text htext
  obtain ⟨raw, rfl⟩ := h text htext
  exact Python.visibleOrEmpty_strip raw

/-- `_string`. -/
def stringOf : Json → String
  | .str value => Python.strip value
  | _ => ""

/-- What `_string` gives is stripped. -/
theorem exists_stringOf (value : Json) : ∃ raw, stringOf value = Python.strip raw := by
  cases value with
  | str raw => exact ⟨raw, rfl⟩
  | _ => exact ⟨"", rfl⟩

/-- `_member_from_raw`. -/
def memberFromRaw (raw : List (String × Json)) : BotConversationMember :=
  let text := fun key => stringOf ((Json.lookup key raw).getD .null)
  { id := text "id"
    name := text "name"
    aadObjectId := Python.orElse (text "aadObjectId") (text "objectId")
    email := text "email"
    userPrincipalName := text "userPrincipalName"
    visible := visible_of_stripped
      (by simpa [text] using ⟨exists_stringOf _, exists_stringOf _, exists_stringOf _, exists_stringOf _⟩) }

/-- `_bot_member_from_graph_member`. -/
def botMemberFromGraphMember (P : Platform) (rawMember : List (String × Json)) : BotConversationMember :=
  let item := fun key => (Json.lookup key rawMember).getD .null
  let text := fun value => Python.strip (strOf P (orElse value (.str "")))
  { id := text (orElse (item "id") (item "userId"))
    name := text (item "displayName")
    aadObjectId := text (item "userId")
    email := text (item "email")
    userPrincipalName := text (orElse (item "userPrincipalName") (item "email"))
    visible := visible_of_stripped (by simp [text]) }

/-- `_member_label`. -/
def BotConversationMember.label (member : BotConversationMember) : String :=
  Python.orElse member.name (Python.orElse member.userPrincipalName (Python.orElse member.email member.id))

/-- The label of a member starts visibly when it has one. -/
theorem BotConversationMember.visibleOrEmpty_label (member : BotConversationMember) :
    Python.VisibleOrEmpty member.label := by
  have hvisible := member.visible
  simp only [List.mem_cons, List.not_mem_nil, or_false, forall_eq_or_imp, forall_eq] at hvisible
  obtain ⟨hname, hprincipal, hemail, hid⟩ := hvisible
  exact hname.orElse (hprincipal.orElse (hemail.orElse hid))

/-- Whether a member is kept: it has an id, a name or an address. -/
def BotConversationMember.isKnown (member : BotConversationMember) : Bool :=
  member.id != "" || member.name != "" || member.email != "" || member.userPrincipalName != ""

/-! ## The summary -/

/-- The labels of members, without those that differ from an earlier one in the case of their letters only. -/
def distinctLabels (P : Platform) (seen : List String) : List BotConversationMember → List String
  | [] => []
  | member :: members =>
    if member.label = "" ∨ P.lower member.label ∈ seen then distinctLabels P seen members
    else member.label :: distinctLabels P (P.lower member.label :: seen) members

/-- `summarize_members`, with its default `visible_count`. -/
def summarizeMembers (P : Platform) (members : List BotConversationMember) : String :=
  let labels := distinctLabels P [] members
  let visible := labels.take 3
  let remaining := labels.length - visible.length
  let summary := ", ".intercalate visible
  Python.clip (if 0 < remaining then summary ++ " + " ++ toString remaining else summary) 500

/-- `serialize_members`. -/
def serializeMembers (members : List BotConversationMember) : String :=
  Json.dumps false false (.arr ((members.take 50).map BotConversationMember.toDict))

/-- The labels that are shown start visibly. -/
theorem startsVisibly_of_mem_distinctLabels {P : Platform} {seen : List String} {members : List BotConversationMember}
    {label : String} (h : label ∈ distinctLabels P seen members) : Python.StartsVisibly label := by
  induction members generalizing seen with
  | nil => nomatch h
  | cons member members ih =>
    unfold distinctLabels at h
    split at h
    · exact ih h
    next hshown =>
      rcases List.mem_cons.1 h with rfl | h
      · exact member.visibleOrEmpty_label.resolve_left fun hempty => hshown (.inl hempty)
      · exact ih h

/-- A summary is empty or starts visibly, with a label. -/
theorem visibleOrEmpty_summarizeMembers (P : Platform) (members : List BotConversationMember) :
    Python.VisibleOrEmpty (summarizeMembers P members) := by
  refine Python.VisibleOrEmpty.clip ?_ (by decide)
  cases hlabels : distinctLabels P [] members with
  | nil => exact .inl rfl
  | cons label labels =>
    have hlabel : Python.StartsVisibly label := startsVisibly_of_mem_distinctLabels (hlabels ▸ List.mem_cons_self)
    have hsummary : Python.StartsVisibly (", ".intercalate (label :: labels.take 2)) := hlabel.intercalate _ _
    refine .inr ?_
    split
    · exact (hsummary.append _).append _
    · exact hsummary

/-! ## What is fetched -/

/-- `BotConversationMembersResult`, with the text `serialize_members` makes of the members: a summary starts with a
label and is cut at 500 characters. -/
structure ConversationMembers where
  memberSummary : String
  memberCount : Nat
  memberListJson : String
  labelled : Python.VisibleOrEmpty memberSummary
  bounded : memberSummary.length ≤ 500

/-- The result for the members that are known. -/
def ConversationMembers.ofMembers (P : Platform) (members : List BotConversationMember) : ConversationMembers :=
  let known := members.filter BotConversationMember.isKnown
  { memberSummary := summarizeMembers P known
    memberCount := known.length
    memberListJson := serializeMembers known
    labelled := visibleOrEmpty_summarizeMembers P known
    bounded := Python.length_clip_le _ _ }

/-- The items of a list that are objects. -/
def objects (items : List Json) : List (List (String × Json)) :=
  items.filterMap fun item => match item with
    | .obj members => some members
    | _ => none

/-- The request of `fetch_bot_conversation_members` and what becomes of its outcome. -/
def botConversationMembers (P : Platform) : UrlOutcome → Except Exn ConversationMembers
  | .response _ read => do
    let content ← read.read
    let text ← decodeUtf8 P content
    match jsonLoads P (Python.orElse text "[]") with
    | .ok (.arr body) => return .ofMembers P ((objects body).map memberFromRaw)
    | .ok _ => throw (.botConversationMembers "Bot Framework member lookup returned an invalid response")
    | .error .jsonDecodeError => throw (.botConversationMembers "Bot Framework member lookup failed")
    | .error e => throw e
  | .httpError code read => do
    let content ← read.read
    throw (.botConversationMembers ("Bot Framework member lookup failed with HTTP " ++ toString code ++ ": " ++
      Python.clip (P.decodeUtf8Replace content) 300))
  | .urlError => .error (.botConversationMembers "Bot Framework member lookup failed")
  | .timeoutError => .error .timeoutError
  | .connectionError => .error .connectionError

/-- `fetch_bot_conversation_members`. -/
def fetchBotConversationMembers (P : Platform) (s : Settings) (now : Int) (serviceUrl conversationId : String)
    (token out : UrlOutcome) (m : BotTokenManager) : Except Exn ConversationMembers :=
  if Python.rstripChar (Python.strip serviceUrl) '/' = "" ∨ Python.strip conversationId = "" then
    .error (.botConversationMembers "Bot service URL and conversation ID are required for member lookup")
  else do
    let _ ← m.getToken P s now token
    botConversationMembers P out

end TeamsRehook
