import TeamsRehook.GraphLookups
import TeamsRehook.Lib.PercentEncoding

/-!
# What Graph is asked

The URL of a lookup, as its receiver reads it, names the entity and holds the query that the lookup was called with.
-/

namespace TeamsRehook

/-- What a request asks of Graph: an entity by the segments of its path, and the fields that are to begin with a text. -/
structure GraphQuestion where
  segments : List String
  clauses : List (String × String) := []
  deriving DecidableEq, Repr

/-- The host of Graph. -/
def graphHost : String := "https://graph.microsoft.com"

/-- The name of the parameter with the filter. -/
def filterName : List Char := "$filter".toList

/-- The clauses of the filter among the parameters of a query. -/
def filterClauses (params : List (List Char × List Char)) : Option (List OData.StartsWith) :=
  match params.lookup filterName with
  | some filter => OData.readFilter filter
  | none => some []

/-- The question in a URL of Graph. -/
def GraphQuestion.read (url : String) : Option GraphQuestion := do
  let target ← OData.skip graphHost.toList url.toList
  let (segments, params) ← PercentEncoding.readTarget target
  let clauses ← filterClauses params
  return ⟨segments.map String.ofList, clauses.map fun clause => (String.ofList clause.field, String.ofList clause.value)⟩

/-- A lookup in Graph. -/
inductive GraphLookup where
  | search (kind : SearchKind) (query : String) (limit : Int)
  | channels (teamId query : String) (limit : Int)
  | user (userId : String)
  | team (teamId : String)
  | channel (teamId channelId : String)
  | memberCount (groupId : String)
  deriving DecidableEq, Repr

/-- The URLs that a lookup requests. -/
def GraphLookup.requested (P : Platform) (G : GraphSession) : GraphLookup → List String
  | .search kind query limit => (searchTargets P G kind query limit).1
  | .channels teamId query limit => (listTeamChannels P G teamId query limit).1
  | .user userId => (getUserTarget P G userId).1
  | .team teamId => (getTeamTarget P G teamId).1
  | .channel teamId channelId => (getChannelTarget P G teamId channelId).1
  | .memberCount groupId => (countGroupTransitiveUserMembers P G groupId).1

/-- What a lookup is to ask. -/
def GraphLookup.question : GraphLookup → GraphQuestion
  | .search .user query _ => ⟨["v1.0", "users"], ["displayName", "mail", "userPrincipalName"].map (·, Python.strip query)⟩
  | .search .team query _ => ⟨["v1.0", "teams"], ["displayName"].map (·, Python.strip query)⟩
  | .search .group query _ => ⟨["v1.0", "groups"], ["displayName", "mail", "mailNickname"].map (·, Python.strip query)⟩
  | .channels teamId _ _ => ⟨["v1.0", "teams", Python.strip teamId, "channels"], []⟩
  | .user userId => ⟨["v1.0", "users", Python.strip userId], []⟩
  | .team teamId => ⟨["v1.0", "teams", Python.strip teamId], []⟩
  | .channel teamId channelId => ⟨["v1.0", "teams", Python.strip teamId, "channels", Python.strip channelId], []⟩
  | .memberCount groupId =>
    ⟨["v1.0", "groups", Python.strip groupId, "transitiveMembers", "microsoft.graph.user", "$count"], []⟩

/-- The platform encodes texts for URLs as `urllib.parse` does. -/
structure Platform.Encodes (P : Platform) : Prop where
  quote : ∀ value, P.quote value = String.ofList (PercentEncoding.quote value.toList)
  quotePlus : ∀ value, P.quotePlus value = String.ofList (PercentEncoding.quotePlus value.toList)

namespace GraphRequestsAux

variable {P : Platform}

/-- The URL of an entity, by the segments of its path as they are written. -/
def entityUrl (parts : List (String × String)) : String :=
  graphHost ++ String.join (parts.map fun part => "/" ++ part.1)

/-- The characters of the segments. -/
def chars (parts : List (String × String)) : List (List Char × List Char) :=
  parts.map fun part => (part.1.toList, part.2.toList)

/-- The path of a URL is that of its segments. -/
theorem toList_join (parts : List (String × String)) :
    (String.join (parts.map fun part => "/" ++ part.1)).toList = PercentEncoding.path (chars parts) := by
  rw [String.toList_join, PercentEncoding.path, chars, List.flatMap_map, List.flatMap_map]
  refine List.flatMap_congr fun part _ => ?_
  rw [String.toList_append]
  rfl

/-- The parameters of a URL are encoded one by one. -/
theorem urlencode_toList (hP : P.Encodes) (params : List (String × String)) :
    (urlencode P params).toList = PercentEncoding.urlencode (chars params) := by
  rw [urlencode, String.toList_intercalate, PercentEncoding.urlencode, chars, List.map_map, List.map_map]
  congr 1
  refine List.map_congr_left fun param _ => ?_
  simp [hP.quotePlus]

/-- A quoted value is one segment. -/
theorem isSegment_quote (hP : P.Encodes) (value : String) :
    PercentEncoding.IsSegment (P.quote value).toList value.toList := by
  rw [hP.quote, String.toList_ofList]
  exact PercentEncoding.isSegment_quote value.toList

/-- Every URL begins with the host of Graph. -/
theorem skip_url (rest : String) :
    OData.skip graphHost.toList (graphHost ++ rest).toList = some rest.toList := by
  rw [String.toList_append]
  exact OData.skip_append _ _

variable {parts : List (String × String)}

/-- What is read of the URL of an entity with parameters. -/
theorem read_query (hP : P.Encodes) (hne : parts ≠ []) (h : ∀ part ∈ chars parts, PercentEncoding.IsSegment part.1 part.2)
    (params : List (String × String)) {clauses : List OData.StartsWith}
    (hclauses : filterClauses (chars params) = some clauses) :
    GraphQuestion.read (entityUrl parts ++ "?" ++ urlencode P params) =
      some ⟨parts.map Prod.snd, clauses.map fun clause => (String.ofList clause.field, String.ofList clause.value)⟩ := by
  have hchars : chars parts ≠ [] := by simpa [chars] using hne
  have htarget : (String.join (parts.map fun part => "/" ++ part.1) ++ "?" ++ urlencode P params).toList =
      PercentEncoding.path (chars parts) ++ '?' :: PercentEncoding.urlencode (chars params) := by
    rw [String.toList_append, String.toList_append, toList_join, urlencode_toList hP, List.append_assoc]
    rfl
  have hsegments : ((chars parts).map Prod.snd).map String.ofList = parts.map Prod.snd := by
    simp [chars, Function.comp_def]
  rw [GraphQuestion.read, entityUrl, String.append_assoc, String.append_assoc, skip_url, ← String.append_assoc, htarget]
  simp only [Option.bind_eq_bind, Option.bind_some, PercentEncoding.readTarget_query hchars h, hclauses, hsegments]
  rfl

/-- What is read of the URL of an entity without parameters. -/
theorem read_path (hne : parts ≠ []) (h : ∀ part ∈ chars parts, PercentEncoding.IsSegment part.1 part.2) :
    GraphQuestion.read (entityUrl parts) = some ⟨parts.map Prod.snd, []⟩ := by
  have hchars : chars parts ≠ [] := by simpa [chars] using hne
  have hsegments : ((chars parts).map Prod.snd).map String.ofList = parts.map Prod.snd := by
    simp [chars, Function.comp_def]
  rw [GraphQuestion.read, entityUrl, skip_url, toList_join]
  simp only [Option.bind_eq_bind, Option.bind_some, PercentEncoding.readTarget_path hchars h, hsegments]
  rfl

/-- A filter is read as the fields that are to begin with the query. -/
theorem readFilter_startswith {fields : List String} (hne : fields ≠ []) (h : ∀ field ∈ fields, ',' ∉ field.toList)
    (query : String) :
    OData.readFilter (startswithFilter fields query).toList =
    some (fields.map fun field => ⟨field.toList, query.toList⟩) := by
  have hfilter : (startswithFilter fields query).toList =
      OData.filter (fields.map fun field => ⟨field.toList, query.toList⟩) := by
    have hbetween : " or ".toList = OData.between := rfl
    rw [startswithFilter, String.toList_intercalate, OData.filter, List.map_map, List.map_map, hbetween]
    refine congrArg _ (List.map_congr_left fun field _ => ?_)
    have hcomma : ",'".toList = [',', '\''] := by decide
    have hend : "')".toList = ['\'', ')'] := by decide
    have hopening : "startswith(".toList = OData.opening := rfl
    simp only [Function.comp_apply, String.toList_append, odataString, String.toList_ofList, hcomma, hend, hopening,
      OData.StartsWith.write, OData.literal, List.append_assoc, List.cons_append, List.nil_append]
  rw [hfilter]
  refine OData.readFilter_filter (by simpa using hne) fun clause hclause => ?_
  obtain ⟨field, hfield, rfl⟩ := List.mem_map.1 hclause
  exact h field hfield

/-- The filter of a search is read as its clauses. -/
theorem filterClauses_search {fields : List String} (hne : fields ≠ []) (h : ∀ field ∈ fields, ',' ∉ field.toList)
    (top select query : String) :
    filterClauses (chars [("$top", top), ("$select", select), ("$filter", startswithFilter fields query)]) =
      some (fields.map fun field => ⟨field.toList, query.toList⟩) := by
  have htop : (filterName == "$top".toList) = false := by decide
  have hselect : (filterName == "$select".toList) = false := by decide
  have hfilter : (filterName == "$filter".toList) = true := by decide
  simp only [filterClauses, chars, List.map_cons, List.map_nil, List.lookup_cons, htop, hselect, hfilter]
  exact readFilter_startswith hne h query

/-- A lookup without a filter has no clauses. -/
theorem filterClauses_select (select : String) : filterClauses (chars [("$select", select)]) = some [] := by
  have hselect : (filterName == "$select".toList) = false := by decide
  simp only [filterClauses, chars, List.map_cons, List.map_nil, List.lookup_cons, hselect, List.lookup_nil]

/-! ## The requests -/

/-- A request has one URL. -/
theorem mem_graphGet {G : GraphSession} {path url : String} {params : List (String × String)}
    (h : url ∈ (graphGet P G path params).1) :
    url = "https://graph.microsoft.com/v1.0" ++ path ++ "?" ++ urlencode P params := by
  unfold graphGet at h
  split at h
  · cases h
  · exact List.mem_singleton.1 h

/-- The segments of a path, when each is written as one. -/
theorem forall_chars {part : String × String} (h : PercentEncoding.IsSegment part.1.toList part.2.toList)
    (hparts : ∀ p ∈ chars parts, PercentEncoding.IsSegment p.1 p.2) :
    ∀ p ∈ chars (part :: parts), PercentEncoding.IsSegment p.1 p.2 := by
  rintro p hp
  rw [chars, List.map_cons] at hp
  rcases List.mem_cons.1 hp with rfl | hp
  · exact h
  · exact hparts p hp

theorem forall_chars_nil : ∀ p ∈ chars [], PercentEncoding.IsSegment p.1 p.2 := fun _ hp => nomatch hp

/-- A fixed text is a segment. -/
theorem isSegment_text {text : String} (h : (text.toList.all fun c => c != '%' && c != '/' && c != '?') = true) :
    PercentEncoding.IsSegment text.toList text.toList := PercentEncoding.isSegment_plain h

/-- What is read of the URL of a lookup whose path has these segments. -/
theorem read_get (hP : P.Encodes) {G : GraphSession} {path url : String} {params : List (String × String)}
    {clauses : List OData.StartsWith} (hpath : "https://graph.microsoft.com/v1.0" ++ path = entityUrl parts)
    (hne : parts ≠ []) (hparts : ∀ p ∈ chars parts, PercentEncoding.IsSegment p.1 p.2)
    (hclauses : filterClauses (chars params) = some clauses) (h : url ∈ (graphGet P G path params).1) :
    GraphQuestion.read url =
      some ⟨parts.map Prod.snd, clauses.map fun clause => (String.ofList clause.field, String.ofList clause.value)⟩ := by
  rw [mem_graphGet h, hpath]
  exact read_query hP hne hparts params hclauses

/-- The clauses of a filter are the fields with the query. -/
theorem map_startsWith (fields : List String) (query : String) :
    ((fields.map fun field => ({ field := field.toList, value := query.toList } : OData.StartsWith)).map fun clause =>
      (String.ofList clause.field, String.ofList clause.value)) = fields.map (·, query) := by
  simp [Function.comp_def]

/-- The version of Graph is the first segment of every path. -/
theorem entityUrl_cons (parts : List (String × String)) (path : String)
    (h : path = String.join (parts.map fun part => "/" ++ part.1)) :
    "https://graph.microsoft.com/v1.0" ++ path = entityUrl (("v1.0", "v1.0") :: parts) := by
  rw [h]
  apply String.toList_injective
  simp [entityUrl, graphHost, String.toList_join]

/-- A search asks its question. -/
theorem requested_search (hP : P.Encodes) {G : GraphSession} {kind : SearchKind} {query url : String} {limit : Int}
    (h : url ∈ (searchTargets P G kind query limit).1) :
    GraphQuestion.read url = some (GraphLookup.search kind query limit).question := by
  unfold searchTargets at h
  dsimp only at h
  split at h
  · cases h
  · cases kind with
    | user =>
      have hread := read_get hP (entityUrl_cons [("users", "users")] "/users" (by decide)) (by simp)
        (forall_chars (isSegment_text (by decide)) (forall_chars (isSegment_text (by decide)) forall_chars_nil))
        (filterClauses_search (by simp) (by decide) _ _ _) h
      rw [hread, map_startsWith]
      rfl
    | team =>
      have hread := read_get hP (entityUrl_cons [("teams", "teams")] "/teams" (by decide)) (by simp)
        (forall_chars (isSegment_text (by decide)) (forall_chars (isSegment_text (by decide)) forall_chars_nil))
        (filterClauses_search (by simp) (by decide) _ _ _) h
      rw [hread, map_startsWith]
      rfl
    | group =>
      have hread := read_get hP (entityUrl_cons [("groups", "groups")] "/groups" (by decide)) (by simp)
        (forall_chars (isSegment_text (by decide)) (forall_chars (isSegment_text (by decide)) forall_chars_nil))
        (filterClauses_search (by simp) (by decide) _ _ _) h
      rw [hread, map_startsWith]
      rfl

/-- A listing of channels asks its question. -/
theorem requested_channels (hP : P.Encodes) {G : GraphSession} {teamId query url : String} {limit : Int}
    (h : url ∈ (listTeamChannels P G teamId query limit).1) :
    GraphQuestion.read url = some (GraphLookup.channels teamId query limit).question := by
  unfold listTeamChannels at h
  dsimp only at h
  split at h
  · cases h
  · refine read_get hP (entityUrl_cons
      [("teams", "teams"), (P.quote (Python.strip teamId), Python.strip teamId), ("channels", "channels")] _ ?_) (by simp)
      (forall_chars (isSegment_text (by decide))
        (forall_chars (isSegment_text (by decide)) (forall_chars (isSegment_quote hP _)
        (forall_chars (isSegment_text (by decide)) forall_chars_nil)))) (filterClauses_select _) h
    exact String.toList_injective (by simp)

/-- The lookup of a user asks its question. -/
theorem requested_user (hP : P.Encodes) {G : GraphSession} {userId url : String}
    (h : url ∈ (getUserTarget P G userId).1) : GraphQuestion.read url = some (GraphLookup.user userId).question := by
  unfold getUserTarget at h
  dsimp only at h
  split at h
  · cases h
  · refine read_get hP (entityUrl_cons [("users", "users"), (P.quote (Python.strip userId), Python.strip userId)] _ ?_)
      (by simp)
      (forall_chars (isSegment_text (by decide))
        (forall_chars (isSegment_text (by decide)) (forall_chars (isSegment_quote hP _)
        forall_chars_nil))) (filterClauses_select _) h
    exact String.toList_injective (by simp)

/-- The lookup of a team asks its question. -/
theorem requested_team (hP : P.Encodes) {G : GraphSession} {teamId url : String}
    (h : url ∈ (getTeamTarget P G teamId).1) : GraphQuestion.read url = some (GraphLookup.team teamId).question := by
  unfold getTeamTarget at h
  dsimp only at h
  split at h
  · cases h
  · refine read_get hP (entityUrl_cons [("teams", "teams"), (P.quote (Python.strip teamId), Python.strip teamId)] _ ?_)
      (by simp)
      (forall_chars (isSegment_text (by decide))
        (forall_chars (isSegment_text (by decide)) (forall_chars (isSegment_quote hP _)
        forall_chars_nil))) (filterClauses_select _) h
    exact String.toList_injective (by simp)

/-- The lookup of a channel asks its question. -/
theorem requested_channel (hP : P.Encodes) {G : GraphSession} {teamId channelId url : String}
    (h : url ∈ (getChannelTarget P G teamId channelId).1) :
    GraphQuestion.read url = some (GraphLookup.channel teamId channelId).question := by
  unfold getChannelTarget at h
  dsimp only at h
  split at h
  · cases h
  · refine read_get hP (entityUrl_cons
      [("teams", "teams"), (P.quote (Python.strip teamId), Python.strip teamId), ("channels", "channels"),
        (P.quote (Python.strip channelId), Python.strip channelId)] _ ?_) (by simp)
      (forall_chars (isSegment_text (by decide))
        (forall_chars (isSegment_text (by decide)) (forall_chars (isSegment_quote hP _)
        (forall_chars (isSegment_text (by decide)) (forall_chars (isSegment_quote hP _) forall_chars_nil)))))
      (filterClauses_select _) h
    exact String.toList_injective (by simp)

/-- The count of members asks its question. -/
theorem requested_memberCount (hP : P.Encodes) {G : GraphSession} {groupId url : String}
    (h : url ∈ (countGroupTransitiveUserMembers P G groupId).1) :
    GraphQuestion.read url = some (GraphLookup.memberCount groupId).question := by
  unfold countGroupTransitiveUserMembers at h
  dsimp only at h
  split at h
  · cases h
  · unfold graphGetText at h
    split at h
    · cases h
    · have hnone : urlencode P [] = "" := rfl
      obtain rfl := List.mem_singleton.1 h
      rw [hnone, if_pos rfl, String.append_empty, entityUrl_cons
        [("groups", "groups"), (P.quote (Python.strip groupId), Python.strip groupId),
          ("transitiveMembers", "transitiveMembers"), ("microsoft.graph.user", "microsoft.graph.user"),
            ("$count", "$count")] _
          (String.toList_injective (by simp))]
      exact read_path (by simp) (forall_chars (isSegment_text (by decide)) (forall_chars (isSegment_text (by decide))
        (forall_chars (isSegment_quote hP _) (forall_chars (isSegment_text (by decide))
          (forall_chars (isSegment_text (by decide))
          (forall_chars (isSegment_text (by decide)) forall_chars_nil))))))

end GraphRequestsAux

open GraphRequestsAux in
/-- Every URL that a lookup requests is read by Graph as the question that the lookup was called with: the ids are whole
segments of the path, and the filter of a search compares its fields with the query and nothing else, whatever
characters ids and query have. -/
theorem graph_requests_read_as_asked {P : Platform} (hP : P.Encodes) (G : GraphSession) (lookup : GraphLookup) :
    ∀ url ∈ lookup.requested P G, GraphQuestion.read url = some lookup.question := by
  intro url h
  cases lookup with
  | search kind query limit => exact requested_search hP h
  | channels teamId query limit => exact requested_channels hP h
  | user userId => exact requested_user hP h
  | team teamId => exact requested_team hP h
  | channel teamId channelId => exact requested_channel hP h
  | memberCount groupId => exact requested_memberCount hP h

/-- A platform that encodes texts for URLs. -/
def encodingPlatform : Platform :=
  { Platform.plain with
    quote := fun value => String.ofList (PercentEncoding.quote value.toList)
    quotePlus := fun value => String.ofList (PercentEncoding.quotePlus value.toList) }

/-- A query that tries to end its literal, and to begin another parameter. -/
theorem graph_requests_read_as_asked_quoted :
    ∃ url ∈ (GraphLookup.search .team "x') or startswith(mail,'&$top=9" 10).requested encodingPlatform ⟨.ok (),
      fun _ => .urlError⟩,
      GraphQuestion.read url = some ⟨["v1.0", "teams"], [("displayName", "x') or startswith(mail,'&$top=9")]⟩ :=
  have hmem : _ ∈ (GraphLookup.search .team "x') or startswith(mail,'&$top=9" 10).requested encodingPlatform
      ⟨.ok (), fun _ => .urlError⟩ := List.mem_cons_self
  ⟨_, hmem, graph_requests_read_as_asked ⟨fun _ => rfl, fun _ => rfl⟩ _ _ _ hmem⟩

end TeamsRehook
