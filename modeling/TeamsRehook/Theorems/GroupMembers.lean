import TeamsRehook.GraphTargets

namespace TeamsRehook

/-! ## Group members by pages -/

/-- The next link of a page, empty when it has none. -/
def nextLink (P : Platform) (data : List (String × Json)) : String :=
  strOf P (orElse ((Json.lookup "@odata.nextLink" data).getD .null) (.str ""))

/-- From the request `n` of `url` on Graph answers with pages that each have a list of member objects, and the last of
them links to `next`. -/
inductive Serves (P : Platform) (fetch : Nat → String → UrlOutcome) : Nat → String → List (List Json) → String → Prop
  | nil (n : Nat) (url : String) : Serves P fetch n url [] url
  | cons {n : Nat} {url next : String} {data : List (String × Json)} {items : List Json} {pages : List (List Json)}
      (hurl : url ≠ "")
    (hanswer : graphGetUrl P (fetch n url) = .ok (.obj data)) (hvalue : Json.lookup "value" data = some (.arr items))
    (hobjects : ∀ item ∈ items, item.isObj = true) (hrest : Serves P fetch (n + 1) (nextLink P data) pages next) :
    Serves P fetch n url (items :: pages) next

/-- The members on the pages that have an id and a name and match the query, in order. -/
def groupMembers (P : Platform) (query : String) (pages : List (List Json)) : List GraphGroupMember :=
  (pages.flatten.filterMap fun item => (readGroupMember P item).toOption).filter
    (·.matches P (P.lower (Python.strip query)))

/-- The window of a list of members as the functions answer it. -/
def memberPage (offset limit : Nat) (members : List GraphGroupMember) : GraphGroupMemberPage where
  items := (members.drop offset).take limit
  offset := offset
  limit := limit
  hasMore := decide (offset + limit < members.length)

/-- What a client sees of an answer. -/
def GraphGroupMemberPage.seen (r : Requested GraphGroupMemberPage) : Option (List GraphGroupMember × Bool) :=
  match r.2 with
  | .ok page => some (page.items, page.hasMore)
  | .error _ => none

namespace GroupMembersAux

open Paging

variable {P : Platform} {fetch : Nat → String → UrlOutcome} {offset limit n left : Nat} {url next query needle : String}
  {pages : List (List Json)} {items : List Json} {seen : List GraphGroupMember} {scan : MemberScan}

/-- The members of some items that the loop does not pass over. -/
def found (P : Platform) (needle : String) (items : List Json) : List GraphGroupMember :=
  (items.filterMap fun item => (readGroupMember P item).toOption).filter (·.matches P needle)

/-- The members of two pages are found one after the other. -/
theorem found_append (items items' : List Json) :
    found P needle (items ++ items') = found P needle items ++ found P needle items' := by
  simp [found]

/-- The loop has seen the members `seen` and goes on. -/
abbrev Holds (offset limit : Nat) (seen : List GraphGroupMember) (scan : MemberScan) : Prop :=
  Scanned offset limit seen scan.members scan.matchedCount

/-- How a part of the loop ends when all members up to its end are `seen`: it goes on, or it returns the page, whatever
follows. -/
def Ends (offset limit : Nat) (seen : List GraphGroupMember) : GraphGroupMemberPage ⊕ MemberScan → Prop
  | .inr scan => Holds offset limit seen scan
  | .inl page => offset + limit < seen.length ∧ ∀ rest, page = memberPage offset limit (seen ++ rest)

/-- Every object is read as a member. -/
theorem readGroupMember_obj (data : List (String × Json)) : ∃ member, readGroupMember P (.obj data) = .ok member :=
  ⟨_, rfl⟩

/-- A page is a window of the members. -/
theorem memberPage_eq (members : List GraphGroupMember) : memberPage offset limit members =
    { items := (window offset limit members).1, offset := offset, limit := limit,
      hasMore := (window offset limit members).2 } := rfl

/-- One round of the loop over the items of a page. -/
theorem scanMembers_cons {limit offset : Int} {item : Json} {member : GraphGroupMember}
    (hread : readGroupMember P item = .ok member) :
    scanMembers P needle limit offset (item :: items) scan =
      if !member.matches P needle then scanMembers P needle limit offset items scan
      else if (scan.matchedCount : Int) < offset then
        scanMembers P needle limit offset items { scan with matchedCount := scan.matchedCount + 1 }
      else if ((scan.members ++ [member]).length : Int) > limit then
        .ok (.inl
          { items := (scan.members ++ [member]).take limit.toNat, offset := offset, limit := limit, hasMore := true })
      else
        scanMembers P needle limit offset items
        { members := scan.members ++ [member], matchedCount := scan.matchedCount + 1 } := by
  rw [scanMembers, hread]
  rfl

/-- The loop over the items of a page, by induction on them: what has been seen grows by each member that is not passed
over. -/
theorem ends_scanMembers (hobjects : ∀ item ∈ items, item.isObj = true) (hscan : Holds offset limit seen scan) :
    ∃ r, scanMembers P needle limit offset items scan = .ok r ∧ Ends offset limit (seen ++ found P needle items) r := by
  induction items generalizing seen scan with
  | nil => exact ⟨.inr scan, rfl, by simpa [Ends, found] using hscan⟩
  | cons item items ih =>
    have hrest := fun item hitem => hobjects item (List.mem_cons_of_mem _ hitem)
    have hitem := hobjects item List.mem_cons_self
    cases item with
    | obj data =>
      obtain ⟨member, hread⟩ := readGroupMember_obj (P := P) data
      have hfound : found P needle (.obj data :: items) =
          (if member.matches P needle = true then [member] else []) ++ found P needle items := by
        rw [← List.singleton_append, found_append]
        simp [found, hread, Except.toOption, List.filter_cons]
      rw [scanMembers_cons hread, hfound]
      by_cases hmatches : member.matches P needle = true
      · rw [if_pos hmatches, if_neg (by simp [hmatches]), ← List.append_assoc]
        by_cases hskip : (scan.matchedCount : Int) < offset
        · rw [if_pos hskip]
          exact ih hrest (hscan.skip (by omega))
        · rw [if_neg hskip]
          by_cases hpassed : (((scan.members ++ [member]).length : Nat) : Int) > limit
          · rw [if_pos hpassed]
            have hwindow := hscan.window_of_passed (x := member) (by omega) (by omega)
            have hmore : offset + limit < (seen ++ [member]).length := by
              have h := (Prod.mk.inj (hwindow [])).2
              simpa using h
            refine ⟨_, rfl, ?_, fun rest => ?_⟩
            · rw [List.length_append]
              omega
            · rw [memberPage_eq, List.append_assoc, hwindow]
              simp
          · rw [if_neg hpassed]
            exact ih hrest (hscan.keep (by omega) (by omega))
      · rw [if_neg hmatches, if_pos (by simpa using hmatches)]
        exact ih hrest hscan
    | null => nomatch hitem
    | bool b => nomatch hitem
    | int n => nomatch hitem
    | float r => nomatch hitem
    | str s => nomatch hitem
    | arr l => nomatch hitem

/-- A page that was gone through, from what the loop over its items gives. -/
theorem visitGraphPage_served {out : UrlOutcome} {data : List (String × Json)} {r : GraphGroupMemberPage ⊕ MemberScan}
    (hanswer : graphGetUrl P out = .ok (.obj data)) (hvalue : Json.lookup "value" data = some (.arr items))
    (hscan : scanMembers P needle limit offset items scan = .ok r) :
    visitGraphPage P out (scanGroupPage P needle limit offset) scan =
    .ok (r.map id fun scan => (scan, nextLink P data)) := by
  have hbody : scanGroupPage P needle limit offset (.obj data) scan = .ok r := by
    simp only [scanGroupPage, hvalue, Option.getD_some, iterate]
    exact hscan
  unfold visitGraphPage
  rw [hanswer]
  change (scanGroupPage P needle limit offset (.obj data) scan >>= _) = _
  rw [hbody]
  cases r <;> rfl

/-- A scan that has ended does not depend on what follows. -/
theorem Ends.append (rest : List GraphGroupMember) {page : GraphGroupMemberPage}
    (h : Ends offset limit seen (.inl page)) : Ends offset limit (seen ++ rest) (.inl page) := by
  refine ⟨?_, fun more => ?_⟩
  · have hmore := h.1
    rw [List.length_append]
    omega
  · rw [List.append_assoc]
    exact h.2 _

/-- Without a next link there is no further page. -/
theorem forGraphPages_empty {σ ρ : Type} {body : Json → σ → Except Exn (ρ ⊕ σ)} {x : σ} :
    forGraphPages P fetch body left n "" x = ([], .ok (.inr x)) := by
  cases left <;> rw [forGraphPages, if_pos rfl]

/-- A page that ends the scan gives its result. -/
theorem forGraphPages_of_inl {σ ρ : Type} {body : Json → σ → Except Exn (ρ ⊕ σ)} {x : σ} {result : ρ} (hurl : url ≠ "")
    (hvisit : visitGraphPage P (fetch n url) body x = .ok (.inl result)) :
    (forGraphPages P fetch body (left + 1) n url x).2 = .ok (.inl result) := by
  rw [forGraphPages, if_neg hurl, hvisit]

/-- A page that does not end the scan is followed by the next one. -/
theorem forGraphPages_of_inr {σ ρ : Type} {body : Json → σ → Except Exn (ρ ⊕ σ)} {x y : σ} (hurl : url ≠ "")
    (hvisit : visitGraphPage P (fetch n url) body x = .ok (.inr (y, next))) :
    (forGraphPages P fetch body (left + 1) n url x).2 = (forGraphPages P fetch body left (n + 1) next y).2 := by
  rw [forGraphPages, if_neg hurl, hvisit]

/-- The loop over the pages that Graph serves, by induction on them: it returns a page, or it goes on behind them having
seen all of their members. -/
theorem ends_forGraphPages (needle : String) (hserves : Serves P fetch n url pages next) (hleft : pages.length ≤ left)
    (hscan : Holds offset limit seen scan) :
    (∃ page, (forGraphPages P fetch (scanGroupPage P needle limit offset) left n url scan).2 = .ok (.inl page) ∧
      Ends offset limit (seen ++ found P needle pages.flatten) (.inl page)) ∨
    ∃ scan', Holds offset limit (seen ++ found P needle pages.flatten) scan' ∧
      (forGraphPages P fetch (scanGroupPage P needle limit offset) left n url scan).2 =
        (forGraphPages P fetch (scanGroupPage P needle limit offset) (left - pages.length) (n + pages.length)
          next scan').2 := by
  induction hserves generalizing left seen scan with
  | nil n url => exact .inr ⟨scan, by simpa [found] using hscan, rfl⟩
  | @cons n url next data items pages hurl hanswer hvalue hobjects hrest ih =>
    obtain ⟨left, rfl⟩ : ∃ k, left = k + 1 := ⟨left - 1, by rw [List.length_cons] at hleft; omega⟩
    obtain ⟨r, hitems, hends⟩ := ends_scanMembers hobjects hscan
    have hvisit := visitGraphPage_served hanswer hvalue hitems
    rw [List.flatten_cons, found_append, ← List.append_assoc]
    cases r with
    | inl page => exact .inl ⟨page, forGraphPages_of_inl hurl hvisit, hends.append _⟩
    | inr scan' =>
      have hlength : left + 1 - (items :: pages).length = left - pages.length := by rw [List.length_cons]; omega
      have hnumber : n + (items :: pages).length = n + 1 + pages.length := by rw [List.length_cons]; omega
      rw [hlength, hnumber, forGraphPages_of_inr hurl hvisit]
      exact ih (by rw [List.length_cons] at hleft; omega) hends

/-- The loop requests no more pages than it may. -/
theorem length_forGraphPages_le {σ ρ : Type} {body : Json → σ → Except Exn (ρ ⊕ σ)} {x : σ} :
    (forGraphPages P fetch body left n url x).1.length ≤ left := by
  induction left generalizing n url x with
  | zero =>
    rw [forGraphPages]
    split <;> simp
  | succ left ih =>
    rw [forGraphPages]
    split
    · simp
    · cases visitGraphPage P (fetch n url) body x with
      | error e => simp
      | ok r =>
        cases r with
        | inl result => simp
        | inr y => simpa using ih

/-- The pages that `list_group_transitive_members` goes through. -/
abbrev scanPages (P : Platform) (fetch : Nat → String → UrlOutcome) (groupId query : String) (limit offset : Nat) :
    Except Exn (GraphGroupMemberPage ⊕ MemberScan) :=
  (forGraphPages P fetch (scanGroupPage P (P.lower (Python.strip query)) limit offset) maxGraphPaginationPages 0
    (groupMembersUrl P (Python.strip groupId)) {}).2

/-- What the function does for an offset and a limit in their bounds. -/
theorem listGroupTransitiveMembers_eq {groupId : String} (hgroup : Python.strip groupId ≠ "") (hlimit : 1 ≤ limit)
    (hmax : limit ≤ 200) :
    (listGroupTransitiveMembers P (.ok ()) fetch groupId query limit offset).2 =
      (scanPages P fetch groupId query limit offset).map fun
        | .inl page => page
        | .inr scan => { items := scan.members, offset := offset, limit := limit, hasMore := false } := by
  have hlimit' : max 1 (min (limit : Int) 200) = limit := by omega
  have hoffset' : max (offset : Int) 0 = offset := by omega
  unfold listGroupTransitiveMembers
  rewrite [if_neg hgroup, hlimit', hoffset']
  rfl

variable {groupId : String} (hgroup : Python.strip groupId ≠ "") (hlimit : 1 ≤ limit) (hmax : limit ≤ 200)
  (hserves : Serves P fetch 0 (groupMembersUrl P (Python.strip groupId)) pages next) (hlength : pages.length ≤
    maxGraphPaginationPages)

include hserves hlength in
/-- The scan of all pages returns the window early, or goes on behind the last page. -/
theorem scanPages_served :
    (offset + limit < (groupMembers P query pages).length ∧
      scanPages P fetch groupId query limit offset = .ok (.inl (memberPage offset limit (groupMembers P query pages)))) ∨
    ∃ scan, Holds offset limit (groupMembers P query pages) scan ∧ scanPages P fetch groupId query limit offset =
      (forGraphPages P fetch (scanGroupPage P (P.lower (Python.strip query)) limit offset)
        (maxGraphPaginationPages - pages.length)
        (0 + pages.length) next scan).2 := by
  have hfound : found P (P.lower (Python.strip query)) pages.flatten = groupMembers P query pages := rfl
  have hstart : Holds offset limit [] {} := Scanned.nil
  rcases ends_forGraphPages (P.lower (Python.strip query)) hserves hlength hstart with
    ⟨page, heq, hmore, hpage⟩ | ⟨scan, hholds, heq⟩
  · rw [List.nil_append, hfound] at hmore hpage
    refine .inl ⟨hmore, heq.trans ?_⟩
    rw [hpage [], List.append_nil]
  · rw [List.nil_append, hfound] at hholds
    exact .inr ⟨scan, hholds, heq⟩

/-- The page of a scan that has come to the end. -/
theorem memberPage_of_holds (h : Holds offset limit seen scan) :
    memberPage offset limit seen = { items := scan.members, offset := offset, limit := limit, hasMore := false } := by
  rw [memberPage_eq, h.window_eq]

include hgroup hlimit hmax hserves hlength in
/-- A window that the pages decide is answered, whatever is announced behind them. -/
theorem listGroupTransitiveMembers_decided (hmore : offset + limit < (groupMembers P query pages).length) :
    (listGroupTransitiveMembers P (.ok ()) fetch groupId query limit offset).2 =
      .ok (memberPage offset limit (groupMembers P query pages)) := by
  rw [listGroupTransitiveMembers_eq hgroup hlimit hmax]
  rcases scanPages_served hserves hlength with ⟨-, heq⟩ | ⟨scan, hholds, -⟩
  · rw [heq]
    rfl
  · have hle := hholds.length_le
    omega

include hgroup hlimit hmax hserves hlength in
/-- When no page is announced behind them, the answer is the window of their members. -/
theorem listGroupTransitiveMembers_ended (hnext : next = "") :
    (listGroupTransitiveMembers P (.ok ()) fetch groupId query limit offset).2 =
      .ok (memberPage offset limit (groupMembers P query pages)) := by
  rw [listGroupTransitiveMembers_eq hgroup hlimit hmax]
  rcases scanPages_served hserves hlength with ⟨-, heq⟩ | ⟨scan, hholds, heq⟩
  · rw [heq]
    rfl
  · rw [heq, hnext, forGraphPages_empty, memberPage_of_holds hholds]
    rfl

include hgroup hlimit hmax hserves in
/-- When the pages are as many as may be read and decide no window, another one that is announced ends the request. -/
theorem listGroupTransitiveMembers_exceeded (hnext : next ≠ "") (hlast : pages.length = maxGraphPaginationPages)
    (hmore : ¬offset + limit < (groupMembers P query pages).length) :
    (listGroupTransitiveMembers P (.ok ()) fetch groupId query limit offset).2 =
      .error (.graphLookup "Microsoft Graph pagination exceeded the safety limit") := by
  rw [listGroupTransitiveMembers_eq hgroup hlimit hmax]
  rcases scanPages_served hserves hlast.le with ⟨hdecided, -⟩ | ⟨scan, -, heq⟩
  · exact absurd hdecided hmore
  · rw [heq, hlast, Nat.sub_self, forGraphPages, if_neg hnext]
    rfl

end GroupMembersAux

open GroupMembersAux in
/-- `list_group_transitive_members`, for every group id that is not blank and every limit that the endpoint accepts:
over at most 25 pages it answers the window of the matching members, so that a walk of the endpoint reads each of them
once and in order. It never requests more than 25 pages, and when another one is announced it answers the window that
these decide, or with an error when they decide none. -/
theorem group_members_paged (P : Platform) (s : Settings) (groupId query : String) (limit : Nat)
    (hgroup : Python.strip groupId ≠ "") (hlimit : 1 ≤ limit) (hmax : limit ≤ 200) :
    (∀ fetch pages, Serves P fetch 0 (groupMembersUrl P (Python.strip groupId)) pages "" → pages.length ≤ 25 →
      ∀ offset : Nat, (listGroupTransitiveMembers P (.ok ()) fetch groupId query limit offset).2 =
        .ok (memberPage offset limit (groupMembers P query pages))) ∧
    (∀ (fetch : Nat → Nat → String → UrlOutcome) pages, s.graphLookupEnabled = true →
      (∀ offset, Serves P (fetch offset) 0 (groupMembersUrl P (Python.strip groupId)) pages "") → pages.length ≤ 25 →
      ∀ items, Paging.Walk (fun offset =>
          GraphGroupMemberPage.seen (listGroupMembers P s .available (fetch offset) groupId query offset limit)) limit 0
            items ↔ items = groupMembers P query pages) ∧
    (∀ token fetch (limit offset : Int), (listGroupTransitiveMembers P token fetch groupId query limit
      offset).1.length ≤ 25) ∧
    (∀ fetch pages next, Serves P fetch 0 (groupMembersUrl P (Python.strip groupId)) pages next → next ≠ "" →
      pages.length = 25 → ∀ offset : Nat, (listGroupTransitiveMembers P (.ok ()) fetch groupId query limit offset).2 =
        if offset + limit < (groupMembers P query pages).length then
          .ok (memberPage offset limit (groupMembers P query pages))
        else .error (.graphLookup "Microsoft Graph pagination exceeded the safety limit")) := by
  have hexact : ∀ fetch pages, Serves P fetch 0 (groupMembersUrl P (Python.strip groupId)) pages "" → pages.length ≤ 25 →
      ∀ offset : Nat, (listGroupTransitiveMembers P (.ok ()) fetch groupId query limit offset).2 =
        .ok (memberPage offset limit (groupMembers P query pages)) := by
    intro fetch pages hserves hlength offset
    exact listGroupTransitiveMembers_ended hgroup hlimit hmax hserves hlength rfl
  refine ⟨hexact, ?_, ?_, ?_⟩
  · intro fetch pages hlookup hserves hlength items
    have hrequest : ∀ offset, GraphGroupMemberPage.seen
      (listGroupMembers P s .available (fetch offset) groupId query offset limit) =
        some (Paging.window offset limit (groupMembers P query pages)) := by
      intro offset
      have h := hexact (fetch offset) pages (hserves offset) hlength offset
      simp only [listGroupMembers, hlookup, Bool.not_true, Bool.false_eq_true, if_false, GraphTokenOutcome.outcome,
        runGraphSearch, GraphGroupMemberPage.seen, h]
      rfl
    have hwalk := Paging.walk_windows hlimit hrequest 0
    rw [List.drop_zero] at hwalk
    exact ⟨fun h => h.unique hwalk, fun h => h ▸ hwalk⟩
  · intro token fetch limit offset
    unfold listGroupTransitiveMembers
    simp only [hgroup, if_false]
    cases token with
    | error e => simp
    | ok _ => exact length_forGraphPages_le
  · intro fetch pages next hserves hnext hlength offset
    by_cases hmore : offset + limit < (groupMembers P query pages).length
    · rw [if_pos hmore]
      exact listGroupTransitiveMembers_decided hgroup hlimit hmax hserves (by rw [hlength]; decide) hmore
    · rw [if_neg hmore]
      exact listGroupTransitiveMembers_exceeded hgroup hlimit hmax hserves hnext hlength hmore

/-! ## Fixed inputs -/

/-- The member of a page. -/
def memberItem (id displayName : String) : Json := .obj [("id", .str id), ("displayName", .str displayName)]

/-- A page with Ada that links to another one. -/
def adaPage : List (String × Json) := [("value", .arr [memberItem "1" "Ada"]), ("@odata.nextLink", .str "next")]

/-- A page with Grace that links to no other one. -/
def gracePage : List (String × Json) := [("value", .arr [memberItem "2" "Grace"])]

/-- A platform that reads the first page of an answer with a body and the second one of an empty answer. -/
def pagingPlatform : Platform :=
  { Platform.plain with jsonLoads := fun text => .ok (.obj (if text = "" then gracePage else adaPage)) }

/-- Graph has two pages. -/
def twoPages (_ : Nat) (url : String) : UrlOutcome := .response 200 (.body (if url = "next" then [] else [97]))

/-- Graph has a page that links to itself. -/
def samePage (_ : Nat) (_ : String) : UrlOutcome := .response 200 (.body [97])

/-- The first page is read. -/
theorem answers_ada : graphGetUrl pagingPlatform (.response 200 (.body [97])) = .ok (.obj adaPage) := rfl

/-- The second page is read. -/
theorem answers_grace : graphGetUrl pagingPlatform (.response 200 (.body [])) = .ok (.obj gracePage) := rfl

/-- The chain has two pages. -/
theorem serves_twoPages :
    Serves pagingPlatform twoPages 0 (groupMembersUrl pagingPlatform "group") [[memberItem "1" "Ada"],
      [memberItem "2" "Grace"]] "" :=
  .cons (by decide +kernel) answers_ada rfl (by simp [memberItem, Json.isObj])
    (.cons (by decide) answers_grace rfl (by simp [memberItem, Json.isObj]) (.nil 2 ""))

/-- The chain has the same page as often as one likes. -/
theorem serves_samePage (k n : Nat) : Serves pagingPlatform samePage n "next"
    (List.replicate k [memberItem "1" "Ada"]) "next" := by
  induction k generalizing n with
  | zero => exact .nil n "next"
  | succ k ih => exact .cons (by decide) answers_ada rfl (by simp [memberItem, Json.isObj]) (ih (n + 1))

/-- The first page of one member tells that there are more. -/
theorem group_members_paged_adaGrace :
    (listGroupTransitiveMembers pagingPlatform (.ok ()) twoPages "group" "" 1 0).2 =
        .ok { items := [{ id := "1", displayName := "Ada" }], offset := 0, limit := 1, hasMore := true } ∧
      Paging.Walk (fun offset =>
          GraphGroupMemberPage.seen (listGroupMembers pagingPlatform {} .available twoPages "group" "" (offset : Int) 1))
        1 0 [{ id := "1", displayName := "Ada" }, { id := "2", displayName := "Grace" }] ∧
      (listGroupTransitiveMembers pagingPlatform (.ok ()) samePage "group" "" 200 0).1.length ≤ 25 ∧
      (listGroupTransitiveMembers pagingPlatform (.ok ()) samePage "group" "" 200 0).2 =
        .error (.graphLookup "Microsoft Graph pagination exceeded the safety limit") := by
  have hmembers : groupMembers pagingPlatform "" [[memberItem "1" "Ada"], [memberItem "2" "Grace"]] =
      [{ id := "1", displayName := "Ada" }, { id := "2", displayName := "Grace" }] := by decide +kernel
  have hcyclic : (groupMembers pagingPlatform "" (List.replicate 25 [memberItem "1" "Ada"])).length = 25 :=
    by decide +kernel
  have hserves : Serves pagingPlatform samePage 0 (groupMembersUrl pagingPlatform "group")
    (List.replicate 25 [memberItem "1" "Ada"])
      "next" := .cons (by decide +kernel) answers_ada rfl (by simp [memberItem, Json.isObj]) (serves_samePage 24 1)
  obtain ⟨hpage, hwalk, -, -⟩ :=
    group_members_paged pagingPlatform {} "group" "" 1 (by decide +kernel) (by decide) (by decide)
  obtain ⟨-, -, hbound, hexceeded⟩ :=
    group_members_paged pagingPlatform {} "group" "" 200 (by decide +kernel) (by decide) (by decide)
  refine ⟨?_, ?_, hbound (.ok ()) samePage 200 0, ?_⟩
  · have h := hpage twoPages _ serves_twoPages (by decide) 0
    rw [hmembers] at h
    exact h
  · have h := (hwalk (fun _ => twoPages) _ rfl (fun _ => serves_twoPages) (by decide) _).2 rfl
    rw [hmembers] at h
    exact h
  · have h := hexceeded samePage _ "next" hserves (by decide) (by decide) 0
    rw [hcyclic] at h
    exact h

end TeamsRehook
