import TeamsRehook.EventLog

/-!
# Logged paths

A path that ends with a token is sanitized as what stands before the token, followed by the name that a substitution
puts in its place. No substitution knows the paths of reveal links, or any path that has another prefix than `/api/v1`.
-/

namespace TeamsRehook

/-- What `urllib.parse` leaves of a path that stands in a URL: no tab or line break, and nothing from a query or a
fragment on. -/
def visibleChars (cs : List Char) : List Char :=
  (cs.filter fun c => c != '\t' && c != '\n' && c != '\r').takeWhile fun c => c != '?' && c != '#'

/-- `request.url.path` is what is left of the requested path in a URL. -/
def UrlPathLaw (urlPath : String → String) : Prop := ∀ path, (urlPath path).toList = visibleChars path.toList

/-- A substitution matches right behind the path, where it stands after the substitutions that were made in it. -/
def hitsEnd (start : List Char) : Nat → List Char → Bool
  | _, [] => false
  | skip + 1, _ :: cs => hitsEnd start skip cs
  | 0, c :: cs =>
    if start.isPrefixOf (c :: cs) then
      if (c :: cs).drop start.length = [] then true
      else if ((c :: cs).drop start.length).takeWhile (· != '/') ≠ [] then
        hitsEnd start (start.length + (((c :: cs).drop start.length).takeWhile (· != '/')).length - 1) cs
      else hitsEnd start 0 cs
    else hitsEnd start 0 cs

/-- The path before a token after some substitutions, with the name that takes the place of the token, if one does. -/
def hideToken (before : List Char) (name : Option (List Char)) : List (String × String) → List Char × Option (List Char)
  | [] => (before, name)
  | sub :: subs =>
    hideToken (subSegments sub.1.toList sub.2.toList 0 before) (if hitsEnd sub.1.toList 0 before then some sub.2.toList
      else name) subs

/-- The path of an endpoint before the token, as it stands in a URL. -/
def beforeToken (apiV1Prefix : String) (endpoint : TokenEndpoint) : List Char :=
  (apiV1Prefix ++ endpoint.path).toList.filter fun c => c != '\t' && c != '\n' && c != '\r'

/-- The path before the token as it is sanitized, and the name that takes the place of the token, if one does. -/
def sanitizedBefore (apiV1Prefix : String) (endpoint : TokenEndpoint) : List Char × Option (List Char) :=
  hideToken (beforeToken apiV1Prefix endpoint) none pathSubstitutions

/-- Two tokens that are logged alike: nothing is logged of the request; or the token is behind a query, a fragment or
what is kept of a path; or a name takes the place of both or neither of them; or no name does, and as much of them as is
kept is the same. -/
def LoggedAlike (apiV1Prefix : String) (endpoint : TokenEndpoint) (token token' : String) : Prop :=
  let sanitized := sanitizedBefore apiV1Prefix endpoint
  let room := 600 - sanitized.1.length
  (endpoint = .revealWebhookUrl ∧ ¬"/api/v1/".toList <+: beforeToken apiV1Prefix endpoint) ∨
    ('?' ∈ beforeToken apiV1Prefix endpoint ∨ '#' ∈ beforeToken apiV1Prefix endpoint) ∨ room = 0 ∨
    (sanitized.2 ≠ none ∧ (visibleChars token.toList = [] ↔ visibleChars token'.toList = [])) ∨
    (sanitized.2 = none ∧ (visibleChars token.toList).take room = (visibleChars token'.toList).take room)

namespace LoggedPathsAux

variable {start name pre u : List Char}

/-! ## One substitution -/

/-- Nothing is substituted in what is shorter than the start. -/
theorem subSegments_of_short (h : pre.length < start.length) : subSegments start name 0 pre = pre := by
  induction pre with
  | nil => rfl
  | cons c cs ih =>
    have hno : ¬start.isPrefixOf (c :: cs) = true := fun hprefix =>
      absurd (List.isPrefixOf_iff_prefix.1 hprefix).length_le (Nat.not_le.2 h)
    rw [subSegments, if_neg fun hboth => hno hboth.1, ih (Nat.lt_of_succ_lt h)]

/-- Skipping all characters leaves nothing. -/
theorem subSegments_skip {skip : Nat} (h : pre.length ≤ skip) : subSegments start name skip pre = [] := by
  induction pre generalizing skip with
  | nil => cases skip <;> rfl
  | cons c cs ih =>
    cases skip with
    | zero => nomatch h
    | succ skip => exact ih (Nat.le_of_succ_le_succ h)

/-- A start ends with a slash, so it does not reach into a segment. -/
theorem isPrefixOf_append (hstart : start.getLast? = some '/') (hu : '/' ∉ u) :
    start.isPrefixOf (pre ++ u) = start.isPrefixOf pre := by
  rw [Bool.eq_iff_iff, List.isPrefixOf_iff_prefix, List.isPrefixOf_iff_prefix]
  refine ⟨fun ⟨rest, hrest⟩ => ?_, fun h => h.trans (List.prefix_append pre u)⟩
  rcases List.append_eq_append_iff.1 hrest with ⟨middle, hpre, -⟩ | ⟨middle, hmiddle, hsplit⟩
  · exact hpre ▸ List.prefix_append start middle
  · cases middle with
    | nil => rw [hmiddle, List.append_nil]
    | cons d middle =>
      rw [hmiddle, List.getLast?_append_of_ne_nil _ (List.cons_ne_nil _ _)] at hstart
      exact absurd (hsplit ▸ List.mem_append_left _ (List.mem_of_getLast? hstart)) hu

/-- Nothing is substituted in a segment. -/
theorem subSegments_segment (hstart : start.getLast? = some '/') (hu : '/' ∉ u) : subSegments start name 0 u = u := by
  induction u with
  | nil => rfl
  | cons c u ih =>
    have hno : start.isPrefixOf (c :: u) = false := by
      rw [← List.nil_append (c :: u), isPrefixOf_append hstart hu]
      cases start with
      | nil => nomatch hstart
      | cons d start => rfl
    rw [subSegments, if_neg (by simp [hno]), ih (not_or.1 (List.mem_cons.not.1 hu)).2]

/-- A path that ends with a slash, or nothing. -/
def EndsWithSlash (pre : List Char) : Prop := pre = [] ∨ pre.getLast? = some '/'

theorem EndsWithSlash.tail {c : Char} (h : EndsWithSlash (c :: pre)) : EndsWithSlash pre := by
  cases pre with
  | nil => exact .inl rfl
  | cons d pre => exact .inr ((List.getLast?_cons_cons).symm.trans (h.resolve_left (List.cons_ne_nil _ _)))

/-- The first segment of a path that ends with a slash does not depend on what follows the path. -/
theorem takeWhile_append_of_slash {rest : List Char} (hrest : '/' ∈ rest) (u : List Char) :
    (rest ++ u).takeWhile (· != '/') = rest.takeWhile (· != '/') ∧ (rest.takeWhile (· != '/')).length < rest.length := by
  have hlength : (rest.takeWhile (· != '/')).length ≠ rest.length := by
    intro heq
    have hall := (List.takeWhile_prefix (· != '/')).eq_of_length heq
    have := List.takeWhile_eq_self_iff.1 hall '/' hrest
    simp at this
  refine ⟨?_, lt_of_le_of_ne (List.takeWhile_prefix _).length_le hlength⟩
  rw [List.takeWhile_append, if_neg hlength]

/-- The segment behind a path is replaced exactly when the substitution matches right behind the path. -/
theorem subSegments_append (hstart : start.getLast? = some '/') (hu : '/' ∉ u) (hne : u ≠ [])
    (hpre : EndsWithSlash pre) {skip : Nat} (hskip : skip ≤ pre.length) :
    subSegments start name skip (pre ++ u) = subSegments start name skip pre ++ (if hitsEnd start skip pre then
      name else u) := by
  induction pre generalizing skip with
  | nil =>
    obtain rfl := Nat.le_zero.1 hskip
    exact subSegments_segment hstart hu
  | cons c cs ih =>
    cases skip with
    | succ skip => exact ih hpre.tail (Nat.le_of_succ_le_succ hskip)
    | zero =>
      have hsame : start.isPrefixOf (c :: (cs ++ u)) = start.isPrefixOf (c :: cs) :=
        @isPrefixOf_append start (c :: cs) u hstart hu
      have ih₀ := ih hpre.tail (Nat.zero_le _)
      rw [List.cons_append, subSegments, subSegments, hitsEnd, hsame]
      cases hprefix : start.isPrefixOf (c :: cs) with
      | false => simp only [Bool.false_eq_true, false_and, if_false, ih₀, List.cons_append]
      | true =>
        obtain ⟨rest, hrest⟩ := List.isPrefixOf_iff_prefix.1 hprefix
        have hdrop : (c :: cs).drop start.length = rest := by rw [← hrest, List.drop_left]
        have hdrop' : (c :: (cs ++ u)).drop start.length = rest ++ u := by
          rw [← List.cons_append, ← hrest, List.append_assoc, List.drop_left]
        rw [hdrop, hdrop']
        by_cases hend : rest = []
        · -- the start ends with the path: the segment is what follows it
          subst hend
          rw [List.append_nil] at hrest
          have hsegment : u.takeWhile (· != '/') = u := List.takeWhile_eq_self_iff.2 fun d hd => by
            rw [bne_iff_ne]
            rintro rfl
            exact hu hd
          have hcs : start.length = cs.length + 1 := by rw [hrest, List.length_cons]
          have hpos : 0 < u.length := List.length_pos_iff.2 hne
          have hskipped : subSegments start name (start.length + u.length - 1) (cs ++ u) = [] :=
            subSegments_skip (by rw [List.length_append]; omega)
          have hkept : subSegments start name 0 cs = cs := subSegments_of_short (by omega)
          simp only [List.nil_append, hsegment, hne, hskipped, hkept, List.takeWhile_nil, true_and, and_false, ne_eq,
            not_false_iff, not_true_eq_false, if_true, if_false, List.append_nil]
          rw [hrest]
        · have hslash : '/' ∈ rest := by
            have hlast := hpre.resolve_left (List.cons_ne_nil c cs)
            rw [← hrest, List.getLast?_append_of_ne_nil _ hend] at hlast
            exact List.mem_of_getLast? hlast
          obtain ⟨hsegment, hshort⟩ := takeWhile_append_of_slash hslash u
          have hlength : start.length + rest.length = cs.length + 1 :=
            by rw [← List.length_append, hrest, List.length_cons]
          by_cases hempty : rest.takeWhile (· != '/') = []
          · simp only [hsegment, hempty, hend, ih₀, ne_eq, not_true_eq_false, and_false, if_false, if_true,
              List.cons_append]
          · have ih₁ := @ih hpre.tail (start.length + (rest.takeWhile (· != '/')).length - 1) (by omega)
            simp only [hsegment, hempty, hend, ih₁, ne_eq, not_false_iff, and_self, if_false, if_true, List.append_assoc]

/-- A path that ends with a slash still does so after a substitution. -/
theorem getLast?_subSegments (hpre : pre.getLast? = some '/') {skip : Nat} (hskip : skip < pre.length) :
    (subSegments start name skip pre).getLast? = some '/' := by
  induction pre generalizing skip with
  | nil => nomatch hskip
  | cons c cs ih =>
    have htail : ∀ {n}, n < cs.length → cs.getLast? = some '/' ∧ n < cs.length := by
      intro n hn
      cases cs with
      | nil => nomatch hn
      | cons d cs => exact ⟨List.getLast?_cons_cons.symm.trans hpre, hn⟩
    cases skip with
    | succ skip =>
      obtain ⟨hlast, hn⟩ := htail (Nat.lt_of_succ_lt_succ hskip)
      exact ih hlast hn
    | zero =>
      have hkeep : (c :: subSegments start name 0 cs).getLast? = some '/' := by
        cases hcs : cs with
        | nil =>
          rw [hcs] at hpre
          exact hpre
        | cons d rest =>
          obtain ⟨hlast, hn⟩ := @htail 0 (by rw [hcs]; exact Nat.succ_pos _)
          have := ih hlast hn
          rw [← hcs]
          rw [List.getLast?_cons, this]
          rfl
      rw [subSegments]
      split
      next hmatch =>
        obtain ⟨rest, hrest⟩ := List.isPrefixOf_iff_prefix.1 hmatch.1
        have hdrop : (c :: cs).drop start.length = rest := by rw [← hrest, List.drop_left]
        rw [hdrop] at hmatch ⊢
        have hslash : '/' ∈ rest := by
          cases rest with
          | nil => exact absurd rfl hmatch.2
          | cons d rest =>
            rw [← hrest, List.getLast?_append_of_ne_nil _ (List.cons_ne_nil _ _)] at hpre
            exact List.mem_of_getLast? hpre
        have hshort := (takeWhile_append_of_slash hslash []).2
        have hlength : start.length + rest.length = cs.length + 1 := by rw [← List.length_append, hrest, List.length_cons]
        have hpos : 0 < (rest.takeWhile (· != '/')).length := List.length_pos_iff.2 hmatch.2
        obtain ⟨hlast, hn⟩ := @htail (start.length + (rest.takeWhile (· != '/')).length - 1) (by omega)
        have hend := ih hlast hn
        rw [List.getLast?_append, hend]
        rfl
      next => exact hkeep

/-! ## All substitutions -/

/-- The substitution follows a slash and puts a name in the place of a segment. -/
def IsSegmentSubstitution (sub : String × String) : Prop :=
  sub.1.toList.getLast? = some '/' ∧ '/' ∉ sub.2.toList ∧ sub.2.toList ≠ []

/-- A token behind a path is shown as it is, or as the name that takes its place. -/
theorem foldl_subSegments {subs : List (String × String)} (hsubs : ∀ sub ∈ subs, IsSegmentSubstitution sub)
    (hpre : pre.getLast? = some '/') {hidden : Option (List Char)} (hhidden : ∀ n ∈ hidden, '/' ∉ n ∧ n ≠ [])
    (hu : '/' ∉ u) (hne : u ≠ []) :
    subs.foldl (fun value sub => subSegments sub.1.toList sub.2.toList 0 value) (pre ++ hidden.getD u) =
      (hideToken pre hidden subs).1 ++ (hideToken pre hidden subs).2.getD u := by
  have hshown : ∀ {hidden : Option (List Char)}, (∀ n ∈ hidden, '/' ∉ n ∧ n ≠ []) → '/' ∉ hidden.getD u ∧
      hidden.getD u ≠ [] := by
    intro hidden hhidden
    cases hidden with
    | none => exact ⟨hu, hne⟩
    | some n => exact hhidden n rfl
  induction subs generalizing pre hidden with
  | nil => rfl
  | cons sub subs ih =>
    obtain ⟨⟨hstart, hname⟩, hsubs⟩ := List.forall_mem_cons.1 hsubs
    obtain ⟨hslash, hnonempty⟩ := hshown hhidden
    have hlast :=
      @getLast?_subSegments sub.1.toList sub.2.toList pre hpre 0 (List.length_pos_of_mem (List.mem_of_getLast? hpre))
    rw [List.foldl_cons, subSegments_append hstart hslash hnonempty (.inr hpre) (Nat.zero_le _), hideToken]
    split
    next hhit => exact ih hsubs hlast fun n hn => Option.mem_some_iff.1 hn ▸ hname
    next hmiss => exact ih hsubs hlast hhidden

/-- Without a token there is the path only. -/
theorem foldl_subSegments_nil (subs : List (String × String)) (pre : List Char) (hidden : Option (List Char)) :
    subs.foldl (fun value sub => subSegments sub.1.toList sub.2.toList 0 value) pre = (hideToken pre hidden subs).1 := by
  induction subs generalizing pre hidden with
  | nil => rfl
  | cons sub subs ih => exact ih _ _

/-- A path with a token after the substitutions. -/
theorem foldl_subSegments_token {subs : List (String × String)} (hsubs : ∀ sub ∈ subs, IsSegmentSubstitution sub)
    (hpre : pre.getLast? = some '/') (hu : '/' ∉ u) :
    subs.foldl (fun value sub => subSegments sub.1.toList sub.2.toList 0 value) (pre ++ u) =
      (hideToken pre none subs).1 ++ if u = [] then [] else (hideToken pre none subs).2.getD u := by
  split
  next hempty => rw [hempty, List.append_nil, List.append_nil, foldl_subSegments_nil subs pre none]
  next hne => exact @foldl_subSegments pre u subs hsubs hpre none nofun hu hne

/-- A name that takes the place of a token has no slash and is not empty. -/
theorem name_of_hideToken {subs : List (String × String)} (hsubs : ∀ sub ∈ subs, IsSegmentSubstitution sub)
    {hidden : Option (List Char)} (hhidden : ∀ n ∈ hidden, n ≠ []) : ∀ n ∈ (hideToken pre hidden subs).2, n ≠ [] := by
  induction subs generalizing pre hidden with
  | nil => exact hhidden
  | cons sub subs ih =>
    obtain ⟨⟨-, -, hname⟩, hsubs⟩ := List.forall_mem_cons.1 hsubs
    rw [hideToken]
    refine ih hsubs fun n hn => ?_
    split at hn
    · cases hn
      exact hname
    · exact hhidden n hn

theorem isSegmentSubstitution_pathSubstitutions : ∀ sub ∈ pathSubstitutions, IsSegmentSubstitution sub := by
  unfold IsSegmentSubstitution
  decide

/-! ## What is logged of a token -/

variable {urlPath : String → String} {apiV1Prefix token token' : String} {endpoint : TokenEndpoint}

/-- The path of an endpoint ends with a slash. -/
theorem getLast?_beforeToken (apiV1Prefix : String) (endpoint : TokenEndpoint) :
    (beforeToken apiV1Prefix endpoint).getLast? = some '/' := by
  unfold beforeToken
  rw [String.toList_append, List.filter_append]
  cases endpoint with
  | receiveWebhook => rw [List.getLast?_append_of_ne_nil _ (by decide)]; decide
  | revealWebhookUrl => rw [List.getLast?_append_of_ne_nil _ (by decide)]; decide

/-- A token behind a query or a fragment is no part of the path. -/
theorem urlPath_of_query (hurl : UrlPathLaw urlPath) (h : '?' ∈ beforeToken apiV1Prefix endpoint ∨
    '#' ∈ beforeToken apiV1Prefix endpoint) :
    urlPath (apiV1Prefix ++ endpoint.path ++ token) = urlPath (apiV1Prefix ++ endpoint.path ++ token') := by
  have hcut : ∀ token : String, visibleChars (apiV1Prefix ++ endpoint.path ++ token).toList =
      (beforeToken apiV1Prefix endpoint).takeWhile fun c => c != '?' && c != '#' := by
    intro token
    unfold visibleChars
    rw [String.toList_append, List.filter_append, List.takeWhile_append, if_neg]
    · rfl
    · intro hlength
      have hall := List.takeWhile_eq_self_iff.1 ((List.takeWhile_prefix _).eq_of_length hlength)
      rcases h with h | h
      · exact absurd (hall _ h) (by decide)
      · exact absurd (hall _ h) (by decide)
  exact String.toList_inj.1 (by rw [hurl, hurl, hcut, hcut])

/-- The path of a request is the path before the token, and what is visible of the token. -/
theorem toList_urlPath (hurl : UrlPathLaw urlPath)
    (h : ¬('?' ∈ beforeToken apiV1Prefix endpoint ∨ '#' ∈ beforeToken apiV1Prefix endpoint)) :
    (urlPath (apiV1Prefix ++ endpoint.path ++ token)).toList = beforeToken apiV1Prefix endpoint ++
    visibleChars token.toList := by
  obtain ⟨hquery, hfragment⟩ := not_or.1 h
  rw [hurl]
  unfold visibleChars
  rw [String.toList_append, List.filter_append]
  refine List.takeWhile_append_of_pos fun c hc => ?_
  rw [Bool.and_eq_true, bne_iff_ne, bne_iff_ne]
  constructor
  · rintro rfl
    exact hquery hc
  · rintro rfl
    exact hfragment hc

/-- What is sanitized of a path with a token. -/
theorem sanitizePath_urlPath (hurl : UrlPathLaw urlPath)
    (h : ¬('?' ∈ beforeToken apiV1Prefix endpoint ∨ '#' ∈ beforeToken apiV1Prefix endpoint))
    (htoken : '/' ∉ token.toList) :
    sanitizePath (urlPath (apiV1Prefix ++ endpoint.path ++ token)) =
      String.ofList (((sanitizedBefore apiV1Prefix endpoint).1 ++
        if visibleChars token.toList = [] then []
            else (sanitizedBefore apiV1Prefix endpoint).2.getD (visibleChars token.toList)).take 600) := by
  have hvisible : ∀ c ∈ visibleChars token.toList, c ≠ '?' ∧ c ∈ token.toList := by
    intro c hc
    have hmark := List.mem_takeWhile_imp hc
    rw [Bool.and_eq_true, bne_iff_ne] at hmark
    exact ⟨hmark.1, List.mem_of_mem_filter ((List.takeWhile_prefix _).subset hc)⟩
  have hslash : '/' ∉ visibleChars token.toList := fun hc => htoken (hvisible _ hc).2
  have hquery : (beforeToken apiV1Prefix endpoint ++ visibleChars token.toList).takeWhile (· != '?') =
      beforeToken apiV1Prefix endpoint ++ visibleChars token.toList := by
    refine List.takeWhile_eq_self_iff.2 fun c hc => bne_iff_ne.2 ?_
    rcases List.mem_append.1 hc with hc | hc
    · rintro rfl
      exact h (.inl hc)
    · exact (hvisible c hc).1
  unfold sanitizePath Python.clip sanitizedBefore
  rw [toList_urlPath hurl h, hquery]
  dsimp only
  rw [String.toList_ofList, foldl_subSegments_token isSegmentSubstitution_pathSubstitutions
    (getLast?_beforeToken _ _) hslash]

/-- Two tokens are sanitized alike exactly when what is kept of them is the same, or a name takes their places. -/
theorem sanitizePath_eq_iff (hurl : UrlPathLaw urlPath)
    (h : ¬('?' ∈ beforeToken apiV1Prefix endpoint ∨ '#' ∈ beforeToken apiV1Prefix endpoint)) (htoken : '/' ∉ token.toList)
    (htoken' : '/' ∉ token'.toList) :
    sanitizePath (urlPath (apiV1Prefix ++ endpoint.path ++ token)) =
    sanitizePath (urlPath (apiV1Prefix ++ endpoint.path ++ token')) ↔
      600 - (sanitizedBefore apiV1Prefix endpoint).1.length = 0 ∨
      ((sanitizedBefore apiV1Prefix endpoint).2 ≠ none ∧ (visibleChars token.toList = [] ↔
        visibleChars token'.toList = [])) ∨
      ((sanitizedBefore apiV1Prefix endpoint).2 = none ∧
        (visibleChars token.toList).take (600 - (sanitizedBefore apiV1Prefix endpoint).1.length) =
          (visibleChars token'.toList).take (600 - (sanitizedBefore apiV1Prefix endpoint).1.length)) := by
  have hname : ∀ n ∈ (sanitizedBefore apiV1Prefix endpoint).2, n ≠ [] :=
    name_of_hideToken isSegmentSubstitution_pathSubstitutions nofun
  rw [sanitizePath_urlPath hurl h htoken, sanitizePath_urlPath hurl h htoken', String.ofList_inj, List.take_append,
    List.take_append, List.append_cancel_left_eq]
  generalize visibleChars token.toList = u
  generalize visibleChars token'.toList = u'
  generalize 600 - (sanitizedBefore apiV1Prefix endpoint).1.length = room
  cases hhidden : (sanitizedBefore apiV1Prefix endpoint).2 with
  | none =>
    have hshown : ∀ v : List Char, (if v = [] then [] else v) = v := by
      intro v
      split
      next hv => exact hv.symm
      next => rfl
    simp only [Option.getD_none, hshown, ne_eq, not_true_eq_false, false_and, false_or, true_and]
    exact ⟨.inr, fun heq => heq.elim (fun hroom => by rw [hroom, List.take_zero, List.take_zero]) id⟩
  | some n =>
    have hn := hname n hhidden
    simp only [Option.getD_some, ne_eq, reduceCtorEq, not_false_iff, true_and, false_and, or_false]
    by_cases hu : u = [] <;> by_cases hu' : u' = []
    · simp only [hu, hu', if_true, or_true]
    · simp only [hu, hu', if_true, if_false, List.take_nil, true_iff, or_false]
      rw [eq_comm, List.take_eq_nil_iff]
      exact or_iff_left hn
    · simp only [hu, hu', if_true, if_false, List.take_nil, iff_true, or_false]
      rw [List.take_eq_nil_iff]
      exact or_iff_left hn
    · simp only [hu, hu', if_false, or_true]

/-- The paths that are logged are the same when the sanitized ones are, or when none is logged. -/
theorem logged_eq_iff {starts : Prop} [Decidable starts] {path path' : String} :
    ((if starts then [path] else []) ++ match endpoint with
      | .receiveWebhook => [path]
      | .revealWebhookUrl => []) =
    ((if starts then [path'] else []) ++ match endpoint with
      | .receiveWebhook => [path']
      | .revealWebhookUrl => []) ↔ (endpoint = .revealWebhookUrl ∧ ¬starts) ∨ path = path' := by
  cases endpoint <;> by_cases hstarts : starts <;> simp [hstarts]

end LoggedPathsAux

open LoggedPathsAux

/-! ## When tokens are hidden -/

/-- What is logged of a request with a token in its path is the same for two tokens exactly when they are logged alike. -/
theorem logged_paths_eq_iff (urlPath : String → String) (hurl : UrlPathLaw urlPath) (apiV1Prefix : String)
    (endpoint : TokenEndpoint) (token token' : String) (htoken : '/' ∉ token.toList) (htoken' : '/' ∉ token'.toList) :
    loggedPaths urlPath apiV1Prefix endpoint token = loggedPaths urlPath apiV1Prefix endpoint token' ↔
      LoggedAlike apiV1Prefix endpoint token token' := by
  unfold LoggedAlike
  by_cases hcut : '?' ∈ beforeToken apiV1Prefix endpoint ∨ '#' ∈ beforeToken apiV1Prefix endpoint
  · have hsame := @urlPath_of_query urlPath apiV1Prefix token token' endpoint hurl hcut
    unfold loggedPaths
    rw [hsame]
    exact ⟨fun _ => .inr (.inl hcut), fun _ => rfl⟩
  have hstarts : ∀ {token : String}, '/' ∉ token.toList →
    (Python.startsWith (urlPath (apiV1Prefix ++ endpoint.path ++ token)) "/api/v1/" = true ↔
      "/api/v1/".toList <+: beforeToken apiV1Prefix endpoint) := by
    intro token htoken
    have hvisible : '/' ∉ visibleChars token.toList := fun hc =>
      htoken (List.mem_of_mem_filter ((List.takeWhile_prefix _).subset hc))
    rw [Python.startsWith, toList_urlPath hurl hcut, isPrefixOf_append (by decide) hvisible, List.isPrefixOf_iff_prefix]
  have hsanitized := sanitizePath_eq_iff hurl hcut htoken htoken'
  dsimp only
  rw [or_iff_right hcut, ← hsanitized, ← hstarts htoken, ← logged_eq_iff]
  unfold loggedPaths
  have hsame : Python.startsWith (urlPath (apiV1Prefix ++ endpoint.path ++ token')) "/api/v1/" =
      Python.startsWith (urlPath (apiV1Prefix ++ endpoint.path ++ token)) "/api/v1/" :=
    Bool.eq_iff_iff.2 ((hstarts htoken').trans (hstarts htoken).symm)
  dsimp only
  rewrite [hsame]
  exact Iff.rfl

/-! ## Fixed inputs -/

/-- `request.url.path` as it is promised. -/
def visiblePath (path : String) : String := String.ofList (visibleChars path.toList)

theorem urlPathLaw_visiblePath : UrlPathLaw visiblePath := fun _ => String.toList_ofList

/-- The tokens of relay URLs under the default prefix are hidden. -/
theorem relay_tokens_hidden :
    loggedPaths visiblePath "/api/v1" .receiveWebhook "s3cret" =
    loggedPaths visiblePath "/api/v1" .receiveWebhook "an-other" := by
  refine (logged_paths_eq_iff visiblePath urlPathLaw_visiblePath "/api/v1" .receiveWebhook "s3cret" "an-other"
    (by decide) (by decide)).2 ?_
  exact .inr (.inr (.inr (.inl ⟨by decide +kernel, by decide +kernel⟩)))

/-- The tokens of reveal links are logged, and under another prefix those of relay URLs too. -/
theorem reveal_tokens_logged :
    loggedPaths visiblePath "/api/v1" .revealWebhookUrl "s3cret" = ["/api/v1/webhook-url-reveals/s3cret"] ∧
      loggedPaths visiblePath "/api/v1" .revealWebhookUrl "s3cret" ≠
      loggedPaths visiblePath "/api/v1" .revealWebhookUrl "an-other" ∧
      loggedPaths visiblePath "/relay" .receiveWebhook "s3cret" = ["/relay/webhooks/s3cret"] := by
  decide +kernel

end TeamsRehook
