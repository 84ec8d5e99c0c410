import TeamsRehook.Delivery.ServiceUserChats
import TeamsRehook.Lib.PercentEncoding

/-!
# Listing the chats of the service user

The options of the listing are dropped one by one as Graph refuses them, and what is shown are the first chats of the
answer that match.
-/

namespace TeamsRehook

/-- The options of a listing: the chats are ordered, and their members are expanded. -/
structure ChatOptions where
  ordering : Bool
  members : Bool
  deriving DecidableEq, Repr

/-- The URL of the listing with these options. -/
def ChatOptions.url (P : Platform) (limit : Int) (o : ChatOptions) : String := chatListUrl P limit o.ordering o.members

/-- An answer refuses the order of the chats. -/
def RefusesOrdering (P : Platform) (out : UrlOutcome) : Prop :=
  ∃ message, lookupGet P out = .error (.graphDelegatedLookup message) ∧ isOrderbyRejection P out.statusCode message = true

/-- An answer refuses to expand the members. -/
def RefusesMembers (P : Platform) (out : UrlOutcome) : Prop :=
  ∃ message, lookupGet P out = .error (.graphDelegatedLookup message) ∧
    isMemberExpandRejection P out.statusCode message = true

/-- After an answer, the listing is asked for again without an option that the answer refuses. -/
inductive Drops (P : Platform) (out : UrlOutcome) : ChatOptions → ChatOptions → Prop
  | ordering {members : Bool} (h : RefusesOrdering P out) : Drops P out ⟨true, members⟩ ⟨false, members⟩
  | members {ordering : Bool} (hordering : ordering = true → ¬RefusesOrdering P out) (h : RefusesMembers P out) :
      Drops P out ⟨ordering, true⟩ ⟨ordering, false⟩

/-- The options a listing asks with, from the request `n` on, and how it ends. -/
inductive Asks (P : Platform) (fetch : Nat → String → UrlOutcome) (limit : Int) :
    Nat → ChatOptions → List ChatOptions → Except Exn (List (String × Json)) → Prop
  | last {n : Nat} {o : ChatOptions} (h : ∀ o', ¬Drops P (fetch n (o.url P limit)) o o') :
      Asks P fetch limit n o [o] (lookupGet P (fetch n (o.url P limit)))
  | again {n : Nat} {o o' : ChatOptions} {asked : List ChatOptions} {r : Except Exn (List (String × Json))}
      (h : Drops P (fetch n (o.url P limit)) o o') (hrest : Asks P fetch limit (n + 1) o' asked r) :
      Asks P fetch limit n o (o :: asked) r

/-- What Graph supports of the options of a listing, and what it answers with those. -/
structure ChatService where
  ordering : Bool
  members : Bool
  answer : ChatOptions → List (String × Json)

/-- The options that are supported. -/
def ChatService.options (service : ChatService) : ChatOptions := ⟨service.ordering, service.members⟩

/-- The options are supported. -/
def ChatService.Supports (service : ChatService) (o : ChatOptions) : Prop :=
  (o.ordering = true → service.ordering = true) ∧ (o.members = true → service.members = true)

/-- Graph answers a listing whose options it supports, refuses another one for an option that is asked for, and no
listing for an option that it supports. -/
structure ChatService.Serves (service : ChatService) (P : Platform) (limit : Int) (fetch : Nat → String → UrlOutcome) :
    Prop where
  served : ∀ (n : Nat) (o : ChatOptions), service.Supports o → lookupGet P (fetch n (o.url P limit)) =
    .ok (service.answer o)
  refused : ∀ (n : Nat) (o : ChatOptions), ¬service.Supports o →
    o.ordering = true ∧ RefusesOrdering P (fetch n (o.url P limit)) ∨ o.members = true ∧
    RefusesMembers P (fetch n (o.url P limit))
  ordering : ∀ (n : Nat) (o : ChatOptions), RefusesOrdering P (fetch n (o.url P limit)) → service.ordering = false
  members : ∀ (n : Nat) (o : ChatOptions), RefusesMembers P (fetch n (o.url P limit)) → service.members = false

namespace ServiceUserChatsAux

variable {P : Platform} {fetch : Nat → String → UrlOutcome} {limit : Int}

/-! ## The requests -/

/-- The options that are still asked for. -/
def ChatOptions.size (o : ChatOptions) : Nat := o.ordering.toNat + o.members.toNat

/-- A dropped option is one less. -/
theorem size_drops {out : UrlOutcome} {o o' : ChatOptions} (h : Drops P out o o') :
    ChatOptions.size o = ChatOptions.size o' + 1 := by
  cases h with
  | ordering h => simp [ChatOptions.size]; omega
  | members hordering h => simp [ChatOptions.size]

/-- An answer drops no option. -/
theorem not_drops_of_ok {out : UrlOutcome} {data : List (String × Json)} (h : lookupGet P out = .ok data)
    (o o' : ChatOptions) : ¬Drops P out o o' := by
  rintro (⟨message, herror, -⟩ | ⟨-, message, herror, -⟩)
  · rw [h] at herror
    cases herror
  · rw [h] at herror
    cases herror

/-- What the code takes for a rejection of the order is a refusal to order. -/
theorem refusesOrdering_iff {out : UrlOutcome} {message : String}
    (h : lookupGet P out = .error (.graphDelegatedLookup message)) :
    RefusesOrdering P out ↔ isOrderbyRejection P out.statusCode message = true := by
  refine ⟨fun ⟨message', h', hrejected⟩ => ?_, fun hrejected => ⟨message, h, hrejected⟩⟩
  rw [h] at h'
  cases h'
  exact hrejected

/-- What the code takes for a rejection of the members is a refusal to expand them. -/
theorem refusesMembers_iff {out : UrlOutcome} {message : String}
    (h : lookupGet P out = .error (.graphDelegatedLookup message)) :
    RefusesMembers P out ↔ isMemberExpandRejection P out.statusCode message = true := by
  refine ⟨fun ⟨message', h', hrejected⟩ => ?_, fun hrejected => ⟨message, h, hrejected⟩⟩
  rw [h] at h'
  cases h'
  exact hrejected

/-- A round of the loop whose options are new. -/
theorem listChatsFrom_round (n : Nat) (o : ChatOptions) {attempted : List (Bool × Bool)} (lastError : Option Exn)
    (hnew : (o.ordering, o.members) ∉ attempted) :
    (∃ o' e, Drops P (fetch n (o.url P limit)) o o' ∧
        listChatsFrom P fetch limit n o.ordering o.members attempted lastError =
          let rest :=
            listChatsFrom P fetch limit (n + 1) o'.ordering o'.members ((o.ordering, o.members) :: attempted) (some e)
          (o.url P limit :: rest.1, rest.2)) ∨
      (∀ o', ¬Drops P (fetch n (o.url P limit)) o o') ∧
        listChatsFrom P fetch limit n o.ordering o.members attempted lastError =
          ([o.url P limit], lookupGet P (fetch n (o.url P limit))) := by
  obtain ⟨ordering, members⟩ := o
  rw [listChatsFrom.eq_def, if_neg hnew]
  simp only [ChatOptions.url]
  split
  · next data hdata => exact .inr ⟨not_drops_of_ok hdata _, by rw [hdata]⟩
  · next message herror =>
    split
    · next h =>
      obtain ⟨rfl, hrejected⟩ := Bool.and_eq_true_iff.1 h
      exact .inl ⟨⟨false, members⟩, _, .ordering ((refusesOrdering_iff herror).2 hrejected), rfl⟩
    · next hordering =>
      have hkept : ordering = true → ¬RefusesOrdering P (fetch n (chatListUrl P limit ordering members)) := by
        rintro rfl hrejected
        exact hordering ((refusesOrdering_iff herror).1 hrejected)
      split
      · next h =>
        obtain ⟨rfl, hrejected⟩ := Bool.and_eq_true_iff.1 h
        exact .inl ⟨⟨ordering, false⟩, _, .members hkept ((refusesMembers_iff herror).2 hrejected), rfl⟩
      · next hmembers =>
        refine .inr ⟨?_, by rw [herror]⟩
        rintro _ (hrejected | ⟨-, hrejected⟩)
        · exact hkept rfl hrejected
        · exact hmembers ((refusesMembers_iff herror).1 hrejected)
  · next e hother herror =>
    refine .inr ⟨?_, by rw [herror]⟩
    rintro _ (⟨message, h, -⟩ | ⟨-, message, h, -⟩)
    · exact hother message (Except.error.inj (herror.symm.trans h))
    · exact hother message (Except.error.inj (herror.symm.trans h))

/-- The loop asks as `Asks` says, when it has asked only with more options so far. -/
theorem listChatsFrom_asks (n : Nat) (o : ChatOptions) (attempted : List (Bool × Bool)) (lastError : Option Exn)
    (hattempted : ∀ pair ∈ attempted, ChatOptions.size o < pair.1.toNat + pair.2.toNat) :
    ∃ asked, (listChatsFrom P fetch limit n o.ordering o.members attempted lastError).1 = asked.map (·.url P limit) ∧
      Asks P fetch limit n o asked (listChatsFrom P fetch limit n o.ordering o.members attempted lastError).2 := by
  induction hsize : ChatOptions.size o using Nat.strong_induction_on generalizing n o attempted lastError with
  | _ k ih =>
    have hnew : (o.ordering, o.members) ∉ attempted := fun h => Nat.lt_irrefl _ (hattempted _ h)
    rcases listChatsFrom_round n o lastError hnew with ⟨o', e, hdrops, heq⟩ | ⟨hlast, heq⟩
    · have hless := size_drops hdrops
      obtain ⟨asked, hurls, hasks⟩ :=
        ih (ChatOptions.size o') (by omega) (n + 1) o' ((o.ordering, o.members) :: attempted) (some e)
        (by
          rintro pair (_ | ⟨_, hpair⟩)
          · exact Nat.lt_of_succ_le hless.ge
          · exact Nat.lt_trans (Nat.lt_of_succ_le hless.ge) (hattempted pair hpair))
        rfl
      refine ⟨o :: asked, ?_, ?_⟩
      · rw [heq, List.map_cons]
        exact congrArg _ hurls
      · rw [heq]
        exact .again hdrops hasks
    · refine ⟨[o], by rw [heq]; rfl, ?_⟩
      rw [heq]
      exact .last hlast

/-- The listing begins with both options. -/
theorem asks_listChatsWithFallbacks (P : Platform) (fetch : Nat → String → UrlOutcome) (limit : Int) :
    ∃ asked, (listChatsWithFallbacks P fetch limit).1 = asked.map (·.url P limit) ∧
      Asks P fetch limit 0 ⟨true, true⟩ asked (listChatsWithFallbacks P fetch limit).2 :=
  listChatsFrom_asks 0 ⟨true, true⟩ [] none (by simp)

variable {n : Nat} {o : ChatOptions} {asked : List ChatOptions} {r : Except Exn (List (String × Json))}

/-- Every listing is asked for with fewer options than those before. -/
theorem asks_pairwise (h : Asks P fetch limit n o asked r) :
    (∀ o' ∈ asked, ChatOptions.size o' ≤ ChatOptions.size o) ∧
      asked.Pairwise fun o₁ o₂ => ChatOptions.size o₂ < ChatOptions.size o₁ := by
  induction h with
  | last h => simp
  | again h hrest ih =>
    obtain ⟨hle, hpairwise⟩ := ih
    have hless := size_drops h
    refine ⟨?_, List.pairwise_cons.2 ⟨fun o' ho' => ?_, hpairwise⟩⟩
    · rintro o' (_ | ⟨_, ho'⟩)
      · exact Nat.le_refl _
      · exact (hle o' ho').trans (by omega)
    · exact Nat.lt_of_le_of_lt (hle o' ho') (by omega)

/-- Each request after the first one has an option less. -/
theorem asks_length (h : Asks P fetch limit n o asked r) : asked.length ≤ ChatOptions.size o + 1 := by
  induction h with
  | last h => simp
  | again h hrest ih =>
    rw [List.length_cons, size_drops h]
    omega

/-- The last answer is what the listing ends with, and it refuses no option that was asked for. -/
theorem asks_last (h : Asks P fetch limit n o asked r) :
    ∃ o', asked.getLast? = some o' ∧ r = lookupGet P (fetch (n + (asked.length - 1)) (o'.url P limit)) ∧
      ∀ o'', ¬Drops P (fetch (n + (asked.length - 1)) (o'.url P limit)) o' o'' := by
  induction h with
  | last h => exact ⟨_, rfl, rfl, h⟩
  | @again n o o₁ asked r h hrest ih =>
    obtain ⟨o', hlast, hr, hdrops⟩ := ih
    have hpos : 0 < asked.length := by
      cases hrest
      · simp
      · simp
    have hcount : n + ((o :: asked).length - 1) = n + 1 + (asked.length - 1) := by
      rw [List.length_cons]
      omega
    refine ⟨o', ?_, ?_, ?_⟩
    · rw [List.getLast?_cons, hlast]
      rfl
    · rw [hcount]
      exact hr
    · rw [hcount]
      exact hdrops

/-- Each answer but the last one refuses the option that is not asked for again. -/
theorem asks_drops (h : Asks P fetch limit n o asked r) {i : Nat} {o₁ o₂ : ChatOptions} (h₁ : asked[i]? = some o₁)
    (h₂ : asked[i + 1]? = some o₂) : Drops P (fetch (n + i) (o₁.url P limit)) o₁ o₂ := by
  induction h generalizing i with
  | last h => simp at h₂
  | @again n o o' asked r h hrest ih =>
    cases i with
    | zero =>
      rw [List.getElem?_cons_zero] at h₁
      obtain rfl := Option.some.inj h₁
      have hhead : asked[0]? = some o' := by
        cases hrest
        · rfl
        · rfl
      rw [List.getElem?_cons_succ, hhead] at h₂
      obtain rfl := Option.some.inj h₂
      exact h
    | succ i =>
      rw [List.getElem?_cons_succ] at h₁ h₂
      rw [show n + (i + 1) = n + 1 + i by omega]
      exact ih h₁ h₂

/-! ## A service that says what it does not support -/

variable {service : ChatService}

/-- Options that are supported and leave nothing out that is. -/
theorem eq_options (hsupports : service.Supports o) (hordering : service.ordering = true → o.ordering = true)
    (hmembers : service.members = true → o.members = true) : o = service.options := by
  obtain ⟨ordering, members⟩ := o
  obtain rfl : ordering = service.ordering := Bool.eq_iff_iff.2 ⟨hsupports.1, hordering⟩
  obtain rfl : members = service.members := Bool.eq_iff_iff.2 ⟨hsupports.2, hmembers⟩
  rfl

/-- The listing ends with what is answered for the supported options, and each refusal cost it one request. -/
theorem asks_served (hserves : service.Serves P limit fetch) (h : Asks P fetch limit n o asked r)
    (hordering : service.ordering = true → o.ordering = true) (hmembers : service.members = true → o.members = true) :
    r = .ok (service.answer service.options) ∧ asked.length + ChatOptions.size service.options =
    ChatOptions.size o + 1 := by
  induction h with
  | @last n o h =>
    have hsupports : service.Supports o := by
      by_contra hnot
      obtain ⟨ordering, members⟩ := o
      rcases hserves.refused n _ hnot with ⟨rfl, hrefused⟩ | ⟨rfl, hrefused⟩
      · exact h _ (.ordering hrefused)
      · by_cases hfirst : ordering = true ∧ RefusesOrdering P (fetch n (ChatOptions.url P limit ⟨ordering, true⟩))
        · obtain ⟨rfl, hfirst⟩ := hfirst
          exact h _ (.ordering hfirst)
        · exact h _ (.members (fun hordering hrefused => hfirst ⟨hordering, hrefused⟩) hrefused)
    obtain rfl := eq_options hsupports hordering hmembers
    exact ⟨hserves.served n _ hsupports, Nat.add_comm _ _⟩
  | @again n o o' asked r h hrest ih =>
    have hkeeps : (service.ordering = true → o'.ordering = true) ∧ (service.members = true → o'.members = true) := by
      cases h with
      | ordering h => exact ⟨fun hsupported => (by rw [hserves.ordering n _ h] at hsupported; cases hsupported), hmembers⟩
      | members hfirst h =>
        exact ⟨hordering, fun hsupported => (by rw [hserves.members n _ h] at hsupported; cases hsupported)⟩
    obtain ⟨hr, hlength⟩ := ih hkeeps.1 hkeeps.2
    refine ⟨hr, ?_⟩
    rw [List.length_cons, size_drops h]
    omega

/-! ## What is shown -/

/-- The scan keeps the first matching chats up to the limit. -/
theorem scanChats_eq (u : ServiceUser) (needle : String) (values : List Json) (chats : List DelegatedGraphChat)
    (hlimit : (chats.length : Int) < limit) :
    scanChats P u needle limit values chats =
      chats ++ (values.filterMap (shownChat P u needle)).take (limit.toNat - chats.length) := by
  induction values generalizing chats with
  | nil => simp [scanChats]
  | cons value values ih =>
    rw [scanChats]
    split
    · next hnone => rw [ih chats hlimit, List.filterMap_cons_none hnone]
    · next chat hchat =>
      rw [List.filterMap_cons_some hchat]
      have hlength : (chats ++ [chat]).length = chats.length + 1 := by simp
      obtain ⟨k, hk⟩ : ∃ k, limit.toNat - chats.length = k + 1 := ⟨limit.toNat - chats.length - 1, by omega⟩
      rw [hk, List.take_succ_cons]
      dsimp only
      split
      · next hfull =>
        obtain rfl : k = 0 := by omega
        rw [List.take_zero]
      · next hfull =>
        rw [ih _ (by omega), hlength, show limit.toNat - (chats.length + 1) = k by omega, List.append_assoc,
          List.singleton_append]

/-- What the search gives when the listing and the service user are known. -/
theorem chatsWithToken_eq_ok {data : List (String × Json)} {credential : GraphDelegatedCredential} {user : ServiceUser}
    {values : List Json} (hlisted : (listChatsWithFallbacks P fetch 25).2 = .ok data)
    (huser : (serviceUserOf P fetch (listChatsWithFallbacks P fetch 25).1.length credential).2 = .ok user)
    (hvalues : iterate ((Json.lookup "value" data).getD (.arr [])) = .ok values) (query : String) :
    (chatsWithToken P fetch query 25 credential).2 =
      .ok ((values.filterMap (shownChat P user (P.lower (Python.strip query)))).take 25) := by
  have hlimit : max 1 (min 25 50) = (25 : Int) := by decide
  have hscan : scanChats P user (P.lower (Python.strip query)) 25 values [] = _ :=
    scanChats_eq user (P.lower (Python.strip query)) values [] (by decide)
  unfold chatsWithToken
  simp only [hlimit, hlisted, huser, hvalues]
  exact congrArg Except.ok hscan

/-- The first value that is not empty is not empty. -/
theorem orElse_ne_empty {x y : String} (h : x ≠ "" ∨ y ≠ "") : Python.orElse x y ≠ "" := by
  unfold Python.orElse
  split
  · next hx => exact h.resolve_left fun h => h hx
  · next hx => exact hx

/-- A short form of an id that is not blank is not empty. -/
theorem shortId_ne_empty {value : String} (h : Python.strip value ≠ "") : shortId value ≠ "" := by
  unfold shortId
  dsimp only
  split
  · intro hempty
    have hchars := congrArg String.toList hempty
    simp at hchars
  · exact h

/-- A member that is shown has a label. -/
theorem label_ne_empty {chat : List (String × Json)} {member : DelegatedGraphChatMember}
    (h : member ∈ chatMembers P chat) : member.label ≠ "" := by
  unfold chatMembers at h
  split at h
  · next raw _ =>
    obtain ⟨value, -, hvalue⟩ := List.mem_filterMap.1 h
    unfold chatMember at hvalue
    split at hvalue
    · next fields =>
      dsimp only at hvalue
      split at hvalue
      · next hfields =>
        cases hvalue
        rcases hfields with hid | hname | hemail
        · refine orElse_ne_empty (.inr (orElse_ne_empty (.inr (shortId_ne_empty ?_))))
          simpa [textOf, Python.strip_strip] using hid
        · exact orElse_ne_empty (.inl hname)
        · exact orElse_ne_empty (.inr (orElse_ne_empty (.inl hemail)))
      · cases hvalue
    · cases hvalue
  · cases h

/-- The other member of a chat is one of its members. -/
theorem mem_of_otherOneOnOneMember {u : ServiceUser} {members : List DelegatedGraphChatMember}
    {member : DelegatedGraphChatMember} (h : otherOneOnOneMember P u members = some member) : member ∈ members := by
  unfold otherOneOnOneMember at h
  split at h
  · next hfind =>
    cases h
    exact List.mem_of_find?_eq_some hfind
  · split at h
    · cases h
      exact List.mem_singleton_self _
    · cases h

/-- Every kind of chat has a label. -/
theorem chatTypeLabel_ne_empty (chatType : String) : chatTypeLabel chatType ≠ "" := by
  unfold chatTypeLabel
  split
  · decide
  · split
    · decide
    · decide

/-- A chat of members with labels has a name. -/
theorem chatDisplay_ne_empty {u : ServiceUser} {chatType topic : String} {members : List DelegatedGraphChatMember}
    (hmembers : ∀ member ∈ members, member.label ≠ "") : (chatDisplay P u chatType topic members).1 ≠ "" := by
  unfold chatDisplay
  split
  · next other hother =>
    split at hother
    · exact hmembers other (mem_of_otherOneOnOneMember hother)
    · cases hother
  · have hname : Python.orElse topic (chatTypeLabel chatType) ≠ "" :=
      orElse_ne_empty (.inr (chatTypeLabel_ne_empty chatType))
    dsimp only
    exact orElse_ne_empty (.inr hname)

/-- A chat that is shown has an id and a name. -/
theorem shownChat_named {u : ServiceUser} {needle : String} {value : Json} {chat : DelegatedGraphChat}
    (h : shownChat P u needle value = some chat) : chat.id ≠ "" ∧ chat.displayName ≠ "" := by
  unfold shownChat at h
  split at h
  · next fields =>
    dsimp only at h
    split at h
    · cases h
    · next hid =>
      split at h
      · cases h
      · obtain rfl := Option.some.inj h
        exact ⟨hid, chatDisplay_ne_empty fun member hmember => label_ne_empty hmember⟩
  · cases h

end ServiceUserChatsAux

open ServiceUserChatsAux in
/-- Whatever Graph answers, the listing is asked for at most three times and never twice with the same options; each
answer before the last one refuses just the option that is left out next, and the last one, which refuses no option that
was asked for, is what the listing ends with. -/
theorem chat_list_asked_again (P : Platform) (fetch : Nat → String → UrlOutcome) (limit : Int) :
    ∃ asked : List ChatOptions, (listChatsWithFallbacks P fetch limit).1 = asked.map (·.url P limit) ∧
      asked.length ≤ 3 ∧ asked.Nodup ∧ (∀ i o o', asked[i]? = some o → asked[i + 1]? = some o' →
        Drops P (fetch i (o.url P limit)) o o') ∧
      ∃ o, asked.getLast? = some o ∧ (∀ o', ¬Drops P (fetch (asked.length - 1) (o.url P limit)) o o') ∧
        (listChatsWithFallbacks P fetch limit).2 = lookupGet P (fetch (asked.length - 1) (o.url P limit)) := by
  obtain ⟨asked, hurls, hasks⟩ := asks_listChatsWithFallbacks P fetch limit
  have hnodup : asked.Nodup := (asks_pairwise hasks).2.imp fun hless heq => by
    rw [heq] at hless
    exact Nat.lt_irrefl _ hless
  obtain ⟨o, hlast, hr, hdrops⟩ := asks_last hasks
  rw [Nat.zero_add] at hr hdrops
  refine ⟨asked, hurls, asks_length hasks, hnodup, fun i o o' ho ho' => ?_, o, hlast, hdrops, hr⟩
  have hdrop := asks_drops hasks ho ho'
  rwa [Nat.zero_add] at hdrop

open ServiceUserChatsAux in
/-- Whichever of the two options Graph supports, when it refuses what it does not support and nothing else, the search
of an organization that is connected answers with the first chats that match of the listing with every supported option,
in its order, each with an id and a name, after one request for every option that is not supported and one more. -/
theorem service_user_chats_found {P : Platform} {s : Settings} {now : Int} {organizationId : Nat} {token : UrlOutcome}
    {fetch : Nat → String → UrlOutcome} {query accessToken : String} {db : Database}
    {credential : GraphDelegatedCredential} {service : ChatService} {user : ServiceUser} {values : List Json}
    (hlookup : s.graphLookupEnabled = true)
    (htoken : (lookupToken P s now organizationId token db.credentials).2 = .ok (accessToken, credential))
    (hserves : service.Serves P 25 fetch)
    (huser : (serviceUserOf P fetch (listChatsWithFallbacks P fetch 25).1.length credential).2 = .ok user)
    (hvalues : iterate ((Json.lookup "value" (service.answer service.options)).getD (.arr [])) = .ok values) :
    (∃ chats, (searchedServiceUserChats P s now organizationId token fetch query db).2 = .ok chats ∧
        chats = (values.filterMap (shownChat P user (P.lower (Python.strip query)))).take 25 ∧
        ∀ chat ∈ chats, chat.id ≠ "" ∧ chat.displayName ≠ "") ∧
      (listChatsWithFallbacks P fetch 25).1.length = 1 + (!service.ordering).toNat + (!service.members).toNat := by
  obtain ⟨asked, hurls, hasks⟩ := asks_listChatsWithFallbacks P fetch 25
  obtain ⟨hr, hlength⟩ := asks_served hserves hasks (fun _ => rfl) (fun _ => rfl)
  refine ⟨⟨_, ?_, rfl, fun chat hchat => ?_⟩, ?_⟩
  · have hchats := chatsWithToken_eq_ok hr huser hvalues query
    simp only [searchedServiceUserChats, searchServiceUserChats, ensureGraphLookupEnabled, hlookup, if_true,
      listServiceUserChats, htoken, Except.bind, hchats]
  · obtain ⟨value, -, hvalue⟩ := List.mem_filterMap.1 (List.mem_of_mem_take hchat)
    exact shownChat_named hvalue
  · rw [hurls, List.length_map]
    revert hlength
    simp only [ChatOptions.size, ChatService.options]
    cases service.ordering <;> cases service.members <;> simp

/-- The bytes of an ASCII text. -/
def asciiBody (text : String) : BodyRead := .body (text.toList.map fun c => c.toNat.toUInt8)

/-- What the token endpoint answers. -/
def rotatedTokenText : String := "\x7b\"access_token\":\"access\",\"refresh_token\":\"refresh\"\x7d"

/-- What Graph answers when it does not order the chats. -/
def orderingRefusedText : String := "\x7b\"error\":\x7b\"message\":\"Query option OrderBy is not allowed.\"\x7d\x7d"

/-- What Graph answers with the chats. -/
def chatsText : String := "\x7b\"value\":[\x7b\"id\":\"19:a\",\"topic\":\"Operations\",\"chatType\":\"group\"\x7d]\x7d"

/-- The chats in this answer. -/
def chatItems : List Json := [.obj [("id", .str "19:a"), ("topic", .str "Operations"), ("chatType", .str "group")]]

/-- A platform that reads these texts. -/
def chatPlatform : Platform :=
  { Platform.plain with
    quotePlus := fun value => String.ofList (PercentEncoding.quotePlus value.toList)
    lower := fun text => String.ofList (text.toList.map Char.toLower)
    jsonLoads := fun text =>
      if text = rotatedTokenText then .ok (.obj [("access_token", .str "access"), ("refresh_token", .str "refresh")])
      else if text = orderingRefusedText then
        .ok (.obj [("error", .obj [("message", .str "Query option OrderBy is not allowed.")])])
      else if text = chatsText then .ok (.obj [("value", .arr chatItems)])
      else .error .jsonDecodeError }

/-- Graph expands members, and does not order chats. -/
def unorderedService : ChatService := ⟨false, true, fun _ => [("value", .arr chatItems)]⟩

/-- The answers of such a service. -/
def unorderedFetch (_ : Nat) (url : String) : UrlOutcome :=
  if url = ChatOptions.url chatPlatform 25 ⟨true, true⟩ ∨ url = ChatOptions.url chatPlatform 25 ⟨true, false⟩ then
    .httpError 400 (asciiBody orderingRefusedText)
  else .response 200 (asciiBody chatsText)

/-- The credential of a connected service user. -/
def chattingCredential : GraphDelegatedCredential :=
  { organizationId := 1, encryptedRefreshToken := "old", lastStatus := "ready", serviceUserId := "user" }

/-- An organization with this credential. -/
def chattingDatabase : Database where
  organizations := [{ id := 1, slug := "default", name := "Default Organization" }]
  credentials := [chattingCredential]
  nextId := 2

/-- The service refuses to order. -/
theorem unorderedFetch_ordered (n : Nat) (members : Bool) :
    unorderedFetch n (ChatOptions.url chatPlatform 25 ⟨true, members⟩) =
    .httpError 400 (asciiBody orderingRefusedText) := by
  cases members with
  | false => exact if_pos (.inr rfl)
  | true => exact if_pos (.inl rfl)

/-- The service lists its chats without an order. -/
theorem unorderedFetch_unordered (n : Nat) (members : Bool) :
    unorderedFetch n (ChatOptions.url chatPlatform 25 ⟨false, members⟩) = .response 200 (asciiBody chatsText) := by
  cases members with
  | false => exact if_neg (by decide +kernel)
  | true => exact if_neg (by decide +kernel)

set_option maxRecDepth 4000 in
/-- The refusal raises an error with its text. -/
theorem lookupGet_refused : lookupGet chatPlatform (.httpError 400 (asciiBody orderingRefusedText)) =
    .error (.graphDelegatedLookup "Microsoft Graph chat lookup failed with HTTP 400: Query option OrderBy is not allowed.") := rfl

/-- The service supports every option but the order. -/
theorem unorderedService_serves : unorderedService.Serves chatPlatform 25 unorderedFetch where
  served := by
    rintro n ⟨ordering, members⟩ ⟨hordering, -⟩
    cases ordering with
    | true => exact absurd (hordering rfl) (by decide)
    | false =>
      rw [unorderedFetch_unordered]
      rfl
  refused := by
    rintro n ⟨ordering, members⟩ hnot
    cases ordering with
    | true =>
      rw [unorderedFetch_ordered]
      exact .inl ⟨rfl, _, lookupGet_refused, by decide +kernel⟩
    | false => exact (hnot ⟨fun h => h, fun _ => rfl⟩).elim
  ordering := fun _ _ _ => rfl
  members := by
    rintro n ⟨ordering, members⟩ ⟨message, herror, hrejected⟩
    cases ordering with
    | true =>
      rw [unorderedFetch_ordered] at herror hrejected
      rw [lookupGet_refused] at herror
      cases herror
      exact absurd hrejected (by decide +kernel)
    | false =>
      rw [unorderedFetch_unordered] at hrejected
      cases hrejected

/-- The credential after its token was refreshed. -/
def refreshedChatter : GraphDelegatedCredential where
  organizationId := 1
  tenantId := "tenant"
  clientId := "client"
  scopes := "offline_access ChannelMessage.Send ChatMessage.Send Chat.ReadBasic Chat.Create User.Read"
  encryptedRefreshToken := "refresh"
  serviceUserId := "user"
  lastStatus := "ready"
  accessTokenExpiresAt := some 3600000000
  refreshCheckedAt := some 0

/-- The access tokens have no claims that can be read. -/
theorem decodeJwtClaims_chatPlatform (token : String) : decodeJwtClaims chatPlatform token = .ok [] := by
  unfold decodeJwtClaims
  split
  · rfl
  · rfl

/-- What the token endpoint answers, as it is read. -/
def rotatedTokens : Json := .obj [("access_token", .str "access"), ("refresh_token", .str "refresh")]

/-- The credential is refreshed with the new token. -/
theorem refreshCredential_chatting :
    refreshCredential chatPlatform registeredApp 0 (.response 200 (asciiBody rotatedTokenText)) chattingCredential =
      (refreshedChatter, .ok "access") := by
  have hanswer : (decryptSecret chatPlatform registeredApp chattingCredential.encryptedRefreshToken >>= fun _ =>
      requestToken chatPlatform (.response 200 (asciiBody rotatedTokenText))) = .ok rotatedTokens := rfl
  have happlied : applySuccessfulTokenResponse chatPlatform registeredApp 0 rotatedTokens defaultDelegatedGraphScopes
    (some "refresh")
      chattingCredential = .ok refreshedChatter := by
    unfold applySuccessfulTokenResponse
    simp only [decodeJwtClaims_chatPlatform]
    rfl
  have haccess : getItem "access_token" rotatedTokens = .ok (.str "access") := rfl
  have hrefresh : getItem "refresh_token" rotatedTokens = .ok (.str "refresh") := rfl
  have hflushes : chattingCredential.flushes chatPlatform refreshedChatter = true := rfl
  have htext : ∀ text, text ≠ "" → strOf chatPlatform (orElse (.str text) (.str "")) = text := fun text htext => by
    simp [orElse, Json.truthy, htext, strOf]
  unfold refreshCredential
  rw [hanswer]
  simp only [haccess, hrefresh, htext "access" (by decide), htext "refresh" (by decide), bind, Except.bind, happlied,
    if_neg (show "access" ≠ "" by decide), if_neg (show "refresh" ≠ "" by decide), hflushes, if_true]

/-- The search has the access token of the answer. -/
theorem lookupToken_chatting :
    (lookupToken chatPlatform registeredApp 0 1 (.response 200 (asciiBody rotatedTokenText))
      chattingDatabase.credentials).2 =
      .ok ("access", refreshedChatter) := by
  have hrefresh : refreshDelegatedAccessToken chatPlatform registeredApp 0 1 (.response 200 (asciiBody rotatedTokenText))
      chattingDatabase.credentials =
        (let r := refreshCredential chatPlatform registeredApp 0 (.response 200 (asciiBody rotatedTokenText))
          chattingCredential
        (Table.update (·.organizationId == 1) (fun _ => r.1) [chattingCredential], r.2.map fun token =>
          (token, r.1))) := rfl
  rw [lookupToken, hrefresh, refreshCredential_chatting]
  rfl

/-- Graph does not order the chats: the listing asks once more, and finds the chat. -/
theorem service_user_chats_found_unordered :
    (∃ chats, (searchedServiceUserChats chatPlatform registeredApp 0 1 (.response 200 (asciiBody rotatedTokenText))
      unorderedFetch
        "" chattingDatabase).2 = .ok chats ∧
        chats = (chatItems.filterMap (shownChat chatPlatform ⟨"user", ""⟩ (chatPlatform.lower (Python.strip "")))).take
          25 ∧ ∀ chat ∈ chats, chat.id ≠ "" ∧ chat.displayName ≠ "") ∧
      (listChatsWithFallbacks chatPlatform unorderedFetch 25).1.length = 1 + (!unorderedService.ordering).toNat +
          (!unorderedService.members).toNat :=
  service_user_chats_found rfl lookupToken_chatting unorderedService_serves rfl rfl

end TeamsRehook
