import Mathlib.Data.List.Basic
import Mathlib.Data.List.TakeWhile
import Mathlib.Tactic.Common

/-!
# URLs

`urllib.parse.urlparse` of Python 3.11, on the characters of a text. What the checks of a host need to know of IP
addresses and of Unicode is a parameter. The components of a text do not depend on the slashes at its end as far as the
host (`urlparse_of_append_slashes`), and a text that is put together of a scheme and a host has these components and no
other (`urlparse_origin`).
-/

namespace Url

/-! ## Characters -/

/-- `_WHATWG_C0_CONTROL_OR_SPACE`. -/
def isControlOrSpace (c : Char) : Bool := c.toNat ≤ 32

/-- `_UNSAFE_URL_BYTES_TO_REMOVE`. -/
def isRemoved (c : Char) : Bool := c == '\t' || c == '\r' || c == '\n'

/-- `scheme_chars`. -/
def isSchemeChar (c : Char) : Bool := c.isAlphanum || c == '+' || c == '-' || c == '.'

/-- What ends a host. -/
def endsNetloc (c : Char) : Bool := c == '/' || c == '?' || c == '#'

/-- A character that can stand in a host. -/
def inNetloc (c : Char) : Bool := !endsNetloc c && !isRemoved c

/-! ## Components -/

/-- The components of a URL. -/
structure Parts where
  scheme : List Char
  netloc : List Char
  path : List Char
  params : List Char
  query : List Char
  fragment : List Char
  deriving DecidableEq, Repr

/-- What is checked of a host. -/
structure HostChecks where
  /-- `_check_bracketed_host`: what stands between brackets is an address. -/
  bracketed : List Char → Bool
  /-- `_checknetloc` of a host that is not ASCII: its normal form has no delimiter. -/
  normalized : List Char → Bool

/-- What is read of a text. -/
def legible (cs : List Char) : List Char := (cs.dropWhile isControlOrSpace).filter (!isRemoved ·)

/-- The scheme, in lower case, and what follows it. -/
def splitScheme (cs : List Char) : List Char × List Char :=
  let scheme := cs.takeWhile (· != ':')
  let rest := cs.dropWhile (· != ':')
  if rest ≠ [] ∧ scheme.head?.any Char.isAlpha ∧ scheme.all isSchemeChar then (scheme.map Char.toLower, rest.drop 1)
  else ([], cs)

/-- `_splitnetloc` of what follows two slashes. -/
def splitNetloc : List Char → List Char × List Char
  | '/' :: '/' :: rest => (rest.takeWhile (!endsNetloc ·), rest.dropWhile (!endsNetloc ·))
  | cs => ([], cs)

/-- What stands between the first bracket and the one that closes it. -/
def bracketedHost (netloc : List Char) : List Char := ((netloc.dropWhile (· != '[')).drop 1).takeWhile (· != ']')

/-- The host passes its checks. -/
def validNetloc (checks : HostChecks) (netloc : List Char) : Bool :=
  netloc.contains '[' == netloc.contains ']' && (!netloc.contains '[' || checks.bracketed (bracketedHost netloc)) &&
    (netloc.all (·.toNat < 128) || checks.normalized netloc)

/-- What stands before the first separator, and what follows it. -/
def splitFirst (sep : Char) (cs : List Char) : List Char × List Char :=
  (cs.takeWhile (· != sep), (cs.dropWhile (· != sep)).drop 1)

/-- `_splitparams`: the parameters of the last segment. -/
def splitParams (path : List Char) : List Char × List Char :=
  let last := (path.reverse.takeWhile (· != '/')).reverse
  let before := (path.reverse.dropWhile (· != '/')).reverse
  (before ++ (splitFirst ';' last).1, (splitFirst ';' last).2)

/-- `uses_params`. -/
def usesParams : List String :=
  ["", "ftp", "hdl", "prospero", "http", "imap", "https", "shttp", "rtsp", "rtsps", "rtspu", "sip", "sips", "mms",
    "sftp", "tel"]

/-- What follows the host: the path, the parameters, the query and the fragment. -/
def splitTail (scheme netloc tail : List Char) : Parts :=
  let fragment := splitFirst '#' tail
  let query := splitFirst '?' fragment.1
  let path := if usesParams.contains (String.ofList scheme) then splitParams query.1 else (query.1, [])
  { scheme := scheme, netloc := netloc, path := path.1, params := path.2, query := query.2, fragment := fragment.2 }

/-- `urlparse`, nothing when it raises a `ValueError`. -/
def urlparse (checks : HostChecks) (cs : List Char) : Option Parts :=
  let scheme := splitScheme (legible cs)
  let netloc := splitNetloc scheme.2
  if validNetloc checks netloc.1 then some (splitTail scheme.1 netloc.1 netloc.2) else none

/-! ## What is read -/

variable {checks : HostChecks} {cs : List Char} {p : Parts}

/-- Slashes at the end of a text are read. -/
theorem legible_append_slashes (cs : List Char) (n : Nat) :
    legible (cs ++ List.replicate n '/') = legible cs ++ List.replicate n '/' := by
  have hslashes : ∀ q : Char → Bool, q '/' = false → (List.replicate n '/').dropWhile q = List.replicate n '/' := by
    intro q hq
    cases n with
    | zero => rfl
    | succ n => simp [List.replicate_succ, hq]
  have hfilter : (List.replicate n '/').filter (!isRemoved ·) = List.replicate n '/' :=
    List.filter_eq_self.2 fun c hc => by rw [List.eq_of_mem_replicate hc]; rfl
  unfold legible
  rw [List.dropWhile_append]
  split
  next h => rw [hslashes _ rfl, hfilter, List.isEmpty_iff.1 h, List.filter_nil, List.nil_append]
  next => rw [List.filter_append, hfilter]

theorem mem_of_mem_legible {c : Char} (h : c ∈ legible cs) : c ∈ cs ∧ isRemoved c = false := by
  obtain ⟨hc, hkept⟩ := List.mem_filter.1 h
  exact ⟨(List.dropWhile_suffix _).subset hc, by simpa using hkept⟩

/-- A character that is neither a control character nor a space nor removed is read. -/
theorem mem_legible {c : Char} (h : c ∈ cs) (hcontrol : isControlOrSpace c = false) (hremoved : isRemoved c = false) :
    c ∈ legible cs := by
  refine List.mem_filter.2 ⟨?_, by simp [hremoved]⟩
  rw [← List.takeWhile_append_dropWhile (p := isControlOrSpace) (l := cs)] at h
  rcases List.mem_append.1 h with h | h
  · rw [List.mem_takeWhile_imp h] at hcontrol
    nomatch hcontrol
  · exact h

/-! ## The scheme -/

/-- A scheme as `urlparse` returns it. -/
structure IsScheme (scheme : List Char) : Prop where
  letter : scheme.head?.any Char.isAlpha = true
  chars : scheme.all isSchemeChar = true
  lower : scheme.map Char.toLower = scheme

theorem ne_colon_of_isSchemeChar {c : Char} (h : isSchemeChar c = true) : c ≠ ':' := by
  rintro rfl
  revert h
  decide

/-- A scheme that is followed by a colon is split off, in lower case. -/
theorem splitScheme_eq {scheme : List Char} (hletter : scheme.head?.any Char.isAlpha = true)
    (hchars : scheme.all isSchemeChar = true) (rest : List Char) :
    splitScheme (scheme ++ ':' :: rest) = (scheme.map Char.toLower, rest) := by
  have hne : ∀ c ∈ scheme, (c != ':') = true :=
    fun c hc => bne_iff_ne.2 (ne_colon_of_isSchemeChar (List.all_eq_true.1 hchars c hc))
  have htake : (scheme ++ ':' :: rest).takeWhile (· != ':') = scheme := by
    rw [List.takeWhile_append_of_pos hne]
    simp
  have hdrop : (scheme ++ ':' :: rest).dropWhile (· != ':') = ':' :: rest := by
    rw [List.dropWhile_append_of_pos hne]
    simp
  unfold splitScheme
  simp only [htake, hdrop, List.drop_one, List.tail_cons]
  rw [if_pos ⟨List.cons_ne_nil _ _, hletter, hchars⟩]

/-- When a scheme is found, it stands before a colon, perhaps with uppercase letters. -/
theorem of_splitScheme (h : (splitScheme cs).1 ≠ []) : ∃ scheme rest, cs = scheme ++ ':' :: rest ∧
    scheme.head?.any Char.isAlpha = true ∧ scheme.all isSchemeChar = true ∧
    splitScheme cs = (scheme.map Char.toLower, rest) := by
  unfold splitScheme at h ⊢
  dsimp only at h ⊢
  split
  next hscheme =>
    refine ⟨cs.takeWhile (· != ':'), (cs.dropWhile (· != ':')).drop 1, ?_, hscheme.2.1, hscheme.2.2, rfl⟩
    cases hdrop : cs.dropWhile (· != ':') with
    | nil => exact (hscheme.1 hdrop).elim
    | cons c rest =>
      have hc : c = ':' := by
        have hhead := List.head?_dropWhile_not (· != ':') cs
        rw [hdrop] at hhead
        simpa using hhead
      calc cs = cs.takeWhile (· != ':') ++ cs.dropWhile (· != ':') := List.takeWhile_append_dropWhile.symm
        _ = cs.takeWhile (· != ':') ++ ':' :: rest := by rw [hdrop, hc]
  next hscheme =>
    rw [if_neg hscheme] at h
    exact (h rfl).elim

/-- What follows a text and has no colon does not matter for its scheme. -/
theorem splitScheme_append {after : List Char} (hafter : ':' ∉ after) (h : (splitScheme (cs ++ after)).1 ≠ []) :
    splitScheme (cs ++ after) = ((splitScheme cs).1, (splitScheme cs).2 ++ after) := by
  obtain ⟨scheme, rest, hsplit, hletter, hchars, -⟩ := of_splitScheme h
  obtain ⟨rest', rfl⟩ : ∃ rest', cs = scheme ++ ':' :: rest' := by
    rcases List.append_eq_append_iff.1 hsplit with ⟨between, hscheme, hbetween⟩ | ⟨between, hcs, hbetween⟩
    · exact (hafter (hbetween ▸ by simp)).elim
    · cases between with
      | nil => exact (hafter ((List.nil_append after).symm.trans hbetween.symm ▸ by simp)).elim
      | cons c between =>
        cases hbetween
        exact ⟨between, hcs⟩
  rw [List.append_assoc, List.cons_append, splitScheme_eq hletter hchars, splitScheme_eq hletter hchars]

/-! ## The host -/

/-- Slashes end a host that they follow. -/
theorem span_append_slashes (cs : List Char) (n : Nat) :
    (cs ++ List.replicate n '/').takeWhile (!endsNetloc ·) = cs.takeWhile (!endsNetloc ·) ∧
      (cs ++ List.replicate n '/').dropWhile (!endsNetloc ·) = cs.dropWhile (!endsNetloc ·) ++ List.replicate n '/' := by
  induction cs with
  | nil => cases n <;> exact ⟨rfl, rfl⟩
  | cons c cs ih =>
    rw [List.cons_append, List.takeWhile_cons, List.takeWhile_cons, List.dropWhile_cons, List.dropWhile_cons]
    split
    · exact ⟨by rw [ih.1], ih.2⟩
    · exact ⟨rfl, rfl⟩

/-- Without two slashes in front there is no host. -/
theorem splitNetloc_of_ne (h : ∀ rest, cs ≠ '/' :: '/' :: rest) : splitNetloc cs = ([], cs) := by
  unfold splitNetloc
  split
  next rest => exact (h rest rfl).elim
  next => rfl

/-- Slashes at the end of a text do not matter for its host. -/
theorem splitNetloc_append_slashes (n : Nat) (h : (splitNetloc (cs ++ List.replicate n '/')).1 ≠ []) :
    splitNetloc (cs ++ List.replicate n '/') = ((splitNetloc cs).1, (splitNetloc cs).2 ++ List.replicate n '/') := by
  have hnone : ∀ m, (splitNetloc (List.replicate m '/')).1 = [] := by
    intro m
    match m with
    | 0 | 1 => rfl
    | m + 2 => exact (span_append_slashes [] m).1
  match cs with
  | [] => exact (h (hnone n)).elim
  | [c] =>
    by_cases hc : c = '/'
    · exact (h (hc ▸ hnone (n + 1))).elim
    · rw [splitNetloc_of_ne (by simp [hc])] at h
      exact (h rfl).elim
  | c :: d :: cs =>
    by_cases hcd : c = '/' ∧ d = '/'
    · obtain ⟨rfl, rfl⟩ := hcd
      exact Prod.ext (span_append_slashes cs n).1 (span_append_slashes cs n).2
    · rw [splitNetloc_of_ne fun rest hrest => hcd (by simp_all)] at h
      exact (h rfl).elim

/-- A host that follows two slashes is split off. -/
theorem splitNetloc_eq {netloc : List Char} (h : netloc.all inNetloc = true) :
    splitNetloc ('/' :: '/' :: netloc) = (netloc, []) := by
  have hpos : ∀ c ∈ netloc, (!endsNetloc c) = true := fun c hc => (Bool.and_eq_true_iff.1 (List.all_eq_true.1 h c hc)).1
  rw [splitNetloc, List.takeWhile_eq_self_iff.2 hpos, List.dropWhile_eq_nil_iff.2 hpos]

/-- When a host is found, it stands behind two slashes. -/
theorem of_splitNetloc (h : (splitNetloc cs).1 ≠ []) : cs = '/' :: '/' :: ((splitNetloc cs).1 ++ (splitNetloc cs).2) := by
  by_cases hslashes : ∃ rest, cs = '/' :: '/' :: rest
  · obtain ⟨rest, rfl⟩ := hslashes
    rw [splitNetloc, List.takeWhile_append_dropWhile]
  · rw [splitNetloc_of_ne fun rest hrest => hslashes ⟨rest, hrest⟩] at h
    exact (h rfl).elim

theorem mem_splitNetloc {c : Char} (h : c ∈ (splitNetloc cs).1) : c ∈ cs ∧ endsNetloc c = false := by
  have hcs := of_splitNetloc (List.ne_nil_of_mem h)
  refine ⟨by rw [hcs]; simp [h], ?_⟩
  rw [hcs, splitNetloc] at h
  simpa using List.mem_takeWhile_imp h

/-! ## Whole texts -/

/-- The components of a text whose host passes its checks. -/
theorem urlparse_eq_some_iff : urlparse checks cs = some p ↔
    validNetloc checks (splitNetloc (splitScheme (legible cs)).2).1 = true ∧
    splitTail (splitScheme (legible cs)).1 (splitNetloc (splitScheme (legible cs)).2).1
        (splitNetloc (splitScheme (legible cs)).2).2 = p := by
  unfold urlparse
  dsimp only
  split
  next h => simp [h]
  next h => simp [h]

/-- Slashes at the end of a text do not matter for its scheme and its host, when it has them. -/
theorem urlparse_of_append_slashes {n : Nat} (h : urlparse checks (cs ++ List.replicate n '/') = some p)
    (hscheme : p.scheme ≠ []) (hnetloc : p.netloc ≠ []) :
    ∃ q, urlparse checks cs = some q ∧ q.scheme = p.scheme ∧ q.netloc = p.netloc := by
  obtain ⟨hvalid, rfl⟩ := urlparse_eq_some_iff.1 h
  have hcolon : ':' ∉ List.replicate n '/' := fun hmem => nomatch List.eq_of_mem_replicate hmem
  rw [legible_append_slashes] at hvalid hscheme hnetloc ⊢
  rw [splitScheme_append hcolon hscheme] at hvalid hnetloc ⊢
  dsimp only at hvalid hnetloc ⊢
  rw [splitNetloc_append_slashes n hnetloc] at hvalid ⊢
  exact ⟨_, urlparse_eq_some_iff.2 ⟨hvalid, rfl⟩, rfl, rfl⟩

theorem splitScheme_subset (cs : List Char) : (splitScheme cs).2 ⊆ cs := by
  unfold splitScheme
  dsimp only
  split
  · exact fun c hc => (List.dropWhile_suffix _).subset (List.mem_of_mem_drop hc)
  · exact List.Subset.refl _

/-- A host that is found has no delimiter, and no character that is not read. -/
theorem netloc_of_urlparse (h : urlparse checks cs = some p) : p.netloc.all inNetloc = true ∧ p.netloc ⊆ cs := by
  obtain ⟨-, rfl⟩ := urlparse_eq_some_iff.1 h
  have hmem : ∀ c ∈ (splitNetloc (splitScheme (legible cs)).2).1, (c ∈ cs ∧ isRemoved c = false) ∧
      endsNetloc c = false := fun c hc =>
    ⟨mem_of_mem_legible (splitScheme_subset _ (mem_splitNetloc hc).1), (mem_splitNetloc hc).2⟩
  refine ⟨List.all_eq_true.2 fun c hc => ?_, fun c hc => (hmem c hc).1.1⟩
  rw [inNetloc, (hmem c hc).2, (hmem c hc).1.2]
  rfl

/-- The code points of the letters. -/
theorem toNat_of_isAlpha {c : Char} (h : c.isAlpha = true) :
    (65 ≤ c.toNat ∧ c.toNat ≤ 90) ∨ (97 ≤ c.toNat ∧ c.toNat ≤ 122) := by
  have hletter : (decide (c.val ≥ 'A'.val ∧ c.val ≤ 'Z'.val) || (c.val ≥ 'a'.val && c.val ≤ 'z'.val)) = true := h
  have hval : c.val.toNat = c.toNat := rfl
  have hupper : 'A'.val.toNat = 65 ∧ 'Z'.val.toNat = 90 := ⟨rfl, rfl⟩
  have hlower : 'a'.val.toNat = 97 ∧ 'z'.val.toNat = 122 := ⟨rfl, rfl⟩
  simp only [ge_iff_le, Bool.or_eq_true, Bool.and_eq_true, decide_eq_true_eq, UInt32.le_iff_toNat_le, hval] at hletter
  omega

theorem isControlOrSpace_of_isAlpha {c : Char} (h : c.isAlpha = true) : isControlOrSpace c = false := by
  have hletter := toNat_of_isAlpha h
  simp only [isControlOrSpace, decide_eq_false_iff_not]
  omega

theorem isRemoved_of_isSchemeChar {c : Char} (h : isSchemeChar c = true) : isRemoved c = false := by
  by_contra hremoved
  simp only [isRemoved, Bool.not_eq_false, Bool.or_eq_true, beq_iff_eq] at hremoved
  rcases hremoved with (rfl | rfl) | rfl <;> exact absurd h (by decide)

theorem splitTail_nil (scheme netloc : List Char) : splitTail scheme netloc [] = ⟨scheme, netloc, [], [], [], []⟩ := by
  unfold splitTail
  dsimp only
  split <;> rfl

/-- A text that is put together of a scheme and a host has these components and no other. -/
theorem urlparse_origin {scheme netloc : List Char} (hscheme : IsScheme scheme) (hnetloc : netloc.all inNetloc = true) :
    urlparse checks (scheme ++ ':' :: '/' :: '/' :: netloc) =
      if validNetloc checks netloc then some ⟨scheme, netloc, [], [], [], []⟩ else none := by
  have hlegible : legible (scheme ++ ':' :: '/' :: '/' :: netloc) = scheme ++ ':' :: '/' :: '/' :: netloc := by
    have hdrop : (scheme ++ ':' :: '/' :: '/' :: netloc).dropWhile isControlOrSpace = scheme ++
        ':' :: '/' :: '/' :: netloc := by
      have hletter := hscheme.letter
      cases scheme with
      | nil => nomatch hletter
      | cons c scheme =>
        rw [List.cons_append, List.dropWhile_cons, isControlOrSpace_of_isAlpha hletter, if_neg Bool.false_ne_true]
    have hkept : ∀ c ∈ scheme ++ ':' :: '/' :: '/' :: netloc, (!isRemoved c) = true := by
      intro c hc
      simp only [List.mem_append, List.mem_cons] at hc
      rcases hc with hc | rfl | rfl | rfl | hc
      · rw [isRemoved_of_isSchemeChar (List.all_eq_true.1 hscheme.chars c hc)]
        rfl
      · decide
      · decide
      · decide
      · exact (Bool.and_eq_true_iff.1 (List.all_eq_true.1 hnetloc c hc)).2
    rw [legible, hdrop, List.filter_eq_self.2 hkept]
  unfold urlparse
  simp only [hlegible, splitScheme_eq hscheme.letter hscheme.chars, hscheme.lower, splitNetloc_eq hnetloc, splitTail_nil]

theorem mem_splitFirst {c : Char} (sep : Char) (hc : c ∈ cs) :
    c ∈ (splitFirst sep cs).1 ∨ c = sep ∨ c ∈ (splitFirst sep cs).2 := by
  rw [← List.takeWhile_append_dropWhile (p := (· != sep)) (l := cs)] at hc
  rcases List.mem_append.1 hc with hc | hc
  · exact Or.inl hc
  right
  have hhead := List.head?_dropWhile_not (· != sep) cs
  unfold splitFirst
  cases hdrop : cs.dropWhile (· != sep) with
  | nil =>
    rw [hdrop] at hc
    nomatch hc
  | cons d rest =>
    rw [hdrop] at hc hhead
    rcases List.mem_cons.1 hc with rfl | hc
    · exact Or.inl (by simpa using hhead)
    · exact Or.inr hc

theorem mem_splitParams {c : Char} (hc : c ∈ cs) : c ∈ (splitParams cs).1 ∨ c = ';' ∨ c ∈ (splitParams cs).2 := by
  have hparts : cs = (cs.reverse.dropWhile (· != '/')).reverse ++ (cs.reverse.takeWhile (· != '/')).reverse := by
    rw [← List.reverse_append, List.takeWhile_append_dropWhile, List.reverse_reverse]
  unfold splitParams
  rw [hparts] at hc
  rcases List.mem_append.1 hc with hc | hc
  · exact Or.inl (List.mem_append_left _ hc)
  · rcases mem_splitFirst ';' hc with hc | hc
    · exact Or.inl (List.mem_append_right _ hc)
    · exact Or.inr hc

/-- A character behind the host stands in one of the other components, unless it separates them. -/
theorem mem_of_splitTail (scheme netloc : List Char) {tail : List Char} {c : Char} (hc : c ∈ tail) :
    (c = '#' ∨ c = '?' ∨ c = ';') ∨ c ∈ (splitTail scheme netloc tail).path ∨ c ∈ (splitTail scheme netloc tail).params ∨
      c ∈ (splitTail scheme netloc tail).query ∨ c ∈ (splitTail scheme netloc tail).fragment := by
  unfold splitTail
  dsimp only
  rcases mem_splitFirst '#' hc with hc | rfl | hc
  · rcases mem_splitFirst '?' hc with hc | rfl | hc
    · split
      · rcases mem_splitParams hc with hc | rfl | hc <;> tauto
      · tauto
    · tauto
    · tauto
  · tauto
  · tauto

/-- A URL that has a host and nothing behind it. -/
structure IsBare (checks : HostChecks) (cs : List Char) (p : Parts) : Prop where
  parsed : urlparse checks cs = some p
  scheme : p.scheme ≠ []
  netloc : p.netloc ≠ []
  path : p.path = []
  params : p.params = []
  query : p.query = []
  fragment : p.fragment = []

/-- Behind the host of a bare URL stand separators only. -/
theorem IsBare.tail (h : IsBare checks cs p) {c : Char} (hc : c ∈ (splitNetloc (splitScheme (legible cs)).2).2) :
    c = '#' ∨ c = '?' ∨ c = ';' := by
  obtain ⟨-, htail⟩ := urlparse_eq_some_iff.1 h.parsed
  rcases mem_of_splitTail (splitScheme (legible cs)).1 (splitNetloc (splitScheme (legible cs)).2).1 hc with hc | hc
  · exact hc
  · rw [htail, h.path, h.params, h.query, h.fragment] at hc
    simp at hc

/-- A bare URL does not end in a slash. -/
theorem IsBare.getLast? (h : IsBare checks cs p) : cs.getLast? ≠ some '/' := by
  intro hlast
  obtain ⟨before, rfl⟩ : ∃ before, cs = before ++ List.replicate 1 '/' := List.getLast?_eq_some_iff.1 hlast
  have hcolon : ':' ∉ List.replicate 1 '/' := by decide
  obtain ⟨-, hparts⟩ := urlparse_eq_some_iff.1 h.parsed
  have hscheme := h.scheme
  have hnetloc := h.netloc
  have htail := @IsBare.tail _ _ _ h '/'
  rw [← hparts] at hscheme hnetloc
  rw [legible_append_slashes] at hscheme hnetloc htail
  rw [splitScheme_append hcolon hscheme] at hnetloc htail
  dsimp only [splitTail] at hnetloc htail
  rw [splitNetloc_append_slashes 1 hnetloc] at htail
  exact absurd (htail (by simp)) (by decide)

/-- A character of a bare URL that can stand nowhere else stands in the host. -/
theorem IsBare.mem_netloc (h : IsBare checks cs p) {c : Char} (hc : c ∈ cs) (hcontrol : isControlOrSpace c = false)
    (hremoved : isRemoved c = false) (hscheme : isSchemeChar c = false) (hne : c ∉ [':', '/', '#', '?', ';']) :
    c ∈ p.netloc := by
  have hlegible := mem_legible hc hcontrol hremoved
  obtain ⟨-, hparts⟩ := urlparse_eq_some_iff.1 h.parsed
  have hfound := h.scheme
  have hhost := h.netloc
  have htail := @IsBare.tail _ _ _ h c
  rw [← hparts] at hfound hhost ⊢
  obtain ⟨scheme, rest, hsplit, -, hchars, hrest⟩ := of_splitScheme hfound
  rw [hsplit, List.mem_append, List.mem_cons] at hlegible
  dsimp only [splitTail] at hhost ⊢
  rw [hrest] at hhost htail ⊢
  dsimp only at hhost htail ⊢
  simp only [List.mem_cons, List.not_mem_nil, or_false, not_or] at hne
  rcases hlegible with hmem | hmem | hmem
  · rw [List.all_eq_true.1 hchars c hmem] at hscheme
    nomatch hscheme
  · exact (hne.1 hmem).elim
  · rw [of_splitNetloc hhost] at hmem
    simp only [List.mem_cons, List.mem_append] at hmem
    rcases hmem with hmem | hmem | hmem | hmem
    · exact (hne.2.1 hmem).elim
    · exact (hne.2.1 hmem).elim
    · exact hmem
    · rcases htail hmem with hsep | hsep | hsep
      · exact (hne.2.2.1 hsep).elim
      · exact (hne.2.2.2.1 hsep).elim
      · exact (hne.2.2.2.2 hsep).elim

end Url
