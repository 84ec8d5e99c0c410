import Mathlib.Data.List.Basic
import Mathlib.Data.List.TakeWhile
import Mathlib.Tactic.Common

/-!
# Percent-encoded texts

`urllib.parse.quote` with no safe characters, `quote_plus` and `urlencode`, on the characters of a text, and what the
receiver of a request makes of its target: the segments of the path and the parameters of the query, each decoded to the
bytes of UTF-8 and these to characters. A target is read as what it was written from (`readTarget_query`), whatever
characters its parts have.
-/

namespace PercentEncoding

/-! ## Writing -/

/-- `_ALWAYS_SAFE`. -/
def isUnreserved (c : Char) : Bool := c.isAlphanum || c == '_' || c == '.' || c == '-' || c == '~'

/-- A digit of a number below 16. -/
def hexDigit (n : Nat) : Char := "0123456789ABCDEF".toList.getD n '0'

/-- The escape of a byte. -/
def escapeByte (b : UInt8) : List Char := ['%', hexDigit (b.toNat / 16), hexDigit (b.toNat % 16)]

/-- What a character is written as. -/
def quoteChar (c : Char) : List Char := if isUnreserved c then [c] else (String.utf8EncodeChar c).flatMap escapeByte

/-- `quote(value, safe="")`. -/
def quote (cs : List Char) : List Char := cs.flatMap quoteChar

/-- `quote_plus(value)`. -/
def quotePlus (cs : List Char) : List Char := cs.flatMap fun c => if c = ' ' then ['+'] else quoteChar c

/-- `urlencode(params)`. -/
def urlencode (params : List (List Char × List Char)) : List Char :=
  ['&'].intercalate (params.map fun param => quotePlus param.1 ++ '=' :: quotePlus param.2)

/-! ## Reading -/

/-- The number that a hexadecimal digit stands for. -/
def hexValue (c : Char) : Option Nat :=
  if '0' ≤ c ∧ c ≤ '9' then some (c.toNat - 48)
  else if 'A' ≤ c ∧ c ≤ 'F' then some (c.toNat - 55)
  else if 'a' ≤ c ∧ c ≤ 'f' then some (c.toNat - 87)
  else none

/-- The bytes of a text in which escapes stand for theirs. -/
def unquoteBytes : List Char → List UInt8
  | '%' :: a :: b :: cs =>
    match hexValue a, hexValue b with
    | some high, some low => UInt8.ofNat (high * 16 + low) :: unquoteBytes cs
    | _, _ => String.utf8EncodeChar '%' ++ unquoteBytes (a :: b :: cs)
  | c :: cs => String.utf8EncodeChar c ++ unquoteBytes cs
  | [] => []

/-- A decoded text, nothing when it is not one of UTF-8. -/
def unquote (cs : List Char) : Option (List Char) := (unquoteBytes cs).toByteArray.utf8Decode?.map Array.toList

/-- A decoded part of a query, where a plus stands for a space. -/
def unquotePlus (cs : List Char) : Option (List Char) := unquote (cs.map fun c => if c = '+' then ' ' else c)

/-- A parameter of a query. -/
def readParam (cs : List Char) : Option (List Char × List Char) := do
  let name ← unquotePlus (cs.takeWhile (· ≠ '='))
  let value ← unquotePlus ((cs.dropWhile (· ≠ '=')).drop 1)
  return (name, value)

/-- The parameters of a query. -/
def readQuery (cs : List Char) : Option (List (List Char × List Char)) :=
  if cs = [] then some [] else (cs.splitOn '&').mapM readParam

/-- The segments of a path that begins with a slash. -/
def readPath : List Char → Option (List (List Char))
  | '/' :: cs => (cs.splitOn '/').mapM unquote
  | _ => none

/-- The segments and the parameters of the target of a request. -/
def readTarget (cs : List Char) : Option (List (List Char) × List (List Char × List Char)) := do
  let segments ← readPath (cs.takeWhile (· ≠ '?'))
  let params ← readQuery ((cs.dropWhile (· ≠ '?')).drop 1)
  return (segments, params)

/-! ## What is read of what was written -/

/-- A digit that is written is read. -/
theorem hexValue_hexDigit {n : Nat} (h : n < 16) : hexValue (hexDigit n) = some n := by
  have hall : ∀ m : Fin 16, hexValue (hexDigit m) = some m.val := by decide
  exact hall ⟨n, h⟩

/-- The characters that are written. -/
def isWritten (c : Char) : Bool := isUnreserved c || c == '%'

/-- A hexadecimal digit is a character that is written. -/
theorem isWritten_hexDigit {n : Nat} (h : n < 16) : isWritten (hexDigit n) = true := by
  have hall : ∀ m : Fin 16, isWritten (hexDigit m) = true := by decide
  exact hall ⟨n, h⟩

/-- The two digits of a byte. -/
theorem byte_digits (b : UInt8) : b.toNat / 16 < 16 ∧ b.toNat % 16 < 16 ∧ b.toNat / 16 * 16 + b.toNat % 16 = b.toNat := by
  have hb := b.toNat_lt
  omega

/-- An escaped byte has only characters that are written. -/
theorem isWritten_of_mem_escapeByte {b : UInt8} {c : Char} (h : c ∈ escapeByte b) : isWritten c = true := by
  obtain ⟨hhigh, hlow, -⟩ := byte_digits b
  simp only [escapeByte, List.mem_cons, List.not_mem_nil, or_false] at h
  rcases h with rfl | rfl | rfl
  · rfl
  · exact isWritten_hexDigit hhigh
  · exact isWritten_hexDigit hlow

/-- A quoted character has only characters that are written. -/
theorem isWritten_of_mem_quoteChar {c d : Char} (h : d ∈ quoteChar c) : isWritten d = true := by
  unfold quoteChar at h
  split at h
  · next hc =>
    rw [List.mem_singleton.1 h]
    simp [isWritten, hc]
  · obtain ⟨b, -, hd⟩ := List.mem_flatMap.1 h
    exact isWritten_of_mem_escapeByte hd

/-- A quoted text has only characters that are written. -/
theorem isWritten_of_mem_quote {cs : List Char} {c : Char} (h : c ∈ quote cs) : isWritten c = true := by
  obtain ⟨d, -, hd⟩ := List.mem_flatMap.1 h
  exact isWritten_of_mem_quoteChar hd

/-- A parameter has only characters that are written, and `+`. -/
theorem mem_quotePlus {cs : List Char} {c : Char} (h : c ∈ quotePlus cs) : isWritten c = true ∨ c = '+' := by
  obtain ⟨d, -, hd⟩ := List.mem_flatMap.1 h
  split at hd
  · exact .inr (List.mem_singleton.1 hd)
  · exact .inl (isWritten_of_mem_quoteChar hd)

/-- An escape is read as the byte. -/
theorem unquoteBytes_escapeByte (b : UInt8) (cs : List Char) : unquoteBytes (escapeByte b ++ cs) = b ::
    unquoteBytes cs := by
  obtain ⟨hhigh, hlow, hb⟩ := byte_digits b
  simp only [escapeByte, List.cons_append, List.nil_append, unquoteBytes, hexValue_hexDigit hhigh,
    hexValue_hexDigit hlow, hb, UInt8.ofNat_toNat]

/-- Escaped bytes are read back. -/
theorem unquoteBytes_escapeBytes (bs : List UInt8) (cs : List Char) :
    unquoteBytes (bs.flatMap escapeByte ++ cs) = bs ++ unquoteBytes cs := by
  induction bs with
  | nil => rfl
  | cons b bs ih => rw [List.flatMap_cons, List.append_assoc, unquoteBytes_escapeByte, ih, List.cons_append]

/-- Any other character than `%` stands for its own bytes. -/
theorem unquoteBytes_cons {c : Char} (h : c ≠ '%') (cs : List Char) :
    unquoteBytes (c :: cs) = String.utf8EncodeChar c ++ unquoteBytes cs := by
  exact unquoteBytes.eq_2 c cs fun a b cs' heq => (h heq).elim

/-- A quoted character is read back as its bytes. -/
theorem unquoteBytes_quoteChar (c : Char) (cs : List Char) :
    unquoteBytes (quoteChar c ++ cs) = String.utf8EncodeChar c ++ unquoteBytes cs := by
  unfold quoteChar
  split
  · next hc =>
    refine unquoteBytes_cons ?_ cs
    rintro rfl
    exact absurd hc (by decide)
  · exact unquoteBytes_escapeBytes _ cs

/-- The bytes of what was written. -/
theorem unquoteBytes_quote (cs : List Char) : unquoteBytes (quote cs) = cs.flatMap String.utf8EncodeChar := by
  induction cs with
  | nil => rfl
  | cons c cs ih =>
    have happend := unquoteBytes_quoteChar c (quote cs)
    rw [ih] at happend
    exact happend

/-- A text that was quoted is read as itself. -/
theorem unquote_quote (cs : List Char) : unquote (quote cs) = some cs := by
  have hdecode := List.utf8Decode?_utf8Encode (l := cs)
  unfold List.utf8Encode at hdecode
  rw [unquote, unquoteBytes_quote, hdecode]
  rfl

/-- There is no `+` among the characters that are written. -/
theorem map_plus_of_isWritten {cs : List Char} (h : ∀ c ∈ cs, isWritten c = true) :
    (cs.map fun c => if c = '+' then ' ' else c) = cs := by
  refine (List.map_congr_left fun c hc => if_neg ?_).trans (List.map_id cs)
  rintro rfl
  exact absurd (h '+' hc) (by decide)

/-- A part of a query is read as itself. -/
theorem unquotePlus_quotePlus (cs : List Char) : unquotePlus (quotePlus cs) = some cs := by
  have hbytes : unquoteBytes ((quotePlus cs).map fun c => if c = '+' then ' ' else c) =
      cs.flatMap String.utf8EncodeChar := by
    induction cs with
    | nil => rfl
    | cons c cs ih =>
      have hcons : quotePlus (c :: cs) = (if c = ' ' then ['+'] else quoteChar c) ++ quotePlus cs := rfl
      rw [hcons, List.map_append, List.flatMap_cons]
      split
      · next hspace =>
        subst hspace
        exact (unquoteBytes_cons (by decide) _).trans (congrArg _ ih)
      · rw [map_plus_of_isWritten fun d hd => isWritten_of_mem_quoteChar hd, unquoteBytes_quoteChar, ih]
  have hdecode := List.utf8Decode?_utf8Encode (l := cs)
  unfold List.utf8Encode at hdecode
  rw [unquotePlus, unquote, hbytes, hdecode]
  rfl

/-! ## Targets -/

/-- What stands before a character that a text does not have, and what follows it. -/
theorem span_append {sep : Char} {cs : List Char} (h : sep ∉ cs) (rest : List Char) :
    (cs ++ sep :: rest).takeWhile (· ≠ sep) = cs ∧ (cs ++ sep :: rest).dropWhile (· ≠ sep) = sep :: rest := by
  have hne : ∀ c ∈ cs, decide (c ≠ sep) = true := fun c hc => decide_eq_true fun heq => h (heq ▸ hc)
  constructor
  · rw [List.takeWhile_append_of_pos hne, List.takeWhile_cons_of_neg (by simp), List.append_nil]
  · rw [List.dropWhile_append_of_pos hne, List.dropWhile_cons_of_neg (by simp)]

/-- A separator does not occur in a quoted text. -/
theorem not_mem_quote {sep : Char} (hsep : isWritten sep = false) (cs : List Char) : sep ∉ quote cs := fun h => by
  rw [isWritten_of_mem_quote h] at hsep
  cases hsep

/-- A separator does not occur in a parameter. -/
theorem not_mem_quotePlus {sep : Char} (hsep : isWritten sep = false) (hplus : sep ≠ '+') (cs : List Char) :
    sep ∉ quotePlus cs := fun h => by
  rcases mem_quotePlus h with h | h
  · rw [h] at hsep
    cases hsep
  · exact hplus h

/-- What is read back one by one is read back as a list. -/
theorem mapM_of_forall {α β : Type} {f : α → Option β} {g : β → α} (h : ∀ b, f (g b) = some b) (bs : List β) :
    (bs.map g).mapM f = some bs := by
  induction bs with
  | nil => rfl
  | cons b bs ih => simp [h, ih]

/-- A parameter that is written is read back. -/
theorem readParam_write (param : List Char × List Char) :
    readParam (quotePlus param.1 ++ '=' :: quotePlus param.2) = some param := by
  have hname : '=' ∉ quotePlus param.1 := not_mem_quotePlus (by decide) (by decide) param.1
  obtain ⟨htake, hdrop⟩ := span_append hname (quotePlus param.2)
  simp only [readParam, htake, hdrop, List.drop_one, List.tail_cons, unquotePlus_quotePlus]
  rfl

/-- The parameters of a query are read as they were. -/
theorem readQuery_urlencode (params : List (List Char × List Char)) : readQuery (urlencode params) = some params := by
  cases params with
  | nil => rfl
  | cons param params =>
    have hparts : ∀ part ∈ (param :: params).map fun param => quotePlus param.1 ++ '=' :: quotePlus param.2,
        '&' ∉ part := by
      rintro _ hpart hmem
      obtain ⟨param, -, rfl⟩ := List.mem_map.1 hpart
      rcases List.mem_append.1 hmem with hmem | hmem
      · exact not_mem_quotePlus (by decide) (by decide) _ hmem
      · rcases List.mem_cons.1 hmem with hmem | hmem
        · exact absurd hmem (by decide)
        · exact not_mem_quotePlus (by decide) (by decide) _ hmem
    have hne : urlencode (param :: params) ≠ [] := by
      intro hnil
      have hsplit := List.splitOn_intercalate '&' hparts (by simp)
      rw [← urlencode, hnil] at hsplit
      simp at hsplit
    rw [readQuery, if_neg hne, urlencode, List.splitOn_intercalate '&' hparts (by simp)]
    exact mapM_of_forall readParam_write _

/-! ## Paths -/

/-- What a segment of a path is written as. -/
structure IsSegment (raw segment : List Char) : Prop where
  slash : '/' ∉ raw
  question : '?' ∉ raw
  read : unquote raw = some segment

/-- A quoted text is a segment. -/
theorem isSegment_quote (cs : List Char) : IsSegment (quote cs) cs :=
  ⟨not_mem_quote (by decide) cs, not_mem_quote (by decide) cs, unquote_quote cs⟩

/-- A text without `%` stands for its own bytes. -/
theorem unquoteBytes_plain {cs : List Char} (h : '%' ∉ cs) : unquoteBytes cs = cs.flatMap String.utf8EncodeChar := by
  induction cs with
  | nil => rfl
  | cons c cs ih =>
    rw [unquoteBytes_cons fun hc => h (hc ▸ List.mem_cons_self), ih fun hmem => h (List.mem_cons_of_mem _ hmem),
      List.flatMap_cons]

/-- A text without escapes is a segment that stands for itself. -/
theorem isSegment_plain {cs : List Char} (h : (cs.all fun c => c != '%' && c != '/' && c != '?') = true) :
    IsSegment cs cs := by
  have hne : ∀ c ∈ cs, c ≠ '%' ∧ c ≠ '/' ∧ c ≠ '?' := fun c hc => by
    have hall := List.all_eq_true.1 h c hc
    simp only [Bool.and_eq_true, bne_iff_ne] at hall
    exact ⟨hall.1.1, hall.1.2, hall.2⟩
  have hdecode := List.utf8Decode?_utf8Encode (l := cs)
  unfold List.utf8Encode at hdecode
  refine ⟨fun hmem => (hne _ hmem).2.1 rfl, fun hmem => (hne _ hmem).2.2 rfl, ?_⟩
  rw [unquote, unquoteBytes_plain fun hmem => (hne _ hmem).1 rfl, hdecode]
  rfl

/-- A path of segments, with what each stands for. -/
def path (parts : List (List Char × List Char)) : List Char := parts.flatMap fun part => '/' :: part.1

variable {parts : List (List Char × List Char)}

/-- A path is its segments, each after a slash. -/
theorem path_eq (h : parts ≠ []) : path parts = '/' :: ['/'].intercalate (parts.map Prod.fst) := by
  obtain ⟨part, parts, rfl⟩ := List.exists_cons_of_ne_nil h
  induction parts generalizing part with
  | nil => simp [path]
  | cons next parts ih =>
    have hrest := ih next (by simp)
    rw [List.map_cons, List.intercalate_cons_of_ne_nil (by simp), List.append_assoc, List.singleton_append, ← hrest]
    rfl

/-- The segments of a path are read back. -/
theorem mapM_unquote (h : ∀ part ∈ parts, IsSegment part.1 part.2) :
    (parts.map Prod.fst).mapM unquote = some (parts.map Prod.snd) := by
  induction parts with
  | nil => rfl
  | cons part parts ih =>
    have hpart := (h part List.mem_cons_self).read
    simp [hpart, ih fun p hp => h p (List.mem_cons_of_mem _ hp)]

/-- The segments of a path are read as what they stand for. -/
theorem readPath_path (hne : parts ≠ []) (h : ∀ part ∈ parts, IsSegment part.1 part.2) :
    readPath (path parts) = some (parts.map Prod.snd) := by
  rw [path_eq hne, readPath, List.splitOn_intercalate '/' (fun raw hraw => ?_) (by simpa using hne)]
  · exact mapM_unquote h
  · obtain ⟨part, hpart, rfl⟩ := List.mem_map.1 hraw
    exact (h part hpart).slash

/-- A path has no question mark. -/
theorem not_mem_path (h : ∀ part ∈ parts, IsSegment part.1 part.2) : '?' ∉ path parts := by
  intro hmem
  obtain ⟨part, hpart, hraw⟩ := List.mem_flatMap.1 hmem
  rcases List.mem_cons.1 hraw with heq | hraw
  · exact absurd heq (by decide)
  · exact (h part hpart).question hraw

/-- A target with a query is read as what it was written from. -/
theorem readTarget_query (hne : parts ≠ []) (h : ∀ part ∈ parts, IsSegment part.1 part.2)
    (params : List (List Char × List Char)) :
    readTarget (path parts ++ '?' :: urlencode params) = some (parts.map Prod.snd, params) := by
  obtain ⟨htake, hdrop⟩ := span_append (not_mem_path h) (urlencode params)
  simp only [readTarget, htake, hdrop, List.drop_one, List.tail_cons, readPath_path hne h, readQuery_urlencode]
  rfl

/-- A target without a query has no parameters. -/
theorem readTarget_path (hne : parts ≠ []) (h : ∀ part ∈ parts, IsSegment part.1 part.2) :
    readTarget (path parts) = some (parts.map Prod.snd, []) := by
  have hall : ∀ c ∈ path parts, decide (c ≠ '?') = true := fun c hc => decide_eq_true fun heq => not_mem_path h (heq ▸ hc)
  have htake : (path parts).takeWhile (· ≠ '?') = path parts := List.takeWhile_eq_self_iff.2 hall
  have hdrop : (path parts).dropWhile (· ≠ '?') = [] := List.dropWhile_eq_nil_iff.2 hall
  simp only [readTarget, htake, hdrop, List.drop_nil, readPath_path hne h]
  rfl

end PercentEncoding
