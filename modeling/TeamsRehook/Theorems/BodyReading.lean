import TeamsRehook.Webhook.BodyReading

namespace TeamsRehook

/-! ## Reading a body -/

/-- The length a request declares: none without a header, or when it is no integer. -/
def declaredLength (P : Platform) (contentLengthHeader : Option String) : Option Int :=
  let contentLength := Python.strip (contentLengthHeader.getD "")
  if contentLength = "" then none else P.intOfText contentLength

/-- The declared length is larger than the limit. -/
def DeclaresTooMuch (P : Platform) (limit : Nat) (contentLengthHeader : Option String) : Prop :=
  ∃ n, declaredLength P contentLengthHeader = some n ∧ (limit : Int) < n

namespace BodyReadingAux

/-- The loop reads the bytes of the chunks, as far as the limit allows. -/
theorem readChunks_eq {limit : Nat} (stream : List Bytes) {chunks : List Bytes} {total : Nat}
    (htotal : total = chunks.flatten.length) (hlimit : total ≤ limit) :
    readChunks limit stream chunks total =
      if (chunks.flatten ++ stream.flatten).length ≤ limit then .ok (chunks.flatten ++ stream.flatten)
      else .error ((chunks.flatten ++ stream.flatten).take limit) := by
  induction stream generalizing chunks total with
  | nil =>
    rw [readChunks, List.flatten_nil, List.append_nil, if_pos (htotal ▸ hlimit)]
  | cons chunk stream ih =>
    rw [readChunks, List.flatten_cons]
    split
    next hempty => rw [ih htotal hlimit, hempty, List.nil_append]
    next =>
      dsimp only
      split
      next hover =>
        -- the chunk that goes beyond the limit is the last one that is read, and what follows it makes no difference
        have hlong : ¬(chunks.flatten ++ (chunk ++ stream.flatten)).length ≤ limit := by
          simp only [List.length_append]
          omega
        have hchunk : limit - chunks.flatten.length ≤ chunk.length := by omega
        have htake : (chunks.flatten ++ (chunk ++ stream.flatten)).take limit = chunks.flatten ++
            chunk.take (limit - total) := by
          rw [List.take_append, List.take_of_length_le (htotal ▸ hlimit), List.take_append_of_le_length hchunk, htotal]
        rw [if_neg hlong, htake]
        split
        next hnone => rw [hnone, List.take_zero, List.append_nil]
        next => rw [List.flatten_append, List.flatten_singleton]
      next hfits =>
        have hflatten : (chunks ++ [chunk]).flatten = chunks.flatten ++ chunk := by
          rw [List.flatten_append, List.flatten_singleton]
        rw [ih (by rw [hflatten, List.length_append, htotal]) (Nat.not_lt.1 hfits), hflatten, List.append_assoc]

/-- What is read of a stream. -/
theorem readLimitedBody_eq (P : Platform) (maxBytes : Int) (header : Option String) (stream : List Bytes) :
    (DeclaresTooMuch P (max 0 maxBytes).toNat header → readLimitedBody P maxBytes header stream = .error []) ∧
      (¬DeclaresTooMuch P (max 0 maxBytes).toNat header →
        readLimitedBody P maxBytes header stream =
          if stream.flatten.length ≤ (max 0 maxBytes).toNat then .ok stream.flatten
          else .error (stream.flatten.take (max 0 maxBytes).toNat)) := by
  have hlimit : ((max 0 maxBytes).toNat : Int) = max 0 maxBytes := Int.toNat_of_nonneg (le_max_left 0 maxBytes)
  have hdeclares : DeclaresTooMuch P (max 0 maxBytes).toNat header ↔
      Python.strip (header.getD "") ≠ "" ∧ max 0 maxBytes < (P.intOfText (Python.strip (header.getD ""))).getD 0 := by
    unfold DeclaresTooMuch declaredLength
    rw [hlimit]
    dsimp only
    split
    next hblank => simp [hblank]
    next hgiven =>
      cases P.intOfText (Python.strip (header.getD "")) with
      | none => simp
      | some n => simp [hgiven]
  unfold readLimitedBody
  dsimp only
  rw [hdeclares]
  constructor
  · intro h
    rw [if_pos h]
  · intro h
    have hempty : 0 = ([] : List Bytes).flatten.length := rfl
    rw [if_neg h, readChunks_eq stream hempty (Nat.zero_le _)]
    simp only [List.flatten_nil, List.nil_append]

end BodyReadingAux

open BodyReadingAux

/-- Reading a body, for every limit, header and stream: it gives the bytes of the stream exactly when they are not more
than the limit and the declared length is not; a body that is too large leaves nothing when its declared length is, and
as many bytes as the limit allows otherwise; and the chunks make no difference. -/
theorem read_limited_body_law (P : Platform) (maxBytes : Int) (header : Option String) (stream : List Bytes) :
    (∀ body, readLimitedBody P maxBytes header stream = .ok body ↔
      body = stream.flatten ∧ body.length ≤ (max 0 maxBytes).toNat ∧ ¬DeclaresTooMuch P (max 0 maxBytes).toNat header) ∧
    (∀ partialBody, readLimitedBody P maxBytes header stream = .error partialBody →
      (DeclaresTooMuch P (max 0 maxBytes).toNat header → partialBody = []) ∧
      (¬DeclaresTooMuch P (max 0 maxBytes).toNat header → partialBody = stream.flatten.take (max 0 maxBytes).toNat)) ∧
    ∀ stream', stream'.flatten = stream.flatten →
      readLimitedBody P maxBytes header stream' = readLimitedBody P maxBytes header stream := by
  have hread := readLimitedBody_eq P maxBytes header
  refine ⟨fun body => ?_, fun partialBody h => ⟨fun hdeclared => ?_, fun hdeclared => ?_⟩, fun stream' hsame => ?_⟩
  · by_cases hdeclared : DeclaresTooMuch P (max 0 maxBytes).toNat header
    · rw [(hread stream).1 hdeclared]
      exact ⟨nofun, fun h => absurd hdeclared h.2.2⟩
    · rw [(hread stream).2 hdeclared]
      split
      next hfits =>
        constructor
        · rintro ⟨⟩
          exact ⟨rfl, hfits, hdeclared⟩
        · rintro ⟨rfl, -, -⟩
          rfl
      next hover =>
        refine ⟨nofun, ?_⟩
        rintro ⟨rfl, hfits, -⟩
        exact absurd hfits hover
  · rw [(hread stream).1 hdeclared] at h
    exact (Except.error.inj h).symm
  · rw [(hread stream).2 hdeclared] at h
    split at h
    · nomatch h
    · exact (Except.error.inj h).symm
  · by_cases hdeclared : DeclaresTooMuch P (max 0 maxBytes).toNat header
    · rw [(hread stream).1 hdeclared, (hread stream').1 hdeclared]
    · rw [(hread stream).2 hdeclared, (hread stream').2 hdeclared, hsame]

end TeamsRehook
