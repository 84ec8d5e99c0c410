import Mathlib.Data.List.Basic
import Mathlib.Tactic.Common

/-!
# Base64

`urlsafe_b64encode` and `urlsafe_b64decode` of Python's `base64`. Decoding skips the characters that stand for nothing
and stops at a complete padding, as `binascii.a2b_base64` does. What is encoded is decoded to what it was, also when the
padding has been dropped and is put back (`decode_padded`).
-/

namespace Base64

/-- The characters that stand for the numbers below 64. -/
def alphabet : List Char := "ABCDEFGHIJKLMNOPQRSTUVWXYZabcdefghijklmnopqrstuvwxyz0123456789-_".toList

/-- The character that stands for a number below 64. -/
def charOf (n : Nat) : Char := alphabet.getD n '='

/-- The number a character stands for; `+` and `/` stand for the same as `-` and `_`. -/
def valueOf (c : Char) : Option Nat :=
  if c = '+' then some 62 else if c = '/' then some 63 else alphabet.findIdx? (· == c)

/-- What is encoded, without the padding. -/
def encode : List UInt8 → List Char
  | a :: b :: c :: rest =>
    charOf (a.toNat / 4) :: charOf (a.toNat % 4 * 16 + b.toNat / 16) :: charOf (b.toNat % 16 * 4 + c.toNat / 64) ::
      charOf (c.toNat % 64) :: encode rest
  | [a, b] => [charOf (a.toNat / 4), charOf (a.toNat % 4 * 16 + b.toNat / 16), charOf (b.toNat % 16 * 4)]
  | [a] => [charOf (a.toNat / 4), charOf (a.toNat % 4 * 16)]
  | [] => []

/-- The padding that makes the length a multiple of four. -/
def padding (cs : List Char) : List Char := List.replicate ((4 - cs.length % 4) % 4) '='

/-- `urlsafe_b64encode`. -/
def urlsafeEncode (bytes : List UInt8) : List Char := encode bytes ++ padding (encode bytes)

/-- The loop of `a2b_base64`, with the place in the group of four, what is left of the character before, and the padding
so far. -/
def decodeLoop (place left pads : Nat) : List Char → Option (List UInt8)
  | [] => if place = 0 then some [] else none
  | c :: cs =>
    if c = '=' then
      if 2 ≤ place then (if 4 ≤ place + (pads + 1) then some [] else decodeLoop place left (pads + 1) cs)
      else decodeLoop place left pads cs
    else
      match valueOf c with
      | none => decodeLoop place left pads cs
      | some n =>
        match place with
        | 0 => decodeLoop 1 n 0 cs
        | 1 => (decodeLoop 2 (n % 16) 0 cs).map (UInt8.ofNat (left * 4 + n / 16) :: ·)
        | 2 => (decodeLoop 3 (n % 4) 0 cs).map (UInt8.ofNat (left * 16 + n / 4) :: ·)
        | _ => (decodeLoop 0 0 0 cs).map (UInt8.ofNat (left * 64 + n) :: ·)

/-- `urlsafe_b64decode` of a text, nothing when it raises a `ValueError`. -/
def urlsafeDecode (cs : List Char) : Option (List UInt8) := if cs.all (·.toNat < 128) then decodeLoop 0 0 0 cs else none

/-! ## What is encoded -/

theorem valueOf_charOf {n : Nat} (h : n < 64) : valueOf (charOf n) = some n ∧ charOf n ≠ '=' := by
  have hall : ∀ k : Fin 64, valueOf (charOf k) = some k.val ∧ charOf k ≠ '=' := by decide +kernel
  exact hall ⟨n, h⟩

section

variable {n : Nat} (h : n < 64) (left pads : Nat) (cs : List Char)

include h

theorem decodeLoop_zero : decodeLoop 0 left pads (charOf n :: cs) = decodeLoop 1 n 0 cs := by
  obtain ⟨hvalue, hne⟩ := valueOf_charOf h
  rw [decodeLoop, if_neg hne]
  simp only [hvalue]

theorem decodeLoop_one :
    decodeLoop 1 left pads (charOf n :: cs) = (decodeLoop 2 (n % 16) 0 cs).map
      (UInt8.ofNat (left * 4 + n / 16) :: ·) := by
  obtain ⟨hvalue, hne⟩ := valueOf_charOf h
  rw [decodeLoop, if_neg hne]
  simp only [hvalue]

theorem decodeLoop_two :
    decodeLoop 2 left pads (charOf n :: cs) = (decodeLoop 3 (n % 4) 0 cs).map (UInt8.ofNat (left * 16 + n / 4) :: ·) := by
  obtain ⟨hvalue, hne⟩ := valueOf_charOf h
  rw [decodeLoop, if_neg hne]
  simp only [hvalue]

theorem decodeLoop_three :
    decodeLoop 3 left pads (charOf n :: cs) = (decodeLoop 0 0 0 cs).map (UInt8.ofNat (left * 64 + n) :: ·) := by
  obtain ⟨hvalue, hne⟩ := valueOf_charOf h
  rw [decodeLoop, if_neg hne]
  simp only [hvalue]

end

theorem charOf_mem {n : Nat} (h : n < 64) : charOf n ∈ alphabet := by
  have hall : ∀ k : Fin 64, charOf k ∈ alphabet := by decide +kernel
  exact hall ⟨n, h⟩

/-- What is encoded has characters of the alphabet only. -/
theorem encode_subset (bytes : List UInt8) : encode bytes ⊆ alphabet := by
  have hmem : ∀ n, n < 64 → charOf n ∈ alphabet := fun n => charOf_mem
  fun_induction encode bytes with
  | case1 a b c rest ih =>
    have ha := a.toNat_lt
    have hb := b.toNat_lt
    have hc := c.toNat_lt
    simp only [List.cons_subset]
    exact ⟨hmem _ (by omega), hmem _ (by omega), hmem _ (by omega), hmem _ (by omega), ih⟩
  | case2 a b =>
    have ha := a.toNat_lt
    have hb := b.toNat_lt
    simp only [List.cons_subset, List.nil_subset, and_true]
    exact ⟨hmem _ (by omega), hmem _ (by omega), hmem _ (by omega)⟩
  | case3 a =>
    have ha := a.toNat_lt
    simp only [List.cons_subset, List.nil_subset, and_true]
    exact ⟨hmem _ (by omega), hmem _ (by omega)⟩
  | case4 => exact List.nil_subset _

/-- A byte is put together again of its upper and its lower bits. -/
theorem ofNat_eq {n : Nat} {b : UInt8} (h : n = b.toNat) : UInt8.ofNat n = b := by
  rw [h, UInt8.ofNat_toNat]

/-- A group of four characters leaves the padding as it is. -/
theorem padding_append {ds : List Char} (cs : List Char) (h : cs.length = 4) : padding (cs ++ ds) = padding ds := by
  have hlength : (cs.length + ds.length) % 4 = ds.length % 4 := by omega
  rw [padding, List.length_append, hlength, padding]

/-- A group of four characters is decoded to three bytes. -/
theorem decodeLoop_group (a b c : UInt8) (cs : List Char) :
    decodeLoop 0 0 0 (charOf (a.toNat / 4) :: charOf (a.toNat % 4 * 16 + b.toNat / 16) :: charOf
      (b.toNat % 16 * 4 + c.toNat / 64) ::
      charOf (c.toNat % 64) :: cs) = (decodeLoop 0 0 0 cs).map (a :: b :: c :: ·) := by
  have ha := a.toNat_lt
  have hb := b.toNat_lt
  have hc := c.toNat_lt
  rw [decodeLoop_zero (by omega), decodeLoop_one (by omega), decodeLoop_two (by omega), decodeLoop_three (by omega),
    Option.map_map, Option.map_map, ofNat_eq (b := a) (by omega), ofNat_eq (b := b) (by omega),
      ofNat_eq (b := c) (by omega)]
  rfl

/-- What is encoded and padded is decoded. -/
theorem decodeLoop_encode (bytes : List UInt8) :
    decodeLoop 0 0 0 (encode bytes ++ padding (encode bytes)) = some bytes := by
  fun_induction encode bytes with
  | case1 a b c rest ih =>
    have hgroup : ∀ w x y z : Char, padding (w :: x :: y :: z :: encode rest) = padding (encode rest) := fun w x y z =>
      padding_append [w, x, y, z] rfl
    rw [hgroup]
    refine (decodeLoop_group a b c (encode rest ++ padding (encode rest))).trans ?_
    rw [ih]
    rfl
  | case2 a b =>
    have ha := a.toNat_lt
    have hb := b.toNat_lt
    change decodeLoop 0 0 0 [charOf _, charOf _, charOf _, '='] = _
    rw [decodeLoop_zero (by omega), decodeLoop_one (by omega), decodeLoop_two (by omega), Option.map_map,
      ofNat_eq (b := a) (by omega), ofNat_eq (b := b) (by omega)]
    rfl
  | case3 a =>
    have ha := a.toNat_lt
    change decodeLoop 0 0 0 [charOf _, charOf _, '=', '='] = _
    rw [decodeLoop_zero (by omega), decodeLoop_one (by omega), ofNat_eq (b := a) (by omega)]
    rfl
  | case4 => rfl

/-- A text of the alphabet that is padded is ASCII. -/
theorem isAscii_padded {cs : List Char} (h : cs ⊆ alphabet) : (cs ++ padding cs).all (·.toNat < 128) = true := by
  have halphabet : alphabet.all (·.toNat < 128) = true := by decide +kernel
  refine List.all_eq_true.2 fun c hc => ?_
  rcases List.mem_append.1 hc with hc | hc
  · exact List.all_eq_true.1 halphabet c (h hc)
  · rw [List.eq_of_mem_replicate hc]
    decide

/-- What is encoded is decoded when the padding is put back. -/
theorem decode_padded (bytes : List UInt8) : urlsafeDecode (encode bytes ++ padding (encode bytes)) = some bytes := by
  rw [urlsafeDecode, if_pos (isAscii_padded (encode_subset bytes)), decodeLoop_encode]

end Base64
