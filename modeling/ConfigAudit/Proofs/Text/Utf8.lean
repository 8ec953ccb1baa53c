import ConfigAudit.Text.Utf8
import Mathlib.Tactic.Common
import Mathlib.Tactic.IntervalCases

/-! The lossy decoder drops nothing of a text that is encoded in UTF-8. Between two characters no
sequence is open, so each character is read on its own, and a byte that begins none is dropped without
a trace. -/
namespace ConfigAudit.Utf8

theorem continuation_toNat (n : Nat) : (continuation n).toNat = 0x80 + n % 0x40 := by
  rw [continuation, UInt8.toNat_ofNat']
  omega

theorem decodeFrom_none_ascii {n : Nat} (h : n < 0x80) (rest : List UInt8) :
    decodeFrom none (UInt8.ofNat n :: rest) = Char.ofNat n :: decodeFrom none rest := by
  have hn : (UInt8.ofNat n).toNat = n := by
    rw [UInt8.toNat_ofNat']
    omega
  rw [decodeFrom, advance, begin, hn, if_pos h]
  rfl

theorem decodeFrom_none_lead {b : UInt8} {p : Partial} (h : Partial.ofLead? b = some p)
    (rest : List UInt8) : decodeFrom none (b :: rest) = decodeFrom (some p) rest := by
  have hascii : ¬b.toNat < 0x80 := by
    intro hlt
    have hnone : Partial.ofLead? b = none := by
      unfold Partial.ofLead?
      dsimp only
      split_ifs <;> first | rfl | omega
    rw [hnone] at h
    cases h
  rw [decodeFrom, advance, begin, if_neg hascii, h]
  rfl

theorem accepts_continuation {p : Partial} {n : Nat} (hlow : p.low ≤ 0x80 + n % 0x40)
    (hhigh : 0x80 + n % 0x40 ≤ p.high) : p.accepts (continuation n) = true := by
  rw [Partial.accepts, continuation_toNat, decide_eq_true hlow, decide_eq_true hhigh]
  rfl

theorem push_continuation (p : Partial) (n : Nat) :
    p.push (continuation n) = ⟨p.value * 0x40 + n % 0x40, p.missing - 1, 0x80, 0xBF⟩ := by
  have hbits : (0x80 + n % 0x40) % 0x40 = n % 0x40 := by omega
  rw [Partial.push, continuation_toNat, hbits]

/-- A continuation byte inside a sequence adds its six bits. -/
theorem decodeFrom_some_next (value missing low high n : Nat) (hlow : low ≤ 0x80 + n % 0x40)
    (hhigh : 0x80 + n % 0x40 ≤ high) (rest : List UInt8) :
    decodeFrom (some ⟨value, missing + 2, low, high⟩) (continuation n :: rest) =
      decodeFrom (some ⟨value * 0x40 + n % 0x40, missing + 1, 0x80, 0xBF⟩) rest := by
  rw [decodeFrom, advance, accepts_continuation hlow hhigh, push_continuation]
  rfl

/-- The last continuation byte of a sequence completes a character. -/
theorem decodeFrom_some_last (value low high n : Nat) (hlow : low ≤ 0x80 + n % 0x40)
    (hhigh : 0x80 + n % 0x40 ≤ high) (rest : List UInt8) :
    decodeFrom (some ⟨value, 1, low, high⟩) (continuation n :: rest) =
      Char.ofNat (value * 0x40 + n % 0x40) :: decodeFrom none rest := by
  rw [decodeFrom, advance, accepts_continuation hlow hhigh, push_continuation]
  rfl

/-- The lead bytes of sequences of two. -/
theorem ofLead?_two {n : Nat} (hlow : 2 ≤ n) (hhigh : n ≤ 0x1F) :
    Partial.ofLead? (UInt8.ofNat (0xC0 + n)) = some ⟨n, 1, 0x80, 0xBF⟩ := by
  interval_cases n <;> rfl

/-- The lead bytes of sequences of three. The first of them bounds the second byte from below, so
that no shorter sequence has the same value, and the one of the surrogates from above. -/
theorem ofLead?_three {n : Nat} (h : n ≤ 0xF) :
    Partial.ofLead? (UInt8.ofNat (0xE0 + n)) =
      some ⟨n, 2, if n = 0 then 0xA0 else 0x80, if n = 0xD then 0x9F else 0xBF⟩ := by
  interval_cases n <;> rfl

/-- The lead bytes of sequences of four. The last of them bounds the second byte from above, since
no character has a greater value. -/
theorem ofLead?_four {n : Nat} (h : n ≤ 4) :
    Partial.ofLead? (UInt8.ofNat (0xF0 + n)) =
      some ⟨n, 3, if n = 0 then 0x90 else 0x80, if n = 4 then 0x8F else 0xBF⟩ := by
  interval_cases n <;> rfl

/-- Code points leave out the surrogates. -/
theorem toNat_valid (c : Char) : c.toNat < 0xD800 ∨ 0xDFFF < c.toNat ∧ c.toNat < 0x110000 :=
  c.valid

/-- Between characters, a character is read back whatever follows it. -/
theorem decodeFrom_encodeChar (c : Char) (rest : List UInt8) :
    decodeFrom none (encodeChar c ++ rest) = c :: decodeFrom none rest := by
  have hvalid := toNat_valid c
  have hread : ∀ n, n = c.toNat → Char.ofNat n = c := fun n hn => hn ▸ c.ofNat_toNat
  unfold encodeChar
  dsimp only
  by_cases hone : c.toNat < 0x80
  · rw [if_pos hone, List.singleton_append, decodeFrom_none_ascii hone, hread _ rfl]
  rw [if_neg hone]
  by_cases htwo : c.toNat < 0x800
  · rw [if_pos htwo, List.cons_append, List.singleton_append,
      decodeFrom_none_lead (ofLead?_two (by omega) (by omega)),
      decodeFrom_some_last _ _ _ _ (by omega) (by omega), hread _ (by omega)]
  rw [if_neg htwo]
  by_cases hthree : c.toNat < 0x10000
  · rw [if_pos hthree, List.cons_append, List.cons_append, List.singleton_append,
      decodeFrom_none_lead (ofLead?_three (by omega)),
      decodeFrom_some_next _ 0 _ _ _ (by split_ifs <;> omega) (by split_ifs <;> omega),
      decodeFrom_some_last _ _ _ _ (by omega) (by omega), hread _ (by omega)]
  · rw [if_neg hthree, List.cons_append, List.cons_append, List.cons_append,
      List.singleton_append, decodeFrom_none_lead (ofLead?_four (by omega)),
      decodeFrom_some_next _ 1 _ _ _ (by split_ifs <;> omega) (by split_ifs <;> omega),
      decodeFrom_some_next _ 0 _ _ _ (by omega) (by omega),
      decodeFrom_some_last _ _ _ _ (by omega) (by omega), hread _ (by omega)]

theorem decodeFrom_encode (t : Text) (rest : List UInt8) :
    decodeFrom none (encode t ++ rest) = t ++ decodeFrom none rest := by
  induction t with
  | nil => rfl
  | cons c r ih =>
    have hcons : encode (c :: r) ++ rest = encodeChar c ++ (encode r ++ rest) := by
      rw [encode, List.flatMap_cons, List.append_assoc, encode]
    rw [hcons, decodeFrom_encodeChar, ih, List.cons_append]

/-- The decoder is a left inverse of the encoder. -/
theorem decodeLossy_encode (t : Text) : decodeLossy (encode t) = t := by
  have h := decodeFrom_encode t []
  rwa [List.append_nil, decodeFrom, List.append_nil] at h

/-- A byte that begins no character: a continuation byte, or one that is in no encoding. -/
def IsStray (b : UInt8) : Prop := 0x80 ≤ b.toNat ∧ b.toNat ≤ 0xC1 ∨ 0xF5 ≤ b.toNat

instance (b : UInt8) : Decidable (IsStray b) := inferInstanceAs (Decidable (_ ∨ _))

/-- Between characters the stray bytes are those that are dropped at once. -/
theorem begin_eq_nil_none_iff (b : UInt8) : begin b = ([], none) ↔ IsStray b := by
  have hbyte := b.toNat_lt
  unfold begin Partial.ofLead? IsStray
  dsimp only
  split_ifs <;> simp <;> omega

/-- The bytes of a text with stray ones strewn between its characters, in front of them or behind
them. -/
inductive Strewn : Text → List UInt8 → Prop where
  | nil : Strewn [] []
  | stray {b : UInt8} {t : Text} {bytes : List UInt8} (hb : IsStray b) (h : Strewn t bytes) :
    Strewn t (b :: bytes)
  | char (c : Char) {t : Text} {bytes : List UInt8} (h : Strewn t bytes) :
    Strewn (c :: t) (encodeChar c ++ bytes)

namespace Strewn

variable {t : Text} {bytes : List UInt8}

theorem length_encode_le (h : Strewn t bytes) : (Utf8.encode t).length ≤ bytes.length := by
  induction h with
  | nil => exact Nat.le_refl _
  | stray _ _ ih => exact Nat.le_succ_of_le ih
  | char c _ ih =>
    rw [Utf8.encode, List.flatMap_cons, List.length_append, List.length_append]
    exact Nat.add_le_add_left ih _

/-- The decoder gets back the text: it stands between characters whenever a stray byte comes. -/
theorem decodeLossy_eq (h : Strewn t bytes) : decodeLossy bytes = t := by
  unfold decodeLossy
  induction h with
  | nil => rfl
  | @stray b t bytes hb _ ih =>
    rw [decodeFrom, advance, (begin_eq_nil_none_iff b).mpr hb]
    exact ih
  | char c _ ih => rw [decodeFrom_encodeChar, ih]

end Strewn

/-- Characters are encoded as in the strings of the core library. -/
theorem encodeChar_eq (c : Char) : encodeChar c = String.utf8EncodeChar c := by
  have hvalid := toNat_valid c
  have hn : c.val.toNat = c.toNat := rfl
  have hone : c.toNat ≤ 127 ↔ c.toNat < 0x80 := by omega
  have htwo : c.toNat ≤ 2047 ↔ c.toNat < 0x800 := by omega
  have hthree : c.toNat ≤ 65535 ↔ c.toNat < 0x10000 := by omega
  simp only [encodeChar, String.utf8EncodeChar, continuation, hn, hone, htwo, hthree]
  split_ifs with h1 h2 h3
  · rfl
  · rw [Nat.mod_eq_of_lt (by omega : c.toNat / 64 < 32), Nat.add_comm (c.toNat / 64),
      Nat.add_comm (c.toNat % 64)]
  · rw [Nat.mod_eq_of_lt (by omega : c.toNat / 4096 < 16), Nat.add_comm (c.toNat / 4096),
      Nat.add_comm (c.toNat / 64 % 64), Nat.add_comm (c.toNat % 64)]
  · rw [Nat.mod_eq_of_lt (by omega : c.toNat / 262144 < 8), Nat.add_comm (c.toNat / 262144),
      Nat.add_comm (c.toNat / 4096 % 64), Nat.add_comm (c.toNat / 64 % 64),
      Nat.add_comm (c.toNat % 64)]

theorem toByteArray_encode (t : Text) : (encode t).toByteArray = (String.ofList t).toByteArray := by
  rw [encode, funext encodeChar_eq, String.toByteArray_ofList]
  rfl

/-- A text has as many bytes as the string of its characters. -/
theorem encode_length (t : Text) : (encode t).length = (String.ofList t).utf8ByteSize := by
  have hsize := congrArg ByteArray.size (toByteArray_encode t)
  rwa [List.size_toByteArray, String.size_toByteArray] at hsize

end ConfigAudit.Utf8
