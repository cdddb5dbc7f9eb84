import Mathlib.Data.List.TakeWhile
import ScriptHost.Text.Utf8

/-!
# The bytes of a text

A text is encoded character by character. So a reader of bytes that may not be UTF-8 gets back
what was encoded, and an octet below 0x80 among the bytes is that character in the text.

The same octets divide a lossy reading: no encoding and no invalid piece reaches over one, whatever
stands in front of it or behind it.

* `lossy_encode`: the lossy reading of encoded text is the text.
* `mem_encode_iff`, `zero_mem_encode_iff`: where the octets below 0x80 are, and the NULs.
* `mem_of_mem_lossyChars`, `lossyChars_append_cons`: what a lossy reading makes of such an octet.
* `untilNul_of_no_nul`: without a NUL, a reader of NUL-terminated strings gets everything.
* `findIdx?_zero_of_no_nul`, `findIdx?_zero_append`: where a search for the first one ends.
-/
namespace ScriptHost

/-- Nothing is cut off in front of an octet that is not there. -/
theorem takeWhile_ne_of_not_mem {x : UInt8} {b : Bytes} (h : x ∉ b) :
    b.takeWhile (· ≠ x) = b := by
  rw [List.takeWhile_eq_self_iff]
  intro y hy
  rw [decide_eq_true_eq]
  rintro rfl
  exact h hy

theorem untilNul_of_no_nul {b : Bytes} (h : 0 ∉ b) : untilNul b = b :=
  takeWhile_ne_of_not_mem h

theorem findIdx?_zero_of_no_nul {b : Bytes} (h : 0 ∉ b) : b.findIdx? (· = 0) = none := by
  rw [List.findIdx?_eq_none_iff]
  intro x hx
  rw [decide_eq_false_iff_not]
  rintro rfl
  exact h hx

theorem findIdx?_zero_append {front : Bytes} (h : 0 ∉ front) (back : Bytes) :
    (front ++ 0 :: back).findIdx? (· = 0) = some front.length := by
  simp [List.findIdx?_append, findIdx?_zero_of_no_nul h, List.findIdx?_cons]

namespace Utf8

theorem encode_eq_flatMap (s : String) :
    encode s = s.toList.flatMap String.utf8EncodeChar := by
  rw [encode, String.toUTF8, ← String.utf8Encode_toList, List.utf8Encode, List.data_toByteArray]

theorem encode_append (s t : String) : encode (s ++ t) = encode s ++ encode t := by
  rw [encode_eq_flatMap, encode_eq_flatMap, encode_eq_flatMap, String.toList_append,
    List.flatMap_append]

/-! ## Lossy reading -/

theorem head?_utf8EncodeChar_append (c : Char) (rest : Bytes) :
    head? (String.utf8EncodeChar c ++ rest) = some c := by
  have hl : (String.utf8EncodeChar c).length ≤ 4 := by
    rw [String.length_utf8EncodeChar]
    exact c.utf8Size_le_four
  -- The four bytes that are looked at hold the whole encoding.
  obtain ⟨more, hm⟩ : ∃ more : Bytes, (String.utf8EncodeChar c ++ rest).take 4 =
      String.utf8EncodeChar c ++ more :=
    ⟨_, by rw [List.take_append, List.take_of_length_le hl]⟩
  have happ : ByteArray.mk (String.utf8EncodeChar c ++ more).toArray =
      (String.utf8EncodeChar c).toByteArray ++ more.toByteArray := by
    rw [← List.toByteArray_append]
    ext1
    simp
  rw [head?, hm, happ, ByteArray.utf8DecodeChar?_utf8EncodeChar_append]

/-- `b` starts with the character whose encoding is a prefix of it. -/
theorem head?_eq_some_iff {b : Bytes} {c : Char} :
    head? b = some c ↔ String.utf8EncodeChar c <+: b := by
  constructor
  · intro h
    obtain ⟨more, hm⟩ := ByteArray.exists_of_utf8DecodeChar?_eq_some h
    have ht : b.take 4 = String.utf8EncodeChar c ++ more.data.toList := by
      have := congrArg (fun x : ByteArray => x.data.toList) hm
      simpa using this
    exact (List.prefix_append _ _).trans (ht ▸ List.take_prefix 4 b)
  · rintro ⟨rest, rfl⟩
    exact head?_utf8EncodeChar_append c rest

theorem lossyChars_of_none {b : Bytes} (hb : b ≠ []) (h : head? b = none) :
    lossyChars b = '\uFFFD' :: lossyChars (b.drop (invalidLength b)) := by
  cases b with
  | nil => exact absurd rfl hb
  | cons a rest =>
    rw [lossyChars]
    simp only [h]

theorem lossyChars_of_head? {b : Bytes} {c : Char} (h : head? b = some c) :
    lossyChars b = c :: lossyChars (b.drop c.utf8Size) := by
  cases b with
  | nil => cases h
  | cons a rest =>
    rw [lossyChars]
    simp only [h]

theorem lossyChars_ne_nil {b : Bytes} (hb : b ≠ []) : lossyChars b ≠ [] := by
  cases h : head? b with
  | none =>
    rw [lossyChars_of_none hb h]
    exact List.cons_ne_nil _ _
  | some c =>
    rw [lossyChars_of_head? h]
    exact List.cons_ne_nil _ _

theorem lossyChars_flatMap (cs : List Char) :
    lossyChars (cs.flatMap String.utf8EncodeChar) = cs := by
  induction cs with
  | nil => simp [lossyChars]
  | cons c cs ih =>
    rw [List.flatMap_cons, lossyChars_of_head? (head?_utf8EncodeChar_append c _),
      ← String.length_utf8EncodeChar, List.drop_left, ih]

theorem lossy_encode (s : String) : lossy (encode s) = s := by
  rw [lossy, encode_eq_flatMap, lossyChars_flatMap, String.ofList_toList]

theorem encode_injective : Function.Injective encode :=
  Function.LeftInverse.injective lossy_encode

/-! ## Octets below 0x80 -/

theorem le_or_of_le {x y : UInt8} (hy : 0x80 ≤ y) : 0x80 ≤ x ||| y := by
  rw [UInt8.le_iff_toNat_le] at hy ⊢
  rw [UInt8.toNat_or]
  exact hy.trans Nat.right_le_or

theorem utf8EncodeChar_ofUInt8 {x : UInt8} (hx : x < 0x80) :
    String.utf8EncodeChar (Char.ofUInt8 x) = [x] := by
  have h1 : (Char.ofUInt8 x).utf8Size = 1 := by
    apply Char.utf8Size_eq_one_iff.2
    exact Nat.le_of_lt_succ hx
  rw [String.utf8EncodeChar_eq_singleton h1, List.singleton_inj]
  apply UInt8.toNat_inj.1
  change x.toNat % 256 = x.toNat
  have := x.toNat_lt
  omega

/-- An octet below 0x80 is the whole encoding of a character and never a part of a longer one. -/
theorem mem_utf8EncodeChar_iff {c : Char} {x : UInt8} (hx : x < 0x80) :
    x ∈ String.utf8EncodeChar c ↔ c = Char.ofUInt8 x := by
  -- Every octet of a longer encoding has its highest bit set.
  have hne : ∀ y z : UInt8, 0x80 ≤ z → x ≠ y ||| z := by
    intro y z hz he
    have hge : 0x80 ≤ x := he ▸ le_or_of_le hz
    exact absurd hx (UInt8.not_lt.2 hge)
  constructor
  · intro h
    rcases c.utf8Size_eq with h1 | h2 | h3 | h4
    · have hl : c.val.toNat ≤ 127 := Char.utf8Size_eq_one_iff.1 h1
      rw [String.utf8EncodeChar_eq_singleton h1, List.mem_singleton] at h
      apply Char.ext
      apply UInt32.toNat_inj.1
      have hv : x.toNat = c.val.toNat % 256 := congrArg UInt8.toNat h
      change c.val.toNat = x.toNat
      omega
    · rw [String.utf8EncodeChar_eq_cons_cons h2] at h
      simp [hne] at h
    · rw [String.utf8EncodeChar_eq_cons_cons_cons h3] at h
      simp [hne] at h
    · rw [String.utf8EncodeChar_eq_cons_cons_cons_cons h4] at h
      simp [hne] at h
  · rintro rfl
    rw [utf8EncodeChar_ofUInt8 hx, List.mem_singleton]

theorem mem_encode_iff {s : String} {x : UInt8} (hx : x < 0x80) :
    x ∈ encode s ↔ Char.ofUInt8 x ∈ s.toList := by
  simp [encode_eq_flatMap, List.mem_flatMap, mem_utf8EncodeChar_iff hx]

theorem zero_mem_encode_iff {s : String} : 0 ∈ encode s ↔ '\x00' ∈ s.toList :=
  mem_encode_iff (by decide)

/-- A character that is read below 0x80 was there as an octet. -/
theorem mem_of_mem_lossyChars {x : UInt8} (hx : x < 0x80) {b : Bytes}
    (h : Char.ofUInt8 x ∈ lossyChars b) : x ∈ b := by
  induction b using lossyChars.induct with
  | case1 => simp [lossyChars] at h
  | case2 a rest c hc ih =>
    rw [lossyChars_of_head? hc, List.mem_cons] at h
    rcases h with h | h
    · obtain ⟨more, hm⟩ := head?_eq_some_iff.1 hc
      rw [← hm]
      exact List.mem_append_left _ ((mem_utf8EncodeChar_iff hx).2 h.symm)
    · exact List.mem_of_mem_drop (ih h)
  | case3 a rest hc ih =>
    rw [lossyChars_of_none (by simp) hc, List.mem_cons] at h
    rcases h with h | h
    · -- U+FFFD is no such character.
      have hv : x.toNat = 0xFFFD := congrArg (fun c : Char => c.val.toNat) h
      have := x.toNat_lt
      omega
    · exact List.mem_of_mem_drop (ih h)

theorem continues_of_lt (first : UInt8) {x : UInt8} (hx : x < 0x80) :
    continues first x = false := by
  have hlow : ∀ y : UInt8, 0x80 ≤ y → ¬ y ≤ x := by
    intro y hy hyx
    exact absurd (UInt8.lt_of_le_of_lt (UInt8.le_trans hy hyx) hx) (by decide)
  simp [continues, hlow]

/-- No invalid piece reaches over an octet below 0x80. -/
theorem invalidLength_append_cons {x : UInt8} (hx : x < 0x80) {b : Bytes} (hb : b ≠ [])
    (rest : Bytes) :
    invalidLength (b ++ x :: rest) = invalidLength b ∧ invalidLength b ≤ b.length := by
  have hlow : ¬ 0x80 ≤ x := UInt8.not_le.2 hx
  match b, hb with
  | [a], _ =>
    have hn : continues a x = false := continues_of_lt a hx
    cases rest <;> simp [invalidLength, hn]
  | [a, b], _ => cases h : continues a b <;> simp [invalidLength, h, hlow]
  | a :: b :: c :: more, _ =>
    refine ⟨by simp [invalidLength], ?_⟩
    rw [invalidLength]
    split <;> (try split) <;> simp

/-- An encoding that starts in front of an octet below 0x80 ends there. -/
theorem utf8EncodeChar_prefix_of_append {x : UInt8} (hx : x < 0x80) {b rest : Bytes} (hb : b ≠ [])
    {c : Char} (h : String.utf8EncodeChar c <+: b ++ x :: rest) : String.utf8EncodeChar c <+: b := by
  have hcut : b ++ [x] <+: b ++ x :: rest := ⟨rest, by simp⟩
  have hlong : ¬ b ++ [x] <+: String.utf8EncodeChar c := by
    intro hp
    have hc : c = Char.ofUInt8 x := (mem_utf8EncodeChar_iff hx).1 (hp.subset (by simp))
    have hlen := hp.length_le
    have := List.length_pos_iff.2 hb
    rw [hc, utf8EncodeChar_ofUInt8 hx, List.length_append, List.length_singleton] at hlen
    omega
  rcases List.prefix_or_prefix_of_prefix h hcut with hp | hp
  · rcases List.prefix_concat_iff.1 hp with he | hp
    · exact absurd (he ▸ List.prefix_rfl) hlong
    · exact hp
  · exact absurd hp hlong

/-- A lossy reading may be cut in front of any octet below 0x80. -/
theorem lossyChars_append_cons {x : UInt8} (hx : x < 0x80) (b rest : Bytes) :
    lossyChars (b ++ x :: rest) = lossyChars b ++ Char.ofUInt8 x :: lossyChars rest := by
  induction b using lossyChars.induct with
  | case1 =>
    have hh : head? (x :: rest) = some (Char.ofUInt8 x) := by
      rw [head?_eq_some_iff, utf8EncodeChar_ofUInt8 hx]
      exact ⟨rest, rfl⟩
    rw [List.nil_append, lossyChars_of_head? hh, ← String.length_utf8EncodeChar,
      utf8EncodeChar_ofUInt8 hx]
    simp [lossyChars]
  | case2 a front c hc ih =>
    have hp := head?_eq_some_iff.1 hc
    have hh : head? (a :: front ++ x :: rest) = some c :=
      head?_eq_some_iff.2 (hp.trans (List.prefix_append _ _))
    have hlen : c.utf8Size ≤ (a :: front).length := by
      rw [← String.length_utf8EncodeChar]
      exact hp.length_le
    rw [lossyChars_of_head? hh, lossyChars_of_head? hc, List.drop_append_of_le_length hlen, ih,
      List.cons_append]
  | case3 a front hc ih =>
    have hne : a :: front ≠ [] := List.cons_ne_nil _ _
    have hh : head? (a :: front ++ x :: rest) = none := by
      rw [Option.eq_none_iff_forall_ne_some] at hc ⊢
      intro c hs
      exact hc c (head?_eq_some_iff.2
        (utf8EncodeChar_prefix_of_append hx hne (head?_eq_some_iff.1 hs)))
    obtain ⟨hi, hlen⟩ := invalidLength_append_cons hx hne rest
    rw [lossyChars_of_none (by simp) hh, lossyChars_of_none hne hc, hi,
      List.drop_append_of_le_length hlen, ih, List.cons_append]

end Utf8

end ScriptHost
