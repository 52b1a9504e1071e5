import Mathlib.Tactic.IntervalCases
import StorageTopology.Text.Utf8

/-!
# Decoding what was encoded

The encoding of a character is a lead byte and up to three bytes that continue it. The decoder opens
a sequence at the lead byte, takes in six bits with each byte that continues it, and closes it at
the last one.

* `foldl_step_encodeChar`: so it reads the encoding of a character as that character.
* `decode_encode`, `lossy_encode`: and the encoding of a text as that text, with nothing ill formed
  in it.
-/

namespace StorageTopology.Utf8

/-! ## One byte -/

variable (read : List (Option Char))

theorem lead_one {n : Nat} (hn : n < 0x80) :
    lead read (.ofNat n) = ⟨some (Char.ofNat n) :: read, none⟩ := by
  have hbyte : (UInt8.ofNat n).toNat = n := UInt8.toNat_ofNat_of_lt' (show _ < 256 by omega)
  unfold lead
  rw [hbyte, if_pos hn]

theorem lead_two {high : Nat} (hlow : 2 ≤ high) (hhigh : high < 0x20) :
    lead read (.ofNat (high + 0xc0)) = ⟨read, some ⟨1, 0x80, 0xbf, high⟩⟩ := by
  interval_cases high <;> rfl

/-- A sequence of three bytes: the second byte must not make it overlong or a surrogate. -/
theorem lead_three {high : Nat} (hhigh : high < 0x10) :
    lead read (.ofNat (high + 0xe0)) =
      ⟨read, some ⟨2, if high = 0 then 0xa0 else 0x80, if high = 0xd then 0x9f else 0xbf,
        high⟩⟩ := by
  interval_cases high <;> rfl

/-- A sequence of four bytes: the second byte must not make it overlong or too large. -/
theorem lead_four {high : Nat} (hhigh : high ≤ 4) :
    lead read (.ofNat (high + 0xf0)) =
      ⟨read, some ⟨3, if high = 0 then 0x90 else 0x80, if high = 4 then 0x8f else 0xbf,
        high⟩⟩ := by
  interval_cases high <;> rfl

/-- A byte in the range that an open sequence expects adds six bits to it. -/
theorem step_continuation {missing bits low : Nat} {lowest highest : UInt8} (hlow : low < 0x40)
    (hlowest : lowest.toNat ≤ low + 0x80) (hhighest : low + 0x80 ≤ highest.toNat) :
    step ⟨read, some ⟨missing + 1, lowest, highest, bits⟩⟩ (.ofNat (low + 0x80)) =
      if missing = 0 then ⟨some (Char.ofNat (bits * 64 + low)) :: read, none⟩
      else ⟨read, some ⟨missing, 0x80, 0xbf, bits * 64 + low⟩⟩ := by
  have hbyte : (UInt8.ofNat (low + 0x80)).toNat = low + 0x80 :=
    UInt8.toNat_ofNat_of_lt' (show _ < 256 by omega)
  unfold step
  simp only [UInt8.le_iff_toNat_le, hbyte]
  rw [if_pos ⟨hlowest, hhighest⟩, Nat.add_sub_cancel]
  by_cases hmissing : missing = 0
  · rw [if_pos (by omega), if_pos hmissing]
  · rw [if_neg (by omega), if_neg hmissing]
    rfl

/-- Behind its second byte, a sequence is continued by any six bits. -/
theorem step_tail {missing bits low : Nat} (hlow : low < 0x40) :
    step ⟨read, some ⟨missing + 1, 0x80, 0xbf, bits⟩⟩ (.ofNat (low + 0x80)) =
      if missing = 0 then ⟨some (Char.ofNat (bits * 64 + low)) :: read, none⟩
      else ⟨read, some ⟨missing, 0x80, 0xbf, bits * 64 + low⟩⟩ := by
  refine step_continuation read hlow (Nat.le_add_left _ _) ?_
  show _ ≤ 0xbf
  omega

/-! ## One sequence -/

theorem foldl_step_two {high low : Nat} (hlong : 2 ≤ high) (hhigh : high < 0x20)
    (hlow : low < 0x40) :
    [UInt8.ofNat (high + 0xc0), UInt8.ofNat (low + 0x80)].foldl step ⟨read, none⟩ =
      ⟨some (Char.ofNat (high * 64 + low)) :: read, none⟩ := by
  show step (lead read _) _ = _
  rw [lead_two read hlong hhigh, step_tail read hlow, if_pos rfl]

theorem foldl_step_three {high middle low : Nat} (hhigh : high < 0x10) (hmiddle : middle < 0x40)
    (hlow : low < 0x40) (hlong : high = 0 → 0x20 ≤ middle)
    (hsurrogate : high = 0xd → middle < 0x20) :
    [UInt8.ofNat (high + 0xe0), UInt8.ofNat (middle + 0x80), UInt8.ofNat (low + 0x80)].foldl step
        ⟨read, none⟩ =
      ⟨some (Char.ofNat ((high * 64 + middle) * 64 + low)) :: read, none⟩ := by
  have hlowest : (if high = 0 then 0xa0 else 0x80 : UInt8).toNat ≤ middle + 0x80 := by
    split
    · show 0xa0 ≤ _
      omega
    · exact Nat.le_add_left _ _
  have hhighest : middle + 0x80 ≤ (if high = 0xd then 0x9f else 0xbf : UInt8).toNat := by
    split
    · show _ ≤ 0x9f
      omega
    · show _ ≤ 0xbf
      omega
  show step (step (lead read _) _) _ = _
  rw [lead_three read hhigh, step_continuation read hmiddle hlowest hhighest, if_neg (by decide),
    step_tail read hlow, if_pos rfl]

theorem foldl_step_four {high upper middle low : Nat} (hhigh : high ≤ 4) (hupper : upper < 0x40)
    (hmiddle : middle < 0x40) (hlow : low < 0x40) (hlong : high = 0 → 0x10 ≤ upper)
    (hlarge : high = 4 → upper < 0x10) :
    [UInt8.ofNat (high + 0xf0), UInt8.ofNat (upper + 0x80), UInt8.ofNat (middle + 0x80),
        UInt8.ofNat (low + 0x80)].foldl step ⟨read, none⟩ =
      ⟨some (Char.ofNat (((high * 64 + upper) * 64 + middle) * 64 + low)) :: read, none⟩ := by
  have hlowest : (if high = 0 then 0x90 else 0x80 : UInt8).toNat ≤ upper + 0x80 := by
    split
    · show 0x90 ≤ _
      omega
    · exact Nat.le_add_left _ _
  have hhighest : upper + 0x80 ≤ (if high = 4 then 0x8f else 0xbf : UInt8).toNat := by
    split
    · show _ ≤ 0x8f
      omega
    · show _ ≤ 0xbf
      omega
  show step (step (step (lead read _) _) _) _ = _
  rw [lead_four read hhigh, step_continuation read hupper hlowest hhighest, if_neg (by decide),
    step_tail read hmiddle, if_neg (by decide), step_tail read hlow, if_pos rfl]

/-! ## One character -/

/-- **The encoding of a character is read as that character.** -/
theorem foldl_step_encodeChar (c : Char) :
    (String.utf8EncodeChar c).foldl step ⟨read, none⟩ = ⟨some c :: read, none⟩ := by
  have hc : Char.ofNat c.val.toNat = c := Char.ofNat_toNat c
  have hvalid : c.val.toNat < 0xd800 ∨ 0xdfff < c.val.toNat ∧ c.val.toNat < 0x110000 := c.valid
  have hsix (n : Nat) : n % 64 < 0x40 := Nat.mod_lt n (by decide)
  -- One case for each length. The masks of the encoder do nothing to a code point of that length.
  unfold String.utf8EncodeChar
  generalize c.val.toNat = n at hc hvalid
  simp only
  split_ifs with hone htwo hthree
  · show lead read _ = _
    rw [lead_one read (by omega), hc]
  · have hbits : n / 64 * 64 + n % 64 = n := by omega
    rw [Nat.mod_eq_of_lt (show n / 64 < 32 by omega),
      foldl_step_two read (by omega) (by omega) (hsix n), hbits, hc]
  · have hbits : (n / 4096 * 64 + n / 64 % 64) * 64 + n % 64 = n := by omega
    rw [Nat.mod_eq_of_lt (show n / 4096 < 16 by omega),
      foldl_step_three read (by omega) (hsix _) (hsix n) (by omega) (by omega), hbits, hc]
  · have hbits :
        ((n / 262144 * 64 + n / 4096 % 64) * 64 + n / 64 % 64) * 64 + n % 64 = n := by omega
    rw [Nat.mod_eq_of_lt (show n / 262144 < 8 by omega),
      foldl_step_four read (by omega) (hsix _) (hsix _) (hsix n) (by omega) (by omega), hbits, hc]

/-! ## A text -/

theorem foldl_step_encode : ∀ (cs : List Char) (read : List (Option Char)),
    (cs.flatMap String.utf8EncodeChar).foldl step ⟨read, none⟩ =
      ⟨(cs.map some).reverse ++ read, none⟩
  | [], read => rfl
  | c :: cs, read => by
    rw [List.flatMap_cons, List.foldl_append, foldl_step_encodeChar, foldl_step_encode cs,
      List.map_cons, List.reverse_cons, List.append_assoc]
    rfl

/-- **The encoding of a text is read as that text.** -/
theorem decode_encode (s : String) : decode (encode s) = s.toList.map some := by
  unfold decode encode
  rw [foldl_step_encode]
  simp

/-- Nothing in the encoding of a text is ill formed. -/
theorem lossy_encode (s : String) : lossy (encode s) = s := by
  unfold lossy
  rw [decode_encode]
  simp

end StorageTopology.Utf8
