import Mathlib.Data.List.Basic
import StorageTopology.Json.Token
import StorageTopology.Json.Write

/-!
# Strings are read as they are written

* `foldlM_step_escapedChar`: inside a string the form of a character is read as its code point,
  whichever of the three forms it has: itself, a backslash and a letter, or four hexadecimal digits.
* `textOfUnits_toList`: no character has the code point of half a surrogate pair, so the code
  points of a text are the text.
* `foldlM_step_writeText`: **a text between its quotes is read as one token**, the text itself.
-/

namespace StorageTopology.Json

/-! ## Code units -/

/-- The code points of characters leave out the surrogates. -/
theorem not_surrogate (c : Char) :
    isHighSurrogate c.toNat = false ∧ isLowSurrogate c.toNat = false := by
  have hvalid : c.toNat < 0xd800 ∨ 0xdfff < c.toNat ∧ c.toNat < 0x110000 := c.valid
  simp only [isHighSurrogate, isLowSurrogate, Bool.and_eq_false_iff, decide_eq_false_iff_not]
  omega

theorem charsOfUnits_map_toNat (done cs : List Char) :
    charsOfUnits done (cs.map Char.toNat) = some (done.reverse ++ cs) := by
  induction cs generalizing done with
  | nil => simp [charsOfUnits]
  | cons c cs ih =>
    obtain ⟨hhigh, hlow⟩ := not_surrogate c
    rw [List.map_cons, charsOfUnits.eq_def]
    simp [hhigh, hlow, ih]

theorem textOfUnits_toList (s : String) : textOfUnits (s.toList.map Char.toNat) = some s := by
  simp [textOfUnits, charsOfUnits_map_toNat]

/-! ## Escapes -/

/-- A control character is written by four hexadecimal digits, of which it needs two. -/
theorem leftpad_toDigits_sixteen : ∀ n < 32, (Nat.toDigits 16 n).leftpad 4 '0' =
    ['0', '0', Nat.digitChar (n / 16), Nat.digitChar (n % 16)] := by
  decide

theorem hexDigit?_digitChar : ∀ d < 16, hexDigit? (Nat.digitChar d) = some d := by
  decide

/-- Four digits after `\u` are one code unit. -/
theorem foldlM_step_code {a b c d : Char} {w x y z : Nat} (ha : hexDigit? a = some w)
    (hb : hexDigit? b = some x) (hc : hexDigit? c = some y) (hd : hexDigit? d = some z)
    (units : List Nat) (tokens : List Token) :
    [a, b, c, d].foldlM Scanner.step ⟨.code units 4 0, tokens⟩ =
      some ⟨.text ((((w * 16 + x) * 16 + y) * 16 + z) :: units), tokens⟩ := by
  simp [Scanner.step, ha, hb, hc, hd]

theorem foldlM_step_control {c : Char} (hc : c.toNat < 0x20) (units : List Nat)
    (tokens : List Token) :
    (['\\', 'u'] ++ (Nat.toDigits 16 c.toNat).leftpad 4 '0').foldlM Scanner.step
      ⟨.text units, tokens⟩ = some ⟨.text (c.toNat :: units), tokens⟩ := by
  have hdigits := foldlM_step_code (hexDigit?_digitChar 0 (by decide))
    (hexDigit?_digitChar 0 (by decide)) (hexDigit?_digitChar (c.toNat / 16) (by omega))
    (hexDigit?_digitChar (c.toNat % 16) (by omega)) units tokens
  have hcode : ((0 * 16 + 0) * 16 + c.toNat / 16) * 16 + c.toNat % 16 = c.toNat := by omega
  rw [hcode] at hdigits
  rw [leftpad_toDigits_sixteen _ hc]
  exact hdigits

/-- **The form of a character is read as its code point.** -/
theorem foldlM_step_escapedChar (c : Char) (units : List Nat) (tokens : List Token) :
    (escapedChar c).foldlM Scanner.step ⟨.text units, tokens⟩ =
      some ⟨.text (c.toNat :: units), tokens⟩ := by
  unfold escapedChar
  -- The seven characters with a letter first, then a control character, then any other.
  split
  · subst c; rfl
  split
  · subst c; rfl
  split
  · subst c; rfl
  split
  · subst c; rfl
  split
  · subst c; rfl
  split
  · subst c; rfl
  split
  · subst c; rfl
  split
  · exact foldlM_step_control ‹_› units tokens
  · rename_i hquote hbackslash _ _ _ _ _ hprintable
    simp [Scanner.step, hquote, hbackslash, hprintable]

theorem foldlM_step_escapedChars (cs : List Char) (units : List Nat) (tokens : List Token) :
    (cs.flatMap escapedChar).foldlM Scanner.step ⟨.text units, tokens⟩ =
      some ⟨.text ((cs.map Char.toNat).reverse ++ units), tokens⟩ := by
  induction cs generalizing units with
  | nil => rfl
  | cons c cs ih =>
    rw [List.flatMap_cons, List.foldlM_append, foldlM_step_escapedChar, Option.bind_eq_bind,
      Option.bind_some, ih, List.map_cons, List.reverse_cons, List.append_assoc,
      List.singleton_append]

/-- **A text between its quotes is one token.** -/
theorem foldlM_step_writeText (s : String) (tokens : List Token) :
    (writeText (some s)).toList.foldlM Scanner.step ⟨.between, tokens⟩ =
      some ⟨.between, .text (some s) :: tokens⟩ := by
  have hopen : Scanner.step ⟨.between, tokens⟩ '"' = some ⟨.text [], tokens⟩ := rfl
  have hclose (units : List Nat) : Scanner.step ⟨.text units, tokens⟩ '"' =
      some ⟨.between, .text (textOfUnits units.reverse) :: tokens⟩ := rfl
  rw [writeText, String.toList_ofList, List.cons_append, List.foldlM_cons, hopen,
    Option.bind_eq_bind, Option.bind_some, List.foldlM_append, foldlM_step_escapedChars,
    Option.bind_eq_bind, Option.bind_some, List.foldlM_cons, hclose, List.append_nil,
    List.reverse_reverse, textOfUnits_toList]
  rfl

end StorageTopology.Json
