import StorageTopology.Proofs.Json.Number
import StorageTopology.Proofs.Json.Text
import StorageTopology.Proofs.Json.Tokens

/-!
# Both written forms are scanned to the tokens of the value

A text may end in the middle of a word or a number, which is over only with the next character.
So there are two ways to spell tokens: `Spells` for a text that is over with its last character,
and `SpellsUpTo` for one that is over with the next one, if that is a break. The two are put
together by `Spells.append_upTo` and `SpellsUpTo.append`, after which no proof runs the scanner.

* `spells_array`, `spells_object`: a container is spelled by its items or members, with blanks
  where the two forms differ.
* `compact_spells`, `pretty_spells`: **both forms of a plain value spell its tokens**, by induction
  on the value.
* `parse?_compact`, `parse?_pretty`: **and so both are read back as the value**.
-/

namespace StorageTopology.Json

/-- A character that goes on neither with a word nor with a number. -/
def isBreak (c : Char) : Bool := !c.isAlpha && !isNumberChar c

/-- The scanner is done with `tokens` (the latest first), of which the first may still be going on:
the text may end here, and a break is read as if it were outside of words and numbers. -/
structure Scanner.Done (s : Scanner) (tokens : List Token) : Prop where
  finish : s.finish = some tokens
  step : ∀ c, isBreak c = true → s.step c = Scanner.start tokens c

/-- `cs` writes `ts` and is over. -/
def Spells (cs : List Char) (ts : List Token) : Prop :=
  ∀ tokens, cs.foldlM Scanner.step ⟨.between, tokens⟩ = some ⟨.between, ts.reverse ++ tokens⟩

/-- `cs` writes `ts`, the last of which may be over only with the next character. -/
def SpellsUpTo (cs : List Char) (ts : List Token) : Prop :=
  ∀ tokens, ∃ s : Scanner,
    cs.foldlM Scanner.step ⟨.between, tokens⟩ = some s ∧ s.Done (ts.reverse ++ tokens)

/-! ## Putting texts together -/

section Append

variable {a b : List Char} {s t : List Token}

theorem Spells.upTo (h : Spells a s) : SpellsUpTo a s :=
  fun tokens => ⟨_, h tokens, rfl, fun _ _ => rfl⟩

theorem Spells.nil : Spells [] [] := fun _ => rfl

theorem Spells.foldlM_append (ha : Spells a s) (tokens : List Token) :
    (a ++ b).foldlM Scanner.step ⟨.between, tokens⟩ =
      b.foldlM Scanner.step ⟨.between, s.reverse ++ tokens⟩ := by
  rw [List.foldlM_append, ha, Option.bind_eq_bind, Option.bind_some]

theorem Spells.append (ha : Spells a s) (hb : Spells b t) : Spells (a ++ b) (s ++ t) := by
  intro tokens
  rw [ha.foldlM_append, hb, List.reverse_append, List.append_assoc]

theorem Spells.append_upTo (ha : Spells a s) (hb : SpellsUpTo b t) :
    SpellsUpTo (a ++ b) (s ++ t) := by
  intro tokens
  rw [ha.foldlM_append, List.reverse_append, List.append_assoc]
  exact hb (s.reverse ++ tokens)

/-- What is going on is over if the next text starts with a break. -/
theorem SpellsUpTo.foldlM_append (ha : SpellsUpTo a s) (hbreak : b.head?.any isBreak = true)
    (tokens : List Token) : (a ++ b).foldlM Scanner.step ⟨.between, tokens⟩ =
      b.foldlM Scanner.step ⟨.between, s.reverse ++ tokens⟩ := by
  obtain ⟨scanner, hscan, hdone⟩ := ha tokens
  rw [List.foldlM_append, hscan, Option.bind_eq_bind, Option.bind_some]
  cases b with
  | nil => cases hbreak
  | cons c rest =>
    rw [List.foldlM_cons, List.foldlM_cons, hdone.step c hbreak]
    rfl

theorem SpellsUpTo.append (ha : SpellsUpTo a s) (hb : Spells b t)
    (hbreak : b.head?.any isBreak = true) : Spells (a ++ b) (s ++ t) := by
  intro tokens
  rw [ha.foldlM_append hbreak, hb, List.reverse_append, List.append_assoc]

theorem SpellsUpTo.append_upTo (ha : SpellsUpTo a s) (hb : SpellsUpTo b t)
    (hbreak : b.head?.any isBreak = true) : SpellsUpTo (a ++ b) (s ++ t) := by
  intro tokens
  rw [ha.foldlM_append hbreak, List.reverse_append, List.append_assoc]
  exact hb (s.reverse ++ tokens)

theorem scan_of_spellsUpTo (h : SpellsUpTo a s) : scan a = some s := by
  obtain ⟨scanner, hscan, hdone⟩ := h []
  simp [scan, hscan, hdone.finish]

end Append

/-! ## Blanks, words, numbers and texts -/

/-- The blanks that the two forms have between tokens. -/
def IsGap (cs : List Char) : Prop := ∀ c ∈ cs, c = ' ' ∨ c = '\n'

theorem IsGap.nil : IsGap [] := nofun

theorem isGap_newline (depth : Nat) : IsGap (Value.newline depth).toList := by
  intro c hc
  rw [Value.newline, String.toList_ofList, List.mem_cons, List.mem_replicate] at hc
  exact hc.elim .inr fun hspace => .inl hspace.2

theorem IsGap.spells {cs : List Char} (h : IsGap cs) : Spells cs [] := by
  induction cs with
  | nil => exact .nil
  | cons c cs ih =>
    have hfirst : Spells [c] [] := by
      rcases h c List.mem_cons_self with rfl | rfl <;> exact fun _ => rfl
    exact hfirst.append (ih fun d hd => h d (List.mem_cons_of_mem c hd))

/-- A gap and what stands behind it start with a break if the latter does. -/
theorem IsGap.head?_append {cs rest : List Char} (h : IsGap cs)
    (hrest : rest.head?.any isBreak = true) : (cs ++ rest).head?.any isBreak = true := by
  cases cs with
  | nil => exact hrest
  | cons c cs => rcases h c List.mem_cons_self with rfl | rfl <;> rfl

/-- A word is over with the next character that is no letter. -/
theorem done_word {letters : List Char} {t : Token} (ht : literal? letters.reverse = some t)
    (tokens : List Token) : Scanner.Done ⟨.word letters, tokens⟩ (t :: tokens) where
  finish := by simp [Scanner.finish, ht]
  step c hc := by
    have halpha : c.isAlpha = false := by
      simp only [isBreak, Bool.and_eq_true, Bool.not_eq_true'] at hc
      exact hc.1
    simp [Scanner.step, ht, halpha]

theorem null_spells : SpellsUpTo "null".toList [.null] :=
  fun tokens => ⟨_, rfl, done_word rfl tokens⟩

theorem bool_spells (b : Bool) : SpellsUpTo (Value.bool b).compact.toList [.bool b] := by
  intro tokens
  cases b
  · exact ⟨_, rfl, done_word rfl tokens⟩
  · exact ⟨_, rfl, done_word rfl tokens⟩

/-- A number is over with the next character that does not occur in numbers. -/
theorem done_number {chars : List Char} {n : Number} (hn : Number.read? chars.reverse = some n)
    (tokens : List Token) : Scanner.Done ⟨.number chars, tokens⟩ (.number n :: tokens) where
  finish := by simp [Scanner.finish, hn]
  step c hc := by
    have hnumber : isNumberChar c = false := by
      simp only [isBreak, Bool.and_eq_true, Bool.not_eq_true'] at hc
      exact hc.2
    simp [Scanner.step, hn, hnumber]

/-- The characters of a number are kept until it is over. -/
theorem foldlM_step_number {cs : List Char} (hcs : ∀ c ∈ cs, c.isDigit = true)
    (chars : List Char) (tokens : List Token) :
    cs.foldlM Scanner.step ⟨.number chars, tokens⟩ =
      some ⟨.number (cs.reverse ++ chars), tokens⟩ := by
  induction cs generalizing chars with
  | nil => rfl
  | cons c cs ih =>
    have hstep : Scanner.step ⟨.number chars, tokens⟩ c = some ⟨.number (c :: chars), tokens⟩ := by
      simp [Scanner.step, isNumberChar, hcs c List.mem_cons_self]
    rw [List.foldlM_cons, hstep, Option.bind_eq_bind, Option.bind_some,
      ih fun d hd => hcs d (List.mem_cons_of_mem c hd), List.reverse_cons, List.append_assoc,
      List.singleton_append]

theorem start_number {c : Char} (hc : c.isDigit = true ∨ c = '-') (tokens : List Token) :
    Scanner.start tokens c = some ⟨.number [c], tokens⟩ := by
  rcases hc with hc | rfl
  · have hne (d : Char) (hd : d.isDigit = false) : c ≠ d := by
      rintro rfl
      rw [hc] at hd
      cases hd
    simp [Scanner.start, hc, hne]
  · rfl

theorem int_spells (i : Int) : SpellsUpTo (Number.ofInt i).write [.number (.ofInt i)] := by
  intro tokens
  obtain ⟨c, cs, hwrite, hc, hcs⟩ := Number.write_ofInt_eq_cons i
  have hread : Number.read? (cs.reverse ++ [c]).reverse = some (.ofInt i) := by
    rw [List.reverse_append, List.reverse_reverse, List.reverse_singleton, List.singleton_append,
      ← hwrite, Number.read?_write_ofInt]
  refine ⟨_, ?_, done_number hread tokens⟩
  rw [hwrite, List.foldlM_cons, Scanner.step, start_number hc, Option.bind_eq_bind,
    Option.bind_some, foldlM_step_number hcs]

theorem text_spells (s : String) : Spells (writeText (some s)).toList [.text (some s)] :=
  foldlM_step_writeText s

/-! ## Containers -/

/-- The text of items, each behind a gap. -/
def itemsText (gap : List Char) (text : Value → List Char) : List Value → List Char
  | [] => []
  | [v] => gap ++ text v
  | v :: w :: vs => gap ++ text v ++ ([','] ++ itemsText gap text (w :: vs))

/-- The text of a member behind a gap, with `colon` between the key and the value. -/
def memberText (gap colon : List Char) (text : Value → List Char) (m : Option String × Value) :
    List Char :=
  gap ++ (writeText m.1).toList ++ (colon ++ text m.2)

/-- The text of members. -/
def membersText (gap colon : List Char) (text : Value → List Char) :
    List (Option String × Value) → List Char
  | [] => []
  | [m] => memberText gap colon text m
  | m :: n :: ms => memberText gap colon text m ++ ([','] ++ membersText gap colon text (n :: ms))

section Containers

variable {gap close colon : List Char} {text : Value → List Char}

theorem comma_spells : Spells [','] [.comma] := fun _ => rfl

theorem spells_items (hgap : IsGap gap) {items : List Value} (hne : items ≠ [])
    (h : ∀ v ∈ items, SpellsUpTo (text v) v.tokens) :
    SpellsUpTo (itemsText gap text items) (Value.itemTokens items) := by
  induction items with
  | nil => exact absurd rfl hne
  | cons v vs ih =>
    obtain ⟨hv, hvs⟩ := List.forall_mem_cons.mp h
    have hfirst : SpellsUpTo (gap ++ text v) v.tokens := hgap.spells.append_upTo hv
    cases vs with
    | nil => exact hfirst
    | cons w vs =>
      have hrest := ih (List.cons_ne_nil w vs) hvs
      exact hfirst.append_upTo (comma_spells.append_upTo hrest) rfl

theorem spells_member (hgap : IsGap gap) (hcolon : Spells colon [.colon])
    {m : Option String × Value} (hkey : m.1.isSome = true)
    (hvalue : SpellsUpTo (text m.2) m.2.tokens) :
    SpellsUpTo (memberText gap colon text m) (.text m.1 :: .colon :: m.2.tokens) := by
  obtain ⟨key, hkey⟩ := Option.isSome_iff_exists.mp hkey
  have htext : Spells (writeText m.1).toList [.text m.1] := hkey ▸ text_spells key
  exact (hgap.spells.append htext).append_upTo (hcolon.append_upTo hvalue)

theorem spells_members (hgap : IsGap gap) (hcolon : Spells colon [.colon])
    {members : List (Option String × Value)} (hne : members ≠ [])
    (hkeys : ∀ m ∈ members, m.1.isSome = true)
    (hvalues : ∀ m ∈ members, SpellsUpTo (text m.2) m.2.tokens) :
    SpellsUpTo (membersText gap colon text members) (Value.memberTokens members) := by
  induction members with
  | nil => exact absurd rfl hne
  | cons m ms ih =>
    obtain ⟨hkey, hkeys⟩ := List.forall_mem_cons.mp hkeys
    obtain ⟨hvalue, hvalues⟩ := List.forall_mem_cons.mp hvalues
    have hfirst := spells_member hgap hcolon hkey hvalue
    cases ms with
    | nil => exact hfirst
    | cons n ms =>
      have hrest := ih (List.cons_ne_nil n ms) hkeys hvalues
      exact hfirst.append_upTo (comma_spells.append_upTo hrest) rfl

/-- **A list is spelled by its items.** -/
theorem spells_array (text : Value → List Char) (hgap : IsGap gap) (hclose : IsGap close)
    {items : List Value} (hne : items ≠ []) (h : ∀ v ∈ items, SpellsUpTo (text v) v.tokens) :
    Spells (['['] ++ (itemsText gap text items ++ (close ++ [']'])))
      (Value.array items).tokens := by
  have hopen : Spells ['['] [.openArray] := fun _ => rfl
  have hend : Spells (close ++ [']']) [.closeArray] := hclose.spells.append fun _ => rfl
  exact hopen.append ((spells_items hgap hne h).append hend (hclose.head?_append rfl))

/-- **An object is spelled by its members.** -/
theorem spells_object (colon : List Char) (text : Value → List Char) (hgap : IsGap gap)
    (hclose : IsGap close) (hcolon : Spells colon [.colon])
    {members : List (Option String × Value)} (hne : members ≠ [])
    (hkeys : ∀ m ∈ members, m.1.isSome = true)
    (hvalues : ∀ m ∈ members, SpellsUpTo (text m.2) m.2.tokens) :
    Spells (['\x7b'] ++ (membersText gap colon text members ++ (close ++ ['\x7d'])))
      (Value.object members).tokens := by
  have hopen : Spells ['\x7b'] [.openObject] := fun _ => rfl
  have hend : Spells (close ++ ['\x7d']) [.closeObject] := hclose.spells.append fun _ => rfl
  exact hopen.append
    ((spells_members hgap hcolon hne hkeys hvalues).append hend (hclose.head?_append rfl))

end Containers

/-! ## Whole values -/

namespace Value

/-- A value whose numbers are integers and whose texts and keys are texts. -/
inductive Plain : Value → Prop where
  | null : Plain .null
  | bool (b : Bool) : Plain (.bool b)
  | int (i : Int) : Plain (.int i)
  | str (s : String) : Plain (.str s)
  | array {items : List Value} (plain : ∀ v ∈ items, Plain v) : Plain (.array items)
  | object {members : List (Option String × Value)} (keys : ∀ m ∈ members, m.1.isSome = true)
      (plain : ∀ m ∈ members, Plain m.2) : Plain (.object members)

theorem toList_compactItems : ∀ items : List Value,
    (compactItems items).toList = itemsText [] (fun v => v.compact.toList) items
  | [] => rfl
  | [v] => by simp [compactItems, itemsText]
  | v :: w :: vs => by simp [compactItems, itemsText, toList_compactItems (w :: vs)]

theorem toList_compactMembers : ∀ members : List (Option String × Value),
    (compactMembers members).toList = membersText [] [':'] (fun v => v.compact.toList) members
  | [] => rfl
  | [(k, v)] => by simp [compactMembers, membersText, memberText]
  | (k, v) :: m :: ms => by
    simp [compactMembers, membersText, memberText, toList_compactMembers (m :: ms)]

/-- **The form without blanks spells the tokens of a value.** -/
theorem compact_spells {v : Value} (h : v.Plain) : SpellsUpTo v.compact.toList v.tokens := by
  induction h with
  | null => exact null_spells
  | bool b => exact bool_spells b
  | int i => simpa [int, compact, tokens] using int_spells i
  | str s => exact (text_spells s).upTo
  | @array items _ ih =>
    by_cases hne : items = []
    · subst hne
      exact (show Spells "[]".toList _ from fun _ => rfl).upTo
    · have harray := spells_array (fun v => v.compact.toList) .nil .nil hne ih
      simpa [compact, toList_compactItems] using harray.upTo
  | @object members hkeys _ ih =>
    by_cases hne : members = []
    · subst hne
      exact (show Spells "\x7b\x7d".toList _ from fun _ => rfl).upTo
    · have hobject := spells_object [':'] (fun v => v.compact.toList) .nil .nil (fun _ => rfl)
        hne hkeys ih
      simpa [compact, toList_compactMembers] using hobject.upTo

theorem toList_prettyItems (depth : Nat) : ∀ items : List Value,
    (prettyItems depth items).toList =
      itemsText (newline depth).toList (fun v => (v.prettyAt depth).toList) items
  | [] => rfl
  | [v] => by simp [prettyItems, itemsText]
  | v :: w :: vs => by simp [prettyItems, itemsText, toList_prettyItems depth (w :: vs)]

theorem toList_prettyMembers (depth : Nat) : ∀ members : List (Option String × Value),
    (prettyMembers depth members).toList =
      membersText (newline depth).toList [':', ' '] (fun v => (v.prettyAt depth).toList) members
  | [] => rfl
  | [(k, v)] => by simp [prettyMembers, membersText, memberText]
  | (k, v) :: m :: ms => by
    simp [prettyMembers, membersText, memberText, toList_prettyMembers depth (m :: ms)]

/-- **The form on several lines spells the tokens of a value** at every depth. -/
theorem prettyAt_spells {v : Value} (h : v.Plain) (depth : Nat) :
    SpellsUpTo (v.prettyAt depth).toList v.tokens := by
  induction h generalizing depth with
  | null => exact null_spells
  | bool b =>
    cases b with
    | false => exact bool_spells false
    | true => exact bool_spells true
  | int i => simpa [int, prettyAt, tokens] using int_spells i
  | str s => exact (text_spells s).upTo
  | @array items _ ih =>
    cases items with
    | nil => exact (show Spells "[]".toList _ from fun _ => rfl).upTo
    | cons v vs =>
      have harray := spells_array (fun v => (v.prettyAt (depth + 1)).toList)
        (isGap_newline (depth + 1)) (isGap_newline depth) (List.cons_ne_nil v vs)
        fun u hu => ih u hu (depth + 1)
      simpa [prettyAt, toList_prettyItems] using harray.upTo
  | @object members hkeys _ ih =>
    cases members with
    | nil => exact (show Spells "\x7b\x7d".toList _ from fun _ => rfl).upTo
    | cons m ms =>
      have hobject := spells_object [':', ' '] (fun v => (v.prettyAt (depth + 1)).toList)
        (isGap_newline (depth + 1)) (isGap_newline depth) (fun _ => rfl) (List.cons_ne_nil m ms)
        hkeys fun n hn => ih n hn (depth + 1)
      simpa [prettyAt, toList_prettyMembers] using hobject.upTo

theorem parse?_of_spellsUpTo {text : String} {v : Value} (h : SpellsUpTo text.toList v.tokens) :
    parse? text = some v := by
  rw [parse?, scan_of_spellsUpTo h, Option.bind_eq_bind, Option.bind_some, ofTokens?_tokens]

/-- **The form without blanks is read back as the value.** -/
theorem parse?_compact {v : Value} (h : v.Plain) : parse? v.compact = some v :=
  parse?_of_spellsUpTo (compact_spells h)

/-- **The form on several lines is read back as the value.** -/
theorem parse?_pretty {v : Value} (h : v.Plain) : parse? v.pretty = some v :=
  parse?_of_spellsUpTo (prettyAt_spells h 0)

/-- It may be the last line of a text. -/
theorem parse?_pretty_line {v : Value} (h : v.Plain) : parse? (v.pretty ++ "\n") = some v := by
  refine parse?_of_spellsUpTo ?_
  have hline : IsGap "\n".toList := fun c hc => .inr (List.mem_singleton.mp hc)
  rw [String.toList_append, pretty, ← List.append_nil v.tokens]
  exact ((prettyAt_spells h 0).append hline.spells rfl).upTo

end Value

end StorageTopology.Json
