import StorageTopology.Proofs.Lvm.Lines

/-!
# What a column of attributes is decoded to

A column has one place for each letter of a code (`Place`). Where a letter says what kind of thing
something is, no other letter will do. Where it is a flag, a dash clears the flag and anything else
sets it, so there are columns that decode to the same attributes and differ.

* `SameAt`: columns that differ at most in how they set their flags.
* `Decodes`: a column decodes to attributes exactly if it is, up to that, their code.
* `RefusesColumn`: a report with another column among its rows is refused.
* `decodes_columns`: **the columns of physical volumes and of groups** are decoded and refused so.
-/

namespace StorageTopology.Lvm

/-- A place of a column: one of several letters, or a flag. -/
inductive Place where
  | oneOf (letters : List Char)
  | flag (set : Char)

namespace Place

/-- What the tools print at a place. -/
def Prints : Place → Char → Prop
  | .oneOf letters, c => c ∈ letters
  | .flag set, c => c = set ∨ c = '-'

/-- What is taken at a place. -/
def Takes : Place → Char → Prop
  | .oneOf letters, c => c ∈ letters
  | .flag _, _ => True

/-- Two characters that have the same meaning at a place, if they have one. -/
def Alike : Place → Char → Char → Prop
  | .oneOf _, c, d => c = d
  | .flag _, c, d => c = '-' ↔ d = '-'

/-- Whether a character is printed at a place can be decided. -/
instance (p : Place) (c : Char) : Decidable (p.Prints c) :=
  match p with
  | .oneOf letters => inferInstanceAs (Decidable (c ∈ letters))
  | .flag set => inferInstanceAs (Decidable (c = set ∨ c = '-'))

variable {p : Place} {c d e : Char}

theorem alike_symm (h : p.Alike c d) : p.Alike d c := by
  cases p with
  | oneOf letters => exact Eq.symm h
  | flag set => exact Iff.symm h

theorem alike_trans (hcd : p.Alike c d) (hde : p.Alike d e) : p.Alike c e := by
  cases p with
  | oneOf letters => exact Eq.trans hcd hde
  | flag set => exact Iff.trans hcd hde

/-- What the tools print at a place is determined by its meaning. -/
theorem eq_of_alike (hc : p.Prints c) (hd : p.Prints d) (h : p.Alike c d) : c = d := by
  cases p with
  | oneOf letters => exact h
  | flag set =>
    rcases hc with rfl | rfl <;> rcases hd with rfl | rfl
    · rfl
    · exact h.mpr rfl
    · exact (h.mp rfl).symm
    · rfl

/-- What the tools print is taken, and so is what has the same meaning. -/
theorem takes_of_alike (hc : p.Prints c) (h : p.Alike c d) : p.Takes d := by
  cases p with
  | oneOf letters =>
    obtain rfl : c = d := h
    exact hc
  | flag set => trivial

end Place

/-! ## Places in order -/

/-- The places of a form hold what satisfies `R`; what stands behind them does not matter. -/
def HoldAt (R : Place → Char → Prop) : List Place → List Char → Prop
  | [], _ => True
  | p :: form, c :: cs => R p c ∧ HoldAt R form cs
  | _ :: _, [] => False

/-- Whether a form is held can be decided place by place. -/
instance {R : Place → Char → Prop} [∀ p c, Decidable (R p c)] :
    ∀ form cs, Decidable (HoldAt R form cs)
  | [], _ => .isTrue trivial
  | p :: form, c :: cs =>
    have : Decidable (HoldAt R form cs) := instDecidableHoldAt form cs
    inferInstanceAs (Decidable (R p c ∧ HoldAt R form cs))
  | _ :: _, [] => .isFalse id

/-- The places of a form hold characters with the same meaning. -/
def SameAt : List Place → List Char → List Char → Prop
  | [], _, _ => True
  | p :: form, c :: cs, d :: ds => p.Alike c d ∧ SameAt form cs ds
  | _, _, _ => False

theorem HoldAt.exists_cons {R : Place → Char → Prop} {p : Place} {form : List Place}
    {cs : List Char} (h : HoldAt R (p :: form) cs) :
    ∃ c cs', cs = c :: cs' ∧ R p c ∧ HoldAt R form cs' := by
  match cs, h with
  | c :: cs, ⟨hfirst, hrest⟩ => exact ⟨c, cs, rfl, hfirst, hrest⟩

theorem SameAt.exists_cons {p : Place} {form : List Place} {cs ds : List Char}
    (h : SameAt (p :: form) cs ds) :
    ∃ c cs' d ds', cs = c :: cs' ∧ ds = d :: ds' ∧ p.Alike c d ∧ SameAt form cs' ds' := by
  match cs, ds, h with
  | c :: cs, d :: ds, ⟨hfirst, hrest⟩ => exact ⟨c, cs, d, ds, rfl, rfl, hfirst, hrest⟩

theorem SameAt.symm : ∀ {form : List Place} {cs ds : List Char},
    SameAt form cs ds → SameAt form ds cs
  | [], _, _, _ => trivial
  | _ :: _, _ :: _, _ :: _, ⟨hfirst, hrest⟩ => ⟨Place.alike_symm hfirst, hrest.symm⟩

theorem SameAt.trans : ∀ {form : List Place} {cs ds es : List Char},
    SameAt form cs ds → SameAt form ds es → SameAt form cs es
  | [], _, _, _, _, _ => trivial
  | _ :: _, _ :: _, _ :: _, _ :: _, ⟨hfirst, hrest⟩, ⟨hfirst', hrest'⟩ =>
    ⟨Place.alike_trans hfirst hfirst', hrest.trans hrest'⟩

theorem SameAt.takes : ∀ {form : List Place} {cs ds : List Char},
    SameAt form cs ds → HoldAt Place.Prints form cs → HoldAt Place.Takes form ds
  | [], _, _, _, _ => trivial
  | _ :: _, _ :: _, _ :: _, ⟨hfirst, hrest⟩, ⟨hc, hcs⟩ =>
    ⟨Place.takes_of_alike hc hfirst, hrest.takes hcs⟩

/-- What is printed for some attributes has the meaning of a column, and the column is printed as
well: then it begins with exactly that. -/
theorem SameAt.prints_iff : ∀ {form : List Place} {cs ds : List Char},
    SameAt form cs ds → HoldAt Place.Prints form cs → cs.length = form.length →
      (HoldAt Place.Prints form ds ↔ cs <+: ds)
  | [], [], _, _, _, _ => iff_of_true trivial List.nil_prefix
  | p :: form, c :: cs, d :: ds, ⟨hfirst, hrest⟩, ⟨hc, hcs⟩, hlength => by
    rw [List.cons_prefix_cons, ← hrest.prints_iff hcs (Nat.succ.inj hlength)]
    exact ⟨fun ⟨hd, hds⟩ => ⟨Place.eq_of_alike hc hd hfirst, hds⟩,
      fun ⟨heq, hds⟩ => ⟨heq ▸ hc, hds⟩⟩

/-! ## Decoding -/

/-- How `parse` decodes the column `s` if its places are `form`: `code` is what the tools print for
attributes that are `Printable`. -/
structure Decodes {α : Type} (parse : String → Option α) (Printable : α → Prop)
    (code : α → List Char) (form : List Place) (s : String) : Prop where
  /-- The column is decoded exactly if every place takes what it holds. -/
  takes_iff : (∃ a, parse s = some a) ↔ HoldAt Place.Takes form (places s)
  /-- It is decoded to `a` exactly if every place has the same meaning as in the code of `a`. -/
  eq_some_iff {a : α} : parse s = some a ↔ Printable a ∧ SameAt form (code a) (places s)
  /-- Another column is decoded to the same attributes exactly if it has the same meaning at every
  place. -/
  same_iff {t : String} {a : α} : parse s = some a →
    (parse t = some a ↔ SameAt form (places s) (places t))
  /-- If the column is decoded to `a`, every place holds what the tools print there exactly if the
  column begins with the code of `a`. -/
  prints_iff {a : α} : parse s = some a →
    (HoldAt Place.Prints form (places s) ↔ code a <+: places s)
  /-- So two columns that are decoded to the same attributes hold the same at every place, if that
  is what the tools print. -/
  agree {t : String} {a : α} : parse s = some a → parse t = some a →
    HoldAt Place.Prints form (places s) → HoldAt Place.Prints form (places t) →
      (places s).take form.length = (places t).take form.length

/-- What is to be shown of a decoder. -/
theorem decodes_of {α : Type} {parse : String → Option α} {Printable : α → Prop}
    {code : α → List Char} {form : List Place}
    (reads : ∀ {s}, HoldAt Place.Takes form (places s) → ∃ a, parse s = some a)
    (congr : ∀ {s t}, SameAt form (places s) (places t) → parse s = parse t)
    (meaning : ∀ {s a}, parse s = some a → Printable a ∧ SameAt form (code a) (places s))
    (parse_code : ∀ {a}, Printable a → parse (String.ofList (code a)) = some a)
    (places_code : ∀ a, places (String.ofList (code a)) = code a)
    (prints_code : ∀ a, Printable a → HoldAt Place.Prints form (code a))
    (length_code : ∀ a, (code a).length = form.length) (s : String) :
    Decodes parse Printable code form s := by
  have eq_some_iff {s : String} {a : α} :
      parse s = some a ↔ Printable a ∧ SameAt form (code a) (places s) := by
    refine ⟨meaning, fun ⟨hprintable, hsame⟩ => ?_⟩
    rw [← parse_code hprintable]
    refine congr ?_
    rw [places_code]
    exact hsame.symm
  have prints_iff {s : String} {a : α} (h : parse s = some a) :
      HoldAt Place.Prints form (places s) ↔ code a <+: places s := by
    obtain ⟨hprintable, hsame⟩ := meaning h
    exact hsame.prints_iff (prints_code a hprintable) (length_code a)
  constructor
  · refine ⟨fun ⟨a, h⟩ => ?_, reads⟩
    obtain ⟨hprintable, hsame⟩ := meaning h
    exact hsame.takes (prints_code a hprintable)
  · exact eq_some_iff
  · intro t a h
    obtain ⟨hprintable, hsame⟩ := meaning h
    rw [eq_some_iff, and_iff_right hprintable]
    exact ⟨hsame.symm.trans, hsame.trans⟩
  · exact prints_iff
  · intro t a hs ht hprints hprints'
    have hcode {u : String} (h : parse u = some a) (hu : HoldAt Place.Prints form (places u)) :
        (places u).take form.length = code a := by
      rw [← length_code a]
      exact (List.prefix_iff_eq_take.mp ((prints_iff h).mp hu)).symm
    rw [hcode hs hprints, hcode ht hprints']

/-- A flag is printed as what it is decoded from, but for the letter that sets it. -/
theorem alike_flagLetter {set c : Char} (hset : set ≠ '-') :
    (Place.flag set).Alike (flagLetter set (c ≠ '-')) c := by
  show flagLetter set (c ≠ '-') = '-' ↔ c = '-'
  rw [← not_iff_not, ← ne_eq, flagLetter_ne_dash_iff hset, decide_eq_true_eq]

theorem prints_flagLetter (set : Char) (b : Bool) :
    (Place.flag set).Prints (flagLetter set b) := by
  cases b
  · exact .inr rfl
  · exact .inl rfl

/-! ## Physical volumes -/

namespace PvAttributes

/-- The places of the column: what the volume is used for, and whether it is exported and
missing. -/
def form : List Place := [.oneOf ['a', 'u', 'd', '-'], .flag 'x', .flag 'm']

theorem exists_of_takes {s : String} (h : HoldAt Place.Takes form (places s)) :
    ∃ a, parse? s = some a := by
  obtain ⟨use, _, hs, huse, h₁⟩ := h.exists_cons
  obtain ⟨exported, _, rfl, -, h₂⟩ := h₁.exists_cons
  obtain ⟨missing, _, rfl, -, -⟩ := h₂.exists_cons
  have huse : use ∈ ['a', 'u', 'd', '-'] := huse
  unfold parse?
  rw [hs]
  exact ⟨_, if_pos (by simpa using huse)⟩

theorem parse?_congr {s t : String} (h : SameAt form (places s) (places t)) :
    parse? s = parse? t := by
  obtain ⟨use, _, _, _, hs, ht, rfl, h₁⟩ := h.exists_cons
  obtain ⟨exported, _, exported', _, rfl, rfl, hexported, h₂⟩ := h₁.exists_cons
  obtain ⟨missing, _, missing', _, rfl, rfl, hmissing, -⟩ := h₂.exists_cons
  have hexported : exported = '-' ↔ exported' = '-' := hexported
  have hmissing : missing = '-' ↔ missing' = '-' := hmissing
  unfold parse?
  simp only [hs, ht, ne_eq, hexported, hmissing]

/-- What a column is decoded to has one use at most, and is printed with the same meaning. -/
theorem sameAt_of_parse? {s : String} {a : PvAttributes} (h : parse? s = some a) :
    a.Representable ∧ SameAt form a.code (places s) := by
  unfold parse? at h
  split at h
  · rename_i use exported missing rest hplaces
    split_ifs at h with huse
    obtain rfl := Option.some.inj h
    rw [hplaces]
    refine ⟨?_, ?_, alike_flagLetter (by decide), alike_flagLetter (by decide), trivial⟩
    · rcases huse with rfl | rfl | rfl | rfl <;> simp [Representable]
    · rcases huse with rfl | rfl | rfl | rfl <;> rfl
  · cases h

theorem prints_code (a : PvAttributes) : HoldAt Place.Prints form a.code := by
  refine ⟨?_, prints_flagLetter _ _, prints_flagLetter _ _, trivial⟩
  unfold useLetter
  split_ifs <;> decide

theorem decodes : ∀ s, Decodes parse? Representable code form s :=
  decodes_of exists_of_takes parse?_congr sameAt_of_parse? parse?_code
    (fun a => places_of_isCodeChar a.isCodeChar_code) (fun a _ => a.prints_code) fun _ => rfl

end PvAttributes

/-! ## Volume groups -/

namespace VgAttributes

/-- The places of the column: access, whether the group is resizable, exported and incomplete, its
allocation policy, and how it is shared. -/
def form : List Place :=
  [.oneOf ['w', 'r'], .flag 'z', .flag 'x', .flag 'p', .oneOf ['a', 'c', 'l', 'n'],
    .oneOf ['c', 's', '-']]

theorem exists_policy {c : Char} (h : c ∈ ['a', 'c', 'l', 'n']) :
    ∃ p : AllocationPolicy, Lettered.ofLetter? c = some p ∧ p ≠ .inherited := by
  simp only [List.mem_cons, List.not_mem_nil, or_false] at h
  rcases h with rfl | rfl | rfl | rfl <;> exact ⟨_, rfl, nofun⟩

theorem exists_of_takes {s : String} (h : HoldAt Place.Takes form (places s)) :
    ∃ a, parse? s = some a := by
  obtain ⟨access, _, hs, haccess, h₁⟩ := h.exists_cons
  obtain ⟨resizable, _, rfl, -, h₂⟩ := h₁.exists_cons
  obtain ⟨exported, _, rfl, -, h₃⟩ := h₂.exists_cons
  obtain ⟨lacking, _, rfl, -, h₄⟩ := h₃.exists_cons
  obtain ⟨policy, _, rfl, hpolicy, h₅⟩ := h₄.exists_cons
  obtain ⟨sharing, _, rfl, hsharing, -⟩ := h₅.exists_cons
  have haccess : access ∈ ['w', 'r'] := haccess
  have hsharing : sharing ∈ ['c', 's', '-'] := hsharing
  obtain ⟨allocation, hallocation, hown⟩ := exists_policy hpolicy
  unfold parse?
  rw [hs]
  simp only [hallocation]
  exact ⟨_, if_pos ⟨by simpa using haccess, hown, by simpa using hsharing⟩⟩

theorem parse?_congr {s t : String} (h : SameAt form (places s) (places t)) :
    parse? s = parse? t := by
  obtain ⟨access, _, _, _, hs, ht, rfl, h₁⟩ := h.exists_cons
  obtain ⟨resizable, _, resizable', _, rfl, rfl, hresizable, h₂⟩ := h₁.exists_cons
  obtain ⟨exported, _, exported', _, rfl, rfl, hexported, h₃⟩ := h₂.exists_cons
  obtain ⟨lacking, _, lacking', _, rfl, rfl, hlacking, h₄⟩ := h₃.exists_cons
  obtain ⟨policy, _, _, _, rfl, rfl, rfl, h₅⟩ := h₄.exists_cons
  obtain ⟨sharing, _, _, _, rfl, rfl, rfl, -⟩ := h₅.exists_cons
  have hresizable : resizable = '-' ↔ resizable' = '-' := hresizable
  have hexported : exported = '-' ↔ exported' = '-' := hexported
  have hlacking : lacking = '-' ↔ lacking' = '-' := hlacking
  unfold parse?
  simp only [hs, ht, ne_eq, hresizable, hexported, hlacking]

/-- What a column is decoded to has one use at most, and is printed with the same meaning. -/
theorem sameAt_of_parse? {s : String} {a : VgAttributes} (h : parse? s = some a) :
    a.Representable ∧ SameAt form a.code (places s) := by
  unfold parse? at h
  split at h
  · rename_i access resizable exported lacking policy sharing rest hplaces
    obtain ⟨allocation, hpolicy, h⟩ := Option.bind_eq_some_iff.mp h
    split_ifs at h with hplain
    obtain rfl := Option.some.inj h
    obtain ⟨haccess, hown, hsharing⟩ := hplain
    rw [hplaces]
    refine ⟨⟨hown, ?_⟩, ?_, alike_flagLetter (by decide), alike_flagLetter (by decide),
      alike_flagLetter (by decide), Lettered.letter_of_ofLetter? hpolicy, ?_, trivial⟩
    · rcases hsharing with rfl | rfl | rfl <;> simp
    · rcases haccess with rfl | rfl <;> rfl
    · rcases hsharing with rfl | rfl | rfl <;> rfl
  · exact absurd h nofun

theorem prints_code {a : VgAttributes} (h : a.Representable) :
    HoldAt Place.Prints form a.code := by
  refine ⟨?_, prints_flagLetter _ _, prints_flagLetter _ _, prints_flagLetter _ _, ?_, ?_, trivial⟩
  · split <;> decide
  · cases hpolicy : a.allocation with
    | inherited => exact absurd hpolicy h.1
    | _ => decide
  · unfold sharingLetter
    split_ifs <;> decide

theorem decodes : ∀ s, Decodes parse? Representable code form s :=
  decodes_of exists_of_takes parse?_congr sameAt_of_parse? parse?_code
    (fun a => places_of_isCodeChar a.isCodeChar_code) (fun _ => prints_code) fun _ => rfl

end VgAttributes

/-! ## Reports -/

/-- How the report `output` deals with the column of attributes of its rows, which is called
`name`. -/
structure RefusesColumn {α : Type} (parse : String → Except ParseError (List α))
    (cells : Row → List Cell) (name : String) (column : Row → List Char) (form : List Place)
    (output : String) : Prop where
  /-- It fails exactly if some place of the column in one of its rows does not take what it holds,
  or another value of a row is bad. -/
  fails_iff : (∃ cause, parse output = .error cause) ↔
    ∃ line ∈ linesOf output, ∃ r, Line r line ∧
      (¬HoldAt Place.Takes form (places (String.ofList (column r))) ∨
        ∃ c ∈ (cells r).tail, c.readable = false)
  /-- It fails by the column of a row, if nothing is wrong with the rows on the lines before. -/
  complains {before after : List (List Char)} {line : List Char} {r : Row} :
    linesOf output = before ++ line :: after →
      (∀ line' ∈ before, ∀ r', Line r' line' → ∀ c ∈ cells r', c.readable) → Line r line →
        ¬HoldAt Place.Takes form (places (String.ofList (column r))) →
          parse output = .error (.badColumn name (String.ofList (column r)))

/-- The column of attributes is looked at first. -/
theorem refusesColumn_of_decodes {α β : Type} {parse : String → Option α} {Printable : α → Prop}
    {code : α → List Char} {form : List Place} {ofRow : Row → Except ParseError β}
    {cells more : Row → List Cell} {name : String} {column : Row → List Char}
    (h : ∀ s, Decodes parse Printable code form s) (hfails : ∀ r, FailsBy (ofRow r) (cells r))
    (hcells : ∀ r, cells r = .attributes name parse (column r) :: more r) (output : String) :
    RefusesColumn (fun output => (rows output).mapM ofRow) cells name column form output := by
  have unreadable (r : Row) : (Cell.attributes name parse (column r)).readable = false ↔
      ¬HoldAt Place.Takes form (places (String.ofList (column r))) := by
    rw [← (h _).takes_iff, ← Option.isSome_iff_exists]
    exact Bool.eq_false_iff
  constructor
  · simp only [mapM_rows_fails_iff hfails, hcells, List.mem_cons, or_and_right, exists_or,
      exists_eq_left, unreadable, List.tail_cons]
  · intro before after line r hlines hbefore hr hbad
    refine (mapM_rows_eq_error_iff hfails).mpr ⟨before, line, after, r, hlines, hbefore, hr, ?_⟩
    rw [hcells r, complaint?, List.find?_cons_of_pos (by rw [(unreadable r).mpr hbad]; rfl)]
    rfl

/-- **The columns of physical volumes and of groups**: what each is decoded to, and what a report
does with those that are not. -/
theorem decodes_columns (s output : String) :
    (Decodes PvAttributes.parse? PvAttributes.Representable PvAttributes.code PvAttributes.form s ∧
      RefusesColumn PhysicalVolume.parseReport PhysicalVolume.cells "pv_attr" Row.fourth
        PvAttributes.form output) ∧
    Decodes VgAttributes.parse? VgAttributes.Representable VgAttributes.code VgAttributes.form s ∧
      RefusesColumn VolumeGroup.parseReport VolumeGroup.cells "vg_attr" Row.fourth
        VgAttributes.form output :=
  ⟨⟨PvAttributes.decodes s,
    refusesColumn_of_decodes PvAttributes.decodes PhysicalVolume.failsBy_ofRow (fun _ => rfl)
      output⟩,
    VgAttributes.decodes s,
    refusesColumn_of_decodes VgAttributes.decodes VolumeGroup.failsBy_ofRow (fun _ => rfl) output⟩

/-- Flags that are set by letters that the tools never print: such columns are decoded, decoded to
the same as others, and taken from rows. -/
theorem decoded_not_printed :
    (¬∀ s a, PvAttributes.parse? s = some a → HoldAt Place.Prints PvAttributes.form (places s)) ∧
    (¬∀ s t a, PvAttributes.parse? s = some a → PvAttributes.parse? t = some a →
      (places s).take 3 = (places t).take 3) ∧
    (¬∀ s a, VgAttributes.parse? s = some a → HoldAt Place.Prints VgAttributes.form (places s)) ∧
    (¬∀ s t a, VgAttributes.parse? s = some a → VgAttributes.parse? t = some a →
      (places s).take 6 = (places t).take 6) ∧
    (¬∀ output, ∀ line ∈ linesOf output, ∀ r, Line r line →
      ¬HoldAt Place.Prints PvAttributes.form (places (String.ofList r.fourth)) →
        ∃ cause, PhysicalVolume.parseReport output = .error cause) ∧
    ¬∀ output, ∀ line ∈ linesOf output, ∀ r, Line r line →
      ¬HoldAt Place.Prints VgAttributes.form (places (String.ofList r.fourth)) →
        ∃ cause, VolumeGroup.parseReport output = .error cause := by
  refine ⟨fun h => ?_, fun h => ?_, fun h => ?_, fun h => ?_, fun h => ?_, fun h => ?_⟩
  · exact absurd (h "aZQ" _ rfl) (by decide)
  · exact absurd (h "aZQ" "axm" _ rfl rfl) (by decide)
  · exact absurd (h "wZQ?n-" _ rfl) (by decide)
  · exact absurd (h "wZQ?n-" "wzxpn-" _ rfl rfl) (by decide)
  · obtain ⟨cause, hcause⟩ := h "/dev/sda,vg0,lvm2,aZQ,8,4" _ List.mem_cons_self _
      (row?_eq_some_iff.mp rfl) (by decide)
    exact absurd hcause nofun
  · obtain ⟨cause, hcause⟩ := h "vg0,1,1,wZQ?n-,8,4" _ List.mem_cons_self _
      (row?_eq_some_iff.mp rfl) (by decide)
    exact absurd hcause nofun

end StorageTopology.Lvm
