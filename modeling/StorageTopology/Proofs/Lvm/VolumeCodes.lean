import StorageTopology.Proofs.Lvm.Decoding

/-!
# Attributes of logical volumes and their codes

The column of a logical volume has ten places, and at each of them every letter says something
else. No place has a flag that any letter would set, so nothing but the code of some attributes is
decoded to them.

* `Place.DecodedBy`: a place is decoded from its letters, and from nothing else.
* `parse?_eq_some_iff`: a column is decoded to attributes exactly if it begins with their code.
* `exists_parse?_iff`: it is decoded at all exactly if it has one of the letters at each place.
* `coding`: **attributes and codes of ten bytes determine each other**.
-/

namespace StorageTopology.Lvm

open Lettered

/-! ## Places -/

/-- At the place `p` the letter of a value is decoded to that value, and nothing else is taken. -/
structure Place.DecodedBy {α : Type} (p : Place) (decode : Char → Option α) (letter : α → Char) :
    Prop where
  decode_iff : ∀ {c v}, decode c = some v ↔ letter v = c
  takes_iff : ∀ {c}, p.Takes c ↔ ∃ v, letter v = c

theorem Place.decodedBy_of {α : Type} {letters : List Char} {decode : Char → Option α}
    {letter : α → Char} (decode_letter : ∀ v, decode (letter v) = some v)
    (letter_of_decode : ∀ {c v}, decode c = some v → letter v = c)
    (letter_mem : ∀ v, letter v ∈ letters)
    (isSome_decode : letters.all fun c => (decode c).isSome) :
    (Place.oneOf letters).DecodedBy decode letter where
  decode_iff {c v} := ⟨letter_of_decode, fun h => h ▸ decode_letter v⟩
  takes_iff {c} := by
    constructor
    · intro hc
      obtain ⟨v, hv⟩ := Option.isSome_iff_exists.mp (List.all_eq_true.mp isSome_decode c hc)
      exact ⟨v, letter_of_decode hv⟩
    · rintro ⟨v, rfl⟩
      exact letter_mem v

theorem Place.DecodedBy.takes_letter {α : Type} {p : Place} {decode : Char → Option α}
    {letter : α → Char} (h : p.DecodedBy decode letter) (v : α) : p.Takes (letter v) :=
  h.takes_iff.mpr ⟨v, rfl⟩

/-- A place that is held has the letter of some value. -/
theorem Place.DecodedBy.exists_cons {α : Type} {p : Place} {decode : Char → Option α}
    {letter : α → Char} (h : p.DecodedBy decode letter) {form : List Place} {cs : List Char}
    (hold : HoldAt Place.Takes (p :: form) cs) :
    ∃ v cs', cs = letter v :: cs' ∧ HoldAt Place.Takes form cs' := by
  obtain ⟨_, cs', rfl, hc, hrest⟩ := HoldAt.exists_cons hold
  obtain ⟨v, rfl⟩ := h.takes_iff.mp hc
  exact ⟨v, cs', rfl, hrest⟩

/-- The letters of a type are decoded from a place that has them all and no other. -/
theorem Lettered.decodedBy {α : Type} [Lettered α] {letters : List Char}
    (letter_mem : ∀ a : α, letter a ∈ letters)
    (isSome_ofLetter? : letters.all fun c => (ofLetter? c : Option α).isSome) :
    (Place.oneOf letters).DecodedBy (ofLetter? : Char → Option α) letter :=
  Place.decodedBy_of ofLetter?_letter letter_of_ofLetter? letter_mem isSome_ofLetter?

/-- The kinds of volumes. -/
def VolumeType.place : Place :=
  .oneOf ['-', 'C', 'm', 'M', 'o', 'O', 'r', 'R', 's', 'S', 'p', 'v', 'i', 'I', 'l', 'c', 'V', 't',
    'T', 'd', 'D', 'e']

theorem VolumeType.decodedBy : place.DecodedBy (ofLetter? : Char → Option VolumeType) letter :=
  Lettered.decodedBy (fun t => by cases t <;> decide) (by decide)

/-- The permissions. -/
def Permission.place : Place := .oneOf ['-', 'w', 'r', 'R']

theorem Permission.decodedBy : place.DecodedBy (ofLetter? : Char → Option Permission) letter :=
  Lettered.decodedBy (fun p => by cases p <;> decide) (by decide)

/-- The policies, and a dash for none. -/
def policyPlace : Place := .oneOf ['-', 'a', 'c', 'l', 'n', 'i']

theorem policyLetter_of_allocation? {c : Char} {p : Option AllocationPolicy}
    (h : allocation? c = some p) : policyLetter p = c := by
  unfold allocation? at h
  split_ifs at h with hdash
  · obtain rfl := Option.some.inj h
    exact hdash.symm
  · obtain ⟨q, hq, rfl⟩ := Option.map_eq_some_iff.mp h
    exact letter_of_ofLetter? hq

theorem decodedBy_policy : policyPlace.DecodedBy allocation? policyLetter :=
  Place.decodedBy_of allocation?_policyLetter policyLetter_of_allocation?
    (fun p => by rcases p with _ | p <;> [decide; (cases p <;> decide)]) (by decide)

/-- The states of a volume. -/
def VolumeState.place : Place :=
  .oneOf ['-', 'a', 'h', 's', 'I', 'S', 'm', 'M', 'd', 'i', 'c', 'C', 'X']

theorem VolumeState.decodedBy : place.DecodedBy (ofLetter? : Char → Option VolumeState) letter :=
  Lettered.decodedBy (fun s => by cases s <;> decide) (by decide)

/-- The states of its device. -/
def DeviceState.place : Place := .oneOf ['-', 'o', 'X']

theorem DeviceState.decodedBy : place.DecodedBy (ofLetter? : Char → Option DeviceState) letter :=
  Lettered.decodedBy (fun s => by cases s <;> decide) (by decide)

/-- The targets. -/
def TargetType.place : Place := .oneOf ['-', 'C', 'm', 'r', 's', 't', 'u', 'v']

theorem TargetType.decodedBy : place.DecodedBy (ofLetter? : Char → Option TargetType) letter :=
  Lettered.decodedBy (fun t => by cases t <;> decide) (by decide)

/-- The states of health. -/
def Health.place : Place := .oneOf ['-', 'p', 'X', 'r', 'm', 'w', 'F', 'D', 'M', 'E']

theorem Health.decodedBy : place.DecodedBy (ofLetter? : Char → Option Health) letter :=
  Lettered.decodedBy (fun h => by cases h <;> decide) (by decide)

/-- A flag that only its own letter sets. -/
def letterOrDash (set : Char) : Place := .oneOf ['-', set]

theorem decodedBy_flag {set : Char} (hset : set ≠ '-') :
    (letterOrDash set).DecodedBy (flag? set) (flagLetter set) := by
  refine Place.decodedBy_of (flag?_flagLetter hset) (fun {c b} h => ?_) (fun b => ?_) ?_
  · unfold flag? at h
    split_ifs at h with hdash hc <;> obtain rfl := Option.some.inj h
    · exact hdash.symm
    · exact hc.symm
  · cases b <;> simp [flagLetter]
  · simp [flag?, hset]

/-! ## Columns -/

/-- Places that are held are also held if more stands behind them. -/
theorem HoldAt.of_prefix {R : Place → Char → Prop} : ∀ {form : List Place} {cs ds : List Char},
    HoldAt R form cs → cs <+: ds → HoldAt R form ds
  | [], _, _, _, _ => trivial
  | _ :: _, _ :: _, [], _, hprefix => absurd (List.prefix_nil.mp hprefix) nofun
  | _ :: _, _ :: _, _ :: _, ⟨hfirst, hrest⟩, hprefix => by
    obtain ⟨rfl, htail⟩ := List.cons_prefix_cons.mp hprefix
    exact ⟨hfirst, hrest.of_prefix htail⟩

/-- The character with the number of a byte. -/
def charOfByte (b : UInt8) : Char := Char.ofNat b.toNat

theorem charOfByte_injective : Function.Injective charOfByte := by
  intro b c h
  have toNat_charOfByte (d : UInt8) : (charOfByte d).toNat = d.toNat := by
    have hlt := d.toNat_lt
    have hvalid : d.toNat.isValidChar := .inl (by omega)
    unfold charOfByte Char.ofNat
    rw [dif_pos hvalid]
    rfl
  have hnat := congrArg Char.toNat h
  rw [toNat_charOfByte, toNat_charOfByte] at hnat
  exact UInt8.toNat_inj.mp hnat

namespace LvAttributes

/-- The ten places of the column. -/
def form : List Place :=
  [VolumeType.place, Permission.place, policyPlace, letterOrDash 'm', VolumeState.place,
    DeviceState.place, TargetType.place, letterOrDash 'z', Health.place, letterOrDash 'k']

/-- **A column is decoded to attributes exactly if it begins with their code.** -/
theorem parse?_eq_some_iff {s : String} {a : LvAttributes} :
    parse? s = some a ↔ a.code <+: places s := by
  have minor := decodedBy_flag (show 'm' ≠ '-' by decide)
  have zero := decodedBy_flag (show 'z' ≠ '-' by decide)
  have skip := decodedBy_flag (show 'k' ≠ '-' by decide)
  constructor
  · intro h
    unfold parse? at h
    split at h
    · rename_i hplaces
      simp only [Option.bind_eq_bind, Option.bind_eq_some_iff, Option.some.injEq,
        VolumeType.decodedBy.decode_iff, Permission.decodedBy.decode_iff,
        decodedBy_policy.decode_iff, minor.decode_iff, VolumeState.decodedBy.decode_iff,
        DeviceState.decodedBy.decode_iff, TargetType.decodedBy.decode_iff, zero.decode_iff,
        Health.decodedBy.decode_iff, skip.decode_iff] at h
      -- Every place holds the letter of its field, so together they are the code.
      obtain ⟨_, rfl, _, rfl, _, rfl, _, rfl, _, rfl, _, rfl, _, rfl, _, rfl, _, rfl, _, rfl,
        rfl⟩ := h
      rw [hplaces]
      exact ⟨_, rfl⟩
    · exact absurd h nofun
  · rintro ⟨rest, hplaces⟩
    unfold parse?
    rw [← hplaces]
    simp only [code, List.cons_append, ofLetter?_letter, allocation?_policyLetter,
      minor.decode_iff.mpr rfl, zero.decode_iff.mpr rfl, skip.decode_iff.mpr rfl]
    rfl

theorem takes_code (a : LvAttributes) : HoldAt Place.Takes form a.code :=
  ⟨VolumeType.decodedBy.takes_letter _, Permission.decodedBy.takes_letter _,
    decodedBy_policy.takes_letter _, (decodedBy_flag (by decide)).takes_letter _,
    VolumeState.decodedBy.takes_letter _, DeviceState.decodedBy.takes_letter _,
    TargetType.decodedBy.takes_letter _, (decodedBy_flag (by decide)).takes_letter _,
    Health.decodedBy.takes_letter _, (decodedBy_flag (by decide)).takes_letter _, trivial⟩

/-- What has a letter at every place begins with a code. -/
theorem exists_code_of_takes {cs : List Char} (h : HoldAt Place.Takes form cs) :
    ∃ a : LvAttributes, a.code <+: cs := by
  obtain ⟨volumeType, _, rfl, h₁⟩ := VolumeType.decodedBy.exists_cons h
  obtain ⟨permission, _, rfl, h₂⟩ := Permission.decodedBy.exists_cons h₁
  obtain ⟨allocation, _, rfl, h₃⟩ := decodedBy_policy.exists_cons h₂
  obtain ⟨fixedMinor, _, rfl, h₄⟩ := (decodedBy_flag (by decide)).exists_cons h₃
  obtain ⟨state, _, rfl, h₅⟩ := VolumeState.decodedBy.exists_cons h₄
  obtain ⟨device, _, rfl, h₆⟩ := DeviceState.decodedBy.exists_cons h₅
  obtain ⟨targetType, _, rfl, h₇⟩ := TargetType.decodedBy.exists_cons h₆
  obtain ⟨zeroed, _, rfl, h₈⟩ := (decodedBy_flag (by decide)).exists_cons h₇
  obtain ⟨health, _, rfl, h₉⟩ := Health.decodedBy.exists_cons h₈
  obtain ⟨skipActivation, rest, rfl, -⟩ := (decodedBy_flag (by decide)).exists_cons h₉
  exact ⟨⟨volumeType, permission, allocation, fixedMinor, state, device, targetType, zeroed, health,
    skipActivation⟩, rest, rfl⟩

/-- **A column is decoded exactly if it has one of the letters at each place.** -/
theorem exists_parse?_iff {s : String} :
    (∃ a, parse? s = some a) ↔ HoldAt Place.Takes form (places s) := by
  simp only [parse?_eq_some_iff]
  exact ⟨fun ⟨a, h⟩ => a.takes_code.of_prefix h, exists_code_of_takes⟩

/-! ## Bytes -/

/-- The bytes of the code. -/
def bytes (a : LvAttributes) : Bytes := Utf8.encode (String.ofList a.code)

theorem map_bytes (a : LvAttributes) : a.bytes.map charOfByte = a.code :=
  places_of_isCodeChar a.isCodeChar_code

theorem length_bytes (a : LvAttributes) : a.bytes.length = 10 := by
  rw [← List.length_map (f := charOfByte), map_bytes]
  rfl

/-- **The first ten bytes are the code.** -/
theorem parse?_eq_some_iff_bytes {s : String} {a : LvAttributes} :
    parse? s = some a ↔ 10 ≤ (Utf8.encode s).length ∧ (Utf8.encode s).take 10 = a.bytes := by
  have hprefix : a.code <+: places s ↔ a.bytes <+: Utf8.encode s := by
    rw [← map_bytes]
    exact List.prefix_map_iff_of_injective charOfByte_injective
  rw [parse?_eq_some_iff, hprefix, List.prefix_iff_eq_take, length_bytes, eq_comm]
  refine (and_iff_right_of_imp fun htake => ?_).symm
  have hlength := a.length_bytes
  rw [← htake, List.length_take] at hlength
  omega

/-- The column that is printed for attributes is decoded to them. -/
theorem take_encode_code (a : LvAttributes) :
    (Utf8.encode (String.ofList a.code)).take 10 = a.bytes :=
  (parse?_eq_some_iff_bytes.mp a.parse?_code).2

theorem bytes_injective : Function.Injective bytes := by
  intro a b h
  have hb := a.parse?_code
  rw [parse?_eq_some_iff_bytes, h, ← parse?_eq_some_iff_bytes] at hb
  exact Option.some.inj (a.parse?_code.symm.trans hb)

/-- How the columns, the attributes and the codes of ten bytes belong together. -/
structure Coding : Prop where
  /-- Attributes have exactly one code: the columns that are decoded to them are those that have it
  as their first ten bytes. -/
  one_code : ∀ a, ∃! code : Bytes, code.length = 10 ∧
    ∀ s, parse? s = some a ↔ 10 ≤ (Utf8.encode s).length ∧ (Utf8.encode s).take 10 = code
  /-- The code has the letters of the fields at their places. -/
  spelled : ∀ s a,
    parse? s = some a ↔ 10 ≤ (Utf8.encode s).length ∧ (Utf8.encode s).take 10 = a.bytes
  /-- A column is refused exactly if one of the places has a byte that is no letter of it, or is
  missing. -/
  refused : ∀ s, parse? s = none ↔ ¬HoldAt Place.Takes form (places s)
  /-- Ten bytes are a code exactly if they have one of the letters at each place. -/
  is_code : ∀ code : Bytes, code.length = 10 →
    ((∃ a, bytes a = code) ↔ HoldAt Place.Takes form (code.map charOfByte))
  /-- Columns that begin with different codes are decoded to different attributes, and different
  attributes have different codes. -/
  told_apart : ∀ s t a, parse? s = some a → parse? t = some a →
    (Utf8.encode s).take 10 = (Utf8.encode t).take 10
  distinct : ∀ a b, bytes a = bytes b → a = b
  /-- All attributes, with any value in any field, come from some column. -/
  reached : ∀ a, ∃ s, parse? s = some a

/-- **Attributes and codes of ten bytes determine each other.** -/
theorem coding : Coding where
  one_code a := by
    refine ⟨a.bytes, ⟨a.length_bytes, fun s => parse?_eq_some_iff_bytes⟩, ?_⟩
    rintro code ⟨-, hcode⟩
    rw [← ((hcode _).mp a.parse?_code).2]
    exact a.take_encode_code
  spelled s a := parse?_eq_some_iff_bytes
  refused s := by
    rw [← exists_parse?_iff, ← Option.isSome_iff_exists]
    simp
  is_code code hlength := by
    constructor
    · rintro ⟨a, rfl⟩
      rw [map_bytes]
      exact a.takes_code
    · intro h
      obtain ⟨a, hprefix⟩ := exists_code_of_takes h
      rw [← map_bytes, List.prefix_map_iff_of_injective charOfByte_injective] at hprefix
      exact ⟨a, hprefix.eq_of_length (a.length_bytes.trans hlength.symm)⟩
  told_apart s t a hs ht := by
    rw [(parse?_eq_some_iff_bytes.mp hs).2, (parse?_eq_some_iff_bytes.mp ht).2]
  distinct a b h := bytes_injective h
  reached a := ⟨_, a.parse?_code⟩

/-- A column of ten characters with one outside ASCII, which fills two places, is refused. -/
example : parse? "-wi-a----é" = none := by decide

end LvAttributes

end StorageTopology.Lvm
