import StorageTopology.Proofs.Decimal.Numeral
import StorageTopology.Proofs.Session.Perform

/-!
# The words of a request

A request is checked and becomes the words of a command line. `Request.plainWords` lists the words
that a request is documented to consist of, whatever its arguments are, and `Request.Acceptable`
says which arguments pass the checks.

* `words_eq_ok_iff`, `line_eq_ok_iff`: the checks accept exactly the acceptable arguments, and pass
  all of them on as they are.
* `isSpelled_plainWords`: a word is an argument, or it is made of characters of arguments and of
  letters, digits and a few signs.
* `nulFree_line_iff`: so a command line has the character zero exactly if an argument has it. It is
  handed to the native library as bytes that end at the first zero.
-/

namespace StorageTopology.Lvm

/-! ## Arguments that are checked -/

/-- What is checked is passed on as `a` if `ok` holds, and refused otherwise. -/
def PassesOn {α : Type} (checked : Except ArgumentError α) (ok : Prop) (a : α) : Prop :=
  ∀ b, checked = .ok b ↔ ok ∧ b = a

section PassesOn

variable {α β : Type} {checked : Except ArgumentError α} {ok ok' : Prop} {a : α} {b : β}

theorem passesOn_ok (a : α) : PassesOn (.ok a) True a := by
  intro b
  rw [Except.ok.injEq, true_and, eq_comm]

theorem PassesOn.congr (h : PassesOn checked ok a) (hok : ok ↔ ok') : PassesOn checked ok' a := by
  intro b
  rw [h b, hok]

/-- What two checks pass on, one after the other. -/
theorem PassesOn.bind {rest : α → Except ArgumentError β} (h : PassesOn checked ok a)
    (hrest : PassesOn (rest a) ok' b) : PassesOn (checked >>= rest) (ok ∧ ok') b := by
  intro c
  cases checked with
  | error cause =>
    have hnot : ¬ ok := fun hok => absurd ((h a).mpr ⟨hok, rfl⟩) nofun
    exact ⟨nofun, fun hc => absurd hc.1.1 hnot⟩
  | ok a' =>
    obtain ⟨hok, rfl⟩ := (h a').mp rfl
    show rest a' = .ok c ↔ _
    rw [hrest c, and_iff_right hok]

end PassesOn

theorem passesOn_word (what value : String) : PassesOn (word what value) (isWord value) value := by
  intro w
  unfold word
  by_cases hword : isWord value
  · rw [if_pos hword, Except.ok.injEq, and_iff_right hword, eq_comm]
  · rw [if_neg hword]
    exact ⟨nofun, fun h => absurd h.1 hword⟩

theorem allWords_cons (what value : String) (values : List String) :
    allWords what (value :: values) =
      (word what value >>= fun w => allWords what values >>= fun ws => .ok (w :: ws)) :=
  List.mapM_cons

theorem passesOn_allWords (what : String) : ∀ values : List String,
    PassesOn (allWords what values) (∀ v ∈ values, isWord v) values
  | [] => (passesOn_ok []).congr (by simp)
  | value :: values => by
    have hrest : PassesOn (allWords what values >>= fun ws => .ok (value :: ws))
        ((∀ v ∈ values, isWord v) ∧ True) (value :: values) :=
      (passesOn_allWords what values).bind (passesOn_ok _)
    rw [allWords_cons]
    exact ((passesOn_word what value).bind hrest).congr (by simp)

theorem passesOn_someWords (what : String) (values : List String) :
    PassesOn (someWords what values) (values ≠ [] ∧ ∀ v ∈ values, isWord v) values := by
  unfold someWords
  cases values with
  | nil => exact fun ws => ⟨nofun, fun h => absurd rfl h.1.1⟩
  | cons value values =>
    exact (passesOn_allWords what (value :: values)).congr (by simp)

/-! ## The words of a request -/

namespace Request

/-- The texts that a request is made with. -/
def arguments : Request → List String
  | .run command => [command]
  | .pvcreate device | .pvresize device _ | .pvremove device => [device]
  | .pvs filter | .vgs filter | .lvs filter => filter
  | .vgcreate vg devices | .vgextend vg devices | .vgreduce vg devices => vg :: devices
  | .vgrename old new => [old, new]
  | .vgremove vg => [vg]
  | .lvcreate name vg _ _ => [name, vg]
  | .lvThinCreate name vg pool _ => [name, vg, pool]
  | .lvconvertThinPool vg metadata pool => [vg, metadata, pool]
  | .lvrename vg old new => [vg, old, new]
  | .lvremove vg lv => [vg, lv]

/-- What passes the checks of a request: every argument is one word, and a list of devices is not
empty. A command line that is given as such is not checked. -/
def Acceptable : Request → Prop
  | .run _ => True
  | .vgcreate vg devices | .vgextend vg devices | .vgreduce vg devices =>
    isWord vg ∧ devices ≠ [] ∧ ∀ d ∈ devices, isWord d
  | r => ∀ a ∈ r.arguments, isWord a

/-- The words of a request: the tool, its flags, and every argument as it was given, where a logical
volume is named with its group and a size is a decimal number of bytes. -/
def plainWords : Request → List String
  | .run command => [command]
  | .pvcreate device => ["pvcreate", "-y", device]
  | .pvs filter =>
    ["pvs", "--noheadings", "--units", "b", "--nosuffix", "--separator", ",", "-o",
      "pv_name,vg_name,pv_fmt,pv_attr,pv_size,pv_free"] ++ filter
  | .pvresize device none => ["pvresize", "-y", device]
  | .pvresize device (some n) =>
    ["pvresize", "-y", "--setphysicalvolumesize", n.toNat.repr ++ "b", device]
  | .pvremove device => ["pvremove", "-y", device]
  | .vgcreate vg devices => ["vgcreate", vg] ++ devices
  | .vgs filter =>
    ["vgs", "--noheadings", "--units", "b", "--nosuffix", "--separator", ",", "-o",
      "vg_name,pv_count,lv_count,vg_attr,vg_size,vg_free"] ++ filter
  | .vgrename old new => ["vgrename", old, new]
  | .vgextend vg devices => ["vgextend", vg] ++ devices
  | .vgreduce vg devices => ["vgreduce", vg] ++ devices
  | .vgremove vg => ["vgremove", "-y", vg]
  | .lvcreate name vg type n =>
    ["lvcreate", "-y", "--type", Named.name type, "-L", n.toNat.repr ++ "b", vg, "-n", name]
  | .lvThinCreate name vg pool n =>
    ["lvcreate", "-y", "-n", name, "-V", n.toNat.repr ++ "b", "--thinpool", pool, vg]
  | .lvconvertThinPool vg metadata pool =>
    ["lvconvert", "-y", "--type", "thin-pool", "--poolmetadata", vg ++ "/" ++ metadata,
      vg ++ "/" ++ pool]
  | .lvs filter =>
    ["lvs", "--noheadings", "--units", "b", "--nosuffix", "--separator", ",", "-o",
      "lv_name,vg_name,lv_attr,lv_size,pool_lv,lv_path"] ++ filter
  | .lvrename vg old new => ["lvrename", vg, old, new]
  | .lvremove vg lv => ["lvremove", "-y", vg ++ "/" ++ lv]

theorem passesOn_words (r : Request) : PassesOn r.words r.Acceptable r.plainWords := by
  cases r with
  | run command => exact passesOn_ok _
  | pvs filter | vgs filter | lvs filter =>
    refine PassesOn.congr ((passesOn_allWords _ _).bind (passesOn_ok _)) ?_
    simp [Acceptable, arguments]
  | vgcreate vg devices | vgextend vg devices | vgreduce vg devices =>
    refine PassesOn.congr
      ((passesOn_word _ _).bind ((passesOn_someWords _ _).bind (passesOn_ok _))) ?_
    simp [Acceptable]
  | pvcreate device | pvremove device | vgremove vg =>
    refine PassesOn.congr ((passesOn_word _ _).bind (passesOn_ok _)) ?_
    simp [Acceptable, arguments]
  | pvresize device size =>
    cases size <;> refine PassesOn.congr ((passesOn_word _ _).bind (passesOn_ok _)) ?_ <;>
      simp [Acceptable, arguments]
  | vgrename first second | lvcreate first second type size | lvremove first second =>
    refine PassesOn.congr ((passesOn_word _ _).bind ((passesOn_word _ _).bind (passesOn_ok _))) ?_
    simp [Acceptable, arguments]
  | lvThinCreate first second third size | lvconvertThinPool first second third
  | lvrename first second third =>
    refine PassesOn.congr ((passesOn_word _ _).bind ((passesOn_word _ _).bind
      ((passesOn_word _ _).bind (passesOn_ok _)))) ?_
    simp [Acceptable, arguments]

/-- **The checks accept what is acceptable**, and the words are then the plain ones. -/
theorem words_eq_ok_iff {r : Request} {ws : List String} :
    r.words = .ok ws ↔ r.Acceptable ∧ ws = r.plainWords :=
  passesOn_words r ws

theorem line_eq_ok_iff {r : Request} {line : String} :
    r.line = .ok line ↔ r.Acceptable ∧ line = commandLine r.plainWords := by
  have hwords := @words_eq_ok_iff r
  unfold Request.line
  cases hr : r.words with
  | error cause =>
    have hnot : ¬ r.Acceptable := fun h => absurd (hr ▸ hwords.mpr ⟨h, rfl⟩) nofun
    exact ⟨nofun, fun h => absurd h.1 hnot⟩
  | ok ws =>
    obtain ⟨hacceptable, rfl⟩ := hwords.mp hr
    rw [Except.ok.injEq, and_iff_right hacceptable, eq_comm]

/-! ## The characters of words -/

/-- The characters of the words that do not come from arguments. -/
def isFixedChar (c : Char) : Bool := c.isAlphanum || c = '-' || c = '_' || c = ',' || c = '/'

/-- A word is one of the arguments, or it is put together from them and plain characters. -/
def IsSpelled (args : List String) (w : String) : Prop :=
  w ∈ args ∨ (w ≠ "" ∧ ∀ c ∈ w.toList, isFixedChar c ∨ ∃ a ∈ args, c ∈ a.toList)

section Spelled

variable {args : List String} {w vg lv : String}

theorem isSpelled_argument (h : w ∈ args) : IsSpelled args w := .inl h

theorem isSpelled_fixed (h : w ≠ "" ∧ w.toList.all isFixedChar) : IsSpelled args w :=
  .inr ⟨h.1, fun c hc => .inl (List.all_eq_true.mp h.2 c hc)⟩

theorem isSpelled_size (args : List String) (n : Nat) : IsSpelled args (n.repr ++ "b") := by
  refine .inr ⟨by simp, fun c hc => .inl ?_⟩
  rw [String.toList_append, Nat.toList_repr] at hc
  rcases List.mem_append.mp hc with hc | hc
  · have hdigit := Decimal.isDigit_of_mem_toDigits hc
    simp [isFixedChar, Char.isAlphanum, hdigit]
  · rw [List.mem_singleton.mp hc]
    decide

theorem isSpelled_type (args : List String) (type : SegmentType) :
    IsSpelled args (Named.name type) := by
  cases type <;> exact isSpelled_fixed (by decide)

theorem isSpelled_volume (hvg : vg ∈ args) (hlv : lv ∈ args) :
    IsSpelled args (vg ++ "/" ++ lv) := by
  refine .inr ⟨by simp, fun c hc => ?_⟩
  simp only [String.toList_append, List.mem_append] at hc
  rcases hc with (hc | hc) | hc
  · exact .inr ⟨vg, hvg, hc⟩
  · rw [List.mem_singleton.mp hc]
    exact .inl (by decide)
  · exact .inr ⟨lv, hlv, hc⟩

end Spelled

/-- **Every word is spelled from the arguments** and plain characters. -/
theorem isSpelled_plainWords (r : Request) : ∀ w ∈ r.plainWords, IsSpelled r.arguments w := by
  rcases r with _ | _ | _ | ⟨device, _ | n⟩ | _ | _ | _ | _ | _ | _ | _ | _ | _ | _ | _ | _ | _
  all_goals
    simp (disch := first | decide | simp) only [plainWords, arguments, List.forall_mem_append,
      List.forall_mem_cons, List.not_mem_nil, forall_false, implies_true, true_and, and_true,
      isSpelled_argument, isSpelled_fixed, isSpelled_size, isSpelled_type, isSpelled_volume]
  -- What is left are the lists of arguments: filters, and the devices after a group.
  case pvs | vgs | lvs => exact fun w hw => .inl hw
  all_goals exact fun w hw => .inl (List.mem_cons_of_mem _ hw)

/-- The report that follows a rename has arguments that are spelled from those of the rename. -/
theorem isSpelled_followUp {r next : Request} (hnext : r.followUp? = some next) :
    ∀ a ∈ next.arguments, IsSpelled r.arguments a := by
  cases r with
  | vgrename old new =>
    obtain rfl := Option.some.inj hnext
    exact fun a ha => .inl (List.mem_cons_of_mem _ ha)
  | lvrename vg old new =>
    obtain rfl := Option.some.inj hnext
    intro a ha
    rw [List.mem_singleton.mp ha]
    exact isSpelled_volume (by simp [arguments]) (by simp [arguments])
  | _ => exact absurd hnext (by simp [followUp?])

end Request

/-! ## The character zero -/

/-- A text without the character zero. -/
abbrev NulFree (s : String) : Prop := '\x00' ∉ s.toList

/-- What is true of the space and of every character of the words is true of every character of
their command line. -/
theorem forall_mem_commandLine {P : Char → Prop} (hspace : P ' ') : ∀ {words : List String},
    (∀ w ∈ words, ∀ c ∈ w.toList, P c) → ∀ c ∈ (commandLine words).toList, P c
  | [], _ => by simp [commandLine]
  | [w], h => by
    unfold commandLine
    rw [String.intercalate_singleton]
    exact h w List.mem_cons_self
  | w :: next :: words, h => by
    unfold commandLine
    rw [String.intercalate_cons_cons, String.toList_append, String.toList_append]
    have hrest : ∀ c ∈ (commandLine (next :: words)).toList, P c :=
      forall_mem_commandLine hspace fun v hv => h v (List.mem_cons_of_mem w hv)
    intro c hc
    rcases List.mem_append.mp hc with hc | hc
    · rcases List.mem_append.mp hc with hc | hc
      · exact h w List.mem_cons_self c hc
      · rwa [List.mem_singleton.mp hc]
    · exact hrest c hc

/-- A command line has every character of its words. -/
theorem mem_commandLine {w : String} {c : Char} (hc : c ∈ w.toList) : ∀ {words : List String},
    w ∈ words → c ∈ (commandLine words).toList
  | [], hw => absurd hw nofun
  | [v], hw => by
    obtain rfl := List.mem_singleton.mp hw
    unfold commandLine
    rwa [String.intercalate_singleton]
  | v :: next :: words, hw => by
    unfold commandLine
    rw [String.intercalate_cons_cons, String.toList_append, String.toList_append]
    rcases List.mem_cons.mp hw with rfl | hw
    · exact List.mem_append_left _ (List.mem_append_left _ hc)
    · exact List.mem_append_right _ (mem_commandLine hc hw)

namespace Request

/-- No argument has the character zero. -/
abbrev NulFree (r : Request) : Prop := ∀ a ∈ r.arguments, Lvm.NulFree a

/-- A word that is spelled from arguments has no character that is neither plain nor in one of
them. -/
theorem IsSpelled.forall_mem {args : List String} {w : String} {P : Char → Prop}
    (h : IsSpelled args w) (hfixed : ∀ c, isFixedChar c → P c)
    (hargs : ∀ a ∈ args, ∀ c ∈ a.toList, P c) : ∀ c ∈ w.toList, P c := by
  rcases h with h | ⟨-, h⟩
  · exact hargs w h
  · intro c hc
    rcases h c hc with hc | ⟨a, ha, hc⟩
    · exact hfixed c hc
    · exact hargs a ha c hc

theorem ne_zero_of_isFixedChar {c : Char} (h : isFixedChar c) : c ≠ '\x00' := by
  rintro rfl
  exact absurd h (by decide)

theorem IsSpelled.nulFree {args : List String} {w : String} (h : IsSpelled args w)
    (hargs : ∀ a ∈ args, Lvm.NulFree a) : Lvm.NulFree w := by
  have hall := h.forall_mem (P := (· ≠ '\x00')) (fun _ => ne_zero_of_isFixedChar)
    fun a ha _ hc heq => hargs a ha (heq ▸ hc)
  exact fun hmem => hall _ hmem rfl

theorem nulFree_line {r : Request} (h : r.NulFree) {line : String} (hline : r.line = .ok line) :
    Lvm.NulFree line := by
  obtain ⟨-, rfl⟩ := line_eq_ok_iff.mp hline
  have hall := forall_mem_commandLine (P := (· ≠ '\x00')) (by decide)
    fun w hw _ hc heq => (isSpelled_plainWords r w hw).nulFree h (heq ▸ hc)
  exact fun hmem => hall _ hmem rfl

/-- One of the words has all characters of `a`. -/
def HasChars (words : List String) (a : String) : Prop :=
  ∃ w ∈ words, ∀ c ∈ a.toList, c ∈ w.toList

theorem hasChars_of_mem {words : List String} {a : String} (h : a ∈ words) : HasChars words a :=
  ⟨a, h, fun _ hc => hc⟩

/-- A logical volume is named with its group: that word has the characters of both. -/
theorem hasChars_of_volume {words : List String} {vg lv : String} (h : vg ++ "/" ++ lv ∈ words) :
    HasChars words vg ∧ HasChars words lv := by
  refine ⟨⟨_, h, fun c hc => ?_⟩, ⟨_, h, fun c hc => ?_⟩⟩
  · simp only [String.toList_append, List.mem_append]
    exact .inl (.inl hc)
  · simp only [String.toList_append, List.mem_append]
    exact .inr hc

/-- No character of an argument is lost. -/
theorem hasChars_plainWords (r : Request) : ∀ a ∈ r.arguments, HasChars r.plainWords a := by
  have asGiven (h : r.arguments ⊆ r.plainWords) : ∀ a ∈ r.arguments, HasChars r.plainWords a :=
    fun a ha => hasChars_of_mem (h ha)
  cases r with
  | pvs filter | vgs filter | lvs filter => exact asGiven (List.subset_append_right _ _)
  | vgcreate vg devices | vgextend vg devices | vgreduce vg devices =>
    exact asGiven (List.subset_cons_self _ _)
  | pvresize device size => cases size <;> exact asGiven (by simp [arguments, plainWords])
  | lvconvertThinPool vg metadata pool =>
    have hmetadata : vg ++ "/" ++ metadata ∈ (lvconvertThinPool vg metadata pool).plainWords := by
      simp [plainWords]
    have hpool : vg ++ "/" ++ pool ∈ (lvconvertThinPool vg metadata pool).plainWords := by
      simp [plainWords]
    simp only [arguments, List.forall_mem_cons]
    exact ⟨(hasChars_of_volume hmetadata).1, (hasChars_of_volume hmetadata).2,
      (hasChars_of_volume hpool).2, nofun⟩
  | lvremove vg lv =>
    have hvolume : vg ++ "/" ++ lv ∈ (lvremove vg lv).plainWords := by simp [plainWords]
    simp only [arguments, List.forall_mem_cons]
    exact ⟨(hasChars_of_volume hvolume).1, (hasChars_of_volume hvolume).2, nofun⟩
  | _ => exact asGiven (by simp [arguments, plainWords])

/-- **A command line has the character zero exactly if an argument has it.** -/
theorem nulFree_line_iff {r : Request} {line : String} (hline : r.line = .ok line) :
    Lvm.NulFree line ↔ r.NulFree := by
  refine ⟨fun h a ha hnul => ?_, fun h => nulFree_line h hline⟩
  obtain ⟨-, rfl⟩ := line_eq_ok_iff.mp hline
  obtain ⟨w, hw, hchars⟩ := r.hasChars_plainWords a ha
  exact h (mem_commandLine (hchars _ hnul) hw)

/-- The report that follows a rename asks for nothing else. -/
theorem NulFree.followUp {r next : Request} (h : r.NulFree) (hnext : r.followUp? = some next) :
    next.NulFree :=
  fun a ha => (isSpelled_followUp hnext a ha).nulFree h

end Request

end StorageTopology.Lvm
