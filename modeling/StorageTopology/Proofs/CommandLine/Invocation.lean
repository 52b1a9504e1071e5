import Mathlib.Tactic.SplitIfs
import StorageTopology.CommandLine.Arguments

/-!
# What an invocation asks for

The grammar of the command line, apart from the reader: an argument list is put together from parts
(`Spelling`), each of them a flag, an option with its value, or a disk, and it asks for what its
parts add up to (`Invocation`): one disk, and every option at most once.

* `Word.written_of_ofArgument`: what an argument is on its own.
* `Collected.setValue_eq_some_iff`: which values an option takes.
* `parse_eq_locate_iff`: arguments are understood as `a` exactly if they are an invocation for `a`.
* `Invocation.flag_iff`: a flag is set exactly if it stands among the options.
-/

namespace StorageTopology.CommandLine

/-! ## The grammar -/

/-- An option without a value. -/
inductive Flag where
  | json
  | free
  deriving DecidableEq, Repr

/-- How a flag is written. -/
def Flag.name : Flag → String
  | .json => "--json"
  | .free => "--free"

/-- How an option with a value is written. -/
def Valued.name : Valued → String
  | .source => "--source"
  | .config => "--config"

/-- One thing that is asked for. -/
inductive Part where
  | flag (f : Flag)
  | source (s : DiscoverySource)
  | config (file : String)
  | disk (path : String)
  deriving DecidableEq, Repr

/-- It does not start with a hyphen, unless it is just a hyphen. -/
def Plain (a : String) : Prop := a = "-" ∨ a.toList.head? ≠ some '-'

/-- What an option asks for with a value: a tool by its name, a settings file by any path but the
empty one. -/
inductive Valued.Means : Valued → String → Part → Prop
  | source (s : DiscoverySource) : Means .source (Named.name s) (.source s)
  | config {file : String} (nonempty : file ≠ "") : Means .config file (.config file)

/-- The arguments that ask for one thing. -/
inductive Part.Spelled : Part → List String → Prop
  | flag (f : Flag) : Spelled (.flag f) [f.name]
  | next {option : Valued} {value : String} {x : Part} (means : option.Means value x)
      (plain : Plain value) : Spelled x [option.name, value]
  | given {option : Valued} {value : String} {x : Part} (means : option.Means value x) :
      Spelled x [option.name ++ "=" ++ value]
  | disk {path : String} (plain : Plain path) : Spelled (.disk path) [path]

/-- Arguments and the things they ask for, in their order. Behind `--` there are only disks. -/
inductive Spelling : List String → List Part → Prop
  | nil : Spelling [] []
  | cons {words rest : List String} {x : Part} {xs : List Part} (first : x.Spelled words)
      (others : Spelling rest xs) : Spelling (words ++ rest) (x :: xs)
  | endOfOptions (disks : List String) : Spelling ("--" :: disks) (disks.map .disk)

/-- What `a` is made up of: the disk, and every option that it has. -/
def Arguments.parts (a : Arguments) : List Part :=
  .disk a.disk :: (a.source.toList.map .source ++ a.config.toList.map .config ++
    (if a.json then [.flag .json] else []) ++ if a.free then [.flag .free] else [])

/-- The arguments ask for `a`: they spell the parts of `a`, in any order. -/
def Invocation (arguments : List String) (a : Arguments) : Prop :=
  ∃ xs, Spelling arguments xs ∧ xs.Perm a.parts

/-! ## Single arguments -/

theorem isValue_iff {a : String} : isValue a ↔ Plain a := by
  simp [isValue, Plain]

theorem valueOf?_eq_some_iff {option a v : String} :
    valueOf? option a = some v ↔ a = option ++ "=" ++ v := by
  have hstart : (option.toList ++ ['=']).isPrefixOf a.toList ↔
      ∃ rest, a.toList = option.toList ++ ['='] ++ rest := by
    rw [List.isPrefixOf_iff_prefix]
    exact ⟨fun ⟨rest, h⟩ => ⟨rest, h.symm⟩, fun ⟨rest, h⟩ => ⟨rest, h.symm⟩⟩
  simp only [valueOf?]
  constructor
  · intro h
    split_ifs at h with hprefix
    obtain ⟨rest, hrest⟩ := hstart.mp hprefix
    obtain rfl := Option.some.inj h
    rw [← String.toList_inj, hrest]
    simp
  · rintro rfl
    have hprefix := hstart.mpr ⟨v.toList, by simp⟩
    rw [if_pos hprefix]
    simp

namespace Word

/-- How a word is written. -/
inductive Written : Word → String → Prop
  | json : Written .json "--json"
  | free : Written .free "--free"
  | help : Written .help "--help"
  | shortHelp : Written .help "-h"
  | awaiting (option : Valued) : Written (.awaiting option) option.name
  | given (option : Valued) (value : String) :
      Written (.given option value) (option.name ++ "=" ++ value)
  | endOfOptions : Written .endOfOptions "--"
  | disk {a : String} (plain : Plain a) : Written (.disk a) a

theorem written_of_ofArgument {w : Word} {a : String} (hw : ofArgument a = w)
    (known : w ≠ .unknown) : w.Written a := by
  subst hw
  revert known
  unfold ofArgument
  split
  · exact fun _ => ‹a = _› ▸ .endOfOptions
  split
  · exact fun _ => ‹a = _› ▸ .json
  split
  · exact fun _ => ‹a = _› ▸ .free
  split
  · rename_i hhelp
    rcases hhelp with rfl | rfl
    · exact fun _ => .help
    · exact fun _ => .shortHelp
  split
  · exact fun _ => ‹a = _› ▸ .awaiting .source
  split
  · exact fun _ => ‹a = _› ▸ .awaiting .config
  split
  · rename_i v hv
    exact fun _ => valueOf?_eq_some_iff.mp hv ▸ .given .source v
  · rename_i v hv _
    exact fun _ => valueOf?_eq_some_iff.mp hv ▸ .given .config v
  · split
    · exact fun _ => .disk ‹_›
    · exact fun h => absurd rfl h

/-- What is plain is no option and starts with none. -/
theorem ne_of_plain {a option : String} (plain : Plain a) (hhead : option.toList.head? = some '-')
    (hlonger : option ≠ "-") : a ≠ option := by
  rintro rfl
  exact plain.elim hlonger fun h => h hhead

theorem valueOf?_eq_none_of_plain {a : String} (plain : Plain a) (option : Valued) :
    valueOf? option.name a = none := by
  rw [Option.eq_none_iff_forall_ne_some]
  intro v hv
  refine ne_of_plain plain ?_ ?_ (valueOf?_eq_some_iff.mp hv)
  · cases option <;> simp [Valued.name]
  · cases option <;> simp [Valued.name, ← String.toList_inj]

theorem ofArgument_of_plain {a : String} (plain : Plain a) : ofArgument a = .disk a := by
  have hsource : valueOf? "--source" a = none := valueOf?_eq_none_of_plain plain .source
  have hconfig : valueOf? "--config" a = none := valueOf?_eq_none_of_plain plain .config
  have hhelp : ¬(a = "--help" ∨ a = "-h") := by
    rintro (h | h)
    · exact ne_of_plain plain (by decide) (by decide) h
    · exact ne_of_plain plain (by decide) (by decide) h
  unfold ofArgument
  rw [if_neg (ne_of_plain plain (by decide) (by decide)),
    if_neg (ne_of_plain plain (by decide) (by decide)),
    if_neg (ne_of_plain plain (by decide) (by decide)), if_neg hhelp,
    if_neg (ne_of_plain plain (by decide) (by decide)),
    if_neg (ne_of_plain plain (by decide) (by decide)), hsource, hconfig]
  exact if_pos plain

theorem Written.ofArgument_eq {w : Word} {a : String} (h : w.Written a) : ofArgument a = w := by
  cases h with
  | json | free | help | shortHelp | endOfOptions => rfl
  | awaiting option => cases option <;> rfl
  | given option value =>
    cases option <;> simp [ofArgument, Valued.name, ← String.toList_inj, valueOf?]
  | disk plain => exact ofArgument_of_plain plain

end Word

/-! ## Parts that are collected -/

/-- What can be asked for once. -/
inductive Part.Kind where
  | flag (f : Flag)
  | option (o : Valued)
  | disk
  deriving DecidableEq

/-- What a part asks for, without its value. -/
def Part.kind : Part → Kind
  | .flag f => .flag f
  | .source _ => .option .source
  | .config _ => .option .config
  | .disk _ => .disk

namespace Collected

/-- What was collected. -/
def parts (p : Collected) : List Part :=
  p.disk.toList.map .disk ++ (p.source.toList.map .source ++ p.config.toList.map .config ++
    (if p.json then [.flag .json] else []) ++ if p.free then [.flag .free] else [])

/-- Add a part, unless there is one of its kind. -/
def add? (p : Collected) : Part → Option Collected
  | .flag .json => if p.json then none else some { p with json := true }
  | .flag .free => if p.free then none else some { p with free := true }
  | .source s => if p.source.isSome then none else some { p with source := some s }
  | .config file => if p.config.isSome then none else some { p with config := some file }
  | .disk path => p.setDisk path

/-- An option takes a value that means something, once. -/
theorem setValue_eq_some_iff {p p' : Collected} {option : Valued} {value : String} :
    p.setValue option value = some p' ↔ ∃ x, option.Means value x ∧ p.add? x = some p' := by
  constructor
  · intro h
    cases option with
    | source =>
      obtain ⟨s, hs, hadd⟩ := Option.bind_eq_some_iff.mp h
      obtain rfl := Named.ofName?_eq_some_iff.mp hs
      exact ⟨.source s, .source s, hadd⟩
    | config =>
      simp only [setValue] at h
      split_ifs at h with hrefused
      rw [not_or] at hrefused
      exact ⟨_, .config (by simpa using hrefused.2), by simpa [add?, hrefused.1] using h⟩
  · rintro ⟨x, hmeans, hadd⟩
    cases hmeans with
    | source s => simpa [setValue, add?, Named.ofName?_name] using hadd
    | config nonempty => simpa [setValue, add?, nonempty] using hadd

theorem mem_parts {p : Collected} {x : Part} : x ∈ p.parts ↔
    match x with
    | .flag .json => p.json
    | .flag .free => p.free
    | .source s => p.source = some s
    | .config file => p.config = some file
    | .disk path => p.disk = some path := by
  rcases x with (_ | _) | s | file | path <;> simp [parts]

/-- The parts say what was collected. -/
theorem eq_of_perm {p q : Collected} (h : p.parts.Perm q.parts) : p = q := by
  have hmem (x : Part) : x ∈ p.parts ↔ x ∈ q.parts := h.mem_iff
  simp only [mem_parts] at hmem
  obtain ⟨disk, source, config, json, free⟩ := p
  obtain ⟨disk', source', config', json', free'⟩ := q
  rw [mk.injEq]
  refine ⟨?_, ?_, ?_, ?_, ?_⟩
  · exact Option.ext fun path => hmem (.disk path)
  · exact Option.ext fun s => hmem (.source s)
  · exact Option.ext fun file => hmem (.config file)
  · exact Bool.eq_iff_iff.mpr (hmem (.flag .json))
  · exact Bool.eq_iff_iff.mpr (hmem (.flag .free))

/-- Nothing is collected twice. -/
theorem nodup_kinds (p : Collected) : (p.parts.map Part.kind).Nodup := by
  obtain ⟨disk, source, config, json, free⟩ := p
  cases disk <;> cases source <;> cases config <;> cases json <;> cases free <;>
    simp [parts, Part.kind]

theorem perm_of_add? {p p' : Collected} {x : Part} (h : p.add? x = some p') :
    p'.parts.Perm (p.parts ++ [x]) := by
  -- the new part does not come last, so the parts are counted
  rw [List.perm_iff_count]
  intro y
  rcases x with (_ | _) | s | file | path <;> simp only [add?, setDisk] at h <;>
    split_ifs at h with hnew <;> obtain rfl := Option.some.inj h <;>
    simp_all [parts, List.count_cons] <;> omega

/-- What is not there yet can be added. -/
theorem exists_add? {p : Collected} {x : Part} (h : x.kind ∉ p.parts.map Part.kind) :
    ∃ p', p.add? x = some p' := by
  rcases x with (_ | _) | s | file | path <;>
    simp only [List.mem_map, not_exists, not_and, mem_parts] at h
  · exact ⟨_, if_neg fun hjson => h (.flag .json) hjson rfl⟩
  · exact ⟨_, if_neg fun hfree => h (.flag .free) hfree rfl⟩
  · refine ⟨_, if_neg fun hsource => ?_⟩
    obtain ⟨s', hs'⟩ := Option.isSome_iff_exists.mp hsource
    exact h (.source s') hs' rfl
  · refine ⟨_, if_neg fun hconfig => ?_⟩
    obtain ⟨file', hfile'⟩ := Option.isSome_iff_exists.mp hconfig
    exact h (.config file') hfile' rfl
  · refine ⟨_, if_neg fun hdisk => ?_⟩
    obtain ⟨path', hpath'⟩ := Option.isSome_iff_exists.mp hdisk
    exact h (.disk path') hpath' rfl

end Collected

/-- All that is collected when `a` is asked for. -/
def Arguments.collected (a : Arguments) : Collected :=
  ⟨some a.disk, a.source, a.config, a.json, a.free⟩

theorem Arguments.parts_collected (a : Arguments) : a.collected.parts = a.parts := rfl

namespace Collected

theorem finish_eq_locate_iff {p : Collected} {a : Arguments} :
    p.finish = .locate a ↔ p.parts.Perm a.parts := by
  rw [← a.parts_collected]
  constructor
  · intro h
    obtain ⟨disk, source, config, json, free⟩ := p
    cases disk with
    | none => cases h
    | some disk =>
      obtain rfl := Parsed.locate.inj h
      exact .refl _
  · intro h
    rw [eq_of_perm h]
    rfl

/-- A part that belongs to what is asked for can be added. -/
theorem exists_add?_of_perm {p : Collected} {x : Part} {ys : List Part} {a : Arguments}
    (h : (p.parts ++ x :: ys).Perm a.parts) : ∃ p', p.add? x = some p' := by
  have hnodup : ((p.parts ++ x :: ys).map Part.kind).Nodup :=
    (h.map Part.kind).nodup_iff.mpr a.collected.nodup_kinds
  rw [List.map_append, List.nodup_append] at hnodup
  refine exists_add? fun hmem => ?_
  exact hnodup.2.2 _ hmem _ List.mem_cons_self rfl

/-- Then it takes its place among what was collected. -/
theorem perm_cons_iff {p p' : Collected} {x : Part} {ys : List Part} {a : Arguments}
    (h : p.add? x = some p') :
    (p.parts ++ x :: ys).Perm a.parts ↔ (p'.parts ++ ys).Perm a.parts := by
  rw [List.append_cons]
  exact ((perm_of_add? h).append_right ys).congr_left a.parts |>.symm

end Collected

/-! ## The reader -/

theorem readDisks_eq_locate_iff {a : Arguments} : ∀ {disks : List String} {p : Collected},
    readDisks p disks = .locate a ↔ (p.parts ++ disks.map Part.disk).Perm a.parts
  | [], p => by
    rw [List.map_nil, List.append_nil]
    exact p.finish_eq_locate_iff
  | path :: disks, p => by
    cases hadd : p.setDisk path with
    | some p' =>
      have hread : readDisks p (path :: disks) = readDisks p' disks := by
        rw [readDisks, hadd]
      rw [hread, readDisks_eq_locate_iff, List.map_cons]
      exact (Collected.perm_cons_iff (x := .disk path) hadd).symm
    | none =>
      refine iff_of_false (by simp [readDisks, hadd]) fun h => ?_
      obtain ⟨p', hp'⟩ := Collected.exists_add?_of_perm h
      exact absurd (hadd.symm.trans hp') nofun

/-- The arguments that ask for one thing are read in one go. -/
theorem read_append {p p' : Collected} {x : Part} {words : List String} (h : x.Spelled words)
    (hadd : p.add? x = some p') (rest : List String) : read p (words ++ rest) = read p' rest := by
  cases h with
  | flag f =>
    cases f with
    | json | free =>
      simp only [Collected.add?] at hadd
      split_ifs at hadd with hnew
      obtain rfl := Option.some.inj hadd
      exact if_neg hnew
  | next means plain =>
    have hvalue := Collected.setValue_eq_some_iff.mpr ⟨x, means, hadd⟩
    rw [List.cons_append, List.singleton_append, read, (Word.Written.awaiting _).ofArgument_eq]
    simp only [isValue_iff.mpr plain, if_true, hvalue]
  | given means =>
    have hvalue := Collected.setValue_eq_some_iff.mpr ⟨x, means, hadd⟩
    rw [List.singleton_append, read, (Word.Written.given _ _).ofArgument_eq]
    simp only [hvalue]
  | disk plain =>
    have hdisk : p.setDisk _ = some p' := hadd
    rw [List.singleton_append, read, (Word.Written.disk plain).ofArgument_eq]
    simp only [hdisk]

/-- One part in front of others. -/
theorem exists_spelling_cons {p p' : Collected} {x : Part} {words rest : List String}
    {a : Arguments} (h : x.Spelled words) (hadd : p.add? x = some p')
    (hrest : ∃ ys, Spelling rest ys ∧ (p'.parts ++ ys).Perm a.parts) :
    ∃ ys, Spelling (words ++ rest) ys ∧ (p.parts ++ ys).Perm a.parts := by
  obtain ⟨ys, hspelling, hperm⟩ := hrest
  exact ⟨x :: ys, .cons h hspelling, (Collected.perm_cons_iff hadd).mpr hperm⟩

/-- What is understood is spelled, behind what was collected before. -/
theorem exists_spelling_of_read {p : Collected} {arguments : List String} {a : Arguments}
    (h : read p arguments = .locate a) :
    ∃ ys, Spelling arguments ys ∧ (p.parts ++ ys).Perm a.parts := by
  fun_induction read p arguments with
  | case1 p =>
    exact ⟨[], .nil, by rwa [List.append_nil, ← Collected.finish_eq_locate_iff]⟩
  | case3 p _ rest hword hnew ih =>
    -- the flag for JSON, for the first time
    cases Word.written_of_ofArgument hword nofun
    exact exists_spelling_cons (.flag .json) (if_neg hnew) (ih h)
  | case5 p _ rest hword hnew ih =>
    -- the flag for unallocated regions, for the first time
    cases Word.written_of_ofArgument hword nofun
    exact exists_spelling_cons (.flag .free) (if_neg hnew) (ih h)
  | case7 p _ option hword value rest p' hvalue ih =>
    -- an option, with its value in the next argument
    cases Word.written_of_ofArgument hword nofun
    split_ifs at hvalue with hplain
    obtain ⟨x, hmeans, hadd⟩ := Collected.setValue_eq_some_iff.mp hvalue
    exact exists_spelling_cons (.next hmeans (isValue_iff.mp hplain)) hadd (ih h)
  | case10 p _ rest option value hword p' hvalue ih =>
    -- an option, with its value behind an equals sign
    cases Word.written_of_ofArgument hword nofun
    obtain ⟨x, hmeans, hadd⟩ := Collected.setValue_eq_some_iff.mp hvalue
    exact exists_spelling_cons (.given hmeans) hadd (ih h)
  | case12 p _ disks hword =>
    cases Word.written_of_ofArgument hword nofun
    exact ⟨_, .endOfOptions disks, readDisks_eq_locate_iff.mp h⟩
  | case13 p _ rest path hword p' hdisk ih =>
    cases Word.written_of_ofArgument hword nofun with
    | disk plain => exact exists_spelling_cons (.disk plain) hdisk (ih h)
  | _ => cases h

/-- What is spelled is understood, behind what was collected before. -/
theorem read_of_spelling {arguments : List String} {ys : List Part} {a : Arguments}
    (h : Spelling arguments ys) :
    ∀ {p : Collected}, (p.parts ++ ys).Perm a.parts → read p arguments = .locate a := by
  induction h with
  | nil =>
    intro p hperm
    rw [List.append_nil] at hperm
    exact p.finish_eq_locate_iff.mpr hperm
  | cons first _ ih =>
    intro p hperm
    obtain ⟨p', hadd⟩ := Collected.exists_add?_of_perm hperm
    rw [read_append first hadd]
    exact ih ((Collected.perm_cons_iff hadd).mp hperm)
  | endOfOptions disks =>
    intro p hperm
    exact readDisks_eq_locate_iff.mpr hperm

/-- **Arguments are understood as `a` exactly if they are an invocation for `a`.** -/
theorem parse_eq_locate_iff {arguments : List String} {a : Arguments} :
    parse arguments = .locate a ↔ Invocation arguments a :=
  ⟨exists_spelling_of_read, fun ⟨_, hspelling, hperm⟩ => read_of_spelling hspelling hperm⟩

/-! ## Flags -/

/-- The arguments among which options are looked for: those before the mark that ends them. -/
def options (arguments : List String) : List String := arguments.takeWhile (· ≠ "--")

/-- Whether a flag is set. -/
def Arguments.flag (a : Arguments) : Flag → Bool
  | .json => a.json
  | .free => a.free

theorem Arguments.flag_mem_parts {a : Arguments} {f : Flag} : .flag f ∈ a.parts ↔ a.flag f := by
  rw [← a.parts_collected, Collected.mem_parts]
  cases f <;> rfl

/-- An argument that can be no value and names no option with a value is a flag. -/
theorem Part.Spelled.mem_iff {x : Part} {words : List String} (h : x.Spelled words) {w : String}
    (hhead : w.toList.head? = some '-') (hlonger : w ≠ "-") (hname : ∀ o : Valued, w ≠ o.name)
    (hgiven : ∀ (o : Valued) (value : String), w ≠ o.name ++ "=" ++ value) :
    w ∈ words ↔ ∃ f : Flag, w = f.name ∧ x = .flag f := by
  cases h with
  | flag g => simp
  | next means plain =>
    have hvalue := (Word.ne_of_plain plain hhead hlonger).symm
    cases means <;> simp [hname, hvalue]
  | given means => cases means <;> simp [hgiven]
  | disk plain => simp [(Word.ne_of_plain plain hhead hlonger).symm]

theorem Flag.name_injective : Function.Injective Flag.name := by
  intro f g h
  cases f <;> cases g <;> simp_all [Flag.name]

theorem Part.Spelled.name_mem_iff {x : Part} {words : List String} (h : x.Spelled words)
    (f : Flag) : f.name ∈ words ↔ x = .flag f := by
  rw [h.mem_iff (by cases f <;> rfl) (by cases f <;> decide)
    (by cases f <;> intro o <;> cases o <;> decide)
    (by cases f <;> intro o <;> cases o <;>
      simp [Flag.name, Valued.name, ← String.toList_inj])]
  constructor
  · rintro ⟨g, hg, rfl⟩
    rw [Flag.name_injective hg]
  · exact fun hx => ⟨f, rfl, hx⟩

theorem Part.Spelled.ne_endOfOptions {x : Part} {words : List String} (h : x.Spelled words) :
    ∀ w ∈ words, w ≠ "--" := by
  rintro w hw rfl
  obtain ⟨f, hf, -⟩ := (h.mem_iff (by decide) (by decide) (fun o => by cases o <;> decide)
    (fun o value => by cases o <;> simp [Valued.name, ← String.toList_inj])).mp hw
  cases f <;> exact absurd hf (by decide)

theorem Spelling.name_mem_iff {arguments : List String} {xs : List Part}
    (h : Spelling arguments xs) (f : Flag) : f.name ∈ options arguments ↔ .flag f ∈ xs := by
  induction h with
  | nil => simp [options]
  | cons first _ ih =>
    have hall : ∀ w ∈ _, decide (w ≠ "--") = true := fun w hw =>
      decide_eq_true (first.ne_endOfOptions w hw)
    rw [options, List.takeWhile_append_of_pos hall, List.mem_append, first.name_mem_iff,
      List.mem_cons, eq_comm]
    exact or_congr_right ih
  | endOfOptions disks => simp [options]

/-- **A flag is set exactly if it stands among the options.** -/
theorem Invocation.flag_iff {arguments : List String} {a : Arguments} (h : Invocation arguments a)
    (f : Flag) : a.flag f ↔ f.name ∈ options arguments := by
  obtain ⟨xs, hspelling, hperm⟩ := h
  rw [hspelling.name_mem_iff f, hperm.mem_iff, Arguments.flag_mem_parts]

end StorageTopology.CommandLine
