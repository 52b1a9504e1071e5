import StorageTopology.Settings.Toml

/-!
# Accepted settings

What a settings file gives, said apart from the functions that read it: each setting is what the
file says of it, or the default where the file says nothing (`Chosen`), and the whole is in bounds.

* `Toml.Value.group?_eq_some_iff`: a group of settings by its members.
* `ofToml?_eq_some_iff`: the settings of a document, one by one.
* `load_eq_ok_iff`: the settings of a file are accepted exactly if it can be read, is UTF-8 and
  TOML, and gives settings that are in bounds.
-/

namespace StorageTopology

theorem Files.readText_eq_ok_iff {files : Files} {path text : String} :
    files.readText path = .ok text ↔
      ∃ content, files path = .ok content ∧ Utf8.text? content = some text := by
  unfold Files.readText
  cases hread : files path with
  | error cause => simp [bind, Except.bind]
  | ok content => cases hutf8 : Utf8.text? content <;> simp [bind, Except.bind, hutf8]

/-! ## Values of settings -/

namespace Toml.Value

/-- A group of settings with these names: what else is in a table must be bounded. -/
def IsGroup (names : List String) : Value → Prop
  | .table _ entries => entriesBounded (entries.filter fun e => !names.contains e.1)
  | .array _ | .tables _ | .moment _ => True
  | _ => False

/-- The member of a group with the name, or with the position where members have no names. -/
def member? (name : String) (position : Nat) : Value → Option Value
  | .table _ entries => entries.lookup name
  | .array items => items[position]?
  | .tables items => items[position]?.map (.table .header)
  | _ => none

theorem group?_eq_some_iff {names : List String} {v : Value} {members : List (Option Value)} :
    v.group? names = some members ↔
      v.IsGroup names ∧ names.zipIdx.map (fun name => v.member? name.1 name.2) = members := by
  have hnames (f : String → Option Value) :
      names.zipIdx.map (fun name => f name.1) = names.map f := by
    calc names.zipIdx.map (fun name => f name.1)
        = (names.zipIdx.map Prod.fst).map f := by rw [List.map_map]; rfl
      _ = names.map f := by rw [List.zipIdx_map_fst]
  cases v with
  | table _ entries =>
    simp only [group?, IsGroup, member?, hnames fun name => entries.lookup name]
    split <;> simp_all
  | array items | tables items => simp [group?, IsGroup, member?]
  | moment _ => simp [group?, IsGroup, member?, hnames fun _ => none]
  | text _ | integer _ | boolean _ | float _ => simp [group?, IsGroup]

/-- A reader of a group goes on with its members. -/
theorem bind_group?_eq_some_iff {α : Type} {names : List String} {v : Value}
    {read : List (Option Value) → Option α} {a : α} :
    (v.group? names).bind read = some a ↔
      v.IsGroup names ∧
        read (names.zipIdx.map fun name => v.member? name.1 name.2) = some a := by
  simp only [Option.bind_eq_some_iff, group?_eq_some_iff]
  constructor
  · rintro ⟨_, ⟨hgroup, rfl⟩, hread⟩
    exact ⟨hgroup, hread⟩
  · rintro ⟨hgroup, hread⟩
    exact ⟨_, ⟨hgroup, rfl⟩, hread⟩

/-- The text `s`. -/
def IsText (v : Value) (s : String) : Prop := v = .text s

/-- The integer `i`. -/
def IsInt32 (v : Value) (i : Int32) : Prop := ∃ n, v = .integer n ∧ n.value? = some i.toInt

/-- The choice `a`, which may also be the key of a table with nothing in it. -/
inductive IsChoice {α : Type} [Named α] : Value → α → Prop
  | text (a : α) : IsChoice (.text (Named.name a)) a
  | emptyTable (a : α) {origin inner : Origin} :
      IsChoice (.table origin [(Named.name a, .table inner [])]) a
  | emptyArray (a : α) {origin : Origin} :
      IsChoice (.table origin [(Named.name a, .array [])]) a

theorem text?_eq_some_iff {v : Value} {s : String} : v.text? = some s ↔ v.IsText s := by
  cases v <;> simp [text?, IsText]

theorem int32?_eq_some_iff {v : Value} {i : Int32} : v.int32? = some i ↔ v.IsInt32 i := by
  constructor
  · intro h
    cases v with
    | integer n =>
      obtain ⟨k, hk, h⟩ := Option.bind_eq_some_iff.mp h
      split at h
      · rename_i hrange
        obtain rfl := Option.some.inj h
        refine ⟨n, rfl, ?_⟩
        rw [Int32.toInt_ofInt_of_le hrange.1 (Int.lt_of_le_of_lt hrange.2 (by decide))]
        exact hk
      · cases h
    | _ => cases h
  · rintro ⟨n, rfl, hn⟩
    rw [int32?, hn]
    refine (if_pos ⟨i.minValue_le_toInt, i.toInt_le⟩).trans ?_
    rw [i.ofInt_toInt]

theorem named?_eq_some_iff {α : Type} [Named α] {v : Value} {a : α} :
    v.named? = some a ↔ v.IsChoice a := by
  constructor
  · intro h
    unfold named? at h
    split at h
    · obtain rfl := Named.ofName?_eq_some_iff.mp h
      exact .text a
    · obtain rfl := Named.ofName?_eq_some_iff.mp h
      exact .emptyTable a
    · obtain rfl := Named.ofName?_eq_some_iff.mp h
      exact .emptyArray a
    · cases h
  · intro h
    cases h with
    | text | emptyTable | emptyArray => exact Named.ofName?_name a

end Toml.Value

/-- A setting is what the file says of it, or the default where it says nothing. -/
def Chosen {α : Type} (means : Toml.Value → α → Prop) (default : α) : Option Toml.Value → α → Prop
  | some v, a => means v a
  | none, a => a = default

theorem settingOr_eq_some_iff {α : Type} {read : Toml.Value → Option α}
    {means : Toml.Value → α → Prop} (h : ∀ {v a}, read v = some a ↔ means v a) {default a : α}
    {v : Option Toml.Value} : settingOr default read v = some a ↔ Chosen means default v a := by
  cases v with
  | none => simp [settingOr, Chosen, eq_comm]
  | some v => exact h

/-! ## Groups of settings -/

/-- What a group says of the captured messages. -/
structure CaptureSettings.Says (v : Toml.Value) (c : CaptureSettings) : Prop where
  group : v.IsGroup ["level"]
  level : Chosen Toml.Value.IsInt32 4 (v.member? "level" 0) c.level

/-- What a group says of the tools. -/
structure DiscoverySettings.Says (v : Toml.Value) (d : DiscoverySettings) : Prop where
  group : v.IsGroup ["source", "parted", "lsblk"]
  source : Chosen Toml.Value.IsChoice .parted (v.member? "source" 0) d.source
  parted : Chosen Toml.Value.IsText "parted" (v.member? "parted" 1) d.parted
  lsblk : Chosen Toml.Value.IsText "lsblk" (v.member? "lsblk" 2) d.lsblk

/-- What a document says. -/
structure Settings.Says (v : Toml.Value) (s : Settings) : Prop where
  group : v.IsGroup ["capture", "discovery"]
  capture : Chosen CaptureSettings.Says ⟨4⟩ (v.member? "capture" 0) s.capture
  discovery : Chosen DiscoverySettings.Says ⟨.parted, "parted", "lsblk"⟩ (v.member? "discovery" 1)
    s.discovery

theorem CaptureSettings.ofToml?_eq_some_iff {v : Toml.Value} {c : CaptureSettings} :
    ofToml? v = some c ↔ Says v c := by
  have hlevel {o : Option Toml.Value} {i : Int32} :
      settingOr default.level Toml.Value.int32? o = some i ↔ Chosen Toml.Value.IsInt32 4 o i :=
    settingOr_eq_some_iff Toml.Value.int32?_eq_some_iff
  refine Toml.Value.bind_group?_eq_some_iff.trans ⟨?_, ?_⟩
  · rintro ⟨hgroup, h⟩
    obtain ⟨level, hl, hc⟩ := Option.bind_eq_some_iff.mp h
    obtain rfl := Option.some.inj hc
    exact ⟨hgroup, hlevel.mp hl⟩
  · rintro ⟨hgroup, hl⟩
    exact ⟨hgroup, Option.bind_eq_some_iff.mpr ⟨_, hlevel.mpr hl, rfl⟩⟩

theorem DiscoverySettings.ofToml?_eq_some_iff {v : Toml.Value} {d : DiscoverySettings} :
    ofToml? v = some d ↔ Says v d := by
  have hsource {o : Option Toml.Value} {a : DiscoverySource} :
      settingOr default.source Toml.Value.named? o = some a ↔
        Chosen Toml.Value.IsChoice .parted o a :=
    settingOr_eq_some_iff Toml.Value.named?_eq_some_iff
  have htext {program s : String} {o : Option Toml.Value} :
      settingOr program Toml.Value.text? o = some s ↔ Chosen Toml.Value.IsText program o s :=
    settingOr_eq_some_iff Toml.Value.text?_eq_some_iff
  refine Toml.Value.bind_group?_eq_some_iff.trans ⟨?_, ?_⟩
  · rintro ⟨hgroup, h⟩
    obtain ⟨source, hs, h⟩ := Option.bind_eq_some_iff.mp h
    obtain ⟨parted, hp, h⟩ := Option.bind_eq_some_iff.mp h
    obtain ⟨lsblk, hl, hd⟩ := Option.bind_eq_some_iff.mp h
    obtain rfl := Option.some.inj hd
    exact ⟨hgroup, hsource.mp hs, htext.mp hp, htext.mp hl⟩
  · rintro ⟨hgroup, hs, hp, hl⟩
    refine ⟨hgroup, Option.bind_eq_some_iff.mpr ⟨_, hsource.mpr hs, ?_⟩⟩
    refine Option.bind_eq_some_iff.mpr ⟨_, htext.mpr hp, ?_⟩
    exact Option.bind_eq_some_iff.mpr ⟨_, htext.mpr hl, rfl⟩

namespace Settings

/-- **The settings of a document**, one by one: what it says of each, or the default. -/
theorem ofToml?_eq_some_iff {v : Toml.Value} {s : Settings} : ofToml? v = some s ↔ Says v s := by
  have hcapture {o : Option Toml.Value} {c : CaptureSettings} :
      settingOr .default CaptureSettings.ofToml? o = some c ↔
        Chosen CaptureSettings.Says ⟨4⟩ o c :=
    settingOr_eq_some_iff CaptureSettings.ofToml?_eq_some_iff
  have hdiscovery {o : Option Toml.Value} {d : DiscoverySettings} :
      settingOr .default DiscoverySettings.ofToml? o = some d ↔
        Chosen DiscoverySettings.Says ⟨.parted, "parted", "lsblk"⟩ o d :=
    settingOr_eq_some_iff DiscoverySettings.ofToml?_eq_some_iff
  refine Toml.Value.bind_group?_eq_some_iff.trans ⟨?_, ?_⟩
  · rintro ⟨hgroup, h⟩
    obtain ⟨capture, hc, h⟩ := Option.bind_eq_some_iff.mp h
    obtain ⟨discovery, hd, hs⟩ := Option.bind_eq_some_iff.mp h
    obtain rfl := Option.some.inj hs
    exact ⟨hgroup, hcapture.mp hc, hdiscovery.mp hd⟩
  · rintro ⟨hgroup, hc, hd⟩
    refine ⟨hgroup, Option.bind_eq_some_iff.mpr ⟨_, hcapture.mpr hc, ?_⟩⟩
    exact Option.bind_eq_some_iff.mpr ⟨_, hdiscovery.mpr hd, rfl⟩

/-! ## Settings that are accepted -/

/-- The level is one that there is, and neither program has a blank name. -/
structure InBounds (s : Settings) : Prop where
  level : 0 ≤ s.capture.level.toInt ∧ s.capture.level.toInt ≤ 7
  parted : ∃ c ∈ s.discovery.parted.toList, Text.isBlank c = false
  lsblk : ∃ c ∈ s.discovery.lsblk.toList, Text.isBlank c = false

theorem validate_eq_ok_iff (s : Settings) : s.validate = .ok () ↔ s.InBounds := by
  have hlevel : ¬(s.capture.level < 0 ∨ 7 < s.capture.level) ↔
      0 ≤ s.capture.level.toInt ∧ s.capture.level.toInt ≤ 7 := by
    rw [Int32.lt_iff_toInt_lt, Int32.lt_iff_toInt_lt, not_or, Int.not_lt, Int.not_lt]
    rfl
  unfold validate
  constructor
  · intro h
    split at h
    · cases h
    · split at h
      · cases h
      · split at h
        · cases h
        · rename_i hout hparted hlsblk
          exact ⟨hlevel.mp hout, Text.isAllBlank_eq_false_iff.mp (by simpa using hparted),
            Text.isAllBlank_eq_false_iff.mp (by simpa using hlsblk)⟩
  · intro h
    rw [if_neg (hlevel.mpr h.level), Text.isAllBlank_eq_false_iff.mpr h.parted,
      Text.isAllBlank_eq_false_iff.mpr h.lsblk]
    rfl

/-- The settings are the defaults without a settings file; with one it is read, it is UTF-8 and
TOML, and what it says of the settings is in bounds. -/
inductive Accepted (files : Files) : Option String → Settings → Prop where
  | byDefault : Accepted files none ⟨⟨4⟩, ⟨.parted, "parted", "lsblk"⟩⟩
  | ofFile {path text : String} {content : Bytes} {entries : List (String × Toml.Value)}
      {s : Settings} (read : files path = .ok content) (utf8 : Utf8.text? content = some text)
      (toml : Toml.parse? text = some entries)
      (given : Says (.table .header entries) s) (inBounds : s.InBounds) :
      Accepted files (some path) s

theorem parse_eq_ok_iff {text : String} {s : Settings} :
    parse text = .ok s ↔ ∃ entries, Toml.parse? text = some entries ∧
      Says (.table .header entries) s ∧ s.InBounds := by
  simp only [← ofToml?_eq_some_iff]
  unfold parse
  cases htoml : Toml.parse? text with
  | none => simp
  | some entries =>
    cases hsettings : ofToml? (.table .header entries) with
    | none => simp [hsettings]
    | some given =>
      simp only [Option.bind_some, hsettings, Option.some.injEq, exists_eq_left',
        ← validate_eq_ok_iff]
      cases hvalid : given.validate with
      | ok =>
        refine ⟨fun h => ?_, fun h => congrArg Except.ok h.1⟩
        obtain rfl := Except.ok.inj h
        exact ⟨rfl, hvalid⟩
      | error cause =>
        refine ⟨nofun, fun ⟨hs, hok⟩ => ?_⟩
        rw [hs, hok] at hvalid
        cases hvalid

theorem load_eq_ok_iff {files : Files} {path : String} {s : Settings} :
    load files path = .ok s ↔ Accepted files (some path) s := by
  have hload : load files path = .ok s ↔
      ∃ text, files.readText path = .ok text ∧ parse text = .ok s := by
    unfold load
    cases files.readText path <;> simp
  rw [hload]
  constructor
  · rintro ⟨text, htext, hparse⟩
    obtain ⟨content, hread, hutf8⟩ := Files.readText_eq_ok_iff.mp htext
    obtain ⟨entries, htoml, hsettings, hs⟩ := parse_eq_ok_iff.mp hparse
    exact .ofFile hread hutf8 htoml hsettings hs
  · intro h
    cases h with
    | ofFile hread hutf8 htoml hsettings hs =>
      exact ⟨_, Files.readText_eq_ok_iff.mpr ⟨_, hread, hutf8⟩,
        parse_eq_ok_iff.mpr ⟨_, htoml, hsettings, hs⟩⟩

end Settings

end StorageTopology
