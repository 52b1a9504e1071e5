import Mathlib.Data.List.Basic
import StorageTopology.Engine.Scripted
import StorageTopology.Proofs.Lvm.Words
import StorageTopology.Proofs.Text.Blank

/-!
# Command lines and their words

The engine cuts a command line at runs of blanks. `Request.plainWords` lists the words that a
request is documented to consist of, without any check; `Request.Acceptable` says which arguments
pass the checks.

* `wordsBetween_commandLine`: words that have no separator in them are cut out of their command
  line as they are, for every kind of separator that the space belongs to.
* `words_eq_ok_iff`: the checks accept exactly the acceptable arguments, and change none of them.
* `carries_steps`: so the engine reads every argument as one unchanged word.
* `commands_perform`: this holds of every command line that a session hands to its engine.
-/

namespace StorageTopology

namespace Text

/-- A character that the C library counts as space: the space itself and the five characters from
the tab to the carriage return. -/
def isCSpace (c : Char) : Bool := c = ' ' || (9 ≤ c.toNat && c.toNat ≤ 13)

theorem isBlank_of_isCSpace {c : Char} (h : isCSpace c) : isBlank c := by
  unfold isCSpace at h
  simp only [Bool.or_eq_true, Bool.and_eq_true, decide_eq_true_eq] at h
  unfold isBlank
  rw [inRanges_iff]
  rcases h with rfl | h
  · exact ⟨(0x20, 0x20), by decide, by decide, by decide⟩
  · exact ⟨(0x9, 0xd), by decide, h⟩

/-- The words of a text between runs of the characters that satisfy `p`. -/
def wordsBetween (p : Char → Bool) (s : String) : List String :=
  ((s.toList.splitOnP p).filter fun w => !w.isEmpty).map String.ofList

end Text

namespace Lvm

open Text

/-! ## Cutting a command line -/

/-- **Words are cut out of their command line as they are.** -/
theorem wordsBetween_commandLine {p : Char → Bool} (hspace : p ' ') : ∀ {words : List String},
    (∀ w ∈ words, w ≠ "" ∧ ∀ c ∈ w.toList, p c = false) →
      wordsBetween p (commandLine words) = words
  | [], _ => by simp [wordsBetween, commandLine]
  | [w], h => by
    obtain ⟨hne, hclean⟩ := h w List.mem_cons_self
    unfold wordsBetween commandLine
    rw [String.intercalate_singleton, List.splitOnP_eq_singleton hclean]
    simp [hne]
  | w :: next :: words, h => by
    obtain ⟨hne, hclean⟩ := h w List.mem_cons_self
    have hrest : wordsBetween p (commandLine (next :: words)) = next :: words :=
      wordsBetween_commandLine hspace fun v hv => h v (List.mem_cons_of_mem w hv)
    have hline : (commandLine (w :: next :: words)).toList =
        w.toList ++ ' ' :: (commandLine (next :: words)).toList := by
      unfold commandLine
      rw [String.intercalate_cons_cons, String.toList_append, String.toList_append,
        List.append_assoc]
      rfl
    unfold wordsBetween at hrest ⊢
    rw [hline, List.splitOnP_append_cons_of_forall_mem hclean _ hspace, List.filter_cons_of_pos
      (by simpa using hne), List.map_cons, hrest, String.ofList_toList]

/-- A command line ends as its last word does. -/
theorem getLast?_commandLine : ∀ {words : List String} {w : String},
    (∀ v ∈ words, v ≠ "") → words.getLast? = some w →
      (commandLine words).toList.getLast? = w.toList.getLast?
  | [], _, _, h => absurd h nofun
  | [v], w, _, h => by
    obtain rfl := Option.some.inj h
    simp [commandLine]
  | v :: next :: words, w, hne, h => by
    have hnext : ∀ u ∈ next :: words, u ≠ "" := fun u hu => hne u (List.mem_cons_of_mem v hu)
    have hrest : (commandLine (next :: words)).toList.getLast? = w.toList.getLast? :=
      getLast?_commandLine hnext (by simpa using h)
    have hw : w.toList ≠ [] := by
      have hmem : w ∈ v :: next :: words := List.mem_of_getLast? h
      simpa using hne w hmem
    have hline : (commandLine (next :: words)).toList ≠ [] := by
      intro hnil
      rw [hnil, List.getLast?_nil] at hrest
      exact hw (List.getLast?_eq_none_iff.mp hrest.symm)
    unfold commandLine at hrest hline ⊢
    rw [String.intercalate_cons_cons, String.toList_append, List.getLast?_append_of_ne_nil _ hline,
      hrest]

/-! ## What the engine reads -/

theorem isWord_iff {w : String} :
    isWord w ↔ w ≠ "" ∧ ∀ c ∈ w.toList, isBlank c = false ∧ c ≠ '"' ∧ c ≠ '\'' := by
  simp [isWord, and_assoc]

/-- The engine reads `words` from the command line: between runs of blanks, and just as well between
runs of the characters that C counts as space. No quote is in the line, and no blank ends it. -/
structure Carries (line : String) (words : List String) : Prop where
  blanks : wordsBetween isBlank line = words
  spaces : wordsBetween isCSpace line = words
  unquoted : '"' ∉ line.toList ∧ '\'' ∉ line.toList
  tight : ∀ c, line.toList.getLast? = some c → isBlank c = false

theorem carries_commandLine {words : List String} (h : ∀ w ∈ words, isWord w) :
    Carries (commandLine words) words := by
  have hword := fun w hw => isWord_iff.mp (h w hw)
  refine ⟨?_, ?_, ?_, ?_⟩
  · exact wordsBetween_commandLine (by decide) fun w hw =>
      ⟨(hword w hw).1, fun c hc => ((hword w hw).2 c hc).1⟩
  · refine wordsBetween_commandLine (by decide) fun w hw => ⟨(hword w hw).1, fun c hc => ?_⟩
    have hblank := ((hword w hw).2 c hc).1
    exact Bool.eq_false_iff.mpr fun hspace => by simp [isBlank_of_isCSpace hspace] at hblank
  · have hquotes := forall_mem_commandLine (P := fun c => c ≠ '"' ∧ c ≠ '\'') (by decide)
      fun w hw c hc => ((hword w hw).2 c hc).2
    exact ⟨fun hmem => (hquotes _ hmem).1 rfl, fun hmem => (hquotes _ hmem).2 rfl⟩
  · intro c hc
    cases hlast : words.getLast? with
    | none =>
      rw [List.getLast?_eq_none_iff.mp hlast] at hc
      exact absurd hc nofun
    | some w =>
      have hw : w ∈ words := List.mem_of_getLast? hlast
      rw [getLast?_commandLine (fun v hv => (hword v hv).1) hlast] at hc
      exact ((hword w hw).2 c (List.mem_of_getLast? hc)).1

namespace Request

theorem not_isBlank_of_isFixedChar {c : Char} (h : isFixedChar c) :
    isBlank c = false ∧ c ≠ '"' ∧ c ≠ '\'' := by
  unfold isFixedChar at h
  simp only [Bool.or_eq_true, decide_eq_true_eq] at h
  rcases h with (((h | rfl) | rfl) | rfl) | rfl
  · refine ⟨not_isBlank_of_isAlphanum h, ?_, ?_⟩
    · rintro rfl
      exact absurd h (by decide)
    · rintro rfl
      exact absurd h (by decide)
  all_goals decide

theorem isWord_of_isSpelled {args : List String} {w : String} (h : IsSpelled args w)
    (hargs : ∀ a ∈ args, isWord a) : isWord w := by
  refine isWord_iff.mpr ⟨?_, ?_⟩
  · rcases h with h | ⟨h, -⟩
    · exact (isWord_iff.mp (hargs w h)).1
    · exact h
  · exact h.forall_mem (fun c => not_isBlank_of_isFixedChar) fun a ha =>
      (isWord_iff.mp (hargs a ha)).2

variable {r next : Request}

/-- If the checks pass, every argument is one word, unless the request is a whole command line. -/
theorem Acceptable.isWord_arguments (h : r.Acceptable) (hr : ∀ command, r ≠ .run command) :
    ∀ a ∈ r.arguments, isWord a := by
  cases r with
  | run command => exact absurd rfl (hr command)
  | vgcreate vg devices | vgextend vg devices | vgreduce vg devices =>
    exact List.forall_mem_cons.mpr ⟨h.1, h.2.2⟩
  | _ => exact h

theorem Acceptable.isWord_plainWords (h : r.Acceptable) (hr : ∀ command, r ≠ .run command) :
    ∀ w ∈ r.plainWords, isWord w := fun w hw =>
  isWord_of_isSpelled (isSpelled_plainWords r w hw) (h.isWord_arguments hr)

/-- The report that follows a rename has arguments that pass its checks. -/
theorem Acceptable.followUp (h : r.Acceptable) (hnext : r.followUp? = some next) :
    next.Acceptable ∧ ∀ command, next ≠ .run command := by
  have hr : ∀ command, r ≠ .run command := by
    rintro command rfl
    exact absurd hnext nofun
  have hwords : ∀ a ∈ next.arguments, isWord a := fun a ha =>
    isWord_of_isSpelled (isSpelled_followUp hnext a ha) (h.isWord_arguments hr)
  cases r with
  | vgrename old new | lvrename vg old new =>
    obtain rfl := Option.some.inj hnext
    exact ⟨hwords, nofun⟩
  | _ => exact absurd hnext (by simp [followUp?])

/-- The word lists of the command lines of a request: its own, and if that one succeeds the report
that follows a rename. -/
def steps (r : Request) (succeeds : Bool) : List (List String) :=
  r.plainWords :: if succeeds then (r.followUp?.map plainWords).toList else []

/-- **The engine reads the words of every step** from its command line. -/
theorem Acceptable.carries_steps (h : r.Acceptable) (hr : ∀ command, r ≠ .run command)
    (succeeds : Bool) :
    List.Forall₂ Carries ((r.steps succeeds).map commandLine) (r.steps succeeds) := by
  have hfirst := carries_commandLine (h.isWord_plainWords hr)
  unfold steps
  cases succeeds with
  | false => exact .cons hfirst .nil
  | true =>
    cases hnext : r.followUp? with
    | none => exact .cons hfirst .nil
    | some next =>
      obtain ⟨hacceptable, hrun⟩ := h.followUp hnext
      exact .cons hfirst (.cons (carries_commandLine (hacceptable.isWord_plainWords hrun)) .nil)

end Request

end Lvm

/-! ## What is handed to an engine -/

namespace Engine

/-- An engine, with the command lines that were handed to it. -/
structure Recorded (S : Type) where
  engine : S
  commands : List String

/-- Apart from keeping the command lines it does what the engine does. -/
instance {S : Type} [Engine S] : Engine (Recorded S) where
  install sink e := { e with engine := Engine.install sink e.engine }
  run command e qs :=
    let ran := Engine.run command e.engine qs
    { answer := ran.answer
      engine := ⟨ran.engine, e.commands ++ [command]⟩
      queues := ran.queues }

end Engine

namespace Session

open Diagnostics Engine Lvm

variable {S : Type} [Engine S]

/-- Whether the engine takes the command line `line` and answers with success. -/
def succeeds (line : String) (s : Session S) (qs : Queues) : Bool :=
  match (Engine.run line s.engine qs).answer with
  | .ok status => status.isSuccess
  | .error _ => false

/-- A command line succeeds exactly if its output is the answer. -/
theorem succeeds_iff {line : String} {s : Session S} {qs : Queues} :
    succeeds line s qs ↔ ∃ output, (exec (run line) s qs).1 = .ok output := by
  rw [exec_run]
  unfold succeeds answerTo
  cases (Engine.run line s.engine qs).answer with
  | error cause => simp
  | ok status => cases hstatus : status.isSuccess <;> simp [hstatus]

theorem commands_run (command : String) (s : Session (Recorded S)) (qs : Queues) :
    (exec (run command) s qs).2.1.engine.commands = s.engine.commands ++ [command] := by
  rw [exec_run]
  rfl

/-- A request whose arguments pass the checks hands over the command lines of its steps. -/
theorem commands_perform_eq {r : Request} {line : String} (hline : r.line = .ok line)
    (s : Session (Recorded S)) (qs : Queues) :
    (exec (perform r) s qs).2.1.engine.commands =
      s.engine.commands ++ (r.steps (succeeds line s qs)).map commandLine := by
  obtain ⟨hacceptable, rfl⟩ := Request.line_eq_ok_iff.mp hline
  have hcommands := commands_run (commandLine r.plainWords) s qs
  have hsuccess : succeeds (commandLine r.plainWords) s qs ↔
      ∃ output, (exec (run (commandLine r.plainWords)) s qs).1 = .ok output := succeeds_iff
  rw [exec_perform, carryOut, exec_runRequest_of_line hline]
  revert hcommands hsuccess
  rcases exec (run (commandLine r.plainWords)) s qs with ⟨answer, s', qs'⟩
  intro hcommands hsuccess
  cases answer with
  | error cause =>
    have hfailed : succeeds (commandLine r.plainWords) s qs = false := by simpa using hsuccess
    rw [hfailed]
    exact hcommands
  | ok output =>
    have hsucceeded : succeeds (commandLine r.plainWords) s qs := by simpa using hsuccess
    rw [hsucceeded]
    -- Only a rename is followed by a report, which the engine gets as the second command line.
    cases hnext : r.followUp? with
    | none =>
      rw [Request.steps, hnext]
      exact hcommands
    | some next =>
      have hnextLine : next.line = .ok (commandLine next.plainWords) :=
        Request.line_eq_ok_iff.mpr ⟨(hacceptable.followUp hnext).1, rfl⟩
      show (exec (runRequest next) s' qs').2.1.engine.commands = _
      rw [exec_runRequest_of_line hnextLine, commands_run, hcommands, Request.steps, hnext,
        List.append_assoc]
      rfl

/-- **Every argument reaches the engine as it was given.** A request whose arguments pass the
checks hands to the engine one command line for each of its steps, in order, and the engine reads
from each of them exactly the words of that step. -/
theorem commands_perform {r : Request} (hr : ∀ command, r ≠ .run command) {line : String}
    (hline : r.line = .ok line) (s : Session (Recorded S)) (qs : Queues) :
    ∃ lines,
      (exec (perform r) s qs).2.1.engine.commands = s.engine.commands ++ lines ∧
        List.Forall₂ Carries lines (r.steps (succeeds line s qs)) :=
  ⟨_, commands_perform_eq hline s qs,
    (Request.line_eq_ok_iff.mp hline).1.carries_steps hr (succeeds line s qs)⟩

/-- A volume is renamed and reported on: two command lines of four and of ten words. -/
theorem commands_perform_lvrename :
    let s : Session (Recorded Scripted) := ⟨⟨.ofReplies [], []⟩, Queues.globalId⟩
    let r : Request := .lvrename "vg0" "lv_old" "lv-new"
    r.line = .ok "lvrename vg0 lv_old lv-new" ∧
      ∃ lines, (exec (perform r) s .initial).2.1.engine.commands = [] ++ lines ∧
        List.Forall₂ Carries lines
          [["lvrename", "vg0", "lv_old", "lv-new"],
            ["lvs", "--noheadings", "--units", "b", "--nosuffix", "--separator", ",", "-o",
              "lv_name,vg_name,lv_attr,lv_size,pool_lv,lv_path", "vg0/lv-new"]] := by
  intro s r
  have hline : r.line = .ok "lvrename vg0 lv_old lv-new" := by decide
  exact ⟨hline, commands_perform (by simp [r]) hline s .initial⟩

end Session

end StorageTopology
