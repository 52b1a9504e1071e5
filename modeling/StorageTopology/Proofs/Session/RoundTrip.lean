import StorageTopology.Proofs.Lvm.Rows
import StorageTopology.Proofs.Session.History
import StorageTopology.Proofs.Session.Report
import StorageTopology.Proofs.Text.Utf8

/-!
# What is printed is reported

An engine answers a request for a report with one message for each record, at the level that the
session captures. In between it may log anything at another level, and at this level messages that
have no row (`Idle`). `Printed` relates such a log to the records that it prints, and `Reports`
ties it to the requests.

* `mapM_rowsOf_printed`: the records of a log are read back from the rows of what is captured.
* `perform_reports`: so a report answers with exactly the records that the engine printed.
-/

namespace StorageTopology.Session

open Diagnostics Engine Lvm Text

/-! ## Messages -/

/-- A message of one line that has no row. -/
structure Idle (message : Entry) : Prop where
  feed : '\n' ∉ (Utf8.lossy message).toList
  noise : Noise (Utf8.lossy message).toList

/-- A message that prints the row `r`, with any blank characters around it. -/
inductive Prints (r : Row) : Entry → Prop where
  | padded {before after : List Char} (hbefore : ∀ c ∈ before, isBlank c ∧ c ≠ '\n')
      (hafter : ∀ c ∈ after, isBlank c ∧ c ≠ '\n') :
      Prints r (Utf8.encode (String.ofList (before ++ r.line ++ after)))

variable {message : Entry}

theorem rows_of_idle (h : Idle message) : rows (Utf8.lossy message) = [] := by
  rw [rows_of_not_mem h.feed, row?_of_noise h.noise]
  rfl

theorem rows_of_prints {r : Row} (hr : r.WellFormed) (h : Prints r message) :
    rows (Utf8.lossy message) = [r] := by
  cases h with
  | @padded before after hbefore hafter =>
    have hfeed : '\n' ∉ before ++ r.line ++ after := by
      simp only [List.mem_append, not_or]
      exact ⟨⟨fun hmem => (hbefore _ hmem).2 rfl, hr.feed_line⟩, fun hmem => (hafter _ hmem).2 rfl⟩
    rw [Utf8.lossy_encode, rows_of_not_mem (by simpa using hfeed), String.toList_ofList,
      Row.row?_padded hr (fun c hc => (hbefore c hc).1) (fun c hc => (hafter c hc).1)]
    rfl

/-- Messages without a row, one after another. -/
theorem rowsOf_of_idle {entries : List Entry} (h : ∀ e ∈ entries, Idle e) : rowsOf entries = [] :=
  List.flatMap_eq_nil_iff.mpr fun e he => rows_of_idle (h e he)

/-! ## Logs -/

/-- A log prints `items` at a level, in order: each is shown by the row of one message, and what is
logged in between is at another level or has no row. -/
inductive Printed {α : Type} (level : Int32) (shows : α → Row → Prop) :
    List LogRecord → List α → Prop where
  | nil : Printed level shows [] []
  | other {record : LogRecord} {records : List LogRecord} {items : List α}
      (hlevel : record.level ≠ level) (h : Printed level shows records items) :
      Printed level shows (record :: records) items
  | idle {record : LogRecord} {records : List LogRecord} {items : List α}
      (hlevel : record.level = level) (hidle : Idle record.message)
      (h : Printed level shows records items) : Printed level shows (record :: records) items
  | row {record : LogRecord} {records : List LogRecord} {a : α} {items : List α} {r : Row}
      (hlevel : record.level = level) (hprints : Prints r record.message) (hshows : shows a r)
      (h : Printed level shows records items) :
      Printed level shows (record :: records) (a :: items)

theorem rowsOf_kept_cons (k : Sink) (record : LogRecord) (records : List LogRecord) :
    rowsOf (k.kept (record :: records)) =
      (if record.level = k.level then rows (Utf8.lossy record.message) else []) ++
        rowsOf (k.kept records) := by
  rw [← List.singleton_append, Sink.kept_append, rowsOf_append]
  congr 1
  by_cases hlevel : record.level = k.level <;> simp [rowsOf, Sink.kept, Sink.accepts, hlevel]

/-- **Records are read back from the rows of a log that prints them.** -/
theorem mapM_rowsOf_printed {α : Type} {k : Sink} {shows : α → Row → Prop}
    {ofRow : Row → Except ParseError α} {records : List LogRecord} {items : List α}
    (h : Printed k.level shows records items)
    (hread : ∀ a ∈ items, ∀ r, shows a r → r.WellFormed ∧ ofRow r = .ok a) :
    (rowsOf (k.kept records)).mapM ofRow = .ok items := by
  induction h with
  | nil => rfl
  | other hlevel h ih =>
    rw [rowsOf_kept_cons, if_neg hlevel]
    exact ih hread
  | idle hlevel hidle h ih =>
    rw [rowsOf_kept_cons, if_pos hlevel, rows_of_idle hidle]
    exact ih hread
  | row hlevel hprints hshows h ih =>
    obtain ⟨hr, hitem⟩ := hread _ List.mem_cons_self _ hshows
    have hrest := ih fun b hb => hread b (List.mem_cons_of_mem _ hb)
    rw [rowsOf_kept_cons, if_pos hlevel, rows_of_prints hr hprints, List.singleton_append,
      List.mapM_cons, hitem, hrest]
    rfl

/-! ## Reports -/

/-- In answer to a request for a report, the log prints the records of the reply. -/
inductive Reports (level : Int32) : Request → List LogRecord → Reply → Prop where
  | pvs {filter : List String} {records : List LogRecord} {volumes : List PhysicalVolume}
      (hvolumes : ∀ v ∈ volumes, v.Reportable)
      (h : Printed level PhysicalVolume.Shows records volumes) :
      Reports level (.pvs filter) records (.physicalVolumes volumes)
  | vgs {filter : List String} {records : List LogRecord} {groups : List VolumeGroup}
      (hgroups : ∀ v ∈ groups, v.Reportable)
      (h : Printed level VolumeGroup.Shows records groups) :
      Reports level (.vgs filter) records (.volumeGroups groups)
  | lvs {filter : List String} {records : List LogRecord} {volumes : List LogicalVolume}
      (hvolumes : ∀ v ∈ volumes, v.Reportable)
      (h : Printed level LogicalVolume.Shows records volumes) :
      Reports level (.lvs filter) records (.logicalVolumes volumes)

theorem readRows?_of_reports {k : Sink} {r : Request} {records : List LogRecord} {reply : Reply}
    (h : Reports k.level r records reply) :
    ∃ read, r.readRows? = some read ∧ read (rowsOf (k.kept records)) = .ok reply := by
  cases h with
  | pvs hvolumes h =>
    refine ⟨_, rfl, ?_⟩
    rw [mapM_rowsOf_printed h fun v hv r hshows =>
      ⟨PhysicalVolume.wellFormed_of_shows (hvolumes v hv) hshows,
        PhysicalVolume.ofRow_of_shows (hvolumes v hv) hshows⟩]
    rfl
  | vgs hgroups h =>
    refine ⟨_, rfl, ?_⟩
    rw [mapM_rowsOf_printed h fun v hv r hshows =>
      ⟨VolumeGroup.wellFormed_of_shows (hgroups v hv) hshows,
        VolumeGroup.ofRow_of_shows (hgroups v hv) hshows⟩]
    rfl
  | lvs hvolumes h =>
    refine ⟨_, rfl, ?_⟩
    rw [mapM_rowsOf_printed h fun v hv r hshows =>
      ⟨LogicalVolume.wellFormed_of_shows (hvolumes v hv) hshows,
        LogicalVolume.ofRow_of_shows (hvolumes v hv) hshows⟩]
    rfl

variable {S : Type} [Engine S] [Reporting S]

/-- **A report answers with exactly the records that the engine printed**, and leaves nothing
waiting. The request passes its checks, and its command line succeeds; what waited in the queue
before had no row either. -/
theorem perform_reports {k : Sink} {es : List Entry} {s : Session S} {qs : Queues}
    (h : Attuned k es (s, qs)) (hes : ∀ e ∈ es, Idle e) {r : Request} {line : String}
    (hline : r.line = .ok line) {records : List LogRecord}
    (hreply : Reporting.reply line s.engine qs = ⟨records, .ok 1⟩) {reply : Reply}
    (hreports : Reports k.level r records reply) :
    (exec (perform r) s qs).1 = .ok reply ∧ Attuned k [] (exec (perform r) s qs).2 := by
  obtain ⟨read, hread, hrows⟩ := readRows?_of_reports hreports
  obtain ⟨hanswer, hdrained⟩ := exec_run_of_attuned h line
  rw [answerTo_ofCode, hreply] at hanswer
  have houtput : (exec (run line) s qs).1 = .ok (transcript (es ++ k.kept records)) :=
    hanswer.trans (if_pos rfl)
  rw [exec_perform_report hread hline, houtput]
  refine ⟨?_, hdrained⟩
  show (read (rows (transcript (es ++ k.kept records)))).mapError Failure.parse = _
  rw [rows_transcript, rowsOf_append, rowsOf_of_idle hes, List.nil_append, hrows]
  rfl

/-- A volume is printed between a warning and a message of another level, its size with a
fraction. -/
theorem perform_reports_lvs :
    let v : LogicalVolume := ⟨"lv0", "vg0", ⟨.plain, .writable, some .inherited, false, .active,
      .open, .noTarget, false, .ok, false⟩, 1048576, none, "/dev/vg0/lv0"⟩
    let records : List LogRecord :=
      [⟨4, Utf8.encode "WARNING: VG name vg0 is used by two VGs, a,b,c,d,e."⟩,
        ⟨4, Utf8.encode "  lv0,vg0,-wi-ao----,1048576.00,,/dev/vg0/lv0"⟩, ⟨7, [0xff, 0x0a]⟩]
    let opened : Session Scripted × Queues := startOwn (.ofReplies [⟨records, .ok 1⟩]) .initial
    let k : Sink := ⟨Queues.initial.create.1, 4⟩
    Attuned k [] opened ∧ Reports k.level (.lvs ["vg0"]) records (.logicalVolumes [v]) ∧
      (exec (perform (.lvs ["vg0"])) opened.1 opened.2).1 = .ok (.logicalVolumes [v]) := by
  intro v records opened k
  have hattuned : Attuned k [] opened := (Opened.own (.initial)).attuned
  have hfits {cs : List Char} (h : cs.all fun c => !isBlank c && c != ',') : Fits cs :=
    fits_of_forall fun c hc => by simpa using List.all_eq_true.mp h c hc
  have hname : FitsFirst v.name := ⟨hfits (by decide), by decide⟩
  have hpool : FitsOptional v.pool := ⟨hfits (by decide), by decide⟩
  have hv : v.Reportable := ⟨hname, hfits (by decide), hpool, hfits (by decide)⟩
  let r : Row := ⟨"lv0".toList, "vg0".toList, "-wi-ao----".toList, "1048576.00".toList, [],
    "/dev/vg0/lv0".toList⟩
  have hsize : Figure v.size.toNat r.fourth :=
    @Figure.fraction _ "1048576".toList "00".toList (by decide) (by decide)
      (List.all_eq_true.mp (by decide))
  have hshows : v.Shows r := ⟨rfl, rfl, rfl, hsize, rfl, rfl⟩
  have hwarning : Idle (Utf8.encode "WARNING: VG name vg0 is used by two VGs, a,b,c,d,e.") := by
    refine ⟨?_, ?_⟩
    · rw [Utf8.lossy_encode]
      decide
    · rw [Utf8.lossy_encode]
      exact @Noise.warning [] " VG name vg0 is used by two VGs, a,b,c,d,e.".toList nofun
  have hprints : Prints r (Utf8.encode "  lv0,vg0,-wi-ao----,1048576.00,,/dev/vg0/lv0") :=
    @Prints.padded r [' ', ' '] []
      (List.forall_mem_cons.mpr ⟨by decide, List.forall_mem_singleton.mpr (by decide)⟩) nofun
  have hreports : Reports k.level (.lvs ["vg0"]) records (.logicalVolumes [v]) :=
    .lvs (List.forall_mem_singleton.mpr hv)
      (.idle rfl hwarning (.row rfl hprints hshows (.other (by decide) .nil)))
  exact ⟨hattuned, hreports,
    (perform_reports hattuned nofun (by rfl) (by rfl) hreports).1⟩

end StorageTopology.Session
