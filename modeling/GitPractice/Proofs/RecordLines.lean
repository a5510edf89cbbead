import GitPractice.Proofs.JsonReading
import GitPractice.Proofs.Startup
import GitPractice.Proofs.Status

/-!
# Records come back from their lines

Records are written one a line. The text that is written has as many lines as there
are records, and each line holds its record as JSON, since no record breaks its line,
whatever stands in its texts. So the records are all that the text can be taken for
(`Record.decodes_jsonLines_iff`).

Lines that are played for their log print nothing on the way, only reports. Therefore
the output of such a run, however it ends, is the log of its session and nothing else
(`Commands.prints_run`).
-/

namespace GitPractice

namespace Record

/-- No line breaks, and line by line they are read as the records, as many as those are. -/
structure AreLinesOf (limit : Nat) (lines : List String) (records : List Fields) : Prop where
  unbroken : ∀ line ∈ lines, ∀ c ∈ line.toList, c ≠ '\n' ∧ c ≠ '\r'
  parsed : lines.map (Json.parseWithin limit) = records.map fun fields => some (.record fields)

/-- The text is the lines of the records, each with its end. -/
def Decodes (limit : Nat) (text : String) (records : List Fields) : Prop :=
  ∃ lines : List String, text = String.join (lines.map (· ++ "\n")) ∧ AreLinesOf limit lines records

variable {limit : Nat} {text : String} {records others : List Fields}

theorem decodes_jsonLines (h : ∀ fields ∈ records, Json.Plain limit (.record fields)) :
    Decodes limit (jsonLines records) records := by
  refine ⟨records.map fun fields => Json.print (.record fields), ?_, ?_, ?_⟩
  · rw [jsonLines, List.map_map]
    rfl
  · intro line hline c hc
    obtain ⟨fields, hfields, rfl⟩ := List.mem_map.mp hline
    rw [Json.print, String.toList_ofList] at hc
    have hprintable := (h fields hfields).printable c hc
    constructor <;>
      · rintro rfl
        exact absurd hprintable (by decide)
  · rw [List.map_map]
    exact List.map_congr_left fun fields hfields => (h fields hfields).parseWithin_print

/-- Lines that do not break are found again, with nothing behind the last end. -/
theorem lines_join {lines : List String} (h : ∀ line ∈ lines, '\n' ∉ line.toList) :
    Text.lines (String.join (lines.map (· ++ "\n"))) = lines ++ [""] := by
  induction lines with
  | nil => rfl
  | cons line lines ih =>
    obtain ⟨hline, hlines⟩ := List.forall_mem_cons.mp h
    rw [List.map_cons, String.join_cons, Text.lines_append_break, Text.lines_of_no_break hline, ih hlines]
    rfl

/-- There is one way at most to take a text for records. -/
theorem Decodes.unique (h : Decodes limit text records) (hothers : Decodes limit text others) :
    records = others := by
  obtain ⟨lines, rfl, hlines⟩ := h
  obtain ⟨more, hsame, hmore⟩ := hothers
  have hunbroken {ls : List String} {rs : List Fields} (hls : AreLinesOf limit ls rs) :
      ∀ line ∈ ls, '\n' ∉ line.toList := fun line hline hbreak =>
    (hls.unbroken line hline _ hbreak).1 rfl
  have hends : lines ++ [""] = more ++ [""] := by
    rw [← lines_join (hunbroken hlines), hsame, lines_join (hunbroken hmore)]
  obtain rfl := List.append_cancel_right hends
  have hparsed := hlines.parsed.symm.trans hmore.parsed
  exact List.map_injective_iff.mpr (fun f g hfg => by cases hfg; rfl) hparsed

theorem decodes_jsonLines_iff (h : ∀ fields ∈ records, Json.Plain limit (.record fields)) :
    Decodes limit (jsonLines records) others ↔ others = records := by
  constructor
  · exact fun hothers => hothers.unique (decodes_jsonLines h)
  · rintro rfl
    exact decodes_jsonLines h

end Record

namespace HistoryEntry

theorem record_ofValue (e : HistoryEntry) : Value.record (Record.ofValue e.toValue) = e.toValue := rfl

theorem plain_toValue (limit : Nat) (e : HistoryEntry) : Json.Plain limit e.toValue := by
  have hkeys : Fields.keys [("command", .text e.command), ("output", .text e.output), ("error", .bool e.isError),
      ("timestamp", .text e.timestamp.isoText)] =
        ["command", "output", "error", "timestamp"].map Scalar.text := rfl
  refine .record hkeys (by decide) ?_
  simp only [List.forall_mem_cons, List.not_mem_nil, false_implies, implies_true, and_true]
  exact ⟨.text _, .text _, .bool _, .text _⟩

end HistoryEntry

namespace Commands

open Work

variable {source : Source} {settings : Settings} {inv : Invocation} {a : Arguments} {names : PromptNames}

/-- A line that is played for its result alone shows nothing. -/
theorem yields_runLine (hnames : settings.promptNames = .ok names) (tm : Screen.Terminal) (t : Session)
    (line : String) (p : Progress) : Yields (runLine source tm settings true t line) p (t.run source line) := by
  have hprompt : settings.prompt t.snapshot = .ok (prompt t.snapshot names) := by
    rw [Settings.prompt, hnames]
    rfl
  rw [runLine, hprompt]
  exact yields_faultless.bind fun _ => (yields_trace _).bind fun _ => yields_pure _

/-- Which script is played behind the arguments. -/
inductive PlaysScript (inv : Invocation) (a : Arguments) : List String → Prop
  | none (hoption : a.value? "--file" = none) : PlaysScript inv a []
  | input (hoption : a.value? "--file" = some "-") (hend : inv.interrupted = false) :
      PlaysScript inv a (Script.lines inv.input)
  | file {name text : String} {content : Content} (hoption : a.value? "--file" = some name) (hdash : name ≠ "-")
      (hname : '\x00' ∉ name.toList) (hread : inv.home.disk.read name = .ok content)
      (htext : content.lines? = some text) : PlaysScript inv a (Script.lines text)

theorem yields_scriptOf {script : List String} (h : PlaysScript inv a script) {p : Progress}
    (hhome : p.home = inv.home) : Yields (scriptOf inv a) p script := by
  cases h with
  | none hoption =>
    rw [scriptOf, hoption]
    exact yields_pure []
  | input hoption hend =>
    rw [scriptOf, hoption]
    simp only [scriptLines, if_true, hend]
    exact yields_pure _
  | @file name text content hoption hdash hname hread htext =>
    rw [scriptOf, hoption]
    have hnul : name.toList.contains '\x00' = false := by
      simpa using hname
    simp only [scriptLines, hdash, hnul, Bool.false_eq_true, if_false]
    refine yields_get.bind fun _ => ?_
    rw [hhome, hread]
    dsimp only
    rw [htext]
    exact yields_pure _

/-- The options of `run` that ask for the log alone. -/
structure AsksForLog (a : Arguments) : Prop where
  json : a.hasOption "--json" = true
  noHelp : a.hasOption "--help" = false
  noSnapshot : a.hasOption "--snapshot" = false
  noGraph : a.hasOption "--graph" = false

/-- The arguments of `run` ask for the log of these lines, which need a prompt even so. -/
structure PlaysForLog (inv : Invocation) (settings : Settings) (arguments lines : List String) : Prop where
  read : ∃ a script, Arguments.parse runOptions true arguments = .ok a ∧ AsksForLog a ∧
    PlaysScript inv a script ∧ lines = a.others ++ script
  lines : lines ≠ []
  names : ∃ names, settings.promptNames = .ok names

/-- However the run ends, it prints the log of its session. -/
theorem prints_run {arguments lines : List String} {p : Progress} (h : PlaysForLog inv settings arguments lines)
    (hhome : p.home = inv.home) :
    Prints (run source inv settings arguments) p
      (Record.jsonLines ((Session.runAll source {} lines).snapshot.history.map fun e =>
        Record.ofValue e.toValue)) := by
  obtain ⟨a, script, hparse, hasks, hscript, rfl⟩ := h.read
  obtain ⟨names, hnames⟩ := h.names
  have hempty : (a.others ++ script).isEmpty = false := List.isEmpty_eq_false_iff.mpr h.lines
  have hunless (p : Progress) : Yields (unlessHelp a) p () := by
    rw [unlessHelp, hasks.noHelp]
    exact yields_pure ()
  -- up to the log there are only reports, and behind it the status at most
  rw [run, hparse]
  refine yields_usage.prints fun _ => (hunless _).prints fun _ => ?_
  refine (yields_scriptOf hscript (by exact hhome)).prints fun _ => ?_
  simp only [hempty, hasks.json, hasks.noSnapshot, hasks.noGraph, Bool.true_or, Bool.false_eq_true, if_true,
    if_false]
  refine (yields_foldlM (yields_runLine hnames inv.terminal) (a.others ++ script) {}).prints fun _ => prints_print ?_
  refine (yields_report ..).prints fun _ => ?_
  split
  · exact prints_failWith _
  · exact String.append_empty.symm

end Commands

namespace Program

open Work

variable {source : Source} {inv : Invocation} {settings : Settings} {arguments lines : List String}

theorem output_run (h : Reaches inv settings .run arguments)
    (hplays : Commands.PlaysForLog inv settings arguments lines) :
    (run source inv).output =
      Record.jsonLines ((Session.runAll source {} lines).snapshot.history.map fun e =>
        Record.ofValue e.toValue) := by
  obtain ⟨errors, form, hplan⟩ := run_plan source h
  have hprints : Prints (Commands.run source inv settings arguments) { errors, form, home := inv.home } _ :=
    Commands.prints_run hplays rfl
  show ((work source inv).run { home := inv.home }).2.output = _
  rw [work, run_bind, hplan]
  exact hprints.trans String.empty_append

/-- Records are what their lines decode to, and the output of a run that is asked for its log decodes to
the entries of that log, each with the line as it was typed, the answer, whether that was an error, and the
time. -/
theorem decodes_iff_of_emitted :
    (∀ (limit : Nat) (records : List Fields), (∀ fields ∈ records, Json.Plain limit (.record fields)) →
      ∀ decoded, Record.Decodes limit (Record.jsonLines records) decoded ↔ decoded = records) ∧
    ∀ (source : Source) (inv : Invocation) (settings : Settings) (arguments lines : List String),
      Reaches inv settings .run arguments → Commands.PlaysForLog inv settings arguments lines →
      ∀ limit decoded,
        (Record.Decodes limit (run source inv).output decoded ↔
          decoded.map Value.record =
            (Session.runAll source {} lines).snapshot.history.map HistoryEntry.toValue) ∧
        (Record.Decodes limit (run source inv).output decoded ↔
          decoded = (Session.runAll source {} lines).snapshot.history.map fun e =>
            ([("command", .text e.command), ("output", .text e.output), ("error", .bool e.isError),
              ("timestamp", .text e.timestamp.isoText)] : Fields)) := by
  refine ⟨fun limit records h decoded => Record.decodes_jsonLines_iff h, ?_⟩
  intro source inv settings arguments lines h hplays limit decoded
  have hentries : Record.Decodes limit (run source inv).output decoded ↔
      decoded = (Session.runAll source {} lines).snapshot.history.map fun e => Record.ofValue e.toValue := by
    rw [output_run h hplays]
    refine Record.decodes_jsonLines_iff fun fields hfields => ?_
    obtain ⟨e, -, rfl⟩ := List.mem_map.mp hfields
    rw [HistoryEntry.record_ofValue]
    exact e.plain_toValue limit
  refine ⟨hentries.trans ?_, hentries⟩
  constructor
  · rintro rfl
    rw [List.map_map]
    exact List.map_congr_left fun e _ => HistoryEntry.record_ofValue e
  · intro hdecoded
    refine List.map_injective_iff.mpr (fun f g hfg => Value.record.inj hfg) (hdecoded.trans ?_)
    rw [List.map_map]
    exact (List.map_congr_left fun e _ => HistoryEntry.record_ofValue e).symm

/-- A record of texts full of quotes, breaks and backslashes, with more inside. -/
def riddled : Fields :=
  [("a \"key\"\n", .list [.text "b\\\r\x01", .int (-120), .null, .bool true]), ("c", .record [("", .text "é")])]

theorem plain_riddled : Json.Plain 3 (.record riddled) := by
  have hinner : Json.Plain 3 (.record [("", .text "é")]) :=
    .record (show Fields.keys [("", .text "é")] = [""].map .text from rfl) (by decide) (by
      simp only [List.forall_mem_singleton]
      exact .text "é")
  refine .record (show riddled.keys = ["a \"key\"\n", "c"].map .text from rfl) (by decide) ?_
  simp only [riddled, List.forall_mem_cons, List.not_mem_nil, false_implies, implies_true, and_true]
  refine ⟨.list ?_, hinner⟩
  simp only [List.forall_mem_cons, List.not_mem_nil, false_implies, implies_true, and_true]
  exact ⟨.text _, .int (by decide), .null, .bool true⟩

/-- A call for the log of one line, in a home without settings. -/
def logCall : Invocation where
  arguments := ["run", "--json", "git init"]
  home := { disk := { files := [] }, environment := [("HOME", "/home/user")] }

theorem load_logCall : logCall.home.load.2 = .ok (Settings.defaults : Settings) := by
  have hpath : logCall.home.path = .ok ⟨"/", ["home", "user", ".gitsim", "config.json"]⟩ := by
    decide +kernel
  have hfound : logCall.home.isFound ⟨"/", ["home", "user", ".gitsim", "config.json"]⟩ = .ok false := by
    decide +kernel
  rw [Settings.Home.load, Settings.Home.loadFile, hpath]
  dsimp only
  rw [hfound]
  rfl

theorem reaches_logCall : Reaches logCall Settings.defaults .run ["--json", "git init"] where
  read := ⟨{ others := logCall.arguments }, "run", by decide +kernel, rfl, rfl, rfl, rfl⟩
  loaded := load_logCall
  reports := ⟨Settings.Level.warning.rank, rfl⟩

theorem playsForLog_logCall : Commands.PlaysForLog logCall Settings.defaults ["--json", "git init"] ["git init"] where
  read := ⟨{ options := [("--json", "")], others := ["git init"] }, [], by decide +kernel,
    ⟨by decide, by decide, by decide, by decide⟩, .none rfl, rfl⟩
  lines := by decide
  names := ⟨{}, rfl⟩

theorem decodes_of_riddled_and_logCall :
    (∀ decoded, Record.Decodes 3 (Record.jsonLines [riddled, riddled]) decoded ↔ decoded = [riddled, riddled]) ∧
    ∀ limit decoded,
      (Record.Decodes limit (run .sample logCall).output decoded ↔
        decoded.map Value.record =
          (Session.runAll .sample {} ["git init"]).snapshot.history.map HistoryEntry.toValue) ∧
      (Record.Decodes limit (run .sample logCall).output decoded ↔
        decoded = (Session.runAll .sample {} ["git init"]).snapshot.history.map fun e =>
          ([("command", .text e.command), ("output", .text e.output), ("error", .bool e.isError),
            ("timestamp", .text e.timestamp.isoText)] : Fields)) :=
  ⟨decodes_iff_of_emitted.1 3 [riddled, riddled] (by simpa using plain_riddled),
    decodes_iff_of_emitted.2 .sample logCall _ _ _ reaches_logCall playsForLog_logCall⟩

end Program

end GitPractice
