import AttachmentIntake.CommandLine.Run
import AttachmentIntake.Proofs.Interleaving
import AttachmentIntake.Proofs.Report
import AttachmentIntake.Proofs.ReportText

/-! What callers of the command may rely on, whatever the scan service remembers and answers and in
whatever order it is reached. The exit status tells acceptance, refusal of the arguments and any
other failure apart; what is printed shows what came of the batch, and the summary of a prepared
batch is printed for accepted batches alone. -/

namespace AttachmentIntake

open Json.Value (isExact)

/-- No batch is refused by a report without a rejected file. -/
theorem rejectedFiles_of_processBy {config : Config} {parts : List Part} {report : Report}
    {validate : BoundBatch → Option (Except BatchError ValidatedBatch)}
    (hvalid : ∀ batch validated, validate batch = some (.ok validated) →
      validated = BatchValidation.validatedOf config batch)
    (h : Pipeline.processBy config validate parts = some (.error (.invalid report))) :
    report.rejectedFiles ≠ [] := by
  cases hbind : Pipeline.bindParts config parts with
  | error e =>
    rw [processBy_of_unbound hbind] at h
    cases h
  | ok batch =>
    rw [processBy_of_bound hbind] at h
    obtain ⟨result, hresult, hsettled⟩ := Option.map_eq_some_iff.mp h
    cases result with
    | error e => cases hsettled
    | ok validated =>
      rw [hvalid _ _ hresult, Pipeline.settle] at hsettled
      obtain ⟨hrejected, rfl⟩ := finish_eq_invalid_iff.mp hsettled
      rw [← (ValidatedBatch.agrees (validatedOf_complete config batch)).rejected,
        List.isEmpty_eq_false_iff] at hrejected
      exact hrejected

namespace CommandLine

/-! ### What is printed -/

@[simp] theorem lines_cons (text : String) (texts : List String) :
    lines (text :: texts) = text ++ "\n" ++ lines texts := by
  rw [lines, List.map_cons, String.join_cons, ← lines]

theorem json_inj {v v' : Json.Value} (h : isExact v = true) (h' : isExact v' = true)
    (heq : json v = json v') : v = v' := by
  have hprinted : v.pretty 0 = v'.pretty 0 := by
    rw [json, json, lines_cons, lines_cons] at heq
    have hchars := congrArg String.toList heq
    simp only [String.toList_append, List.append_assoc] at hchars
    exact String.toList_inj.mp (List.append_cancel_right hchars)
  exact Json.Value.pretty_inj h h' hprinted

theorem head?_json (entries : List (String × Json.Value)) :
    (json (.object entries)).toList.head? = some '\x7b' := by
  have hvalue : (Json.Value.block "\x7b" "\x7d" 0
      (Json.Value.prettyEntries 0 entries)).toList.head? = some '\x7b' :=
    Json.Value.head?_block (by decide) _
  rw [json, lines_cons, Json.Value.pretty]
  simp only [String.toList_append, List.append_assoc]
  rw [List.head?_append, hvalue]
  rfl

theorem head?_usage (program : String) : (usage program).toList.head? = some '📎' := by
  rw [usage, lines_cons]
  simp only [String.toList_append, List.append_assoc]
  rfl

theorem ne_json_of_head? {text : String} {entries : List (String × Json.Value)}
    (h : text.toList.head? ≠ some '\x7b') : text ≠ json (.object entries) := by
  rintro rfl
  exact h (head?_json entries)

theorem spellsDocument_json {v : Json.Value} (h : Json.isTextual v = true) :
    Json.SpellsDocument v (Json.utf8 (json v)) := by
  have hjson : json v = v.pretty 0 ++ "\n" := by rw [json, lines_cons]; exact String.append_empty
  rw [hjson]
  exact Json.spellsDocument_pretty h

/-- What is printed for a result. Where there is something to process, it is the text of a value
that shows the result, and shows no other. -/
def Printed (text : String) : Result → Prop
  | .error _ => text = ""
  | .ok (.error (.fatal e)) =>
    text = json (.object [("error", .text e.message)]) ∧
      Json.SpellsDocument (.object [("error", .text e.message)]) (Json.utf8 text)
  | .ok (.error (.invalid report)) =>
    text = json report.toJson ∧ Json.SpellsDocument report.toJson (Json.utf8 text) ∧
      report.ShownBy report.toJson ∧ ∀ other : Report, text = json other.toJson → other = report
  | .ok (.ok prepared) =>
    text = json prepared.toJson ∧ prepared.ShownBy prepared.toJson ∧
      ∀ other : PreparedBatch, text = json other.toJson → other.bare = prepared.bare

theorem printed_ofResult (directory : String) (result : Result) :
    Printed (Output.ofResult directory result).stdout result := by
  match result with
  | .error (.unequipped failure) => rfl
  | .error (.unreadable reason) => rfl
  | .ok (.error (.fatal e)) => exact ⟨rfl, spellsDocument_json rfl⟩
  | .ok (.error (.invalid report)) =>
    refine ⟨rfl, spellsDocument_json report.isTextual_toJson, report.shownBy_toJson,
      fun other h => ?_⟩
    have hvalue := json_inj report.isExact_toJson other.isExact_toJson h
    exact (hvalue ▸ other.shownBy_toJson).unique report.shownBy_toJson
  | .ok (.ok prepared) =>
    refine ⟨rfl, prepared.shownBy_toJson, fun other h => ?_⟩
    have hvalue := json_inj prepared.isExact_toJson other.isExact_toJson h
    exact (hvalue ▸ other.shownBy_toJson).unique prepared.shownBy_toJson

theorem exit_ofResult (directory : String) (result : Result) :
    (Output.ofResult directory result).exit = 0 ∧ (∃ prepared, result = .ok (.ok prepared)) ∨
      (Output.ofResult directory result).exit = 1 ∧ ∀ prepared, result ≠ .ok (.ok prepared) := by
  match result with
  | .error (.unequipped failure) => exact .inr ⟨rfl, nofun⟩
  | .error (.unreadable reason) => exact .inr ⟨rfl, nofun⟩
  | .ok (.error (.fatal e)) => exact .inr ⟨rfl, nofun⟩
  | .ok (.error (.invalid report)) => exact .inr ⟨rfl, nofun⟩
  | .ok (.ok prepared) => exact .inl ⟨rfl, prepared, rfl⟩

/-! ### How a run starts -/

def IsHelp (word : String) : Prop := word = "-h" ∨ word = "--help"

def AsksForHelp (words : List String) : Prop := ∃ word ∈ words, IsHelp word

/-- The ways in which a run starts, by the words of its command line. -/
inductive Starts (program : String) (arguments : List String) : Except Output Options → Prop
  | idle (none : arguments = []) :
    Starts program arguments (.error { exit := 1, stdout := usage program, stderr := "" })
  | helped (some : arguments ≠ []) (asked : AsksForHelp (program :: arguments)) :
    Starts program arguments (.error { exit := 0, stdout := usage program, stderr := "" })
  | refused {fault : ArgumentFault} {stderr : String} (some : arguments ≠ [])
    (unasked : ¬ AsksForHelp (program :: arguments))
    (parsed : Options.parse arguments = .error fault) :
    Starts program arguments (.error { exit := 2, stdout := usage program, stderr })
  | taken {o : Options} (some : arguments ≠ []) (unasked : ¬ AsksForHelp (program :: arguments))
    (parsed : Options.parse arguments = .ok o) : Starts program arguments (.ok o)

@[simp]
theorem asksForHelp_iff {words : List String} : asksForHelp words = true ↔ AsksForHelp words := by
  simp only [asksForHelp, List.any_eq_true, Bool.or_eq_true, decide_eq_true_eq, AsksForHelp, IsHelp]

theorem starts (program : String) (arguments : List String) :
    Starts program arguments (start program arguments) := by
  unfold start
  split
  next hempty => exact .idle (List.isEmpty_iff.mp hempty)
  next hempty =>
    have hsome : arguments ≠ [] := mt List.isEmpty_iff.mpr hempty
    split
    next hasked => exact .helped hsome (asksForHelp_iff.mp hasked)
    next hasked =>
      have hunasked := mt asksForHelp_iff.mpr hasked
      split
      next fault hparsed => exact .refused hsome hunasked hparsed
      next o hparsed => exact .taken hsome hunasked hparsed

theorem asksForHelp_cons_iff {program : String} {arguments : List String}
    (h : ¬ IsHelp program) : AsksForHelp (program :: arguments) ↔ AsksForHelp arguments := by
  rw [AsksForHelp, List.exists_mem_cons_iff, or_iff_right h, AsksForHelp]

/-! ### Runs in which requests are made in any order -/

section Runs

variable {σ : Type}

/-- The tasks of the batch go by the options, and reach the service by this transport. -/
def Options.setting (o : Options) (transport : Scan.Transport (StateM σ)) :
    Interleaving.Setting σ :=
  { config := o.config, scan := o.scanner .suspended, transport }

@[simp] theorem Options.unstopped_setting (o : Options) (transport : Scan.Transport (StateM σ)) :
    (o.setting transport).unstopped = o.scanner transport := by
  funext request
  unfold setting Interleaving.Setting.unstopped scanner
  cases o.scannerUrl with
  | none => rfl
  | some url => exact Scan.Settings.eval_scanner _ transport request

theorem Options.within_validateOne (o : Options) (transport : Scan.Transport (StateM σ))
    (file : BoundFile) :
    (BatchValidation.validateOne (o.setting transport).config (o.setting transport).scan
      file).Within 7 := by
  have hscan (request : Scan.Request) : ((o.setting transport).scan request).Within 7 := by
    unfold setting scanner
    cases o.scannerUrl with
    | none => exact Exchange.within_done 7 _
    | some url => exact (Scan.Settings.forUrl url).within_scanner request
  unfold BatchValidation.validateOne
  split
  · exact Exchange.within_done 7 _
  · exact (hscan _).map _

variable (outside : Surroundings (StateM σ)) (s : σ) (program : String)
  (arguments : List String) (actions : List Interleaving.Action)

/-- What comes of the batch if the tasks take these actions, which must bring it to a result. -/
def result? (o : Options) : Option Result :=
  match (o.input outside).run s with
  | (.error obstacle, _) => some (.error obstacle)
  | (.ok (transport, parts), s') =>
    .ok <$> Pipeline.processBy o.config ((o.setting transport).validate? s' actions) parts

/-- What a run leaves behind if the tasks take these actions. -/
def output? : Option Output :=
  match start program arguments with
  | .error output => some output
  | .ok o => Output.ofResult o.directory <$> result? outside s actions o

/-- The batch is being validated, and its tasks have taken these actions. -/
def Underway (batch : BoundBatch) : Prop :=
  ∃ o transport parts s' state, start program arguments = .ok o ∧
    (o.input outside).run s = (.ok (transport, parts), s') ∧
    Pipeline.bindParts o.config parts = .ok batch ∧
    (o.setting transport).run (.initial batch s') actions = some state

/-- The arguments are taken, and this comes of the batch in the directory that they name. -/
def Reached (result : Result) : Prop :=
  arguments ≠ [] ∧ ¬ AsksForHelp arguments ∧
    ∃ o, Options.parse arguments = .ok o ∧ result? outside s actions o = some result

/-- The arguments name a batch that is accepted. -/
def Accepts : Prop :=
  ∃ o prepared, Options.parse arguments = .ok o ∧
    result? outside s actions o = some (.ok (.ok prepared))

/-- What holds of an output. -/
structure Contract (output : Output) : Prop where
  accepted : output.exit = 0 ↔
    arguments ≠ [] ∧ (AsksForHelp arguments ∨ Accepts outside s arguments actions)
  refused : output.exit = 2 ↔ arguments ≠ [] ∧ ¬ AsksForHelp arguments ∧
    ∃ fault, Options.parse arguments = .error fault
  exits : output.exit ∈ [0, 1, 2]
  summary : (∃ prepared : PreparedBatch, output.stdout = json prepared.toJson) ↔
    ∃ prepared, Reached outside s arguments actions (.ok (.ok prepared))
  printed : ∀ result, Reached outside s arguments actions result → Printed output.stdout result
  usage : (∀ result, ¬ Reached outside s arguments actions result) →
    output.stdout = usage program

variable {outside s program arguments actions} {output : Output}

theorem process_of_input {o : Options} {transport : Scan.Transport (StateM σ)} {parts : List Part}
    {s' : σ} (h : (o.input outside).run s = (.ok (transport, parts), s')) :
    ((o.process outside).run s).1 = .ok ((Pipeline.processBy o.config
      (validateBatch o.config (o.scanner transport)) parts).run s').1 := by
  rw [Options.process, StateT.run_bind, h]
  rfl

theorem exists_result? (outside : Surroundings (StateM σ)) (s : σ) (o : Options) :
    ∃ actions, result? outside s actions o = some ((o.process outside).run s).1 := by
  unfold result?
  cases hinput : (o.input outside).run s with
  | mk input s' =>
  cases input with
  | error obstacle =>
    refine ⟨[], ?_⟩
    rw [Options.process, StateT.run_bind, hinput]
    rfl
  | ok given =>
    obtain ⟨transport, parts⟩ := given
    rw [process_of_input hinput]
    cases hbind : Pipeline.bindParts o.config parts with
    | error e =>
      refine ⟨[], ?_⟩
      simp only [processBy_of_unbound hbind]
      rfl
    | ok batch =>
      obtain ⟨actions, hactions⟩ :=
        Interleaving.exists_validate? (o.setting transport) s' batch
      rw [Options.unstopped_setting] at hactions
      refine ⟨actions, ?_⟩
      simp only [processBy_of_bound hbind, hactions]
      rfl

theorem exists_output? (outside : Surroundings (StateM σ)) (s : σ) (program : String)
    (arguments : List String) : ∃ actions, output? outside s program arguments actions =
      some ((run outside program arguments).run s).1 := by
  unfold output? run
  cases start program arguments with
  | error output => exact ⟨[], rfl⟩
  | ok o =>
    obtain ⟨actions, hactions⟩ := exists_result? outside s o
    refine ⟨actions, ?_⟩
    simp only [hactions]
    rfl

theorem Underway.ends {batch : BoundBatch}
    (h : Underway outside s program arguments actions batch) :
    actions.length ≤ 10 * batch.fileCount ∧
      ∃ later output, output? outside s program arguments (actions ++ later) = some output := by
  obtain ⟨o, transport, parts, s', state, hstart, hinput, hbind, hrun⟩ := h
  obtain ⟨hlength, later, result, hresult⟩ :=
    Interleaving.validate?_ends (o.within_validateOne transport) hrun
  refine ⟨hlength, later, Output.ofResult o.directory (.ok (Pipeline.settle o.config result)), ?_⟩
  unfold output? result?
  simp only [hstart, hinput, processBy_of_bound hbind, hresult]
  rfl

theorem rejectedFiles_of_result? {o : Options} {report : Report}
    (h : result? outside s actions o = some (.ok (.error (.invalid report)))) :
    report.rejectedFiles ≠ [] := by
  unfold result? at h
  split at h
  next => cases h
  next transport parts s' _ =>
    obtain ⟨result, hresult, hsame⟩ := Option.map_eq_some_iff.mp h
    rw [Except.ok.inj hsame] at hresult
    refine rejectedFiles_of_processBy (fun _ _ hvalidated => ?_) hresult
    exact Interleaving.validatedOf_of_validate? hvalidated

/-- Nothing that is printed for a result looks like a summary, but that of an accepted batch. -/
theorem prepared_of_printed {o : Options} {result : Result} {prepared : PreparedBatch}
    (h : result? outside s actions o = some result)
    (hprinted : (Output.ofResult o.directory result).stdout = json prepared.toJson) :
    ∃ prepared, result = .ok (.ok prepared) := by
  match result with
  | .ok (.ok prepared) => exact ⟨prepared, rfl⟩
  | .error (.unequipped failure) => exact absurd hprinted (ne_json_of_head? nofun)
  | .error (.unreadable reason) => exact absurd hprinted (ne_json_of_head? nofun)
  | .ok (.error (.fatal e)) =>
    have hvalue := json_inj rfl prepared.isExact_toJson hprinted
    simp [PreparedBatch.toJson] at hvalue
  | .ok (.error (.invalid report)) =>
    have hvalue := json_inj report.isExact_toJson prepared.isExact_toJson hprinted
    exact absurd hvalue (Report.toJson_ne (rejectedFiles_of_result? h) prepared)

theorem usage_ne_json (program : String) (prepared : PreparedBatch) :
    usage program ≠ json prepared.toJson := by
  apply ne_json_of_head?
  rw [head?_usage]
  decide

/-- Where the arguments are not taken, the usage is printed and nothing comes of a batch. -/
theorem contract_of_unparsed {exit : Nat} {stderr : String}
    (hexit : exit = 0 ↔ arguments ≠ [] ∧ AsksForHelp arguments)
    (hrefused : exit = 2 ↔ arguments ≠ [] ∧ ¬ AsksForHelp arguments ∧
      ∃ fault, Options.parse arguments = .error fault)
    (hexits : exit ∈ [0, 1, 2])
    (hnot : arguments ≠ [] → ¬ AsksForHelp arguments → ∀ o, Options.parse arguments ≠ .ok o) :
    Contract outside s program arguments actions { exit, stdout := usage program, stderr } := by
  have hunreached : ∀ result, ¬ Reached outside s arguments actions result :=
    fun _ ⟨hsome, hunasked, o, hparsed, _⟩ => hnot hsome hunasked o hparsed
  exact
    { accepted := by
        rw [hexit]
        refine and_congr_right fun hsome => ⟨.inl, fun h => h.elim id ?_⟩
        rintro ⟨o, -, hparsed, -⟩
        by_contra hunasked
        exact hnot hsome hunasked o hparsed
      refused := hrefused
      exits := hexits
      summary := iff_of_false (fun ⟨prepared, h⟩ => usage_ne_json program prepared h)
        fun ⟨_, h⟩ => hunreached _ h
      printed := fun result h => absurd h (hunreached result)
      usage := fun _ => rfl }

theorem contract_of_parsed {o : Options} {result : Result} (hsome : arguments ≠ [])
    (hunasked : ¬ AsksForHelp arguments) (hparsed : Options.parse arguments = .ok o)
    (hresult : result? outside s actions o = some result) :
    Contract outside s program arguments actions (Output.ofResult o.directory result) := by
  have hreached : Reached outside s arguments actions result :=
    ⟨hsome, hunasked, o, hparsed, hresult⟩
  have honly : ∀ result', Reached outside s arguments actions result' → result' = result := by
    rintro result' ⟨-, -, o', hparsed', hresult'⟩
    rw [hparsed] at hparsed'
    cases hparsed'
    rw [hresult] at hresult'
    exact (Option.some.inj hresult').symm
  have haccepts : Accepts outside s arguments actions ↔
      ∃ prepared, result = .ok (.ok prepared) := by
    constructor
    · rintro ⟨o', prepared, hparsed', hresult'⟩
      exact ⟨prepared, (honly _ ⟨hsome, hunasked, o', hparsed', hresult'⟩).symm⟩
    · rintro ⟨prepared, rfl⟩
      exact ⟨o, prepared, hparsed, hresult⟩
  have hexit := exit_ofResult o.directory result
  exact
    { accepted := by
        rw [and_iff_right hsome, or_iff_right hunasked, haccepts]
        rcases hexit with ⟨hzero, hprepared⟩ | ⟨hone, hnone⟩
        · exact iff_of_true hzero hprepared
        · exact iff_of_false (by omega) fun ⟨prepared, h⟩ => hnone prepared h
      refused := by
        refine iff_of_false ?_ fun ⟨_, _, fault, hfault⟩ => ?_
        · rcases hexit with ⟨hzero, -⟩ | ⟨hone, -⟩ <;> omega
        · rw [hparsed] at hfault
          cases hfault
      exits := by rcases hexit with ⟨hzero, -⟩ | ⟨hone, -⟩ <;> simp [*]
      summary := by
        constructor
        · rintro ⟨prepared, hprinted⟩
          obtain ⟨prepared, rfl⟩ := prepared_of_printed hresult hprinted
          exact ⟨prepared, hreached⟩
        · rintro ⟨prepared, h⟩
          obtain rfl := honly _ h
          exact ⟨prepared, rfl⟩
      printed := by
        intro result' h
        obtain rfl := honly _ h
        exact printed_ofResult o.directory _
      usage := fun hnone => absurd hreached (hnone result) }

theorem contract_of_output? (hprogram : ¬ IsHelp program)
    (h : output? outside s program arguments actions = some output) :
    Contract outside s program arguments actions output := by
  have hwords : AsksForHelp (program :: arguments) ↔ AsksForHelp arguments :=
    asksForHelp_cons_iff hprogram
  have hstarts := starts program arguments
  unfold output? at h
  generalize start program arguments = started at h hstarts
  cases hstarts with
  | idle hnone =>
    cases h
    exact contract_of_unparsed (by simp [hnone]) (by simp [hnone]) (by simp)
      fun hsome => absurd hnone hsome
  | helped hsome hasked =>
    rw [hwords] at hasked
    cases h
    exact contract_of_unparsed (by simp [hsome, hasked]) (by simp [hasked]) (by simp)
      fun _ hunasked => absurd hasked hunasked
  | refused hsome hunasked hparsed =>
    rw [hwords] at hunasked
    cases h
    exact contract_of_unparsed (by simp [hunasked]) (by simp [hsome, hunasked, hparsed]) (by simp)
      fun _ _ o hok => by rw [hparsed] at hok; cases hok
  | @taken o hsome hunasked hparsed =>
    rw [hwords] at hunasked
    obtain ⟨result, hresult, rfl⟩ := Option.map_eq_some_iff.mp h
    exact contract_of_parsed hsome hunasked hparsed hresult

theorem output?_of_isHelp (hprogram : IsHelp program)
    (h : output? outside s program arguments actions = some output) :
    output.exit = (if arguments = [] then 1 else 0) ∧ output.stdout = usage program := by
  have hasks : AsksForHelp (program :: arguments) := ⟨program, List.mem_cons_self, hprogram⟩
  have hstarts := starts program arguments
  unfold output? at h
  generalize start program arguments = started at h hstarts
  cases hstarts with
  | idle hnone =>
    cases h
    exact ⟨(if_pos hnone).symm, rfl⟩
  | helped hsome hasked =>
    cases h
    exact ⟨(if_neg hsome).symm, rfl⟩
  | refused hsome hunasked hparsed => exact absurd hasks hunasked
  | taken hsome hunasked hparsed => exact absurd hasks hunasked

end Runs

namespace Sample

/-- The small batch, sorted by name. -/
def parts : List Part :=
  [{ filename := "ab-1.jpg", data := AttachmentIntake.Sample.jpeg },
    { filename := "cd-1.exe", data := AttachmentIntake.Sample.jpeg },
    { filename := "ef.png", data := AttachmentIntake.Sample.png }, AttachmentIntake.Sample.manifest]

/-- The batch in a directory, with another directory beside it. -/
def entries : List Directory.Entry :=
  ⟨Json.utf8 "backup", .directory⟩ ::
    parts.map fun part => ⟨Json.utf8 part.filename, .file part.data⟩

theorem part?_file (name : String) (data : ByteArray) :
    Directory.part? ⟨Json.utf8 name, .file data⟩ = some { filename := name, data } := by
  rw [Directory.part?, Json.utf8, Text.Utf8.decodeLossy_encode, String.ofList_toList]

theorem parts_entries : Directory.parts entries = parts := by
  have hfiles : entries.filterMap Directory.part? = parts := by
    simp only [entries, parts, List.map_cons, List.map_nil, List.filterMap_cons, part?_file]
    rfl
  rw [Directory.parts, hfiles]
  apply List.mergeSort_of_pairwise
  decide

/-- One directory can be read, and no scan service answers. -/
def outside : Surroundings (StateM Unit) where
  directory path := pure (if path = "batch" then .ok entries else .error "no such directory")
  transport _ := pure (.ok .closed)

/-- What the command uses when no option is given. -/
def pipeline : Pipeline (StateM Unit) := .production Scanner.disabled

end Sample

theorem Sample.exists_processed : ∃ prepared,
    ((Options.process ⟨"batch", none, none⟩ Sample.outside).run ()).1 = .ok (.ok prepared) := by
  have hread : ((Options.process ⟨"batch", none, none⟩ Sample.outside).run ()).1 =
      .ok ((Sample.pipeline.process (Directory.parts Sample.entries)).run ()).1 := rfl
  have hok : ((Sample.pipeline.process Sample.parts).run ()).1.isOk = true := by decide +kernel
  obtain ⟨prepared, hprepared⟩ := exists_ok_of_isOk hok
  exact ⟨prepared, by rw [hread, Sample.parts_entries, hprepared]⟩

end CommandLine

end AttachmentIntake
