import AttachmentIntake.Proofs.Calendar
import AttachmentIntake.Proofs.JsonReader
import AttachmentIntake.Proofs.Manifest
import AttachmentIntake.Proofs.Pipeline
import Mathlib.Data.List.Pairwise

/-!
Manifests are read back as they were written: with any spelling of the texts and any blanks, under
either name of each field, with the fields of an object in any order, and with groups without files
added anywhere.
-/

namespace AttachmentIntake

namespace Manifest

open Json (Reader Value Spells SpellsDocument)
open Json.Reader (Reads ReadsEntry Slots Takes takes_of_perm)

/-! ### Manifests as JSON values -/

namespace Written

/-- A field that may have no value: it is then `null` or left out. -/
inductive OptionalField {α : Type} (names : List String) (value : α → Value) :
    Option α → List (String × Value) → Prop where
  | given {o : Option α} {name : String} : name ∈ names →
      OptionalField names value o [(name, Json.ofOption value o)]
  | leftOut : OptionalField names value none []

inductive OfFile (file : ExpectedFile) : Value → Prop where
  | mk {name identifier : String} {entries : List (String × Value)} :
      name ∈ ["original_filename", "filnavn"] → identifier ∈ ["identifier", "uuid"] →
      entries.Perm
        [(name, .text file.originalFilename), (identifier, .text file.identifier.text)] →
      OfFile file (.object entries)

/-- The files of a group; without any, the field may be left out. -/
inductive FilesField : List ExpectedFile → List (String × Value) → Prop where
  | given {files : List ExpectedFile} {name : String} {items : List Value} :
      name ∈ ["files", "filer"] → List.Forall₂ OfFile files items →
      FilesField files [(name, .array items)]
  | leftOut : FilesField [] []

inductive OfGroup (group : UploadGroup) : Value → Prop where
  | mk {extraInfo deadline originEvent originReference files entries : List (String × Value)} :
      OptionalField ["extra_info", "tilleggsinfo"] .text group.info.extraInfo extraInfo →
      OptionalField ["submission_deadline", "innsendelsesfrist"] (fun d => .text d.text)
        group.info.deadline deadline →
      OptionalField ["origin_event_type", "hendelsetype"] (fun e => .text e.name)
        group.info.originEvent originEvent →
      OptionalField ["origin_event_reference", "hendelsereferanse"] .text
        group.info.originReference originReference →
      FilesField group.files files →
      entries.Perm (("type", .text group.info.kind) ::
        (extraInfo ++ deadline ++ originEvent ++ originReference ++ files)) →
      OfGroup group (.object entries)

/-- The groups with others among them that have no files. -/
inductive Extended : List UploadGroup → List UploadGroup → Prop where
  | nil : Extended [] []
  | kept {group : UploadGroup} {groups written : List UploadGroup} : Extended groups written →
      Extended (group :: groups) (group :: written)
  | added {group : UploadGroup} {groups written : List UploadGroup} : group.files = [] →
      Extended groups written → Extended groups (group :: written)

end Written

open Written

/-! ### Single values -/

theorem reads_identifier (i : Identifier) : Reads readIdentifier i (.text i.text) := by
  refine Reader.Reads.bind (Reader.reads_textAs _) fun input => ?_
  rw [Identifier.ofText_text]
  rfl

theorem reads_date (d : Date) : Reads readDate d (.text d.text) := by
  refine Reader.Reads.placed (Reader.Reads.bind (Reader.reads_textAs _) fun input => ?_)
  rw [Date.parse_text]
  rfl

theorem reads_originEvent (e : OriginEvent) : Reads readOriginEvent e (.text e.name) := by
  refine Reader.reads_variantWith ?_
  cases e <;> rfl

/-! ### Files -/

inductive FileEntry where
  | originalFilename (name : String)
  | identifier (i : Identifier)

inductive FileEntry.WrittenAs : FileEntry → String × Value → Prop where
  | originalFilename {name s : String} : name ∈ ["original_filename", "filnavn"] →
      FileEntry.WrittenAs (.originalFilename s) (name, .text s)
  | identifier {name : String} {i : Identifier} : name ∈ ["identifier", "uuid"] →
      FileEntry.WrittenAs (.identifier i) (name, .text i.text)

def fileSlots : Slots FileFields FileEntry where
  put fields
    | .originalFilename s => { fields with originalFilename := some s }
    | .identifier i => { fields with identifier := some i }
  slot
    | .originalFilename _ => "original_filename"
    | .identifier _ => "identifier"
  Free fields
    | .originalFilename _ => fields.originalFilename = none
    | .identifier _ => fields.identifier = none
  free_put := by
    rintro s (_ | _) (_ | _) h hfree
    all_goals first | exact hfree | exact absurd rfl h
  put_comm := by
    rintro s (_ | _) (_ | _) h
    all_goals first | rfl | exact absurd rfl h

theorem readsEntry_fileField {fields : FileFields} {e : FileEntry} {kv : String × Value}
    (hwritten : e.WrittenAs kv) (hfree : fileSlots.Free fields e) :
    ReadsEntry (readFileField fields kv.1) (fileSlots.put fields e) kv.2 := by
  cases hwritten with
  | @originalFilename name s hname =>
    have hread := (Reader.reads_text s).field "original_filename" hfree
    rcases List.mem_pair.mp hname with rfl | rfl
    all_goals
      simp only [readFileField, String.reduceEq, or_true, or_false, if_true]
      exact hread.bind fun _ => rfl
  | @identifier name i hname =>
    have hread := (reads_identifier i).field "identifier" hfree
    rcases List.mem_pair.mp hname with rfl | rfl
    all_goals
      simp only [readFileField, String.reduceEq, or_self, or_true, or_false, if_true, if_false]
      exact hread.bind fun _ => rfl

theorem reads_file {file : ExpectedFile} {v : Value} (h : OfFile file v) :
    Reads readFile file v := by
  obtain ⟨hname, hidentifier, hperm⟩ := h
  refine Reader.reads_record (t := { originalFilename := some file.originalFilename
                                     identifier := some file.identifier }) ?_ fun _ => rfl
  exact takes_of_perm fileSlots [.originalFilename _, .identifier _]
    (fun _ _ _ => readsEntry_fileField) hperm
    (.cons (.originalFilename hname) (.cons (.identifier hidentifier) .nil))
    (by simp [fileSlots]) (by simp [fileSlots])

/-! ### Groups -/

inductive GroupEntry where
  | kind (s : String)
  | extraInfo (o : Option String)
  | deadline (o : Option Date)
  | originEvent (o : Option OriginEvent)
  | originReference (o : Option String)
  | files (files : List ExpectedFile)

inductive GroupEntry.WrittenAs : GroupEntry → String × Value → Prop where
  | kind {s : String} : GroupEntry.WrittenAs (.kind s) ("type", .text s)
  | extraInfo {name : String} {o : Option String} : name ∈ ["extra_info", "tilleggsinfo"] →
      GroupEntry.WrittenAs (.extraInfo o) (name, Json.ofOption .text o)
  | deadline {name : String} {o : Option Date} :
      name ∈ ["submission_deadline", "innsendelsesfrist"] →
      GroupEntry.WrittenAs (.deadline o) (name, Json.ofOption (fun d => .text d.text) o)
  | originEvent {name : String} {o : Option OriginEvent} :
      name ∈ ["origin_event_type", "hendelsetype"] →
      GroupEntry.WrittenAs (.originEvent o) (name, Json.ofOption (fun e => .text e.name) o)
  | originReference {name : String} {o : Option String} :
      name ∈ ["origin_event_reference", "hendelsereferanse"] →
      GroupEntry.WrittenAs (.originReference o) (name, Json.ofOption .text o)
  | files {name : String} {files : List ExpectedFile} {items : List Value} :
      name ∈ ["files", "filer"] → List.Forall₂ OfFile files items →
      GroupEntry.WrittenAs (.files files) (name, .array items)

def groupSlots : Slots GroupFields GroupEntry where
  put fields
    | .kind s => { fields with kind := some s }
    | .extraInfo o => { fields with extraInfo := some o }
    | .deadline o => { fields with deadline := some o }
    | .originEvent o => { fields with originEvent := some o }
    | .originReference o => { fields with originReference := some o }
    | .files files => { fields with files := some files }
  slot
    | .kind _ => "type"
    | .extraInfo _ => "extra_info"
    | .deadline _ => "submission_deadline"
    | .originEvent _ => "origin_event_type"
    | .originReference _ => "origin_event_reference"
    | .files _ => "files"
  Free fields
    | .kind _ => fields.kind = none
    | .extraInfo _ => fields.extraInfo = none
    | .deadline _ => fields.deadline = none
    | .originEvent _ => fields.originEvent = none
    | .originReference _ => fields.originReference = none
    | .files _ => fields.files = none
  free_put := by
    intro s e e' h hfree
    cases e <;> cases e' <;> first | exact hfree | exact absurd rfl h
  put_comm := by
    intro s e e' h
    cases e <;> cases e' <;> first | rfl | exact absurd rfl h

theorem readsEntry_groupField {fields : GroupFields} {e : GroupEntry} {kv : String × Value}
    (hwritten : e.WrittenAs kv) (hfree : groupSlots.Free fields e) :
    ReadsEntry (readGroupField fields kv.1) (groupSlots.put fields e) kv.2 := by
  cases hwritten with
  | @kind s =>
    have hread := (Reader.reads_text s).field "type" hfree
    simp only [readGroupField, if_true]
    exact hread.bind fun _ => rfl
  | @extraInfo name o hname =>
    have hread := (Reader.reads_ofOption Reader.reads_text o).field "extra_info" hfree
    rcases List.mem_pair.mp hname with rfl | rfl
    all_goals
      simp only [readGroupField, String.reduceEq, or_true, or_false, if_true, if_false]
      exact hread.bind fun _ => rfl
  | @deadline name o hname =>
    have hread :=
      (Reader.reads_ofOption reads_date o).field "submission_deadline" hfree
    rcases List.mem_pair.mp hname with rfl | rfl
    all_goals
      simp only [readGroupField, String.reduceEq, or_self, or_true, or_false, if_true, if_false]
      exact hread.bind fun _ => rfl
  | @originEvent name o hname =>
    have hread :=
      (Reader.reads_ofOption reads_originEvent o).field "origin_event_type" hfree
    rcases List.mem_pair.mp hname with rfl | rfl
    all_goals
      simp only [readGroupField, String.reduceEq, or_self, or_true, or_false, if_true, if_false]
      exact hread.bind fun _ => rfl
  | @originReference name o hname =>
    have hread := (Reader.reads_ofOption Reader.reads_text o).field
      "origin_event_reference" hfree
    rcases List.mem_pair.mp hname with rfl | rfl
    all_goals
      simp only [readGroupField, String.reduceEq, or_self, or_true, or_false, if_true, if_false]
      exact hread.bind fun _ => rfl
  | @files name files items hname hitems =>
    have hfiles : List.Forall₂ (Reads readFile) files items := hitems.imp fun _ _ => reads_file
    have hread := (Reader.reads_list hfiles).field "files" hfree
    rcases List.mem_pair.mp hname with rfl | rfl
    all_goals
      simp only [readGroupField, String.reduceEq, or_self, or_true, or_false, if_true, if_false]
      exact hread.bind fun _ => rfl

/-- A field with a value to give is an entry, and one without may be no entry at all. -/
theorem exists_entry {α : Type} {names : List String} {value : α → Value} {o : Option α}
    {entries : List (String × Value)} {entry : Option α → GroupEntry}
    (h : OptionalField names value o entries)
    (hwritten : ∀ name ∈ names, (entry o).WrittenAs (name, Json.ofOption value o)) :
    ∃ given : Option (Option α), given.join = o ∧
      List.Forall₂ GroupEntry.WrittenAs (given.toList.map entry) entries := by
  cases h with
  | given hname => exact ⟨some o, rfl, .cons (hwritten _ hname) .nil⟩
  | leftOut => exact ⟨none, rfl, .nil⟩

theorem exists_filesEntry {files : List ExpectedFile} {entries : List (String × Value)}
    (h : FilesField files entries) : ∃ given : Option (List ExpectedFile), given.getD [] = files ∧
      List.Forall₂ GroupEntry.WrittenAs (given.toList.map .files) entries := by
  cases h with
  | given hname hitems => exact ⟨some files, rfl, .cons (.files hname hitems) .nil⟩
  | leftOut => exact ⟨none, rfl, .nil⟩

/-- The entries of a group in the order of its fields. -/
def GroupFields.entries (kind : String) (fields : GroupFields) : List GroupEntry :=
  .kind kind :: (fields.extraInfo.toList.map .extraInfo ++ fields.deadline.toList.map .deadline ++
    fields.originEvent.toList.map .originEvent ++
    fields.originReference.toList.map .originReference ++ fields.files.toList.map .files)

theorem GroupFields.foldl_put_entries (kind : String) (fields : GroupFields) :
    (fields.entries kind).foldl groupSlots.put {} = { fields with kind := some kind } := by
  obtain ⟨_, _ | _, _ | _, _ | _, _ | _, _ | _⟩ := fields <;> rfl

theorem map_slot_sublist {α : Type} (slot : String) (entry : α → GroupEntry)
    (h : ∀ a, groupSlots.slot (entry a) = slot) (o : Option α) :
    ((o.toList.map entry).map groupSlots.slot).Sublist [slot] := by
  cases o with
  | none => exact List.nil_sublist _
  | some a => simp [h]

theorem GroupFields.slots_nodup (kind : String) (fields : GroupFields) :
    ((fields.entries kind).map groupSlots.slot).Nodup := by
  have hextra := map_slot_sublist "extra_info" GroupEntry.extraInfo (fun _ => rfl) fields.extraInfo
  have hdeadline :=
    map_slot_sublist "submission_deadline" GroupEntry.deadline (fun _ => rfl) fields.deadline
  have hevent :=
    map_slot_sublist "origin_event_type" GroupEntry.originEvent (fun _ => rfl) fields.originEvent
  have hreference := map_slot_sublist "origin_event_reference" GroupEntry.originReference
    (fun _ => rfl) fields.originReference
  have hfiles := map_slot_sublist "files" GroupEntry.files (fun _ => rfl) fields.files
  have hall := (((hextra.append hdeadline).append hevent).append hreference).append hfiles
  simp only [← List.map_append] at hall
  exact (hall.cons_cons "type").nodup (by decide)

theorem reads_group {group : UploadGroup} {v : Value} (h : OfGroup group v) :
    Reads readGroup group v := by
  obtain ⟨hextra, hdeadline, hevent, hreference, hfiles, hperm⟩ := h
  obtain ⟨extraInfo, hextra, hextraWritten⟩ := exists_entry hextra fun _ => .extraInfo
  obtain ⟨deadline, hdeadline, hdeadlineWritten⟩ := exists_entry hdeadline fun _ => .deadline
  obtain ⟨originEvent, hevent, heventWritten⟩ := exists_entry hevent fun _ => .originEvent
  obtain ⟨originReference, hreference, hreferenceWritten⟩ :=
    exists_entry hreference fun _ => .originReference
  obtain ⟨files, hfiles, hfilesWritten⟩ := exists_filesEntry hfiles
  have hwritten := List.rel_append (List.rel_append (List.rel_append (List.rel_append hextraWritten
    hdeadlineWritten) heventWritten) hreferenceWritten) hfilesWritten
  let fields : GroupFields :=
    { kind := group.info.kind, extraInfo, deadline, originEvent, originReference, files }
  have htakes : Takes readGroupField {} _ _ :=
    takes_of_perm groupSlots (fields.entries group.info.kind)
      (fun _ _ _ => readsEntry_groupField) hperm (.cons .kind hwritten) (fields.slots_nodup _)
      (fun e _ => by cases e <;> rfl)
  rw [fields.foldl_put_entries] at htakes
  have hgroup : fields.group group.info.kind = group := by
    simp only [GroupFields.group, fields, hextra, hdeadline, hevent, hreference, hfiles]
  refine Reader.reads_record htakes fun input => ?_
  change Except.ok (fields.group group.info.kind, input) = _
  rw [hgroup]

/-! ### Whole manifests -/

theorem filter_of_extended {groups written : List UploadGroup}
    (hfiles : ∀ g ∈ groups, g.files ≠ []) (h : Extended groups written) :
    written.filter (fun g => !g.files.isEmpty) = groups := by
  induction h with
  | nil => rfl
  | kept _ ih =>
    obtain ⟨hfirst, hmore⟩ := List.forall_mem_cons.mp hfiles
    rw [List.filter_cons_of_pos (by simpa using hfirst), ih hmore]
  | added hempty _ ih => rw [List.filter_cons_of_neg (by simp [hempty]), ih hfiles]

end Manifest

open Manifest Written

/-- A manifest is read back as the groups that it was written for. -/
theorem parseManifest_reads_back {groups written : List UploadGroup} {items : List Json.Value}
    {data : ByteArray} (hfiles : ∀ g ∈ groups, g.files ≠ [])
    (hshort : ((expectedFiles groups).map fun f => f.identifier.short).Nodup)
    (hextended : Extended groups written) (hitems : List.Forall₂ OfGroup written items)
    (hdata : Json.SpellsDocument (.array items) data.data.toList) :
    parseManifest data = .ok groups := by
  have hread : readGroups data.data.toList = .ok written :=
    Json.document_of_spells (Json.Reader.reads_list (hitems.imp fun _ _ => reads_group)) hdata
  have hkept := filter_of_extended hfiles hextended
  exact parseManifest_eq_ok_iff.mpr (parse_eq_ok_iff.mpr ⟨written, hread, hkept.symm, hshort⟩)

/-- A manifest that cannot be read is refused with what is wrong in it, and where. -/
theorem parseManifest_of_unreadable {data : ByteArray} {fault : Json.Fault}
    (h : readGroups data.data.toList = .error fault) :
    parseManifest data = .error (.malformedManifest fault.message) ∧
      ∃ left, fault.place = some (.before left data.data.toList) := by
  refine ⟨?_, Json.place_of_document h⟩
  rw [parseManifest, Manifest.parse, h]
  rfl

/-! ### A small manifest -/

namespace Sample

def onlyFile : ExpectedFile := { originalFilename := "x.pdf", identifier := ⟨"ab-1", by decide⟩ }

def deadline : Date := ⟨12345, 2, 28, by decide⟩

theorem deadline_text : deadline.text = "+12345-02-28" := by decide

def oneGroup : UploadGroup where
  info :=
    { kind := "a"
      extraInfo := some "\"\u00e6\""
      deadline := some deadline
      originEvent := none
      originReference := none }
  files := [onlyFile]

def otherGroup : UploadGroup where
  info :=
    { kind := "b", extraInfo := none, deadline := none, originEvent := none
      originReference := none }
  files := []

def oneGroupFields : List (String × Json.Value) :=
  [("type", .text "a"), ("tilleggsinfo", .text "\"\u00e6\""),
    ("innsendelsesfrist", .text "+12345-02-28"), ("hendelsetype", .null),
    ("filer", .array [.object [("uuid", .text "ab-1"), ("filnavn", .text "x.pdf")]])]

/-- Norwegian names, the fields from the last to the first. -/
def oneGroupItem : Json.Value := .object oneGroupFields.reverse

def otherGroupItem : Json.Value := .object [("type", .text "b")]

def items : List Json.Value := [otherGroupItem, oneGroupItem]

theorem ofGroup_oneGroupItem : OfGroup oneGroup oneGroupItem := by
  have hfile : OfFile onlyFile (.object [("uuid", .text "ab-1"), ("filnavn", .text "x.pdf")]) :=
    .mk (List.mem_cons_of_mem _ List.mem_cons_self) (List.mem_cons_of_mem _ List.mem_cons_self)
      (.swap _ _ [])
  have hextra : OptionalField ["extra_info", "tilleggsinfo"] .text oneGroup.info.extraInfo
      [("tilleggsinfo", .text "\"\u00e6\"")] :=
    .given (by decide)
  have hdeadline : OptionalField ["submission_deadline", "innsendelsesfrist"]
      (fun d => .text d.text) oneGroup.info.deadline
      [("innsendelsesfrist", .text "+12345-02-28")] :=
    deadline_text ▸ .given (by decide)
  have hevent : OptionalField ["origin_event_type", "hendelsetype"] (fun e => .text e.name)
      oneGroup.info.originEvent [("hendelsetype", .null)] :=
    .given (by decide)
  have hfiles : FilesField oneGroup.files
      [("filer", .array [.object [("uuid", .text "ab-1"), ("filnavn", .text "x.pdf")]])] :=
    .given (by decide) (.cons hfile .nil)
  exact .mk hextra hdeadline hevent .leftOut hfiles (List.reverse_perm oneGroupFields)

theorem ofGroup_otherGroupItem : OfGroup otherGroup otherGroupItem :=
  .mk .leftOut .leftOut .leftOut .leftOut .leftOut (.refl _)

end Sample

theorem parseManifest_reads_back_norwegian :
    parseManifest (Json.Value.compact (.array Sample.items)).toUTF8 = .ok [Sample.oneGroup] := by
  have hextended : Extended [Sample.oneGroup] [Sample.otherGroup, Sample.oneGroup] :=
    .added rfl (.kept .nil)
  have hitems : List.Forall₂ OfGroup [Sample.otherGroup, Sample.oneGroup] Sample.items :=
    .cons Sample.ofGroup_otherGroupItem (.cons Sample.ofGroup_oneGroupItem .nil)
  exact parseManifest_reads_back (by simp [Sample.oneGroup])
    (by simp [expectedFiles, Sample.oneGroup]) hextended hitems (Json.spellsDocument_compact rfl)

end AttachmentIntake
