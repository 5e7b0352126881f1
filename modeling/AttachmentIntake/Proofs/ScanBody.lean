import AttachmentIntake.Proofs.JsonReader
import AttachmentIntake.Proofs.ScanService

/-! Which answers of a scan service clear a file. However its results are written down, they are
read back, and only a single result with the status `OK` lets the file through. -/

namespace AttachmentIntake.Scan

open Json (Reader Value Spells SpellsDocument)
open Json.Reader (Reads ReadsEntry Slots takes_of_perm)
open Json.Spelling (Blanks Items)

theorem Status.ofName_eq_ok_iff {name : String} : Status.ofName name = .ok ↔ name = "OK" := by
  unfold Status.ofName
  by_cases hok : name = "OK"
  · simp [hok, Status.name]
  · by_cases hfound : name = "FOUND"
    · simp [hfound, Status.name]
    · by_cases herror : name = "ERROR"
      · simp [herror, Status.name]
      · simp [Status.name, Ne.symm hok, Ne.symm hfound, Ne.symm herror, hok]

namespace Result

/-! ### Results as JSON values -/

/-- A result by the name that its status goes by. -/
structure Named where
  filename : Option String
  status : String

def Named.result (r : Named) : Result := { filename := r.filename, status := .ofName r.status }

inductive OfStatus (name : String) : Value → Prop where
  | text : OfStatus name (.text name)
  | mapped : OfStatus name (.object [(name, .null)])

/-- The name of the file may be `null` or left out if there is none. -/
inductive FilenameField : Option String → List (String × Value) → Prop where
  | given {filename : Option String} :
      FilenameField filename [("Filename", Json.ofOption .text filename)]
  | leftOut : FilenameField none []

/-- A result is an object with its entries in any order, or a list of two. -/
inductive OfResult (r : Named) : Value → Prop where
  | object {status : Value} {filename entries : List (String × Value)} :
      OfStatus r.status status → FilenameField r.filename filename →
      entries.Perm (("Result", status) :: filename) → OfResult r (.object entries)
  | list {status : Value} : OfStatus r.status status →
      OfResult r (.array [Json.ofOption .text r.filename, status])

/-! ### Reading results -/

theorem reads_status {name : String} {v : Value} (h : OfStatus name v) :
    Reads readStatus (.ofName name) v := by
  cases h with
  | text => exact Reader.reads_variantWith rfl
  | mapped => exact Reader.reads_variantWith_null rfl

inductive Entry where
  | filename (o : Option String)
  | status (name : String)

inductive Entry.WrittenAs : Entry → String × Value → Prop where
  | filename {o : Option String} : Entry.WrittenAs (.filename o) ("Filename", Json.ofOption .text o)
  | status {name : String} {v : Value} : OfStatus name v →
      Entry.WrittenAs (.status name) ("Result", v)

def slots : Slots Fields Entry where
  put fields
    | .filename o => { fields with filename := some o }
    | .status name => { fields with status := some (.ofName name) }
  slot
    | .filename _ => "Filename"
    | .status _ => "Result"
  Free fields
    | .filename _ => fields.filename = none
    | .status _ => fields.status = none
  free_put := by
    rintro fields (_ | _) (_ | _) h hfree
    all_goals first | exact hfree | exact absurd rfl h
  put_comm := by
    rintro fields (_ | _) (_ | _) h
    all_goals first | rfl | exact absurd rfl h

theorem readsEntry_field {fields : Fields} {e : Entry} {kv : String × Value}
    (hwritten : e.WrittenAs kv) (hfree : slots.Free fields e) :
    ReadsEntry (readField fields kv.1) (slots.put fields e) kv.2 := by
  cases hwritten with
  | @filename o =>
    have hread := (Reader.reads_ofOption Reader.reads_text o).field "Filename" hfree
    simp only [readField, if_true]
    exact hread.bind fun _ => rfl
  | status hstatus =>
    have hread := (reads_status hstatus).field "Result" hfree
    simp only [readField, String.reduceEq, if_true, if_false]
    exact hread.bind fun _ => rfl

theorem reads_object {r : Named} {status : Value} {filename entries : List (String × Value)}
    (hstatus : OfStatus r.status status) (hfilename : FilenameField r.filename filename)
    (hperm : entries.Perm (("Result", status) :: filename)) :
    Reads read r.result (.object entries) := by
  obtain ⟨name, statusName⟩ := r
  cases hfilename with
  | given =>
    refine Reader.reads_record (t := { filename := some name, status := some (.ofName statusName) })
      ?_ fun _ => rfl
    exact takes_of_perm slots [.status _, .filename _] (fun _ _ _ => readsEntry_field) hperm
      (.cons (.status hstatus) (.cons .filename .nil)) (by simp [slots]) (by simp [slots])
  | leftOut =>
    refine Reader.reads_record (t := { filename := none, status := some (.ofName statusName) })
      ?_ fun _ => rfl
    exact takes_of_perm slots [.status _] (fun _ _ _ => readsEntry_field) hperm
      (.cons (.status hstatus) .nil) (by simp [slots]) (by simp [slots])

theorem fromList_of_items {r : Named} {status : Value} (hstatus : OfStatus r.status status)
    {w : List UInt8} (rest : List UInt8)
    (hw : Items Spells [Json.ofOption .text r.filename, status] w) : ∃ after, Blanks after ∧
      fromList (w ++ 0x5D :: rest) = .ok (r.result, after ++ 0x5D :: rest) := by
  obtain ⟨lead, v, between, ws, rfl, hlead, hv, hbetween, hws⟩ := hw.separated.pair
  obtain ⟨blanks, u, after, rfl, hblanks, hu, hafter⟩ := hws.singleton
  have hfilename := Reader.nextItem_more (between ++ 0x2C :: (blanks ++ u ++ after) ++ 0x5D :: rest)
    (Reader.reads_ofOption Reader.reads_text r.filename) Reader.lead_nil hlead hv
  have hread := Reader.nextItem_more (after ++ 0x5D :: rest) (reads_status hstatus)
    (Reader.lead_comma hbetween) hblanks hu
  simp only [List.nil_append, List.append_assoc, List.cons_append] at hfilename hread ⊢
  refine ⟨after, hafter, ?_⟩
  rw [fromList, Reader.bind_of_ok hfilename]
  exact Reader.bind_of_ok hread

theorem reads_result {r : Named} {v : Value} (h : OfResult r v) : Reads read r.result v := by
  cases h with
  | object hstatus hfilename hperm => exact reads_object hstatus hfilename hperm
  | list hstatus =>
    exact Reader.reads_record_list fun _ rest hw => fromList_of_items hstatus rest hw

/-- Whatever results are written down in a body, it is read as these. -/
theorem parse_of_spells {rs : List Named} {items : List Value} {body : List UInt8}
    (hitems : List.Forall₂ OfResult rs items) (hbody : SpellsDocument (.array items) body) :
    parse body = .ok (rs.map Named.result) := by
  refine Json.document_of_spells (Reader.reads_list ?_) hbody
  exact List.forall₂_map_left_iff.mpr (hitems.imp fun _ _ => reads_result)

end Result

open Result in
/-- An answer clears a file only as a success with one result, whose status is called `OK`. -/
theorem Reply.clears_iff_of_spells {status : Nat} {rs : List Named} {items : List Value}
    {body : List UInt8} (hitems : List.Forall₂ OfResult rs items)
    (hbody : SpellsDocument (.array items) body) :
    (Reply.answered status body).Clears ↔
      (200 ≤ status ∧ status ≤ 299) ∧ ∃ filename, rs = [⟨filename, "OK"⟩] := by
  have hparse := parse_of_spells hitems hbody
  constructor
  · rintro ⟨_, _, filename, hreply, hsuccess, hone⟩
    cases hreply
    rw [hparse, Except.ok.injEq, List.map_eq_singleton_iff] at hone
    obtain ⟨r, rfl, hresult⟩ := hone
    obtain ⟨rfl, hok⟩ := Result.mk.inj hresult
    rw [Status.ofName_eq_ok_iff] at hok
    exact ⟨hsuccess, r.filename, by rw [← hok]⟩
  · rintro ⟨hsuccess, filename, rfl⟩
    refine ⟨status, body, filename, rfl, hsuccess, ?_⟩
    rw [hparse, List.map_singleton, Named.result, Status.ofName_eq_ok_iff.mpr rfl]

end AttachmentIntake.Scan
