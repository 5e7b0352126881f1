import AttachmentIntake.Proofs.Identifier
import AttachmentIntake.Proofs.Reconciliation
import AttachmentIntake.Proofs.Text

/-! The names under which files are uploaded. As an identifier holds neither a dot nor white space,
the token of a name is the one identifier that the file is named after, and a part is bound to the
file that is expected under it. -/

namespace AttachmentIntake

namespace Identifier

/-- A file is named after an identifier: but for white space around it, its name is the identifier,
or starts with it and a dot. -/
def Names (i : Identifier) (filename : String) : Prop :=
  Text.trim filename.toList = i.text.toList ∨
    i.text.toList ++ ['.'] <+: Text.trim filename.toList

/-- The names that are spelled with an identifier. -/
inductive Spelled (i : Identifier) : String → Prop
  | bare (before after : String) (hbefore : ∀ c ∈ before.toList, Text.isBlank c = true)
      (hafter : ∀ c ∈ after.toList, Text.isBlank c = true) : Spelled i (before ++ i.text ++ after)
  | dotted (before rest after : String) (hbefore : ∀ c ∈ before.toList, Text.isBlank c = true)
      (hafter : ∀ c ∈ after.toList, Text.isBlank c = true) :
      Spelled i (before ++ i.text ++ "." ++ rest ++ after)

variable {i j : Identifier} {filename : String}

@[simp] theorem dot_not_mem (i : Identifier) : '.' ∉ i.text.toList :=
  fun h => (i.wellFormed.unreserved '.' h).1 rfl

theorem not_isBlank_of_mem {c : Char} (h : c ∈ i.text.toList) : Text.isBlank c = false :=
  (i.wellFormed.unreserved c h).2.2.2

@[simp] theorem text_inj : i.text = j.text ↔ i = j := by
  refine ⟨fun h => ?_, congrArg text⟩
  obtain ⟨_, _⟩ := i
  obtain ⟨_, _⟩ := j
  cases h
  rfl

/-! ### Spellings -/

theorem trimStart_spelled {before : List Char} (h : ∀ c ∈ before, Text.isBlank c = true)
    (i : Identifier) (cs : List Char) :
    Text.trimStart (before ++ (i.text.toList ++ cs)) = i.text.toList ++ cs := by
  rw [Text.trimStart_blanks_append h]
  refine Text.trimStart_of_head? fun c hc => not_isBlank_of_mem (i := i) (List.mem_of_mem_head? ?_)
  rwa [List.head?_append_of_ne_nil _ i.wellFormed.nonempty] at hc

/-- A dot is no white space, so trimming at the end stops behind it. -/
theorem trimEnd_dotted (i : Identifier) (cs : List Char) :
    i.text.toList ++ ['.'] <+: Text.trimEnd (i.text.toList ++ '.' :: cs) := by
  have hkept : Text.trimEnd (i.text.toList ++ ['.']) = i.text.toList ++ ['.'] := by
    refine Text.trimEnd_of_getLast? fun c hc => ?_
    rw [List.getLast?_concat, Option.mem_some_iff] at hc
    subst hc
    decide
  rw [← hkept]
  refine Text.trimEnd_isPrefix_trimEnd ?_
  rw [List.prefix_append_right_inj]
  exact List.prefix_append ['.'] cs

theorem Spelled.names (h : i.Spelled filename) : i.Names filename := by
  cases h with
  | bare before after hbefore hafter =>
    left
    rw [String.toList_append, String.toList_append, List.append_assoc, Text.trim,
      trimStart_spelled hbefore, Text.trimEnd_append_blanks hafter]
    exact Text.trimEnd_of_getLast? fun c hc => not_isBlank_of_mem (List.mem_of_getLast? hc)
  | dotted before rest after hbefore hafter =>
    right
    have htext : (before ++ i.text ++ "." ++ rest ++ after).toList =
        before.toList ++ (i.text.toList ++ '.' :: (rest.toList ++ after.toList)) := by
      simp [String.toList_append]
    rw [htext, Text.trim, trimStart_spelled hbefore]
    exact trimEnd_dotted i _

theorem Names.spelled (h : i.Names filename) : i.Spelled filename := by
  obtain ⟨before, after, hname, hbefore, hafter⟩ := Text.exists_trim filename.toList
  have hblank {cs : List Char} (hcs : ∀ c ∈ cs, Text.isBlank c = true) :
      ∀ c ∈ (String.ofList cs).toList, Text.isBlank c = true := by
    rwa [String.toList_ofList]
  rcases h with hbare | ⟨rest, hdotted⟩
  · have hfile : filename = String.ofList before ++ i.text ++ String.ofList after := by
      rw [← String.toList_inj, ← hname, hbare]
      simp
    rw [hfile]
    exact .bare _ _ (hblank hbefore) (hblank hafter)
  · have hfile : filename =
        String.ofList before ++ i.text ++ "." ++ String.ofList rest ++ String.ofList after := by
      rw [← String.toList_inj, ← hname, ← hdotted]
      simp
    rw [hfile]
    exact .dotted _ _ _ (hblank hbefore) (hblank hafter)

theorem names_iff_spelled : i.Names filename ↔ i.Spelled filename :=
  ⟨Names.spelled, Spelled.names⟩

end Identifier

namespace Part

variable {part : Part} {i : Identifier}

/-- The token of a part is an identifier exactly if the part is named after it. -/
theorem token_eq_iff : part.token = i.text ↔ i.Names part.filename := by
  rw [← String.toList_inj, token, Identifier.Names]
  generalize Text.trim part.filename.toList = name
  split
  next head rest hsplit =>
    rw [String.toList_ofList]
    constructor
    · rintro rfl
      obtain ⟨rfl, -⟩ := Text.splitFirst?_eq_some_iff.mp hsplit
      exact .inr ⟨rest, List.append_assoc ..⟩
    · rintro (rfl | ⟨rest', rfl⟩)
      · -- the bare identifier has no dot to be split at
        rw [Text.splitFirst?_eq_none_iff.mpr i.dot_not_mem] at hsplit
        cases hsplit
      · rw [List.append_assoc, List.singleton_append,
          Text.splitFirst?_append i.dot_not_mem] at hsplit
        cases hsplit
        rfl
  next hsplit =>
    have hdot : '.' ∉ name := Text.splitFirst?_eq_none_iff.mp hsplit
    rw [String.toList_ofList]
    refine (or_iff_left fun hdotted => hdot ?_).symm
    exact hdotted.subset (List.mem_append_right _ List.mem_cons_self)

end Part

/-- The token depends on the name alone, so no file is named after two identifiers. -/
theorem Identifier.Names.unique {i j : Identifier} {filename : String} (hi : i.Names filename)
    (hj : j.Names filename) : i = j := by
  let part : Part := { filename, data := .empty }
  have htoken : part.token = i.text := Part.token_eq_iff.mpr hi
  have htoken' : part.token = j.text := Part.token_eq_iff.mpr hj
  exact text_inj.mp (htoken.symm.trans htoken')

namespace Reconciliation

variable {config : Config} {parts : List Part} {groups : List UploadGroup} {batch : BoundBatch}

/-- Each part of a bound batch has been put to an expected file. -/
theorem exists_bound (h : reconcile config parts groups = .ok batch) {part : Part}
    (hpart : part ∈ filesOf config parts) : ∃ file ∈ batch.files, file.part = part := by
  rw [← (reconcile_parts_perm h).mem_iff] at hpart
  exact List.mem_map.mp hpart

/-- The part of a bound file is named after the identifier of that file, and after no other. -/
theorem bound_names (h : reconcile config parts groups = .ok batch) {file : BoundFile}
    (hfile : file ∈ batch.files) :
    file.expected ∈ Manifest.expectedFiles groups ∧
      ∀ i : Identifier, i.Names file.part.filename ↔ i = file.expected.identifier := by
  obtain ⟨-, -, -, -, -, htied⟩ := reconcile_eq_ok_iff.mp h
  obtain ⟨wanted, hwanted, ht⟩ := exists_related_left (tied_files htied) hfile
  rw [← ht.same] at hwanted
  refine ⟨hwanted, fun i => ?_⟩
  rw [← Part.token_eq_iff, ht.token, ht.same, Identifier.text_inj, eq_comm]

/-- The token of a part is an identifier exactly if the part is named after it, however the name is
spelled. No file is named after two identifiers, so none is taken for another's, whatever their
texts have in common; and each part of a bound batch is at the expected file it is named after. -/
theorem bound_by_name :
    (∀ (part : Part) (i : Identifier), (part.token = i.text ↔ i.Names part.filename) ∧
      (part.token = i.text ↔ i.Spelled part.filename)) ∧
    (∀ (filename : String) (i j : Identifier), i.Names filename → j.Names filename → i = j) ∧
    (∀ (part : Part) (i j : Identifier), i ≠ j → part.token = j.text → ¬ i.Names part.filename) ∧
    ∀ config parts groups batch, reconcile config parts groups = .ok batch →
      (∀ part ∈ filesOf config parts, ∃ file ∈ batch.files, file.part = part) ∧
      ∀ file ∈ batch.files, file.expected ∈ Manifest.expectedFiles groups ∧
        ∀ i : Identifier, i.Names file.part.filename ↔ i = file.expected.identifier := by
  refine ⟨fun part i => ⟨Part.token_eq_iff, ?_⟩, fun _ _ _ hi hj => hi.unique hj,
    fun part i j hne htoken hnames => ?_, fun config parts groups batch hbatch => ⟨?_, ?_⟩⟩
  · rw [Part.token_eq_iff, Identifier.names_iff_spelled]
  · exact hne (hnames.unique (Part.token_eq_iff.mp htoken))
  · exact fun _ => exists_bound hbatch
  · exact fun _ => bound_names hbatch

namespace Sample

def front : Identifier := ⟨"ab", by decide⟩

/-- An identifier that starts with another one. -/
def longer : Identifier := ⟨"ab-12", by decide⟩

/-- A name with an em space in front and a space behind it. -/
def padded : Part := { filename := "\u2003ab-12.tar.gz ", data := .empty }

def bare : Part := { filename := "ab", data := .empty }

def expected : List UploadGroup :=
  [{ info := ⟨"a", none, none, none, none⟩,
     files := [{ originalFilename := "x", identifier := front },
       { originalFilename := "y", identifier := longer }] }]

end Sample

theorem bound_by_name_sample : Sample.front.text.toList <+: Sample.longer.text.toList ∧
    ∃ batch, reconcile .production [Sample.padded, Sample.bare] Sample.expected = .ok batch ∧
      (∃ file ∈ batch.files, file.part = Sample.padded ∧
        file.expected.identifier = Sample.longer) ∧
      Sample.longer.Names Sample.padded.filename ∧ ¬ Sample.front.Names Sample.padded.filename := by
  obtain ⟨hexact, -, hother, hbound⟩ := bound_by_name
  have hok : (reconcile .production [Sample.padded, Sample.bare] Sample.expected).isOk = true := by
    decide +kernel
  obtain ⟨batch, hbatch⟩ := exists_ok_of_isOk hok
  obtain ⟨hplaced, hnamed⟩ := hbound _ _ _ _ hbatch
  have hmem : Sample.padded ∈ filesOf .production [Sample.padded, Sample.bare] :=
    List.mem_filter.mpr ⟨List.mem_cons_self, by decide⟩
  obtain ⟨file, hfile, hpart⟩ := hplaced Sample.padded hmem
  have htoken : Sample.padded.token = Sample.longer.text := by decide +kernel
  have hnames : Sample.longer.Names Sample.padded.filename := (hexact _ _).1.mp htoken
  refine ⟨by decide, batch, hbatch, ⟨file, hfile, hpart, ?_⟩, hnames, ?_⟩
  · rw [← hpart] at hnames
    exact (((hnamed file hfile).2 _).mp hnames).symm
  · exact hother _ _ _ (by decide) htoken

end Reconciliation

end AttachmentIntake
