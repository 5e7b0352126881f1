import AttachmentIntake.Proofs.FirstItem
import AttachmentIntake.Proofs.Reconciliation

/-! Which of several faults a batch is refused for. The number of its parts comes first, then the
first part in the order of upload that belongs nowhere, then the first file in manifest order that
is left without a part. -/

namespace AttachmentIntake.Reconciliation

/-- A part whose token is not expected, or is that of a part in front of it. -/
abbrev Misplaced (known : List String) : List Part → Part → Prop :=
  Clashes (fun part => part.token ∈ known) Part.token

/-- A file whose identifier no part carries, or whose part goes to a file in front of it. -/
abbrev LeftOut (parts : List Part) : List ExpectedFile → ExpectedFile → Prop :=
  Clashes (fun file => ∃ part ∈ parts, part.token = file.identifier.text)
    fun file => file.identifier.text

/-- The error for a misplaced part. -/
def misplacement (known : List String) (part : Part) : BatchError :=
  if part.token ∈ known then .duplicateFile part.token else .unmatchedFile part.filename

/-! ### Parts in the order of upload -/

@[simp] theorem tagged_concat (parts : List Part) (part : Part) :
    tagged (parts ++ [part]) = (part.token, part) :: tagged parts := by
  simp [tagged]

theorem lookup_tagged_eq_none_iff {parts : List Part} {token : String} :
    (tagged parts).lookup token = none ↔ ¬ ∃ part ∈ parts, part.token = token := by
  rw [List.lookup_eq_none_iff]
  constructor
  · rintro h ⟨part, hpart, rfl⟩
    have hne := h (part.token, part) (List.mem_reverse.mpr (List.mem_map_of_mem hpart))
    simp at hne
  · intro h u hu
    obtain ⟨part, hpart, rfl⟩ := List.mem_map.mp (List.mem_reverse.mp hu)
    simpa using fun heq => h ⟨part, hpart, heq.symm⟩

variable {known : List String} {seen parts : List Part} {part : Part} {e : BatchError}

/-- A misplaced part ends the pass over the parts. -/
theorem collect_of_misplaced (h : Misplaced known seen part) :
    collect known (tagged seen) (part :: parts) = .error (misplacement known part) := by
  rw [collect, misplacement]
  by_cases hknown : part.token ∈ known
  · rw [if_neg (not_not.mpr hknown), if_pos hknown]
    have hseen := h.resolve_left (not_not.mpr hknown)
    cases hlookup : (tagged seen).lookup part.token with
    | some other => rfl
    | none => exact absurd hseen (lookup_tagged_eq_none_iff.mp hlookup)
  · rw [if_pos hknown, if_neg hknown]

theorem collect_of_not_misplaced (h : ¬ Misplaced known seen part) :
    collect known (tagged seen) (part :: parts) =
      collect known (tagged (seen ++ [part])) parts := by
  obtain ⟨hknown, hnew⟩ := not_or.mp h
  rw [collect, if_neg hknown, lookup_tagged_eq_none_iff.mpr hnew, tagged_concat]

/-- The pass over the parts ends with the error for the first misplaced one. -/
theorem collect_eq_error_iff :
    collect known [] parts = .error e ↔
      ∃ before part, FirstWith (Misplaced known) parts before part ∧
        e = misplacement known part := by
  refine pass_iff_first (Misplaced known)
    (fun seen parts e => collect known (tagged seen) parts = .error e)
    (fun _ part e => e = misplacement known part) ?_ ?_ ?_ [] parts e
  · intro seen e h
    cases h
  · intro seen part parts e h
    rw [collect_of_misplaced h, Except.error.injEq, eq_comm]
  · intro seen part parts e h
    rw [collect_of_not_misplaced h]

/-! ### Files in manifest order -/

/-- The uploads that are left once the parts of some files are taken. -/
def untaken (parts : List Part) (files : List ExpectedFile) : Uploads :=
  (tagged parts).filter fun u => u.1 ∉ texts files

@[simp] theorem untaken_nil (parts : List Part) : untaken parts [] = tagged parts := by
  simp [untaken, texts]

@[simp]
theorem untaken_concat (parts : List Part) (files : List ExpectedFile) (file : ExpectedFile) :
    untaken parts (files ++ [file]) =
      (untaken parts files).filter fun u => u.1 ≠ file.identifier.text := by
  rw [untaken, untaken, List.filter_filter]
  congr 1
  ext u
  simp [texts, not_or, Bool.and_comm]

variable {files : List ExpectedFile} {file : ExpectedFile}

@[simp] theorem lookup_untaken_eq_none_iff :
    (untaken parts files).lookup file.identifier.text = none ↔ LeftOut parts files file := by
  have htaken : file.identifier.text ∈ texts files ↔
      ∃ other ∈ files, other.identifier.text = file.identifier.text := by
    simp [texts]
  rw [untaken, lookup_filter (p := fun t => t ∉ texts files), LeftOut, Clashes, ← htaken,
    ← lookup_tagged_eq_none_iff]
  by_cases h : file.identifier.text ∈ texts files <;> simp [h]

/-- A file that is left out ends the pass over the files. -/
theorem take_of_leftOut (h : LeftOut parts files file) :
    take (untaken parts files) file =
      .error (.missingFile file.originalFilename file.identifier.text) := by
  rw [take, lookup_untaken_eq_none_iff.mpr h]

theorem take_of_not_leftOut (h : ¬ LeftOut parts files file) :
    ∃ bound, take (untaken parts files) file = .ok (bound, untaken parts (files ++ [file])) := by
  rw [← lookup_untaken_eq_none_iff, ← ne_eq, Option.ne_none_iff_exists'] at h
  obtain ⟨part, hpart⟩ := h
  exact ⟨{ expected := file, part }, by rw [take, hpart, untaken_concat]⟩

/-- The pass over the files ends with the error for the first one that is left out. -/
theorem bindFiles_eq_error_iff :
    bindFiles (tagged parts) files = .error e ↔
      ∃ before file, FirstWith (LeftOut parts) files before file ∧
        e = .missingFile file.originalFilename file.identifier.text := by
  rw [← untaken_nil]
  refine pass_iff_first (LeftOut parts)
    (fun taken files e => bindFiles (untaken parts taken) files = .error e)
    (fun _ file e => e = .missingFile file.originalFilename file.identifier.text)
    ?_ ?_ ?_ [] files e
  · intro taken e h
    cases h
  · intro taken file files e h
    rw [bindFiles, take_of_leftOut h, bind_eq_error_iff, Except.error.injEq, eq_comm]
    simp
  · intro taken file files e h
    obtain ⟨bound, hbound⟩ := take_of_not_leftOut h
    rw [bindFiles, hbound, bind_eq_error_iff]
    simp [pure, Except.pure]

/-- Files that follow others are bound to what those leave. -/
theorem bindFiles_append (uploads : Uploads) (files later : List ExpectedFile) :
    bindFiles uploads (files ++ later) = do
      let (bound, uploads) ← bindFiles uploads files
      let (more, uploads) ← bindFiles uploads later
      return (bound ++ more, uploads) := by
  induction files generalizing uploads with
  | nil =>
    change bindFiles uploads later = do
      let (more, uploads) ← bindFiles uploads later
      return ([] ++ more, uploads)
    simp
  | cons file files ih => simp [bindFiles, ih]

/-- Which file is found to be left out does not depend on how the files are grouped. -/
theorem bindGroups_eq_error_iff {uploads : Uploads} {groups : List UploadGroup} :
    bindGroups uploads groups = .error e ↔
      bindFiles uploads (Manifest.expectedFiles groups) = .error e := by
  induction groups generalizing uploads with
  | nil => exact ⟨nofun, nofun⟩
  | cons group groups ih =>
    have hlater : Manifest.expectedFiles (group :: groups) =
        group.files ++ Manifest.expectedFiles groups := by
      simp [Manifest.expectedFiles]
    simp [hlater, bindFiles_append, bindGroups, ih, pure, Except.pure]

/-! ### The whole batch -/

/-- There are parts, and not too many. -/
structure WithinLimits (config : Config) (parts : List Part) : Prop where
  nonempty : parts ≠ []
  limit : parts.length ≤ config.maxFileCount

/-- What becomes of a batch. Each fault counts only where those before it are absent. -/
inductive Decided (config : Config) (parts : List Part) (groups : List UploadGroup) :
    Except BatchError BoundBatch → Prop
  | emptyBatch (h : filesOf config parts = []) : Decided config parts groups (.error .emptyBatch)
  | tooLarge (h : config.maxFileCount < (filesOf config parts).length)
      (hsome : filesOf config parts ≠ []) : Decided config parts groups
        (.error (.tooLarge (filesOf config parts).length config.maxFileCount))
  | unmatchedFile {before : List Part} {part : Part}
      (hlimits : WithinLimits config (filesOf config parts))
      (hfirst : FirstWith (Misplaced (identifiers groups)) (filesOf config parts) before part)
      (h : part.token ∉ identifiers groups) :
      Decided config parts groups (.error (.unmatchedFile part.filename))
  | duplicateFile {before : List Part} {part : Part}
      (hlimits : WithinLimits config (filesOf config parts))
      (hfirst : FirstWith (Misplaced (identifiers groups)) (filesOf config parts) before part)
      (h : ∃ earlier ∈ before, earlier.token = part.token) :
      Decided config parts groups (.error (.duplicateFile part.token))
  | missingFile {before : List ExpectedFile} {file : ExpectedFile}
      (hlimits : WithinLimits config (filesOf config parts))
      (hplaced : NoneWith (Misplaced (identifiers groups)) (filesOf config parts))
      (hfirst : FirstWith (LeftOut (filesOf config parts)) (Manifest.expectedFiles groups)
        before file) :
      Decided config parts groups
        (.error (.missingFile file.originalFilename file.identifier.text))
  | bound {batch : BoundBatch}
      (hlimits : WithinLimits config (filesOf config parts))
      (hplaced : NoneWith (Misplaced (identifiers groups)) (filesOf config parts))
      (hcomplete : NoneWith (LeftOut (filesOf config parts)) (Manifest.expectedFiles groups))
      (htied : List.Forall₂ (TiedGroup (filesOf config parts)) groups batch.groups) :
      Decided config parts groups (.ok batch)

theorem noneWith_misplaced_iff : NoneWith (Misplaced known) parts ↔
    (∀ p ∈ parts, p.token ∈ known) ∧ (parts.map Part.token).Nodup :=
  noneWith_clashes_iff

theorem noneWith_leftOut_iff {groups : List UploadGroup} :
    NoneWith (LeftOut parts) (Manifest.expectedFiles groups) ↔
      (∀ file ∈ Manifest.expectedFiles groups, ∃ p ∈ parts, p.token = file.identifier.text) ∧
        (identifiers groups).Nodup :=
  noneWith_clashes_iff

/-- A part that repeats a token is not unmatched, as the one that it repeats was matched. -/
theorem mem_known_of_repeated {before : List Part}
    (hfirst : FirstWith (Misplaced known) parts before part)
    (h : ∃ earlier ∈ before, earlier.token = part.token) : part.token ∈ known := by
  obtain ⟨earlier, hearlier, htoken⟩ := h
  rw [← htoken]
  exact (noneWith_misplaced_iff.mp hfirst.earliest).1 earlier hearlier

variable {config : Config} {groups : List UploadGroup}

theorem collect_files_eq_ok_iff {uploads : Uploads} :
    collect known [] parts = .ok uploads ↔
      uploads = tagged parts ∧ NoneWith (Misplaced known) parts := by
  simp [collect_eq_ok_iff, noneWith_misplaced_iff]

/-- Within the limits, the pass over the parts comes first and that over the files after it. -/
theorem reconcile_eq_error_iff (hlimits : WithinLimits config (filesOf config parts)) :
    reconcile config parts groups = .error e ↔
      collect (identifiers groups) [] (filesOf config parts) = .error e ∨
        NoneWith (Misplaced (identifiers groups)) (filesOf config parts) ∧
          bindFiles (tagged (filesOf config parts)) (Manifest.expectedFiles groups) =
            .error e := by
  have hsome : (filesOf config parts).isEmpty = false := by simpa using hlimits.nonempty
  rw [reconcile_eq, hsome, if_neg nofun, if_neg (Nat.not_lt.mpr hlimits.limit),
    bind_eq_error_iff, ← bindGroups_eq_error_iff]
  simp [collect_files_eq_ok_iff, pure, Except.pure]

theorem reconcile_of_not_withinLimits (h : ¬ WithinLimits config (filesOf config parts)) :
    reconcile config parts groups =
      if filesOf config parts = [] then .error .emptyBatch
      else .error (.tooLarge (filesOf config parts).length config.maxFileCount) := by
  simp only [reconcile_eq, List.isEmpty_iff]
  split_ifs with hempty hlarge
  · rfl
  · rfl
  · exact absurd ⟨hempty, Nat.not_lt.mp hlarge⟩ h

theorem reconcile_eq_ok_iff_decided {batch : BoundBatch} :
    reconcile config parts groups = .ok batch ↔ Decided config parts groups (.ok batch) := by
  rw [reconcile_eq_ok_iff]
  constructor
  · rintro ⟨hsome, hlimit, hknown, hnodup, hids, htied⟩
    refine .bound ⟨hsome, hlimit⟩ (noneWith_misplaced_iff.mpr ⟨hknown, hnodup⟩)
      (noneWith_leftOut_iff.mpr ⟨fun file hfile => ?_, hids⟩) htied
    obtain ⟨bound, -, hbound⟩ := exists_related (tied_files htied) hfile
    exact ⟨bound.part, hbound.uploaded, hbound.token⟩
  · intro h
    cases h with
    | bound hlimits hplaced hcomplete htied =>
      obtain ⟨hknown, hnodup⟩ := noneWith_misplaced_iff.mp hplaced
      exact ⟨hlimits.nonempty, hlimits.limit, hknown, hnodup,
        (noneWith_leftOut_iff.mp hcomplete).2, htied⟩

theorem Decided.of_eq_error (h : reconcile config parts groups = .error e) :
    Decided config parts groups (.error e) := by
  by_cases hlimits : WithinLimits config (filesOf config parts)
  · rw [reconcile_eq_error_iff hlimits, collect_eq_error_iff, bindFiles_eq_error_iff] at h
    obtain ⟨before, part, hfirst, rfl⟩ | ⟨hplaced, before, file, hfirst, rfl⟩ := h
    · unfold misplacement
      split
      next hknown =>
        exact .duplicateFile hlimits hfirst (hfirst.holds.resolve_left (not_not.mpr hknown))
      next hunknown => exact .unmatchedFile hlimits hfirst hunknown
    · exact .missingFile hlimits hplaced hfirst
  · rw [reconcile_of_not_withinLimits hlimits] at h
    split at h
    next hempty =>
      cases h
      exact .emptyBatch hempty
    next hsome =>
      cases h
      exact .tooLarge (Nat.not_le.mp fun hlimit => hlimits ⟨hsome, hlimit⟩) hsome

theorem Decided.eq_error (h : Decided config parts groups (.error e)) :
    reconcile config parts groups = .error e := by
  cases h with
  | emptyBatch hempty =>
    rw [reconcile_of_not_withinLimits fun hlimits => hlimits.nonempty hempty, if_pos hempty]
  | tooLarge hlarge hsome =>
    rw [reconcile_of_not_withinLimits fun hlimits => absurd hlimits.limit (Nat.not_le.mpr hlarge),
      if_neg hsome]
  | unmatchedFile hlimits hfirst hunknown =>
    refine (reconcile_eq_error_iff hlimits).mpr (.inl (collect_eq_error_iff.mpr ?_))
    exact ⟨_, _, hfirst, by rw [misplacement, if_neg hunknown]⟩
  | duplicateFile hlimits hfirst hrepeated =>
    refine (reconcile_eq_error_iff hlimits).mpr (.inl (collect_eq_error_iff.mpr ?_))
    exact ⟨_, _, hfirst, by rw [misplacement, if_pos (mem_known_of_repeated hfirst hrepeated)]⟩
  | missingFile hlimits hplaced hfirst =>
    refine (reconcile_eq_error_iff hlimits).mpr (.inr ⟨hplaced, bindFiles_eq_error_iff.mpr ?_⟩)
    exact ⟨_, _, hfirst, rfl⟩

/-- A batch is decided by the first fault there is. Whatever is bound uses every part once, for
files with different identifiers. -/
theorem reconcile_decided (config : Config) (parts : List Part) (groups : List UploadGroup) :
    (∀ result, reconcile config parts groups = result ↔ Decided config parts groups result) ∧
      ∀ batch, reconcile config parts groups = .ok batch →
        (identifiers groups).Nodup ∧
          (batch.files.map fun file => file.part).Perm (filesOf config parts) := by
  constructor
  · intro result
    cases result with
    | error e => exact ⟨Decided.of_eq_error, Decided.eq_error⟩
    | ok batch => exact reconcile_eq_ok_iff_decided
  · intro batch h
    obtain ⟨-, -, -, -, hids, -⟩ := reconcile_eq_ok_iff.mp h
    exact ⟨hids, reconcile_parts_perm h⟩

end AttachmentIntake.Reconciliation
