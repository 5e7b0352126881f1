import AttachmentIntake.Batch.Reconciliation
import AttachmentIntake.Proofs.Basic
import Mathlib.Data.List.Nodup

/-! When a batch is bound, and to what: every part carries the identifier of one expected file, and
every expected file gets the part that carries its identifier. -/

namespace AttachmentIntake.Reconciliation

theorem lookup_eq_some_iff_mem {uploads : Uploads} (h : (uploads.map Prod.fst).Nodup)
    {token : String} {part : Part} :
    uploads.lookup token = some part ↔ (token, part) ∈ uploads := by
  induction uploads with
  | nil => simp
  | cons u uploads ih =>
    obtain ⟨key, first⟩ := u
    obtain ⟨hkey, huploads⟩ := List.nodup_cons.mp h
    rw [List.lookup_cons, List.mem_cons, Prod.mk.injEq]
    by_cases ht : token = key
    · subst ht
      have hnone : (token, part) ∉ uploads := fun hm => hkey (List.mem_map.mpr ⟨_, hm, rfl⟩)
      simp [hnone, eq_comm]
    · simp [beq_false_of_ne ht, ht, ih huploads]

/-- What is taken away by its key is not found again, and all else is. -/
theorem lookup_filter {uploads : Uploads} {p : String → Bool} {token : String} :
    (uploads.filter fun u => p u.1).lookup token =
      if p token then uploads.lookup token else none := by
  induction uploads with
  | nil => simp
  | cons u uploads ih =>
    obtain ⟨key, part⟩ := u
    rw [List.filter_cons]
    by_cases ht : token = key
    · subst ht
      by_cases hp : p token <;> simp [hp, ih]
    · by_cases hp : p key <;> simp [hp, List.lookup_cons, beq_false_of_ne ht, ih]

/-- Parts under their tokens, the last one first. -/
def tagged (parts : List Part) : Uploads := (parts.map fun p => (p.token, p)).reverse

theorem lookup_tagged {parts : List Part} (h : (parts.map Part.token).Nodup) {token : String}
    {part : Part} :
    (tagged parts).lookup token = some part ↔ part ∈ parts ∧ part.token = token := by
  have hkeys : ((tagged parts).map Prod.fst).Nodup := by
    simpa [tagged, List.nodup_reverse, Function.comp_def] using h
  rw [lookup_eq_some_iff_mem hkeys]
  constructor
  · intro hm
    obtain ⟨p, hp, heq⟩ := List.mem_map.mp (List.mem_reverse.mp hm)
    cases heq
    exact ⟨hp, rfl⟩
  · rintro ⟨hp, rfl⟩
    exact List.mem_reverse.mpr (List.mem_map.mpr ⟨part, hp, rfl⟩)

/-! ### Collecting the parts -/

theorem collect_eq_ok_iff {known : List String} {uploads result : Uploads} {parts : List Part} :
    collect known uploads parts = .ok result ↔
      result = tagged parts ++ uploads ∧ (∀ p ∈ parts, p.token ∈ known) ∧
        (parts.map Part.token).Nodup ∧ ∀ p ∈ parts, uploads.lookup p.token = none := by
  induction parts generalizing uploads with
  | nil => simp [collect, tagged, eq_comm]
  | cons part parts ih =>
    rw [collect, List.forall_mem_cons, List.forall_mem_cons, List.map_cons, List.nodup_cons]
    split
    next hunknown =>
      refine ⟨nofun, ?_⟩
      rintro ⟨-, ⟨hknown, -⟩, -⟩
      exact absurd hknown hunknown
    next hknown =>
      rw [not_not] at hknown
      split
      next other hother => simp [hother]
      next hnew =>
        have hlookup (p : Part) : ((part.token, part) :: uploads).lookup p.token = none ↔
            p.token ≠ part.token ∧ uploads.lookup p.token = none := by
          by_cases ht : p.token = part.token
          · simp [ht]
          · simp [List.lookup_cons, beq_false_of_ne ht, ht]
        have htagged : tagged parts ++ (part.token, part) :: uploads =
            tagged (part :: parts) ++ uploads := by
          simp [tagged]
        simp only [ih, hlookup, htagged, forall_and, List.mem_map, not_exists, not_and]
        tauto

/-! ### Binding the files -/

/-- A file is bound to the upload found under its identifier. -/
def Binds (uploads : Uploads) (expected : ExpectedFile) (file : BoundFile) : Prop :=
  file.expected = expected ∧ uploads.lookup expected.identifier.text = some file.part

@[simp] theorem binds_filter {uploads : Uploads} {p : String → Bool} {expected : ExpectedFile}
    {file : BoundFile} : Binds (uploads.filter fun u => p u.1) expected file ↔
      p expected.identifier.text = true ∧ Binds uploads expected file := by
  unfold Binds
  rw [lookup_filter]
  split
  next hp => simp [hp]
  next hp => simp [hp]

theorem take_eq_ok_iff {uploads rest : Uploads} {expected : ExpectedFile} {file : BoundFile} :
    take uploads expected = .ok (file, rest) ↔
      Binds uploads expected file ∧
        rest = uploads.filter fun u => u.1 ≠ expected.identifier.text := by
  unfold take Binds
  split
  next part hpart =>
    constructor
    · intro h
      cases h
      exact ⟨⟨rfl, hpart⟩, rfl⟩
    · rintro ⟨⟨rfl, hfile⟩, rfl⟩
      obtain rfl : part = file.part := by simpa [hpart] using hfile
      rfl
  next hnone => simp [hnone]

/-- The texts of the identifiers under which files are expected. -/
def texts (files : List ExpectedFile) : List String := files.map fun f => f.identifier.text

theorem forall₂_binds_filter {uploads : Uploads} {p : String → Bool}
    {expected : List ExpectedFile} {files : List BoundFile} :
    List.Forall₂ (Binds (uploads.filter fun u => p u.1)) expected files ↔
      (∀ t ∈ texts expected, p t = true) ∧ List.Forall₂ (Binds uploads) expected files := by
  have hbinds : Binds (uploads.filter fun u => p u.1) =
      fun e f => p e.identifier.text = true ∧ Binds uploads e f := by
    ext e f
    exact binds_filter
  rw [hbinds, List.forall₂_and_left]
  simp [texts]

theorem bindFiles_cons_eq_ok_iff {uploads rest : Uploads} {first : ExpectedFile}
    {later : List ExpectedFile} {files : List BoundFile} :
    bindFiles uploads (first :: later) = .ok (files, rest) ↔
      ∃ file more, files = file :: more ∧ Binds uploads first file ∧
        bindFiles (uploads.filter fun u => u.1 ≠ first.identifier.text) later =
          .ok (more, rest) := by
  simp only [bindFiles, bind_eq_ok_iff, Prod.exists, take_eq_ok_iff]
  constructor
  · rintro ⟨file, _, ⟨hfile, rfl⟩, more, _, hmore, h⟩
    cases h
    exact ⟨file, more, rfl, hfile, hmore⟩
  · rintro ⟨file, more, rfl, hfile, hmore⟩
    exact ⟨file, _, ⟨hfile, rfl⟩, more, rest, hmore, rfl⟩

/-- Files are bound exactly if their identifiers differ and each is found among the uploads; an
upload that is taken is not there for a later file. -/
theorem bindFiles_eq_ok_iff {uploads rest : Uploads} {expected : List ExpectedFile}
    {files : List BoundFile} :
    bindFiles uploads expected = .ok (files, rest) ↔
      (texts expected).Nodup ∧ List.Forall₂ (Binds uploads) expected files ∧
        rest = uploads.filter fun u => u.1 ∉ texts expected := by
  induction expected generalizing uploads files with
  | nil => simp [bindFiles, texts, eq_comm]
  | cons first later ih =>
    have htexts : texts (first :: later) = first.identifier.text :: texts later := rfl
    have hrest : (uploads.filter fun u => u.1 ≠ first.identifier.text).filter
          (fun u => u.1 ∉ texts later) =
        uploads.filter fun u => u.1 ∉ texts (first :: later) := by
      rw [List.filter_filter]
      congr 1
      ext u
      simp [htexts, Bool.and_comm]
    have hbinds (more : List BoundFile) :
        List.Forall₂ (Binds (uploads.filter fun u => u.1 ≠ first.identifier.text)) later more ↔
          first.identifier.text ∉ texts later ∧ List.Forall₂ (Binds uploads) later more := by
      rw [forall₂_binds_filter (p := fun t => t ≠ first.identifier.text)]
      simp only [decide_eq_true_eq]
      refine and_congr_left fun _ => ⟨fun h hm => h _ hm rfl, ?_⟩
      rintro h t hm rfl
      exact h hm
    simp only [bindFiles_cons_eq_ok_iff, ih, hrest, hbinds, htexts, List.nodup_cons,
      List.forall₂_cons_left_iff]
    constructor
    · rintro ⟨file, more, rfl, hfile, hlater, ⟨hfirst, hmore⟩, rfl⟩
      exact ⟨⟨hfirst, hlater⟩, ⟨file, more, hfile, hmore, rfl⟩, rfl⟩
    · rintro ⟨⟨hfirst, hlater⟩, ⟨file, more, hfile, hmore, rfl⟩, rfl⟩
      exact ⟨file, more, rfl, hfile, hlater, ⟨hfirst, hmore⟩, rfl⟩

/-- A group is bound under its own metadata, file by file. -/
def BindsGroup (uploads : Uploads) (group : UploadGroup) (bound : BoundGroup) : Prop :=
  bound.info = group.info ∧ List.Forall₂ (Binds uploads) group.files bound.files

theorem bindGroups_cons_eq_ok_iff {uploads : Uploads} {first : UploadGroup}
    {later : List UploadGroup} {groups : List BoundGroup} :
    bindGroups uploads (first :: later) = .ok groups ↔
      ∃ bound more, groups = bound :: more ∧ BindsGroup uploads first bound ∧
        (texts first.files).Nodup ∧
        bindGroups (uploads.filter fun u => u.1 ∉ texts first.files) later = .ok more := by
  simp only [bindGroups, bind_eq_ok_iff, Prod.exists, bindFiles_eq_ok_iff]
  constructor
  · rintro ⟨files, _, ⟨hnodup, hfiles, rfl⟩, more, hmore, h⟩
    cases h
    exact ⟨_, more, rfl, ⟨rfl, hfiles⟩, hnodup, hmore⟩
  · rintro ⟨⟨info, files⟩, more, rfl, ⟨rfl, hfiles⟩, hnodup, hmore⟩
    exact ⟨files, _, ⟨hnodup, hfiles, rfl⟩, more, hmore, rfl⟩

@[simp] theorem identifiers_cons (first : UploadGroup) (later : List UploadGroup) :
    identifiers (first :: later) = texts first.files ++ identifiers later := by
  simp [identifiers, texts, Manifest.expectedFiles]

theorem forall₂_bindsGroup_filter {uploads : Uploads} {p : String → Bool}
    {expected : List UploadGroup} {groups : List BoundGroup} :
    List.Forall₂ (BindsGroup (uploads.filter fun u => p u.1)) expected groups ↔
      (∀ t ∈ identifiers expected, p t = true) ∧
        List.Forall₂ (BindsGroup uploads) expected groups := by
  have hbinds : BindsGroup (uploads.filter fun u => p u.1) =
      fun g b => (∀ t ∈ texts g.files, p t = true) ∧ BindsGroup uploads g b := by
    ext g b
    simp only [BindsGroup, forall₂_binds_filter]
    tauto
  have hids : identifiers expected = expected.flatMap fun g => texts g.files := by
    simp [identifiers, texts, Manifest.expectedFiles, List.map_flatMap]
  rw [hbinds, List.forall₂_and_left, hids]
  simp only [List.mem_flatMap]
  refine and_congr_left fun _ => ⟨?_, fun h g hg t ht => h t ⟨g, hg, ht⟩⟩
  rintro h t ⟨g, hg, ht⟩
  exact h g hg t ht

/-- Groups are bound exactly if all identifiers differ and each is found among the uploads. -/
theorem bindGroups_eq_ok_iff {uploads : Uploads} {expected : List UploadGroup}
    {groups : List BoundGroup} :
    bindGroups uploads expected = .ok groups ↔
      (identifiers expected).Nodup ∧ List.Forall₂ (BindsGroup uploads) expected groups := by
  induction expected generalizing uploads groups with
  | nil => simp [bindGroups, identifiers, Manifest.expectedFiles, eq_comm]
  | cons first later ih =>
    simp only [bindGroups_cons_eq_ok_iff, ih, identifiers_cons, List.nodup_append',
      List.forall₂_cons_left_iff,
      forall₂_bindsGroup_filter (p := fun t => t ∉ texts first.files), decide_eq_true_eq]
    constructor
    · rintro ⟨bound, more, rfl, hbound, hfirst, hlater, hnew, hmore⟩
      exact ⟨⟨hfirst, hlater, fun t ht hl => hnew t hl ht⟩, bound, more, hbound, hmore, rfl⟩
    · rintro ⟨⟨hfirst, hlater, hdisjoint⟩, bound, more, hbound, hmore, rfl⟩
      exact ⟨bound, more, rfl, hbound, hfirst, hlater, fun t hl ht => hdisjoint ht hl, hmore⟩

/-! ### Files without a part -/

theorem take_error {uploads : Uploads} {expected : ExpectedFile} {e : BatchError}
    (h : take uploads expected = .error e) :
    e = .missingFile expected.originalFilename expected.identifier.text := by
  unfold take at h
  split at h <;> cases h
  rfl

theorem bindFiles_error {uploads : Uploads} {expected : List ExpectedFile} {e : BatchError}
    (h : bindFiles uploads expected = .error e) :
    ∃ f ∈ expected, e = .missingFile f.originalFilename f.identifier.text := by
  induction expected generalizing uploads with
  | nil => cases h
  | cons first later ih =>
    rcases bind_eq_error_iff.mp h with hfirst | ⟨⟨file, rest⟩, -, hlater⟩
    · exact ⟨first, List.mem_cons_self, take_error hfirst⟩
    · rcases bind_eq_error_iff.mp hlater with hmore | ⟨_, -, hdone⟩
      · obtain ⟨f, hf, he⟩ := ih hmore
        exact ⟨f, List.mem_cons_of_mem _ hf, he⟩
      · cases hdone

theorem bindGroups_error {uploads : Uploads} {groups : List UploadGroup} {e : BatchError}
    (h : bindGroups uploads groups = .error e) :
    ∃ f ∈ Manifest.expectedFiles groups,
      e = .missingFile f.originalFilename f.identifier.text := by
  induction groups generalizing uploads with
  | nil => cases h
  | cons first later ih =>
    rw [Manifest.expectedFiles, List.flatMap_cons]
    rcases bind_eq_error_iff.mp h with hfirst | ⟨⟨files, rest⟩, -, hlater⟩
    · obtain ⟨f, hf, he⟩ := bindFiles_error hfirst
      exact ⟨f, List.mem_append_left _ hf, he⟩
    · rcases bind_eq_error_iff.mp hlater with hmore | ⟨_, -, hdone⟩
      · obtain ⟨f, hf, he⟩ := ih hmore
        exact ⟨f, List.mem_append_right _ hf, he⟩
      · cases hdone

/-! ### The whole batch -/

theorem reconcile_eq (config : Config) (parts : List Part) (groups : List UploadGroup) :
    reconcile config parts groups =
      if (filesOf config parts).isEmpty then .error .emptyBatch
      else if config.maxFileCount < (filesOf config parts).length then
        .error (.tooLarge (filesOf config parts).length config.maxFileCount)
      else do
        let uploads ← collect (identifiers groups) [] (filesOf config parts)
        return { groups := ← bindGroups uploads groups } := by
  unfold reconcile
  dsimp only
  split_ifs <;> rfl

/-- A file is tied to the part among `parts` that carries its identifier. -/
structure Tied (parts : List Part) (wanted : ExpectedFile) (file : BoundFile) : Prop where
  same : file.expected = wanted
  uploaded : file.part ∈ parts
  token : file.part.token = wanted.identifier.text

/-- A group is tied to parts under its own metadata, file by file. -/
def TiedGroup (parts : List Part) (group : UploadGroup) (bound : BoundGroup) : Prop :=
  bound.info = group.info ∧ List.Forall₂ (Tied parts) group.files bound.files

theorem binds_tagged {parts : List Part} (h : (parts.map Part.token).Nodup) :
    Binds (tagged parts) = Tied parts := by
  ext expected file
  unfold Binds
  rw [lookup_tagged h]
  exact ⟨fun ⟨he, hp, ht⟩ => ⟨he, hp, ht⟩, fun ⟨he, hp, ht⟩ => ⟨he, hp, ht⟩⟩

theorem bindsGroup_tagged {parts : List Part} (h : (parts.map Part.token).Nodup) :
    BindsGroup (tagged parts) = TiedGroup parts := by
  ext group bound
  unfold BindsGroup TiedGroup
  rw [binds_tagged h]

/-- A batch is bound exactly if it is within the limits, every part carries an expected identifier,
no two parts and no two files share one, and each file has its part. -/
theorem reconcile_eq_ok_iff {config : Config} {parts : List Part} {groups : List UploadGroup}
    {batch : BoundBatch} :
    reconcile config parts groups = .ok batch ↔
      filesOf config parts ≠ [] ∧ (filesOf config parts).length ≤ config.maxFileCount ∧
        (∀ p ∈ filesOf config parts, p.token ∈ identifiers groups) ∧
        ((filesOf config parts).map Part.token).Nodup ∧ (identifiers groups).Nodup ∧
        List.Forall₂ (TiedGroup (filesOf config parts)) groups batch.groups := by
  have hknown (uploads : Uploads) : collect (identifiers groups) [] (filesOf config parts) =
      .ok uploads ↔ uploads = tagged (filesOf config parts) ∧
        (∀ p ∈ filesOf config parts, p.token ∈ identifiers groups) ∧
        ((filesOf config parts).map Part.token).Nodup := by
    simp [collect_eq_ok_iff]
  unfold reconcile
  by_cases hempty : filesOf config parts = []
  · simp only [hempty, List.isEmpty_nil, ↓reduceIte]
    exact ⟨nofun, fun h => absurd rfl h.1⟩
  by_cases hlarge : config.maxFileCount < (filesOf config parts).length
  · simp only [List.isEmpty_iff, hempty, ↓reduceIte, hlarge]
    exact ⟨nofun, fun h => absurd h.2.1 (Nat.not_le.mpr hlarge)⟩
  simp only [List.isEmpty_iff, hempty, ↓reduceIte, hlarge, bind_eq_ok_iff, hknown,
    bindGroups_eq_ok_iff]
  constructor
  · rintro ⟨_, ⟨rfl, hall, hnodup⟩, bound, ⟨hids, hbound⟩, h⟩
    cases h
    rw [bindsGroup_tagged hnodup] at hbound
    exact ⟨hempty, Nat.not_lt.mp hlarge, hall, hnodup, hids, hbound⟩
  · rintro ⟨-, -, hall, hnodup, hids, hbound⟩
    rw [← bindsGroup_tagged hnodup] at hbound
    exact ⟨_, ⟨rfl, hall, hnodup⟩, batch.groups, ⟨hids, hbound⟩, rfl⟩

theorem tied_files {parts : List Part} {groups : List UploadGroup} {bound : List BoundGroup}
    (h : List.Forall₂ (TiedGroup parts) groups bound) :
    List.Forall₂ (Tied parts) (Manifest.expectedFiles groups) (bound.flatMap (·.files)) := by
  induction h with
  | nil => exact .nil
  | cons hgroup _ ih =>
    rw [Manifest.expectedFiles, List.flatMap_cons, List.flatMap_cons]
    exact List.rel_append hgroup.2 ih

theorem tied_expected {parts : List Part} {groups : List UploadGroup} {batch : BoundBatch}
    (h : List.Forall₂ (TiedGroup parts) groups batch.groups) :
    Manifest.expectedFiles groups = batch.files.map fun f => f.expected := by
  rw [← List.map_id (Manifest.expectedFiles groups)]
  exact map_eq_map_of_related (tied_files h) fun _ _ ht => ht.same.symm

theorem tied_part_unique {parts : List Part} (h : (parts.map Part.token).Nodup)
    {wanted : ExpectedFile} {file : BoundFile} (htied : Tied parts wanted file) {part : Part}
    (hpart : part ∈ parts) (htoken : part.token = wanted.identifier.text) : part = file.part :=
  List.inj_on_of_nodup_map h hpart htied.uploaded (htoken.trans htied.token.symm)

/-- No other part carries the identifier of a bound file. -/
theorem tied_part_filter {parts : List Part} (h : (parts.map Part.token).Nodup)
    {wanted : ExpectedFile} {file : BoundFile} (htied : Tied parts wanted file) :
    parts.filter (fun p => p.token = wanted.identifier.text) = [file.part] := by
  rw [← htied.token]
  exact filter_eq_singleton h htied.uploaded

/-- The parts of a bound batch are those that were uploaded, in another order. -/
theorem reconcile_parts_perm {config : Config} {parts : List Part} {groups : List UploadGroup}
    {batch : BoundBatch} (h : reconcile config parts groups = .ok batch) :
    (batch.files.map fun f => f.part).Perm (filesOf config parts) := by
  obtain ⟨-, -, hknown, hnodup, hids, htied⟩ := reconcile_eq_ok_iff.mp h
  have hfiles := tied_files htied
  have htokens : identifiers groups = (batch.files.map fun f => f.part).map Part.token := by
    rw [identifiers, List.map_map]
    exact map_eq_map_of_related hfiles fun _ _ ht => ht.token.symm
  have hparts : (batch.files.map fun f => f.part).Nodup := by
    rw [htokens] at hids
    exact hids.of_map
  rw [List.perm_ext_iff_of_nodup hparts hnodup.of_map]
  intro part
  rw [List.mem_map]
  constructor
  · rintro ⟨file, hfile, rfl⟩
    obtain ⟨wanted, -, ht⟩ := exists_related_left hfiles hfile
    exact ht.uploaded
  · intro hpart
    obtain ⟨wanted, hwanted, htoken⟩ := List.mem_map.mp (hknown part hpart)
    obtain ⟨file, hfile, ht⟩ := exists_related hfiles hwanted
    exact ⟨file, hfile, (tied_part_unique hnodup ht hpart htoken.symm).symm⟩

/-- For distinct identifiers, a batch can be bound exactly if it is within the limits and the tokens
of its parts are the expected identifiers, each of one part. -/
theorem exists_reconcile_iff {config : Config} {parts : List Part} {groups : List UploadGroup}
    (hids : (identifiers groups).Nodup) :
    (∃ batch, reconcile config parts groups = .ok batch) ↔
      filesOf config parts ≠ [] ∧ (filesOf config parts).length ≤ config.maxFileCount ∧
        ((filesOf config parts).map Part.token).Nodup ∧
        ∀ t, t ∈ (filesOf config parts).map Part.token ↔ t ∈ identifiers groups := by
  constructor
  · rintro ⟨batch, hbatch⟩
    obtain ⟨hsome, hlimit, hknown, hnodup, -, htied⟩ := reconcile_eq_ok_iff.mp hbatch
    refine ⟨hsome, hlimit, hnodup, fun t => ⟨?_, ?_⟩⟩
    · rintro ht
      obtain ⟨p, hp, rfl⟩ := List.mem_map.mp ht
      exact hknown p hp
    · rintro ht
      obtain ⟨wanted, hwanted, rfl⟩ := List.mem_map.mp ht
      obtain ⟨file, -, hfile⟩ := exists_related (tied_files htied) hwanted
      exact List.mem_map.mpr ⟨file.part, hfile.uploaded, hfile.token⟩
  · rintro ⟨hsome, hlimit, hnodup, hsame⟩
    have hfile : ∀ wanted ∈ Manifest.expectedFiles groups,
        ∃ file, Tied (filesOf config parts) wanted file := by
      intro wanted hwanted
      have ht := (hsame _).mpr (List.mem_map.mpr ⟨wanted, hwanted, rfl⟩)
      obtain ⟨part, hpart, htoken⟩ := List.mem_map.mp ht
      exact ⟨{ expected := wanted, part }, rfl, hpart, htoken⟩
    have hgroup : ∀ group ∈ groups, ∃ bound, TiedGroup (filesOf config parts) group bound := by
      intro group hg
      obtain ⟨files, hfiles⟩ := exists_forall₂ fun wanted hw =>
        hfile wanted (List.mem_flatMap.mpr ⟨group, hg, hw⟩)
      exact ⟨{ info := group.info, files }, rfl, hfiles⟩
    obtain ⟨bound, hbound⟩ := exists_forall₂ hgroup
    refine ⟨{ groups := bound }, reconcile_eq_ok_iff.mpr ⟨hsome, hlimit, ?_, hnodup, hids, hbound⟩⟩
    exact fun p hp => (hsame _).mp (List.mem_map.mpr ⟨p, hp, rfl⟩)

end AttachmentIntake.Reconciliation
