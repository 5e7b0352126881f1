import AttachmentIntake.Proofs.FirstItem
import AttachmentIntake.Proofs.Pipeline

/-! Which manifests are refused for their identifiers, and for which file: the first one whose short
form occurred before. -/

namespace AttachmentIntake

namespace Manifest

/-- A file whose short form a file in front of it has. -/
def RepeatsShortForm (before : List ExpectedFile) (file : ExpectedFile) : Prop :=
  ∃ earlier ∈ before, earlier.identifier.short = file.identifier.short

/-- The files that have the short form of a file. -/
def alike (files : List ExpectedFile) (file : ExpectedFile) : List ExpectedFile :=
  files.filter fun f => f.identifier.short = file.identifier.short

/-- The fault of a file that has the short form of an earlier one. -/
def clash (earlier file : ExpectedFile) : Fault :=
  if earlier.identifier = file.identifier then .repeatedIdentifier file.identifier
  else .sharedShortForm earlier.identifier file.identifier

/-- What is said of an identifier that has the short form of an earlier one. -/
def clashMessage (earlier i : Identifier) : String :=
  if earlier = i then s!"identifier '{i.text}' is used more than once"
  else s!"identifiers '{earlier.text}' and '{i.text}' share the short form '{i.short}'"

variable {seen files before : List ExpectedFile} {file earlier : ExpectedFile} {fault : Fault}

theorem noneWith_repeatsShortForm_iff :
    NoneWith RepeatsShortForm files ↔ (files.map fun f => f.identifier.short).Nodup := by
  have hclashes : RepeatsShortForm = Clashes (fun _ => True) fun f => f.identifier.short := by
    ext before file
    simp [Clashes, RepeatsShortForm]
  rw [hclashes, noneWith_clashes_iff]
  simp

@[simp] theorem alike_eq_nil_iff : alike seen file = [] ↔ ¬ RepeatsShortForm seen file := by
  simp [alike, RepeatsShortForm]

/-- Identifiers are looked up from the last one seen to the first. -/
theorem find?_seen (seen : List ExpectedFile) (file : ExpectedFile) :
    (seen.map fun f => f.identifier).reverse.find? (fun e => e.short = file.identifier.short) =
      (alike seen file).getLast?.map fun f => f.identifier := by
  rw [← List.head?_filter, List.filter_reverse, List.filter_map, List.head?_reverse,
    List.getLast?_map]
  rfl

/-- A file whose short form was seen ends the pass over the files. -/
theorem clash?_of_repeats (h : RepeatsShortForm seen file) :
    clash? (seen.map fun f => f.identifier).reverse (file :: files) =
      (alike seen file).getLast?.map (clash · file) := by
  obtain ⟨earlier, hlast⟩ : ∃ earlier, (alike seen file).getLast? = some earlier := by
    rw [← Option.isSome_iff_exists, List.getLast?_isSome]
    exact fun hnil => alike_eq_nil_iff.mp hnil h
  rw [clash?, find?_seen, hlast, Option.map_some, Option.map_some, clash]
  split_ifs with hsame <;> simp [hsame]

theorem clash?_of_new (h : ¬ RepeatsShortForm seen file) :
    clash? (seen.map fun f => f.identifier).reverse (file :: files) =
      clash? ((seen ++ [file]).map fun f => f.identifier).reverse files := by
  rw [clash?, find?_seen, alike_eq_nil_iff.mpr h]
  simp

/-- In front of the first file that repeats a short form, only one file has it. -/
theorem exists_alike_eq_singleton (h : FirstWith RepeatsShortForm files before file) :
    ∃ earlier, alike before file = [earlier] := by
  obtain ⟨earlier, hearlier, hshort⟩ := h.holds
  have hnodup := noneWith_repeatsShortForm_iff.mp h.earliest
  exact ⟨earlier, by rw [alike, ← hshort, filter_eq_singleton hnodup hearlier]⟩

/-- The pass over the files finds the first one whose short form occurred before. -/
theorem clash?_eq_some_iff :
    clash? [] files = some fault ↔
      ∃ before file earlier, FirstWith RepeatsShortForm files before file ∧
        alike before file = [earlier] ∧ fault = clash earlier file := by
  have hpass := pass_iff_first RepeatsShortForm
    (fun seen files fault =>
      clash? (seen.map fun f => f.identifier).reverse files = some fault)
    (fun seen file fault => (alike seen file).getLast?.map (clash · file) = some fault)
    (fun _ _ => nofun)
    (fun seen file files fault h => by rw [clash?_of_repeats h])
    (fun seen file files fault h => by rw [clash?_of_new h]) [] files fault
  refine hpass.trans ?_
  constructor
  · rintro ⟨before, file, hfirst, hfault⟩
    obtain ⟨earlier, hone⟩ := exists_alike_eq_singleton hfirst
    refine ⟨before, file, earlier, hfirst, hone, ?_⟩
    simpa [hone, eq_comm] using hfault
  · rintro ⟨before, file, earlier, hfirst, hone, rfl⟩
    exact ⟨before, file, hfirst, by simp [hone]⟩

@[simp] theorem clash_message (earlier file : ExpectedFile) :
    (clash earlier file).message = clashMessage earlier.identifier file.identifier := by
  unfold clash clashMessage
  split_ifs <;> rfl

theorem expectedFiles_filter (groups : List UploadGroup) :
    expectedFiles (groups.filter fun g => !g.files.isEmpty) = expectedFiles groups := by
  simp only [expectedFiles]
  induction groups with
  | nil => rfl
  | cons g groups ih =>
    rw [List.filter_cons, List.flatMap_cons]
    split_ifs with hfiles
    · rw [List.flatMap_cons, ih]
    · have hnil : g.files = [] := by simpa using hfiles
      rw [ih, hnil, List.nil_append]

theorem parse_eq_error_iff {bytes : List UInt8} {groups : List UploadGroup}
    (h : readGroups bytes = .ok groups) :
    parse bytes = .error fault ↔ clash? [] (expectedFiles groups) = some fault := by
  simp only [parse, h, check, expectedFiles_filter, identifierFault?_nil]
  cases clash? [] (expectedFiles groups) <;> simp

end Manifest

theorem parseManifest_eq_error_iff {data : ByteArray} {e : BatchError} :
    parseManifest data = .error e ↔
      ∃ fault, Manifest.parse data.data.toList = .error fault ∧
        e = .malformedManifest fault.message := by
  unfold parseManifest
  cases Manifest.parse data.data.toList <;> simp [eq_comm]

open Manifest

/-- A manifest that can be read is accepted exactly if all short forms differ, and then gives its
groups with files. Otherwise it is refused for the first file whose short form occurred before. -/
theorem parseManifest_of_readGroups {data : ByteArray} {groups : List UploadGroup}
    (h : readGroups data.data.toList = .ok groups) :
    ((∃ kept, parseManifest data = .ok kept) ↔
        ((expectedFiles groups).map fun f => f.identifier.short).Nodup) ∧
      (∀ kept, parseManifest data = .ok kept →
        kept = groups.filter (fun g => !g.files.isEmpty) ∧
          ((expectedFiles kept).map fun f => f.identifier).Nodup) ∧
      ∀ e, parseManifest data = .error e ↔
        ∃ before file earlier, FirstWith RepeatsShortForm (expectedFiles groups) before file ∧
          alike before file = [earlier] ∧
          e = .malformedManifest (clashMessage earlier.identifier file.identifier) := by
  have hok (kept : List UploadGroup) : parseManifest data = .ok kept ↔
      kept = groups.filter (fun g => !g.files.isEmpty) ∧
        ((expectedFiles groups).map fun f => f.identifier.short).Nodup := by
    rw [parseManifest_eq_ok_iff, parse_eq_ok_iff]
    constructor
    · rintro ⟨read, hread, rfl, hnodup⟩
      obtain rfl : groups = read := by simpa [h] using hread
      exact ⟨rfl, by rwa [expectedFiles_filter] at hnodup⟩
    · rintro ⟨rfl, hnodup⟩
      exact ⟨groups, h, rfl, by rwa [expectedFiles_filter]⟩
  refine ⟨by simp [hok], ?_, ?_⟩
  · intro kept hkept
    obtain ⟨rfl, hnodup⟩ := (hok kept).mp hkept
    rw [expectedFiles_filter]
    refine ⟨rfl, List.Nodup.of_map Identifier.short ?_⟩
    rwa [List.map_map]
  · intro e
    simp only [parseManifest_eq_error_iff, parse_eq_error_iff h, clash?_eq_some_iff]
    constructor
    · rintro ⟨fault, ⟨before, file, earlier, hfirst, hone, rfl⟩, rfl⟩
      exact ⟨before, file, earlier, hfirst, hone, by rw [clash_message]⟩
    · rintro ⟨before, file, earlier, hfirst, hone, rfl⟩
      exact ⟨clash earlier file, ⟨before, file, earlier, hfirst, hone, rfl⟩, by rw [clash_message]⟩

/-! ### A manifest with a short form that repeats -/

namespace Sample

/-- The third file shares a short form with the first one; the second group expects nothing. -/
def sharing : ByteArray :=
  ("[\x7b\"type\":\"a\",\"files\":[\x7b\"filnavn\":\"x\",\"uuid\":\"ef-1\"\x7d]\x7d," ++
    "\x7b\"type\":\"b\"\x7d,\x7b\"type\":\"c\",\"filer\":[\x7b\"filnavn\":\"x\",\"uuid\":\"cd\"\x7d," ++
    "\x7b\"filnavn\":\"y\",\"uuid\":\"ef-2\"\x7d]\x7d]").toUTF8

def first : ExpectedFile := { originalFilename := "x", identifier := ⟨"ef-1", by decide⟩ }

def second : ExpectedFile := { originalFilename := "x", identifier := ⟨"cd", by decide⟩ }

def third : ExpectedFile := { originalFilename := "y", identifier := ⟨"ef-2", by decide⟩ }

def group (kind : String) (files : List ExpectedFile) : UploadGroup where
  info :=
    { kind, extraInfo := none, deadline := none, originEvent := none, originReference := none }
  files

def sharingGroups : List UploadGroup :=
  [group "a" [first], group "b" [], group "c" [second, third]]

theorem readGroups_sharing : readGroups sharing.data.toList = .ok sharingGroups := by
  decide +kernel

end Sample

theorem parseManifest_of_readGroups_shared :
    readGroups Sample.sharing.data.toList = .ok Sample.sharingGroups ∧
      parseManifest Sample.sharing =
        .error (.malformedManifest
          "identifiers 'ef-1' and 'ef-2' share the short form 'ef'") := by
  have hearliest : NoneWith RepeatsShortForm [Sample.first, Sample.second] :=
    noneWith_repeatsShortForm_iff.mpr (by decide)
  have hfirst : FirstWith RepeatsShortForm (expectedFiles Sample.sharingGroups)
      [Sample.first, Sample.second] Sample.third :=
    ⟨List.prefix_refl _, ⟨Sample.first, List.mem_cons_self, by decide⟩, hearliest⟩
  have hone : alike [Sample.first, Sample.second] Sample.third = [Sample.first] := by decide
  have herror := (parseManifest_of_readGroups Sample.readGroups_sharing).2.2
  exact ⟨Sample.readGroups_sharing,
    (herror _).mpr ⟨_, _, _, hfirst, hone, by decide⟩⟩

end AttachmentIntake
