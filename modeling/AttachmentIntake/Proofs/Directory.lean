import AttachmentIntake.Pipeline
import AttachmentIntake.Proofs.Utf8Lossy
import Mathlib.Data.List.Nodup
import Mathlib.Data.List.Perm.Basic
import Mathlib.Data.String.Basic

/-! A batch read from a directory. The parts are the regular files in the order of their names, so
the order in which the directory is listed decides nothing unless two names are read as one. -/

namespace AttachmentIntake.Directory

def Entry.IsFile (entry : Entry) : Prop := ∃ data, entry.content = .file data

instance (entry : Entry) : Decidable entry.IsFile :=
  match h : entry.content with
  | .file data => .isTrue ⟨data, h⟩
  | .directory => .isFalse fun ⟨_, hfile⟩ => nomatch h.symm.trans hfile
  | .link => .isFalse fun ⟨_, hfile⟩ => nomatch h.symm.trans hfile

/-- The part is the regular file: its bytes, under its name as far as that is text. -/
structure Carries (entry : Entry) (part : Part) : Prop where
  content : entry.content = .file part.data
  filename : Text.Utf8.Lossy entry.name part.filename.toList
  contentType : part.contentType = none

/-- No two regular files are read under one name. -/
def Distinct (entries : List Entry) : Prop :=
  entries.Pairwise fun a b => a.IsFile → b.IsFile →
    ∀ name, Text.Utf8.Lossy a.name name → ¬ Text.Utf8.Lossy b.name name

variable {entry : Entry} {part : Part} {entries entries' : List Entry}

/-! ### Single entries -/

theorem part?_eq_some_iff : part? entry = some part ↔ Carries entry part := by
  constructor
  · intro h
    unfold part? at h
    split at h
    next data hfile =>
      cases h
      refine ⟨hfile, ?_, rfl⟩
      rw [String.toList_ofList]
      exact Text.Utf8.lossy_decodeLossy entry.name
    all_goals cases h
  · intro h
    obtain ⟨filename, contentType, data⟩ := part
    obtain ⟨hfile, hname, rfl⟩ := h
    simp only [part?, hfile, Text.Utf8.decodeLossy_eq_iff.mpr hname, String.ofList_toList]

theorem Carries.isFile (h : Carries entry part) : entry.IsFile := ⟨part.data, h.content⟩

theorem exists_part (h : entry.IsFile) : ∃ part, part? entry = some part := by
  obtain ⟨data, hfile⟩ := h
  rw [part?, hfile]
  exact ⟨_, rfl⟩

theorem forall₂_filterMap (entries : List Entry) :
    List.Forall₂ Carries (entries.filter (·.IsFile)) (entries.filterMap part?) := by
  induction entries with
  | nil => exact .nil
  | cons entry entries ih =>
    by_cases h : entry.IsFile
    · obtain ⟨part, hpart⟩ := exists_part h
      have hkept := decide_eq_true h
      rw [List.filter_cons, if_pos hkept, List.filterMap_cons_some hpart]
      exact .cons (part?_eq_some_iff.mp hpart) ih
    · have hnone : part? entry = none := by
        rw [Option.eq_none_iff_forall_ne_some]
        exact fun part hpart => h (part?_eq_some_iff.mp hpart).isFile
      have hleft : ¬ decide entry.IsFile = true := by rwa [decide_eq_true_eq]
      rw [List.filter_cons, if_neg hleft, List.filterMap_cons_none hnone]
      exact ih

/-! ### Sorting -/

theorem parts_perm (entries : List Entry) : (parts entries).Perm (entries.filterMap part?) :=
  List.mergeSort_perm _ _

theorem pairwise_parts (entries : List Entry) :
    (parts entries).Pairwise fun a b => a.filename ≤ b.filename := by
  have hsorted : (parts entries).Pairwise fun a b => decide (a.filename ≤ b.filename) = true :=
    List.pairwise_mergeSort
      (fun a b c hab hbc => decide_eq_true ((of_decide_eq_true hab).trans (of_decide_eq_true hbc)))
      (fun a b => by simpa using le_total a.filename b.filename) _
  simpa only [decide_eq_true_eq] using hsorted

theorem exists_files (entries : List Entry) : ∃ files : List Entry,
    files.Perm (entries.filter (·.IsFile)) ∧ List.Forall₂ Carries files (parts entries) := by
  obtain ⟨files, hcarries, hperm⟩ :=
    List.perm_comp_forall₂ (parts_perm entries) (forall₂_filterMap entries).flip
  exact ⟨files, hperm, hcarries.flip⟩

theorem nodup_filenames (h : Distinct entries) :
    ((entries.filterMap part?).map Part.filename).Nodup := by
  rw [List.Nodup, List.pairwise_map, List.pairwise_filterMap]
  refine h.imp fun hne part hpart part' hpart' heq => ?_
  rw [part?_eq_some_iff] at hpart hpart'
  have hname := hpart'.filename
  rw [← heq] at hname
  exact hne hpart.isFile hpart'.isFile _ hpart.filename hname

/-- Sorting forgets the order of the entries, as no two parts have one key. -/
theorem parts_eq_of_perm (hperm : entries.Perm entries') (h : Distinct entries) :
    parts entries = parts entries' := by
  have hsame : (entries.filterMap part?).Perm (entries'.filterMap part?) := hperm.filterMap part?
  refine List.Perm.eq_of_pairwise (fun a b ha hb hab hba => ?_) (pairwise_parts entries)
    (pairwise_parts entries')
    ((parts_perm entries).trans (hsame.trans (parts_perm entries').symm))
  have ha : a ∈ entries.filterMap part? := (parts_perm entries).mem_iff.mp ha
  have hb : b ∈ entries.filterMap part? := hsame.mem_iff.mpr ((parts_perm entries').mem_iff.mp hb)
  exact List.inj_on_of_nodup_map (nodup_filenames h) ha hb (le_antisymm hab hba)

/-- The parts are the regular files and nothing else, in the order of the bytes of their names. As
long as no two regular files are read under one name, a directory that is listed in another order
gives the same parts, and so the same batch. -/
theorem parts_reproducible (entries : List Entry) :
    (∃ files : List Entry, files.Perm (entries.filter (·.IsFile)) ∧
      List.Forall₂ Carries files (parts entries)) ∧
    ((parts entries).Pairwise fun a b =>
      Text.Utf8.encode a.filename.toList ≤ Text.Utf8.encode b.filename.toList) ∧
    ∀ entries', entries.Perm entries' → Distinct entries →
      parts entries = parts entries' ∧
      ∀ {m : Type → Type} [Monad m] (p : Pipeline m),
        p.process (parts entries) = p.process (parts entries') := by
  refine ⟨exists_files entries, ?_, fun entries' hperm hdistinct => ?_⟩
  · exact (pairwise_parts entries).imp fun hle =>
      fun hlt => hle (String.lt_iff.mpr (Text.Utf8.encode_lt_encode_iff.mp hlt))
  · have hparts := parts_eq_of_perm hperm hdistinct
    refine ⟨hparts, fun p => ?_⟩
    rw [hparts]

namespace Sample

/-- A file with a name that is text as far as its last byte. -/
def damaged : Entry := ⟨Text.Utf8.encode ['b'] ++ [0xFF], .file ⟨#[0x25, 0x50, 0x44, 0x46]⟩⟩

def named : Entry := ⟨Text.Utf8.encode ['a'], .file ⟨#[]⟩⟩

def nested : Entry := ⟨Text.Utf8.encode ['a'], .directory⟩

theorem distinct : Distinct [nested, damaged, named] := by
  have hnested : ¬ nested.IsFile := nofun
  have hnames : ∀ name, Text.Utf8.Lossy damaged.name name → ¬ Text.Utf8.Lossy named.name name := by
    intro name hdamaged hnamed
    obtain ⟨rest, rfl, -⟩ := hdamaged.of_encode_append
    have hread := Text.Utf8.decodeLossy_eq_iff.mpr hnamed
    rw [named, Text.Utf8.decodeLossy_encode] at hread
    simp at hread
  refine .cons (fun _ _ hfile => absurd hfile hnested) (.cons ?_ (List.pairwise_singleton _ _))
  intro other hother _ _
  rw [List.mem_singleton.mp hother]
  exact hnames

end Sample

/-- A directory listed from its other end has the same parts. -/
theorem parts_reproducible_sample :
    parts [Sample.nested, Sample.damaged, Sample.named] =
      parts [Sample.named, Sample.nested, Sample.damaged] := by
  obtain ⟨-, -, hsame⟩ := parts_reproducible [Sample.nested, Sample.damaged, Sample.named]
  have hperm : ([Sample.nested, Sample.damaged] ++ [Sample.named]).Perm
      ([Sample.named] ++ [Sample.nested, Sample.damaged]) := List.perm_append_comm
  exact (hsame _ hperm Sample.distinct).1

end AttachmentIntake.Directory
