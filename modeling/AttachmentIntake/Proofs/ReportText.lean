import AttachmentIntake.Batch.Prepared
import AttachmentIntake.Proofs.Basic
import AttachmentIntake.Proofs.Calendar
import AttachmentIntake.Proofs.JsonPrinting
import AttachmentIntake.Proofs.PartName

/-! What clients are given back for a batch. A report shows each file with its name, identifier,
outcome and category, under the metadata of its group, and its text shows nothing else; the summary
of a prepared batch leaves out no more than the content of the files. -/

namespace AttachmentIntake

open Json (Value isTextual areTextual_iff haveTextual_iff)
open Json.Value (isExact areExact_iff haveExact_iff)

/-! ### Values that show something -/

/-- The value under a name in an object. -/
def Json.Value.field? (v : Value) (name : String) : Option Value :=
  match v with
  | .object entries => entries.lookup name
  | _ => none

/-- Under a name there is a list that shows these, each in its place. -/
def Json.Value.Lists {α : Type} (shown : α → Value → Prop) (v : Value) (name : String)
    (as : List α) : Prop :=
  ∃ items, v.field? name = some (.array items) ∧ List.Forall₂ shown as items

structure GroupInfo.ShownBy (info : GroupInfo) (v : Value) : Prop where
  kind : v.field? "type" = some (.text info.kind)
  extraInfo : v.field? "extra_info" = some (Json.ofOption .text info.extraInfo)
  deadline : v.field? "submission_deadline" =
    some (Json.ofOption (fun d => .text d.text) info.deadline)
  originEvent : v.field? "origin_event_type" =
    some (Json.ofOption (fun e => .text e.name) info.originEvent)
  originReference : v.field? "origin_event_reference" =
    some (Json.ofOption .text info.originReference)

structure FileVerdict.ShownBy (f : FileVerdict) (v : Value) : Prop where
  filename : v.field? "filename" = some (.text f.filename)
  identifier : v.field? "identifier" = some (.text f.identifier.text)
  outcome : v.field? "outcome" = some (.text f.outcome.name)
  category : v.field? "category" = some (.text f.category.name)

structure GroupVerdict.ShownBy (g : GroupVerdict) (v : Value) : Prop where
  info : g.info.ShownBy v
  files : v.Lists FileVerdict.ShownBy "files" g.files

def Report.ShownBy (r : Report) (v : Value) : Prop := v.Lists GroupVerdict.ShownBy "groups" r.groups

structure PreparedFile.ShownBy (f : PreparedFile) (v : Value) : Prop where
  finalFilename : v.field? "final_filename" = some (.text f.finalFilename)
  mimeType : v.field? "mimetype" = some (.text f.mimeType)
  size : v.field? "size" = some (.integer f.size)
  identifier : v.field? "identifier" = some (.text f.identifier.text)
  sha512 : v.field? "sha512" = some (.text f.sha512)

structure PreparedGroup.ShownBy (g : PreparedGroup) (v : Value) : Prop where
  info : g.info.ShownBy v
  files : v.Lists PreparedFile.ShownBy "files" g.files

def PreparedBatch.ShownBy (b : PreparedBatch) (v : Value) : Prop :=
  v.Lists PreparedGroup.ShownBy "groups" b.groups

/-! ### What is shown by the values that are printed -/

theorem Json.Value.lists_map {α : Type} {shown : α → Value → Prop} {f : α → Value}
    (h : ∀ a, shown a (f a)) {v : Value} {name : String} {as : List α}
    (hfield : v.field? name = some (.array (as.map f))) : v.Lists shown name as :=
  ⟨_, hfield, List.forall₂_map_right_iff.mpr (List.forall₂_same.mpr fun a _ => h a)⟩

theorem GroupInfo.shownBy_object (info : GroupInfo) (more : List (String × Value)) :
    info.ShownBy (.object (info.entries ++ more)) := ⟨rfl, rfl, rfl, rfl, rfl⟩

theorem FileVerdict.shownBy_toJson (f : FileVerdict) : f.ShownBy f.toJson := ⟨rfl, rfl, rfl, rfl⟩

theorem GroupVerdict.shownBy_toJson (g : GroupVerdict) : g.ShownBy g.toJson where
  info := g.info.shownBy_object _
  files := Json.Value.lists_map FileVerdict.shownBy_toJson rfl

theorem Report.shownBy_toJson (r : Report) : r.ShownBy r.toJson :=
  Json.Value.lists_map GroupVerdict.shownBy_toJson rfl

theorem PreparedFile.shownBy_toJson (f : PreparedFile) : f.ShownBy f.toJson :=
  ⟨rfl, rfl, rfl, rfl, rfl⟩

theorem PreparedGroup.shownBy_toJson (g : PreparedGroup) : g.ShownBy g.toJson where
  info := g.info.shownBy_object _
  files := Json.Value.lists_map PreparedFile.shownBy_toJson rfl

theorem PreparedBatch.shownBy_toJson (b : PreparedBatch) : b.ShownBy b.toJson :=
  Json.Value.lists_map PreparedGroup.shownBy_toJson rfl

/-! ### Nothing else is shown -/

theorem Json.ofOption_text_inj {α : Type} {f : α → String} (hinj : ∀ {a b}, f a = f b → a = b)
    {o o' : Option α}
    (h : Json.ofOption (fun a => .text (f a)) o = Json.ofOption (fun a => .text (f a)) o') :
    o = o' := by
  cases o <;> cases o' <;> simp only [Json.ofOption, Value.text.injEq, reduceCtorEq] at h
  · rfl
  · rw [hinj h]

theorem Json.Value.Lists.related {α : Type} {shown : α → Value → Prop} {r : α → α → Prop}
    {v : Value} {name : String} {as bs : List α} (h : v.Lists shown name as)
    (h' : v.Lists shown name bs) (hr : ∀ {a b v}, shown a v → shown b v → r a b) :
    List.Forall₂ r as bs := by
  obtain ⟨items, hitems, has⟩ := h
  obtain ⟨items', hitems', hbs⟩ := h'
  rw [hitems, Option.some.injEq, Value.array.injEq] at hitems'
  subst hitems'
  clear hitems
  induction has generalizing bs with
  | nil =>
    cases hbs
    exact .nil
  | cons ha _ ih =>
    cases hbs with
    | cons hb hrest => exact .cons (hr ha hb) (ih hrest)

theorem text_eq_of_field? {v : Value} {name s s' : String} (h : v.field? name = some (.text s))
    (h' : v.field? name = some (.text s')) : s = s' := by
  rw [h, Option.some.injEq, Value.text.injEq] at h'
  exact h'

theorem OriginEvent.name_inj {e e' : OriginEvent} (h : e.name = e'.name) : e = e' := by
  cases e <;> cases e' <;> simp_all [name]

theorem Outcome.name_inj {o o' : Outcome} (h : o.name = o'.name) : o = o' := by
  cases o <;> cases o' <;> simp_all [name]

theorem Category.name_inj {c c' : Category} (h : c.name = c'.name) : c = c' := by
  cases c <;> cases c' <;> simp_all [name]

theorem Date.text_inj {d d' : Date} (h : d.text = d'.text) : d = d' := by
  have hparse := d.parse_text
  rw [h, d'.parse_text] at hparse
  exact (Except.ok.inj hparse).symm

theorem GroupInfo.ShownBy.unique {info info' : GroupInfo} {v : Value} (h : info.ShownBy v)
    (h' : info'.ShownBy v) : info = info' := by
  have hextra := Option.some.inj (h.extraInfo.symm.trans h'.extraInfo)
  have hdeadline := Option.some.inj (h.deadline.symm.trans h'.deadline)
  have hevent := Option.some.inj (h.originEvent.symm.trans h'.originEvent)
  have hreference := Option.some.inj (h.originReference.symm.trans h'.originReference)
  obtain ⟨kind, extra, deadline, event, reference⟩ := info
  obtain ⟨kind', extra', deadline', event', reference'⟩ := info'
  rw [GroupInfo.mk.injEq]
  exact ⟨text_eq_of_field? h.kind h'.kind,
    Json.ofOption_text_inj id hextra, Json.ofOption_text_inj Date.text_inj hdeadline,
    Json.ofOption_text_inj OriginEvent.name_inj hevent, Json.ofOption_text_inj id hreference⟩

theorem FileVerdict.ShownBy.unique {f f' : FileVerdict} {v : Value} (h : f.ShownBy v)
    (h' : f'.ShownBy v) : f = f' := by
  obtain ⟨filename, identifier, outcome, category⟩ := f
  obtain ⟨filename', identifier', outcome', category'⟩ := f'
  rw [FileVerdict.mk.injEq]
  exact ⟨text_eq_of_field? h.filename h'.filename,
    Identifier.text_inj.mp (text_eq_of_field? h.identifier h'.identifier),
    Outcome.name_inj (text_eq_of_field? h.outcome h'.outcome),
    Category.name_inj (text_eq_of_field? h.category h'.category)⟩

theorem GroupVerdict.ShownBy.unique {g g' : GroupVerdict} {v : Value} (h : g.ShownBy v)
    (h' : g'.ShownBy v) : g = g' := by
  have hinfo := h.info.unique h'.info
  have hfiles := h.files.related h'.files FileVerdict.ShownBy.unique
  rw [List.forall₂_eq_eq_eq] at hfiles
  obtain ⟨info, files⟩ := g
  obtain ⟨info', files'⟩ := g'
  rw [GroupVerdict.mk.injEq]
  exact ⟨hinfo, hfiles⟩

theorem Report.ShownBy.unique {r r' : Report} {v : Value} (h : r.ShownBy v) (h' : r'.ShownBy v) :
    r = r' := by
  have hgroups := Json.Value.Lists.related h h' GroupVerdict.ShownBy.unique
  rw [List.forall₂_eq_eq_eq] at hgroups
  obtain ⟨groups⟩ := r
  obtain ⟨groups'⟩ := r'
  rw [Report.mk.injEq]
  exact hgroups

/-! #### Summaries -/

/-- A file without its content. -/
def PreparedFile.bare (f : PreparedFile) : PreparedFile := { f with data := .empty }

def PreparedBatch.bare (b : PreparedBatch) : PreparedBatch :=
  { groups := b.groups.map fun g => { g with files := g.files.map PreparedFile.bare } }

theorem PreparedFile.ShownBy.unique {f f' : PreparedFile} {v : Value} (h : f.ShownBy v)
    (h' : f'.ShownBy v) : f.bare = f'.bare := by
  have hsize := Option.some.inj (h.size.symm.trans h'.size)
  obtain ⟨finalFilename, mimeType, size, identifier, sha512, data⟩ := f
  obtain ⟨finalFilename', mimeType', size', identifier', sha512', data'⟩ := f'
  rw [PreparedFile.bare, PreparedFile.bare, PreparedFile.mk.injEq]
  exact ⟨text_eq_of_field? h.finalFilename h'.finalFilename,
    text_eq_of_field? h.mimeType h'.mimeType, Int.ofNat.inj (Value.integer.inj hsize),
    Identifier.text_inj.mp (text_eq_of_field? h.identifier h'.identifier),
    text_eq_of_field? h.sha512 h'.sha512, rfl⟩

theorem PreparedGroup.ShownBy.unique {g g' : PreparedGroup} {v : Value} (h : g.ShownBy v)
    (h' : g'.ShownBy v) : ({ g with files := g.files.map PreparedFile.bare } : PreparedGroup) =
      { g' with files := g'.files.map PreparedFile.bare } := by
  have hfiles := h.files.related h'.files PreparedFile.ShownBy.unique
  rw [PreparedGroup.mk.injEq]
  exact ⟨h.info.unique h'.info, map_eq_map_of_related hfiles fun _ _ hf => hf⟩

/-- But for the content of the files, a summary shows all of a prepared batch. -/
theorem PreparedBatch.ShownBy.unique {b b' : PreparedBatch} {v : Value} (h : b.ShownBy v)
    (h' : b'.ShownBy v) : b.bare = b'.bare := by
  have hgroups := Json.Value.Lists.related h h' PreparedGroup.ShownBy.unique
  rw [PreparedBatch.bare, PreparedBatch.bare, PreparedBatch.mk.injEq]
  exact map_eq_map_of_related hgroups fun _ _ hg => hg

/-! ### The text of a value

Reports are made of texts alone, so their text is a spelling of them. The only numbers in summaries
are integers, so the text of either determines it. -/

/-- Holds of `null` and of texts, and of collections of what it holds of. -/
structure Json.Value.Closed (p : Value → Prop) : Prop where
  null : p .null
  text (s : String) : p (.text s)
  array {items : List Value} (h : ∀ v ∈ items, p v) : p (.array items)
  object {entries : List (String × Value)} (h : ∀ e ∈ entries, p e.2) : p (.object entries)

open Json.Value (Closed)

theorem closed_isTextual : Closed fun v => isTextual v = true where
  null := rfl
  text _ := rfl
  array h := by
    rw [isTextual]
    exact areTextual_iff.mpr h
  object h := by
    rw [isTextual]
    exact haveTextual_iff.mpr h

theorem closed_isExact : Closed fun v => isExact v = true where
  null := rfl
  text _ := rfl
  array h := by
    rw [isExact]
    exact areExact_iff.mpr h
  object h := by
    rw [isExact]
    exact haveExact_iff.mpr h

section Closed

variable {p : Value → Prop} (hp : Closed p)
include hp

theorem closed_ofOption {α : Type} {f : α → Value} (h : ∀ a, p (f a)) (o : Option α) :
    p (Json.ofOption f o) := by
  cases o with
  | none => exact hp.null
  | some a => exact h a

theorem closed_entries (info : GroupInfo) : ∀ e ∈ info.entries, p e.2 := by
  intro e he
  simp only [GroupInfo.entries, List.mem_cons, List.not_mem_nil, or_false] at he
  rcases he with rfl | rfl | rfl | rfl | rfl
  · exact hp.text _
  all_goals exact closed_ofOption hp (fun _ => hp.text _) _

theorem closed_group (info : GroupInfo) {files : List Value} (h : ∀ v ∈ files, p v) :
    p (.object (info.entries ++ [("files", .array files)])) :=
  hp.object (List.forall_mem_append.mpr
    ⟨closed_entries hp info, List.forall_mem_singleton.mpr (hp.array h)⟩)

theorem closed_groups {α : Type} {f : α → Value} (h : ∀ a, p (f a)) (groups : List α) :
    p (.object [("groups", .array (groups.map f))]) :=
  hp.object (List.forall_mem_singleton.mpr
    (hp.array (List.forall_mem_map.mpr fun a _ => h a)))

theorem closed_report (r : Report) : p r.toJson := by
  refine closed_groups hp (fun g => ?_) r.groups
  refine closed_group hp g.info (List.forall_mem_map.mpr fun f _ => hp.object ?_)
  simp [hp.text]

theorem closed_summary (hinteger : ∀ n, p (.integer n)) (b : PreparedBatch) : p b.toJson := by
  refine closed_groups hp (fun g => ?_) b.groups
  refine closed_group hp g.info (List.forall_mem_map.mpr fun f _ => hp.object ?_)
  simp [hp.text, hinteger]

end Closed

@[simp] theorem Report.isTextual_toJson (r : Report) : isTextual r.toJson = true :=
  closed_report closed_isTextual r

@[simp] theorem Report.isExact_toJson (r : Report) : isExact r.toJson = true :=
  closed_report closed_isExact r

@[simp] theorem PreparedBatch.isExact_toJson (b : PreparedBatch) : isExact b.toJson = true :=
  closed_summary closed_isExact (fun _ => rfl) b

/-- A report with a rejected file in it has an entry that no summary has. -/
theorem Report.toJson_ne {r : Report} (h : r.rejectedFiles ≠ []) (b : PreparedBatch) :
    r.toJson ≠ b.toJson := by
  obtain ⟨⟨info, file⟩, hrejected⟩ := List.exists_mem_of_ne_nil _ h
  obtain ⟨group, hgroup, hmem⟩ := List.mem_flatMap.mp hrejected
  obtain ⟨file, hfile, -⟩ := List.mem_map.mp hmem
  intro heq
  simp only [Report.toJson, PreparedBatch.toJson, Json.Value.object.injEq, List.cons.injEq,
    Prod.mk.injEq, Json.Value.array.injEq, and_true, true_and] at heq
  have hin : group.toJson ∈ b.groups.map PreparedGroup.toJson :=
    heq ▸ List.mem_map_of_mem hgroup
  obtain ⟨other, -, hsame⟩ := List.mem_map.mp hin
  rw [PreparedGroup.toJson, GroupVerdict.toJson, Json.Value.object.injEq] at hsame
  have hfiles := (List.append_inj' hsame rfl).2
  simp only [List.cons.injEq, Prod.mk.injEq, Json.Value.array.injEq, and_true, true_and] at hfiles
  have hin : file.toJson ∈ other.files.map PreparedFile.toJson :=
    hfiles ▸ List.mem_map_of_mem (List.mem_of_mem_filter hfile)
  obtain ⟨prepared, -, hsame⟩ := List.mem_map.mp hin
  simp [PreparedFile.toJson, FileVerdict.toJson] at hsame

end AttachmentIntake
