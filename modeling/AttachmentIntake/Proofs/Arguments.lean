import AttachmentIntake.CommandLine.Options
import Mathlib.Algebra.Ring.Nat
import Mathlib.Data.List.Induction

/-! The grammar of the command's arguments. They are read from the left, item by item: an option with
whatever word follows it, or a word of its own. Reading stops where no item stands, and what stands
there instead tells the message. -/

namespace AttachmentIntake

/-! ### Numbers in decimal digits -/

namespace Number

/-- The number is written in decimal digits, with or without a plus sign in front. -/
def Numeral (cs : List Char) (n : Nat) : Prop :=
  ∃ digits : List Char, (cs = digits ∨ cs = '+' :: digits) ∧ digits ≠ [] ∧
    (∀ c ∈ digits, c.isDigit = true) ∧ Nat.ofDigitChars 10 digits 0 = n

/-- A text without the plus sign in front. A plus sign alone is none, but a character like others. -/
def unsigned : List Char → List Char
  | '+' :: c :: rest => c :: rest
  | cs => cs

/-- Why a text is no number below a limit, by the first character at which it can be none. -/
inductive Misspelled (limit : Nat) (cs : List Char) : String → Prop
  | empty (nothing : cs = []) : Misspelled limit cs "cannot parse integer from empty string"
  | notADigit {before after : List Char} {c : Char} (cut : unsigned cs = before ++ c :: after)
    (digits : ∀ d ∈ before, d.isDigit = true) (below : Nat.ofDigitChars 10 before 0 < limit)
    (other : c.isDigit = false) : Misspelled limit cs "invalid digit found in string"
  | tooLarge {before after : List Char} {c : Char} (cut : unsigned cs = before ++ c :: after)
    (digits : ∀ d ∈ before ++ [c], d.isDigit = true)
    (below : Nat.ofDigitChars 10 before 0 < limit)
    (beyond : limit ≤ Nat.ofDigitChars 10 (before ++ [c]) 0) :
    Misspelled limit cs "number too large to fit in target type"

variable {limit value n : Nat} {c : Char} {cs before after : List Char}

theorem le_ofDigitChars (cs : List Char) (value : Nat) : value ≤ Nat.ofDigitChars 10 cs value := by
  induction cs generalizing value with
  | nil => exact Nat.le_refl _
  | cons c cs ih =>
    have hrest := ih (10 * value + (c.toNat - '0'.toNat))
    rw [Nat.ofDigitChars_cons]
    omega

theorem digitsBelow_cons_of_lt (hdigit : c.isDigit = true)
    (hlt : 10 * value + (c.toNat - '0'.toNat) < limit) :
    digitsBelow limit value (c :: cs) =
      digitsBelow limit (10 * value + (c.toNat - '0'.toNat)) cs := by
  rw [Nat.mul_comm] at hlt ⊢
  simp only [digitsBelow, hdigit, Bool.not_true, Bool.false_eq_true, if_false]
  exact if_pos hlt

/-- Digits are read as long as the number stays below the limit. -/
theorem digitsBelow_append (hdigits : ∀ c ∈ before, c.isDigit = true)
    (hlt : Nat.ofDigitChars 10 before value < limit) :
    digitsBelow limit value (before ++ after) =
      digitsBelow limit (Nat.ofDigitChars 10 before value) after := by
  induction before generalizing value with
  | nil => rfl
  | cons c before ih =>
    obtain ⟨hc, hbefore⟩ := List.forall_mem_cons.mp hdigits
    rw [Nat.ofDigitChars_cons] at hlt ⊢
    rw [List.cons_append, digitsBelow_cons_of_lt hc (Nat.lt_of_le_of_lt (le_ofDigitChars _ _) hlt),
      ih hbefore hlt]

theorem digitsBelow_of_not_digit (h : c.isDigit = false) :
    digitsBelow limit value (c :: cs) = .error .notADigit := by
  simp only [digitsBelow, h, Bool.not_false, if_true]

theorem digitsBelow_of_beyond (hdigit : c.isDigit = true)
    (hle : limit ≤ 10 * value + (c.toNat - '0'.toNat)) :
    digitsBelow limit value (c :: cs) = .error .tooLarge := by
  rw [Nat.mul_comm] at hle
  simp only [digitsBelow, hdigit, Bool.not_true, Bool.false_eq_true, if_false]
  exact if_neg (Nat.not_lt.mpr hle)

/-- Characters that are no number below the limit have a first one at which that shows. -/
theorem exists_fault (hvalue : value < limit) (cs : List Char) :
    ((∀ c ∈ cs, c.isDigit = true) ∧ Nat.ofDigitChars 10 cs value < limit) ∨
      ∃ before c after, cs = before ++ c :: after ∧ (∀ d ∈ before, d.isDigit = true) ∧
        Nat.ofDigitChars 10 before value < limit ∧
        (c.isDigit = true → limit ≤ Nat.ofDigitChars 10 (before ++ [c]) value) := by
  induction cs generalizing value with
  | nil => exact .inl ⟨nofun, hvalue⟩
  | cons c cs ih =>
    by_cases hc : c.isDigit = true ∧ 10 * value + (c.toNat - '0'.toNat) < limit
    · rcases ih hc.2 with ⟨hdigits, hlt⟩ | ⟨before, d, after, rfl, hdigits, hlt, hbad⟩
      · exact .inl ⟨List.forall_mem_cons.mpr ⟨hc.1, hdigits⟩, by rwa [Nat.ofDigitChars_cons]⟩
      · refine .inr ⟨c :: before, d, after, rfl, List.forall_mem_cons.mpr ⟨hc.1, hdigits⟩, ?_, ?_⟩
        · rwa [Nat.ofDigitChars_cons]
        · rwa [List.cons_append, Nat.ofDigitChars_cons]
    · refine .inr ⟨[], c, cs, rfl, nofun, hvalue, fun hdigit => ?_⟩
      exact Nat.not_lt.mp fun hlt => hc ⟨hdigit, hlt⟩

theorem naturalBelow_eq (h : cs ≠ []) :
    naturalBelow limit cs = digitsBelow limit 0 (unsigned cs) := by
  unfold naturalBelow unsigned
  split
  next => exact absurd rfl h
  next => rfl
  next _ hplus =>
    split
    next c rest _ => exact absurd rfl (hplus c rest)
    next => rfl

theorem unsigned_ne_nil (h : cs ≠ []) : unsigned cs ≠ [] := by
  unfold unsigned
  split
  next => exact List.cons_ne_nil _ _
  next => exact h

theorem numeral_iff : Numeral cs n ↔ unsigned cs ≠ [] ∧ (∀ c ∈ unsigned cs, c.isDigit = true) ∧
    Nat.ofDigitChars 10 (unsigned cs) 0 = n := by
  constructor
  · rintro ⟨_ | ⟨d, digits⟩, hcs, hne, hdigits, hn⟩
    · exact absurd rfl hne
    · have hsame : unsigned cs = d :: digits := by
        rcases hcs with rfl | rfl
        · -- a digit in front is no plus sign
          unfold unsigned
          split
          next c rest heq =>
            cases heq
            cases (List.forall_mem_cons.mp hdigits).1
          next => rfl
        · rfl
      exact hsame ▸ ⟨hne, hdigits, hn⟩
  · rintro ⟨hne, hdigits, hn⟩
    refine ⟨unsigned cs, ?_, hne, hdigits, hn⟩
    unfold unsigned
    split
    next => exact .inr rfl
    next => exact .inl rfl

theorem Numeral.eq {m : Nat} (hm : Numeral cs m) (hn : Numeral cs n) : m = n := by
  obtain ⟨-, -, rfl⟩ := numeral_iff.mp hm
  exact (numeral_iff.mp hn).2.2

theorem naturalBelow_of_numeral (h : Numeral cs n) (hlt : n < limit) :
    naturalBelow limit cs = .ok n := by
  obtain ⟨hne, hdigits, rfl⟩ := numeral_iff.mp h
  have hcs : cs ≠ [] := by
    rintro rfl
    exact hne rfl
  rw [naturalBelow_eq hcs, ← List.append_nil (unsigned cs), digitsBelow_append hdigits hlt,
    List.append_nil]
  rfl

theorem Misspelled.naturalBelow {reason : String} (h : Misspelled limit cs reason) :
    ∃ fault, naturalBelow limit cs = .error fault ∧ fault.message = reason := by
  have hcs {c : Char} {before after : List Char} (hcut : unsigned cs = before ++ c :: after) : cs ≠ [] := by
    rintro rfl
    simp [unsigned] at hcut
  cases h with
  | empty nothing => exact ⟨.empty, by rw [nothing]; rfl, rfl⟩
  | notADigit cut digits below other =>
    refine ⟨.notADigit, ?_, rfl⟩
    rw [naturalBelow_eq (hcs cut), cut, digitsBelow_append digits below,
      digitsBelow_of_not_digit other]
  | tooLarge cut digits below beyond =>
    obtain ⟨hbefore, hlast⟩ := List.forall_mem_append.mp digits
    have hc := hlast _ (List.mem_singleton_self _)
    rw [Nat.ofDigitChars_append] at beyond
    refine ⟨.tooLarge, ?_, rfl⟩
    rw [naturalBelow_eq (hcs cut), cut, digitsBelow_append hbefore below,
      digitsBelow_of_beyond hc beyond]

/-- A text writes a number below the limit, or there is a reason why it does not. -/
theorem numeral_or_misspelled (hlimit : 0 < limit) (cs : List Char) :
    (∃ n, Numeral cs n ∧ n < limit) ∨ ∃ reason, Misspelled limit cs reason := by
  by_cases hcs : cs = []
  · exact .inr ⟨_, .empty hcs⟩
  rcases exists_fault hlimit (unsigned cs) with ⟨hdigits, hlt⟩ | ⟨before, c, after, hcut, hrest⟩
  · exact .inl ⟨_, numeral_iff.mpr ⟨unsigned_ne_nil hcs, hdigits, rfl⟩, hlt⟩
  · obtain ⟨hdigits, hlt, hbeyond⟩ := hrest
    cases hc : c.isDigit with
    | false => exact .inr ⟨_, .notADigit hcut hdigits hlt hc⟩
    | true =>
      have hall : ∀ d ∈ before ++ [c], d.isDigit = true :=
        List.forall_mem_append.mpr ⟨hdigits, List.forall_mem_singleton.mpr hc⟩
      exact .inr ⟨_, .tooLarge hcut hall hlt (hbeyond hc)⟩

end Number

namespace CommandLine

/-! ### Items -/

/-- What stands on a command line: an option with its value, or a word of its own. -/
inductive Item where
  | url (value : String)
  | size (text : String) (bytes : Nat)
  | word (text : String)
  deriving DecidableEq

namespace Item

def words : Item → List String
  | .url value => ["--scanner-url", value]
  | .size text _ => ["--max-file-size", text]
  | .word text => [text]

/-- Every URL is taken, sizes are numbers of 64 bits, and no word begins with a dash. -/
inductive Allowed : Item → Prop
  | url (value : String) : Allowed (.url value)
  | size {text : String} {bytes : Nat} (written : Number.Numeral text.toList bytes)
    (le : bytes ≤ 2 ^ 64 - 1) : Allowed (.size text bytes)
  | word {text : String} (dash : text.toList.head? ≠ some '-') : Allowed (.word text)

def url? : Item → Option String
  | .url value => some value
  | .size .. | .word _ => none

def size? : Item → Option Nat
  | .size _ bytes => some bytes
  | .url _ | .word _ => none

def word? : Item → Option String
  | .word text => some text
  | .url _ | .size .. => none

end Item

/-- Behind these items no other one stands at the front of the arguments. The text is why. -/
inductive Stuck (items : List Item) : List String → String → Prop
  | noUrl : Stuck items ["--scanner-url"] "--scanner-url needs a value"
  | noSize : Stuck items ["--max-file-size"] "--max-file-size needs a value"
  | notSize {text reason : String} {rest : List String}
    (misspelled : Number.Misspelled (2 ^ 64) text.toList reason) :
    Stuck items ("--max-file-size" :: text :: rest)
      ("invalid --max-file-size '" ++ text ++ "': " ++ reason)
  | unknown {word : String} {rest : List String} (dash : word.toList.head? = some '-')
    (other : word ∉ ["--scanner-url", "--max-file-size"]) :
    Stuck items (word :: rest) ("unknown option '" ++ word ++ "'")
  | unexpected {word : String} {rest : List String} (dash : word.toList.head? ≠ some '-')
    (first : items.filterMap Item.word? ≠ []) :
    Stuck items (word :: rest) ("unexpected argument '" ++ word ++ "'")

/-- How arguments are read: as items with one word among them, of whose options the last ones count,
or up to the first place where no item stands, or as items without a word. -/
inductive Reading : List String → Except String Options → Prop
  | accepted {items : List Item} {o : Options} (allowed : ∀ item ∈ items, item.Allowed)
    (directory : items.filterMap Item.word? = [o.directory])
    (url : o.scannerUrl = (items.filterMap Item.url?).getLast?)
    (size : o.maxFileSize = (items.filterMap Item.size?).getLast?) :
    Reading (items.flatMap Item.words) (.ok o)
  | stuck {items : List Item} {rest : List String} {message : String}
    (allowed : ∀ item ∈ items, item.Allowed) (once : (items.filterMap Item.word?).length ≤ 1)
    (stuck : Stuck items rest message) :
    Reading (items.flatMap Item.words ++ rest) (.error message)
  | wordless {items : List Item} (allowed : ∀ item ∈ items, item.Allowed)
    (none : items.filterMap Item.word? = []) :
    Reading (items.flatMap Item.words) (.error "missing <batch_dir>")

namespace Options

variable {item : Item} {items more : List Item} {arguments rest : List String} {message : String}
  {p : Gathered} {o : Options}

/-- What an item adds to what was gathered before it. -/
def Gathered.add (p : Gathered) : Item → Gathered
  | .url value => { p with scannerUrl := some value }
  | .size _ bytes => { p with maxFileSize := some bytes }
  | .word text => { p with directory := some text }

/-- What items give. -/
def gathered (items : List Item) : Gathered := items.foldl Gathered.add .nothing

theorem gathered_append (items more : List Item) :
    gathered (items ++ more) = more.foldl Gathered.add (gathered items) :=
  List.foldl_append

theorem gathered_eq (items : List Item) : gathered items =
    ⟨(items.filterMap Item.word?).getLast?, (items.filterMap Item.url?).getLast?,
      (items.filterMap Item.size?).getLast?⟩ := by
  induction items using List.reverseRecOn with
  | nil => rfl
  | append_singleton items item ih =>
    rw [gathered_append, List.foldl_cons, List.foldl_nil, ih]
    cases item <;>
      simp [Gathered.add, Item.word?, Item.url?, Item.size?, List.filterMap_append]

/-! ### One item -/

theorem parseFrom_url (value : String) :
    parseFrom p ("--scanner-url" :: value :: rest) =
      parseFrom { p with scannerUrl := some value } rest := rfl

theorem parseFrom_size (text : String) :
    parseFrom p ("--max-file-size" :: text :: rest) =
      match Number.naturalBelow sizeLimit text.toList with
      | .ok size => parseFrom { p with maxFileSize := some size } rest
      | .error fault => .error (.invalidSize text fault) := rfl

theorem parseFrom_word {word : String} (h : word ∉ ["--scanner-url", "--max-file-size"]) :
    parseFrom p (word :: rest) =
      match p.word word with
      | .ok p => parseFrom p rest
      | .error fault => .error fault := by
  simp only [List.mem_cons, List.not_mem_nil, or_false, not_or] at h
  rw [parseFrom.eq_def]
  exact (if_neg h.1).trans (if_neg h.2)

theorem not_option_of_head? {word : String} (h : word.toList.head? ≠ some '-') :
    word ∉ ["--scanner-url", "--max-file-size"] := by
  simp only [List.mem_cons, List.not_mem_nil, or_false, not_or]
  constructor
  · rintro rfl
    exact h (by decide)
  · rintro rfl
    exact h (by decide)

/-- An item is read off the front; a word only if there was none before it. -/
theorem parseFrom_item (h : item.Allowed) (hword : item.word? ≠ none → p.directory = none) :
    parseFrom p (item.words ++ rest) = parseFrom (p.add item) rest := by
  cases h with
  | url value => exact parseFrom_url value
  | @size text bytes written le =>
    have hlt : bytes < sizeLimit := Nat.lt_of_le_of_lt le (by decide)
    rw [Item.words, List.cons_append, List.singleton_append, parseFrom_size,
      Number.naturalBelow_of_numeral written hlt]
    rfl
  | @word text dash =>
    have htaken : p.word text = .ok (p.add (.word text)) := by
      rw [Gathered.word, if_neg dash, hword nofun]
      rfl
    rw [Item.words, List.singleton_append, parseFrom_word (not_option_of_head? dash), htaken]

/-- Where no item stands, reading ends with the message that tells why. -/
theorem parseFrom_stuck (h : Stuck items rest message) :
    ∃ fault, parseFrom (gathered items) rest = .error fault ∧ fault.message = message := by
  cases h with
  | noUrl => exact ⟨.missingValue urlOption, rfl, rfl⟩
  | noSize => exact ⟨.missingValue sizeOption, rfl, rfl⟩
  | @notSize text reason rest misspelled =>
    obtain ⟨fault, hread, rfl⟩ := misspelled.naturalBelow
    have hlimit : sizeLimit = 2 ^ 64 := rfl
    refine ⟨.invalidSize text fault, ?_, rfl⟩
    rw [parseFrom_size, hlimit, hread]
  | unknown dash other =>
    refine ⟨.unknownOption _, ?_, rfl⟩
    rw [parseFrom_word other, Gathered.word, if_pos dash]
  | unexpected dash first =>
    refine ⟨.unexpectedArgument _, ?_, rfl⟩
    have hsome : (gathered items).directory.isSome = true := by
      rw [gathered_eq]
      exact List.getLast?_isSome.mpr first
    rw [parseFrom_word (not_option_of_head? dash), Gathered.word, if_neg dash, if_pos hsome]

theorem item_or_stuck (items : List Item) (h : rest ≠ []) :
    (∃ (item : Item) (more : List String), rest = item.words ++ more ∧ item.Allowed ∧
      (item.word? ≠ none → items.filterMap Item.word? = [])) ∨
      ∃ message, Stuck items rest message := by
  obtain ⟨word, tail, rfl⟩ := List.exists_cons_of_ne_nil h
  by_cases hurl : word = "--scanner-url"
  · subst hurl
    cases tail with
    | nil => exact .inr ⟨_, .noUrl⟩
    | cons value more => exact .inl ⟨.url value, more, rfl, .url value, nofun⟩
  by_cases hsize : word = "--max-file-size"
  · subst hsize
    cases tail with
    | nil => exact .inr ⟨_, .noSize⟩
    | cons text more =>
      have hlimit : 0 < 2 ^ 64 := by decide
      rcases Number.numeral_or_misspelled hlimit text.toList with
        ⟨bytes, hwritten, hlt⟩ | ⟨reason, hreason⟩
      · exact .inl ⟨.size text bytes, more, rfl, .size hwritten (Nat.le_sub_one_of_lt hlt), nofun⟩
      · exact .inr ⟨_, .notSize hreason⟩
  by_cases hdash : word.toList.head? = some '-'
  · exact .inr ⟨_, .unknown hdash (by simp [hurl, hsize])⟩
  by_cases hfirst : items.filterMap Item.word? = []
  · exact .inl ⟨.word word, tail, rfl, .word hdash, fun _ => hfirst⟩
  · exact .inr ⟨_, .unexpected hdash hfirst⟩

/-! ### Whole lists of arguments -/

@[simp] theorem words_ne_nil (item : Item) : item.words ≠ [] := by
  cases item <;> exact List.cons_ne_nil _ _

theorem once_of_append (h : ((items ++ [item]).filterMap Item.word?).length ≤ 1) :
    (items.filterMap Item.word?).length ≤ 1 ∧
      (item.word? ≠ none → items.filterMap Item.word? = []) := by
  rw [List.filterMap_append, List.length_append] at h
  refine ⟨by omega, fun hword => ?_⟩
  obtain ⟨word, hword⟩ := Option.ne_none_iff_exists'.mp hword
  rw [List.filterMap_cons_some hword, List.filterMap_nil, List.length_singleton] at h
  exact List.length_eq_zero_iff.mp (by omega)

/-- Items are read one by one, whatever follows them. -/
theorem parse_items (hallowed : ∀ item ∈ items, item.Allowed)
    (honce : (items.filterMap Item.word?).length ≤ 1) (rest : List String) :
    parse (items.flatMap Item.words ++ rest) = parseFrom (gathered items) rest := by
  induction items using List.reverseRecOn generalizing rest with
  | nil => rfl
  | append_singleton items item ih =>
    obtain ⟨honce, hword⟩ := once_of_append honce
    obtain ⟨hitems, hitem⟩ := List.forall_mem_append.mp hallowed
    have hfree : item.word? ≠ none → (gathered items).directory = none := by
      intro h
      rw [gathered_eq, hword h]
      rfl
    rw [List.flatMap_append, List.flatMap_singleton, List.append_assoc, ih hitems honce,
      parseFrom_item (hitem item (List.mem_singleton_self _)) hfree, gathered_append]
    rfl

theorem parse_of_reading {result : Except String Options} (h : Reading arguments result) :
    (parse arguments).mapError ArgumentFault.message = result := by
  cases h with
  | @accepted items o allowed directory url size =>
    have hread := parse_items allowed (by rw [directory]; exact Nat.le_refl 1) []
    rw [List.append_nil, gathered_eq, directory, ← url, ← size] at hread
    rw [hread]
    rfl
  | stuck allowed once stuck =>
    obtain ⟨fault, hread, rfl⟩ := parseFrom_stuck stuck
    rw [parse_items allowed once, hread]
    rfl
  | @wordless items allowed none =>
    have hread := parse_items allowed (by rw [none]; exact Nat.zero_le 1) []
    rw [List.append_nil, gathered_eq, none] at hread
    rw [hread]
    rfl

theorem reading_items (hallowed : ∀ item ∈ items, item.Allowed)
    (honce : (items.filterMap Item.word?).length ≤ 1) :
    ∃ result, Reading (items.flatMap Item.words) result := by
  rcases hwords : items.filterMap Item.word? with _ | ⟨directory, _ | ⟨second, words⟩⟩
  · exact ⟨_, .wordless hallowed hwords⟩
  · exact ⟨.ok ⟨directory, _, _⟩, .accepted hallowed hwords rfl rfl⟩
  · rw [hwords] at honce
    simp at honce

/-- Items go on until the arguments end or no item stands at the front. -/
theorem exists_reading_append (items : List Item) (rest : List String)
    (hallowed : ∀ item ∈ items, item.Allowed)
    (honce : (items.filterMap Item.word?).length ≤ 1) :
    ∃ result, Reading (items.flatMap Item.words ++ rest) result := by
  by_cases hrest : rest = []
  · rw [hrest, List.append_nil]
    exact reading_items hallowed honce
  rcases item_or_stuck items hrest with ⟨item, more, hcut, hitem, hword⟩ | ⟨message, hstuck⟩
  · rw [hcut]
    have hallowed : ∀ i ∈ items ++ [item], i.Allowed :=
      List.forall_mem_append.mpr ⟨hallowed, List.forall_mem_singleton.mpr hitem⟩
    have honce : ((items ++ [item]).filterMap Item.word?).length ≤ 1 := by
      rw [List.filterMap_append, List.length_append]
      cases hfound : item.word? with
      | none => simpa [hfound] using honce
      | some word => simp [hfound, hword (by simp [hfound])]
    obtain ⟨result, h⟩ := exists_reading_append (items ++ [item]) more hallowed honce
    rw [List.flatMap_append, List.flatMap_singleton, List.append_assoc] at h
    exact ⟨result, h⟩
  · exact ⟨_, .stuck hallowed honce hstuck⟩
termination_by rest.length
decreasing_by
  have hpos := List.length_pos_iff.mpr (words_ne_nil item)
  rw [hcut, List.length_append]
  omega

/-- Arguments are read in one way only. -/
theorem parse_eq_iff {result : Except String Options} :
    (parse arguments).mapError ArgumentFault.message = result ↔ Reading arguments result := by
  constructor
  · rintro rfl
    obtain ⟨result, h⟩ := exists_reading_append [] arguments nofun (Nat.zero_le 1)
    rw [List.flatMap_nil, List.nil_append] at h
    exact parse_of_reading h ▸ h
  · exact parse_of_reading

/-! ### One reading -/

/-- What an item begins with tells where it ends. -/
theorem words_append_inj {other : Item} {rest' : List String} (h : item.Allowed)
    (h' : other.Allowed) (heq : item.words ++ rest = other.words ++ rest') :
    item = other ∧ rest = rest' := by
  have hdash : ∀ {text : String}, text.toList.head? ≠ some '-' → text ≠ "--scanner-url" ∧
      text ≠ "--max-file-size" := by
    intro text htext
    simpa using not_option_of_head? htext
  cases h with
  | url value =>
    cases h' with
    | url value' => simpa [Item.words] using heq
    | size => simp [Item.words] at heq
    | word dash => simp [Item.words, (hdash dash).1.symm] at heq
  | size written le =>
    cases h' with
    | url value' => simp [Item.words] at heq
    | size written' le' =>
      simp only [Item.words, List.cons_append, List.nil_append, List.cons.injEq, true_and] at heq
      obtain ⟨rfl, rfl⟩ := heq
      rw [written.eq written']
      exact ⟨rfl, rfl⟩
    | word dash => simp [Item.words, (hdash dash).2.symm] at heq
  | word dash =>
    cases h' with
    | url value' => simp [Item.words, (hdash dash).1] at heq
    | size => simp [Item.words, (hdash dash).2] at heq
    | word dash' => simpa [Item.words] using heq

theorem flatMap_words_inj (h : ∀ item ∈ items, item.Allowed) (h' : ∀ item ∈ more, item.Allowed)
    (heq : items.flatMap Item.words = more.flatMap Item.words) : items = more := by
  induction items generalizing more with
  | nil =>
    cases more with
    | nil => rfl
    | cons other more =>
      rw [List.flatMap_nil, List.flatMap_cons] at heq
      exact absurd (List.append_eq_nil_iff.mp heq.symm).1 (words_ne_nil other)
  | cons item items ih =>
    obtain ⟨hitem, hitems⟩ := List.forall_mem_cons.mp h
    cases more with
    | nil =>
      rw [List.flatMap_nil, List.flatMap_cons] at heq
      exact absurd (List.append_eq_nil_iff.mp heq).1 (words_ne_nil item)
    | cons other more =>
      obtain ⟨hother, hmore⟩ := List.forall_mem_cons.mp h'
      obtain ⟨rfl, hrest⟩ := words_append_inj hitem hother heq
      rw [ih hitems hmore hrest]

theorem filterMap_words_of_reading (hallowed : ∀ item ∈ items, item.Allowed)
    (h : Reading (items.flatMap Item.words) (.ok o)) :
    items.filterMap Item.word? = [o.directory] ∧
      o.scannerUrl = (items.filterMap Item.url?).getLast? ∧
      o.maxFileSize = (items.filterMap Item.size?).getLast? := by
  generalize harguments : items.flatMap Item.words = arguments at h
  cases h with
  | accepted allowed directory url size =>
    obtain rfl := flatMap_words_inj hallowed allowed harguments
    exact ⟨directory, url, size⟩

/-- Only the message of arguments without a word says that one is missing. -/
theorem message_ne_of_stuck (h : Stuck items rest message) : message ≠ "missing <batch_dir>" := by
  have hhead : message.toList.head? ≠ some 'm' := by
    cases h with
    | noUrl => decide
    | noSize => decide
    | notSize => simp [String.toList_append]
    | unknown => simp [String.toList_append]
    | unexpected => simp [String.toList_append]
  rintro rfl
  exact hhead (by decide)

theorem parse_eq_ok_iff : parse arguments = .ok o ↔ Reading arguments (.ok o) := by
  rw [← parse_eq_iff]
  cases parse arguments <;> simp [Except.mapError]

theorem parse_message_iff :
    (∃ fault, parse arguments = .error fault ∧ fault.message = message) ↔
      Reading arguments (.error message) := by
  rw [← parse_eq_iff]
  cases parse arguments <;> simp [Except.mapError]

/-- Arguments are read by the grammar, with the message of the first place where no item stands. They
are items in one way only, and items of different kinds may change places. That a word is missing is
said of items without one alone. -/
theorem parse_grammar :
    (∀ arguments o, parse arguments = .ok o ↔ Reading arguments (.ok o)) ∧
    (∀ arguments message, (∃ fault, parse arguments = .error fault ∧ fault.message = message) ↔
      Reading arguments (.error message)) ∧
    (∀ items others : List Item, (∀ item ∈ items, item.Allowed) → (∀ item ∈ others, item.Allowed) →
      items.flatMap Item.words = others.flatMap Item.words → items = others) ∧
    (∀ (items others : List Item) (o : Options), (∀ item ∈ items, item.Allowed) →
      parse (items.flatMap Item.words) = .ok o → items.Perm others →
      items.filterMap Item.url? = others.filterMap Item.url? →
      items.filterMap Item.size? = others.filterMap Item.size? →
      parse (others.flatMap Item.words) = .ok o) ∧
    ∀ arguments, (∃ fault, parse arguments = .error fault ∧
        fault.message = "missing <batch_dir>") ↔
      ∃ items : List Item, arguments = items.flatMap Item.words ∧
        (∀ item ∈ items, item.Allowed) ∧ items.filterMap Item.word? = [] := by
  refine ⟨fun _ _ => parse_eq_ok_iff, fun _ _ => parse_message_iff,
    fun _ _ => flatMap_words_inj, ?_, ?_⟩
  · intro items others o hallowed hparse hperm hurl hsize
    obtain ⟨hword, hscanner, hlimit⟩ :=
      filterMap_words_of_reading hallowed (parse_eq_ok_iff.mp hparse)
    rw [hurl] at hscanner
    rw [hsize] at hlimit
    have hdirectory : others.filterMap Item.word? = [o.directory] :=
      List.perm_singleton.mp (hword ▸ (hperm.filterMap Item.word?).symm)
    refine parse_eq_ok_iff.mpr (.accepted (fun item hitem => ?_) hdirectory hscanner hlimit)
    exact hallowed item (hperm.mem_iff.mpr hitem)
  · intro arguments
    rw [parse_message_iff]
    constructor
    · intro h
      generalize hmessage : Except.error "missing <batch_dir>" = result at h
      cases h with
      | accepted => cases hmessage
      | stuck allowed once stuck =>
        injection hmessage with hmessage
        exact absurd hmessage.symm (message_ne_of_stuck stuck)
      | wordless allowed none => exact ⟨_, rfl, allowed, none⟩
    · rintro ⟨items, rfl, hallowed, hnone⟩
      exact .wordless hallowed hnone

/-- Of two URLs the second one counts, wherever the directory and the size stand. -/
theorem parse_grammar_sample :
    parse ["batch", "--scanner-url", "http://a", "--scanner-url", "-x", "--max-file-size", "+5"] =
      .ok ⟨"batch", some "-x", some 5⟩ := by
  obtain ⟨-, -, -, hreorder, -⟩ := parse_grammar
  have hfive : Number.Numeral "+5".toList 5 :=
    ⟨['5'], .inr rfl, List.cons_ne_nil _ _, List.forall_mem_singleton.mpr rfl, rfl⟩
  refine hreorder [.url "http://a", .size "+5" 5, .word "batch", .url "-x"]
    [.word "batch", .url "http://a", .url "-x", .size "+5" 5] _ ?_ (by decide +kernel)
    (by decide) rfl rfl
  simp only [List.forall_mem_cons, List.not_mem_nil, false_implies, implies_true, and_true]
  exact ⟨.url _, .size hfive (by decide), .word (by decide), .url _⟩

/-! An option takes the next word even if that is an option. -/

example : parse ["--scanner-url", "--max-file-size", "12x"] =
    .ok ⟨"12x", some "--max-file-size", none⟩ := by decide +kernel

end Options

end CommandLine

end AttachmentIntake
