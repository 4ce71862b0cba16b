import GuestResume.Session.Config
import Mathlib.Data.List.DropRight
import Mathlib.Data.List.Forall2
import Mathlib.Data.Nat.Digits.Defs

/-! Which texts a setting takes for a number, and for which. The grammar is written down without the reader:
blanks around the text and underscores in it do not count, a marker announces the radix, and digits denote their
number to that radix. The reader takes the texts of this grammar and no others, but its grammar is wider than a
plain one by a plus sign in front of the digits, even behind the marker. -/

namespace GuestResume

namespace Text

/-- The core is what the text has between the blanks around it. -/
structure Trimmed (text core : List Char) : Prop where
  around : ∃ before after, text = before ++ core ++ after ∧ ∀ c ∈ before ++ after, isBlank c
  first : ∀ c ∈ core.head?, ¬isBlank c
  last : ∀ c ∈ core.getLast?, ¬isBlank c

/-- The character stands for the value. Letters stand for the values from ten on, in either case. -/
def IsDigit (radix : Nat) (c : Char) (value : Nat) : Prop :=
  value < radix ∧ (c = value.digitChar ∨ c = value.digitChar.toUpper)

/-- There is at least one digit, and the digits denote the number, the most significant first. -/
def Spells (radix : Nat) (digits : List Char) (number : Nat) : Prop :=
  digits ≠ [] ∧ ∃ values, List.Forall₂ (IsDigit radix) digits values ∧ number = Nat.ofDigits radix values.reverse

/-- The digits may follow one of the signs. -/
def Signed (signs : List (List Char)) (radix : Nat) (text : List Char) (number : Nat) : Prop :=
  ∃ sign ∈ signs, ∃ digits, text = sign ++ digits ∧ Spells radix digits number

/-- The number is written in decimal, or in hexadecimal behind a marker. -/
def Numeral (signs : List (List Char)) (text : List Char) (number : Nat) : Prop :=
  Signed signs 10 text number ∨
    ∃ marker ∈ [['0', 'x'], ['0', 'X']], ∃ rest, text = marker ++ rest ∧ Signed signs 16 rest number

/-- The text is a numeral, apart from blanks around it and underscores. -/
def Denotes (signs : List (List Char)) (text : String) (number : Nat) : Prop :=
  ∃ core, Trimmed text.toList core ∧ Numeral signs (core.filter (· ≠ '_')) number

theorem dropWhile_eq_self {text : List Char} (first : ∀ c ∈ text.head?, ¬isBlank c) :
    text.dropWhile isBlank = text := by
  cases text with
  | nil => rfl
  | cons c rest => exact List.dropWhile_cons_of_neg (first c rfl)

theorem head?_dropWhile (text : List Char) : ∀ c ∈ (text.dropWhile isBlank).head?, ¬isBlank c := by
  intro c first
  have stop := text.head?_dropWhile_not isBlank
  rw [Option.mem_def.mp first] at stop
  exact Bool.eq_false_iff.mp stop

theorem trim_eq (text : List Char) : trim text = (text.dropWhile isBlank).rdropWhile isBlank :=
  rfl

theorem Trimmed.eq_trim {text core : List Char} (trimmed : Trimmed text core) : core = trim text := by
  obtain ⟨before, after, rfl, blank⟩ := trimmed.around
  have left : ∀ c ∈ before, isBlank c := fun c member => blank c (List.mem_append_left _ member)
  have right : ∀ c ∈ after, isBlank c := fun c member => blank c (List.mem_append_right _ member)
  rw [trim, List.append_assoc, List.dropWhile_append_of_pos left]
  by_cases empty : core = []
  · subst empty
    rw [List.nil_append, List.dropWhile_eq_nil_iff.mpr right]
    rfl
  · have first : ∀ c ∈ (core ++ after).head?, ¬isBlank c := by
      rw [List.head?_append_of_ne_nil _ empty]
      exact trimmed.first
    have last : ∀ c ∈ core.reverse.head?, ¬isBlank c := by
      rw [List.head?_reverse]
      exact trimmed.last
    rw [dropWhile_eq_self first, List.reverse_append,
      List.dropWhile_append_of_pos fun c member => right c (List.mem_reverse.mp member), dropWhile_eq_self last,
      List.reverse_reverse]

theorem trimmed_trim (text : List Char) : Trimmed text (trim text) := by
  refine ⟨⟨text.takeWhile isBlank, (text.dropWhile isBlank).rtakeWhile isBlank, ?_, ?_⟩, ?_, ?_⟩
  · rw [trim_eq, List.append_assoc, List.rdropWhile_append_rtakeWhile, List.takeWhile_append_dropWhile]
  · intro c member
    obtain early | late := List.mem_append.mp member
    · exact List.mem_takeWhile_imp early
    · exact List.mem_rtakeWhile_imp late
  · intro c first
    obtain ⟨rest, whole⟩ := List.rdropWhile_prefix isBlank (text.dropWhile isBlank)
    refine head?_dropWhile text c ?_
    rw [← whole, List.head?_append]
    exact Option.mem_def.mpr (congrArg (·.or rest.head?) (Option.mem_def.mp first))
  · intro c last
    rw [trim, List.getLast?_reverse] at last
    exact head?_dropWhile _ c last

theorem trimmed_iff {text core : List Char} : Trimmed text core ↔ core = trim text :=
  ⟨Trimmed.eq_trim, fun same => same ▸ trimmed_trim text⟩

variable {radix number : Nat}

theorem digitValue?_narrow {c : Char} {value wide : Nat} (found : digitValue? wide c = some value)
    (inside : value < radix) : digitValue? radix c = some value :=
  Option.filter_eq_some_iff.mpr ⟨(Option.filter_eq_some_iff.mp found).1, decide_eq_true inside⟩

theorem digitValue?_eq_some (narrow : radix ≤ 16) {c : Char} {value : Nat} :
    digitValue? radix c = some value ↔ IsDigit radix c value := by
  -- The three ranges of characters as tables by value, because a character has no bound to check them up to.
  have lower : ∀ value < 16, digitValue? 16 value.digitChar = some value := by decide
  have upper : ∀ value < 16, digitValue? 16 value.digitChar.toUpper = some value := by decide
  have figure : ∀ value < 10, Char.ofNat (0x30 + value) = value.digitChar := by decide
  have small : ∀ value < 6, Char.ofNat (0x61 + value) = (value + 10).digitChar := by decide
  have capital : ∀ value < 6, Char.ofNat (0x41 + value) = (value + 10).digitChar.toUpper := by decide
  have char (base : Nat) (above : base ≤ c.toNat) : Char.ofNat (base + (c.toNat - base)) = c := by
    rw [Nat.add_sub_of_le above, Char.ofNat_toNat]
  constructor
  · intro found
    obtain ⟨held, inside⟩ := Option.filter_eq_some_iff.mp found
    replace inside := of_decide_eq_true inside
    refine ⟨inside, ?_⟩
    split at held
    next range =>
      cases held
      rw [← figure _ (by omega), char _ range.1]
      exact .inl rfl
    next =>
      split at held
      next range =>
        cases held
        rw [← small _ (by omega), char _ range.1]
        exact .inl rfl
      next =>
        split at held
        next range =>
          cases held
          rw [← capital _ (by omega), char _ range.1]
          exact .inr rfl
        next => cases held
  · rintro ⟨inside, rfl | rfl⟩
    · exact digitValue?_narrow (lower value (by omega)) inside
    · exact digitValue?_narrow (upper value (by omega)) inside

theorem foldlM_digits (narrow : radix ≤ 16) {digits : List Char} {start : Nat} :
    digits.foldlM (fun value c => (digitValue? radix c).map (value * radix + ·)) start = some number ↔
      ∃ values, List.Forall₂ (IsDigit radix) digits values ∧
        number = values.foldl (fun number value => number * radix + value) start := by
  induction digits generalizing start with
  | nil => simp [List.forall₂_nil_left_iff, eq_comm]
  | cons c rest ih =>
    rw [List.foldlM_cons]
    simp only [List.forall₂_cons_left_iff]
    constructor
    · intro ran
      obtain ⟨next, read, ran⟩ := Option.bind_eq_some_iff.mp ran
      obtain ⟨value, found, rfl⟩ := Option.map_eq_some_iff.mp read
      obtain ⟨values, spelled, rfl⟩ := ih.mp ran
      exact ⟨value :: values, ⟨value, values, (digitValue?_eq_some narrow).mp found, spelled, rfl⟩, rfl⟩
    · rintro ⟨_, ⟨value, values, digit, spelled, rfl⟩, rfl⟩
      rw [(digitValue?_eq_some narrow).mpr digit]
      exact ih.mpr ⟨values, spelled, rfl⟩

theorem ofDigits_reverse (values : List Nat) :
    Nat.ofDigits radix values.reverse = values.foldl (fun number value => number * radix + value) 0 := by
  rw [Nat.ofDigits_eq_foldr, List.foldr_reverse]
  simp only [Nat.cast_id, Nat.add_comm, Nat.mul_comm]

theorem ofDigits?_eq_some (narrow : radix ≤ 16) {digits : List Char} :
    ofDigits? radix digits = some number ↔ Spells radix digits number := by
  cases digits with
  | nil => simp [ofDigits?, Spells]
  | cons c rest =>
    simp only [ofDigits?, Spells, ofDigits_reverse]
    rw [foldlM_digits narrow]
    simp

theorem Spells.isDigit {digits : List Char} (spelled : Spells radix digits number) :
    ∀ c ∈ digits, ∃ value, IsDigit radix c value := by
  obtain ⟨-, values, spelled, -⟩ := spelled
  induction spelled with
  | nil => simp
  | cons digit _ ih => exact List.forall_mem_cons.mpr ⟨⟨_, digit⟩, ih⟩

/-- Neither a sign nor the letter of a marker is a digit. -/
theorem Spells.not_mem {digits : List Char} (spelled : Spells radix digits number) (narrow : radix ≤ 16) {c : Char}
    (other : digitValue? 16 c = none) : c ∉ digits := by
  intro member
  obtain ⟨value, below, shape⟩ := spelled.isDigit c member
  have known := (digitValue?_eq_some le_rfl).mpr ⟨below.trans_le narrow, shape⟩
  rw [other] at known
  cases known

/-- One plus sign may stand in front of the digits. -/
def signs : List (List Char) :=
  [[], ['+']]

theorem signed_iff {text : List Char} :
    Signed signs radix text number ↔
      Spells radix text number ∨ ∃ digits, text = '+' :: digits ∧ Spells radix digits number := by
  simp [Signed, signs]

theorem numeral_iff {signs : List (List Char)} {text : List Char} :
    Numeral signs text number ↔
      Signed signs 10 text number ∨
        ∃ letter ∈ ['x', 'X'], ∃ rest, text = '0' :: letter :: rest ∧ Signed signs 16 rest number := by
  simp [Numeral]

theorem signed?_eq_some (narrow : radix ≤ 16) {text : List Char} :
    signed? radix text = some number ↔ Signed signs radix text number := by
  rw [signed_iff]
  unfold signed?
  split
  next digits =>
    rw [ofDigits?_eq_some narrow]
    constructor
    · intro spelled
      exact .inr ⟨digits, rfl, spelled⟩
    · rintro (unsigned | ⟨digits, same, spelled⟩)
      · exact absurd List.mem_cons_self (unsigned.not_mem narrow (by decide))
      · cases same
        exact spelled
  next unsigned =>
    rw [ofDigits?_eq_some narrow]
    constructor
    · exact .inl
    · rintro (spelled | ⟨digits, rfl, -⟩)
      · exact spelled
      · exact (unsigned digits rfl).elim

def numeral? : List Char → Option Nat
  | '0' :: 'x' :: digits => signed? 16 digits
  | '0' :: 'X' :: digits => signed? 16 digits
  | digits => signed? 10 digits

theorem word?_eq (text : String) :
    word? text =
      ((numeral? ((trim text.toList).filter (· ≠ '_'))).filter (· < UInt64.size)).map UInt64.ofNat :=
  rfl

/-- Behind a marker only a hexadecimal numeral can stand, because the letter is no digit. -/
theorem numeral_marked {letter : Char} (marked : letter ∈ ['x', 'X']) {rest : List Char} :
    Numeral signs ('0' :: letter :: rest) number ↔ Signed signs 16 rest number := by
  have other : digitValue? 16 letter = none := by
    obtain rfl | rfl : letter = 'x' ∨ letter = 'X' := by simpa using marked
    · decide
    · decide
  rw [numeral_iff]
  constructor
  · rintro (decimal | ⟨_, -, rest, same, signed⟩)
    · obtain spelled | ⟨digits, same, -⟩ := signed_iff.mp decimal
      · have member : letter ∈ '0' :: letter :: rest := List.mem_cons_of_mem _ List.mem_cons_self
        exact absurd member (spelled.not_mem (by decide) other)
      · cases same
    · cases same
      exact signed
  · intro signed
    exact .inr ⟨letter, marked, rest, rfl, signed⟩

theorem numeral?_eq_some {text : List Char} : numeral? text = some number ↔ Numeral signs text number := by
  unfold numeral?
  split
  next rest => exact (signed?_eq_some le_rfl).trans (numeral_marked (by decide)).symm
  next rest => exact (signed?_eq_some le_rfl).trans (numeral_marked (by decide)).symm
  next lower upper =>
    refine (signed?_eq_some (by decide)).trans (Iff.trans ⟨.inl, ?_⟩ numeral_iff.symm)
    rintro (decimal | ⟨letter, marked, rest, rfl, -⟩)
    · exact decimal
    · obtain rfl | rfl : letter = 'x' ∨ letter = 'X' := by simpa using marked
      · exact (lower rest rfl).elim
      · exact (upper rest rfl).elim

/-- The reader knows the numerals that fit into a word, each for its number. -/
theorem word?_eq_some {text : String} {word : UInt64} :
    word? text = some word ↔ Denotes signs text word.toNat := by
  simp only [word?_eq, Denotes, trimmed_iff, exists_eq_left, ← numeral?_eq_some]
  constructor
  · intro taken
    obtain ⟨number, fits, rfl⟩ := Option.map_eq_some_iff.mp taken
    obtain ⟨found, below⟩ := Option.filter_eq_some_iff.mp fits
    rwa [UInt64.toNat_ofNat', Nat.mod_eq_of_lt (of_decide_eq_true below)]
  · intro found
    have fits : Option.filter (· < UInt64.size) (some word.toNat) = some word.toNat :=
      Option.filter_eq_some_iff.mpr ⟨rfl, decide_eq_true word.toNat_lt⟩
    rw [found, fits]
    exact congrArg some UInt64.ofNat_toNat

theorem word?_eq_none {text : String} : word? text = none ↔ ∀ word : UInt64, ¬Denotes signs text word.toNat := by
  simp only [← word?_eq_some, Option.eq_none_iff_forall_ne_some, ne_eq]

end Text

namespace Setting

/-- The variables when one alone is set. -/
def only (setting : Setting) (text : String) (name : String) : Option String :=
  if name = setting.name then some text else none

theorem name_injective : Function.Injective name := by
  intro setting other same
  cases setting <;> cases other <;> first | rfl | exact absurd same (by decide)

variable {setting other : Setting} {text : String}

theorem only_name : setting.only text setting.name = some text :=
  if_pos rfl

theorem only_name_of_ne (different : other ≠ setting) : setting.only text other.name = none :=
  if_neg fun same => different (name_injective same)

/-- What comes of a text for a setting that takes a number, when no other setting is given: the numerals that fit
into a word are taken for their numbers, and every other text is refused for this setting. -/
structure ReadsNumber (setting : Setting) (text : String) (stored : UInt64 → Config) : Prop where
  accepted : ∀ config, Config.ofLookup (setting.only text) = .ok config ↔
    ∃ word : UInt64, Text.Denotes Text.signs text word.toNat ∧ config = stored word
  refused : ∀ error, Config.ofLookup (setting.only text) = .error error ↔
    (∀ word : UInt64, ¬Text.Denotes Text.signs text word.toNat) ∧
      error = ⟨setting, "`" ++ text ++ "` is not a decimal or 0x-prefixed hex integer"⟩

end Setting

namespace Config

variable {setting other : Setting} {text : String}

theorem wordOf_only {word : UInt64} (found : Text.word? text = some word) :
    wordOf (setting.only text) setting = .ok (some word) := by
  simp only [wordOf, Setting.only_name, found]

theorem wordOf_only_refused (unknown : Text.word? text = none) :
    wordOf (setting.only text) setting =
      .error ⟨setting, "`" ++ text ++ "` is not a decimal or 0x-prefixed hex integer"⟩ := by
  simp only [wordOf, Setting.only_name, unknown]

theorem wordOf_only_of_ne (different : other ≠ setting) : wordOf (setting.only text) other = .ok none := by
  rw [wordOf, Setting.only_name_of_ne different]

theorem policyOf_only (different : .bindingPolicy ≠ setting) : policyOf (setting.only text) = .ok .reject := by
  rw [policyOf, Setting.only_name_of_ne different]

theorem tableBaseOf_only (different : .tableBase ≠ setting) : tableBaseOf (setting.only text) = .ok none := by
  rw [tableBaseOf, wordOf_only_of_ne different]

/-- The reader decides alone when nothing else of the configuration comes from the variables. -/
theorem readsNumber (stored : Option UInt64 → Config)
    (result : ofLookup (setting.only text) = (wordOf (setting.only text) setting).map stored) :
    setting.ReadsNumber text fun word => stored (some word) := by
  constructor
  · intro config
    simp only [← Text.word?_eq_some, result]
    cases found : Text.word? text with
    | some word => simp [wordOf_only found, Except.map, eq_comm]
    | none => simp [wordOf_only_refused found, Except.map]
  · intro error
    rw [← Text.word?_eq_none, result]
    cases found : Text.word? text with
    | some word => simp [wordOf_only found, Except.map]
    | none => simp [wordOf_only_refused found, Except.map, eq_comm]

end Config

/-- The step budget and the stop address are read from a text exactly if it is a numeral below two to the 64th,
decimal or hexadecimal behind a marker, apart from blanks around it and underscores, with or without one plus sign
in front of the digits. The setting then has the number, and otherwise the error names it. -/
theorem numbers_read (text : String) :
    Setting.maxSteps.ReadsNumber text (fun word => { maxSteps := some word.toNat }) ∧
    Setting.stopAddress.ReadsNumber text (fun word => { stopAddress := some word }) := by
  constructor
  · refine Config.readsNumber (fun steps => { maxSteps := steps.map UInt64.toNat }) ?_
    rw [Config.ofLookup, Config.policyOf_only (by decide), Config.tableBaseOf_only (by decide),
      Config.wordOf_only_of_ne (by decide : Setting.stopAddress ≠ .maxSteps)]
    cases Config.wordOf (Setting.maxSteps.only text) .maxSteps <;> rfl
  · refine Config.readsNumber (fun place => { stopAddress := place }) ?_
    rw [Config.ofLookup, Config.policyOf_only (by decide), Config.tableBaseOf_only (by decide),
      Config.wordOf_only_of_ne (by decide : Setting.maxSteps ≠ .stopAddress)]
    cases Config.wordOf (Setting.stopAddress.only text) .stopAddress <;> rfl

/-- Behind the marker too a plus sign is passed over, so a text is read that is no numeral without signs. -/
theorem sign_behind_marker_read :
    Config.ofLookup (Setting.maxSteps.only "0x+10") = .ok { maxSteps := some 16 } ∧
    ∀ number, ¬Text.Denotes [[]] "0x+10" number := by
  refine ⟨by decide +kernel, ?_⟩
  rintro number ⟨core, trimmed, numeral⟩
  have cleaned : core.filter (· ≠ '_') = ['0', 'x', '+', '1', '0'] := by
    rw [trimmed.eq_trim]
    decide
  rw [cleaned, Text.numeral_iff] at numeral
  obtain ⟨sign, unsigned, digits, same, spelled⟩ | ⟨letter, -, rest, same, signed⟩ := numeral
  · obtain rfl := List.mem_singleton.mp unsigned
    rw [List.nil_append] at same
    exact spelled.not_mem (by decide) (by decide : Text.digitValue? 16 'x' = none) (by simp [← same])
  · obtain ⟨sign, unsigned, digits, rfl, spelled⟩ := signed
    obtain rfl := List.mem_singleton.mp unsigned
    cases same
    exact spelled.not_mem le_rfl (by decide : Text.digitValue? 16 '+' = none) List.mem_cons_self

end GuestResume
