import GuestResume.Proofs.NumeralGrammar
import GuestResume.Text.Hex

/-! Hexadecimal numbers in a text. A number is got back from its digits, also behind leading zeros, and a row of
labelled numbers of known widths is got back from its text, whatever follows it. -/

namespace GuestResume.Text

variable {radix number value width : Nat} {digits : List Char} {c : Char}

theorem spells_single (digit : IsDigit radix c value) : Spells radix [c] value :=
  ⟨List.cons_ne_nil _ _, [value], .cons digit .nil, Nat.ofDigits_singleton.symm⟩

/-- One more digit counts on. -/
theorem Spells.append_digit (spelled : Spells radix digits number) (digit : IsDigit radix c value) :
    Spells radix (digits ++ [c]) (radix * number + value) := by
  obtain ⟨-, values, spelled, rfl⟩ := spelled
  refine ⟨by simp, values ++ [value], List.rel_append spelled (.cons digit .nil), ?_⟩
  rw [List.reverse_append, List.reverse_singleton, List.singleton_append, Nat.ofDigits_cons, Nat.add_comm]

theorem Spells.cons_zero (spelled : Spells radix digits number) (positive : 0 < radix) :
    Spells radix ('0' :: digits) number := by
  obtain ⟨-, values, spelled, rfl⟩ := spelled
  refine ⟨List.cons_ne_nil _ _, 0 :: values, .cons ⟨positive, .inl rfl⟩ spelled, ?_⟩
  rw [List.reverse_cons, Nat.ofDigits_append, Nat.ofDigits_singleton, Nat.mul_zero, Nat.add_zero]

/-- Digits spell one number. -/
theorem Spells.unique {other : Nat} (narrow : radix ≤ 16) (first : Spells radix digits number)
    (second : Spells radix digits other) : number = other := by
  rw [← ofDigits?_eq_some narrow] at first second
  exact Option.some.inj (first.symm.trans second)

theorem spells_toDigits (number : Nat) : Spells 16 (Nat.toDigits 16 number) number := by
  induction number using Nat.strongRecOn with
  | ind number ih =>
    rw [Nat.toDigits_eq_if (by decide)]
    split
    next small => exact spells_single ⟨small, .inl rfl⟩
    next large =>
      have later := (ih (number / 16) (by omega)).append_digit ⟨Nat.mod_lt number (by decide), .inl rfl⟩
      rwa [Nat.div_add_mod] at later

theorem spells_hexPadded (width number : Nat) : Spells 16 (hexPadded width number).toList number := by
  rw [hexPadded, String.toList_ofList, List.leftpad]
  generalize width - (Nat.toDigits 16 number).length = zeros
  induction zeros with
  | zero => exact spells_toDigits number
  | succ zeros ih => exact ih.cons_zero (by decide)

theorem hexPadded_inj {other : Nat} (same : hexPadded width number = hexPadded width other) : number = other :=
  (spells_hexPadded width number).unique le_rfl (same ▸ spells_hexPadded width other)

theorem length_hexPadded (positive : 0 < width) (fits : number < 16 ^ width) :
    (hexPadded width number).toList.length = width := by
  have short := Nat.toDigits_length 16 number width positive fits
  rw [hexPadded, String.toList_ofList, List.length_leftpad, Nat.max_eq_left short]

theorem not_mem_hexPadded (other : digitValue? 16 c = none) : c ∉ (hexPadded width number).toList :=
  (spells_hexPadded width number).not_mem le_rfl other

theorem hex_inj {other : Nat} (same : hex number = hex other) : number = other := by
  have digits := String.ofList_injective same
  simp only [List.cons.injEq, true_and] at digits
  exact (spells_toDigits number).unique le_rfl (digits ▸ spells_toDigits other)

theorem not_mem_hex (other : digitValue? 16 c = none) (mark : c ≠ 'x') : c ∉ (hex number).toList := by
  have zero : c ≠ '0' := by
    rintro rfl
    cases other
  have digits := (spells_toDigits number).not_mem le_rfl other
  simp [hex, zero, mark, digits]

/-- A number behind its label, with a width that it does not exceed. -/
structure Cell where
  label : String
  width : Nat
  number : Nat
  positive : 0 < width
  fits : number < 16 ^ width

namespace Cell

def word (label : String) (value : UInt64) : Cell :=
  ⟨label, 16, value.toNat, by decide, value.toNat_lt⟩

def half (label : String) (value : UInt16) : Cell :=
  ⟨label, 4, value.toNat, by decide, value.toNat_lt⟩

theorem word_inj {label : String} {a b : UInt64} : word label a = word label b ↔ a = b := by
  simp [word, UInt64.toNat_inj]

theorem half_inj {label : String} {a b : UInt16} : half label a = half label b ↔ a = b := by
  simp [half, UInt16.toNat_inj]

def text (cell : Cell) : List Char :=
  cell.label.toList ++ (hexPadded cell.width cell.number).toList

def texts (cells : List Cell) : List Char :=
  cells.flatMap text

/-- What is known of a cell before its number is read. -/
def shape (cell : Cell) : String × Nat :=
  (cell.label, cell.width)

theorem text_inj {cell other : Cell} {rest further : List Char} (shapes : cell.shape = other.shape)
    (same : cell.text ++ rest = other.text ++ further) : cell = other ∧ rest = further := by
  obtain ⟨label, width, number, positive, fits⟩ := cell
  obtain ⟨_, _, read, _, below⟩ := other
  cases shapes
  simp only [text, List.append_assoc, List.append_cancel_left_eq] at same
  have lengths : (hexPadded width number).toList.length = (hexPadded width read).toList.length := by
    rw [length_hexPadded positive fits, length_hexPadded positive below]
  obtain ⟨digits, rfl⟩ := List.append_inj same lengths
  obtain rfl := hexPadded_inj (String.toList_inj.mp digits)
  exact ⟨rfl, rfl⟩

theorem texts_inj {cells others : List Cell} {rest further : List Char}
    (shapes : cells.map shape = others.map shape) (same : texts cells ++ rest = texts others ++ further) :
    cells = others ∧ rest = further := by
  induction cells generalizing others with
  | nil =>
    obtain rfl := List.map_eq_nil_iff.mp shapes.symm
    exact ⟨rfl, same⟩
  | cons cell cells ih =>
    obtain _ | ⟨other, others⟩ := others
    · cases shapes
    · obtain ⟨first, later⟩ := List.cons.inj shapes
      simp only [texts, List.flatMap_cons, List.append_assoc] at same
      obtain ⟨rfl, behind⟩ := text_inj first same
      obtain ⟨rfl, rfl⟩ := ih later behind
      exact ⟨rfl, rfl⟩

theorem eq_of_texts {cells others : List Cell} (shapes : cells.map shape = others.map shape)
    (same : texts cells = texts others) : cells = others := by
  rw [← List.append_nil (texts cells), ← List.append_nil (texts others)] at same
  exact (texts_inj shapes same).1

theorem not_mem_texts {cells : List Cell} {c : Char} (other : digitValue? 16 c = none)
    (labels : ∀ cell ∈ cells, c ∉ cell.label.toList) : c ∉ texts cells := by
  intro member
  obtain ⟨cell, listed, inside⟩ := List.mem_flatMap.mp member
  obtain label | number := List.mem_append.mp inside
  · exact labels cell listed label
  · exact not_mem_hexPadded other number

end Cell

end GuestResume.Text
