import GuestResume.Memory.Page

/-! Pages made of words, and single words read back from a page. A page written from a list of
numbered words holds each of them at its number and zero everywhere else, provided that no number
comes twice. -/

namespace GuestResume

namespace Word

@[simp]
theorem length_toBytes (word : UInt64) : (toBytes word).length = 8 := by simp [toBytes]

private theorem value_digits (count number : Nat) :
    ((List.range count).map fun i => UInt8.ofNat (number >>> (8 * i))).foldr
      (fun byte higher => byte.toNat + 256 * higher) 0 = number % (1 <<< (8 * count)) := by
  induction count generalizing number with
  | zero => simp [Nat.mod_one]
  | succ count ih =>
    have digits : ((List.range (count + 1)).map fun i => UInt8.ofNat (number >>> (8 * i))) =
        UInt8.ofNat number :: (List.range count).map fun i => UInt8.ofNat (number >>> 8 >>> (8 * i)) := by
      simp [List.range_succ_eq_map, ← Nat.shiftRight_add, Nat.mul_add, Nat.add_comm 8]
    have parts : number % (1 <<< (8 * (count + 1))) = number % 256 + 256 * (number >>> 8 % (1 <<< (8 * count))) := by
      rw [Nat.mul_succ, Nat.add_comm, Nat.one_shiftLeft, Nat.pow_add, Nat.mod_mul, Nat.one_shiftLeft,
        Nat.shiftRight_eq_div_pow]
    rw [digits, List.foldr_cons, ih, parts, UInt8.toNat_ofNat']

@[simp]
theorem ofBytes_toBytes (word : UInt64) : ofBytes (toBytes word) = word := by
  have bound := word.toNat_lt
  apply UInt64.toNat_inj.mp
  have all : 1 <<< (8 * 8) = UInt64.size := rfl
  rw [ofBytes, toBytes, value_digits, all, UInt64.toNat_ofNat']
  simp only [UInt64.size]
  omega

theorem ofBytes_zeros : ofBytes (List.replicate 8 0) = 0 := by decide

end Word

namespace Page

def word (page : Page) (number : Nat) : UInt64 :=
  Word.ofBytes (page.read (8 * number) 8)

theorem getElem?_read (page : Page) (start length index : Nat) :
    (page.read start length)[index]? = if index < length then some (page.byte (start + index)) else none := by
  simp only [read, List.getElem?_map]
  split
  next inside => simp [List.getElem?_range' inside]
  next beyond => simp [beyond]

theorem word_zero (number : Nat) : zero.word number = 0 := by
  have empty : zero.read (8 * number) 8 = List.replicate 8 0 := by
    apply List.ext_getElem?
    intro index
    rw [getElem?_read, List.getElem?_replicate, byte_zero]
  rw [word, empty, Word.ofBytes_zeros]

/-- A word that lies in the page is read back, and the other words stay. -/
theorem word_write (page : Page) (value : UInt64) (changed number : Nat)
    (inside : number < Address.entriesPerTable) :
    (page.write (8 * changed) (Word.toBytes value)).word number =
      if changed = number then value else page.word number := by
  simp only [Address.entriesPerTable] at inside
  split
  next same =>
    subst changed
    have bytes : (page.write (8 * number) (Word.toBytes value)).read (8 * number) 8 = Word.toBytes value := by
      apply List.ext_getElem?
      intro index
      rw [getElem?_read]
      split
      next within =>
        have covered : 8 * number ≤ 8 * number + index ∧
            8 * number + index < 8 * number + (Word.toBytes value).length ∧
            8 * number + index < Address.pageSize := by
          simp only [Word.length_toBytes, Address.pageSize]
          omega
        rw [byte_write, if_pos covered, Nat.add_sub_cancel_left]
        simp [within]
      next beyond => exact (List.getElem?_eq_none (by simpa using beyond)).symm
    rw [word, bytes, Word.ofBytes_toBytes]
  next other =>
    have bytes : (page.write (8 * changed) (Word.toBytes value)).read (8 * number) 8 =
        page.read (8 * number) 8 := by
      apply List.map_congr_left
      intro index member
      rw [byte_write, if_neg]
      rw [List.mem_range'_1] at member
      rw [Word.length_toBytes]
      omega
    rw [word, bytes, word]

private theorem word_foldl (words : List (Nat × UInt64)) (page : Page) (number : Nat)
    (inside : number < Address.entriesPerTable) :
    (words.foldl (fun page (i, word) => page.write (8 * i) (Word.toBytes word)) page).word number =
      words.foldl (fun held (i, word) => if i = number then word else held) (page.word number) := by
  induction words generalizing page with
  | nil => rfl
  | cons head rest ih => rw [List.foldl_cons, ih, List.foldl_cons, word_write _ _ _ _ inside]

private theorem foldl_absent (words : List (Nat × UInt64)) (held : UInt64) (number : Nat)
    (absent : number ∉ words.map Prod.fst) :
    words.foldl (fun held (i, word) => if i = number then word else held) held = held := by
  induction words generalizing held with
  | nil => rfl
  | cons head rest ih =>
    simp only [List.map_cons, List.mem_cons, not_or] at absent
    simp only [List.foldl_cons, if_neg (Ne.symm absent.1)]
    exact ih held absent.2

theorem word_ofWords_of_not_mem (words : List (Nat × UInt64)) {number : Nat}
    (inside : number < Address.entriesPerTable) (absent : number ∉ words.map Prod.fst) :
    (ofWords words).word number = 0 := by
  rw [ofWords, word_foldl _ _ _ inside, foldl_absent _ _ _ absent, word_zero]

theorem word_ofWords_of_mem (words : List (Nat × UInt64)) {number : Nat} {value : UInt64}
    (distinct : (words.map Prod.fst).Nodup) (inside : number < Address.entriesPerTable)
    (member : (number, value) ∈ words) : (ofWords words).word number = value := by
  obtain ⟨before, after, rfl⟩ := List.append_of_mem member
  have absent : number ∉ after.map Prod.fst := by
    rw [List.map_append, List.map_cons, List.nodup_append] at distinct
    exact (List.nodup_cons.mp distinct.2.1).1
  rw [ofWords, word_foldl _ _ _ inside, List.foldl_append, List.foldl_cons, foldl_absent _ _ _ absent]
  exact if_pos rfl

end Page

end GuestResume
