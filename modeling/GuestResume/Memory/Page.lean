import GuestResume.Memory.Address

/-! A page of memory and words inside it. Words are eight bytes, the lowest first. Writing past the
end of a page drops what does not fit, and bytes past the end read as zero. -/

namespace GuestResume

namespace Word

def toBytes (word : UInt64) : List UInt8 :=
  (List.range 8).map fun i => UInt8.ofNat (word.toNat >>> (8 * i))

def ofBytes (bytes : List UInt8) : UInt64 :=
  UInt64.ofNat (bytes.foldr (fun byte higher => byte.toNat + 256 * higher) 0)

end Word

structure Page where
  bytes : Vector UInt8 Address.pageSize
  deriving DecidableEq

namespace Page

def zero : Page where
  bytes := Vector.replicate Address.pageSize 0

def byte (page : Page) (index : Nat) : UInt8 :=
  page.bytes[index]?.getD 0

def read (page : Page) (start length : Nat) : List UInt8 :=
  (List.range' start length).map page.byte

def write (page : Page) (start : Nat) : List UInt8 → Page
  | [] => page
  | byte :: rest => { bytes := page.bytes.setIfInBounds start byte : Page }.write (start + 1) rest

@[simp]
theorem byte_zero (index : Nat) : zero.byte index = 0 := by
  rw [byte, zero, Vector.getElem?_replicate]
  split <;> rfl

theorem byte_setIfInBounds (page : Page) (start index : Nat) (byte : UInt8) :
    ({ bytes := page.bytes.setIfInBounds start byte } : Page).byte index =
      if start = index ∧ index < Address.pageSize then byte else page.byte index := by
  rw [Page.byte, Vector.getElem?_setIfInBounds, Page.byte]
  by_cases same : start = index
  · subst same
    by_cases inside : start < Address.pageSize
    · simp [inside]
    · simp [inside]
  · simp [same]

/-- Bytes outside the written range stay. -/
theorem byte_write (page : Page) (start index : Nat) (data : List UInt8) :
    (page.write start data).byte index =
      if start ≤ index ∧ index < start + data.length ∧ index < Address.pageSize then
        data[index - start]?.getD 0
      else page.byte index := by
  induction data generalizing page start with
  | nil =>
    rw [write, if_neg]
    simp only [List.length_nil]
    omega
  | cons byte rest ih =>
    rw [write, ih, byte_setIfInBounds, List.length_cons]
    rcases Nat.lt_trichotomy index start with before | same | after
    · rw [if_neg (by omega), if_neg (by omega), if_neg (by omega)]
    · subst same
      by_cases inside : index < Address.pageSize
      · rw [if_neg (by omega), if_pos ⟨rfl, inside⟩, if_pos (by omega), Nat.sub_self]
        rfl
      · rw [if_neg (by omega), if_neg (by omega), if_neg (by omega)]
    · have later : index - start = index - (start + 1) + 1 := by omega
      rw [later, List.getElem?_cons_succ]
      by_cases inside : index < start + 1 + rest.length ∧ index < Address.pageSize
      · rw [if_pos (by omega), if_pos (by omega)]
      · rw [if_neg (by omega), if_neg (by omega), if_neg (by omega)]

@[simp]
theorem length_read (page : Page) (start length : Nat) :
    (page.read start length).length = length := by
  simp [read]

/-- The stretches of bytes other than zero, each with where it starts. -/
def runs (page : Page) : List (Nat × List UInt8) :=
  page.bytes.toList.zipIdx.foldr
    (fun (byte, index) later =>
      if byte = 0 then later
      else match later with
        | (next, bytes) :: rest =>
          if next = index + 1 then (index, byte :: bytes) :: rest else (index, [byte]) :: later
        | [] => [(index, [byte])])
    []

/-- The words other than zero, each with its number. -/
def words (page : Page) : List (Nat × UInt64) :=
  ((List.range Address.entriesPerTable).map fun i => (i, Word.ofBytes (page.read (8 * i) 8))).filter
    fun (_, word) => word ≠ 0

/-- A page of words, zero where none is given. -/
def ofWords (words : List (Nat × UInt64)) : Page :=
  words.foldl (fun page (i, word) => page.write (8 * i) (Word.toBytes word)) zero

end Page

end GuestResume
