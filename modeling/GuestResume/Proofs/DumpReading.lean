import GuestResume.Cpu.Dump
import GuestResume.Proofs.HexCells
import Mathlib.Data.List.Basic

/-! What the printed state of a processor tells about it. The short form tells the general registers, the
instruction pointer, the flags and the selectors; the full form begins with the short one and tells the system
registers as well. Two states that differ in any of these are printed differently. -/

namespace GuestResume

open Text (Cell)

theorem not_mem_intercalate {α : Type} {item : α} {sep : List α} {lists : List (List α)} (between : item ∉ sep)
    (inside : ∀ list ∈ lists, item ∉ list) : item ∉ sep.intercalate lists := by
  induction lists with
  | nil => simp
  | cons list rest ih =>
    obtain ⟨here, later⟩ := List.forall_mem_cons.mp inside
    obtain _ | ⟨next, rest⟩ := rest
    · simpa using here
    · rw [List.intercalate_cons_of_ne_nil (List.cons_ne_nil _ _)]
      simp [here, between, ih later]

theorem intercalate_cons {α : Type} (sep first : List α) (rest : List (List α)) :
    sep.intercalate (first :: rest) = first ++ rest.flatMap (sep ++ ·) := by
  induction rest generalizing first with
  | nil => simp
  | cons next rest ih => rw [List.intercalate_cons_cons, ih, List.flatMap_cons, List.append_assoc, List.append_assoc]

/-- The parts of a text are got back if none of them has the separator inside. -/
theorem intercalate_inj {sep : Char} {parts others : List (List Char)} (nonempty : parts ≠ [])
    (same : [sep].intercalate parts = [sep].intercalate others) (also : others ≠ [])
    (apart : ∀ part ∈ parts, sep ∉ part) (alsoApart : ∀ part ∈ others, sep ∉ part) : parts = others := by
  rw [← List.splitOn_intercalate sep apart nonempty, same, List.splitOn_intercalate sep alsoApart also]

theorem lines_inj {lines others : List String} (nonempty : lines ≠ []) (also : others ≠ [])
    (unbroken : ∀ line ∈ lines, '\n' ∉ line.toList) (alsoUnbroken : ∀ line ∈ others, '\n' ∉ line.toList)
    (same : "\n".intercalate lines = "\n".intercalate others) : lines = others := by
  have text := congrArg String.toList same
  have newline : "\n".toList = ['\n'] := rfl
  rw [String.toList_intercalate, String.toList_intercalate, newline] at text
  have parts := intercalate_inj (by simpa using nonempty) text (by simpa using also)
    (by simpa using unbroken) (by simpa using alsoUnbroken)
  exact List.map_injective_iff.mpr (fun _ _ => String.toList_injective) parts

namespace Register

variable {table : FlagTable}

theorem eq_of_value {a b : Register table} (same : a.value.toNat = b.value.toNat) : a = b := by
  obtain ⟨a⟩ := a
  obtain ⟨b⟩ := b
  exact congrArg Register.mk (UInt64.toNat_inj.mp same)

/-- The character is in none of the names of a table, nor in what stands around them. -/
def Spares (c : Char) (table : FlagTable) : Prop :=
  c ∉ "(flags=,)".toList ∧ c ∉ table.name.toList ∧ ∀ flag ∈ table.flags, c ∉ flag.name.toList

instance (c : Char) (table : FlagTable) : Decidable (Spares c table) :=
  inferInstanceAs (Decidable (_ ∧ _))

theorem not_mem_render {c : Char} (spares : Spares c table) (register : Register table) :
    c ∉ register.render.toList := by
  obtain ⟨around, name, flags⟩ := spares
  have names : ∀ text ∈ (register.setFlags.map Flag.name).map String.toList, c ∉ text := by
    simp only [List.map_map, List.mem_map, Function.comp_apply]
    rintro _ ⟨flag, listed, rfl⟩
    exact flags flag (List.mem_of_mem_filter listed)
  have pieces : "(flags=,)".toList = "(flags=".toList ++ ",".toList ++ ")".toList := rfl
  rw [pieces] at around
  simp only [List.mem_append, not_or] at around
  simp only [render, String.toList_append, String.toList_intercalate, List.mem_append, not_or]
  exact ⟨⟨⟨name, around.1.1⟩, not_mem_intercalate around.1.2 names⟩, around.2⟩

/-- The flags, an equals sign and the value are three words. -/
theorem renderFull_eq (register : Register table) :
    register.renderFull.toList =
      [' '].intercalate [register.render.toList, ['='], (Text.hex register.value.toNat).toList] := by
  simp [renderFull, List.intercalate]

theorem renderFull_inj (spares : Spares ' ' table) {a b : Register table} (same : a.renderFull = b.renderFull) :
    a = b := by
  have apart (register : Register table) :
      ∀ part ∈ [register.render.toList, ['='], (Text.hex register.value.toNat).toList], ' ' ∉ part := by
    simp only [List.forall_mem_cons]
    exact ⟨not_mem_render spares register, by decide, Text.not_mem_hex (by decide) (by decide), by simp⟩
  have text := congrArg String.toList same
  rw [renderFull_eq, renderFull_eq] at text
  have parts := intercalate_inj (by simp) text (by simp) (apart a) (apart b)
  simp only [List.cons.injEq] at parts
  exact eq_of_value (Text.hex_inj (String.toList_inj.mp parts.2.2.1))

theorem not_mem_renderFull (spares : Spares '\n' table) (register : Register table) :
    '\n' ∉ register.renderFull.toList := by
  rw [renderFull_eq]
  refine not_mem_intercalate (by decide) ?_
  simp only [List.forall_mem_cons]
  exact ⟨not_mem_render spares register, by decide, Text.not_mem_hex (by decide) (by decide), by simp⟩

end Register

namespace Cpu

variable {a b : Cpu}

/-- A label with the sign behind it. -/
def gprLabel (register : Gpr) : String :=
  String.ofList (register.name.toList.leftpad 3 ' ') ++ "="

def gprCells (cpu : Cpu) : List Gpr → List Cell
  | [] => []
  | first :: rest =>
    .word (gprLabel first) (cpu.gpr first) ::
      rest.map fun register => .word (" " ++ gprLabel register) (cpu.gpr register)

def pointerCells (cpu : Cpu) : List Cell :=
  [.word "rip=" cpu.rip, .word " rsp=" (cpu.gpr .rsp)]

def selectorCells (cpu : Cpu) : List Cell :=
  [.half "cs=" cpu.segments.cs.selector, .half "  ss=" cpu.segments.ss.selector,
    .half "  ds=" cpu.segments.ds.selector, .half "  es=" cpu.segments.es.selector,
    .half "  fs=" cpu.segments.fs.selector, .half "  gs=" cpu.segments.gs.selector]

def baseCells (cpu : Cpu) : List Cell :=
  [.word "cr3=" cpu.cr3, .word " fsbase=" cpu.segments.fs.base, .word " gsbase=" cpu.segments.gs.base]

def tableCells (cpu : Cpu) : List Cell :=
  [.word "gdtr=" cpu.gdtr.base, .half ":" cpu.gdtr.limit, .word " idtr=" cpu.idtr.base, .half ":" cpu.idtr.limit]

theorem gprCell_eq (cpu : Cpu) (register : Gpr) :
    (cpu.gprCell register).toList = (Cell.word (gprLabel register) (cpu.gpr register)).text := by
  simp [gprCell, gprLabel, Cell.text, Cell.word]

theorem gprLine_eq (cpu : Cpu) (row : List Gpr) : (cpu.gprLine row).toList = Cell.texts (cpu.gprCells row) := by
  cases row with
  | nil => simp [gprLine, gprCells, Cell.texts]
  | cons first rest =>
    rw [gprLine, String.toList_intercalate, List.map_map, List.map_cons, intercalate_cons]
    simp only [Function.comp_apply, gprCell_eq]
    simp [gprCells, Cell.texts, Cell.text, Cell.word, List.flatMap_map, Function.comp_def, gprCell_eq]

theorem pointerLine_eq (cpu : Cpu) : cpu.pointerLine.toList = Cell.texts cpu.pointerCells := by
  simp [pointerLine, pointerCells, Cell.texts, Cell.text, Cell.word]

theorem segmentLine_eq (cpu : Cpu) :
    cpu.segmentLine.toList = Cell.texts cpu.selectorCells ++
      ("             efl=".toList ++ (Text.hexPadded 8 cpu.rflags.value.toNat).toList) := by
  simp [segmentLine, selectorCell, selectorCells, Cell.texts, Cell.text, Cell.half]

theorem baseLine_eq (cpu : Cpu) : cpu.baseLine.toList = Cell.texts cpu.baseCells := by
  simp [baseLine, baseCells, Cell.texts, Cell.text, Cell.word]

theorem tableLine_eq (cpu : Cpu) :
    cpu.tableLine.toList = Cell.texts cpu.tableCells ++ (" mode=".toList ++ cpu.mode.name.toList) := by
  simp [tableLine, tableCell, tableCells, Cell.texts, Cell.text, Cell.word, Cell.half]

theorem gprLine_inj {row : List Gpr} (same : a.gprLine row = b.gprLine row) :
    ∀ register ∈ row, a.gpr register = b.gpr register := by
  have text := congrArg String.toList same
  rw [gprLine_eq, gprLine_eq] at text
  cases row with
  | nil => simp
  | cons first rest =>
    have cells := Cell.eq_of_texts (by simp [gprCells, Cell.shape, Cell.word]) text
    simpa [gprCells, Cell.word_inj] using cells

theorem pointerLine_inj (same : a.pointerLine = b.pointerLine) : a.rip = b.rip ∧ a.gpr .rsp = b.gpr .rsp := by
  have text := congrArg String.toList same
  rw [pointerLine_eq, pointerLine_eq] at text
  have cells := Cell.eq_of_texts (by simp [pointerCells, Cell.shape, Cell.word]) text
  simpa [pointerCells, Cell.word_inj] using cells

/-- The selectors of two states are the same. -/
structure SameSelectors (a b : Segments) : Prop where
  cs : a.cs.selector = b.cs.selector
  ss : a.ss.selector = b.ss.selector
  ds : a.ds.selector = b.ds.selector
  es : a.es.selector = b.es.selector
  fs : a.fs.selector = b.fs.selector
  gs : a.gs.selector = b.gs.selector

theorem segmentLine_inj (same : a.segmentLine = b.segmentLine) :
    SameSelectors a.segments b.segments ∧ a.rflags = b.rflags := by
  have text := congrArg String.toList same
  rw [segmentLine_eq, segmentLine_eq] at text
  obtain ⟨cells, flags⟩ := Cell.texts_inj (by simp [selectorCells, Cell.shape, Cell.half]) text
  have value := Text.hexPadded_inj (String.toList_inj.mp (List.append_cancel_left flags))
  simp only [selectorCells, List.cons.injEq, Cell.half_inj, and_true] at cells
  obtain ⟨cs, ss, ds, es, fs, gs⟩ := cells
  exact ⟨⟨cs, ss, ds, es, fs, gs⟩, Register.eq_of_value value⟩

theorem baseLine_inj (same : a.baseLine = b.baseLine) :
    a.cr3 = b.cr3 ∧ a.segments.fs.base = b.segments.fs.base ∧ a.segments.gs.base = b.segments.gs.base := by
  have text := congrArg String.toList same
  rw [baseLine_eq, baseLine_eq] at text
  have cells := Cell.eq_of_texts (by simp [baseCells, Cell.shape, Cell.word]) text
  simpa [baseCells, Cell.word_inj] using cells

theorem tableLine_inj (same : a.tableLine = b.tableLine) : a.gdtr = b.gdtr ∧ a.idtr = b.idtr := by
  have text := congrArg String.toList same
  rw [tableLine_eq, tableLine_eq] at text
  obtain ⟨cells, -⟩ := Cell.texts_inj (by simp [tableCells, Cell.shape, Cell.word, Cell.half]) text
  simp only [tableCells, List.cons.injEq, Cell.word_inj, Cell.half_inj, and_true] at cells
  obtain ⟨gdtrBase, gdtrLimit, idtrBase, idtrLimit⟩ := cells
  have table {first second : TableRegister} (base : first.base = second.base) (limit : first.limit = second.limit) :
      first = second := by
    cases first
    cases second
    cases base
    cases limit
    rfl
  exact ⟨table gdtrBase gdtrLimit, table idtrBase idtrLimit⟩

theorem unbroken_gprLine (cpu : Cpu) (row : List Gpr) : '\n' ∉ (cpu.gprLine row).toList := by
  have label (register : Gpr) : '\n' ∉ (gprLabel register).toList := by cases register <;> decide
  rw [gprLine_eq]
  refine Cell.not_mem_texts (by decide) ?_
  cases row with
  | nil => simp [gprCells]
  | cons first rest => simp [gprCells, Cell.word, label]

theorem unbroken_flagLine (cpu : Cpu) : '\n' ∉ cpu.flagLine.toList := by
  have words : ∀ word ∈ cpu.flagWords.map String.toList, '\n' ∉ word := by
    have listed : ∀ entry ∈ mnemonics, '\n' ∉ entry.2.1.toList ∧ '\n' ∉ entry.2.2.toList := by decide
    simp only [flagWords, List.map_map, List.mem_map, Function.comp_apply]
    rintro _ ⟨entry, member, rfl⟩
    split
    · exact (listed entry member).1
    · exact (listed entry member).2
  have level : '\n' ∉ (Text.padRight 9 (toString cpu.ioPrivilege)).toList := by
    rw [ioPrivilege]
    cases cpu.rflags.get Rflags.ioplHigh <;> cases cpu.rflags.get Rflags.ioplLow <;> decide
  have label : '\n' ∉ "iopl=".toList := by decide
  have space : '\n' ∉ " ".toList := by decide
  simp only [flagLine, String.toList_append, String.toList_intercalate, List.mem_append, not_or]
  exact ⟨⟨⟨label, level⟩, space⟩, not_mem_intercalate space words⟩

theorem unbroken_dumpLines (cpu : Cpu) : ∀ line ∈ cpu.dumpLines, '\n' ∉ line.toList := by
  intro line member
  obtain printed | rest := List.mem_append.mp member
  · obtain ⟨row, -, rfl⟩ := List.mem_map.mp printed
    exact unbroken_gprLine cpu row
  · simp only [List.mem_cons, List.not_mem_nil, or_false] at rest
    obtain rfl | rfl | rfl := rest
    · rw [pointerLine_eq]
      exact Cell.not_mem_texts (by decide) (by simp [pointerCells, Cell.word])
    · exact unbroken_flagLine cpu
    · have label : '\n' ∉ "             efl=".toList := by decide
      rw [segmentLine_eq, List.mem_append, List.mem_append, not_or, not_or]
      exact ⟨Cell.not_mem_texts (by decide) (by simp [selectorCells, Cell.half]), label,
        Text.not_mem_hexPadded (by decide)⟩

theorem unbroken_systemLines (cpu : Cpu) : ∀ line ∈ cpu.systemLines, '\n' ∉ line.toList := by
  simp only [systemLines, List.forall_mem_cons]
  refine ⟨Register.not_mem_renderFull (by decide) _, Register.not_mem_renderFull (by decide) _,
    Register.not_mem_renderFull (by decide) _, Register.not_mem_renderFull (by decide) _, ?_, ?_, by simp⟩
  · rw [baseLine_eq]
    exact Cell.not_mem_texts (by decide) (by simp [baseCells, Cell.word])
  · have mode : '\n' ∉ cpu.mode.name.toList := by cases cpu.mode <;> decide
    have label : '\n' ∉ " mode=".toList := by decide
    rw [tableLine_eq, List.mem_append, List.mem_append, not_or, not_or]
    exact ⟨Cell.not_mem_texts (by decide) (by simp [tableCells, Cell.word, Cell.half]), label, mode⟩

/-- The general registers are printed in rows, and the stack pointer by itself. -/
theorem mem_gprRows (register : Gpr) : (∃ row ∈ gprRows, register ∈ row) ∨ register = .rsp := by
  cases register <;> decide

/-- What the short form tells of a state. -/
structure SameThread (a b : Cpu) : Prop where
  gpr : ∀ register, a.gpr register = b.gpr register
  rip : a.rip = b.rip
  rflags : a.rflags = b.rflags
  selectors : SameSelectors a.segments b.segments

/-- What the full form tells besides. -/
structure SameSystem (a b : Cpu) : Prop where
  cr0 : a.cr0 = b.cr0
  cr3 : a.cr3 = b.cr3
  cr4 : a.cr4 = b.cr4
  efer : a.efer = b.efer
  xcr0 : a.xcr0 = b.xcr0
  fsBase : a.segments.fs.base = b.segments.fs.base
  gsBase : a.segments.gs.base = b.segments.gs.base
  gdtr : a.gdtr = b.gdtr
  idtr : a.idtr = b.idtr

theorem sameThread_of_lines (same : a.dumpLines = b.dumpLines) : SameThread a b := by
  obtain ⟨rows, rest⟩ := List.append_inj same (by simp)
  simp only [List.cons.injEq, and_true] at rest
  obtain ⟨pointers, -, segments⟩ := rest
  obtain ⟨rip, rsp⟩ := pointerLine_inj pointers
  obtain ⟨selectors, rflags⟩ := segmentLine_inj segments
  refine ⟨fun register => ?_, rip, rflags, selectors⟩
  obtain ⟨row, listed, inside⟩ | rfl := mem_gprRows register
  · exact gprLine_inj (List.map_inj_left.mp rows row listed) register inside
  · exact rsp

theorem sameSystem_of_lines (same : a.systemLines = b.systemLines) : SameSystem a b := by
  simp only [systemLines, List.cons.injEq, and_true] at same
  obtain ⟨cr0, cr4, efer, xcr0, bases, tables⟩ := same
  obtain ⟨cr3, fsBase, gsBase⟩ := baseLine_inj bases
  obtain ⟨gdtr, idtr⟩ := tableLine_inj tables
  exact ⟨Register.renderFull_inj (by decide) cr0, cr3, Register.renderFull_inj (by decide) cr4,
    Register.renderFull_inj (by decide) efer, Register.renderFull_inj (by decide) xcr0, fsBase, gsBase, gdtr, idtr⟩

theorem dumpLines_ne_nil (cpu : Cpu) : cpu.dumpLines ≠ [] :=
  List.append_ne_nil_of_right_ne_nil _ (List.cons_ne_nil _ _)

theorem systemLines_ne_nil (cpu : Cpu) : cpu.systemLines ≠ [] :=
  List.cons_ne_nil _ _

theorem dumpFull_eq (cpu : Cpu) : cpu.dumpFull = cpu.dump ++ "\n" ++ "\n".intercalate cpu.systemLines :=
  String.intercalate_append_of_ne_nil cpu.dumpLines_ne_nil cpu.systemLines_ne_nil

theorem unbroken_lines (cpu : Cpu) : ∀ line ∈ cpu.dumpLines ++ cpu.systemLines, '\n' ∉ line.toList :=
  List.forall_mem_append.mpr ⟨cpu.unbroken_dumpLines, cpu.unbroken_systemLines⟩

end Cpu

/-- States that are printed alike in the full form have the same general registers, instruction pointer, flags and
selectors, and the same control registers, page-table root, bases of FS and GS and descriptor tables. The short
form is enough for the first group. It is what the full form begins with. -/
theorem dump_tells_registers (a b : Cpu) :
    (a.dump = b.dump → Cpu.SameThread a b) ∧
    (a.dumpFull = b.dumpFull → Cpu.SameThread a b ∧ Cpu.SameSystem a b) ∧
    a.dump.toList <+: a.dumpFull.toList := by
  refine ⟨?_, ?_, ?_⟩
  · intro same
    exact Cpu.sameThread_of_lines
      (lines_inj a.dumpLines_ne_nil b.dumpLines_ne_nil a.unbroken_dumpLines b.unbroken_dumpLines same)
  · intro same
    have lines := lines_inj (List.append_ne_nil_of_left_ne_nil a.dumpLines_ne_nil _)
      (List.append_ne_nil_of_left_ne_nil b.dumpLines_ne_nil _) a.unbroken_lines b.unbroken_lines same
    have count : a.dumpLines.length = b.dumpLines.length := by simp [Cpu.dumpLines]
    obtain ⟨thread, system⟩ := List.append_inj lines count
    exact ⟨Cpu.sameThread_of_lines thread, Cpu.sameSystem_of_lines system⟩
  · rw [Cpu.dumpFull_eq, String.toList_append, String.toList_append, List.append_assoc]
    exact List.prefix_append _ _

/-- A state with a flag word that takes more digits than the dump has room for. -/
def Cpu.wideFlags : Cpu where
  rip := 0x7FF612340000
  rflags := { value := 0x10000000246 }
  cr0 := ModeEntry.long.cr0
  cr3 := 0x1AD000

/-- A base that is not printed makes no difference to the dump, and the highest flag makes one. -/
theorem dump_tells_registers_wideFlags :
    let other : Cpu := { Cpu.wideFlags with segments := { ds := { base := 5 } } }
    let lower : Cpu := { Cpu.wideFlags with rflags := { value := 0x246 } }
    other ≠ Cpu.wideFlags ∧ other.dumpFull = Cpu.wideFlags.dumpFull ∧ Cpu.SameThread other Cpu.wideFlags ∧
      Cpu.SameSystem other Cpu.wideFlags ∧ lower.dump ≠ Cpu.wideFlags.dump := by
  intro other lower
  have same : other.dumpFull = Cpu.wideFlags.dumpFull := rfl
  obtain ⟨-, full, -⟩ := dump_tells_registers other Cpu.wideFlags
  obtain ⟨short, -⟩ := dump_tells_registers lower Cpu.wideFlags
  obtain ⟨thread, system⟩ := full same
  refine ⟨by decide, same, thread, system, fun printed => ?_⟩
  exact absurd (short printed).rflags (by decide)

end GuestResume
