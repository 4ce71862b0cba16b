import GuestResume.Memory.Command

/-! Programs that are put together from accesses inside one page. What relates two such programs and
survives sequencing holds of everything that goes through a page table as soon as it holds of the
accesses, so each way of looking at two memories has to be checked on the accesses alone. -/

namespace GuestResume

/-- A relation between programs on two memories that is kept when programs follow one another. -/
structure Congruence (σ τ : Type) where
  related : {α : Type} → Access σ α → Access τ α → Prop
  pure : ∀ {α : Type} (value : α), related (Pure.pure value) (Pure.pure value)
  bind : ∀ {α β : Type} {first : Access σ α} {second : Access τ α} {next : α → Access σ β}
    {further : α → Access τ β}, related first second → (∀ value, related (next value) (further value)) →
      related (first >>= next) (second >>= further)

namespace Congruence

variable {σ τ α : Type} (congruence : Congruence σ τ)

theorem mapM {κ : Type} {first : κ → Access σ α} {second : κ → Access τ α}
    (each : ∀ item, congruence.related (first item) (second item)) (items : List κ) :
    congruence.related (items.mapM first) (items.mapM second) := by
  induction items with
  | nil => exact congruence.pure []
  | cons item rest ih =>
    rw [List.mapM_cons, List.mapM_cons]
    exact congruence.bind (each item) fun value => congruence.bind ih fun values =>
      congruence.pure (value :: values)

end Congruence

/-- Accesses inside one page are related, and so are the failures of a lookup and of taking a buffer. -/
structure Bus.Linked {σ τ : Type} (congruence : Congruence σ τ) (first : Bus σ) (second : Bus τ) :
    Prop where
  locate : ∀ gpa, congruence.related (first.locate gpa) (second.locate gpa)
  read : ∀ gpa length, congruence.related (first.read gpa length) (second.read gpa length)
  write : ∀ gpa data, congruence.related (first.write gpa data) (second.write gpa data)
  unmapped : ∀ gva, congruence.related (throw (.unmapped gva) : Access σ Entry) (throw (.unmapped gva))
  nonCanonical : ∀ gva,
    congruence.related (throw (.nonCanonical gva) : Access σ Target) (throw (.nonCanonical gva))
  noRoom : ∀ length,
    congruence.related (throw (.noRoom length) : Access σ (List UInt8)) (throw (.noRoom length))

namespace Bus.Linked

variable {σ τ : Type} {congruence : Congruence σ τ} {first : Bus σ} {second : Bus τ}

theorem readWord (linked : Bus.Linked congruence first second) (gpa : Address) :
    congruence.related (first.readWord gpa) (second.readWord gpa) :=
  congruence.bind (linked.read gpa 8) fun bytes => congruence.pure (Word.ofBytes bytes)

theorem presentEntry (linked : Bus.Linked congruence first second) (gva : Address) (level : Nat)
    (table : Address) :
    congruence.related (first.presentEntry gva level table) (second.presentEntry gva level table) := by
  refine congruence.bind (linked.readWord _) fun entry => ?_
  split
  · exact congruence.pure entry
  · exact linked.unmapped gva

theorem walk (linked : Bus.Linked congruence first second) (gva : Address) (level : Nat)
    (table : Address) :
    congruence.related (first.walk gva level table) (second.walk gva level table) := by
  induction level generalizing table with
  | zero =>
    exact congruence.bind (linked.presentEntry gva 0 table) fun entry =>
      congruence.pure (entry.target .size4K gva)
  | succ level ih =>
    refine congruence.bind (linked.presentEntry gva (level + 1) table) fun entry => ?_
    split
    · exact congruence.pure _
    · exact ih entry.frame

theorem lookup (linked : Bus.Linked congruence first second) (cr3 gva : Address) :
    congruence.related (first.lookup cr3 gva) (second.lookup cr3 gva) := by
  unfold Bus.lookup
  split
  · exact linked.walk gva 3 _
  · exact linked.nonCanonical gva

theorem physical (linked : Bus.Linked congruence first second) (cr3 gva : Address) :
    congruence.related (first.physical cr3 gva) (second.physical cr3 gva) :=
  congruence.bind (linked.lookup cr3 gva) fun target => congruence.pure target.address

theorem readChunks (linked : Bus.Linked congruence first second) (cr3 : Address) (chunks : List Chunk) :
    congruence.related (first.readChunks cr3 chunks) (second.readChunks cr3 chunks) := by
  induction chunks with
  | nil => exact congruence.pure []
  | cons chunk rest ih =>
    refine congruence.bind (linked.physical cr3 chunk.address) fun gpa => ?_
    exact congruence.bind (linked.read gpa chunk.length) fun bytes => congruence.bind ih fun later =>
      congruence.pure (bytes ++ later)

theorem readVirtual (linked : Bus.Linked congruence first second) (cr3 gva : Address) (length : Nat) :
    congruence.related (first.readVirtual cr3 gva length) (second.readVirtual cr3 gva length) := by
  unfold Bus.readVirtual
  split
  · exact linked.noRoom length
  · exact linked.readChunks cr3 (Chunk.split gva length)

theorem writeChunks (linked : Bus.Linked congruence first second) (cr3 : Address) (data : List UInt8)
    (chunks : List Chunk) :
    congruence.related (first.writeChunks cr3 data chunks) (second.writeChunks cr3 data chunks) := by
  induction chunks with
  | nil => exact congruence.pure ()
  | cons chunk rest ih =>
    refine congruence.bind (linked.physical cr3 chunk.address) fun gpa => ?_
    exact congruence.bind (linked.write gpa (chunk.slice data)) fun _ => ih

theorem writeVirtual (linked : Bus.Linked congruence first second) (cr3 gva : Address)
    (data : List UInt8) :
    congruence.related (first.writeVirtual cr3 gva data) (second.writeVirtual cr3 gva data) :=
  linked.writeChunks cr3 data (Chunk.split gva data.length)

theorem readTable (linked : Bus.Linked congruence first second) (subtable : Subtable) :
    congruence.related (first.readTable subtable) (second.readTable subtable) :=
  congruence.bind (congruence.mapM (fun _ => linked.readWord _) _) fun entries =>
    congruence.pure (subtable, entries)

theorem enumerate (linked : Bus.Linked congruence first second) (level : Nat)
    (subtables : List Subtable) :
    congruence.related (first.enumerate level subtables) (second.enumerate level subtables) := by
  induction level generalizing subtables with
  | zero => exact congruence.bind (congruence.mapM linked.readTable subtables) fun _ => congruence.pure _
  | succ level ih =>
    exact congruence.bind (congruence.mapM linked.readTable subtables) fun tables =>
      congruence.bind (ih _) fun _ => congruence.pure _

theorem records (linked : Bus.Linked congruence first second) (cr3 : Address) :
    congruence.related (first.records cr3) (second.records cr3) :=
  congruence.bind (linked.enumerate 3 _) fun _ => congruence.pure _

theorem run (linked : Bus.Linked congruence first second) (command : BusCommand) :
    congruence.related (first.run command) (second.run command) := by
  cases command with
  | locate gpa => exact congruence.bind (linked.locate gpa) fun _ => congruence.pure _
  | read gpa length => exact congruence.bind (linked.read gpa length) fun _ => congruence.pure _
  | write gpa data => exact congruence.bind (linked.write gpa data) fun _ => congruence.pure _
  | lookup cr3 gva => exact congruence.bind (linked.lookup cr3 gva) fun _ => congruence.pure _
  | physical cr3 gva => exact congruence.bind (linked.physical cr3 gva) fun _ => congruence.pure _
  | readVirtual cr3 gva length =>
    exact congruence.bind (linked.readVirtual cr3 gva length) fun _ => congruence.pure _
  | writeVirtual cr3 gva data =>
    exact congruence.bind (linked.writeVirtual cr3 gva data) fun _ => congruence.pure _

end Bus.Linked

end GuestResume
