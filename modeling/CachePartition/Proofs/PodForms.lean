import CachePartition.PodCpus.Codec
import CachePartition.Proofs.WireFields

/-! Messages about pinned CPUs. A pod has many wire forms: fields nobody knows may stand anywhere, and CPU
ids come singly or in packs. All are read as the pod, and what is written of it is one of them. -/
namespace CachePartition

open Wire

namespace Wire

/-- The field of a text, which the empty text need not have. -/
inductive TextForm (number : Nat) : String → Bytes → Prop where
  | absent : TextForm number "" []
  | present {t : String} {k l : Bytes} (key : Key number 2 k) (length : Varint (textBytes t).length l) :
      TextForm number t (k ++ (l ++ textBytes t))

/-- Numbers one after the other. -/
inductive Packed : List Int64 → Bytes → Prop where
  | nil : Packed [] []
  | cons {id : Int64} {ids : List Int64} {v s : Bytes} (first : Varint id.toUInt64.toNat v)
      (others : Packed ids s) : Packed (id :: ids) (v ++ s)

variable {number depth : Nat} {t : String} {ids : List Int64} {s rest : Bytes}

theorem text?_textBytes (t : String) : text? (textBytes t) = some t := by
  have valid : t.toByteArray.IsValidUTF8 := t.isValidUTF8
  simp [text?, textBytes, String.fromUTF8?, valid]
  rfl

theorem int64_ofNat_toUInt64 (id : Int64) : Int64.ofNat id.toUInt64.toNat = id := by
  simp [Int64.ofNat]

/-- A text is read as itself. Where it is left out, the state must have the empty text already. -/
theorem Leads.text {σ : Type} {take? : σ → Field → Option σ} {a b c : σ}
    (h : Leads depth take? rest b c) (form : TextForm number t s)
    (first : take? a (.bytes number (textBytes t)) = some b) (unset : t = "" → b = a) :
    Leads depth take? (s ++ rest) a c := by
  cases form with
  | absent => exact unset rfl ▸ h
  | present key length =>
    exact h.plain key (by decide) (readPlain?_counted length number rest) first

theorem Packed.read (h : Packed ids s) : (readPacked? s).map (fun l => l.map .ofNat) = some ids := by
  have all (fuel : Nat) (enough : s.length ≤ fuel) :
      readPackedFrom? fuel s = some (ids.map fun id => id.toUInt64.toNat) := by
    induction h generalizing fuel with
    | nil => cases fuel <;> rfl
    | @cons id ids v s first others ih =>
      have pos := first.groups.length_pos
      rw [List.length_append] at enough
      obtain ⟨fuel, rfl⟩ : ∃ m, fuel = m + 1 := ⟨fuel - 1, by omega⟩
      have read := first.read s
      have filled : 0 < (v ++ s).length := by
        rw [List.length_append]
        omega
      obtain ⟨b, r, cons⟩ := List.exists_cons_of_length_pos filled
      rw [cons] at read ⊢
      simp only [readPackedFrom?, read, ih fuel (by omega), Option.map_some, List.map_cons]
  rw [readPacked?, all _ (Nat.le_refl _)]
  simp [Function.comp_def, int64_ofNat_toUInt64]

end Wire

/-- The wire forms of CPU ids: single fields and packed ones in any mixture, fields of other numbers
anywhere. -/
inductive CpuForm (depth : Nat) : List Int64 → Bytes → Prop where
  | nil : CpuForm depth [] []
  | unknown {ids : List Int64} {u s : Bytes} (fields : Unknown [1, 3] depth u)
      (others : CpuForm depth ids s) : CpuForm depth ids (u ++ s)
  | single {id : Int64} {ids : List Int64} {k v s : Bytes} (key : Key 3 0 k)
      (value : Varint id.toUInt64.toNat v) (others : CpuForm depth ids s) :
      CpuForm depth (id :: ids) (k ++ v ++ s)
  | packed {chunk ids : List Int64} {k l p s : Bytes} (key : Key 3 2 k) (length : Varint p.length l)
      (payload : Packed chunk p) (others : CpuForm depth ids s) :
      CpuForm depth (chunk ++ ids) (k ++ (l ++ p) ++ s)

/-- The wire forms of a container. -/
inductive ContainerForm (depth : Nat) (c : ContainerCpus) : Bytes → Prop where
  | mk {u n s : Bytes} (before : Unknown [1, 3] depth u) (name : TextForm 1 c.name n)
      (ids : CpuForm depth c.cpuIds s) : ContainerForm depth c (u ++ (n ++ s))

/-- The wire forms of the containers of a pod, fields of other numbers anywhere. -/
inductive ContainersForm (depth : Nat) : List ContainerCpus → Bytes → Prop where
  | nil : ContainersForm depth [] []
  | unknown {cs : List ContainerCpus} {u s : Bytes} (fields : Unknown [1, 2, 3] (depth + 1) u)
      (others : ContainersForm depth cs s) : ContainersForm depth cs (u ++ s)
  | cons {c : ContainerCpus} {cs : List ContainerCpus} {k l b s : Bytes} (key : Key 3 2 k)
      (length : Varint b.length l) (container : ContainerForm depth c b)
      (others : ContainersForm depth cs s) : ContainersForm depth (c :: cs) (k ++ (l ++ b) ++ s)

/-- The wire forms of a pod, with groups nested in its containers at most `depth` deep. -/
inductive PodForm (depth : Nat) (p : PodCpus) : Bytes → Prop where
  | mk {u n w m s : Bytes} (before : Unknown [1, 2, 3] (depth + 1) u) (name : TextForm 1 p.name n)
      (between : Unknown [1, 2, 3] (depth + 1) w) (space : TextForm 2 p.space m)
      (containers : ContainersForm depth p.containers s) : PodForm depth p (u ++ (n ++ (w ++ (m ++ s))))

section Reading

variable {depth : Nat} {s : Bytes}

namespace ContainerCpus

theorem take?_unknown (c : ContainerCpus) (f : Field) (h : f.number ∉ [1, 3]) : c.take? f = some c := by
  simp only [List.mem_cons, List.not_mem_nil, or_false, not_or] at h
  unfold take?
  split
  · exact absurd ‹_› h.1
  · exact absurd ‹_› h.2
  · rfl

theorem take?_name (c : ContainerCpus) (t : String) :
    c.take? (.bytes 1 (textBytes t)) = some { c with name := t } := by
  simp [take?, Field.number, Field.text?, text?_textBytes]

theorem take?_single (c : ContainerCpus) (id : Int64) :
    c.take? (.varint 3 id.toUInt64.toNat) = some { c with cpuIds := c.cpuIds ++ [id] } := by
  simp [take?, Field.number, Field.int64s?, int64_ofNat_toUInt64]

theorem take?_packed (c : ContainerCpus) {ids : List Int64} (h : Packed ids s) :
    c.take? (.bytes 3 s) = some { c with cpuIds := c.cpuIds ++ ids } := by
  simp [take?, Field.number, Field.int64s?, h.read]

end ContainerCpus

/-- CPU ids are added in their order, however they are packed. -/
theorem CpuForm.leads {ids : List Int64} (h : CpuForm depth ids s) (c : ContainerCpus) :
    Leads depth ContainerCpus.take? s c { c with cpuIds := c.cpuIds ++ ids } := by
  induction h generalizing c with
  | nil =>
    rw [List.append_nil]
    exact .nil
  | unknown fields _ ih => exact (ih c).unknown fields ContainerCpus.take?_unknown
  | @single id ids k v s key value _ ih =>
    have rest := ih { c with cpuIds := c.cpuIds ++ [id] }
    rw [List.append_assoc, List.singleton_append] at rest
    exact rest.plain key (by decide) (readPlain?_varint value 3 s) (c.take?_single id)
  | @packed chunk ids k l p s key length payload _ ih =>
    have rest := ih { c with cpuIds := c.cpuIds ++ chunk }
    rw [List.append_assoc] at rest
    exact rest.plain key (by decide) (readPlain?_counted length 3 s) (c.take?_packed payload)

theorem ContainerForm.read {c : ContainerCpus} (h : ContainerForm depth c s) :
    ContainerCpus.read? depth s = some c := by
  cases h with
  | mk before name ids =>
    have named := (ids.leads { name := c.name }).text name (ContainerCpus.take?_name {} c.name)
      fun empty => by rw [empty]
    obtain ⟨fs, row, taken⟩ := (named.unknown before ContainerCpus.take?_unknown).read
    rw [ContainerCpus.read?, row]
    exact taken

namespace PodCpus

theorem take?_unknown (depth : Nat) (p : PodCpus) (f : Field) (h : f.number ∉ [1, 2, 3]) :
    p.take? depth f = some p := by
  simp only [List.mem_cons, List.not_mem_nil, or_false, not_or] at h
  unfold take?
  split
  · exact absurd ‹_› h.1
  · exact absurd ‹_› h.2.1
  · exact absurd ‹_› h.2.2
  · rfl

theorem take?_name (depth : Nat) (p : PodCpus) (t : String) :
    p.take? depth (.bytes 1 (textBytes t)) = some { p with name := t } := by
  simp [take?, Field.number, Field.text?, text?_textBytes]

theorem take?_space (depth : Nat) (p : PodCpus) (t : String) :
    p.take? depth (.bytes 2 (textBytes t)) = some { p with space := t } := by
  simp [take?, Field.number, Field.text?, text?_textBytes]

theorem take?_container (p : PodCpus) {c : ContainerCpus} (h : ContainerForm depth c s) :
    p.take? (depth + 1) (.bytes 3 s) = some { p with containers := p.containers ++ [c] } := by
  simp [take?, Field.number, readNested?, h.read]

end PodCpus

theorem ContainersForm.leads {cs : List ContainerCpus} (h : ContainersForm depth cs s) (p : PodCpus) :
    Leads (depth + 1) (PodCpus.take? (depth + 1)) s p { p with containers := p.containers ++ cs } := by
  induction h generalizing p with
  | nil =>
    rw [List.append_nil]
    exact .nil
  | unknown fields _ ih => exact (ih p).unknown fields (PodCpus.take?_unknown _)
  | @cons c cs k l b s key length container _ ih =>
    have rest := ih { p with containers := p.containers ++ [c] }
    rw [List.append_assoc, List.singleton_append] at rest
    exact rest.plain key (by decide) (readPlain?_counted length 3 s) (p.take?_container container)

/-- Every wire form of a pod is read as the pod. -/
theorem PodForm.read {p : PodCpus} (h : PodForm depth p s) :
    PodCpus.readWithin? (depth + 1) s = some p := by
  cases h with
  | mk before name between space containers =>
    have placed := (containers.leads { name := p.name, space := p.space }).text space
      (PodCpus.take?_space _ { name := p.name } p.space) fun empty => by rw [empty]
    have named := (placed.unknown between (PodCpus.take?_unknown _)).text name
      (PodCpus.take?_name _ {} p.name) fun empty => by rw [empty]
    obtain ⟨fs, row, taken⟩ := (named.unknown before (PodCpus.take?_unknown _)).read
    rw [PodCpus.readWithin?, row]
    exact taken

end Reading

section Writing

variable {number : Nat} {t : String}

theorem textForm_writeText (pos : 0 < number) (fits : number < 1 <<< 29)
    (short : (writeText number t).length < 1 <<< 64) : TextForm number t (writeText number t) := by
  unfold writeText at short ⊢
  split
  · next empty =>
    obtain rfl : t = "" := by simpa using empty
    exact .absent
  · next filled =>
    rw [if_neg filled] at short
    simp only [writeBytes, List.length_append] at short
    rw [writeBytes, List.append_assoc]
    exact .present (key_bytesKey pos fits) (varint_writeVarint (by omega))

theorem packed_writeVarint (ids : List Int64) :
    Packed ids (ids.flatMap fun id => writeVarint id.toUInt64.toNat) := by
  induction ids with
  | nil => exact .nil
  | cons id ids ih => exact .cons (varint_writeVarint id.toUInt64.toNat_lt) ih

theorem containerForm_write (depth : Nat) (c : ContainerCpus) (short : c.write.length < 1 <<< 64) :
    ContainerForm depth c c.write := by
  unfold ContainerCpus.write at short ⊢
  rw [List.length_append] at short
  refine .mk (u := []) .nil (textForm_writeText (by decide) (by decide) (by omega)) ?_
  split
  · next empty =>
    rw [List.isEmpty_iff.mp empty]
    exact .nil
  · next filled =>
    rw [if_neg filled] at short
    simp only [writeBytes, List.length_append] at short
    have packed : CpuForm depth (c.cpuIds ++ []) _ := .packed
      (key_bytesKey (by decide) (by decide))
      (varint_writeVarint (by omega)) (packed_writeVarint c.cpuIds) .nil
    simpa only [writeBytes, bytesKey, List.append_nil, List.append_assoc] using packed

theorem containersForm_write (depth : Nat) (cs : List ContainerCpus)
    (short : (cs.flatMap fun c => writeBytes 3 c.write).length < 1 <<< 64) :
    ContainersForm depth cs (cs.flatMap fun c => writeBytes 3 c.write) := by
  induction cs with
  | nil => exact .nil
  | cons c cs ih =>
    simp only [List.flatMap_cons, writeBytes, List.length_append] at short ih ⊢
    have form := ContainersForm.cons (key_bytesKey (by decide) (by decide))
      (varint_writeVarint (by omega)) (containerForm_write depth c (by omega)) (ih (by omega))
    simpa only [bytesKey, List.append_assoc] using form

theorem podForm_write (depth : Nat) (p : PodCpus) (short : p.write.length < 1 <<< 64) :
    PodForm depth p p.write := by
  unfold PodCpus.write at short ⊢
  simp only [List.length_append] at short
  rw [List.append_assoc]
  exact .mk (u := []) (w := []) .nil (textForm_writeText (by decide) (by decide) (by omega)) .nil
    (textForm_writeText (by decide) (by decide) (by omega))
    (containersForm_write depth p.containers (by omega))

end Writing

/-- A pod is read from its message as it was. No message of `2 ^ 64` bytes can be held, so each length
in one is a number that the reader takes. -/
theorem PodCpus.read?_write (p : PodCpus) (held : p.write.length < 1 <<< 64) :
    PodCpus.read? p.write = some p := by
  have form : PodForm 99 p p.write := podForm_write 99 p held
  exact form.read

/-- A pod with an empty namespace and CPU ids at both ends of their range. -/
def extremePod : PodCpus where
  name := "größe"
  containers := [{}, { name := "web", cpuIds := [-1, 0, 127, 128, Int64.minValue, Int64.maxValue] }]

theorem PodCpus.read?_write_extremePod :
    extremePod.write.length < 1 <<< 64 ∧ PodCpus.read? extremePod.write = some extremePod := by
  have held : extremePod.write.length < 1 <<< 64 := by
    decide +kernel
  exact ⟨held, PodCpus.read?_write extremePod held⟩

/-- What is written of a pod is one of its wire forms, and in each of them, with unknown fields at any
place and CPU ids packed in any way, it is read as it was. -/
theorem pod_forms_read_alike (p : PodCpus) :
    (p.write.length < 1 <<< 64 → PodForm (wireDepth - 1) p p.write) ∧
      ∀ s, PodForm (wireDepth - 1) p s → PodCpus.read? s = some p := by
  constructor
  · intro held
    exact podForm_write (wireDepth - 1) p held
  · intro s form
    exact form.read

/-- A pod whose only container has two CPU ids. -/
def smallPod : PodCpus where
  name := "p"
  containers := [{ name := "c", cpuIds := [3, -1] }]

/-- The first id in a field of its own, the second in a pack, and a field of devices between them. -/
def mixedContainer : Bytes :=
  [0x0a, 1, 0x63, 0x18, 3, 0x12, 1, 0xff,
    0x1a, 10, 0xff, 0xff, 0xff, 0xff, 0xff, 0xff, 0xff, 0xff, 0xff, 1]

theorem mixedContainer_form : ContainerForm 99 { name := "c", cpuIds := [3, -1] } mixedContainer := by
  have three : Varint (3 : Int64).toUInt64.toNat [3] := varint_byte (by decide) (by decide)
  have ones : Varint (-1 : Int64).toUInt64.toNat (writeVarint (-1 : Int64).toUInt64.toNat) :=
    varint_writeVarint (UInt64.toNat_lt _)
  have nine : writeVarint (-1 : Int64).toUInt64.toNat =
      [0xff, 0xff, 0xff, 0xff, 0xff, 0xff, 0xff, 0xff, 0xff, 1] := by decide +kernel
  rw [nine] at ones
  have devices : Unknown [1, 3] 99 ([0x12] ++ ([1] ++ [0xff]) ++ []) :=
    .plain (by decide) (key_byte 0x12 (by decide) (by decide))
      (.counted (varint_byte (by decide) (by decide))) .nil
  have name : TextForm 1 "c" ([0x0a] ++ ([1] ++ textBytes "c")) :=
    .present (key_byte 0x0a (by decide) (by decide)) (varint_byte (by decide) (by decide))
  have last : CpuForm 99 ([-1] ++ []) ([0x1a] ++ ([10] ++ (_ ++ [])) ++ []) :=
    .packed (key_byte 0x1a (by decide) (by decide)) (varint_byte (by decide) (by decide))
      (.cons ones .nil) .nil
  have ids : CpuForm 99 [3, -1] ([0x18] ++ [3] ++ (_ ++ _)) :=
    .single (key_byte 0x18 (by decide) (by decide)) three (.unknown devices last)
  have container : ContainerForm 99 { name := "c", cpuIds := [3, -1] } ([] ++ (_ ++ _)) := .mk .nil name ids
  exact container

/-- Before the name a number that is longer than it need be, after it a group in a group, and eight bytes
at the end. -/
def crowdedPod : Bytes :=
  [0x48, 0x80, 0, 0x0a, 1, 0x70, 0x23, 0x0b, 0x0c, 0x24, 0x1a, 20] ++ mixedContainer ++
    [0x29, 1, 2, 3, 4, 5, 6, 7, 8]

theorem crowdedPod_form : PodForm (wireDepth - 1) smallPod crowdedPod := by
  have zero : Unknown [1, 2, 3] 100 ([0x48] ++ [0x80, 0] ++ []) :=
    .plain (by decide) (key_byte 0x48 (by decide) (by decide))
      (.varint ⟨.more (by decide) (.last (by decide)), by decide, by decide⟩) .nil
  have groups : Unknown [1, 2, 3] 100 ([0x23] ++ ([0x0b] ++ [] ++ [0x0c] ++ []) ++ [0x24] ++ []) :=
    .group (by decide) (key_byte 0x23 (by decide) (by decide))
      (.group (by decide) (key_byte 0x0b (by decide) (by decide)) .nil
        (key_byte 0x0c (by decide) (by decide)) .nil)
      (key_byte 0x24 (by decide) (by decide)) .nil
  have eight : Unknown [1, 2, 3] 100 ([0x29] ++ [1, 2, 3, 4, 5, 6, 7, 8] ++ []) :=
    .plain (by decide) (key_byte 0x29 (by decide) (by decide)) (.eight rfl) .nil
  have name : TextForm 1 "p" ([0x0a] ++ ([1] ++ textBytes "p")) :=
    .present (key_byte 0x0a (by decide) (by decide)) (varint_byte (by decide) (by decide))
  have containers : ContainersForm 99 smallPod.containers ([0x1a] ++ ([20] ++ mixedContainer) ++ (_ ++ [])) :=
    .cons (key_byte 0x1a (by decide) (by decide)) (varint_byte (by decide) (by decide)) mixedContainer_form
      (.unknown eight .nil)
  have pod : PodForm 99 smallPod (_ ++ (_ ++ (_ ++ ([] ++ _)))) := .mk zero name groups .absent containers
  exact pod

theorem pod_forms_read_alike_crowdedPod :
    (smallPod.write.length < 1 <<< 64 ∧ PodForm (wireDepth - 1) smallPod smallPod.write) ∧
      PodForm (wireDepth - 1) smallPod crowdedPod ∧ PodCpus.read? crowdedPod = some smallPod := by
  obtain ⟨written, read⟩ := pod_forms_read_alike smallPod
  have held : smallPod.write.length < 1 <<< 64 := by
    decide +kernel
  exact ⟨⟨held, written held⟩, crowdedPod_form, read crowdedPod crowdedPod_form⟩

end CachePartition
