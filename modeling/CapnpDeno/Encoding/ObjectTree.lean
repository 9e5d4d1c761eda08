import CapnpDeno.Encoding.PointerWord
import CapnpDeno.Lib.Fallible

/-!
# Object trees

What a pointer means: the tree of structs, lists and capabilities that `MessageReader` sees behind
it.  An object is a block of words, some of which are pointers (`Shape.slots`); its content is the
block with these words blanked.  Far pointers, segments and positions do not show in the tree.
-/

namespace CapnpDeno

open ByteList

/-! ## Shapes -/

/-- What a pointer says about the block it points to. -/
inductive Shape
  | struct (dataWordCount pointerCount : ℕ)
  | flat (elementSize elementCount : ℕ)
  | inlineComposite (wordsInElements elementCount dataWordCount pointerCount : ℕ)
deriving DecidableEq

/-- The words of a flat list. -/
def flatWords (elementSize count : ℕ) : ℕ :=
  match elementSize with
  | 1 => (count + 63) / 64
  | 2 => bytesToWords count
  | 3 => bytesToWords (count * 2)
  | 4 => bytesToWords (count * 4)
  | 5 | 6 => count
  | _ => 0

namespace Shape

/-- The size of the block, the tag of an inline composite list included. -/
def words : Shape → ℕ
  | struct dw pc => dw + pc
  | flat es n => flatWords es n
  | inlineComposite w _ _ _ => 1 + w

/-- The words of the block that are pointers. -/
def slots : Shape → List ℕ
  | struct dw pc => (List.range pc).map (dw + ·)
  | flat es n => if es = 6 then List.range n else []
  | inlineComposite _ n dw pc =>
    (List.range n).flatMap fun i => (List.range pc).map fun j => 1 + i * (dw + pc) + dw + j

/-- The bounds that the fields of a pointer word and of a tag impose. -/
def Valid : Shape → Prop
  | struct dw pc => dw < 2 ^ 16 ∧ pc < 2 ^ 16
  | flat es n => es < 7 ∧ n < 2 ^ 29
  | inlineComposite w n dw pc =>
    w < 2 ^ 29 ∧ n < 2 ^ 30 ∧ dw < 2 ^ 16 ∧ pc < 2 ^ 16 ∧ (dw + pc) * n ≤ w

/-- The pointer to a block `offset` words away. -/
def pointerWord (offset : ℤ) : Shape → ℕ
  | struct dw pc => structWord offset dw pc
  | flat es n => listWord offset es n
  | inlineComposite w _ _ _ => listWord offset 7 w

/-- The tag word at the start of an inline composite list. -/
def Tagged (block : Bytes) : Shape → Prop
  | inlineComposite _ n dw pc => readLE block 0 8 = tagWord n dw pc
  | _ => True

theorem slot_lt {shape : Shape} (valid : shape.Valid) {s : ℕ} (mem : s ∈ shape.slots) :
    s < shape.words := by
  cases shape with
  | struct dw pc =>
    obtain ⟨i, low, rfl⟩ := List.mem_map.1 mem
    rw [List.mem_range] at low
    show dw + i < dw + pc
    omega
  | flat es n =>
    by_cases pointers : es = 6
    · simp only [slots, pointers, if_true, List.mem_range] at mem
      rwa [words, pointers]
    · simp [slots, pointers] at mem
  | inlineComposite w n dw pc =>
    obtain ⟨-, -, -, -, fits⟩ := valid
    obtain ⟨i, low, mem⟩ := List.mem_flatMap.1 mem
    obtain ⟨j, low', rfl⟩ := List.mem_map.1 mem
    rw [List.mem_range] at low low'
    have element : (i + 1) * (dw + pc) ≤ (dw + pc) * n := by
      rw [Nat.mul_comm (dw + pc)]
      exact Nat.mul_le_mul_right _ low
    rw [Nat.add_mul] at element
    show 1 + i * (dw + pc) + dw + j < 1 + w
    omega

/-- The slots come in ascending order. -/
theorem slots_sorted (shape : Shape) : shape.slots.Pairwise (· < ·) := by
  cases shape with
  | struct dw pc =>
    exact List.Pairwise.map _ (fun _ _ h => Nat.add_lt_add_left h dw) List.pairwise_lt_range
  | flat es n =>
    by_cases pointers : es = 6
    · simpa only [slots, pointers, if_true] using List.pairwise_lt_range
    · simp [slots, pointers]
  | inlineComposite w n dw pc =>
    refine List.pairwise_flatMap.2 ⟨fun i _ => ?_, ?_⟩
    · exact List.Pairwise.map _ (fun _ _ h => Nat.add_lt_add_left h _) List.pairwise_lt_range
    · refine List.pairwise_lt_range.imp fun {i k} before => ?_
      intro a memA b memB
      obtain ⟨j, low, rfl⟩ := List.mem_map.1 memA
      obtain ⟨j', low', rfl⟩ := List.mem_map.1 memB
      rw [List.mem_range] at low low'
      have step : (i + 1) * (dw + pc) ≤ k * (dw + pc) := Nat.mul_le_mul_right _ before
      rw [Nat.add_mul] at step
      omega

end Shape

/-! ## Trees -/

/-- A block with its pointer words set to zero. -/
def blank (slots : List ℕ) (block : Bytes) : Bytes :=
  block.mapIdx fun i x => if i / 8 ∈ slots then 0 else x

/-- Blocks that differ in pointer words only have the same content. -/
theorem blank_congr {slots : List ℕ} {block block' : Bytes} (size : block.length = block'.length)
    (same : ∀ i, i / 8 ∉ slots → block[i]? = block'[i]?) :
    blank slots block = blank slots block' := by
  apply List.ext_getElem?
  intro i
  simp only [blank, List.getElem?_mapIdx]
  by_cases slot : i / 8 ∈ slots
  · by_cases inside : i < block.length
    · simp [slot, List.getElem?_eq_getElem inside, List.getElem?_eq_getElem (size ▸ inside)]
    · simp [List.getElem?_eq_none (not_lt.1 inside),
        List.getElem?_eq_none (size ▸ not_lt.1 inside)]
  · rw [same i slot]

/-- The content of an object determines every byte outside its pointer words. -/
theorem getElem?_of_blank_eq {slots : List ℕ} {block block' : Bytes}
    (same : blank slots block = blank slots block') {i : ℕ} (plain : i / 8 ∉ slots) :
    block[i]? = block'[i]? := by
  have h := congrArg (·[i]?) same
  simpa only [blank, List.getElem?_mapIdx, plain, if_false, Option.map_id'] using h

/-- The tag of an inline composite list is part of its content. -/
theorem Shape.Tagged.of_blank_eq {shape : Shape} {block block' : Bytes}
    (tagged : shape.Tagged block) (same : blank shape.slots block = blank shape.slots block') :
    shape.Tagged block' := by
  cases shape with
  | struct dw pc => trivial
  | flat es n => trivial
  | inlineComposite w n dw pc =>
    have tag : Agree block block' 0 8 := by
      intro i _ low
      refine getElem?_of_blank_eq same fun slot => ?_
      obtain ⟨k, -, slot⟩ := List.mem_flatMap.1 slot
      obtain ⟨j, -, place⟩ := List.mem_map.1 slot
      omega
    exact (tag.readLE_eq le_rfl le_rfl).symm.trans tagged

inductive ObjectTree
  | null
  | capability (word : ℕ)
  | object (shape : Shape) (content : Bytes) (children : List ObjectTree)

mutual

/-- The number of pointers on the longest path, null pointers not counted. -/
def ObjectTree.depth : ObjectTree → ℕ
  | .null => 0
  | .capability _ => 1
  | .object _ _ children => 1 + depths children

/-- The depth of the deepest tree. -/
def depths : List ObjectTree → ℕ
  | [] => 0
  | t :: ts => max t.depth (depths ts)

end

theorem depths_le {ts : List ObjectTree} {n : ℕ} : depths ts ≤ n ↔ ∀ t ∈ ts, t.depth ≤ n := by
  induction ts with
  | nil => simp [depths]
  | cons t ts ih => simp [depths, ih]

/-- A child for every slot, from one slot at a time. -/
theorem exists_children {P : ℕ → ObjectTree → Prop} (slots : List ℕ)
    (each : ∀ slot ∈ slots, ∃ t, P slot t) :
    ∃ children : List ObjectTree, slots.length = children.length ∧
      ∀ (i slot : ℕ) (t : ObjectTree), slots[i]? = some slot → children[i]? = some t →
      P slot t := by
  induction slots with
  | nil => exact ⟨[], rfl, nofun⟩
  | cons slot slots ih =>
    obtain ⟨t, first⟩ := each slot List.mem_cons_self
    obtain ⟨children, arity, rest⟩ := ih fun slot' mem => each slot' (List.mem_cons_of_mem slot mem)
    refine ⟨t :: children, by rw [List.length_cons, List.length_cons, arity], ?_⟩
    intro i slot' t' known known'
    cases i with
    | zero =>
      cases known
      cases known'
      exact first
    | succ i => exact rest i slot' t' known known'

/-! ## Reading trees -/

/-- What the pointer at a slot leads to. -/
inductive Target
  | null
  | capability (word : ℕ)
  | object (shape : Shape) (segmentId startWord : ℕ)
deriving DecidableEq

/-- The slots of the object a pointer leads to. -/
def Target.slots : Target → List (ℕ × ℕ)
  | .object shape segmentId start => shape.slots.map fun slot => (segmentId, start + slot)
  | _ => []

/-- The shape of a list. -/
def ListRef.target : ListRef → Target
  | .flat segmentId startWord es n => .object (.flat es n) segmentId startWord
  | .inlineComposite segmentId tagWord n dw pc w =>
    .object (.inlineComposite w n dw pc) segmentId tagWord

namespace MessageReader

/-- The pointer at a slot, read as its kind says. -/
def locate (r : MessageReader) (segmentId pointerWord : ℕ) : Except Thrown Target := do
  let resolved ← r.readResolvedPointer segmentId pointerWord
  if resolved.word = 0 ∧ resolved.contentWord = none then
    return .null
  match resolved.word &&& 0x3 with
  | 3 => return .capability resolved.word
  | 0 =>
    match ← r.readStructPointer segmentId pointerWord with
    | some ref =>
      return .object (.struct ref.dataWordCount ref.pointerCount) ref.segmentId ref.startWord
    | none => return .null
  | 1 =>
    match ← r.readListPointer segmentId pointerWord with
    | some list => return list.target
    | none => return .null
  | _ => throw (protocolError "AnyPointer copy received unresolved far pointer")

/-- The bytes of a block. -/
def block (r : MessageReader) (shape : Shape) (segmentId startWord : ℕ) : Bytes :=
  slice (r.segments[segmentId]?.getD []) (8 * startWord) (8 * shape.words)

/-- The tree behind the pointer at a slot. -/
inductive Reads (r : MessageReader) : ℕ → ℕ → ObjectTree → Prop
  | null {segmentId pointerWord : ℕ} (target : r.locate segmentId pointerWord = .ok .null) :
      Reads r segmentId pointerWord .null
  | capability {segmentId pointerWord word : ℕ}
      (target : r.locate segmentId pointerWord = .ok (.capability word)) :
      Reads r segmentId pointerWord (.capability word)
  | object {segmentId pointerWord : ℕ} {shape : Shape} {s start : ℕ} {children : List ObjectTree}
      (target : r.locate segmentId pointerWord = .ok (.object shape s start))
      (arity : shape.slots.length = children.length)
      (child : ∀ (i slot : ℕ) (t : ObjectTree), shape.slots[i]? = some slot →
        children[i]? = some t → Reads r s (start + slot) t) :
      Reads r segmentId pointerWord
        (.object shape (blank shape.slots (r.block shape s start)) children)

/-- A slot shows one tree. -/
theorem Reads.unique {r : MessageReader} {segmentId pointerWord : ℕ} {t t' : ObjectTree}
    (h : r.Reads segmentId pointerWord t) (h' : r.Reads segmentId pointerWord t') : t = t' := by
  induction h generalizing t' with
  | null target =>
    cases h' with
    | null => rfl
    | capability target' => cases target.symm.trans target'
    | object target' => cases target.symm.trans target'
  | capability target =>
    cases h' with
    | null target' => cases target.symm.trans target'
    | capability target' => cases target.symm.trans target'; rfl
    | object target' => cases target.symm.trans target'
  | @object _ _ shape _ _ _ target arity child ih =>
    cases h' with
    | null target' => cases target.symm.trans target'
    | capability target' => cases target.symm.trans target'
    | object target' arity' child' =>
      cases target.symm.trans target'
      congr 1
      apply List.ext_getElem?
      intro i
      by_cases low : i < shape.slots.length
      · have slot := List.getElem?_eq_getElem low
        have t := List.getElem?_eq_getElem (arity ▸ low)
        have t' := List.getElem?_eq_getElem (arity' ▸ low)
        rw [t, t', ih i _ _ slot t (child' i _ _ slot t')]
      · rw [List.getElem?_eq_none (by omega), List.getElem?_eq_none (by omega)]

end MessageReader

/-- A framed message and the tree behind its root pointer. -/
def MessageTree (message : Bytes) (t : ObjectTree) : Prop :=
  ∃ r, MessageReader.ofBytes message = .ok r ∧ r.Reads 0 0 t

theorem MessageTree.unique {message : Bytes} {t t' : ObjectTree} (h : MessageTree message t)
    (h' : MessageTree message t') : t = t' := by
  obtain ⟨r, opened, reads⟩ := h
  obtain ⟨r', opened', reads'⟩ := h'
  cases opened.symm.trans opened'
  exact reads.unique reads'

end CapnpDeno
