import Northstar64.PhysicalMemory
import Northstar64.Library.Transducer

namespace Northstar64

inductive RamOperation where
  | read (offset : BitVec 64) (width : Nat)
  | write (offset : BitVec 64) (width : Nat) (value : BitVec 64)
  | clear
  deriving DecidableEq, Repr

inductive RamResult where
  | value (read : Option (BitVec 64))
  | accepted (written : Bool)
  | cleared
  deriving DecidableEq, Repr

def Fits (size offset width : Nat) : Prop := width ∈ [1, 2, 4, 8] ∧ offset + width ≤ size

instance (size offset width : Nat) : Decidable (Fits size offset width) :=
  inferInstanceAs (Decidable (_ ∧ _))

abbrev FlatRam (size : Nat) := Fin size → Byte

namespace FlatRam
variable {size : Nat}

def zeroed (size : Nat) : FlatRam size := fun _ => 0#8

def byteAt (flat : FlatRam size) (index : Nat) : Byte :=
  if h : index < size then flat ⟨index, h⟩ else 0#8

def stored (flat : FlatRam size) (offset width : Nat) (value : BitVec 64) : FlatRam size :=
  fun i =>
    if offset ≤ i ∧ i < offset + width then littleEndianByte value (i - offset) else flat i

def perform (flat : FlatRam size) : RamOperation → FlatRam size × RamResult
  | .read offset width =>
    (flat, .value (if Fits size offset.toNat width
      then some (littleEndian (fun i => flat.byteAt (offset.toNat + i)) width) else none))
  | .write offset width value =>
    if Fits size offset.toNat width then (flat.stored offset.toNat width value, .accepted true)
    else (flat, .accepted false)
  | .clear => (zeroed size, .cleared)

def transducer (size : Nat) : Execution.Transducer (FlatRam size) RamOperation RamResult :=
  ⟨perform⟩

end FlatRam

namespace RamOperation

def isClear : RamOperation → Bool
  | .clear => true
  | _ => false

def StoresNonzero (size page : Nat) : RamOperation → Prop
  | .write offset width value =>
    Fits size offset.toNat width ∧
      ∃ i < width, littleEndianByte value i ≠ 0#8 ∧ (offset.toNat + i) / kPageSize = page
  | _ => False

def sinceClear (history : List RamOperation) : List RamOperation :=
  history.reverse.takeWhile (fun operation => !operation.isClear)

theorem sinceClear_concat (history : List RamOperation) (operation : RamOperation) :
    sinceClear (history ++ [operation]) =
      if operation.isClear then [] else operation :: sinceClear history := by
  cases h : operation.isClear <;> simp [sinceClear, h]

def Received (size : Nat) (history : List RamOperation) (page : Nat) : Prop :=
  ∃ operation ∈ sinceClear history, operation.StoresNonzero size page

theorem received_concat (size page : Nat) (history : List RamOperation)
    (operation : RamOperation) :
    Received size (history ++ [operation]) page ↔
      operation.isClear = false ∧
        (operation.StoresNonzero size page ∨ Received size history page) := by
  unfold Received
  rw [sinceClear_concat]
  cases h : operation.isClear <;> simp

end RamOperation

namespace SparseRam

def perform (ram : SparseRam) : RamOperation → SparseRam × RamResult
  | .read offset width =>
    let result := ram.read offset width
    (result.2, .value result.1.toOption)
  | .write offset width value =>
    let result := ram.write offset width value
    (result.1, .accepted result.2.isNone)
  | .clear => (ram.clear, .cleared)

def transducer : Execution.Transducer SparseRam RamOperation RamResult := ⟨perform⟩

theorem exceeds_eq_false_iff (ram : SparseRam) (offset : BitVec 64) (width : Nat) :
    ram.exceeds offset width = false ↔ Fits ram.size.toNat offset.toNat width := by
  have hmember : validWidth width = true ↔ width ∈ [1, 2, 4, 8] := by
    simp [validWidth, or_assoc]
  rw [Fits, ← hmember]
  cases hwidth : validWidth width with
  | false => simp [exceeds, hwidth]
  | true =>
    have hle : 0 < width ∧ width ≤ 8 := by
      rcases validWidth_cases hwidth with h | h | h | h <;> omega
    simp only [exceeds, hwidth, Bool.not_true, Bool.false_or, Bool.or_eq_false_iff,
      decide_eq_false_iff_not, ge_iff_le, gt_iff_lt, BitVec.le_def, BitVec.lt_def, not_le, not_lt,
      true_and, BitVec.toNat_ofNat]
    rw [Nat.mod_eq_of_lt (by omega)]
    constructor
    · rintro ⟨hlt, hrest⟩
      rw [BitVec.toNat_sub_of_le (BitVec.le_def.mpr (by omega))] at hrest
      omega
    · intro hrest
      rw [BitVec.toNat_sub_of_le (BitVec.le_def.mpr (by omega))]
      omega

theorem writeByte_pages (ram : SparseRam) (offset : BitVec 64) (value : Byte) (page : Nat) :
    ((ram.writeByte offset value).pages page).isSome ↔
      (ram.pages page).isSome ∨ value ≠ 0#8 ∧ pageNumber offset = page := by
  unfold writeByte
  dsimp only
  by_cases hpage : page = pageNumber offset
  · subst hpage
    cases hpresent : ram.pages (pageNumber offset) with
    | some present => simp
    | none =>
      by_cases hzero : value = 0#8
      · simp [hzero, hpresent]
      · simp [hzero]
  · have hne : ¬ pageNumber offset = page := fun h => hpage h.symm
    split_ifs <;> simp [hpage, hne]

theorem writeLoop_pages (ram : SparseRam) (offset : BitVec 64) (bytes : Nat → Byte) (width page : Nat) :
    ((ram.writeLoop offset bytes width).pages page).isSome ↔
      (ram.pages page).isSome ∨
        ∃ i < width, bytes i ≠ 0#8 ∧ pageNumber (offset + BitVec.ofNat 64 i) = page := by
  induction width with
  | zero => simp [writeLoop]
  | succ width ih =>
    rw [writeLoop_succ, writeByte_pages, ih, or_assoc]
    refine or_congr_right ⟨?_, ?_⟩
    · rintro (⟨i, hi, hbyte⟩ | hlast)
      · exact ⟨i, by omega, hbyte⟩
      · exact ⟨width, by omega, hlast⟩
    · rintro ⟨i, hi, hbyte⟩
      rcases Nat.lt_succ_iff_lt_or_eq.mp hi with hlt | rfl
      · exact .inl ⟨i, hlt, hbyte⟩
      · exact .inr hbyte

theorem read_rejected {ram : SparseRam} {offset : BitVec 64} {width : Nat}
    (h : ¬ Fits ram.size.toNat offset.toNat width) :
    ram.read offset width = (.error ⟨text "RAM read exceeds the mapped range"⟩, ram) := by
  rw [← exceeds_eq_false_iff, Bool.not_eq_false] at h
  rw [read, if_pos h]

theorem write_rejected {ram : SparseRam} {offset : BitVec 64} {width : Nat} {value : BitVec 64}
    (h : ¬ Fits ram.size.toNat offset.toNat width) :
    ram.write offset width value =
      (ram, some ⟨text "RAM write exceeds the mapped range"⟩) := by
  rw [← exceeds_eq_false_iff, Bool.not_eq_false] at h
  rw [write, if_pos h]

theorem pageNumber_add {ram : SparseRam} {offset : BitVec 64} {width i : Nat}
    (h : Fits ram.size.toNat offset.toNat width) (hi : i < width) :
    pageNumber (offset + BitVec.ofNat 64 i) = (offset.toNat + i) / kPageSize := by
  have hlt := ram.size.isLt
  have hbound := h.2
  rw [pageNumber, BitVec.toNat_add, BitVec.toNat_ofNat, Nat.mod_eq_of_lt (a := i) (by omega),
    Nat.mod_eq_of_lt (by omega)]

structure Refines (ram : SparseRam) {size : Nat} (flat : FlatRam size) : Prop where
  size_eq : ram.size.toNat = size
  bytes : ∀ i < size, ram.readByte (BitVec.ofNat 64 i) = flat.byteAt i

namespace Refines
variable {ram : SparseRam} {size : Nat} {flat : FlatRam size}

theorem unwritten (device : MappedDevice) :
    Refines (unwritten device) (FlatRam.zeroed device.size.toNat) where
  size_eq := rfl
  bytes := by
    intro i hi
    rw [FlatRam.byteAt, dif_pos hi]
    rfl

theorem clear (h : Refines ram flat) : Refines ram.clear (FlatRam.zeroed size) where
  size_eq := h.size_eq
  bytes := by
    intro i hi
    rw [FlatRam.byteAt, dif_pos hi]
    rfl

theorem read (h : Refines ram flat) {offset : BitVec 64} {width : Nat}
    (hfits : Fits size offset.toNat width) :
    ram.read offset width =
      (.ok (littleEndian (fun i => flat.byteAt (offset.toNat + i)) width), ram) := by
  have hexceeds := (ram.exceeds_eq_false_iff offset width).mpr (h.size_eq ▸ hfits)
  rw [SparseRam.read, if_neg (by rw [hexceeds]; decide)]
  congr 2
  apply littleEndian_congr
  intro i hi
  rw [← h.bytes _ (by have := hfits.2; omega), BitVec.ofNat_add, BitVec.ofNat_toNat,
    BitVec.setWidth_eq]

theorem write (h : Refines ram flat) {offset : BitVec 64} {width : Nat}
    (hfits : Fits size offset.toNat width) (value : BitVec 64) :
    Refines (ram.writeLoop offset (littleEndianByte value) width)
      (flat.stored offset.toNat width value) where
  size_eq := by rw [writeLoop_mapped, h.size_eq]
  bytes := by
    have hwidth : width ≤ 8 := by
      have := hfits.1
      simp only [List.mem_cons, List.not_mem_nil, or_false] at this
      omega
    have hlt := ram.size.isLt
    intro i hi
    rw [readByte_writeLoop _ _ _ hwidth, h.bytes i hi]
    simp only [FlatRam.byteAt, dif_pos hi, FlatRam.stored]
    have hsize := h.size_eq
    have hbound := hfits.2
    by_cases hinside : offset.toNat ≤ i ∧ i < offset.toNat + width
    · have hdistance : (BitVec.ofNat 64 i - offset).toNat = i - offset.toNat := by
        rw [BitVec.toNat_sub_of_le, BitVec.toNat_ofNat, Nat.mod_eq_of_lt (by omega)]
        rw [BitVec.le_def, BitVec.toNat_ofNat, Nat.mod_eq_of_lt (by omega)]
        exact hinside.1
      rw [if_pos hinside, hdistance, if_pos (by omega)]
    · have hdistance : ¬ (BitVec.ofNat 64 i - offset).toNat < width := by
        rw [BitVec.toNat_sub, BitVec.toNat_ofNat]
        omega
      rw [if_neg hinside, if_neg hdistance]

theorem perform (h : Refines ram flat) (operation : RamOperation) :
    Refines (ram.perform operation).1 (flat.perform operation).1 ∧
      (ram.perform operation).2 = (flat.perform operation).2 := by
  cases operation with
  | read offset width =>
    by_cases hfits : Fits size offset.toNat width
    · simp only [SparseRam.perform, FlatRam.perform, h.read hfits, if_pos hfits]
      exact ⟨h, rfl⟩
    · simp only [SparseRam.perform, FlatRam.perform, read_rejected (h.size_eq ▸ hfits),
        if_neg hfits]
      exact ⟨h, rfl⟩
  | write offset width value =>
    by_cases hfits : Fits size offset.toNat width
    · have hwrite := write_eq_writeLoop
        ((ram.exceeds_eq_false_iff offset width).mpr (h.size_eq ▸ hfits)) value
      simp only [SparseRam.perform, FlatRam.perform, hwrite, if_pos hfits]
      exact ⟨h.write hfits value, rfl⟩
    · simp only [SparseRam.perform, FlatRam.perform, write_rejected (h.size_eq ▸ hfits),
        if_neg hfits]
      exact ⟨h, rfl⟩
  | clear => exact ⟨h.clear, rfl⟩

end Refines

theorem perform_pages (ram : SparseRam) (operation : RamOperation) (page : Nat) :
    ((ram.perform operation).1.pages page).isSome ↔ operation.isClear = false ∧
      (operation.StoresNonzero ram.size.toNat page ∨ (ram.pages page).isSome) := by
  cases operation with
  | read offset width =>
    have hunchanged : (ram.read offset width).2 = ram := by
      unfold SparseRam.read
      split_ifs <;> rfl
    simp [SparseRam.perform, hunchanged, RamOperation.isClear, RamOperation.StoresNonzero]
  | write offset width value =>
    simp only [SparseRam.perform, RamOperation.isClear, RamOperation.StoresNonzero, true_and]
    by_cases hfits : Fits ram.size.toNat offset.toNat width
    · rw [write_eq_writeLoop ((ram.exceeds_eq_false_iff offset width).mpr hfits), writeLoop_pages,
        or_comm]
      refine or_congr_left ?_
      simp only [hfits, true_and]
      refine exists_congr (fun i => and_congr_right (fun hi => and_congr_right (fun _ => ?_)))
      rw [pageNumber_add hfits hi]
    · rw [write_rejected hfits]
      simp [hfits]
  | clear => simp [SparseRam.perform, SparseRam.clear, RamOperation.isClear]

theorem history_refines (device : MappedDevice) (history : List RamOperation) :
    Refines (transducer.state history (unwritten device))
        ((FlatRam.transducer device.size.toNat).state history (FlatRam.zeroed _)) ∧
      transducer.outputs history (unwritten device) =
        (FlatRam.transducer device.size.toNat).outputs history (FlatRam.zeroed _) :=
  Execution.Transducer.simulation _ _ (P := fun ram flat => Refines ram flat)
    (fun _ _ operation h => h.perform operation) (.unwritten device) history

theorem history_pages (device : MappedDevice) (history : List RamOperation) (page : Nat) :
    ((transducer.state history (unwritten device)).pages page).isSome ↔
      RamOperation.Received device.size.toNat history page := by
  induction history using List.reverseRecOn with
  | nil => simp [unwritten, RamOperation.Received, RamOperation.sinceClear]
  | append_singleton history operation ih =>
    have hsize := (history_refines device history).1.size_eq
    rw [transducer.state_concat, RamOperation.received_concat, ← ih, ← hsize]
    exact perform_pages _ operation page

theorem refines_flat_array (device : MappedDevice) (history : List RamOperation) :
    let size := device.size.toNat
    let ram := transducer.state history (unwritten device)
    let flat := (FlatRam.transducer size).state history (FlatRam.zeroed size)
    transducer.outputs history (unwritten device) =
      (FlatRam.transducer size).outputs history (FlatRam.zeroed size) ∧
    (∀ i < size, ram.readByte (BitVec.ofNat 64 i) = flat.byteAt i) ∧
    (∀ offset width, (ram.read offset width).1.toOption.isSome ↔ Fits size offset.toNat width) ∧
    (∀ offset width value,
      ((ram.write offset width value).2 = none ↔ Fits size offset.toNat width) ∧
      (¬ Fits size offset.toNat width → (ram.write offset width value).1 = ram)) ∧
    ∀ page, (ram.pages page).isSome ↔ RamOperation.Received size history page := by
  obtain ⟨hrefines, houtputs⟩ := history_refines device history
  have hsize := hrefines.size_eq
  refine ⟨houtputs, hrefines.bytes, ?_, ?_, history_pages device history⟩
  · intro offset width
    by_cases hfits : Fits device.size.toNat offset.toNat width
    · simp [hrefines.read hfits, hfits, Except.toOption]
    · simp [read_rejected (hsize ▸ hfits), hfits, Except.toOption]
  · intro offset width value
    by_cases hfits : Fits device.size.toNat offset.toNat width
    · have hwrite := write_eq_writeLoop
        ((exceeds_eq_false_iff _ offset width).mpr (hsize ▸ hfits)) value
      exact ⟨by simp [hwrite, hfits], fun h => absurd hfits h⟩
    · rw [write_rejected (hsize ▸ hfits)]
      exact ⟨by simp [hfits], fun _ => rfl⟩

end SparseRam

end Northstar64
