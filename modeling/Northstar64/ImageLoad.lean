import Northstar64.SegmentRanges

namespace Northstar64

namespace Bus

structure InRam (bus : Bus) (address : Address) (length : Nat) : Prop where
  in_range : address.toNat + length ≤ 2 ^ 64
  mapped : ∀ i < length, (bus.ramByte (address + BitVec.ofNat 64 i)).isSome = true

structure Filled (before after : Bus) (address : Address) (length : Nat) (bytes : Nat → Byte) :
    Prop where
  layout : after.layout = before.layout
  ram : ∀ p, after.ramByte p =
    if (p - address).toNat < length then some (bytes (p - address).toNat) else before.ramByte p
  uart : ∀ p, after.uartLog p = before.uartLog p

variable {bus other : Bus} {address : Address} {length : Nat}

theorem find_ram_of_isSome {p : Address} (h : (bus.ramByte p).isSome = true) :
    ∃ ram, bus.find p 1 = some (.sparseRam ram) := by
  unfold ramByte at h
  split at h
  · exact ⟨_, by assumption⟩
  · cases h

theorem ramByte_isSome_of_find {p : Address} {ram : SparseRam}
    (h : bus.find p 1 = some (.sparseRam ram)) : (bus.ramByte p).isSome = true := by
  simp [ramByte, h]

theorem ramByte_isSome_congr (hlayout : bus.layout = other.layout) {p : Address}
    (h : (bus.ramByte p).isSome = true) : (other.ramByte p).isSome = true := by
  obtain ⟨ram, hfind⟩ := find_ram_of_isSome h
  obtain ⟨ram', hfind', -⟩ := find_ram_of_layout hlayout hfind
  exact ramByte_isSome_of_find hfind'

theorem uartLog_of_ram {p : Address} (h : (bus.ramByte p).isSome = true) :
    bus.uartLog p = none := by
  obtain ⟨ram, hfind⟩ := find_ram_of_isSome h
  simp [uartLog, hfind]

theorem offset_split (address : Address) (first second : Nat) :
    address + BitVec.ofNat 64 (first + second) =
      address + BitVec.ofNat 64 first + BitVec.ofNat 64 second := by
  rw [BitVec.ofNat_add, BitVec.add_assoc]

theorem toNat_add_offset {i : Nat} (h : address.toNat + i < 2 ^ 64) :
    (address + BitVec.ofNat 64 i).toNat = address.toNat + i := by
  rw [BitVec.toNat_add, BitVec.toNat_ofNat, Nat.mod_eq_of_lt (by omega : i < 2 ^ 64),
    Nat.mod_eq_of_lt h]

namespace InRam

theorem congr (h : bus.InRam address length) (hlayout : bus.layout = other.layout) :
    other.InRam address length :=
  ⟨h.in_range, fun i hi => ramByte_isSome_congr hlayout (h.mapped i hi)⟩

theorem mono {length' : Nat} (h : bus.InRam address length) (hle : length' ≤ length) :
    bus.InRam address length' :=
  ⟨by have := h.in_range; omega, fun i hi => h.mapped i (by omega)⟩

theorem drop {first second : Nat} (h : bus.InRam address (first + second)) :
    bus.InRam (address + BitVec.ofNat 64 first) second := by
  refine ⟨?_, fun i hi => ?_⟩
  · have hrange := h.in_range
    cases second with
    | zero => exact Nat.le_of_lt (BitVec.isLt _)
    | succ second =>
      rw [toNat_add_offset (by omega)]
      omega
  · rw [← offset_split]
    exact h.mapped _ (by omega)

end InRam

namespace Filled
variable {before middle after : Bus} {bytes bytes' : Nat → Byte}

theorem refl (bus : Bus) (address : Address) (bytes : Nat → Byte) :
    Filled bus bus address 0 bytes :=
  ⟨rfl, fun p => by rw [if_neg (Nat.not_lt_zero _)], fun _ => rfl⟩

theorem ram_inside (h : Filled before after address length bytes) {p : Address}
    (hp : (p - address).toNat < length) : after.ramByte p = some (bytes (p - address).toNat) := by
  rw [h.ram, if_pos hp]

theorem ram_outside (h : Filled before after address length bytes) {p : Address}
    (hp : ¬ (p - address).toNat < length) : after.ramByte p = before.ramByte p := by
  rw [h.ram, if_neg hp]

theorem congr (h : Filled before after address length bytes)
    (heq : ∀ j < length, bytes j = bytes' j) : Filled before after address length bytes' := by
  refine ⟨h.layout, fun p => ?_, h.uart⟩
  rw [h.ram]
  split_ifs with hp
  · rw [heq _ hp]
  · rfl

theorem append {first second : Nat} (hfirst : Filled before middle address first bytes)
    (hsecond : Filled middle after (address + BitVec.ofNat 64 first) second bytes')
    (hfits : first + second ≤ 2 ^ 64) :
    Filled before after address (first + second)
      (fun j => if j < first then bytes j else bytes' (j - first)) := by
  refine ⟨hsecond.layout.trans hfirst.layout, fun p => ?_,
    fun p => (hsecond.uart p).trans (hfirst.uart p)⟩
  rw [hsecond.ram, hfirst.ram]
  have hdistance (hp : first ≤ (p - address).toNat) (hsmall : first < 2 ^ 64) :
      (p - (address + BitVec.ofNat 64 first)).toNat = (p - address).toNat - first := by
    have hfirst' : (BitVec.ofNat 64 first).toNat = first := by
      rw [BitVec.toNat_ofNat, Nat.mod_eq_of_lt hsmall]
    bv_omega
  have hback (hp : (p - (address + BitVec.ofNat 64 first)).toNat < second) :
      (p - address).toNat = first + (p - (address + BitVec.ofNat 64 first)).toNat := by
    have hfirst' : (BitVec.ofNat 64 first).toNat = first := by
      rw [BitVec.toNat_ofNat, Nat.mod_eq_of_lt (by omega)]
    bv_omega
  by_cases hsecond' : (p - (address + BitVec.ofNat 64 first)).toNat < second
  · have hd := hback hsecond'
    rw [if_pos hsecond', if_pos (by omega), if_neg (by omega)]
    congr 2
    omega
  · rw [if_neg hsecond']
    by_cases hfirst' : (p - address).toNat < first
    · rw [if_pos hfirst', if_pos (by omega), if_pos hfirst']
    · have hlt := (p - address).isLt
      have hd := hdistance (by omega) (by omega)
      rw [if_neg hfirst', if_neg (by omega)]

end Filled

theorem write_one {p : Address} (h : (bus.ramByte p).isSome = true) (value : BitVec 64)
    (kind : AccessKind) :
    (bus.write p 1 value kind).2 = none ∧
      Filled bus (bus.write p 1 value kind).1 p 1 (fun _ => littleEndianByte value 0) := by
  obtain ⟨ram, hfind⟩ := find_ram_of_isSome h
  have hnone : (bus.write p 1 value kind).2 = none := by rw [write_ram hfind]
  have hview := write_view hnone
  refine ⟨hnone, bus.write_layout _ _ _ _, fun q => ?_, fun q => ?_⟩
  · have hram := congrArg (fun memory => memory.ram q) hview
    refine hram.trans ?_
    simp only [PhysicalMemory.store, view]
    split_ifs with hq
    · have hsame : q = p := by bv_omega
      obtain ⟨old, hold⟩ := Option.isSome_iff_exists.mp h
      rw [hsame, hold, Option.map_some, BitVec.sub_self]
      rfl
    · rfl
  · have huart := congrArg (fun memory => memory.uart q) hview
    refine huart.trans ?_
    simp only [PhysicalMemory.store, view]
    split_ifs with hq
    · rw [hq, uartLog_of_ram h]
      rfl
    · rfl

theorem littleEndianByte_setWidth (value : Byte) :
    littleEndianByte (value.setWidth 64) 0 = value := by
  ext i hi
  simp [littleEndianByte, hi]
  omega

theorem write_byte {p : Address} (h : (bus.ramByte p).isSome = true) (value : Byte)
    (kind : AccessKind) :
    (bus.write p 1 (value.setWidth 64) kind).2 = none ∧
      Filled bus (bus.write p 1 (value.setWidth 64) kind).1 p 1 (fun _ => value) := by
  obtain ⟨hnone, hfilled⟩ := write_one h (value.setWidth 64) kind
  exact ⟨hnone, hfilled.congr (fun _ _ => littleEndianByte_setWidth value)⟩

theorem writeBytesFrom_filled (kind : AccessKind) (bytes : List Byte) (index : Nat)
    (h : bus.InRam (address + BitVec.ofNat 64 index) bytes.length) :
    (writeBytesFrom address kind index bytes bus).2 = none ∧
      Filled bus (writeBytesFrom address kind index bytes bus).1
        (address + BitVec.ofNat 64 index) bytes.length (byteAt bytes) := by
  induction bytes generalizing index bus with
  | nil => exact ⟨rfl, .refl bus _ _⟩
  | cons byte bytes ih =>
    have hhead := h.mapped 0 (by simp)
    rw [BitVec.add_zero] at hhead
    obtain ⟨hnone, hfilled⟩ := write_byte hhead byte kind
    rw [writeBytesFrom]
    generalize bus.write (address + BitVec.ofNat 64 index) 1 (byte.setWidth 64) kind = written
      at hnone hfilled ⊢
    obtain ⟨bus', fault⟩ := written
    obtain rfl : fault = none := hnone
    dsimp only at hfilled ⊢
    have hlength : bus.InRam (address + BitVec.ofNat 64 index) (1 + bytes.length) := by
      rwa [List.length_cons, Nat.add_comm] at h
    have hfits := hlength.in_range
    have htail : bus'.InRam (address + BitVec.ofNat 64 (index + 1)) bytes.length := by
      rw [offset_split]
      exact hlength.drop.congr hfilled.layout.symm
    obtain ⟨hdone, hrest⟩ := ih (index + 1) htail
    refine ⟨hdone, ?_⟩
    rw [offset_split] at hrest
    have happend := hfilled.append hrest (by omega)
    rw [Nat.add_comm 1] at happend
    refine happend.congr (fun j _ => ?_)
    cases j with
    | zero => rfl
    | succ j => simp [byteAt]

theorem writeBytes_filled {bytes : List Byte} (h : bus.InRam address bytes.length)
    (kind : AccessKind) :
    (bus.writeBytes address bytes kind).2 = none ∧
      Filled bus (bus.writeBytes address bytes kind).1 address bytes.length (byteAt bytes) := by
  unfold writeBytes
  by_cases hempty : bytes = []
  · rw [if_pos hempty, hempty]
    exact ⟨rfl, .refl bus address _⟩
  · have hpos : 0 < bytes.length := List.length_pos_iff.mpr hempty
    have hrange := h.in_range
    have hfits : addOverflows address (BitVec.ofNat 64 (bytes.length - 1)) = false := by
      rw [addOverflows_eq_false_iff, BitVec.toNat_ofNat, Nat.mod_eq_of_lt (by omega)]
      omega
    rw [if_neg hempty, hfits, if_neg Bool.false_ne_true]
    have hstart : address + BitVec.ofNat 64 0 = address := BitVec.add_zero address
    have hfilled := writeBytesFrom_filled kind bytes 0 (hstart.symm ▸ h)
    rwa [hstart] at hfilled

end Bus

theorem zeroFill_filled {bus : Bus} {loadAddress : Address} (remaining : Nat) (offset : BitVec 64)
    (h : bus.InRam (loadAddress + offset) remaining) :
    (zeroFill loadAddress remaining offset bus).2 = none ∧
      Bus.Filled bus (zeroFill loadAddress remaining offset bus).1 (loadAddress + offset) remaining
        (fun _ => 0#8) := by
  induction remaining generalizing bus offset with
  | zero => exact ⟨rfl, .refl bus _ _⟩
  | succ remaining ih =>
    have hhead := h.mapped 0 (by omega)
    rw [BitVec.add_zero] at hhead
    obtain ⟨hnone, hfilled⟩ := Bus.write_byte hhead 0#8 .imageLoad
    rw [zeroFill]
    change (bus.write (loadAddress + offset) 1 0#64 .imageLoad).2 = none at hnone
    change Bus.Filled bus (bus.write (loadAddress + offset) 1 0#64 .imageLoad).1 _ _ _ at hfilled
    generalize bus.write (loadAddress + offset) 1 0#64 .imageLoad = written at hnone hfilled ⊢
    obtain ⟨bus', fault⟩ := written
    obtain rfl : fault = none := hnone
    dsimp only at hfilled ⊢
    have hnext : loadAddress + (offset + 1#64) = loadAddress + offset + BitVec.ofNat 64 1 :=
      (BitVec.add_assoc loadAddress offset 1#64).symm
    rw [Nat.add_comm] at h
    have hfits := h.in_range
    have htail : bus'.InRam (loadAddress + (offset + 1#64)) remaining := by
      rw [hnext]
      exact h.drop.congr hfilled.layout.symm
    obtain ⟨hdone, hrest⟩ := ih (offset + 1#64) htail
    rw [hnext] at hrest
    have happend := hfilled.append hrest (by omega)
    rw [Nat.add_comm 1] at happend
    exact ⟨hdone, happend.congr (fun j _ => by split_ifs <;> rfl)⟩

namespace ElfSegment

def contents (segment : ElfSegment) (bytes : List Byte) (index : Nat) : Byte :=
  if index < segment.fileSize.toNat then byteAt bytes (segment.fileOffset.toNat + index) else 0#8

def Covers (segment : ElfSegment) (p : Address) : Prop :=
  (p - segment.loadAddress).toNat < segment.memorySize.toNat

theorem mem_range_of_covers {segment : ElfSegment} {p : Address} (h : segment.Covers p) :
    p.toNat ∈ segment.range := by
  have hend := segment.end_le
  rw [Covers] at h
  rw [range, Set.mem_Ico]
  bv_omega

end ElfSegment

variable {bytes : List Byte} {bus : Bus} {segment : ElfSegment}

theorem payload_length (hfile : InFile bytes segment) :
    (segment.payload bytes).length = segment.fileSize.toNat := by
  rw [InFile] at hfile
  rw [ElfSegment.payload, List.length_take, List.length_drop]
  omega

theorem byteAt_payload {index : Nat}
    (hindex : index < segment.fileSize.toNat) :
    byteAt (segment.payload bytes) index = byteAt bytes (segment.fileOffset.toNat + index) := by
  simp [byteAt, ElfSegment.payload, hindex, List.getElem?_drop]

theorem loadSegment_filled (hfile : InFile bytes segment)
    (hram : bus.InRam segment.loadAddress segment.memorySize.toNat) :
    (loadSegment bytes segment bus).2 = none ∧
      Bus.Filled bus (loadSegment bytes segment bus).1 segment.loadAddress
        segment.memorySize.toNat (segment.contents bytes) := by
  have hfits := segment.payload_fits
  rw [BitVec.le_def] at hfits
  have hsplit : segment.memorySize.toNat =
      segment.fileSize.toNat + (segment.memorySize - segment.fileSize).toNat := by bv_omega
  have hsize : segment.loadAddress + segment.fileSize =
      segment.loadAddress + BitVec.ofNat 64 segment.fileSize.toNat := by
    rw [BitVec.ofNat_toNat, BitVec.setWidth_eq]
  have hpayload := payload_length hfile
  rw [hsplit] at hram
  have hstart : bus.InRam segment.loadAddress (segment.payload bytes).length := by
    rw [hpayload]
    exact hram.mono (by omega)
  obtain ⟨hnone, hfilled⟩ := Bus.writeBytes_filled hstart .imageLoad
  rw [hpayload] at hfilled
  rw [loadSegment]
  generalize bus.writeBytes segment.loadAddress (segment.payload bytes) .imageLoad = written
    at hnone hfilled ⊢
  obtain ⟨bus', fault⟩ := written
  obtain rfl : fault = none := hnone
  dsimp only at hfilled ⊢
  have htail : bus'.InRam (segment.loadAddress + segment.fileSize)
      (segment.memorySize - segment.fileSize).toNat := by
    rw [hsize]
    exact hram.drop.congr hfilled.layout.symm
  obtain ⟨hdone, hzero⟩ := zeroFill_filled _ _ htail
  rw [hsize] at hzero
  have hrange := hram.in_range
  have happend := hfilled.append hzero (by omega)
  rw [← hsplit] at happend
  refine ⟨hdone, happend.congr (fun j _ => ?_)⟩
  rw [ElfSegment.contents]
  split_ifs with hj
  · exact byteAt_payload hj
  · rfl

structure Loaded (before after : Bus) (bytes : List Byte) (segments : List ElfSegment) : Prop where
  layout : after.layout = before.layout
  uart : ∀ p, after.uartLog p = before.uartLog p
  outside : ∀ p, (∀ segment ∈ segments, ¬ segment.Covers p) → after.ramByte p = before.ramByte p
  inside : RangesDisjoint segments → ∀ segment ∈ segments, ∀ p, segment.Covers p →
    after.ramByte p = some (segment.contents bytes (p - segment.loadAddress).toNat)

theorem loadSegments_loaded {segments : List ElfSegment}
    (hfile : ∀ segment ∈ segments, InFile bytes segment)
    (hram : ∀ segment ∈ segments, bus.InRam segment.loadAddress segment.memorySize.toNat) :
    (loadSegments bytes segments bus).2 = none ∧
      Loaded bus (loadSegments bytes segments bus).1 bytes segments := by
  induction segments generalizing bus with
  | nil =>
    refine ⟨rfl, rfl, fun _ => rfl, fun _ _ => rfl, ?_⟩
    intro _ segment hmem
    cases hmem
  | cons segment rest ih =>
    obtain ⟨hnone, hfilled⟩ := loadSegment_filled (hfile segment (List.mem_cons_self ..))
      (hram segment (List.mem_cons_self ..))
    rw [loadSegments]
    generalize loadSegment bytes segment bus = loaded at hnone hfilled ⊢
    obtain ⟨bus', error⟩ := loaded
    obtain rfl : error = none := hnone
    dsimp only at hfilled ⊢
    have htail : ∀ other ∈ rest, bus'.InRam other.loadAddress other.memorySize.toNat :=
      fun other hmem => (hram other (List.mem_cons_of_mem _ hmem)).congr hfilled.layout.symm
    obtain ⟨hdone, hrest⟩ := ih (fun other hmem => hfile other (List.mem_cons_of_mem _ hmem)) htail
    refine ⟨hdone, hrest.layout.trans hfilled.layout,
      fun p => (hrest.uart p).trans (hfilled.uart p), ?_, ?_⟩
    · intro p hp
      rw [hrest.outside p (fun other hmem => hp other (List.mem_cons_of_mem _ hmem))]
      exact hfilled.ram_outside (hp segment (List.mem_cons_self ..))
    · intro hdisjoint other hmem p hp
      obtain ⟨hhead, htail⟩ := List.pairwise_cons.mp hdisjoint
      rcases List.mem_cons.mp hmem with rfl | hmem
      · have hclear : ∀ later ∈ rest, ¬ later.Covers p := fun later hlater hcovers =>
          Set.disjoint_left.mp (hhead later hlater) (ElfSegment.mem_range_of_covers hp)
            (ElfSegment.mem_range_of_covers hcovers)
        rw [hrest.outside p hclear]
        exact hfilled.ram_inside hp
      · exact hrest.inside htail other hmem p hp

namespace Bus

theorem imageRangeIsValid_iff_ends {address : Address} {size : BitVec 64} (hsize : size ≠ 0#64) :
    bus.imageRangeIsValid address size = true ↔
      address.toNat + (size.toNat - 1) < 2 ^ 64 ∧
        ∃ device ∈ bus.devices, device.contains address 1 = true ∧ device.acceptsImage = true ∧
          device.contains (address + size - 1#64) 1 = true := by
  have hlast : (size - 1#64).toNat = size.toNat - 1 := by bv_omega
  unfold imageRangeIsValid
  rw [if_neg hsize]
  cases hrange : addOverflows address (size - 1#64) with
  | true =>
    rw [if_pos rfl]
    refine iff_of_false Bool.false_ne_true (fun h => ?_)
    have hfits := h.1
    rw [← hlast, ← addOverflows_eq_false_iff, hrange] at hfits
    cases hfits
  | false =>
    have hfits : address.toNat + (size.toNat - 1) < 2 ^ 64 := by
      rwa [addOverflows_eq_false_iff, hlast] at hrange
    rw [if_neg Bool.false_ne_true]
    constructor
    · intro h
      refine ⟨hfits, ?_⟩
      cases hfind : bus.find address 1 with
      | none => simp [hfind] at h
      | some device =>
        obtain ⟨hmem, hfirst⟩ := find_eq_some_iff.mp hfind
        rw [hfind] at h
        obtain ⟨haccepts, hend⟩ := (Bool.and_eq_true _ _).mp h
        exact ⟨device, hmem, hfirst, haccepts, hend⟩
    · rintro ⟨-, device, hmem, hfirst, haccepts, hend⟩
      rw [find_eq_some_iff.mpr ⟨hmem, hfirst⟩]
      exact (Bool.and_eq_true _ _).mpr ⟨haccepts, hend⟩

theorem inRam_of_imageRangeIsValid {address : Address} {size : BitVec 64}
    (h : bus.imageRangeIsValid address size = true) : bus.InRam address size.toNat := by
  by_cases hzero : size = 0#64
  · rw [hzero]
    exact ⟨Nat.le_of_lt address.isLt, fun i hi => absurd hi (Nat.not_lt_zero i)⟩
  · obtain ⟨hrange, device, hmem, hfirst, haccepts, hlast⟩ :=
      (imageRangeIsValid_iff_ends hzero).mp h
    have hpos : 0 < size.toNat := by bv_omega
    have hend : (address + size - 1#64).toNat = address.toNat + size.toNat - 1 := by bv_omega
    cases device with
    | uart16550 uart => cases haccepts
    | sparseRam ram =>
      obtain ⟨-, hbase, -⟩ := (ram.contains_iff _ _).mp hfirst
      obtain ⟨-, -, hlimit⟩ := (ram.contains_iff _ _).mp hlast
      refine ⟨by omega, fun i hi => ?_⟩
      have hoffset : (address + BitVec.ofNat 64 i).toNat = address.toNat + i :=
        toNat_add_offset (by omega)
      exact ramByte_isSome_of_find (find_eq_some_iff.mpr ⟨hmem,
        (ram.contains_iff _ _).mpr ⟨rfl, by omega, by omega⟩⟩)

end Bus

theorem not_endsAtTop (htop : bus.ramByte (BitVec.allOnes 64) = none)
    (hram : bus.InRam segment.loadAddress segment.memorySize.toNat) : ¬ segment.EndsAtTop := by
  intro hends
  have hlt := segment.loadAddress.isLt
  rw [ElfSegment.EndsAtTop] at hends
  have hlast := hram.mapped (segment.memorySize.toNat - 1) (by omega)
  have haddress : segment.loadAddress + BitVec.ofNat 64 (segment.memorySize.toNat - 1) =
      BitVec.allOnes 64 := by
    apply BitVec.eq_of_toNat_eq
    rw [Bus.toNat_add_offset (by omega), BitVec.toNat_allOnes]
    omega
  rw [haddress, htop] at hlast
  cases hlast

variable {sorting : SegmentSort} {image : ElfImage}

theorem parse_rangesDisjoint (htop : bus.ramByte (BitVec.allOnes 64) = none)
    (hparse : parse sorting bytes = .ok image)
    (hram : ∀ segment ∈ image.segments, bus.InRam segment.loadAddress segment.memorySize.toNat) :
    RangesDisjoint image.segments := by
  obtain ⟨table, -, -, hoverlap, -, rfl⟩ := parse_eq_ok.mp hparse
  refine rangesDisjoint_of_noneHidden (sorting.sorted table.segments) hoverlap ?_
  refine List.pairwise_of_forall_mem_list fun first hfirst second hsecond => ⟨?_, ?_⟩
  · exact fun hhides => not_endsAtTop htop (hram first hfirst) hhides.1
  · exact fun hhides => not_endsAtTop htop (hram second hsecond) hhides.1

theorem loadElf_accepted (hparse : parse sorting bytes = .ok image)
    (hvalid : ∀ segment ∈ image.segments,
      bus.imageRangeIsValid segment.loadAddress segment.memorySize = true) :
    (loadElf sorting bytes bus).2 = .ok image ∧
      Loaded bus (loadElf sorting bytes bus).1 bytes image.segments := by
  have hfind : image.segments.find? (fun segment =>
      !bus.imageRangeIsValid segment.loadAddress segment.memorySize) = none := by
    rw [List.find?_eq_none]
    intro segment hmem
    simp [hvalid segment hmem]
  have hram : ∀ segment ∈ image.segments,
      bus.InRam segment.loadAddress segment.memorySize.toNat :=
    fun segment hmem => Bus.inRam_of_imageRangeIsValid (hvalid segment hmem)
  obtain ⟨hnone, hloaded⟩ := loadSegments_loaded (parse_inFile hparse) hram
  simp only [loadElf, hparse, hfind]
  generalize loadSegments bytes image.segments bus = loaded at hnone hloaded ⊢
  obtain ⟨bus', error⟩ := loaded
  obtain rfl : error = none := hnone
  exact ⟨rfl, hloaded⟩

theorem loadElf_cases (sorting : SegmentSort) (bytes : List Byte) (bus : Bus) :
    (∃ error, loadElf sorting bytes bus = (bus, .error error)) ∨
    (∃ image, parse sorting bytes = .ok image ∧ ∀ segment ∈ image.segments,
      bus.imageRangeIsValid segment.loadAddress segment.memorySize = true) := by
  cases hparse : parse sorting bytes with
  | error error => exact .inl ⟨error, by simp only [loadElf, hparse]⟩
  | ok image =>
    cases hfind : image.segments.find? (fun segment =>
        !bus.imageRangeIsValid segment.loadAddress segment.memorySize) with
    | some segment => exact .inl ⟨outsideRam segment, by simp only [loadElf, hparse, hfind]⟩
    | none =>
      refine .inr ⟨image, rfl, fun segment hmem => ?_⟩
      simpa using List.find?_eq_none.mp hfind segment hmem

structure LoadedExactly (before after : Bus) (bytes : List Byte) (segments : List ElfSegment) :
    Prop where
  inside : ∀ segment ∈ segments, ∀ j < segment.memorySize.toNat,
    after.ramByte (segment.loadAddress + BitVec.ofNat 64 j) =
      if j < segment.fileSize.toNat then bytes[segment.fileOffset.toNat + j]? else some 0#8
  outside : ∀ p, (∀ segment ∈ segments, ¬ segment.Covers p) → after.ramByte p = before.ramByte p
  uart : ∀ p, after.uartLog p = before.uartLog p
  layout : after.layout = before.layout

theorem Loaded.exactly {after : Bus} {segments : List ElfSegment}
    (h : Loaded bus after bytes segments) (hdisjoint : RangesDisjoint segments)
    (hfile : ∀ segment ∈ segments, InFile bytes segment) :
    LoadedExactly bus after bytes segments := by
  refine ⟨fun segment hmem j hj => ?_, h.outside, h.uart, h.layout⟩
  have hlt := segment.memorySize.isLt
  have hdistance : (segment.loadAddress + BitVec.ofNat 64 j - segment.loadAddress).toNat = j :=
    distance_add segment.loadAddress (by omega)
  have hin := hfile segment hmem
  rw [InFile] at hin
  rw [h.inside hdisjoint segment hmem _ (by rw [ElfSegment.Covers, hdistance]; exact hj), hdistance,
    ElfSegment.contents]
  split_ifs with hpayload
  · rw [byteAt, List.getD_eq_getElem?_getD, List.getElem?_eq_getElem (by omega), Option.getD_some]
  · rfl

theorem loadElf_all_or_nothing (sorting : SegmentSort) (bytes : List Byte) (bus : Bus)
    (htop : bus.ramByte (BitVec.allOnes 64) = none) :
    ((∃ error, loadElf sorting bytes bus = (bus, .error error)) ∨
      ∃ image, (loadElf sorting bytes bus).2 = .ok image ∧ parse sorting bytes = .ok image ∧
        LoadedExactly bus (loadElf sorting bytes bus).1 bytes image.segments) ∧
    ∀ image, parse sorting bytes = .ok image →
      (∀ segment ∈ image.segments,
        bus.imageRangeIsValid segment.loadAddress segment.memorySize = true) →
      (loadElf sorting bytes bus).2 = .ok image := by
  refine ⟨?_, fun image hparse hvalid => (loadElf_accepted hparse hvalid).1⟩
  rcases loadElf_cases sorting bytes bus with herror | ⟨image, hparse, hvalid⟩
  · exact .inl herror
  · obtain ⟨hok, hloaded⟩ := loadElf_accepted hparse hvalid
    have hdisjoint := parse_rangesDisjoint htop hparse
      (fun segment hmem => Bus.inRam_of_imageRangeIsValid (hvalid segment hmem))
    exact .inr ⟨image, hok, hparse, hloaded.exactly hdisjoint (parse_inFile hparse)⟩

def minimalElf (entry : Address) : List Byte :=
  elfHeader entry 1#64 ++ programHeader 5#64 0x78#64 4#64 16#64 0x80000000#64 ++ encode 0x13#64 4

def minimalBus : Bus where
  devices := [.sparseRam (.unwritten
    ⟨0x80000000#64, 0x10000#64, text "ram", by decide, by decide, by decide⟩)]
  sorted := List.pairwise_singleton _ _

theorem loadElf_all_or_nothing_minimal :
    ((∃ error, loadElf .insertion (minimalElf 0x80000000#64) minimalBus = (minimalBus, .error error)) ∨
      ∃ image, (loadElf .insertion (minimalElf 0x80000000#64) minimalBus).2 = .ok image ∧
        parse .insertion (minimalElf 0x80000000#64) = .ok image ∧
        LoadedExactly minimalBus (loadElf .insertion (minimalElf 0x80000000#64) minimalBus).1
          (minimalElf 0x80000000#64) image.segments) ∧
    ∀ image, parse .insertion (minimalElf 0x80000000#64) = .ok image →
      (∀ segment ∈ image.segments,
        minimalBus.imageRangeIsValid segment.loadAddress segment.memorySize = true) →
      (loadElf .insertion (minimalElf 0x80000000#64) minimalBus).2 = .ok image :=
  loadElf_all_or_nothing .insertion (minimalElf 0x80000000#64) minimalBus rfl

end Northstar64
