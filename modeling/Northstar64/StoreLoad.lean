import Northstar64.LoadStore
import Northstar64.Sv39Correct

namespace Northstar64

open Sv39Spec

theorem inspectPte_table {context : Sv39Context} {level : Nat} {pte : BitVec 64} {next : Address}
    (h : inspectPte context level pte = .table next) (access : VirtualAccess) :
    inspectPte { context with access := access } level pte = .table next := by
  obtain ⟨hlevel, hpointer, hnext⟩ := pointer_of_inspectPte h
  obtain ⟨next', hinspect, hnext'⟩ :=
    inspectPte_of_pointer { context with access := access } hlevel hpointer
  rw [hinspect, BitVec.eq_of_toNat_eq (hnext'.trans hnext.symm)]

-- A writable leaf is readable: W without R is a reserved encoding.
theorem leafEntry_load {context : Sv39Context} {level : Nat} {pte : BitVec 64}
    (h : LeafEntry context level pte) (haccess : context.access = .store) :
    LeafEntry { context with access := .load } level pte := by
  have hpermitted := h.permitted
  rw [haccess] at hpermitted
  refine ⟨h.valid, h.highBits, h.leaf, h.writeImpliesRead, h.aligned, h.user, ?_, ?_, h.accessed, ?_⟩
  · exact fun hprivilege huser => ⟨(h.supervisor hprivilege huser).1, VirtualAccess.noConfusion⟩
  · rw [permits, h.writeImpliesRead hpermitted, Bool.true_or]
  · exact fun hstore => VirtualAccess.noConfusion hstore

theorem inspectPte_load {context : Sv39Context} {level : Nat} {pte : BitVec 64}
    (haccess : context.access = .store) (h : inspectPte context level pte = .leaf) :
    inspectPte { context with access := .load } level pte = .leaf :=
  inspectPte_of_leaf (leafEntry_load (leaf_of_inspectPte h) haccess)

variable {virtualAddress : Address} {context : Sv39Context} {bus : Bus}
  {translation : Sv39Translation}

theorem walkFrom_load (haccess : context.access = .store) {remaining : Nat} {tableAddress : Address}
    (h : (walkFrom virtualAddress context remaining tableAddress bus).1 = .ok translation) :
    (walkFrom virtualAddress { context with access := .load } remaining tableAddress bus).1 =
      .ok translation := by
  induction remaining generalizing tableAddress with
  | zero => cases h
  | succ level ih =>
    rw [walkFrom_succ] at h ⊢
    dsimp only at h ⊢
    split_ifs at h ⊢ with hoverflow
    cases hread : (bus.read (tableAddress + virtualPageNumber virtualAddress level * 8#64) 8
      .pageTableWalk).1 with
    | error fault =>
      rw [hread] at h
      cases h
    | ok pte =>
      rw [hread] at h
      dsimp only at h ⊢
      cases hinspect : inspectPte context level pte with
      | fault reason detail =>
        rw [hinspect] at h
        cases h
      | leaf =>
        rw [hinspect] at h
        rw [inspectPte_load haccess hinspect]
        exact h
      | table next =>
        rw [hinspect] at h
        rw [inspectPte_table hinspect]
        exact ih h

theorem walkSv39_load (haccess : context.access = .store)
    (h : (walkSv39 bus virtualAddress context).1 = .ok translation) :
    (walkSv39 bus virtualAddress { context with access := .load }).1 = .ok translation := by
  rw [walkSv39_fst] at h ⊢
  split_ifs at h ⊢
  exact walkFrom_load haccess h

namespace Cpu
variable {cpu other : Cpu}

theorem physicalAddress_load {address physical : Address}
    (h : cpu.physicalAddress address .store = some physical) :
    cpu.physicalAddress address .load = some physical := by
  unfold physicalAddress at h ⊢
  split_ifs at h ⊢ with hidentity
  · exact h
  · cases hwalk : (walkSv39 cpu.bus address (StepState.walkContext cpu .store)).1 with
    | error fault =>
      rw [hwalk] at h
      cases h
    | ok translation =>
      rw [hwalk] at h
      have hload : (walkSv39 cpu.bus address (StepState.walkContext cpu .load)).1 =
        .ok translation := walkSv39_load rfl hwalk
      rw [hload]
      exact h

def walkReads (cpu : Cpu) (address : Address) (access : VirtualAccess) : List Address :=
  if StepState.usesIdentity cpu then []
  else pteReads address (StepState.walkContext cpu access) cpu.bus

structure SameAddressSpace (cpu other : Cpu) : Prop where
  layout : cpu.bus.layout = other.bus.layout
  privilege : other.privilege = cpu.privilege
  satp : other.csrs.satp = cpu.csrs.satp
  mstatus : other.csrs.mstatus = cpu.csrs.mstatus

theorem SameAddressSpace.physicalAddress (h : SameAddressSpace cpu other) {address : Address}
    {access : VirtualAccess}
    (hentries : AgreeOnEntries cpu.bus other.bus (cpu.walkReads address access)) :
    other.physicalAddress address access = cpu.physicalAddress address access := by
  have hidentity : StepState.usesIdentity other = StepState.usesIdentity cpu := by
    rw [StepState.usesIdentity, CsrFile.satpValue, h.privilege, h.satp]
    rfl
  have hcontext : StepState.walkContext other access = StepState.walkContext cpu access := by
    rw [StepState.walkContext, CsrFile.satpValue, CsrFile.mstatusValue, h.privilege, h.satp,
      h.mstatus]
    rfl
  unfold walkReads at hentries
  rw [Cpu.physicalAddress, Cpu.physicalAddress, hidentity, hcontext]
  split_ifs at hentries ⊢ with hmode
  · rfl
  · rw [(walkSv39_congr address _ h.layout hentries).1]

theorem fetchedWord_eq (cpu : Cpu) :
    cpu.fetchedWord =
      if isMisaligned cpu.pc then none
      else (cpu.physicalAddress cpu.pc .instructionFetch).bind (fun physical =>
        (cpu.bus.read physical kInstructionBytes.toNat .instructionFetch).1.toOption.map
          (fun value => value.setWidth 32)) := by
  unfold fetchedWord StepState.fetch
  rw [cpu.start_eq_prepared, show (cpu.prepared cpu.initialScratch).cpu.pc = cpu.pc from rfl]
  split_ifs with hmisaligned
  · rfl
  · rcases cpu.translate_prepared cpu.initialScratch cpu.pc .instructionFetch with
      ⟨physical, hphysical, htranslate⟩ | ⟨cause, value, detail, hnone, htranslate⟩
    · rw [htranslate, hphysical]
      simp only [prepared_bus, Option.bind_some]
      cases (cpu.bus.read physical kInstructionBytes.toNat .instructionFetch).1 <;> rfl
    · rw [htranslate, hnone]
      rfl

def FetchesByte (cpu : Cpu) (p : Address) : Prop :=
  ∃ physical, cpu.physicalAddress cpu.pc .instructionFetch = some physical ∧
    (p - physical).toNat < kInstructionBytes.toNat

def WalksByte (cpu : Cpu) (address : Address) (access : VirtualAccess) (p : Address) : Prop :=
  ∃ pteAddress ∈ cpu.walkReads address access, entryByte pteAddress p

theorem SameAddressSpace.fetchedWord (h : SameAddressSpace cpu other) (hpc : other.pc = cpu.pc)
    (hwalk : ∀ p, cpu.WalksByte cpu.pc .instructionFetch p → cpu.bus.ramByte p = other.bus.ramByte p)
    (hword : ∀ p, cpu.FetchesByte p → cpu.bus.ramByte p = other.bus.ramByte p) :
    other.fetchedWord = cpu.fetchedWord := by
  have hphysical := h.physicalAddress (fun pteAddress hmem p hp => hwalk p ⟨pteAddress, hmem, hp⟩)
  rw [other.fetchedWord_eq, cpu.fetchedWord_eq, hpc, hphysical]
  cases hfetch : cpu.physicalAddress cpu.pc .instructionFetch with
  | none => rfl
  | some physical =>
    have hbytes (i : Nat) (hi : i < kInstructionBytes.toNat) :
        cpu.bus.ramByte (physical + BitVec.ofNat 64 i) =
          other.bus.ramByte (physical + BitVec.ofNat 64 i) := by
      refine hword _ ⟨physical, hfetch, ?_⟩
      rw [distance_add physical (Nat.lt_trans hi (by decide))]
      exact hi
    have hread := Bus.read_congr h.layout hbytes .instructionFetch
    rw [Option.bind_some, Option.bind_some, hread]

structure LoadFollows (before : Cpu) (load : DecodedInstruction) (address physical : Address)
    (width : Nat) (signed : Bool) : Prop where
  issued : before.Issues load
  form : loadForm load.operation = some (width, signed)
  address_eq : before.effectiveAddress load = address
  fetch_walk : ∀ p, before.WalksByte before.pc .instructionFetch p → ¬ (p - physical).toNat < width
  fetch_word : ∀ p, before.FetchesByte p → ¬ (p - physical).toNat < width
  data_walk : ∀ p, before.WalksByte address .load p → ¬ (p - physical).toNat < width

theorem StoreAccepted.loadAccepted {address physical : Address} {value : BitVec 64} {width : Nat}
    (h : cpu.StoreAccepted address width value physical)
    (hram : (cpu.bus.ramByte physical).isSome = true) (hspace : SameAddressSpace cpu other)
    (hbus : other.bus =
      (cpu.bus.write physical width (value &&& maskForWidth width) .store).1)
    (hwalk : AgreeOnEntries cpu.bus other.bus (cpu.walkReads address .load)) :
    other.LoadAccepted address width physical (littleEndian (littleEndianByte value) width) := by
  refine ⟨h.aligned, ?_, ?_⟩
  · rw [hspace.physicalAddress hwalk]
    exact physicalAddress_load h.translated
  · obtain ⟨hvalid, device, hfind⟩ := Bus.write_mapped h.written
    obtain ⟨ram, hfindRam⟩ := Bus.find_ram hvalid hfind hram
    obtain ⟨ram', hfindOther, -⟩ := Bus.find_ram_of_layout hspace.layout hfindRam
    rw [Bus.read_ram hfindOther]
    refine congrArg Except.ok (littleEndian_congr fun i hi => ?_)
    have hstored := h.ramByte_stored hram hi
    rw [← hbus, Bus.ramByte_of_find hfindOther hi] at hstored
    exact Option.some.inj hstored

theorem store_then_load {store load : DecodedInstruction} {width : Nat} {signed : Bool}
    {physical : Address} (issued : cpu.Issues store)
    (form : storeForm store.operation = some width)
    (retired : cpu.stepped.record.retired = true)
    (translated : cpu.physicalAddress (cpu.effectiveAddress store) .store = some physical)
    (hram : (cpu.bus.ramByte physical).isSome = true)
    (follows : LoadFollows { cpu.stepped.cpu with bus := cpu.bus } load
      (cpu.effectiveAddress store) physical width signed) :
    cpu.stepped.cpu.Issues load ∧ cpu.stepped.cpu.stepped.record.retired = true ∧
      cpu.stepped.cpu.stepped.cpu.registers.values =
        Rv64i.writeBack cpu.registers.values
          (some ⟨load.rd, extended width signed (cpu.registers.values store.rs2)⟩) := by
  obtain ⟨stored, haccepted, hnext⟩ := stepped_stored issued form retired
  obtain rfl := Option.some.inj (haccepted.translated.symm.trans translated)
  have hbus : cpu.stepped.cpu.bus = (cpu.bus.write stored width
      (cpu.registers.values store.rs2 &&& maskForWidth width) .store).1 := by rw [hnext]
  have hregisters : cpu.stepped.cpu.registers = cpu.registers := by
    rw [hnext]
    rfl
  have hkept (p : Address) (hout : ¬ (p - stored).toNat < width) :
      cpu.bus.ramByte p = cpu.stepped.cpu.bus.ramByte p := by
    rw [hbus]
    exact ((haccepted.ramByte p).trans (if_neg hout)).symm
  have hlayout : cpu.bus.layout = cpu.stepped.cpu.bus.layout := by
    rw [hbus]
    exact (Bus.write_layout _ _ _ _ _).symm
  have hspace : SameAddressSpace cpu cpu.stepped.cpu := by
    refine ⟨hlayout, ?_, ?_, ?_⟩ <;> rw [hnext] <;> rfl
  have hbefore : SameAddressSpace { cpu.stepped.cpu with bus := cpu.bus } cpu.stepped.cpu :=
    ⟨hlayout, rfl, rfl, rfl⟩
  have hreads : ({ cpu.stepped.cpu with bus := cpu.bus } : Cpu).walkReads
      (cpu.effectiveAddress store) .load = cpu.walkReads (cpu.effectiveAddress store) .load := by
    rw [hnext]
    rfl
  have hissued : cpu.stepped.cpu.Issues load := by
    obtain ⟨word, hfetched, hdecoded⟩ := follows.issued.fetched
    refine ⟨follows.issued.running, word, ?_, hdecoded⟩
    rw [hbefore.fetchedWord rfl (fun p hp => hkept p (follows.fetch_walk p hp))
      (fun p hp => hkept p (follows.fetch_word p hp))]
    exact hfetched
  have hload := haccepted.loadAccepted hram hspace hbus (fun pteAddress hmem p hp =>
    hkept p (follows.data_walk p ⟨pteAddress, hreads ▸ hmem, hp⟩))
  rw [← follows.address_eq] at hload
  obtain ⟨hretired, hafter⟩ := LoadAccepted.stepped hload hissued follows.form
  refine ⟨hissued, hretired, ?_⟩
  rw [hafter, extended_eq _ hload.validWidth, extended_stored _ haccepted.width_le]
  refine (set_values _ _ _).trans ?_
  rw [hregisters]

theorem load_store_semantics :
    (∀ (cpu : Cpu) decoded width, cpu.Issues decoded → storeForm decoded.operation = some width →
      cpu.stepped.record.retired = true →
      cpu.Stores (cpu.effectiveAddress decoded) width (cpu.registers.values decoded.rs2)) ∧
    (∀ (cpu : Cpu) decoded width signed, cpu.Issues decoded →
      loadForm decoded.operation = some (width, signed) → cpu.stepped.record.retired = true →
      cpu.Loads (cpu.effectiveAddress decoded) width signed decoded.rd) ∧
    ∀ (cpu : Cpu) store load width signed physical, cpu.Issues store →
      storeForm store.operation = some width → cpu.stepped.record.retired = true →
      cpu.physicalAddress (cpu.effectiveAddress store) .store = some physical →
      (cpu.bus.ramByte physical).isSome = true →
      LoadFollows { cpu.stepped.cpu with bus := cpu.bus } load (cpu.effectiveAddress store) physical
        width signed →
      cpu.stepped.cpu.Issues load ∧ cpu.stepped.cpu.stepped.record.retired = true ∧
        cpu.stepped.cpu.stepped.cpu.registers.values =
          Rv64i.writeBack cpu.registers.values
            (some ⟨load.rd, extended width signed (cpu.registers.values store.rs2)⟩) := by
  refine ⟨?_, ?_, ?_⟩
  · exact fun cpu decoded width => stores_of_retired
  · intro cpu decoded width signed issued form retired
    obtain ⟨physical, loaded, haccepted⟩ := stepped_load_accepted issued form retired
    exact haccepted.loads issued form
  · exact fun cpu store load width signed physical => store_then_load

-- sh x1, 256(x0) ; lh x2, 256(x0)
def storingCpu : Cpu :=
  { codeCpu 0x1000110310101023#64 with registers := RegisterFile.cleared.set 1#5 0x12345fff0#64 }

theorem walksByte_identity (h : StepState.usesIdentity cpu = true) (address : Address)
    (access : VirtualAccess) (p : Address) : ¬ cpu.WalksByte address access p := by
  rintro ⟨pteAddress, hmem, -⟩
  rw [walkReads, if_pos h] at hmem
  cases hmem

def halfwordStore : DecodedInstruction := ⟨.sh, 0x10101023#32, 0#5, 0#5, 1#5, 0x100#64, 0x101#16⟩
def halfwordLoad : DecodedInstruction := ⟨.lh, 0x10001103#32, 2#5, 0#5, 0#5, 0x100#64, 0x100#16⟩

theorem halfwordLoad_follows :
    LoadFollows { storingCpu.stepped.cpu with bus := storingCpu.bus } halfwordLoad 0x100#64 0x100#64
      2 true := by
  refine ⟨by decide +kernel, rfl, by decide +kernel, ?_, ?_, ?_⟩
  · exact fun p hp => absurd hp (walksByte_identity (by decide +kernel) _ _ p)
  · rintro p ⟨physical, hphysical, hp⟩
    have hfetch : ({ storingCpu.stepped.cpu with bus := storingCpu.bus } : Cpu).physicalAddress
        ({ storingCpu.stepped.cpu with bus := storingCpu.bus } : Cpu).pc .instructionFetch =
          some 4#64 := by decide +kernel
    obtain rfl := Option.some.inj (hphysical.symm.trans hfetch)
    rw [show kInstructionBytes.toNat = 4 from rfl] at hp
    bv_omega
  · exact fun p hp => absurd hp (walksByte_identity (by decide +kernel) _ _ p)

theorem load_store_semantics_halfword :
    storingCpu.Stores 0x100#64 2 0x12345fff0#64 ∧ storingCpu.stepped.cpu.Loads 0x100#64 2 true 2#5 ∧
      storingCpu.stepped.cpu.stepped.cpu.registers.values =
        Rv64i.writeBack storingCpu.registers.values (some ⟨2#5, 0xfffffffffffffff0#64⟩) := by
  obtain ⟨hstores, hloads, hloaded⟩ := load_store_semantics
  have hissued : storingCpu.Issues halfwordStore := by decide +kernel
  have hretired : storingCpu.stepped.record.retired = true := by decide +kernel
  obtain ⟨hissuedLoad, hretiredLoad, hregisters⟩ := hloaded storingCpu halfwordStore halfwordLoad 2
    true 0x100#64 hissued rfl hretired rfl (by decide +kernel) halfwordLoad_follows
  refine ⟨hstores storingCpu halfwordStore 2 hissued rfl hretired, ?_, ?_⟩
  · exact hloads storingCpu.stepped.cpu halfwordLoad 2 true hissuedLoad rfl hretiredLoad
  · exact hregisters.trans (by decide +kernel)

end Cpu

end Northstar64
