import Northstar64.CsrUpdate
import Northstar64.Warl

namespace Northstar64

inductive CsrView where
  | sstatus
  | sie
  | sip
  deriving DecidableEq, Repr

namespace CsrView

def csr : CsrView → Csr
  | .sstatus => .sstatus
  | .sie => .sie
  | .sip => .sip

def machineCsr : CsrView → Csr
  | .sstatus => .mstatus
  | .sie => .mie
  | .sip => .mip

def behind (view : CsrView) (csrs : CsrFile) : BitVec 64 :=
  match view with
  | .sstatus => csrs.mstatus
  | .sie => csrs.mie
  | .sip => csrs.mip

def writable (view : CsrView) (csrs : CsrFile) : BitVec 64 :=
  match view with
  | .sstatus => status.kSstatusWritableMask
  | .sie => csrs.mideleg &&& kSupervisorInterruptMask
  | .sip => csrs.mideleg &&& kSupervisorSoftwareInterrupt

end CsrView

namespace CsrFile
variable {csrs csrs' other : CsrFile} {value : BitVec 64} {csr : Csr} {privilege : PrivilegeLevel}

structure Accessible (csrs : CsrFile) (address : BitVec 16) (privilege : PrivilegeLevel) :
    Prop where
  readable : ∃ value, csrs.read address privilege = .ok value
  writable : ∃ value written, csrs.write address value privilege = .ok written

structure SaveRestore (csrs : CsrFile) (address : BitVec 16) (privilege : PrivilegeLevel) :
    Prop where
  restored : ∃ saved, csrs.read address privilege = .ok saved ∧
    csrs.write address saved privilege = .ok csrs
  repeated : ∀ value, ∃ written, csrs.write address value privilege = .ok written ∧
    written.write address value privilege = .ok written

structure ShowsWrite (csrs : CsrFile) (view : CsrView) (privilege : PrivilegeLevel)
    (value : BitVec 64) (old : BitVec 64) (written : CsrFile) : Prop where
  before : csrs.read view.csr.address privilege = .ok old
  accepted : csrs.write view.csr.address value privilege = .ok written
  after : written.read view.csr.address privilege =
    .ok (old &&& ~~~view.writable csrs ||| value &&& view.writable csrs)
  behind : view.behind written &&& ~~~view.writable csrs = view.behind csrs &&& ~~~view.writable csrs
  others : ∀ csr, csr ≠ view.csr → csr ≠ view.machineCsr →
    written.readRegister csr = csrs.readRegister csr

theorem validateAccess_congr {address : BitVec 16} {write : Bool}
    (h : write = true ∨ counterBit address = 0#64) :
    csrs.validateAccess address privilege write = other.validateAccess address privilege write := by
  rcases h with rfl | h
  · simp only [validateAccess, Bool.not_true, Bool.false_and, Bool.false_eq_true, if_false]
  · simp [validateAccess, h]

theorem write_of_valid (h : csrs.validateAccess csr.address privilege true = none)
    (hregister : csrs.writeRegister value csr = some csrs') :
    csrs.write csr.address value privilege = .ok csrs' := by
  simp [write, h, Csr.ofAddress_address, hregister]

theorem writeRegister_isSome (csrs : CsrFile) (value : BitVec 64)
    (h : csrIsReadOnly csr.address = false) :
    ∃ written, csrs.writeRegister value csr = some written := by
  cases csr
  case satp =>
    simp only [writeRegister]
    split_ifs <;> exact ⟨_, rfl⟩
  case cycle | instret | mhartid => cases h
  all_goals exact ⟨_, rfl⟩

theorem normalizeMstatus_fixed {mstatus : BitVec 64}
    (hwithin : BitMask.Within status.kMstatusWritableMask mstatus) (hmpp : LegalMpp mstatus) :
    normalizeMstatus (mstatus ||| status.kMstatusFixedValue) = mstatus := by
  have hmasked : (mstatus ||| status.kMstatusFixedValue) &&& status.kMstatusWritableMask =
      mstatus := by
    rw [BitMask.or_and_of_disjoint (by decide)]
    exact hwithin
  rw [normalizeMstatus, hmasked, if_neg hmpp]

theorem restored_satp (h : csrs.satp = 0#64 ∨ csrs.satp &&& kSatpModeMask = kSatpModeSv39) :
    csrs.writeRegister csrs.satp .satp = some csrs := by
  rcases h with hzero | hsv39
  · have hmode : csrs.satp &&& kSatpModeMask = 0#64 := by rw [hzero, BitVec.zero_and]
    rw [writeRegister, if_pos hmode]
    exact congrArg (fun satp => some { csrs with satp := satp }) hzero.symm
  · rw [writeRegister, if_neg (by rw [hsv39]; decide), if_pos hsv39]

theorem writeRegister_readRegister (h : Warl csrs) (hwritable : csrIsReadOnly csr.address = false) :
    csrs.writeRegister (csrs.readRegister csr) csr = some csrs := by
  cases csr
  case cycle | instret | mhartid => cases hwritable
  case sstatus =>
    refine congrArg (fun mstatus => some { csrs with mstatus := mstatus }) ?_
    rw [readRegister, BitMask.or_and_of_disjoint (by decide), BitVec.and_assoc, BitVec.and_self]
    exact BitMask.merge_self _ _
  case sie =>
    refine congrArg (fun mie => some { csrs with mie := mie }) ?_
    rw [readRegister, BitVec.and_assoc csrs.mie, BitVec.and_assoc, BitVec.and_self]
    exact BitMask.merge_self _ _
  case sip =>
    refine congrArg (fun mip => some { csrs with mip := mip }) ?_
    rw [readRegister, BitVec.and_assoc csrs.mip, BitVec.and_assoc csrs.mip,
      BitVec.and_comm (csrs.mideleg &&& _), software_within]
    exact BitMask.merge_self _ _
  case satp => exact restored_satp h.satp
  case mstatus =>
    exact congrArg (fun mstatus => some { csrs with mstatus := mstatus })
      (normalizeMstatus_fixed h.mstatus h.mpp)
  case stvec => exact congrArg (fun stvec => some { csrs with stvec := stvec }) h.stvec
  case sepc => exact congrArg (fun sepc => some { csrs with sepc := sepc }) h.sepc
  case mtvec => exact congrArg (fun mtvec => some { csrs with mtvec := mtvec }) h.mtvec
  case mepc => exact congrArg (fun mepc => some { csrs with mepc := mepc }) h.mepc
  case scounteren =>
    exact congrArg (fun scounteren => some { csrs with scounteren := scounteren }) h.scounteren
  case mcounteren =>
    exact congrArg (fun mcounteren => some { csrs with mcounteren := mcounteren }) h.mcounteren
  case medeleg => exact congrArg (fun medeleg => some { csrs with medeleg := medeleg }) h.medeleg
  case mideleg => exact congrArg (fun mideleg => some { csrs with mideleg := mideleg }) h.mideleg
  case mie => exact congrArg (fun mie => some { csrs with mie := mie }) h.mie
  case mip => exact congrArg (fun mip => some { csrs with mip := mip }) h.mip
  all_goals rfl

theorem writeRegister_repeated (h : csrs.writeRegister value csr = some csrs') :
    csrs'.writeRegister value csr = some csrs' := by
  cases csr
  case cycle | instret | mhartid => cases h
  case satp =>
    simp only [writeRegister] at h ⊢
    split_ifs at h ⊢ <;> obtain rfl := Option.some.inj h <;> rfl
  all_goals obtain rfl := Option.some.inj h
  case sstatus =>
    exact congrArg (fun mstatus => some { csrs with mstatus := mstatus })
      (BitMask.merge_merge _ _ _)
  case sie => exact congrArg (fun mie => some { csrs with mie := mie }) (BitMask.merge_merge _ _ _)
  case sip => exact congrArg (fun mip => some { csrs with mip := mip }) (BitMask.merge_merge _ _ _)
  all_goals rfl

theorem writeRegister_view {view : CsrView} (h : csrs.writeRegister value view.csr = some csrs') :
    csrs'.readRegister view.csr = csrs.readRegister view.csr &&& ~~~view.writable csrs |||
      value &&& view.writable csrs := by
  rw [readRegister_writeRegister h]
  cases view with
  | sstatus =>
    have hold : (csrs.mstatus &&& status.kSstatusWritableMask ||| status.kUxl64) &&&
        ~~~status.kSstatusWritableMask = status.kUxl64 := by
      rw [BitVec.and_or_distrib_right, BitMask.masked_and_compl, BitVec.zero_or]
      rfl
    exact (BitVec.or_comm _ _).trans (congrArg (· ||| _) hold.symm)
  | sie =>
    have hold : csrs.mie &&& csrs.mideleg &&& kSupervisorInterruptMask &&&
        ~~~(csrs.mideleg &&& kSupervisorInterruptMask) = 0#64 := by
      rw [BitVec.and_assoc csrs.mie, BitMask.masked_and_compl]
    exact (BitVec.zero_or).symm.trans (congrArg (· ||| _) hold.symm)
  | sip => exact congrArg (· &&& _ ||| _) (BitVec.and_assoc _ _ _).symm

theorem writeRegister_behind {view : CsrView} (h : csrs.writeRegister value view.csr = some csrs') :
    view.behind csrs' &&& ~~~view.writable csrs = view.behind csrs &&& ~~~view.writable csrs := by
  cases view <;> obtain rfl := Option.some.inj h <;> exact BitMask.merge_and_compl _ _ _

theorem writeRegister_others {view : CsrView} (h : csrs.writeRegister value view.csr = some csrs')
    {csr : Csr} (hview : csr ≠ view.csr) (hmachine : csr ≠ view.machineCsr) :
    csrs'.readRegister csr = csrs.readRegister csr := by
  cases view <;> obtain rfl := Option.some.inj h <;>
    cases csr <;> first | rfl | exact absurd rfl hview | exact absurd rfl hmachine

theorem Accessible.valid (h : csrs.Accessible csr.address privilege) :
    csrs.validateAccess csr.address privilege false = none ∧
      csrs.validateAccess csr.address privilege true = none ∧
      csrIsReadOnly csr.address = false := by
  obtain ⟨old, hread⟩ := h.readable
  obtain ⟨value, written, hwrite⟩ := h.writable
  obtain ⟨-, -, -, hreadable⟩ := read_ok hread
  have hwritable : csrs.validateAccess csr.address privilege true = none := by
    unfold write at hwrite
    cases hvalid : csrs.validateAccess csr.address privilege true with
    | some error => simp [hvalid] at hwrite
    | none => rfl
  exact ⟨hreadable, hwritable, (validateAccess_write hwritable).2⟩

theorem saveRestore (h : Warl csrs) (haccess : csrs.Accessible csr.address privilege) :
    csrs.SaveRestore csr.address privilege := by
  obtain ⟨hreadable, hvalid, hwritable⟩ := haccess.valid
  refine ⟨⟨_, read_of_valid hreadable, ?_⟩, fun value => ?_⟩
  · exact write_of_valid hvalid (writeRegister_readRegister h hwritable)
  · obtain ⟨written, hwritten⟩ := csrs.writeRegister_isSome value hwritable
    refine ⟨written, write_of_valid hvalid hwritten, ?_⟩
    rw [validateAccess_congr (.inl rfl)] at hvalid
    exact write_of_valid hvalid (writeRegister_repeated hwritten)

theorem counterBit_view (view : CsrView) : counterBit view.csr.address = 0#64 := by
  cases view <;> rfl

theorem showsWrite (view : CsrView) (haccess : csrs.Accessible view.csr.address privilege)
    (value : BitVec 64) : ∃ old written, csrs.ShowsWrite view privilege value old written := by
  obtain ⟨hreadable, hvalid, hwritable⟩ := haccess.valid
  obtain ⟨written, hwritten⟩ := csrs.writeRegister_isSome value hwritable
  refine ⟨_, written, read_of_valid hreadable, write_of_valid hvalid hwritten, ?_,
    writeRegister_behind hwritten, fun csr => writeRegister_others hwritten⟩
  rw [validateAccess_congr (.inr (counterBit_view view))] at hreadable
  rw [read_of_valid hreadable, writeRegister_view hwritten]

theorem csr_save_restore_and_views (operations : List CsrOperation) (csr : Csr)
    (privilege : PrivilegeLevel)
    (accessible : (reset.performAll operations).Accessible csr.address privilege) :
    (reset.performAll operations).SaveRestore csr.address privilege ∧
      ∀ view : CsrView, view.csr = csr → ∀ value, ∃ old written,
        (reset.performAll operations).ShowsWrite view privilege value old written := by
  refine ⟨saveRestore (warl_of_reset operations) accessible, ?_⟩
  rintro view rfl value
  exact showsWrite view accessible value

-- mideleg = SSIP and STIP, then sip from supervisor mode.
def delegatesSoftware : List CsrOperation := [.write Csr.mideleg.address 0x22#64 .machine]

theorem csr_save_restore_and_views_sip :
    (reset.performAll delegatesSoftware).SaveRestore Csr.sip.address .supervisor ∧
      ∀ view : CsrView, view.csr = .sip → ∀ value, ∃ old written,
        (reset.performAll delegatesSoftware).ShowsWrite view .supervisor value old written :=
  csr_save_restore_and_views delegatesSoftware .sip .supervisor
    ⟨⟨0#64, by decide⟩, 0#64, reset.performAll delegatesSoftware, by decide⟩

end CsrFile

end Northstar64
