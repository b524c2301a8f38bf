import Northstar64.Csr
import Northstar64.Library.BitMask

namespace Northstar64

namespace status

def supervisorTrapBits : BitVec 64 := kSie ||| kSpie ||| kSpp
def machineTrapBits : BitVec 64 := kMie ||| kMpie ||| kMppMask

end status

namespace CsrFile
variable {csrs csrs' : CsrFile} {trap : Trap} {origin privilege : PrivilegeLevel}

theorem isDelegated_iff :
    csrs.isDelegated trap origin = true ↔
      origin ≠ .machine ∧ csrs.medeleg.getLsbD trap.cause.code.toNat = true := by
  have hlt := trap.cause.code_lt
  have hbit : 1#64 <<< trap.cause.code = BitVec.twoPow 64 trap.cause.code.toNat := by
    rw [BitVec.twoPow_eq]
    rfl
  have hiff := BitMask.and_twoPow_eq_zero_iff csrs.medeleg (i := trap.cause.code.toNat)
    (BitVec.lt_def.mp hlt)
  simp only [isDelegated, hlt, hbit, Bool.and_eq_true, decide_eq_true_eq, ne_eq, hiff,
    Bool.not_eq_false, and_true]

theorem enterTrap_delegated (h : csrs.isDelegated trap origin = true) :
    csrs.enterTrap trap origin =
      ({ csrs with
          mstatus := (csrs.enterTrap trap origin).1.mstatus
          sepc := trap.pc &&& ~~~0x3#64
          scause := trap.cause.code
          stval := trap.value },
        ⟨.supervisor, csrs.stvec &&& ~~~0x3#64⟩) := by
  simp only [enterTrap, h, if_true]

theorem enterTrap_not_delegated (h : csrs.isDelegated trap origin = false) :
    csrs.enterTrap trap origin =
      ({ csrs with
          mstatus := (csrs.enterTrap trap origin).1.mstatus
          mepc := trap.pc &&& ~~~0x3#64
          mcause := trap.cause.code
          mtval := trap.value },
        ⟨.machine, csrs.mtvec &&& ~~~0x3#64⟩) := by
  simp only [enterTrap, h, Bool.false_eq_true, if_false]

theorem enterTrap_target :
    (csrs.enterTrap trap origin).2.target =
      if csrs.isDelegated trap origin then .supervisor else .machine := by
  cases h : csrs.isDelegated trap origin with
  | true => rw [enterTrap_delegated h]; rfl
  | false => rw [enterTrap_not_delegated h]; rfl

theorem enterTrap_mstatus_delegated (h : csrs.isDelegated trap origin = true) {k : BitVec 64}
    (hk : status.supervisorTrapBits &&& k = 0#64) :
    (csrs.enterTrap trap origin).1.mstatus &&& k = csrs.mstatus &&& k := by
  have hsie : status.kSie &&& k = 0#64 := BitMask.disjoint_mono (by decide) hk
  have hspie : status.kSpie &&& k = 0#64 := BitMask.disjoint_mono (by decide) hk
  have hspp : status.kSpp &&& k = 0#64 := BitMask.disjoint_mono (by decide) hk
  simp only [enterTrap, h, if_true]
  split_ifs <;> simp only [BitMask.or_and_of_disjoint, BitMask.clear_and_of_disjoint, hsie, hspie,
    hspp]

theorem enterTrap_mstatus_not_delegated (h : csrs.isDelegated trap origin = false) {k : BitVec 64}
    (hk : status.machineTrapBits &&& k = 0#64) :
    (csrs.enterTrap trap origin).1.mstatus &&& k = csrs.mstatus &&& k := by
  have hmie : status.kMie &&& k = 0#64 := BitMask.disjoint_mono (by decide) hk
  have hmpie : status.kMpie &&& k = 0#64 := BitMask.disjoint_mono (by decide) hk
  have hmpp : status.kMppMask &&& k = 0#64 := BitMask.disjoint_mono (by decide) hk
  have horigin : origin.encoding.setWidth 64 <<< 11 &&& k = 0#64 :=
    BitMask.disjoint_mono (by cases origin <;> decide) hk
  simp only [enterTrap, h, Bool.false_eq_true, if_false]
  split_ifs <;> simp only [BitMask.or_and_of_disjoint, BitMask.clear_and_of_disjoint, hmie, hmpie,
    hmpp, horigin]

theorem returnFromTrap_supervisor :
    (csrs.returnFromTrap .supervisor).1 =
      { csrs with mstatus := (csrs.returnFromTrap .supervisor).1.mstatus } := rfl

theorem returnFromTrap_mstatus_supervisor {k : BitVec 64}
    (hk : (status.supervisorTrapBits ||| status.kMprv) &&& k = 0#64) :
    (csrs.returnFromTrap .supervisor).1.mstatus &&& k = csrs.mstatus &&& k := by
  have hsie : status.kSie &&& k = 0#64 := BitMask.disjoint_mono (by decide) hk
  have hspie : status.kSpie &&& k = 0#64 := BitMask.disjoint_mono (by decide) hk
  have hspp : status.kSpp &&& k = 0#64 := BitMask.disjoint_mono (by decide) hk
  have hmprv : status.kMprv &&& k = 0#64 := BitMask.disjoint_mono (by decide) hk
  simp only [returnFromTrap]
  split_ifs <;> simp only [BitMask.or_and_of_disjoint, BitMask.clear_and_of_disjoint, hsie, hspie,
    hspp, hmprv]

theorem returnFromTrap_clears_mprv :
    (csrs.returnFromTrap .supervisor).1.mstatus &&& status.kMprv = 0#64 := by
  simp only [returnFromTrap]
  rw [BitVec.and_assoc, BitVec.not_and_self]
  exact BitVec.and_zero

theorem enterTrap_spie (h : csrs.isDelegated trap origin = true) :
    (csrs.enterTrap trap origin).1.mstatus &&& status.kSpie =
      if csrs.mstatus &&& status.kSie ≠ 0#64 then status.kSpie else 0#64 := by
  simp only [enterTrap, h, if_true]
  rw [BitMask.assign_and_of_disjoint (by decide), BitMask.clear_and_of_disjoint (by decide),
    BitMask.assign_and_self]

theorem enterTrap_spp (h : csrs.isDelegated trap origin = true) :
    (csrs.enterTrap trap origin).1.mstatus &&& status.kSpp =
      if origin = .supervisor then status.kSpp else 0#64 := by
  simp only [enterTrap, h, if_true]
  rw [BitMask.assign_and_self]

theorem encoded_disjoint {k : BitVec 64} (origin : PrivilegeLevel)
    (hk : status.kMppMask &&& k = 0#64) : origin.encoding.setWidth 64 <<< 11 &&& k = 0#64 :=
  BitMask.disjoint_mono (m := status.kMppMask) (by cases origin <;> decide) hk

theorem enterTrap_mpie (h : csrs.isDelegated trap origin = false) :
    (csrs.enterTrap trap origin).1.mstatus &&& status.kMpie =
      if csrs.mstatus &&& status.kMie ≠ 0#64 then status.kMpie else 0#64 := by
  simp only [enterTrap, h, Bool.false_eq_true, if_false]
  rw [BitMask.or_and_of_disjoint (encoded_disjoint origin (by decide)),
    BitMask.clear_and_of_disjoint (by decide), BitMask.clear_and_of_disjoint (by decide),
    BitMask.assign_and_self]

theorem enterTrap_mpp (h : csrs.isDelegated trap origin = false) :
    (csrs.enterTrap trap origin).1.mstatus &&& status.kMppMask =
      origin.encoding.setWidth 64 <<< 11 := by
  simp only [enterTrap, h, Bool.false_eq_true, if_false]
  rw [BitVec.and_or_distrib_right, BitMask.clear_and_self, BitVec.zero_or]
  cases origin <;> decide

theorem returnFromTrap_sie :
    (csrs.returnFromTrap .supervisor).1.mstatus &&& status.kSie =
      if csrs.mstatus &&& status.kSpie ≠ 0#64 then status.kSie else 0#64 := by
  simp only [returnFromTrap]
  rw [BitMask.clear_and_of_disjoint (by decide), BitMask.clear_and_of_disjoint (by decide),
    BitMask.or_and_of_disjoint (by decide), BitMask.assign_and_self]

theorem returnFromTrap_spie :
    (csrs.returnFromTrap .supervisor).1.mstatus &&& status.kSpie = status.kSpie := by
  simp only [returnFromTrap]
  rw [BitMask.clear_and_of_disjoint (by decide), BitMask.clear_and_of_disjoint (by decide),
    BitMask.or_and_self]

theorem returnFromTrap_spp :
    (csrs.returnFromTrap .supervisor).1.mstatus &&& status.kSpp = 0#64 := by
  simp only [returnFromTrap]
  rw [BitMask.clear_and_of_disjoint (by decide), BitMask.clear_and_self]

theorem returnFromTrap_mstatus_machine {k : BitVec 64}
    (hk : (status.machineTrapBits ||| status.kMprv) &&& k = 0#64) :
    (csrs.returnFromTrap .machine).1.mstatus &&& k = csrs.mstatus &&& k := by
  have hmie : status.kMie &&& k = 0#64 := BitMask.disjoint_mono (by decide) hk
  have hmpie : status.kMpie &&& k = 0#64 := BitMask.disjoint_mono (by decide) hk
  have hmpp : status.kMppMask &&& k = 0#64 := BitMask.disjoint_mono (by decide) hk
  have hmprv : status.kMprv &&& k = 0#64 := BitMask.disjoint_mono (by decide) hk
  simp only [returnFromTrap]
  split_ifs <;> simp only [BitMask.or_and_of_disjoint, BitMask.clear_and_of_disjoint, hmie, hmpie,
    hmpp, hmprv]

-- MPRV is cleared last, and only on the way out of machine mode.
theorem returnFromTrap_machine_keeps {k : BitVec 64} (hk : status.kMprv &&& k = 0#64) :
    (csrs.returnFromTrap .machine).1.mstatus &&& k =
      ((if csrs.mstatus &&& status.kMpie ≠ 0#64 then csrs.mstatus ||| status.kMie
        else csrs.mstatus &&& ~~~status.kMie) ||| status.kMpie) &&& ~~~status.kMppMask &&& k := by
  simp only [returnFromTrap]
  split_ifs <;> simp only [BitMask.clear_and_of_disjoint hk]

theorem returnFromTrap_mie :
    (csrs.returnFromTrap .machine).1.mstatus &&& status.kMie =
      if csrs.mstatus &&& status.kMpie ≠ 0#64 then status.kMie else 0#64 := by
  rw [returnFromTrap_machine_keeps (by decide), BitMask.clear_and_of_disjoint (by decide),
    BitMask.or_and_of_disjoint (by decide), BitMask.assign_and_self]

theorem returnFromTrap_mpie :
    (csrs.returnFromTrap .machine).1.mstatus &&& status.kMpie = status.kMpie := by
  rw [returnFromTrap_machine_keeps (by decide), BitMask.clear_and_of_disjoint (by decide),
    BitMask.or_and_self]

theorem returnFromTrap_mpp :
    (csrs.returnFromTrap .machine).1.mstatus &&& status.kMppMask = 0#64 := by
  rw [returnFromTrap_machine_keeps (by decide), BitMask.clear_and_self]

theorem returnFromTrap_mprv_machine :
    (csrs.returnFromTrap .machine).1.mstatus &&& status.kMprv =
      if (csrs.returnFromTrap .machine).2.target = .machine then csrs.mstatus &&& status.kMprv
      else 0#64 := by
  by_cases htarget : (csrs.returnFromTrap .machine).2.target = .machine
  · rw [if_pos htarget]
    simp only [returnFromTrap] at htarget ⊢
    rw [if_neg (not_not_intro htarget), BitMask.clear_and_of_disjoint (by decide),
      BitMask.or_and_of_disjoint (by decide), BitMask.assign_and_of_disjoint (by decide)]
  · rw [if_neg htarget]
    simp only [returnFromTrap] at htarget ⊢
    rw [if_pos htarget, BitMask.clear_and_self]

theorem validateAccess_write {address : BitVec 16}
    (h : csrs.validateAccess address privilege true = none) :
    privilegeAtLeast privilege (csrMinimumPrivilege address) = true ∧
      csrIsReadOnly address = false := by
  simp only [validateAccess, Bool.true_and, Bool.not_true, Bool.false_and, Bool.false_eq_true,
    if_false] at h
  split_ifs at h with hprivilege himplemented hreadOnly
  exact ⟨by simpa using hprivilege, by simpa using hreadOnly⟩

theorem read_ok {address : BitVec 16} {value : BitVec 64}
    (h : csrs.read address privilege = .ok value) :
    ∃ csr, Csr.ofAddress address = some csr ∧ value = csrs.readRegister csr ∧
      csrs.validateAccess address privilege false = none := by
  unfold read at h
  cases hvalid : csrs.validateAccess address privilege false with
  | some error => simp [hvalid] at h
  | none =>
    cases hcsr : Csr.ofAddress address with
    | none => simp [hvalid, hcsr] at h
    | some csr => exact ⟨csr, rfl, by simpa [hvalid, hcsr] using h.symm, rfl⟩

theorem read_of_valid {csr : Csr}
    (h : csrs.validateAccess csr.address privilege false = none) :
    csrs.read csr.address privilege = .ok (csrs.readRegister csr) := by
  simp [read, h, Csr.ofAddress_address]

theorem write_ok {address : BitVec 16} {value : BitVec 64}
    (h : csrs.write address value privilege = .ok csrs') :
    ∃ csr, Csr.ofAddress address = some csr ∧ csrs.writeRegister value csr = some csrs' ∧
      privilegeAtLeast privilege (csrMinimumPrivilege csr.address) = true ∧
      csrIsReadOnly csr.address = false := by
  unfold write at h
  cases hvalid : csrs.validateAccess address privilege true with
  | some error => simp [hvalid] at h
  | none =>
    cases hcsr : Csr.ofAddress address with
    | none => simp [hvalid, hcsr] at h
    | some csr =>
      obtain rfl := Csr.address_ofAddress hcsr
      refine ⟨csr, rfl, ?_, ?_⟩
      · cases hwrite : csrs.writeRegister value csr with
        | none => simp [hvalid, hcsr, hwrite] at h
        | some written => simpa [hvalid, hcsr, hwrite] using h
      · exact validateAccess_write hvalid

end CsrFile

end Northstar64
