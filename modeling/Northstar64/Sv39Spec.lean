import Northstar64.Sv39Walk

namespace Northstar64

namespace Sv39Spec

def valid (pte : BitVec 64) : Bool := pte.getLsbD 0
def readable (pte : BitVec 64) : Bool := pte.getLsbD 1
def writable (pte : BitVec 64) : Bool := pte.getLsbD 2
def executable (pte : BitVec 64) : Bool := pte.getLsbD 3
def userPage (pte : BitVec 64) : Bool := pte.getLsbD 4
def accessed (pte : BitVec 64) : Bool := pte.getLsbD 6
def dirty (pte : BitVec 64) : Bool := pte.getLsbD 7
def highBits (pte : BitVec 64) : Nat := pte.toNat / 2 ^ 54
def ppn (pte : BitVec 64) : Nat := pte.toNat / 2 ^ 10 % 2 ^ 44

def vpn (virtualAddress : Address) (level : Nat) : Nat :=
  virtualAddress.toNat / 2 ^ (12 + 9 * level) % 2 ^ 9

def SignExtended (virtualAddress : Address) : Prop :=
  (virtualAddress.setWidth 39).signExtend 64 = virtualAddress

def permits (pte : BitVec 64) (access : VirtualAccess) (mxr : Bool) : Bool :=
  match access with
  | .instructionFetch => executable pte
  | .load => readable pte || mxr && executable pte
  | .store => writable pte

def isLeaf (pte : BitVec 64) : Bool := readable pte || executable pte

structure PointerEntry (pte : BitVec 64) : Prop where
  valid : valid pte = true
  highBits : highBits pte = 0
  permissions : readable pte = false ∧ writable pte = false ∧ executable pte = false
  reserved : userPage pte = false ∧ accessed pte = false ∧ dirty pte = false

structure LeafEntry (context : Sv39Context) (level : Nat) (pte : BitVec 64) : Prop where
  valid : valid pte = true
  highBits : highBits pte = 0
  leaf : isLeaf pte = true
  writeImpliesRead : writable pte = true → readable pte = true
  aligned : ppn pte % 2 ^ (9 * level) = 0
  user : context.privilege = .user → userPage pte = true
  supervisor : context.privilege = .supervisor → userPage pte = true →
    context.sum = true ∧ context.access ≠ .instructionFetch
  permitted : permits pte context.access context.mxr = true
  accessed : accessed pte = true
  dirty : context.access = .store → dirty pte = true

abbrev Check := Sv39FaultReason × Bool

def commonChecks (pte : BitVec 64) : List Check :=
  [(.reservedPteBits, highBits pte = 0), (.invalidPte, valid pte),
    (.reservedWriteOnlyPte, !writable pte || readable pte)]

def pointerChecks (level : Nat) (pte : BitVec 64) : List Check :=
  [(.reservedNonLeafPte, !userPage pte && !accessed pte && !dirty pte),
    (.walkExhausted, level ≠ 0)]

def leafChecks (context : Sv39Context) (level : Nat) (pte : BitVec 64) : List Check :=
  [(.misalignedSuperpage, ppn pte % 2 ^ (9 * level) = 0),
    (.privilegeViolation, context.privilege ≠ .user || userPage pte),
    (.privilegeViolation, context.privilege ≠ .supervisor || !userPage pte ||
      context.sum && context.access ≠ .instructionFetch),
    (.permissionViolation, permits pte context.access context.mxr),
    (.accessedBitClear, accessed pte),
    (.dirtyBitClear, context.access ≠ .store || dirty pte)]

def entryChecks (context : Sv39Context) (level : Nat) (pte : BitVec 64) : List Check :=
  commonChecks pte ++ if isLeaf pte then leafChecks context level pte else pointerChecks level pte

def firstFailing (checks : List Check) : Option Sv39FaultReason :=
  (checks.find? (fun check => !check.2)).map Prod.fst

structure EntryRead (bus : Bus) (virtualAddress : Address) (level table : Nat)
    (pteAddress : Address) (pte : BitVec 64) : Prop where
  address : pteAddress.toNat = table + 8 * vpn virtualAddress level
  read : (bus.read pteAddress 8 .pageTableWalk).1 = .ok pte

inductive TableAt (bus : Bus) (virtualAddress : Address) (root : Nat) : Nat → Nat → Prop where
  | root : TableAt bus virtualAddress root 2 root
  | descend {level table : Nat} {pteAddress : Address} {pte : BitVec 64}
      (above : TableAt bus virtualAddress root (level + 1) table)
      (entry : EntryRead bus virtualAddress (level + 1) table pteAddress pte)
      (pointer : PointerEntry pte) : TableAt bus virtualAddress root level (ppn pte * 4096)

def Walkable (virtualAddress : Address) (context : Sv39Context) : Prop :=
  SignExtended virtualAddress ∧ (context.privilege = .supervisor ∨ context.privilege = .user)

def Translates (bus : Bus) (virtualAddress : Address) (context : Sv39Context) (root : Nat)
    (translation : Sv39Translation) : Prop :=
  Walkable virtualAddress context ∧ ∃ level table, TableAt bus virtualAddress root level table ∧
    EntryRead bus virtualAddress level table translation.pteAddress translation.pte ∧
    LeafEntry context level translation.pte ∧
    translation.leafLevel = level ∧
    translation.physicalAddress.toNat =
      ppn translation.pte * 4096 / 2 ^ (12 + 9 * level) * 2 ^ (12 + 9 * level) +
        virtualAddress.toNat % 2 ^ (12 + 9 * level)

inductive Faults (bus : Bus) (virtualAddress : Address) (context : Sv39Context) (root : Nat) :
    Sv39FaultReason → Int → Prop where
  | nonCanonical (address : ¬ SignExtended virtualAddress) :
      Faults bus virtualAddress context root .nonCanonicalAddress (-1)
  | privilege (address : SignExtended virtualAddress)
      (unprivileged : ¬ (context.privilege = .supervisor ∨ context.privilege = .user)) :
      Faults bus virtualAddress context root .privilegeViolation (-1)
  | unreadable {level table : Nat} (walkable : Walkable virtualAddress context)
      (reached : TableAt bus virtualAddress root level table)
      (unread : ∀ pteAddress pte, ¬ EntryRead bus virtualAddress level table pteAddress pte) :
      Faults bus virtualAddress context root .pageTableAccess level
  | entry {level table : Nat} {pteAddress : Address} {pte : BitVec 64} {reason : Sv39FaultReason}
      (walkable : Walkable virtualAddress context)
      (reached : TableAt bus virtualAddress root level table)
      (read : EntryRead bus virtualAddress level table pteAddress pte)
      (failing : firstFailing (entryChecks context level pte) = some reason) :
      Faults bus virtualAddress context root reason level

theorem firstFailing_cons (check : Check) (checks : List Check) :
    firstFailing (check :: checks) = if check.2 then firstFailing checks else some check.1 := by
  cases h : check.2 <;> simp [firstFailing, h]

theorem firstFailing_nil : firstFailing [] = none := rfl

theorem firstFailing_eq_none (checks : List Check) :
    firstFailing checks = none ↔ ∀ check ∈ checks, check.2 = true := by
  simp [firstFailing]

theorem pointerEntry_iff (context : Sv39Context) {level : Nat} (hlevel : level ≠ 0)
    (pte : BitVec 64) :
    PointerEntry pte ↔
      firstFailing (entryChecks context level pte) = none ∧ isLeaf pte = false := by
  constructor
  · rintro ⟨hvalid, hhigh, ⟨hread, hwrite, hexecute⟩, huser, haccessed, hdirty⟩
    have hleaf : isLeaf pte = false := by rw [isLeaf, hread, hexecute]; rfl
    refine ⟨?_, hleaf⟩
    simp [entryChecks, hleaf, commonChecks, pointerChecks, firstFailing_cons, firstFailing_nil,
      hvalid, hhigh, hwrite, huser, haccessed, hdirty, hlevel]
  · rintro ⟨hchecks, hleaf⟩
    rw [firstFailing_eq_none, entryChecks, hleaf] at hchecks
    simp only [isLeaf, Bool.or_eq_false_iff] at hleaf
    simp [commonChecks, pointerChecks, hleaf.1] at hchecks
    obtain ⟨hhigh, hvalid, hwrite, ⟨⟨huser, haccessed⟩, hdirty⟩, -⟩ := hchecks
    exact ⟨hvalid, hhigh, ⟨hleaf.1, hwrite, hleaf.2⟩, huser, haccessed, hdirty⟩

theorem leafEntry_iff (context : Sv39Context) (level : Nat) (pte : BitVec 64) :
    LeafEntry context level pte ↔
      firstFailing (entryChecks context level pte) = none ∧ isLeaf pte = true := by
  rw [firstFailing_eq_none]
  constructor
  · rintro ⟨hvalid, hhigh, hleaf, hwrite, haligned, huser, hsupervisor, hpermitted, haccessed,
      hdirty⟩
    refine ⟨?_, hleaf⟩
    rw [entryChecks, hleaf, if_pos rfl]
    simp only [commonChecks, leafChecks, List.cons_append, List.nil_append, List.forall_mem_cons]
    refine ⟨by simpa using hhigh, hvalid, ?_, by simpa using haligned, ?_, ?_, hpermitted,
      haccessed, ?_, by simp⟩
    · cases hw : writable pte with
      | false => rfl
      | true => simp [hwrite hw]
    · by_cases hp : context.privilege = .user
      · simp [huser hp]
      · simp [hp]
    · by_cases hp : context.privilege = .supervisor
      · cases hu : userPage pte with
        | false => simp
        | true => simp [hsupervisor hp hu]
      · simp [hp]
    · by_cases ha : context.access = .store
      · simp [hdirty ha]
      · simp [ha]
  · rintro ⟨hchecks, hleaf⟩
    rw [entryChecks, hleaf, if_pos rfl] at hchecks
    simp only [commonChecks, leafChecks, List.cons_append, List.nil_append,
      List.forall_mem_cons] at hchecks
    obtain ⟨hhigh, hvalid, hwrite, haligned, huser, hsupervisor, hpermitted, haccessed, hdirty, -⟩ :=
      hchecks
    refine ⟨hvalid, by simpa using hhigh, hleaf, ?_, by simpa using haligned, ?_, ?_, hpermitted,
      haccessed, ?_⟩
    · intro hw
      simpa [hw] using hwrite
    · intro hp
      simpa [hp] using huser
    · intro hp hu
      simpa [hp, hu] using hsupervisor
    · intro ha
      simpa [ha] using hdirty

end Sv39Spec

end Northstar64
