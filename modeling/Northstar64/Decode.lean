import Northstar64.Types

namespace Northstar64

inductive Operation where
  | lui
  | auipc
  | jal
  | jalr
  | beq
  | bne
  | blt
  | bge
  | bltu
  | bgeu
  | lb
  | lh
  | lw
  | ld
  | lbu
  | lhu
  | lwu
  | sb
  | sh
  | sw
  | sd
  | addi
  | slti
  | sltiu
  | xori
  | ori
  | andi
  | slli
  | srli
  | srai
  | add
  | sub
  | sll
  | slt
  | sltu
  | xor
  | srl
  | sra
  | or
  | and
  | addiw
  | slliw
  | srliw
  | sraiw
  | addw
  | subw
  | sllw
  | srlw
  | sraw
  | fence
  | fenceI
  | sfenceVma
  | ecall
  | ebreak
  | sret
  | mret
  | wfi
  | csrrw
  | csrrs
  | csrrc
  | csrrwi
  | csrrsi
  | csrrci
  deriving DecidableEq, Repr

structure DecodedInstruction where
  operation : Operation
  raw : BitVec 32
  rd : RegisterIndex
  rs1 : RegisterIndex
  rs2 : RegisterIndex
  immediate : BitVec 64
  csr : BitVec 16
  deriving DecidableEq, Repr

structure DecodeError where
  raw : BitVec 32
  detail : Text
  deriving DecidableEq, Repr

abbrev DecodeResult := Except DecodeError DecodedInstruction

def field (raw : BitVec 32) (shift : Nat) (mask : BitVec 32) : BitVec 8 :=
  (raw >>> shift &&& mask).setWidth 8

def immediateI (raw : BitVec 32) : BitVec 64 := signExtend ((raw >>> 20).setWidth 64) 12

def immediateS (raw : BitVec 32) : BitVec 64 :=
  let value := (raw >>> 25) <<< 5 ||| (raw >>> 7 &&& 0x1f#32)
  signExtend (value.setWidth 64) 12

def immediateB (raw : BitVec 32) : BitVec 64 :=
  let value := (raw >>> 31) <<< 12 ||| (raw >>> 7 &&& 0x1#32) <<< 11 |||
    (raw >>> 25 &&& 0x3f#32) <<< 5 ||| (raw >>> 8 &&& 0xf#32) <<< 1
  signExtend (value.setWidth 64) 13

def immediateU (raw : BitVec 32) : BitVec 64 :=
  signExtend ((raw &&& 0xfffff000#32).setWidth 64) 32

def immediateJ (raw : BitVec 32) : BitVec 64 :=
  let value := (raw >>> 31) <<< 20 ||| (raw >>> 12 &&& 0xff#32) <<< 12 |||
    (raw >>> 20 &&& 0x1#32) <<< 11 ||| (raw >>> 21 &&& 0x3ff#32) <<< 1
  signExtend (value.setWidth 64) 21

def instruction (raw : BitVec 32) (operation : Operation) (immediate : BitVec 64) :
    DecodeResult :=
  .ok {
    operation := operation
    raw := raw
    rd := (field raw 7 0x1f#32).setWidth 5
    rs1 := (field raw 15 0x1f#32).setWidth 5
    rs2 := (field raw 20 0x1f#32).setWidth 5
    immediate := immediate
    csr := (raw >>> 20 &&& 0xfff#32).setWidth 16 }

def decodeError (raw : BitVec 32) (detail : String) : DecodeResult := .error ⟨raw, text detail⟩

def decodeBranch (raw : BitVec 32) (funct3 : BitVec 8) : DecodeResult :=
  match funct3.toNat with
  | 0 => instruction raw .beq (immediateB raw)
  | 1 => instruction raw .bne (immediateB raw)
  | 4 => instruction raw .blt (immediateB raw)
  | 5 => instruction raw .bge (immediateB raw)
  | 6 => instruction raw .bltu (immediateB raw)
  | 7 => instruction raw .bgeu (immediateB raw)
  | _ => decodeError raw "reserved branch funct3"

def decodeLoad (raw : BitVec 32) (funct3 : BitVec 8) : DecodeResult :=
  match [Operation.lb, .lh, .lw, .ld, .lbu, .lhu, .lwu][funct3.toNat]? with
  | some operation => instruction raw operation (immediateI raw)
  | none => decodeError raw "reserved load funct3"

def decodeStore (raw : BitVec 32) (funct3 : BitVec 8) : DecodeResult :=
  match [Operation.sb, .sh, .sw, .sd][funct3.toNat]? with
  | some operation => instruction raw operation (immediateS raw)
  | none => decodeError raw "reserved store funct3"

def decodeOpImm (raw : BitVec 32) (funct3 : BitVec 8) : DecodeResult :=
  match funct3.toNat with
  | 0 => instruction raw .addi (immediateI raw)
  | 2 => instruction raw .slti (immediateI raw)
  | 3 => instruction raw .sltiu (immediateI raw)
  | 4 => instruction raw .xori (immediateI raw)
  | 6 => instruction raw .ori (immediateI raw)
  | 7 => instruction raw .andi (immediateI raw)
  | 1 =>
    if raw >>> 26 ≠ 0#32 then decodeError raw "reserved SLLI encoding"
    else instruction raw .slli ((raw >>> 20 &&& 0x3f#32).setWidth 64)
  | 5 =>
    let funct6 := raw >>> 26 &&& 0x3f#32
    if funct6 = 0#32 then instruction raw .srli ((raw >>> 20 &&& 0x3f#32).setWidth 64)
    else if funct6 = 0x10#32 then instruction raw .srai ((raw >>> 20 &&& 0x3f#32).setWidth 64)
    else decodeError raw "reserved right-shift immediate encoding"
  | _ => decodeError raw "reserved OP-IMM funct3"

def decodeOp (raw : BitVec 32) (funct3 : BitVec 8) : DecodeResult :=
  let funct7 := raw >>> 25 &&& 0x7f#32
  if funct7 = 0x20#32 then
    if funct3 = 0#8 then instruction raw .sub 0#64
    else if funct3 = 5#8 then instruction raw .sra 0#64
    else decodeError raw "reserved alternate OP encoding"
  else if funct7 ≠ 0#32 then decodeError raw "unsupported OP extension encoding"
  else
    match funct3.toNat with
    | 0 => instruction raw .add 0#64
    | 1 => instruction raw .sll 0#64
    | 2 => instruction raw .slt 0#64
    | 3 => instruction raw .sltu 0#64
    | 4 => instruction raw .xor 0#64
    | 5 => instruction raw .srl 0#64
    | 6 => instruction raw .or 0#64
    | _ => instruction raw .and 0#64

def decodeOpImm32 (raw : BitVec 32) (funct3 : BitVec 8) : DecodeResult :=
  let funct7 := raw >>> 25
  if funct3 = 0#8 then instruction raw .addiw (immediateI raw)
  else if funct3 = 1#8 ∧ funct7 = 0#32 then
    instruction raw .slliw ((raw >>> 20 &&& 0x1f#32).setWidth 64)
  else if funct3 = 5#8 ∧ funct7 = 0#32 then
    instruction raw .srliw ((raw >>> 20 &&& 0x1f#32).setWidth 64)
  else if funct3 = 5#8 ∧ funct7 = 0x20#32 then
    instruction raw .sraiw ((raw >>> 20 &&& 0x1f#32).setWidth 64)
  else decodeError raw "reserved OP-IMM-32 encoding"

def decodeOp32 (raw : BitVec 32) (funct3 : BitVec 8) : DecodeResult :=
  let funct7 := raw >>> 25
  if funct7 = 0x20#32 then
    if funct3 = 0#8 then instruction raw .subw 0#64
    else if funct3 = 5#8 then instruction raw .sraw 0#64
    else decodeError raw "reserved alternate OP-32 encoding"
  else if funct7 ≠ 0#32 then decodeError raw "unsupported OP-32 extension encoding"
  else
    match funct3.toNat with
    | 0 => instruction raw .addw 0#64
    | 1 => instruction raw .sllw 0#64
    | 5 => instruction raw .srlw 0#64
    | _ => decodeError raw "reserved OP-32 funct3"

def decodeSystem (raw : BitVec 32) (funct3 : BitVec 8) : DecodeResult :=
  if funct3 = 0#8 then
    if raw &&& 0xfe007fff#32 = 0x12000073#32 then instruction raw .sfenceVma 0#64
    else if raw = 0x00000073#32 then instruction raw .ecall 0#64
    else if raw = 0x00100073#32 then instruction raw .ebreak 0#64
    else if raw = 0x10200073#32 then instruction raw .sret 0#64
    else if raw = 0x30200073#32 then instruction raw .mret 0#64
    else if raw = 0x10500073#32 then instruction raw .wfi 0#64
    else decodeError raw "unsupported privileged instruction"
  else
    match funct3.toNat with
    | 1 => instruction raw .csrrw 0#64
    | 2 => instruction raw .csrrs 0#64
    | 3 => instruction raw .csrrc 0#64
    | 5 => instruction raw .csrrwi 0#64
    | 6 => instruction raw .csrrsi 0#64
    | 7 => instruction raw .csrrci 0#64
    | _ => decodeError raw "reserved SYSTEM funct3"

def decode (raw : BitVec 32) : DecodeResult :=
  if raw &&& 0x3#32 ≠ 0x3#32 then
    decodeError raw "compressed instructions are not implemented"
  else
    let opcode := raw &&& 0x7f#32
    let funct3 := field raw 12 0x7#32
    match opcode.toNat with
    | 0x37 => instruction raw .lui (immediateU raw)
    | 0x17 => instruction raw .auipc (immediateU raw)
    | 0x6f => instruction raw .jal (immediateJ raw)
    | 0x67 =>
      if funct3 ≠ 0#8 then decodeError raw "reserved JALR funct3"
      else instruction raw .jalr (immediateI raw)
    | 0x63 => decodeBranch raw funct3
    | 0x03 => decodeLoad raw funct3
    | 0x23 => decodeStore raw funct3
    | 0x13 => decodeOpImm raw funct3
    | 0x33 => decodeOp raw funct3
    | 0x1b => decodeOpImm32 raw funct3
    | 0x3b => decodeOp32 raw funct3
    | 0x0f =>
      if funct3 = 0#8 then instruction raw .fence 0#64
      else if funct3 = 1#8 ∧ raw = 0x0000100f#32 then instruction raw .fenceI 0#64
      else decodeError raw "reserved MISC-MEM encoding"
    | 0x73 => decodeSystem raw funct3
    | _ => decodeError raw "unknown opcode"

def operationName : Operation → Text
  | .lui => text "lui"
  | .auipc => text "auipc"
  | .jal => text "jal"
  | .jalr => text "jalr"
  | .beq => text "beq"
  | .bne => text "bne"
  | .blt => text "blt"
  | .bge => text "bge"
  | .bltu => text "bltu"
  | .bgeu => text "bgeu"
  | .lb => text "lb"
  | .lh => text "lh"
  | .lw => text "lw"
  | .ld => text "ld"
  | .lbu => text "lbu"
  | .lhu => text "lhu"
  | .lwu => text "lwu"
  | .sb => text "sb"
  | .sh => text "sh"
  | .sw => text "sw"
  | .sd => text "sd"
  | .addi => text "addi"
  | .slti => text "slti"
  | .sltiu => text "sltiu"
  | .xori => text "xori"
  | .ori => text "ori"
  | .andi => text "andi"
  | .slli => text "slli"
  | .srli => text "srli"
  | .srai => text "srai"
  | .add => text "add"
  | .sub => text "sub"
  | .sll => text "sll"
  | .slt => text "slt"
  | .sltu => text "sltu"
  | .xor => text "xor"
  | .srl => text "srl"
  | .sra => text "sra"
  | .or => text "or"
  | .and => text "and"
  | .addiw => text "addiw"
  | .slliw => text "slliw"
  | .srliw => text "srliw"
  | .sraiw => text "sraiw"
  | .addw => text "addw"
  | .subw => text "subw"
  | .sllw => text "sllw"
  | .srlw => text "srlw"
  | .sraw => text "sraw"
  | .fence => text "fence"
  | .fenceI => text "fence.i"
  | .sfenceVma => text "sfence.vma"
  | .ecall => text "ecall"
  | .ebreak => text "ebreak"
  | .sret => text "sret"
  | .mret => text "mret"
  | .wfi => text "wfi"
  | .csrrw => text "csrrw"
  | .csrrs => text "csrrs"
  | .csrrc => text "csrrc"
  | .csrrwi => text "csrrwi"
  | .csrrsi => text "csrrsi"
  | .csrrci => text "csrrci"

def registerName (index : RegisterIndex) : Text := text "x" ++ toDecimal index.toNat

def disassemble (decoded : DecodedInstruction) : Text :=
  let separator := text ", "
  let immediate := signedDecimal decoded.immediate.toInt
  let rd := text " " ++ registerName decoded.rd
  let rs1 := registerName decoded.rs1
  let rs2 := registerName decoded.rs2
  let csr := text "0x" ++ toHex decoded.csr.toNat
  operationName decoded.operation ++
    match decoded.operation with
    | .lui | .auipc | .jal => rd ++ separator ++ immediate
    | .jalr | .addi | .slti | .sltiu | .xori | .ori | .andi | .slli | .srli | .srai | .addiw
    | .slliw | .srliw | .sraiw => rd ++ separator ++ rs1 ++ separator ++ immediate
    | .lb | .lh | .lw | .ld | .lbu | .lhu | .lwu =>
      rd ++ separator ++ immediate ++ text "(" ++ rs1 ++ text ")"
    | .sb | .sh | .sw | .sd =>
      text " " ++ rs2 ++ separator ++ immediate ++ text "(" ++ rs1 ++ text ")"
    | .beq | .bne | .blt | .bge | .bltu | .bgeu =>
      text " " ++ rs1 ++ separator ++ rs2 ++ separator ++ immediate
    | .add | .sub | .sll | .slt | .sltu | .xor | .srl | .sra | .or | .and | .addw | .subw | .sllw
    | .srlw | .sraw => rd ++ separator ++ rs1 ++ separator ++ rs2
    | .csrrw | .csrrs | .csrrc => rd ++ separator ++ csr ++ separator ++ rs1
    | .csrrwi | .csrrsi | .csrrci =>
      rd ++ separator ++ csr ++ separator ++ toDecimal decoded.rs1.toNat
    | .fence | .fenceI | .ecall | .ebreak | .sret | .mret | .wfi => []
    | .sfenceVma => text " " ++ rs1 ++ separator ++ rs2

end Northstar64
