import CyclePerfectGameboy.Cpu.LoadInstructions

/-!
# The instruction table

A handler of the source is a pointer to one of fourteen functions; `Handler`
names the function and `Handler.call` calls it.  `nullptr` is `none`.
-/

namespace CyclePerfectGameboy

universe u

inductive Handler where
  | nop
  | halt
  | ldRN
  | ldRR
  | ldAMem
  | ldMemA
  | ldAAbs
  | ldRpNn
  | ldNnSp
  | ldSpHl
  | pushRp
  | popRp
  | ldIoA
  | ldHlSpN
  deriving DecidableEq, Repr

section Special

variable {M : Type u}

def nop (regs : Registers) (memory : M) (pc : Address) : HandlerResult M :=
  { regs := regs, memory := memory, pc := pc + 1, cycles := 4 }

/-- `HALT` only advances the program counter: it never sets `halted_`. -/
def halt (regs : Registers) (memory : M) (pc : Address) : HandlerResult M :=
  { regs := regs, memory := memory, pc := pc + 1, cycles := 4 }

end Special

namespace Handler

/-- The load and stack handlers: all but `nop` and `halt`. -/
def isLoad : Handler → Bool
  | .nop => false
  | .halt => false
  | _ => true

variable {M : Type u} [MemoryInterface M]

def call (handler : Handler) :
    Registers → M → Address → HandlerResult M :=
  match handler with
  | .nop => CyclePerfectGameboy.nop
  | .halt => CyclePerfectGameboy.halt
  | .ldRN => CyclePerfectGameboy.ldRN
  | .ldRR => CyclePerfectGameboy.ldRR
  | .ldAMem => CyclePerfectGameboy.ldAMem
  | .ldMemA => CyclePerfectGameboy.ldMemA
  | .ldAAbs => CyclePerfectGameboy.ldAAbs
  | .ldRpNn => CyclePerfectGameboy.ldRpNn
  | .ldNnSp => CyclePerfectGameboy.ldNnSp
  | .ldSpHl => CyclePerfectGameboy.ldSpHl
  | .pushRp => CyclePerfectGameboy.pushRp
  | .popRp => CyclePerfectGameboy.popRp
  | .ldIoA => CyclePerfectGameboy.ldIoA
  | .ldHlSpN => CyclePerfectGameboy.ldHlSpN

end Handler

structure Instruction where
  opcode : Byte
  mnemonic : String
  length : Byte
  handler : Option Handler
  deriving DecidableEq, Repr

set_option maxRecDepth 4096 in
def instructionTable : List Instruction :=
  [
    -- 0x00 - 0x0F
    ⟨0x00, "NOP", 1, some .nop⟩,
    ⟨0x01, "LD BC,nn", 3, some .ldRpNn⟩,
    ⟨0x02, "LD (BC),A", 1, some .ldMemA⟩,
    ⟨0x03, "INC BC", 1, none⟩,
    ⟨0x04, "INC B", 1, none⟩,
    ⟨0x05, "DEC B", 1, none⟩,
    ⟨0x06, "LD B,n", 2, some .ldRN⟩,
    ⟨0x07, "RLCA", 1, none⟩,
    ⟨0x08, "LD (nn),SP", 3, some .ldNnSp⟩,
    ⟨0x09, "ADD HL,BC", 1, none⟩,
    ⟨0x0A, "LD A,(BC)", 1, some .ldAMem⟩,
    ⟨0x0B, "DEC BC", 1, none⟩,
    ⟨0x0C, "INC C", 1, none⟩,
    ⟨0x0D, "DEC C", 1, none⟩,
    ⟨0x0E, "LD C,n", 2, some .ldRN⟩,
    ⟨0x0F, "RRCA", 1, none⟩,
    -- 0x10 - 0x1F
    ⟨0x10, "STOP", 2, none⟩,
    ⟨0x11, "LD DE,nn", 3, some .ldRpNn⟩,
    ⟨0x12, "LD (DE),A", 1, some .ldMemA⟩,
    ⟨0x13, "INC DE", 1, none⟩,
    ⟨0x14, "INC D", 1, none⟩,
    ⟨0x15, "DEC D", 1, none⟩,
    ⟨0x16, "LD D,n", 2, some .ldRN⟩,
    ⟨0x17, "RLA", 1, none⟩,
    ⟨0x18, "JR n", 2, none⟩,
    ⟨0x19, "ADD HL,DE", 1, none⟩,
    ⟨0x1A, "LD A,(DE)", 1, some .ldAMem⟩,
    ⟨0x1B, "DEC DE", 1, none⟩,
    ⟨0x1C, "INC E", 1, none⟩,
    ⟨0x1D, "DEC E", 1, none⟩,
    ⟨0x1E, "LD E,n", 2, some .ldRN⟩,
    ⟨0x1F, "RRA", 1, none⟩,
    -- 0x20 - 0x2F
    ⟨0x20, "JR NZ,n", 2, none⟩,
    ⟨0x21, "LD HL,nn", 3, some .ldRpNn⟩,
    ⟨0x22, "LD (HL+),A", 1, some .ldMemA⟩,
    ⟨0x23, "INC HL", 1, none⟩,
    ⟨0x24, "INC H", 1, none⟩,
    ⟨0x25, "DEC H", 1, none⟩,
    ⟨0x26, "LD H,n", 2, some .ldRN⟩,
    ⟨0x27, "DAA", 1, none⟩,
    ⟨0x28, "JR Z,n", 2, none⟩,
    ⟨0x29, "ADD HL,HL", 1, none⟩,
    ⟨0x2A, "LD A,(HL+)", 1, some .ldAMem⟩,
    ⟨0x2B, "DEC HL", 1, none⟩,
    ⟨0x2C, "INC L", 1, none⟩,
    ⟨0x2D, "DEC L", 1, none⟩,
    ⟨0x2E, "LD L,n", 2, some .ldRN⟩,
    ⟨0x2F, "CPL", 1, none⟩,
    -- 0x30 - 0x3F
    ⟨0x30, "JR NC,n", 2, none⟩,
    ⟨0x31, "LD SP,nn", 3, some .ldRpNn⟩,
    ⟨0x32, "LD (HL-),A", 1, some .ldMemA⟩,
    ⟨0x33, "INC SP", 1, none⟩,
    ⟨0x34, "INC (HL)", 1, none⟩,
    ⟨0x35, "DEC (HL)", 1, none⟩,
    ⟨0x36, "LD (HL),n", 2, none⟩,
    ⟨0x37, "SCF", 1, none⟩,
    ⟨0x38, "JR C,n", 2, none⟩,
    ⟨0x39, "ADD HL,SP", 1, none⟩,
    ⟨0x3A, "LD A,(HL-)", 1, some .ldAMem⟩,
    ⟨0x3B, "DEC SP", 1, none⟩,
    ⟨0x3C, "INC A", 1, none⟩,
    ⟨0x3D, "DEC A", 1, none⟩,
    ⟨0x3E, "LD A,n", 2, some .ldRN⟩,
    ⟨0x3F, "CCF", 1, none⟩,
    -- 0x40 - 0x4F
    ⟨0x40, "LD B,B", 1, some .ldRR⟩,
    ⟨0x41, "LD B,C", 1, some .ldRR⟩,
    ⟨0x42, "LD B,D", 1, some .ldRR⟩,
    ⟨0x43, "LD B,E", 1, some .ldRR⟩,
    ⟨0x44, "LD B,H", 1, some .ldRR⟩,
    ⟨0x45, "LD B,L", 1, some .ldRR⟩,
    ⟨0x46, "LD B,(HL)", 1, some .ldRR⟩,
    ⟨0x47, "LD B,A", 1, some .ldRR⟩,
    ⟨0x48, "LD C,B", 1, some .ldRR⟩,
    ⟨0x49, "LD C,C", 1, some .ldRR⟩,
    ⟨0x4A, "LD C,D", 1, some .ldRR⟩,
    ⟨0x4B, "LD C,E", 1, some .ldRR⟩,
    ⟨0x4C, "LD C,H", 1, some .ldRR⟩,
    ⟨0x4D, "LD C,L", 1, some .ldRR⟩,
    ⟨0x4E, "LD C,(HL)", 1, some .ldRR⟩,
    ⟨0x4F, "LD C,A", 1, some .ldRR⟩,
    -- 0x50 - 0x5F
    ⟨0x50, "LD D,B", 1, some .ldRR⟩,
    ⟨0x51, "LD D,C", 1, some .ldRR⟩,
    ⟨0x52, "LD D,D", 1, some .ldRR⟩,
    ⟨0x53, "LD D,E", 1, some .ldRR⟩,
    ⟨0x54, "LD D,H", 1, some .ldRR⟩,
    ⟨0x55, "LD D,L", 1, some .ldRR⟩,
    ⟨0x56, "LD D,(HL)", 1, some .ldRR⟩,
    ⟨0x57, "LD D,A", 1, some .ldRR⟩,
    ⟨0x58, "LD E,B", 1, some .ldRR⟩,
    ⟨0x59, "LD E,C", 1, some .ldRR⟩,
    ⟨0x5A, "LD E,D", 1, some .ldRR⟩,
    ⟨0x5B, "LD E,E", 1, some .ldRR⟩,
    ⟨0x5C, "LD E,H", 1, some .ldRR⟩,
    ⟨0x5D, "LD E,L", 1, some .ldRR⟩,
    ⟨0x5E, "LD E,(HL)", 1, some .ldRR⟩,
    ⟨0x5F, "LD E,A", 1, some .ldRR⟩,
    -- 0x60 - 0x6F
    ⟨0x60, "LD H,B", 1, some .ldRR⟩,
    ⟨0x61, "LD H,C", 1, some .ldRR⟩,
    ⟨0x62, "LD H,D", 1, some .ldRR⟩,
    ⟨0x63, "LD H,E", 1, some .ldRR⟩,
    ⟨0x64, "LD H,H", 1, some .ldRR⟩,
    ⟨0x65, "LD H,L", 1, some .ldRR⟩,
    ⟨0x66, "LD H,(HL)", 1, some .ldRR⟩,
    ⟨0x67, "LD H,A", 1, some .ldRR⟩,
    ⟨0x68, "LD L,B", 1, some .ldRR⟩,
    ⟨0x69, "LD L,C", 1, some .ldRR⟩,
    ⟨0x6A, "LD L,D", 1, some .ldRR⟩,
    ⟨0x6B, "LD L,E", 1, some .ldRR⟩,
    ⟨0x6C, "LD L,H", 1, some .ldRR⟩,
    ⟨0x6D, "LD L,L", 1, some .ldRR⟩,
    ⟨0x6E, "LD L,(HL)", 1, some .ldRR⟩,
    ⟨0x6F, "LD L,A", 1, some .ldRR⟩,
    -- 0x70 - 0x7F
    ⟨0x70, "LD (HL),B", 1, some .ldRR⟩,
    ⟨0x71, "LD (HL),C", 1, some .ldRR⟩,
    ⟨0x72, "LD (HL),D", 1, some .ldRR⟩,
    ⟨0x73, "LD (HL),E", 1, some .ldRR⟩,
    ⟨0x74, "LD (HL),H", 1, some .ldRR⟩,
    ⟨0x75, "LD (HL),L", 1, some .ldRR⟩,
    ⟨0x76, "HALT", 1, some .halt⟩,
    ⟨0x77, "LD (HL),A", 1, some .ldRR⟩,
    ⟨0x78, "LD A,B", 1, some .ldRR⟩,
    ⟨0x79, "LD A,C", 1, some .ldRR⟩,
    ⟨0x7A, "LD A,D", 1, some .ldRR⟩,
    ⟨0x7B, "LD A,E", 1, some .ldRR⟩,
    ⟨0x7C, "LD A,H", 1, some .ldRR⟩,
    ⟨0x7D, "LD A,L", 1, some .ldRR⟩,
    ⟨0x7E, "LD A,(HL)", 1, some .ldRR⟩,
    ⟨0x7F, "LD A,A", 1, some .ldRR⟩,
    -- 0x80 - 0x8F
    ⟨0x80, "ADD A,B", 1, none⟩,
    ⟨0x81, "ADD A,C", 1, none⟩,
    ⟨0x82, "ADD A,D", 1, none⟩,
    ⟨0x83, "ADD A,E", 1, none⟩,
    ⟨0x84, "ADD A,H", 1, none⟩,
    ⟨0x85, "ADD A,L", 1, none⟩,
    ⟨0x86, "ADD A,(HL)", 1, none⟩,
    ⟨0x87, "ADD A,A", 1, none⟩,
    ⟨0x88, "ADC A,B", 1, none⟩,
    ⟨0x89, "ADC A,C", 1, none⟩,
    ⟨0x8A, "ADC A,D", 1, none⟩,
    ⟨0x8B, "ADC A,E", 1, none⟩,
    ⟨0x8C, "ADC A,H", 1, none⟩,
    ⟨0x8D, "ADC A,L", 1, none⟩,
    ⟨0x8E, "ADC A,(HL)", 1, none⟩,
    ⟨0x8F, "ADC A,A", 1, none⟩,
    -- 0x90 - 0x9F
    ⟨0x90, "SUB B", 1, none⟩,
    ⟨0x91, "SUB C", 1, none⟩,
    ⟨0x92, "SUB D", 1, none⟩,
    ⟨0x93, "SUB E", 1, none⟩,
    ⟨0x94, "SUB H", 1, none⟩,
    ⟨0x95, "SUB L", 1, none⟩,
    ⟨0x96, "SUB (HL)", 1, none⟩,
    ⟨0x97, "SUB A", 1, none⟩,
    ⟨0x98, "SBC A,B", 1, none⟩,
    ⟨0x99, "SBC A,C", 1, none⟩,
    ⟨0x9A, "SBC A,D", 1, none⟩,
    ⟨0x9B, "SBC A,E", 1, none⟩,
    ⟨0x9C, "SBC A,H", 1, none⟩,
    ⟨0x9D, "SBC A,L", 1, none⟩,
    ⟨0x9E, "SBC A,(HL)", 1, none⟩,
    ⟨0x9F, "SBC A,A", 1, none⟩,
    -- 0xA0 - 0xAF
    ⟨0xA0, "AND B", 1, none⟩,
    ⟨0xA1, "AND C", 1, none⟩,
    ⟨0xA2, "AND D", 1, none⟩,
    ⟨0xA3, "AND E", 1, none⟩,
    ⟨0xA4, "AND H", 1, none⟩,
    ⟨0xA5, "AND L", 1, none⟩,
    ⟨0xA6, "AND (HL)", 1, none⟩,
    ⟨0xA7, "AND A", 1, none⟩,
    ⟨0xA8, "XOR B", 1, none⟩,
    ⟨0xA9, "XOR C", 1, none⟩,
    ⟨0xAA, "XOR D", 1, none⟩,
    ⟨0xAB, "XOR E", 1, none⟩,
    ⟨0xAC, "XOR H", 1, none⟩,
    ⟨0xAD, "XOR L", 1, none⟩,
    ⟨0xAE, "XOR (HL)", 1, none⟩,
    ⟨0xAF, "XOR A", 1, none⟩,
    -- 0xB0 - 0xBF
    ⟨0xB0, "OR B", 1, none⟩,
    ⟨0xB1, "OR C", 1, none⟩,
    ⟨0xB2, "OR D", 1, none⟩,
    ⟨0xB3, "OR E", 1, none⟩,
    ⟨0xB4, "OR H", 1, none⟩,
    ⟨0xB5, "OR L", 1, none⟩,
    ⟨0xB6, "OR (HL)", 1, none⟩,
    ⟨0xB7, "OR A", 1, none⟩,
    ⟨0xB8, "CP B", 1, none⟩,
    ⟨0xB9, "CP C", 1, none⟩,
    ⟨0xBA, "CP D", 1, none⟩,
    ⟨0xBB, "CP E", 1, none⟩,
    ⟨0xBC, "CP H", 1, none⟩,
    ⟨0xBD, "CP L", 1, none⟩,
    ⟨0xBE, "CP (HL)", 1, none⟩,
    ⟨0xBF, "CP A", 1, none⟩,
    -- 0xC0 - 0xCF
    ⟨0xC0, "RET NZ", 1, none⟩,
    ⟨0xC1, "POP BC", 1, some .popRp⟩,
    ⟨0xC2, "JP NZ,nn", 3, none⟩,
    ⟨0xC3, "JP nn", 3, none⟩,
    ⟨0xC4, "CALL NZ,nn", 3, none⟩,
    ⟨0xC5, "PUSH BC", 1, some .pushRp⟩,
    ⟨0xC6, "ADD A,n", 2, none⟩,
    ⟨0xC7, "RST 00H", 1, none⟩,
    ⟨0xC8, "RET Z", 1, none⟩,
    ⟨0xC9, "RET", 1, none⟩,
    ⟨0xCA, "JP Z,nn", 3, none⟩,
    ⟨0xCB, "CB prefix", 1, none⟩,
    ⟨0xCC, "CALL Z,nn", 3, none⟩,
    ⟨0xCD, "CALL nn", 3, none⟩,
    ⟨0xCE, "ADC A,n", 2, none⟩,
    ⟨0xCF, "RST 08H", 1, none⟩,
    -- 0xD0 - 0xDF
    ⟨0xD0, "RET NC", 1, none⟩,
    ⟨0xD1, "POP DE", 1, some .popRp⟩,
    ⟨0xD2, "JP NC,nn", 3, none⟩,
    ⟨0xD3, "Invalid", 1, none⟩,
    ⟨0xD4, "CALL NC,nn", 3, none⟩,
    ⟨0xD5, "PUSH DE", 1, some .pushRp⟩,
    ⟨0xD6, "SUB n", 2, none⟩,
    ⟨0xD7, "RST 10H", 1, none⟩,
    ⟨0xD8, "RET C", 1, none⟩,
    ⟨0xD9, "RETI", 1, none⟩,
    ⟨0xDA, "JP C,nn", 3, none⟩,
    ⟨0xDB, "Invalid", 1, none⟩,
    ⟨0xDC, "CALL C,nn", 3, none⟩,
    ⟨0xDD, "Invalid", 1, none⟩,
    ⟨0xDE, "SBC A,n", 2, none⟩,
    ⟨0xDF, "RST 18H", 1, none⟩,
    -- 0xE0 - 0xEF
    ⟨0xE0, "LDH (n),A", 2, some .ldIoA⟩,
    ⟨0xE1, "POP HL", 1, some .popRp⟩,
    ⟨0xE2, "LD (C),A", 1, some .ldIoA⟩,
    ⟨0xE3, "Invalid", 1, none⟩,
    ⟨0xE4, "Invalid", 1, none⟩,
    ⟨0xE5, "PUSH HL", 1, some .pushRp⟩,
    ⟨0xE6, "AND n", 2, none⟩,
    ⟨0xE7, "RST 20H", 1, none⟩,
    ⟨0xE8, "ADD SP,n", 2, none⟩,
    ⟨0xE9, "JP (HL)", 1, none⟩,
    ⟨0xEA, "LD (nn),A", 3, some .ldAAbs⟩,
    ⟨0xEB, "Invalid", 1, none⟩,
    ⟨0xEC, "Invalid", 1, none⟩,
    ⟨0xED, "Invalid", 1, none⟩,
    ⟨0xEE, "XOR n", 2, none⟩,
    ⟨0xEF, "RST 28H", 1, none⟩,
    -- 0xF0 - 0xFF
    ⟨0xF0, "LDH A,(n)", 2, some .ldIoA⟩,
    ⟨0xF1, "POP AF", 1, some .popRp⟩,
    ⟨0xF2, "LD A,(C)", 1, some .ldIoA⟩,
    ⟨0xF3, "DI", 1, none⟩,
    ⟨0xF4, "Invalid", 1, none⟩,
    ⟨0xF5, "PUSH AF", 1, some .pushRp⟩,
    ⟨0xF6, "OR n", 2, none⟩,
    ⟨0xF7, "RST 30H", 1, none⟩,
    ⟨0xF8, "LD HL,SP+n", 2, some .ldHlSpN⟩,
    ⟨0xF9, "LD SP,HL", 1, some .ldSpHl⟩,
    ⟨0xFA, "LD A,(nn)", 3, some .ldAAbs⟩,
    ⟨0xFB, "EI", 1, none⟩,
    ⟨0xFC, "Invalid", 1, none⟩,
    ⟨0xFD, "Invalid", 1, none⟩,
    ⟨0xFE, "CP n", 2, none⟩,
    ⟨0xFF, "RST 38H", 1, none⟩
  ]

/-- The table lists the opcodes in order. -/
theorem instructionTable_opcodes :
    instructionTable.map (fun entry => entry.opcode.toNat) =
      List.range 256 := by
  decide +kernel

theorem instructionTable_length : instructionTable.length = 256 := by
  have lengths := congrArg List.length instructionTable_opcodes
  simpa only [List.length_map, List.length_range] using lengths

/-- `instruction_table[opcode]`. -/
def instructionAt (opcode : Byte) : Instruction :=
  instructionTable.get
    ⟨opcode.toNat, by
      rw [instructionTable_length]
      exact opcode.isLt⟩

theorem instructionAt_mem (opcode : Byte) :
    instructionAt opcode ∈ instructionTable :=
  List.get_mem instructionTable _

/-- Every entry sits at the index of its own opcode. -/
theorem instructionAt_opcode (opcode : Byte) :
    (instructionAt opcode).opcode = opcode := by
  apply BitVec.eq_of_toNat_eq
  have inside : opcode.toNat < (List.range 256).length := by
    rw [List.length_range]
    exact opcode.isLt
  have entry :
      (instructionTable.map (fun entry => entry.opcode.toNat))[opcode.toNat]? =
        (List.range 256)[opcode.toNat]? :=
    congrArg (fun opcodes => opcodes[opcode.toNat]?)
      instructionTable_opcodes
  have bound : opcode.toNat < instructionTable.length := by
    rw [instructionTable_length]
    exact opcode.isLt
  rw [List.getElem?_map, List.getElem?_eq_getElem bound,
    List.getElem?_eq_getElem inside, List.getElem_range] at entry
  exact Option.some.inj entry

/-- A property that the table's entries have one by one holds of every
lookup, with the opcode of the entry known. -/
theorem instructionAt_property
    {Property : Instruction → Prop}
    (entries : ∀ entry ∈ instructionTable, Property entry)
    (opcode : Byte) :
    Property (instructionAt opcode) :=
  entries (instructionAt opcode) (instructionAt_mem opcode)

end CyclePerfectGameboy
