import CyclePerfectGameboy.Core.Types
import CyclePerfectGameboy.Foundations.BitMask
import CyclePerfectGameboy.Foundations.BudgetLoop
import CyclePerfectGameboy.Foundations.CallSequence
import CyclePerfectGameboy.Foundations.Checksum
import CyclePerfectGameboy.Foundations.CounterLoop
import CyclePerfectGameboy.Foundations.EventLog
import CyclePerfectGameboy.Foundations.ForwardOrbit
import CyclePerfectGameboy.Foundations.Lockstep
import CyclePerfectGameboy.Foundations.PhaseCounter
import CyclePerfectGameboy.Foundations.PriorityDrain
import CyclePerfectGameboy.Foundations.ProgramLogic
import CyclePerfectGameboy.Foundations.ReloadCounter
import CyclePerfectGameboy.Foundations.StackMachine
import CyclePerfectGameboy.Foundations.TextCodec
import CyclePerfectGameboy.Memory.MemoryInterface
import CyclePerfectGameboy.Memory.Ram
import CyclePerfectGameboy.Memory.MemoryMap
import CyclePerfectGameboy.Cartridge.CartridgeHeader
import CyclePerfectGameboy.Cartridge.Rom
import CyclePerfectGameboy.Memory.Dispatch
import CyclePerfectGameboy.Memory.ProtectedMemory
import CyclePerfectGameboy.Cartridge.HeaderSync
import CyclePerfectGameboy.Cartridge.HeaderChecksum
import CyclePerfectGameboy.Cartridge.HeaderFields
import CyclePerfectGameboy.Cpu.Flags
import CyclePerfectGameboy.Cpu.Registers
import CyclePerfectGameboy.Cpu.LoadInstructions
import CyclePerfectGameboy.Cpu.Instructions
import CyclePerfectGameboy.Cpu.Cpu
import CyclePerfectGameboy.Cpu.CycleCounts
import CyclePerfectGameboy.Cpu.Simulation
import CyclePerfectGameboy.Cpu.InterruptDispatch
import CyclePerfectGameboy.Cpu.Halt
import CyclePerfectGameboy.Cpu.ControlFlags
import CyclePerfectGameboy.Cpu.PublicCalls
import CyclePerfectGameboy.Cpu.InstructionStream
import CyclePerfectGameboy.Reference.LoadGroup
import CyclePerfectGameboy.Refinement.Registers
import CyclePerfectGameboy.Refinement.RegisterCells
import CyclePerfectGameboy.Refinement.ReachableRegisters
import CyclePerfectGameboy.Refinement.LoadHandlers
import CyclePerfectGameboy.Refinement.LoadGroup
import CyclePerfectGameboy.Refinement.BusTiming
import CyclePerfectGameboy.Refinement.Stack
import CyclePerfectGameboy.System.InterruptController
import CyclePerfectGameboy.System.Timer
import CyclePerfectGameboy.System.TimerLaws
import CyclePerfectGameboy.System.TimerEdges
import CyclePerfectGameboy.System.TimerWorld
import CyclePerfectGameboy.System.TimerOverflow
import CyclePerfectGameboy.System.DividerReset
import CyclePerfectGameboy.System.TacChange
import CyclePerfectGameboy.System.DividerClock
import CyclePerfectGameboy.System.TimerInitialize
import CyclePerfectGameboy.System.OverflowDelay
import CyclePerfectGameboy.System.TimerRate
import CyclePerfectGameboy.System.GameBoy
import CyclePerfectGameboy.System.AddressSpace
import CyclePerfectGameboy.System.Reachability
import CyclePerfectGameboy.System.LoadRom
import CyclePerfectGameboy.System.EchoRam
import CyclePerfectGameboy.System.CycleBudget
import CyclePerfectGameboy.System.SlicedRun
import CyclePerfectGameboy.System.LoadPrograms
import CyclePerfectGameboy.System.BlockCopy
import CyclePerfectGameboy.System.FramePacing
import CyclePerfectGameboy.System.ClockUnits
import CyclePerfectGameboy.System.DriverAgreement
import CyclePerfectGameboy.System.StoreHook
import CyclePerfectGameboy.System.SerialPort
import CyclePerfectGameboy.System.ResetHistory
import CyclePerfectGameboy.System.Console
import CyclePerfectGameboy.System.ControlFlow
import CyclePerfectGameboy.System.RegisterSecrecy
import CyclePerfectGameboy.System.SerialHarness
import CyclePerfectGameboy.Debug.Logger
import CyclePerfectGameboy.Debug.MemoryDump
import CyclePerfectGameboy.Debug.TraceLine
import CyclePerfectGameboy.System.TraceLog
import CyclePerfectGameboy.System.EmulatorOutput
import CyclePerfectGameboy.System.Emulator
import CyclePerfectGameboy.System.LaterRegions
import CyclePerfectGameboy.System.InterruptArbiters
import CyclePerfectGameboy.System.NestedInterrupts
import CyclePerfectGameboy.System.InterruptLedger
