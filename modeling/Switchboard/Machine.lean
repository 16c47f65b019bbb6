/-!
# Machines and sets of machines

The frontend runs as one of eleven machines. An action is offered on a set of machines, kept as
eleven bits with the machine's place in `Machine.all` as its bit, so that inclusion, overlap and
complement are bit operations. `MachineSet.mem_machines` says that the list of a set's machines
holds exactly the machines whose bit is set.
-/

namespace Switchboard

/-- A machine the frontend can run as. -/
inductive Machine
  | c64 | c64sc | c64dtv | scpu64 | c128 | vic20 | pet | cbm5x0 | cbm6x0 | plus4 | vsid
  deriving DecidableEq

namespace Machine

/-- The machine the frontend runs as when nothing is configured. -/
instance : Inhabited Machine := ⟨.c64sc⟩

/-- Every machine, in order of its bit. -/
def all : List Machine :=
  [.c64, .c64sc, .c64dtv, .scpu64, .c128, .vic20, .pet, .cbm5x0, .cbm6x0, .plus4, .vsid]

/-- The place of a machine's bit in a `MachineSet`. -/
def bit : Machine → Fin 11
  | .c64 => 0
  | .c64sc => 1
  | .c64dtv => 2
  | .scpu64 => 3
  | .c128 => 4
  | .vic20 => 5
  | .pet => 6
  | .cbm5x0 => 7
  | .cbm6x0 => 8
  | .plus4 => 9
  | .vsid => 10

/-- No machine is left out. -/
theorem mem_all (m : Machine) : m ∈ all := by cases m <;> decide

end Machine

/-- A set of machines, as one bit for each. -/
structure MachineSet where
  /-- Bit `m.bit` is set when the machine `m` is in the set. -/
  bits : BitVec 11
  deriving DecidableEq

namespace MachineSet

/-- The set given by the low eleven bits of a number; higher bits name no machine. -/
def ofNat (n : Nat) : MachineSet := ⟨BitVec.ofNat 11 n⟩

/-- Whether a number has bits of machines only. -/
def isExact (n : Nat) : Bool := n < 1 <<< 11

/-- The set of the machines of a list. -/
def ofList (ms : List Machine) : MachineSet :=
  ⟨ms.foldl (fun b m => b ||| BitVec.twoPow 11 m.bit) 0⟩

/-- The set with no machine. -/
def empty : MachineSet := ⟨0⟩

/-- The set of all machines. -/
def all : MachineSet := ⟨BitVec.allOnes 11⟩

/-- Every machine but the sound player, which has neither display nor drives. -/
def noVsid : MachineSet := ⟨all.bits &&& ~~~(BitVec.twoPow 11 Machine.vsid.bit)⟩

/-- The machines with a datasette port. -/
def tape : MachineSet := ofList [.c64, .c64sc, .c128, .vic20, .pet, .cbm6x0, .plus4]

/-- The machines with a cartridge port. -/
def cartridge : MachineSet := ofList [.c64, .c64sc, .scpu64, .c128, .vic20, .cbm5x0, .cbm6x0, .plus4]

/-- The number whose bits are those of the set. -/
def toNat (s : MachineSet) : Nat := s.bits.toNat

/-- Whether a machine is in the set. -/
def contains (s : MachineSet) (m : Machine) : Bool := s.bits.getLsb m.bit

/-- Whether every machine of the first set is in the second. -/
def isSubset (s t : MachineSet) : Bool := s.bits &&& t.bits == s.bits

/-- Whether the sets have a machine in common. -/
def meets (s t : MachineSet) : Bool := s.bits &&& t.bits != 0

/-- Whether no machine is in the set. -/
def isEmpty (s : MachineSet) : Bool := s.bits == 0

/-- Whether all machines are in the set. -/
def isAll (s : MachineSet) : Bool := s.bits == BitVec.allOnes 11

/-- The machines that are not in the set. -/
def complement (s : MachineSet) : MachineSet := ⟨~~~s.bits⟩

/-- The machines of the set, in order of their bits. -/
def machines (s : MachineSet) : List Machine := Machine.all.filter s.contains

/-- The machines of a set are those whose bit is set. -/
@[simp] theorem mem_machines {s : MachineSet} {m : Machine} :
    m ∈ s.machines ↔ s.contains m = true := by
  simp [machines, Machine.mem_all]

/-- The complement has the machines that the set has not. -/
@[simp] theorem contains_complement (s : MachineSet) (m : Machine) :
    s.complement.contains m = !s.contains m := by
  simp [contains, complement]

end MachineSet

end Switchboard
