import ServerLauncher.Proofs.Java.Probing
import ServerLauncher.Proofs.Launch.Replacement

/-!
This module contains which commands for the server can be carried out. A runtime that has answered runs
again, but not with every argument.
-/

namespace ServerLauncher

/--
The command for a runtime and a distribution, if a process can be made from it. The place of a
distribution is an argument, and may hold the character that no argument may hold.
-/
def ServerCommand.startable? (runtime : Java.Runtime) (d : Distribution)
    (debugPort : Option UInt16) : Option ServerCommand :=
  if FileSystem.holdsNul d.path.text then none else some (forDistribution runtime d debugPort)

theorem FileSystem.run_eq_ok_iff {fs : FileSystem} {search : List Path} {command : Path}
    {arguments : List String} {execution : Execution} :
    fs.run search command arguments = .ok execution ↔
      ¬(holdsNul command.text ∨ arguments.any holdsNul) ∧
        ∃ program, fs.program search command = .ok program ∧
          execution = program arguments fun p => (fs.read p).toOption := by
  unfold run
  by_cases hnul : holdsNul command.text ∨ arguments.any holdsNul
  . rw [if_pos hnul]
    constructor
    . intro h
      cases h
    . intro h
      exact absurd hnul h.1
  . rw [if_neg hnul]
    cases hprogram : fs.program search command with
    | error e =>
      constructor
      . intro h
        cases h
      . intro h
        obtain ⟨_, _, hok, _⟩ := h
        cases hok
    | ok program =>
      constructor
      . intro h
        cases h
        exact ⟨hnul, program, rfl, rfl⟩
      . intro h
        obtain ⟨_, _, hok, hexecution⟩ := h
        cases hok
        rw [hexecution]
        rfl

theorem ServerCommand.holdsNul_debugAgent (port : UInt16) :
    FileSystem.holdsNul (debugAgent port) = false := by
  have hdigits : '\x00' ∉ Nat.toDigits 10 port.toNat := by
    intro hmem
    have hdigit := Nat.isDigit_of_mem_toDigits (by decide) (by decide) hmem
    cases hdigit
  unfold debugAgent FileSystem.holdsNul
  simp [hdigits]

theorem ServerCommand.arguments_forDistribution_any (runtime : Java.Runtime) (d : Distribution)
    (debugPort : Option UInt16) :
    (forDistribution runtime d debugPort).arguments.any FileSystem.holdsNul =
      FileSystem.holdsNul d.path.text := by
  have hjar : FileSystem.holdsNul "-jar" = false := by decide
  have hverbose : FileSystem.holdsNul "--verbose" = false := by decide
  cases debugPort with
  | none => simp [forDistribution, run, hjar]
  | some port => simp [forDistribution, debug, hjar, hverbose, holdsNul_debugAgent]

theorem ServerCommand.run_forDistribution_iff {m : Machine} {runtime : Java.Runtime}
    (hanswers : Java.Answers m runtime.path runtime.version) (d : Distribution)
    (debugPort : Option UInt16) :
    (∃ execution, m.run (forDistribution runtime d debugPort).program
      (forDistribution runtime d debugPort).arguments = .ok execution) ↔
        ¬FileSystem.holdsNul d.path.text := by
  obtain ⟨_, execution, hrun, _⟩ := hanswers
  obtain ⟨hnul, program, hprogram, _⟩ := FileSystem.run_eq_ok_iff.1 hrun
  have hcommand : FileSystem.holdsNul runtime.path.text = false := by
    rw [not_or] at hnul
    exact Bool.not_eq_true _ ▸ hnul.1
  simp only [Machine.run, FileSystem.run_eq_ok_iff]
  rw [arguments_forDistribution_any, program_forDistribution]
  simp [hcommand, hprogram]

end ServerLauncher
