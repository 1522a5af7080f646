import CompilerDriver.CommandLine.Printer
import CompilerDriver.Main
import CompilerDriver.Toolchain.Scripted
import CompilerDriver.Proofs.CommandLine.Equivalence
import CompilerDriver.Proofs.CommandLine.Rendering
import CompilerDriver.Proofs.CommandLine.Values
import CompilerDriver.Proofs.Compilation
import CompilerDriver.Proofs.Compilation.Coherence
import CompilerDriver.Proofs.Session
import CompilerDriver.Proofs.Session.Verbosity
import CompilerDriver.Proofs.ResponseFile.Moving
import CompilerDriver.Proofs.ResponseFile.Nesting
import CompilerDriver.Proofs.Toolchain.Scratch
import CompilerDriver.Proofs.Toolchain.Tool
import CompilerDriver.Proofs.Toolchain.Reading
import CompilerDriver.Proofs.Toolchain.Plan
import CompilerDriver.Proofs.Toolchain.Cleanup
import CompilerDriver.Proofs.Toolchain.Operands
import CompilerDriver.Proofs.Toolchain.Staging
import CompilerDriver.Proofs.Toolchain.Separation
import CompilerDriver.Proofs.Toolchain.Verdict
import CompilerDriver.Proofs.CommandLine.Replay
import CompilerDriver.Proofs.FileSystem.Lexical
import CompilerDriver.Proofs.ResponseFile.Words
import CompilerDriver.Proofs.ResponseFile.SelfInclusion
import CompilerDriver.Proofs.Toolchain.OutputDirectory
import CompilerDriver.Proofs.Toolchain.Intermediate

