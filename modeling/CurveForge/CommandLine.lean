import CurveForge.Batch
import CurveForge.Catalog.Standard
import CurveForge.Sink.Directory

/-!
# The command line

The command regenerates all types of the standard catalog. It takes a directory
and a switch that leaves out the index of modules. Arguments are read from left
to right, and the first one that asks for help or is not understood decides.
-/

namespace CurveForge.CommandLine

structure Settings where
  outDir : Option String
  noModuleIndex : Bool
  deriving DecidableEq, Repr

def defaultOutDir : String := "src/segments"

inductive Request where
  | run (outDir : String) (withIndex : Bool)
  | help
  | refusal
  deriving DecidableEq, Repr

def looksLikeOption (argument : String) : Bool :=
  match argument.toList with
  | '-' :: _ :: _ => true
  | _ => false

def outDirValue? (argument : String) : Option String :=
  if "--out-dir=".isPrefixOf argument then some (String.ofList (argument.toList.drop 10)) else none

/-- Whether an argument asks for help; further letters behind the short form do not matter. -/
def asksForHelp (argument : String) : Bool := argument = "--help" || "-h".isPrefixOf argument

/-- Sets the directory, which has to be done at most once and with a value that is not empty. -/
def Settings.setOutDir? (s : Settings) (value : String) : Option Settings :=
  if s.outDir.isSome || value.isEmpty then none else some { s with outDir := some value }

def Settings.request (s : Settings) : Request :=
  .run (s.outDir.getD defaultOutDir) !s.noModuleIndex

def readArguments (s : Settings) : List String → Request
  | [] => s.request
  | "--out-dir" :: rest =>
      match rest with
      | [] => .refusal
      | value :: rest =>
          if looksLikeOption value then .refusal
          else
            match s.setOutDir? value with
            | some s => readArguments s rest
            | none => .refusal
  | "--no-module-index" :: rest =>
      if s.noModuleIndex then .refusal else readArguments { s with noModuleIndex := true } rest
  | "--" :: rest => if rest.isEmpty then s.request else .refusal
  | argument :: rest =>
      match outDirValue? argument with
      | some value =>
          match s.setOutDir? value with
          | some s => readArguments s rest
          | none => .refusal
      | none => if asksForHelp argument then .help else .refusal

def Request.ofArguments (arguments : List String) : Request := readArguments ⟨none, false⟩ arguments

inductive Outcome where
  | helped
  | refused
  | finished (written : Nat) (outDir : String)
  | failed (reason : GenerationError)
  | faulted (fault : Fault)
  deriving DecidableEq, Repr

def Outcome.exitCode : Outcome → Nat
  | helped => 0
  | refused => 2
  | finished _ _ => 0
  | failed _ => 1
  | faulted _ => 101

def generateInto {m : Type → Type} [Monad m] (storage : Storage m) (outDir : String)
    (withIndex : Bool) : m Outcome := do
  match ← (Directory.prepare storage outDir).run with
  | .error reason => return .failed reason
  | .ok () =>
      match regenerate Catalog.standard (Directory.sink storage outDir) withIndex with
      | .error fault => return .faulted fault
      | .ok delivery =>
          match (← (delivery.run).run []).1 with
          | .error reason => return .failed reason
          | .ok written => return .finished written outDir

def Request.execute {m : Type → Type} [Monad m] (storage : Storage m) : Request → m Outcome
  | help => return .helped
  | refusal => return .refused
  | run outDir withIndex => generateInto storage outDir withIndex

end CurveForge.CommandLine
