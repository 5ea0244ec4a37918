-- SUMMARY: A compiler request is read back from the command line that is made of it.
import DexTrail.Local.Compiler

/-!
# Reading command lines

The values in a command line may be any texts, also texts that look like options. A reader tells
them from options by where they stand: instruction sets come in pairs with their option, and the
first pair with another option ends them. It reads back all that a request says but its package
(`readArguments?_arguments`), so requests with the same command line agree in that.
-/

namespace DexTrail.Optimization

/-- What a command line says of a request: everything but the package. -/
structure Particulars where
  path : String
  isas : SortedSet String
  filter : String
  shared : Bool
  force : Bool
  deriving DecidableEq

def particulars (request : Optimization) : Particulars :=
  ⟨request.path, request.isas, request.filter, request.shared, request.force⟩

/-! ## The reader -/

/-- The instruction sets at the start of the arguments, and the arguments after them. -/
def readIsas : List String → List String × List String
  | option :: isa :: rest =>
    if option = "--isa" then
      let (isas, left) := readIsas rest
      (isa :: isas, left)
    else ([], option :: isa :: rest)
  | rest => ([], rest)

/-- What the arguments say, if they are complete. -/
def readArguments? : List String → Option Particulars
  | _ :: path :: rest =>
    match readIsas rest with
    | (isas, _ :: filter :: flags) =>
      some {
        path, isas := .ofList isas, filter
        shared := flags.contains "--shared", force := flags.contains "--force" }
    | _ => none
  | _ => none

/-! ## Reading what was written -/

/-- The options without a value that a request sets. -/
def flags (request : Optimization) : List String :=
  (if request.shared then ["--shared"] else []) ++ (if request.force then ["--force"] else [])

theorem contains_flags (request : Optimization) :
    request.flags.contains "--shared" = request.shared ∧
      request.flags.contains "--force" = request.force := by
  unfold flags
  cases request.shared <;> cases request.force <;> decide

theorem arguments_eq (request : Optimization) :
    request.arguments = "--dex-file" :: request.path ::
      ((request.isas.toList.flatMap fun isa => ["--isa", isa]) ++
        "--compiler-filter" :: request.filter :: request.flags) := by
  simp [arguments, flags]

/-- Instruction sets are read, whatever texts they are, up to a pair with another option. -/
theorem readIsas_append (isas : List String) {option : String} (hoption : option ≠ "--isa")
    (value : String) (rest : List String) :
    readIsas ((isas.flatMap fun isa => ["--isa", isa]) ++ option :: value :: rest) =
      (isas, option :: value :: rest) := by
  induction isas with
  | nil => exact if_neg hoption
  | cons isa isas ih =>
    simp only [List.flatMap_cons, List.cons_append, List.nil_append]
    rw [readIsas, if_pos rfl, ih]

/-- The arguments of a request are read as what the request says. -/
theorem readArguments?_arguments (request : Optimization) :
    readArguments? request.arguments = some request.particulars := by
  have hfilter : "--compiler-filter" ≠ "--isa" := by decide
  obtain ⟨hshared, hforce⟩ := request.contains_flags
  rw [arguments_eq, readArguments?, readIsas_append _ hfilter]
  simp only [hshared, hforce, SortedSet.ofList_toList]
  rfl

/-! ## Requests with the same command line -/

variable {request request' : Optimization}

theorem particulars_eq_iff :
    request.particulars = request'.particulars ↔
      request.path = request'.path ∧ request.isas = request'.isas ∧
        request.filter = request'.filter ∧ request.shared = request'.shared ∧
        request.force = request'.force := by
  rw [particulars, particulars, Particulars.mk.injEq]

/-- The arguments depend on what they say and on nothing else. -/
theorem arguments_eq_iff :
    request.arguments = request'.arguments ↔ request.particulars = request'.particulars := by
  constructor
  · intro h
    have hread := readArguments?_arguments request
    rw [h, readArguments?_arguments request'] at hread
    exact (Option.some.inj hread).symm
  · intro h
    obtain ⟨hpath, hisas, hfilter, hshared, hforce⟩ := particulars_eq_iff.1 h
    rw [arguments, arguments, hpath, hisas, hfilter, hshared, hforce]

/-- A configured command is always run with arguments, and from these all that the request says
but its package is read back. Two requests have the same command line exactly when they agree in
path, instruction sets, filter, shared mark and force. -/
theorem commandLine?_eq_iff {command : List String} (hcommand : command ≠ [])
    (request request' : Optimization) :
    (∃ arguments, request.commandLine? command = some (command ++ arguments) ∧
      readArguments? arguments = some request.particulars) ∧
    (request.commandLine? command = request'.commandLine? command ↔
      request.path = request'.path ∧ request.isas = request'.isas ∧
        request.filter = request'.filter ∧ request.shared = request'.shared ∧
        request.force = request'.force) := by
  have hline (request : Optimization) :
      request.commandLine? command = some (command ++ request.arguments) :=
    if_neg (mt List.isEmpty_iff.1 hcommand)
  refine ⟨⟨request.arguments, hline request, readArguments?_arguments request⟩, ?_⟩
  rw [hline, hline, Option.some.injEq, List.append_cancel_left_eq, arguments_eq_iff,
    particulars_eq_iff]

/-- A request whose texts look like options. -/
def lookalike : Optimization where
  app := default
  path := "--isa"
  isas := .ofList ["--compiler-filter", "--isa"]
  filter := "--force"
  shared := false
  force := false

/-- The request is told from one with the option that its filter looks like, and not from the
same request for another package. -/
theorem commandLine?_eq_iff_lookalike :
    let command := ["dex2oat"]
    let forced := { lookalike with filter := "", force := true }
    let other := { lookalike with app := { lookalike.app with name := "com.a" } }
    command ≠ [] ∧ lookalike.commandLine? command ≠ forced.commandLine? command ∧
      lookalike.commandLine? command = other.commandLine? command := by
  intro command forced other
  have hcommand : command ≠ [] := by decide
  refine ⟨hcommand, ?_, ?_⟩
  · rw [Ne, (commandLine?_eq_iff hcommand lookalike forced).2]
    rintro ⟨-, -, hfilter, -⟩
    exact absurd hfilter (by decide)
  · exact (commandLine?_eq_iff hcommand lookalike other).2.2 ⟨rfl, rfl, rfl, rfl, rfl⟩

end DexTrail.Optimization
