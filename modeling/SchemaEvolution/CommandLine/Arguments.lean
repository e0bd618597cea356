import SchemaEvolution.Options
import SchemaEvolution.Adapter

/-! Commands as they are typed. An option is given as `--name`, or by its letter after
   one dash, where letters without values may be run together; its value follows it,
   after an equals sign or as the next word. No option may be given twice. -/
namespace SchemaEvolution.CommandLine

structure OptionSpec where
  name : String
  letter : Option Char := none
  takesValue : Bool := false
  emptyAllowed : Bool := true
  deriving DecidableEq, Repr

structure Given where
  name : String
  value : String := ""
  deriving DecidableEq, Repr

/-- A word that stands for itself: no dash in front, or nothing after the dash. -/
def isPlain (word : String) : Bool :=
  match word.toList with
  | '-' :: _ :: _ => false
  | _ => true

def OptionSpec.give (o : OptionSpec) (value : String) : Option Given :=
  if value.isEmpty && !o.emptyAllowed then none else some ⟨o.name, value⟩

inductive WordReading where
  | complete (given : List Given)
  | waiting (given : List Given) (option : OptionSpec)

def readLetters (specs : List OptionSpec) : List Char → List Given → Option WordReading
  | [], given => some (.complete given)
  | c :: rest, given => do
    let o ← specs.find? fun o => o.letter = some c
    if o.takesValue then
      match rest with
      | [] => some (.waiting given o)
      | '=' :: value => (o.give (String.ofList value)).map fun g => .complete (given ++ [g])
      | value => (o.give (String.ofList value)).map fun g => .complete (given ++ [g])
    else readLetters specs rest (given ++ [⟨o.name, ""⟩])

def readLong (specs : List OptionSpec) (word : List Char) : Option WordReading := do
  let name := word.takeWhile (· ≠ '=')
  let o ← specs.find? fun o => o.name.toList = name
  match o.takesValue, word.drop name.length with
  | false, [] => some (.complete [⟨o.name, ""⟩])
  | true, [] => some (.waiting [] o)
  | true, _ :: value => (o.give (String.ofList value)).map fun g => .complete [g]
  | false, _ :: _ => none

def readWord (specs : List OptionSpec) (word : String) : Option WordReading :=
  match word.toList with
  | '-' :: '-' :: name => readLong specs name
  | '-' :: letters => readLetters specs letters []
  | _ => none

def readOptions (specs : List OptionSpec) : List String → Option (List Given × List String)
  | [] => some ([], [])
  | word :: rest =>
    if isPlain word then some ([], word :: rest)
    else do
      match ← readWord specs word, rest with
      | .complete given, rest =>
        let (later, plain) ← readOptions specs rest
        return (given ++ later, plain)
      | .waiting given o, value :: rest =>
        if isPlain value then
          let g ← o.give value
          let (later, plain) ← readOptions specs rest
          return (given ++ g :: later, plain)
        else none
      | .waiting _ _, [] => none

def distinctOptions (given : List Given) : Bool := decide (given.map Given.name).Nodup

def valueOf (given : List Given) (name : String) : Option String :=
  (given.find? fun g => g.name = name).map Given.value

def isGiven (given : List Given) (name : String) : Bool := given.any fun g => g.name = name

structure RenderFlags where
  delta : String
  bulk : Bool := false
  inlineIndexes : Bool := false
  deriving DecidableEq, Repr

/-- A command. The options of `apply` come on top of those of its options file. -/
inductive Command where
  | apply (flags : RenderFlags) (optionsFile : Option String) (given : MigrationOptions)
  | script (flags : RenderFlags) (adapter : Adapter) (sql : Bool)
  | check (delta : String)
  deriving DecidableEq, Repr

structure Invocation where
  verbose : Bool
  command : Command
  deriving DecidableEq, Repr

def pathOption (name : String) : OptionSpec :=
  { name := name, takesValue := true, emptyAllowed := false }

def textOption (name : String) : OptionSpec := { name := name, takesValue := true }
def flag (name : String) : OptionSpec := { name := name }

def globalOptions : List OptionSpec :=
  [{ name := "database", letter := some 'd', takesValue := true },
   { name := "verbose", letter := some 'v' }]

def renderOptions : List OptionSpec :=
  [pathOption "delta", flag "bulk-change", flag "create-table-with-index"]

def applyOptions : List OptionSpec :=
  renderOptions ++ [pathOption "options", flag "dry-run", textOption "alter-extra",
    pathOption "external-script", flag "debug", pathOption "log-file", textOption "pre-query",
    textOption "post-query"]

def scriptOptions : List OptionSpec :=
  renderOptions ++ [{ name := "adapter", letter := some 'a', takesValue := true }, flag "sql"]

def readAll (specs : List OptionSpec) (words : List String) : Option (List Given) := do
  match ← readOptions specs words with
  | (given, []) => if distinctOptions given then some given else none
  | _ => none

def renderFlags (given : List Given) : Option RenderFlags := do
  return ⟨← valueOf given "delta", isGiven given "bulk-change",
    isGiven given "create-table-with-index"⟩

def readApply (words : List String) : Option Command := do
  let given ← readAll applyOptions words
  return .apply (← renderFlags given) (valueOf given "options") {
    dryRun := isGiven given "dry-run"
    alterExtra := valueOf given "alter-extra"
    externalScript := valueOf given "external-script"
    debug := isGiven given "debug"
    logFile := valueOf given "log-file"
    preQuery := valueOf given "pre-query"
    postQuery := valueOf given "post-query" }

def readScript (words : List String) : Option Command := do
  let given ← readAll scriptOptions words
  let adapter ← (Adapter.ofName ((valueOf given "adapter").getD "sqlite")).toOption
  return .script (← renderFlags given) adapter (isGiven given "sql")

def readCheck (words : List String) : Option Command := do
  let given ← readAll [pathOption "delta"] words
  return .check (← valueOf given "delta")

def Invocation.read (words : List String) : Option Invocation := do
  let (given, rest) ← readOptions globalOptions words
  if !distinctOptions given then none
  else
    let verbose := isGiven given "verbose"
    match rest with
    | "apply" :: words => (readApply words).map (⟨verbose, ·⟩)
    | "script" :: words => (readScript words).map (⟨verbose, ·⟩)
    | "check" :: words => (readCheck words).map (⟨verbose, ·⟩)
    | _ => none

/-- Options of the command line count over those of the file. -/
def overrideOptions (flags : RenderFlags) (given file : MigrationOptions) : MigrationOptions where
  dryRun := file.dryRun || given.dryRun
  bulk := file.bulk || flags.bulk
  inlineIndexes := file.inlineIndexes || flags.inlineIndexes
  alterExtra := given.alterExtra.orElse fun _ => file.alterExtra
  externalScript := given.externalScript.orElse fun _ => file.externalScript
  debug := file.debug || given.debug
  logFile := given.logFile.orElse fun _ => file.logFile
  preQuery := given.preQuery.orElse fun _ => file.preQuery
  postQuery := given.postQuery.orElse fun _ => file.postQuery

end SchemaEvolution.CommandLine
