import TreeQuery.Context

/-!
# The command line

A command line names a file with a marked-up text and one or more alternative selectors, and
prints a line for every node that they find.

## Main definitions

* `TreeQuery.CommandLine.Options`, `TreeQuery.CommandLine.parse` — what arguments ask for.
* `TreeQuery.CommandLine.describe` — the line of a found node.
* `TreeQuery.CommandLine.Outcome`, `TreeQuery.CommandLine.run` — exit status and output.
-/

namespace TreeQuery.CommandLine

open Text

/-! ## Arguments -/

/-- What a query is asked for on the command line. -/
structure Options where
  /-- The name of the file. -/
  file : Text
  /-- The alternative selectors. -/
  selectors : List Text
  /-- Print every match instead of the first one. -/
  all : Bool
  /-- Take at most one match of every alternative. -/
  firstOnly : Bool
  /-- New tokens for the template. -/
  patch : Template.Patch
  /-- Print the alternative that found a match. -/
  provenance : Bool
  deriving DecidableEq, Repr

/-- What arguments ask for. -/
inductive Request
  | search (o : Options)
  | help
  | version
  deriving DecidableEq, Repr

/-- Arguments that ask for nothing. -/
inductive UsageError
  /-- An option that does not exist. -/
  | unknownOption (arg : Text)
  /-- An option that is given twice. -/
  | repeatedOption (name : Text)
  /-- An option whose value is missing, or begins with a hyphen. -/
  | missingValue (name : Text)
  /-- A value for an option that takes none. -/
  | unexpectedValue (name : Text)
  /-- The name of a file is missing or empty. -/
  | missingFile
  /-- There is no selector. -/
  | missingSelector
  /-- An option that makes no sense without another one. -/
  | missingOption (name : Text)
  deriving DecidableEq, Repr

/-- The wording of a usage error. -/
def UsageError.message : UsageError → Text
  | unknownOption arg => "unexpected argument ".toList ++ arg
  | repeatedOption name => "argument used multiple times: ".toList ++ name
  | missingValue name => "a value is required for ".toList ++ name
  | unexpectedValue name => "unexpected value for ".toList ++ name
  | missingFile => "the file is missing".toList
  | missingSelector => "a selector is missing".toList
  | missingOption name => "required option is missing: ".toList ++ name

/-- The arguments read so far. -/
structure Reading where
  /-- The arguments that are not options, in order. -/
  positionals : List Text := []
  all : Bool := false
  firstOnly : Bool := false
  provenance : Bool := false
  patch : Template.Patch := {}

namespace Reading

/-- One more argument that is no option. The first one is the file, which must have a name. -/
def positional (r : Reading) (arg : Text) : Except UsageError Reading :=
  if r.positionals.isEmpty && arg.isEmpty then .error .missingFile
  else .ok { r with positionals := r.positionals ++ [arg] }

/-- Further arguments that are no options. -/
def positionalAll (r : Reading) : List Text → Except UsageError Reading
  | [] => .ok r
  | arg :: args => do (← r.positional arg).positionalAll args

/-- A switch is turned on, once. -/
def switch (name : Text) (now : Bool) (on : Reading) : Except UsageError Reading :=
  if now then .error (.repeatedOption name) else .ok on

/-- A token is given, once. -/
def token (name : Text) (now : Option Text) (given : Reading) : Except UsageError Reading :=
  if now.isSome then .error (.repeatedOption name) else .ok given

/-- What the arguments ask for when there are no more of them. -/
def finish (r : Reading) : Except UsageError Request :=
  match r.positionals with
  | [] => .error .missingFile
  | [_] => .error .missingSelector
  | file :: selectors =>
    if r.firstOnly && !r.all then .error (.missingOption "--all".toList)
    else .ok (.search ⟨file, selectors, r.all, r.firstOnly, r.patch, r.provenance⟩)

end Reading

/-- The options, as far as they are written with two hyphens. -/
inductive LongOption
  | all
  | firstOnly
  | provenance
  | lead
  | trail
  | wrapper
  | help
  | version
  deriving DecidableEq, Repr

namespace LongOption

/-- The option with a name. -/
def ofName? (name : Text) : Option LongOption :=
  if name = "all".toList then some all
  else if name = "first-only".toList then some firstOnly
  else if name = "provenance".toList then some provenance
  else if name = "prefix".toList then some lead
  else if name = "suffix".toList then some trail
  else if name = "wrapper".toList then some wrapper
  else if name = "help".toList then some help
  else if name = "version".toList then some version
  else none

/-- Whether the option takes a value. -/
def takesValue : LongOption → Bool
  | lead | trail | wrapper => true
  | _ => false

end LongOption

/-- The name of an option and the value behind an equals sign, the two hyphens having been
read. -/
def splitOption (arg : Text) : Text × Option Text :=
  match arg.dropWhile (· != '=') with
  | [] => (arg, none)
  | _ :: value => (arg.takeWhile (· != '='), some value)

/-- Whether an argument cannot be the value of the option before it. A lone hyphen can. -/
def looksLikeOption : Text → Bool
  | '-' :: _ :: _ => true
  | _ => false

/-- The reading after an option with a value. -/
def withValue (r : Reading) (option : LongOption) (name value : Text) :
    Except UsageError Reading :=
  let p := r.patch
  match option with
  | .lead => Reading.token name p.lead { r with patch := { p with lead := some value } }
  | .trail => Reading.token name p.trail { r with patch := { p with trail := some value } }
  | .wrapper => Reading.token name p.wrapper { r with patch := { p with wrapper := some value } }
  | _ => .error (.unexpectedValue name)

/-- The reading after an option without a value. -/
def withSwitch (r : Reading) (option : LongOption) (name : Text) : Except UsageError Reading :=
  match option with
  | .all => Reading.switch name r.all { r with all := true }
  | .firstOnly => Reading.switch name r.firstOnly { r with firstOnly := true }
  | .provenance => Reading.switch name r.provenance { r with provenance := true }
  | _ => .error (.missingValue name)

/-- What the arguments ask for, after those read so far. Help and version are granted as soon as
they are met; behind two hyphens there are no options. -/
def parseFrom (r : Reading) : List Text → Except UsageError Request
  | [] => r.finish
  | arg :: args =>
    match arg with
    | ['-', '-'] => do (← r.positionalAll args).finish
    | '-' :: '-' :: long =>
      match LongOption.ofName? (splitOption long).1 with
      | none => .error (.unknownOption arg)
      | some option =>
        match option.takesValue, (splitOption long).2 with
        | true, some value => do parseFrom (← withValue r option arg value) args
        | true, none =>
          match args with
          | [] => .error (.missingValue arg)
          | value :: args =>
            if looksLikeOption value then .error (.missingValue arg)
            else do parseFrom (← withValue r option arg value) args
        | false, some _ => .error (.unexpectedValue arg)
        | false, none =>
          match option with
          | .help => .ok .help
          | .version => .ok .version
          | option => do parseFrom (← withSwitch r option arg) args
    | '-' :: 'h' :: _ => .ok .help
    | '-' :: 'V' :: _ => .ok .version
    | '-' :: _ :: _ => .error (.unknownOption arg)
    | arg => do parseFrom (← r.positional arg) args

/-- What the arguments ask for. -/
def parse (args : List Text) : Except UsageError Request := parseFrom {} args

/-! ## Output -/

/-- The text of a node in one line: its words with single spaces between them, cut after sixty
characters. -/
def snippet (h : Handle) : Text := (List.intercalate [' '] (words h.text)).take 60

/-- The line of a found node, with the provenance recorded for it. -/
def describe (c : Context) (h : Handle) : Text :=
  let line := ['<'] ++ h.tag ++ "> \"".toList ++ snippet h ++ ['"']
  match c.provenance h with
  | none => line
  | some s => line ++ "  <- ".toList ++ s

/-- What a command line leads to. -/
structure Outcome where
  /-- The exit status. -/
  status : Nat
  /-- What is written to the standard output. -/
  output : Text
  /-- Why there is no result, if the status is 1. -/
  error : Option Error
  deriving DecidableEq, Repr

/-- The lines, each with a line feed behind it. -/
def unlines (lines : List Text) : Text := lines.flatMap fun line => line ++ ['\n']

/-- The context for the options. -/
def contextOf (o : Options) : Context := (Context.new o.provenance).configure o.patch

/-- The nodes that a document holds for the options, and the context after the query. -/
def found (o : Options) (d : Document) : Context × Except QueryError (List Handle) :=
  let c := contextOf o
  if o.all then
    let r := c.queryAll d.root o.selectors (!o.firstOnly)
    (r.context, r.eval.result)
  else
    let r := c.query d.root o.selectors
    (r.context, r.eval.result.map Option.toList)

/-- The outcome of a search in a file with the given content, if it can be read. -/
def search (o : Options) (content : Option Text) : Outcome :=
  match content with
  | none => ⟨1, [], some (.file o.file)⟩
  | some text =>
    match Document.ofMarkup text with
    | .error p => ⟨1, [], some (.document p)⟩
    | .ok d =>
      match found o d with
      | (_, .error e) => ⟨1, [], some (.query e)⟩
      | (c, .ok hs) => ⟨0, unlines (hs.map (describe c)), none⟩

/-- The text that explains the command line. -/
def helpText : Text :=
  ("Query an XML document with pseudo-selector extended selectors\n" ++
    "\n" ++
    "Usage: sieve [OPTIONS] <FILE> <SELECTORS>...\n" ++
    "\n" ++
    "Arguments:\n" ++
    "  <FILE>          The XML document to query\n" ++
    "  <SELECTORS>...  Alternative selectors, tried in order\n" ++
    "\n" ++
    "Options:\n" ++
    "      --all                Print every match instead of the first one\n" ++
    "      --first-only         With --all, take at most one match per alternative\n" ++
    "      --prefix <PREFIX>    Pseudo-selector prefix token\n" ++
    "      --suffix <SUFFIX>    Pseudo-selector suffix token\n" ++
    "      --wrapper <WRAPPER>  Pseudo-selector value delimiter\n" ++
    "      --provenance         Print the alternative that produced each match\n" ++
    "  -h, --help               Print help\n" ++
    "  -V, --version            Print version\n").toList

/-- The line that names the version. -/
def versionText : Text := "sieve 0.1.0\n".toList

/-- The outcome for arguments, `read` giving the content of a file. -/
def run (args : List Text) (read : Text → Option Text) : Outcome :=
  match parse args with
  | .error _ => ⟨2, [], none⟩
  | .ok .help => ⟨0, helpText, none⟩
  | .ok .version => ⟨0, versionText, none⟩
  | .ok (.search o) => search o (read o.file)

/-! ## Error reports -/

/-- A record in a report: its name and its fields. -/
def reportRecord (name : Text) (fields : List (Text × Text)) : Text :=
  let field (f : Text × Text) := f.1 ++ ": ".toList ++ quoted f.2
  name ++ " \x7b ".toList ++ List.intercalate ", ".toList (fields.map field) ++ " \x7d".toList

/-- The structure of a query error, every text in it quoted. -/
def reportQuery : QueryError → Text
  | .invalidSelector e =>
    "Host(".toList ++
      reportRecord "InvalidSelector".toList
        [("selector".toList, e.selector), ("reason".toList, e.reason.message)] ++ [')']
  | .badArgument pseudo detail =>
    reportRecord "Payload".toList [("pseudo".toList, pseudo), ("message".toList, detail)]

/-- The structure of an error, which is what is reported when a search fails. -/
def report : Error → Text
  | .query e => "Selector(".toList ++ reportQuery e ++ [')']
  | .configuration p => "Config(".toList ++ quoted p.message ++ [')']
  | .document p => "Document(".toList ++ quoted p.message ++ [')']
  | .file name => "Io(".toList ++ quoted name ++ [')']

end TreeQuery.CommandLine
