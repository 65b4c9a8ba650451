import NameAuction.Fault
import NameAuction.Json.Record

/-!
# Settings of the demonstration

The demonstration is set up by texts: a moment to start from, a label to auction, and a document of
parameters.  Each of them can be wrong in ways of its own.
-/

namespace NameAuction.Demo

/-- Why the demonstration ended early, as its report to the caller says. -/
structure Report where
  text : String
  cause : Option String
deriving DecidableEq

def Report.render (report : Report) : String :=
  "Error: " ++ report.text ++
    match report.cause with
    | none => "\n"
    | some cause =>
      "\n\nCaused by:\n    "
        ++ String.ofList (cause.toList.flatMap fun c =>
          if c = '\n' then ['\n', ' ', ' ', ' ', ' '] else [c])
        ++ "\n"

inductive Stop
  | failed (report : Report)
  | broken (defect : Defect)
deriving DecidableEq

/-- A fault as a report of its own; a defect ends the demonstration without one. -/
def Stop.ofFault : Fault → Stop
  | .defect defect => .broken defect
  | fault => .failed ⟨fault.message, none⟩

def Stop.because (text : String) : Fault → Stop
  | .defect defect => .broken defect
  | fault => .failed ⟨text, some fault.message⟩

structure Document where
  path : String
  text : String

structure Input where
  params : Option Document
  start : String
  label : Option String
  /-- Where the final genesis goes, if it is wanted. -/
  genesisPath : Option String

structure Config where
  params : Params
  start : Time
  name : Name
  genesisPath : Option String

/-! ### Reading a moment -/

inductive NumberFault
  | empty
  | badDigit
  | tooLarge
deriving DecidableEq

def NumberFault.message : NumberFault → String
  | .empty => "cannot parse integer from empty string"
  | .badDigit => "invalid digit found in string"
  | .tooLarge => "number too large to fit in target type"

/-- Appends decimal digits to a number; the first character that fails decides the fault. -/
def readDigits (number : Time) : List Char → Except NumberFault Time
  | [] => .ok number
  | c :: rest =>
    if c.isDigit then
      match Word.ofNat? (number.toNat * 10 + (c.toNat - '0'.toNat)) with
      | some number => readDigits number rest
      | none => .error .tooLarge
    else .error .badDigit

/-- A moment in decimal digits; a plus sign may precede them. -/
def readTime (text : String) : Except NumberFault Time :=
  match text.toList with
  | [] => .error .empty
  | '+' :: c :: rest => readDigits 0 (c :: rest)
  | digits => readDigits 0 digits

/-! ### The whole configuration -/

def configParams : Option Document → Except Stop Params
  | none => .ok .standard
  | some document =>
    match Params.ofText document.text with
    | .ok params => .ok params
    | .error fault => .error (.because ("Invalid params in " ++ document.path) (.params fault))

def configStart (text : String) : Except Stop Time :=
  match readTime text with
  | .ok start => .ok start
  | .error fault =>
    .error (.failed ⟨"AUCTION_START must be unix seconds, got " ++ text, some fault.message⟩)

def configName (label root : String) : Except Stop Name :=
  if '.' ∈ label.toList then
    .error (.failed ⟨"AUCTION_NAME must be a single label, got " ++ label, none⟩)
  else .ok ⟨label ++ "." ++ root⟩

def Config.ofInput (input : Input) : Except Stop Config := do
  let params ← configParams input.params
  let start ← configStart input.start
  let name ← configName (input.label.getD "wallet") params.root
  return ⟨params, start, name, input.genesisPath⟩

end NameAuction.Demo
