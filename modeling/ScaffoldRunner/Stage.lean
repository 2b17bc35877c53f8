import ScaffoldRunner.Text.Basic

/-!
# Stages

The ten stages that every scaffold walks through, in their order. A stage is written by its
number, by its key or by its name; `parse?` reads all three.
-/

namespace ScaffoldRunner

/-- A stage of a scaffold run, declared in the order of execution. -/
inductive Stage where
  | scope
  | identifyAnalyze
  | plan
  | implement
  | successContinue
  | finalAudit
  | metaAudit
  | approval
  | updateRegisters
  | pushRemote
  deriving DecidableEq, Repr, Inhabited

namespace Stage

/-- All stages in the order of execution. -/
def all : List Stage :=
  [scope, identifyAnalyze, plan, implement, successContinue, finalAudit, metaAudit, approval,
    updateRegisters, pushRemote]

/-- The position of a stage, counted from one. -/
def number : Stage → Nat
  | scope => 1
  | identifyAnalyze => 2
  | plan => 3
  | implement => 4
  | successContinue => 5
  | finalAudit => 6
  | metaAudit => 7
  | approval => 8
  | updateRegisters => 9
  | pushRemote => 10

/-- The name of a stage in reports and error texts. -/
def name : Stage → String
  | scope => "SCOPE"
  | identifyAnalyze => "IDENTIFY_ANALYZE"
  | plan => "PLAN"
  | implement => "IMPLEMENT"
  | successContinue => "SUCCESS_CONTINUE"
  | finalAudit => "FINAL_AUDIT"
  | metaAudit => "META_AUDIT"
  | approval => "APPROVAL"
  | updateRegisters => "UPDATE_REGISTERS"
  | pushRemote => "PUSH_REMOTE"

/-- The key of a stage in a configuration. -/
def key : Stage → String
  | scope => "scope"
  | identifyAnalyze => "identify_analyze"
  | plan => "plan"
  | implement => "implement"
  | successContinue => "success_continue"
  | finalAudit => "final_audit"
  | metaAudit => "meta_audit"
  | approval => "approval"
  | updateRegisters => "update_registers"
  | pushRemote => "push_remote"

/-- The key under which the result of a stage is shown to later frames. -/
def resultKey (stage : Stage) : String := "stage_" ++ toString stage.number

def ofNumber? (n : Nat) : Option Stage := all.find? fun stage => stage.number == n

def ofKey? (key : String) : Option Stage := all.find? fun stage => stage.key == key

/-- The value of a decimal number from 0 to 255, with any number of leading zeros. -/
def byteValue? (digits : List Char) : Option Nat :=
  if digits.isEmpty || !digits.all Char.isDigit then none
  else
    let n := digits.foldl (fun n d => n * 10 + (d.toNat - '0'.toNat)) 0
    if n < 256 then some n else none

/-- The number written by a text: an optional plus sign and digits, at most 255. -/
def numberOf? : List Char → Option Nat
  | '+' :: digits => byteValue? digits
  | digits => byteValue? digits

/-- Read a stage from its number, its key or its name in any ASCII letter case, with blanks
around it. -/
def parse? (text : String) : Option Stage :=
  let cs := Text.trimChars text.toList
  match numberOf? cs with
  | some n => ofNumber? n
  | none => ofKey? (String.ofList (Text.lowerAscii cs))

end Stage

end ScaffoldRunner
