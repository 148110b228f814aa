import FundLedger.Operation.Budget
import FundLedger.Operation.Summary
/-!
# The command line

* `Command`, `Command.report`: what the program can be told to do, and the operation that it then performs.
* `Invocation.ofArguments`: what some arguments ask for.
* `UsageError`: what is wrong with them.
-/

namespace FundLedger

/-- What the program can be told to do. -/
inductive Command
  | recalculate (budget : BudgetId)
  | recalculateYear (fiscalYear : FiscalYearId)
  | groupSummaries (fiscalYear : FiscalYearId) (group : Option GroupId)
  | expenseClasses (scope : ExpenseClassScope) (fiscalYear : FiscalYearId)
deriving DecidableEq

/-- The operation of a command; its result is a report. -/
def Command.report : Command → Operation Json
  | recalculate budget => return JsonForm.encode (← Operation.recalculateBudget budget)
  | recalculateYear fiscalYear => return JsonForm.encode (← Operation.recalculateFiscalYear fiscalYear)
  | groupSummaries fiscalYear group =>
    let query := group.elim (byFiscalYear fiscalYear) fun group => linksOfGroup group fiscalYear
    return JsonForm.encode (← Operation.groupSummaries query)
  | expenseClasses scope fiscalYear => return JsonForm.encode (← Operation.expenseClassTotals scope fiscalYear)

/-- What is wrong with some arguments. -/
inductive UsageError
  | missingCommand
  | unknownCommand (argument : String)
  | unknownArgument (argument : String)
  | missingValue (option : String)
  | repeated (option : String)
  | noIdentifier (option value : String)
  | missingOption (option : String)
  /-- Both a budget and a group. -/
  | conflicting
deriving DecidableEq

/-- The text for readers. -/
def UsageError.message : UsageError → String
  | missingCommand => "a command is required: recalculate, recalculate-year, group-summaries or expense-classes"
  | unknownCommand argument => "unrecognized command '" ++ argument ++ "'"
  | unknownArgument argument => "unexpected argument '" ++ argument ++ "'"
  | missingValue option => "a value is required for '--" ++ option ++ "'"
  | repeated option => "the argument '--" ++ option ++ "' cannot be used more than once"
  | noIdentifier option value => "invalid value '" ++ value ++ "' for '--" ++ option ++ "'"
  | missingOption option => "the argument '--" ++ option ++ "' is required"
  | conflicting => "the argument '--budget' cannot be used with '--group'"

/-- What some arguments ask for. -/
inductive Invocation
  | run (command : Command)
  | version
  | help
deriving DecidableEq

namespace Invocation

/-- The commands with the options that each of them takes. -/
def commands : List (String × List String) :=
  [("recalculate", ["budget"]), ("recalculate-year", ["fiscal-year"]),
   ("group-summaries", ["fiscal-year", "group"]), ("expense-classes", ["budget", "group", "fiscal-year"])]

/-- Identifiers given to options. -/
abbrev Options : Type := List (String × Uuid)

/-- The identifier given to an option. -/
def option? {kind : IdKind} (given : Options) (option : String) : Option (RecordId kind) :=
  (given.find? fun o => o.1 == option).map fun o => ⟨o.2⟩

/-- The identifier given to an option that has to be given. -/
def option {kind : IdKind} (given : Options) (name : String) : Except UsageError (RecordId kind) :=
  match option? given name with
  | none => .error (.missingOption name)
  | some id => .ok id

/-- One more option, unless it was given before or its value is no identifier. -/
def addOption (known : List String) (given : Options) (option value : String) : Except UsageError Options :=
  if !known.contains option then .error (.unknownArgument ("--" ++ option))
  else
    match Uuid.ofText? value with
    | none => .error (.noIdentifier option value)
    | some id => if given.any fun o => o.1 == option then .error (.repeated option) else .ok (given ++ [(option, id)])

/-- What asks for help. -/
def isHelp (argument : String) : Bool := argument == "--help" || argument.startsWith "-h"

/-- Reads the options of a command; `none` stands for a request for help. -/
def readOptions (known : List String) (given : Options) : List String → Except UsageError (Option Options)
  | [] => .ok (some given)
  | argument :: rest =>
    match argument.toList with
    | ['-', '-'] =>
      match rest with
      | [] => .ok (some given)
      | extra :: _ => .error (.unknownArgument extra)
    | '-' :: '-' :: name =>
      if name = "help".toList then .ok none
      else
        let option := String.ofList (name.takeWhile (· != '='))
        match name.dropWhile (· != '=') with
        | _ :: value => do
          let given ← addOption known given option (String.ofList value)
          readOptions known given rest
        | [] =>
          if !known.contains option then .error (.unknownArgument argument)
          else
            match rest with
            | [] => .error (.missingValue option)
            | value :: rest =>
              if value.startsWith "-" then .error (.missingValue option)
              else do
                let given ← addOption known given option value
                readOptions known given rest
    | _ => if isHelp argument then .ok none else .error (.unknownArgument argument)

/-- The command with a name and some options. -/
def commandOf (name : String) (given : Options) : Except UsageError Command :=
  match name with
  | "recalculate" => do return .recalculate (← option given "budget")
  | "recalculate-year" => do return .recalculateYear (← option given "fiscal-year")
  | "group-summaries" => do return .groupSummaries (← option given "fiscal-year") (option? given "group")
  | "expense-classes" =>
    match option? given "budget", option? given "group" with
    | some _, some _ => .error .conflicting
    | some budget, none => do return .expenseClasses (.budget budget) (← option given "fiscal-year")
    | none, some group => do return .expenseClasses (.group group) (← option given "fiscal-year")
    | none, none => .error (.missingOption "budget")
  | _ => .error (.unknownCommand name)

/-- What some arguments ask for.  A request for the version counts only in front of a command. -/
def ofArguments : List String → Except UsageError Invocation
  | [] => .error .missingCommand
  | first :: rest =>
    if first == "--version" || first.startsWith "-V" then .ok .version
    else if isHelp first then .ok .help
    else if first == "help" then
      match rest with
      | [] => .ok .help
      | name :: others =>
        if ((commands.map (·.1)) ++ ["help"]).contains name && others.isEmpty then .ok .help
        else .error (.unknownCommand name)
    else
      match commands.find? fun c => c.1 == first with
      | none => .error (.unknownCommand first)
      | some (name, known) =>
        match readOptions known [] rest with
        | .error e => .error e
        | .ok none => .ok .help
        | .ok (some given) => (commandOf name given).map Invocation.run

end Invocation

/-- The name and version of the program. -/
def versionText : String := "acqledger-reconcile 0.1.0"

/-- What the program can be asked, for readers. -/
def helpText : String :=
  "Recalculate and summarize acquisitions budgets\n\n" ++
  "Usage: acqledger-reconcile <COMMAND>\n\n" ++
  "Commands:\n" ++
  "  recalculate --budget <ID>\n" ++
  "  recalculate-year --fiscal-year <ID>\n" ++
  "  group-summaries --fiscal-year <ID> [--group <ID>]\n" ++
  "  expense-classes (--budget <ID> | --group <ID>) --fiscal-year <ID>"

end FundLedger
